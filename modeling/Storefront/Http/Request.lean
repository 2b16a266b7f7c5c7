/-
Requests over HTTP.

A request names one of nine endpoints by its method and its path, and carries headers and
perhaps a body.  The path is percent-decoded before it is matched, and what follows a question
mark is no part of it.  A path with slashes at its end has no endpoint; the request is sent on
to the path without them if something is there.

A body is JSON only if the request says so: its media type is `application/json`, or one of
those that end in `+json`.
-/
import Storefront.Codec.Utf8
import Storefront.Text.Blank
import Storefront.Text.Digit
import Storefront.Text.Split

namespace Storefront.Http

open Text

/-- A request as it arrives. -/
structure Request where
  method : String
  target : String
  headers : List (String × String)
  /-- No bytes are no body. -/
  body : List UInt8
  deriving DecidableEq, Repr

namespace Request

/-- Bytes with every percent sign and two hexadecimal digits read as one byte. -/
def percentDecoded : List UInt8 → List UInt8
  | [] => []
  | b :: bs =>
    if b = 0x25 then
      match bs with
      | high :: low :: rest =>
        match hexDigit? (Char.ofUInt8 high), hexDigit? (Char.ofUInt8 low) with
        | some h, some l => UInt8.ofNat (h.val * 16 + l.val) :: percentDecoded rest
        | _, _ => b :: percentDecoded (high :: low :: rest)
      | rest => b :: percentDecoded rest
    else b :: percentDecoded bs

/-- The path that is asked for. -/
def path (r : Request) : String :=
  let raw := String.ofList (r.target.toList.takeWhile (· != '?'))
  String.ofList (Codec.repaired (percentDecoded (Codec.utf8 raw)))

/-- The path as it is reported: without line breaks and tabs, and with the characters that
would end it written in hexadecimal. -/
def shownPath (r : Request) : String :=
  String.ofList <| r.path.toList.flatMap fun c =>
    match c with
    | '\t' | '\n' | '\r' => []
    | '?' => ['%', '3', 'F']
    | '#' => ['%', '2', '3']
    | '\\' => ['%', '5', 'C']
    | c => [c]

/-- The value of a header, whose name may be written in any case. -/
def header? (r : Request) (name : String) : Option String :=
  (r.headers.find? fun h => h.1.toLower == name.toLower).map Prod.snd

/-- The credentials of a request that are borne by a scheme: the scheme ends at the first
blank, and something has to follow. -/
def bearer? (r : Request) : Option String := do
  let value ← r.header? "Authorization"
  let scheme := value.toList.takeWhile (· != ' ')
  let credentials := trim isBlank (value.toList.drop (scheme.length + 1))
  if (String.ofList scheme).toLower = "bearer" ∧ credentials ≠ [] then
    return String.ofList credentials
  else none

/-- The media type of the body: its kind and its format, in lower case. -/
def mediaType? (r : Request) : Option (String × String) := do
  let value ← r.header? "Content-Type"
  let mediaType := trim isBlank (value.toList.takeWhile (· != ';'))
  match split '/' mediaType with
  | [kind, format] => return ((String.ofList kind).toLower, (String.ofList format).toLower)
  | _ => none

/-- Whether the body is announced as JSON. -/
def announcesJson (r : Request) : Bool :=
  match r.mediaType? with
  | some ("application", format) => format == "json" || format.endsWith "+json"
  | _ => false

/-- The id that a request brings along. -/
def id? (r : Request) : Option String :=
  (r.header? "X-Request-ID").filter (· ≠ "")

end Request

/-! ### Endpoints -/

/-- What a request can be about. -/
inductive Endpoint where
  | health
  | metrics
  | showCart
  | clearCart
  | addItem
  | updateItem (variant : String)
  | removeItem (variant : String)
  | summary
  | checkout
  deriving DecidableEq, Repr

/-- Whether an endpoint takes a body. -/
def Endpoint.takesBody : Endpoint → Bool
  | addItem | updateItem _ | summary | checkout => true
  | _ => false

/-- The endpoints at the path of some segments, by method; none when nothing is there. -/
def fixedEndpoints : List String → List (String × Endpoint)
  | ["", "api", "v1", "health"] => [("GET", .health)]
  | ["", "api", "v1", "metrics"] => [("GET", .metrics)]
  | ["", "api", "v1", "cart"] => [("GET", .showCart), ("DELETE", .clearCart)]
  | ["", "api", "v1", "cart", "items"] => [("POST", .addItem)]
  | ["", "api", "v1", "cart", "summary"] => [("POST", .summary)]
  | ["", "api", "v1", "checkout"] => [("POST", .checkout)]
  | _ => []

/-- The segments of a path. -/
def segments (path : List Char) : List String :=
  (split '/' path).map String.ofList

/-- The path without a line feed at its end. -/
def withoutLineFeed (path : List Char) : List Char :=
  if path.getLast? = some '\n' then path.dropLast else path

/-- The endpoints at a path, by method; none when nothing is there.  A line feed may end a
path that names no variant. -/
def endpointsAt (path : String) : List (String × Endpoint) :=
  match segments path.toList with
  | ["", "api", "v1", "cart", "items", variant] =>
    if variant = "" then []
    else [("PATCH", .updateItem variant), ("DELETE", .removeItem variant)]
  | _ => fixedEndpoints (segments (withoutLineFeed path.toList))

/-- The path that a request for a path without endpoints is sent on to: the one without the
slashes at its end, when that is another path with endpoints. -/
def redirection? (path : String) : Option String :=
  let bare := String.ofList (trimRight (· == '/') path.toList)
  if bare ≠ path ∧ endpointsAt bare ≠ [] then some bare else none

end Storefront.Http
