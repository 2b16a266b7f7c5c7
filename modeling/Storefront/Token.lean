/-
Access tokens.

A token is three segments in base sixty-four with dots between them: a header that names
the algorithm, the claims, and the keyed digest of the two as they are written.  The first
dot ends the header and the last one starts the digest.  Claims count only while the digest
fits, the header names the one algorithm that is configured, and the clock is between the
two times that the claims may set.

Most flaws of a token make it invalid and nothing else.  A few are not expected by whoever
checks it and break the request down: `Breakdown`.

A token gives access when its claims say that it is one for access and its subject names
a customer.
-/
import Storefront.Codec.Base64Url
import Storefront.Codec.Utf8
import Storefront.Hash.Hmac
import Storefront.Json.Reader
import Storefront.Json.Writer
import Storefront.Settings
import Storefront.Text.Split
import Storefront.Timestamp
import Storefront.Uuid

namespace Storefront.Token

open Codec Text

/-- The claims of a token. -/
abbrev Claims := Json.Members

/-! ### Issuing -/

/-- The header of the tokens that are issued. -/
def header : Json :=
  .record [("alg", .text "HS256"), ("typ", .text "JWT")]

/-- A value as a segment. -/
def segment (v : Json) : List Char :=
  toBase64 (utf8 (v.render .compact))

/-- The digest of a text under a secret. -/
def digest (secret : String) (signed : List Char) : List UInt8 :=
  Hash.hmac (utf8 secret) (utf8 (String.ofList signed))

/-- Why a token has no time to expire at. -/
inductive ExpiryError where
  /-- The clock is at no moment of the calendar. -/
  | now (e : CalendarError)
  /-- The life of a token has more days than are counted. -/
  | days (n : Int)
  /-- The days in the life of a token do not fit into 32 bits. -/
  | daysSize
  /-- The token would expire outside the calendar. -/
  | outside
  deriving DecidableEq, Repr

/-- What is said of a token that has no time to expire at. -/
def ExpiryError.message : ExpiryError → String
  | now e => e.message
  | days n => "days=" ++ toString n ++ "; must have magnitude <= 999999999"
  | daysSize => "Python int too large to convert to C int"
  | outside => "date value out of range"

/-- Fails unless a second is in one of the years that are written with four digits. -/
def inCalendar (seconds : Int) : Except CalendarError Unit := do
  let date ← Date.ofSeconds seconds
  if date.isCommon then return () else throw (.year date.year)

/-- The seconds in the life of a token of so many minutes. -/
def lifetime (minutes : Int) : Except ExpiryError Int :=
  let days := minutes.fdiv 1440
  if days < -0x80000000 ∨ 0x80000000 ≤ days then .error .daysSize
  else if days < -999999999 ∨ 999999999 < days then .error (.days days)
  else .ok (60 * minutes)

/-- When a token that is issued now expires. -/
def expiry (s : Settings) (now : Int) : Except ExpiryError Int := do
  (inCalendar now).mapError .now
  let expires := now + (← lifetime s.tokenMinutes)
  match inCalendar expires with
  | .ok _ => return expires
  | .error _ => throw .outside

/-- The claims of a token for a subject that expires at a time. -/
def issuedClaims (subject : RawText) (expires : Int) : Claims :=
  [("sub", .text subject), ("type", .text "access"), ("exp", .int expires)]

/-- The token of a header and claims. -/
def sign (secret : String) (header : Json) (claims : Claims) : String :=
  let signed := segment header ++ '.' :: segment (.object claims)
  String.ofList (signed ++ '.' :: toBase64 (digest secret signed))

/-- A token for a subject. -/
def issue (s : Settings) (now : Int) (subject : RawText) : Except ExpiryError String := do
  return sign s.secret header (issuedClaims subject (← expiry s now))

/-! ### Flaws -/

/-- A flaw of a token that nobody expects. -/
inductive Breakdown where
  /-- Surrogates stand alone in the token, at an index and so many in a row. -/
  | surrogates (first : Fin 0x800) (index count : Nat)
  /-- The header or the claims are nested deeper than is read. -/
  | nested (c : Json.Container)
  /-- A claim that sets a time is of a kind that has no integer. -/
  | timeKind (kind : String)
  /-- A claim sets an infinite time. -/
  | infiniteTime
  deriving DecidableEq, Repr

/-- What is wrong with a token. -/
inductive Flaw where
  | invalid
  | breakdown (b : Breakdown)
  deriving DecidableEq, Repr

/-- The word for a container in what is said about it. -/
def containerWord : Json.Container → String
  | .array => "array"
  | .object => "object"

/-- What is said of a flaw that nobody expects. -/
def Breakdown.message : Breakdown → String
  | surrogates first index count =>
    "'utf-8' codec can't encode character" ++
      (if count = 1 then
        " '" ++ String.ofList (Json.unicodeEscape (0xD800 + first.val)) ++ "' in position " ++
          toString index
      else "s in position " ++ toString index ++ "-" ++ toString (index + count - 1)) ++
      ": surrogates not allowed"
  | nested c =>
    "maximum recursion depth exceeded while decoding a JSON " ++ containerWord c ++
      " from a unicode string"
  | timeKind kind =>
    "int() argument must be a string, a bytes-like object or a real number, not '" ++ kind ++ "'"
  | infiniteTime => "cannot convert float infinity to integer"

/-- A result that is there, or else an invalid token. -/
def valid {α : Type} : Option α → Except Flaw α
  | some a => .ok a
  | none => .error .invalid

/-- Whether something holds, or else the token is invalid. -/
def require (holds : Bool) : Except Flaw Unit :=
  if holds then .ok () else .error .invalid

/-! ### Reading -/

/-- How many surrogates a text starts with. -/
def surrogateRun : RawText → Nat
  | .surrogate _ :: t => surrogateRun t + 1
  | _ => 0

/-- The first surrogates that stand alone in a text that starts at an index. -/
def surrogatesFrom? (index : Nat) : RawText → Option Breakdown
  | [] => none
  | .char _ :: t => surrogatesFrom? (index + 1) t
  | .surrogate k :: t => some (.surrogates k index (surrogateRun t + 1))

/-- The characters of a token. -/
def characters (token : RawText) : Except Flaw (List Char) :=
  match surrogatesFrom? 0 token with
  | some b => .error (.breakdown b)
  | none => valid token.chars?

/-- The header, the claims and the digest as they are written, of which only the claims may
have dots in them. -/
def segments? (token : List Char) : Option (List Char × List Char × List Char) :=
  match split '.' token with
  | header :: rest@(_ :: _ :: _) =>
    some (header, ['.'].intercalate rest.dropLast, rest.getLastD [])
  | _ => none

/-- The members of the object that some bytes write. -/
def object (bytes : List UInt8) : Except Flaw Claims := do
  let text ← valid (ofUtf8? bytes)
  match Json.read (some .standard) text with
  | .ok (.object members) => return members
  | .error (.nested c) => throw (.breakdown (.nested c))
  | _ => throw .invalid

/-- Whether a header names the one algorithm in use. -/
def namesAlgorithm (header : Claims) : Bool :=
  match header.get? "alg" with
  | some (.text name) => name == RawText.ofString "HS256"
  | _ => false

/-- The claims of a token whose digest fits, at any time. -/
def signed (secret : String) (token : RawText) : Except Flaw Claims := do
  let (h, p, s) ← valid (segments? (← characters token))
  let header ← object (← valid (ofBase64? h))
  let claims ← valid (ofBase64? p)
  let signature ← valid (ofBase64? s)
  require (namesAlgorithm header)
  require (signature == digest secret (h ++ '.' :: p))
  object claims

/-! ### Times and other claims -/

/-- The time that a claim sets: a number, cut to its integer part, or a text that spells
one. -/
def time : Json → Except Flaw Int
  | .int n => .ok n
  | .bool b => .ok (if b then 1 else 0)
  | .real (.infinite _) => .error (.breakdown .infiniteTime)
  | .real x => valid x.truncate?
  | .text s => valid (s.chars?.bind claimedInteger?)
  | .null => .error (.breakdown (.timeKind "NoneType"))
  | .array _ => .error (.breakdown (.timeKind "list"))
  | .object _ => .error (.breakdown (.timeKind "dict"))

/-- A claim that is there sets a time, which has a property. -/
def timeHolds (claims : Claims) (name : String) (p : Int → Bool) : Except Flaw Unit :=
  match claims.get? name with
  | none => .ok ()
  | some v => time v >>= fun t => require (p t)

/-- A claim that is there has a property. -/
def ifPresent (claims : Claims) (name : String) (p : Json → Bool) : Bool :=
  (claims.get? name).all p

/-- Whether a value is a text. -/
def isText : Json → Bool
  | .text _ => true
  | _ => false

/-- Passes when claims count at a time.  Nobody is named as their audience and no other token
is tied to them, so claims that speak of either do not count. -/
def admission (now : Int) (claims : Claims) : Except Flaw Unit := do
  timeHolds claims "iat" fun _ => true
  timeHolds claims "nbf" (· ≤ now)
  timeHolds claims "exp" (now ≤ ·)
  require <|
    ifPresent claims "aud" (fun _ => false) && ifPresent claims "sub" isText &&
    ifPresent claims "jti" isText && ifPresent claims "at_hash" fun _ => false

/-- The claims of a token that counts now. -/
def claims (s : Settings) (now : Int) (token : RawText) : Except Flaw Claims := do
  let claims ← signed s.secret token
  admission now claims
  return claims

/-- The claims of a token, if it counts now. -/
def claims? (s : Settings) (now : Int) (token : RawText) : Option Claims :=
  (claims s now token).toOption

/-! ### Access -/

/-- Why a request is not let in. -/
inductive AccessError where
  | notAuthenticated
  | invalidToken
  | invalidPayload
  | breakdown (b : Breakdown)
  deriving DecidableEq, Repr

/-- What a customer who is not let in is told. -/
def AccessError.message : AccessError → String
  | notAuthenticated => "Not authenticated"
  | invalidToken => "Invalid token"
  | invalidPayload => "Invalid token payload"
  | breakdown b => b.message

/-- What a flaw is for a customer who wants to be let in. -/
def Flaw.accessError : Flaw → AccessError
  | invalid => .invalidToken
  | breakdown b => .breakdown b

/-- The subject of claims; what stands for it when there is none names nobody. -/
def subject (claims : Claims) : RawText :=
  match claims.get? "sub" with
  | some (.text s) => s
  | _ => "None"

/-- Whether claims are those of a token for access. -/
def isForAccess (claims : Claims) : Bool :=
  match claims.get? "type" with
  | some (.text kind) => kind == RawText.ofString "access"
  | _ => false

/-- The customer whom a token gives access. -/
def customer (s : Settings) (now : Int) (token : RawText) : Except AccessError Uuid := do
  let claims ← (claims s now token).mapError Flaw.accessError
  if isForAccess claims then
    match (subject claims).string?.bind Uuid.ofSubject? with
    | some user => return user
    | none => throw .invalidPayload
  else throw .invalidToken

end Storefront.Token
