/-
What stands between a request and a service.

A request is turned down by the first of these that applies: nothing is at its path, or
nothing for its method; its body is announced as JSON and is none; it bears no token that
gives access; its path or its body has problems, which are reported together.  Only then is
there a call, and the customer of the call is the one whom the token names.
-/
import Storefront.Codec.Encoding
import Storefront.Http.Request
import Storefront.Intake.Request
import Storefront.Shop
import Storefront.Token

namespace Storefront.Http

open Intake

/-- Why a request does not reach a service. -/
inductive Objection where
  | notFound
  /-- Nothing is at the path, but something at another one. -/
  | movedTo (path : String)
  | methodNotAllowed
  /-- The body has no encoding, or a number or a nesting that is not read. -/
  | unreadableBody
  | noAccess (e : Token.AccessError)
  | problems (ps : List Problem)

/-- What a request asks for. -/
inductive Wish where
  | health
  | metrics
  | call (c : Call)
  deriving DecidableEq, Repr

namespace Request

/-- The endpoint of a request. -/
def endpoint (r : Request) : Except Objection Endpoint :=
  let found := endpointsAt r.path
  match Keyed.get? r.method found with
  | some e => .ok e
  | none =>
    if found.isEmpty then .error ((redirection? r.path).elim .notFound .movedTo)
    else .error .methodNotAllowed

/-- The JSON of a body that is announced as JSON. -/
def parsed (bytes : List UInt8) : Except Objection Json :=
  match Codec.detected? bytes with
  | none => .error .unreadableBody
  | some text =>
    match Json.read (some .standard) text with
    | .ok v => .ok v
    | .error .malformed => .error (.problems [⟨.notJson, [.field "body"], .object []⟩])
    | .error .oversized | .error (.nested _) => .error .unreadableBody

/-- The value of a body, nothing when it is empty.  A body that is not announced as JSON is a
text. -/
def value (r : Request) : Except Objection (Option Json) :=
  if r.body.isEmpty then .ok none
  else if r.announcesJson then (parsed r.body).map some
  else .ok (some (.text (RawText.ofChars (Codec.repaired r.body))))

/-- The customer who asks. -/
def customer (r : Request) (s : Settings) (now : Int) : Except Objection Uuid :=
  match r.bearer? with
  | none => .error (.noAccess .notAuthenticated)
  | some token => (Token.customer s now token).mapError .noAccess

end Request

/-- Reads a body that has to be an object. -/
def readBody {α : Type} (read : Json → Checked α) (body : Option Json) : Checked α :=
  Checked.within (.field "body") <|
    match body with
    | none => .fail .missing .null
    | some (.object members) => read (.object members)
    | some v => .fail .notObjectBody v

/-- Reads the variant in a path. -/
def readVariant (variant : String) : Checked Uuid :=
  Checked.within (.field "path") (Checked.within (.field "variant_id") (readId (.text variant)))

/-- The call of a customer at an endpoint; there is none at the open ones. -/
def Endpoint.call (user : Uuid) (body : Option Json) : Endpoint → Checked Wish
  | health => .ok .health
  | metrics => .ok .metrics
  | showCart => .ok (.call (.list user))
  | clearCart => .ok (.call (.mutate (.clear user)))
  | addItem =>
    (readBody NewItem.read body).map fun r =>
      .call (.mutate (.add user r.product r.variant r.quantity))
  | updateItem variant =>
    .both (fun v (r : NewQuantity) => .call (.mutate (.update user v r.quantity)))
      (readVariant variant) (readBody NewQuantity.read body)
  | removeItem variant =>
    (readVariant variant).map fun v => .call (.mutate (.remove user v))
  | summary => (readBody Choice.read body).map fun r => .call (.summary user r.variants)
  | checkout =>
    (readBody CheckoutRequest.read body).map fun r => .call (.checkout (r.order user))

/-- What a request asks for, if it is let through. -/
def Request.wish (r : Request) (s : Settings) (now : Int) : Except Objection Wish := do
  match ← r.endpoint with
  | .health => return .health
  | .metrics => return .metrics
  | endpoint =>
    let body ← if endpoint.takesBody then r.value else pure none
    let user ← r.customer s now
    (endpoint.call user body).mapError .problems

end Storefront.Http
