/-
Events.

A request leaves events behind: one for every mutation, checkout and rejection at a gate,
and over HTTP one for the request itself.  The first three are counted.  An event is a
value of its own; how it is logged and what it is counted as are functions of it.
-/
import Storefront.Cart.Aggregate
import Storefront.Counters
import Storefront.Log.Record

namespace Storefront

/-- How much a cart event is about. -/
inductive Extent where
  | none
  | quantity (n : Int)
  | rows (n : Nat)
  deriving DecidableEq, Repr

/-- Something that happened. -/
inductive Event where
  | cart (status : Status) (user : Uuid) (variant : Option Uuid) (extent : Extent)
  | checkout (user session : Uuid) (source : Source) (valid invalid : Nat) (subtotal : Int)
  | gate (r : Rejection)
  /-- A request failed for a reason that is not the customer's. -/
  | serviceFailure (e : ServiceError) (path : String)
  /-- A request over HTTP was replied to, after so many milliseconds. -/
  | request (path method : String) (status duration : Nat)
  deriving DecidableEq, Repr

namespace Event

/-- The counter that an event increments. -/
def counter? : Event → Option RawText
  | cart status .. => some status.text
  | checkout _ _ source .. => some (Counters.checkoutKey source.text)
  | gate r => some (Counters.gateKey r.counted)
  | serviceFailure .. | request .. => none

/-- The counters after an event. -/
def count (c : Counters) (e : Event) : Counters :=
  match e.counter? with
  | some key => c.increment key
  | none => c

/-- The logger that an event is logged to. -/
def logger : Event → String
  | cart .. => "tanmore.services.cart"
  | checkout .. => "tanmore.services.checkout"
  | gate _ => "tanmore.services.moderation"
  | serviceFailure .. => "tanmore.main"
  | request .. => "tanmore.request"

/-- The level that an event is logged at. -/
def level : Event → Int
  | cart .. | checkout .. | request .. => Log.info
  | gate _ => Log.warning
  | serviceFailure .. => Log.error

/-- The message of an event. -/
def message : Event → String
  | cart status .. => status.text
  | checkout .. => "checkout_session_created"
  | gate _ => "moderation_gate_rejected"
  | serviceFailure .. => "domain_error"
  | request .. => "request"

/-- A text among extras, or null when there is none. -/
def textOrNull : Option RawText → Log.Value
  | none => .null
  | some t => .text t

/-- The extent of a cart event among its extras. -/
def extentExtras : Extent → List (String × Log.Value)
  | .none => []
  | .quantity n => [("quantity", .number n)]
  | .rows n => [("rows", .number n)]

/-- The extras of an event. -/
def extras : Event → List (String × Log.Value)
  | cart status user variant extent =>
    [("customer_id", .text user.text), ("variant_id", textOrNull (variant.map (·.text))),
     ("status", .text status.text)] ++ extentExtras extent
  | checkout user session source valid invalid subtotal =>
    [("customer_id", .text user.text), ("checkout_session_id", .text session.text),
     ("source", .text source.text), ("valid", .number valid), ("invalid", .number invalid),
     ("subtotal", .number subtotal)]
  | gate r => [("subject", textOrNull r.subject), ("reason", textOrNull r.reason)]
  | serviceFailure e path =>
    [("code", .text e.code), ("error", .text e.message), ("path", .text path)]
  | request path method status duration =>
    [("path", .text path), ("method", .text method), ("status_code", .number status),
     ("duration_ms", .number duration)]

/-- The log record of an event. -/
def record (e : Event) (created : Timestamp) : Log.Record where
  logger := e.logger
  level := e.level
  template := e.message
  args := []
  extras := e.extras.map fun x => (RawText.ofString x.1, x.2)
  created := created
  incident := none

/-- An event as one object of the log. -/
def payload (e : Event) (created : Timestamp) (requestId : String) :
    Except CalendarError Json.Members := do
  return (e.record created).payload (← created.isoText) e.message (.text requestId)

end Event

end Storefront
