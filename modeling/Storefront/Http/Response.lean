/-
Responses over HTTP.

Every request that the service gets through leaves an event of its own, after the events
of its service.  One that breaks down on the way is answered in plain text, without the
id of the request and without that event.

The problems of an input are reported together with what was sent, so a report breaks down
when what was sent cannot be written again: a number that is not finite, or a surrogate that
stands alone.
-/
import Storefront.Cart.Document
import Storefront.Http.Admission
import Storefront.Http.CrossOrigin

namespace Storefront.Http

/-- The body of a response. -/
inductive Content where
  | json (v : Json)
  | text (s : String)
  /-- No body, and the path at which to ask again. -/
  | redirect (path : String)

/-- A response. -/
structure Response where
  status : Nat
  content : Content
  /-- The id of the request. -/
  requestId : Option String

/-- The body that tells what went wrong. -/
def problemJson (detail : Json) (code : Option String) (field : Option RawText) : Json :=
  .record
    [("detail", detail), ("code", .ofText? (code.map RawText.ofString)), ("field", .ofText? field)]

/-- A response on its way out: what it says, or that there is nothing to say. -/
inductive Draft where
  | reply (status : Nat) (content : Content)
  | brokenDown

/-- Whether the name of a member keeps it out of reports. -/
def isHidden (name : RawText) : Bool :=
  (RawText.ofString "_sa").isPrefixOf name

/-- Whether what was sent can be reported. -/
def isReportable (p : Intake.Problem) : Bool :=
  (p.sent.without isHidden).isPortable

/-- A reply that tells what went wrong, outside the service. -/
def plainProblem (status : Nat) (detail : String) : Draft :=
  .reply status (.json (problemJson (.text detail) none none))

/-- What an objection is answered with. -/
def draftOfObjection : Objection → Draft
  | .notFound => plainProblem 404 "Not Found"
  | .movedTo path => .reply 307 (.redirect path)
  | .methodNotAllowed => plainProblem 405 "Method Not Allowed"
  | .unreadableBody => plainProblem 400 "There was an error parsing the body"
  | .noAccess (.breakdown _) => .brokenDown
  | .noAccess e => plainProblem 401 e.message
  | .problems ps =>
    if ps.all isReportable then
      .reply 422 <| .json <|
        problemJson (.array (ps.map Intake.Problem.json)) (some "validation_error") none
    else .brokenDown

/-- The body of a service error. -/
def errorJson (e : ServiceError) : Json :=
  problemJson (.text e.message) (some e.code) e.field?

/-- The status of an answer: a checkout creates something. -/
def answerStatus : Answer → Nat
  | .session _ => 201
  | _ => 200

/-- The id of a request: the one that it brings along, or else the one that it is given. -/
def Request.idOr (r : Request) (given : Uuid) : String :=
  r.id?.getD given.text

/-- What a failure is answered with. -/
def draftOfFailure (f : Failure) : Draft :=
  match f.shown? with
  | some e => .reply e.status (.json (errorJson e))
  | none => .brokenDown

/-- The event of an error that is not the customer's. -/
def failureEvents (path : String) (f : Failure) : List Event :=
  match f.shown? with
  | some e => if 500 ≤ e.status then [.serviceFailure e path] else []
  | none => []

/-- What an outcome is answered with. -/
def draftOfOutcome (o : Outcome Answer) : Draft :=
  match o.result with
  | .ok a => .reply (answerStatus a) (.json a.json)
  | .error f => draftOfFailure f

/-- The events of an outcome over HTTP. -/
def eventsOfOutcome (path : String) (o : Outcome Answer) : List Event :=
  o.events ++
    match o.result with
    | .ok _ => []
    | .error f => failureEvents path f

/-- What the shop makes of a request, with its events and the shop after it. -/
def draft (settings : Settings) (now : Int) (c : Conditions) (shop : Shop) (r : Request) :
    Draft × List Event × Shop :=
  match r.preflight? with
  | some p => (.reply p.status (.text p.answer), [], shop)
  | none =>
    match r.wish settings now with
    | .error o => (draftOfObjection o, [], shop)
    | .ok .health => (.reply 200 (.json (.record [("status", .text "ok")])), [], shop)
    | .ok .metrics => (.reply 200 (.json shop.counters.json), [], shop)
    | .ok (.call call) =>
      let (outcome, shop) := shop.call settings.maxCheckoutVariants c call
      (draftOfOutcome outcome, eventsOfOutcome r.shownPath outcome, shop)

/-- A content without its body. -/
def Content.head : Content → Content
  | redirect path => redirect path
  | _ => text ""

/-- The content of a reply; a request for the head alone gets no body. -/
def contentFor (method : String) (content : Content) : Content :=
  if method = "HEAD" then content.head else content

/-- Answers a request. -/
def serve (settings : Settings) (now : Int) (c : Conditions) (shop : Shop) (r : Request) :
    Response × List Event × Shop :=
  match draft settings now c shop r with
  | (.reply status content, events, shop) =>
    (⟨status, contentFor r.method content, some (r.idOr c.givens.request)⟩,
      events ++ [.request r.shownPath r.method status c.givens.duration], shop)
  | (.brokenDown, events, shop) => (⟨500, .text "Internal Server Error", none⟩, events, shop)

end Storefront.Http
