/-
The shop.

Everything that outlives a request: the tables and the counters.  A request is answered or
fails, and leaves events; counters move with the events and with nothing else.  A request
that fails leaves the tables as they were.  A checkout is a bundle under an id that is drawn
for it; nothing of it is kept.
-/
import Storefront.Event

namespace Storefront

/-- The state between requests. -/
structure Shop where
  store : Store
  counters : Counters
  deriving DecidableEq, Repr

/-- A request to the services. -/
inductive Call where
  | mutate (m : Mutation)
  | list (user : Uuid)
  | summary (user : Uuid) (variants : List Uuid)
  | checkout (o : Order)
  deriving DecidableEq, Repr

/-- What a mutation is answered with. -/
structure CartReport where
  variant : Option Uuid
  quantity : Option Int
  status : Status
  deriving DecidableEq, Repr

/-- A checkout that was opened. -/
structure CheckoutSession where
  session : Uuid
  source : Source
  bundle : Bundle
  deriving DecidableEq, Repr

/-- What a request is answered with. -/
inductive Answer where
  | report (r : CartReport)
  | bundle (b : Bundle)
  | summary (s : Summary)
  | session (s : CheckoutSession)
  deriving DecidableEq, Repr

/-- An answer or a failure, with the events on the way to it. -/
structure Outcome (α : Type) where
  result : Except Failure α
  events : List Event

/-- Gives the answer of an outcome another form. -/
def Outcome.map {α β : Type} (f : α → β) (o : Outcome α) : Outcome β :=
  ⟨o.result.map f, o.events⟩

/-- The events of a failure: a rejection at a gate is one, other failures leave none. -/
def Failure.events : Failure → List Event
  | refused (.gate r) => [.gate r]
  | _ => []

namespace Mutation

/-- What a mutation is answered with. -/
def report (m : Mutation) (status : Status) : CartReport :=
  ⟨m.variant?, m.quantity?, status⟩

/-- How much the event of a mutation is about. -/
def extent (rows : Nat) : Mutation → Extent
  | add _ _ _ quantity | update _ _ quantity => .quantity quantity
  | remove .. => .none
  | clear _ => .rows rows

/-- The event of a mutation that was committed. -/
def event (m : Mutation) (done : Written) : Event :=
  .cart done.status m.user m.variant? (m.extent done.rows)

end Mutation

/-- The event of a checkout. -/
def CheckoutSession.event (s : CheckoutSession) (user : Uuid) : Event :=
  .checkout user s.session s.source s.bundle.count s.bundle.invalid.length s.bundle.subtotal

namespace Shop

/-- A shop with some tables, at its first request. -/
def opened (store : Store) : Shop := ⟨store, .zero⟩

/-- The shop with its counters moved by some events. -/
def record (s : Shop) (events : List Event) : Shop :=
  { s with counters := events.foldl Event.count s.counters }

/-- What a plan that only reads comes to, with its events. -/
def consult {α : Type} (s : Shop) (c : Conditions) (plan : Plan α) : Outcome α :=
  match plan.run c (c.view s.store) 0 with
  | .ok (a, _) => ⟨.ok a, []⟩
  | .error f => ⟨.error f, f.events⟩

/-- Answers a plan that only reads. -/
def read {α : Type} (s : Shop) (c : Conditions) (plan : Plan α) : Outcome α × Shop :=
  let outcome := s.consult c plan
  (outcome, s.record outcome.events)

/-- Answers a mutation. -/
def mutate (s : Shop) (c : Conditions) (m : Mutation) : Outcome CartReport × Shop :=
  match m.run c s.store with
  | (.ok done, store) =>
    let events := [m.event done]
    (⟨.ok (m.report done.status), events⟩, { s with store }.record events)
  | (.error f, store) => (⟨.error f, f.events⟩, { s with store }.record f.events)

/-- Answers a checkout with at most so many variants from a cart. -/
def checkout (s : Shop) (limit : Int) (c : Conditions) (o : Order) :
    Outcome CheckoutSession × Shop :=
  match (s.consult c (o.plan limit)) with
  | ⟨.ok bundle, _⟩ =>
    let opened : CheckoutSession := ⟨c.givens.session, o.source, bundle⟩
    let events := [opened.event o.user]
    (⟨.ok opened, events⟩, s.record events)
  | ⟨.error f, events⟩ => (⟨.error f, events⟩, s.record events)

/-- Answers a request. -/
def call (s : Shop) (limit : Int) (c : Conditions) : Call → Outcome Answer × Shop
  | .mutate m => (s.mutate c m).map (·.map .report) id
  | .list user => (s.read c (listCart user)).map (·.map .bundle) id
  | .summary user variants => (s.read c (summarize user variants)).map (·.map .summary) id
  | .checkout o => (s.checkout limit c o).map (·.map .session) id

end Shop

end Storefront
