/-
Requests as plans.

A plan is the reads of a request in order, each followed by what the request makes of
the answer, up to its decision or its refusal.  It says nothing about where the answers
come from, so one plan serves three ways of running it: against the tables as they are,
against a view that lags behind them, and one read at a time while other requests commit
in between.

A read is one statement sent to the database, unless it is answered by a view that lags
behind.  Statements, the sending of pending rows and commits can each be made to fail.
-/
import Storefront.Cart.Store
import Storefront.Moderation

namespace Storefront

/-! ### Refusals and failures -/

/-- Why a request is turned down. -/
inductive Refusal where
  /-- A moderation gate did not let it pass. -/
  | gate (r : Rejection)
  | error (e : ServiceError)
  deriving DecidableEq, Repr

/-- The error that the customer is shown. -/
def Refusal.shown : Refusal → ServiceError
  | gate r => r.error
  | error e => e

/-- The classes of database errors that are told apart. -/
inductive ErrorClass where
  /-- A constraint of a table was violated. -/
  | integrity
  | other
  deriving DecidableEq, Repr

/-- Why a request has no result. -/
inductive Failure where
  | refused (r : Refusal)
  /-- The database failed with an error of a class and a message. -/
  | database (kind : ErrorClass) (message : RawText)
  /-- Something else failed with a message. -/
  | crash (message : RawText)
  deriving DecidableEq, Repr

/-- The error that the customer is shown, if the failure is one of the service. -/
def Failure.shown? : Failure → Option ServiceError
  | refused r => some r.shown
  | database .. | crash _ => none

/-! ### Trouble with the database -/

/-- The sorts of database calls. -/
inductive CallSort where
  /-- One statement. -/
  | statement
  /-- Pending rows are sent. -/
  | flush
  | commit
  deriving DecidableEq, Repr

/-- A fault of all database calls of a sort after the first few. -/
structure Fault where
  sort : CallSort
  spared : Nat
  failure : Failure
  deriving DecidableEq, Repr

/-- What surrounds a request. -/
structure Conditions where
  /-- Reads of cart rows find nothing, as if other requests had not committed yet. -/
  staleRows : Bool
  fault : Option Fault
  givens : Givens

namespace Conditions

/-- Nothing is in the way. -/
def calm (givens : Givens) : Conditions := ⟨false, none, givens⟩

/-- The outcome of a database call, the given number of calls of its sort after the first. -/
def reach (c : Conditions) (sort : CallSort) (before : Nat) : Except Failure Unit :=
  match c.fault with
  | none => .ok ()
  | some f => if f.sort = sort ∧ f.spared ≤ before then .error f.failure else .ok ()

end Conditions

/-! ### Reads -/

/-- A question to the tables. -/
inductive Query where
  | customer (id : Uuid)
  | snapshot (variant : Uuid) (product : Option Uuid)
  | row (user variant : Uuid)
  | activeIds (user : Uuid)
  | lines (user : Uuid) (variants : List Uuid)
  deriving DecidableEq, Repr

/-- What a question is answered with. -/
abbrev Query.Answer : Query → Type
  | customer _ => Option Customer
  | snapshot .. => Option Snapshot
  | row .. => Option CartRow
  | activeIds _ => List Uuid
  | lines .. => List CartLine

/-- An answer to every question. -/
abbrev View := (q : Query) → q.Answer

/-- What the tables answer. -/
def Store.view (s : Store) : View
  | .customer id => s.customer? id
  | .snapshot variant product => s.snapshot? variant product
  | .row user variant => s.row? user variant
  | .activeIds user => s.activeIds user
  | .lines user variants => s.lines user variants

/-- What a request sees of the tables. -/
def Conditions.view (c : Conditions) (s : Store) : View
  | .row user variant => if c.staleRows then none else s.row? user variant
  | q => s.view q

/-- Whether a question is sent to the database. -/
def Conditions.sends (c : Conditions) : Query → Bool
  | .row .. => !c.staleRows
  | _ => true

@[simp]
theorem Conditions.reach_calm (givens : Givens) (sort : CallSort) (before : Nat) :
    (calm givens).reach sort before = .ok () := rfl

@[simp]
theorem Conditions.view_calm (givens : Givens) (s : Store) : (calm givens).view s = s.view := by
  funext q
  cases q <;> rfl

@[simp]
theorem mapError_ok {ε ε' α : Type} (f : ε → ε') (a : α) :
    (Except.ok a : Except ε α).mapError f = .ok a := rfl

@[simp]
theorem mapError_error {ε ε' α : Type} (f : ε → ε') (e : ε) :
    (Except.error e : Except ε α).mapError f = .error (f e) := rfl

/-! ### Plans -/

/-- A request as its reads and what it makes of the answers. -/
inductive Plan (α : Type) where
  | decided (a : α)
  | refused (r : Refusal)
  | ask (q : Query) (next : q.Answer → Plan α)

namespace Plan

variable {α β : Type}

/-- Goes on with what a plan decides. -/
def bind : Plan α → (α → Plan β) → Plan β
  | decided a, f => f a
  | refused r, _ => refused r
  | ask q next, f => ask q fun answer => (next answer).bind f

instance : Monad Plan where
  pure := decided
  bind := bind

/-- A plan of one read. -/
def query (q : Query) : Plan q.Answer :=
  ask q decided

/-- A plan that is turned down with an error. -/
def refuse (e : ServiceError) : Plan α :=
  refused (.error e)

/-- A plan that passes a moderation gate. -/
def pass : Verdict → Plan Unit
  | .eligible => decided ()
  | .rejected r => refused (.gate r)

/-- The decision against a view that stays as it is. -/
def eval (view : View) : Plan α → Except Refusal α
  | decided a => .ok a
  | refused r => .error r
  | ask q next => (next (view q)).eval view

/-- The decision when statements may fail, with the number of statements sent. -/
def run (c : Conditions) (view : View) : Nat → Plan α → Except Failure (α × Nat)
  | sent, decided a => .ok (a, sent)
  | _, refused r => .error (.refused r)
  | sent, ask q next =>
    if c.sends q then
      match c.reach .statement sent with
      | .ok _ => run c view (sent + 1) (next (view q))
      | .error failure => .error failure
    else run c view sent (next (view q))

/-- Running without a fault is evaluating. -/
theorem run_of_fault_eq_none {c : Conditions} (h : c.fault = none) (view : View) (sent : Nat)
    (p : Plan α) :
    (p.run c view sent).map Prod.fst = (p.eval view).mapError .refused := by
  induction p generalizing sent with
  | decided a => rfl
  | refused r => rfl
  | ask q next ih =>
    cases hq : c.sends q with
    | true => simpa [run, eval, Conditions.reach, h, hq] using ih (view q) (sent + 1)
    | false => simpa [run, eval, hq] using ih (view q) sent

theorem eval_bind (view : View) (p : Plan α) (f : α → Plan β) :
    (p.bind f).eval view = (p.eval view).bind fun a => (f a).eval view := by
  induction p with
  | decided a => rfl
  | refused r => rfl
  | ask q next ih => exact ih (view q)

end Plan

end Storefront
