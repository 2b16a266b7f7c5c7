/-
Changing a cart.

A mutation reads before it writes: the customer has to pass moderation, an add or an
update needs a variant that can be sold in that quantity, and the row has to be in a
state that allows the step.  The checks come in this order, and the first that fails
decides.  What is left to do is one change, made and committed as a whole.

A removal looks at no snapshot, so a variant that is no longer sold can still be taken
out of a cart.  Clearing looks at no row: every row of the customer becomes a tombstone.

A new row can violate a constraint when it is sent, and every such error is taken for the one
on its customer and variant: another request has added the row in the meantime.
-/
import Storefront.Cart.Transaction

namespace Storefront

/-- A request to change a cart. -/
inductive Mutation where
  | add (user product variant : Uuid) (quantity : Int)
  | update (user variant : Uuid) (quantity : Int)
  | remove (user variant : Uuid)
  | clear (user : Uuid)
  deriving DecidableEq, Repr

/-- The largest quantity of one row. -/
def maxQuantity : Int := 2147483647

/-- Whether a quantity can be asked for. -/
def inRange (quantity : Int) : Bool :=
  0 < quantity && quantity ≤ maxQuantity

/-- What is said of a quantity that cannot be asked for. -/
def rangeReason : String :=
  "must be between 1 and 2147483647"

/-- A change that is ready to be made, with the status to report. -/
structure Decision where
  change : Change
  status : Status
  deriving DecidableEq, Repr

/-! ### Checks -/

/-- The customer, who has to exist. -/
def findCustomer (user : Uuid) : Plan Customer := do
  match ← Plan.query (.customer user) with
  | none => Plan.refuse (.notFound "user")
  | some c => return c

/-- The customer exists and passes moderation. -/
def eligibleCustomer (user : Uuid) : Plan Unit := do
  Plan.pass (← findCustomer user).verdict

/-- The snapshot of a variant, of a given product if one is asked for, which has to exist. -/
def findSnapshot (variant : Uuid) (product : Option Uuid) : Plan Snapshot := do
  match ← Plan.query (.snapshot variant product) with
  | none => Plan.refuse (.notFound "variant snapshot")
  | some x => return x

/-- The variant exists, passes moderation and is in stock in a quantity. -/
def sellableVariant (variant : Uuid) (product : Option Uuid) (quantity : Int) : Plan Unit := do
  let x ← findSnapshot variant product
  Plan.pass x.verdict
  if x.variant.stock < quantity then
    Plan.refuse (.validation "required_quantity" "not enough stock available")

/-- The quantity is in range. -/
def checkedQuantity (quantity : Int) : Plan Unit :=
  if inRange quantity then pure () else Plan.refuse (.validation "required_quantity" rangeReason)

/-- The step is legal for the row as it is read. -/
def decideStep (user variant : Uuid) (step : Step) : Plan Decision := do
  let row ← Plan.query (.row user variant)
  match step.take (row.map (·.holding)) with
  | (.ok status, after) => return ⟨.between user variant row after, status⟩
  | (.error e, _) => Plan.refuse e

namespace Mutation

/-- The customer whose cart is changed. -/
def user : Mutation → Uuid
  | add user .. | update user .. | remove user _ | clear user => user

/-- The variant that is named. -/
def variant? : Mutation → Option Uuid
  | add _ _ variant _ | update _ variant _ | remove _ variant => some variant
  | clear _ => none

/-- The quantity that is asked for. -/
def quantity? : Mutation → Option Int
  | add _ _ _ quantity | update _ _ quantity => some quantity
  | remove .. | clear _ => none

/-- What is done to a row. -/
def step : Mutation → Step
  | add _ _ _ quantity => .add quantity
  | update _ _ quantity => .update quantity
  | remove .. => .remove
  | clear _ => .clear

/-- What has to hold before a row is looked at. -/
def checks : Mutation → Plan Unit
  | add user product variant quantity => do
    checkedQuantity quantity
    eligibleCustomer user
    sellableVariant variant (some product) quantity
  | update user variant quantity => do
    checkedQuantity quantity
    eligibleCustomer user
    sellableVariant variant none quantity
  | remove user _ | clear user => eligibleCustomer user

/-- The change to make once the checks are passed. -/
def decision (m : Mutation) : Plan Decision :=
  match m.variant? with
  | some variant => decideStep m.user variant m.step
  | none => pure ⟨.clear m.user, .cleared⟩

/-- What a mutation reads and decides before it writes. -/
def plan (m : Mutation) : Plan Decision := do
  m.checks
  m.decision

end Mutation

/-! ### Writing -/

/-- A change that was made. -/
structure Written where
  status : Status
  /-- How many rows the change met. -/
  rows : Nat
  deriving DecidableEq, Repr

/-- How a change reaches the database: clearing sends one more statement, and the other
changes are sent as pending rows. -/
def Change.reach (change : Change) (c : Conditions) (sent : Nat) : Except Failure Unit :=
  match change with
  | .clear _ => c.reach .statement sent
  | _ => c.reach .flush 0

/-- What is made of a failure to send a new row: whichever constraint the row violates is taken
for the one on its customer and variant. -/
def Failure.ofInsert : Failure → Failure
  | database .integrity _ => refused (.error RowState.alreadyInCart)
  | failure => failure

/-- What is made of a failure to send a change. -/
def Change.caught : Change → Failure → Failure
  | insert .., f => f.ofInsert
  | _, f => f

/-- Makes the change of a decision. -/
def Decision.write (d : Decision) (c : Conditions) (sent : Nat) : Work Written := fun t =>
  match d.change.reach c sent with
  | .error f => (.error (d.change.caught f), t)
  | .ok _ =>
    match t.write c.givens d.change with
    | .error e => (.error (.refused (.error e)), t)
    | .ok (t, rows) => (.ok ⟨d.status, rows⟩, t)

namespace Mutation

/-- What a mutation does before it commits. -/
def work (m : Mutation) (c : Conditions) : Work Written := fun t =>
  match m.plan.run c (c.view t.pending) 0 with
  | .error f => (.error f, t)
  | .ok (d, sent) => d.write c sent t

/-- Runs a mutation as one unit of work in a session. -/
def attempt (m : Mutation) (c : Conditions) : Work Written :=
  unitOfWork c (m.work c)

/-- Runs a mutation in a session of its own, with the tables that last. -/
def run (m : Mutation) (c : Conditions) (s : Store) : Except Failure Written × Store :=
  let (result, t) := m.attempt c (.start s)
  (result, t.durable)

theorem durable_work (m : Mutation) (c : Conditions) (t : Transaction) :
    (m.work c t).2.durable = t.durable := by
  unfold work
  split
  · rfl
  · unfold Decision.write
    split
    · rfl
    · split
      · rfl
      · next h => exact Transaction.durable_write h

/-- A mutation that fails leaves a session that has written nothing. -/
theorem attempt_of_error {m : Mutation} {c : Conditions} {s : Store} {f : Failure}
    (h : (m.attempt c (.start s)).1 = .error f) : (m.attempt c (.start s)).2 = .start s :=
  unitOfWork_of_error (m.durable_work c (.start s)) h

/-- With nothing in the way, a mutation evaluates its plan and makes the change. -/
theorem run_calm (m : Mutation) (givens : Givens) (s : Store) :
    m.run (.calm givens) s =
      match m.plan.eval s.view with
      | .error r => (.error (.refused r), s)
      | .ok d =>
        match s.apply givens d.change with
        | .error e => (.error (.refused (.error e)), s)
        | .ok (s', rows) => (.ok ⟨d.status, rows⟩, s') := by
  have hplan := Plan.run_of_fault_eq_none (c := .calm givens) rfl s.view 0 m.plan
  cases heval : m.plan.eval s.view with
  | error r =>
    cases hrun : m.plan.run (.calm givens) s.view 0 with
    | ok d => simp [hrun, heval, Except.map] at hplan
    | error f =>
      simp only [hrun, heval, Except.map, mapError_error, Except.error.injEq] at hplan
      simp [run, attempt, unitOfWork, work, Transaction.start, Transaction.rollback, hrun, hplan,
        Failure.ofUnitOfWork]
  | ok d =>
    cases hrun : m.plan.run (.calm givens) s.view 0 with
    | error f => simp [hrun, heval, Except.map] at hplan
    | ok decided =>
      simp only [hrun, heval, Except.map, mapError_ok, Except.ok.injEq] at hplan
      have hreach : d.change.reach (.calm givens) decided.2 = .ok () := by
        cases d.change <;> rfl
      have hgivens : (Conditions.calm givens).givens = givens := rfl
      cases happly : s.apply givens d.change <;>
        simp [run, attempt, unitOfWork, work, Transaction.start, Transaction.rollback,
          Transaction.commit, Transaction.write, hrun, hplan, hreach, hgivens, happly,
          Decision.write, Except.map, Failure.ofUnitOfWork]

end Mutation

end Storefront
