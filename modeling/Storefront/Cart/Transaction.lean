/-
Units of work.

A request writes to tables of its own until it commits, and only a commit makes what it
has written last.  Its session may outlive a failure and commit something else later, so a
unit of work that fails, in a check, a write or the commit itself, has to give up what it has
written: `unitOfWork_of_error` says that the session is then as it was at the start.
-/
import Storefront.Cart.Plan

namespace Storefront

/-- The tables as they last, and as one request has written them. -/
structure Transaction where
  durable : Store
  pending : Store
  deriving DecidableEq, Repr

namespace Transaction

/-- A request that has written nothing. -/
def start (s : Store) : Transaction := ⟨s, s⟩

/-- Makes a change to the tables of the request, with the number of rows it met. -/
def write (t : Transaction) (givens : Givens) (change : Change) :
    Except ServiceError (Transaction × Nat) :=
  (t.pending.apply givens change).map fun done => ({ t with pending := done.1 }, done.2)

/-- Makes what was written last. -/
def commit (t : Transaction) : Transaction := ⟨t.pending, t.pending⟩

/-- Gives up what was written. -/
def rollback (t : Transaction) : Transaction := ⟨t.durable, t.durable⟩

theorem durable_write {t u : Transaction} {givens : Givens} {change : Change} {n : Nat}
    (h : t.write givens change = .ok (u, n)) : u.durable = t.durable := by
  unfold write at h
  cases hs : t.pending.apply givens change with
  | error e => simp [hs, Except.map] at h
  | ok done =>
    simp only [hs, Except.map, Except.ok.injEq, Prod.mk.injEq] at h
    rw [← h.1]

end Transaction

/-- A failure of the database inside a unit of work is reported as one of the table. -/
def Failure.ofUnitOfWork : Failure → Failure
  | database _ message => refused (.error (.table "cart_items" message))
  | failure => failure

/-- What a request does between the start of its unit of work and the commit.  It may fail
after it has written. -/
abbrev Work (α : Type) := Transaction → Except Failure α × Transaction

/-- Runs some work as a whole, with the session after it: it commits, or what was written is
given up. -/
def unitOfWork {α : Type} (c : Conditions) (work : Work α) : Work α := fun t =>
  match work t with
  | (.error f, t) => (.error f.ofUnitOfWork, t.rollback)
  | (.ok a, t) =>
    match c.reach .commit 0 with
    | .error f => (.error f.ofUnitOfWork, t.rollback)
    | .ok _ => (.ok a, t.commit)

/-- Work that fails leaves a session that has written nothing, if writing is all that the work
does. -/
theorem unitOfWork_of_error {α : Type} {c : Conditions} {work : Work α} {s : Store} {f : Failure}
    (hwork : (work (.start s)).2.durable = s) (h : (unitOfWork c work (.start s)).1 = .error f) :
    (unitOfWork c work (.start s)).2 = .start s := by
  have hrollback : (work (.start s)).2.rollback = .start s := by
    rw [Transaction.rollback, hwork, Transaction.start]
  revert h
  unfold unitOfWork
  split
  · next t heq =>
    intro _
    simpa [heq] using hrollback
  · next a t heq =>
    split
    · intro _
      simpa [heq] using hrollback
    · intro h
      simp at h

end Storefront
