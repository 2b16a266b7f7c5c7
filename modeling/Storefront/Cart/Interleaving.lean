/-
Requests that interleave.

Several mutations are on their way at once, and one of them moves at a time.  A move is
one read, answered from the tables as they are committed by then, or the write and the
commit of what has been decided.  Between two moves of one mutation the others may move
as they like, so what a mutation has read may be out of date when it writes.

A mutation that is left alone does what it does in a unit of work of its own:
`exists_moves_eq_run`.
-/
import Storefront.Cart.Mutation

namespace Storefront

/-- A mutation on its way. -/
inductive Client where
  /-- What is left of its plan. -/
  | deciding (plan : Plan Decision)
  | ended (result : Except Failure Written)

namespace Client

/-- One move on some tables, with the tables after it.  A client that has ended stays. -/
def move (givens : Givens) (s : Store) : Client → Client × Store
  | deciding (.ask q next) => (deciding (next (s.view q)), s)
  | deciding (.refused r) => (ended (.error (.refused r)), s)
  | deciding (.decided d) =>
    match s.apply givens d.change with
    | .error e => (ended (.error (.refused (.error e))), s)
    | .ok (s, rows) => (ended (.ok ⟨d.status, rows⟩), s)
  | ended result => (ended result, s)

/-- So many moves with nobody else in between. -/
def moves (givens : Givens) : Nat → Client → Store → Client × Store
  | 0, c, s => (c, s)
  | n + 1, c, s =>
    let (c, s) := c.move givens s
    moves givens n c s

end Client

/-- Mutations on their way with the tables that they share. -/
structure Traffic where
  givens : Givens
  store : Store
  clients : List Client

namespace Traffic

/-- Mutations that have not moved yet. -/
def start (givens : Givens) (s : Store) (ms : List Mutation) : Traffic :=
  ⟨givens, s, ms.map fun m => .deciding m.plan⟩

/-- A move of the client at a position. -/
def move (t : Traffic) (i : Nat) : Traffic :=
  match t.clients[i]? with
  | none => t
  | some c =>
    let (c, store) := c.move t.givens t.store
    ⟨t.givens, store, t.clients.set i c⟩

/-- The moves of a schedule, which names the client of each. -/
def run (t : Traffic) (schedule : List Nat) : Traffic :=
  schedule.foldl move t

end Traffic

/-! ### One client alone -/

/-- What a client ends with when its plan is evaluated on tables that stay as they are. -/
def Client.outcome (givens : Givens) (s : Store) (p : Plan Decision) : Client × Store :=
  match p.eval s.view with
  | .error r => (ended (.error (.refused r)), s)
  | .ok d => (deciding (.decided d)).move givens s

theorem Client.exists_moves_eq_outcome (givens : Givens) (s : Store) (p : Plan Decision) :
    ∃ n, moves givens n (deciding p) s = outcome givens s p := by
  induction p with
  | decided d => exact ⟨1, rfl⟩
  | refused r => exact ⟨1, rfl⟩
  | ask q next ih =>
    obtain ⟨n, hn⟩ := ih (s.view q)
    exact ⟨n + 1, hn⟩

/-- A client alone ends with the result and the tables of its own unit of work. -/
theorem Client.exists_moves_eq_run (givens : Givens) (s : Store) (m : Mutation) :
    ∃ n, moves givens n (deciding m.plan) s =
      (ended (m.run (.calm givens) s).1, (m.run (.calm givens) s).2) := by
  obtain ⟨n, hn⟩ := exists_moves_eq_outcome givens s m.plan
  refine ⟨n, hn.trans ?_⟩
  rw [Mutation.run_calm, outcome]
  cases m.plan.eval s.view with
  | error r => rfl
  | ok d => cases h : s.apply givens d.change <;> simp [move, h]

end Storefront
