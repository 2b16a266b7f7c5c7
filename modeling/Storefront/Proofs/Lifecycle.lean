/-
One row on its own.

A legal step makes of a row what `Step.apply` says, an illegal one leaves it alone, and
no step takes a row away.  A row holds sound contents when it is in the cart with a
quantity that can be asked for, or is a tombstone; legal steps keep contents sound, since
the quantity that they carry is checked before and an update needs a row in the cart.
-/
import Storefront.Cart.Mutation

namespace Storefront

theorem inRange_iff {n : Int} : inRange n = true ↔ 1 ≤ n ∧ n ≤ maxQuantity := by
  simp only [inRange, Bool.and_eq_true, decide_eq_true_eq]
  omega

theorem not_inRange_iff {n : Int} : ¬inRange n = true ↔ n < 1 ∨ 2147483647 < n := by
  rw [inRange_iff, maxQuantity]
  omega

/-- In the cart with a quantity in range, or a tombstone. -/
def Holding.Sound (h : Holding) : Prop :=
  (h.active = true ∧ ∃ n, h.quantity = some n ∧ 1 ≤ n ∧ n ≤ maxQuantity) ∨
    (h.active = false ∧ h.quantity = none)

theorem Holding.sound_tombstone : tombstone.Sound := Or.inr ⟨rfl, rfl⟩

theorem Holding.sound_inCart {n : Int} (h : inRange n = true) : (inCart n).Sound :=
  Or.inl ⟨rfl, n, rfl, inRange_iff.mp h⟩

theorem Holding.inRange_of_sound {n : Int} (h : (inCart n).Sound) : inRange n = true := by
  rcases h with ⟨-, m, hm, hrange⟩ | ⟨hactive, -⟩
  · obtain rfl : n = m := Option.some.inj hm
    exact inRange_iff.mpr hrange
  · cases hactive

namespace Step

variable {step : Step} {row after : Option Holding} {status : Status}

theorem take_eq_ok :
    step.take row = (.ok status, after) ↔
      (Holding.state row).transition step.action = .ok status ∧ after = step.apply row := by
  unfold take
  cases (Holding.state row).transition step.action with
  | error e => simp
  | ok status' => simp [eq_comm]

theorem take_eq_error {e : ServiceError} :
    step.take row = (.error e, after) ↔
      (Holding.state row).transition step.action = .error e ∧ after = row := by
  unfold take
  cases (Holding.state row).transition step.action with
  | error e' => simp [eq_comm]
  | ok status => simp

/-- Clearing is legal in every state. -/
theorem take_clear (row : Option Holding) :
    clear.take row = (.ok .cleared, row.map fun _ => .tombstone) := by
  rw [take_eq_ok]
  refine ⟨?_, rfl⟩
  cases Holding.state row <;> rfl

/-- A step never takes a row away. -/
theorem apply_eq_none (h : step.apply row = none) : row = none := by
  cases step <;> cases row <;> simp_all [apply]

/-- An update is legal only for a row in the cart. -/
theorem active_of_update {h : Holding} {n : Int}
    (hlegal : (Holding.state (some h)).transition (update n).action = .ok status) :
    h.active = true := by
  cases hactive : h.active with
  | true => rfl
  | false =>
      simp [Holding.state, hactive, action, RowState.transition, RowState.status?] at hlegal

/-- A legal step that carries a quantity leaves it in the cart. -/
theorem inCart_of_take {n : Int} (hstep : step = add n ∨ step = update n)
    (htake : step.take row = (.ok status, after)) : after = some (.inCart n) := by
  obtain ⟨hlegal, rfl⟩ := take_eq_ok.mp htake
  rcases hstep with rfl | rfl
  · rfl
  · cases row with
    | none => cases hlegal
    | some old => simp [apply, Holding.withQuantity, Holding.inCart, active_of_update hlegal]

/-- A legal step leaves sound contents, if its quantity is in range. -/
theorem sound_of_take (hquantity : ∀ n, step = add n ∨ step = update n → inRange n = true)
    (htake : step.take row = (.ok status, after)) : ∀ h, after = some h → h.Sound := by
  obtain ⟨hlegal, hafter⟩ := take_eq_ok.mp htake
  intro h happly
  cases step with
  | add n =>
      obtain rfl := Option.some.inj ((inCart_of_take (Or.inl rfl) htake).symm.trans happly)
      exact Holding.sound_inCart (hquantity n (Or.inl rfl))
  | update n =>
      obtain rfl := Option.some.inj ((inCart_of_take (Or.inr rfl) htake).symm.trans happly)
      exact Holding.sound_inCart (hquantity n (Or.inr rfl))
  | remove =>
      obtain ⟨old, -, rfl⟩ := Option.map_eq_some_iff.mp (hafter.symm.trans happly)
      exact Holding.sound_tombstone
  | clear =>
      obtain ⟨old, -, rfl⟩ := Option.map_eq_some_iff.mp (hafter.symm.trans happly)
      exact Holding.sound_tombstone

/-! ### Steps one after another -/

/-- Takes steps one after another, with the verdict on each and the row after it. -/
def replay (row : Option Holding) : List Step → List (Except ServiceError Status × Option Holding)
  | [] => []
  | step :: steps => step.take row :: replay (step.take row).2 steps

/-- The row after some steps. -/
def leave (row : Option Holding) (steps : List Step) : Option Holding :=
  steps.foldl (fun row step => (step.take row).2) row

end Step

/-! ### Clearing apart -/

namespace Mutation

variable {m : Mutation}

/-- A step on one row clears no cart. -/
theorem step_ne_clear {variant : Uuid} (h : m.variant? = some variant) : m.step ≠ .clear := by
  cases m <;> simp_all [variant?, step]

theorem exists_eq_clear (h : m.variant? = none) : ∃ user, m = .clear user := by
  cases m with
  | clear user => exact ⟨user, rfl⟩
  | add | update | remove => cases h

end Mutation

end Storefront
