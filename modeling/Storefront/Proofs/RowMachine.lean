/-
Every row is a machine of its own.

Seen from one customer and one variant, the services do no more than take steps on one
row.  `Served.step?` picks out the requests that count: those for the pair that pass every
check before a row is looked at, and those that clear the cart of a customer who passes.
On these, the verdict and the row afterwards are the ones of `Step.take`; every other
request leaves the row alone.

The step that needs care is clearing, which writes all rows of a customer at once and
never asks whether the step is legal: it is legal in every state, and what it leaves in
each row is what the step leaves there.
-/
import Storefront.Proofs.Lifecycle
import Storefront.Proofs.Mutations

namespace Storefront

/-! ### One mutation -/

namespace Mutation

variable {s : Store} {givens : Givens} {m : Mutation} {user variant : Uuid}

/-- Whether the row of a customer and a variant is one that the mutation is about. -/
def concerns (m : Mutation) (user variant : Uuid) : Bool :=
  m.user == user && m.variant?.all (· == variant)

/-- A mutation keeps the keys, whatever goes wrong. -/
theorem keys_run (h : s.Keys) (m : Mutation) (c : Conditions) : (m.run c s).2.Keys := by
  rcases m.run_cases c s with ⟨f, hrun⟩ | ⟨d, s', rows, -, happly, hrun⟩
  · rw [hrun]; exact h
  · rw [hrun]; exact h.apply happly

/-- A mutation leaves the rows alone that it is not about, whatever goes wrong. -/
theorem row?_run_of_not_concerns (h : s.Keys) (hm : m.concerns user variant = false)
    (c : Conditions) : (m.run c s).2.row? user variant = s.row? user variant := by
  rcases m.run_cases c s with ⟨f, hrun⟩ | ⟨d, s', rows, hplan, happly, hrun⟩
  · rw [hrun]
  · rw [hrun]
    obtain ⟨-, ⟨hclear, rfl⟩ | ⟨variant', status, after, hvariant, -, rfl⟩⟩ := of_eval_plan hplan
    · have hvariant : m.variant? = none := by rw [hclear]; rfl
      have huser : m.user ≠ user := by simpa [concerns, hvariant] using hm
      rw [Store.row?_apply_clear happly, if_neg huser.symm]
    · refine h.row?_apply_between (c.view_row s m.user variant') happly ?_
      intro hsame
      obtain ⟨rfl, rfl⟩ := Prod.mk.inj hsame
      simp [concerns, hvariant] at hm

/-- A mutation that something is held against does nothing. -/
theorem run_of_objection {r : Refusal} (h : s.objection? m = some r) :
    m.run (.calm givens) s = (.error (.refused r), s) := by
  have hplan := m.eval_plan (.calm givens) s
  rw [Conditions.view_calm, h] at hplan
  rw [run_calm, hplan]

/-- A mutation that does not pass its checks does nothing. -/
theorem run_of_not_admits (h : s.admits m = false) :
    ∃ r, m.run (.calm givens) s = (.error (.refused r), s) := by
  cases hobjection : s.objection? m with
  | none => exact absurd (Store.objection?_eq_none.mp hobjection) (by simp [h])
  | some r => exact ⟨r, run_of_objection hobjection⟩

/-- **A mutation that passes its checks takes its step on each row that it is about.** -/
theorem run_of_admits (h : s.Keys) (hadmits : s.admits m = true)
    (hm : m.concerns user variant = true) :
    (m.run (.calm givens) s).1.map (·.status) =
        (m.step.take (s.holding? user variant)).1.mapError (.refused ∘ .error) ∧
      (m.run (.calm givens) s).2.holding? user variant =
        (m.step.take (s.holding? user variant)).2 := by
  have hplan := m.eval_plan (.calm givens) s
  rw [Conditions.view_calm, Store.objection?_eq_none.mpr hadmits] at hplan
  rw [run_calm, hplan]
  simp only [concerns, Bool.and_eq_true, beq_iff_eq] at hm
  obtain ⟨rfl, hvariant⟩ := hm
  cases hv : m.variant? with
  | none =>
      obtain ⟨user, rfl⟩ := exists_eq_clear hv
      obtain ⟨done, happly⟩ : ∃ done, s.apply givens (.clear user) = .ok done := ⟨_, rfl⟩
      simp only [decision, variant?, Plan.eval_pure, happly, step, Step.take_clear, Mutation.user]
      refine ⟨rfl, ?_⟩
      rw [Store.holding?, Store.row?_apply_clear happly, if_pos rfl, Store.holding?]
      cases s.row? user variant <;> rfl
  | some v =>
      obtain rfl : v = variant := by simpa [hv] using hvariant
      have hread : (s.view (.row m.user v)).map (·.holding) = s.holding? m.user v := rfl
      simp only [decision, hv, eval_decideStep, hread]
      rcases htake : m.step.take (s.holding? m.user v) with ⟨e | status, after⟩
      · obtain ⟨-, rfl⟩ := Step.take_eq_error.mp htake
        exact ⟨rfl, rfl⟩
      · obtain ⟨-, hafter⟩ := Step.take_eq_ok.mp htake
        have hkeep : after = none → s.row? m.user v = none := by
          intro hnone
          exact Option.map_eq_none_iff.mp (Step.apply_eq_none (hafter.symm.trans hnone))
        obtain ⟨s', n, happly, hsets⟩ := h.apply_between givens hkeep
        have hchange : s.apply givens (.between m.user v (s.view (.row m.user v)) after) =
            .ok (s', n) := happly
        simp only [hchange]
        exact ⟨rfl, hsets.here⟩

/-- What a row holds after a mutation. -/
theorem holding?_run (h : s.Keys) (m : Mutation) (user variant : Uuid) :
    (m.run (.calm givens) s).2.holding? user variant =
      if m.concerns user variant && s.admits m then (m.step.take (s.holding? user variant)).2
      else s.holding? user variant := by
  cases hconcerns : m.concerns user variant with
  | false => exact congrArg (Option.map _) (row?_run_of_not_concerns h hconcerns (.calm givens))
  | true =>
      cases hadmits : s.admits m with
      | true => exact (run_of_admits h hadmits hconcerns).2
      | false =>
          obtain ⟨r, hrun⟩ := run_of_not_admits hadmits
          rw [hrun]
          rfl

end Mutation

/-! ### Runs -/

/-- A request that was served, with the shop before it and after it. -/
structure Served where
  before : Shop
  call : Call
  outcome : Outcome Answer
  after : Shop

namespace Served

/-- The step that a request takes on the row of a customer and a variant, if it is about
this row and passes every check before a row is looked at. -/
def step? (e : Served) (user variant : Uuid) : Option Step :=
  match e.call with
  | .mutate m =>
    if m.concerns user variant && e.before.store.admits m then some m.step else none
  | _ => none

/-- The status or the error that a request comes to. -/
def verdict? (e : Served) : Option (Except ServiceError Status) :=
  match e.outcome.result with
  | .ok (.report r) => some (.ok r.status)
  | .ok _ => none
  | .error f => f.shown?.map .error

end Served

namespace Shop

/-- Serves a request with nothing in the way. -/
def serveOne (s : Shop) (limit : Int) (givens : Givens) (call : Call) : Served :=
  let done := s.call limit (.calm givens) call
  ⟨s, call, done.1, done.2⟩

/-- Serves requests one after another, each with what it is given. -/
def serve (s : Shop) (limit : Int) : List (Givens × Call) → List Served
  | [] => []
  | (givens, call) :: calls =>
    let e := s.serveOne limit givens call
    e :: e.after.serve limit calls

variable {s : Shop}

theorem keys_serveOne (h : s.store.Keys) (limit : Int) (givens : Givens) (call : Call) :
    (s.serveOne limit givens call).after.store.Keys := by
  show (s.call limit (.calm givens) call).2.store.Keys
  rw [s.store_call]
  cases call with
  | mutate m => exact Mutation.keys_run h m (.calm givens)
  | list user => exact h
  | summary user variants => exact h
  | checkout o => exact h

/-- A request that takes no step on a row leaves it as it was. -/
theorem row?_serveOne (h : s.store.Keys) (limit : Int) (givens : Givens) (call : Call)
    {user variant : Uuid}
    (hnone : (s.serveOne limit givens call).step? user variant = none) :
    (s.serveOne limit givens call).after.store.row? user variant = s.store.row? user variant := by
  show (s.call limit (.calm givens) call).2.store.row? user variant = _
  rw [s.store_call]
  cases call with
  | list user => rfl
  | summary user variants => rfl
  | checkout o => rfl
  | mutate m =>
      show (m.run (.calm givens) s.store).2.row? user variant = _
      by_cases hm : m.concerns user variant = true
      · have hadmits : s.store.admits m = false := by
          simpa [serveOne, Served.step?, hm] using hnone
        obtain ⟨r, hrun⟩ := Mutation.run_of_not_admits hadmits
        rw [hrun]
      · exact Mutation.row?_run_of_not_concerns h (by simpa using hm) (.calm givens)

/-- A request that takes a step on a row comes to what the step comes to. -/
theorem take_serveOne (h : s.store.Keys) (limit : Int) (givens : Givens) (call : Call)
    {user variant : Uuid} {step : Step}
    (hstep : (s.serveOne limit givens call).step? user variant = some step) :
    (s.serveOne limit givens call).verdict? =
        some (step.take (s.store.holding? user variant)).1 ∧
      (s.serveOne limit givens call).after.store.holding? user variant =
        (step.take (s.store.holding? user variant)).2 := by
  cases call with
  | list user => exact absurd hstep (by simp [serveOne, Served.step?])
  | summary user variants => exact absurd hstep (by simp [serveOne, Served.step?])
  | checkout o => exact absurd hstep (by simp [serveOne, Served.step?])
  | mutate m =>
      simp only [serveOne, Served.step?, Option.ite_none_right_eq_some, Bool.and_eq_true,
        Option.some.injEq] at hstep
      obtain ⟨⟨hm, hadmits⟩, rfl⟩ := hstep
      obtain ⟨hverdict, hholding⟩ := Mutation.run_of_admits h hadmits hm
      refine ⟨?_, ?_⟩
      · have hresult : (s.call limit (.calm givens) (.mutate m)).1.result =
            (m.run (.calm givens) s.store).1.map fun done => .report (m.report done.status) := by
          show (s.mutate (.calm givens) m).1.result.map Answer.report = _
          rw [s.result_mutate]
          cases (m.run (.calm givens) s.store).1 <;> rfl
        simp only [serveOne, Served.verdict?, hresult]
        generalize (m.run (.calm givens) s.store).1 = ran at hverdict ⊢
        generalize (m.step.take (s.store.holding? user variant)).1 = verdict at hverdict ⊢
        rcases verdict with e | status <;> rcases ran with f | done
        · obtain rfl : f = .refused (.error e) := Except.error.inj hverdict
          rfl
        · exact absurd hverdict (by simp [Except.map])
        · exact absurd hverdict (by simp [Except.map])
        · simpa [Except.map, Mutation.report] using hverdict
      · show (s.call limit (.calm givens) (.mutate m)).2.store.holding? user variant = _
        rw [s.store_call]
        exact hholding

/-- What a row holds after a request is what the steps that the request takes on it leave. -/
theorem holding?_serveOne (h : s.store.Keys) (limit : Int) (givens : Givens) (call : Call)
    (user variant : Uuid) :
    (s.serveOne limit givens call).after.store.holding? user variant =
      Step.leave (s.store.holding? user variant)
        ((s.serveOne limit givens call).step? user variant).toList := by
  cases hstep : (s.serveOne limit givens call).step? user variant with
  | none => exact congrArg (Option.map _) (row?_serveOne h limit givens call hstep)
  | some step => exact (take_serveOne h limit givens call hstep).2

variable {limit : Int} {calls : List (Givens × Call)} {user variant : Uuid}

theorem replay_serve (h : s.store.Keys) :
    ((s.serve limit calls).filterMap fun e => (e.step? user variant).map fun _ =>
        (e.verdict?, e.after.store.holding? user variant)) =
      (Step.replay (s.store.holding? user variant)
        ((s.serve limit calls).filterMap (·.step? user variant))).map
          fun taken => (some taken.1, taken.2) := by
  induction calls generalizing s with
  | nil => rfl
  | cons posed calls ih =>
      obtain ⟨givens, call⟩ := posed
      have hrest := ih (keys_serveOne h limit givens call)
      simp only [serve, List.filterMap_cons]
      cases hstep : (s.serveOne limit givens call).step? user variant with
      | none =>
          have hsame : (s.serveOne limit givens call).after.store.holding? user variant =
              s.store.holding? user variant :=
            congrArg (Option.map _) (row?_serveOne h limit givens call hstep)
          rw [hsame] at hrest
          exact hrest
      | some step =>
          obtain ⟨hverdict, hafter⟩ := take_serveOne h limit givens call hstep
          rw [hafter] at hrest
          simp only [Option.map_some, Step.replay, List.map_cons, hverdict, hafter, hrest]

theorem holding?_serve (h : s.store.Keys) {past future : List Served} {e : Served}
    (hserve : s.serve limit calls = past ++ e :: future) :
    e.after.store.holding? user variant =
      Step.leave (s.store.holding? user variant)
        ((past ++ [e]).filterMap (·.step? user variant)) := by
  induction calls generalizing s past with
  | nil => simp [serve] at hserve
  | cons posed calls ih =>
      obtain ⟨givens, call⟩ := posed
      have hone := holding?_serveOne h limit givens call user variant
      simp only [serve] at hserve
      cases past with
      | nil =>
          obtain ⟨rfl, -⟩ := List.cons.inj hserve
          rw [hone]
          cases hstep : (s.serveOne limit givens call).step? user variant <;> simp [hstep]
      | cons e' past =>
          obtain ⟨rfl, hrest⟩ := List.cons.inj hserve
          rw [ih (keys_serveOne h limit givens call) hrest, hone, List.cons_append,
            List.filterMap_cons]
          cases (s.serveOne limit givens call).step? user variant <;> rfl

theorem row?_serve (h : s.store.Keys) {e : Served} (he : e ∈ s.serve limit calls)
    (hnone : e.step? user variant = none) :
    e.after.store.row? user variant = e.before.store.row? user variant := by
  induction calls generalizing s with
  | nil => simp [serve] at he
  | cons posed calls ih =>
      obtain ⟨givens, call⟩ := posed
      rcases List.mem_cons.mp he with rfl | hrest
      · exact row?_serveOne h limit givens call hnone
      · exact ih (keys_serveOne h limit givens call) hrest

/-- **Every row is a machine of its own.**  Over any run, the requests that take a step on
the row of a customer and a variant come to what the steps come to one after another;
after every request the row holds what the steps up to it leave; and the requests that
take no step leave the row as it was. -/
theorem serve_refines_steps (h : s.store.Keys) (limit : Int) (calls : List (Givens × Call))
    (user variant : Uuid) :
    ((s.serve limit calls).filterMap fun e => (e.step? user variant).map fun _ =>
        (e.verdict?, e.after.store.holding? user variant)) =
      (Step.replay (s.store.holding? user variant)
        ((s.serve limit calls).filterMap (·.step? user variant))).map
          (fun taken => (some taken.1, taken.2)) ∧
    (∀ past e future, s.serve limit calls = past ++ e :: future →
      e.after.store.holding? user variant =
        Step.leave (s.store.holding? user variant)
          ((past ++ [e]).filterMap (·.step? user variant))) ∧
    ∀ e ∈ s.serve limit calls, e.step? user variant = none →
      e.after.store.row? user variant = e.before.store.row? user variant :=
  ⟨replay_serve h, fun _ _ _ => holding?_serve h, fun _ => row?_serve h⟩

end Shop

/-- The tea is asked for again, taken out and put back, then too much jam is asked for, and
the cart is cleared. -/
def Corner.calls : List (Givens × Call) :=
  [.mutate (.add user (.ofNat 5) tea 3), .mutate (.remove user tea),
    .mutate (.add user (.ofNat 5) tea 4), .mutate (.add user (.ofNat 5) jam 11), .list user,
    .mutate (.clear user)].map (givens, ·)

/-- The requests to the corner shop take four steps on the tea, of which the first is
illegal. -/
theorem serve_refines_steps_corner :
    let run := (Shop.opened Corner.store).serve 100 Corner.calls
    let row := Corner.store.holding? Corner.user Corner.tea
    Corner.store.Keys ∧
      run.filterMap (·.step? Corner.user Corner.tea) = [.add 3, .remove, .add 4, .clear] ∧
      ((run.filterMap fun e => (e.step? Corner.user Corner.tea).map fun _ =>
            (e.verdict?, e.after.store.holding? Corner.user Corner.tea)) =
          (Step.replay row (run.filterMap (·.step? Corner.user Corner.tea))).map
            (fun taken => (some taken.1, taken.2)) ∧
        (∀ past e future, run = past ++ e :: future →
          e.after.store.holding? Corner.user Corner.tea =
            Step.leave row ((past ++ [e]).filterMap (·.step? Corner.user Corner.tea))) ∧
        ∀ e ∈ run, e.step? Corner.user Corner.tea = none →
          e.after.store.row? Corner.user Corner.tea =
            e.before.store.row? Corner.user Corner.tea) :=
  ⟨Corner.keys_store, by decide +kernel,
    Shop.serve_refines_steps (s := .opened Corner.store) Corner.keys_store 100 Corner.calls
      Corner.user Corner.tea⟩

end Storefront
