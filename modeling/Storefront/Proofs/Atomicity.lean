/-
A mutation that fails leaves nothing behind.

A mutation can fail at every database call that it makes and at every check in between.
`Mutation.refusal?` is what it is turned down with when no call fails: what is held
against it before a row is looked at, or the refusal of an illegal step, or the conflict
of an insert with a row that was not seen.  `map_fst_run` says that it then fails with this,
and with what it makes of a fault otherwise; what it has written by then is given up in both
cases.

An error of the database is shown as one of the table, with one exception: a new row that
violates a constraint is always said to be in the cart already.  That is true of the constraint
on its customer and variant and of no other (`missing_row_conflicts`).

The counters of the statuses move with the events of mutations that were committed.  A
failure has an event only when a moderation gate rejects it, which is counted elsewhere.
-/
import Storefront.Proofs.Gates
import Storefront.Proofs.Lifecycle
import Storefront.Proofs.Mutations

namespace Storefront

/-! ### Refusals -/

/-- A change computed for a row is refused only when it inserts a row that is there. -/
theorem Store.map_apply_between (s : Store) (givens : Givens) (user variant : Uuid)
    (read : Option CartRow) (after : Option Holding) :
    (s.apply givens (.between user variant read after)).map (fun _ => ()) =
      if read.isNone && after.isSome && (s.row? user variant).isSome then
        .error RowState.alreadyInCart
      else .ok () := by
  cases after with
  | none => cases read <;> rfl
  | some holding =>
      cases read with
      | some r => rfl
      | none =>
          cases hr : s.row? user variant <;> simp [Change.between, Store.apply, hr, Except.map]

/-- A step that is legal for a row that is absent creates it, unless it clears a cart. -/
theorem Step.isSome_apply_none {step : Step} {status : Status} (hclear : step ≠ clear)
    (hlegal : (Holding.state none).transition step.action = .ok status) :
    (step.apply none).isSome = true := by
  cases step with
  | add n => rfl
  | clear => exact absurd rfl hclear
  | update n => simp [Holding.state, action, RowState.transition, RowState.status?] at hlegal
  | remove => simp [Holding.state, action, RowState.transition, RowState.status?] at hlegal

/-- What a step on a row meets: it is illegal for the row as it is read, or it adds a row
and one is there that was not read. -/
def Step.refusal? (step : Step) (read : Option CartRow) (there : Bool) : Option Refusal :=
  match (Holding.state (read.map (·.holding))).transition step.action with
  | .error e => some (.error e)
  | .ok _ => if read.isNone && there then some (.error RowState.alreadyInCart) else none

namespace Mutation

/-- Why a mutation is turned down when no fault is met. -/
def refusal? (m : Mutation) (c : Conditions) (s : Store) : Option Refusal :=
  (s.objection? m).or <| m.variant?.bind fun variant =>
    m.step.refusal? (c.view s (.row m.user variant)) (s.row? m.user variant).isSome

variable {m : Mutation} {c : Conditions} {s : Store}

/-- Deciding on a step and making the change comes to what the step meets. -/
theorem eval_decideStep_bind (s : Store) (givens : Givens) (view : View) (user variant : Uuid)
    {step : Step} (hclear : step ≠ .clear) :
    (((decideStep user variant step).eval view).bind fun d =>
        ((s.apply givens d.change).map fun _ => ()).mapError .error) =
      settle (step.refusal? (view (.row user variant)) (s.row? user variant).isSome) := by
  rw [eval_decideStep, Step.refusal?]
  generalize view (.row user variant) = read
  rcases htake : step.take (read.map (·.holding)) with ⟨e | status, after⟩
  · obtain ⟨hillegal, -⟩ := Step.take_eq_error.mp htake
    simp only [htake, hillegal]
    rfl
  · obtain ⟨hlegal, hafter⟩ := Step.take_eq_ok.mp htake
    have hcreates : (read.isNone && after.isSome) = read.isNone := by
      cases read with
      | some r => rfl
      | none =>
          rw [hafter]
          exact Step.isSome_apply_none hclear hlegal
    simp only [htake, hlegal, Except.bind, s.map_apply_between, hcreates]
    split <;> rfl

/-- A mutation without a fault comes to its refusal, if there is one. -/
theorem eval_plan_bind :
    ((m.plan.eval (c.view s)).bind fun d =>
        ((s.apply c.givens d.change).map fun _ => ()).mapError .error) =
      settle (m.refusal? c s) := by
  rw [eval_plan, refusal?]
  cases s.objection? m with
  | some r => rfl
  | none =>
      rw [Option.none_or]
      cases hvariant : m.variant? with
      | none =>
          simp only [decision, hvariant]
          rfl
      | some variant =>
          simp only [decision, hvariant, Option.bind_some]
          exact eval_decideStep_bind s c.givens (c.view s) m.user variant (step_ne_clear hvariant)

/-- A mutation fails with what it makes of the fault that it meets, or else with its refusal. -/
theorem map_fst_run :
    (m.run c s).1.map (fun _ => ()) =
      match c.met (m.calls c s) with
      | some fault => .error (m.raised (c.view s) fault)
      | none => (settle (m.refusal? c s)).mapError .refused := by
  rw [run_eq, ← eval_plan_bind]
  cases c.met (m.calls c s) with
  | some fault => rfl
  | none =>
      cases m.plan.eval (c.view s) with
      | error r => rfl
      | ok d =>
          simp only [Except.bind]
          cases s.apply c.givens d.change <;> rfl

/-- A mutation fails with its refusal, or with what it makes of a fault. -/
theorem exists_of_run_eq_error {f : Failure} (h : (m.run c s).1 = .error f) :
    (∃ r, m.refusal? c s = some r ∧ f = .refused r) ∨
      ∃ fault, c.fault = some fault ∧ f = m.raised (c.view s) fault := by
  have hrun := m.map_fst_run (c := c) (s := s)
  rw [h] at hrun
  cases hmet : c.met (m.calls c s) with
  | some fault =>
      rw [hmet] at hrun
      exact Or.inr ⟨fault, Conditions.fault_of_met hmet, Except.error.inj hrun⟩
  | none =>
      rw [hmet] at hrun
      cases hrefusal : m.refusal? c s with
      | none =>
          rw [hrefusal] at hrun
          cases hrun
      | some r =>
          rw [hrefusal] at hrun
          exact Or.inl ⟨r, rfl, Except.error.inj hrun⟩

end Mutation

/-! ### No refusal is an error of a table -/

/-- The refusal is not shown as an error of a table. -/
def Refusal.Domain (r : Refusal) : Prop :=
  ∀ name reason, r.shown ≠ .table name reason

theorem Rejection.error_ne_table (r : Rejection) (name reason : RawText) :
    r.error ≠ .table name reason := by
  unfold error
  split <;> simp

theorem Refusal.Raised.domain {g : Option Rejection} {r : Refusal} (h : r.Raised g) :
    r.Domain := by
  intro name reason
  cases h with
  | gate h => exact Rejection.error_ne_table _ name reason
  | error h =>
      rintro rfl
      simp [mutationErrors, RowState.alreadyInCart] at h

theorem Step.raised_refusal? {step : Step} {read : Option CartRow} {there : Bool} {r : Refusal}
    (h : step.refusal? read there = some r) (g : Option Rejection) : r.Raised g := by
  unfold refusal? at h
  split at h
  · next e hillegal =>
    obtain rfl := Option.some.inj h
    exact .error (RowState.mem_mutationErrors hillegal)
  · split at h
    · obtain rfl := Option.some.inj h
      exact .error (by simp [mutationErrors])
    · cases h

/-- A mutation is refused by a gate, or by one of its checks. -/
theorem Mutation.raised_refusal? {m : Mutation} {c : Conditions} {s : Store} {r : Refusal}
    (h : m.refusal? c s = some r) : r.Raised (s.gate? m) := by
  rcases Option.or_eq_some_iff.mp h with hobjection | ⟨-, hstep⟩
  · exact Store.raised_objection? hobjection
  · obtain ⟨variant, -, hrow⟩ := Option.bind_eq_some_iff.mp hstep
    exact Step.raised_refusal? hrow _

theorem Mutation.domain_refusal? {m : Mutation} {c : Conditions} {s : Store} {r : Refusal}
    (h : m.refusal? c s = some r) : r.Domain :=
  (raised_refusal? h).domain

/-! ### Failed mutations -/

namespace Shop

variable {s : Shop} {c : Conditions} {m : Mutation} {f : Failure}

theorem mutate_of_error (h : (s.mutate c m).1.result = .error f) :
    s.mutate c m = (⟨.error f, f.events⟩, s.record f.events) := by
  have hresult := s.result_mutate c m
  rw [h] at hresult
  rcases m.run_cases c s.store with ⟨f', hrun⟩ | ⟨d, s', rows, -, -, hrun⟩
  · rw [hrun] at hresult
    obtain rfl : f = f' := Except.error.inj hresult
    rw [mutate, hrun]
  · rw [hrun] at hresult
    simp [Except.map] at hresult

end Shop

/-- The counter of a gate is not the one of a status. -/
theorem Counters.gateKey_ne_text (subject : RawText) (status : Status) :
    gateKey subject ≠ status.text := by
  intro h
  have hfirst := congrArg List.head? h
  cases status <;> simp [gateKey, Status.text, RawText.ofString, RawText.ofChars] at hfirst

theorem Failure.events_cases (f : Failure) : f.events = [] ∨ ∃ r, f.events = [.gate r] := by
  unfold events
  split
  · next r => exact Or.inr ⟨r, rfl⟩
  · exact Or.inl rfl

/-- A failure moves no counter of a status. -/
theorem Failure.count_foldl_events (f : Failure) (counters : Counters) (status : Status) :
    (f.events.foldl Event.count counters).count status.text = counters.count status.text := by
  rcases f.events_cases with hevents | ⟨r, hevents⟩
  · rw [hevents]
    rfl
  · rw [hevents]
    show (counters.increment (Counters.gateKey r.counted)).count status.text = _
    rw [Counters.count_increment, if_neg (Counters.gateKey_ne_text _ _), Nat.add_zero]

/-- What a mutation makes of an error of the database. -/
theorem Mutation.raised_of_database {m : Mutation} {view : View} {fault : Fault}
    {kind : ErrorClass} {message : RawText} (h : fault.failure = .database kind message) :
    m.raised view fault = .refused (.error
      (if kind = .integrity ∧ fault.sort = .flush ∧ m.inserts view then RowState.alreadyInCart
        else .table "cart_items" message)) := by
  rw [raised, h]
  cases kind with
  | integrity =>
      by_cases hflush : fault.sort = .flush ∧ m.inserts view
      · simp [hflush, Failure.ofInsert, Failure.ofUnitOfWork]
      · simp [hflush, Failure.ofUnitOfWork]
  | other => simp [Failure.ofInsert, Failure.ofUnitOfWork]

/-- What is no error of the database passes through a mutation. -/
theorem Mutation.raised_of_forall_ne {m : Mutation} {view : View} {fault : Fault}
    (h : ∀ kind message, fault.failure ≠ .database kind message) :
    m.raised view fault = fault.failure := by
  rw [raised]
  cases hfailure : fault.failure with
  | database kind message => exact absurd hfailure (h kind message)
  | refused r => simp [Failure.ofInsert, Failure.ofUnitOfWork]
  | crash message => simp [Failure.ofInsert, Failure.ofUnitOfWork]

/-- **A mutation that fails leaves nothing behind.**  It fails when a database call does or
when there is a refusal: with an error of the cart table for an error of the database, unless
this is a constraint that a new row violates, and otherwise with what was raised, which is then
no error of a table.  The tables and the counters of the statuses are the ones before it, the
session has nothing left to commit, and no event but a rejection is left. -/
theorem Shop.mutate_atomic (s : Shop) (c : Conditions) (m : Mutation) :
    (match c.met (m.calls c s.store) with
      | some fault =>
        match fault.failure with
        | .database kind message =>
          (s.mutate c m).1.result = .error (.refused (.error
            (if kind = .integrity ∧ fault.sort = .flush ∧ m.inserts (c.view s.store) then
              RowState.alreadyInCart
            else .table "cart_items" message)))
        | failure => (s.mutate c m).1.result = .error failure
      | none =>
        match m.refusal? c s.store with
        | some r => (s.mutate c m).1.result = .error (.refused r) ∧
            ∀ name reason, r.shown ≠ .table name reason
        | none => ∃ report, (s.mutate c m).1.result = .ok report) ∧
    ∀ f, (s.mutate c m).1.result = .error f →
      (s.mutate c m).2.store = s.store ∧
      (m.attempt c (.start s.store)).2 = .start s.store ∧
      (∀ status : Status,
        (s.mutate c m).2.counters.count status.text = s.counters.count status.text) ∧
      ∀ e ∈ (s.mutate c m).1.events, ∃ r, e = .gate r := by
  have hresult : (s.mutate c m).1.result.map (fun _ => ()) =
      (m.run c s.store).1.map fun _ => () := by
    rw [s.result_mutate]
    cases (m.run c s.store).1 <;> rfl
  constructor
  · have hrun := m.map_fst_run (c := c) (s := s.store)
    rw [← hresult] at hrun
    have hfails : ∀ f, (s.mutate c m).1.result.map (fun _ => ()) = .error f →
        (s.mutate c m).1.result = .error f := by
      intro f hf
      cases hok : (s.mutate c m).1.result with
      | ok report => simp [hok, Except.map] at hf
      | error f' => simpa [hok, Except.map] using hf
    cases hmet : c.met (m.calls c s.store) with
    | some fault =>
        rw [hmet] at hrun
        dsimp only
        split
        · next kind message hdatabase =>
          exact (hfails _ hrun).trans (congrArg _ (Mutation.raised_of_database hdatabase))
        · next failure hother =>
          exact (hfails _ hrun).trans (congrArg _ (Mutation.raised_of_forall_ne hother))
    | none =>
        rw [hmet] at hrun
        cases hrefusal : m.refusal? c s.store with
        | some r =>
            rw [hrefusal] at hrun
            exact ⟨hfails _ hrun, Mutation.domain_refusal? hrefusal⟩
        | none =>
            rw [hrefusal] at hrun
            cases hok : (s.mutate c m).1.result with
            | ok report => exact ⟨report, rfl⟩
            | error f => simp [hok, settle, Except.map] at hrun
  · intro f hf
    have hfailed : (m.run c s.store).1 = .error f := by
      rw [hf] at hresult
      cases hrun : (m.run c s.store).1 with
      | ok done => simp [hrun, Except.map] at hresult
      | error f' => simpa [hrun, Except.map, eq_comm] using hresult
    rw [mutate_of_error hf]
    refine ⟨rfl, Mutation.attempt_of_error hfailed,
      fun status => f.count_foldl_events s.counters status, ?_⟩
    intro e he
    rcases f.events_cases with hevents | ⟨r, hevents⟩
    · simp [hevents] at he
    · exact ⟨r, by simpa [hevents] using he⟩

/-- The disk is full when changes are to last. -/
def Corner.fullDisk : Conditions :=
  ⟨false, some ⟨.commit, 0, .database .other "disk full"⟩, Corner.givens⟩

/-- Clearing a cart of the corner shop has written its tombstones when the commit fails,
and leaves none of them. -/
theorem mutate_atomic_corner :
    let s := Shop.opened Corner.store
    let done := s.mutate Corner.fullDisk (.clear Corner.user)
    done.1.result = .error (.refused (.error (.table "cart_items" "disk full"))) ∧
      done.2.store = s.store ∧
      ((Mutation.clear Corner.user).attempt Corner.fullDisk (.start s.store)).2 =
        .start s.store ∧
      (∀ status : Status, done.2.counters.count status.text = s.counters.count status.text) ∧
      ∀ e ∈ done.1.events, ∃ r, e = .gate r := by
  have hmet : Corner.fullDisk.met
      ((Mutation.clear Corner.user).calls Corner.fullDisk Corner.store) =
        some ⟨.commit, 0, .database .other "disk full"⟩ := by decide +kernel
  obtain ⟨hfails, hatomic⟩ :=
    Shop.mutate_atomic (.opened Corner.store) Corner.fullDisk (.clear Corner.user)
  rw [show (Shop.opened Corner.store).store = Corner.store from rfl, hmet] at hfails
  exact ⟨hfails, hatomic _ hfails⟩

/-- The record of the customer is deleted while an item is added: the new row would refer to a
customer who is not there any more. -/
def Corner.closedAccount : Conditions :=
  ⟨false, some ⟨.flush, 0, .database .integrity "user_id is not in users"⟩, Corner.givens⟩

/-- The database refuses to add an item to a cart, and the cart has no such item; still it is said
to be in the cart already, and no error of the table is shown. -/
theorem missing_row_conflicts :
    let s := Shop.opened { Corner.store with rows := [] }
    let add := Mutation.add Corner.user (.ofNat 5) Corner.tea 1
    (∀ user variant, s.store.row? user variant = none) ∧
      Corner.closedAccount.met (add.calls Corner.closedAccount s.store) =
        some ⟨.flush, 0, .database .integrity "user_id is not in users"⟩ ∧
      (s.mutate Corner.closedAccount add).1.result =
        .error (.refused (.error (.conflict "item already exists in cart"))) := by
  intro s add
  exact ⟨fun user variant => rfl, by decide +kernel, rfl⟩

end Storefront
