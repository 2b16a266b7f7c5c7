/-
What a mutation does, whatever goes wrong.

When no fault is met, a mutation makes a known sequence of database calls: its reads, then
the one call that its change is sent by, then the commit, as far as it gets before it is
refused.  `Mutation.calls` is that sequence.  A fault is met exactly when the sequence
holds more calls of its sort than it spares, and `run_eq` says that the mutation then
fails with what it makes of the fault (`Mutation.raised`) and does otherwise what it does
without: it is refused, or its change is made.  `run_cases` is the part of this that most
proofs need.

No other request writes to the tables, so `Shop.store_call` reduces what a request does to
them to what a mutation does.
-/
import Storefront.Proofs.Plans
import Storefront.Proofs.Tables
import Storefront.Shop

namespace Storefront

/-! ### Database calls and faults -/

/-- The fault that one of some database calls meets. -/
def Conditions.met (c : Conditions) (calls : List CallSort) : Option Fault :=
  c.fault.bind fun f => if f.spared < calls.count f.sort then some f else none

theorem Conditions.fault_of_met {c : Conditions} {calls : List CallSort} {fault : Fault}
    (h : c.met calls = some fault) : c.fault = some fault := by
  obtain ⟨f, hfault, hmet⟩ := Option.bind_eq_some_iff.mp h
  obtain ⟨-, hf⟩ := Option.ite_none_right_eq_some.mp hmet
  rw [hfault, Option.some.inj hf]

theorem Conditions.met_replicate (c : Conditions) (sort : CallSort) (n : Nat) :
    c.met (List.replicate n sort) = c.strikes sort 0 n := by
  unfold met strikes
  cases c.fault with
  | none => rfl
  | some f =>
      by_cases hsort : f.sort = sort
      · by_cases hlt : f.spared < n
        · have hpos : 0 < n := by omega
          simp [hsort, hlt, hpos]
        · simp [hsort, hlt]
      · have hsort' : ¬sort = f.sort := fun h => hsort h.symm
        simp [hsort, hsort', List.count_replicate]

/-- One more call is met by what the earlier ones meet, or else by what it meets itself. -/
theorem Conditions.met_concat (c : Conditions) (calls : List CallSort) (sort : CallSort) :
    c.met (calls ++ [sort]) = (c.met calls).or (c.strikes sort (calls.count sort) 1) := by
  unfold met strikes
  cases c.fault with
  | none => rfl
  | some f =>
      simp only [Option.bind_some, List.count_append]
      by_cases hsort : f.sort = sort
      · subst hsort
        simp only [List.count_singleton_self, true_and, Nat.lt_one_iff]
        by_cases hlt : f.spared < calls.count f.sort
        · simp [hlt, Nat.lt_succ_of_lt hlt]
        · simp [hlt]
      · have hcount : [sort].count f.sort = 0 := by
          rw [List.count_singleton, if_neg]
          simpa using fun h : sort = f.sort => hsort h.symm
        simp [hsort, hcount]

/-- The sort of the call that a change is sent by. -/
def Change.sort : Change → CallSort
  | clear _ => .statement
  | _ => .flush

theorem Change.reach_eq (change : Change) (c : Conditions) (sent : Nat) :
    change.reach c sent =
      (c.strikes change.sort ((List.replicate sent .statement).count change.sort) 1).elim
        (.ok ()) (.error ·.failure) := by
  cases change <;> simp [reach, sort, Conditions.reach_eq, List.count_replicate]

namespace Mutation

/-- The database calls that a mutation makes when no fault is met, as far as it gets. -/
def calls (m : Mutation) (c : Conditions) (s : Store) : List CallSort :=
  let reads := List.replicate (m.plan.statements c (c.view s)) .statement
  match m.plan.eval (c.view s) with
  | .error _ => reads
  | .ok d =>
    match s.apply c.givens d.change with
    | .error _ => reads ++ [d.change.sort]
    | .ok _ => reads ++ [d.change.sort] ++ [.commit]

/-- A fault is met by the reads, or else by what sends the change, or else by the commit. -/
theorem met_calls (m : Mutation) (c : Conditions) (s : Store) :
    let reads := m.plan.statements c (c.view s)
    c.met (m.calls c s) =
      (c.strikes .statement 0 reads).or
        (match m.plan.eval (c.view s) with
        | .error _ => none
        | .ok d =>
          (c.strikes d.change.sort ((List.replicate reads CallSort.statement).count d.change.sort)
            1).or
            (match s.apply c.givens d.change with
            | .error _ => none
            | .ok _ => c.strikes .commit 0 1)) := by
  intro reads
  have hcommit : ∀ change : Change,
      (List.replicate reads CallSort.statement ++ [change.sort]).count .commit = 0 := by
    intro change
    cases change <;> simp [Change.sort, List.count_replicate]
  unfold calls
  cases m.plan.eval (c.view s) with
  | error r => rw [c.met_replicate, Option.or_none]
  | ok d =>
      dsimp only
      cases s.apply c.givens d.change with
      | error e =>
          show c.met (List.replicate reads CallSort.statement ++ [d.change.sort]) = _
          rw [c.met_concat, c.met_replicate, Option.or_none]
      | ok done =>
          show c.met (List.replicate reads CallSort.statement ++ [d.change.sort] ++ [.commit]) = _
          rw [c.met_concat, hcommit, c.met_concat, c.met_replicate, Option.or_assoc]

/-- Whether a mutation adds an item that it finds no row for. -/
def inserts (view : View) : Mutation → Bool
  | add user _ variant _ => (view (.row user variant)).isNone
  | _ => false

/-- What a mutation fails with when it meets a fault. -/
def raised (m : Mutation) (view : View) (fault : Fault) : Failure :=
  (if fault.sort = .flush ∧ m.inserts view then fault.failure.ofInsert
    else fault.failure).ofUnitOfWork

theorem raised_of_sort_ne (m : Mutation) (view : View) {fault : Fault} (h : fault.sort ≠ .flush) :
    m.raised view fault = fault.failure.ofUnitOfWork := by
  rw [raised, if_neg fun hflush => h hflush.1]

/-- A fault becomes the conflict of a row that is there already, or what any unit of work makes of
it. -/
theorem raised_cases (m : Mutation) (view : View) (fault : Fault) :
    m.raised view fault = .refused (.error RowState.alreadyInCart) ∨
      m.raised view fault = fault.failure.ofUnitOfWork := by
  unfold raised
  split
  · cases fault.failure with
    | database kind message => cases kind <;> simp [Failure.ofInsert, Failure.ofUnitOfWork]
    | refused r => exact Or.inr rfl
    | crash message => exact Or.inr rfl
  · exact Or.inr rfl

/-- What is decided is a new row exactly when an item is added that has no row. -/
theorem exists_insert_iff {m : Mutation} {c : Conditions} {s : Store} {d : Decision}
    (h : m.plan.eval (c.view s) = .ok d) :
    (∃ user variant holding, d.change = .insert user variant holding) ↔
      m.inserts (c.view s) = true := by
  obtain ⟨-, ⟨hclear, rfl⟩ | ⟨variant, status, after, hvariant, htake, rfl⟩⟩ := of_eval_plan h
  · rw [hclear]
    simp [inserts]
  · cases hread : c.view s (.row m.user variant) with
    | some r =>
        have hwrites : m.inserts (c.view s) = false := by
          cases m with
          | add user product variant' quantity =>
              obtain rfl := Option.some.inj hvariant
              exact congrArg Option.isNone hread
          | _ => rfl
        cases after <;> simp [Change.between, hwrites]
    | none =>
        rw [hread] at htake
        cases m with
        | add user product variant' quantity =>
            obtain rfl := Option.some.inj hvariant
            obtain ⟨-, rfl⟩ := Prod.mk.inj htake
            have hinserts : (c.view s (.row user variant')).isNone = true :=
              congrArg Option.isNone hread
            simp [Change.between, inserts, hinserts, Step.apply, step]
        | update user variant' quantity => cases (Prod.mk.inj htake).1
        | remove user variant' => cases (Prod.mk.inj htake).1
        | clear user => cases hvariant

/-- What is raised by a fault that strikes the call by which the change is sent. -/
theorem ofUnitOfWork_caught {m : Mutation} {c : Conditions} {s : Store} {d : Decision}
    (h : m.plan.eval (c.view s) = .ok d) {fault : Fault} (hsort : fault.sort = d.change.sort) :
    (d.change.caught fault.failure).ofUnitOfWork = m.raised (c.view s) fault := by
  have hinserts := exists_insert_iff h
  rw [raised, hsort]
  cases hchange : d.change with
  | insert user variant holding =>
      rw [if_pos ⟨rfl, hinserts.mp ⟨user, variant, holding, hchange⟩⟩]
      rfl
  | clear user => rfl
  | write | nothing =>
      rw [hchange] at hinserts
      have hnone : m.inserts (c.view s) = false := by
        rw [Bool.eq_false_iff, ne_eq, ← hinserts]
        rintro ⟨_, _, _, heq⟩
        cases heq
      simp [hnone, Change.caught]

/-- What a mutation does under any conditions. -/
theorem run_eq (m : Mutation) (c : Conditions) (s : Store) :
    m.run c s =
      match c.met (m.calls c s) with
      | some fault => (.error (m.raised (c.view s) fault), s)
      | none =>
        match m.plan.eval (c.view s) with
        | .error r => (.error (.refused r), s)
        | .ok d =>
          match s.apply c.givens d.change with
          | .error e => (.error (.refused (.error e)), s)
          | .ok (s', rows) => (.ok ⟨d.status, rows⟩, s') := by
  simp only [run, attempt, unitOfWork, work, Transaction.start, Transaction.rollback,
    m.met_calls c s, Plan.run_eq c (c.view s) 0 m.plan]
  have hraised : ∀ {sort : CallSort} {before calls : Nat} {fault : Fault},
      c.strikes sort before calls = some fault → sort ≠ .flush →
        fault.failure.ofUnitOfWork = m.raised (c.view s) fault := by
    intro sort before calls fault h hsort
    exact (m.raised_of_sort_ne _ ((Conditions.of_strikes h).2 ▸ hsort)).symm
  cases hreads : c.strikes .statement 0 (m.plan.statements c (c.view s)) with
  | some fault => simp [hraised hreads]
  | none =>
      cases hplan : m.plan.eval (c.view s) with
      | error r => rfl
      | ok d =>
          simp only [Except.map, mapError_ok, Decision.write, Nat.zero_add, Change.reach_eq,
            Option.none_or]
          cases hsends : c.strikes d.change.sort ((List.replicate (m.plan.statements c (c.view s))
              CallSort.statement).count d.change.sort) 1 with
          | some fault =>
              simp [ofUnitOfWork_caught hplan (Conditions.of_strikes hsends).2]
          | none =>
              simp only [Transaction.write, Option.elim_none, Option.none_or]
              cases s.apply c.givens d.change with
              | error e => rfl
              | ok done =>
                  simp only [Except.map, Conditions.reach_eq]
                  cases hcommit : c.strikes .commit 0 1 with
                  | some fault => simp [hraised hcommit]
                  | none => rfl

/-- A mutation leaves the tables as they were, or it makes the change that it decided. -/
theorem run_cases (m : Mutation) (c : Conditions) (s : Store) :
    (∃ f, m.run c s = (.error f, s)) ∨
      ∃ d s' rows, m.plan.eval (c.view s) = .ok d ∧ s.apply c.givens d.change = .ok (s', rows) ∧
        m.run c s = (.ok ⟨d.status, rows⟩, s') := by
  rw [run_eq]
  cases c.met (m.calls c s) with
  | some failure => exact Or.inl ⟨_, rfl⟩
  | none =>
      cases hplan : m.plan.eval (c.view s) with
      | error r => exact Or.inl ⟨_, rfl⟩
      | ok d =>
          cases happly : s.apply c.givens d.change with
          | error e => exact Or.inl ⟨.refused (.error e), by simp [happly]⟩
          | ok done => exact Or.inr ⟨d, done.1, done.2, rfl, happly, by simp [happly]⟩

/-- A mutation leaves the customers and the snapshots alone, whatever goes wrong. -/
theorem customers_run (m : Mutation) (c : Conditions) (s : Store) :
    (m.run c s).2.customers = s.customers ∧ (m.run c s).2.snapshots = s.snapshots := by
  rcases m.run_cases c s with ⟨f, hrun⟩ | ⟨d, s', rows, -, happly, hrun⟩
  · rw [hrun]
    exact ⟨rfl, rfl⟩
  · rw [hrun]
    exact Store.apply_customers happly

end Mutation

/-! ### What a request does to the tables -/

namespace Shop

theorem store_mutate (s : Shop) (c : Conditions) (m : Mutation) :
    (s.mutate c m).2.store = (m.run c s.store).2 := by
  unfold mutate
  split <;> simp_all [record]

theorem result_mutate (s : Shop) (c : Conditions) (m : Mutation) :
    (s.mutate c m).1.result = (m.run c s.store).1.map fun done => m.report done.status := by
  unfold mutate
  split <;> simp_all [Except.map]

/-- With nothing in the way, a plan that only reads comes to its evaluation. -/
theorem result_consult_calm {α : Type} (s : Shop) (givens : Givens) (p : Plan α) :
    (s.consult (.calm givens) p).result = (p.eval s.store.view).mapError .refused := by
  have hrun := Plan.run_of_fault_eq_none (c := .calm givens) rfl s.store.view 0 p
  unfold consult
  rw [Conditions.view_calm]
  cases hp : p.run (.calm givens) s.store.view 0 with
  | error f => rw [← hrun, hp]; rfl
  | ok done => rw [← hrun, hp]; rfl

theorem result_checkout (s : Shop) (limit : Int) (c : Conditions) (o : Order) :
    (s.checkout limit c o).1.result =
      (s.consult c (o.plan limit)).result.map fun b => ⟨c.givens.session, o.source, b⟩ := by
  unfold checkout
  split <;> simp_all [Except.map]

theorem store_checkout (s : Shop) (limit : Int) (c : Conditions) (o : Order) :
    (s.checkout limit c o).2.store = s.store := by
  unfold checkout
  split <;> rfl

/-- Only mutations write to the tables. -/
theorem store_call (s : Shop) (limit : Int) (c : Conditions) (call : Call) :
    (s.call limit c call).2.store =
      match call with
      | .mutate m => (m.run c s.store).2
      | _ => s.store := by
  cases call with
  | mutate m => exact s.store_mutate c m
  | list user => rfl
  | summary user variants => rfl
  | checkout o => exact s.store_checkout limit c o

end Shop

end Storefront
