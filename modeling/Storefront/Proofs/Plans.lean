/-
What a plan comes to.

`Plan.eval` is the plan on tables that stay as they are, and the lemmas of the first
section push it through the combinators that plans are written with.  Each check of a
mutation then has one equation that says what it comes to, and `eval_checks_iff` reads
off which requests pass all of them: `Store.admits` is that condition, said of the tables
and without plans.

`Plan.run` is the plan when statements may fail.  A plan sends its statements whatever
happens, up to the one that fails, so the number of statements it sends when none fails
decides whether a fault is met at all.  `run_eq` says that a plan under a fault either
fails with the fault or comes to what it comes to without.
-/
import Storefront.Cart.Mutation

namespace Storefront

/-! ### Evaluating -/

namespace Plan

variable {α β : Type} {view : View}

@[simp]
theorem eval_pure (a : α) : (pure a : Plan α).eval view = .ok a := rfl

@[simp]
theorem eval_decided (a : α) : (decided a).eval view = .ok a := rfl

@[simp]
theorem eval_seq (p : Plan α) (f : α → Plan β) :
    (p >>= f).eval view = (p.eval view).bind fun a => (f a).eval view :=
  eval_bind view p f

@[simp]
theorem eval_query (q : Query) : (query q).eval view = .ok (view q) := rfl

@[simp]
theorem eval_refuse (e : ServiceError) : (refuse e : Plan α).eval view = .error (.error e) := rfl

end Plan

/-! ### What is held against a request

The checks of a mutation, said of the tables and without plans: each comes to an objection
or to none, and the first objection stands.
-/

/-- What a verdict holds against a request. -/
def Verdict.objection? : Verdict → Option Refusal
  | eligible => none
  | rejected r => some (.gate r)

/-- What is held against a quantity. -/
def quantityObjection? (quantity : Int) : Option Refusal :=
  if inRange quantity then none
  else some (.error (.validation "required_quantity" rangeReason))

namespace Store

/-- What is held against a customer, who has to exist and to pass moderation. -/
def customerObjection? (s : Store) (user : Uuid) : Option Refusal :=
  match s.customer? user with
  | none => some (.error (.notFound "user"))
  | some c => c.verdict.objection?

/-- What is held against a variant, which has to exist, to pass moderation and to be in
stock in a quantity. -/
def variantObjection? (s : Store) (variant : Uuid) (product : Option Uuid) (quantity : Int) :
    Option Refusal :=
  match s.snapshot? variant product with
  | none => some (.error (.notFound "variant snapshot"))
  | some x =>
    x.verdict.objection?.or
      (if x.variant.stock < quantity then
        some (.error (.validation "required_quantity" "not enough stock available"))
      else none)

/-- What is held against a mutation before a row is looked at. -/
def objection? (s : Store) : Mutation → Option Refusal
  | .add user product variant quantity =>
    (quantityObjection? quantity).or
      ((s.customerObjection? user).or (s.variantObjection? variant (some product) quantity))
  | .update user variant quantity =>
    (quantityObjection? quantity).or
      ((s.customerObjection? user).or (s.variantObjection? variant none quantity))
  | .remove user _ | .clear user => s.customerObjection? user

end Store

/-- A check that comes to an objection, or to none. -/
def settle (objection : Option Refusal) : Except Refusal Unit :=
  objection.elim (.ok ()) .error

theorem settle_eq_ok {objection : Option Refusal} :
    settle objection = .ok () ↔ objection = none := by
  cases objection <;> simp [settle]

theorem settle_eq_error {objection : Option Refusal} {r : Refusal} :
    settle objection = .error r ↔ objection = some r := by
  cases objection <;> simp [settle]

theorem settle_bind (a b : Option Refusal) :
    ((settle a).bind fun _ => settle b) = settle (a.or b) := by
  cases a <;> rfl

section Checks

theorem eval_pass (v : Verdict) (view : View) :
    (Plan.pass v).eval view = settle v.objection? := by
  cases v <;> rfl

theorem eval_checkedQuantity (quantity : Int) (view : View) :
    (checkedQuantity quantity).eval view = settle (quantityObjection? quantity) := by
  unfold checkedQuantity quantityObjection?
  split <;> rfl

/-- A view shows the customers and the snapshots of some tables, whatever it shows of the rows. -/
structure View.UpToDate (view : View) (s : Store) : Prop where
  customer : ∀ user, view (.customer user) = s.customer? user
  snapshot : ∀ variant product, view (.snapshot variant product) = s.snapshot? variant product

theorem Store.upToDate_view (s : Store) : s.view.UpToDate s := ⟨fun _ => rfl, fun _ _ => rfl⟩

theorem Conditions.upToDate_view (c : Conditions) (s : Store) : (c.view s).UpToDate s :=
  ⟨fun _ => rfl, fun _ _ => rfl⟩

variable {view : View} {s : Store} (h : view.UpToDate s)

include h

theorem eval_eligibleCustomer (user : Uuid) :
    (eligibleCustomer user).eval view = settle (s.customerObjection? user) := by
  have hread : (findCustomer user).eval view =
      match s.customer? user with
      | none => .error (.error (.notFound "user"))
      | some c => .ok c := by
    rw [findCustomer, Plan.eval_seq, Plan.eval_query, h.customer]
    cases s.customer? user <;> rfl
  rw [eligibleCustomer, Plan.eval_seq, hread, Store.customerObjection?]
  cases s.customer? user with
  | none => rfl
  | some c => exact eval_pass c.verdict _

theorem eval_sellableVariant (variant : Uuid) (product : Option Uuid) (quantity : Int) :
    (sellableVariant variant product quantity).eval view =
      settle (s.variantObjection? variant product quantity) := by
  have hread : (findSnapshot variant product).eval view =
      match s.snapshot? variant product with
      | none => .error (.error (.notFound "variant snapshot"))
      | some x => .ok x := by
    rw [findSnapshot, Plan.eval_seq, Plan.eval_query, h.snapshot]
    cases s.snapshot? variant product <;> rfl
  rw [sellableVariant, Plan.eval_seq, hread, Store.variantObjection?]
  cases s.snapshot? variant product with
  | none => rfl
  | some x =>
      show ((Plan.pass x.verdict >>= fun _ => _ : Plan Unit)).eval view = _
      rw [Plan.eval_seq, eval_pass, ← settle_bind]
      congr 1
      funext _
      by_cases hstock : x.variant.stock < quantity
      · simp only [if_pos hstock]; rfl
      · simp only [if_neg hstock]; rfl

/-- The checks of a mutation come to what is held against it.  They look at no row, so it
does not matter how rows are read. -/
theorem Mutation.eval_checks (m : Mutation) :
    m.checks.eval view = settle (s.objection? m) := by
  cases m with
  | add user product variant quantity =>
      simp only [checks, Plan.eval_seq, eval_checkedQuantity, eval_eligibleCustomer h,
        eval_sellableVariant h, settle_bind, Store.objection?]
  | update user variant quantity =>
      simp only [checks, Plan.eval_seq, eval_checkedQuantity, eval_eligibleCustomer h,
        eval_sellableVariant h, settle_bind, Store.objection?]
  | remove user variant => exact eval_eligibleCustomer h user
  | clear user => exact eval_eligibleCustomer h user

end Checks

/-! ### Which requests pass the checks -/

namespace Store

/-- The customer exists, and is neither archived nor banned. -/
def serves (s : Store) (user : Uuid) : Bool :=
  (s.customer? user).any fun c => !c.archived && !c.banned

/-- The variant has a snapshot, of a given product if one is asked for, which can be
bought and is in stock in a quantity. -/
def sells (s : Store) (variant : Uuid) (product : Option Uuid) (quantity : Int) : Bool :=
  (s.snapshot? variant product).any fun x => x.isEligible && quantity ≤ x.variant.stock

/-- Everything that has to hold before a row is looked at. -/
def admits (s : Store) : Mutation → Bool
  | .add user product variant quantity =>
    inRange quantity && s.serves user && s.sells variant (some product) quantity
  | .update user variant quantity =>
    inRange quantity && s.serves user && s.sells variant none quantity
  | .remove user _ | .clear user => s.serves user

end Store

theorem Customer.objection?_verdict (c : Customer) :
    c.verdict.objection? = none ↔ (!c.archived && !c.banned) = true := by
  unfold verdict
  cases c.archived <;> cases c.banned <;> simp [Verdict.because, Verdict.objection?]

theorem Snapshot.objection?_verdict (x : Snapshot) :
    x.verdict.objection? = none ↔ x.isEligible = true := by
  unfold isEligible
  cases x.verdict <;> simp [Verdict.isEligible, Verdict.objection?]

theorem quantityObjection?_eq_none {quantity : Int} :
    quantityObjection? quantity = none ↔ inRange quantity = true := by
  unfold quantityObjection?
  cases inRange quantity <;> simp

namespace Store

variable {s : Store} {user variant : Uuid} {product : Option Uuid} {quantity : Int}

theorem customerObjection?_eq_none :
    s.customerObjection? user = none ↔ s.serves user = true := by
  unfold customerObjection? serves
  cases s.customer? user with
  | none => simp
  | some c => exact c.objection?_verdict

theorem variantObjection?_eq_none :
    s.variantObjection? variant product quantity = none ↔
      s.sells variant product quantity = true := by
  unfold variantObjection? sells
  cases s.snapshot? variant product with
  | none => simp
  | some x =>
      have hstock : ¬x.variant.stock < quantity ↔ quantity ≤ x.variant.stock := by omega
      simp [Option.or_eq_none_iff, x.objection?_verdict, hstock]

/-- Nothing is held against a mutation exactly when the tables admit it. -/
theorem objection?_eq_none {m : Mutation} : s.objection? m = none ↔ s.admits m = true := by
  cases m <;>
    simp only [objection?, admits, Option.or_eq_none_iff, quantityObjection?_eq_none,
      customerObjection?_eq_none, variantObjection?_eq_none, Bool.and_eq_true, and_assoc]

end Store

/-! ### What a mutation decides -/

theorem eval_decideStep {view : View} (user variant : Uuid) (step : Step) :
    (decideStep user variant step).eval view =
      match step.take ((view (.row user variant)).map (·.holding)) with
      | (.ok status, after) =>
        .ok ⟨.between user variant (view (.row user variant)) after, status⟩
      | (.error e, _) => .error (.error e) := by
  rw [decideStep, Plan.eval_seq, Plan.eval_query]
  show Plan.eval view _ = _
  cases step.take ((view (.row user variant)).map (·.holding)) with
  | mk verdict after => cases verdict <;> simp

/-- A read of a row finds the row, or nothing. -/
theorem Conditions.view_row (c : Conditions) (s : Store) (user variant : Uuid) :
    c.view s (.row user variant) = none ∨ c.view s (.row user variant) = s.row? user variant := by
  show (if c.staleRows then none else s.row? user variant) = none ∨
    (if c.staleRows then none else s.row? user variant) = _
  cases c.staleRows <;> simp

/-- A mutation that nothing is held against comes to what its decision comes to. -/
theorem Mutation.eval_plan (c : Conditions) (s : Store) (m : Mutation) :
    m.plan.eval (c.view s) =
      match s.objection? m with
      | some r => .error r
      | none => m.decision.eval (c.view s) := by
  rw [plan, Plan.eval_seq, eval_checks (c.upToDate_view s)]
  cases s.objection? m <;> rfl

/-- What a mutation that decides has found: the tables admit it, and it either clears the
cart or takes its step on the row as it was read. -/
theorem Mutation.of_eval_plan {c : Conditions} {s : Store} {m : Mutation} {d : Decision}
    (h : m.plan.eval (c.view s) = .ok d) :
    s.admits m = true ∧
      ((m = .clear m.user ∧ d = ⟨.clear m.user, .cleared⟩) ∨
        ∃ variant status after, m.variant? = some variant ∧
          m.step.take ((c.view s (.row m.user variant)).map (·.holding)) = (.ok status, after) ∧
          d = ⟨.between m.user variant (c.view s (.row m.user variant)) after, status⟩) := by
  rw [eval_plan] at h
  cases hobjection : s.objection? m with
  | some r => simp [hobjection] at h
  | none =>
      refine ⟨Store.objection?_eq_none.mp hobjection, ?_⟩
      simp only [hobjection, decision] at h
      cases hvariant : m.variant? with
      | none =>
          simp only [hvariant, Plan.eval_pure, Except.ok.injEq] at h
          cases m <;> simp_all [variant?, user]
      | some variant =>
          simp only [hvariant, eval_decideStep] at h
          rcases htake : m.step.take ((c.view s (.row m.user variant)).map (·.holding)) with
            ⟨e | status, after⟩
          · simp [htake] at h
          · simp only [htake, Except.ok.injEq] at h
            exact Or.inr ⟨variant, status, after, rfl, htake, h.symm⟩

/-! ### Running under a fault -/

/-- The fault that is met by one of some database calls of a sort, when so many calls of the
sort have come before. -/
def Conditions.strikes (c : Conditions) (sort : CallSort) (before calls : Nat) : Option Fault :=
  match c.fault with
  | none => none
  | some f => if f.sort = sort ∧ 0 < calls ∧ f.spared < before + calls then some f else none

theorem Conditions.reach_eq (c : Conditions) (sort : CallSort) (before : Nat) :
    c.reach sort before = (c.strikes sort before 1).elim (.ok ()) (.error ·.failure) := by
  unfold reach strikes
  cases c.fault with
  | none => rfl
  | some f =>
      by_cases h : f.sort = sort ∧ f.spared ≤ before
      · have h' : f.sort = sort ∧ 0 < 1 ∧ f.spared < before + 1 := ⟨h.1, by omega, by omega⟩
        simp [h, h']
      · have h' : ¬(f.sort = sort ∧ 0 < 1 ∧ f.spared < before + 1) := by
          rintro ⟨hsort, -, hlt⟩
          exact h ⟨hsort, by omega⟩
        simp only [if_neg h, if_neg h', Option.elim_none]

/-- What strikes is the fault, and it is one of the sort of the calls. -/
theorem Conditions.of_strikes {c : Conditions} {sort : CallSort} {before calls : Nat}
    {fault : Fault} (h : c.strikes sort before calls = some fault) :
    c.fault = some fault ∧ fault.sort = sort := by
  unfold strikes at h
  split at h
  · cases h
  · next f hfault =>
    obtain ⟨hstrikes, hf⟩ := Option.ite_none_right_eq_some.mp h
    obtain rfl := Option.some.inj hf
    exact ⟨hfault, hstrikes.1⟩

/-- Calls that follow one another strike when the first of them do, or else the rest. -/
theorem Conditions.strikes_add (c : Conditions) (sort : CallSort) (before m n : Nat) :
    c.strikes sort before (m + n) =
      (c.strikes sort before m).or (c.strikes sort (before + m) n) := by
  unfold strikes
  cases c.fault with
  | none => rfl
  | some f =>
      by_cases hsort : f.sort = sort
      · simp only [hsort, true_and]
        by_cases hm : 0 < m ∧ f.spared < before + m
        · have hmn : 0 < m + n ∧ f.spared < before + (m + n) := by omega
          rw [if_pos hm, if_pos hmn, Option.some_or]
        · have hmn : (0 < m + n ∧ f.spared < before + (m + n)) ↔
              0 < n ∧ f.spared < before + m + n := by omega
          simp only [if_neg hm, Option.none_or, hmn]
      · simp [hsort]

namespace Plan

variable {α : Type}

/-- How many statements a plan sends when none of them fails. -/
def statements (c : Conditions) (view : View) : Plan α → Nat
  | decided _ | refused _ => 0
  | ask q next => (if c.sends q then 1 else 0) + (next (view q)).statements c view

/-- A plan under a fault fails with it, if it gets that far, or comes to what it comes to
without.  The induction is on the plan; what it generalises is how many statements have
been sent before. -/
theorem run_eq (c : Conditions) (view : View) (sent : Nat) (p : Plan α) :
    p.run c view sent =
      match c.strikes .statement sent (p.statements c view) with
      | some fault => .error fault.failure
      | none => ((p.eval view).mapError .refused).map fun a => (a, sent + p.statements c view) := by
  have hidle : ∀ before, c.strikes .statement before 0 = none := by
    intro before
    unfold Conditions.strikes
    cases c.fault <;> simp
  induction p generalizing sent with
  | decided a => simp [run, statements, hidle, eval, Except.map]
  | refused r => simp [run, statements, hidle, eval, Except.map]
  | ask q next ih =>
      cases hsends : c.sends q with
      | false =>
          simp only [run, hsends, statements, eval, Nat.zero_add, ih (view q) sent, if_false,
            Bool.false_eq_true]
      | true =>
          simp only [run, hsends, statements, eval, if_true, Conditions.reach_eq,
            Conditions.strikes_add, ih (view q) (sent + 1), Nat.add_assoc]
          cases c.strikes .statement sent 1 <;> rfl

/-- A plan fails with what it is refused with, or with a fault. -/
theorem exists_of_run_eq_error {c : Conditions} {view : View} {sent : Nat} {p : Plan α}
    {f : Failure} (h : p.run c view sent = .error f) :
    (∃ r, p.eval view = .error r ∧ f = .refused r) ∨
      ∃ fault, c.fault = some fault ∧ f = fault.failure := by
  rw [run_eq] at h
  cases hstrikes : c.strikes .statement sent (p.statements c view) with
  | some fault =>
      rw [hstrikes] at h
      exact Or.inr ⟨fault, (Conditions.of_strikes hstrikes).1, (Except.error.inj h).symm⟩
  | none =>
      rw [hstrikes] at h
      cases heval : p.eval view with
      | ok a =>
          rw [heval] at h
          cases h
      | error r =>
          rw [heval] at h
          exact Or.inl ⟨r, rfl, (Except.error.inj h).symm⟩

end Plan

end Storefront
