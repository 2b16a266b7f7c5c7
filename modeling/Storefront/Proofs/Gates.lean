/-
What a change of a cart is refused with.

A refusal comes from a gate or from a check.  The gates are the moderation of the customer, for
every request, and of the variant, for an add and an update; what they hold against a request
is a verdict of the tables (`Store.gate?`).  The checks have the errors of `mutationErrors` and
no others.  `Refusal.Raised` says this of one refusal, and each check has one lemma.
-/
import Storefront.Proofs.Plans

namespace Storefront

/-! ### Gates -/

/-- What a verdict turns a request down with. -/
def Verdict.rejection? : Verdict → Option Rejection
  | eligible => none
  | rejected r => some r

theorem Verdict.objection?_eq (v : Verdict) : v.objection? = v.rejection?.map .gate := by
  cases v <;> rfl

namespace Store

/-- What the gate of a customer holds against them. -/
def customerGate? (s : Store) (user : Uuid) : Option Rejection :=
  (s.customer? user).bind (·.verdict.rejection?)

/-- What the gate of a variant holds against it, of a given product if one is asked for. -/
def variantGate? (s : Store) (variant : Uuid) (product : Option Uuid) : Option Rejection :=
  (s.snapshot? variant product).bind (·.verdict.rejection?)

/-- What the gates hold against a mutation: the one of the customer first, and then, when
something is added or updated, the one of the variant. -/
def gate? (s : Store) (m : Mutation) : Option Rejection :=
  (s.customerGate? m.user).or <|
    match m with
    | .add _ product variant _ => s.variantGate? variant (some product)
    | .update _ variant _ => s.variantGate? variant none
    | .remove .. | .clear _ => none

end Store

/-! ### Refusals -/

/-- The errors of the checks that a mutation goes through beside the gates. -/
def mutationErrors : List ServiceError :=
  [.validation "required_quantity" rangeReason,
    .notFound "user",
    .notFound "variant snapshot",
    .validation "required_quantity" "not enough stock available",
    RowState.alreadyInCart,
    .notFound "cart item",
    .validation "cart" "cart item is archived",
    .validation "cart_item" "item not found",
    .conflict "item already removed"]

/-- The refusal is what the gates hold against a request, or has an error of the checks. -/
inductive Refusal.Raised (gate? : Option Rejection) : Refusal → Prop
  | gate {r : Rejection} (h : gate? = some r) : Raised gate? (.gate r)
  | error {e : ServiceError} (h : e ∈ mutationErrors) : Raised gate? (.error e)

theorem Refusal.Raised.or {g : Option Rejection} {r : Refusal} (h : r.Raised g)
    (g' : Option Rejection) : r.Raised (g.or g') := by
  cases h with
  | gate h =>
      rw [h]
      exact .gate rfl
  | error h => exact .error h

theorem Verdict.raised_objection? {v : Verdict} {r : Refusal} (h : v.objection? = some r) :
    r.Raised v.rejection? := by
  rw [objection?_eq] at h
  obtain ⟨rejection, hrejection, rfl⟩ := Option.map_eq_some_iff.mp h
  exact .gate hrejection

theorem raised_quantityObjection? {quantity : Int} {r : Refusal}
    (h : quantityObjection? quantity = some r) (g : Option Rejection) : r.Raised g := by
  unfold quantityObjection? at h
  split at h
  · cases h
  · obtain rfl := Option.some.inj h
    exact .error (by simp [mutationErrors])

namespace Store

variable {s : Store} {user variant : Uuid} {r : Refusal}

theorem raised_customerObjection? (h : s.customerObjection? user = some r) :
    r.Raised (s.customerGate? user) := by
  unfold customerObjection? at h
  unfold customerGate?
  cases hcustomer : s.customer? user with
  | none =>
      rw [hcustomer] at h
      obtain rfl := Option.some.inj h
      exact .error (by simp [mutationErrors])
  | some c =>
      rw [hcustomer] at h
      exact Verdict.raised_objection? h

theorem customerGate?_eq_none (h : s.customerObjection? user = none) :
    s.customerGate? user = none := by
  unfold customerObjection? at h
  unfold customerGate?
  cases hcustomer : s.customer? user with
  | none => rfl
  | some c =>
      have hverdict : c.verdict.objection? = none := by rwa [hcustomer] at h
      rw [Verdict.objection?_eq] at hverdict
      exact Option.map_eq_none_iff.mp hverdict

theorem raised_variantObjection? {product : Option Uuid} {quantity : Int}
    (h : s.variantObjection? variant product quantity = some r) :
    r.Raised (s.variantGate? variant product) := by
  unfold variantObjection? at h
  unfold variantGate?
  cases hsnapshot : s.snapshot? variant product with
  | none =>
      rw [hsnapshot] at h
      obtain rfl := Option.some.inj h
      exact .error (by simp [mutationErrors])
  | some x =>
      rw [hsnapshot] at h
      rcases Option.or_eq_some_iff.mp h with hverdict | ⟨-, hstock⟩
      · exact Verdict.raised_objection? hverdict
      · split at hstock
        · obtain rfl := Option.some.inj hstock
          exact .error (by simp [mutationErrors])
        · cases hstock

/-- What is held against a mutation before a row is looked at. -/
theorem raised_objection? {m : Mutation} (h : s.objection? m = some r) :
    r.Raised (s.gate? m) := by
  have hsale : ∀ user variant product quantity,
      (quantityObjection? quantity).or
        ((s.customerObjection? user).or (s.variantObjection? variant product quantity)) = some r →
      r.Raised ((s.customerGate? user).or (s.variantGate? variant product)) := by
    intro user variant product quantity hsale
    rcases Option.or_eq_some_iff.mp hsale with hquantity | ⟨-, hsale⟩
    · exact raised_quantityObjection? hquantity _
    · rcases Option.or_eq_some_iff.mp hsale with hcustomer | ⟨hcustomer, hvariant⟩
      · exact (raised_customerObjection? hcustomer).or _
      · rw [customerGate?_eq_none hcustomer]
        exact raised_variantObjection? hvariant
  cases m with
  | add user product variant quantity => exact hsale user variant (some product) quantity h
  | update user variant quantity => exact hsale user variant none quantity h
  | remove user variant => exact (raised_customerObjection? h).or _
  | clear user => exact (raised_customerObjection? h).or _

end Store

/-- An illegal step has an error of the checks. -/
theorem RowState.mem_mutationErrors {state : RowState} {action : Action} {e : ServiceError}
    (h : state.transition action = .error e) : e ∈ mutationErrors := by
  cases state <;> cases action <;>
    simp_all [transition, status?, refusal, mutationErrors, eq_comm]

end Storefront
