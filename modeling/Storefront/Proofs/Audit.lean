/-
A bundle can be audited from its own fields.

The totals of a bundle are added up line by line, beside the groups and not from them.
They are nevertheless the totals of what the groups hold: one more line adds the same to
both, and the order in which the groups keep their variants does not matter to a sum.
Every variant in a group also discloses enough to compute its price again, its base price
and its discount.

Pricing refuses a quantity that is not positive.  The loop never asks for one, since it
passes over such lines before; so the loop that could fail at every price is the loop that
cannot, and `build_eq_ofLines` says that the two are the same.
-/
import Mathlib.Algebra.Order.BigOperators.Group.List
import Mathlib.Algebra.Order.Ring.Int
import Storefront.Cart.Document
import Storefront.Proofs.Bundles
import Storefront.Proofs.Discounts

namespace Storefront

/-! ### Prices that can be computed again -/

namespace PricedVariant

/-- Whether a discount is disclosed. -/
def hasDiscount (v : PricedVariant) : Bool := v.discount.isSome

/-- The kind of the discount. -/
def discountKind? (v : PricedVariant) : Option DiscountKind := v.discount.map (·.kind)

/-- The amount of the discount, zero without one. -/
def discountValue (v : PricedVariant) : Int := (v.discount.map (·.amount)).getD 0

/-- Clients are told these three of a discount. -/
theorem discountMembers_discount (v : PricedVariant) :
    discountMembers v.discount =
      [("has_discount", .bool v.hasDiscount),
       ("discount_type", (v.discountKind?.map DiscountKind.json).getD .null),
       ("discount_value", .int v.discountValue)] := by
  unfold discountMembers hasDiscount discountKind? discountValue
  cases v.discount <;> rfl

/-- The price of a variant is what its own fields make of it. -/
structure Fair (v : PricedVariant) : Prop where
  quantity_pos : 0 < v.quantity
  unitPrice_nonneg : 0 ≤ v.unitPrice
  total_eq : v.total = v.unitPrice * v.quantity
  discounted : v.hasDiscount = true →
    ∃ kind, v.discountKind? = some kind ∧ v.unitPrice = kind.apply v.basePrice v.discountValue
  undiscounted : v.hasDiscount = false →
    v.unitPrice = max v.basePrice 0 ∧ v.discountKind? = none ∧ v.discountValue = 0

theorem Fair.total_nonneg {v : PricedVariant} (h : v.Fair) : 0 ≤ v.total := by
  rw [h.total_eq]
  exact Int.mul_nonneg h.unitPrice_nonneg h.quantity_pos.le

end PricedVariant

namespace CartLine

/-- The variant of a line at a price. -/
def atPrice (l : CartLine) (p : PricedLine) : PricedVariant where
  variant := l.snapshot.variant.id
  color := l.snapshot.variant.color
  size := l.snapshot.variant.size
  quantity := p.quantity
  tier := p.tier
  basePrice := p.basePrice
  unitPrice := p.unitPrice
  discount := p.discount
  total := p.total
  weightGrams := l.snapshot.variant.weightGrams

theorem priced_eq_atPrice (l : CartLine) :
    l.priced = l.atPrice (l.snapshot.prices.line l.quantity) := rfl

/-- Either tier, and any terms or none, make a fair price. -/
theorem fair_priced {l : CartLine} (h : 0 < l.quantity) : l.priced.Fair := by
  rw [priced_eq_atPrice, PriceList.line_eq_lineIn, PriceList.lineIn, PriceList.unitPrice]
  cases l.snapshot.prices.terms? (l.snapshot.prices.tier l.quantity) with
  | none =>
      refine ⟨h, le_max_right _ _, rfl, ?_, fun _ => ⟨rfl, rfl, rfl⟩⟩
      intro hdiscount
      cases hdiscount
  | some terms =>
      refine ⟨h, terms.kind.apply_nonneg _ _, rfl, fun _ => ⟨terms.kind, rfl, rfl⟩, ?_⟩
      intro hdiscount
      cases hdiscount

theorem fair_of_valid? {l : CartLine} {v : PricedVariant} (h : l.valid? = some v) : v.Fair := by
  obtain ⟨hsold, hv⟩ := Option.ite_none_right_eq_some.mp h
  have hquantity : 0 < l.quantity := by simpa using (Bool.and_eq_true_iff.mp hsold).1
  cases hv
  exact fair_priced hquantity

end CartLine

/-! ### Totals -/

namespace Bundle

/-- The totals of a bundle are those of the variants in its groups, at fair prices. -/
structure Audited (b : Bundle) : Prop where
  subtotal_eq : b.subtotal = (b.variants.map (·.total)).sum
  weightGrams_eq : b.weightGrams = (b.variants.map fun v => v.quantity * v.weightGrams).sum
  count_eq : b.count = b.variants.length
  fair : ∀ v ∈ b.variants, v.Fair

theorem audited_empty : empty.Audited :=
  ⟨rfl, rfl, rfl, fun _ h => absurd h List.not_mem_nil⟩

theorem Audited.subtotal_nonneg {b : Bundle} (h : b.Audited) : 0 ≤ b.subtotal := by
  rw [h.subtotal_eq]
  refine List.sum_nonneg fun total htotal => ?_
  obtain ⟨v, hv, rfl⟩ := List.mem_map.mp htotal
  exact (h.fair v hv).total_nonneg

/-- A line adds to the totals what it adds to the groups. -/
theorem totals_add (b : Bundle) (l : CartLine) :
    (b.add l).subtotal = b.subtotal + (l.valid?.toList.map (·.total)).sum ∧
      (b.add l).weightGrams =
        b.weightGrams + (l.valid?.toList.map fun v => v.quantity * v.weightGrams).sum ∧
      (b.add l).count = b.count + l.valid?.toList.length := by
  unfold add CartLine.valid?
  by_cases hquantity : l.quantity ≤ 0
  · have hnot : ¬0 < l.quantity := by omega
    simp [hquantity, hnot]
  · have hpos : 0 < l.quantity := by omega
    cases heligible : l.snapshot.isEligible <;> simp [hquantity, hpos]

theorem Audited.add {b : Bundle} (h : b.Audited) (l : CartLine) : (b.add l).Audited := by
  obtain ⟨hsubtotal, hweight, hcount⟩ := b.totals_add l
  have hperm := b.perm_variants_add l
  constructor
  · rw [hsubtotal, h.subtotal_eq, (hperm.map _).sum_eq, List.map_append, List.sum_append]
  · rw [hweight, h.weightGrams_eq, (hperm.map _).sum_eq, List.map_append, List.sum_append]
  · rw [hcount, h.count_eq, hperm.length_eq, List.length_append]
  · intro v hv
    cases List.mem_append.mp (hperm.mem_iff.mp hv) with
    | inl hold => exact h.fair v hold
    | inr hnew => exact CartLine.fair_of_valid? (Option.mem_toList.mp hnew)

theorem Audited.foldl {b : Bundle} (h : b.Audited) (lines : List CartLine) :
    (lines.foldl Bundle.add b).Audited := by
  induction lines generalizing b with
  | nil => exact h
  | cons l rest ih => exact ih (h.add l)

end Bundle

/-! ### Building with prices that can fail -/

namespace CartLine

/-- The sellers of a bundle with a variant under the seller and the product of a line. -/
def shelve (l : CartLine) (v : PricedVariant) : List SellerGroup → List SellerGroup :=
  upsert (·.seller == l.snapshot.seller.id) l.sellerGroup fun s =>
    { s with
      products := upsert (·.product == l.snapshot.product.id) l.productGroup
        (fun p => { p with variants := p.variants ++ [v] }) s.products }

end CartLine

namespace Bundle

/-- The bundle with one more line, or the error of its price. -/
def addQuoted (b : Bundle) (l : CartLine) : Except ServiceError Bundle :=
  if l.quantity ≤ 0 then .ok b
  else if !l.snapshot.isEligible then
    .ok { b with invalid := b.invalid ++ [.unavailable l.snapshot] }
  else do
    let p ← l.snapshot.prices.price l.quantity
    return { b with
      sellers := l.shelve (l.atPrice p) b.sellers
      subtotal := b.subtotal + p.total
      weightGrams := b.weightGrams + p.quantity * l.snapshot.variant.weightGrams
      count := b.count + 1 }

/-- The bundle of some lines for a request, or the error of a price. -/
def build (lines : List CartLine) (requested : List Uuid) : Except ServiceError Bundle := do
  let b ← lines.foldlM addQuoted empty
  return { b with invalid := b.invalid ++ (missing lines requested).map .notFound }

/-- No quantity that pricing refuses comes as far as pricing. -/
theorem addQuoted_eq_add (b : Bundle) (l : CartLine) : b.addQuoted l = .ok (b.add l) := by
  unfold addQuoted add PriceList.price
  by_cases hquantity : l.quantity ≤ 0
  · rw [if_pos hquantity, if_pos hquantity]
  · rw [if_neg hquantity, if_neg hquantity, if_neg hquantity]
    cases l.snapshot.isEligible <;> rfl

theorem foldlM_addQuoted (lines : List CartLine) (b : Bundle) :
    lines.foldlM addQuoted b = .ok (lines.foldl add b) := by
  induction lines generalizing b with
  | nil => rfl
  | cons l rest ih =>
      rw [List.foldlM_cons, addQuoted_eq_add, List.foldl_cons, ← ih]
      rfl

theorem build_eq_ofLines (lines : List CartLine) (requested : List Uuid) :
    build lines requested = .ok (ofLines lines requested) := by
  rw [build, foldlM_addQuoted]
  rfl

/-- **Every bundle is built, and agrees with its own fields.** -/
theorem build_audited (lines : List CartLine) (requested : List Uuid) :
    ∃ b, build lines requested = .ok b ∧ b = ofLines lines requested ∧ b.Audited ∧
      0 ≤ b.subtotal := by
  have hloop : (lines.foldl Bundle.add empty).Audited := audited_empty.foldl lines
  have haudited : (ofLines lines requested).Audited :=
    ⟨hloop.subtotal_eq, hloop.weightGrams_eq, hloop.count_eq, hloop.fair⟩
  exact ⟨_, build_eq_ofLines lines requested, rfl, haudited, haudited.subtotal_nonneg⟩

end Bundle

end Storefront
