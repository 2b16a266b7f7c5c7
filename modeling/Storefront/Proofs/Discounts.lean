/-
What a discount can do to a price.

A flat amount makes a price smaller, and so does a percentage of a price that is not
negative.  A percentage of a negative price is negative as well, and taking it off moves the
price up: over a hundred per cent take it past zero, where the clamp no longer holds it.
`DiscountKind.apply_le_iff` says that a discount raises these prices and no others, and how
high the percentage has to be.

The percentage of a price is a truncated quotient (`divTowardZero_eq_tdiv`), so what is
known of such quotients holds of it.
-/
import Mathlib.Data.Int.Order.Basic
import Mathlib.Order.Lattice
import Storefront.Proofs.Quotients

namespace Storefront

/-! ### Discounts -/

namespace DiscountKind

theorem apply_nonneg (kind : DiscountKind) (price amount : Int) : 0 ≤ kind.apply price amount := by
  cases kind <;> exact le_max_right _ _

/-- A percentage that raises a price: the price is negative, and what is taken off lies below
it by a whole unit at least. -/
def Raises (kind : DiscountKind) (price amount : Int) : Prop :=
  kind = percentage ∧ price < 0 ∧ 100 * (1 - price) ≤ -price * amount

theorem not_raises_of_nonneg (kind : DiscountKind) {price : Int} (h : 0 ≤ price) (amount : Int) :
    ¬kind.Raises price amount := by
  rintro ⟨-, hneg, -⟩
  omega

/-- A percentage of a price that is not negative is taken off it. -/
theorem apply_percentage_of_nonneg {price amount : Int} (hprice : 0 ≤ price)
    (hamount : 0 ≤ amount) :
    percentage.apply price amount = max (price - price * amount / 100) 0 := by
  rw [apply, divTowardZero_of_nonneg (Int.mul_nonneg hprice hamount)]

/-- A percentage of a negative price is put on it. -/
theorem apply_percentage_of_neg {price amount : Int} (hprice : price < 0) (hamount : 0 ≤ amount) :
    percentage.apply price amount = max (price + -price * amount / 100) 0 := by
  have hproduct : price * amount = -(-price * amount) := by
    rw [Int.neg_mul, Int.neg_neg]
  have hopposite : 0 ≤ -price * amount := Int.mul_nonneg (by omega) hamount
  rw [apply, hproduct, divTowardZero_neg, divTowardZero_of_nonneg hopposite, Int.sub_neg]

/-- **A discount leaves a price as it was or makes it lower**, unless it is a percentage that
raises it. -/
theorem apply_le_iff (kind : DiscountKind) {price amount : Int} (hamount : 0 ≤ amount) :
    kind.apply price amount ≤ max price 0 ↔ ¬kind.Raises price amount := by
  cases kind with
  | flat =>
      refine iff_of_true ?_ fun h => by cases h.1
      show max (price - amount) 0 ≤ max price 0
      omega
  | other name unlisted => exact iff_of_true le_rfl fun h => by cases h.1
  | percentage =>
      by_cases hprice : 0 ≤ price
      · have hproduct : 0 ≤ price * amount := Int.mul_nonneg hprice hamount
        refine iff_of_true ?_ (not_raises_of_nonneg _ hprice amount)
        rw [apply_percentage_of_nonneg hprice hamount]
        omega
      · have hneg : price < 0 := by omega
        rw [apply_percentage_of_neg hneg hamount]
        -- past zero, the quotient decides alone
        have hraises : percentage.Raises price amount ↔ 100 * (1 - price) ≤ -price * amount :=
          ⟨fun h => h.2.2, fun h => ⟨rfl, hneg, h⟩⟩
        rw [hraises]
        generalize -price * amount = taken
        omega

end DiscountKind

/-! ### Prices with and without a discount -/

/-- What one unit of a base price costs, on some terms or on none. -/
def charged (base : Int) : Option DiscountTerms → Int
  | none => max base 0
  | some terms => terms.kind.apply base terms.amount

namespace PriceList

/-- The prices with the discount of a tier switched off. -/
def withoutDiscount (p : PriceList) : Tier → PriceList
  | .retail => { p with retailDiscount.enabled := false }
  | .wholesale => { p with wholesale.discount.enabled := false }

variable {p : PriceList} {tier : Tier} {quantity : Int}

@[simp]
theorem tier_withoutDiscount (p : PriceList) (tier : Tier) (quantity : Int) :
    (p.withoutDiscount tier).tier quantity = p.tier quantity := by
  cases tier <;> rfl

@[simp]
theorem base_withoutDiscount (p : PriceList) (tier tier' : Tier) :
    (p.withoutDiscount tier).base tier' = p.base tier' := by
  cases tier <;> cases tier' <;> rfl

@[simp]
theorem terms?_withoutDiscount (p : PriceList) (tier : Tier) :
    (p.withoutDiscount tier).terms? tier = none := by
  cases tier <;> rfl

theorem price_eq_ok (h : 0 < quantity) : p.price quantity = .ok (p.line quantity) := by
  have hnot : ¬quantity ≤ 0 := by omega
  rw [price, if_neg hnot]

/-- What one unit costs in a tier. -/
def unitPrice (p : PriceList) (tier : Tier) : Int :=
  charged (p.base tier) (p.terms? tier)

/-- The line of a quantity that is sold in a tier. -/
def lineIn (p : PriceList) (tier : Tier) (quantity : Int) : PricedLine :=
  ⟨p.unitPrice tier, quantity, tier, p.base tier, p.terms? tier⟩

/-- A quantity is priced by its tier. -/
theorem line_eq_lineIn (p : PriceList) (quantity : Int) :
    p.line quantity = p.lineIn (p.tier quantity) quantity := by
  unfold line lineIn unitPrice
  cases h : p.terms? (p.tier quantity) <;> simp only [h, charged]

theorem line_of_terms? {terms : DiscountTerms} (h : p.terms? (p.tier quantity) = some terms) :
    p.line quantity =
      ⟨terms.kind.apply (p.base (p.tier quantity)) terms.amount, quantity, p.tier quantity,
        p.base (p.tier quantity), some terms⟩ := by
  simp only [line_eq_lineIn, lineIn, unitPrice, h, charged]

theorem line_of_terms?_eq_none (h : p.terms? (p.tier quantity) = none) :
    p.line quantity =
      ⟨max (p.base (p.tier quantity)) 0, quantity, p.tier quantity, p.base (p.tier quantity),
        none⟩ := by
  simp only [line_eq_lineIn, lineIn, unitPrice, h, charged]

/-- The discount on which a quantity is sold raises its price. -/
def Raised (p : PriceList) (quantity : Int) : Prop :=
  ∃ terms ∈ p.terms? (p.tier quantity), terms.kind.Raises (p.base (p.tier quantity)) terms.amount

/-- **A discounted price lies between zero and the price without the discount**, unless the
discount is a percentage that raises a negative price. -/
theorem discounted_le_iff (hquantity : 0 < quantity)
    (hamount : ∀ terms ∈ p.terms? (p.tier quantity), 0 ≤ terms.amount) :
    ∃ l full, p.price quantity = .ok l ∧
      (p.withoutDiscount (p.tier quantity)).price quantity = .ok full ∧
      full.unitPrice = max l.basePrice 0 ∧ 0 ≤ l.unitPrice ∧
      (l.unitPrice ≤ full.unitPrice ↔ ¬p.Raised quantity) := by
  have hoff : (p.withoutDiscount (p.tier quantity)).terms?
      ((p.withoutDiscount (p.tier quantity)).tier quantity) = none := by simp
  refine ⟨_, _, price_eq_ok hquantity, price_eq_ok hquantity, ?_⟩
  rw [line_of_terms?_eq_none hoff, tier_withoutDiscount, base_withoutDiscount]
  cases hterms : p.terms? (p.tier quantity) with
  | none =>
      rw [line_of_terms?_eq_none hterms]
      refine ⟨rfl, le_max_right _ _, iff_of_true le_rfl ?_⟩
      rintro ⟨terms, hsome, -⟩
      rw [hterms] at hsome
      cases hsome
  | some terms =>
      have hraised : p.Raised quantity ↔
          terms.kind.Raises (p.base (p.tier quantity)) terms.amount := by
        simp [Raised, hterms]
      rw [line_of_terms? hterms, hraised]
      exact ⟨rfl, terms.kind.apply_nonneg _ _, terms.kind.apply_le_iff (hamount terms hterms)⟩

end PriceList

/-- The prices of a variant that is sold at retail alone. -/
def PriceList.retailOnly (price : Int) (discount : DiscountSetting) : PriceList where
  retailPrice := price
  retailDiscount := discount
  wholesale := ⟨false, none, none, ⟨false, none, none⟩⟩

/-- Fifteen per cent off 999 leave 850. -/
theorem discounted_le_iff_retail :
    let p := PriceList.retailOnly 999 ⟨true, some 15, some .percentage⟩
    (0 : Int) < 1 ∧ (∀ terms ∈ p.terms? (p.tier 1), 0 ≤ terms.amount) ∧
      ∃ l full, p.price 1 = .ok l ∧ (p.withoutDiscount (p.tier 1)).price 1 = .ok full ∧
        full.unitPrice = max l.basePrice 0 ∧ 0 ≤ l.unitPrice ∧
        (l.unitPrice ≤ full.unitPrice ↔ ¬p.Raised 1) := by
  intro p
  have hamount : ∀ terms ∈ p.terms? (p.tier 1), 0 ≤ terms.amount := by
    rintro terms ⟨⟩
    decide
  exact ⟨by decide, hamount, PriceList.discounted_le_iff (by decide) hamount⟩

/-- **A discount can make an item dearer.**  Two hundred per cent off a price of minus five
leave five, where without a discount nothing is paid. -/
theorem discount_raises_negative_price :
    ¬∀ (p : PriceList) (quantity : Int) (l full : PricedLine), 0 < quantity →
      (∀ terms ∈ p.terms? (p.tier quantity), 0 ≤ terms.amount) →
      p.price quantity = .ok l →
      (p.withoutDiscount (p.tier quantity)).price quantity = .ok full →
      0 ≤ l.unitPrice ∧ l.unitPrice ≤ full.unitPrice := by
  intro hall
  have hamount : ∀ terms ∈
      (PriceList.retailOnly (-5) ⟨true, some 200, some .percentage⟩).terms? .retail,
      0 ≤ terms.amount := by
    rintro terms ⟨⟩
    decide
  obtain ⟨-, hle⟩ := hall (.retailOnly (-5) ⟨true, some 200, some .percentage⟩) 1
    ⟨5, 1, .retail, -5, some ⟨200, .percentage⟩⟩ ⟨0, 1, .retail, -5, none⟩
    (by decide) hamount rfl rfl
  exact absurd hle (by decide)

end Storefront
