/-
How far a discounted price is off, and what order it keeps.

The percentage is cut before it is taken off, so the price that is left is rounded up: it lies
less than a unit above the exact one, and a line less than a unit for each of its items
(`percentage_favours_seller`).  From a hundred per cent on nothing is left.

A rounded price could still change places with another one.  It does not: one unit more on the
base price takes at most one unit more off, as long as the percentage is at most a hundred, and
above that there is nothing left to compare (`discounts_keep_order`).
-/
import Mathlib.Tactic.Ring
import Storefront.Proofs.Discounts

namespace Storefront

/-! ### Rounding -/

namespace DiscountKind

variable {price amount : Int}

/-- The price that is left is the exact one, rounded up. -/
theorem apply_percentage_bounds (hprice : 0 ≤ price) (hamount : 0 ≤ amount)
    (hle : amount ≤ 100) :
    price * (100 - amount) ≤ 100 * percentage.apply price amount ∧
      100 * percentage.apply price amount < price * (100 - amount) + 100 := by
  have hexact : price * (100 - amount) = 100 * price - price * amount := by
    rw [Int.mul_sub, Int.mul_comm price 100]
  have htaken : price * amount ≤ price * 100 := Int.mul_le_mul_of_nonneg_left hle hprice
  rw [apply_percentage_of_nonneg hprice hamount, hexact]
  generalize price * amount = taken at htaken
  omega

theorem apply_percentage_eq_zero (hprice : 0 ≤ price) (hle : 100 ≤ amount) :
    percentage.apply price amount = 0 := by
  have htaken : price * 100 ≤ price * amount := Int.mul_le_mul_of_nonneg_left hle hprice
  rw [apply_percentage_of_nonneg hprice (by omega)]
  generalize price * amount = taken at htaken
  omega

end DiscountKind

namespace PriceList

/-- The discount fields of a tier. -/
def discount (p : PriceList) : Tier → DiscountSetting
  | .retail => p.retailDiscount
  | .wholesale => p.wholesale.discount

theorem terms?_eq_terms?_discount (p : PriceList) (tier : Tier) :
    p.terms? tier = (p.discount tier).terms? := by
  cases tier <;> rfl

variable {p : PriceList} {price amount quantity : Int}

theorem total_line (p : PriceList) (quantity : Int) :
    (p.line quantity).total = p.unitPrice (p.tier quantity) * quantity := by
  rw [line_eq_lineIn]
  rfl

/-- Each item of a line adds less than a unit to what is rounded. -/
theorem total_line_bounds (hquantity : 0 < quantity) (hbase : p.base (p.tier quantity) = price)
    (hdiscount : p.discount (p.tier quantity) = ⟨true, some amount, some .percentage⟩)
    (hprice : 0 ≤ price) (hamount : 0 ≤ amount) (hle : amount ≤ 100) :
    0 ≤ 100 * (p.line quantity).total - quantity * price * (100 - amount) ∧
      100 * (p.line quantity).total - quantity * price * (100 - amount) < 100 * quantity := by
  have hterms : p.terms? (p.tier quantity) = some ⟨amount, .percentage⟩ := by
    rw [terms?_eq_terms?_discount, hdiscount]
    rfl
  have hunit : p.unitPrice (p.tier quantity) = DiscountKind.percentage.apply price amount := by
    rw [unitPrice, hterms, hbase]
    rfl
  obtain ⟨hlower, hupper⟩ := DiscountKind.apply_percentage_bounds hprice hamount hle
  rw [total_line, hunit]
  generalize DiscountKind.percentage.apply price amount = unit at hlower hupper
  have hitem : 100 * (unit * quantity) - quantity * price * (100 - amount) =
      quantity * (100 * unit - price * (100 - amount)) := by
    ring
  rw [hitem, Int.mul_comm 100 quantity]
  exact ⟨Int.mul_nonneg hquantity.le (by omega), Int.mul_lt_mul_of_pos_left (by omega) hquantity⟩

/-- **A percentage is rounded by less than a unit, and for the seller.**  So is each item of a
line, whichever tier it is sold in. -/
theorem percentage_favours_seller (hprice : 0 ≤ price) (hamount : 0 ≤ amount) :
    (amount ≤ 100 →
      price * (100 - amount) ≤ 100 * DiscountKind.percentage.apply price amount ∧
        100 * DiscountKind.percentage.apply price amount < price * (100 - amount) + 100) ∧
    (100 ≤ amount → DiscountKind.percentage.apply price amount = 0) ∧
    DiscountKind.flat.apply price amount = max (price - amount) 0 ∧
    ∀ (p : PriceList) (quantity : Int), 0 < quantity → p.base (p.tier quantity) = price →
      p.discount (p.tier quantity) = ⟨true, some amount, some .percentage⟩ → amount ≤ 100 →
      ∃ l, p.price quantity = .ok l ∧
        0 ≤ 100 * l.total - quantity * price * (100 - amount) ∧
        100 * l.total - quantity * price * (100 - amount) < 100 * quantity := by
  refine ⟨DiscountKind.apply_percentage_bounds hprice hamount,
    DiscountKind.apply_percentage_eq_zero hprice, rfl, ?_⟩
  intro p quantity hquantity hbase hdiscount hle
  exact ⟨_, price_eq_ok hquantity,
    total_line_bounds hquantity hbase hdiscount hprice hamount hle⟩

/-- Fifteen per cent off three items at 999 leave 2550, where 2547.45 would be exact. -/
theorem percentage_favours_seller_retail :
    let p := PriceList.retailOnly 999 ⟨true, some 15, some .percentage⟩
    (0 : Int) ≤ 999 ∧ (0 : Int) ≤ 15 ∧ (0 : Int) < 3 ∧
      (∃ l, p.price 3 = .ok l ∧ 0 ≤ 100 * l.total - 3 * 999 * (100 - 15) ∧
        100 * l.total - 3 * 999 * (100 - 15) < 100 * 3) ∧
      p.price 3 = .ok ⟨850, 3, .retail, 999, some ⟨15, .percentage⟩⟩ := by
  obtain ⟨-, -, -, hline⟩ :=
    percentage_favours_seller (by decide : (0 : Int) ≤ 999) (by decide : (0 : Int) ≤ 15)
  exact ⟨by decide, by decide, by decide, hline _ 3 (by decide) rfl rfl (by decide), rfl⟩

end PriceList

/-! ### Order -/

namespace DiscountKind

variable {price price' amount amount' : Int}

/-- A dearer item stays the dearer one. -/
theorem apply_le_apply_of_price_le (kind : DiscountKind) (hprice : 0 ≤ price)
    (hamount : 0 ≤ amount) (hle : price ≤ price') :
    kind.apply price amount ≤ kind.apply price' amount := by
  cases kind with
  | flat =>
      show max (price - amount) 0 ≤ max (price' - amount) 0
      omega
  | other name unlisted =>
      show max price 0 ≤ max price' 0
      omega
  | percentage =>
      by_cases hhundred : 100 ≤ amount
      · rw [apply_percentage_eq_zero hprice hhundred]
        exact apply_nonneg _ _ _
      · -- what the dearer item costs more exceeds what is taken off it more
        have hmore : price' * amount = price * amount + (price' - price) * amount := by
          rw [← Int.add_mul]
          congr 1
          omega
        have htaken : (price' - price) * amount ≤ (price' - price) * 100 :=
          Int.mul_le_mul_of_nonneg_left (by omega) (by omega)
        rw [apply_percentage_of_nonneg hprice hamount,
          apply_percentage_of_nonneg (hprice.trans hle) hamount, hmore]
        generalize (price' - price) * amount = more at htaken
        generalize price * amount = taken
        omega

/-- More off is never dearer. -/
theorem apply_le_apply_of_amount_le (kind : DiscountKind) (hprice : 0 ≤ price)
    (hamount : 0 ≤ amount) (hle : amount ≤ amount') :
    kind.apply price amount' ≤ kind.apply price amount := by
  cases kind with
  | flat =>
      show max (price - amount') 0 ≤ max (price - amount) 0
      omega
  | other name unlisted => exact le_rfl
  | percentage =>
      have htaken : price * amount ≤ price * amount' := Int.mul_le_mul_of_nonneg_left hle hprice
      rw [apply_percentage_of_nonneg hprice hamount,
        apply_percentage_of_nonneg hprice (hamount.trans hle)]
      generalize price * amount = taken at htaken
      generalize price * amount' = taken' at htaken
      omega

end DiscountKind

/-- The second terms take off as much as the first, or more: no discount is the smallest, and
two discounts of one kind compare by their amounts. -/
inductive NoLarger : Option DiscountTerms → Option DiscountTerms → Prop
  | none (terms : Option DiscountTerms) : NoLarger none terms
  | sameKind (kind : DiscountKind) {amount amount' : Int} (hle : amount ≤ amount') :
      NoLarger (some ⟨amount, kind⟩) (some ⟨amount', kind⟩)

theorem NoLarger.refl (terms : Option DiscountTerms) : NoLarger terms terms := by
  cases terms with
  | none => exact .none _
  | some terms => exact .sameKind terms.kind le_rfl

section Charged

variable {base base' : Int} {terms terms' : Option DiscountTerms}

theorem charged_le_charged_of_base_le (hbase : 0 ≤ base) (hle : base ≤ base')
    (hamount : ∀ x ∈ terms, 0 ≤ x.amount) : charged base terms ≤ charged base' terms := by
  cases terms with
  | none =>
      show max base 0 ≤ max base' 0
      omega
  | some x => exact x.kind.apply_le_apply_of_price_le hbase (hamount x rfl) hle

theorem NoLarger.charged_le_charged (h : NoLarger terms terms') (hbase : 0 ≤ base)
    (hamount : ∀ x ∈ terms, 0 ≤ x.amount) (hamount' : ∀ x ∈ terms', 0 ≤ x.amount) :
    charged base terms' ≤ charged base terms := by
  cases h with
  | sameKind kind hle => exact kind.apply_le_apply_of_amount_le hbase (hamount _ rfl) hle
  | none =>
      cases terms' with
      | none => exact le_rfl
      | some x =>
          exact (x.kind.apply_le_iff (hamount' x rfl)).mpr (x.kind.not_raises_of_nonneg hbase _)

end Charged

namespace PriceList

/-- **Discounts keep the order of prices.**  With one discount the dearer item stays the dearer
one, a larger discount never makes an item dearer, and so it is with the lines of two price
lists at a quantity, whatever their tiers: the cheaper item on the larger discount costs no
more. -/
theorem discounts_keep_order :
    (∀ (kind : DiscountKind) {price price' amount : Int}, 0 ≤ price → 0 ≤ amount →
      price ≤ price' → kind.apply price amount ≤ kind.apply price' amount) ∧
    (∀ (kind : DiscountKind) {price amount amount' : Int}, 0 ≤ price → 0 ≤ amount →
      amount ≤ amount' → kind.apply price amount' ≤ kind.apply price amount) ∧
    ∀ (p p' : PriceList) (quantity : Int), 0 < quantity →
      0 ≤ p.base (p.tier quantity) → p.base (p.tier quantity) ≤ p'.base (p'.tier quantity) →
      (∀ x ∈ p.terms? (p.tier quantity), 0 ≤ x.amount) →
      (∀ x ∈ p'.terms? (p'.tier quantity), 0 ≤ x.amount) →
      NoLarger (p'.terms? (p'.tier quantity)) (p.terms? (p.tier quantity)) →
      ∃ l l', p.price quantity = .ok l ∧ p'.price quantity = .ok l' ∧
        l.unitPrice ≤ l'.unitPrice ∧ l.total ≤ l'.total := by
  refine ⟨fun kind _ _ _ => kind.apply_le_apply_of_price_le,
    fun kind _ _ _ => kind.apply_le_apply_of_amount_le, ?_⟩
  intro p p' quantity hquantity hbase hle hamount hamount' hterms
  have hunit : p.unitPrice (p.tier quantity) ≤ p'.unitPrice (p'.tier quantity) :=
    (charged_le_charged_of_base_le hbase hle hamount).trans
      (hterms.charged_le_charged (hbase.trans hle) hamount' hamount)
  refine ⟨_, _, price_eq_ok hquantity, price_eq_ok hquantity, ?_, ?_⟩
  · rw [line_eq_lineIn, line_eq_lineIn]
    exact hunit
  · rw [total_line, total_line]
    exact Int.mul_le_mul_of_nonneg_right hunit hquantity.le

/-- At fifteen per cent off, 999 and 1000 both leave 850. -/
theorem discounts_keep_order_retail :
    let p := PriceList.retailOnly 999 ⟨true, some 15, some .percentage⟩
    let p' := PriceList.retailOnly 1000 ⟨true, some 15, some .percentage⟩
    (0 : Int) < 3 ∧ (0 : Int) ≤ p.base (p.tier 3) ∧ p.base (p.tier 3) ≤ p'.base (p'.tier 3) ∧
      (∀ x ∈ p.terms? (p.tier 3), 0 ≤ x.amount) ∧ (∀ x ∈ p'.terms? (p'.tier 3), 0 ≤ x.amount) ∧
      NoLarger (p'.terms? (p'.tier 3)) (p.terms? (p.tier 3)) ∧
      ∃ l l', p.price 3 = .ok l ∧ p'.price 3 = .ok l' ∧ l.unitPrice ≤ l'.unitPrice ∧
        l.total ≤ l'.total := by
  intro p p'
  obtain ⟨-, -, hlines⟩ := discounts_keep_order
  have hamount : ∀ x ∈ p.terms? (p.tier 3), 0 ≤ x.amount := by
    rintro x ⟨⟩
    decide
  have hterms : NoLarger (p'.terms? (p'.tier 3)) (p.terms? (p.tier 3)) := .refl _
  exact ⟨by decide, by decide, by decide, hamount, hamount, hterms,
    hlines p p' 3 (by decide) (by decide) (by decide) hamount hamount hterms⟩

end PriceList

end Storefront
