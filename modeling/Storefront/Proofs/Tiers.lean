/-
What a price reads.

A quantity decides on the tier, and on nothing else that a unit costs: below the least
wholesale quantity each unit has its retail price and from there on its wholesale price
(`price_steps_at_minQuantity`).

A tier reads its own fields, and of those only the ones that count.  `PriceList.norm` clears
what is switched off or incomplete; the prices stay what they were, so whatever stands in these
fields can neither change a price nor be told from it (`price_ignores_dead_fields`).  That goes
through `price_congr`: two price lists agree at a quantity when they agree on its tier and on the
line in that tier.
-/
import Storefront.Proofs.Discounts

namespace Storefront

namespace PriceList

variable {p : PriceList} {quantity quantity' : Int}

/-! ### The tier of a quantity -/

theorem tier_eq_wholesale_iff :
    p.tier quantity = .wholesale ↔
      p.wholesale.enabled = true ∧ p.wholesale.price.isSome = true ∧
        ∃ least ∈ p.wholesale.minQuantity, least ≤ quantity := by
  obtain ⟨_, _, enabled, price, minQuantity, _⟩ := p
  cases enabled <;> cases price <;> cases minQuantity <;> simp [tier]

theorem tier_eq_retail (h : p.tier quantity ≠ .wholesale) : p.tier quantity = .retail := by
  cases htier : p.tier quantity with
  | retail => rfl
  | wholesale => exact absurd htier h

theorem tier_eq_wholesale_of_le (h : p.tier quantity = .wholesale) (hle : quantity ≤ quantity') :
    p.tier quantity' = .wholesale := by
  obtain ⟨henabled, hprice, least, hleast, hreached⟩ := tier_eq_wholesale_iff.mp h
  exact tier_eq_wholesale_iff.mpr ⟨henabled, hprice, least, hleast, hreached.trans hle⟩

/-! ### One step -/

/-- Where wholesale lacks its flag or its price, the step at its least quantity has no height. -/
theorem exists_unitPrice_tier_eq (p : PriceList) :
    ∃ below above, ∀ quantity, p.unitPrice (p.tier quantity) =
      if ∃ least ∈ p.wholesale.minQuantity, least ≤ quantity then above else below := by
  by_cases hoffered : p.wholesale.enabled = true ∧ p.wholesale.price.isSome = true
  · refine ⟨p.unitPrice .retail, p.unitPrice .wholesale, fun quantity => ?_⟩
    by_cases hreached : ∃ least ∈ p.wholesale.minQuantity, least ≤ quantity
    · have htier : p.tier quantity = .wholesale :=
        tier_eq_wholesale_iff.mpr ⟨hoffered.1, hoffered.2, hreached⟩
      rw [if_pos hreached, htier]
    · have htier : p.tier quantity = .retail :=
        tier_eq_retail fun h => hreached (tier_eq_wholesale_iff.mp h).2.2
      rw [if_neg hreached, htier]
  · refine ⟨p.unitPrice .retail, p.unitPrice .retail, fun quantity => ?_⟩
    have htier : p.tier quantity = .retail := tier_eq_retail fun h =>
      hoffered ⟨(tier_eq_wholesale_iff.mp h).1, (tier_eq_wholesale_iff.mp h).2.1⟩
    rw [htier, ite_self]

/-- **The quantity moves the unit price at one threshold only.**  Wholesale is sold from its
least quantity on, and within a tier the quantity changes the total alone. -/
theorem price_steps_at_minQuantity (p : PriceList) (hquantity : 0 < quantity)
    (hquantity' : 0 < quantity') :
    (p.tier quantity = .wholesale → quantity ≤ quantity' → p.tier quantity' = .wholesale) ∧
    (p.tier quantity = .wholesale ↔
      p.wholesale.enabled = true ∧ p.wholesale.price.isSome = true ∧
        ∃ least ∈ p.wholesale.minQuantity, least ≤ quantity) ∧
    (p.tier quantity = p.tier quantity' →
      ∃ l l', p.price quantity = .ok l ∧ p.price quantity' = .ok l' ∧
        l.unitPrice = l'.unitPrice ∧ l.basePrice = l'.basePrice ∧ l.discount = l'.discount ∧
        l.total * quantity' = l'.total * quantity) ∧
    ∃ below above, ∀ n, 0 < n → ∃ l, p.price n = .ok l ∧
      l.unitPrice = if ∃ least ∈ p.wholesale.minQuantity, least ≤ n then above else below := by
  refine ⟨tier_eq_wholesale_of_le, tier_eq_wholesale_iff, fun htier => ?_, ?_⟩
  · refine ⟨_, _, price_eq_ok hquantity, price_eq_ok hquantity', ?_⟩
    rw [line_eq_lineIn, line_eq_lineIn, ← htier]
    refine ⟨rfl, rfl, rfl, ?_⟩
    show p.unitPrice _ * quantity * quantity' = p.unitPrice _ * quantity' * quantity
    rw [Int.mul_assoc, Int.mul_comm quantity, ← Int.mul_assoc]
  · obtain ⟨below, above, hstep⟩ := exists_unitPrice_tier_eq p
    refine ⟨below, above, fun n hn => ⟨_, price_eq_ok hn, ?_⟩⟩
    rw [line_eq_lineIn]
    exact hstep n

end PriceList

/-- Fifty off a wholesale price of 800, which is asked from five items on. -/
theorem price_steps_at_minQuantity_bulk :
    let p : PriceList := ⟨1000, ⟨false, none, none⟩,
      ⟨true, some 800, some 5, ⟨true, some 50, some .flat⟩⟩⟩
    (0 : Int) < 5 ∧ (0 : Int) < 20 ∧ p.tier 4 = .retail ∧ p.tier 5 = .wholesale ∧
      p.tier 20 = .wholesale ∧
      ∃ l l', p.price 5 = .ok l ∧ p.price 20 = .ok l' ∧ l.unitPrice = l'.unitPrice ∧
        l.total * 20 = l'.total * 5 := by
  intro p
  obtain ⟨hon, -, hlines, -⟩ :=
    p.price_steps_at_minQuantity (by decide : (0 : Int) < 5) (by decide : (0 : Int) < 20)
  obtain ⟨l, l', hl, hl', hunit, -, -, htotal⟩ := hlines rfl
  exact ⟨by decide, by decide, rfl, rfl, hon rfl (by decide), l, l', hl, hl', hunit, htotal⟩

/-! ### The fields that count -/

/-- A discount that is off, with nothing behind its flag. -/
def DiscountSetting.off : DiscountSetting := ⟨false, none, none⟩

/-- The fields of a discount as far as they count: all of them or none. -/
def DiscountSetting.norm (d : DiscountSetting) : DiscountSetting :=
  if d.enabled && d.amount.isSome && d.kind.isSome then d else off

theorem DiscountSetting.terms?_norm (d : DiscountSetting) : d.norm.terms? = d.terms? := by
  obtain ⟨enabled, amount, kind⟩ := d
  cases enabled <;> cases amount <;> cases kind <;> rfl

/-- Wholesale that is off, with nothing behind its flag. -/
def WholesaleSetting.off : WholesaleSetting := ⟨false, none, none, .off⟩

/-- The wholesale fields as far as they count. -/
def WholesaleSetting.norm (w : WholesaleSetting) : WholesaleSetting :=
  if w.enabled && w.price.isSome && w.minQuantity.isSome then
    { w with discount := w.discount.norm }
  else off

namespace PriceList

variable {p p' : PriceList} {quantity : Int}

/-- The prices with the fields cleared that do not count. -/
def norm (p : PriceList) : PriceList :=
  { p with retailDiscount := p.retailDiscount.norm, wholesale := p.wholesale.norm }

@[simp]
theorem tier_norm (p : PriceList) (quantity : Int) : p.norm.tier quantity = p.tier quantity := by
  obtain ⟨_, _, enabled, price, minQuantity, _⟩ := p
  cases enabled <;> cases price <;> cases minQuantity <;> rfl

theorem norm_wholesale (h : p.tier quantity = .wholesale) :
    p.norm.wholesale = { p.wholesale with discount := p.wholesale.discount.norm } := by
  obtain ⟨henabled, hprice, least, hleast, -⟩ := tier_eq_wholesale_iff.mp h
  have hminQuantity : p.wholesale.minQuantity.isSome = true := Option.isSome_of_mem hleast
  exact if_pos (by rw [henabled, hprice, hminQuantity]; rfl)

/-- In a tier that is sold in, the line keeps every field. -/
theorem lineIn_norm (p : PriceList) (quantity : Int) :
    p.norm.lineIn (p.tier quantity) quantity = p.lineIn (p.tier quantity) quantity := by
  cases htier : p.tier quantity with
  | retail =>
      have hterms : p.norm.terms? .retail = p.terms? .retail := p.retailDiscount.terms?_norm
      simp only [lineIn, unitPrice, hterms]
      rfl
  | wholesale =>
      have hbase : p.norm.base .wholesale = p.base .wholesale := by
        simp only [base, norm_wholesale htier]
      have hterms : p.norm.terms? .wholesale = p.terms? .wholesale := by
        simp only [terms?, norm_wholesale htier, DiscountSetting.terms?_norm]
      simp only [lineIn, unitPrice, hbase, hterms]

/-- A price is what the tier of the quantity makes of the fields of that tier. -/
theorem price_congr (htier : p'.tier quantity = p.tier quantity)
    (hline : p'.lineIn (p.tier quantity) quantity = p.lineIn (p.tier quantity) quantity) :
    p'.price quantity = p.price quantity := by
  rw [price, price, line_eq_lineIn, line_eq_lineIn, htier, hline]

theorem price_norm (p : PriceList) : p.norm.price = p.price := by
  funext quantity
  exact price_congr (p.tier_norm quantity) (p.lineIn_norm quantity)

/-- **Fields that are switched off or incomplete are dead**, and so is the other tier: its
discount at retail, and all of retail at wholesale. -/
theorem price_ignores_dead_fields (p : PriceList) (hquantity : 0 < quantity) :
    (∃ l, p.price quantity = .ok l ∧ p.norm.price quantity = .ok l) ∧
    (p.tier quantity = .retail → ∀ discount,
      PriceList.price { p with wholesale.discount := discount } quantity = p.price quantity) ∧
    (p.tier quantity = .wholesale → ∀ retailPrice discount,
      PriceList.price { p with retailPrice := retailPrice, retailDiscount := discount } quantity =
        p.price quantity) ∧
    ∀ p' : PriceList, p.norm = p'.norm → p.price = p'.price := by
  refine ⟨⟨_, price_eq_ok hquantity, ?_⟩, fun htier discount => ?_,
    fun htier retailPrice discount => ?_, fun p' hnorm => ?_⟩
  · rw [price_norm, price_eq_ok hquantity]
  · refine price_congr rfl ?_
    rw [htier]
    rfl
  · refine price_congr rfl ?_
    rw [htier]
    rfl
  · rw [← price_norm p, hnorm, price_norm p']

end PriceList

/-- Stale fields behind both flags, and a retail price of 1000. -/
theorem price_ignores_dead_fields_stale :
    let p : PriceList := ⟨1000, ⟨false, some 100, some .flat⟩,
      ⟨false, some 1, some 1, ⟨true, some 50, some .percentage⟩⟩⟩
    let plain : PriceList := ⟨1000, .off, .off⟩
    (0 : Int) < 1 ∧ p.tier 1 = .retail ∧ p.norm = plain.norm ∧
      (∃ l, p.price 1 = .ok l ∧ p.norm.price 1 = .ok l) ∧ p.price = plain.price := by
  intro p plain
  obtain ⟨hsame, -, -, hnorm⟩ := p.price_ignores_dead_fields (by decide : (0 : Int) < 1)
  exact ⟨by decide, rfl, rfl, hsame, hnorm plain rfl⟩

end Storefront
