/-
Prices.

A quantity selects a tier, the tier selects a base price and the discount terms, and the
terms take something off the base price but never below zero.  All arithmetic is on
unbounded integers in minor units; a percentage is cut toward zero before it is taken
off, so a fraction of a unit is never given away.
-/
import Storefront.Catalog.Snapshot
import Storefront.Error

namespace Storefront

/-- The price lists a variant can be sold under. -/
inductive Tier where
  | retail
  | wholesale
  deriving DecidableEq, Repr

/-- The written name of a tier. -/
def Tier.text : Tier → String
  | retail => "retail"
  | wholesale => "wholesale"

/-- A discount that applies. -/
structure DiscountTerms where
  amount : Int
  kind : DiscountKind
  deriving DecidableEq, Repr

/-- The quotient of two integers with the fraction cut off. -/
def divTowardZero (n d : Int) : Int :=
  let q : Int := (n.natAbs / d.natAbs : Nat)
  if 0 ≤ n ↔ 0 < d then q else -q

/-- The price that is left after a discount, never below zero. -/
def DiscountKind.apply (kind : DiscountKind) (price amount : Int) : Int :=
  match kind with
  | flat => max (price - amount) 0
  | percentage => max (price - divTowardZero (price * amount) 100) 0
  | other .. => max price 0

/-- The terms of a tier: the flag, the amount and the kind are all needed. -/
def DiscountSetting.terms? (d : DiscountSetting) : Option DiscountTerms :=
  match d.enabled, d.amount, d.kind with
  | true, some amount, some kind => some ⟨amount, kind⟩
  | _, _, _ => none

/-- The tier of a quantity.  Wholesale needs its flag, its price and its least quantity. -/
def PriceList.tier (p : PriceList) (quantity : Int) : Tier :=
  match p.wholesale.enabled, p.wholesale.minQuantity, p.wholesale.price with
  | true, some least, some _ => if least ≤ quantity then .wholesale else .retail
  | _, _, _ => .retail

/-- The price before any discount. -/
def PriceList.base (p : PriceList) : Tier → Int
  | .retail => p.retailPrice
  | .wholesale => p.wholesale.price.getD 0

/-- The discount terms of a tier. -/
def PriceList.terms? (p : PriceList) : Tier → Option DiscountTerms
  | .retail => p.retailDiscount.terms?
  | .wholesale => p.wholesale.discount.terms?

/-- The price of one variant at one quantity. -/
structure PricedLine where
  unitPrice : Int
  quantity : Int
  tier : Tier
  basePrice : Int
  discount : Option DiscountTerms
  deriving DecidableEq, Repr

/-- The price of the whole line. -/
def PricedLine.total (l : PricedLine) : Int :=
  l.unitPrice * l.quantity

/-- The line at a quantity, whatever the quantity is. -/
def PriceList.line (p : PriceList) (quantity : Int) : PricedLine :=
  let tier := p.tier quantity
  let base := p.base tier
  match p.terms? tier with
  | none => ⟨max base 0, quantity, tier, base, none⟩
  | some terms => ⟨terms.kind.apply base terms.amount, quantity, tier, base, some terms⟩

/-- The price of a quantity, which has to be positive. -/
def PriceList.price (p : PriceList) (quantity : Int) : Except ServiceError PricedLine :=
  if quantity ≤ 0 then .error (.validation "quantity" "must be greater than zero")
  else .ok (p.line quantity)

end Storefront
