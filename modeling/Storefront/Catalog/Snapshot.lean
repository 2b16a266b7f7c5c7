/-
What the catalogue says about a variant.

A snapshot joins a variant with its product, its seller and its prices, as they stand at
the moment of reading.  Prices are integers in minor units.  The optional pricing fields
may hold stale values behind a flag that is off; pricing decides what counts.
-/
import Storefront.Text.CodePoint
import Storefront.Uuid

namespace Storefront

/-- A customer, with the flags that moderation looks at. -/
structure Customer where
  id : Uuid
  archived : Bool
  banned : Bool
  deriving DecidableEq, Repr

/-- How a discount is expressed.  A kind that is neither of the two takes nothing off. -/
inductive DiscountKind where
  | flat
  | percentage
  | other (name : RawText) (unlisted : name ≠ "flat" ∧ name ≠ "percentage")
  deriving DecidableEq, Repr

namespace DiscountKind

/-- The written name of a kind. -/
def text : DiscountKind → RawText
  | flat => "flat"
  | percentage => "percentage"
  | other name _ => name

/-- The kind with a written name. -/
def ofText (name : RawText) : DiscountKind :=
  if hflat : name = "flat" then flat
  else if hpercentage : name = "percentage" then percentage
  else other name ⟨hflat, hpercentage⟩

/-- A kind is told from its name. -/
theorem ofText_text (kind : DiscountKind) : ofText kind.text = kind := by
  cases kind with
  | flat => rfl
  | percentage => rfl
  | other name unlisted => rw [text, ofText, dif_neg unlisted.1, dif_neg unlisted.2]

end DiscountKind

/-- The discount fields of one tier. -/
structure DiscountSetting where
  enabled : Bool
  amount : Option Int
  kind : Option DiscountKind
  deriving DecidableEq, Repr

/-- The wholesale fields. -/
structure WholesaleSetting where
  enabled : Bool
  price : Option Int
  minQuantity : Option Int
  discount : DiscountSetting
  deriving DecidableEq, Repr

/-- Everything that a price is computed from. -/
structure PriceList where
  retailPrice : Int
  retailDiscount : DiscountSetting
  wholesale : WholesaleSetting
  deriving DecidableEq, Repr

/-- The seller of a variant. -/
structure Seller where
  id : Uuid
  storeName : RawText
  approved : Bool
  archived : Bool
  banned : Bool
  deriving DecidableEq, Repr

/-- The product of a variant. -/
structure Product where
  id : Uuid
  title : RawText
  description : RawText
  imageUrl : RawText
  category : RawText
  approved : Bool
  archived : Bool
  banned : Bool
  deriving DecidableEq, Repr

/-- The variant itself. -/
structure Variant where
  id : Uuid
  color : RawText
  size : RawText
  archived : Bool
  inStock : Bool
  stock : Int
  weightGrams : Int
  deriving DecidableEq, Repr

/-- A variant joined with its product, its seller and its prices. -/
structure Snapshot where
  seller : Seller
  product : Product
  variant : Variant
  prices : PriceList
  deriving DecidableEq, Repr

end Storefront
