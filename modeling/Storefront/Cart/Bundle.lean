/-
Bundles.

The lines of a cart become one bundle: what can be bought, grouped by seller and then by
product in the order of first appearance, what cannot, and the totals of the first part.
A line without a quantity is in neither part.  A requested variant that no line carries
is reported as not found, after everything else that is invalid.

A customer who reads a cart learns that a variant is unavailable but not whether its
seller, its product or the variant itself is the cause.
-/
import Storefront.Cart.Store
import Storefront.Moderation
import Storefront.Pricing

namespace Storefront

/-- A variant with its price. -/
structure PricedVariant where
  variant : Uuid
  color : RawText
  size : RawText
  quantity : Int
  tier : Tier
  basePrice : Int
  unitPrice : Int
  discount : Option DiscountTerms
  total : Int
  weightGrams : Int
  deriving DecidableEq, Repr

/-- The variants of one product. -/
structure ProductGroup where
  product : Uuid
  title : RawText
  description : RawText
  imageUrl : RawText
  category : RawText
  variants : List PricedVariant
  deriving DecidableEq, Repr

/-- The products of one seller. -/
structure SellerGroup where
  seller : Uuid
  storeName : RawText
  products : List ProductGroup
  deriving DecidableEq, Repr

/-- A variant that cannot be bought, with what its row says of it, if there is one. -/
structure InvalidItem where
  variant : Uuid
  reason : RawText
  product : Option Uuid
  title : RawText
  color : RawText
  size : RawText
  deriving DecidableEq, Repr

/-- What can be bought, what cannot, and the totals of what can. -/
structure Bundle where
  sellers : List SellerGroup
  invalid : List InvalidItem
  subtotal : Int
  weightGrams : Int
  count : Nat
  deriving DecidableEq, Repr

/-! ### Single lines -/

/-- A line with its price. -/
def CartLine.priced (l : CartLine) : PricedVariant :=
  let p := l.snapshot.prices.line l.quantity
  { variant := l.snapshot.variant.id
    color := l.snapshot.variant.color
    size := l.snapshot.variant.size
    quantity := p.quantity
    tier := p.tier
    basePrice := p.basePrice
    unitPrice := p.unitPrice
    discount := p.discount
    total := p.total
    weightGrams := l.snapshot.variant.weightGrams }

/-- The seller of a line, with nothing to sell yet. -/
def CartLine.sellerGroup (l : CartLine) : SellerGroup :=
  ⟨l.snapshot.seller.id, l.snapshot.seller.storeName, []⟩

/-- The product of a line, without variants yet. -/
def CartLine.productGroup (l : CartLine) : ProductGroup :=
  let p := l.snapshot.product
  ⟨p.id, p.title, p.description, p.imageUrl, p.category, []⟩

/-- A variant that moderation or stock keeps from being bought. -/
def InvalidItem.unavailable (x : Snapshot) : InvalidItem where
  variant := x.variant.id
  reason := "variant unavailable due to moderation or stock"
  product := some x.product.id
  title := x.product.title
  color := x.variant.color
  size := x.variant.size

/-- A variant that no snapshot describes. -/
def InvalidItem.notFound (variant : Uuid) : InvalidItem where
  variant := variant
  reason := "variant not found in system"
  product := none
  title := ""
  color := ""
  size := ""

/-! ### Grouping -/

/-- Edits the first element of a class; without one, a fresh element is edited and put at
the end. -/
def upsert {α : Type} (p : α → Bool) (fresh : α) (edit : α → α) : List α → List α
  | [] => [edit fresh]
  | a :: as => if p a then edit a :: as else a :: upsert p fresh edit as

/-- The products of a seller with one more line. -/
def CartLine.intoProducts (l : CartLine) : List ProductGroup → List ProductGroup :=
  upsert (·.product == l.snapshot.product.id) l.productGroup fun g =>
    { g with variants := g.variants ++ [l.priced] }

/-- The sellers of a bundle with one more line. -/
def CartLine.intoSellers (l : CartLine) : List SellerGroup → List SellerGroup :=
  upsert (·.seller == l.snapshot.seller.id) l.sellerGroup fun g =>
    { g with products := l.intoProducts g.products }

namespace Bundle

/-- Nothing was asked for. -/
def empty : Bundle := ⟨[], [], 0, 0, 0⟩

/-- The bundle with one more line. -/
def add (b : Bundle) (l : CartLine) : Bundle :=
  if l.quantity ≤ 0 then b
  else if !l.snapshot.isEligible then
    { b with invalid := b.invalid ++ [.unavailable l.snapshot] }
  else
    { b with
      sellers := l.intoSellers b.sellers
      subtotal := b.subtotal + l.priced.total
      weightGrams := b.weightGrams + l.priced.quantity * l.priced.weightGrams
      count := b.count + 1 }

/-- The requested variants that no line carries, in the order of the request. -/
def missing (lines : List CartLine) (requested : List Uuid) : List Uuid :=
  (distinct requested).filter fun id => !(lines.any (·.snapshot.variant.id == id))

/-- The bundle of some lines for a request. -/
def ofLines (lines : List CartLine) (requested : List Uuid) : Bundle :=
  let b := lines.foldl add empty
  { b with invalid := b.invalid ++ (missing lines requested).map .notFound }

/-- The variants that can be bought, group by group. -/
def variants (b : Bundle) : List PricedVariant :=
  b.sellers.flatMap fun s => s.products.flatMap (·.variants)

end Bundle

end Storefront
