/-
Reading a cart.

Listing a cart, summing it up and checking it out are one aggregation: the customer
passes moderation, the variants are named or taken from the cart, and their lines become
a bundle.  The customer, the ids and the lines are separate reads.

Buying one variant at once is the same aggregation with the quantity of the request in
place of the one in the cart; there, a variant that cannot be bought is an error.
-/
import Storefront.Cart.Bundle
import Storefront.Cart.Mutation

namespace Storefront

/-- The variants of an aggregation. -/
inductive Selection where
  /-- What is in the customer's cart. -/
  | cart
  | variants (ids : List Uuid)
  deriving DecidableEq, Repr

/-- The ids of a selection. -/
def Selection.ids (user : Uuid) : Selection → Plan (List Uuid)
  | cart => Plan.query (.activeIds user)
  | variants ids => pure ids

/-- The lines of some variants for a customer. -/
def linesFor (user : Uuid) (ids : List Uuid) : Plan (List CartLine) :=
  if ids.isEmpty then pure [] else Plan.query (.lines user ids)

/-- The lines at another quantity, if one is given. -/
def withQuantities (quantity : Option Int) (lines : List CartLine) : List CartLine :=
  match quantity with
  | none => lines
  | some n => lines.map (·.withQuantity n)

/-- The bundle of a selection. -/
def aggregate (user : Uuid) (selection : Selection) (quantity : Option Int) : Plan Bundle := do
  eligibleCustomer user
  let ids ← selection.ids user
  let lines ← linesFor user ids
  return .ofLines (withQuantities quantity lines) ids

/-- What is in a customer's cart. -/
def listCart (user : Uuid) : Plan Bundle :=
  aggregate user .cart none

/-- The total price of some variants in a cart. -/
structure Summary where
  totalPrice : Int
  invalid : List InvalidItem
  deriving DecidableEq, Repr

/-- The summary of a bundle. -/
def Bundle.summary (b : Bundle) : Summary :=
  ⟨b.subtotal, b.invalid⟩

/-- Sums some variants of a cart up. -/
def summarize (user : Uuid) (ids : List Uuid) : Plan Summary := do
  return (← aggregate user (.variants ids) none).summary

/-! ### Checkout -/

/-- Where a checkout starts from. -/
inductive Source where
  | product
  | cart
  deriving DecidableEq, Repr

/-- The written name of a source. -/
def Source.text : Source → String
  | product => "product"
  | cart => "cart"

/-- The source with a written name. -/
def Source.ofText? : String → Option Source
  | "product" => some product
  | "cart" => some cart
  | _ => none

/-- A request to check out. -/
inductive Order where
  | product (user variant : Uuid) (quantity : Int)
  | cart (user : Uuid) (ids : List Uuid)
  deriving DecidableEq, Repr

namespace Order

/-- The customer who checks out. -/
def user : Order → Uuid
  | product user .. | cart user _ => user

/-- Where the order starts from. -/
def source : Order → Source
  | product .. => .product
  | cart .. => .cart

/-- The bundle to check out, with at most so many variants from a cart. -/
def plan (limit : Int) : Order → Plan Bundle
  | product user variant quantity => do
    if !inRange quantity then
      Plan.refuse (.validation "quantity" rangeReason)
    let bundle ← aggregate user (.variants [variant]) (some quantity)
    if bundle.count = 0 then
      let reason : RawText := (bundle.invalid.head?.map (·.reason)).getD "invalid product variant"
      Plan.refuse (.validation "variant_id" reason)
    return bundle
  | cart user ids => do
    if ids.isEmpty then
      Plan.refuse (.validation "variant_ids" "must be a non-empty array")
    if limit < ids.length then
      Plan.refuse (.validation "variant_ids" ("must contain at most " ++ toString limit ++ " ids"))
    aggregate user (.variants ids) none

end Order

end Storefront
