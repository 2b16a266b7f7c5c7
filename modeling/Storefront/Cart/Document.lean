/-
Carts as JSON.

How bundles, reports, checkouts and snapshots are written for clients.
-/
import Storefront.Shop
import Storefront.Json.Basic

namespace Storefront

/-- An identifier as JSON. -/
def Uuid.json (u : Uuid) : Json := .text u.text

/-- The kind of a discount as JSON. -/
def DiscountKind.json (k : DiscountKind) : Json := .text k.text

/-- The discount of a priced line as members of an object. -/
def discountMembers (discount : Option DiscountTerms) : List (String × Json) :=
  match discount with
  | none =>
    [("has_discount", .bool false), ("discount_type", .null), ("discount_value", .int 0)]
  | some terms =>
    [("has_discount", .bool true), ("discount_type", terms.kind.json),
     ("discount_value", .int terms.amount)]

/-- A priced line as JSON. -/
def PricedLine.json (l : PricedLine) : Json :=
  .record <|
    [("unit_price", .int l.unitPrice), ("quantity", .int l.quantity), ("tier", .text l.tier.text),
     ("base_price", .int l.basePrice), ("line_total", .int l.total)] ++ discountMembers l.discount

/-- A priced variant as JSON. -/
def PricedVariant.json (v : PricedVariant) : Json :=
  .record <|
    [("variant_id", v.variant.json), ("color", .text v.color), ("size", .text v.size),
     ("quantity", .int v.quantity), ("buying_mode", .text v.tier.text),
     ("base_price", .int v.basePrice), ("unit_price", .int v.unitPrice)] ++
    discountMembers v.discount ++
    [("line_total", .int v.total), ("weight_grams", .int v.weightGrams)]

/-- The variants of a product as JSON. -/
def ProductGroup.json (g : ProductGroup) : Json :=
  .record
    [("product_id", g.product.json), ("product_title", .text g.title),
     ("product_description", .text g.description),
     ("product_primary_image_url", .text g.imageUrl), ("category_name", .text g.category),
     ("variants", .array (g.variants.map PricedVariant.json))]

/-- The products of a seller as JSON. -/
def SellerGroup.json (g : SellerGroup) : Json :=
  .record
    [("seller_id", g.seller.json), ("seller_store_name", .text g.storeName),
     ("products", .array (g.products.map ProductGroup.json))]

/-- A variant that cannot be bought as JSON. -/
def InvalidItem.json (i : InvalidItem) : Json :=
  .record
    [("variant_id", i.variant.json), ("reason", .text i.reason),
     ("product_id", .ofText? (i.product.map (·.text))), ("product_title", .text i.title),
     ("color", .text i.color), ("size", .text i.size)]

/-- The variants that cannot be bought as JSON. -/
def invalidJson (items : List InvalidItem) : Json :=
  .array (items.map InvalidItem.json)

/-- A bundle as members of an object. -/
def Bundle.members (b : Bundle) : List (String × Json) :=
  [("valid_items", .array (b.sellers.map SellerGroup.json)),
   ("invalid_items", invalidJson b.invalid), ("subtotal", .int b.subtotal),
   ("total_weight_grams", .int b.weightGrams), ("item_count", .int b.count)]

/-- A bundle as JSON. -/
def Bundle.json (b : Bundle) : Json :=
  .record b.members

/-- A summary as JSON. -/
def Summary.json (s : Summary) : Json :=
  .record [("total_price", .int s.totalPrice), ("invalid_items", invalidJson s.invalid)]

/-- A checkout as JSON: its bundle, its id and its source. -/
def CheckoutSession.json (s : CheckoutSession) : Json :=
  .record <|
    s.bundle.members ++
      [("checkout_session_id", .text s.session.text), ("source", .text s.source.text)]

/-- The report of a mutation as JSON. -/
def CartReport.json (r : CartReport) : Json :=
  .record
    [("variant_id", .ofText? (r.variant.map (·.text))), ("quantity", .ofInt? r.quantity),
     ("status", .text r.status.text)]

/-- A customer as JSON. -/
def Customer.json (c : Customer) : Json :=
  .record
    [("id", c.id.json), ("is_archived", .bool c.archived), ("is_banned", .bool c.banned)]

/-- The fields of a discount as members of an object, named for its tier. -/
def DiscountSetting.members (tier : Tier) (d : DiscountSetting) : List (String × Json) :=
  [("has_" ++ tier.text ++ "_discount", .bool d.enabled),
   (tier.text ++ "_discount", .ofInt? d.amount),
   (tier.text ++ "_discount_type", .ofText? (d.kind.map (·.text)))]

/-- A snapshot as JSON. -/
def Snapshot.json (x : Snapshot) : Json :=
  .record <|
    [("seller_id", x.seller.id.json), ("seller_store_name", .text x.seller.storeName),
     ("is_seller_approved", .bool x.seller.approved),
     ("is_seller_archived", .bool x.seller.archived), ("is_seller_banned", .bool x.seller.banned),
     ("product_id", x.product.id.json), ("product_title", .text x.product.title),
     ("product_description", .text x.product.description),
     ("product_primary_image_url", .text x.product.imageUrl),
     ("category_name", .text x.product.category),
     ("is_product_approved", .bool x.product.approved),
     ("is_product_archived", .bool x.product.archived),
     ("is_product_banned", .bool x.product.banned),
     ("variant_id", x.variant.id.json), ("color", .text x.variant.color),
     ("size", .text x.variant.size), ("is_variant_archived", .bool x.variant.archived),
     ("is_variant_in_stock", .bool x.variant.inStock), ("stock_amount", .int x.variant.stock),
     ("weight_grams", .int x.variant.weightGrams), ("retail_price", .int x.prices.retailPrice)] ++
    x.prices.retailDiscount.members .retail ++
    [("has_wholesale_enabled", .bool x.prices.wholesale.enabled),
     ("wholesale_price", .ofInt? x.prices.wholesale.price),
     ("wholesale_min_quantity", .ofInt? x.prices.wholesale.minQuantity)] ++
    x.prices.wholesale.discount.members .wholesale

/-- A line as JSON: its variant and its quantity. -/
def CartLine.json (l : CartLine) : Json :=
  .array [l.snapshot.variant.id.json, .int l.quantity]

/-- A cart row as JSON: its customer, its variant and what it holds. -/
def CartRow.json (r : CartRow) : Json :=
  .array
    [r.user.json, r.variant.json, .ofInt? r.holding.quantity, .bool r.holding.active]

/-- An answer as JSON. -/
def Answer.json : Answer → Json
  | report r => r.json
  | bundle b => b.json
  | summary s => s.json
  | session s => s.json

/-- Counters as JSON. -/
def Counters.json (c : Counters) : Json :=
  .object (c.counts.map fun p => (p.1, .int p.2))

end Storefront
