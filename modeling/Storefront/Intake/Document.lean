/-
Requests as JSON.

How a request is written back once it has been read: every field is there, in the one
form that reading gives it.
-/
import Storefront.Cart.Document
import Storefront.Intake.Request

namespace Storefront.Intake

/-- Identifiers as JSON. -/
def idsJson (us : List Uuid) : Json := .array (us.map Uuid.json)

/-- An optional part as JSON. -/
def optionalJson {α : Type} (write : α → Json) : Option α → Json
  | none => .null
  | some a => write a

/-- A variant to put into the cart as JSON. -/
def NewItem.json (r : NewItem) : Json :=
  .record [("product_id", r.product.json), ("variant_id", r.variant.json),
    ("quantity", .int r.quantity)]

/-- A new quantity as JSON. -/
def NewQuantity.json (r : NewQuantity) : Json :=
  .record [("quantity", .int r.quantity)]

/-- A choice of variants as JSON. -/
def Choice.json (r : Choice) : Json :=
  .record [("variant_ids", idsJson r.variants)]

/-- The fields of a checkout as JSON. -/
def CheckoutFields.json (f : CheckoutFields) : Json :=
  .record [("source", .text f.source.text), ("variant_id", optionalJson Uuid.json f.variant),
    ("quantity", optionalJson .int f.quantity), ("variant_ids", optionalJson idsJson f.variants)]

/-- A checkout as JSON. -/
def CheckoutRequest.json (r : CheckoutRequest) : Json :=
  r.fields.json

end Storefront.Intake
