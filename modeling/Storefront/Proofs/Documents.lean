/-
Answers as they are read by a client.

A client knows an answer by the members of its JSON, so what is written has to be more than some
object: every part of the answer stands under a name of its own.  The readers here are that
client.  Each of them asks for an object with exactly the members it names, in their order, and
takes the answer apart into the fields of the value.  That a value comes back from its JSON
(`ofJson?_json`) says at once which names are written, that nothing is left out and that nothing
is told twice.

The readers are built along the types, a bundle from its sellers, these from their products and
these from their variants, and a list is read item by item (`list?_array`).
-/
import Storefront.Cart.Document
import Storefront.Proofs.Spellings

namespace Storefront

/-! ### Parts of an answer -/

namespace Json

/-- What an object holds that has exactly some members, in their order. -/
def fields? (names : List String) : Json → Option (List Json)
  | object ms =>
    if ms.map Prod.fst = names.map RawText.ofString then some (ms.map Prod.snd) else none
  | _ => none

/-- The text that a value is. -/
def text? : Json → Option RawText
  | text s => some s
  | _ => none

/-- The integer that a value is. -/
def int? : Json → Option Int
  | int n => some n
  | _ => none

/-- The identifier that a value is the text of. -/
def id? (v : Json) : Option Uuid :=
  v.string?.bind Uuid.ofText?

/-- Reads a value that may be null. -/
def nullable? {α : Type} (read : Json → Option α) : Json → Option (Option α)
  | null => some none
  | v => (read v).map some

/-- Reads every item of an array. -/
def list? {α : Type} (read : Json → Option α) : Json → Option (List α)
  | array vs => vs.mapM read
  | _ => none

theorem fields?_record {ms : List (String × Json)} {names : List String}
    (h : ms.map Prod.fst = names) : (record ms).fields? names = some (ms.map Prod.snd) := by
  subst h
  simp [record, fields?]

theorem string?_text (s : String) : (text s).string? = some s :=
  RawText.string?_ofString s

theorem id?_json (u : Uuid) : u.json.id? = some u := by
  have hchars : Uuid.ofText? u.text = some u := by
    rw [Uuid.ofText?, Uuid.text, String.toList_ofList]
    exact Uuid.ofChars?_chars u
  rw [id?, Uuid.json, string?_text, Option.bind_some, hchars]

theorem nullable?_ofText? (u? : Option Uuid) :
    nullable? id? (ofText? (u?.map fun u => u.text)) = some u? := by
  cases u? with
  | none => rfl
  | some u => exact congrArg (Option.map some) (id?_json u)

theorem nullable?_ofInt? (n? : Option Int) : nullable? int? (ofInt? n?) = some n? := by
  cases n? <;> rfl

/-- A list comes back when each of its elements does. -/
theorem list?_array {α : Type} {read : Json → Option α} {write : α → Json}
    (h : ∀ a, read (write a) = some a) (as : List α) :
    list? read (array (as.map write)) = some as := by
  simp only [list?]
  induction as with
  | nil => rfl
  | cons a as ih => simp [h a, ih]

end Json

open Json

/-- The tier with a written name. -/
def Tier.ofText? : String → Option Tier
  | "retail" => some retail
  | "wholesale" => some wholesale
  | _ => none

theorem Tier.ofText?_text (t : Tier) : ofText? t.text = some t := by
  cases t <;> rfl

/-- The status with a written name. -/
def Status.ofText? : String → Option Status
  | "added_to_cart" => some added
  | "cart_item_reactivated" => some reactivated
  | "cart_item_updated" => some updated
  | "cart_item_removed" => some removed
  | "cart_cleared" => some cleared
  | _ => none

theorem Status.ofText?_text (s : Status) : ofText? s.text = some s := by
  cases s <;> rfl

theorem Source.ofText?_text (s : Source) : ofText? s.text = some s := by
  cases s <;> rfl

/-- The discount that a flag, a kind and an amount tell of. -/
def DiscountTerms.ofJson? (flag kind amount : Json) : Option (Option DiscountTerms) :=
  match flag with
  | .bool true => do return some ⟨← amount.int?, .ofText (← kind.text?)⟩
  | .bool false => some none
  | _ => none

/-! ### Bundles -/

/-- Reads a variant with its price. -/
def PricedVariant.ofJson? (v : Json) : Option PricedVariant := do
  let [variant, color, size, quantity, tier, base, unit, flag, kind, amount, total, weight] ←
    v.fields? ["variant_id", "color", "size", "quantity", "buying_mode", "base_price",
      "unit_price", "has_discount", "discount_type", "discount_value", "line_total",
      "weight_grams"] | none
  return {
    variant := ← variant.id?
    color := ← color.text?
    size := ← size.text?
    quantity := ← quantity.int?
    tier := ← tier.string?.bind Tier.ofText?
    basePrice := ← base.int?
    unitPrice := ← unit.int?
    discount := ← DiscountTerms.ofJson? flag kind amount
    total := ← total.int?
    weightGrams := ← weight.int? }

/-- Reads the variants of a product. -/
def ProductGroup.ofJson? (v : Json) : Option ProductGroup := do
  let [product, title, description, imageUrl, category, variants] ←
    v.fields? ["product_id", "product_title", "product_description",
      "product_primary_image_url", "category_name", "variants"] | none
  return {
    product := ← product.id?
    title := ← title.text?
    description := ← description.text?
    imageUrl := ← imageUrl.text?
    category := ← category.text?
    variants := ← variants.list? PricedVariant.ofJson? }

/-- Reads the products of a seller. -/
def SellerGroup.ofJson? (v : Json) : Option SellerGroup := do
  let [seller, storeName, products] ←
    v.fields? ["seller_id", "seller_store_name", "products"] | none
  return {
    seller := ← seller.id?
    storeName := ← storeName.text?
    products := ← products.list? ProductGroup.ofJson? }

/-- Reads a variant that cannot be bought. -/
def InvalidItem.ofJson? (v : Json) : Option InvalidItem := do
  let [variant, reason, product, title, color, size] ←
    v.fields? ["variant_id", "reason", "product_id", "product_title", "color", "size"] | none
  return {
    variant := ← variant.id?
    reason := ← reason.text?
    product := ← product.nullable? id?
    title := ← title.text?
    color := ← color.text?
    size := ← size.text? }

/-- Reads a bundle from what its members hold. -/
def Bundle.ofFields? (sellers invalid subtotal weight count : Json) : Option Bundle := do
  return {
    sellers := ← sellers.list? SellerGroup.ofJson?
    invalid := ← invalid.list? InvalidItem.ofJson?
    subtotal := ← subtotal.int?
    weightGrams := ← weight.int?
    count := (← count.int?).toNat }

theorem PricedVariant.ofJson?_json (v : PricedVariant) : ofJson? v.json = some v := by
  obtain ⟨variant, color, size, quantity, tier, base, unit, discount, total, weight⟩ := v
  cases discount with
  | none =>
    rw [ofJson?, json, fields?_record]
    · simp [discountMembers, id?_json, text?, int?, string?_text, Tier.ofText?_text,
        DiscountTerms.ofJson?]
    · rfl
  | some terms =>
    rw [ofJson?, json, fields?_record]
    · simp [discountMembers, id?_json, text?, int?, string?_text, Tier.ofText?_text,
        DiscountTerms.ofJson?, DiscountKind.json, DiscountKind.ofText_text]
    · rfl

theorem ProductGroup.ofJson?_json (g : ProductGroup) : ofJson? g.json = some g := by
  rw [ofJson?, json, fields?_record]
  · simp [id?_json, text?, list?_array PricedVariant.ofJson?_json]
  · rfl

theorem SellerGroup.ofJson?_json (g : SellerGroup) : ofJson? g.json = some g := by
  rw [ofJson?, json, fields?_record]
  · simp [id?_json, text?, list?_array ProductGroup.ofJson?_json]
  · rfl

theorem InvalidItem.ofJson?_json (i : InvalidItem) : ofJson? i.json = some i := by
  rw [ofJson?, json, fields?_record]
  · simp [id?_json, text?, nullable?_ofText?]
  · rfl

theorem Bundle.ofFields?_members (b : Bundle) :
    ofFields? (.array (b.sellers.map SellerGroup.json)) (invalidJson b.invalid) (.int b.subtotal)
      (.int b.weightGrams) (.int b.count) = some b := by
  simp [ofFields?, invalidJson, int?, list?_array SellerGroup.ofJson?_json,
    list?_array InvalidItem.ofJson?_json]

/-! ### Answers -/

/-- Reads the report of a mutation. -/
def CartReport.ofJson? (v : Json) : Option CartReport := do
  let [variant, quantity, status] ← v.fields? ["variant_id", "quantity", "status"] | none
  return {
    variant := ← variant.nullable? id?
    quantity := ← quantity.nullable? int?
    status := ← status.string?.bind Status.ofText? }

/-- Reads a bundle. -/
def Bundle.ofJson? (v : Json) : Option Bundle := do
  let [sellers, invalid, subtotal, weight, count] ←
    v.fields? ["valid_items", "invalid_items", "subtotal", "total_weight_grams", "item_count"]
    | none
  Bundle.ofFields? sellers invalid subtotal weight count

/-- Reads a summary. -/
def Summary.ofJson? (v : Json) : Option Summary := do
  let [totalPrice, invalid] ← v.fields? ["total_price", "invalid_items"] | none
  return {
    totalPrice := ← totalPrice.int?
    invalid := ← invalid.list? InvalidItem.ofJson? }

/-- Reads a checkout: a bundle, then the id and the source of the checkout. -/
def CheckoutSession.ofJson? (v : Json) : Option CheckoutSession := do
  let [sellers, invalid, subtotal, weight, count, session, source] ←
    v.fields? ["valid_items", "invalid_items", "subtotal", "total_weight_grams", "item_count",
      "checkout_session_id", "source"] | none
  return {
    session := ← session.id?
    source := ← source.string?.bind Source.ofText?
    bundle := ← Bundle.ofFields? sellers invalid subtotal weight count }

theorem CartReport.ofJson?_json (r : CartReport) : ofJson? r.json = some r := by
  rw [ofJson?, json, fields?_record]
  · simp [nullable?_ofText?, nullable?_ofInt?, string?_text, Status.ofText?_text]
  · rfl

theorem Bundle.ofJson?_json (b : Bundle) : ofJson? b.json = some b := by
  rw [ofJson?, json, fields?_record]
  · exact ofFields?_members b
  · rfl

theorem Summary.ofJson?_json (s : Summary) : ofJson? s.json = some s := by
  rw [ofJson?, json, fields?_record]
  · simp [invalidJson, int?, list?_array InvalidItem.ofJson?_json]
  · rfl

theorem CheckoutSession.ofJson?_json (s : CheckoutSession) : ofJson? s.json = some s := by
  have hid : (Json.text s.session.text).id? = some s.session := id?_json s.session
  rw [ofJson?, json, fields?_record]
  · simp [Bundle.members, hid, string?_text, Source.ofText?_text, Bundle.ofFields?_members]
  · rfl

/-- Reads the answer to a call: each kind of call has one kind of answer. -/
def Call.read? (call : Call) (v : Json) : Option Answer :=
  match call with
  | .mutate _ => (CartReport.ofJson? v).map .report
  | .list _ => (Bundle.ofJson? v).map .bundle
  | .summary .. => (Summary.ofJson? v).map .summary
  | .checkout _ => (CheckoutSession.ofJson? v).map .session

/-- **An answer is read back from its JSON**, part by part under the name of the part. -/
theorem Shop.read?_answer {shop : Shop} {limit : Int} {c : Conditions} {call : Call} {a : Answer}
    (h : (shop.call limit c call).1.result = .ok a) : call.read? a.json = some a := by
  cases call with
  | mutate m =>
    obtain ⟨r, -, rfl⟩ := Except.map_eq_ok.mp h
    exact congrArg (Option.map Answer.report) r.ofJson?_json
  | list user =>
    obtain ⟨b, -, rfl⟩ := Except.map_eq_ok.mp h
    exact congrArg (Option.map Answer.bundle) b.ofJson?_json
  | summary user ids =>
    obtain ⟨s, -, rfl⟩ := Except.map_eq_ok.mp h
    exact congrArg (Option.map Answer.summary) s.ofJson?_json
  | checkout o =>
    obtain ⟨s, -, rfl⟩ := Except.map_eq_ok.mp h
    exact congrArg (Option.map Answer.session) s.ofJson?_json

end Storefront
