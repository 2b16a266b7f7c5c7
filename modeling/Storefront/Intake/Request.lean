/-
What customers send.

Four kinds of request carry a body.  Each is read from any JSON value: keys that are not
asked for are ignored, and the parts are brought to one form, whatever spelling they
came in.  So a quantity is an integer that a service accepts, and an identifier is its
digits.
-/
import Storefront.Cart.Aggregate
import Storefront.Intake.Problem

namespace Storefront.Intake

open Text Number

/-! ### Parts -/

/-- The characters of a part that is a text. -/
def readChars (sent : RawText) : Checked (List Char) :=
  match sent.chars? with
  | some cs => .ok cs
  | none => .fail .notUnicode (.text sent)

/-- An integer that a quantity can be. -/
def bounded (sent : Json) (n : Int) : Checked Int :=
  if n < 1 then .fail .tooSmall sent
  else if maxQuantity < n then .fail .tooLarge sent
  else .ok n

/-- The integers that a fractional number is read as lie strictly between this and its
negative. -/
def realLimit : Int := 0x8000000000000000

/-- An integer that is written as a fractional number. -/
def readReal (x : Binary64) : Checked Int :=
  match x.toInt? with
  | some n =>
    if -realLimit < n ∧ n < realLimit then bounded (.real x) n else .fail .integerSize (.real x)
  | none => .fail (if x.isFinite then .fractional else .notFinite) (.real x)

/-- An integer that is spelled in a text. -/
def readSpelled (sent : RawText) : Checked Int := do
  match spelledInteger (← readChars sent) with
  | .ok n => bounded (.text sent) n
  | .error .noNumeral => .fail .notIntegerText (.text sent)
  | .error .tooLong => .fail .integerSize (.text sent)

/-- A quantity: an integer, however it is written. -/
def readQuantity : Json → Checked Int
  | .int n => bounded (.int n) n
  | .bool b => bounded (.bool b) (if b then 1 else 0)
  | .real x => readReal x
  | .text s => readSpelled s
  | v => .fail .notInteger v

/-- An identifier, in any of its accepted spellings. -/
def readId : Json → Checked Uuid
  | .text s => do
    match Uuid.ofChars? (← readChars s) with
    | some u => return u
    | none => .fail .notIdText (.text s)
  | v => .fail .notId v

/-- Identifiers from a position on. -/
def readIdsFrom (start : Nat) : List Json → Checked (List Uuid)
  | [] => .ok []
  | v :: vs => .both List.cons ((readId v).within (.position start)) (readIdsFrom (start + 1) vs)

/-- A list of identifiers. -/
def readIds : Json → Checked (List Uuid)
  | .array items => readIdsFrom 0 items
  | v => .fail .notList v

/-- Where a checkout starts from. -/
def readSource : Json → Checked Source
  | .text s => do
    match Source.ofText? (String.ofList (← readChars s)) with
    | some x => return x
    | none => .fail .notChoice (.text s)
  | v => .fail .notChoice v

/-! ### Fields -/

variable {α : Type}

/-- A field that has to be there. -/
def required (name : String) (read : Json → Checked α) (members : Json.Members) : Checked α :=
  Checked.within (.field name) <|
    match members.get? name with
    | some v => read v
    | none => .fail .missing (.object members)

/-- A field that may be absent or null. -/
def optional (name : String) (read : Json → Checked α) (members : Json.Members) :
    Checked (Option α) :=
  Checked.within (.field name) <|
    match members.get? name with
    | none | some .null => .ok none
    | some v => (read v).map some

/-- The parts of an object. -/
def readObject (read : Json.Members → Checked α) : Json → Checked α
  | .object members => read members
  | v => .fail .notObject v

/-! ### Requests -/

/-- A variant to put into the cart. -/
structure NewItem where
  product : Uuid
  variant : Uuid
  quantity : Int
  deriving DecidableEq, Repr

/-- Reads a variant to put into the cart. -/
def NewItem.read : Json → Checked NewItem :=
  readObject fun ms =>
    .both (fun p (vq : Uuid × Int) => ⟨p, vq.1, vq.2⟩) (required "product_id" readId ms)
      (.both Prod.mk (required "variant_id" readId ms) (required "quantity" readQuantity ms))

/-- A new quantity. -/
structure NewQuantity where
  quantity : Int
  deriving DecidableEq, Repr

/-- Reads a new quantity. -/
def NewQuantity.read : Json → Checked NewQuantity :=
  readObject fun ms => (required "quantity" readQuantity ms).map NewQuantity.mk

/-- A choice of variants. -/
structure Choice where
  variants : List Uuid
  deriving DecidableEq, Repr

/-- Identifiers of which there has to be at least one. -/
def readSomeIds (v : Json) : Checked (List Uuid) := do
  let us ← readIds v
  if us.isEmpty then .fail .tooShort v else return us

/-- Reads a choice of variants. -/
def Choice.read : Json → Checked Choice :=
  readObject fun ms => (required "variant_ids" readSomeIds ms).map Choice.mk

/-- The fields of a checkout before they are held against each other. -/
structure CheckoutFields where
  source : Source
  variant : Option Uuid
  quantity : Option Int
  variants : Option (List Uuid)
  deriving DecidableEq, Repr

/-- Reads the fields of a checkout. -/
def CheckoutFields.read : Json → Checked CheckoutFields :=
  readObject fun ms =>
    .both (fun s (r : Option Uuid × Option Int × Option (List Uuid)) => ⟨s, r.1, r.2.1, r.2.2⟩)
      (required "source" readSource ms)
      (.both Prod.mk (optional "variant_id" readId ms)
        (.both Prod.mk (optional "quantity" readQuantity ms) (optional "variant_ids" readIds ms)))

/-- A checkout that has what its source needs; the rest of what was sent is kept. -/
inductive CheckoutRequest where
  | product (variant : Uuid) (quantity : Int) (variants : Option (List Uuid))
  | cart (variant : Option Uuid) (quantity : Option Int) (first : Uuid) (rest : List Uuid)
  deriving DecidableEq, Repr

namespace CheckoutRequest

/-- Holds the fields of a checkout against each other; they fit together or break a rule. -/
def ofFields (f : CheckoutFields) : Except String CheckoutRequest :=
  match f with
  | ⟨.product, some variant, some quantity, variants⟩ => .ok (.product variant quantity variants)
  | ⟨.product, _, _, _⟩ => .error "variant_id and quantity are required for product checkout"
  | ⟨.cart, variant, quantity, some (first :: rest)⟩ => .ok (.cart variant quantity first rest)
  | ⟨.cart, _, _, _⟩ => .error "variant_ids must be a non-empty array for cart checkout"

/-- The fields of a checkout. -/
def fields : CheckoutRequest → CheckoutFields
  | product variant quantity variants => ⟨.product, some variant, some quantity, variants⟩
  | cart variant quantity first rest => ⟨.cart, variant, quantity, some (first :: rest)⟩

/-- Reads a checkout. -/
def read (v : Json) : Checked CheckoutRequest := do
  match ofFields (← CheckoutFields.read v) with
  | .ok r => return r
  | .error rule => .fail (.rule rule) v

/-- The order of a customer. -/
def order (user : Uuid) : CheckoutRequest → Order
  | product variant quantity _ => .product user variant quantity
  | cart _ _ first rest => .cart user (first :: rest)

/-- A checkout is what its fields make. -/
theorem ofFields_fields (r : CheckoutRequest) : ofFields r.fields = .ok r := by
  cases r <;> rfl

end CheckoutRequest

end Storefront.Intake
