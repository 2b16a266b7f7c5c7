/-
JSON values.

Integers are unbounded and kept apart from numbers written with a point or an exponent,
since the two are written and validated differently.  Texts and keys are code points,
since a JSON text can spell a surrogate that stands alone.  The members of an object keep
their order.
-/
import Storefront.Keyed
import Storefront.Number.Binary64
import Storefront.Text.CodePoint

namespace Storefront

/-- A JSON value. -/
inductive Json where
  | null
  | bool (b : Bool)
  | int (n : Int)
  | real (x : Number.Binary64)
  | text (s : RawText)
  | array (items : List Json)
  | object (members : List (RawText × Json))
  deriving Repr, Inhabited

namespace Json

/-- The members of an object. -/
abbrev Members := List (RawText × Json)

/-- The member under a key. -/
def Members.get? (key : String) (ms : Members) : Option Json :=
  Keyed.get? (RawText.ofString key) ms

/-- The member of an object under a key; nothing for every other value. -/
def get? (key : String) : Json → Option Json
  | object ms => Members.get? key ms
  | _ => none

/-- The members of an object; none for every other value. -/
def members : Json → Members
  | object ms => ms
  | _ => []

/-- The text that a value is, if it is one without surrogates. -/
def string? : Json → Option String
  | text s => s.string?
  | _ => none

/-- An object whose keys are given as texts. -/
def record (ms : List (String × Json)) : Json :=
  object (ms.map fun m => (RawText.ofString m.1, m.2))

/-- A text, or null when there is none. -/
def ofText? : Option RawText → Json
  | none => null
  | some s => text s

/-- An integer, or null when there is none. -/
def ofInt? : Option Int → Json
  | none => null
  | some n => int n

mutual

/-- A value with some members left out of all objects in it. -/
def without (p : RawText → Bool) : Json → Json
  | array items => array (itemsWithout p items)
  | object ms => object (membersWithout p ms)
  | v => v

/-- Items with some members left out of all objects in them. -/
def itemsWithout (p : RawText → Bool) : List Json → List Json
  | [] => []
  | v :: vs => without p v :: itemsWithout p vs

/-- The members that are not left out, with some left out of all objects in them. -/
def membersWithout (p : RawText → Bool) : List (RawText × Json) → List (RawText × Json)
  | [] => []
  | (k, v) :: ms =>
    if p k then membersWithout p ms else (k, without p v) :: membersWithout p ms

end

mutual

/-- Whether other programs can read a value once it is written in UTF-8: numbers are finite
and no surrogate stands alone. -/
def isPortable : Json → Bool
  | real x => x.isFinite
  | text s => s.string?.isSome
  | array items => arePortable items
  | object ms => havePortable ms
  | _ => true

/-- Whether all items are portable. -/
def arePortable : List Json → Bool
  | [] => true
  | v :: vs => isPortable v && arePortable vs

/-- Whether all keys and members are portable. -/
def havePortable : List (RawText × Json) → Bool
  | [] => true
  | (k, v) :: ms => k.string?.isSome && isPortable v && havePortable ms

end

end Json

end Storefront
