/-
Values in log lines.

Whatever a caller attaches to a record is one of a few kinds of values.  It is shown in
running text, where a text on its own is itself and a text inside another value is quoted;
or it becomes a member of a line that is one JSON object.

A line has to stay readable whatever is attached.  Texts are cut to two thousand code
points, and lists and mappings to a hundred elements, at every depth; kinds that JSON does
not know become texts and lists.  The keys of a mapping become texts and are kept whole.
Only the id of a request is written as it is, so it has to be of a kind that JSON knows.

Keys of a mapping may be of several kinds.  Two keys are one when they are equal as
values, a flag being equal to the number it counts as; in the line every key is a text,
and keys with the same text are one key there.

An integer has a text only up to a number of digits.  What comes upon a longer one writes
nothing at all.
-/
import Storefront.Json.Basic
import Storefront.Number.Shortest
import Storefront.Text.Numeral
import Storefront.Text.Quoted
import Storefront.Uuid

namespace Storefront.Log

/-! ### Kinds of values -/

/-- A key of a mapping. -/
inductive Key where
  | null
  | flag (b : Bool)
  | number (n : Int)
  | text (s : RawText)
  | id (u : Uuid)
  deriving DecidableEq, Repr

/-- A value that a caller attaches. -/
inductive Value where
  | null
  | flag (b : Bool)
  | number (n : Int)
  | real (x : Number.Binary64)
  | text (s : RawText)
  | id (u : Uuid)
  /-- A thing of which nothing is known but its text. -/
  | thing (s : RawText)
  | list (items : List Value)
  | tuple (items : List Value)
  | set (items : List Value)
  | mapping (pairs : List (Key × Value))
  deriving Repr, Inhabited

namespace Key

/-- A key with the number that a flag counts as in place of the flag. -/
def counted : Key → Key
  | flag b => number (if b then 1 else 0)
  | k => k

instance : BEq Key := ⟨fun a b => decide (a.counted = b.counted)⟩

/-- The word for a flag. -/
def flagWord (b : Bool) : String := if b then "True" else "False"

/-- Whether a key has a text. -/
def isSpelled : Key → Bool
  | number n => Text.isSpelled n
  | _ => true

/-- An identifier inside another value. -/
def innerId (u : Uuid) : String := "UUID('" ++ u.text ++ "')"

/-- The text of a key in a line. -/
def shown : Key → RawText
  | null => "None"
  | flag b => flagWord b
  | number n => toString n
  | text s => s
  | id u => u.text

/-- A key in running text, where texts are quoted. -/
def inner : Key → RawText
  | null => "None"
  | flag b => flagWord b
  | number n => toString n
  | text s => Text.quoted s
  | id u => innerId u

end Key

namespace Value

/-- The name of the kind of a value. -/
def kind : Value → String
  | null => "NoneType"
  | flag _ => "bool"
  | number _ => "int"
  | real _ => "float"
  | text _ => "str"
  | id _ => "UUID"
  | thing _ => "Opaque"
  | list _ => "list"
  | tuple _ => "tuple"
  | set _ => "set"
  | mapping _ => "dict"

mutual

/-- A JSON value as one that is attached. -/
def ofJson : Json → Value
  | .null => null
  | .bool b => flag b
  | .int n => number n
  | .real x => real x
  | .text s => text s
  | .array items => list (ofItems items)
  | .object ms => mapping (ofMembers ms)

/-- JSON values as ones that are attached. -/
def ofItems : List Json → List Value
  | [] => []
  | v :: vs => ofJson v :: ofItems vs

/-- The members of an object as a mapping. -/
def ofMembers : List (RawText × Json) → List (Key × Value)
  | [] => []
  | (k, v) :: ms => (.text k, ofJson v) :: ofMembers ms

end

/-! ### In running text -/

mutual

/-- A value as an element of another one, where texts are quoted. -/
def inner : Value → RawText
  | null => "None"
  | flag b => Key.flagWord b
  | number n => toString n
  | real x => Number.plainReal.render x
  | text s => Text.quoted s
  | id u => Key.innerId u
  | thing s => s
  | list [] => "[]"
  | list (v :: vs) => .char '[' :: inner v ++ innerItems vs ++ [.char ']']
  | tuple [] => "()"
  | tuple [v] => .char '(' :: inner v ++ [.char ',', .char ')']
  | tuple (v :: vs) => .char '(' :: inner v ++ innerItems vs ++ [.char ')']
  | set [] => "set()"
  | set (v :: vs) => .char '{' :: inner v ++ innerItems vs ++ [.char '}']
  | mapping [] => "\x7b\x7d"
  | mapping ((k, v) :: ps) =>
    .char '{' :: k.inner ++ [.char ':', .char ' '] ++ inner v ++ innerPairs ps ++ [.char '}']

/-- The further items of a value. -/
def innerItems : List Value → RawText
  | [] => []
  | v :: vs => .char ',' :: .char ' ' :: inner v ++ innerItems vs

/-- The further pairs of a mapping. -/
def innerPairs : List (Key × Value) → RawText
  | [] => []
  | (k, v) :: ps =>
    .char ',' :: .char ' ' :: k.inner ++ [.char ':', .char ' '] ++ inner v ++ innerPairs ps

end

/-- A value on its own, where a text is itself. -/
def shown : Value → RawText
  | text s | thing s => s
  | id u => u.text
  | v => v.inner

mutual

/-- Whether every integer inside a value has a text. -/
def isSpelled : Value → Bool
  | number n => Text.isSpelled n
  | list items | tuple items | set items => itemsSpelled items
  | mapping ps => pairsSpelled ps
  | _ => true

/-- Whether every integer inside some items has a text. -/
def itemsSpelled : List Value → Bool
  | [] => true
  | v :: vs => isSpelled v && itemsSpelled vs

/-- Whether every integer inside some pairs has a text. -/
def pairsSpelled : List (Key × Value) → Bool
  | [] => true
  | (k, v) :: ps => k.isSpelled && isSpelled v && pairsSpelled ps

end

/-! ### As JSON -/

mutual

/-- A value as JSON, with texts and lists for the kinds that JSON does not know. -/
def plain : Value → Json
  | null => .null
  | flag b => .bool b
  | number n => .int n
  | real x => .real x
  | text s | thing s => .text s
  | id u => .text u.text
  | list items | tuple items | set items => .array (plainItems items)
  | mapping ps => .object (plainPairs ps)

/-- The items of a value as JSON. -/
def plainItems : List Value → List Json
  | [] => []
  | v :: vs => plain v :: plainItems vs

/-- The pairs of a mapping as members, of which some may have the same key. -/
def plainPairs : List (Key × Value) → List (RawText × Json)
  | [] => []
  | (k, v) :: ps => (k.shown, plain v) :: plainPairs ps

end

/-- Why a value cannot be written as it is. -/
inductive WriteError where
  /-- JSON does not know the kind of a value. -/
  | value (kind : String)
  /-- JSON has no text for the kind of a key. -/
  | key (kind : String)
  /-- An integer has more digits than are written. -/
  | digits
  deriving DecidableEq, Repr

end Value

/-- The text of a key that is written as it is: the text of the JSON value that it is. -/
def Key.exact : Key → Except Value.WriteError RawText
  | null => .ok "null"
  | flag b => .ok (if b then "true" else "false")
  | number n => if Text.isSpelled n then .ok (toString n) else .error .digits
  | text s => .ok s
  | id _ => .error (.key "UUID")

namespace Value

mutual

/-- A value as JSON, if it is of a kind that JSON knows. -/
def exact : Value → Except WriteError Json
  | null => .ok .null
  | flag b => .ok (.bool b)
  | number n => if Text.isSpelled n then .ok (.int n) else .error .digits
  | real x => .ok (.real x)
  | text s => .ok (.text s)
  | list items | tuple items => (exactItems items).map .array
  | mapping ps => (exactPairs ps).map .object
  | v => .error (.value v.kind)

/-- The items of a value as JSON. -/
def exactItems : List Value → Except WriteError (List Json)
  | [] => .ok []
  | v :: vs => do return (← exact v) :: (← exactItems vs)

/-- The pairs of a mapping as members. -/
def exactPairs : List (Key × Value) → Except WriteError (List (RawText × Json))
  | [] => .ok []
  | (k, v) :: ps => do return (← k.exact, ← exact v) :: (← exactPairs ps)

end

mutual

/-- What JSON can say becomes JSON again. -/
theorem plain_ofJson (v : Json) : plain (ofJson v) = v := by
  cases v with
  | array items => simp [ofJson, plain, plainItems_ofItems items]
  | object ms => simp [ofJson, plain, plainPairs_ofMembers ms]
  | _ => rfl

theorem plainItems_ofItems (vs : List Json) : plainItems (ofItems vs) = vs := by
  cases vs with
  | nil => rfl
  | cons v vs => simp [ofItems, plainItems, plain_ofJson v, plainItems_ofItems vs]

theorem plainPairs_ofMembers (ms : List (RawText × Json)) :
    plainPairs (ofMembers ms) = ms := by
  cases ms with
  | nil => rfl
  | cons m ms =>
    obtain ⟨k, v⟩ := m
    simp [ofMembers, plainPairs, Key.shown, plain_ofJson v, plainPairs_ofMembers ms]

end

end Value

/-! ### Bounds -/

/-- The most code points of a text. -/
def maxText : Nat := 2000

/-- The most elements of a list or a mapping. -/
def maxItems : Nat := 100

mutual

/-- A value within the bounds, at every depth. -/
def bounded : Json → Json
  | .text s => .text (s.take maxText)
  | .array items => .array (boundedItems maxItems items)
  | .object members => .object (Keyed.ofPairs (boundedMembers maxItems members))
  | v => v

/-- The first items, each within the bounds. -/
def boundedItems : Nat → List Json → List Json
  | 0, _ | _, [] => []
  | n + 1, v :: vs => bounded v :: boundedItems n vs

/-- The first members, their values within the bounds. -/
def boundedMembers : Nat → List (RawText × Json) → List (RawText × Json)
  | 0, _ | _, [] => []
  | n + 1, (k, v) :: ms => (k, bounded v) :: boundedMembers n ms

end

namespace Value

mutual

/-- Whether the keys inside a value have texts, at every depth, as far as they are written. -/
def keysSpelled : Value → Bool
  | list items | tuple items | set items => itemKeysSpelled maxItems items
  | mapping ps => pairKeysSpelled maxItems ps
  | _ => true

/-- Whether the keys inside the first items have texts. -/
def itemKeysSpelled : Nat → List Value → Bool
  | 0, _ | _, [] => true
  | n + 1, v :: vs => keysSpelled v && itemKeysSpelled n vs

/-- Whether the first keys and those inside their values have texts. -/
def pairKeysSpelled : Nat → List (Key × Value) → Bool
  | 0, _ | _, [] => true
  | n + 1, (k, v) :: ps => k.isSpelled && keysSpelled v && pairKeysSpelled n ps

end

end Value

theorem boundedItems_eq (n : Nat) (vs : List Json) :
    boundedItems n vs = (vs.take n).map bounded := by
  induction vs generalizing n with
  | nil => cases n <;> simp [boundedItems]
  | cons v vs ih => cases n <;> simp [boundedItems, ih]

theorem boundedMembers_eq (n : Nat) (ms : List (RawText × Json)) :
    boundedMembers n ms = (ms.take n).map fun m => (m.1, bounded m.2) := by
  induction ms generalizing n with
  | nil => cases n <;> simp [boundedMembers]
  | cons m ms ih => cases n <;> simp [boundedMembers, ih]

end Storefront.Log
