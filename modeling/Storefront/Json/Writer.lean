/-
Writing JSON.

A value has one text in each style.  The styles differ in the blanks after separators
and in the code points that are written as they are; the rest is escaped, characters
beyond the first plane as a pair of surrogates.
-/
import Storefront.Json.Basic
import Storefront.Number.Shortest
import Storefront.Text.Digit
import Storefront.Text.Numeral

namespace Storefront.Json

open Text

/-- How values are laid out. -/
structure Style where
  /-- Between the items of an array or the members of an object. -/
  itemGap : List Char
  /-- Between a key and its value. -/
  keyGap : List Char
  /-- The code points beyond the escapes of every style that are written as they are. -/
  plain : CodePoint → Bool

/-- Log lines: a blank after each separator, and all but controls as it is. -/
def Style.line : Style :=
  ⟨[',', ' '], [':', ' '], fun p => 0x20 ≤ p.value⟩

/-- Token segments: no blanks, and nothing but printable ASCII. -/
def Style.compact : Style :=
  ⟨[','], [':'], fun p => 0x20 ≤ p.value && p.value < 0x7F⟩

/-- A code point as one or two units of four hexadecimal digits. -/
def unicodeEscape (n : Nat) : List Char :=
  if n < 0x10000 then '\\' :: 'u' :: hex4 n
  else
    let n := n - 0x10000
    '\\' :: 'u' :: hex4 (0xD800 + n / 0x400) ++ '\\' :: 'u' :: hex4 (0xDC00 + n % 0x400)

/-- A code point inside quotes. -/
def escape (style : Style) (p : CodePoint) : RawText :=
  match p with
  | .char '"' => ['\\', '"'].map .char
  | .char '\\' => ['\\', '\\'].map .char
  | .char '\n' => ['\\', 'n'].map .char
  | .char '\r' => ['\\', 'r'].map .char
  | .char '\t' => ['\\', 't'].map .char
  | .char '\x08' => ['\\', 'b'].map .char
  | .char '\x0c' => ['\\', 'f'].map .char
  | p => if style.plain p then [p] else (unicodeEscape p.value).map .char

/-- A text between quotes. -/
def quote (style : Style) (s : RawText) : RawText :=
  .char '"' :: s.flatMap (escape style) ++ [.char '"']

mutual

/-- The code points of a value. -/
def write (style : Style) : Json → RawText
  | null => "null"
  | bool true => "true"
  | bool false => "false"
  | int n => toString n
  | real x => Number.jsonReal.render x
  | text s => quote style s
  | array [] => "[]"
  | array (v :: vs) => .char '[' :: write style v ++ writeItems style vs ++ [.char ']']
  | object [] => "\x7b\x7d"
  | object ((k, v) :: ms) =>
    .char '{' :: quote style k ++ style.keyGap.map .char ++ write style v ++
      writeMembers style ms ++ [.char '}']

/-- The further items of an array, each after a separator. -/
def writeItems (style : Style) : List Json → RawText
  | [] => []
  | v :: vs => style.itemGap.map .char ++ write style v ++ writeItems style vs

/-- The further members of an object, each after a separator. -/
def writeMembers (style : Style) : List (RawText × Json) → RawText
  | [] => []
  | (k, v) :: ms =>
    style.itemGap.map .char ++ quote style k ++ style.keyGap.map .char ++ write style v ++
      writeMembers style ms

end

mutual

/-- Whether every integer inside a value has few enough digits to be written. -/
def isSpelled : Json → Bool
  | int n => Text.isSpelled n
  | array items => itemsSpelled items
  | object ms => membersSpelled ms
  | _ => true

/-- Whether every integer inside some items has few enough digits. -/
def itemsSpelled : List Json → Bool
  | [] => true
  | v :: vs => isSpelled v && itemsSpelled vs

/-- Whether every integer inside some members has few enough digits. -/
def membersSpelled : List (RawText × Json) → Bool
  | [] => true
  | (_, v) :: ms => isSpelled v && membersSpelled ms

end

/-- The text of a value.  A style that writes no surrogate as it is loses nothing. -/
def render (style : Style) (v : Json) : String :=
  (write style v).repaired

end Storefront.Json
