/-
Lexemes of JSON text.

One pass over the code points splits a text into punctuation, quoted texts and words, and
a word is a constant or a numeral.  The pass never fails: what no lexeme can be is a
lexeme of its own, which no value admits, so the place of the first fault decides how a
text is refused.  A word that starts with a numeral is that numeral and a fault after it,
so that a numeral which is not read for its size is found before the fault.

A quoted text may spell a character beyond the first plane as two escapes, one for each
surrogate.  A surrogate that is not spelled next to its partner stays what it is.
-/
import Storefront.Json.Basic
import Storefront.Text.Numeral

namespace Storefront.Json

open Text Number

/-- A lexical unit. -/
inductive Lexeme where
  | openArray
  | closeArray
  | openObject
  | closeObject
  | comma
  | colon
  | quoted (s : RawText)
  /-- A constant, or a numeral with a point or an exponent. -/
  | atom (v : Json)
  /-- A numeral of digits alone, with their number. -/
  | integer (n : Int) (size : Nat)
  /-- No lexeme. -/
  | fault
  deriving Repr

/-! ### Words -/

/-- The digits at the start of a text, with the rest. -/
def spanDigits (cs : List Char) : List Char × List Char :=
  (cs.takeWhile Char.isDigit, cs.dropWhile Char.isDigit)

/-- The number that ASCII digits write. -/
def decimal (ds : List Char) : Nat :=
  positional 10 (ds.map fun c => c.toNat - '0'.toNat)

/-- The whole part of a numeral, with the rest: one zero, or digits that start with none. -/
def spanWhole : List Char → List Char × List Char
  | '0' :: cs => (['0'], cs)
  | cs => spanDigits cs

/-- The digits after the point of a numeral, with the rest; none without a point that has
a digit after it. -/
def spanFraction : List Char → List Char × List Char
  | '.' :: cs =>
    match spanDigits cs with
    | ([], _) => ([], '.' :: cs)
    | found => found
  | cs => ([], cs)

/-- The exponent of a numeral, with the rest; none without a digit in it. -/
def spanExponent : List Char → Option Int × List Char
  | [] => (none, [])
  | c :: cs =>
    let (negative, rest) := splitSign cs
    match spanDigits rest with
    | ([], _) => (none, c :: cs)
    | (ds, rest) =>
      if c = 'e' ∨ c = 'E' then (some (signed negative (decimal ds)), rest) else (none, c :: cs)

/-- The numeral at the start of a word without its sign, and the fault that the rest of the
word is. -/
def unsignedNumeral (negative : Bool) (cs : List Char) : List Lexeme :=
  let (whole, rest) := spanWhole cs
  if whole = [] then [.fault]
  else
    let (fraction, rest) := spanFraction rest
    let (exponent, rest) := spanExponent rest
    let numeral :=
      if fraction = [] ∧ exponent = none then
        Lexeme.integer (signed negative (decimal whole)) whole.length
      else
        .atom (.real (Binary64.ofDecimal negative (decimal (whole ++ fraction))
          (exponent.getD 0 - fraction.length)))
    if rest = [] then [numeral] else [numeral, .fault]

/-- The lexemes that a word is. -/
def ofWord (cs : List Char) : List Lexeme :=
  if cs = "null".toList then [.atom .null]
  else if cs = "true".toList then [.atom (.bool true)]
  else if cs = "false".toList then [.atom (.bool false)]
  else if cs = "NaN".toList then [.atom (.real .nan)]
  else if cs = "Infinity".toList then [.atom (.real (.infinite false))]
  else if cs = "-Infinity".toList then [.atom (.real (.infinite true))]
  else
    match cs with
    | '-' :: rest => unsignedNumeral true rest
    | rest => unsignedNumeral false rest

/-! ### Quoted texts -/

/-- What a backslash and a letter stand for. -/
def unescape? : Char → Option Char
  | '"' => some '"'
  | '\\' => some '\\'
  | '/' => some '/'
  | 'b' => some '\x08'
  | 'f' => some '\x0c'
  | 'n' => some '\n'
  | 'r' => some '\r'
  | 't' => some '\t'
  | _ => none

/-- What has been read of a quoted text, in reverse.  A first surrogate that was just
escaped is held back, since an escape of its partner may follow. -/
structure Quote where
  seen : RawText
  held : Option (Fin 0x800)
  deriving Repr

namespace Quote

/-- A quoted text of which nothing has been read. -/
def empty : Quote := ⟨[], none⟩

/-- What has been read, with a surrogate that found no partner. -/
def settled (q : Quote) : RawText :=
  match q.held with
  | none => q.seen
  | some high => .surrogate high :: q.seen

/-- One more code point. -/
def push (q : Quote) (p : CodePoint) : Quote :=
  ⟨p :: q.settled, none⟩

/-- One more code point that was escaped by its number. -/
def pushEscaped (q : Quote) (n : Nat) : Quote :=
  match CodePoint.ofNat? n, q.held with
  | some (.surrogate k), some high =>
    if CodePoint.isHigh k then ⟨q.settled, some k⟩ else ⟨.ofPair high k :: q.seen, none⟩
  | some (.surrogate k), none =>
    if CodePoint.isHigh k then ⟨q.seen, some k⟩ else q.push (.surrogate k)
  | some p, _ => q.push p
  | none, _ => q

/-- The quoted text. -/
def text (q : Quote) : RawText := q.settled.reverse

end Quote

/-! ### The pass -/

/-- Where the pass is.  What has been collected is kept in reverse. -/
inductive Scan where
  | between
  | word (seen : List Char)
  | quoted (q : Quote)
  | escaped (q : Quote)
  /-- Inside `\u` and its four digits. -/
  | unicode (q : Quote) (digits : List Nat)

/-- The blanks between lexemes. -/
def isGap (c : Char) : Bool :=
  c == ' ' || c == '\n' || c == '\r' || c == '\t'

/-- The lexeme of a punctuation mark. -/
def punctuation? : Char → Option Lexeme
  | '[' => some .openArray
  | ']' => some .closeArray
  | '{' => some .openObject
  | '}' => some .closeObject
  | ',' => some .comma
  | ':' => some .colon
  | _ => none

/-- The lexemes found so far in reverse, when the pass stops between two of them. -/
def Scan.close (scan : Scan) (found : List Lexeme) : List Lexeme :=
  match scan with
  | .between => found
  | .word seen => (ofWord seen.reverse).reverse ++ found
  | _ => .fault :: found

/-- The pass at a character outside quotes, with the lexemes found so far in reverse. -/
def outside (found : List Lexeme) (c : Char) : Scan × List Lexeme :=
  match punctuation? c with
  | some l => (.between, l :: found)
  | none =>
    if isGap c then (.between, found)
    else if c = '"' then (.quoted .empty, found)
    else (.word [c], found)

/-- One character further; nothing when the character is a fault. -/
def advance (scan : Scan) (found : List Lexeme) (c : Char) : Option (Scan × List Lexeme) :=
  match scan with
  | .between => some (outside found c)
  | .word seen =>
    if (punctuation? c).isSome ∨ isGap c ∨ c = '"' then some (outside (scan.close found) c)
    else some (.word (c :: seen), found)
  | .quoted q =>
    if c = '"' then some (.between, .quoted q.text :: found)
    else if c = '\\' then some (.escaped q, found)
    else if c.toNat < 0x20 then none
    else some (.quoted (q.push (.char c)), found)
  | .escaped q =>
    if c = 'u' then some (.unicode q [], found)
    else (unescape? c).map fun c => (.quoted (q.push (.char c)), found)
  | .unicode q digits =>
    match hexDigit? c with
    | none => none
    | some d =>
      let digits := digits ++ [d.val]
      if digits.length = 4 then some (.quoted (q.pushEscaped (positional 16 digits)), found)
      else some (.unicode q digits, found)

/-- The pass at a surrogate, which only a quoted text can hold. -/
def advanceSurrogate (scan : Scan) (found : List Lexeme) (k : Fin 0x800) :
    Option (Scan × List Lexeme) :=
  match scan with
  | .quoted q => some (.quoted (q.push (.surrogate k)), found)
  | _ => none

/-- The lexemes of the rest of a text. -/
def scanFrom (scan : Scan) (found : List Lexeme) : RawText → List Lexeme
  | [] => (scan.close found).reverse
  | p :: ps =>
    let next := match p with
      | .char c => advance scan found c
      | .surrogate k => advanceSurrogate scan found k
    match next with
    | some (scan, found) => scanFrom scan found ps
    | none => (.fault :: scan.close found).reverse

/-- The lexemes of a text. -/
def lexemes (t : RawText) : List Lexeme :=
  scanFrom .between [] t

end Storefront.Json
