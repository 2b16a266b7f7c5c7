/-
Identifiers.

An identifier is its thirty-two hexadecimal digits.  It is written in one way, in lower
case with hyphens, and read in two ways.  Request bodies and paths admit four spellings
and no others.  The subject of a token is read leniently: whatever is left after the
decoration is taken off has to be an integer in base sixteen.

Since the digits are the identifier, two spellings name the same one exactly when they
carry the same digits, whatever their case and punctuation.
-/
import Storefront.Text.Numeral

namespace Storefront

open Text

/-- A 128-bit identifier, as its hexadecimal digits with the most significant first. -/
structure Uuid where
  digits : List (Fin 16)
  length_digits : digits.length = 32
  deriving DecidableEq, Repr

namespace Uuid

/-! ### Writing -/

/-- Lays thirty-two characters out in groups of 8, 4, 4, 4 and 12. -/
def hyphenated (cs : List Char) : List Char :=
  cs.take 8 ++ '-' :: (cs.drop 8).take 4 ++ '-' :: (cs.drop 12).take 4 ++
    '-' :: (cs.drop 16).take 4 ++ '-' :: cs.drop 20

/-- The characters of the canonical form. -/
def chars (u : Uuid) : List Char :=
  hyphenated (u.digits.map hexDigit)

/-- The canonical form: lower case, with hyphens. -/
def text (u : Uuid) : String :=
  String.ofList u.chars

/-- The identifier as a number; canonical forms are ordered as these numbers are. -/
def value (u : Uuid) : Nat :=
  positional 16 (u.digits.map Fin.val)

/-! ### Reading -/

/-- Thirty-two hexadecimal digits in either case. -/
def ofDigits? (cs : List Char) : Option Uuid :=
  match cs.mapM hexDigit? with
  | none => none
  | some digits => if h : digits.length = 32 then some ⟨digits, h⟩ else none

/-- The thirty-two characters of a text in groups of 8, 4, 4, 4 and 12. -/
def ungrouped? (cs : List Char) : Option (List Char) :=
  if cs.length = 36 ∧ [8, 13, 18, 23].all (fun i => cs[i]? == some '-') then
    some (cs.take 8 ++ (cs.drop 9).take 4 ++ (cs.drop 14).take 4 ++ (cs.drop 19).take 4 ++
      cs.drop 24)
  else none

/-- The text without a prefix and a suffix that it has to have. -/
def between? (opening closing : List Char) (cs : List Char) : Option (List Char) :=
  if opening.isPrefixOf cs ∧ closing.isSuffixOf (cs.drop opening.length) then
    some ((cs.drop opening.length).take (cs.length - opening.length - closing.length))
  else none

/-- The part of an accepted spelling that carries the digits: bare, in groups, in groups
between braces, or in groups after `urn:uuid:`. -/
def undecorated? (cs : List Char) : Option (List Char) :=
  if cs.length = 32 then some cs
  else ungrouped? cs <|> between? ['{'] ['}'] cs >>= ungrouped? <|>
    between? "urn:uuid:".toList [] cs >>= ungrouped?

/-- The identifier that an accepted spelling names. -/
def ofChars? (cs : List Char) : Option Uuid :=
  undecorated? cs >>= ofDigits?

/-- The identifier that a text names in an accepted spelling. -/
def ofText? (text : String) : Option Uuid :=
  ofChars? text.toList

/-- The last `n` digits of a number in base sixteen. -/
def lowDigits : Nat → Nat → List (Fin 16)
  | 0, _ => []
  | n + 1, value => lowDigits n (value / 16) ++ [lastHexDigit value]

theorem length_lowDigits (n value : Nat) : (lowDigits n value).length = n := by
  induction n generalizing value with
  | zero => rfl
  | succ n ih => simp [lowDigits, ih]

/-- The identifier with a value below 2 ^ 128. -/
def ofNat (value : Nat) : Uuid :=
  ⟨lowDigits 32 value, length_lowDigits 32 value⟩

/-- The text with every occurrence of a word taken out, from left to right. -/
def without (word : List Char) : List Char → List Char
  | [] => []
  | c :: cs =>
    if word.isPrefixOf (c :: cs) ∧ word ≠ [] then without word (cs.drop (word.length - 1))
    else c :: without word cs
termination_by cs => cs.length
decreasing_by all_goals simp; try omega

/-- The identifier that a token's subject names. -/
def ofSubject? (text : String) : Option Uuid := do
  let plain := without "uuid:".toList (without "urn:".toList text.toList)
  let body := (trim (fun c => c == '{' || c == '}') plain).filter (· ≠ '-')
  if body.length = 32 then
    match ← hexInteger? body with
    | .ofNat n => if n < Nat.pow 2 128 then return ofNat n else none
    | .negSucc _ => none
  else none

end Uuid

end Storefront
