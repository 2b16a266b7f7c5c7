/-
Integers in words.

Two families of spelled integers occur in what customers send.

A request body spells a quantity.  The plain spelling is a minus, perhaps, and ASCII digits
without a zero in front.  A decorated spelling is brought to the plain one first: blanks
around it, a plus, zeros in front, a point with nothing but zeros after it, and single
underscores between digits are taken off.

A token spells a time in base ten, or an identifier in base sixteen, with the digits of any
script.  There single underscores may stand between two digits, and a sign and blanks may
stand in front.
-/
import Storefront.Text.Blank
import Storefront.Text.Digit

namespace Storefront.Text

/-- Splits a leading sign off; the flag is true for a minus. -/
def splitSign : List Char → Bool × List Char
  | '-' :: cs => (true, cs)
  | '+' :: cs => (false, cs)
  | cs => (false, cs)

/-- A number with a sign. -/
def signed (negative : Bool) (n : Nat) : Int :=
  if negative then -(n : Int) else n

/-- The most decimal digits that are read as one number, or written of one. -/
def maxDigits : Nat := 4300

/-- Whether an integer has few enough digits to be written in base ten. -/
def isSpelled (n : Int) : Bool :=
  n.natAbs < Nat.pow 10 maxDigits

/-- What is said of an integer that has more digits. -/
def unspelledMessage : String :=
  "Exceeds the limit (4300 digits) for integer string conversion; " ++
    "use sys.set_int_max_str_digits() to increase the limit"

/-! ### Quantities -/

/-- Why a text spells no integer. -/
inductive SpellingError where
  /-- The text is no numeral. -/
  | noNumeral
  /-- The text starts with more digits than are read. -/
  | tooLong
  deriving DecidableEq, Repr

/-- Whether digits are written without a zero in front that could be left off. -/
def isPlainDigits (cs : List Char) : Bool :=
  cs ≠ [] && cs.all Char.isDigit && (cs.head? != some '0' || cs.length == 1)

/-- The number that ASCII digits write. -/
def asciiNumber (cs : List Char) : Nat :=
  positional 10 (cs.filterMap asciiDigit?)

/-- The integer with a plain spelling. -/
def plainInteger? : List Char → Option Int
  | '-' :: cs => if isPlainDigits cs then some (-(asciiNumber cs : Int)) else none
  | cs => if isPlainDigits cs then some (asciiNumber cs) else none

/-- The digits that a text starts with, behind a minus if there is one; none when the first
of them is a zero. -/
def leadingDigits (cs : List Char) : List Char :=
  let cs := if cs.head? = some '-' then cs.drop 1 else cs
  if cs.head? = some '0' then [] else cs.takeWhile Char.isDigit

/-- What is left behind zeros and underscores, the last of which is given: they are dropped
before a digit or a minus, one of them stays before a point or at the end, and nothing else
may follow them. -/
def afterZeros? (last : Char) : List Char → Option (List Char)
  | [] => some [last]
  | c :: cs =>
    if c = '0' ∨ c = '_' then afterZeros? c cs
    else if c.isDigit ∨ c = '-' then some (c :: cs)
    else if c = '.' then some (last :: c :: cs)
    else none

/-- The text without the zeros in front, of a text that starts with a digit. -/
def withoutZeros? : List Char → Option (List Char)
  | [] => none
  | c :: cs => if c = '0' then afterZeros? c cs else if c.isDigit then some (c :: cs) else none

/-- The text without a plus and without the zeros in front. -/
def withoutPadding? : List Char → Option (List Char)
  | '-' :: cs => (withoutZeros? cs).map ('-' :: ·)
  | '+' :: cs => withoutZeros? cs
  | cs => withoutZeros? cs

/-- The text without a point that has one or more zeros after it and nothing else. -/
def withoutZeroFraction (cs : List Char) : List Char :=
  match cs.dropWhile (· ≠ '.') with
  | [] | [_] => cs
  | _ :: zeros => if zeros.all (· == '0') then cs.takeWhile (· ≠ '.') else cs

/-- Whether two underscores stand side by side. -/
def hasDoubleUnderscore : List Char → Bool
  | '_' :: '_' :: _ => true
  | _ :: cs => hasDoubleUnderscore cs
  | [] => false

/-- The text without its underscores, if they are single and inside it. -/
def withoutUnderscores (cs : List Char) : List Char :=
  if cs.head? = some '_' ∨ cs.getLast? = some '_' ∨ hasDoubleUnderscore cs then cs
  else cs.filter (· ≠ '_')

/-- The plain spelling that a decorated one stands for, if it is a spelling at all. -/
def plainSpelling? (cs : List Char) : Option (List Char) :=
  (withoutPadding? (trim isWhiteSpace cs)).map fun cs =>
    withoutUnderscores (withoutZeroFraction cs)

/-- The integer that a text in a request body spells. -/
def spelledInteger (cs : List Char) : Except SpellingError Int :=
  if maxDigits < (leadingDigits cs).length then .error .tooLong
  else
    match plainInteger? cs with
    | some n => .ok n
    | none =>
      match plainSpelling? cs with
      | none => .error .noNumeral
      | some plain =>
        if maxDigits < (leadingDigits plain).length then .error .noNumeral
        else (plainInteger? plain).elim (.error .noNumeral) .ok

/-! ### Tokens -/

/-- The values of the digits after one digit: each may follow a single underscore. -/
def moreDigits? (digit? : Char → Option Nat) : List Char → Option (List Nat)
  | [] => some []
  | '_' :: c :: cs => do return (← digit? c) :: (← moreDigits? digit? cs)
  | c :: cs => do return (← digit? c) :: (← moreDigits? digit? cs)

/-- The values of a non-empty run of digits with single underscores between them. -/
def digits? (digit? : Char → Option Nat) : List Char → Option (List Nat)
  | [] => none
  | c :: cs => do return (← digit? c) :: (← moreDigits? digit? cs)

/-- The integer that a text in a token spells in base ten. -/
def claimedInteger? (cs : List Char) : Option Int := do
  let (negative, rest) := splitSign (trim isWhiteSpace cs)
  let digits ← digits? decimalDigit? rest
  if digits.length ≤ maxDigits then
    return signed negative (positional 10 digits)
  else none

/-- The integer that a text spells in base sixteen; `0x` may announce the base. -/
def hexInteger? (cs : List Char) : Option Int := do
  let (negative, rest) := splitSign (trim isWhiteSpace (cs.map asciiDigitOr))
  let body := match rest with
    | '0' :: 'x' :: '_' :: rest | '0' :: 'X' :: '_' :: rest => rest
    | '0' :: 'x' :: rest | '0' :: 'X' :: rest => rest
    | rest => rest
  return signed negative (positional 16 (← digits? (fun c => (hexDigit? c).map Fin.val) body))

end Storefront.Text
