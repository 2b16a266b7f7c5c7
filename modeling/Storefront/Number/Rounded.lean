/-
Fractional numbers to a set number of digits.

A value is rounded once, from its exact binary value, and a half goes to the even
neighbour.  It is laid out with a fixed number of places, with an exponent, or in whichever
of the two is shorter for a number of significant digits.
-/
import Storefront.Number.Shortest

namespace Storefront.Number

/-- The digits of a number, with zeros in front up to a width. -/
def paddedDigits (width n : Nat) : List Char :=
  let ds := (toString n).toList
  List.replicate (width - ds.length) '0' ++ ds

/-- Which letter case a text is in. -/
inductive LetterCase where
  | lower
  | upper
  deriving DecidableEq, Repr

/-- A text in a letter case. -/
def LetterCase.apply (k : LetterCase) (cs : List Char) : List Char :=
  match k with
  | lower => cs
  | upper => cs.map Char.toUpper

/-- A layout to a set number of digits. -/
inductive RoundedLayout where
  /-- So many places after the point. -/
  | fixed
  /-- One digit, so many places after the point, and an exponent. -/
  | scientific
  /-- So many significant digits, with an exponent if the value is very large or small. -/
  | general
  deriving DecidableEq, Repr

namespace RoundedLayout

/-- Digits before and after a point.  The point is left off when nothing follows it, unless
it is to be kept. -/
def pointed (keepPoint : Bool) (whole fraction : List Char) : List Char :=
  if fraction = [] ∧ !keepPoint then whole else whole ++ '.' :: fraction

/-- An exponent of at least two digits. -/
def exponentText (e : Int) : List Char :=
  'e' :: (if e < 0 then '-' else '+') :: paddedDigits 2 e.natAbs

/-- `m · 2 ^ e` with so many places after the point. -/
def fixedText (keepPoint : Bool) (m : Nat) (e : Int) (places : Nat) : List Char :=
  let (n, d) := Binary64.scaled 2 e (m * Nat.pow 10 places) 1
  let ds := paddedDigits (places + 1) (roundHalfEven n d)
  pointed keepPoint (ds.take (ds.length - places)) (ds.drop (ds.length - places))

/-- The first digits of `m · 2 ^ e`, one and so many more, and the exponent of the first. -/
def leading (m : Nat) (e : Int) (more : Nat) : List Char × Int :=
  if m = 0 then (List.replicate (more + 1) '0', 0)
  else
    let (n, d) := Binary64.scaled 2 e m 1
    let exponent := Decimal.places n d 800 (-330) - 1
    let (n, d) := Binary64.scaled 10 (more - exponent) n d
    let digits := roundHalfEven n d
    if digits = Nat.pow 10 (more + 1) then (paddedDigits (more + 1) (digits / 10), exponent + 1)
    else (paddedDigits (more + 1) digits, exponent)

/-- Digits with an exponent. -/
def scientificText (keepPoint : Bool) (ds : List Char) (exponent : Int) : List Char :=
  pointed keepPoint (ds.take 1) (ds.drop 1) ++ exponentText exponent

/-- Digits of which the first has an exponent, without an exponent. -/
def positionalText (keepPoint : Bool) (ds : List Char) (exponent : Int) : List Char :=
  match exponent with
  | .ofNat k => pointed keepPoint (ds.take (k + 1)) (ds.drop (k + 1))
  | .negSucc k => pointed keepPoint ['0'] (List.replicate k '0' ++ ds)

/-- Digits without the zeros at the end, the first digit apart. -/
def withoutTail (ds : List Char) : List Char :=
  ds.take 1 ++ ((ds.drop 1).reverse.dropWhile (· == '0')).reverse

/-- Digits of which the first has an exponent, with as many kept as positional layout needs
before the point. -/
def generalText (keepPoint : Bool) (m : Nat) (e : Int) (precision : Nat) : List Char :=
  let precision := max precision 1
  let (ds, exponent) := leading m e (precision - 1)
  let kept (ds : List Char) := if keepPoint then ds else withoutTail ds
  if -4 ≤ exponent ∧ exponent < precision then
    let whole := (exponent + 1).toNat
    positionalText keepPoint (ds.take whole ++ (kept ('0' :: ds.drop whole)).drop 1) exponent
  else scientificText keepPoint (kept ds) exponent

/-- The text of a value without its sign. -/
def text (layout : RoundedLayout) (keepPoint : Bool) (precision : Nat) : Binary64 → List Char
  | .nan => "nan".toList
  | .infinite _ => "inf".toList
  | .finite _ m e =>
    match layout with
    | fixed => fixedText keepPoint m e precision
    | scientific =>
      let (ds, exponent) := leading m e precision
      scientificText keepPoint ds exponent
    | general => generalText keepPoint m e precision

end RoundedLayout

/-- Whether a value has a minus in front. -/
def Binary64.isNegative : Binary64 → Bool
  | finite negative .. | infinite negative => negative
  | nan => false

end Storefront.Number
