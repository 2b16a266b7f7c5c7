/-
Fractional numbers.

A number written with a point or an exponent is held to double precision.  A value is
therefore an integer times a power of two, or an infinity, or no number at all; nothing
here uses machine floats, so every statement about these values is one about integers.
-/

namespace Storefront.Number

/-- The nearest integer to `n / d`; a half goes to the even neighbour. -/
def roundHalfEven (n d : Nat) : Nat :=
  let q := n / d
  let r := n % d
  if d < 2 * r ∨ (2 * r = d ∧ q % 2 = 1) then q + 1 else q

/-- A double-precision value: `±mantissa · 2 ^ exponent`, an infinity, or not a number. -/
inductive Binary64 where
  | finite (negative : Bool) (mantissa : Nat) (exponent : Int)
  | infinite (negative : Bool)
  | nan
  deriving DecidableEq, Repr

namespace Binary64

/-- The least exponent, of the smallest steps near zero. -/
def minExponent : Int := -1074

/-- The greatest exponent of a mantissa of 53 bits. -/
def maxExponent : Int := 971

/-- Multiplies a fraction by a power of a base. -/
def scaled (base : Nat) (e : Int) (n d : Nat) : Nat × Nat :=
  match e with
  | .ofNat k => (n * Nat.pow base k, d)
  | .negSucc k => (n, d * Nat.pow base (k + 1))

/-- The value nearest to a positive fraction. -/
def ofFraction (negative : Bool) (n d : Nat) : Binary64 :=
  let estimate : Int := (n.log2 : Int) - d.log2 - 52
  let (n', d') := scaled 2 (-estimate) n d
  let e := max minExponent (if n' < d' * Nat.pow 2 52 then estimate - 1 else estimate)
  let (n', d') := scaled 2 (-e) n d
  let m := roundHalfEven n' d'
  let (m, e) := if m = Nat.pow 2 53 then (Nat.pow 2 52, e + 1) else (m, e)
  if maxExponent < e then infinite negative else finite negative m e

/-- The value nearest to `±digits · 10 ^ scale`.  A number of decimal digits that is
certainly out of range is decided before any power is computed. -/
def ofDecimal (negative : Bool) (digits : Nat) (scale : Int) : Binary64 :=
  let magnitude := scale + (toString digits).length
  if digits = 0 ∨ magnitude < -400 then finite negative 0 0
  else if 400 < magnitude then infinite negative
  else
    let (n, d) := scaled 10 scale digits 1
    ofFraction negative n d

/-- The value nearest to an integer. -/
def ofInt (n : Int) : Binary64 :=
  if n = 0 then finite false 0 0 else ofFraction (n < 0) n.natAbs 1

/-- The value nearest to a value over a positive integer. -/
def divNat (x : Binary64) (d : Nat) : Binary64 :=
  match x with
  | finite negative m e =>
    if m = 0 then x
    else
      let (n, d) := scaled 2 e m d
      ofFraction negative n d
  | x => x

/-- The greatest integer that is not above the value; only finite values have one. -/
def floor? : Binary64 → Option Int
  | finite negative m e =>
    let (n, d) := scaled 2 e m 1
    some (Int.fdiv (if negative then -(n : Int) else n) d)
  | _ => none

/-- The integer nearest to so many times the value, a half going to the even neighbour; only
finite values have one. -/
def nearest? (times : Nat) : Binary64 → Option Int
  | finite negative m e =>
    let (n, d) := scaled 2 e (m * times) 1
    let k := roundHalfEven n d
    some (if negative then -(k : Int) else k)
  | _ => none

/-- The integer part, with the fraction cut off; only finite values have one. -/
def truncate? : Binary64 → Option Int
  | finite negative m e =>
    let (n, d) := scaled 2 e m 1
    some (if negative then -(n / d : Nat) else (n / d : Nat))
  | _ => none

/-- The integer that the value is, when it has no fraction. -/
def toInt? : Binary64 → Option Int
  | finite negative m e =>
    let (n, d) := scaled 2 e m 1
    if n % d = 0 then some (if negative then -(n / d : Nat) else (n / d : Nat)) else none
  | _ => none

/-- Infinities and what is not a number are not finite. -/
def isFinite : Binary64 → Bool
  | finite .. => true
  | _ => false

end Binary64

end Storefront.Number
