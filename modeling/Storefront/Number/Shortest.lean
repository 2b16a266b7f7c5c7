/-
The shortest text of a fractional number.

A value is written with the fewest decimal digits that read back as that value, and of
those the digits nearest to it.  Every decimal that reads back lies in one interval
around the value, so for one digit, two digits and so on the two neighbours of the value
on that decimal grid are tested in exact arithmetic; seventeen digits always suffice.
-/
import Storefront.Number.Binary64

namespace Storefront.Number

/-- A decimal: `digits · 10 ^ scale`. -/
structure Decimal where
  digits : Nat
  scale : Int
  deriving DecidableEq, Repr

namespace Decimal

/-- The number of decimal places of the integer part of `n / d`: the least `k` at or above
the start with `n < d · 10 ^ k`. -/
def places (n d : Nat) : Nat → Int → Int
  | 0, k => k
  | fuel + 1, k =>
    let (n', d') := Binary64.scaled 10 (-k) n d
    if n' < d' then k else places n d fuel (k + 1)

/-- Drops zeros at the end, at most as many as asked for. -/
def strip : Nat → Decimal → Decimal
  | 0, x => x
  | k + 1, x => if x.digits % 10 = 0 then strip k ⟨x.digits / 10, x.scale + 1⟩ else x

/-- The neighbour of `v` on the grid of `10 ^ scale` that lies between `lo` and `hi` and is
nearer to `v`; the even one when both are equally near.  All bounds are over `d`. -/
def onGrid? (lo v hi d : Nat) (closed : Bool) (scale : Int) : Option Decimal :=
  let (lo, _) := Binary64.scaled 10 (-scale) lo d
  let (hi, _) := Binary64.scaled 10 (-scale) hi d
  let (v, d) := Binary64.scaled 10 (-scale) v d
  let inside (c : Nat) : Bool :=
    if closed then lo ≤ c * d && c * d ≤ hi else lo < c * d && c * d < hi
  let below := v / d
  let nearer := roundHalfEven v d
  if inside nearer then some ⟨nearer, scale⟩
  else if inside below then some ⟨below, scale⟩
  else if inside (below + 1) then some ⟨below + 1, scale⟩
  else none

/-- The first grid with a hit, from the coarsest to the one of seventeen digits. -/
def firstHit (lo v hi d : Nat) (closed : Bool) (top : Int) : Nat → Option Decimal
  | 0 => none
  | n + 1 => firstHit lo v hi d closed top n <|> onGrid? lo v hi d closed (top - (n + 1))

/-- The shortest decimal that reads back as the positive value `m · 2 ^ e`. -/
def shortest (m : Nat) (e : Int) : Decimal :=
  let below := if m = Nat.pow 2 52 ∧ Binary64.minExponent < e then 1 else 2
  let (lo, d) := Binary64.scaled 2 (e - 2) (4 * m - below) 1
  let (v, _) := Binary64.scaled 2 (e - 2) (4 * m) 1
  let (hi, _) := Binary64.scaled 2 (e - 2) (4 * m + 2) 1
  let top := places v d 800 (-330)
  strip 20 ((firstHit lo v hi d (m % 2 == 0) top 17).getD ⟨v, 0⟩)

end Decimal

/-! ### Layout -/

/-- How a fractional number is laid out once its digits are chosen. -/
structure RealFormat where
  /-- A decimal point further left than this is written with an exponent. -/
  leastPoint : Int
  /-- A decimal point further right than this is written with an exponent. -/
  greatestPoint : Int
  /-- The least number of digits of an exponent. -/
  exponentWidth : Nat
  infinity : String
  notANumber : String

namespace RealFormat

/-- Positional digits with the point after the first `point` of them. -/
def positional (ds : List Char) (point : Int) : String :=
  if point ≤ 0 then
    "0." ++ String.ofList (List.replicate point.natAbs '0' ++ ds)
  else
    let k := point.toNat
    if ds.length ≤ k then String.ofList (ds ++ List.replicate (k - ds.length) '0') ++ ".0"
    else String.ofList (ds.take k) ++ "." ++ String.ofList (ds.drop k)

/-- One digit, a point with the other digits if there are any, and an exponent. -/
def scientific (f : RealFormat) (ds : List Char) (exponent : Int) : String :=
  let mantissa := match ds with
    | [] => "0"
    | [c] => String.singleton c
    | c :: rest => String.ofList (c :: '.' :: rest)
  let size := (toString exponent.natAbs).toList
  mantissa ++ "e" ++ (if exponent < 0 then "-" else "+") ++
    String.ofList (List.replicate (f.exponentWidth - size.length) '0' ++ size)

/-- The text of a value. -/
def render (f : RealFormat) : Binary64 → String
  | .nan => f.notANumber
  | .infinite negative => (if negative then "-" else "") ++ f.infinity
  | .finite negative m e =>
    let body :=
      if m = 0 then "0.0"
      else
        let x := Decimal.shortest m e
        let ds := (toString x.digits).toList
        let point := x.scale + ds.length
        if f.leastPoint ≤ point ∧ point ≤ f.greatestPoint then positional ds point
        else f.scientific ds (point - 1)
    (if negative then "-" else "") ++ body

end RealFormat

/-- Numbers in JSON text: positional from `0.0001` up to sixteen places before the point. -/
def jsonReal : RealFormat :=
  ⟨-3, 16, 2, "Infinity", "NaN"⟩

/-- Numbers in running text differ only in the names of the values that are not numerals. -/
def plainReal : RealFormat :=
  ⟨-3, 16, 2, "inf", "nan"⟩

end Storefront.Number
