/-
Encodings.

A body of JSON says nothing about its encoding and need not: it starts with two ASCII
characters or is shorter than that, so the place of the zero bytes at its start tells how
wide the units are and which byte of a unit comes first.  A byte order mark tells as much.

Surrogates that stand alone are let through in every encoding, since a quoted text in the
body could spell them anyway; what else is not in the encoding is refused.
-/
import Storefront.Codec.Utf8
import Storefront.Text.CodePoint

namespace Storefront.Codec

/-- Which byte of a unit comes first. -/
inductive ByteOrder where
  | little
  | big
  deriving DecidableEq, Repr

/-- How code points are laid out in bytes. -/
inductive Encoding where
  | utf8
  | utf16 (order : ByteOrder)
  | utf32 (order : ByteOrder)
  deriving DecidableEq, Repr

/-- The number that the bytes of a unit write. -/
def ByteOrder.unit (order : ByteOrder) (bytes : List UInt8) : Nat :=
  let bytes := match order with
    | little => bytes.reverse
    | big => bytes
  bytes.foldl (fun n b => n * 256 + b.toNat) 0

/-! ### Reading -/

/-- The code points in UTF-8. -/
def utf8Points? : List UInt8 → Option RawText
  | [] => some []
  | a :: b :: c :: rest =>
    if a = 0xED ∧ 0xA0 ≤ b ∧ b ≤ 0xBF ∧ 0x80 ≤ c ∧ c ≤ 0xBF then do
      let p ← CodePoint.ofNat? (0xD000 + b.toNat % 64 * 64 + c.toNat % 64)
      return p :: (← utf8Points? rest)
    else utf8Next? a (b :: c :: rest)
  | a :: rest => utf8Next? a rest
termination_by bytes => (bytes.length, 1)
where
  /-- The code points in UTF-8 whose first is a character. -/
  utf8Next? (first : UInt8) (rest : List UInt8) : Option RawText := do
    let (n, _, _) ← continuation? first
    let text ← ofUtf8? (first :: rest.take n)
    return RawText.ofString text ++ (← utf8Points? (rest.drop n))
  termination_by (rest.length + 1, 0)

/-- The code points of units of sixteen bits. -/
def ofUnits? : List Nat → Option RawText
  | [] => some []
  | [n] => do return [← CodePoint.ofNat? n]
  | n :: m :: rest => do
    match ← CodePoint.ofNat? n, ← CodePoint.ofNat? m with
    | .surrogate k, .surrogate l =>
      if CodePoint.isHigh k && !CodePoint.isHigh l then
        return .ofPair k l :: (← ofUnits? rest)
      else return .surrogate k :: (← ofUnits? (m :: rest))
    | p, _ => return p :: (← ofUnits? (m :: rest))

/-- The units of two bytes each, which have to fill the last one. -/
def pairs? (order : ByteOrder) : List UInt8 → Option (List Nat)
  | [] => some []
  | a :: b :: rest => do return order.unit [a, b] :: (← pairs? order rest)
  | _ => none

/-- The units of four bytes each, which have to fill the last one. -/
def quads? (order : ByteOrder) : List UInt8 → Option (List Nat)
  | [] => some []
  | a :: b :: c :: d :: rest => do return order.unit [a, b, c, d] :: (← quads? order rest)
  | _ => none

/-- The code points of some bytes in an encoding. -/
def Encoding.read? (e : Encoding) (bytes : List UInt8) : Option RawText :=
  match e with
  | utf8 => utf8Points? bytes
  | utf16 order => pairs? order bytes >>= ofUnits?
  | utf32 order => quads? order bytes >>= (·.mapM CodePoint.ofNat?)

/-! ### Detection -/

/-- The encoding that a byte order mark tells, with the bytes after it. -/
def marked? : List UInt8 → Option (Encoding × List UInt8)
  | 0 :: 0 :: 0xFE :: 0xFF :: rest => some (.utf32 .big, rest)
  | 0xFF :: 0xFE :: 0 :: 0 :: rest => some (.utf32 .little, rest)
  | 0xFE :: 0xFF :: rest => some (.utf16 .big, rest)
  | 0xFF :: 0xFE :: rest => some (.utf16 .little, rest)
  | 0xEF :: 0xBB :: 0xBF :: rest => some (.utf8, rest)
  | _ => none

/-- The encoding that the zero bytes at the start tell. -/
def encodingOf : List UInt8 → Encoding
  | 0 :: b :: _ :: _ :: _ => if b = 0 then .utf32 .big else .utf16 .big
  | _ :: 0 :: c :: d :: _ => if c = 0 ∧ d = 0 then .utf32 .little else .utf16 .little
  | [0, _] => .utf16 .big
  | [_, 0] => .utf16 .little
  | _ => .utf8

/-- The code points of some bytes in the encoding that they tell. -/
def detected? (bytes : List UInt8) : Option RawText :=
  match marked? bytes with
  | some (e, rest) => e.read? rest
  | none => (encodingOf bytes).read? bytes

end Storefront.Codec
