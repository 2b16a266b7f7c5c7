/-
Base64 for tokens.

Three bytes are four digits in base sixty-four, and the padding at the end is left off.
Reading is more lenient than writing.  The last two digits have two spellings each,
characters that are no digits are passed over, and padding ends the text as soon as it
completes a group; only a group that is left incomplete is refused.
-/

namespace Storefront.Codec

/-- The digits in the order of their values. -/
def base64Digits : List Char :=
  "ABCDEFGHIJKLMNOPQRSTUVWXYZabcdefghijklmnopqrstuvwxyz0123456789-_".toList

/-- The digit with a value. -/
def base64Digit (n : Nat) : Char :=
  base64Digits.getD (n % 64) 'A'

/-- The value of a digit; two of them have a second spelling. -/
def base64Value? (c : Char) : Option Nat :=
  if c = '+' then some 62
  else if c = '/' then some 63
  else base64Digits.idxOf? c

/-- The text of some bytes. -/
def toBase64 : List UInt8 → List Char
  | [] => []
  | [a] =>
    [base64Digit (a.toNat / 4), base64Digit (a.toNat * 16)]
  | [a, b] =>
    [base64Digit (a.toNat / 4), base64Digit (a.toNat * 16 + b.toNat / 16),
     base64Digit (b.toNat * 4)]
  | a :: b :: c :: rest =>
    base64Digit (a.toNat / 4) :: base64Digit (a.toNat * 16 + b.toNat / 16) ::
      base64Digit (b.toNat * 4 + c.toNat / 64) :: base64Digit c.toNat :: toBase64 rest

/-- The digits of a group that is not complete yet. -/
inductive Group where
  | zero
  | one (a : Nat)
  | two (a b : Nat)
  | three (a b c : Nat)
  deriving DecidableEq, Repr

namespace Group

/-- How many digits there are. -/
def size : Group → Nat
  | zero => 0
  | one _ => 1
  | two .. => 2
  | three .. => 3

/-- The bytes that the digits determine. -/
def bytes : Group → List UInt8
  | zero | one _ => []
  | two a b => [UInt8.ofNat (a * 4 + b / 16)]
  | three a b c => [UInt8.ofNat (a * 4 + b / 16), UInt8.ofNat (b * 16 + c / 4)]

/-- One more digit, with the bytes of the group if that completes it. -/
def push (d : Nat) : Group → Group × List UInt8
  | zero => (one d, [])
  | one a => (two a d, [])
  | two a b => (three a b d, [])
  | three a b c =>
    (zero, [UInt8.ofNat (a * 4 + b / 16), UInt8.ofNat (b * 16 + c / 4), UInt8.ofNat (c * 64 + d)])

end Group

/-- The bytes of the rest of a text, after the digits and the padding of a group. -/
def ofBase64From (group : Group) (pads : Nat) : List Char → Option (List UInt8)
  | [] => if group = .zero then some [] else none
  | c :: cs =>
    if c = '=' then
      if group.size < 2 then ofBase64From group pads cs
      else if 4 ≤ group.size + pads + 1 then some group.bytes
      else ofBase64From group (pads + 1) cs
    else
      match base64Value? c with
      | none => ofBase64From group pads cs
      | some d =>
        let (group, bytes) := group.push d
        (ofBase64From group 0 cs).map (bytes ++ ·)

/-- The padding that a text of so many bytes is read with. -/
def padding (size : Nat) : List Char :=
  List.replicate ((4 - size % 4) % 4) '='

/-- The bytes of a text. -/
def ofBase64? (cs : List Char) : Option (List UInt8) :=
  ofBase64From .zero 0 (cs ++ padding (String.ofList cs).utf8ByteSize)

end Storefront.Codec
