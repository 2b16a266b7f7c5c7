/-
Digits.

Request bodies count only the ten ASCII digits.  Tokens count the decimal digits of
every script, each script having its ten digits in one run.  Hexadecimal digits are
ASCII, and their values carry their bound, so that reading and writing a digit are
inverse to each other.
-/

namespace Storefront.Text

/-- The value of an ASCII digit. -/
def asciiDigit? (c : Char) : Option Nat :=
  if c.isDigit then some (c.toNat - '0'.toNat) else none

/-- The zeros of the general category `Nd`, one for each run of ten digits. -/
def scriptZeros : List Nat :=
  [0x30, 0x660, 0x6F0, 0x7C0, 0x966, 0x9E6, 0xA66, 0xAE6, 0xB66, 0xBE6, 0xC66, 0xCE6, 0xD66,
   0xDE6, 0xE50, 0xED0, 0xF20, 0x1040, 0x1090, 0x17E0, 0x1810, 0x1946, 0x19D0, 0x1A80, 0x1A90,
   0x1B50, 0x1BB0, 0x1C40, 0x1C50, 0xA620, 0xA8D0, 0xA900, 0xA9D0, 0xA9F0, 0xAA50, 0xABF0,
   0xFF10, 0x104A0, 0x10D30, 0x11066, 0x110F0, 0x11136, 0x111D0, 0x112F0, 0x11450, 0x114D0,
   0x11650, 0x116C0, 0x11730, 0x118E0, 0x11950, 0x11C50, 0x11D50, 0x11DA0, 0x16A60, 0x16AC0,
   0x16B50, 0x1D7CE, 0x1D7D8, 0x1D7E2, 0x1D7EC, 0x1D7F6, 0x1E140, 0x1E2F0, 0x1E950, 0x1FBF0]

/-- The value of a decimal digit of any script. -/
def decimalDigit? (c : Char) : Option Nat :=
  (scriptZeros.find? fun z => z ≤ c.toNat && c.toNat < z + 10).map (c.toNat - ·)

/-- The value of a hexadecimal digit, in either case. -/
def hexDigit? (c : Char) : Option (Fin 16) :=
  match c with
  | '0' => some 0 | '1' => some 1 | '2' => some 2 | '3' => some 3
  | '4' => some 4 | '5' => some 5 | '6' => some 6 | '7' => some 7
  | '8' => some 8 | '9' => some 9
  | 'a' | 'A' => some 10 | 'b' | 'B' => some 11 | 'c' | 'C' => some 12
  | 'd' | 'D' => some 13 | 'e' | 'E' => some 14 | 'f' | 'F' => some 15
  | _ => none

/-- The lower-case hexadecimal digit of a value. -/
def hexDigit (d : Fin 16) : Char :=
  match d.val with
  | 0 => '0' | 1 => '1' | 2 => '2' | 3 => '3' | 4 => '4' | 5 => '5' | 6 => '6' | 7 => '7'
  | 8 => '8' | 9 => '9' | 10 => 'a' | 11 => 'b' | 12 => 'c' | 13 => 'd' | 14 => 'e' | _ => 'f'

/-- A written digit reads back. -/
theorem hexDigit?_hexDigit (d : Fin 16) : hexDigit? (hexDigit d) = some d := by
  revert d
  decide

/-- The ASCII digit with the value of a decimal digit of any script; every other character
as it is. -/
def asciiDigitOr (c : Char) : Char :=
  match decimalDigit? c with
  | some d => Char.ofNat ('0'.toNat + d)
  | none => c

/-- The last hexadecimal digit of a number. -/
def lastHexDigit (n : Nat) : Fin 16 :=
  Fin.ofNat 16 n

/-- The four hexadecimal digits of the low sixteen bits of a number. -/
def hex4 (n : Nat) : List Char :=
  [hexDigit (lastHexDigit (n / 4096)), hexDigit (lastHexDigit (n / 256)),
   hexDigit (lastHexDigit (n / 16)), hexDigit (lastHexDigit n)]

/-- The number that a list of digits writes in a base, most significant digit first. -/
def positional (base : Nat) (digits : List Nat) : Nat :=
  digits.foldl (fun n d => n * base + d) 0

end Storefront.Text
