/-
Templates.

A template is text in which a percent sign starts a directive.  A directive may name a
member of a mapping, and may set flags, a width and a precision, each written out or taken
from the arguments; it ends with the letter of a conversion.  Two percent signs are one.

A template is read once, code point by code point, into pieces.  What is wrong with a
directive is a part of its piece, since the pieces and the arguments before it come first.
-/
import Storefront.Number.Rounded
import Storefront.Text.CodePoint
import Storefront.Text.Digit

namespace Storefront.Log

open Number Text

/-! ### Directives -/

/-- What the argument of a directive is written as. -/
inductive Conversion where
  /-- The value on its own. -/
  | shown
  /-- The value as an element of another one. -/
  | inner
  /-- The value as an element of another one, in ASCII. -/
  | innerAscii
  /-- An integer in base ten, under one of three letters. -/
  | decimal (letter : Char)
  | octal
  | hex (letters : LetterCase)
  | real (layout : RoundedLayout) (letters : LetterCase)
  /-- A single code point. -/
  | point
  deriving DecidableEq, Repr

/-- The conversion of a letter. -/
def Conversion.ofLetter? : Char → Option Conversion
  | 's' => some shown
  | 'r' => some inner
  | 'a' => some innerAscii
  | 'd' => some (decimal 'd')
  | 'i' => some (decimal 'i')
  | 'u' => some (decimal 'u')
  | 'o' => some octal
  | 'x' => some (hex .lower)
  | 'X' => some (hex .upper)
  | 'e' => some (real .scientific .lower)
  | 'E' => some (real .scientific .upper)
  | 'f' => some (real .fixed .lower)
  | 'F' => some (real .fixed .upper)
  | 'g' => some (real .general .lower)
  | 'G' => some (real .general .upper)
  | 'c' => some point
  | _ => none

/-- The flags of a directive. -/
structure Flags where
  /-- The blanks go behind the text. -/
  left : Bool
  /-- A plus stands in front of what has no minus. -/
  plus : Bool
  /-- A blank stands in front of what has no sign. -/
  blank : Bool
  /-- The base is marked, and a point is kept. -/
  marked : Bool
  /-- Zeros fill the width instead of blanks. -/
  zeros : Bool
  deriving DecidableEq, Repr

/-- A width or a precision. -/
inductive Amount where
  | given (n : Nat)
  /-- The next argument. -/
  | taken
  /-- More than can be asked for. -/
  | excessive
  deriving DecidableEq, Repr

/-- One more digit of an amount that has a bound. -/
def Amount.push (bound d : Nat) : Amount → Amount
  | given n => if n * 10 + d ≤ bound then given (n * 10 + d) else excessive
  | a => a

/-- The member that a directive names. -/
inductive Naming where
  | named (key : RawText)
  /-- The name has no end. -/
  | unclosed
  deriving DecidableEq, Repr

/-- How a directive ends. -/
inductive Ending where
  | conversion (c : Conversion)
  /-- The code point at an index is the letter of no conversion. -/
  | unsupported (p : CodePoint) (index : Nat)
  /-- The template ends first. -/
  | missing
  deriving DecidableEq, Repr

/-- A directive. -/
structure Directive where
  naming : Option Naming
  flags : Flags
  width : Option Amount
  precision : Option Amount
  ending : Ending
  deriving DecidableEq, Repr

/-- A directive of which nothing has been read but the percent sign. -/
def Directive.start : Directive :=
  ⟨none, ⟨false, false, false, false, false⟩, none, none, .missing⟩

/-- A piece of a template. -/
inductive Piece where
  | literal (p : CodePoint)
  | directive (d : Directive)
  deriving DecidableEq, Repr

/-! ### Reading -/

/-- The widest that a directive can ask for. -/
def maxWidth : Nat := 0x7FFFFFFFFFFFFFFF

/-- The most digits that a directive can ask for. -/
def maxPrecision : Nat := 0x7FFFFFFF

/-- How much of a directive has been read. -/
inductive Stage where
  /-- The percent sign. -/
  | sign
  /-- A name, in reverse, inside so many parentheses. -/
  | name (depth : Nat) (seen : RawText)
  | flags
  | width
  /-- A width that is taken. -/
  | widthTaken
  /-- The point before a precision. -/
  | point
  | precision
  /-- A precision that is taken. -/
  | precisionTaken
  /-- A letter for a size, which means nothing. -/
  | size

/-- Where the reading of a template is. -/
inductive Progress where
  | outside
  | inside (stage : Stage) (d : Directive)

/-- A directive with its last letter. -/
def Directive.close (d : Directive) (index : Nat) (p : CodePoint) : Piece :=
  .directive
    { d with
      ending :=
        match p.char?.bind Conversion.ofLetter? with
        | some c => .conversion c
        | none => .unsupported p index }

/-- A directive with a flag; nothing when the code point is none. -/
def Directive.flag? (d : Directive) : CodePoint → Option Directive
  | .char '-' => some { d with flags := { d.flags with left := true } }
  | .char '+' => some { d with flags := { d.flags with plus := true } }
  | .char ' ' => some { d with flags := { d.flags with blank := true } }
  | .char '#' => some { d with flags := { d.flags with marked := true } }
  | .char '0' => some { d with flags := { d.flags with zeros := true } }
  | _ => none

/-- The value of an ASCII digit. -/
def pointDigit? (p : CodePoint) : Option Nat :=
  p.char?.bind asciiDigit?

/-- A directive that is complete but for its size and its letter. -/
def atSize (d : Directive) (index : Nat) (p : CodePoint) : Progress × Option Piece :=
  if p = .char 'h' ∨ p = .char 'l' ∨ p = .char 'L' then (.inside .size d, none)
  else (.outside, some (d.close index p))

/-- A directive whose precision may follow. -/
def atPrecision (d : Directive) (index : Nat) (p : CodePoint) : Progress × Option Piece :=
  if p = .char '.' then (.inside .point { d with precision := some (.given 0) }, none)
  else atSize d index p

/-- A directive whose flags or width may follow. -/
def atFlags (d : Directive) (index : Nat) (p : CodePoint) : Progress × Option Piece :=
  match d.flag? p with
  | some d => (.inside .flags d, none)
  | none =>
    if p = .char '*' then (.inside .widthTaken { d with width := some .taken }, none)
    else
      match pointDigit? p with
      | some n => (.inside .width { d with width := some (.given n) }, none)
      | none => atPrecision d index p

/-- One code point further, which is at an index, with the piece that it completes. -/
def Progress.step (progress : Progress) (index : Nat) (p : CodePoint) : Progress × Option Piece :=
  match progress with
  | outside =>
    if p = .char '%' then (inside .sign .start, none) else (outside, some (.literal p))
  | inside .sign d =>
    if p = .char '%' then (outside, some (.literal p))
    else if p = .char '(' then (inside (.name 1 []) d, none)
    else atFlags d index p
  | inside (.name depth seen) d =>
    if p = .char ')' then
      if depth = 1 then (inside .flags { d with naming := some (.named seen.reverse) }, none)
      else (inside (.name (depth - 1) (p :: seen)) d, none)
    else if p = .char '(' then (inside (.name (depth + 1) (p :: seen)) d, none)
    else (inside (.name depth (p :: seen)) d, none)
  | inside .flags d => atFlags d index p
  | inside .width d =>
    match pointDigit? p with
    | some n => (inside .width { d with width := d.width.map (.push maxWidth n) }, none)
    | none => atPrecision d index p
  | inside .widthTaken d => atPrecision d index p
  | inside .point d =>
    if p = .char '*' then (inside .precisionTaken { d with precision := some .taken }, none)
    else
      match pointDigit? p with
      | some n => (inside .precision { d with precision := some (.given n) }, none)
      | none => atSize d index p
  | inside .precision d =>
    match pointDigit? p with
    | some n =>
      (inside .precision { d with precision := d.precision.map (.push maxPrecision n) }, none)
    | none => atSize d index p
  | inside .precisionTaken d => atSize d index p
  | inside .size d => (outside, some (d.close index p))

/-- The piece that the end of a template completes. -/
def Progress.finish : Progress → List Piece
  | outside => []
  | inside (.name ..) d => [.directive { d with naming := some .unclosed }]
  | inside _ d => [.directive d]

/-- The pieces of the rest of a template, which starts at an index. -/
def piecesFrom (progress : Progress) (index : Nat) : RawText → List Piece
  | [] => progress.finish
  | p :: ps =>
    let (progress, piece) := progress.step index p
    piece.toList ++ piecesFrom progress (index + 1) ps

/-- The pieces of a template. -/
def pieces (template : RawText) : List Piece :=
  piecesFrom .outside 0 template

end Storefront.Log
