/-
Quoted texts.

A text is shown between single quotes, or between double quotes when it holds a single
quote and no double one, so that most texts need no escape.  The quote that was chosen
and the backslash are escaped, and so is every character that cannot be shown and every
surrogate; so a quoted text is one without surrogates.
-/
import Storefront.Text.CodePoint
import Storefront.Text.Digit
import Storefront.Text.Printable

namespace Storefront.Text

/-- The quote that a text is shown between. -/
def chosenQuote (t : RawText) : Char :=
  if t.contains (.char '\x27') && !t.contains (.char '"') then '"' else '\x27'

/-- The escape of a character by its code point, in the least of three widths. -/
def codePointEscape (n : Nat) : List Char :=
  if n < 0x100 then '\\' :: 'x' :: (hex4 n).drop 2
  else if n < 0x10000 then '\\' :: 'u' :: hex4 n
  else '\\' :: 'U' :: hex4 (n / 0x10000) ++ hex4 n

/-- A character between quotes. -/
def quotedChar (quote c : Char) : List Char :=
  if c = quote ∨ c = '\\' then ['\\', c]
  else if c = '\n' then ['\\', 'n']
  else if c = '\r' then ['\\', 'r']
  else if c = '\t' then ['\\', 't']
  else if isPrintable c then [c]
  else codePointEscape c.toNat

/-- A code point between quotes. -/
def quotedPoint (quote : Char) : CodePoint → List Char
  | .char c => quotedChar quote c
  | p => codePointEscape p.value

/-- A text between quotes. -/
def quoted (t : RawText) : String :=
  let quote := chosenQuote t
  String.ofList (quote :: t.flatMap (quotedPoint quote) ++ [quote])

/-- A text in which everything beyond ASCII is escaped. -/
def asciiOnly (t : RawText) : RawText :=
  t.flatMap fun p => if p.value < 0x80 then [p] else RawText.ofChars (codePointEscape p.value)

end Storefront.Text
