/-
Blanks.

Two classes of blank characters occur at the edges of what a customer sends, and a text
that is trimmed by one class may be refused under the other.  The property `White_Space`
of the Unicode standard governs numerals.  The credentials of a request are trimmed by
the wider class, which also counts the four information separators.
-/

namespace Storefront.Text

/-- The code points of the property `White_Space` beyond ASCII, as closed ranges. -/
def whiteSpaceRanges : List (Nat × Nat) :=
  [(0x85, 0x85), (0xA0, 0xA0), (0x1680, 0x1680), (0x2000, 0x200A), (0x2028, 0x2029),
   (0x202F, 0x202F), (0x205F, 0x205F), (0x3000, 0x3000)]

/-- The Unicode property `White_Space`. -/
def isWhiteSpace (c : Char) : Bool :=
  (0x09 ≤ c.toNat && c.toNat ≤ 0x0D) || c == ' ' ||
    whiteSpaceRanges.any fun r => r.1 ≤ c.toNat && c.toNat ≤ r.2

/-- White space together with the four information separators. -/
def isBlank (c : Char) : Bool :=
  isWhiteSpace c || (0x1C ≤ c.toNat && c.toNat ≤ 0x1F)

/-- The text without the characters of a class at its end. -/
def trimRight (p : Char → Bool) (cs : List Char) : List Char :=
  (cs.reverse.dropWhile p).reverse

/-- The text without the characters of a class at either end. -/
def trim (p : Char → Bool) (cs : List Char) : List Char :=
  trimRight p (cs.dropWhile p)

/-- A text whose two ends are outside the class is left alone. -/
theorem trim_eq_self {p : Char → Bool} {cs : List Char}
    (hhead : ∀ c ∈ cs.head?, p c = false) (hlast : ∀ c ∈ cs.getLast?, p c = false) :
    trim p cs = cs := by
  have first : cs.dropWhile p = cs := by
    cases cs with
    | nil => rfl
    | cons c cs => simp [hhead c (by simp)]
  have last : cs.reverse.dropWhile p = cs.reverse := by
    rw [← List.head?_reverse] at hlast
    cases h : cs.reverse with
    | nil => rfl
    | cons c rest => simp [hlast c (by simp [h])]
  rw [trim, trimRight, first, last, List.reverse_reverse]

end Storefront.Text
