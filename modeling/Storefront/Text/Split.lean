/-
Splitting texts.
-/

namespace Storefront.Text

/-- The parts of a text between the occurrences of a separator, which are one more than
the occurrences. -/
def split {α : Type} [DecidableEq α] (sep : α) : List α → List (List α)
  | [] => [[]]
  | c :: cs =>
    if c = sep then [] :: split sep cs
    else
      match split sep cs with
      | [] => [[c]]
      | part :: parts => (c :: part) :: parts

theorem length_split {α : Type} [DecidableEq α] (sep : α) (cs : List α) :
    (split sep cs).length = cs.count sep + 1 := by
  induction cs with
  | nil => rfl
  | cons c cs ih =>
    by_cases h : c = sep
    · simp [split, h, ih]
    · cases hs : split sep cs with
      | nil => simp [hs] at ih
      | cons part parts => simp_all [split]

end Storefront.Text
