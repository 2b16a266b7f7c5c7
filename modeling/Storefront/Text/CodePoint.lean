/-
Code points.

What is sent over a wire can spell half of a surrogate pair without the other half.  No
`String` holds such a text, so texts that come from outside are kept as code points until
somebody needs to know what they say.  A text without surrogates is a `String` and nothing
else: `chars?_ofChars` and `ofChars_of_chars?`.
-/

namespace Storefront

/-- A code point: a character, or a surrogate, which is none by itself. -/
inductive CodePoint where
  | char (c : Char)
  /-- The surrogate that is so many after U+D800. -/
  | surrogate (k : Fin 0x800)
  deriving DecidableEq, Repr

namespace CodePoint

/-- The number of a code point. -/
def value : CodePoint → Nat
  | char c => c.toNat
  | surrogate k => 0xD800 + k.val

/-- The code point with a number. -/
def ofNat? (n : Nat) : Option CodePoint :=
  if h : n.isValidChar then some (char (Char.ofNatAux n h))
  else if h : 0xD800 ≤ n ∧ n < 0xE000 then some (surrogate ⟨n - 0xD800, by omega⟩)
  else none

/-- The character of a code point. -/
def char? : CodePoint → Option Char
  | char c => some c
  | surrogate _ => none

/-- Whether a surrogate is the first of a pair. -/
def isHigh (k : Fin 0x800) : Bool := k.val < 0x400

/-- The character that a pair of surrogates stands for. -/
def ofPair (high low : Fin 0x800) : CodePoint :=
  (ofNat? (0x10000 + high.val % 0x400 * 0x400 + low.val % 0x400)).getD (char '\uFFFD')

end CodePoint

/-- A text as it is sent, in which surrogates may stand alone. -/
abbrev RawText := List CodePoint

namespace RawText

/-- The code points of some characters. -/
def ofChars (cs : List Char) : RawText :=
  cs.map .char

/-- The code points of a text. -/
def ofString (s : String) : RawText :=
  ofChars s.toList

instance : Coe String RawText := ⟨ofString⟩

/-- The characters of a text, if no surrogate stands alone in it. -/
def chars? (t : RawText) : Option (List Char) :=
  t.mapM CodePoint.char?

/-- The text, if no surrogate stands alone in it. -/
def string? (t : RawText) : Option String :=
  t.chars?.map String.ofList

/-- The text with U+FFFD in place of every surrogate. -/
def repaired (t : RawText) : String :=
  String.ofList (t.map fun p => p.char?.getD '\uFFFD')

theorem chars?_ofChars (cs : List Char) : chars? (ofChars cs) = some cs := by
  induction cs with
  | nil => rfl
  | cons c cs ih =>
    simp only [chars?, ofChars, List.map_cons] at ih ⊢
    rw [List.mapM_cons, ih]
    rfl

/-- A text is told from its code points. -/
theorem string?_ofString (s : String) : string? (ofString s) = some s := by
  simp [string?, ofString, chars?_ofChars, String.ofList_toList]

theorem ofChars_of_chars? {t : RawText} {cs : List Char} (h : t.chars? = some cs) :
    ofChars cs = t := by
  induction t generalizing cs with
  | nil =>
    simp only [chars?, List.mapM_nil, Option.pure_def, Option.some.injEq] at h
    subst h
    rfl
  | cons p t ih =>
    simp only [chars?, List.mapM_cons, Option.pure_def, Option.bind_eq_bind,
      Option.bind_eq_some_iff, Option.some.injEq] at h
    obtain ⟨c, hc, cs', hcs, rfl⟩ := h
    cases p with
    | char c' =>
      simp only [CodePoint.char?, Option.some.injEq] at hc
      subst hc
      simpa [ofChars] using ih hcs
    | surrogate k => simp [CodePoint.char?] at hc

end RawText

end Storefront
