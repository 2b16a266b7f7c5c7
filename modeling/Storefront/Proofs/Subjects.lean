/-
The subject of a token names the identifier that it is the text of.

The subject is read leniently: decorations are taken off wherever they stand, and what is left is
read as an integer in base sixteen.  The text of an identifier has nothing to take off but its
hyphens, since of the letters in a decoration none is a hexadecimal digit, and the integer that is
left has the digits of the identifier.
-/
import Mathlib
import Storefront.Uuid

namespace Storefront

namespace Text

/-! ### Hexadecimal digits -/

theorem notMem_map_hexDigit {c : Char} (h : ∀ d : Fin 16, hexDigit d ≠ c) (ds : List (Fin 16)) :
    c ∉ ds.map hexDigit := by
  intro hmem
  obtain ⟨d, -, hd⟩ := List.mem_map.mp hmem
  exact h d hd

theorem asciiDigitOr_hexDigit (d : Fin 16) : asciiDigitOr (hexDigit d) = hexDigit d := by
  revert d
  decide

theorem isWhiteSpace_hexDigit (d : Fin 16) : isWhiteSpace (hexDigit d) = false := by
  revert d
  decide

theorem trim_of_forall {p : Char → Bool} {cs : List Char} (h : ∀ c ∈ cs, p c = false) :
    trim p cs = cs :=
  trim_eq_self (fun c hc => h c (List.mem_of_mem_head? hc))
    fun c hc => h c (List.mem_of_mem_getLast? hc)

theorem moreDigits?_map_hexDigit (ds : List (Fin 16)) :
    moreDigits? (fun c => (hexDigit? c).map Fin.val) (ds.map hexDigit) =
      some (ds.map Fin.val) := by
  induction ds with
  | nil => rfl
  | cons d ds ih =>
      have hsign : ∀ d : Fin 16, hexDigit d ≠ '_' := by decide
      rw [List.map_cons, moreDigits?]
      · rw [hexDigit?_hexDigit, ih]
        rfl
      · intro c cs h _
        exact hsign d h

theorem digits?_map_hexDigit {ds : List (Fin 16)} (h : ds ≠ []) :
    digits? (fun c => (hexDigit? c).map Fin.val) (ds.map hexDigit) = some (ds.map Fin.val) := by
  obtain ⟨d, ds, rfl⟩ := List.exists_cons_of_ne_nil h
  rw [List.map_cons, digits?, hexDigit?_hexDigit, moreDigits?_map_hexDigit]
  rfl

/-- Hexadecimal digits are read as the number that they write. -/
theorem hexInteger?_map_hexDigit {ds : List (Fin 16)} (h : ds ≠ []) :
    hexInteger? (ds.map hexDigit) = some (.ofNat (positional 16 (ds.map Fin.val))) := by
  have hascii : (ds.map hexDigit).map asciiDigitOr = ds.map hexDigit := by
    rw [List.map_map]
    exact List.map_congr_left fun d _ => asciiDigitOr_hexDigit d
  have htrim : trim isWhiteSpace (ds.map hexDigit) = ds.map hexDigit := by
    refine trim_of_forall fun c hc => ?_
    obtain ⟨d, -, rfl⟩ := List.mem_map.mp hc
    exact isWhiteSpace_hexDigit d
  have hsign : splitSign (ds.map hexDigit) = (false, ds.map hexDigit) := by
    have hminus := notMem_map_hexDigit (c := '-') (by decide) ds
    have hplus := notMem_map_hexDigit (c := '+') (by decide) ds
    unfold splitSign
    split
    · next hds => simp [hds] at hminus
    · next hds => simp [hds] at hplus
    · rfl
  have hlower := notMem_map_hexDigit (c := 'x') (by decide) ds
  have hupper := notMem_map_hexDigit (c := 'X') (by decide) ds
  simp only [hexInteger?, hascii, htrim, hsign]
  -- No digit announces the base.
  split
  · next hds => simp [hds] at hlower
  · next hds => simp [hds] at hupper
  · next hds => simp [hds] at hlower
  · next hds => simp [hds] at hupper
  · rw [digits?_map_hexDigit h]
    rfl

theorem positional_concat (base : Nat) (ds : List Nat) (d : Nat) :
    positional base (ds ++ [d]) = positional base ds * base + d := by
  simp [positional]

end Text

namespace Uuid

open Text

theorem positional_lt (ds : List (Fin 16)) : positional 16 (ds.map Fin.val) < 16 ^ ds.length := by
  induction ds using List.reverseRecOn with
  | nil => decide
  | append_singleton ds d ih =>
      have hd := d.isLt
      rw [List.map_append, List.map_cons, List.map_nil, positional_concat, List.length_append,
        List.length_singleton, pow_succ]
      omega

/-- The low digits of a number are the digits that write it. -/
theorem lowDigits_positional (ds : List (Fin 16)) :
    lowDigits ds.length (positional 16 (ds.map Fin.val)) = ds := by
  induction ds using List.reverseRecOn with
  | nil => rfl
  | append_singleton ds d ih =>
      have hd := d.isLt
      have hhigh : (positional 16 (ds.map Fin.val) * 16 + d.val) / 16 =
          positional 16 (ds.map Fin.val) := by
        omega
      have hlow : lastHexDigit (positional 16 (ds.map Fin.val) * 16 + d.val) = d := by
        ext
        simp only [lastHexDigit, Fin.val_ofNat]
        omega
      rw [List.map_append, List.map_cons, List.map_nil, positional_concat, List.length_append,
        List.length_singleton, lowDigits, hhigh, hlow, ih]

theorem eq_of_digits {u v : Uuid} (h : u.digits = v.digits) : u = v := by
  cases u
  cases v
  cases h
  rfl

/-- An identifier is the one with its value. -/
theorem ofNat_value (u : Uuid) : ofNat u.value = u := by
  refine eq_of_digits ?_
  have hdigits := lowDigits_positional u.digits
  rw [u.length_digits] at hdigits
  exact hdigits

theorem value_lt (u : Uuid) : u.value < Nat.pow 2 128 := by
  have hvalue := positional_lt u.digits
  rw [u.length_digits] at hvalue
  exact hvalue

/-! ### Subjects -/

theorem without_of_notMem {c : Char} {word cs : List Char} (h : c ∉ cs) :
    without (c :: word) cs = cs := by
  induction cs with
  | nil => rw [without]
  | cons d cs ih =>
      obtain ⟨hd, hcs⟩ := not_or.mp (fun hmem => h (List.mem_cons.mpr hmem))
      have hhead : (c :: word).isPrefixOf (d :: cs) = false := by
        simp [List.isPrefixOf, hd]
      rw [without, if_neg (by simp [hhead]), ih hcs]

/-- A character of a text in groups is a hyphen or one of those that are grouped. -/
theorem mem_hyphenated {c : Char} {cs : List Char} (h : c ∈ hyphenated cs) : c = '-' ∨ c ∈ cs := by
  simp only [hyphenated, List.mem_append, List.mem_cons] at h
  rcases h with ((((h | rfl | h) | rfl | h) | rfl | h) | rfl | h)
  · exact Or.inr (List.mem_of_mem_take h)
  · exact Or.inl rfl
  · exact Or.inr (List.mem_of_mem_drop (List.mem_of_mem_take h))
  · exact Or.inl rfl
  · exact Or.inr (List.mem_of_mem_drop (List.mem_of_mem_take h))
  · exact Or.inl rfl
  · exact Or.inr (List.mem_of_mem_drop (List.mem_of_mem_take h))
  · exact Or.inl rfl
  · exact Or.inr (List.mem_of_mem_drop h)

/-- A group and what comes after it. -/
theorem group_append {cs : List Char} (m n : Nat) :
    (cs.drop m).take n ++ cs.drop (m + n) = cs.drop m := by
  rw [← List.drop_drop, List.take_append_drop]

/-- Without its hyphens a text in groups is what is grouped. -/
theorem filter_hyphenated {cs : List Char} (h : '-' ∉ cs) :
    (hyphenated cs).filter (· ≠ '-') = cs := by
  have hself : ∀ m n, ((cs.drop m).take n).filter (· ≠ '-') = (cs.drop m).take n := by
    intro m n
    refine List.filter_eq_self.mpr fun c hc => ?_
    have hne : c ≠ '-' := by
      rintro rfl
      exact h (List.mem_of_mem_drop (List.mem_of_mem_take hc))
    simpa using hne
  have hfirst : (cs.take 8).filter (· ≠ '-') = cs.take 8 := hself 0 8
  have hlast : (cs.drop 20).filter (· ≠ '-') = cs.drop 20 := by
    have hlong := hself 20 (cs.drop 20).length
    rwa [List.take_length] at hlong
  have hhyphen : ∀ ds : List Char, ('-' :: ds).filter (· ≠ '-') = ds.filter (· ≠ '-') :=
    fun ds => rfl
  rw [hyphenated, List.filter_append, List.filter_append, List.filter_append, List.filter_append,
    hhyphen, hhyphen, hhyphen, hhyphen, hfirst, hself, hself, hself, hlast, List.append_assoc,
    group_append 16 4, List.append_assoc, group_append 12 4, List.append_assoc, group_append 8 4,
    List.take_append_drop]

/-- A character of the text of an identifier is a hyphen or a hexadecimal digit. -/
theorem mem_chars {u : Uuid} {c : Char} (h : c ∈ u.chars) : c = '-' ∨ ∃ d, c = hexDigit d := by
  rcases mem_hyphenated h with hhyphen | hdigit
  · exact Or.inl hhyphen
  · obtain ⟨d, -, hd⟩ := List.mem_map.mp hdigit
    exact Or.inr ⟨d, hd.symm⟩

/-- Nothing but the hyphens is taken off the text of an identifier. -/
theorem undecorated_chars (u : Uuid) :
    (trim (fun c => c == '{' || c == '}')
      (without "uuid:".toList (without "urn:".toList u.chars))).filter (· ≠ '-') =
        u.digits.map hexDigit := by
  have hnoLetter : 'u' ∉ u.chars := by
    intro hletter
    have hdigits : ∀ d : Fin 16, 'u' ≠ hexDigit d := by decide
    rcases mem_chars hletter with hhyphen | ⟨d, hd⟩
    · cases hhyphen
    · exact hdigits d hd
  have hnoBrace : trim (fun c => c == '{' || c == '}') u.chars = u.chars := by
    refine trim_of_forall fun c hc => ?_
    have hdigits : ∀ d : Fin 16, (hexDigit d == '{' || hexDigit d == '}') = false := by decide
    rcases mem_chars hc with rfl | ⟨d, rfl⟩
    · rfl
    · exact hdigits d
  have hurn : "urn:".toList = ['u', 'r', 'n', ':'] := rfl
  have huuid : "uuid:".toList = ['u', 'u', 'i', 'd', ':'] := rfl
  rw [hurn, huuid, without_of_notMem hnoLetter, without_of_notMem hnoLetter, hnoBrace]
  exact filter_hyphenated (notMem_map_hexDigit (by decide) u.digits)

/-- **The subject that is the text of an identifier names it.** -/
theorem ofSubject?_text (u : Uuid) : ofSubject? u.text = some u := by
  have hchars : u.text.toList = u.chars := String.toList_ofList
  have hlength : (u.digits.map hexDigit).length = 32 := by
    rw [List.length_map, u.length_digits]
  have hsome : u.digits ≠ [] := by
    intro hnil
    have hzero := u.length_digits
    rw [hnil] at hzero
    cases hzero
  simp only [ofSubject?, hchars, undecorated_chars, hlength, if_true,
    hexInteger?_map_hexDigit hsome]
  show (if u.value < Nat.pow 2 128 then some (ofNat u.value) else none) = some u
  rw [if_pos u.value_lt, ofNat_value]

end Uuid

end Storefront
