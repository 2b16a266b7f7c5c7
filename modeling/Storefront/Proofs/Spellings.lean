/-
What the spellings of a number, and those of an identifier, have in common.

A body may write a number in many ways and an identifier in four.  What such a spelling stands for
is said here without a reader.  A numeral stands for the number that its digits write in base ten,
where the digits behind a point are a fraction and a minus anywhere makes the number negative
(`numeral`); a fractional number stands for its exact value; and an identifier stands for its
hexadecimal digits (`carried`).

The readers agree with that.  The reader of numerals works in stages, each of which takes something
off, and what is taken off is nothing that counts: a character that is neither a digit nor a point
nor a minus, a zero in front, or a fraction of zeros.
-/
import Mathlib
import Storefront.Cart.Document
import Storefront.Proofs.Bodies
import Storefront.Proofs.Subjects

namespace Storefront

/-! ### Numerals -/

namespace Text

/-- The digits in front of the point. -/
def wholeDigits (cs : List Char) : List Nat :=
  (cs.takeWhile (· ≠ '.')).filterMap asciiDigit?

/-- The digits behind the point. -/
def fractionDigits (cs : List Char) : List Nat :=
  (cs.dropWhile (· ≠ '.')).filterMap asciiDigit?

/-- The number that the digits of a text write. -/
def magnitude (cs : List Char) : ℚ :=
  positional 10 (wholeDigits cs) +
    positional 10 (fractionDigits cs) / 10 ^ (fractionDigits cs).length

/-- The number that a text writes in base ten. -/
def numeral (cs : List Char) : ℚ :=
  if '-' ∈ cs then -magnitude cs else magnitude cs

/-- Two texts write the same number with the same sign. -/
structure SameNumeral (cs ds : List Char) : Prop where
  magnitude : magnitude cs = magnitude ds
  sign : '-' ∈ cs ↔ '-' ∈ ds

namespace SameNumeral

variable {cs ds es : List Char}

theorem refl (cs : List Char) : SameNumeral cs cs :=
  ⟨rfl, Iff.rfl⟩

theorem trans (h : SameNumeral cs ds) (h' : SameNumeral ds es) : SameNumeral cs es :=
  ⟨h.magnitude.trans h'.magnitude, h.sign.trans h'.sign⟩

theorem numeral_eq (h : SameNumeral cs ds) : numeral cs = numeral ds := by
  unfold numeral
  rw [h.magnitude]
  by_cases hminus : '-' ∈ cs
  · rw [if_pos hminus, if_pos (h.sign.mp hminus)]
  · rw [if_neg hminus, if_neg fun hds => hminus (h.sign.mpr hds)]

end SameNumeral

/-! ### What does not count in a numeral -/

/-- Whether a character counts in a numeral. -/
def counts (c : Char) : Bool :=
  c.isDigit || c == '.' || c == '-'

theorem asciiDigit?_of_not_counts {c : Char} (h : counts c = false) : asciiDigit? c = none := by
  simp only [counts, Bool.or_eq_false_iff] at h
  simp [asciiDigit?, h.1.1]

theorem filterMap_filter_counts (cs : List Char) :
    (cs.filter counts).filterMap asciiDigit? = cs.filterMap asciiDigit? := by
  induction cs with
  | nil => rfl
  | cons c cs ih =>
      by_cases hc : counts c = true
      · rw [List.filter_cons_of_pos hc, List.filterMap_cons, List.filterMap_cons, ih]
      · have hnone := asciiDigit?_of_not_counts (Bool.eq_false_iff.mpr hc)
        rw [List.filter_cons_of_neg hc, List.filterMap_cons, hnone, ih]

theorem takeWhile_filter_counts {p : Char → Bool} (hp : ∀ c, p c = false → counts c = true)
    (cs : List Char) : (cs.filter counts).takeWhile p = (cs.takeWhile p).filter counts := by
  induction cs with
  | nil => rfl
  | cons c cs ih =>
      by_cases hc : p c = true
      · rw [List.takeWhile_cons_of_pos hc]
        by_cases hcounts : counts c = true
        · rw [List.filter_cons_of_pos hcounts, List.filter_cons_of_pos hcounts,
            List.takeWhile_cons_of_pos hc, ih]
        · rw [List.filter_cons_of_neg hcounts, List.filter_cons_of_neg hcounts, ih]
      · have hcounts := hp c (Bool.eq_false_iff.mpr hc)
        rw [List.takeWhile_cons_of_neg hc, List.filter_cons_of_pos hcounts,
          List.takeWhile_cons_of_neg hc, List.filter_nil]

theorem dropWhile_filter_counts {p : Char → Bool} (hp : ∀ c, p c = false → counts c = true)
    (cs : List Char) : (cs.filter counts).dropWhile p = (cs.dropWhile p).filter counts := by
  have htake := takeWhile_filter_counts hp cs
  have hsplit : (cs.filter counts).takeWhile p ++ (cs.filter counts).dropWhile p =
      (cs.takeWhile p).filter counts ++ (cs.dropWhile p).filter counts := by
    rw [← List.filter_append, List.takeWhile_append_dropWhile, List.takeWhile_append_dropWhile]
  rw [htake] at hsplit
  exact List.append_cancel_left hsplit

theorem sameNumeral_filter_counts (cs : List Char) : SameNumeral (cs.filter counts) cs where
  magnitude := by
    have hpoint : ∀ c : Char, decide (c ≠ '.') = false → counts c = true := by
      intro c hc
      obtain rfl : c = '.' := by simpa using hc
      rfl
    unfold Text.magnitude wholeDigits fractionDigits
    rw [takeWhile_filter_counts hpoint, dropWhile_filter_counts hpoint, filterMap_filter_counts,
      filterMap_filter_counts]
  sign := by simp [List.mem_filter, counts]

/-- Texts with the same characters that count write the same number. -/
theorem sameNumeral_of_filter {cs ds : List Char} (h : cs.filter counts = ds.filter counts) :
    SameNumeral cs ds := by
  have hcs := sameNumeral_filter_counts cs
  have hds := sameNumeral_filter_counts ds
  rw [h] at hcs
  exact ⟨hcs.magnitude.symm.trans hds.magnitude, hcs.sign.symm.trans hds.sign⟩

theorem sameNumeral_of_not_counts {c : Char} (h : counts c = false) (cs : List Char) :
    SameNumeral (c :: cs) cs := by
  refine sameNumeral_of_filter ?_
  rw [List.filter_cons_of_neg (by simp [h])]

theorem filter_dropWhile {p : Char → Bool} (hp : ∀ c, p c = true → counts c = false)
    (cs : List Char) : (cs.dropWhile p).filter counts = cs.filter counts := by
  induction cs with
  | nil => rfl
  | cons c cs ih =>
      by_cases hc : p c = true
      · rw [List.dropWhile_cons_of_pos hc, ih, List.filter_cons_of_neg (by simp [hp c hc])]
      · rw [List.dropWhile_cons_of_neg hc]

theorem not_counts_of_isWhiteSpace (c : Char) (h : isWhiteSpace c = true) : counts c = false := by
  rw [Bool.eq_false_iff]
  intro hcounts
  have hrange : c.isDigit = true ∨ c = '.' ∨ c = '-' := by
    simpa [counts, or_assoc] using hcounts
  rcases hrange with hdigit | rfl | rfl
  · rw [Char.isDigit_iff_toNat] at hdigit
    have hblank : c ≠ ' ' := by
      rintro rfl
      exact absurd hdigit.1 (by decide)
    have hlow : '0'.toNat = 48 := rfl
    have hhigh : '9'.toNat = 57 := rfl
    simp [isWhiteSpace, whiteSpaceRanges, hblank] at h
    omega
  · exact absurd h (by decide)
  · exact absurd h (by decide)

/-- Blanks around a numeral do not count. -/
theorem sameNumeral_trim (cs : List Char) : SameNumeral (trim isWhiteSpace cs) cs := by
  refine sameNumeral_of_filter ?_
  rw [trim, trimRight, List.filter_reverse, filter_dropWhile not_counts_of_isWhiteSpace,
    List.filter_reverse, List.reverse_reverse, filter_dropWhile not_counts_of_isWhiteSpace]

/-- Underscores in a numeral do not count. -/
theorem sameNumeral_withoutUnderscores (cs : List Char) :
    SameNumeral (withoutUnderscores cs) cs := by
  unfold withoutUnderscores
  split
  · exact SameNumeral.refl cs
  · refine sameNumeral_of_filter ?_
    rw [List.filter_filter]
    refine List.filter_congr fun c _ => ?_
    by_cases hc : c = '_'
    · subst hc
      decide
    · simp [hc]

/-- A zero in front of a numeral does not count. -/
theorem sameNumeral_zero (cs : List Char) : SameNumeral ('0' :: cs) cs where
  magnitude := by
    have hwhole : wholeDigits ('0' :: cs) = 0 :: wholeDigits cs := rfl
    have hfraction : fractionDigits ('0' :: cs) = fractionDigits cs := rfl
    have hzero : positional 10 (0 :: wholeDigits cs) = positional 10 (wholeDigits cs) := rfl
    rw [Text.magnitude, Text.magnitude, hwhole, hfraction, hzero]
  sign := by simp

/-! ### The stages of reading a numeral -/

/-- A zero or an underscore in front of a numeral does not count. -/
theorem sameNumeral_pad {c : Char} (h : c = '0' ∨ c = '_') (cs : List Char) :
    SameNumeral (c :: cs) cs := by
  rcases h with rfl | rfl
  · exact sameNumeral_zero cs
  · exact sameNumeral_of_not_counts (by decide) cs

theorem sameNumeral_afterZeros {last : Char} {cs ds : List Char} (hlast : last = '0' ∨ last = '_')
    (h : afterZeros? last cs = some ds) : SameNumeral (last :: cs) ds := by
  induction cs generalizing last with
  | nil =>
      obtain rfl := Option.some.inj h
      exact SameNumeral.refl _
  | cons c cs ih =>
      have hdrop := sameNumeral_pad hlast (c :: cs)
      unfold afterZeros? at h
      by_cases hpad : c = '0' ∨ c = '_'
      · rw [if_pos hpad] at h
        exact hdrop.trans (ih hpad h)
      · rw [if_neg hpad] at h
        by_cases hdigit : c.isDigit = true ∨ c = '-'
        · rw [if_pos hdigit] at h
          obtain rfl := Option.some.inj h
          exact hdrop
        · rw [if_neg hdigit] at h
          -- In front of a point the last of what was dropped is put back.
          by_cases hpoint : c = '.'
          · rw [if_pos hpoint] at h
            obtain rfl := Option.some.inj h
            exact SameNumeral.refl _
          · rw [if_neg hpoint] at h
            cases h

theorem sameNumeral_withoutZeros {cs ds : List Char} (h : withoutZeros? cs = some ds) :
    SameNumeral cs ds := by
  cases cs with
  | nil => cases h
  | cons c cs =>
      simp only [withoutZeros?] at h
      by_cases hzero : c = '0'
      · rw [if_pos hzero] at h
        exact sameNumeral_afterZeros (Or.inl hzero) h
      · rw [if_neg hzero] at h
        split at h
        · obtain rfl := Option.some.inj h
          exact SameNumeral.refl _
        · cases h

theorem magnitude_minus (cs : List Char) : magnitude ('-' :: cs) = magnitude cs := rfl

theorem sameNumeral_withoutPadding {cs ds : List Char} (h : withoutPadding? cs = some ds) :
    SameNumeral cs ds := by
  unfold withoutPadding? at h
  split at h
  · next cs =>
    obtain ⟨es, hes, rfl⟩ := Option.map_eq_some_iff.mp h
    have hsame := (sameNumeral_withoutZeros hes).magnitude
    refine ⟨?_, by simp⟩
    rw [magnitude_minus, magnitude_minus, hsame]
  · next cs =>
    exact (sameNumeral_of_not_counts (by decide) cs).trans (sameNumeral_withoutZeros h)
  · exact sameNumeral_withoutZeros h

theorem positional_zeros {ds : List Nat} (h : ∀ d ∈ ds, d = 0) : positional 10 ds = 0 := by
  induction ds with
  | nil => rfl
  | cons d ds ih =>
      obtain rfl := h d List.mem_cons_self
      exact ih fun e he => h e (List.mem_cons_of_mem 0 he)

theorem ne_point_of_notMem {cs : List Char} (h : '.' ∉ cs) :
    ∀ c ∈ cs, decide (c ≠ '.') = true := by
  intro c hc
  rw [decide_eq_true_eq]
  rintro rfl
  exact h hc

/-- A text without a point is all in front of it. -/
theorem magnitude_of_noPoint {cs : List Char} (h : '.' ∉ cs) : magnitude cs = asciiNumber cs := by
  have hpoint := ne_point_of_notMem h
  have hwhole : wholeDigits cs = cs.filterMap asciiDigit? := by
    rw [wholeDigits, List.takeWhile_eq_self_iff.mpr hpoint]
  have hfraction : fractionDigits cs = [] := by
    rw [fractionDigits, List.dropWhile_eq_nil_iff.mpr hpoint, List.filterMap_nil]
  rw [magnitude, hwhole, hfraction, asciiNumber]
  simp [positional]

/-- A fraction of zeros does not count. -/
theorem sameNumeral_append_zeros {whole zeros : List Char} (hwhole : '.' ∉ whole)
    (hzeros : ∀ c ∈ zeros, c = '0') : SameNumeral whole (whole ++ '.' :: zeros) where
  magnitude := by
    have hpoint := ne_point_of_notMem hwhole
    have hfront : wholeDigits (whole ++ '.' :: zeros) = whole.filterMap asciiDigit? := by
      rw [wholeDigits, List.takeWhile_append_of_pos hpoint]
      simp
    have hbehind : fractionDigits (whole ++ '.' :: zeros) = zeros.filterMap asciiDigit? := by
      rw [fractionDigits, List.dropWhile_append_of_pos hpoint]
      rfl
    have hnothing : positional 10 (zeros.filterMap asciiDigit?) = 0 := by
      refine positional_zeros fun d hd => ?_
      obtain ⟨c, hc, hdigit⟩ := List.mem_filterMap.mp hd
      rw [hzeros c hc] at hdigit
      exact (Option.some.inj hdigit).symm
    rw [magnitude_of_noPoint hwhole, Text.magnitude, hfront, hbehind, hnothing, asciiNumber]
    simp
  sign := by
    have hminus : '-' ∉ '.' :: zeros := by
      intro hmem
      rcases List.mem_cons.mp hmem with h | h
      · cases h
      · cases hzeros _ h
    rw [List.mem_append, or_iff_left hminus]

theorem sameNumeral_withoutZeroFraction (cs : List Char) :
    SameNumeral (withoutZeroFraction cs) cs := by
  unfold withoutZeroFraction
  split
  · exact SameNumeral.refl cs
  · exact SameNumeral.refl cs
  · next point zeros _ hdrop =>
    have hsplit : cs.takeWhile (· ≠ '.') ++ point :: zeros = cs := by
      rw [← hdrop, List.takeWhile_append_dropWhile]
    obtain rfl : point = '.' := by
      have hhead := List.head?_dropWhile_not (fun c : Char => decide (c ≠ '.')) cs
      rw [hdrop] at hhead
      simpa using hhead
    have hwhole : '.' ∉ cs.takeWhile (· ≠ '.') := by
      intro hmem
      exact absurd (List.mem_takeWhile_imp hmem) (by simp)
    by_cases hzeros : zeros.all (· == '0') = true
    · rw [if_pos hzeros]
      have hsame := sameNumeral_append_zeros hwhole (by simpa using hzeros)
      rwa [hsplit] at hsame
    · rw [if_neg hzeros]
      exact SameNumeral.refl cs

theorem numeral_of_isPlainDigits {cs : List Char} (h : isPlainDigits cs = true) :
    magnitude cs = asciiNumber cs ∧ '-' ∉ cs := by
  have hdigits : ∀ c ∈ cs, c.isDigit = true := by
    simp only [isPlainDigits, Bool.and_eq_true, List.all_eq_true] at h
    exact h.1.2
  refine ⟨magnitude_of_noPoint fun hpoint => ?_, fun hminus => ?_⟩
  · exact absurd (hdigits _ hpoint) (by decide)
  · exact absurd (hdigits _ hminus) (by decide)

/-- A plain spelling is read as the number that it writes. -/
theorem numeral_of_plainInteger {cs : List Char} {n : Int} (h : plainInteger? cs = some n) :
    numeral cs = n := by
  unfold plainInteger? at h
  split at h
  · next cs =>
    split at h
    · next hplain =>
      obtain rfl := Option.some.inj h
      rw [numeral, if_pos List.mem_cons_self, magnitude_minus, (numeral_of_isPlainDigits hplain).1]
      push_cast
      rfl
    · cases h
  · split at h
    · next hplain =>
      obtain rfl := Option.some.inj h
      obtain ⟨hmagnitude, hminus⟩ := numeral_of_isPlainDigits hplain
      rw [numeral, if_neg hminus, hmagnitude]
      push_cast
      rfl
    · cases h

/-- **What a text is read as is the number that it writes.** -/
theorem numeral_of_spelledInteger {cs : List Char} {n : Int} (h : spelledInteger cs = .ok n) :
    numeral cs = n := by
  unfold spelledInteger at h
  split at h
  · cases h
  · split at h
    · next m hplain =>
      obtain rfl := Except.ok.inj h
      exact numeral_of_plainInteger hplain
    · split at h
      · cases h
      · next plain hplain =>
        split at h
        · cases h
        · cases hread : plainInteger? plain with
          | none => rw [hread] at h; cases h
          | some m =>
              rw [hread] at h
              obtain rfl := Except.ok.inj h
              obtain ⟨ds, hds, rfl⟩ := Option.map_eq_some_iff.mp hplain
              have hsame : SameNumeral (withoutUnderscores (withoutZeroFraction ds)) ds :=
                (sameNumeral_withoutUnderscores _).trans (sameNumeral_withoutZeroFraction ds)
              have hpadding := sameNumeral_withoutPadding hds
              have htrim := sameNumeral_trim cs
              rw [← numeral_of_plainInteger hread, hsame.numeral_eq, ← hpadding.numeral_eq,
                htrim.numeral_eq]

end Text

/-! ### Fractional numbers -/

namespace Number.Binary64

/-- The exact value of a finite number. -/
def value? : Binary64 → Option ℚ
  | finite negative m e => some ((if negative then -1 else 1) * m * 2 ^ e)
  | _ => none

theorem scaled_two {e : Int} {m n d : Nat} (h : scaled 2 e m 1 = (n, d)) :
    (n : ℚ) / d = m * 2 ^ e ∧ (d : ℚ) ≠ 0 := by
  unfold scaled at h
  cases e with
  | ofNat k =>
      obtain ⟨rfl, rfl⟩ := Prod.mk.inj h
      simp
  | negSucc k =>
      obtain ⟨rfl, rfl⟩ := Prod.mk.inj h
      simp [zpow_negSucc, div_eq_mul_inv]

/-- A number without a fraction is the integer that it is read as. -/
theorem value?_of_toInt? {x : Binary64} {n : Int} (h : x.toInt? = some n) :
    x.value? = some (n : ℚ) := by
  cases x with
  | finite negative m e =>
      obtain ⟨⟨k, d⟩, hscale⟩ : ∃ nd, scaled 2 e m 1 = nd := ⟨_, rfl⟩
      obtain ⟨hvalue, hd⟩ := scaled_two hscale
      simp only [toInt?, hscale] at h
      split at h
      · next hrest =>
        have hquotient : ((k / d : Nat) : ℚ) = m * 2 ^ e := by
          rw [Nat.cast_div (Nat.dvd_of_mod_eq_zero hrest) hd, hvalue]
        obtain rfl := Option.some.inj h
        rw [value?, mul_assoc, ← hquotient]
        cases negative with
        | true => rw [if_pos rfl, if_pos rfl, neg_one_mul, Int.cast_neg, Int.cast_natCast]
        | false =>
            rw [if_neg Bool.false_ne_true, if_neg Bool.false_ne_true, one_mul, Int.cast_natCast]
      · cases h
  | infinite negative => cases h
  | nan => cases h

end Number.Binary64

/-- The number that a value is or writes. -/
def Json.number? : Json → Option ℚ
  | int n => some n
  | bool b => some (if b then 1 else 0)
  | real x => x.value?
  | text s => s.chars?.map Text.numeral
  | _ => none

theorem Intake.number?_of_writes {v : Json} {n : Int} (h : Writes v n) :
    v.number? = some (n : ℚ) := by
  cases h with
  | int n => rfl
  | bool b => cases b <;> simp [Json.number?]
  | real h => exact Number.Binary64.value?_of_toInt? h
  | text hs h => rw [Json.number?, hs, Option.map_some, Text.numeral_of_spelledInteger h]

/-! ### Identifiers -/

namespace Uuid

open Text

/-- What stands in front of an identifier that is a name. -/
def urn : List Char := "urn:uuid:".toList

/-- The hexadecimal digits of a text, in either case, behind the mark of a name. -/
def carried (cs : List Char) : List (Fin 16) :=
  (if urn.isPrefixOf cs then cs.drop urn.length else cs).filterMap hexDigit?

theorem hyphenated_append {a b c d e : List Char} (ha : a.length = 8) (hb : b.length = 4)
    (hc : c.length = 4) (hd : d.length = 4) :
    hyphenated (a ++ b ++ c ++ d ++ e) =
      a ++ '-' :: b ++ '-' :: c ++ '-' :: d ++ '-' :: e := by
  simp [hyphenated, List.drop_append, List.drop_of_length_le, ha, hb, hc, hd]

theorem ungrouped?_append {a b c d e : List Char} (ha : a.length = 8) (hb : b.length = 4)
    (hc : c.length = 4) (hd : d.length = 4) (he : e.length = 12) :
    ungrouped? (a ++ '-' :: b ++ '-' :: c ++ '-' :: d ++ '-' :: e) =
      some (a ++ b ++ c ++ d ++ e) := by
  simp [ungrouped?, List.drop_append, List.drop_of_length_le, List.getElem?_append, ha, hb, hc, hd,
    he]

theorem exists_groups {cs : List Char} (h : cs.length = 32) :
    ∃ a b c d e : List Char, a.length = 8 ∧ b.length = 4 ∧ c.length = 4 ∧ d.length = 4 ∧
      e.length = 12 ∧ cs = a ++ b ++ c ++ d ++ e := by
  refine ⟨cs.take 8, (cs.drop 8).take 4, (cs.drop 12).take 4, (cs.drop 16).take 4, cs.drop 20,
    by simp [h], by simp [h], by simp [h], by simp [h], by simp [h], ?_⟩
  rw [List.append_assoc, group_append 16 4, List.append_assoc, group_append 12 4,
    List.append_assoc, group_append 8 4, List.take_append_drop]

theorem ungrouped?_hyphenated {body : List Char} (h : body.length = 32) :
    ungrouped? (hyphenated body) = some body := by
  obtain ⟨a, b, c, d, e, ha, hb, hc, hd, he, rfl⟩ := exists_groups h
  rw [hyphenated_append ha hb hc hd, ungrouped?_append ha hb hc hd he]

theorem shape_of_ungrouped? {cs body : List Char} (h : ungrouped? cs = some body) :
    cs.length = 36 ∧ ∀ i ∈ [8, 13, 18, 23], cs[i]? = some '-' := by
  unfold ungrouped? at h
  split at h
  · next hshape =>
    obtain ⟨hlength, hhyphens⟩ := hshape
    exact ⟨hlength, fun i hi => beq_iff_eq.mp (List.all_eq_true.mp hhyphens i hi)⟩
  · cases h

/-- A text in groups is what is in its groups, with hyphens between them. -/
theorem hyphenated_of_ungrouped? {cs body : List Char} (h : ungrouped? cs = some body) :
    body.length = 32 ∧ hyphenated body = cs := by
  obtain ⟨hlength, hhyphens⟩ := shape_of_ungrouped? h
  have hsplit : ∀ i ∈ [8, 13, 18, 23], cs.drop i = '-' :: cs.drop (i + 1) := by
    intro i hi
    obtain ⟨hlt, hget⟩ := List.getElem?_eq_some_iff.mp (hhyphens i hi)
    rw [List.drop_eq_getElem_cons hlt, hget]
  unfold ungrouped? at h
  split at h
  · obtain rfl := Option.some.inj h
    refine ⟨by simp [hlength], ?_⟩
    rw [hyphenated_append (by simp [hlength]) (by simp [hlength]) (by simp [hlength])
      (by simp [hlength])]
    simp only [List.append_assoc, List.cons_append]
    rw [← hsplit 23 (by simp), group_append 19 4, ← hsplit 18 (by simp), group_append 14 4,
      ← hsplit 13 (by simp), group_append 9 4, ← hsplit 8 (by simp), List.take_append_drop]
  · cases h

/-- Hyphens are no digits. -/
theorem filterMap_hyphenated {cs : List Char} (h : cs.length = 32) :
    (hyphenated cs).filterMap hexDigit? = cs.filterMap hexDigit? := by
  obtain ⟨a, b, c, d, e, ha, hb, hc, hd, -, rfl⟩ := exists_groups h
  have hhyphen : hexDigit? '-' = none := rfl
  simp only [hyphenated_append ha hb hc hd, List.filterMap_append, List.filterMap_cons, hhyphen]

theorem eq_append_of_between? {opening closing cs inner : List Char}
    (h : between? opening closing cs = some inner) : cs = opening ++ (inner ++ closing) := by
  unfold between? at h
  split at h
  · next hboth =>
    obtain ⟨hopening, hclosing⟩ := hboth
    obtain ⟨rest, rfl⟩ := List.isPrefixOf_iff_prefix.mp hopening
    rw [List.drop_left] at hclosing h
    obtain ⟨body, rfl⟩ := List.isSuffixOf_iff_suffix.mp hclosing
    obtain rfl := Option.some.inj h
    simp
  · cases h

/-! #### Digits -/

theorem mapM_eq_some {cs : List Char} {ds : List (Fin 16)} :
    cs.mapM hexDigit? = some ds ↔ cs.map hexDigit? = ds.map some := by
  induction cs generalizing ds with
  | nil => cases ds <;> simp
  | cons c cs ih =>
      rw [List.mapM_cons, List.map_cons]
      cases hexDigit? c with
      | none => cases ds <;> simp
      | some d =>
          constructor
          · intro h
            have hrest := (Option.bind_some d _).symm.trans h
            obtain ⟨ds', hds', h⟩ := Option.bind_eq_some_iff.mp hrest
            obtain rfl := Option.some.inj h
            rw [ih.mp hds', List.map_cons]
          · intro h
            cases ds with
            | nil => cases h
            | cons d' ds =>
                obtain ⟨hd, hds⟩ := List.cons.inj h
                obtain rfl := Option.some.inj hd
                simp [ih.mpr hds]

theorem ofDigits?_eq_some {cs : List Char} {u : Uuid} :
    ofDigits? cs = some u ↔ cs.map hexDigit? = u.digits.map some := by
  rw [← mapM_eq_some]
  unfold ofDigits?
  cases hread : cs.mapM hexDigit? with
  | none => simp
  | some ds =>
      constructor
      · intro h
        simp only at h
        split at h
        · obtain rfl := Option.some.inj h
          rfl
        · cases h
      · intro h
        obtain rfl := Option.some.inj h
        exact dif_pos u.length_digits

theorem filterMap_of_map {cs : List Char} {ds : List (Fin 16)}
    (h : cs.map hexDigit? = ds.map some) : cs.filterMap hexDigit? = ds := by
  have hid : cs.filterMap hexDigit? = (cs.map hexDigit?).filterMap id := by
    rw [List.filterMap_map, Function.id_comp]
  rw [hid, h, List.filterMap_map]
  exact List.filterMap_some

/-- Nothing but a name starts with the mark of one. -/
theorem carried_of_notMem {cs : List Char} (h : 'u' ∉ cs) :
    carried cs = cs.filterMap hexDigit? := by
  have hurn : urn.isPrefixOf cs = false := by
    rw [Bool.eq_false_iff]
    intro hprefix
    obtain ⟨rest, rfl⟩ := List.isPrefixOf_iff_prefix.mp hprefix
    exact h (List.mem_append_left rest (by decide))
  rw [carried, hurn, if_neg Bool.false_ne_true]

theorem carried_urn (cs : List Char) : carried (urn ++ cs) = cs.filterMap hexDigit? := by
  have hprefix : urn.isPrefixOf (urn ++ cs) = true :=
    List.isPrefixOf_iff_prefix.mpr (List.prefix_append urn cs)
  rw [carried, if_pos hprefix, List.drop_left]

/-- An accepted spelling carries the digits of what it names. -/
theorem carried_of_ofChars? {cs : List Char} {u : Uuid} (h : ofChars? cs = some u) :
    carried cs = u.digits := by
  obtain ⟨body, hbody, hdigits⟩ := Option.bind_eq_some_iff.mp h
  have hmap := ofDigits?_eq_some.mp hdigits
  have hcarried := filterMap_of_map hmap
  have hletter : 'u' ∉ body := by
    intro hmem
    have hnone : none ∈ u.digits.map some := hmap ▸ List.mem_map_of_mem hmem
    simp at hnone
  -- All spellings but the bare one have the groups in them, and no group has a letter of the mark.
  have hgroups : ∀ {inner : List Char}, ungrouped? inner = some body →
      'u' ∉ inner ∧ inner.filterMap hexDigit? = u.digits := by
    intro inner hinner
    obtain ⟨hlength, rfl⟩ := hyphenated_of_ungrouped? hinner
    refine ⟨fun hmem => ?_, by rw [filterMap_hyphenated hlength, hcarried]⟩
    rcases mem_hyphenated hmem with hhyphen | hmem
    · cases hhyphen
    · exact hletter hmem
  unfold undecorated? at hbody
  split at hbody
  · obtain rfl := Option.some.inj hbody
    rw [carried_of_notMem hletter, hcarried]
  · simp only [Option.orElse_eq_orElse, Option.orElse_eq_or, Option.or_eq_some_iff] at hbody
    rcases hbody with hbare | ⟨-, hbraces | ⟨-, hname⟩⟩
    · obtain ⟨hletter, hdigits⟩ := hgroups hbare
      rw [carried_of_notMem hletter, hdigits]
    · obtain ⟨inner, hbetween, hinner⟩ := Option.bind_eq_some_iff.mp hbraces
      obtain rfl := eq_append_of_between? hbetween
      obtain ⟨hletter, hdigits⟩ := hgroups hinner
      rw [carried_of_notMem (by simpa using hletter), List.filterMap_append, List.filterMap_append,
        hdigits]
      exact List.append_nil _
    · obtain ⟨inner, hbetween, hinner⟩ := Option.bind_eq_some_iff.mp hname
      obtain rfl := eq_append_of_between? hbetween
      have hcarries := carried_urn (inner ++ [])
      rw [List.append_nil, (hgroups hinner).2] at hcarries
      rwa [List.append_nil]

/-- The canonical spelling of an identifier: five groups of lower-case digits. -/
structure IsCanonical (cs : List Char) : Prop where
  length : cs.length = 36
  hyphens : ∀ i ∈ [8, 13, 18, 23], cs[i]? = some '-'
  digits : ∀ c ∈ cs, c = '-' ∨ c ∈ "0123456789abcdef".toList
  count : (cs.filter (· ≠ '-')).length = 32

theorem isCanonical_chars (u : Uuid) : IsCanonical u.chars := by
  have hlength : (u.digits.map hexDigit).length = 32 := by
    rw [List.length_map, u.length_digits]
  have hlower : ∀ d : Fin 16, hexDigit d ∈ "0123456789abcdef".toList := by decide
  obtain ⟨hlong, hhyphens⟩ := shape_of_ungrouped? (ungrouped?_hyphenated hlength)
  refine ⟨hlong, hhyphens, fun c hc => ?_, ?_⟩
  · rcases mem_chars hc with hhyphen | ⟨d, rfl⟩
    · exact Or.inl hhyphen
    · exact Or.inr (hlower d)
  · rw [chars, filter_hyphenated (notMem_map_hexDigit (by decide) u.digits), hlength]

theorem digits_injective : Function.Injective digits :=
  fun _ _ h => eq_of_digits h

/-- The text of an identifier is an accepted spelling of it. -/
theorem ofChars?_chars (u : Uuid) : ofChars? u.chars = some u := by
  have hlength : (u.digits.map hexDigit).length = 32 := by
    rw [List.length_map, u.length_digits]
  have hgroups := ungrouped?_hyphenated hlength
  have hlong : (hyphenated (u.digits.map hexDigit)).length ≠ 32 := by
    simp [hyphenated, u.length_digits]
  have hdigits : ofDigits? (u.digits.map hexDigit) = some u := by
    rw [ofDigits?_eq_some, List.map_map]
    exact List.map_congr_left fun d _ => hexDigit?_hexDigit d
  rw [ofChars?, undecorated?, chars, if_neg hlong, hgroups]
  exact hdigits

end Uuid

/-- The digits of the identifier that a value writes. -/
def Json.idDigits? : Json → Option (List (Fin 16))
  | text s => s.chars?.map Uuid.carried
  | _ => none

namespace Intake

theorem idDigits?_of_readId {v : Json} {u : Uuid} (h : readId v = .ok u) :
    v.idDigits? = some u.digits := by
  cases v with
  | text s =>
      simp only [readId, Except.bind_eq_ok] at h
      obtain ⟨cs, hcs, h⟩ := h
      split at h
      · next u' hu =>
        obtain rfl := Except.ok.inj h
        rw [Json.idDigits?, readChars_eq_ok.mp hcs, Option.map_some, Uuid.carried_of_ofChars? hu]
      · cases h
  | _ => cases h

theorem readId_json (u : Uuid) : readId u.json = .ok u := by
  have hchars : readChars (RawText.ofString u.text) = .ok u.chars := by
    rw [readChars_eq_ok, Uuid.text, RawText.ofString, String.toList_ofList, RawText.chars?_ofChars]
  simp only [Uuid.json, readId, hchars, bind, Except.bind, Uuid.ofChars?_chars]
  rfl

/-- Identifiers are told apart by what is written of them. -/
theorem json_inj {u u' : Uuid} : u.json = u'.json ↔ u = u' := by
  constructor
  · intro h
    have hread := readId_json u
    rw [h, readId_json] at hread
    exact (Except.ok.inj hread).symm
  · rintro rfl
    rfl

end Intake

end Storefront
