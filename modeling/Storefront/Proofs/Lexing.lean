/-
The lexemes of a text that was written.

The pass over a text has a state, and what it makes of a character depends on it.  Between two
lexemes it has none to speak of, so what is written of a value is judged from there: the pass finds
the lexemes of the value (`spelling`) and is between two of them again.  A word is the exception.
Nothing in a word says that it is over, so it takes what follows to end it: a mark, a blank, or the
end of the text (`Ends`).

A quoted text is read one code point at a time.  An escape may hold a surrogate back, to see whether
its partner is escaped next to it; so two surrogates that would be taken for one character cannot
both be escaped side by side (`Style.Keeps`).  A text of characters has no surrogates and no such
trouble.
-/
import Mathlib
import Storefront.Json.Reader
import Storefront.Json.Writer

namespace Storefront

/-! ### Code points and their numbers -/

namespace CodePoint

theorem ofNat?_value (p : CodePoint) : ofNat? p.value = some p := by
  cases p with
  | char c =>
      have hvalid : c.toNat.isValidChar := c.valid
      rw [ofNat?, value, dif_pos hvalid]
      rfl
  | surrogate k =>
      have hk := k.isLt
      have hinvalid : ¬(0xD800 + k.val).isValidChar := by
        unfold Nat.isValidChar
        omega
      rw [ofNat?, value, dif_neg hinvalid, dif_pos ⟨by omega, by omega⟩]
      simp

theorem value_lt (p : CodePoint) : p.value < 0x110000 := by
  cases p with
  | char c =>
      have hvalid : c.toNat.isValidChar := c.valid
      unfold Nat.isValidChar at hvalid
      show c.toNat < _
      omega
  | surrogate k =>
      have hk := k.isLt
      show 0xD800 + k.val < _
      omega

end CodePoint

namespace Text

/-- The four hexadecimal digits of a number below 2 ^ 16 are that number. -/
theorem positional_hex4 {n : Nat} (h : n < 0x10000) :
    positional 16 [(lastHexDigit (n / 4096)).val, (lastHexDigit (n / 256)).val,
      (lastHexDigit (n / 16)).val, (lastHexDigit n).val] = n := by
  simp only [positional, lastHexDigit, List.foldl_cons, List.foldl_nil, Fin.val_ofNat]
  omega

end Text

namespace Json

open Text

/-! ### Styles -/

/-- The separators of a style are those of JSON with blanks after them, and it writes no control as
it is. -/
structure Style.Sound (style : Style) : Prop where
  itemGap : ∃ gap, style.itemGap = ',' :: gap ∧ ∀ c ∈ gap, isGap c = true
  keyGap : ∃ gap, style.keyGap = ':' :: gap ∧ ∀ c ∈ gap, isGap c = true
  plain : ∀ p, style.plain p = true → 0x20 ≤ p.value

theorem Style.sound_compact : Style.compact.Sound where
  itemGap := ⟨[], rfl, by simp⟩
  keyGap := ⟨[], rfl, by simp⟩
  plain p h := by
    simp only [compact, Bool.and_eq_true, decide_eq_true_eq] at h
    exact h.1

theorem Style.sound_line : Style.line.Sound where
  itemGap := ⟨[' '], rfl, by simp [isGap]⟩
  keyGap := ⟨[' '], rfl, by simp [isGap]⟩
  plain p h := of_decide_eq_true h

/-- Two surrogates would be taken for one character: both are escaped, and they are a pair. -/
def Style.Merges (style : Style) (p q : CodePoint) : Prop :=
  ∃ high low, p = .surrogate high ∧ q = .surrogate low ∧ CodePoint.isHigh high = true ∧
    CodePoint.isHigh low = false ∧ style.plain p = false ∧ style.plain q = false

/-- No two surrogates in a text would be taken for one character. -/
def Style.Keeps (style : Style) (t : RawText) : Prop :=
  t.IsChain fun p q => ¬style.Merges p q

theorem Style.keeps_ofChars (style : Style) (cs : List Char) :
    style.Keeps (RawText.ofChars cs) := by
  have hchars : ∀ c d, ¬style.Merges (.char c) (.char d) := by
    rintro c d ⟨high, low, hc, -⟩
    cases hc
  exact (List.pairwise_map.mpr (List.pairwise_of_forall hchars)).isChain

/-! ### One code point further -/

section Scanning

variable {scan scan' : Scan} {found found' : List Lexeme} {c : Char} {rest : RawText}

theorem scanFrom_char (h : advance scan found c = some (scan', found')) :
    scanFrom scan found (.char c :: rest) = scanFrom scan' found' rest := by
  simp only [scanFrom, h]

theorem scanFrom_surrogate {k : Fin 0x800} {q : Quote} :
    scanFrom (.quoted q) found (.surrogate k :: rest) =
      scanFrom (.quoted (q.push (.surrogate k))) found rest := by
  simp only [scanFrom, advanceSurrogate]

theorem scanFrom_opening :
    scanFrom .between found (.char '"' :: rest) = scanFrom (.quoted .empty) found rest :=
  scanFrom_char rfl

theorem scanFrom_backslash {q : Quote} :
    scanFrom (.quoted q) found (.char '\\' :: rest) = scanFrom (.escaped q) found rest :=
  scanFrom_char rfl

/-- Four hexadecimal digits are read as the number that they write. -/
theorem scanFrom_hex4 {q : Quote} {n : Nat} (h : n < 0x10000) :
    scanFrom (.unicode q []) found ((hex4 n).map .char ++ rest) =
      scanFrom (.quoted (q.pushEscaped n)) found rest := by
  simp only [hex4, List.map_cons, List.map_nil, List.cons_append, List.nil_append, scanFrom,
    advance, hexDigit?_hexDigit]
  simp [positional_hex4 h]

/-! ### Quoted texts -/

/-- A code point that is escaped, and held back when its partner may follow. -/
def Quote.hold (q : Quote) (p : CodePoint) : Quote :=
  match p with
  | .surrogate k => if CodePoint.isHigh k then ⟨q.settled, some k⟩ else q.push p
  | .char _ => q.push p

theorem Quote.settled_hold (q : Quote) (p : CodePoint) : (q.hold p).settled = p :: q.settled := by
  unfold hold
  split
  · split <;> rfl
  · rfl

theorem Quote.pushEscaped_value {q : Quote} {p : CodePoint}
    (h : ∀ high low, q.held = some high → p = .surrogate low → CodePoint.isHigh low = true) :
    q.pushEscaped p.value = q.hold p := by
  rw [pushEscaped, CodePoint.ofNat?_value]
  cases p with
  | char c => rfl
  | surrogate k =>
      cases hheld : q.held with
      | none => simp [hold, settled, hheld]
      | some high =>
          have hhigh := h high k hheld rfl
          simp [hold, hhigh]

/-- Two surrogates that are escaped side by side are the character that they spell. -/
theorem Quote.pushEscaped_pair (q : Quote) {c : Char} (h : 0x10000 ≤ c.toNat) :
    (q.pushEscaped (0xD800 + (c.toNat - 0x10000) / 0x400)).pushEscaped
      (0xDC00 + (c.toNat - 0x10000) % 0x400) = q.push (.char c) := by
  have hc : c.toNat < 0x110000 := CodePoint.value_lt (.char c)
  obtain ⟨high, hhigh⟩ : ∃ high : Fin 0x800, high.val = (c.toNat - 0x10000) / 0x400 :=
    ⟨⟨_, by omega⟩, rfl⟩
  obtain ⟨low, hlow⟩ : ∃ low : Fin 0x800, low.val = 0x400 + (c.toNat - 0x10000) % 0x400 :=
    ⟨⟨_, by omega⟩, rfl⟩
  have hisHigh : CodePoint.isHigh high = true := by
    simp only [CodePoint.isHigh, decide_eq_true_eq]
    omega
  have hisLow : CodePoint.isHigh low = false := by
    simp only [CodePoint.isHigh, decide_eq_false_iff_not]
    omega
  have hfirst : q.pushEscaped (0xD800 + high.val) = ⟨q.settled, some high⟩ := by
    have hheld : q.pushEscaped (CodePoint.surrogate high).value = q.hold (.surrogate high) :=
      pushEscaped_value fun _ low _ hp => by
        cases hp
        exact hisHigh
    rw [hold, if_pos hisHigh] at hheld
    exact hheld
  have hsecond : 0xDC00 + (c.toNat - 0x10000) % 0x400 = (CodePoint.surrogate low).value := by
    simp only [CodePoint.value]
    omega
  have hpair : CodePoint.ofPair high low = .char c := by
    have hnumber : 0x10000 + high.val % 0x400 * 0x400 + low.val % 0x400 =
        CodePoint.value (.char c) := by
      show _ = c.toNat
      omega
    rw [CodePoint.ofPair, hnumber, CodePoint.ofNat?_value]
    rfl
  rw [← hhigh, hfirst, hsecond, pushEscaped, CodePoint.ofNat?_value]
  simp [hisLow, hpair, push]

theorem scanFrom_escaped {q : Quote} {n : Nat} (h : n < 0x10000) :
    scanFrom (.quoted q) found (('\\' :: 'u' :: hex4 n).map .char ++ rest) =
      scanFrom (.quoted (q.pushEscaped n)) found rest := by
  have hunicode : advance (.escaped q) found 'u' = some (.unicode q [], found) := rfl
  rw [List.map_cons, List.map_cons, List.cons_append, List.cons_append, scanFrom_backslash,
    scanFrom_char hunicode, scanFrom_hex4 h]

/-- A code point that is written by its number is read as it was. -/
theorem scanFrom_unicodeEscape {q : Quote} {p : CodePoint}
    (h : ∀ high low, q.held = some high → p = .surrogate low → CodePoint.isHigh low = true) :
    scanFrom (.quoted q) found ((unicodeEscape p.value).map .char ++ rest) =
      scanFrom (.quoted (q.hold p)) found rest := by
  by_cases hsmall : p.value < 0x10000
  · rw [unicodeEscape, if_pos hsmall, scanFrom_escaped hsmall, Quote.pushEscaped_value h]
  · cases p with
    | surrogate k =>
        have hk := k.isLt
        simp only [CodePoint.value] at hsmall
        omega
    | char c =>
        have hc : c.toNat < 0x110000 := CodePoint.value_lt (.char c)
        have hlarge : 0x10000 ≤ c.toNat := not_lt.mp hsmall
        show scanFrom _ _ ((unicodeEscape c.toNat).map .char ++ rest) = _
        rw [unicodeEscape, if_neg (not_lt.mpr hlarge)]
        show scanFrom _ _ (((_ :: _ :: hex4 _) ++ (_ :: _ :: hex4 _)).map .char ++ rest) = _
        rw [List.map_append, List.append_assoc, scanFrom_escaped (by omega),
          scanFrom_escaped (by omega), Quote.pushEscaped_pair q hlarge]
        rfl

/-- A style and what has been read: what is held back was escaped. -/
def Quote.Fits (style : Style) (q : Quote) : Prop :=
  ∀ k, q.held = some k → CodePoint.isHigh k = true ∧ style.plain (.surrogate k) = false

/-- The next code point is not taken for the partner of what is held back. -/
def Quote.Admits (style : Style) (q : Quote) (p : CodePoint) : Prop :=
  ∀ k, q.held = some k → ¬style.Merges (.surrogate k) p

theorem Quote.fits_push (style : Style) (q : Quote) (p : CodePoint) : (q.push p).Fits style :=
  fun _ hk => nomatch hk

theorem Quote.fits_hold {style : Style} {q : Quote} {p : CodePoint} (h : style.plain p = false) :
    (q.hold p).Fits style := by
  cases p with
  | char c => exact fits_push style q (.char c)
  | surrogate k =>
      by_cases hhigh : CodePoint.isHigh k = true
      · rw [hold, if_pos hhigh]
        intro k' hk'
        obtain rfl := Option.some.inj hk'
        exact ⟨hhigh, h⟩
      · rw [hold, if_neg hhigh]
        exact fits_push style q (.surrogate k)

/-- A letter behind a backslash is what it stands for. -/
theorem scanFrom_letter {q : Quote} {letter : Char} (h : unescape? letter = some c)
    (hletter : letter ≠ 'u') :
    scanFrom (.quoted q) found (['\\', letter].map .char ++ rest) =
      scanFrom (.quoted (q.push (.char c))) found rest := by
  have hadvance : advance (.escaped q) found letter = some (.quoted (q.push (.char c)), found) := by
    rw [advance, if_neg hletter, h]
    rfl
  rw [List.map_cons, List.map_cons, List.map_nil, List.cons_append, List.cons_append,
    scanFrom_backslash, scanFrom_char hadvance]
  rfl

/-- A code point is read as it was written. -/
theorem scanFrom_escape {style : Style} (hstyle : style.Sound) {q : Quote} {p : CodePoint}
    (hfits : q.Fits style) (hadmits : q.Admits style p) :
    ∃ q' : Quote, q'.Fits style ∧ q'.settled = p :: q.settled ∧
      ∀ found rest, scanFrom (.quoted q) found (escape style p ++ rest) =
        scanFrom (.quoted q') found rest := by
  unfold escape
  split
  -- The seven letters of JSON, then what is written as it is or by its number.
  iterate 7
    exact ⟨q.push _, Quote.fits_push style q _, rfl, fun _ _ => scanFrom_letter rfl (by decide)⟩
  next hquote hbackslash _ _ _ _ _ =>
  by_cases hplain : style.plain p = true
  · refine ⟨q.push p, Quote.fits_push style q p, rfl, fun found rest => ?_⟩
    rw [if_pos hplain]
    cases p with
    | surrogate k => exact scanFrom_surrogate
    | char c =>
        refine scanFrom_char ?_
        have hcontrol : ¬c.toNat < 0x20 := not_lt.mpr (hstyle.plain _ hplain)
        have hne : c ≠ '"' ∧ c ≠ '\\' := ⟨fun h => hquote (h ▸ rfl), fun h => hbackslash (h ▸ rfl)⟩
        rw [advance, if_neg hne.1, if_neg hne.2, if_neg hcontrol]
  · have hescaped : style.plain p = false := Bool.eq_false_iff.mpr hplain
    refine ⟨q.hold p, Quote.fits_hold hescaped, q.settled_hold p, fun found rest => ?_⟩
    rw [if_neg hplain]
    refine scanFrom_unicodeEscape fun high low hheld hp => ?_
    by_contra hlow
    obtain ⟨hhigh, hhidden⟩ := hfits high hheld
    exact hadmits high hheld ⟨high, low, rfl, hp, hhigh, Bool.eq_false_iff.mpr hlow, hhidden,
      hescaped⟩

/-- A text is read as it was written between quotes. -/
theorem scanFrom_quoted {style : Style} (hstyle : style.Sound) {t : RawText}
    (hkeeps : style.Keeps t) {q : Quote} (hfits : q.Fits style)
    (hadmits : ∀ p ∈ t.head?, q.Admits style p) :
    scanFrom (.quoted q) found (t.flatMap (escape style) ++ .char '"' :: rest) =
      scanFrom .between (.quoted (q.settled.reverse ++ t) :: found) rest := by
  induction t generalizing q with
  | nil =>
      rw [List.flatMap_nil, List.nil_append, List.append_nil]
      exact scanFrom_char rfl
  | cons p t ih =>
      obtain ⟨q', hfits', hsettled, hscan⟩ := scanFrom_escape hstyle hfits (hadmits p rfl)
      have hadmits' : ∀ p' ∈ t.head?, q'.Admits style p' := by
        intro p' hp' k hk
        obtain ⟨t, rfl⟩ := List.head?_eq_some_iff.mp hp'
        -- What is held back is the code point that was read last.
        have hlast : p = .surrogate k := by
          simp only [Quote.settled, hk] at hsettled
          exact (List.cons.inj hsettled).1.symm
        rw [← hlast]
        exact (List.isChain_cons_cons.mp hkeeps).1
      rw [List.flatMap_cons, List.append_assoc, hscan, ih hkeeps.tail hfits' hadmits', hsettled]
      simp

theorem scanFrom_quote {style : Style} (hstyle : style.Sound) {t : RawText}
    (hkeeps : style.Keeps t) :
    scanFrom .between found (quote style t ++ rest) =
      scanFrom .between (.quoted t :: found) rest := by
  have hfits : Quote.empty.Fits style := fun _ hk => nomatch hk
  have hadmits : ∀ p ∈ t.head?, Quote.empty.Admits style p := fun _ _ _ hk => nomatch hk
  rw [quote, List.append_assoc, List.cons_append, scanFrom_opening]
  exact scanFrom_quoted hstyle hkeeps hfits hadmits

/-! ### Words -/

/-- Whether a character ends a word. -/
def isEnd (c : Char) : Bool :=
  (punctuation? c).isSome || isGap c || c == '"'

theorem isEnd_iff : isEnd c = true ↔ (punctuation? c).isSome ∨ isGap c ∨ c = '"' := by
  simp [isEnd, or_assoc]

theorem isEnd_eq_false :
    isEnd c = false ↔ punctuation? c = none ∧ isGap c = false ∧ c ≠ '"' := by
  simp [isEnd, and_assoc]

/-- What follows ends a word. -/
def Ends (rest : RawText) : Prop :=
  ∀ p ∈ rest.head?, ∃ c, p = .char c ∧ isEnd c = true

theorem scanFrom_word_of_ends (h : Ends rest) (seen : List Char) :
    scanFrom (.word seen) found rest =
      scanFrom .between ((ofWord seen.reverse).reverse ++ found) rest := by
  cases rest with
  | nil => rfl
  | cons p rest =>
      obtain ⟨c, rfl, hc⟩ := h p rfl
      let next := outside ((ofWord seen.reverse).reverse ++ found) c
      have hadvance : advance (.word seen) found c = some (next.1, next.2) :=
        if_pos (isEnd_iff.mp hc)
      rw [scanFrom_char hadvance]
      exact (scanFrom_char rfl).symm

theorem scanFrom_word (h : Ends rest) {cs : List Char} (hcs : cs ≠ [])
    (hword : ∀ c ∈ cs, isEnd c = false) :
    scanFrom .between found (cs.map .char ++ rest) =
      scanFrom .between ((ofWord cs).reverse ++ found) rest := by
  have hmore : ∀ seen cs : List Char, (∀ c ∈ cs, isEnd c = false) →
      scanFrom (.word seen) found (cs.map .char ++ rest) =
        scanFrom (.word (cs.reverse ++ seen)) found rest := by
    intro seen cs hcs
    induction cs generalizing seen with
    | nil => rfl
    | cons c cs ih =>
        have hc : isEnd c = false := hcs c List.mem_cons_self
        have hadvance : advance (.word seen) found c = some (.word (c :: seen), found) :=
          if_neg fun h => by simp [isEnd_iff.mpr h] at hc
        rw [List.map_cons, List.cons_append, scanFrom_char hadvance,
          ih _ fun d hd => hcs d (List.mem_cons_of_mem c hd)]
        simp
  obtain ⟨c, cs, rfl⟩ := List.exists_cons_of_ne_nil hcs
  obtain ⟨hmark, hgap, hquote⟩ := isEnd_eq_false.mp (hword c List.mem_cons_self)
  have houtside : advance .between found c = some (.word [c], found) := by
    simp [advance, outside, hmark, hgap, hquote]
  rw [List.map_cons, List.cons_append, scanFrom_char houtside,
    hmore _ _ fun d hd => hword d (List.mem_cons_of_mem c hd), scanFrom_word_of_ends h]
  simp

/-- A mark is a lexeme by itself. -/
theorem scanFrom_mark {c : Char} {l : Lexeme} (h : punctuation? c = some l) :
    scanFrom .between found (.char c :: rest) = scanFrom .between (l :: found) rest :=
  scanFrom_char (by simp [advance, outside, h])

/-- A separator is its mark; the blanks after it are passed over. -/
theorem scanFrom_gap {c : Char} {l : Lexeme} (h : punctuation? c = some l) {gap : List Char}
    (hgap : ∀ d ∈ gap, isGap d = true) :
    scanFrom .between found ((c :: gap).map .char ++ rest) =
      scanFrom .between (l :: found) rest := by
  have hblank : ∀ d, isGap d = true → punctuation? d = none := by
    intro d hd
    simp only [isGap, Bool.or_eq_true, beq_iff_eq] at hd
    rcases hd with ((rfl | rfl) | rfl) | rfl <;> rfl
  rw [List.map_cons, List.cons_append, scanFrom_mark h]
  induction gap with
  | nil => rfl
  | cons d gap ih =>
      have hd := hgap d List.mem_cons_self
      have hadvance : advance .between (l :: found) d = some (.between, l :: found) := by
        simp [advance, outside, hblank d hd, hd]
      rw [List.map_cons, List.cons_append, scanFrom_char hadvance,
        ih fun d' hd' => hgap d' (List.mem_cons_of_mem d hd')]

end Scanning

end Json

end Storefront
