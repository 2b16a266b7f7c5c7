/-
Values come back from their text.

Once a value is written in a style that JSON text may be written in, the pass over the text finds
the lexemes of the value, and from these the reader makes the value again.  Both take the value as
it is built: what is found or read of it depends on nothing around it but the depth that it is at,
and what is made of an array or an object follows from its parts, one after another.

Not every value is `Legible` this way.  A number that is no integer may be rounded, an integer may
have more digits and a nesting more levels than are read, of a key that occurs twice only one member
is read, and of some texts the surrogates would be taken for characters.
-/
import Mathlib
import Storefront.Proofs.Lexing

namespace Storefront

namespace Json

open Text

/-! ### Integers -/

/-- How many digits an integer has. -/
def width (n : Int) : Nat := (Nat.toDigits 10 n.natAbs).length

theorem isEnd_of_isDigit {c : Char} (h : c.isDigit = true) : isEnd c = false := by
  refine isEnd_eq_false.mpr ⟨?_, ?_, ?_⟩
  · unfold punctuation?
    split <;> first | rfl | cases h
  · rw [Bool.eq_false_iff]
    intro hgap
    simp only [isGap, Bool.or_eq_true, beq_iff_eq] at hgap
    rcases hgap with ((rfl | rfl) | rfl) | rfl <;> cases h
  · rintro rfl
    cases h

theorem decimal_toDigits (n : Nat) : decimal (Nat.toDigits 10 n) = n := by
  have hfold : ∀ cs, decimal cs = Nat.ofDigitChars 10 cs 0 := by
    intro cs
    simp only [decimal, positional, Nat.ofDigitChars, List.foldl_map, Nat.mul_comm]
  rw [hfold, Nat.ofDigitChars_toDigits (by decide) (by decide)]

/-- A number other than zero is not written with a zero in front. -/
theorem head?_toDigits {n : Nat} (h : 0 < n) : (Nat.toDigits 10 n).head? ≠ some '0' := by
  induction n using Nat.strong_induction_on with
  | _ n ih =>
      by_cases hn : n < 10
      · rw [Nat.toDigits_of_lt_base hn]
        interval_cases n <;> decide
      · have hprefix := ih (n / 10) (by omega) (by omega)
        rw [Nat.toDigits_of_base_le (by decide) (by omega), List.head?_append_of_ne_nil]
        · exact hprefix
        · exact Nat.toDigits_ne_nil

theorem isDigit_of_mem {n : Nat} {c : Char} (h : c ∈ Nat.toDigits 10 n) : c.isDigit = true :=
  Nat.isDigit_of_mem_toDigits (by decide) (by decide) h

theorem spanWhole_toDigits (n : Nat) : spanWhole (Nat.toDigits 10 n) = (Nat.toDigits 10 n, []) := by
  have hspan : spanDigits (Nat.toDigits 10 n) = (Nat.toDigits 10 n, []) := by
    rw [spanDigits, List.takeWhile_eq_self_iff.mpr fun c hc => isDigit_of_mem hc,
      List.dropWhile_eq_nil_iff.mpr fun c hc => isDigit_of_mem hc]
  rcases Nat.eq_zero_or_pos n with rfl | hpos
  · rfl
  · have hhead := head?_toDigits hpos
    unfold spanWhole
    split
    · next cs hcs => simp [hcs] at hhead
    · exact hspan

theorem unsignedNumeral_toDigits (negative : Bool) (n : Nat) :
    unsignedNumeral negative (Nat.toDigits 10 n) =
      [.integer (signed negative n) (Nat.toDigits 10 n).length] := by
  have hsome : Nat.toDigits 10 n ≠ [] := Nat.toDigits_ne_nil
  simp [unsignedNumeral, spanWhole_toDigits, hsome, spanFraction, spanExponent, decimal_toDigits]

theorem toList_toString_ofNat (n : Nat) :
    (toString (Int.ofNat n)).toList = Nat.toDigits 10 n := by
  show (String.ofList (Nat.toDigits 10 n)).toList = _
  rw [String.toList_ofList]

theorem toList_toString_negSucc (n : Nat) :
    (toString (Int.negSucc n)).toList = '-' :: Nat.toDigits 10 (n + 1) := by
  show ("-" ++ String.ofList (Nat.toDigits 10 (n + 1))).toList = _
  rw [String.toList_append, String.toList_ofList (l := Nat.toDigits 10 (n + 1))]
  rfl

/-- No constant has a digit in the first place, nor in the second. -/
theorem noDigit_constants : ∀ word ∈ ["null", "true", "false", "NaN", "Infinity", "-Infinity"],
    word.toList.head?.all (!·.isDigit) = true ∧
      (word.toList.drop 1).head?.all (!·.isDigit) = true := by
  decide

theorem ofWord_of_isDigit {d : Char} (hd : d.isDigit = true) (cs : List Char) :
    ofWord (d :: cs) = unsignedNumeral false (d :: cs) := by
  have hne : ∀ word ∈ ["null", "true", "false", "NaN", "Infinity", "-Infinity"],
      d :: cs ≠ word.toList := by
    intro word hword h
    have hnoDigit := (noDigit_constants word hword).1
    simp [← h, hd] at hnoDigit
  unfold ofWord
  rw [if_neg (hne "null" (by simp)), if_neg (hne "true" (by simp)),
    if_neg (hne "false" (by simp)), if_neg (hne "NaN" (by simp)),
    if_neg (hne "Infinity" (by simp)), if_neg (hne "-Infinity" (by simp))]
  split
  · next h =>
    obtain rfl := (List.cons.inj h).1
    cases hd
  · rfl

theorem ofWord_of_minus {d : Char} (hd : d.isDigit = true) (cs : List Char) :
    ofWord ('-' :: d :: cs) = unsignedNumeral true (d :: cs) := by
  have hne : ∀ word ∈ ["null", "true", "false", "NaN", "Infinity", "-Infinity"],
      '-' :: d :: cs ≠ word.toList := by
    intro word hword h
    have hnoDigit := (noDigit_constants word hword).2
    simp [← h, hd] at hnoDigit
  unfold ofWord
  rw [if_neg (hne "null" (by simp)), if_neg (hne "true" (by simp)),
    if_neg (hne "false" (by simp)), if_neg (hne "NaN" (by simp)),
    if_neg (hne "Infinity" (by simp)), if_neg (hne "-Infinity" (by simp))]
  rfl

/-- An integer is the word that writes it. -/
theorem ofWord_toString (n : Int) : ofWord (toString n).toList = [.integer n (width n)] := by
  have hdigits : ∀ k, ∃ d ds, Nat.toDigits 10 k = d :: ds ∧ d.isDigit = true := by
    intro k
    have hsome : Nat.toDigits 10 k ≠ [] := Nat.toDigits_ne_nil
    obtain ⟨d, ds, hds⟩ := List.exists_cons_of_ne_nil hsome
    exact ⟨d, ds, hds, isDigit_of_mem (n := k) (by simp [hds])⟩
  cases n with
  | ofNat k =>
      obtain ⟨d, ds, hds, hd⟩ := hdigits k
      rw [toList_toString_ofNat, hds, ofWord_of_isDigit hd, ← hds]
      exact unsignedNumeral_toDigits false k
  | negSucc k =>
      obtain ⟨d, ds, hds, hd⟩ := hdigits (k + 1)
      rw [toList_toString_negSucc, hds, ofWord_of_minus hd, ← hds]
      exact unsignedNumeral_toDigits true (k + 1)

/-- An integer is written with digits, and a minus perhaps. -/
theorem mem_toString {n : Int} {c : Char} (h : c ∈ (toString n).toList) :
    c = '-' ∨ c.isDigit = true := by
  cases n with
  | ofNat k =>
      rw [toList_toString_ofNat] at h
      exact Or.inr (isDigit_of_mem h)
  | negSucc k =>
      rw [toList_toString_negSucc] at h
      exact (List.mem_cons.mp h).imp_right isDigit_of_mem

theorem isEnd_of_mem_toString {n : Int} {c : Char} (h : c ∈ (toString n).toList) :
    isEnd c = false := by
  rcases mem_toString h with rfl | hdigit
  · rfl
  · exact isEnd_of_isDigit hdigit

/-! ### Values -/

mutual

/-- The lexemes that a value is written with. -/
def spelling : Json → List Lexeme
  | null => [.atom .null]
  | bool b => [.atom (.bool b)]
  | int n => [.integer n (width n)]
  | real x => [.atom (.real x)]
  | text s => [.quoted s]
  | array [] => [.openArray, .closeArray]
  | array (v :: vs) => .openArray :: spelling v ++ spellingItems vs ++ [.closeArray]
  | object [] => [.openObject, .closeObject]
  | object ((k, v) :: ms) =>
    .openObject :: .quoted k :: .colon :: spelling v ++ spellingMembers ms ++ [.closeObject]

/-- The lexemes of the further items of an array. -/
def spellingItems : List Json → List Lexeme
  | [] => []
  | v :: vs => .comma :: spelling v ++ spellingItems vs

/-- The lexemes of the further members of an object. -/
def spellingMembers : List (RawText × Json) → List Lexeme
  | [] => []
  | (k, v) :: ms => .comma :: .quoted k :: .colon :: spelling v ++ spellingMembers ms

end

/-- A value inside so many containers can be read again once it is written: its numbers are integers
and within the limits, as is the nesting, the style keeps its texts, and no key occurs twice in an
object. -/
inductive Legible (limits : Option Limits) (style : Style) : Nat → Json → Prop
  | null (depth : Nat) : Legible limits style depth .null
  | bool (depth : Nat) (b : Bool) : Legible limits style depth (.bool b)
  | int (depth : Nat) {n : Int} (hwidth : limits.all (width n ≤ ·.digits) = true) :
      Legible limits style depth (.int n)
  | text (depth : Nat) {s : RawText} (hkeeps : style.Keeps s) : Legible limits style depth (.text s)
  | array {depth : Nat} {items : List Json} (hopen : limits.all (depth < ·.depth) = true)
      (hitems : ∀ v ∈ items, Legible limits style (depth + 1) v) :
      Legible limits style depth (.array items)
  | object {depth : Nat} {ms : Members} (hopen : limits.all (depth < ·.depth) = true)
      (hnodup : (ms.map Prod.fst).Nodup) (hkeys : ∀ m ∈ ms, style.Keeps m.1)
      (hmembers : ∀ m ∈ ms, Legible limits style (depth + 1) m.2) :
      Legible limits style depth (.object ms)

section Writing

variable {limits : Option Limits} {style : Style} {rest : RawText}

theorem ends_of_isEnd {c : Char} (h : isEnd c = true) : Ends (.char c :: rest) := by
  intro p hp
  obtain rfl := Option.some.inj hp
  exact ⟨c, rfl, h⟩

/-- The pass finds a value between two lexemes, whatever follows that ends a word. -/
def Found (style : Style) (v : Json) : Prop :=
  ∀ found rest, Ends rest → scanFrom .between found (write style v ++ rest) =
    scanFrom .between ((spelling v).reverse ++ found) rest

theorem found_word {v : Json} {cs : List Char} (hwrite : write style v = RawText.ofChars cs)
    (hcs : cs ≠ []) (hword : ∀ c ∈ cs, (!isEnd c) = true) (hspelling : ofWord cs = spelling v) :
    Found style v := by
  intro found rest hrest
  rw [hwrite, ← hspelling]
  exact scanFrom_word hrest hcs fun c hc => Bool.not_eq_true' _ ▸ hword c hc

theorem ends_writeItems (hstyle : style.Sound) (vs : List Json) :
    Ends (writeItems style vs ++ .char ']' :: rest) := by
  cases vs with
  | nil => exact ends_of_isEnd rfl
  | cons v vs =>
      obtain ⟨gap, hgap, -⟩ := hstyle.itemGap
      rw [writeItems, hgap]
      exact ends_of_isEnd rfl

theorem ends_writeMembers (hstyle : style.Sound) (ms : Members) :
    Ends (writeMembers style ms ++ .char '}' :: rest) := by
  cases ms with
  | nil => exact ends_of_isEnd rfl
  | cons m ms =>
      obtain ⟨gap, hgap, -⟩ := hstyle.itemGap
      rw [writeMembers, hgap]
      exact ends_of_isEnd rfl

theorem scanFrom_writeItems (hstyle : style.Sound) {found : List Lexeme} {vs : List Json}
    (h : ∀ v ∈ vs, Found style v) :
    scanFrom .between found (writeItems style vs ++ .char ']' :: rest) =
      scanFrom .between ((spellingItems vs).reverse ++ found) (.char ']' :: rest) := by
  obtain ⟨gap, hgap, hblank⟩ := hstyle.itemGap
  induction vs generalizing found with
  | nil => rfl
  | cons v vs ih =>
      have hv := h v List.mem_cons_self
      have hvs := fun w hw => h w (List.mem_cons_of_mem v hw)
      rw [writeItems, hgap, List.append_assoc, List.append_assoc, scanFrom_gap rfl hblank,
        hv _ _ (ends_writeItems hstyle vs), ih hvs, spellingItems]
      simp

theorem scanFrom_writeMembers (hstyle : style.Sound) {found : List Lexeme} {ms : Members}
    (hkeys : ∀ m ∈ ms, style.Keeps m.1) (h : ∀ m ∈ ms, Found style m.2) :
    scanFrom .between found (writeMembers style ms ++ .char '}' :: rest) =
      scanFrom .between ((spellingMembers ms).reverse ++ found) (.char '}' :: rest) := by
  obtain ⟨gap, hgap, hblank⟩ := hstyle.itemGap
  obtain ⟨keyGap, hkeyGap, hkeyBlank⟩ := hstyle.keyGap
  induction ms generalizing found with
  | nil => rfl
  | cons m ms ih =>
      obtain ⟨k, v⟩ := m
      have hk := hkeys (k, v) List.mem_cons_self
      have hv := h (k, v) List.mem_cons_self
      have hks := fun m hm => hkeys m (List.mem_cons_of_mem (k, v) hm)
      have hvs := fun m hm => h m (List.mem_cons_of_mem (k, v) hm)
      simp only [writeMembers, hgap, hkeyGap, List.append_assoc]
      rw [scanFrom_gap rfl hblank, scanFrom_quote hstyle hk, scanFrom_gap rfl hkeyBlank,
        hv _ _ (ends_writeMembers hstyle ms), ih hks hvs, spellingMembers]
      simp

/-- The pass finds every value that is legible. -/
theorem Legible.found {depth : Nat} {v : Json} (hstyle : style.Sound)
    (h : Legible limits style depth v) : Found style v := by
  induction h with
  | null => exact found_word rfl (by decide) (List.all_eq_true.mp (by decide)) rfl
  | bool depth b =>
      cases b
      · exact found_word rfl (by decide) (List.all_eq_true.mp (by decide)) rfl
      · exact found_word rfl (by decide) (List.all_eq_true.mp (by decide)) rfl
  | @int depth n hwidth =>
      have hsome : (toString n).toList ≠ [] := by
        intro hnil
        have hword := ofWord_toString n
        rw [hnil] at hword
        cases hword
      have hword : ∀ c ∈ (toString n).toList, (!isEnd c) = true := fun c hc => by
        rw [isEnd_of_mem_toString hc]
        rfl
      exact found_word rfl hsome hword (ofWord_toString n)
  | text depth hkeeps =>
      intro found rest _
      exact scanFrom_quote hstyle hkeeps
  | @array depth items hopen hitems ih =>
      intro found rest hrest
      cases items with
      | nil =>
          show scanFrom .between found (.char '[' :: .char ']' :: rest) = _
          rw [scanFrom_mark rfl, scanFrom_mark rfl]
          rfl
      | cons v vs =>
          have hv := ih v List.mem_cons_self
          have hvs := fun w hw => ih w (List.mem_cons_of_mem v hw)
          simp only [write, List.append_assoc, List.cons_append, List.nil_append]
          rw [scanFrom_mark rfl, hv _ _ (ends_writeItems hstyle vs),
            scanFrom_writeItems hstyle hvs, scanFrom_mark rfl, spelling]
          simp
  | @object depth ms hopen hnodup hkeys hmembers ih =>
      intro found rest hrest
      obtain ⟨keyGap, hkeyGap, hkeyBlank⟩ := hstyle.keyGap
      cases ms with
      | nil =>
          show scanFrom .between found (.char '{' :: .char '}' :: rest) = _
          rw [scanFrom_mark rfl, scanFrom_mark rfl]
          rfl
      | cons m ms =>
          obtain ⟨k, v⟩ := m
          have hk := hkeys (k, v) List.mem_cons_self
          have hv := ih (k, v) List.mem_cons_self
          have hks := fun m hm => hkeys m (List.mem_cons_of_mem (k, v) hm)
          have hvs := fun m hm => ih m (List.mem_cons_of_mem (k, v) hm)
          simp only [write, hkeyGap, List.append_assoc, List.cons_append, List.nil_append]
          rw [scanFrom_mark rfl, scanFrom_quote hstyle hk, scanFrom_gap rfl hkeyBlank,
            hv _ _ (ends_writeMembers hstyle ms), scanFrom_writeMembers hstyle hks hvs,
            scanFrom_mark rfl, spelling]
          simp

end Writing

/-! ### Reading -/

section Reading

variable {limits : Option Limits} {style : Style} {rest : List Lexeme}

theorem run_cons {r r' : Reading} {l : Lexeme} (h : r.step limits l = .ok r') :
    r.run limits (l :: rest) = r'.run limits rest := by
  simp only [Reading.run, h]

/-- The reader reads a value where one is due, inside so many open containers. -/
def Reads (limits : Option Limits) (depth : Nat) (v : Json) : Prop :=
  ∀ mayClose (frames : List Frame) rest, frames.length = depth →
    Reading.run limits ⟨.value mayClose, frames⟩ (spelling v ++ rest) =
      Reading.run limits ⟨.after v, frames⟩ rest

theorem mayOpen_of_length {frames : List Frame} {depth : Nat} (h : frames.length = depth)
    (hopen : limits.all (depth < ·.depth) = true) : mayOpen limits frames = true := by
  rw [mayOpen, h]
  exact hopen

theorem put_of_nodup {k : RawText} {v : Json} {ms rest' : Members}
    (h : ((ms ++ (k, v) :: rest').map Prod.fst).Nodup) : Keyed.put k v ms = ms ++ [(k, v)] := by
  refine Keyed.put_of_notMem fun hmem => ?_
  rw [List.map_append, List.map_cons] at h
  exact (List.nodup_append.mp h).2.2 k hmem k List.mem_cons_self rfl

theorem run_items {depth : Nat} {vs : List Json} (h : ∀ v ∈ vs, Reads limits (depth + 1) v)
    {v : Json} {items : List Json} {frames : List Frame} (hdepth : frames.length = depth) :
    Reading.run limits ⟨.after v, .array items :: frames⟩
        (spellingItems vs ++ .closeArray :: rest) =
      Reading.run limits ⟨.after (.array (items.reverse ++ v :: vs)), frames⟩ rest := by
  induction vs generalizing v items with
  | nil =>
      rw [spellingItems, List.nil_append, run_cons rfl, List.reverse_cons]
  | cons w vs ih =>
      have hw := h w List.mem_cons_self
      have hvs := fun u hu => h u (List.mem_cons_of_mem w hu)
      rw [spellingItems, List.append_assoc, List.cons_append, run_cons rfl,
        hw _ _ _ (by simpa using hdepth), ih hvs, List.reverse_cons, List.append_assoc]
      rfl

theorem run_members {depth : Nat} {rest' : Members}
    (h : ∀ m ∈ rest', Reads limits (depth + 1) m.2) (k : RawText) (v : Json) (ms : Members)
    (hnodup : ((ms ++ (k, v) :: rest').map Prod.fst).Nodup) {frames : List Frame}
    (hdepth : frames.length = depth) :
    Reading.run limits ⟨.after v, .object ms k :: frames⟩
        (spellingMembers rest' ++ .closeObject :: rest) =
      Reading.run limits ⟨.after (.object (ms ++ (k, v) :: rest')), frames⟩ rest := by
  induction rest' generalizing k v ms with
  | nil => rw [spellingMembers, List.nil_append, run_cons rfl, put_of_nodup hnodup]
  | cons m rest' ih =>
      obtain ⟨k', v'⟩ := m
      have hv' := h (k', v') List.mem_cons_self
      have hrest := fun m hm => h m (List.mem_cons_of_mem (k', v') hm)
      have hnodup' : ((ms ++ [(k, v)] ++ (k', v') :: rest').map Prod.fst).Nodup := by
        rw [List.append_assoc]
        exact hnodup
      rw [spellingMembers]
      simp only [List.cons_append, List.append_assoc]
      rw [run_cons rfl, run_cons rfl, run_cons rfl, hv' _ _ _ (by simpa using hdepth),
        put_of_nodup hnodup, ih hrest k' v' _ hnodup', List.append_assoc]
      rfl

/-- The reader reads every value that is legible. -/
theorem Legible.reads {depth : Nat} {v : Json} (h : Legible limits style depth v) :
    Reads limits depth v := by
  induction h with
  | null | bool | text =>
      intro mayClose frames rest _
      exact run_cons rfl
  | int depth hwidth =>
      intro mayClose frames rest _
      exact run_cons (if_pos hwidth)
  | @array depth items hopen hitems ih =>
      intro mayClose frames rest hdepth
      have hmayOpen := mayOpen_of_length hdepth hopen
      have hstep : ∀ mayClose, Reading.step limits ⟨.value mayClose, frames⟩ .openArray =
          .ok ⟨.value true, .array [] :: frames⟩ :=
        fun _ => if_pos hmayOpen
      cases items with
      | nil =>
          show Reading.run limits _ (.openArray :: .closeArray :: rest) = _
          rw [run_cons (hstep mayClose), run_cons rfl]
          rfl
      | cons v vs =>
          have hv := ih v List.mem_cons_self
          have hvs := fun w hw => ih w (List.mem_cons_of_mem v hw)
          rw [spelling]
          simp only [List.cons_append, List.append_assoc, List.nil_append]
          rw [run_cons (hstep mayClose), hv _ _ _ (by simpa using hdepth), run_items hvs hdepth]
          rfl
  | @object depth ms hopen hnodup hkeys hmembers ih =>
      intro mayClose frames rest hdepth
      have hmayOpen := mayOpen_of_length hdepth hopen
      have hstep : ∀ mayClose, Reading.step limits ⟨.value mayClose, frames⟩ .openObject =
          .ok ⟨.key true [], frames⟩ :=
        fun _ => if_pos hmayOpen
      cases ms with
      | nil =>
          show Reading.run limits _ (.openObject :: .closeObject :: rest) = _
          rw [run_cons (hstep mayClose), run_cons rfl]
      | cons m ms =>
          obtain ⟨k, v⟩ := m
          have hv := ih (k, v) List.mem_cons_self
          have hvs := fun m hm => ih m (List.mem_cons_of_mem (k, v) hm)
          rw [spelling]
          simp only [List.cons_append, List.append_assoc, List.nil_append]
          rw [run_cons (hstep mayClose), run_cons rfl, run_cons rfl,
            hv _ _ _ (by simpa using hdepth), run_members hvs k v [] hnodup hdepth]
          rfl

end Reading

/-- **A value comes back from its text.** -/
theorem read_write {limits : Option Limits} {style : Style} (hstyle : style.Sound) {v : Json}
    (h : Legible limits style 0 v) : read limits (write style v) = .ok v := by
  have hlexemes : lexemes (write style v) = spelling v := by
    have hfound := h.found hstyle [] [] fun p hp => nomatch hp
    rw [List.append_nil, List.append_nil] at hfound
    rw [lexemes, hfound]
    simp [scanFrom, Scan.close]
  have hrun := h.reads false [] [] rfl
  rw [List.append_nil] at hrun
  rw [read, hlexemes, hrun]
  rfl

/-! ### Texts of characters -/

section Characters

variable {style : Style}

/-- A text that has no surrogates. -/
def OfChars (t : RawText) : Prop :=
  ∃ cs, t = RawText.ofChars cs

theorem OfChars.append {t u : RawText} (ht : OfChars t) (hu : OfChars u) : OfChars (t ++ u) := by
  obtain ⟨cs, rfl⟩ := ht
  obtain ⟨ds, rfl⟩ := hu
  exact ⟨cs ++ ds, (List.map_append).symm⟩

theorem ofChars_escape (hstyle : ∀ k, style.plain (.surrogate k) = false) (p : CodePoint) :
    OfChars (escape style p) := by
  unfold escape
  split
  iterate 7 exact ⟨_, rfl⟩
  split
  · next hplain =>
    cases p with
    | char c => exact ⟨[c], rfl⟩
    | surrogate k => rw [hstyle k] at hplain; cases hplain
  · exact ⟨_, rfl⟩

theorem ofChars_quote (hstyle : ∀ k, style.plain (.surrogate k) = false) (t : RawText) :
    OfChars (quote style t) := by
  have hescaped : OfChars (t.flatMap (escape style)) := by
    induction t with
    | nil => exact ⟨[], rfl⟩
    | cons p t ih => exact (ofChars_escape hstyle p).append ih
  exact (OfChars.append ⟨['"'], rfl⟩ hescaped).append ⟨['"'], rfl⟩

mutual

/-- A style that writes no surrogate as it is writes characters. -/
theorem ofChars_write (hstyle : ∀ k, style.plain (.surrogate k) = false) :
    ∀ v, OfChars (write style v)
  | null | bool true | bool false | int _ | real _ => ⟨_, rfl⟩
  | text s => ofChars_quote hstyle s
  | array [] | object [] => ⟨_, rfl⟩
  | array (v :: vs) =>
    (OfChars.append (OfChars.append ⟨['['], rfl⟩ (ofChars_write hstyle v))
      (ofChars_writeItems hstyle vs)).append ⟨[']'], rfl⟩
  | object ((k, v) :: ms) => by
    have hkey : OfChars (.char '{' :: quote style k ++ style.keyGap.map .char) :=
      (OfChars.append ⟨['{'], rfl⟩ (ofChars_quote hstyle k)).append ⟨_, rfl⟩
    exact ((hkey.append (ofChars_write hstyle v)).append (ofChars_writeMembers hstyle ms)).append
      ⟨['}'], rfl⟩

theorem ofChars_writeItems (hstyle : ∀ k, style.plain (.surrogate k) = false) :
    ∀ vs, OfChars (writeItems style vs)
  | [] => ⟨[], rfl⟩
  | v :: vs =>
    (OfChars.append ⟨_, rfl⟩ (ofChars_write hstyle v)).append (ofChars_writeItems hstyle vs)

theorem ofChars_writeMembers (hstyle : ∀ k, style.plain (.surrogate k) = false) :
    ∀ ms, OfChars (writeMembers style ms)
  | [] => ⟨[], rfl⟩
  | (k, v) :: ms => by
    have hkey : OfChars (style.itemGap.map .char ++ quote style k ++ style.keyGap.map .char) :=
      (OfChars.append ⟨_, rfl⟩ (ofChars_quote hstyle k)).append ⟨_, rfl⟩
    exact (hkey.append (ofChars_write hstyle v)).append (ofChars_writeMembers hstyle ms)

end

theorem repaired_ofChars (cs : List Char) : (RawText.ofChars cs).repaired = String.ofList cs := by
  simp [RawText.repaired, RawText.ofChars, CodePoint.char?, Function.comp_def]

/-- A value comes back from its characters. -/
theorem read_render {limits : Option Limits} (hsound : style.Sound)
    (hstyle : ∀ k, style.plain (.surrogate k) = false) {v : Json} (h : Legible limits style 0 v) :
    read limits (render style v) = .ok v := by
  obtain ⟨cs, hcs⟩ := ofChars_write hstyle v
  have hrender : RawText.ofString (render style v) = write style v := by
    rw [render, hcs, repaired_ofChars, RawText.ofString, String.toList_ofList]
  rw [hrender, read_write hsound h]

end Characters

end Json

end Storefront
