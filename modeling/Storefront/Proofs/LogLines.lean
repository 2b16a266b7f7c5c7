/-
One record, one line.

The line of a record is an object on one line.  It is on one line because nothing that is written in
the style of log lines is a control (`Json.Legible.visible`), and it is an object because it comes
back from its text, for the style also keeps every surrogate as it is.

The object has three parts.  The five fields of the record come first, whatever extras are called
like them; then the promoted extras in their own order; then the other extras as they come, with the
exception at the end unless an extra holds its place (`Record.keys_payload`).  So each key is there
once, each extra that is not private is found under its name, and nothing else is.

A record has no line when it is made outside the years with four digits (`belated`), when an extra
stands under the name by which the record is asked for its message (`muted`), or when an integer
that is to be written has too many digits: as the level, in the message, or in an extra that is
shown (`swollen`).
-/
import Storefront.Proofs.Calendar
import Storefront.Proofs.Cutting
import Storefront.Proofs.Rereading

namespace Storefront

/-! ### Text without controls -/

namespace Json

open Text

/-- No code point of a text is a control. -/
def Visible (t : RawText) : Prop :=
  ∀ p ∈ t, 0x20 ≤ p.value

@[simp]
theorem visible_nil : Visible [] := by
  intro p hp
  cases hp

@[simp]
theorem visible_cons {p : CodePoint} {t : RawText} :
    Visible (p :: t) ↔ 0x20 ≤ p.value ∧ Visible t :=
  List.forall_mem_cons

@[simp]
theorem visible_append {t u : RawText} : Visible (t ++ u) ↔ Visible t ∧ Visible u :=
  List.forall_mem_append

theorem visible_ofChars (cs : List Char) (h : ∀ c ∈ cs, 0x20 ≤ c.toNat) :
    Visible (cs.map .char) := by
  intro p hp
  obtain ⟨c, hc, rfl⟩ := List.mem_map.mp hp
  exact h c hc

theorem visible_unicodeEscape (n : Nat) : Visible ((unicodeEscape n).map .char) := by
  have hdigit : ∀ d : Fin 16, 0x20 ≤ (hexDigit d).toNat := by decide
  have hhex4 : ∀ m, ∀ c ∈ hex4 m, 0x20 ≤ c.toNat := by
    intro m c hc
    simp only [hex4, List.mem_cons, List.not_mem_nil, or_false] at hc
    rcases hc with rfl | rfl | rfl | rfl <;> exact hdigit _
  have hmark : ∀ m, ∀ c ∈ '\\' :: 'u' :: hex4 m, 0x20 ≤ c.toNat := by
    intro m c hc
    rcases List.mem_cons.mp hc with rfl | hc
    · decide
    · rcases List.mem_cons.mp hc with rfl | hc
      · decide
      · exact hhex4 m c hc
  unfold unicodeEscape
  split
  · exact visible_ofChars _ (hmark n)
  · exact visible_ofChars _ (List.forall_mem_append.mpr ⟨hmark _, hmark _⟩)

theorem visible_escape (p : CodePoint) : Visible (escape .line p) := by
  unfold escape
  split
  iterate 7 exact visible_ofChars _ (by simp)
  split
  · next hplain => exact visible_cons.mpr ⟨of_decide_eq_true hplain, visible_nil⟩
  · exact visible_unicodeEscape _

theorem visible_quote (t : RawText) : Visible (quote .line t) := by
  have hescaped : Visible (t.flatMap (escape .line)) := by
    intro p hp
    obtain ⟨q, -, hq⟩ := List.mem_flatMap.mp hp
    exact visible_escape q p hq
  simp [quote, hescaped, CodePoint.value]

/-- The separators of log lines. -/
theorem visible_gaps :
    Visible (Style.line.itemGap.map .char) ∧ Visible (Style.line.keyGap.map .char) :=
  ⟨visible_ofChars [',', ' '] (by simp), visible_ofChars [':', ' '] (by simp)⟩

theorem visible_writeItems {vs : List Json} (h : ∀ v ∈ vs, Visible (write .line v)) :
    Visible (writeItems .line vs) := by
  induction vs with
  | nil => exact visible_nil
  | cons v vs ih =>
      have hv := h v List.mem_cons_self
      have hvs := ih fun w hw => h w (List.mem_cons_of_mem v hw)
      simp only [writeItems, visible_append]
      exact ⟨⟨visible_gaps.1, hv⟩, hvs⟩

theorem visible_writeMembers {ms : Members} (h : ∀ m ∈ ms, Visible (write .line m.2)) :
    Visible (writeMembers .line ms) := by
  induction ms with
  | nil => exact visible_nil
  | cons m ms ih =>
      obtain ⟨k, v⟩ := m
      have hv := h (k, v) List.mem_cons_self
      have hms := ih fun m hm => h m (List.mem_cons_of_mem (k, v) hm)
      simp only [writeMembers, visible_append]
      exact ⟨⟨⟨⟨visible_gaps.1, visible_quote k⟩, visible_gaps.2⟩, hv⟩, hms⟩

/-- Nothing that is written of a value is a control. -/
theorem Legible.visible {limits : Option Limits} {depth : Nat} {v : Json}
    (h : Legible limits .line depth v) : Visible (write .line v) := by
  induction h with
  | null => exact visible_ofChars "null".toList (by simp)
  | bool depth b =>
      cases b
      · exact visible_ofChars "false".toList (by simp)
      · exact visible_ofChars "true".toList (by simp)
  | @int depth n hwidth =>
      refine visible_ofChars (toString n).toList fun c hc => ?_
      rcases mem_toString hc with rfl | hdigit
      · decide
      · exact le_trans (by decide) (Char.isDigit_iff_toNat.mp hdigit).1
  | @text depth s hkeeps => exact visible_quote s
  | @array depth items hopen hitems ih =>
      cases items with
      | nil => exact visible_ofChars ['[', ']'] (by simp)
      | cons v vs =>
          have hv := ih v List.mem_cons_self
          have hvs := visible_writeItems fun w hw => ih w (List.mem_cons_of_mem v hw)
          simp [write, CodePoint.value, hv, hvs]
  | @object depth ms hopen hnodup hkeys hmembers ih =>
      cases ms with
      | nil => exact visible_ofChars ['{', '}'] (by simp)
      | cons m ms =>
          obtain ⟨k, v⟩ := m
          have hv := ih (k, v) List.mem_cons_self
          have hms := visible_writeMembers fun m hm => ih m (List.mem_cons_of_mem (k, v) hm)
          simp [write, CodePoint.value, visible_quote, visible_gaps.2, hv, hms]

/-! ### Lines that come back -/

/-- A log line keeps every surrogate as it is, so none of them merge. -/
theorem Style.keeps_line (t : RawText) : Style.line.Keeps t := by
  have hkept : ∀ p q, ¬Style.line.Merges p q := by
    rintro p q ⟨high, low, rfl, -, -, -, hescaped, -⟩
    have hplain : Style.line.plain (.surrogate high) = true := by
      exact decide_eq_true (by show 0x20 ≤ 0xD800 + high.val; omega)
    rw [hplain] at hescaped
    cases hescaped
  exact (List.pairwise_of_forall hkept).isChain

/-- A line keeps all of a value: no key is there twice, and it is no number that is written with a
point or an exponent. -/
def Kept (v : Json) : Prop :=
  v.NoRepeats ∧ ∀ x, v ≠ .real x

theorem kept_logged {v : Json} (h : v.Kept) : (Log.logged v).Kept := by
  obtain ⟨hrepeats, hfraction⟩ := h
  refine ⟨Log.noRepeats_logged hrepeats, fun x hx => ?_⟩
  cases v with
  | text s => rw [Log.logged_text] at hx; cases hx
  | array items => rw [Log.logged_array] at hx; cases hx
  | object ms =>
      have hkeys : (ms.map Prod.fst).Nodup := hrepeats
      rw [Log.logged_object hkeys] at hx
      cases hx
  | null | bool b | int n | real y => rw [Log.logged_atom rfl] at hx; exact hfraction x hx

theorem legible_line {v : Json} (h : v.Every Kept) (depth : Nat) : Legible none .line depth v := by
  induction h generalizing depth with
  | @intro v here _ ih =>
      obtain ⟨hrepeats, hfraction⟩ := here
      cases v with
      | null => exact .null depth
      | bool b => exact .bool depth b
      | int n => exact .int depth rfl
      | real x => exact absurd rfl (hfraction x)
      | text s => exact .text depth (Style.keeps_line s)
      | array items => exact .array rfl fun w hw => ih w hw (depth + 1)
      | object ms =>
          exact .object rfl hrepeats (fun m _ => Style.keeps_line m.1) fun m hm =>
            ih m.2 (List.mem_map_of_mem hm) (depth + 1)

end Json

/-! ### Integers that are written -/

namespace Json

theorem membersSpelled_of_forall {ms : Members} (h : ∀ m ∈ ms, m.2.isSpelled = true) :
    membersSpelled ms = true := by
  induction ms with
  | nil => rfl
  | cons m ms ih =>
      have hms := ih fun n hn => h n (List.mem_cons_of_mem m hn)
      rw [membersSpelled, h m List.mem_cons_self, hms]
      rfl

end Json

namespace Log.Value

theorem ofJson_injective : Function.Injective ofJson :=
  Function.LeftInverse.injective plain_ofJson

mutual

/-- The keys of a JSON value are texts, so all of them can be written. -/
theorem keysSpelled_ofJson (v : Json) : (ofJson v).keysSpelled = true := by
  cases v with
  | array items => exact itemKeysSpelled_ofItems maxItems items
  | object ms => exact pairKeysSpelled_ofMembers maxItems ms
  | null | bool b | int n | real x | text s => rfl

theorem itemKeysSpelled_ofItems (n : Nat) (vs : List Json) :
    itemKeysSpelled n (ofItems vs) = true := by
  cases n with
  | zero => cases vs <;> rfl
  | succ n =>
      cases vs with
      | nil => rfl
      | cons v vs =>
          rw [ofItems, itemKeysSpelled, keysSpelled_ofJson v, itemKeysSpelled_ofItems n vs]
          rfl

theorem pairKeysSpelled_ofMembers (n : Nat) (ms : List (RawText × Json)) :
    pairKeysSpelled n (ofMembers ms) = true := by
  cases n with
  | zero => cases ms <;> rfl
  | succ n =>
      cases ms with
      | nil => rfl
      | cons m ms =>
          obtain ⟨k, v⟩ := m
          rw [ofMembers, pairKeysSpelled, keysSpelled_ofJson v, pairKeysSpelled_ofMembers n ms]
          rfl

end

end Log.Value

/-! ### The parts of an object -/

namespace Log

open Json

/-- The name that an exception stands under. -/
def exceptionName : RawText := "exception"

namespace Record

variable (r : Record)

/-- The promoted extras of a record that are not null. -/
def leadingNames : List RawText :=
  (promoted.map RawText.ofString).filter fun name =>
    match Keyed.get? name r.extras with
    | none | some .null => false
    | some _ => true

/-- The other extras of a record that are shown under their names. -/
def otherNames : List RawText :=
  (r.extras.map Prod.fst).filter fun name =>
    !(headerNames ++ r.leadingNames).contains name && !isPrivate name

/-- The name of the exception of a record, unless an extra has it. -/
def trailingNames : List RawText :=
  if r.incident.isSome = true ∧ exceptionName ∉ r.extras.map Prod.fst then [exceptionName] else []

/-- An extra of this name is shown: the name is not one of the record's own, it is not private, and
no exception stands under it. -/
structure Shows (r : Record) (name : RawText) : Prop where
  foreign : name ∉ headerNames
  unveiled : isPrivate name = false
  vacant : name = exceptionName → r.incident = none

/-- The members of a record without its exception. -/
def calm (time : String) (message : RawText) (requestId : Json) : Members :=
  r.header time message requestId ++ r.leading ++ r.others (headerNames ++ r.leadingNames)

variable {r} {time : String} {message : RawText} {requestId : Json}

theorem keys_header : (r.header time message requestId).map Prod.fst = headerNames := rfl

theorem keys_leading : r.leading.map Prod.fst = r.leadingNames := by
  have hkeys : ∀ names : List String,
      (names.filterMap fun key =>
        match Keyed.get? (RawText.ofString key) r.extras with
        | none | some .null => none
        | some v => some (RawText.ofString key, written v)).map Prod.fst =
      (names.map RawText.ofString).filter fun name =>
        match Keyed.get? name r.extras with
        | none | some .null => false
        | some _ => true := by
    intro names
    induction names with
    | nil => rfl
    | cons name names ih =>
        rw [List.map_cons, List.filterMap_cons, List.filter_cons, ← ih]
        cases Keyed.get? (RawText.ofString name) r.extras with
        | none => rfl
        | some v => cases v <;> rfl
  exact hkeys promoted

theorem keys_others (named : List RawText) :
    (r.others named).map Prod.fst =
      (r.extras.map Prod.fst).filter fun name => !named.contains name && !isPrivate name := by
  rw [others, List.map_map, List.filter_map]
  rfl

theorem keys_calm : (r.calm time message requestId).map Prod.fst =
    headerNames ++ r.leadingNames ++ r.otherNames := by
  rw [calm, List.map_append, List.map_append, keys_header, keys_leading, keys_others, otherNames]

theorem payload_eq :
    r.payload time message requestId =
      match r.incident with
      | none => r.calm time message requestId
      | some i => Keyed.put exceptionName (.text i.line) (r.calm time message requestId) := by
  have hkeys : (r.header time message requestId ++ r.leading).map Prod.fst =
      headerNames ++ r.leadingNames := by
    rw [List.map_append, keys_header, keys_leading]
  unfold payload
  simp only [hkeys]
  rfl

/-! ### Names -/

theorem mem_leadingNames {name : RawText} :
    name ∈ r.leadingNames ↔ name ∈ promoted.map RawText.ofString ∧
      ∃ v, Keyed.get? name r.extras = some v ∧ v ≠ .null := by
  rw [leadingNames, List.mem_filter]
  refine and_congr_right fun _ => ?_
  cases Keyed.get? name r.extras with
  | none => simp
  | some v => cases v <;> simp

theorem mem_otherNames {name : RawText} :
    name ∈ r.otherNames ↔ name ∈ r.extras.map Prod.fst ∧ name ∉ headerNames ∧
      name ∉ r.leadingNames ∧ isPrivate name = false := by
  simp [otherNames, List.mem_filter, and_assoc]

/-- The names that are looked for most are neither the record's own nor private. -/
theorem foreign_promoted :
    ∀ name ∈ promoted.map RawText.ofString, name ∉ headerNames ∧ isPrivate name = false := by
  decide

/-- An extra is shown under its name exactly when it is not private, if the name is not one of the
record's own. -/
theorem mem_keys_calm {name : RawText} (hname : name ∈ r.extras.map Prod.fst)
    (hheader : name ∉ headerNames) :
    name ∈ (r.calm time message requestId).map Prod.fst ↔ isPrivate name = false := by
  rw [keys_calm, List.mem_append, List.mem_append]
  constructor
  · rintro ((hown | hleading) | hother)
    · exact absurd hown hheader
    · exact (foreign_promoted name (mem_leadingNames.mp hleading).1).2
    · exact (mem_otherNames.mp hother).2.2.2
  · intro hpublic
    by_cases hleading : name ∈ r.leadingNames
    · exact Or.inl (Or.inr hleading)
    · exact Or.inr (mem_otherNames.mpr ⟨hname, hheader, hleading, hpublic⟩)

theorem exceptionName_notMem :
    exceptionName ∉ headerNames ∧ exceptionName ∉ promoted.map RawText.ofString ∧
      isPrivate exceptionName = false := by
  decide

theorem mem_keys_calm_exception :
    exceptionName ∈ (r.calm time message requestId).map Prod.fst ↔
      exceptionName ∈ r.extras.map Prod.fst := by
  obtain ⟨hheader, hpromoted, hpublic⟩ := exceptionName_notMem
  constructor
  · intro h
    rw [keys_calm, List.mem_append, List.mem_append] at h
    rcases h with (hown | hleading) | hother
    · exact absurd hown hheader
    · exact absurd (mem_leadingNames.mp hleading).1 hpromoted
    · exact (mem_otherNames.mp hother).1
  · intro h
    exact (mem_keys_calm h hheader).mpr hpublic

theorem keys_payload : (r.payload time message requestId).map Prod.fst =
    headerNames ++ r.leadingNames ++ r.otherNames ++ r.trailingNames := by
  rw [payload_eq]
  cases hincident : r.incident with
  | none =>
      have htrailing : r.trailingNames = [] := if_neg (by simp [hincident])
      simp only [htrailing, List.append_nil, keys_calm]
  | some i =>
      simp only [Keyed.keys_put, mem_keys_calm_exception]
      by_cases hextra : exceptionName ∈ r.extras.map Prod.fst
      · have htrailing : r.trailingNames = [] := if_neg fun h => h.2 hextra
        rw [if_pos hextra, htrailing, List.append_nil, keys_calm]
      · have htrailing : r.trailingNames = [exceptionName] :=
          if_pos ⟨by rw [hincident]; rfl, hextra⟩
        rw [if_neg hextra, htrailing, keys_calm]

theorem nodup_calm (hnodup : (r.extras.map Prod.fst).Nodup) :
    ((r.calm time message requestId).map Prod.fst).Nodup := by
  have hheader : headerNames.Nodup := by decide
  have hpromoted : (promoted.map RawText.ofString).Nodup := by decide
  rw [keys_calm]
  refine List.Nodup.append (List.Nodup.append hheader (hpromoted.filter _) ?_)
    (hnodup.filter _) ?_
  · intro name hown hleading
    exact (foreign_promoted name (mem_leadingNames.mp hleading).1).1 hown
  · intro name hnamed hother
    obtain ⟨-, hown, hleading, -⟩ := mem_otherNames.mp hother
    exact (List.mem_append.mp hnamed).elim hown hleading

theorem nodup_payload (hnodup : (r.extras.map Prod.fst).Nodup) :
    ((r.payload time message requestId).map Prod.fst).Nodup := by
  rw [payload_eq]
  cases r.incident with
  | none => exact nodup_calm hnodup
  | some i => exact Keyed.nodup_keys_put (nodup_calm hnodup) _ _

/-! ### Values -/

/-- Under the name of an extra there is what is written of it. -/
theorem get?_calm (hnodup : (r.extras.map Prod.fst).Nodup) {name : RawText} {v : Value}
    (h : (name, v) ∈ r.extras) (hheader : name ∉ headerNames) (hpublic : isPrivate name = false) :
    Keyed.get? name (r.calm time message requestId) = some (written v) := by
  refine Keyed.get?_of_mem (nodup_calm hnodup) ?_
  have hget := Keyed.get?_of_mem hnodup h
  rw [calm, List.mem_append, List.mem_append]
  by_cases hleading : name ∈ r.leadingNames
  · obtain ⟨hpromoted, v', hget', hnull⟩ := mem_leadingNames.mp hleading
    obtain ⟨key, hkey, rfl⟩ := List.mem_map.mp hpromoted
    obtain rfl : v = v' := Option.some.inj (hget.symm.trans hget')
    refine Or.inl (Or.inr (List.mem_filterMap.mpr ⟨key, hkey, ?_⟩))
    rw [hget]
    cases v with
    | null => exact absurd rfl hnull
    | _ => rfl
  · have hname : name ∈ r.extras.map Prod.fst := List.mem_map_of_mem h
    have hother := mem_otherNames.mpr ⟨hname, hheader, hleading, hpublic⟩
    refine Or.inr (List.mem_map.mpr ⟨(name, v), List.mem_filter.mpr ⟨h, ?_⟩, rfl⟩)
    exact (List.mem_filter.mp hother).2

theorem of_mem_calm {m : RawText × Json} (h : m ∈ r.calm time message requestId) :
    m ∈ r.header time message requestId ∨
      ∃ e ∈ r.extras, e.1 ∉ headerNames ∧ isPrivate e.1 = false ∧ m = (e.1, written e.2) := by
  rw [calm, List.mem_append, List.mem_append] at h
  rcases h with (hown | hleading) | hother
  · exact Or.inl hown
  · obtain ⟨key, hkey, hm⟩ := List.mem_filterMap.mp hleading
    obtain ⟨hforeign, hpublic⟩ := foreign_promoted _ (List.mem_map_of_mem hkey)
    cases hget : Keyed.get? (RawText.ofString key) r.extras with
    | none => simp [hget] at hm
    | some v =>
        refine Or.inr ⟨_, Keyed.mem_of_get? hget, hforeign, hpublic, ?_⟩
        cases v <;> simp [hget] at hm <;> rw [← hm]
  · obtain ⟨e, he, rfl⟩ := List.mem_map.mp hother
    obtain ⟨hextra, hunnamed⟩ := List.mem_filter.mp he
    have hplain : (e.1 ∉ headerNames ∧ e.1 ∉ r.leadingNames) ∧ isPrivate e.1 = false := by
      simpa using hunnamed
    exact Or.inr ⟨e, hextra, hplain.1.1, hplain.2, rfl⟩

/-- Each member is one of the record's own, an extra that is shown as it is written, or the
exception. -/
theorem of_mem_payload (hnodup : (r.extras.map Prod.fst).Nodup) {m : RawText × Json}
    (h : m ∈ r.payload time message requestId) :
    m ∈ r.header time message requestId ∨
      (∃ e ∈ r.extras, r.Shows e.1 ∧ m.2 = written e.2) ∨
        ∃ i, r.incident = some i ∧ m.2 = .text i.line := by
  have hget : Keyed.get? m.1 (r.payload time message requestId) = some m.2 :=
    Keyed.get?_of_mem (nodup_payload hnodup) h
  rw [payload_eq] at h hget
  cases hincident : r.incident with
  | none =>
      simp only [hincident] at h
      refine (of_mem_calm h).imp_right fun hextra => ?_
      obtain ⟨e, he, hforeign, hpublic, rfl⟩ := hextra
      exact Or.inl ⟨e, he, ⟨hforeign, hpublic, fun _ => hincident⟩, rfl⟩
  | some i =>
      simp only [hincident] at h hget
      rw [Keyed.get?_put] at hget
      by_cases hplace : exceptionName = m.1
      · rw [if_pos hplace] at hget
        exact Or.inr (Or.inr ⟨i, rfl, (Option.some.inj hget).symm⟩)
      · rcases Keyed.mem_put h with hmember | rfl
        · refine (of_mem_calm hmember).imp_right fun hextra => ?_
          obtain ⟨e, he, hforeign, hpublic, rfl⟩ := hextra
          exact Or.inl ⟨e, he, ⟨hforeign, hpublic, fun heq => absurd heq.symm hplace⟩, rfl⟩
        · exact absurd rfl hplace

end Record

/-! ### Lines -/

/-- The id of a request as a line shows it. -/
def shownId : Option RawText → RawText
  | none | some [] => noRequest
  | some id => id

theorem find_context (id : Option RawText) (r : Record) :
    (RequestId.context id).find r = some (.text (shownId id)) := by
  match id with
  | none | some [] | some (_ :: _) => rfl

/-- The object of a line says what its record says, and it says nothing else. -/
structure Faithful (r : Record) (time : String) (message requestId : RawText) (ms : Members) :
    Prop where
  /-- No key is there twice. -/
  nodup : (ms.map Prod.fst).Nodup
  /-- The fields of the record come first, and none of them is what an extra says it is. -/
  own : [(RawText.ofString "ts", .text time), (RawText.ofString "level", .text (levelName r.level)),
    (RawText.ofString "logger", .text r.logger), (RawText.ofString "message", .text message),
    (RawText.ofString "request_id", .text requestId)] <+: ms
  /-- Any other extra is there as it is written, unless it is private or in the place of the
  exception. -/
  extra : ∀ name v, (name, .ofJson v) ∈ r.extras → r.Shows name →
    Keyed.get? name ms = some (logged v)
  exception : ∀ i, r.incident = some i → Keyed.get? exceptionName ms = some (.text i.line)
  /-- The extras that are left out are the private ones. -/
  absent : ∀ name ∈ r.extras.map Prod.fst, name ∉ ms.map Prod.fst ↔ isPrivate name = true
  /-- The promoted extras come right after the fields of the record, in their own order, and the
  others after them. -/
  names : ms.map Prod.fst = headerNames ++ r.leadingNames ++ r.otherNames ++ r.trailingNames

namespace Record

variable {r : Record} {time : String} {message requestId : RawText}

theorem faithful_payload (hnodup : (r.extras.map Prod.fst).Nodup) :
    Faithful r time message requestId (r.payload time message (.text requestId)) where
  nodup := nodup_payload hnodup
  own := by
    rw [payload_eq]
    cases r.incident with
    | none => exact ⟨_, (List.append_assoc _ _ _).symm⟩
    | some i =>
        -- The exception is put behind the fields of the record, none of which is called like it.
        simp only [calm, List.append_assoc]
        rw [Keyed.put_append_of_notMem]
        · exact ⟨_, rfl⟩
        · exact exceptionName_notMem.1
  extra := by
    rintro name v hextra ⟨hheader, hpublic, hplace⟩
    have hcalm : Keyed.get? name (r.calm time message (.text requestId)) = some (logged v) :=
      get?_calm hnodup hextra hheader hpublic
    rw [payload_eq]
    cases hincident : r.incident with
    | none => exact hcalm
    | some i =>
        have hne : ¬exceptionName = name := by
          rintro rfl
          rw [hplace rfl] at hincident
          cases hincident
        simp only
        rw [Keyed.get?_put, if_neg hne]
        exact hcalm
  exception := by
    intro i hincident
    rw [payload_eq, hincident]
    simp only [Keyed.get?_put, if_true]
  absent := by
    intro name hname
    have hown : ∀ name ∈ headerNames, isPrivate name = false := by decide
    rw [keys_payload]
    by_cases hheader : name ∈ headerNames
    · simp [hheader, hown name hheader]
    · have hcalm : name ∈ (r.calm time message (.text requestId)).map Prod.fst ↔
          isPrivate name = false := mem_keys_calm hname hheader
      have htrailing : name ∉ r.trailingNames := by
        intro h
        unfold trailingNames at h
        split at h
        · next hplace =>
          obtain rfl := List.mem_singleton.mp h
          exact hplace.2 hname
        · cases h
      rw [keys_calm] at hcalm
      rw [List.mem_append, hcalm]
      simp [htrailing]
  names := keys_payload

theorem text_header : ∀ m ∈ r.header time message (.text requestId), ∃ t, m.2 = .text t := by
  simp [header]

/-- What a record and its extras say can be written and comes back. -/
theorem legible_payload (hnodup : (r.extras.map Prod.fst).Nodup)
    (hvalues : ∀ e ∈ r.extras, ∃ v, e.2 = .ofJson v ∧ v.Every Kept) :
    Legible none .line 0 (.object (r.payload time message (.text requestId))) := by
  refine .object rfl (nodup_payload hnodup) (fun m _ => Style.keeps_line m.1) fun m hm => ?_
  rcases of_mem_payload hnodup hm with hown | ⟨e, he, -, hvalue⟩ | ⟨i, -, hvalue⟩
  · obtain ⟨t, ht⟩ := text_header m hown
    rw [ht]
    exact .text 1 (Style.keeps_line t)
  · obtain ⟨v, hjson, hkept⟩ := hvalues e he
    have hlogged : (logged v).Every Kept :=
      every_logged (fun _ hu => hu.1) (fun _ hu => kept_logged hu) hkept
    rw [hvalue, hjson]
    exact legible_line hlogged 1
  · rw [hvalue]
    exact .text 1 (Style.keeps_line i.line)

/-- No integer in the object of a line has too many digits, if none has in the extras that are
shown. -/
theorem isSpelled_payload (hnodup : (r.extras.map Prod.fst).Nodup)
    (hvalues : ∀ e ∈ r.extras, ∃ v, e.2 = .ofJson v ∧ v.Every Kept)
    (hdigits : ∀ name v, (name, .ofJson v) ∈ r.extras → r.Shows name →
      (logged v).isSpelled = true) :
    (Json.object (r.payload time message (.text requestId))).isSpelled = true := by
  refine membersSpelled_of_forall fun m hm => ?_
  rcases of_mem_payload hnodup hm with hown | ⟨⟨name, value⟩, he, hshows, hvalue⟩ | ⟨i, -, hvalue⟩
  · obtain ⟨t, ht⟩ := text_header m hown
    rw [ht]
    rfl
  · obtain ⟨v, rfl, -⟩ := hvalues _ he
    rw [hvalue]
    exact hdigits name v he hshows
  · rw [hvalue]
    rfl

theorem keysSpelled_of_ofJson (hvalues : ∀ e ∈ r.extras, ∃ v, e.2 = .ofJson v ∧ v.Every Kept) :
    r.keysSpelled = true := by
  refine List.all_eq_true.mpr fun e he => ?_
  obtain ⟨v, hjson, -⟩ := hvalues e he
  rw [hjson, Value.keysSpelled_ofJson, Bool.or_true]

/-- **A log line is one line, and it is an object that says what its record says.**  The extras have
distinct names and values of which JSON keeps everything, and none of them stands where the record
is asked for its message; the record has a message and a moment in the calendar; and its level and
the integers in what is shown of its extras have few enough digits to be written. -/
theorem jsonLine_faithful {id : Option RawText} (hlevel : Text.isSpelled r.level = true)
    (hmoment : r.created.HasPlace) (hmessage : r.message = .ok message)
    (hnodup : (r.extras.map Prod.fst).Nodup) (hspeech : messageName ∉ r.extras.map Prod.fst)
    (hvalues : ∀ e ∈ r.extras, ∃ v, e.2 = .ofJson v ∧ v.Every Kept)
    (hdigits : ∀ name v, (name, .ofJson v) ∈ r.extras → r.Shows name →
      (logged v).isSpelled = true) :
    ∃ time line ms, r.created.isoText = .ok time ∧ r.jsonLine (.context id) = .ok line ∧
      .char '\n' ∉ line ∧ .char '\r' ∉ line ∧ line = write .line (.object ms) ∧
      read none line = .ok (.object ms) ∧ Faithful r time message (shownId id) ms := by
  obtain ⟨time, htime⟩ := Timestamp.exists_isoText hmoment
  have hlegible :
      Legible none .line 0 (.object (r.payload time message (.text (shownId id)))) :=
    legible_payload hnodup hvalues
  have hline : r.jsonLine (.context id) =
      .ok (write .line (.object (r.payload time message (.text (shownId id))))) := by
    have hname : r.spokenLevel = .ok (levelName r.level) := if_pos hlevel
    have hspoken : r.spoken = .ok message := by
      rw [spoken, Keyed.get?_eq_none.mpr hspeech, hmessage]
      rfl
    have hkeys : r.keysSpelled = true := keysSpelled_of_ofJson hvalues
    have hid : ((RequestId.context id).find r).getD (.text noRequest) = .text (shownId id) := by
      rw [find_context]
      rfl
    have hpayload : (Json.object (r.payload time message (.text (shownId id)))).isSpelled = true :=
      isSpelled_payload hnodup hvalues hdigits
    simp only [jsonLine, hname, htime, hspoken, hkeys, hid]
    exact if_neg (by simp [hpayload])
  have hvisible := hlegible.visible
  refine ⟨time, _, _, htime, hline, ?_, ?_, rfl, read_write Style.sound_line hlegible,
    faithful_payload hnodup⟩
  · intro hfeed
    exact absurd (hvisible _ hfeed) (by decide)
  · intro hreturn
    exact absurd (hvisible _ hreturn) (by decide)

end Record

/-- An order that failed.  Its extras and its exception say what they should not: a second time, a
line feed, something private, and another exception. -/
def spoiled : Record where
  logger := "shop\nfloor"
  level := 40
  template := "order %s"
  args := [.text "7\r8"]
  extras := [("ts", .ofJson (.text "yesterday")), ("status", .ofJson .null),
    ("_secret", .ofJson (.bool true)), ("path", .ofJson (.text "/carts\n")),
    ("exception", .ofJson (.text "none")),
    ("basket", .ofJson (.array [.object [("size", .int 3)]]))]
  created := .ofSeconds 1704067200
  incident := some ⟨"ValueError", "no\nstock"⟩

theorem jsonLine_faithful_spoiled :
    Text.isSpelled spoiled.level = true ∧ spoiled.created.HasPlace ∧
      spoiled.message = .ok "order 7\r8" ∧ (spoiled.extras.map Prod.fst).Nodup ∧
      messageName ∉ spoiled.extras.map Prod.fst ∧
      (∀ e ∈ spoiled.extras, ∃ v, e.2 = .ofJson v ∧ v.Every Kept) ∧
      (∀ name v, (name, .ofJson v) ∈ spoiled.extras → spoiled.Shows name →
        (logged v).isSpelled = true) ∧
      ∃ time line ms, spoiled.created.isoText = .ok time ∧
        spoiled.jsonLine (.context (some "r\n1")) = .ok line ∧
        .char '\n' ∉ line ∧ .char '\r' ∉ line ∧ line = write .line (.object ms) ∧
        read none line = .ok (.object ms) ∧
        Faithful spoiled time "order 7\r8" (shownId (some "r\n1")) ms := by
  have hlevel : Text.isSpelled spoiled.level = true := by decide +kernel
  have hmoment : spoiled.created.HasPlace :=
    ⟨.ofSeconds 1704067200, by decide +kernel, by decide, by decide⟩
  have hmessage : spoiled.message = .ok "order 7\r8" := rfl
  have hnodup : (spoiled.extras.map Prod.fst).Nodup := by decide
  have hspeech : messageName ∉ spoiled.extras.map Prod.fst := by decide
  have hvalues : ∀ e ∈ spoiled.extras, ∃ v, e.2 = .ofJson v ∧ v.Every Kept := by
    intro e he
    simp only [spoiled, List.mem_cons, List.not_mem_nil, or_false] at he
    rcases he with rfl | rfl | rfl | rfl | rfl | rfl
    iterate 5 exact ⟨_, rfl, .intro ⟨List.nodup_nil, nofun⟩ nofun⟩
    refine ⟨_, rfl, .intro ⟨List.nodup_nil, nofun⟩ fun goods hgoods => ?_⟩
    obtain rfl := List.mem_singleton.mp hgoods
    refine .intro ⟨List.nodup_singleton _, nofun⟩ fun size hsize => ?_
    obtain rfl := List.mem_singleton.mp hsize
    exact .intro ⟨List.nodup_nil, nofun⟩ nofun
  have hdigits : ∀ name v, (name, .ofJson v) ∈ spoiled.extras → spoiled.Shows name →
      (logged v).isSpelled = true := by
    intro name v hextra hshows
    simp only [spoiled, List.mem_cons, List.not_mem_nil, or_false, Prod.mk.injEq] at hextra
    rcases hextra with ⟨-, h⟩ | ⟨-, h⟩ | ⟨-, h⟩ | ⟨-, h⟩ | ⟨-, h⟩ | ⟨-, h⟩
    all_goals
      obtain rfl := Value.ofJson_injective h
      decide +kernel
  exact ⟨hlevel, hmoment, hmessage, hnodup, hspeech, hvalues, hdigits,
    Record.jsonLine_faithful hlevel hmoment hmessage hnodup hspeech hvalues hdigits⟩

/-- A sale. -/
def sale : Record where
  logger := "shop"
  level := 20
  template := "sold"
  args := []
  extras := []
  created := .ofSeconds 1704067200
  incident := none

/-- A sale with an extra that stands where the record is asked for its message. -/
def muted : Record :=
  { sale with extras := [(messageName, .ofJson (.text "all of it"))] }

/-- A sale after the last of the years with four digits. -/
def belated : Record :=
  { sale with created := .ofSeconds 253402300800 }

/-- The first number that is too long to be written. -/
def endless : Nat := Nat.pow 10 Text.maxDigits

/-- A sale of more pieces than can be written. -/
def swollen : Record :=
  { sale with extras := [("pieces", .ofJson (.int endless))] }

/-- A sale whose message has to say how many pieces were sold. -/
def uncounted : Record :=
  { sale with template := "sold %d", args := [.number endless] }

/-- An extra whose name no record uses, and whose value is plain, can leave a record with all that
its line needs without a line.  So can the time, and an integer in the message or in the level. -/
theorem lines_lost :
    (muted.created.HasPlace ∧ muted.message = .ok "sold" ∧
      (muted.extras.map Prod.fst).Nodup ∧ muted.clash? = none ∧
      (∀ e ∈ muted.extras, ∃ v, e.2 = .ofJson v ∧ v.Every Kept) ∧
      muted.jsonLine (.context none) = .error (.speechless "str")) ∧
    (belated.message = .ok "sold" ∧ belated.extras = [] ∧
      belated.jsonLine (.context none) = .error (.calendar (.year 10000))) ∧
    (swollen.created.HasPlace ∧ swollen.message = .ok "sold" ∧
      (swollen.extras.map Prod.fst).Nodup ∧ swollen.clash? = none ∧
      messageName ∉ swollen.extras.map Prod.fst ∧
      (∀ e ∈ swollen.extras, ∃ v, e.2 = .ofJson v ∧ v.Every Kept) ∧
      swollen.jsonLine (.context none) = .error (.unwritable .digits)) ∧
    (uncounted.created.HasPlace ∧ uncounted.extras = [] ∧
      uncounted.jsonLine (.context none) = .error (.template .digits)) ∧
    ({ sale with level := endless } : Record).jsonLine (.context none) =
      .error (.unwritable .digits) := by
  have hmoment : sale.created.HasPlace :=
    ⟨.ofSeconds 1704067200, by decide +kernel, by decide, by decide⟩
  have hvalues : ∀ e ∈ muted.extras ++ swollen.extras, ∃ v, e.2 = .ofJson v ∧ v.Every Kept := by
    intro e he
    simp only [muted, swollen, List.mem_append, List.mem_singleton] at he
    rcases he with rfl | rfl
    all_goals exact ⟨_, rfl, .intro ⟨List.nodup_nil, nofun⟩ nofun⟩
  refine ⟨⟨hmoment, rfl, by decide, by decide, ?_, by decide +kernel⟩,
    ⟨rfl, rfl, by decide +kernel⟩,
    ⟨hmoment, rfl, by decide, by decide, by decide, ?_, by decide +kernel⟩,
    ⟨hmoment, rfl, by decide +kernel⟩, by decide +kernel⟩
  · exact fun e he => hvalues e (List.mem_append_left _ he)
  · exact fun e he => hvalues e (List.mem_append_right _ he)

end Log

end Storefront
