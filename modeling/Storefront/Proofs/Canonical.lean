/-
The canonical form of a body.

There are four kinds of bodies.  A body that is accepted is written back with every field there and
in one spelling (`Kind.canonical`).  What becomes of a body is decided field by field: each field
takes what is sent under its name to one value (`Field.Takes`), and then a rule is held against the
values and against nothing else (`Kind.canonical_eq_ok`).

A body has the properties that its fields have.  The value that a field comes to is taken to itself,
so what is canonical is left alone; and two fields come to the same value exactly when they carry
the same digits, or write the same number, however they are spelled.
-/
import Mathlib
import Storefront.Intake.Document
import Storefront.Proofs.Spellings

namespace Storefront

namespace Intake

/-! ### Parts -/

/-- What a field is made of. -/
inductive Part where
  | id
  | quantity
  | ids
  | source

/-- A value is the canonical text of an identifier. -/
def IsId (w : Json) : Prop :=
  ∃ cs, w = .text (RawText.ofChars cs) ∧ Uuid.IsCanonical cs

namespace Part

/-- The canonical form of a value that is sent as a part. -/
def canonical (p : Part) (v : Json) : Checked Json :=
  match p with
  | id => (readId v).map Uuid.json
  | quantity => (readQuantity v).map .int
  | ids => (readIds v).map idsJson
  | source => (readSource v).map fun s => .text s.text

/-- A value has the form that a part is written back in. -/
def IsCanonical (p : Part) (w : Json) : Prop :=
  match p with
  | id => IsId w
  | quantity => ∃ n, w = .int n ∧ 1 ≤ n ∧ n ≤ maxQuantity
  | ids => ∃ items, w = .array items ∧ ∀ v ∈ items, IsId v
  | source => w = .text "product" ∨ w = .text "cart"

/-- Two values carry the same as a part, however they are spelled. -/
def Same (p : Part) (v v' : Json) : Prop :=
  match p, v, v' with
  | id, v, v' => v.idDigits? = v'.idDigits?
  | quantity, v, v' => v.number? = v'.number?
  | ids, .array items, .array items' => items.map Json.idDigits? = items'.map Json.idDigits?
  | ids, _, _ => False
  | source, v, v' => v = v'

end Part

/-! #### Lists of identifiers -/

theorem readIdsFrom_eq_ok {start : Nat} {items : List Json} {us : List Uuid} :
    readIdsFrom start items = .ok us ↔ List.Forall₂ (fun v u => readId v = .ok u) items us := by
  induction items generalizing start us with
  | nil =>
      constructor
      · intro h
        obtain rfl := Except.ok.inj h
        exact .nil
      · intro h
        cases h
        rfl
  | cons v items ih =>
      simp only [readIdsFrom, Checked.both_eq_ok, Checked.within, Except.mapError_eq_ok, ih,
        List.forall₂_cons_left_iff]
      constructor
      · rintro ⟨u, us', hu, hus, rfl⟩
        exact ⟨u, us', hu, hus, rfl⟩
      · rintro ⟨u, us', hu, hus, rfl⟩
        exact ⟨u, us', hu, hus, rfl⟩

/-- Identifiers are read one by one. -/
theorem readIds_eq_ok {v : Json} {us : List Uuid} :
    readIds v = .ok us ↔
      ∃ items, v = .array items ∧ List.Forall₂ (fun v u => readId v = .ok u) items us := by
  constructor
  · intro h
    cases v with
    | array items => exact ⟨items, rfl, readIdsFrom_eq_ok.mp h⟩
    | _ => cases h
  · rintro ⟨items, rfl, h⟩
    exact readIdsFrom_eq_ok.mpr h

theorem readIds_idsJson (us : List Uuid) : readIds (idsJson us) = .ok us := by
  refine readIds_eq_ok.mpr ⟨_, rfl, ?_⟩
  rw [List.forall₂_map_left_iff, List.forall₂_same]
  exact fun u _ => readId_json u

theorem map_idDigits_of_readIds {items : List Json} {us : List Uuid}
    (h : List.Forall₂ (fun v u => readId v = .ok u) items us) :
    items.map Json.idDigits? = us.map fun u => some u.digits := by
  induction h with
  | nil => rfl
  | cons hu _ ih => rw [List.map_cons, List.map_cons, idDigits?_of_readId hu, ih]

theorem idsJson_inj {us us' : List Uuid} : idsJson us = idsJson us' ↔ us = us' := by
  constructor
  · intro h
    have hread := readIds_idsJson us
    rw [h, readIds_idsJson] at hread
    exact (Except.ok.inj hread).symm
  · rintro rfl
    rfl

/-! #### What a part comes to -/

namespace Part

variable {p : Part} {v v' w w' : Json}

/-- The canonical form of a part is its own. -/
theorem canonical_canonical (h : p.canonical v = .ok w) : p.canonical w = .ok w := by
  cases p with
  | id =>
      obtain ⟨u, -, rfl⟩ := Except.map_eq_ok.mp h
      rw [canonical, readId_json, Except.map]
  | quantity =>
      obtain ⟨n, hread, rfl⟩ := Except.map_eq_ok.mp h
      have hrange := (readQuantity_eq_ok.mp hread).2
      rw [canonical, readQuantity_eq_ok.mpr ⟨.int n, hrange⟩, Except.map]
  | ids =>
      obtain ⟨us, -, rfl⟩ := Except.map_eq_ok.mp h
      rw [canonical, readIds_idsJson, Except.map]
  | source =>
      obtain ⟨s, -, rfl⟩ := Except.map_eq_ok.mp h
      rw [canonical, readSource_eq_ok.mpr rfl, Except.map]

theorem isCanonical_of_canonical (h : p.canonical v = .ok w) : p.IsCanonical w := by
  have hid : ∀ u : Uuid, IsId u.json := by
    intro u
    refine ⟨u.chars, ?_, u.isCanonical_chars⟩
    rw [Uuid.json, Uuid.text, RawText.ofString, String.toList_ofList]
  cases p with
  | id =>
      obtain ⟨u, -, rfl⟩ := Except.map_eq_ok.mp h
      exact hid u
  | quantity =>
      obtain ⟨n, hread, rfl⟩ := Except.map_eq_ok.mp h
      exact ⟨n, rfl, inRange_iff.mp (readQuantity_eq_ok.mp hread).2⟩
  | ids =>
      obtain ⟨us, -, rfl⟩ := Except.map_eq_ok.mp h
      refine ⟨_, rfl, fun v hv => ?_⟩
      obtain ⟨u, -, rfl⟩ := List.mem_map.mp hv
      exact hid u
  | source =>
      obtain ⟨s, -, rfl⟩ := Except.map_eq_ok.mp h
      cases s
      · exact Or.inl rfl
      · exact Or.inr rfl

/-- Two values come to the same part exactly when they carry the same. -/
theorem eq_iff_same (h : p.canonical v = .ok w) (h' : p.canonical v' = .ok w') :
    w = w' ↔ p.Same v v' := by
  cases p with
  | id =>
      obtain ⟨u, hread, rfl⟩ := Except.map_eq_ok.mp h
      obtain ⟨u', hread', rfl⟩ := Except.map_eq_ok.mp h'
      show u.json = u'.json ↔ v.idDigits? = v'.idDigits?
      rw [idDigits?_of_readId hread, idDigits?_of_readId hread', Option.some_inj, json_inj,
        Uuid.digits_injective.eq_iff]
  | quantity =>
      obtain ⟨n, hread, rfl⟩ := Except.map_eq_ok.mp h
      obtain ⟨n', hread', rfl⟩ := Except.map_eq_ok.mp h'
      show Json.int n = .int n' ↔ v.number? = v'.number?
      rw [number?_of_writes (readQuantity_eq_ok.mp hread).1,
        number?_of_writes (readQuantity_eq_ok.mp hread').1, Option.some_inj, Int.cast_inj,
        Json.int.injEq]
  | ids =>
      obtain ⟨us, hread, rfl⟩ := Except.map_eq_ok.mp h
      obtain ⟨us', hread', rfl⟩ := Except.map_eq_ok.mp h'
      obtain ⟨items, rfl, hitems⟩ := readIds_eq_ok.mp hread
      obtain ⟨items', rfl, hitems'⟩ := readIds_eq_ok.mp hread'
      show idsJson us = idsJson us' ↔ items.map Json.idDigits? = items'.map Json.idDigits?
      have hsome : Function.Injective fun u : Uuid => some u.digits :=
        (Option.some_injective _).comp Uuid.digits_injective
      rw [map_idDigits_of_readIds hitems, map_idDigits_of_readIds hitems',
        hsome.list_map.eq_iff, idsJson_inj]
  | source =>
      obtain ⟨s, hread, rfl⟩ := Except.map_eq_ok.mp h
      obtain ⟨s', hread', rfl⟩ := Except.map_eq_ok.mp h'
      show Json.text s.text = .text s'.text ↔ v = v'
      rw [readSource_eq_ok.mp hread, readSource_eq_ok.mp hread']

theorem canonical_null : p.canonical .null ≠ .ok w := by
  cases p <;> simp [canonical, readId, readQuantity, readIds, readSource, Except.map_eq_ok]

end Part

/-! ### Fields -/

/-- A field of a kind of bodies. -/
structure Field where
  name : String
  part : Part
  isOptional : Bool

namespace Field

/-- What is sent of a field, if anything, comes to a value. -/
inductive Takes (f : Field) : Option Json → Json → Prop
  | value {v w : Json} (h : f.part.canonical v = .ok w) : Takes f (some v) w
  | missing (h : f.isOptional = true) : Takes f none .null
  | null (h : f.isOptional = true) : Takes f (some .null) .null

/-- A value has the form that a field is written back in. -/
def IsCanonical (f : Field) (w : Json) : Prop :=
  f.part.IsCanonical w ∨ f.isOptional = true ∧ w = .null

/-- What is sent of a field; null says as little as nothing. -/
def said : Option Json → Option Json
  | some .null => none
  | sent => sent

/-- Nothing is said of a field either time, or what is said carries the same. -/
def Same (f : Field) (sent sent' : Option Json) : Prop :=
  match said sent, said sent' with
  | none, none => True
  | some v, some v' => f.part.Same v v'
  | _, _ => False

variable {f : Field} {sent sent' : Option Json} {w w' : Json}

theorem Takes.canonical (h : f.Takes sent w) : f.Takes (some w) w := by
  cases h with
  | value h => exact .value (Part.canonical_canonical h)
  | missing h => exact .null h
  | null h => exact .null h

theorem Takes.isCanonical (h : f.Takes sent w) : f.IsCanonical w := by
  cases h with
  | value h => exact Or.inl (Part.isCanonical_of_canonical h)
  | missing h => exact Or.inr ⟨h, rfl⟩
  | null h => exact Or.inr ⟨h, rfl⟩

/-- Either nothing is said of a field, and it comes to null, or what is said is read. -/
theorem Takes.said_cases (h : f.Takes sent w) :
    said sent = none ∧ w = .null ∨ ∃ v, said sent = some v ∧ f.part.canonical v = .ok w := by
  cases h with
  | @value v w h =>
      refine Or.inr ⟨v, ?_, h⟩
      cases v with
      | null => exact absurd h Part.canonical_null
      | _ => rfl
  | missing h => exact Or.inl ⟨rfl, rfl⟩
  | null h => exact Or.inl ⟨rfl, rfl⟩

theorem Takes.eq_iff_same (h : f.Takes sent w) (h' : f.Takes sent' w') :
    w = w' ↔ f.Same sent sent' := by
  unfold Same
  -- No part comes to null, so a field that is read is told from one of which nothing is said.
  rcases h.said_cases with ⟨hsaid, hw⟩ | ⟨v, hsaid, hw⟩
  · rcases h'.said_cases with ⟨hsaid', hw'⟩ | ⟨v', hsaid', hw'⟩
    · rw [hsaid, hsaid', hw, hw']
      exact iff_of_true rfl trivial
    · rw [hsaid, hsaid']
      refine iff_of_false ?_ not_false
      rw [hw]
      rintro rfl
      exact Part.canonical_null (Part.canonical_canonical hw')
  · rcases h'.said_cases with ⟨hsaid', hw'⟩ | ⟨v', hsaid', hw'⟩
    · rw [hsaid, hsaid']
      refine iff_of_false ?_ not_false
      rw [hw']
      rintro rfl
      exact Part.canonical_null (Part.canonical_canonical hw)
    · rw [hsaid, hsaid']
      exact Part.eq_iff_same hw hw'

end Field

/-! ### Bodies -/

/-- The kinds of bodies. -/
inductive Kind where
  | newItem
  | newQuantity
  | choice
  | checkout

namespace Kind

/-- The fields of a kind of bodies. -/
def fields : Kind → List Field
  | newItem => [⟨"product_id", .id, false⟩, ⟨"variant_id", .id, false⟩,
      ⟨"quantity", .quantity, false⟩]
  | newQuantity => [⟨"quantity", .quantity, false⟩]
  | choice => [⟨"variant_ids", .ids, false⟩]
  | checkout => [⟨"source", .source, false⟩, ⟨"variant_id", .id, true⟩,
      ⟨"quantity", .quantity, true⟩, ⟨"variant_ids", .ids, true⟩]

/-- A body as it is written back once it is accepted. -/
def canonical (k : Kind) (d : Json) : Checked Json :=
  match k with
  | newItem => (NewItem.read d).map NewItem.json
  | newQuantity => (NewQuantity.read d).map NewQuantity.json
  | choice => (Choice.read d).map Choice.json
  | checkout => (CheckoutRequest.read d).map CheckoutRequest.json

/-- The rule that the values of a body have to keep. -/
def Rule (k : Kind) (ws : List Json) : Prop :=
  match k with
  | newItem | newQuantity => True
  | choice => ws ≠ [.array []]
  | checkout =>
    (∃ variant quantity variants, ws = [.text "product", variant, quantity, variants] ∧
      variant ≠ .null ∧ quantity ≠ .null) ∨
    ∃ variant quantity first rest, ws = [.text "cart", variant, quantity, .array (first :: rest)]

/-- The members of a body with given values. -/
def members (k : Kind) (ws : List Json) : Json.Members :=
  (k.fields.zip ws).map fun m => (RawText.ofString m.1.name, m.2)

/-- The fields of a body come to values. -/
def Takes (k : Kind) (ms : Json.Members) (ws : List Json) : Prop :=
  List.Forall₂ (fun f w => f.Takes (ms.get? f.name) w) k.fields ws

end Kind

/-! #### Fields and their readers -/

section Readers

variable {α : Type} {read : Json → Checked α} {write : α → Json} {f : Field} {ms : Json.Members}

/-- A field that has to be there comes to what is read of it. -/
theorem takes_required (hpart : ∀ v, f.part.canonical v = (read v).map write)
    (hrequired : f.isOptional = false) {w : Json} :
    f.Takes (ms.get? f.name) w ↔ ∃ a, Holds ms f.name read a ∧ w = write a := by
  constructor
  · intro h
    cases hsent : ms.get? f.name with
    | none =>
        rw [hsent] at h
        cases h with
        | missing h => rw [hrequired] at h; cases h
    | some v =>
        rw [hsent] at h
        cases h with
        | value h =>
            rw [hpart] at h
            obtain ⟨a, hread, rfl⟩ := Except.map_eq_ok.mp h
            exact ⟨a, ⟨v, hsent, hread⟩, rfl⟩
        | null h => rw [hrequired] at h; cases h
  · rintro ⟨a, ⟨v, hsent, hread⟩, rfl⟩
    rw [hsent]
    refine .value ?_
    rw [hpart, hread, Except.map]

/-- A field that may be missing comes to what is read of it, or to null. -/
theorem takes_optional (hpart : ∀ v, f.part.canonical v = (read v).map write)
    (hoptional : f.isOptional = true) {w : Json} :
    f.Takes (ms.get? f.name) w ↔
      ∃ o, MayHold ms f.name read o ∧ w = optionalJson write o := by
  constructor
  · intro h
    cases hsent : ms.get? f.name with
    | none =>
        rw [hsent] at h
        cases h with
        | missing _ => exact ⟨none, Or.inl hsent, rfl⟩
    | some v =>
        rw [hsent] at h
        cases h with
        | value h =>
            rw [hpart] at h
            obtain ⟨a, hread, rfl⟩ := Except.map_eq_ok.mp h
            exact ⟨some a, ⟨v, hsent, hread⟩, rfl⟩
        | null _ => exact ⟨none, Or.inr hsent, rfl⟩
  · rintro ⟨o, hholds, rfl⟩
    cases o with
    | none =>
        rcases hholds with hsent | hsent
        · rw [hsent]
          exact .missing hoptional
        · rw [hsent]
          exact .null hoptional
    | some a =>
        obtain ⟨v, hsent, hread⟩ := hholds
        rw [hsent]
        refine .value ?_
        rw [hpart, hread]
        rfl

end Readers

namespace Kind

variable {k : Kind} {ms ms' : Json.Members} {ws ws' : List Json} {c d d' : Json}

/-! #### Bodies and their fields -/

theorem exists_members (h : k.canonical d = .ok c) : ∃ ms, d = .object ms := by
  cases d with
  | object ms => exact ⟨ms, rfl⟩
  | _ => cases k <;> cases h

theorem newItem_eq_ok : newItem.canonical (.object ms) = .ok c ↔
    ∃ ws, newItem.Takes ms ws ∧ newItem.Rule ws ∧ c = .object (newItem.members ws) := by
  constructor
  · intro h
    obtain ⟨r, hread, rfl⟩ := Except.map_eq_ok.mp h
    obtain ⟨hproduct, hvariant, hquantity⟩ := NewItem.read_eq_ok.mp hread
    refine ⟨[r.product.json, r.variant.json, .int r.quantity], ?_, trivial, rfl⟩
    refine .cons ?_ (.cons ?_ (.cons ?_ .nil))
    · exact (takes_required (fun _ => rfl) rfl).mpr ⟨_, hproduct, rfl⟩
    · exact (takes_required (fun _ => rfl) rfl).mpr ⟨_, hvariant, rfl⟩
    · exact (takes_required (fun _ => rfl) rfl).mpr ⟨_, hquantity, rfl⟩
  · rintro ⟨ws, htakes, -, rfl⟩
    simp only [Takes, fields, List.forall₂_cons_left_iff, List.forall₂_nil_left_iff] at htakes
    obtain ⟨_, _, hp, ⟨_, _, hv, ⟨_, _, hq, rfl, rfl⟩, rfl⟩, rfl⟩ := htakes
    obtain ⟨product, hproduct, rfl⟩ := (takes_required (fun _ => rfl) rfl).mp hp
    obtain ⟨variant, hvariant, rfl⟩ := (takes_required (fun _ => rfl) rfl).mp hv
    obtain ⟨quantity, hquantity, rfl⟩ := (takes_required (fun _ => rfl) rfl).mp hq
    have hread := NewItem.read_eq_ok (r := ⟨product, variant, quantity⟩).mpr
      ⟨hproduct, hvariant, hquantity⟩
    exact Except.map_eq_ok.mpr ⟨_, hread, rfl⟩

theorem newQuantity_eq_ok : newQuantity.canonical (.object ms) = .ok c ↔
    ∃ ws, newQuantity.Takes ms ws ∧ newQuantity.Rule ws ∧ c = .object (newQuantity.members ws) := by
  constructor
  · intro h
    obtain ⟨r, hread, rfl⟩ := Except.map_eq_ok.mp h
    have hquantity := NewQuantity.read_eq_ok.mp hread
    refine ⟨[.int r.quantity], .cons ?_ .nil, trivial, rfl⟩
    exact (takes_required (fun _ => rfl) rfl).mpr ⟨_, hquantity, rfl⟩
  · rintro ⟨ws, htakes, -, rfl⟩
    simp only [Takes, fields, List.forall₂_cons_left_iff, List.forall₂_nil_left_iff] at htakes
    obtain ⟨_, _, hq, rfl, rfl⟩ := htakes
    obtain ⟨quantity, hquantity, rfl⟩ := (takes_required (fun _ => rfl) rfl).mp hq
    have hread := NewQuantity.read_eq_ok (r := ⟨quantity⟩).mpr hquantity
    exact Except.map_eq_ok.mpr ⟨_, hread, rfl⟩

theorem choice_eq_ok : choice.canonical (.object ms) = .ok c ↔
    ∃ ws, choice.Takes ms ws ∧ choice.Rule ws ∧ c = .object (choice.members ws) := by
  have hrule : ∀ us : List Uuid, choice.Rule [idsJson us] ↔ us ≠ [] := by
    intro us
    simp [Rule, idsJson]
  constructor
  · intro h
    obtain ⟨r, hread, rfl⟩ := Except.map_eq_ok.mp h
    obtain ⟨hvariants, hsome⟩ := Choice.read_eq_ok.mp hread
    refine ⟨[idsJson r.variants], .cons ?_ .nil, (hrule _).mpr hsome, rfl⟩
    exact (takes_required (fun _ => rfl) rfl).mpr ⟨_, hvariants, rfl⟩
  · rintro ⟨ws, htakes, hkeeps, rfl⟩
    simp only [Takes, fields, List.forall₂_cons_left_iff, List.forall₂_nil_left_iff] at htakes
    obtain ⟨_, _, hv, rfl, rfl⟩ := htakes
    obtain ⟨variants, hvariants, rfl⟩ := (takes_required (fun _ => rfl) rfl).mp hv
    have hread := Choice.read_eq_ok (r := ⟨variants⟩).mpr ⟨hvariants, (hrule _).mp hkeeps⟩
    exact Except.map_eq_ok.mpr ⟨_, hread, rfl⟩

/-- The values of a checkout. -/
def checkoutValues (f : CheckoutFields) : List Json :=
  [.text f.source.text, optionalJson Uuid.json f.variant, optionalJson .int f.quantity,
    optionalJson idsJson f.variants]

/-- The fields of a checkout keep the rule exactly when they fit together. -/
theorem rule_checkoutValues {f : CheckoutFields} :
    checkout.Rule (checkoutValues f) ↔ ∃ r : CheckoutRequest, r.fields = f := by
  have hsources : RawText.ofString "cart" ≠ RawText.ofString "product" := by decide
  obtain ⟨source, variant, quantity, variants⟩ := f
  constructor
  · rintro (⟨v, q, vs, hvalues, hv, hq⟩ | ⟨v, q, first, rest, hvalues⟩)
    · obtain ⟨hsource, hvalues⟩ := List.cons.inj hvalues
      obtain ⟨hvariant, hvalues⟩ := List.cons.inj hvalues
      obtain ⟨hquantity, -⟩ := List.cons.inj hvalues
      cases source with
      | cart => exact absurd (Json.text.inj hsource) hsources
      | product =>
          cases variant with
          | none => exact absurd hvariant.symm hv
          | some variant =>
              cases quantity with
              | none => exact absurd hquantity.symm hq
              | some quantity => exact ⟨.product variant quantity variants, rfl⟩
    · obtain ⟨hsource, hvalues⟩ := List.cons.inj hvalues
      obtain ⟨-, hvalues⟩ := List.cons.inj hvalues
      obtain ⟨-, hvalues⟩ := List.cons.inj hvalues
      obtain ⟨hvariants, -⟩ := List.cons.inj hvalues
      cases source with
      | product => exact absurd (Json.text.inj hsource).symm hsources
      | cart =>
          cases variants with
          | none => cases hvariants
          | some variants =>
              cases variants with
              | nil => cases hvariants
              | cons first rest => exact ⟨.cart variant quantity first rest, rfl⟩
  · rintro ⟨r, hr⟩
    cases r with
    | product variant quantity variants =>
        cases hr
        exact Or.inl ⟨_, _, _, rfl, nofun, nofun⟩
    | cart variant quantity first rest =>
        cases hr
        exact Or.inr ⟨_, _, _, _, rfl⟩

theorem checkout_eq_ok : checkout.canonical (.object ms) = .ok c ↔
    ∃ ws, checkout.Takes ms ws ∧ checkout.Rule ws ∧ c = .object (checkout.members ws) := by
  constructor
  · intro h
    obtain ⟨r, hread, rfl⟩ := Except.map_eq_ok.mp h
    have hfields := CheckoutRequest.read_eq_ok.mp hread
    obtain ⟨hsource, hvariant, hquantity, hvariants⟩ := CheckoutFields.read_eq_ok.mp hfields
    refine ⟨checkoutValues r.fields, ?_, rule_checkoutValues.mpr ⟨r, rfl⟩, rfl⟩
    refine .cons ?_ (.cons ?_ (.cons ?_ (.cons ?_ .nil)))
    · exact (takes_required (fun _ => rfl) rfl).mpr
        ⟨_, ⟨_, hsource, readSource_eq_ok.mpr rfl⟩, rfl⟩
    · exact (takes_optional (fun _ => rfl) rfl).mpr ⟨_, hvariant, rfl⟩
    · exact (takes_optional (fun _ => rfl) rfl).mpr ⟨_, hquantity, rfl⟩
    · exact (takes_optional (fun _ => rfl) rfl).mpr ⟨_, hvariants, rfl⟩
  · rintro ⟨ws, htakes, hkeeps, rfl⟩
    simp only [Takes, fields, List.forall₂_cons_left_iff, List.forall₂_nil_left_iff] at htakes
    obtain ⟨_, _, hs, ⟨_, _, hv, ⟨_, _, hq, ⟨_, _, hvs, rfl, rfl⟩, rfl⟩, rfl⟩, rfl⟩ := htakes
    obtain ⟨source, ⟨v, hget, hsource⟩, rfl⟩ := (takes_required (fun _ => rfl) rfl).mp hs
    obtain ⟨variant, hvariant, rfl⟩ := (takes_optional (fun _ => rfl) rfl).mp hv
    obtain ⟨quantity, hquantity, rfl⟩ := (takes_optional (fun _ => rfl) rfl).mp hq
    obtain ⟨variants, hvariants, rfl⟩ := (takes_optional (fun _ => rfl) rfl).mp hvs
    obtain rfl := readSource_eq_ok.mp hsource
    obtain ⟨r, hr⟩ := rule_checkoutValues (f := ⟨source, variant, quantity, variants⟩).mp hkeeps
    have hfields : CheckoutFields.read (.object ms) = .ok r.fields := by
      rw [hr]
      exact CheckoutFields.read_eq_ok.mpr ⟨hget, hvariant, hquantity, hvariants⟩
    refine Except.map_eq_ok.mpr ⟨r, CheckoutRequest.read_eq_ok.mpr hfields, ?_⟩
    rw [CheckoutRequest.json, hr]
    rfl

/-- A body is accepted when its fields come to values that keep the rule. -/
theorem canonical_eq_ok : k.canonical (.object ms) = .ok c ↔
    ∃ ws, k.Takes ms ws ∧ k.Rule ws ∧ c = .object (k.members ws) := by
  cases k with
  | newItem => exact newItem_eq_ok
  | newQuantity => exact newQuantity_eq_ok
  | choice => exact choice_eq_ok
  | checkout => exact checkout_eq_ok

/-! #### The canonical form -/

theorem nodup_names (k : Kind) : (k.fields.map fun f => RawText.ofString f.name).Nodup := by
  cases k <;> decide

/-- A body comes to what its own fields say. -/
theorem Takes.congr (h : k.Takes ms ws) (hsent : ∀ f ∈ k.fields, ms'.get? f.name = ms.get? f.name) :
    k.Takes ms' ws := by
  obtain ⟨hlength, htakes⟩ := List.forall₂_iff_zip.mp h
  refine List.forall₂_iff_zip.mpr ⟨hlength, fun {f w} hmem => ?_⟩
  rw [hsent f (List.of_mem_zip hmem).1]
  exact htakes hmem

theorem keys_members (h : k.fields.length = ws.length) :
    (k.members ws).map Prod.fst = k.fields.map fun f => RawText.ofString f.name := by
  have hfields : (k.fields.zip ws).map Prod.fst = k.fields := List.map_fst_zip h.le
  have hnames := congrArg (List.map fun f => RawText.ofString f.name) hfields
  rw [List.map_map] at hnames
  rw [Kind.members, List.map_map]
  exact hnames

theorem values_members (h : k.fields.length = ws.length) : (k.members ws).map Prod.snd = ws := by
  have hvalues : (k.fields.zip ws).map Prod.snd = ws := List.map_snd_zip h.ge
  rw [Kind.members, List.map_map]
  exact hvalues

/-- The values of a body come to themselves. -/
theorem Takes.members (h : k.Takes ms ws) : k.Takes (k.members ws) ws := by
  obtain ⟨hlength, htakes⟩ := List.forall₂_iff_zip.mp h
  refine List.forall₂_iff_zip.mpr ⟨hlength, fun {f w} hmem => ?_⟩
  have hget : (k.members ws).get? f.name = some w := by
    refine Keyed.get?_of_mem ?_ (List.mem_map.mpr ⟨(f, w), hmem, rfl⟩)
    rw [keys_members hlength]
    exact k.nodup_names
  rw [hget]
  exact (htakes hmem).canonical

/-- Two bodies come to the same values exactly when their fields carry the same. -/
theorem Takes.eq_iff_same (h : k.Takes ms ws) (h' : k.Takes ms' ws') :
    ws = ws' ↔ ∀ f ∈ k.fields, f.Same (ms.get? f.name) (ms'.get? f.name) := by
  unfold Takes at h h'
  generalize k.fields = fs at h h'
  induction h generalizing ws' with
  | nil =>
      cases h'
      simp
  | @cons f w fs ws hw _ ih =>
      cases h' with
      | cons hw' hws' =>
          rw [List.cons_eq_cons, hw.eq_iff_same hw', ih hws', List.forall_mem_cons]

/-- A value has the form that a kind of bodies is written back in: all of its fields in their
order, each in its canonical form. -/
def IsCanonical (k : Kind) (c : Json) : Prop :=
  ∃ ws, c = .object (k.members ws) ∧ List.Forall₂ Field.IsCanonical k.fields ws

/-- Two values carry the same in the fields of a kind of bodies. -/
def Same (k : Kind) (d d' : Json) : Prop :=
  ∀ f ∈ k.fields, f.Same (d.get? f.name) (d'.get? f.name)

/-- **A body that is accepted has one canonical form.**  The canonical form is accepted as it is.
It is told from the fields of the body alone, and of those from the digits of the identifiers and
the numbers that are written, however any of them is spelled. -/
theorem canonical_projects (h : k.canonical d = .ok c) :
    k.IsCanonical c ∧ k.canonical c = .ok c ∧
      (∀ ms, (∀ f ∈ k.fields, Json.Members.get? f.name ms = d.get? f.name) →
        k.canonical (.object ms) = .ok c) ∧
      ∀ d' c', k.canonical d' = .ok c' → (c = c' ↔ k.Same d d') := by
  obtain ⟨ms, rfl⟩ := exists_members h
  obtain ⟨ws, htakes, hkeeps, rfl⟩ := canonical_eq_ok.mp h
  refine ⟨⟨ws, rfl, htakes.imp fun _ _ hw => hw.isCanonical⟩, ?_, ?_, ?_⟩
  · exact canonical_eq_ok.mpr ⟨ws, htakes.members, hkeeps, rfl⟩
  · intro ms' hsent
    exact canonical_eq_ok.mpr ⟨ws, htakes.congr hsent, hkeeps, rfl⟩
  · intro d' c' h'
    obtain ⟨ms', rfl⟩ := exists_members h'
    obtain ⟨ws', htakes', -, rfl⟩ := canonical_eq_ok.mp h'
    refine Iff.trans ?_ (htakes.eq_iff_same htakes')
    constructor
    · intro hsame
      have hvalues := congrArg (List.map Prod.snd) (Json.object.inj hsame)
      rwa [values_members htakes.length_eq, values_members htakes'.length_eq] at hvalues
    · rintro rfl
      rfl

/-- A checkout with a field too many and everything spelled at length. -/
def loose : Json :=
  .record [("note", .text "a gift"), ("source", .text "product"), ("quantity", .text " +0_07.00 "),
    ("variant_id", .text "{0000000A-0000-0000-0000-00000000000B}"),
    ("variant_ids", .array [.text "urn:uuid:0000000c-0000-0000-0000-00000000000D"])]

/-- The same checkout in few characters. -/
def terse : Json :=
  .record [("variant_ids", .array [.text "0000000C00000000000000000000000d"]),
    ("variant_id", .text "0000000a00000000000000000000000B"),
    ("quantity", .real (.finite false 14 (-1))), ("source", .text "product")]

/-- The form that both are written back in. -/
def tidy : Json :=
  .record [("source", .text "product"),
    ("variant_id", .text "0000000a-0000-0000-0000-00000000000b"), ("quantity", .int 7),
    ("variant_ids", .array [.text "0000000c-0000-0000-0000-00000000000d"])]

theorem canonical_projects_loose :
    checkout.canonical loose = .ok tidy ∧ checkout.canonical terse = .ok tidy ∧
      checkout.Same loose terse ∧ checkout.IsCanonical tidy ∧ checkout.canonical tidy = .ok tidy ∧
      (∀ ms, (∀ f ∈ checkout.fields, Json.Members.get? f.name ms = loose.get? f.name) →
        checkout.canonical (.object ms) = .ok tidy) ∧
      ∀ d' c', checkout.canonical d' = .ok c' → (tidy = c' ↔ checkout.Same loose d') := by
  have hloose : checkout.canonical loose = .ok tidy := rfl
  have hterse : checkout.canonical terse = .ok tidy := rfl
  have hprojects := canonical_projects hloose
  exact ⟨hloose, hterse, (hprojects.2.2.2 terse tidy hterse).mp rfl, hprojects⟩

end Kind

end Intake

end Storefront
