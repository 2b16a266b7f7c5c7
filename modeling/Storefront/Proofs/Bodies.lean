/-
What the body of a request has to say.

Every field of a body is read whatever becomes of the others, so that one answer names all
problems.  When there are none, little of that is left: each field that has to be there is there
and reads as a value (`Holds`), and each field that may be missing is missing, is null, or reads
as a value (`MayHold`).  For each kind of body there is one equivalence between its reader and
its fields, and what uses a body uses that and no reader.

A quantity can be written in several ways (`Writes`).  All of them come down to an integer, and only
then does the range matter.
-/
import Storefront.Intake.Request
import Storefront.Proofs.Lifecycle

namespace Storefront

/-! ### Steps that may fail -/

section Steps

variable {ε ε' α β : Type}

@[simp]
theorem Except.pure_eq_ok {a b : α} : (pure a : Except ε α) = .ok b ↔ a = b := by
  simp [pure, Except.pure]

theorem Except.bind_eq_ok {x : Except ε α} {f : α → Except ε β} {b : β} :
    x >>= f = .ok b ↔ ∃ a, x = .ok a ∧ f a = .ok b := by
  cases x <;> simp [bind, Except.bind]

theorem Except.map_eq_ok {x : Except ε α} {f : α → β} {b : β} :
    x.map f = .ok b ↔ ∃ a, x = .ok a ∧ f a = b := by
  cases x <;> simp [Except.map]

theorem Except.mapError_eq_ok {x : Except ε α} {f : ε → ε'} {a : α} :
    x.mapError f = .ok a ↔ x = .ok a := by
  cases x <;> simp [mapError_ok, mapError_error]

theorem Except.toOption_eq_some {x : Except ε α} {a : α} : x.toOption = some a ↔ x = .ok a := by
  cases x <;> simp [Except.toOption]

end Steps

theorem Source.ofText?_eq_some {text : String} {x : Source} :
    ofText? text = some x ↔ text = x.text := by
  constructor
  · intro h
    unfold ofText? at h
    split at h
    · cases h; rfl
    · cases h; rfl
    · cases h
  · rintro rfl
    cases x <;> rfl

namespace Intake

variable {α : Type} {name : String} {read : Json → Checked α} {ms : Json.Members}

@[simp]
theorem Checked.fail_ne_ok {c : Complaint} {sent : Json} {a : α} : Checked.fail c sent ≠ .ok a := by
  simp [Checked.fail]

/-! ### Fields -/

/-- A field is there and reads as a value. -/
def Holds (ms : Json.Members) (name : String) (read : Json → Checked α) (a : α) : Prop :=
  ∃ v, ms.get? name = some v ∧ read v = .ok a

/-- A field is missing or null, or reads as a value. -/
def MayHold (ms : Json.Members) (name : String) (read : Json → Checked α) : Option α → Prop
  | none => ms.get? name = none ∨ ms.get? name = some .null
  | some a => Holds ms name read a

theorem required_eq_ok {a : α} : required name read ms = .ok a ↔ Holds ms name read a := by
  simp only [required, Checked.within, Except.mapError_eq_ok, Holds]
  cases ms.get? name <;> simp

/-- A field that may be null is one whose reader does not take null itself. -/
theorem optional_eq_ok (hnull : ∀ a, read .null ≠ .ok a) {o : Option α} :
    optional name read ms = .ok o ↔ MayHold ms name read o := by
  simp only [optional, Checked.within, Except.mapError_eq_ok]
  rcases hget : ms.get? name with _ | v
  · cases o <;> simp [MayHold, Holds, hget]
  · cases v <;> cases o <;> simp [MayHold, Holds, hget, hnull, Except.map_eq_ok]

theorem readChars_eq_ok {s : RawText} {cs : List Char} :
    readChars s = .ok cs ↔ s.chars? = some cs := by
  unfold readChars
  cases s.chars? <;> simp

/-- A source is written in one way only. -/
theorem readSource_eq_ok {v : Json} {x : Source} : readSource v = .ok x ↔ v = .text x.text := by
  constructor
  · intro h
    cases v with
    | text s =>
      simp only [readSource, Except.bind_eq_ok] at h
      obtain ⟨cs, hcs, hsource⟩ := h
      have htext : Source.ofText? (String.ofList cs) = some x := by
        cases hx : Source.ofText? (String.ofList cs) with
        | none => simp [hx] at hsource
        | some y => simpa [hx] using hsource
      rw [← RawText.ofChars_of_chars? (readChars_eq_ok.mp hcs), ← Source.ofText?_eq_some.mp htext,
        RawText.ofString, String.toList_ofList]
    | _ => simp [readSource] at h
  · rintro rfl
    cases x <;> rfl

theorem readSomeIds_eq_ok {v : Json} {us : List Uuid} :
    readSomeIds v = .ok us ↔ readIds v = .ok us ∧ us ≠ [] := by
  simp only [readSomeIds, Except.bind_eq_ok]
  constructor
  · rintro ⟨us', hread, hsome⟩
    cases us' with
    | nil => simp at hsome
    | cons u us' =>
      obtain rfl : u :: us' = us := by simpa using hsome
      exact ⟨hread, List.cons_ne_nil u us'⟩
  · rintro ⟨hread, hsome⟩
    refine ⟨us, hread, ?_⟩
    cases us with
    | nil => exact absurd rfl hsome
    | cons => rfl

/-! ### Quantities -/

/-- A value writes an integer: as one, as a truth value, as a number without a fraction or as a
text. -/
inductive Writes : Json → Int → Prop
  | int (n : Int) : Writes (.int n) n
  | bool (b : Bool) : Writes (.bool b) (if b then 1 else 0)
  | real {x : Number.Binary64} {n : Int} (h : x.toInt? = some n) : Writes (.real x) n
  | text {s : RawText} {cs : List Char} {n : Int} (hs : s.chars? = some cs)
      (h : Text.spelledInteger cs = .ok n) : Writes (.text s) n

theorem bounded_eq_ok {sent : Json} {m n : Int} :
    bounded sent m = .ok n ↔ m = n ∧ inRange n = true := by
  unfold bounded
  rw [inRange_iff]
  constructor
  · intro h
    split at h
    · cases h
    · split at h
      · cases h
      · obtain rfl := Except.ok.inj h
        exact ⟨rfl, by omega, by omega⟩
  · rintro ⟨rfl, hsmall, hlarge⟩
    rw [if_neg (by omega), if_neg (by omega)]

/-- A number without a fraction is read unless it is beyond all quantities. -/
theorem readReal_of_toInt? {x : Number.Binary64} {n : Int} (h : x.toInt? = some n) :
    readReal x = bounded (.real x) n ∨
      readReal x = .fail .integerSize (.real x) ∧ inRange n = false := by
  unfold readReal
  rw [h]
  by_cases hsize : -realLimit < n ∧ n < realLimit
  · exact Or.inl (if_pos hsize)
  · refine Or.inr ⟨if_neg hsize, ?_⟩
    rw [Bool.eq_false_iff]
    intro hrange
    rw [inRange_iff, maxQuantity] at hrange
    unfold realLimit at hsize
    omega

/-- What a value writes is what its reader holds against the bounds. -/
theorem readQuantity_of_writes {v : Json} {n : Int} (h : Writes v n) :
    readQuantity v = bounded v n ∨
      readQuantity v = .fail .integerSize v ∧ (∀ m, v ≠ .int m) ∧ inRange n = false := by
  cases h with
  | int n => exact Or.inl rfl
  | bool b => exact Or.inl rfl
  | real h =>
      rcases readReal_of_toInt? h with hread | ⟨hread, hout⟩
      · exact Or.inl hread
      · exact Or.inr ⟨hread, by simp, hout⟩
  | @text s cs n hs h =>
      have hspelled : readSpelled s = bounded (.text s) n := by
        simp only [readSpelled, readChars_eq_ok.mpr hs, bind, Except.bind, h]
      exact Or.inl hspelled

/-- Whatever is read as a quantity writes it. -/
theorem writes_of_readQuantity {v : Json} {n : Int} (h : readQuantity v = .ok n) : Writes v n := by
  cases v with
  | int m =>
      obtain ⟨rfl, -⟩ := bounded_eq_ok.mp h
      exact .int m
  | bool b =>
      obtain ⟨rfl, -⟩ := bounded_eq_ok.mp h
      exact .bool b
  | real x =>
      simp only [readQuantity, readReal] at h
      split at h
      · next m hm =>
        split at h
        · obtain ⟨rfl, -⟩ := bounded_eq_ok.mp h
          exact .real hm
        · cases h
      · cases h
  | text s =>
      simp only [readQuantity, readSpelled, Except.bind_eq_ok] at h
      obtain ⟨cs, hcs, h⟩ := h
      split at h
      · next m hm =>
        obtain ⟨rfl, -⟩ := bounded_eq_ok.mp h
        exact .text (readChars_eq_ok.mp hcs) hm
      · cases h
      · cases h
  | null | array _ | object _ => cases h

/-- A quantity is read from what writes it, if it is in range. -/
theorem readQuantity_eq_ok {v : Json} {n : Int} :
    readQuantity v = .ok n ↔ Writes v n ∧ inRange n = true := by
  constructor
  · intro h
    have hwrites := writes_of_readQuantity h
    refine ⟨hwrites, ?_⟩
    rcases readQuantity_of_writes hwrites with hread | ⟨hread, -⟩
    · exact (bounded_eq_ok.mp (hread.symm.trans h)).2
    · rw [hread] at h
      cases h
  · rintro ⟨hwrites, hrange⟩
    rcases readQuantity_of_writes hwrites with hread | ⟨-, -, hout⟩
    · rw [hread]
      exact bounded_eq_ok.mpr ⟨rfl, hrange⟩
    · rw [hout] at hrange
      cases hrange

/-! ### Bodies -/

theorem NewItem.read_eq_ok {r : NewItem} :
    NewItem.read (.object ms) = .ok r ↔
      Holds ms "product_id" readId r.product ∧ Holds ms "variant_id" readId r.variant ∧
        Holds ms "quantity" readQuantity r.quantity := by
  obtain ⟨product, variant, quantity⟩ := r
  simp only [NewItem.read, readObject, Checked.both_eq_ok, required_eq_ok, NewItem.mk.injEq]
  constructor
  · rintro ⟨p, _, hp, ⟨v, q, hv, hq, rfl⟩, rfl, rfl, rfl⟩
    exact ⟨hp, hv, hq⟩
  · rintro ⟨hp, hv, hq⟩
    exact ⟨product, (variant, quantity), hp, ⟨variant, quantity, hv, hq, rfl⟩, rfl, rfl, rfl⟩

theorem NewQuantity.read_eq_ok {r : NewQuantity} :
    NewQuantity.read (.object ms) = .ok r ↔ Holds ms "quantity" readQuantity r.quantity := by
  obtain ⟨quantity⟩ := r
  simp [NewQuantity.read, readObject, Except.map_eq_ok, required_eq_ok]

theorem Choice.read_eq_ok {r : Choice} :
    Choice.read (.object ms) = .ok r ↔
      Holds ms "variant_ids" readIds r.variants ∧ r.variants ≠ [] := by
  obtain ⟨variants⟩ := r
  simp only [Choice.read, readObject, Except.map_eq_ok, required_eq_ok, Holds,
    readSomeIds_eq_ok, Choice.mk.injEq]
  constructor
  · rintro ⟨_, ⟨v, hget, hread, hsome⟩, rfl⟩
    exact ⟨⟨v, hget, hread⟩, hsome⟩
  · rintro ⟨⟨v, hget, hread⟩, hsome⟩
    exact ⟨variants, ⟨v, hget, hread, hsome⟩, rfl⟩

theorem CheckoutFields.read_eq_ok {f : CheckoutFields} :
    CheckoutFields.read (.object ms) = .ok f ↔
      ms.get? "source" = some (.text f.source.text) ∧ MayHold ms "variant_id" readId f.variant ∧
        MayHold ms "quantity" readQuantity f.quantity ∧
          MayHold ms "variant_ids" readIds f.variants := by
  obtain ⟨source, variant, quantity, variants⟩ := f
  have hid : ∀ u, readId .null ≠ .ok u := by simp [readId]
  have hquantity : ∀ n, readQuantity .null ≠ .ok n := by simp [readQuantity]
  have hids : ∀ us, readIds .null ≠ .ok us := by simp [readIds]
  simp only [CheckoutFields.read, readObject, Checked.both_eq_ok, required_eq_ok,
    optional_eq_ok hid, optional_eq_ok hquantity, optional_eq_ok hids, Holds, readSource_eq_ok,
    CheckoutFields.mk.injEq]
  constructor
  · rintro ⟨s, _, ⟨_, hs, rfl⟩, ⟨v, _, hv, ⟨q, us, hq, hus, rfl⟩, rfl⟩, rfl, rfl, rfl, rfl⟩
    exact ⟨hs, hv, hq, hus⟩
  · rintro ⟨hs, hv, hq, hus⟩
    exact ⟨source, (variant, quantity, variants), ⟨_, hs, rfl⟩,
      ⟨variant, (quantity, variants), hv, ⟨quantity, variants, hq, hus, rfl⟩, rfl⟩,
      rfl, rfl, rfl, rfl⟩

namespace CheckoutRequest

theorem ofFields_eq_ok {f : CheckoutFields} {r : CheckoutRequest} :
    ofFields f = .ok r ↔ r.fields = f := by
  constructor
  · intro h
    unfold ofFields at h
    split at h <;> cases h <;> rfl
  · rintro rfl
    exact ofFields_fields r

/-- The fields of a checkout that is accepted fit together. -/
theorem read_eq_ok {r : CheckoutRequest} :
    CheckoutRequest.read (.object ms) = .ok r ↔
      CheckoutFields.read (.object ms) = .ok r.fields := by
  simp only [CheckoutRequest.read, Except.bind_eq_ok]
  constructor
  · rintro ⟨f, hread, hrule⟩
    cases hf : ofFields f with
    | error rule => simp [hf] at hrule
    | ok r' =>
      obtain rfl : r' = r := by simpa [hf] using hrule
      rw [hread, ofFields_eq_ok.mp hf]
  · intro hread
    refine ⟨r.fields, hread, ?_⟩
    rw [ofFields_fields]
    rfl

end CheckoutRequest

end Intake

end Storefront
