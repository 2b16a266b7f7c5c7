/-
What is left of a value in a log line.

A value is cut where it is too long, and so is everything that it is made of.  What is said of that
is said at every depth (`Json.Every`), and the induction on being said at every depth is the
induction on the value.

Cutting keeps the beginning of each text, list and object and cuts the parts that are kept in the
same way (`Begins`).  From this follow the bounds, and that a value within the bounds is left alone;
so to cut twice is to cut once.
-/
import Mathlib.Data.List.Nodup
import Mathlib.Data.List.Basic
import Storefront.Log.Record

namespace Storefront

/-! ### Parts -/

namespace Json

/-- The values that a value is made of. -/
def parts : Json → List Json
  | array items => items
  | object ms => ms.map Prod.snd
  | _ => []

/-- Something holds of a value and, at every depth, of what the value is made of. -/
inductive Every (p : Json → Prop) : Json → Prop
  | intro {v : Json} (here : p v) (below : ∀ w ∈ v.parts, Every p w) : Every p v

namespace Every

variable {p q : Json → Prop} {v : Json}

theorem here (h : v.Every p) : p v := by
  cases h with
  | intro here _ => exact here

theorem mono (h : v.Every p) (hpq : ∀ u, p u → q u) : v.Every q := by
  induction h with
  | intro here _ ih => exact .intro (hpq _ here) ih

theorem and (hp : v.Every p) (hq : v.Every q) : v.Every fun u => p u ∧ q u := by
  induction hp with
  | intro here _ ih =>
      cases hq with
      | intro here' below' => exact .intro ⟨here, here'⟩ fun w hw => ih w hw (below' w hw)

end Every

/-- No key occurs twice in a value. -/
def NoRepeats (v : Json) : Prop :=
  (v.members.map Prod.fst).Nodup

end Json

namespace Log

open Json

/-! ### Cutting -/

/-- What a log line has of a JSON value. -/
def logged (v : Json) : Json := written (.ofJson v)

theorem logged_eq (v : Json) : logged v = bounded v := by
  rw [logged, written, Value.plain_ofJson]

theorem logged_text (s : RawText) : logged (.text s) = .text (s.take maxText) := by
  rw [logged_eq, bounded]

theorem logged_array (items : List Json) :
    logged (.array items) = .array ((items.take maxItems).map logged) := by
  have hfunction : logged = bounded := funext logged_eq
  rw [logged_eq, bounded, boundedItems_eq, hfunction]

theorem logged_object {ms : Members} (h : (ms.map Prod.fst).Nodup) :
    logged (.object ms) = .object ((ms.take maxItems).map fun m => (m.1, logged m.2)) := by
  have hkeys : ((ms.take maxItems).map Prod.fst).Nodup := by
    rw [List.map_take]
    exact h.sublist (List.take_sublist _ _)
  have hfunction : logged = bounded := funext logged_eq
  rw [logged_eq, bounded, boundedMembers_eq, Keyed.ofPairs_of_nodup, hfunction]
  rwa [List.map_map]

/-- Whether a value is neither a text, nor a list, nor an object. -/
def isAtom : Json → Bool
  | .text _ | .array _ | .object _ => false
  | _ => true

theorem logged_atom {v : Json} (h : isAtom v = true) : logged v = v := by
  cases v with
  | null | bool b | int n | real x => rw [logged_eq]; rfl
  | text s | array items | object ms => cases h

/-- A value begins as another one does.  Of a text, a list or an object there is the beginning, as
long as the bounds allow, and of each part that is kept what a log line has of it; any other value
is the same. -/
def Begins (w : Json) : Json → Prop
  | .text s => ∃ kept, kept <+: s ∧ kept.length = min s.length maxText ∧ w = .text kept
  | .array items =>
    ∃ kept, kept <+: items ∧ kept.length = min items.length maxItems ∧ w = .array (kept.map logged)
  | .object ms =>
    ∃ kept, kept <+: ms ∧ kept.length = min ms.length maxItems ∧
      w = .object (kept.map fun m => (m.1, logged m.2))
  | v => w = v

theorem begins_logged {v : Json} (h : v.NoRepeats) : Begins (logged v) v := by
  cases v with
  | text s => exact ⟨_, List.take_prefix _ _, by rw [List.length_take, Nat.min_comm], logged_text s⟩
  | array items =>
      exact ⟨_, List.take_prefix _ _, by rw [List.length_take, Nat.min_comm], logged_array items⟩
  | object ms =>
      exact ⟨_, List.take_prefix _ _, by rw [List.length_take, Nat.min_comm], logged_object h⟩
  | null | bool b | int n | real x => exact logged_atom rfl

/-- The parts of what a line has are what it has of the first parts. -/
theorem parts_logged {v : Json} (h : v.NoRepeats) :
    (logged v).parts = (v.parts.take maxItems).map logged := by
  cases v with
  | array items => rw [logged_array, parts, parts]
  | object ms =>
      have hkeys : (ms.map Prod.fst).Nodup := h
      rw [logged_object hkeys, parts, parts, List.map_map, ← List.map_take, List.map_map]
      rfl
  | text s => rw [logged_text]; rfl
  | null | bool b | int n | real x => rw [logged_atom rfl]; rfl

/-- What holds of each value as a line has it holds of all of them at every depth. -/
theorem every_logged {p q : Json → Prop} (hrepeats : ∀ u, q u → u.NoRepeats)
    (hstep : ∀ u, q u → p (logged u)) {v : Json} (h : v.Every q) : (logged v).Every p := by
  induction h with
  | @intro v here _ ih =>
      refine .intro (hstep v here) fun w hw => ?_
      rw [parts_logged (hrepeats v here)] at hw
      obtain ⟨u, hu, rfl⟩ := List.mem_map.mp hw
      exact ih u (List.mem_of_mem_take hu)

theorem noRepeats_logged {v : Json} (h : v.NoRepeats) : (logged v).NoRepeats := by
  cases v with
  | object ms =>
      have h' : (ms.map Prod.fst).Nodup := h
      have hkeys : (((ms.take maxItems).map fun m => (m.1, logged m.2)).map Prod.fst).Nodup := by
        rw [List.map_map]
        exact h'.sublist ((List.take_sublist _ _).map Prod.fst)
      rwa [logged_object h']
  | array items => rw [logged_array]; exact List.nodup_nil
  | text s => rw [logged_text]; exact List.nodup_nil
  | null | bool b | int n | real x => rwa [logged_atom rfl]

/-! ### Bounds -/

/-- A value is within the bounds, whatever its parts are. -/
def Fits : Json → Prop
  | .text s => s.length ≤ maxText
  | .array items => items.length ≤ maxItems
  | .object ms => ms.length ≤ maxItems
  | _ => True

theorem fits_logged {v : Json} (h : v.NoRepeats) : Fits (logged v) := by
  have hbegins := begins_logged h
  cases v with
  | text s =>
      obtain ⟨kept, -, hlength, heq⟩ := hbegins
      rw [heq, Fits, hlength]
      exact Nat.min_le_right _ _
  | array items =>
      obtain ⟨kept, -, hlength, heq⟩ := hbegins
      rw [heq, Fits, List.length_map, hlength]
      exact Nat.min_le_right _ _
  | object ms =>
      obtain ⟨kept, -, hlength, heq⟩ := hbegins
      rw [heq, Fits, List.length_map, hlength]
      exact Nat.min_le_right _ _
  | null | bool b | int n | real x => rw [logged_atom rfl]; trivial

theorem logged_of_fits {v : Json} (h : v.Every fun u => u.NoRepeats ∧ Fits u) : logged v = v := by
  induction h with
  | @intro v here _ ih =>
      obtain ⟨hrepeats, hfits⟩ := here
      cases v with
      | text s => rw [logged_text, List.take_of_length_le hfits]
      | array items =>
          have hitems : items.map logged = items := List.map_congr_left ih |>.trans (List.map_id' _)
          rw [logged_array, List.take_of_length_le hfits, hitems]
      | object ms =>
          have hmembers : (ms.map fun m => (m.1, logged m.2)) = ms := by
            refine (List.map_congr_left fun m hm => ?_).trans (List.map_id' ms)
            rw [ih m.2 (List.mem_map_of_mem hm)]
          have hkeys : (ms.map Prod.fst).Nodup := hrepeats
          rw [logged_object hkeys, List.take_of_length_le hfits, hmembers]
      | null | bool b | int n | real x => exact logged_atom rfl

/-- **What a log line has of a value is within the bounds and is the beginning of it**, at every
depth.  A value within the bounds is left alone, and to cut twice is to cut once. -/
theorem logged_within_bounds {v : Json} (hv : v.Every NoRepeats) :
    (logged v).Every Fits ∧ (v.Every fun u => Begins (logged u) u) ∧
      logged (logged v) = logged v ∧ (v.Every Fits → logged v = v) := by
  have hfits : (logged v).Every Fits :=
    every_logged (fun _ hu => hu) (fun _ hu => fits_logged hu) hv
  have hrepeats : (logged v).Every NoRepeats :=
    every_logged (fun _ hu => hu) (fun _ hu => noRepeats_logged hu) hv
  refine ⟨hfits, hv.mono fun u hu => begins_logged hu, ?_, fun h => ?_⟩
  · exact logged_of_fits (hrepeats.and hfits)
  · exact logged_of_fits (hv.and h)

/-- Too many notes, each of them too long. -/
def notes : Json :=
  .array (List.replicate 150 (.object [("note", .text (List.replicate 2500 (.char 'a')))]))

theorem logged_within_bounds_notes :
    notes.Every NoRepeats ∧ (logged notes).Every Fits ∧
      (notes.Every fun u => Begins (logged u) u) ∧ logged (logged notes) = logged notes ∧
      (notes.Every Fits → logged notes = notes) := by
  have hrepeats : notes.Every NoRepeats := by
    refine .intro List.nodup_nil fun note hnote => ?_
    obtain rfl := List.eq_of_mem_replicate hnote
    refine .intro (List.nodup_singleton _) fun text htext => ?_
    obtain rfl := List.mem_singleton.mp htext
    exact .intro List.nodup_nil fun part hpart => absurd hpart List.not_mem_nil
  exact ⟨hrepeats, logged_within_bounds hrepeats⟩

end Log

end Storefront
