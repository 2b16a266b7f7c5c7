/-
The lines of a cart.

`Store.lines` filters a table, joins it with another one and sorts what comes out by the
place of an id in the request.  With unique keys this is one look-up for each distinct id,
in the order of the request: `ReadKeys.lines_eq`.  What the join has are these look-ups in some
order (`ReadKeys.perm_join`), and a sort by places that are different for different lines leaves
them in one order only, whatever order it finds them in (`arrange_eq_of_perm`).
-/
import Storefront.Proofs.Distinct
import Storefront.Proofs.Tables

namespace Storefront

/-! ### One line -/

/-- What is found by a test that one element passes at most is all that passes it. -/
theorem filter_eq_toList_find? {α : Type} {p : α → Bool} {l : List α}
    (h : (l.filter p).length ≤ 1) : l.filter p = (l.find? p).toList := by
  rw [← List.head?_filter]
  match hfilter : l.filter p with
  | [] => rfl
  | [a] => rfl
  | a :: b :: rest =>
      rw [hfilter] at h
      simp at h

namespace Store

variable {s : Store} {user variant : Uuid}

/-- How many of a variant are in the cart of a customer, if it is there. -/
def wanted? (s : Store) (user variant : Uuid) : Option Int :=
  ((s.holding? user variant).filter (·.active)).map (·.quantity.getD 0)

/-- The line of a variant for a customer, if it has a snapshot. -/
def line? (s : Store) (user variant : Uuid) : Option CartLine :=
  (s.snapshot? variant none).map fun x => ⟨x, (s.wanted? user variant).getD 0⟩

theorem line?_id {l : CartLine} (h : s.line? user variant = some l) :
    l.snapshot.variant.id = variant := by
  obtain ⟨x, hx, rfl⟩ := Option.map_eq_some_iff.mp h
  simpa using List.find?_some hx

theorem ReadKeys.quantities_eq (h : s.ReadKeys) (user variant : Uuid) :
    s.quantities user variant =
      (((s.row? user variant).filter (·.holding.active)).map (·.holding.quantity)).toList := by
  have hrow : s.rows.filter (·.isFor user variant) = (s.row? user variant).toList :=
    filter_eq_toList_find? (h.length_filter_le user variant)
  have hboth : (s.rows.filter fun r => r.isFor user variant && r.holding.active) =
      (s.row? user variant).toList.filter (·.holding.active) := by
    rw [← hrow, List.filter_filter]
    exact List.filter_congr fun r _ => Bool.and_comm ..
  rw [quantities, hboth]
  cases s.row? user variant with
  | none => rfl
  | some r => cases hactive : r.holding.active <;> simp [hactive, Option.filter]

/-- A snapshot is joined with one row at most, so it has one line. -/
theorem ReadKeys.joined_eq (h : s.ReadKeys) (user : Uuid) (x : Snapshot) :
    s.joined user x = [⟨x, (s.wanted? user x.variant.id).getD 0⟩] := by
  unfold joined
  rw [h.quantities_eq, wanted?, holding?]
  cases s.row? user x.variant.id with
  | none => rfl
  | some r => cases hactive : r.holding.active <;> simp [hactive, Option.filter]

/-! ### All lines -/

/-- Where nothing is asked for, there are no lines. -/
theorem lines_nil (s : Store) (user : Uuid) : s.lines user [] = [] := by
  simp [lines, distinct, distinctFrom]

/-- What the join of the snapshots of some variants with the rows of a customer has, in the
order of the tables. -/
def join (s : Store) (user : Uuid) (asked : List Uuid) : List CartLine :=
  (s.snapshots.filter fun x => asked.contains x.variant.id).flatMap (s.joined user)

/-- A snapshot of a variant that is asked for has the line of the variant. -/
theorem ReadKeys.mem_filterMap_line? (h : s.ReadKeys) {user : Uuid} {asked : List Uuid}
    {l : CartLine} :
    l ∈ asked.filterMap (s.line? user) ↔
      ∃ x ∈ s.snapshots, x.variant.id ∈ asked ∧
        ⟨x, (s.wanted? user x.variant.id).getD 0⟩ = l := by
  simp only [List.mem_filterMap, line?, Option.map_eq_some_iff]
  constructor
  · rintro ⟨id, hid, x, hx, rfl⟩
    obtain ⟨hmem, rfl⟩ := h.snapshot?_eq_some.mp hx
    exact ⟨x, hmem, hid, rfl⟩
  · rintro ⟨x, hmem, hid, rfl⟩
    exact ⟨x.variant.id, hid, x, h.snapshot?_eq_some.mpr ⟨hmem, rfl⟩, rfl⟩

/-- What the join has are the look-ups. -/
theorem ReadKeys.perm_join (h : s.ReadKeys) (user : Uuid) {asked : List Uuid}
    (hasked : asked.Nodup) : (s.join user asked).Perm (asked.filterMap (s.line? user)) := by
  have hjoined : s.joined user = fun x => [⟨x, (s.wanted? user x.variant.id).getD 0⟩] :=
    funext (h.joined_eq user)
  rw [join, hjoined, ← List.map_eq_flatMap]
  refine (List.perm_ext_iff_of_nodup ?_ ?_).mpr fun l => ?_
  · refine ((h.variants.of_map _).filter _).map ?_
    intro x x' hline
    exact congrArg CartLine.snapshot hline
  · refine hasked.filterMap ?_
    intro id id' l hl hl'
    exact (line?_id hl).symm.trans (line?_id hl')
  · rw [h.mem_filterMap_line?]
    simp only [List.mem_map, List.mem_filter, List.contains_iff_mem, and_assoc]

/-- The look-ups stand in the order of what is asked for. -/
theorem pairwise_filterMap_line? {user : Uuid} {asked : List Uuid} (hasked : asked.Nodup) :
    (asked.filterMap (s.line? user)).Pairwise fun a b =>
      asked.idxOf a.snapshot.variant.id < asked.idxOf b.snapshot.variant.id := by
  refine List.pairwise_filterMap.mpr ((pairwise_idxOf_of_nodup hasked).imp ?_)
  intro id id' hlt l hl l' hl'
  rw [line?_id hl, line?_id hl']
  exact hlt

end Store

/-- Some lines in the order in which their variants are asked for. -/
def arrange (asked : List Uuid) (lines : List CartLine) : List CartLine :=
  lines.mergeSort fun a b =>
    asked.idxOf a.snapshot.variant.id ≤ asked.idxOf b.snapshot.variant.id

/-- Lines at places of their own are arranged in one order, whichever they are found in. -/
theorem arrange_eq_of_perm {asked : List Uuid} {lines sorted : List CartLine}
    (hperm : lines.Perm sorted)
    (hsorted : sorted.Pairwise fun a b =>
      asked.idxOf a.snapshot.variant.id < asked.idxOf b.snapshot.variant.id) :
    arrange asked lines = sorted := by
  have hplaces : (sorted.map fun l => asked.idxOf l.snapshot.variant.id).Nodup :=
    List.pairwise_map.mpr (hsorted.imp Nat.ne_of_lt)
  refine List.Perm.eq_of_pairwise ?_ (List.pairwise_mergeSort ?_ ?_ _) (hsorted.imp ?_)
    ((List.mergeSort_perm _ _).trans hperm)
  · intro l l' hl hl' hle hle'
    have hmem : l ∈ sorted := hperm.mem_iff.mp (List.mem_mergeSort.mp hl)
    simp only [decide_eq_true_eq] at hle hle'
    exact List.inj_on_of_nodup_map hplaces hmem hl' (Nat.le_antisymm hle hle')
  · intro a b c hab hbc
    simp only [decide_eq_true_eq] at hab hbc ⊢
    omega
  · intro a b
    simp only [Bool.or_eq_true, decide_eq_true_eq]
    omega
  · intro a b hlt
    exact decide_eq_true (Nat.le_of_lt hlt)

namespace Store

variable {s : Store}

/-- **The lines of some variants are their look-ups**, one for each distinct id, in the
order of the request. -/
theorem ReadKeys.lines_eq (h : s.ReadKeys) (user : Uuid) (ids : List Uuid) :
    s.lines user ids = (distinct ids).filterMap (s.line? user) :=
  arrange_eq_of_perm (h.perm_join user nodup_distinct) (pairwise_filterMap_line? nodup_distinct)

end Store

end Storefront
