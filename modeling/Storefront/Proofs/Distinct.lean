/-
Lists without repetition.

`distinct` keeps each element of a list where it occurs first.  It goes through the list with
the elements it has seen, and of those nothing matters but which they are
(`distinctFrom_congr`): so what is kept after some elements is what is kept without them, less
the ones that were among them (`distinctFrom_eq_filter`).

`FirstOccurrences` says what is to be kept without a word on how a list is gone through.  There is
never more than one list like that (`FirstOccurrences.unique`), so it is what `distinct` is.
-/
import Mathlib.Data.List.Nodup
import Storefront.Cart.Store

namespace Storefront

section Distinct

variable {α : Type} [DecidableEq α] {seen seen' as bs : List α} {a : α}

/-! ### With some elements seen before -/

theorem mem_distinctFrom : a ∈ distinctFrom seen as ↔ a ∈ as ∧ a ∉ seen := by
  induction as generalizing seen with
  | nil => simp [distinctFrom]
  | cons b rest ih =>
      by_cases hb : b ∈ seen
      · have hne : a ∉ seen → a ≠ b := fun ha heq => ha (heq ▸ hb)
        simp only [distinctFrom, if_pos hb, ih, List.mem_cons]
        constructor
        · rintro ⟨hrest, hseen⟩
          exact ⟨Or.inr hrest, hseen⟩
        · rintro ⟨heq | hrest, hseen⟩
          · exact absurd heq (hne hseen)
          · exact ⟨hrest, hseen⟩
      · simp only [distinctFrom, if_neg hb, List.mem_cons, ih, not_or]
        constructor
        · rintro (rfl | ⟨hrest, -, hseen⟩)
          · exact ⟨Or.inl rfl, hb⟩
          · exact ⟨Or.inr hrest, hseen⟩
        · rintro ⟨heq | hrest, hseen⟩
          · exact Or.inl heq
          · by_cases heq : a = b
            · exact Or.inl heq
            · exact Or.inr ⟨hrest, heq, hseen⟩

theorem nodup_distinctFrom : (distinctFrom seen as).Nodup := by
  induction as generalizing seen with
  | nil => exact List.nodup_nil
  | cons b rest ih =>
      unfold distinctFrom
      split
      · exact ih
      · refine List.nodup_cons.mpr ⟨?_, ih⟩
        intro hb
        exact (mem_distinctFrom.mp hb).2 (List.mem_cons_self ..)

/-- What is kept stands in the order of first occurrence. -/
theorem pairwise_distinctFrom :
    (distinctFrom seen as).Pairwise fun a b => as.idxOf a < as.idxOf b := by
  induction as generalizing seen with
  | nil => exact List.Pairwise.nil
  | cons b rest ih =>
      -- one more element in front moves all places but its own up by one
      have hlater : ∀ {seen}, b ∈ seen → (distinctFrom seen rest).Pairwise
          fun a a' => (b :: rest).idxOf a < (b :: rest).idxOf a' := by
        intro seen hb
        refine List.Pairwise.imp_of_mem ?_ ih
        intro a a' ha ha' hlt
        have hne : b ≠ a := fun heq => (mem_distinctFrom.mp ha).2 (heq ▸ hb)
        have hne' : b ≠ a' := fun heq => (mem_distinctFrom.mp ha').2 (heq ▸ hb)
        rw [List.idxOf_cons_ne _ hne, List.idxOf_cons_ne _ hne']
        omega
      unfold distinctFrom
      split
      · next hb => exact hlater hb
      · refine List.pairwise_cons.mpr ⟨?_, hlater (List.mem_cons_self ..)⟩
        intro a ha
        have hne : b ≠ a := by
          rintro rfl
          exact (mem_distinctFrom.mp ha).2 (List.mem_cons_self ..)
        rw [List.idxOf_cons_self, List.idxOf_cons_ne _ hne]
        omega

/-- It does not matter in which order the elements were seen, nor how often. -/
theorem distinctFrom_congr (h : ∀ a, a ∈ seen ↔ a ∈ seen') :
    distinctFrom seen as = distinctFrom seen' as := by
  induction as generalizing seen seen' with
  | nil => rfl
  | cons b rest ih =>
      have hcons : ∀ a, a ∈ b :: seen ↔ a ∈ b :: seen' := by
        intro a
        rw [List.mem_cons, List.mem_cons, h a]
      by_cases hb : b ∈ seen
      · rw [distinctFrom, distinctFrom, if_pos hb, if_pos ((h b).mp hb), ih h]
      · rw [distinctFrom, distinctFrom, if_neg hb, if_neg (mt (h b).mpr hb), ih hcons]

/-- The first part of a list has been seen when the second is gone through. -/
theorem distinctFrom_append :
    distinctFrom seen (as ++ bs) = distinctFrom seen as ++ distinctFrom (as ++ seen) bs := by
  induction as generalizing seen with
  | nil => rfl
  | cons b rest ih =>
      rw [List.cons_append, distinctFrom, distinctFrom]
      by_cases hb : b ∈ seen
      · have hsame : ∀ a, a ∈ rest ++ seen ↔ a ∈ b :: rest ++ seen := by
          intro a
          simp only [List.cons_append, List.mem_cons, List.mem_append]
          exact ⟨Or.inr, fun h => h.elim (fun heq => heq ▸ Or.inr hb) id⟩
        rw [if_pos hb, if_pos hb, ih, distinctFrom_congr hsame]
      · have hsame : ∀ a, a ∈ rest ++ b :: seen ↔ a ∈ b :: rest ++ seen := by
          intro a
          simp only [List.cons_append, List.mem_cons, List.mem_append]
          exact or_left_comm
        rw [if_neg hb, if_neg hb, ih, distinctFrom_congr hsame]
        rfl

/-- Elements that were seen before are those that are left out. -/
theorem filter_distinctFrom :
    (distinctFrom seen as).filter (· ∉ seen') = distinctFrom (seen' ++ seen) as := by
  induction as generalizing seen with
  | nil => rfl
  | cons b rest ih =>
      rw [distinctFrom, distinctFrom]
      by_cases hb : b ∈ seen
      · rw [if_pos hb, if_pos (List.mem_append.mpr (Or.inr hb)), ih]
      · rw [if_neg hb, List.filter_cons, ih]
        by_cases hb' : b ∈ seen'
        · have hsame : ∀ a, a ∈ seen' ++ b :: seen ↔ a ∈ seen' ++ seen := by
            intro a
            simp only [List.mem_append, List.mem_cons]
            exact ⟨fun h => h.elim Or.inl fun h => h.elim (fun heq => heq ▸ Or.inl hb') Or.inr,
              fun h => h.imp_right Or.inr⟩
          rw [if_pos (List.mem_append.mpr (Or.inl hb')), if_neg (by simpa using hb'),
            distinctFrom_congr hsame]
        · have hnew : b ∉ seen' ++ seen := fun h => (List.mem_append.mp h).elim hb' hb
          have hsame : ∀ a, a ∈ seen' ++ b :: seen ↔ a ∈ b :: (seen' ++ seen) := by
            intro a
            simp only [List.mem_append, List.mem_cons]
            exact or_left_comm
          rw [if_neg hnew, if_pos (by simpa using hb'), distinctFrom_congr hsame]

/-! ### With nothing seen before -/

theorem mem_distinct : a ∈ distinct as ↔ a ∈ as := by
  simp [distinct, mem_distinctFrom]

theorem nodup_distinct : (distinct as).Nodup :=
  nodup_distinctFrom

theorem pairwise_distinct : (distinct as).Pairwise fun a b => as.idxOf a < as.idxOf b :=
  pairwise_distinctFrom

theorem distinctFrom_eq_filter : distinctFrom seen as = (distinct as).filter (· ∉ seen) := by
  rw [distinct, filter_distinctFrom, List.append_nil]

theorem distinct_append : distinct (as ++ bs) = distinct as ++ (distinct bs).filter (· ∉ as) := by
  have hrest : distinctFrom (as ++ []) bs = (distinct bs).filter (· ∉ as) := by
    rw [List.append_nil, distinctFrom_eq_filter]
  rw [← hrest]
  exact distinctFrom_append

theorem distinct_append_of_disjoint (h : as.Disjoint bs) :
    distinct (as ++ bs) = distinct as ++ distinct bs := by
  have hkeep : ∀ b ∈ distinct bs, decide (b ∉ as) = true := by
    intro b hb
    exact decide_eq_true fun ha => h ha (mem_distinct.mp hb)
  rw [distinct_append, List.filter_eq_self.mpr hkeep]

theorem distinct_singleton (a : α) : distinct [a] = [a] := by
  simp [distinct, distinctFrom]

/-- One more element at the end is kept when it has not occurred before. -/
theorem distinct_concat :
    distinct (as ++ [a]) = if a ∈ as then distinct as else distinct as ++ [a] := by
  rw [distinct_append, distinct_singleton]
  by_cases ha : a ∈ as <;> simp [ha]

theorem perm_distinct (h : as.Perm bs) : (distinct as).Perm (distinct bs) := by
  refine (List.perm_ext_iff_of_nodup nodup_distinct nodup_distinct).mpr fun a => ?_
  rw [mem_distinct, mem_distinct, h.mem_iff]

/-! ### What is to be kept -/

/-- A list has the elements of another one, each once, as they first come up there. -/
structure FirstOccurrences (as kept : List α) : Prop where
  /-- No element is kept twice. -/
  nodup : kept.Nodup
  /-- What is kept is what the list has. -/
  mem_iff : ∀ a, a ∈ kept ↔ a ∈ as
  /-- What stands earlier does not first come up later. -/
  sorted : kept.Pairwise fun a b => as.idxOf a ≤ as.idxOf b

namespace FirstOccurrences

variable {kept kept' : List α}

/-- There is no more than one such list. -/
theorem unique (h : FirstOccurrences as kept) (h' : FirstOccurrences as kept') :
    kept = kept' := by
  have hperm : kept.Perm kept' :=
    (List.perm_ext_iff_of_nodup h.nodup h'.nodup).mpr fun a =>
      (h.mem_iff a).trans (h'.mem_iff a).symm
  -- no two elements first come up at one place, so the order leaves no choice
  refine hperm.eq_of_pairwise ?_ h.sorted h'.sorted
  intro a b ha _ hle hle'
  exact (List.idxOf_inj ((h.mem_iff a).mp ha)).mp (Nat.le_antisymm hle hle')

end FirstOccurrences

theorem firstOccurrences_distinct (as : List α) : FirstOccurrences as (distinct as) where
  nodup := nodup_distinct
  mem_iff _ := mem_distinct
  sorted := pairwise_distinct.imp Nat.le_of_lt

/-- Places in a list without repetition stand in their order. -/
theorem pairwise_idxOf_of_nodup (h : as.Nodup) :
    as.Pairwise fun a b => as.idxOf a < as.idxOf b := by
  rw [List.pairwise_iff_getElem]
  intro i j hi hj hij
  rw [h.idxOf_getElem, h.idxOf_getElem]
  exact hij

/-- A list in which nothing is repeated stays as it is. -/
theorem distinct_of_nodup (h : as.Nodup) : distinct as = as := by
  have hself : FirstOccurrences as as :=
    ⟨h, fun _ => Iff.rfl, (pairwise_idxOf_of_nodup h).imp Nat.le_of_lt⟩
  exact (firstOccurrences_distinct as).unique hself

/-- **Of a list that repeats elements each is kept where it occurs first.**  What is kept has no
repetition, has the elements of the list and has them in the order of their first occurrences, and
it is the only list of that kind.  Going through what is kept once more changes nothing.  A list
that follows adds what is kept of it, less what the first one has. -/
theorem distinct_keeps_firstOccurrences (as : List α) :
    (∀ kept, distinct as = kept ↔ FirstOccurrences as kept) ∧
      distinct (distinct as) = distinct as ∧
        ∀ bs, distinct (as ++ bs) = distinct as ++ (distinct bs).filter (· ∉ as) := by
  have hfirst := firstOccurrences_distinct as
  refine ⟨fun kept => ⟨?_, hfirst.unique⟩, distinct_of_nodup nodup_distinct, fun bs => ?_⟩
  · rintro rfl
    exact hfirst
  · exact distinct_append

example : distinct [2, 0, 2, 1, 0] = [2, 0, 1] := rfl

end Distinct

end Storefront
