/-
Pairs in order of first insertion.

Objects, log fields and counters are all lists of pairs in which a key occurs once.
Putting a value under a key that is there already keeps the place of the key and takes
the new value; otherwise the pair goes to the end.
-/

namespace Storefront.Keyed

variable {κ α β : Type}

/-- Puts a value under a key. -/
def put [BEq κ] (k : κ) (v : α) : List (κ × α) → List (κ × α)
  | [] => [(k, v)]
  | (k', v') :: rest => if k' == k then (k', v) :: rest else (k', v') :: put k v rest

/-- The value under a key. -/
def get? [BEq κ] (k : κ) : List (κ × α) → Option α
  | [] => none
  | (k', v) :: rest => if k' == k then some v else get? k rest

/-- The pairs of a list put one after another. -/
def ofPairs [BEq κ] (pairs : List (κ × α)) : List (κ × α) :=
  pairs.foldl (fun kept p => put p.1 p.2 kept) []

/-! ### What a put changes -/

theorem get?_put [BEq κ] [LawfulBEq κ] [DecidableEq κ] (k k' : κ) (v : α)
    (pairs : List (κ × α)) :
    get? k' (put k v pairs) = if k = k' then some v else get? k' pairs := by
  induction pairs with
  | nil => by_cases h : k = k' <;> simp [put, get?, h]
  | cons p rest ih =>
    obtain ⟨q, w⟩ := p
    by_cases hq : q = k <;> by_cases hk : k = k' <;> simp_all [put, get?]

/-- The keys after a put: unchanged when the key was there, longer by it when not. -/
theorem keys_put [BEq κ] [LawfulBEq κ] [DecidableEq κ] (k : κ) (v : α)
    (pairs : List (κ × α)) :
    (put k v pairs).map Prod.fst =
      if k ∈ pairs.map Prod.fst then pairs.map Prod.fst else pairs.map Prod.fst ++ [k] := by
  induction pairs with
  | nil => simp [put]
  | cons p rest ih =>
    obtain ⟨q, w⟩ := p
    by_cases hq : q = k
    · simp [put, hq]
    · have hne : ¬k = q := fun h => hq h.symm
      by_cases hm : k ∈ rest.map Prod.fst <;> simp_all [put]

/-- A key occurs once, whatever is put. -/
theorem nodup_keys_put [BEq κ] [LawfulBEq κ] [DecidableEq κ] {pairs : List (κ × α)}
    (h : (pairs.map Prod.fst).Nodup) (k : κ) (v : α) :
    ((put k v pairs).map Prod.fst).Nodup := by
  rw [keys_put]
  split
  · exact h
  · next hk =>
    rw [List.nodup_append]
    refine ⟨h, by simp, ?_⟩
    intro a ha b hb hab
    simp only [List.mem_singleton] at hb
    exact hk (by rw [← hb, ← hab]; exact ha)

/-! ### What is there -/

theorem get?_eq_none [BEq κ] [LawfulBEq κ] {k : κ} {pairs : List (κ × α)} :
    get? k pairs = none ↔ k ∉ pairs.map Prod.fst := by
  induction pairs with
  | nil => simp [get?]
  | cons p rest ih =>
    obtain ⟨k', v'⟩ := p
    by_cases hk : k' = k
    · simp [get?, hk]
    · have hk' : ¬k = k' := fun h => hk h.symm
      simp [get?, hk, hk', ih]

theorem mem_of_get? [BEq κ] [LawfulBEq κ] {k : κ} {v : α} {pairs : List (κ × α)}
    (h : get? k pairs = some v) : (k, v) ∈ pairs := by
  induction pairs with
  | nil => cases h
  | cons p rest ih =>
    obtain ⟨k', v'⟩ := p
    by_cases hk : k' = k
    · subst hk
      have hv : some v' = some v := by simpa [get?] using h
      rw [Option.some.inj hv]
      exact List.mem_cons_self
    · have hrest : get? k rest = some v := by simpa [get?, hk] using h
      exact List.mem_cons_of_mem _ (ih hrest)

theorem mem_put [BEq κ] [LawfulBEq κ] {k : κ} {v : α} {pairs : List (κ × α)} {p : κ × α}
    (h : p ∈ put k v pairs) : p ∈ pairs ∨ p = (k, v) := by
  induction pairs with
  | nil => exact Or.inr (List.mem_singleton.mp h)
  | cons q rest ih =>
    obtain ⟨k', v'⟩ := q
    by_cases hk : k' = k
    · have hput : p ∈ (k, v) :: rest := by simpa [put, hk] using h
      rcases List.mem_cons.mp hput with hp | hrest
      · exact Or.inr hp
      · exact Or.inl (List.mem_cons_of_mem _ hrest)
    · have hput : p ∈ (k', v') :: put k v rest := by simpa [put, hk] using h
      rcases List.mem_cons.mp hput with rfl | hrest
      · exact Or.inl List.mem_cons_self
      · exact (ih hrest).imp_left (List.mem_cons_of_mem _)

/-- What stands in front of the place of a key is not touched. -/
theorem put_append_of_notMem [BEq κ] [LawfulBEq κ] {k : κ} {v : α} {front pairs : List (κ × α)}
    (h : k ∉ front.map Prod.fst) : put k v (front ++ pairs) = front ++ put k v pairs := by
  induction front with
  | nil => rfl
  | cons p front ih =>
    obtain ⟨k', v'⟩ := p
    obtain ⟨hk, hks⟩ := not_or.mp (fun hmem => h (List.mem_cons.mpr hmem))
    have hne : (k' == k) = false := beq_eq_false_iff_ne.mpr (Ne.symm hk)
    rw [List.cons_append, put, hne, ih hks]
    rfl

/-! ### Pairs of different keys -/

theorem get?_of_mem [BEq κ] [LawfulBEq κ] {k : κ} {v : α} {pairs : List (κ × α)}
    (hnodup : (pairs.map Prod.fst).Nodup) (h : (k, v) ∈ pairs) : get? k pairs = some v := by
  induction pairs with
  | nil => cases h
  | cons p rest ih =>
    obtain ⟨k', v'⟩ := p
    obtain ⟨hfresh, hrest⟩ := List.nodup_cons.mp hnodup
    rcases List.mem_cons.mp h with heq | hmem
    · obtain ⟨rfl, rfl⟩ := Prod.mk.inj heq
      simp [get?]
    · have hne : ¬k' = k := by
        rintro rfl
        exact hfresh (List.mem_map.mpr ⟨_, hmem, rfl⟩)
      simp [get?, hne, ih hrest hmem]

/-- A key that is not there goes to the end. -/
theorem put_of_notMem [BEq κ] [LawfulBEq κ] {k : κ} {v : α} {pairs : List (κ × α)}
    (h : k ∉ pairs.map Prod.fst) : put k v pairs = pairs ++ [(k, v)] := by
  have hput : put k v (pairs ++ []) = pairs ++ put k v [] := put_append_of_notMem h
  rwa [List.append_nil] at hput

/-- Pairs of different keys are kept as they come. -/
theorem ofPairs_of_nodup [BEq κ] [LawfulBEq κ] {pairs : List (κ × α)}
    (h : (pairs.map Prod.fst).Nodup) : ofPairs pairs = pairs := by
  have hfold : ∀ kept rest : List (κ × α), ((kept ++ rest).map Prod.fst).Nodup →
      rest.foldl (fun kept p => put p.1 p.2 kept) kept = kept ++ rest := by
    intro kept rest hnodup
    induction rest generalizing kept with
    | nil => exact (List.append_nil kept).symm
    | cons p rest ih =>
      have hnew : p.1 ∉ kept.map Prod.fst := by
        intro hmem
        rw [List.map_append, List.map_cons] at hnodup
        exact (List.nodup_append.mp hnodup).2.2 p.1 hmem p.1 List.mem_cons_self rfl
      rw [List.foldl_cons, put_of_notMem hnew, ih]
      · rw [List.append_assoc]
        rfl
      · rw [List.append_assoc]
        exact hnodup
  exact hfold [] pairs h

end Storefront.Keyed
