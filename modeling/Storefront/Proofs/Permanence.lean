/-
Cart rows are permanent and keep their place.

No change takes a row away or writes to its id, its time, its customer or its variant; a row
that is taken out of the cart stays as a tombstone, and putting it back brings the same row
back.  So tables grow: what was there stays where it is, and what is new stands behind it.
`Store.Grows` says this of two sets of tables; it holds over one happening, hence over a history.

Nothing is asked of the times of new rows, so in the listing of a customer they may stand
anywhere.  Yet a listing is a sort by what is never written to, so the old rows keep their order
in it (`Keys.sublist_variantsOf`).  What is in the cart of a customer at some point is a part of
the listing at that point, in its order, and so a part of every later listing.  Two parts of one
list without repetition agree on the order of what they share, and are equal where they have the
same members.
-/
import Storefront.Proofs.Carts
import Storefront.Proofs.RacingInserts
import Storefront.Proofs.WellFormed

namespace Storefront

/-! ### Parts of one list -/

section Parts

variable {α : Type} [DecidableEq α] {whole l l' : List α}

/-- Parts of a list without repetition are equal where they have the same members. -/
theorem eq_of_sublist_of_nodup (hwhole : whole.Nodup) (h : l.Sublist whole)
    (h' : l'.Sublist whole) (hmem : ∀ a, a ∈ l ↔ a ∈ l') : l = l' := by
  have hperm : l.Perm l' :=
    (List.perm_ext_iff_of_nodup (hwhole.sublist h) (hwhole.sublist h')).mpr hmem
  refine List.Perm.eq_of_pairwise ?_ ((pairwise_idxOf_of_nodup hwhole).sublist h)
    ((pairwise_idxOf_of_nodup hwhole).sublist h') hperm
  intro a b _ _ hab hba
  omega

/-- Parts of a list without repetition list what they share in one order. -/
theorem pair_sublist_iff_of_nodup (hwhole : whole.Nodup) (h : l.Sublist whole)
    (h' : l'.Sublist whole) {a b : α} (ha : a ∈ l) (hb : b ∈ l) (ha' : a ∈ l') (hb' : b ∈ l') :
    [a, b].Sublist l ↔ [a, b].Sublist l' := by
  have hshared : l.filter (· ∈ l') = l'.filter (· ∈ l) := by
    refine eq_of_sublist_of_nodup hwhole (List.filter_sublist.trans h)
      (List.filter_sublist.trans h') fun c => ?_
    simp only [List.mem_filter, decide_eq_true_eq]
    exact And.comm
  have hkept : ∀ {m m' : List α}, a ∈ m' → b ∈ m' →
      ([a, b].Sublist m ↔ [a, b].Sublist (m.filter (· ∈ m'))) := by
    intro m m' ham hbm
    refine ⟨fun hsub => ?_, fun hsub => hsub.trans List.filter_sublist⟩
    have hfilter := hsub.filter (· ∈ m')
    simpa [ham, hbm] using hfilter
  rw [hkept ha' hb', hshared, ← hkept ha hb]

end Parts

/-! ### Tables that grow -/

namespace Store

variable {s s' s'' : Store} {user : Uuid}

/-- The second tables have all rows of the first, with the same id, time, customer and variant
and in the same places. -/
def Grows (s s' : Store) : Prop :=
  s.rows.map (·.identity) <+: s'.rows.map (·.identity)

theorem Grows.of_rows_eq (h : s'.rows = s.rows) : s.Grows s' := by
  rw [Grows, h]

theorem Grows.refl (s : Store) : s.Grows s :=
  .of_rows_eq rfl

theorem Grows.trans (h : s.Grows s') (h' : s'.Grows s'') : s.Grows s'' :=
  List.IsPrefix.trans h h'

/-- Rows that are stored in order are listed as they are stored. -/
theorem listing_of_pairwise (h : s.rows.Pairwise fun a b => a.notAfter b = true) :
    s.listing = s.rows :=
  List.mergeSort_of_pairwise h

/-- A customer has no variant twice. -/
theorem Keys.nodup_variantsOf (h : s.Keys) (user : Uuid) : (s.variantsOf user).Nodup := by
  refine List.Nodup.map_on ?_ (h.nodup_listing.filter _)
  intro r hr r' hr' hvariant
  obtain ⟨hmem, huser⟩ := List.mem_filter.mp hr
  obtain ⟨hmem', huser'⟩ := List.mem_filter.mp hr'
  have hpair : r.pair = r'.pair :=
    Prod.ext ((beq_iff_eq.mp huser).trans (beq_iff_eq.mp huser').symm) hvariant
  exact List.inj_on_of_nodup_map h.pairs (mem_listing.mp hmem) (mem_listing.mp hmem') hpair

/-- What is never written to in the rows, in the order in which they are listed. -/
def listed (s : Store) : List (Nat × Int × Uuid × Uuid) :=
  s.listing.map (·.identity)

theorem Keys.nodup_listed (h : s.Keys) : s.listed.Nodup := by
  refine List.Nodup.map_on ?_ h.nodup_listing
  intro r hr r' hr' hidentity
  exact List.inj_on_of_nodup_map h.ids (mem_listing.mp hr) (mem_listing.mp hr')
    (congrArg Prod.fst hidentity)

theorem mem_listed {k : Nat × Int × Uuid × Uuid} :
    k ∈ s.listed ↔ k ∈ s.rows.map (·.identity) := by
  simp only [listed, List.mem_map, mem_listing]

/-- The order of a listing, in terms of what it is a sort by. -/
theorem pairwise_listed (s : Store) :
    s.listed.Pairwise fun a b => a.2.1 < b.2.1 ∨ a.2.1 = b.2.1 ∧ a.1 ≤ b.1 := by
  refine List.pairwise_map.mpr (s.pairwise_listing.imp fun h => ?_)
  simpa [CartRow.notAfter, CartRow.identity] using h

theorem variantsOf_eq_listed (s : Store) (user : Uuid) :
    s.variantsOf user = (s.listed.filter (·.2.2.1 == user)).map (·.2.2.2) := by
  rw [variantsOf, listed, List.filter_map, List.map_map]
  rfl

/-- Rows that were there before are listed in the order in which they were listed then. -/
theorem Grows.sublist_listed (h : s.Grows s') (hkeys : s.Keys) (hkeys' : s'.Keys) :
    s.listed.Sublist s'.listed := by
  have hmem : ∀ k, k ∈ s.listed ↔ k ∈ s'.listed.filter (· ∈ s.listed) := by
    intro k
    rw [List.mem_filter, decide_eq_true_iff]
    refine ⟨fun hk => ⟨?_, hk⟩, And.right⟩
    exact mem_listed.mpr (h.subset (mem_listed.mp hk))
  have hperm : s.listed.Perm (s'.listed.filter (· ∈ s.listed)) :=
    (List.perm_ext_iff_of_nodup hkeys.nodup_listed (hkeys'.nodup_listed.filter _)).mpr hmem
  have heq : s.listed = s'.listed.filter (· ∈ s.listed) := by
    refine List.Perm.eq_of_pairwise ?_ s.pairwise_listed (s'.pairwise_listed.filter _) hperm
    intro a b ha hb hab hba
    -- Neither is listed after the other, so they have one id, and ids are unique.
    have hid : a.1 = b.1 := by omega
    obtain ⟨r, hr, rfl⟩ := List.mem_map.mp (mem_listed.mp ha)
    obtain ⟨r', hr', rfl⟩ := List.mem_map.mp (mem_listed.mp ((hmem b).mpr hb))
    exact congrArg CartRow.identity (List.inj_on_of_nodup_map hkeys.ids hr hr' hid)
  rw [heq]
  exact List.filter_sublist

theorem Grows.sublist_variantsOf (h : s.Grows s') (hkeys : s.Keys) (hkeys' : s'.Keys)
    (user : Uuid) : (s.variantsOf user).Sublist (s'.variantsOf user) := by
  rw [variantsOf_eq_listed, variantsOf_eq_listed]
  exact ((h.sublist_listed hkeys hkeys').filter _).map _

/-- What is in a cart is a part of every later listing. -/
theorem Grows.activeIds_sublist (h : s.Grows s') (hkeys : s.Keys) (hkeys' : s'.Keys)
    (user : Uuid) : (s.activeIds user).Sublist (s'.variantsOf user) := by
  rw [hkeys.activeIds_eq]
  exact List.filter_sublist.trans (h.sublist_variantsOf hkeys hkeys' user)

end Store

theorem Mutation.grows_run (s : Store) (m : Mutation) (c : Conditions) :
    s.Grows (m.run c s).2 := by
  rcases m.run_cases c s with ⟨f, hrun⟩ | ⟨d, s', rows, -, happly, hrun⟩
  · rw [hrun]
    exact .refl s
  · rw [hrun]
    exact Store.prefix_apply happly

/-! ### Histories -/

namespace Shop

variable {s : Shop}

theorem keys_undergo (h : s.store.Keys) (happening : Happening) :
    (s.undergo happening).store.Keys := by
  cases happening with
  | request limit conditions call =>
      show (s.call limit conditions call).2.store.Keys
      rw [s.store_call]
      cases call with
      | mutate m => exact Mutation.keys_run h m conditions
      | list user => exact h
      | summary user variants => exact h
      | checkout o => exact h
  | moderation flags => exact ⟨h.variants, h.pairs, h.ids⟩
  | catalogue snapshots unique => exact ⟨unique, h.pairs, h.ids⟩

theorem grows_undergo (s : Shop) (happening : Happening) :
    s.store.Grows (s.undergo happening).store := by
  cases happening with
  | request limit conditions call =>
      show s.store.Grows (s.call limit conditions call).2.store
      rw [s.store_call]
      cases call with
      | mutate m => exact Mutation.grows_run s.store m conditions
      | list user => exact .of_rows_eq rfl
      | summary user variants => exact .of_rows_eq rfl
      | checkout o => exact .of_rows_eq rfl
  | moderation flags => exact .of_rows_eq rfl
  | catalogue snapshots unique => exact .of_rows_eq rfl

theorem keys_history (h : s.store.Keys) (history : List Happening) :
    (history.foldl undergo s).store.Keys := by
  induction history generalizing s with
  | nil => exact h
  | cons happening rest ih => exact ih (keys_undergo h happening)

theorem grows_history (s : Shop) (history : List Happening) :
    s.store.Grows (history.foldl undergo s).store := by
  induction history generalizing s with
  | nil => exact .refl _
  | cons happening rest ih =>
      exact (grows_undergo s happening).trans (ih (s.undergo happening))

/-- **Cart rows are permanent and keep their place.**  Whatever happens between two points of a
history, every row of the first is there at the second with its id, its time, its customer and
its variant.  Two variants that are in a cart at both points are listed in the same order at
both, and when the same variants are in the cart, what was taken out and put back included, they
are listed in the same places. -/
theorem rows_permanent (h : s.store.Keys) (past later : List Happening) :
    let before := (past.foldl undergo s).store
    let after := ((past ++ later).foldl undergo s).store
    before.rows.map (·.identity) <+: after.rows.map (·.identity) ∧
      ∀ user,
        (∀ v w, v ∈ before.activeIds user → w ∈ before.activeIds user →
          v ∈ after.activeIds user → w ∈ after.activeIds user →
          ([v, w].Sublist (before.activeIds user) ↔ [v, w].Sublist (after.activeIds user))) ∧
        ((∀ v, v ∈ before.activeIds user ↔ v ∈ after.activeIds user) →
          before.activeIds user = after.activeIds user) := by
  intro before after
  have hkeys : before.Keys := keys_history h past
  have hkeys' : after.Keys := keys_history h (past ++ later)
  have hgrows : before.Grows after := by
    show (past.foldl undergo s).store.Grows ((past ++ later).foldl undergo s).store
    rw [List.foldl_append]
    exact grows_history _ later
  refine ⟨hgrows, fun user => ?_⟩
  have hwhole := hkeys'.nodup_variantsOf user
  have hpart := hgrows.activeIds_sublist hkeys hkeys' user
  have hpart' := (Store.Grows.refl after).activeIds_sublist hkeys' hkeys' user
  constructor
  · intro v w hv hw hv' hw'
    exact pair_sublist_iff_of_nodup hwhole hpart hpart' hv hw hv' hw'
  · exact eq_of_sublist_of_nodup hwhole hpart hpart'

end Shop

namespace Corner

/-- The jam is put back. -/
def stocking : List Happening :=
  [.request 100 (.calm givens) (.mutate (.add user (.ofNat 5) jam 1))]

/-- The tea is taken out, the cart cannot be cleared, and the tea is put back. -/
def swap : List Happening :=
  [.request 100 (.calm givens) (.mutate (.remove user tea)),
    .request 100 ⟨false, some ⟨.commit, 0, .database .other "disk full"⟩, givens⟩
      (.mutate (.clear user)),
    .request 100 (.calm givens) (.mutate (.add user (.ofNat 5) tea 4))]

end Corner

/-- The tea comes before the jam in the cart of the corner shop, also when it has been taken out
and put back since. -/
theorem rows_permanent_corner :
    let before := (Corner.stocking.foldl Shop.undergo (.opened Corner.store)).store
    let after := ((Corner.stocking ++ Corner.swap).foldl Shop.undergo (.opened Corner.store)).store
    Corner.store.Keys ∧ after.holding? Corner.user Corner.tea = some (.inCart 4) ∧
      before.activeIds Corner.user = [Corner.tea, Corner.jam] ∧
      before.rows.map (·.identity) <+: after.rows.map (·.identity) ∧
      [Corner.tea, Corner.jam].Sublist (after.activeIds Corner.user) ∧
      before.activeIds Corner.user = after.activeIds Corner.user := by
  intro before after
  have hbefore : before.activeIds Corner.user = [Corner.tea, Corner.jam] := by
    rw [Store.activeIds, Store.listing_of_pairwise (by decide +kernel)]
    decide +kernel
  have hafter : after.activeIds Corner.user = [Corner.tea, Corner.jam] := by
    rw [Store.activeIds, Store.listing_of_pairwise (by decide +kernel)]
    decide +kernel
  obtain ⟨hrows, hplaces⟩ := Shop.rows_permanent (s := .opened Corner.store) Corner.keys_store
    Corner.stocking Corner.swap
  obtain ⟨horder, hsame⟩ := hplaces Corner.user
  have hmem : ∀ v, v ∈ before.activeIds Corner.user ↔ v ∈ after.activeIds Corner.user := by
    intro v
    rw [hbefore, hafter]
  have htea : Corner.tea ∈ before.activeIds Corner.user := by simp [hbefore]
  have hjam : Corner.jam ∈ before.activeIds Corner.user := by simp [hbefore]
  refine ⟨Corner.keys_store, by decide +kernel, hbefore, hrows, ?_, hsame hmem⟩
  exact (horder _ _ htea hjam ((hmem _).mp htea) ((hmem _).mp hjam)).mp (by rw [hbefore])

end Storefront
