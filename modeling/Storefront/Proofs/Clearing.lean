/-
Clearing a cart is taking everything out of it.

A clear is one statement that writes every row of a customer and looks at none of them.  A removal
looks its row up, asks whether the step is legal, and writes by the id of the row.  Both leave the
same tables as a write of tombstones to a class of rows: the clear to the class of the customer's
rows (`Mutation.run_clear`), the removal to the class of one pair (`Mutation.run_remove`).  Writes
of tombstones to several classes are one write to all of them (`Store.buried_buried`), so removals
in any order leave the tables that a write to the pairs of their variants leaves.  What this class
lacks of the customer's rows is not in the cart, and holds a tombstone already.

Neither mutation reads a snapshot, so nothing is assumed of the snapshots here, and of the keys only
the two that are about rows.
-/
import Storefront.Proofs.CartViews
import Storefront.Proofs.Permanence
import Storefront.Proofs.RowMachine
import Storefront.Proofs.WellFormed

namespace Storefront

namespace Store

variable {s : Store} {user variant : Uuid}

/-! ### Rows with unique keys -/

/-- What the database keeps unique of the rows. -/
structure RowKeys (s : Store) : Prop where
  /-- One row for each customer and variant. -/
  pairs : (s.rows.map (·.pair)).Nodup
  /-- The id is the primary key of the rows. -/
  ids : (s.rows.map (·.id)).Nodup

/-- Without its snapshots, a set of tables has all keys. -/
theorem RowKeys.keys (h : s.RowKeys) : Keys { s with snapshots := [] } :=
  ⟨List.nodup_nil, h.pairs, h.ids⟩

theorem RowKeys.row?_eq_some (h : s.RowKeys) {r : CartRow} :
    s.row? user variant = some r ↔ r ∈ s.rows ∧ r.pair = (user, variant) :=
  h.keys.row?_eq_some

/-- The row of a customer and a variant is in the cart. -/
def HasActive (s : Store) (user variant : Uuid) : Prop :=
  ∃ r, s.row? user variant = some r ∧ r.holding.active = true

theorem RowKeys.mem_activeIds (h : s.RowKeys) :
    variant ∈ s.activeIds user ↔ s.HasActive user variant := by
  simp only [activeIds, listing, List.mem_map, List.mem_filter, List.mem_mergeSort,
    Bool.and_eq_true, beq_iff_eq, HasActive, h.row?_eq_some]
  constructor
  · rintro ⟨r, ⟨hr, rfl, hactive⟩, rfl⟩
    exact ⟨r, ⟨hr, rfl⟩, hactive⟩
  · rintro ⟨r, ⟨hr, hpair⟩, hactive⟩
    obtain ⟨rfl, rfl⟩ := Prod.mk.inj hpair
    exact ⟨r, ⟨hr, rfl, hactive⟩, rfl⟩

theorem RowKeys.nodup_activeIds (h : s.RowKeys) (user : Uuid) : (s.activeIds user).Nodup := by
  have hpart := (Grows.refl { s with snapshots := [] }).activeIds_sublist h.keys h.keys user
  exact (h.keys.nodup_variantsOf user).sublist hpart

/-! ### Tombstones in place of rows -/

/-- The tables with tombstones in place of the rows of a class. -/
def buried (s : Store) (p : CartRow → Bool) : Store :=
  s.overwrite p fun _ => .tombstone

/-- Writes to rows are told apart by what becomes of each row. -/
theorem overwrite_congr {p q : CartRow → Bool} {f g : Holding → Holding}
    (h : ∀ r ∈ s.rows, (if p r then { r with holding := f r.holding } else r) =
      if q r then { r with holding := g r.holding } else r) :
    s.overwrite p f = s.overwrite q g := by
  rw [overwrite, overwrite, List.map_congr_left h]

theorem RowKeys.buried (h : s.RowKeys) (p : CartRow → Bool) : (s.buried p).RowKeys where
  pairs := by
    rw [Store.buried, map_rows_overwrite s p _ _ fun _ _ => rfl]
    exact h.pairs
  ids := by
    rw [Store.buried, map_rows_overwrite s p _ _ fun _ _ => rfl]
    exact h.ids

/-- A write by the id of a row that was found is a write to the row of its pair. -/
theorem RowKeys.overwrite_id (h : s.RowKeys) {r : CartRow}
    (hr : s.row? user variant = some r) :
    s.overwrite (·.id == r.id) (r.holding.changes .tombstone).write =
      s.buried (·.isFor user variant) := by
  obtain ⟨hmem, hpair⟩ := h.row?_eq_some.mp hr
  refine overwrite_congr fun r' hr' => ?_
  by_cases hsame : r' = r
  · subst hsame
    simp [hpair, Holding.write_changes]
  · have hid : r'.id ≠ r.id := fun hid => hsame (List.inj_on_of_nodup_map h.ids hr' hmem hid)
    have hpair' : r'.pair ≠ (user, variant) := fun hpair' =>
      hsame (List.inj_on_of_nodup_map h.pairs hr' hmem (hpair'.trans hpair.symm))
    simp [hid, hpair']

/-- A class of rows that does not depend on what the rows hold. -/
def Lasting (p : CartRow → Bool) : Prop :=
  ∀ r holding, p { r with holding := holding } = p r

/-- Tombstones for one class after another are tombstones for both. -/
theorem buried_buried (s : Store) (p : CartRow → Bool) {q : CartRow → Bool} (hq : Lasting q) :
    (s.buried p).buried q = s.buried fun r => p r || q r := by
  simp only [Store.buried, overwrite, List.map_map]
  congr 1
  refine List.map_congr_left fun r _ => ?_
  cases hp : p r <;> cases hqr : q r <;> simp [hp, hqr, hq r]

/-- A row outside the class is found as before. -/
theorem HasActive.buried (h : s.HasActive user variant) {p : CartRow → Bool}
    (hp : ∀ r : CartRow, r.pair = (user, variant) → p r = false) :
    (s.buried p).HasActive user variant := by
  obtain ⟨r, hr, hactive⟩ := h
  refine ⟨r, ?_, hactive⟩
  rw [Store.buried, row?_overwrite, hr, Option.map_some, hp r (row?_pair hr)]
  rfl

end Store

/-! ### The two mutations -/

namespace Mutation

variable {s : Store} {givens : Givens} {user variant : Uuid}

/-- Where nothing is held against a mutation, it makes the change that it decides on. -/
theorem run_of_decision {m : Mutation} (hadmits : s.admits m = true) {d : Decision}
    (hdecision : m.decision.eval s.view = .ok d) {s' : Store} {rows : Nat}
    (happly : s.apply givens d.change = .ok (s', rows)) :
    m.run (.calm givens) s = (.ok ⟨d.status, rows⟩, s') := by
  have hplan := m.eval_plan (.calm givens) s
  rw [Conditions.view_calm, Store.objection?_eq_none.mpr hadmits] at hplan
  rw [run_calm, hplan]
  simp only [hdecision, happly]

theorem run_clear (hserves : s.serves user = true) :
    (clear user).run (.calm givens) s =
      (.ok ⟨.cleared, s.rows.countP (·.user == user)⟩, s.buried (·.user == user)) :=
  run_of_decision (m := clear user) (d := ⟨.clear user, .cleared⟩) hserves rfl rfl

theorem run_remove (h : s.RowKeys) (hserves : s.serves user = true)
    (hactive : s.HasActive user variant) :
    ∃ rows, (remove user variant).run (.calm givens) s =
      (.ok ⟨.removed, rows⟩, s.buried (·.isFor user variant)) := by
  obtain ⟨r, hr, hinCart⟩ := hactive
  have htake : Step.remove.take ((s.row? user variant).map (·.holding)) =
      (.ok .removed, some .tombstone) := by
    rw [hr, Step.take_eq_ok]
    refine ⟨?_, rfl⟩
    simp only [Option.map_some, Holding.state, hinCart]
    rfl
  have hdecision : (remove user variant).decision.eval s.view =
      .ok ⟨.write r.id (r.holding.changes .tombstone), .removed⟩ := by
    have hview : s.view (.row user variant) = s.row? user variant := rfl
    show (decideStep user variant .remove).eval s.view = _
    rw [eval_decideStep, hview, htake, hr]
    rfl
  refine ⟨s.rows.countP (·.id == r.id),
    run_of_decision (m := remove user variant) hserves hdecision ?_⟩
  rw [← h.overwrite_id hr]
  rfl

end Mutation

/-! ### Removals one after another -/

namespace Shop

variable {s : Shop} {user : Uuid} {limit : Int}

/-- The shop that some requests leave, with nothing in the way of them. -/
def leave (s : Shop) (limit : Int) (calls : List (Givens × Call)) : Shop :=
  calls.foldl (fun s posed => (s.serveOne limit posed.1 posed.2).after) s

/-- Requests that each take a variant out of a cart, with what each of them is given. -/
def removals (user : Uuid) (given : Uuid → Givens) (variants : List Uuid) : List (Givens × Call) :=
  variants.map fun variant => (given variant, .mutate (.remove user variant))

theorem serveOne_mutate_of_run {givens : Givens} {m : Mutation} {done : Written} {store : Store}
    (h : m.run (.calm givens) s.store = (.ok done, store)) (limit : Int) :
    (s.serveOne limit givens (.mutate m)).outcome.result = .ok (.report (m.report done.status)) ∧
      (s.serveOne limit givens (.mutate m)).after.store = store := by
  constructor
  · show (s.mutate (.calm givens) m).1.result.map Answer.report = _
    rw [s.result_mutate, h]
    rfl
  · show (s.mutate (.calm givens) m).2.store = _
    rw [s.store_mutate, h]

/-- The removals of different variants that are in a cart all succeed, and leave tombstones in the
rows of these variants.  The induction is on the variants; what it generalises is the shop, whose
other rows the first removal leaves as they were. -/
theorem serve_removals (limit : Int) (given : Uuid → Givens) {variants : List Uuid}
    (h : s.store.RowKeys) (hserves : s.store.serves user = true) (hnodup : variants.Nodup)
    (hactive : ∀ variant ∈ variants, s.store.HasActive user variant) :
    (s.serve limit (removals user given variants)).map (·.outcome.result) =
        variants.map (fun variant => .ok (.report ⟨some variant, none, .removed⟩)) ∧
      (s.leave limit (removals user given variants)).store =
        s.store.buried fun r => variants.any (r.isFor user) := by
  induction variants generalizing s with
  | nil =>
      refine ⟨rfl, ?_⟩
      simp [leave, removals, Store.buried, Store.overwrite]
  | cons variant rest ih =>
      obtain ⟨hnew, hrest⟩ := List.nodup_cons.mp hnodup
      obtain ⟨rows, hrun⟩ := Mutation.run_remove h hserves (hactive variant (List.mem_cons_self ..))
      obtain ⟨hresult, hstore⟩ := serveOne_mutate_of_run hrun limit
      have hserves' : (s.store.buried (·.isFor user variant)).serves user = true := hserves
      have hkept : ∀ other ∈ rest,
          (s.store.buried (·.isFor user variant)).HasActive user other := by
        intro other hother
        refine (hactive other (List.mem_cons_of_mem _ hother)).buried fun r hr => ?_
        have hne : variant ≠ other := fun heq => hnew (heq ▸ hother)
        simp [CartRow.isFor, (Prod.mk.inj hr).1, (Prod.mk.inj hr).2, hne.symm]
      rw [← hstore] at hkept hserves'
      obtain ⟨hresults, hleft⟩ := ih (hstore ▸ h.buried _) hserves' hrest hkept
      refine ⟨congrArg₂ List.cons hresult hresults, hleft.trans ?_⟩
      rw [hstore, Store.buried_buried _ _ fun _ _ => rfl]
      simp only [List.any_cons]

end Shop

/-! ### Clearing -/

namespace Store

variable {s : Store} {user : Uuid}

/-- Tombstones in place of what is in a cart are tombstones in place of all rows of the customer:
the others hold tombstones already. -/
theorem buried_activeIds (h : s.RowKeys) (hsound : s.SoundRows) {variants : List Uuid}
    (hvariants : ∀ variant, variant ∈ variants ↔ variant ∈ s.activeIds user) :
    (s.buried fun r => variants.any (r.isFor user)) = s.buried (·.user == user) := by
  refine overwrite_congr fun r hr => ?_
  have hclass :
      variants.any (r.isFor user) = (r.user == user && decide (r.variant ∈ variants)) := by
    rw [Bool.eq_iff_iff, List.any_eq_true]
    simp only [CartRow.isFor, Bool.and_eq_true, beq_iff_eq, decide_eq_true_eq]
    constructor
    · rintro ⟨v, hv, huser, rfl⟩
      exact ⟨huser, hv⟩
    · rintro ⟨huser, hv⟩
      exact ⟨_, hv, huser, rfl⟩
  by_cases huser : r.user = user
  · subst huser
    by_cases hmem : r.variant ∈ variants
    · simp [hclass, hmem]
    · -- A row of the customer's outside the class is not in the cart, so it is a tombstone.
      have hout : r.holding = .tombstone := by
        rcases hsound r hr with ⟨hactive, -⟩ | ⟨hactive, hquantity⟩
        · have hrow : s.row? r.user r.variant = some r := h.row?_eq_some.mpr ⟨hr, rfl⟩
          exact absurd ((hvariants _).mpr (h.mem_activeIds.mpr ⟨r, hrow, hactive⟩)) hmem
        · exact congrArg₂ Holding.mk hactive hquantity
      simp [hclass, hmem, ← hout]
  · simp [hclass, huser]

/-- A cart that was cleared is empty. -/
theorem activeIds_buried (h : s.RowKeys) (user : Uuid) :
    (s.buried (·.user == user)).activeIds user = [] := by
  refine List.eq_nil_iff_forall_not_mem.mpr fun variant hmem => ?_
  obtain ⟨r, hr, hactive⟩ := (h.buried _).mem_activeIds.mp hmem
  rw [buried, row?_overwrite] at hr
  obtain ⟨old, hold, rfl⟩ := Option.map_eq_some_iff.mp hr
  have huser : old.user = user := (Prod.mk.inj (row?_pair hold)).1
  simp [huser, Holding.tombstone] at hactive

end Store

namespace Shop

variable {s : Shop} {user : Uuid}

/-- A customer with an empty cart is shown an empty bundle. -/
theorem result_list_of_activeIds_eq_nil (hserves : s.store.serves user = true)
    (hempty : s.store.activeIds user = []) (limit : Int) (givens : Givens) :
    (s.serveOne limit givens (.list user)).outcome.result = .ok (.bundle .empty) := by
  have hbundle : s.store.bundle user [] = .empty := by
    rw [Store.bundle, s.store.lines_nil]
    rfl
  rw [← hbundle, ← hempty]
  exact result_list hserves limit givens

/-- **Clearing a cart is taking everything out of it.**  For a customer who is served, the removals
of what is in the cart, in any order and whatever the catalogue says of it, all succeed and leave
the tables that clearing the cart leaves.  Clearing it once more has the same answer and changes
nothing, and the cart is then shown as an empty bundle. -/
theorem clear_eq_removals (h : s.store.RowKeys) (hsound : s.store.SoundRows)
    (hserves : s.store.serves user = true) {variants : List Uuid}
    (hvariants : variants.Perm (s.store.activeIds user)) (limit : Int) (given : Uuid → Givens)
    (g g' k : Givens) :
    let cleared := s.serveOne limit g (.mutate (.clear user))
    let again := cleared.after.serveOne limit g' (.mutate (.clear user))
    cleared.outcome.result = .ok (.report ⟨none, none, .cleared⟩) ∧
      (s.serve limit (removals user given variants)).map (·.outcome.result) =
        variants.map (fun variant => .ok (.report ⟨some variant, none, .removed⟩)) ∧
      (s.leave limit (removals user given variants)).store = cleared.after.store ∧
      again.outcome.result = cleared.outcome.result ∧
      again.after.store = cleared.after.store ∧
      (again.after.serveOne limit k (.list user)).outcome.result = .ok (.bundle .empty) := by
  intro cleared again
  obtain ⟨hresult, hstore⟩ := serveOne_mutate_of_run (Mutation.run_clear hserves) limit
  obtain ⟨hresults, hleft⟩ := serve_removals limit given h hserves
    (hvariants.nodup_iff.mpr (h.nodup_activeIds user)) fun variant hvariant =>
      h.mem_activeIds.mp (hvariants.mem_iff.mp hvariant)
  rw [Store.buried_activeIds h hsound fun _ => hvariants.mem_iff] at hleft
  have hserves' : cleared.after.store.serves user = true := by
    rw [show cleared.after.store = _ from hstore]
    exact hserves
  obtain ⟨hresult', hstore'⟩ := serveOne_mutate_of_run (Mutation.run_clear hserves') limit
  have hsame : again.after.store = cleared.after.store := by
    rw [show again.after.store = _ from hstore', show cleared.after.store = _ from hstore,
      Store.buried_buried _ _ fun _ _ => rfl]
    simp only [Bool.or_self]
  refine ⟨hresult, hresults, hleft.trans hstore.symm, hresult'.trans hresult.symm, hsame, ?_⟩
  refine result_list_of_activeIds_eq_nil ?_ ?_ limit k
  · rw [hsame]
    exact hserves'
  · rw [hsame, show cleared.after.store = _ from hstore]
    exact Store.activeIds_buried h user

end Shop

namespace Corner

/-- The shop after it has dropped its catalogue, with tea and jam left in the cart. -/
def droppedStore : Store where
  customers := store.customers
  snapshots := []
  rows := [⟨0, 1, user, tea, .inCart 2⟩, ⟨1, 2, user, jam, .inCart 3⟩]

theorem rowKeys_droppedStore : droppedStore.RowKeys := ⟨by decide, by decide⟩

theorem soundRows_droppedStore : droppedStore.SoundRows := by
  intro r hr
  simp only [droppedStore, List.mem_cons, List.not_mem_nil, or_false] at hr
  rcases hr with rfl | rfl
  · exact Holding.sound_inCart (by decide)
  · exact Holding.sound_inCart (by decide)

theorem activeIds_droppedStore : droppedStore.activeIds user = [tea, jam] := by
  rw [Store.activeIds, Store.listing_of_pairwise (by decide +kernel)]
  decide +kernel

end Corner

/-- Jam and tea that the corner shop no longer sells are taken out one by one or all at once. -/
theorem clear_eq_removals_corner :
    let s := Shop.opened Corner.droppedStore
    let variants := [Corner.jam, Corner.tea]
    let given := fun _ : Uuid => Corner.givens
    let cleared := s.serveOne 100 Corner.givens (.mutate (.clear Corner.user))
    let again := cleared.after.serveOne 100 Corner.givens (.mutate (.clear Corner.user))
    s.store.RowKeys ∧ s.store.SoundRows ∧ s.store.serves Corner.user = true ∧
      variants.Perm (s.store.activeIds Corner.user) ∧
      (cleared.outcome.result = .ok (.report ⟨none, none, .cleared⟩) ∧
        (s.serve 100 (Shop.removals Corner.user given variants)).map (·.outcome.result) =
          variants.map (fun variant => .ok (.report ⟨some variant, none, .removed⟩)) ∧
        (s.leave 100 (Shop.removals Corner.user given variants)).store = cleared.after.store ∧
        again.outcome.result = cleared.outcome.result ∧
        again.after.store = cleared.after.store ∧
        (again.after.serveOne 100 Corner.givens (.list Corner.user)).outcome.result =
          .ok (.bundle .empty)) := by
  have hserves : (Shop.opened Corner.droppedStore).store.serves Corner.user = true := by decide
  have hvariants : [Corner.jam, Corner.tea].Perm
      ((Shop.opened Corner.droppedStore).store.activeIds Corner.user) := by
    rw [show (Shop.opened Corner.droppedStore).store.activeIds Corner.user = _ from
      Corner.activeIds_droppedStore]
    exact List.Perm.swap ..
  exact ⟨Corner.rowKeys_droppedStore, Corner.soundRows_droppedStore, hserves, hvariants,
    Shop.clear_eq_removals (s := .opened Corner.droppedStore) Corner.rowKeys_droppedStore
      Corner.soundRows_droppedStore hserves hvariants 100 _ _ _ _⟩

end Storefront
