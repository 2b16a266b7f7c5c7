/-
The keys of the tables, and what a change does to the row of a customer and a variant.

The database keeps three keys unique: the variant of a snapshot, the customer and the
variant of a row, and the id of a row.  `Store.Keys` states all three, and every change
keeps them: an insert is refused when the pair has a row, its id is the one of no row, and no
other change touches a key.

With the keys, a look-up and a row say the same thing of each other, so the tables can be
read as a map from pairs to what their rows hold.  That is `Store.holding?`, and
`apply_between` says that the change computed for a pair writes this map at that pair and
nowhere else.  No later proof looks into the list of rows to know what a write has done.
-/
import Mathlib.Data.Int.Order.Basic
import Mathlib.Data.List.Nodup
import Mathlib.Data.Nat.Basic
import Mathlib.Order.Lattice
import Storefront.Cart.Store

namespace Storefront

/-- The customer and the variant of a row. -/
def CartRow.pair (r : CartRow) : Uuid × Uuid := (r.user, r.variant)

@[simp]
theorem CartRow.isFor_iff {r : CartRow} {user variant : Uuid} :
    r.isFor user variant = true ↔ r.pair = (user, variant) := by
  simp [CartRow.isFor, CartRow.pair]

/-- What the database keeps unique. -/
structure Store.Keys (s : Store) : Prop where
  /-- One snapshot for each variant. -/
  variants : (s.snapshots.map (·.variant.id)).Nodup
  /-- One row for each customer and variant. -/
  pairs : (s.rows.map (·.pair)).Nodup
  /-- The id is the primary key of the rows. -/
  ids : (s.rows.map (·.id)).Nodup

/-- What a read of a cart relies on: the keys by which snapshots and rows are looked up.  No read
asks for the id of a row. -/
structure Store.ReadKeys (s : Store) : Prop where
  /-- One snapshot for each variant. -/
  variants : (s.snapshots.map (·.variant.id)).Nodup
  /-- One row for each customer and variant. -/
  pairs : (s.rows.map (·.pair)).Nodup

theorem Store.Keys.readKeys {s : Store} (h : s.Keys) : s.ReadKeys := ⟨h.variants, h.pairs⟩

/-- What the row of a customer and a variant holds, if there is one. -/
def Store.holding? (s : Store) (user variant : Uuid) : Option Holding :=
  (s.row? user variant).map (·.holding)

/-! ### Looking a row up -/

/-- A test that fixes a unique key finds the element that passes it. -/
theorem find?_eq_some_iff_of_nodup_map {α κ : Type} {f : α → κ} {l : List α}
    (h : (l.map f).Nodup) {p : α → Bool} {k : κ} (hp : ∀ a, p a = true → f a = k) {a : α} :
    l.find? p = some a ↔ a ∈ l ∧ p a = true := by
  constructor
  · intro hfind
    exact ⟨List.mem_of_find?_eq_some hfind, List.find?_some hfind⟩
  · rintro ⟨hmem, hpass⟩
    have hsome : (l.find? p).isSome := List.find?_isSome.mpr ⟨a, hmem, hpass⟩
    obtain ⟨b, hb⟩ := Option.isSome_iff_exists.mp hsome
    have hkey : f b = f a := (hp b (List.find?_some hb)).trans (hp a hpass).symm
    rw [hb, List.inj_on_of_nodup_map h (List.mem_of_find?_eq_some hb) hmem hkey]

namespace Store

variable {s s' : Store} {givens : Givens} {user variant : Uuid} {r : CartRow} {n : Nat}

theorem row?_eq_none : s.row? user variant = none ↔ ∀ r ∈ s.rows, r.pair ≠ (user, variant) := by
  simp [row?]

theorem row?_mem (h : s.row? user variant = some r) : r ∈ s.rows :=
  List.mem_of_find?_eq_some h

theorem row?_pair (h : s.row? user variant = some r) : r.pair = (user, variant) := by
  have hfor := List.find?_some h
  exact CartRow.isFor_iff.mp hfor

theorem ReadKeys.row?_eq_some (h : s.ReadKeys) :
    s.row? user variant = some r ↔ r ∈ s.rows ∧ r.pair = (user, variant) := by
  rw [row?, find?_eq_some_iff_of_nodup_map h.pairs fun _ => CartRow.isFor_iff.mp,
    CartRow.isFor_iff]

theorem Keys.row?_eq_some (h : s.Keys) :
    s.row? user variant = some r ↔ r ∈ s.rows ∧ r.pair = (user, variant) :=
  h.readKeys.row?_eq_some

/-- A customer and a variant have at most one row. -/
theorem ReadKeys.length_filter_le (h : s.ReadKeys) (user variant : Uuid) :
    (s.rows.filter (·.isFor user variant)).length ≤ 1 := by
  have hsame : (s.rows.filter (·.isFor user variant)).length =
      (s.rows.map (·.pair)).count (user, variant) := by
    rw [← List.countP_eq_length_filter, List.count_eq_countP, List.countP_map]
    exact List.countP_congr fun r _ => by simp
  rw [hsame]
  exact List.nodup_iff_count_le_one.mp h.pairs (user, variant)

theorem Keys.length_filter_le (h : s.Keys) (user variant : Uuid) :
    (s.rows.filter (·.isFor user variant)).length ≤ 1 :=
  h.readKeys.length_filter_le user variant

theorem ReadKeys.snapshot?_eq_some_iff (h : s.ReadKeys) {product : Option Uuid} {x : Snapshot} :
    s.snapshot? variant product = some x ↔
      x ∈ s.snapshots ∧ x.variant.id = variant ∧ product.all (x.product.id == ·) = true := by
  have hid : ∀ x : Snapshot, (x.variant.id == variant && product.all (x.product.id == ·)) = true →
      x.variant.id = variant := by
    intro x hx
    simp only [Bool.and_eq_true, beq_iff_eq] at hx
    exact hx.1
  rw [snapshot?, find?_eq_some_iff_of_nodup_map h.variants hid, Bool.and_eq_true, beq_iff_eq]

theorem ReadKeys.snapshot?_eq_some (h : s.ReadKeys) {x : Snapshot} :
    s.snapshot? variant none = some x ↔ x ∈ s.snapshots ∧ x.variant.id = variant := by
  simp [h.snapshot?_eq_some_iff]

theorem Keys.snapshot?_eq_some_iff (h : s.Keys) {product : Option Uuid} {x : Snapshot} :
    s.snapshot? variant product = some x ↔
      x ∈ s.snapshots ∧ x.variant.id = variant ∧ product.all (x.product.id == ·) = true :=
  h.readKeys.snapshot?_eq_some_iff

theorem Keys.snapshot?_eq_some (h : s.Keys) {x : Snapshot} :
    s.snapshot? variant none = some x ↔ x ∈ s.snapshots ∧ x.variant.id = variant :=
  h.readKeys.snapshot?_eq_some

/-! ### Writing a row -/

@[simp]
theorem map_rows_overwrite {α : Type} (s : Store) (p : CartRow → Bool) (f : Holding → Holding)
    (g : CartRow → α) (hg : ∀ r holding, g { r with holding := holding } = g r) :
    (s.overwrite p f).rows.map g = s.rows.map g := by
  simp only [overwrite, List.map_map]
  refine List.map_congr_left fun r _ => ?_
  by_cases h : p r <;> simp [h, hg]

theorem Keys.overwrite (h : s.Keys) (p : CartRow → Bool) (f : Holding → Holding) :
    (s.overwrite p f).Keys where
  variants := h.variants
  pairs := by rw [map_rows_overwrite s p f _ fun _ _ => rfl]; exact h.pairs
  ids := by rw [map_rows_overwrite s p f _ fun _ _ => rfl]; exact h.ids

theorem row?_overwrite (s : Store) (p : CartRow → Bool) (f : Holding → Holding)
    (user variant : Uuid) :
    (s.overwrite p f).row? user variant =
      (s.row? user variant).map fun r => if p r then { r with holding := f r.holding } else r := by
  rw [row?, Store.overwrite, List.find?_map, row?]
  congr 2
  funext r
  by_cases h : p r <;> simp [CartRow.isFor, h]

/-- A write by the id of a row reaches that row and no other. -/
theorem Keys.row?_overwrite_id (h : s.Keys) (hr : s.row? user variant = some r)
    (f : Holding → Holding) (user' variant' : Uuid) :
    (s.overwrite (·.id == r.id) f).row? user' variant' =
      if (user', variant') = (user, variant) then some { r with holding := f r.holding }
      else s.row? user' variant' := by
  rw [row?_overwrite]
  split
  · next heq =>
    obtain ⟨rfl, rfl⟩ := Prod.mk.inj heq
    simp [hr]
  · next hne =>
    cases hr' : s.row? user' variant' with
    | none => rfl
    | some r' =>
      have hid : r'.id ≠ r.id := by
        intro hid
        have hrr := List.inj_on_of_nodup_map h.ids (row?_mem hr') (row?_mem hr) hid
        exact hne ((row?_pair hr').symm.trans (hrr ▸ row?_pair hr))
      simp [hid]

/-! ### Adding a row -/

/-- The new row has a pair of its own. -/
theorem nodup_pairs_inserted (h : (s.rows.map (·.pair)).Nodup)
    (hnone : s.row? user variant = none) (holding : Holding) :
    ((s.inserted givens user variant holding).rows.map (·.pair)).Nodup := by
  rw [inserted, List.map_append, List.nodup_append]
  refine ⟨h, List.nodup_singleton _, ?_⟩
  intro k hk k' hk' heq
  obtain ⟨r, hr, rfl⟩ := List.mem_map.mp hk
  rw [List.mem_singleton.mp hk'] at heq
  exact row?_eq_none.mp hnone r hr heq

theorem Keys.inserted (h : s.Keys) (hnone : s.row? user variant = none) (holding : Holding) :
    (s.inserted givens user variant holding).Keys where
  variants := h.variants
  pairs := nodup_pairs_inserted h.pairs hnone holding
  ids := by
    rw [Store.inserted, List.map_append, List.nodup_append]
    refine ⟨h.ids, List.nodup_singleton _, ?_⟩
    intro i hi i' hi' heq
    obtain ⟨r, hr, rfl⟩ := List.mem_map.mp hi
    rw [List.mem_singleton.mp hi'] at heq
    exact givens.row_fresh s r hr heq

theorem row?_inserted (hnone : s.row? user variant = none) (holding : Holding)
    (user' variant' : Uuid) :
    (s.inserted givens user variant holding).row? user' variant' =
      if (user', variant') = (user, variant) then
        some ⟨givens.row s, givens.time s, user, variant, holding⟩
      else s.row? user' variant' := by
  rw [row?, Store.inserted, List.find?_append]
  split
  · next heq =>
    obtain ⟨rfl, rfl⟩ := Prod.mk.inj heq
    have hold : s.rows.find? (·.isFor user' variant') = none := hnone
    rw [hold]
    simp [CartRow.pair]
  · next hne =>
    have hnew : ¬ (user = user' ∧ variant = variant') := by
      rintro ⟨rfl, rfl⟩
      exact hne rfl
    simp [row?, CartRow.isFor, hnew]

/-! ### Making a change

A change never touches the customers and the snapshots.  What it does to the rows is
said of the two changes that services make: the one computed for a pair, and the
clearing of a whole cart.
-/

/-- Everything that a change can do. -/
theorem apply_cases {change : Change} (h : s.apply givens change = .ok (s', n)) :
    (∃ user variant holding, change = .insert user variant holding ∧
      s.row? user variant = none ∧ s' = s.inserted givens user variant holding) ∨
    (∃ row columns, change = .write row columns ∧
      s' = s.overwrite (·.id == row) columns.write) ∨
    (∃ user, change = .clear user ∧ s' = s.overwrite (·.user == user) fun _ => .tombstone) ∨
    (change = .nothing ∧ s' = s) := by
  cases change with
  | insert user variant holding =>
      simp only [apply] at h
      split at h
      · exact absurd h (by simp)
      · next hnone =>
        simp only [Except.ok.injEq, Prod.mk.injEq] at h
        exact Or.inl ⟨user, variant, holding, rfl, by simpa using hnone, h.1.symm⟩
  | write row columns =>
      simp only [apply, Except.ok.injEq, Prod.mk.injEq] at h
      exact Or.inr (Or.inl ⟨row, columns, rfl, h.1.symm⟩)
  | clear user =>
      simp only [apply, Except.ok.injEq, Prod.mk.injEq] at h
      exact Or.inr (Or.inr (Or.inl ⟨user, rfl, h.1.symm⟩))
  | nothing =>
      simp only [apply, Except.ok.injEq, Prod.mk.injEq] at h
      exact Or.inr (Or.inr (Or.inr ⟨rfl, h.1.symm⟩))

theorem apply_insert {holding : Holding}
    (h : s.apply givens (.insert user variant holding) = .ok (s', n)) :
    s.row? user variant = none ∧ s' = s.inserted givens user variant holding := by
  rcases apply_cases h with ⟨_, _, _, heq, hnone, rfl⟩ | ⟨_, _, heq, -⟩ | ⟨_, heq, -⟩ | ⟨heq, -⟩
  · cases heq
    exact ⟨hnone, rfl⟩
  all_goals exact absurd heq (by simp)

theorem apply_customers {change : Change} (h : s.apply givens change = .ok (s', n)) :
    s'.customers = s.customers ∧ s'.snapshots = s.snapshots := by
  rcases apply_cases h with ⟨_, _, _, -, -, rfl⟩ | ⟨_, _, -, rfl⟩ | ⟨_, -, rfl⟩ | ⟨-, rfl⟩
  all_goals exact ⟨rfl, rfl⟩

/-- Every change keeps the keys. -/
theorem Keys.apply (h : s.Keys) {change : Change} (happly : s.apply givens change = .ok (s', n)) :
    s'.Keys := by
  rcases apply_cases happly with ⟨_, _, holding, -, hnone, rfl⟩ | ⟨_, _, -, rfl⟩ | ⟨_, -, rfl⟩ |
    ⟨-, rfl⟩
  · exact h.inserted hnone holding
  · exact h.overwrite _ _
  · exact h.overwrite _ _
  · exact h

/-- The second tables are the first ones, but that the row of a customer and a variant
holds what is given. -/
structure Sets (s : Store) (user variant : Uuid) (holding : Option Holding) (s' : Store) :
    Prop where
  customers : s'.customers = s.customers
  snapshots : s'.snapshots = s.snapshots
  here : s'.holding? user variant = holding
  elsewhere : ∀ user' variant', (user', variant') ≠ (user, variant) →
    s'.row? user' variant' = s.row? user' variant'

/-- The change computed for a row that is up to date sets what the row holds. -/
theorem Keys.apply_between (h : s.Keys) (givens : Givens) {after : Option Holding}
    (hafter : after = none → s.row? user variant = none) :
    ∃ s' n, s.apply givens (.between user variant (s.row? user variant) after) = .ok (s', n) ∧
      s.Sets user variant after s' := by
  cases hr : s.row? user variant with
  | none =>
      cases after with
      | none => exact ⟨s, 0, rfl, rfl, rfl, by simp [holding?, hr], fun _ _ _ => rfl⟩
      | some holding =>
          refine ⟨s.inserted givens user variant holding, 1,
            by simp [Change.between, Store.apply, hr], rfl, rfl, ?_, ?_⟩
          · simp [holding?, row?_inserted hr]
          · intro user' variant' hne
            rw [row?_inserted hr, if_neg hne]
  | some r =>
      cases after with
      | none => exact absurd (hafter rfl) (by simp [hr])
      | some holding =>
          refine ⟨_, _, rfl, rfl, rfl, ?_, ?_⟩
          · rw [holding?, h.row?_overwrite_id hr, if_pos rfl]
            simp [Holding.write_changes]
          · intro user' variant' hne
            rw [h.row?_overwrite_id hr, if_neg hne]

/-- A change computed for the row of a customer and a variant touches no other row, even
when the row was there and was not seen. -/
theorem Keys.row?_apply_between (h : s.Keys) {read : Option CartRow} {after : Option Holding}
    (hread : read = none ∨ read = s.row? user variant)
    (happly : s.apply givens (.between user variant read after) = .ok (s', n))
    {user' variant' : Uuid}
    (hne : (user', variant') ≠ (user, variant)) :
    s'.row? user' variant' = s.row? user' variant' := by
  cases after with
  | none =>
      have hsame : s' = s := by cases read <;> exact (Prod.mk.inj (Except.ok.inj happly)).1.symm
      rw [hsame]
  | some holding =>
      cases read with
      | none =>
          obtain ⟨hnone, rfl⟩ := apply_insert happly
          rw [row?_inserted hnone, if_neg hne]
      | some r =>
          have hr : s.row? user variant = some r := by simpa [eq_comm] using hread
          have hwrite : s' = s.overwrite (·.id == r.id) (r.holding.changes holding).write :=
            (Prod.mk.inj (Except.ok.inj happly)).1.symm
          rw [hwrite, h.row?_overwrite_id hr, if_neg hne]

/-- Clearing a cart leaves tombstones in the rows of the customer, and no other trace. -/
theorem row?_apply_clear {user : Uuid} (h : s.apply givens (.clear user) = .ok (s', n))
    (user' variant : Uuid) :
    s'.row? user' variant =
      if user' = user then
        (s.row? user' variant).map fun r => { r with holding := .tombstone }
      else s.row? user' variant := by
  simp only [apply, Except.ok.injEq, Prod.mk.injEq] at h
  rw [← h.1, row?_overwrite]
  cases hr : s.row? user' variant with
  | none => simp
  | some r =>
      have hruser : r.user = user' := congrArg Prod.fst (row?_pair hr)
      by_cases huser : user' = user
      · simp [hruser, huser]
      · simp [hruser, huser]

end Store

/-! ### A corner shop

Small tables at which the hypotheses of later results are met: one customer, two variants
that can be bought, a row that is in the cart and a tombstone.
-/

namespace Corner

/-- The only customer. -/
def user : Uuid := .ofNat 1

/-- A variant that is in the cart. -/
def tea : Uuid := .ofNat 2

/-- A variant that was taken out of the cart. -/
def jam : Uuid := .ofNat 3

/-- What the catalogue says of a variant of the shop. -/
def snapshot (variant : Uuid) : Snapshot where
  seller := ⟨.ofNat 4, "Corner", true, false, false⟩
  product := ⟨.ofNat 5, "Pantry", "", "", "Food", true, false, false⟩
  variant := ⟨variant, "", "", false, true, 10, 200⟩
  prices := ⟨1000, ⟨false, none, none⟩, ⟨false, none, none, ⟨false, none, none⟩⟩⟩

/-- The tables of the shop. -/
def store : Store where
  customers := [⟨user, false, false⟩]
  snapshots := [snapshot tea, snapshot jam]
  rows := [⟨0, 1, user, tea, .inCart 2⟩, ⟨1, 2, user, jam, .tombstone⟩]

theorem keys_store : store.Keys := ⟨by decide, by decide, by decide⟩

theorem le_foldl_max {α β : Type} [LinearOrder β] (f : α → β) (l : List α) (k : β) :
    k ≤ l.foldl (fun n a => max n (f a)) k ∧ ∀ a ∈ l, f a ≤ l.foldl (fun n a => max n (f a)) k := by
  induction l generalizing k with
  | nil => simp
  | cons b rest ih =>
      obtain ⟨hstart, hrest⟩ := ih (max k (f b))
      refine ⟨le_trans (le_max_left ..) hstart, ?_⟩
      intro a ha
      rcases List.mem_cons.mp ha with rfl | ha'
      · exact le_trans (le_max_right ..) hstart
      · exact hrest a ha'

/-- The shop numbers its rows, and its clock never stands still. -/
def givens : Givens where
  row s := s.rows.foldl (fun n r => max n (r.id + 1)) 0
  row_fresh s r hr := Nat.ne_of_lt ((le_foldl_max (fun r : CartRow => r.id + 1) s.rows 0).2 r hr)
  time s := s.rows.foldl (fun t r => max t (r.createdAt + 1)) 0
  session := .ofNat 8
  request := .ofNat 9
  duration := 12

end Corner

end Storefront
