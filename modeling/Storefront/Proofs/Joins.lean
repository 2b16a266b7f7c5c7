/-
The lines of a cart are look-ups, in whatever order the tables are.

A database returns the rows of a join in any order, and keeps the rows of a table in any
order.  Neither can be seen in the lines that are read.  The order of the join is lost in the
sort that follows (`arrange_eq_of_perm`), and the order of the tables cannot be seen by a
look-up under a unique key (`ReadKeys.row?_perm`, `ReadKeys.snapshot?_perm`).

What is left is said by two look-ups for each variant that is asked for: its snapshot, and the
row of the customer for it.  Rows of other customers, tombstones, and variants that are asked
for again or have no snapshot leave no trace.
-/
import Storefront.Proofs.Accounting

namespace Storefront

namespace Store

variable {s s' : Store} {user variant : Uuid}

/-! ### The quantity of a variant -/

/-- The quantity in the row of a customer for a variant: zero without a row, in a row that is
not in the cart, and in one that has no quantity. -/
def quantityInCart (s : Store) (user variant : Uuid) : Int :=
  match s.holding? user variant with
  | some ⟨true, some n⟩ => n
  | some ⟨true, none⟩ | some ⟨false, _⟩ | none => 0

theorem getD_wanted? (s : Store) (user variant : Uuid) :
    (s.wanted? user variant).getD 0 = s.quantityInCart user variant := by
  unfold wanted? quantityInCart
  match s.holding? user variant with
  | none => rfl
  | some ⟨false, _⟩ => rfl
  | some ⟨true, none⟩ => rfl
  | some ⟨true, some n⟩ => rfl

/-! ### Tables in another order -/

theorem ReadKeys.perm (h : s.ReadKeys) (hsnapshots : s'.snapshots.Perm s.snapshots)
    (hrows : s'.rows.Perm s.rows) : s'.ReadKeys :=
  ⟨(hsnapshots.map _).nodup_iff.mpr h.variants, (hrows.map _).nodup_iff.mpr h.pairs⟩

theorem ReadKeys.row?_perm (h : s.ReadKeys) (h' : s'.ReadKeys) (hrows : s'.rows.Perm s.rows)
    (user variant : Uuid) : s'.row? user variant = s.row? user variant := by
  refine Option.ext fun r => ?_
  rw [h'.row?_eq_some, h.row?_eq_some, hrows.mem_iff]

theorem ReadKeys.snapshot?_perm (h : s.ReadKeys) (h' : s'.ReadKeys)
    (hsnapshots : s'.snapshots.Perm s.snapshots) (variant : Uuid) (product : Option Uuid) :
    s'.snapshot? variant product = s.snapshot? variant product := by
  refine Option.ext fun x => ?_
  rw [h'.snapshot?_eq_some_iff, h.snapshot?_eq_some_iff, hsnapshots.mem_iff]

theorem ReadKeys.lines_perm (h : s.ReadKeys) (hsnapshots : s'.snapshots.Perm s.snapshots)
    (hrows : s'.rows.Perm s.rows) (user : Uuid) (ids : List Uuid) :
    s'.lines user ids = s.lines user ids := by
  have h' : s'.ReadKeys := h.perm hsnapshots hrows
  have hline : s'.line? user = s.line? user := by
    funext id
    rw [line?, line?, wanted?, wanted?, holding?, holding?, h.row?_perm h' hrows,
      h.snapshot?_perm h' hsnapshots]
  rw [h'.lines_eq, h.lines_eq, hline]

/-! ### What is read -/

theorem nodup_lines (h : s.ReadKeys) (user : Uuid) (ids : List Uuid) :
    ((s.lines user ids).map (·.snapshot.variant.id)).Nodup := by
  rw [h.lines_eq]
  refine List.pairwise_map.mpr ((pairwise_filterMap_line? nodup_distinct).imp ?_)
  intro l l' hlt heq
  rw [heq] at hlt
  exact Nat.lt_irrefl _ hlt

/-- **The lines that are read for some ids are the look-ups of the distinct ids, in the order
of the request**: the snapshot of the variant with the quantity that the customer has of it.
No variant is in two of them.  They are the same in whatever order the tables are kept, and in
whatever order the rows of their join are returned. -/
theorem linesFor_look_up (h : s.ReadKeys) (user : Uuid) (ids : List Uuid) :
    ∃ lines, (linesFor user ids).eval s.view = .ok lines ∧
      lines = ((distinct ids).filterMap fun id =>
        (s.snapshot? id none).map fun x => ⟨x, s.quantityInCart user id⟩) ∧
      (lines.map (·.snapshot.variant.id)).Nodup ∧
      (∀ s' : Store, s'.snapshots.Perm s.snapshots → s'.rows.Perm s.rows →
        (linesFor user ids).eval s'.view = .ok lines) ∧
      ∀ returned : List CartLine, returned.Perm (s.join user (distinct ids)) →
        arrange (distinct ids) returned = lines := by
  refine ⟨_, eval_linesFor s user ids, ?_, nodup_lines h user ids, ?_, ?_⟩
  · rw [h.lines_eq]
    refine List.filterMap_congr fun id _ => ?_
    rw [line?, getD_wanted?]
  · intro s' hsnapshots hrows
    rw [eval_linesFor, h.lines_perm hsnapshots hrows]
  · intro returned hreturned
    rw [h.lines_eq]
    exact arrange_eq_of_perm (hreturned.trans (h.perm_join user nodup_distinct))
      (pairwise_filterMap_line? nodup_distinct)

end Store

/-- In the corner shop, the jam that was taken out, the tea in the cart and a variant that was
never sold are asked for, the jam twice. -/
theorem linesFor_look_up_corner :
    let ids := [Corner.jam, Corner.tea, .ofNat 9, Corner.jam]
    Corner.store.ReadKeys ∧
      ∃ lines, (linesFor Corner.user ids).eval Corner.store.view = .ok lines ∧
        lines = ((distinct ids).filterMap fun id =>
          (Corner.store.snapshot? id none).map fun x =>
            ⟨x, Corner.store.quantityInCart Corner.user id⟩) ∧
        (lines.map (·.snapshot.variant.id)).Nodup ∧
        (∀ s' : Store, s'.snapshots.Perm Corner.store.snapshots →
          s'.rows.Perm Corner.store.rows → (linesFor Corner.user ids).eval s'.view = .ok lines) ∧
        ∀ returned : List CartLine,
          returned.Perm (Corner.store.join Corner.user (distinct ids)) →
          arrange (distinct ids) returned = lines :=
  ⟨Corner.keys_store.readKeys, Store.linesFor_look_up Corner.keys_store.readKeys _ _⟩

end Storefront
