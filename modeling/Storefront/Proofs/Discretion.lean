/-
Customers are not told why a variant is unavailable.

A customer who only reads sees of a variant that cannot be bought its id, its product's id and
title, its color and its size, and that it is unavailable.  Of a variant that can be bought the
customer sees everything but the stock.  `Snapshot.LooksLike` relates two snapshots that agree
on this much; which of its flags keep a variant from being bought, and what its seller, its
price or its stock are, may then differ.

The relation goes from snapshots to lines, since a line is a snapshot with a quantity of the
customer's own, and from lines to bundles: one more line leaves the same mark on a bundle on
either side (`add_of_looksLike`).  So tables that differ in no more than this are alike to every
customer, and every request that only reads has the same outcome on both.
-/
import Mathlib.Data.List.Forall2
import Storefront.Proofs.Lines
import Storefront.Proofs.Reads

namespace Storefront

/-! ### What is seen of a variant -/

/-- Two snapshots of a variant that a customer who only reads cannot tell apart. -/
structure Snapshot.LooksLike (x x' : Snapshot) : Prop where
  variant : x'.variant.id = x.variant.id
  eligible : x'.isEligible = x.isEligible
  /-- What can be bought differs in its stock at most. -/
  sold : x.isEligible = true →
    x' = { x with variant := { x.variant with stock := x'.variant.stock } }
  /-- What cannot be bought has the same product and the same look. -/
  unsold : x.isEligible = false →
    x'.product.id = x.product.id ∧ x'.product.title = x.product.title ∧
      x'.variant.color = x.variant.color ∧ x'.variant.size = x.variant.size

/-- Two lines at one quantity whose snapshots cannot be told apart. -/
structure CartLine.LooksLike (l l' : CartLine) : Prop where
  snapshot : l.snapshot.LooksLike l'.snapshot
  quantity : l'.quantity = l.quantity

theorem Snapshot.LooksLike.unavailable {x x' : Snapshot} (h : x.LooksLike x')
    (heligible : x.isEligible = false) : InvalidItem.unavailable x' = .unavailable x := by
  obtain ⟨hproduct, htitle, hcolor, hsize⟩ := h.unsold heligible
  simp only [InvalidItem.unavailable, h.variant, hproduct, htitle, hcolor, hsize]

namespace Bundle

theorem add_of_looksLike {l l' : CartLine} (h : l.LooksLike l') (b : Bundle) :
    b.add l' = b.add l := by
  obtain ⟨x, quantity⟩ := l
  obtain ⟨x', quantity'⟩ := l'
  obtain rfl : quantity' = quantity := h.quantity
  have hlook : x.LooksLike x' := h.snapshot
  by_cases hquantity : quantity' ≤ 0
  · simp only [add, if_pos hquantity]
  · cases heligible : x.isEligible with
    | true =>
        have hsame : x' = { x with variant := { x.variant with stock := x'.variant.stock } } :=
          hlook.sold heligible
        have heligible' : x'.isEligible = true := hlook.eligible.trans heligible
        rw [hsame] at heligible' ⊢
        simp only [add, if_neg hquantity, heligible, heligible']
        rfl
    | false =>
        have heligible' : x'.isEligible = false := hlook.eligible.trans heligible
        simp only [add, if_neg hquantity, heligible, heligible', hlook.unavailable heligible]
        rfl

section Lines

variable {lines lines' : List CartLine} (h : List.Forall₂ CartLine.LooksLike lines lines')

include h

theorem foldl_add_of_looksLike (b : Bundle) : lines'.foldl add b = lines.foldl add b := by
  induction h generalizing b with
  | nil => rfl
  | cons hl _ ih => rw [List.foldl_cons, List.foldl_cons, add_of_looksLike hl, ih]

theorem missing_of_looksLike (ids : List Uuid) : missing lines' ids = missing lines ids := by
  have hcarried : ∀ id, lines'.any (·.snapshot.variant.id == id) =
      lines.any (·.snapshot.variant.id == id) := by
    intro id
    induction h with
    | nil => rfl
    | cons hl _ ih => rw [List.any_cons, List.any_cons, hl.snapshot.variant, ih]
  simp only [missing, hcarried]

/-- Lines that cannot be told apart make the same bundle. -/
theorem ofLines_of_looksLike (ids : List Uuid) : ofLines lines' ids = ofLines lines ids := by
  simp only [ofLines, foldl_add_of_looksLike h, missing_of_looksLike h]

end Lines

end Bundle

/-! ### What is seen of the tables -/

namespace Store

/-- Tables with the same customers and the same rows, whose snapshots cannot be told apart. -/
structure LooksLike (s s' : Store) : Prop where
  customers : s'.customers = s.customers
  rows : s'.rows = s.rows
  there : ∀ x ∈ s.snapshots, ∃ x' ∈ s'.snapshots, x.LooksLike x'
  back : ∀ x' ∈ s'.snapshots, ∃ x ∈ s.snapshots, x.LooksLike x'

variable {s s' : Store}

/-- Both tables have a snapshot of a variant, or neither has. -/
theorem LooksLike.snapshot? (h : s.LooksLike s') (hkeys : s.Keys) (hkeys' : s'.Keys)
    (variant : Uuid) :
    Option.Rel Snapshot.LooksLike (s.snapshot? variant none) (s'.snapshot? variant none) := by
  cases hx : s.snapshot? variant none with
  | some x =>
      obtain ⟨hmem, hid⟩ := hkeys.snapshot?_eq_some.mp hx
      obtain ⟨x', hmem', hlook⟩ := h.there x hmem
      have hx' : s'.snapshot? variant none = some x' :=
        hkeys'.snapshot?_eq_some.mpr ⟨hmem', hlook.variant.trans hid⟩
      rw [hx']
      exact .some hlook
  | none =>
      cases hx' : s'.snapshot? variant none with
      | none => exact .none
      | some x' =>
          obtain ⟨hmem', hid⟩ := hkeys'.snapshot?_eq_some.mp hx'
          obtain ⟨x, hmem, hlook⟩ := h.back x' hmem'
          have hx'' : s.snapshot? variant none = some x :=
            hkeys.snapshot?_eq_some.mpr ⟨hmem, hlook.variant.symm.trans hid⟩
          cases hx.symm.trans hx''

theorem LooksLike.line? (h : s.LooksLike s') (hkeys : s.Keys) (hkeys' : s'.Keys)
    (user variant : Uuid) :
    Option.Rel CartLine.LooksLike (s.line? user variant) (s'.line? user variant) := by
  have hwanted : s'.wanted? user variant = s.wanted? user variant := by
    simp only [wanted?, holding?, row?, h.rows]
  have hsnapshot := h.snapshot? hkeys hkeys' variant
  rw [Store.line?, Store.line?, hwanted]
  generalize s.snapshot? variant none = found, s'.snapshot? variant none = found' at hsnapshot ⊢
  cases hsnapshot with
  | none => exact .none
  | some hlook => exact .some ⟨hlook, rfl⟩

theorem LooksLike.lines (h : s.LooksLike s') (hkeys : s.Keys) (hkeys' : s'.Keys) (user : Uuid)
    (ids : List Uuid) :
    List.Forall₂ CartLine.LooksLike (s.lines user ids) (s'.lines user ids) := by
  rw [hkeys.readKeys.lines_eq, hkeys'.readKeys.lines_eq]
  generalize distinct ids = asked
  induction asked with
  | nil => exact .nil
  | cons id rest ih =>
      have hline := h.line? hkeys hkeys' user id
      rw [List.filterMap_cons, List.filterMap_cons]
      generalize s.line? user id = l, s'.line? user id = l' at hline ⊢
      cases hline with
      | none => exact ih
      | some hlook => exact .cons hlook ih

/-- Tables that cannot be told apart are alike to every customer. -/
theorem LooksLike.showsAlike (h : s.LooksLike s') (hkeys : s.Keys) (hkeys' : s'.Keys)
    (user : Uuid) : s.ShowsAlike s' user where
  customer := by simp only [customer?, h.customers]
  activeIds := by simp only [activeIds, listing, h.rows]
  bundles := by
    intro ids quantity
    refine (Bundle.ofLines_of_looksLike ?_ ids).symm
    have hlines := h.lines hkeys hkeys' user ids
    cases quantity with
    | none => exact hlines
    | some n =>
        refine List.forall₂_map_left_iff.mpr (List.forall₂_map_right_iff.mpr (hlines.imp ?_))
        exact fun _ _ hlook => ⟨hlook.snapshot, rfl⟩

end Store

/-- **Customers are not told why a variant is unavailable**, nor anything else of it that
tables which look alike can differ in: a request that only reads has the same outcome on
both, up to the id of a checkout, and moves the counters by the same. -/
theorem Shop.call_discreet {t t' : Shop} (hkeys : t.store.Keys) (hkeys' : t'.store.Keys)
    (hlook : t.store.LooksLike t'.store) {call : Call} (hreads : call.reads = true) (limit : Int)
    (c : Conditions) (givens : Givens) :
    let done := t.call limit c call
    let done' := t'.call limit { c with givens } call
    done.1.withoutSession = done'.1.withoutSession ∧
      ∃ moves : RawText → Nat, ∀ key,
        done.2.counters.count key = t.counters.count key + moves key ∧
        done'.2.counters.count key = t'.counters.count key + moves key := by
  intro done done'
  have hsame : done.1.withoutSession = done'.1.withoutSession :=
    Shop.call_alike (hlook.showsAlike hkeys hkeys' call.user) hreads limit c givens
  refine ⟨hsame, (t.call limit c call).1.moves, fun key => ⟨t.count_call limit c call key, ?_⟩⟩
  rw [t'.count_call, ← Outcome.moves_withoutSession, ← hsame, Outcome.moves_withoutSession]

namespace Corner

/-- The snapshot of the jam when its seller is banned. -/
def bannedJam : Snapshot :=
  { snapshot jam with seller := ⟨.ofNat 4, "Corner", true, false, true⟩ }

/-- The snapshot of the jam when it is archived, dearer, and heavy, and another shop's. -/
def archivedJam : Snapshot :=
  { snapshot jam with
    seller := ⟨.ofNat 6, "Crossing", true, false, false⟩
    variant := ⟨jam, "", "", true, true, 0, 5000⟩
    prices := ⟨9900, ⟨true, some 10, some .percentage⟩, ⟨false, none, none, ⟨false, none, none⟩⟩⟩ }

/-- The shop with its jam banned. -/
def bannedStore : Store := { store with snapshots := [snapshot tea, bannedJam] }

/-- The shop with its jam archived, and hardly any tea in stock. -/
def archivedStore : Store :=
  { store with
    snapshots :=
      [archivedJam, { snapshot tea with variant := ⟨tea, "", "", false, true, 1, 200⟩ }] }

theorem looksLike_store : bannedStore.LooksLike archivedStore where
  customers := rfl
  rows := rfl
  there := by
    intro x hx
    simp only [bannedStore, List.mem_cons, List.not_mem_nil, or_false] at hx
    rcases hx with rfl | rfl
    · exact ⟨_, .tail _ (.head _), rfl, rfl, fun _ => rfl, by decide⟩
    · exact ⟨_, .head _, rfl, rfl, by decide, fun _ => ⟨rfl, rfl, rfl, rfl⟩⟩
  back := by
    intro x' hx'
    simp only [archivedStore, List.mem_cons, List.not_mem_nil, or_false] at hx'
    rcases hx' with rfl | rfl
    · exact ⟨_, .tail _ (.head _), rfl, rfl, by decide, fun _ => ⟨rfl, rfl, rfl, rfl⟩⟩
    · exact ⟨_, .head _, rfl, rfl, fun _ => rfl, by decide⟩

end Corner

/-- The jam of the corner shop is banned or archived, and a customer who buys it at once
cannot tell which. -/
theorem call_discreet_corner :
    let t := Shop.opened Corner.bannedStore
    let t' := Shop.opened Corner.archivedStore
    let call := Call.checkout (.product Corner.user Corner.jam 1)
    let done := t.call 100 (.calm Corner.givens) call
    let done' := t'.call 100 (.calm { Corner.givens with session := .ofNat 10 }) call
    t.store.Keys ∧ t'.store.Keys ∧ t.store.LooksLike t'.store ∧ call.reads = true ∧
      (done.1.withoutSession = done'.1.withoutSession ∧
        ∃ moves : RawText → Nat, ∀ key,
          done.2.counters.count key = t.counters.count key + moves key ∧
          done'.2.counters.count key = t'.counters.count key + moves key) := by
  have hkeys : (Shop.opened Corner.bannedStore).store.Keys := ⟨by decide, by decide, by decide⟩
  have hkeys' : (Shop.opened Corner.archivedStore).store.Keys := ⟨by decide, by decide, by decide⟩
  exact ⟨hkeys, hkeys', Corner.looksLike_store, rfl,
    Shop.call_discreet hkeys hkeys' Corner.looksLike_store rfl 100 (.calm Corner.givens)
      { Corner.givens with session := .ofNat 10 }⟩

end Storefront
