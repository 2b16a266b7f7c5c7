/-
Every requested variant is accounted for.

A bundle is built from lists, but what it says of a request can be told one variant at a
time: with unique keys each distinct id has one line at most, so what the bundle holds of
an id is what that line leaves in it, or the one entry of an id without a snapshot.
`entries_ofLines` states this; the classes of a variant follow by looking at its snapshot
and at its row.

A variant that is not in the cart has a line with no quantity, which leaves nothing.  So
it is neither priced nor invalid, whether it could be bought or not.
-/
import Storefront.Cart.Aggregate
import Storefront.Proofs.Bundles
import Storefront.Proofs.Lines
import Storefront.Proofs.Plans

namespace Storefront

/-- Of what a list without repetition is mapped to, the part with a key comes from it. -/
theorem filter_filterMap_of_nodup {α β : Type} [DecidableEq α] {f : α → Option β} {key : β → α}
    (hkey : ∀ a b, f a = some b → key b = a) {as : List α} (h : as.Nodup) (a : α) :
    (as.filterMap f).filter (key · == a) = if a ∈ as then (f a).toList else [] := by
  induction as with
  | nil => rfl
  | cons b rest ih =>
      obtain ⟨hb, hrest⟩ := List.nodup_cons.mp h
      by_cases hba : b = a
      · subst hba
        have hnone : (rest.filterMap f).filter (key · == b) = [] := by
          rw [ih hrest, if_neg hb]
        cases hf : f b with
        | none => simp [hf, hnone]
        | some c => simp [hf, hkey b c hf, hnone]
      · have hmem : a ∈ b :: rest ↔ a ∈ rest := by simp [Ne.symm hba]
        rw [if_congr hmem rfl rfl, ← ih hrest]
        cases hf : f b with
        | none => simp [hf]
        | some c => simp [hf, hkey b c hf, hba]

theorem filter_filterMap_distinct {α β : Type} [DecidableEq α] {f : α → Option β} {key : β → α}
    (hkey : ∀ a b, f a = some b → key b = a) (as : List α) (a : α) :
    ((distinct as).filterMap f).filter (key · == a) = if a ∈ as then (f a).toList else [] := by
  rw [filter_filterMap_of_nodup hkey nodup_distinct]
  exact if_congr mem_distinct rfl rfl

/-- What the distinct elements are mapped to stands in their order. -/
theorem pairwise_filterMap_distinct {α β : Type} [DecidableEq α] {f : α → Option β} {key : β → α}
    (hkey : ∀ a b, f a = some b → key b = a) (as : List α) :
    ((distinct as).filterMap f).Pairwise fun b b' => as.idxOf (key b) < as.idxOf (key b') := by
  refine List.pairwise_filterMap.mpr (pairwise_distinct.imp ?_)
  intro a a' hlt b hb b' hb'
  rw [hkey a b hb, hkey a' b' hb']
  exact hlt

/-- One element at most can be in one order only. -/
theorem eq_toList_of_perm {α : Type} {l : List α} {o : Option α} (h : l.Perm o.toList) :
    l = o.toList := by
  cases o with
  | none => exact List.perm_nil.mp h
  | some a => exact List.perm_singleton.mp h

/-! ### One variant -/

namespace Store

variable {s : Store} {user id : Uuid}

/-- The variant among what can be bought. -/
def valid? (s : Store) (user id : Uuid) : Option PricedVariant :=
  (s.line? user id).bind (·.valid?)

/-- The variant among what cannot be bought, if it has a snapshot. -/
def unavailable? (s : Store) (user id : Uuid) : Option InvalidItem :=
  (s.line? user id).bind (·.invalid?)

/-- The variant among what cannot be bought, if it has no snapshot. -/
def unknown? (s : Store) (id : Uuid) : Option InvalidItem :=
  if (s.snapshot? id none).isNone then some (.notFound id) else none

theorem variant_of_valid? {v : PricedVariant} (h : s.valid? user id = some v) :
    v.variant = id := by
  obtain ⟨l, hl, hv⟩ := Option.bind_eq_some_iff.mp h
  unfold CartLine.valid? at hv
  split at hv
  · obtain rfl := Option.some.inj hv
    exact line?_id hl
  · simp at hv

theorem of_unavailable? {i : InvalidItem} (h : s.unavailable? user id = some i) :
    i.variant = id ∧ i.reason = "variant unavailable due to moderation or stock" := by
  obtain ⟨l, hl, hi⟩ := Option.bind_eq_some_iff.mp h
  unfold CartLine.invalid? at hi
  split at hi
  · obtain rfl := Option.some.inj hi
    exact ⟨line?_id hl, rfl⟩
  · simp at hi

theorem of_unknown? {i : InvalidItem} (h : s.unknown? id = some i) :
    i.variant = id ∧ i.reason = "variant not found in system" := by
  unfold unknown? at h
  split at h
  · obtain rfl := Option.some.inj h
    exact ⟨rfl, rfl⟩
  · simp at h

end Store

/-! ### The bundle of a request -/

namespace Store

variable {s : Store} {user id : Uuid} {ids : List Uuid}

/-- The bundle of some variants for a customer. -/
def bundle (s : Store) (user : Uuid) (ids : List Uuid) : Bundle :=
  .ofLines (s.lines user ids) ids

theorem Keys.perm_variants_bundle (h : s.Keys) (user : Uuid) (ids : List Uuid) :
    (s.bundle user ids).variants.Perm ((distinct ids).filterMap (s.valid? user)) := by
  refine (Bundle.perm_variants_ofLines _ ids).trans ?_
  rw [h.readKeys.lines_eq, List.filterMap_filterMap]
  exact List.Perm.refl _

theorem Keys.missing_lines (h : s.Keys) (user : Uuid) (ids : List Uuid) :
    (Bundle.missing (s.lines user ids) ids).map .notFound =
      (distinct ids).filterMap s.unknown? := by
  rw [h.readKeys.lines_eq, Bundle.missing_filterMap fun _ _ => line?_id,
    ← List.filterMap_eq_map, List.filterMap_filter]
  refine List.filterMap_congr fun id _ => ?_
  rw [unknown?, line?]
  cases s.snapshot? id none <;> rfl

theorem Keys.invalid_bundle (h : s.Keys) (user : Uuid) (ids : List Uuid) :
    (s.bundle user ids).invalid =
      (distinct ids).filterMap (s.unavailable? user) ++ (distinct ids).filterMap s.unknown? := by
  rw [bundle, Bundle.invalid_ofLines, h.missing_lines, h.readKeys.lines_eq,
    List.filterMap_filterMap]
  rfl

end Store

/-- What a bundle says of a variant: its invalid items and its variants with this id. -/
def Bundle.entries (b : Bundle) (id : Uuid) : List InvalidItem × List PricedVariant :=
  (b.invalid.filter (·.variant == id), b.variants.filter (·.variant == id))

/-- What the bundle of a request says of a variant comes from this variant alone. -/
theorem Store.Keys.entries_bundle {s : Store} (h : s.Keys) (user : Uuid) (ids : List Uuid)
    (id : Uuid) :
    (s.bundle user ids).entries id =
      if id ∈ ids then
        ((s.unavailable? user id).toList ++ (s.unknown? id).toList, (s.valid? user id).toList)
      else ([], []) := by
  have hvariants : (s.bundle user ids).variants.filter (·.variant == id) =
      if id ∈ ids then (s.valid? user id).toList else [] := by
    have hperm := (h.perm_variants_bundle user ids).filter (·.variant == id)
    rw [filter_filterMap_distinct fun _ _ => variant_of_valid?] at hperm
    by_cases hid : id ∈ ids
    · rw [if_pos hid] at hperm ⊢
      exact eq_toList_of_perm hperm
    · rw [if_neg hid] at hperm ⊢
      exact List.perm_nil.mp hperm
  have hinvalid : (s.bundle user ids).invalid.filter (·.variant == id) =
      if id ∈ ids then (s.unavailable? user id).toList ++ (s.unknown? id).toList else [] := by
    rw [h.invalid_bundle, List.filter_append,
      filter_filterMap_distinct fun _ _ hi => (of_unavailable? hi).1,
      filter_filterMap_distinct fun _ _ hi => (of_unknown? hi).1]
    split <;> rfl
  rw [Bundle.entries, hvariants, hinvalid]
  split <;> rfl

/-! ### The classes of a variant -/

/-- Rows that are in a cart have a quantity, which is positive. -/
def Store.Stocked (s : Store) : Prop :=
  ∀ r ∈ s.rows, r.holding.active = true → ∃ n, r.holding.quantity = some n ∧ 1 ≤ n

theorem Store.Stocked.one_le {s : Store} (h : s.Stocked) {user id : Uuid} {n : Int}
    (hn : s.wanted? user id = some n) : 1 ≤ n := by
  obtain ⟨holding, hfilter, rfl⟩ := Option.map_eq_some_iff.mp hn
  obtain ⟨hholding, hactive⟩ := Option.filter_eq_some_iff.mp hfilter
  obtain ⟨r, hr, rfl⟩ := Option.map_eq_some_iff.mp hholding
  obtain ⟨n, hquantity, hpos⟩ := h r (Store.row?_mem hr) hactive
  simpa [hquantity] using hpos

/-- A bundle accounts for every variant of a request, and for no other. -/
structure Bundle.Accounts (b : Bundle) (s : Store) (user : Uuid) (ids : List Uuid) : Prop where
  /-- Every variant is in one class and leaves what its class says. -/
  classes : ∀ id ∈ ids,
    match s.snapshot? id none, s.wanted? user id with
    | none, _ => b.entries id = ([⟨id, "variant not found in system", none, "", "", ""⟩], [])
    | some _, none => b.entries id = ([], [])
    | some x, some n =>
      if x.isEligible then
        ∃ v, b.entries id = ([], [v]) ∧ v = (CartLine.mk x n).priced ∧ v.quantity = n
      else
        b.entries id =
          ([⟨id, "variant unavailable due to moderation or stock", some x.product.id,
            x.product.title, x.variant.color, x.variant.size⟩], [])
  others : ∀ id, id ∉ ids → b.entries id = ([], [])
  /-- The variants that cannot be bought and then the unknown ones, both in the order in
  which they are first asked for. -/
  order : ∃ unavailable unknown : List InvalidItem, b.invalid = unavailable ++ unknown ∧
    (∀ i ∈ unavailable, i.reason = "variant unavailable due to moderation or stock") ∧
    (∀ i ∈ unknown, i.reason = "variant not found in system") ∧
    unavailable.Pairwise (fun i j => ids.idxOf i.variant < ids.idxOf j.variant) ∧
    unknown.Pairwise fun i j => ids.idxOf i.variant < ids.idxOf j.variant

theorem Store.Keys.accounts_bundle {s : Store} (h : s.Keys) (hstocked : s.Stocked)
    (user : Uuid) (ids : List Uuid) : (s.bundle user ids).Accounts s user ids where
  classes := by
    intro id hid
    have hentries := h.entries_bundle user ids id
    rw [if_pos hid, valid?, unavailable?, unknown?, line?] at hentries
    cases hx : s.snapshot? id none with
    | none =>
        rw [hx] at hentries
        exact hentries
    | some x =>
        cases hn : s.wanted? user id with
        | none =>
            rw [hx, hn] at hentries
            exact hentries
        | some n =>
            have hpos : 0 < n := hstocked.one_le hn
            simp only [hx, hn, Option.map_some, Option.bind_some, Option.getD_some,
              CartLine.valid?, CartLine.invalid?, hpos, decide_true, Bool.true_and] at hentries
            dsimp only
            by_cases heligible : x.isEligible = true
            · rw [if_pos heligible]
              refine ⟨_, ?_, rfl, CartLine.quantity_priced ⟨x, n⟩⟩
              simpa [heligible] using hentries
            · rw [if_neg heligible]
              have hid : x.variant.id = id := (h.snapshot?_eq_some.mp hx).2
              rw [← hid] at hentries ⊢
              simpa [heligible, InvalidItem.unavailable] using hentries
  others := by
    intro id hid
    rw [h.entries_bundle, if_neg hid]
  order := by
    refine ⟨_, _, h.invalid_bundle user ids, ?_, ?_, ?_, ?_⟩
    · intro i hi
      obtain ⟨id, -, hi⟩ := List.mem_filterMap.mp hi
      exact (of_unavailable? hi).2
    · intro i hi
      obtain ⟨id, -, hi⟩ := List.mem_filterMap.mp hi
      exact (of_unknown? hi).2
    · exact pairwise_filterMap_distinct (fun _ _ hi => (of_unavailable? hi).1) ids
    · exact pairwise_filterMap_distinct (fun _ _ hi => (of_unknown? hi).1) ids

/-! ### Aggregating -/

section Aggregate

variable {s : Store} {user : Uuid}

/-- The lines of some ids are read as they are in the tables; of no ids, none are read. -/
theorem eval_linesFor (s : Store) (user : Uuid) (ids : List Uuid) :
    (linesFor user ids).eval s.view = .ok (s.lines user ids) := by
  unfold linesFor
  cases ids with
  | nil =>
      rw [s.lines_nil]
      rfl
  | cons id rest => rfl

/-- An aggregation for a customer who passes is the bundle of the lines of its ids. -/
theorem eval_aggregate (huser : s.serves user = true) {selection : Selection} {ids : List Uuid}
    {quantity : Option Int} (hids : (selection.ids user).eval s.view = .ok ids) :
    (aggregate user selection quantity).eval s.view =
      .ok (.ofLines (withQuantities quantity (s.lines user ids)) ids) := by
  have hcustomer : (eligibleCustomer user).eval s.view = .ok () := by
    rw [eval_eligibleCustomer s.upToDate_view, Store.customerObjection?_eq_none.mpr huser]
    rfl
  rw [aggregate, Plan.eval_seq, hcustomer]
  show ((selection.ids user >>= fun ids => _ : Plan Bundle)).eval s.view = _
  rw [Plan.eval_seq, hids]
  show ((linesFor user ids >>= fun lines => _ : Plan Bundle)).eval s.view = _
  rw [Plan.eval_seq, eval_linesFor]
  rfl

/-- What is listed as in the cart has a row that is in the cart. -/
theorem Store.Keys.wanted?_of_mem_activeIds (h : s.Keys) {id : Uuid}
    (hid : id ∈ s.activeIds user) : ∃ n, s.wanted? user id = some n := by
  simp only [Store.activeIds, Store.listing, List.mem_map, List.mem_filter, List.mem_mergeSort,
    Bool.and_eq_true, beq_iff_eq] at hid
  obtain ⟨r, ⟨hr, rfl, hactive⟩, rfl⟩ := hid
  have hrow : s.row? r.user r.variant = some r := h.row?_eq_some.mpr ⟨hr, rfl⟩
  refine ⟨r.holding.quantity.getD 0, ?_⟩
  rw [Store.wanted?, Store.holding?, hrow]
  simp [Option.filter, hactive]

/-- **Every requested variant is accounted for exactly once**, in a request that names the
variants and in one that takes them from the cart; in the latter, no variant is missing
from the cart. -/
theorem aggregate_accounts (h : s.Keys) (hstocked : s.Stocked) (huser : s.serves user = true) :
    (∀ ids, ∃ b, (aggregate user (.variants ids) none).eval s.view = .ok b ∧
      b.Accounts s user ids) ∧
    ∃ b, (listCart user).eval s.view = .ok b ∧ b.Accounts s user (s.activeIds user) ∧
      ∀ id ∈ s.activeIds user, ∃ n, s.wanted? user id = some n :=
  ⟨fun ids => ⟨_, eval_aggregate huser rfl, h.accounts_bundle hstocked user ids⟩,
    ⟨_, eval_aggregate huser rfl, h.accounts_bundle hstocked user _,
      fun _ hid => h.wanted?_of_mem_activeIds hid⟩⟩

end Aggregate

theorem Corner.stocked_store : store.Stocked := by
  intro r hr hactive
  simp only [store, List.mem_cons, List.not_mem_nil, or_false] at hr
  rcases hr with rfl | rfl
  · exact ⟨2, rfl, by decide⟩
  · exact absurd hactive (by decide)

/-- The corner shop accounts for every variant: for the tea in the cart, for the jam that
was taken out, and for what it never sold. -/
theorem aggregate_accounts_corner :
    Corner.store.Keys ∧ Corner.store.Stocked ∧ Corner.store.serves Corner.user = true ∧
      ((∀ ids, ∃ b,
          (aggregate Corner.user (.variants ids) none).eval Corner.store.view = .ok b ∧
            b.Accounts Corner.store Corner.user ids) ∧
        ∃ b, (listCart Corner.user).eval Corner.store.view = .ok b ∧
          b.Accounts Corner.store Corner.user (Corner.store.activeIds Corner.user) ∧
          ∀ id ∈ Corner.store.activeIds Corner.user,
            ∃ n, Corner.store.wanted? Corner.user id = some n) :=
  ⟨Corner.keys_store, Corner.stocked_store, by decide,
    aggregate_accounts Corner.keys_store Corner.stocked_store (by decide)⟩

end Storefront
