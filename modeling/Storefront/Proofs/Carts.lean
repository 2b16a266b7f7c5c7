/-
The rows of one customer.

What a customer can see of the rows is their cart: variants with what their rows hold, in
the order of the listing.  It is determined by two things, the order of the variants and
the map from variants to contents, and a mutation acts on each of them separately.  On the
contents it takes a step for each row that it is about (`Mutation.run_of_admits`).  The
order of the variants it leaves alone, but that a new row comes last (`variantsOf_run`) where
it is given a time and an id that are after all others.  Where it is not, as with a clock that
goes back, it is listed among the old rows, and these keep their order.
-/
import Storefront.Proofs.Lines
import Storefront.Proofs.RowMachine

namespace Storefront

/-! ### The listing -/

namespace CartRow

theorem notAfter_trans (a b c : CartRow) (hab : a.notAfter b = true) (hbc : b.notAfter c = true) :
    a.notAfter c = true := by
  simp only [notAfter, Bool.or_eq_true, Bool.and_eq_true, decide_eq_true_eq, beq_iff_eq] at *
  omega

theorem notAfter_total (a b : CartRow) : (a.notAfter b || b.notAfter a) = true := by
  simp only [notAfter, Bool.or_eq_true, Bool.and_eq_true, decide_eq_true_eq, beq_iff_eq]
  omega

theorem id_eq_of_notAfter {a b : CartRow} (hab : a.notAfter b = true) (hba : b.notAfter a = true) :
    a.id = b.id := by
  simp only [notAfter, Bool.or_eq_true, Bool.and_eq_true, decide_eq_true_eq, beq_iff_eq] at *
  omega

end CartRow

/-- New rows are listed after all rows that are there. -/
def Givens.Later (givens : Givens) : Prop :=
  ∀ s : Store, ∀ r ∈ s.rows,
    r.createdAt < givens.time s ∨ r.createdAt = givens.time s ∧ r.id < givens.row s

namespace Store

variable {s s' : Store} {user variant : Uuid} {givens : Givens}

theorem mem_listing {r : CartRow} : r ∈ s.listing ↔ r ∈ s.rows :=
  List.mem_mergeSort

theorem pairwise_listing (s : Store) :
    s.listing.Pairwise fun a b => a.notAfter b = true :=
  List.pairwise_mergeSort CartRow.notAfter_trans CartRow.notAfter_total s.rows

theorem Keys.nodup_rows (h : s.Keys) : s.rows.Nodup :=
  h.ids.of_map _

theorem Keys.nodup_listing (h : s.Keys) : s.listing.Nodup :=
  (List.mergeSort_perm s.rows _).nodup_iff.mpr h.nodup_rows

/-- Two sorted lists of the same rows are one list. -/
theorem Keys.eq_of_sorted (h : s.Keys) {l l' : List CartRow} (hmem : ∀ r ∈ l, r ∈ s.rows)
    (hsorted : l.Pairwise fun a b => a.notAfter b = true)
    (hsorted' : l'.Pairwise fun a b => a.notAfter b = true) (hperm : l.Perm l') : l = l' := by
  refine List.Perm.eq_of_pairwise ?_ hsorted hsorted' hperm
  intro a b ha hb hab hba
  exact List.inj_on_of_nodup_map h.ids (hmem a ha) (hmem b (hperm.mem_iff.mpr hb))
    (CartRow.id_eq_of_notAfter hab hba)

/-- Rows of a class are listed in one order, whatever the other rows are. -/
theorem Keys.filter_listing_congr (h : s.Keys) (h' : s'.Keys) {p : CartRow → Bool}
    (hsame : ∀ r, p r = true → (r ∈ s.rows ↔ r ∈ s'.rows)) :
    s.listing.filter p = s'.listing.filter p := by
  refine h.eq_of_sorted ?_ (s.pairwise_listing.filter p) (s'.pairwise_listing.filter p)
    ((List.perm_ext_iff_of_nodup (h.nodup_listing.filter p) (h'.nodup_listing.filter p)).mpr ?_)
  · intro r hr
    exact mem_listing.mp (List.mem_of_mem_filter hr)
  · intro r
    simp only [List.mem_filter, mem_listing]
    exact and_congr_left fun hp => hsame r hp

/-- A write leaves every row in its place. -/
theorem listing_overwrite (s : Store) (p : CartRow → Bool) (f : Holding → Holding) :
    (s.overwrite p f).listing =
      s.listing.map fun r => if p r then { r with holding := f r.holding } else r := by
  refine (List.map_mergeSort fun a _ b _ => ?_).symm
  by_cases ha : p a <;> by_cases hb : p b <;> simp [CartRow.notAfter, ha, hb]

/-- A row that is given a later place is listed last. -/
theorem Keys.listing_inserted (h : s.Keys) (hnone : s.row? user variant = none)
    (hlater : givens.Later) (holding : Holding) :
    (s.inserted givens user variant holding).listing =
      s.listing ++ [⟨givens.row s, givens.time s, user, variant, holding⟩] := by
  have hperm : (s.listing ++
        [(⟨givens.row s, givens.time s, user, variant, holding⟩ : CartRow)]).Perm
      (s.inserted givens user variant holding).rows :=
    (List.mergeSort_perm s.rows _).append_right _
  have hkeys : (s.inserted givens user variant holding).Keys := h.inserted hnone holding
  refine (hkeys.eq_of_sorted ?_ ?_ (pairwise_listing _) ?_).symm
  · intro r hr
    exact hperm.mem_iff.mp hr
  · refine List.pairwise_append.mpr ⟨s.pairwise_listing, List.pairwise_singleton _ _, ?_⟩
    intro a ha b hb
    rw [List.mem_singleton.mp hb]
    rcases hlater s a (mem_listing.mp ha) with htime | ⟨htime, hid⟩
    · simp [CartRow.notAfter, htime]
    · simp [CartRow.notAfter, htime, hid.le]
  · exact hperm.trans (List.mergeSort_perm _ _).symm

/-! ### Carts -/

/-- The variants of the rows of a customer, in the order of the listing. -/
def variantsOf (s : Store) (user : Uuid) : List Uuid :=
  (s.listing.filter (·.user == user)).map (·.variant)

/-- The rows of a customer in the order of the listing, without their ids and times. -/
def cart (s : Store) (user : Uuid) : List (Uuid × Holding) :=
  (s.listing.filter (·.user == user)).map fun r => (r.variant, r.holding)

/-- What is listed of a customer is found under its variant. -/
theorem Keys.holding?_of_mem (h : s.Keys) {r : CartRow}
    (hr : r ∈ s.listing.filter (·.user == user)) :
    s.holding? user r.variant = some r.holding := by
  obtain ⟨hmem, huser⟩ := List.mem_filter.mp hr
  have hrow : s.row? user r.variant = some r := by
    refine h.row?_eq_some.mpr ⟨mem_listing.mp hmem, ?_⟩
    rw [← beq_iff_eq.mp huser, CartRow.pair]
  rw [holding?, hrow]
  rfl

/-- A cart is its variants with what their rows hold. -/
theorem Keys.cart_eq (h : s.Keys) (user : Uuid) :
    s.cart user = (s.variantsOf user).filterMap fun variant =>
      (s.holding? user variant).map fun holding => (variant, holding) := by
  rw [cart, variantsOf, List.filterMap_map, ← List.filterMap_eq_map]
  refine List.filterMap_congr fun r hr => ?_
  simp only [Function.comp_apply, h.holding?_of_mem hr, Option.map_some]

theorem Keys.activeIds_eq (h : s.Keys) (user : Uuid) :
    s.activeIds user =
      (s.variantsOf user).filter fun variant => (s.holding? user variant).any (·.active) := by
  have hactive : s.activeIds user =
      ((s.listing.filter (·.user == user)).filter (·.holding.active)).map (·.variant) := by
    rw [activeIds, List.filter_filter]
    congr 2
    funext r
    exact Bool.and_comm ..
  rw [hactive, variantsOf, List.filter_map]
  congr 1
  refine List.filter_congr fun r hr => ?_
  rw [Function.comp_apply, h.holding?_of_mem hr]
  rfl

theorem variantsOf_overwrite (s : Store) (p : CartRow → Bool) (f : Holding → Holding)
    (user : Uuid) : (s.overwrite p f).variantsOf user = s.variantsOf user := by
  rw [variantsOf, listing_overwrite, List.filter_map, List.map_map, variantsOf]
  have huser : ((fun r : CartRow => r.user == user) ∘ fun r =>
      if p r then { r with holding := f r.holding } else r) = fun r => r.user == user := by
    funext r
    by_cases h : p r <;> simp [h]
  rw [huser]
  refine List.map_congr_left fun r _ => ?_
  by_cases h : p r <;> simp [h]

theorem Keys.variantsOf_inserted (h : s.Keys) {owner : Uuid}
    (hnone : s.row? owner variant = none) (hlater : givens.Later) (holding : Holding)
    (user : Uuid) :
    (s.inserted givens owner variant holding).variantsOf user =
      s.variantsOf user ++ if owner = user then [variant] else [] := by
  rw [variantsOf, h.listing_inserted hnone hlater, List.filter_append, List.map_append, variantsOf]
  by_cases huser : owner = user
  · simp [huser]
  · simp [huser]

end Store

/-! ### Mutations -/

theorem Change.between_eq_insert {user user' variant variant' : Uuid} {row : Option CartRow}
    {after : Option Holding} {holding : Holding}
    (h : Change.between user variant row after = .insert user' variant' holding) :
    user' = user ∧ variant' = variant := by
  cases row <;> cases after <;> cases h
  exact ⟨rfl, rfl⟩

/-- Where every row was there before, no variant is new. -/
theorem Store.filter_new_eq_nil {s s' : Store} {user : Uuid}
    (h : ∀ variant, (s'.holding? user variant).isSome = (s.holding? user variant).isSome)
    (variants : List Uuid) :
    (variants.filter fun variant =>
      (s.holding? user variant).isNone && (s'.holding? user variant).isSome) = [] := by
  refine List.filter_eq_nil_iff.mpr fun variant _ => ?_
  rw [h]
  cases s.holding? user variant <;> simp

/-- **A mutation leaves the order of a cart alone, but that a new row comes last.** -/
theorem Mutation.variantsOf_run {s : Store} (h : s.Keys) (m : Mutation) {c : Conditions}
    (hlater : c.givens.Later) (user : Uuid) :
    (m.run c s).2.variantsOf user =
      s.variantsOf user ++ m.variant?.toList.filter fun variant =>
        (s.holding? user variant).isNone && ((m.run c s).2.holding? user variant).isSome := by
  have hkept : ∀ s' : Store, s'.variantsOf user = s.variantsOf user →
      (∀ variant, (s'.holding? user variant).isSome = (s.holding? user variant).isSome) →
      s'.variantsOf user = s.variantsOf user ++ m.variant?.toList.filter fun variant =>
        (s.holding? user variant).isNone && (s'.holding? user variant).isSome := by
    intro s' hvariants hsome
    rw [hvariants, Store.filter_new_eq_nil hsome, List.append_nil]
  have hoverwrite : ∀ (p : CartRow → Bool) (f : Holding → Holding) (variant : Uuid),
      ((s.overwrite p f).holding? user variant).isSome = (s.holding? user variant).isSome := by
    intro p f variant
    simp only [Store.holding?, Store.row?_overwrite, Option.isSome_map]
  rcases m.run_cases c s with ⟨f, hrun⟩ | ⟨d, s', rows, hplan, happly, hrun⟩
  · rw [hrun]
    exact hkept s rfl fun _ => rfl
  · rw [hrun]
    rcases Store.apply_cases happly with ⟨owner, item, holding, hchange, hnone, rfl⟩ |
      ⟨_, columns, -, rfl⟩ | ⟨owner, -, rfl⟩ | ⟨-, rfl⟩
    · -- The new row is the one that the mutation is about.
      obtain ⟨-, ⟨-, rfl⟩ | ⟨variant, status, after, hvariant, -, rfl⟩⟩ := of_eval_plan hplan
      · cases hchange
      · obtain ⟨rfl, rfl⟩ := Change.between_eq_insert hchange
        have hnew := h.variantsOf_inserted hnone hlater holding user
        by_cases huser : m.user = user
        · subst huser
          rw [hnew, hvariant]
          simp [Store.holding?, hnone, Store.row?_inserted hnone]
        · rw [if_neg huser, List.append_nil] at hnew
          refine hkept _ hnew fun other => ?_
          have hne : (user, other) ≠ (m.user, item) := by
            intro heq
            exact huser (Prod.mk.inj heq).1.symm
          rw [Store.holding?, Store.row?_inserted hnone, if_neg hne, Store.holding?]
    · exact hkept _ (Store.variantsOf_overwrite ..) (hoverwrite _ _)
    · exact hkept _ (Store.variantsOf_overwrite ..) (hoverwrite _ _)
    · exact hkept _ rfl fun _ => rfl

end Storefront
