/-
What a bundle holds depends on what is asked for, not on how.

Each variant that is asked for leaves its own mark in a bundle: a priced variant, an invalid
item, or nothing.  `Bundle.Lists` says that a bundle holds the marks of some variants, in some
order, and that its totals are those of its variants.  A bundle lists the distinct ids of its
request, so requests for the same ids make bundles with the same contents, and the bundle of
two requests in one holds what the bundles of the two hold.

The marks are said of any way of finding lines, because the quantity of a line may be the one
in the cart or one that is given with the request.
-/
import Storefront.Proofs.Accounting
import Storefront.Proofs.Audit

namespace Storefront

/-- Where at most one of two functions has a value, their values are those of both in one. -/
theorem perm_filterMap_or {α β : Type} {f g : α → Option β} (h : ∀ a, f a = none ∨ g a = none)
    (as : List α) :
    (as.filterMap f ++ as.filterMap g).Perm (as.filterMap fun a => (f a).or (g a)) := by
  induction as with
  | nil => exact .refl _
  | cons a rest ih =>
      cases hf : f a with
      | some b =>
          have hg : g a = none := (h a).resolve_left (by simp [hf])
          simpa [hf, hg] using ih
      | none =>
          cases hg : g a with
          | none => simpa [hf, hg] using ih
          | some b => simpa [hf, hg] using List.perm_middle.trans (ih.cons b)

namespace Bundle

/-! ### Two bundles with the same contents, and one with the contents of two -/

/-- Two bundles hold the same variants and invalid items, in an order of their own, and have
the same totals. -/
structure SameContents (b b' : Bundle) : Prop where
  variants : b.variants.Perm b'.variants
  invalid : b.invalid.Perm b'.invalid
  subtotal : b.subtotal = b'.subtotal
  weightGrams : b.weightGrams = b'.weightGrams
  count : b.count = b'.count

/-- A bundle holds the variants and the invalid items of two, and has the sums of their
totals. -/
structure Joins (b b₁ b₂ : Bundle) : Prop where
  variants : b.variants.Perm (b₁.variants ++ b₂.variants)
  invalid : b.invalid.Perm (b₁.invalid ++ b₂.invalid)
  subtotal : b.subtotal = b₁.subtotal + b₂.subtotal
  weightGrams : b.weightGrams = b₁.weightGrams + b₂.weightGrams
  count : b.count = b₁.count + b₂.count

theorem audited_ofLines (lines : List CartLine) (requested : List Uuid) :
    (ofLines lines requested).Audited :=
  have hloop : (lines.foldl add empty).Audited := audited_empty.foldl lines
  ⟨hloop.subtotal_eq, hloop.weightGrams_eq, hloop.count_eq, hloop.fair⟩

/-- The totals of a bundle do not depend on the order of its variants. -/
theorem Audited.totals_of_perm {b : Bundle} (h : b.Audited) {vs : List PricedVariant}
    (hperm : b.variants.Perm vs) :
    b.subtotal = (vs.map (·.total)).sum ∧
      b.weightGrams = (vs.map fun v => v.quantity * v.weightGrams).sum ∧
      b.count = vs.length :=
  ⟨h.subtotal_eq.trans (hperm.map _).sum_eq, h.weightGrams_eq.trans (hperm.map _).sum_eq,
    h.count_eq.trans hperm.length_eq⟩

theorem SameContents.of_perm {b b' : Bundle} (h : b.Audited) (h' : b'.Audited)
    (hvariants : b.variants.Perm b'.variants) (hinvalid : b.invalid.Perm b'.invalid) :
    b.SameContents b' := by
  obtain ⟨hsubtotal, hweight, hcount⟩ := h.totals_of_perm hvariants
  exact ⟨hvariants, hinvalid, hsubtotal.trans h'.subtotal_eq.symm,
    hweight.trans h'.weightGrams_eq.symm, hcount.trans h'.count_eq.symm⟩

theorem Joins.of_perm {b b₁ b₂ : Bundle} (h : b.Audited) (h₁ : b₁.Audited) (h₂ : b₂.Audited)
    (hvariants : b.variants.Perm (b₁.variants ++ b₂.variants))
    (hinvalid : b.invalid.Perm (b₁.invalid ++ b₂.invalid)) : b.Joins b₁ b₂ := by
  obtain ⟨hsubtotal, hweight, hcount⟩ := h.totals_of_perm hvariants
  rw [List.map_append, List.sum_append] at hsubtotal hweight
  rw [List.length_append] at hcount
  rw [← h₁.subtotal_eq, ← h₂.subtotal_eq] at hsubtotal
  rw [← h₁.weightGrams_eq, ← h₂.weightGrams_eq] at hweight
  rw [← h₁.count_eq, ← h₂.count_eq] at hcount
  exact ⟨hvariants, hinvalid, hsubtotal, hweight, hcount⟩

/-! ### What a bundle lists -/

variable {find : Uuid → Option CartLine} {b b₁ b₂ : Bundle} {asked asked₁ asked₂ : List Uuid}

/-- What a variant leaves among the invalid items. -/
def invalidOf? (find : Uuid → Option CartLine) (id : Uuid) : Option InvalidItem :=
  match find id with
  | none => some (.notFound id)
  | some l => l.invalid?

/-- A bundle holds what some variants leave in it, in some order, and nothing else. -/
structure Lists (b : Bundle) (find : Uuid → Option CartLine) (asked : List Uuid) : Prop where
  audited : b.Audited
  variants : b.variants.Perm (asked.filterMap fun id => (find id).bind (·.valid?))
  invalid : b.invalid.Perm (asked.filterMap (invalidOf? find))

/-- The bundle of lines that are looked up lists the distinct ids of its request. -/
theorem lists_ofLines (hfind : ∀ id l, find id = some l → l.snapshot.variant.id = id)
    (ids : List Uuid) :
    (ofLines ((distinct ids).filterMap find) ids).Lists find (distinct ids) where
  audited := audited_ofLines _ ids
  variants := by
    refine (perm_variants_ofLines _ ids).trans ?_
    rw [List.filterMap_filterMap]
  invalid := by
    have hor : invalidOf? find = fun id => ((find id).bind (·.invalid?)).or
        (if (find id).isNone then some (.notFound id) else none) := by
      funext id
      unfold invalidOf?
      cases find id <;> simp
    have hone : ∀ id, (find id).bind (·.invalid?) = none ∨
        (if (find id).isNone then some (InvalidItem.notFound id) else none) = none := by
      intro id
      cases find id <;> simp
    rw [invalid_ofLines, missing_filterMap hfind, List.filterMap_filterMap,
      ← List.filterMap_eq_map, List.filterMap_filter, hor]
    exact perm_filterMap_or hone (distinct ids)

/-- Bundles that list the same ids have the same contents. -/
theorem Lists.sameContents (h₁ : b₁.Lists find asked₁) (h₂ : b₂.Lists find asked₂)
    (hasked : asked₁.Perm asked₂) : b₁.SameContents b₂ :=
  .of_perm h₁.audited h₂.audited
    (h₁.variants.trans ((hasked.filterMap _).trans h₂.variants.symm))
    (h₁.invalid.trans ((hasked.filterMap _).trans h₂.invalid.symm))

/-- A bundle that lists the ids of two has the contents of both. -/
theorem Lists.joins (h : b.Lists find (asked₁ ++ asked₂)) (h₁ : b₁.Lists find asked₁)
    (h₂ : b₂.Lists find asked₂) : b.Joins b₁ b₂ := by
  refine .of_perm h.audited h₁.audited h₂.audited ?_ ?_
  · refine h.variants.trans ?_
    rw [List.filterMap_append]
    exact h₁.variants.symm.append h₂.variants.symm
  · refine h.invalid.trans ?_
    rw [List.filterMap_append]
    exact h₁.invalid.symm.append h₂.invalid.symm

end Bundle

/-! ### The bundle of a request -/

namespace Store

variable {s : Store} {user : Uuid}

/-- The line of a variant for a customer, at another quantity if one is given. -/
def lineAt? (s : Store) (user : Uuid) (quantity : Option Int) (id : Uuid) : Option CartLine :=
  (s.line? user id).map fun l => quantity.elim l l.withQuantity

theorem lineAt?_id (quantity : Option Int) (id : Uuid) (l : CartLine)
    (h : s.lineAt? user quantity id = some l) : l.snapshot.variant.id = id := by
  obtain ⟨l', hl', rfl⟩ := Option.map_eq_some_iff.mp h
  have hid : l'.snapshot.variant.id = id := line?_id hl'
  cases quantity <;> exact hid

theorem ReadKeys.withQuantities_lines (h : s.ReadKeys) (user : Uuid) (quantity : Option Int)
    (ids : List Uuid) :
    withQuantities quantity (s.lines user ids) =
      (distinct ids).filterMap (s.lineAt? user quantity) := by
  rw [h.lines_eq]
  cases quantity with
  | none =>
      refine List.filterMap_congr fun id _ => ?_
      rw [lineAt?]
      cases s.line? user id <;> rfl
  | some n =>
      rw [withQuantities, List.map_filterMap]
      rfl

/-- The bundle of a request at a quantity, if one is given. -/
def bundleAt (s : Store) (user : Uuid) (quantity : Option Int) (ids : List Uuid) : Bundle :=
  .ofLines (withQuantities quantity (s.lines user ids)) ids

theorem ReadKeys.lists_bundleAt (h : s.ReadKeys) (user : Uuid) (quantity : Option Int)
    (ids : List Uuid) :
    (s.bundleAt user quantity ids).Lists (s.lineAt? user quantity) (distinct ids) := by
  rw [bundleAt, h.withQuantities_lines]
  exact Bundle.lists_ofLines (lineAt?_id quantity) ids

/-- An id that is asked for again is passed over. -/
theorem bundleAt_distinct (s : Store) (user : Uuid) (quantity : Option Int) (ids : List Uuid) :
    s.bundleAt user quantity (distinct ids) = s.bundleAt user quantity ids := by
  have hids : distinct (distinct ids) = distinct ids := distinct_of_nodup nodup_distinct
  simp only [bundleAt, Bundle.ofLines, Bundle.missing, lines, hids]

end Store

/-- **What is aggregated does not depend on how it is asked for**, with a quantity of the
request or without.  Ids that are asked for again change nothing; another order changes no
more than the order of what is held; and two requests without a common id make one whose
bundle holds what the bundles of the two hold. -/
theorem aggregate_combines {s : Store} {user : Uuid} (h : s.ReadKeys)
    (huser : s.serves user = true) (quantity : Option Int) :
    (∀ ids, (aggregate user (.variants ids) quantity).eval s.view =
      (aggregate user (.variants (distinct ids)) quantity).eval s.view) ∧
    (∀ ids ids' : List Uuid, ids.Perm ids' → ∃ b b',
      (aggregate user (.variants ids) quantity).eval s.view = .ok b ∧
      (aggregate user (.variants ids') quantity).eval s.view = .ok b' ∧ b.SameContents b') ∧
    ∀ ids₁ ids₂ : List Uuid, ids₁.Disjoint ids₂ → ∃ b b₁ b₂,
      (aggregate user (.variants (ids₁ ++ ids₂)) quantity).eval s.view = .ok b ∧
      (aggregate user (.variants ids₁) quantity).eval s.view = .ok b₁ ∧
      (aggregate user (.variants ids₂) quantity).eval s.view = .ok b₂ ∧ b.Joins b₁ b₂ := by
  have heval : ∀ ids, (aggregate user (.variants ids) quantity).eval s.view =
      .ok (s.bundleAt user quantity ids) := fun ids => eval_aggregate huser rfl
  refine ⟨?_, ?_, ?_⟩
  · intro ids
    rw [heval, heval, s.bundleAt_distinct]
  · intro ids ids' hperm
    exact ⟨_, _, heval ids, heval ids',
      (h.lists_bundleAt user quantity ids).sameContents (h.lists_bundleAt user quantity ids')
        (perm_distinct hperm)⟩
  · intro ids₁ ids₂ hdisjoint
    have hboth := h.lists_bundleAt user quantity (ids₁ ++ ids₂)
    rw [distinct_append_of_disjoint hdisjoint] at hboth
    exact ⟨_, _, _, heval (ids₁ ++ ids₂), heval ids₁, heval ids₂,
      hboth.joins (h.lists_bundleAt user quantity ids₁) (h.lists_bundleAt user quantity ids₂)⟩

/-- Three of each are asked for in the corner shop: tea again and again, jam before tea, and
jam with a variant that was never sold beside tea. -/
theorem aggregate_combines_corner :
    let bundle := fun ids =>
      (aggregate Corner.user (.variants ids) (some 3)).eval Corner.store.view
    let jamAndNothing := [Corner.jam, .ofNat 9]
    Corner.store.ReadKeys ∧ Corner.store.serves Corner.user = true ∧
      bundle [Corner.tea, Corner.jam, Corner.tea] =
        bundle (distinct [Corner.tea, Corner.jam, Corner.tea]) ∧
      [Corner.tea, Corner.jam].Perm [Corner.jam, Corner.tea] ∧
      (∃ b b', bundle [Corner.tea, Corner.jam] = .ok b ∧
        bundle [Corner.jam, Corner.tea] = .ok b' ∧ b.SameContents b') ∧
      [Corner.tea].Disjoint jamAndNothing ∧
      ∃ b b₁ b₂, bundle ([Corner.tea] ++ jamAndNothing) = .ok b ∧ bundle [Corner.tea] = .ok b₁ ∧
        bundle jamAndNothing = .ok b₂ ∧ b.Joins b₁ b₂ := by
  have hkeys : Corner.store.ReadKeys := Corner.keys_store.readKeys
  have hdisjoint : [Corner.tea].Disjoint [Corner.jam, .ofNat 9] := by
    intro id htea hother
    obtain rfl := List.mem_singleton.mp htea
    exact absurd hother (by decide)
  have hserves : Corner.store.serves Corner.user = true := rfl
  obtain ⟨hagain, hperm, hjoin⟩ := aggregate_combines hkeys hserves (some 3)
  exact ⟨hkeys, hserves, hagain _, .swap .., hperm _ _ (.swap ..), hdisjoint, hjoin _ _ hdisjoint⟩

end Storefront
