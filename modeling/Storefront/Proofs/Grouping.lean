/-
The groups of a bundle are a stable grouping of its lines.

The loop that builds a bundle edits nested lists in place: a line goes into the group of
its seller, and there into the group of its product, and either group is made when it is
missing.  `groups` says without a loop what comes out of this: one group for each key, in
the order in which the keys first occur, made from the first line with the key and from
all lines with it.  Sellers are grouped this way, and so are the products of each seller.

`upsert_groups` is the invariant of the loop, for any such grouping: the edit for one more
element is the grouping of one more element.  It holds for products on their own, and the
edit of a seller's group is the edit of its products, so the two levels are two uses of
it.  What is then said of single groups is read off the grouping and not off the loop.
-/
import Storefront.Proofs.Bundles
import Storefront.Proofs.Lines

namespace Storefront

/-! ### Stable grouping -/

section Groups

variable {α β κ : Type} [DecidableEq κ]

/-- The elements that are the first ones with their key, in their order. -/
def firsts (key : α → κ) (as : List α) : List α :=
  (distinct (as.map key)).filterMap fun k => as.find? (key · == k)

/-- One group for each key, in the order in which the keys first occur, made from the first
element with the key and from all elements with the key. -/
def groups (key : α → κ) (build : α → List α → β) (as : List α) : List β :=
  (firsts key as).map fun a => build a (as.filter (key · == key a))

variable {key : α → κ} {as : List α} {a : α}

theorem find?_of_mem_firsts (h : a ∈ firsts key as) : as.find? (key · == key a) = some a := by
  obtain ⟨k, -, hfind⟩ := List.mem_filterMap.mp h
  have hkey : key a = k := by simpa using List.find?_some hfind
  rw [hkey]
  exact hfind

theorem map_firsts : (firsts key as).map key = distinct (as.map key) := by
  rw [firsts, List.map_filterMap]
  have hall : ∀ k ∈ distinct (as.map key), (as.find? (key · == k)).map key = some k := by
    intro k hk
    obtain ⟨b, hb, hkey⟩ := List.mem_map.mp (mem_distinct.mp hk)
    have hsome : (as.find? (key · == k)).isSome :=
      List.find?_isSome.mpr ⟨b, hb, by simpa using hkey⟩
    obtain ⟨c, hc⟩ := Option.isSome_iff_exists.mp hsome
    have hckey : key c = k := by simpa using List.find?_some hc
    rw [hc, Option.map_some, hckey]
  rw [List.filterMap_congr hall, List.filterMap_some]

/-- One more element is a first one when its key has not occurred before. -/
theorem firsts_concat :
    firsts key (as ++ [a]) =
      firsts key as ++ if key a ∈ as.map key then [] else [a] := by
  have hold : ((distinct (as.map key)).filterMap fun k => (as ++ [a]).find? (key · == k)) =
      firsts key as := by
    refine List.filterMap_congr fun k hk => ?_
    obtain ⟨b, hb, hkey⟩ := List.mem_map.mp (mem_distinct.mp hk)
    have hsome : (as.find? (key · == k)).isSome :=
      List.find?_isSome.mpr ⟨b, hb, by simpa using hkey⟩
    rw [List.find?_append, Option.or_of_isSome hsome]
  rw [firsts, List.map_append, List.map_singleton, distinct_concat]
  by_cases hmem : key a ∈ as.map key
  · rw [if_pos hmem, if_pos hmem, hold, List.append_nil]
  · have hnone : as.find? (key · == key a) = none := by
      rw [List.find?_eq_none]
      intro b hb hkey
      exact hmem (List.mem_map.mpr ⟨b, hb, by simpa using hkey⟩)
    rw [if_neg hmem, if_neg hmem, List.filterMap_append, hold]
    simp [List.find?_append, hnone]

/-- Editing the one element of a list that has a key. -/
theorem upsert_map {p : β → Bool} {fresh : β} {edit : β → β} {build : α → β} {k : κ}
    (build' : α → β) {as : List α} (h : (as.map key).Nodup)
    (hp : ∀ a ∈ as, p (build a) = (key a == k))
    (hedit : ∀ a ∈ as, key a = k → edit (build a) = build' a)
    (hkeep : ∀ a ∈ as, key a ≠ k → build' a = build a) :
    upsert p fresh edit (as.map build) =
      as.map build' ++ if k ∈ as.map key then [] else [edit fresh] := by
  induction as with
  | nil => rfl
  | cons a rest ih =>
      obtain ⟨hnew, hrest⟩ := List.nodup_cons.mp h
      simp only [List.map_cons, upsert, hp a (List.mem_cons_self ..), beq_iff_eq]
      by_cases hkey : key a = k
      · have hothers : rest.map build = rest.map build' := by
          refine List.map_congr_left fun b hb => (hkeep b (List.mem_cons_of_mem a hb) ?_).symm
          rintro hbk
          exact hnew (List.mem_map.mpr ⟨b, hb, hbk.trans hkey.symm⟩)
        rw [if_pos hkey, hedit a (List.mem_cons_self ..) hkey, hothers,
          if_pos (List.mem_cons.mpr (Or.inl hkey.symm)), List.append_nil]
      · have hmem : k ∈ key a :: rest.map key ↔ k ∈ rest.map key := by
          rw [List.mem_cons, or_iff_right (Ne.symm hkey)]
        rw [if_neg hkey, hkeep a (List.mem_cons_self ..) hkey, if_congr hmem rfl rfl,
          ih hrest (fun b hb => hp b (List.mem_cons_of_mem a hb))
            (fun b hb => hedit b (List.mem_cons_of_mem a hb))
            fun b hb => hkeep b (List.mem_cons_of_mem a hb)]
        rfl

/-- **Editing the group of one more element gives the groups of one more element.** -/
theorem upsert_groups (key : α → κ) (build : α → List α → β) {p : β → Bool} {fresh : β}
    {edit : β → β} (hp : ∀ b bs, p (build b bs) = (key b == key a))
    (hfresh : edit fresh = build a [a])
    (hedit : ∀ b bs, edit (build b bs) = build b (bs ++ [a])) (as : List α) :
    upsert p fresh edit (groups key build as) = groups key build (as ++ [a]) := by
  have hnodup : ((firsts key as).map key).Nodup := by
    rw [map_firsts]
    exact nodup_distinct
  have hmem : key a ∈ (firsts key as).map key ↔ key a ∈ as.map key := by
    rw [map_firsts, mem_distinct]
  rw [groups, upsert_map (fun b => build b ((as ++ [a]).filter (key · == key b))) hnodup
    (fun b _ => hp b _), groups, firsts_concat, if_congr hmem rfl rfl, List.map_append]
  · congr 1
    by_cases hold : key a ∈ as.map key
    · rw [if_pos hold, if_pos hold, List.map_nil]
    · have hnone : as.filter (key · == key a) = [] := by
        rw [List.filter_eq_nil_iff]
        intro b hb hkey
        exact hold (List.mem_map.mpr ⟨b, hb, by simpa using hkey⟩)
      rw [if_neg hold, if_neg hold, List.map_singleton, List.filter_append, hnone, hfresh]
      simp
  · intro b _ hkey
    rw [hedit, List.filter_append, hkey]
    simp
  · intro b _ hkey
    rw [List.filter_append]
    simp [Ne.symm hkey]

theorem mem_groups {build : α → List α → β} {g : β} (h : g ∈ groups key build as) :
    ∃ a, as.find? (key · == key a) = some a ∧ g = build a (as.filter (key · == key a)) := by
  obtain ⟨a, ha, rfl⟩ := List.mem_map.mp h
  exact ⟨a, find?_of_mem_firsts ha, rfl⟩

theorem map_groups {build : α → List α → β} {f : β → κ} (hf : ∀ a as, f (build a as) = key a) :
    (groups key build as).map f = distinct (as.map key) := by
  rw [groups, List.map_map, ← map_firsts]
  exact List.map_congr_left fun a _ => hf a _

/-- Every element has a group. -/
theorem exists_mem_groups (key : α → κ) (build : α → List α → β) (ha : a ∈ as) :
    ∃ b, key b = key a ∧ build b (as.filter (key · == key a)) ∈ groups key build as := by
  have hmem : key a ∈ (firsts key as).map key := by
    rw [map_firsts, mem_distinct]
    exact List.mem_map_of_mem ha
  obtain ⟨b, hb, hkey⟩ := List.mem_map.mp hmem
  refine ⟨b, hkey, ?_⟩
  rw [← hkey]
  exact List.mem_map.mpr ⟨b, hb, rfl⟩

end Groups

/-! ### Sellers and products -/

namespace CartLine

/-- The seller of a line. -/
def sellerId (l : CartLine) : Uuid := l.snapshot.seller.id

/-- The product of a line. -/
def productId (l : CartLine) : Uuid := l.snapshot.product.id

/-- Whether a line is asked for and can be bought. -/
def isSold (l : CartLine) : Bool := 0 < l.quantity && l.snapshot.isEligible

/-- The group of a product, with the texts of one line and the variants of some. -/
def productOf (l : CartLine) (ls : List CartLine) : ProductGroup :=
  { l.productGroup with variants := ls.map (·.priced) }

/-- The group of a seller, with the texts of one line and the products of some. -/
def sellerOf (l : CartLine) (ls : List CartLine) : SellerGroup :=
  { l.sellerGroup with products := groups productId productOf ls }

theorem intoProducts_groups (l : CartLine) (ls : List CartLine) :
    l.intoProducts (groups productId productOf ls) = groups productId productOf (ls ++ [l]) := by
  have hedit : ∀ b bs, { productOf b bs with variants := (productOf b bs).variants ++ [l.priced] } =
      productOf b (bs ++ [l]) := by
    intro b bs
    simp [productOf]
  unfold intoProducts
  exact upsert_groups productId productOf (fun _ _ => rfl) rfl hedit ls

/-- The edit of a seller's group is the edit of its products. -/
theorem intoSellers_groups (l : CartLine) (ls : List CartLine) :
    l.intoSellers (groups sellerId sellerOf ls) = groups sellerId sellerOf (ls ++ [l]) := by
  have hedit : ∀ b bs, { sellerOf b bs with products := l.intoProducts (sellerOf b bs).products } =
      sellerOf b (bs ++ [l]) := by
    intro b bs
    simp only [sellerOf, l.intoProducts_groups]
  have hfresh : { l.sellerGroup with products := l.intoProducts [] } = sellerOf l [l] :=
    congrArg (fun products => { l.sellerGroup with products }) (l.intoProducts_groups [])
  unfold intoSellers
  exact upsert_groups sellerId sellerOf (fun _ _ => rfl) hfresh hedit ls

end CartLine

/-- The lines that are sold. -/
def soldLines (lines : List CartLine) : List CartLine :=
  lines.filter (·.isSold)

/-- Some lines grouped by seller, and the lines of each seller by product. -/
def sellerGroups (lines : List CartLine) : List SellerGroup :=
  groups CartLine.sellerId CartLine.sellerOf lines

theorem filterMap_valid? (lines : List CartLine) :
    lines.filterMap (·.valid?) = (soldLines lines).map (·.priced) := by
  rw [soldLines, ← List.filterMap_eq_map, List.filterMap_filter]
  rfl

namespace Bundle

/-- One more line is grouped when it is sold. -/
theorem sellers_add {b : Bundle} {sold : List CartLine} (h : b.sellers = sellerGroups sold)
    (l : CartLine) : (b.add l).sellers = sellerGroups (sold ++ soldLines [l]) := by
  unfold add
  by_cases hquantity : l.quantity ≤ 0
  · have hnot : ¬0 < l.quantity := by omega
    simp [hquantity, soldLines, CartLine.isSold, hnot, h]
  · have hpos : 0 < l.quantity := by omega
    cases heligible : l.snapshot.isEligible with
    | false => simp [hquantity, soldLines, CartLine.isSold, heligible, h]
    | true =>
        have hsold : soldLines [l] = [l] := by simp [soldLines, CartLine.isSold, hpos, heligible]
        simp only [hquantity, if_false, Bool.not_true, Bool.false_eq_true, h, hsold]
        exact l.intoSellers_groups sold

theorem sellers_foldl (b : Bundle) (sold : List CartLine) (h : b.sellers = sellerGroups sold)
    (lines : List CartLine) :
    (lines.foldl add b).sellers = sellerGroups (sold ++ soldLines lines) := by
  induction lines generalizing b sold with
  | nil => simpa [soldLines] using h
  | cons l rest ih =>
      rw [List.foldl_cons, ih _ _ (sellers_add h l), List.append_assoc]
      have hsplit : soldLines (l :: rest) = soldLines [l] ++ soldLines rest := by
        rw [soldLines, soldLines, soldLines, ← List.filter_append]
        rfl
      rw [hsplit]

end Bundle

/-! ### What the groups hold -/

/-- The groups of some lines: by seller and then by product, each in the order of its first
line, and nothing else. -/
structure Grouped (lines : List CartLine) (sellers : List SellerGroup) : Prop where
  /-- One group for each seller, in the order of the seller's first line. -/
  bySeller : sellers.map (·.seller) = distinct (lines.map (·.sellerId)) ∧
    (sellers.map (·.seller)).Nodup
  /-- One group for each product of a seller, in the order of its first line there. -/
  byProduct : ∀ g ∈ sellers,
    g.products.map (·.product) =
        distinct ((lines.filter (·.sellerId == g.seller)).map (·.productId)) ∧
      (g.products.map (·.product)).Nodup
  /-- The variants of exactly the lines with this seller and product, in their order. -/
  variants : ∀ g ∈ sellers, ∀ p ∈ g.products,
    p.variants = (lines.filter fun l => l.sellerId == g.seller && l.productId == p.product).map
      (·.priced)
  /-- The texts of a group are the ones of its first line. -/
  sellerTexts : ∀ g ∈ sellers, ∃ l, lines.find? (·.sellerId == g.seller) = some l ∧
    g.storeName = l.snapshot.seller.storeName
  productTexts : ∀ g ∈ sellers, ∀ p ∈ g.products, ∃ l,
    lines.find? (fun l => l.sellerId == g.seller && l.productId == p.product) = some l ∧
      p.title = l.snapshot.product.title ∧ p.description = l.snapshot.product.description ∧
      p.imageUrl = l.snapshot.product.imageUrl ∧ p.category = l.snapshot.product.category
  /-- No group is empty. -/
  filled : ∀ g ∈ sellers, g.products ≠ [] ∧ ∀ p ∈ g.products, p.variants ≠ []
  /-- Every line is in the group of its product under its own seller. -/
  kept : ∀ l ∈ lines, ∃ g ∈ sellers, g.seller = l.sellerId ∧
    ∃ p ∈ g.products, p.product = l.productId ∧ l.priced ∈ p.variants

section Grouped

variable {lines : List CartLine}

/-- A group of products is the group of some first line of its seller. -/
theorem of_mem_sellerGroups {g : SellerGroup} (hg : g ∈ sellerGroups lines) :
    ∃ l, lines.find? (·.sellerId == g.seller) = some l ∧
      g = l.sellerOf (lines.filter (·.sellerId == g.seller)) := by
  obtain ⟨l, hfirst, rfl⟩ := mem_groups hg
  exact ⟨l, hfirst, rfl⟩

/-- A product of a group is the group of the first line of the seller with this product. -/
theorem of_mem_products {g : SellerGroup} (hg : g ∈ sellerGroups lines) {p : ProductGroup}
    (hp : p ∈ g.products) :
    ∃ l, lines.find? (fun l => l.sellerId == g.seller && l.productId == p.product) = some l ∧
      p = l.productOf
        (lines.filter fun l => l.sellerId == g.seller && l.productId == p.product) := by
  obtain ⟨l, -, hgroup⟩ := of_mem_sellerGroups hg
  have hproducts : g.products =
      groups CartLine.productId CartLine.productOf (lines.filter (·.sellerId == g.seller)) :=
    congrArg SellerGroup.products hgroup
  rw [hproducts] at hp
  obtain ⟨l', hfirst, hbuilt⟩ := mem_groups hp
  have hproduct : p.product = l'.productId := congrArg ProductGroup.product hbuilt
  have hlines : (lines.filter (·.sellerId == g.seller)).filter (·.productId == l'.productId) =
      lines.filter fun l => l.sellerId == g.seller && l.productId == p.product := by
    rw [List.filter_filter, hproduct]
    exact List.filter_congr fun l _ => Bool.and_comm ..
  refine ⟨l', ?_, by rw [← hlines]; exact hbuilt⟩
  rw [List.find?_filter] at hfirst
  rw [hproduct]
  simpa only [Bool.and_eq_true_iff, Bool.decide_and, Bool.decide_eq_true] using hfirst

theorem grouped_sellerGroups (lines : List CartLine) : Grouped lines (sellerGroups lines) where
  bySeller := by
    have hmap : (sellerGroups lines).map (·.seller) = distinct (lines.map (·.sellerId)) :=
      map_groups fun _ _ => rfl
    exact ⟨hmap, hmap ▸ nodup_distinct⟩
  byProduct := by
    intro g hg
    obtain ⟨l, -, hgroup⟩ := of_mem_sellerGroups hg
    have hmap : g.products.map (·.product) =
        distinct ((lines.filter (·.sellerId == g.seller)).map (·.productId)) := by
      rw [congrArg SellerGroup.products hgroup]
      exact map_groups fun _ _ => rfl
    exact ⟨hmap, hmap ▸ nodup_distinct⟩
  variants := by
    intro g hg p hp
    obtain ⟨l, -, hbuilt⟩ := of_mem_products hg hp
    exact congrArg ProductGroup.variants hbuilt
  sellerTexts := by
    intro g hg
    obtain ⟨l, hfirst, hgroup⟩ := of_mem_sellerGroups hg
    exact ⟨l, hfirst, congrArg SellerGroup.storeName hgroup⟩
  productTexts := by
    intro g hg p hp
    obtain ⟨l, hfirst, hbuilt⟩ := of_mem_products hg hp
    exact ⟨l, hfirst, congrArg ProductGroup.title hbuilt, congrArg ProductGroup.description hbuilt,
      congrArg ProductGroup.imageUrl hbuilt, congrArg ProductGroup.category hbuilt⟩
  filled := by
    intro g hg
    constructor
    · obtain ⟨l, hfirst, hgroup⟩ := of_mem_sellerGroups hg
      have hpass := List.find?_some hfirst
      have hl : l ∈ lines.filter (·.sellerId == g.seller) :=
        List.mem_filter.mpr ⟨List.mem_of_find?_eq_some hfirst, hpass⟩
      obtain ⟨l', -, hmem⟩ := exists_mem_groups CartLine.productId CartLine.productOf hl
      rw [congrArg SellerGroup.products hgroup]
      exact List.ne_nil_of_mem hmem
    · intro p hp
      obtain ⟨l, hfirst, hbuilt⟩ := of_mem_products hg hp
      have hl := List.mem_filter.mpr ⟨List.mem_of_find?_eq_some hfirst, List.find?_some hfirst⟩
      rw [congrArg ProductGroup.variants hbuilt]
      exact List.ne_nil_of_mem (List.mem_map_of_mem hl)
  kept := by
    intro l hl
    obtain ⟨first, hseller, hgroup⟩ := exists_mem_groups CartLine.sellerId CartLine.sellerOf hl
    have hown : l ∈ lines.filter (·.sellerId == l.sellerId) :=
      List.mem_filter.mpr ⟨hl, by simp⟩
    obtain ⟨firstThere, hproduct, hproducts⟩ :=
      exists_mem_groups CartLine.productId CartLine.productOf hown
    refine ⟨_, hgroup, hseller, _, hproducts, hproduct, ?_⟩
    exact List.mem_map_of_mem (List.mem_filter.mpr ⟨hown, by simp⟩)

end Grouped

/-- **The groups of a bundle are the stable grouping of the lines that are sold.**  They
hold what each of these lines is priced at, once for each line. -/
theorem Bundle.grouped_ofLines (lines : List CartLine) (requested : List Uuid) :
    (ofLines lines requested).sellers = sellerGroups (soldLines lines) ∧
      Grouped (soldLines lines) (ofLines lines requested).sellers ∧
      (ofLines lines requested).variants.Perm ((soldLines lines).map (·.priced)) := by
  have hsellers : (ofLines lines requested).sellers = sellerGroups (soldLines lines) :=
    sellers_foldl empty [] rfl lines
  refine ⟨hsellers, ?_, ?_⟩
  · rw [hsellers]
    exact grouped_sellerGroups _
  · rw [← filterMap_valid?]
    exact perm_variants_ofLines lines requested

end Storefront
