/-
What a bundle holds.

A line with a quantity goes to one of two places: to the groups when its variant can be
bought, and to the invalid items when it cannot.  The groups move variants together, so
what they hold is said up to its order; the invalid items stay in the order of the lines,
with the variants that no line carries after them.
-/
import Mathlib.Data.List.Perm.Basic
import Storefront.Cart.Bundle
import Storefront.Proofs.Discounts
import Storefront.Proofs.Distinct

namespace Storefront

/-- Editing one of some groups adds to what they hold, wherever the group stands. -/
theorem perm_flatMap_upsert {α β : Type} {p : α → Bool} {fresh : α} {edit : α → α}
    {f : α → List β} {extra : List β} (hfresh : f fresh = [])
    (hedit : ∀ a, (f (edit a)).Perm (f a ++ extra)) (as : List α) :
    ((upsert p fresh edit as).flatMap f).Perm (as.flatMap f ++ extra) := by
  induction as with
  | nil =>
      have hnew := hedit fresh
      rw [hfresh] at hnew
      simpa [upsert] using hnew
  | cons a rest ih =>
      by_cases hp : p a = true
      · simp only [upsert, if_pos hp, List.flatMap_cons]
        refine ((hedit a).append_right _).trans ?_
        rw [List.append_assoc, List.append_assoc]
        exact List.perm_append_comm.append_left (f a)
      · simp only [upsert, if_neg hp, List.flatMap_cons, List.append_assoc]
        exact ih.append_left (f a)

/-! ### One more line -/

namespace CartLine

/-- The line among the variants that can be bought, if it belongs there. -/
def valid? (l : CartLine) : Option PricedVariant :=
  if 0 < l.quantity && l.snapshot.isEligible then some l.priced else none

/-- The line among the invalid items, if it belongs there. -/
def invalid? (l : CartLine) : Option InvalidItem :=
  if 0 < l.quantity && !l.snapshot.isEligible then some (.unavailable l.snapshot) else none

theorem quantity_priced (l : CartLine) : l.priced.quantity = l.quantity := by
  show (l.snapshot.prices.line l.quantity).quantity = l.quantity
  rw [PriceList.line_eq_lineIn]
  rfl

theorem perm_variants_intoSellers (l : CartLine) (sellers : List SellerGroup) :
    ((l.intoSellers sellers).flatMap fun s => s.products.flatMap (·.variants)).Perm
      ((sellers.flatMap fun s => s.products.flatMap (·.variants)) ++ [l.priced]) := by
  refine perm_flatMap_upsert rfl (fun s => ?_) sellers
  exact perm_flatMap_upsert rfl (fun p => List.Perm.refl _) s.products

end CartLine

namespace Bundle

theorem perm_variants_add (b : Bundle) (l : CartLine) :
    (b.add l).variants.Perm (b.variants ++ l.valid?.toList) := by
  unfold add CartLine.valid?
  by_cases hquantity : l.quantity ≤ 0
  · have hnot : ¬0 < l.quantity := by omega
    simp [hquantity, hnot]
  · have hpos : 0 < l.quantity := by omega
    cases heligible : l.snapshot.isEligible with
    | false => simp [hquantity, variants]
    | true => simpa [hquantity, hpos, variants] using l.perm_variants_intoSellers b.sellers

theorem invalid_add (b : Bundle) (l : CartLine) :
    (b.add l).invalid = b.invalid ++ l.invalid?.toList := by
  unfold add CartLine.invalid?
  by_cases hquantity : l.quantity ≤ 0
  · have hnot : ¬0 < l.quantity := by omega
    simp [hquantity, hnot]
  · have hpos : 0 < l.quantity := by omega
    cases heligible : l.snapshot.isEligible <;> simp [hquantity, hpos]

/-! ### All lines -/

theorem perm_variants_foldl (lines : List CartLine) (b : Bundle) :
    (lines.foldl add b).variants.Perm (b.variants ++ lines.filterMap (·.valid?)) := by
  induction lines generalizing b with
  | nil => simp
  | cons l rest ih =>
      refine (ih (b.add l)).trans (((b.perm_variants_add l).append_right _).trans ?_)
      rw [List.append_assoc]
      cases hvalid : l.valid? <;> simp [hvalid]

theorem invalid_foldl (lines : List CartLine) (b : Bundle) :
    (lines.foldl add b).invalid = b.invalid ++ lines.filterMap (·.invalid?) := by
  induction lines generalizing b with
  | nil => simp
  | cons l rest ih =>
      rw [List.foldl_cons, ih, invalid_add, List.append_assoc]
      cases hinvalid : l.invalid? <;> simp [hinvalid]

/-- The groups hold every line that belongs there. -/
theorem perm_variants_ofLines (lines : List CartLine) (requested : List Uuid) :
    (ofLines lines requested).variants.Perm (lines.filterMap (·.valid?)) :=
  perm_variants_foldl lines empty

/-- The invalid items are the lines that belong there and then the missing variants. -/
theorem invalid_ofLines (lines : List CartLine) (requested : List Uuid) :
    (ofLines lines requested).invalid =
      lines.filterMap (·.invalid?) ++ (missing lines requested).map .notFound := by
  show (lines.foldl add empty).invalid ++ _ = _
  rw [invalid_foldl]
  rfl

/-- Of lines that are looked up by their variants, the variants without one are missing. -/
theorem missing_filterMap {find : Uuid → Option CartLine}
    (hfind : ∀ id l, find id = some l → l.snapshot.variant.id = id) (ids : List Uuid) :
    missing ((distinct ids).filterMap find) ids =
      (distinct ids).filter fun id => (find id).isNone := by
  refine List.filter_congr fun id hid => ?_
  have hany : ((distinct ids).filterMap find).any (·.snapshot.variant.id == id) =
      (find id).isSome := by
    rw [Bool.eq_iff_iff, List.any_eq_true, Option.isSome_iff_exists]
    constructor
    · rintro ⟨l, hl, hkey⟩
      obtain ⟨id', -, hl⟩ := List.mem_filterMap.mp hl
      have hsame : id' = id := (hfind id' l hl).symm.trans (by simpa using hkey)
      exact ⟨l, hsame ▸ hl⟩
    · rintro ⟨l, hl⟩
      exact ⟨l, List.mem_filterMap.mpr ⟨id, hid, hl⟩, by simpa using hfind id l hl⟩
  rw [hany]
  cases find id <;> rfl

end Bundle

end Storefront
