/-
Adding and updating are complementary.

Both put a quantity of a variant into a row, and both ask the same questions first, in the same
order: is the quantity in range, does the customer exist and pass moderation, does the variant exist
and pass moderation, is there enough of it.  `Store.saleError?` answers them from the tables with
the error of the first one that fails, and both requests fail with it.

Where no question fails, the row decides.  An update needs one that is in the cart and an add needs
that there is none, so one of the two succeeds whatever the row is, and the other is refused with
what the state of the row has against it.

An add also says of which product it takes the variant to be.  A variant of another product is not
found, so the questions about it do not come up.
-/
import Storefront.Proofs.Bodies
import Storefront.Proofs.CartViews
import Storefront.Proofs.RowMachine

namespace Storefront

/-! ### What a sale is refused with -/

/-- What is said of a quantity that nobody can have. -/
def quantityError? (quantity : Int) : Option ServiceError :=
  if quantity < 1 ∨ 2147483647 < quantity then
    some (.validation "required_quantity" "must be between 1 and 2147483647")
  else none

/-- What is said of a variant that cannot be had in a quantity: its seller comes first, then its
product, then the variant, and the stock last. -/
def Snapshot.saleError? (x : Snapshot) (quantity : Int) : Option ServiceError :=
  if x.seller.approved = false ∨ x.seller.archived ∨ x.seller.banned then
    some (.auth "seller moderation failed")
  else if x.product.approved = false ∨ x.product.archived ∨ x.product.banned then
    some (.validation "product" "product is not available for cart")
  else if x.variant.archived ∨ x.variant.inStock = false then
    some (.validation "variant" "variant is not in stock or archived")
  else if x.variant.stock < quantity then
    some (.validation "required_quantity" "not enough stock available")
  else none

namespace Store

/-- What is said of a variant, of a given product if one is asked for, that cannot be had in a
quantity. -/
def variantError? (s : Store) (variant : Uuid) (product : Option Uuid) (quantity : Int) :
    Option ServiceError :=
  match s.snapshot? variant product with
  | none => some (.notFound "variant snapshot")
  | some x => x.saleError? quantity

/-- What a customer is told who cannot have a quantity of a variant. -/
def saleError? (s : Store) (user variant : Uuid) (product : Option Uuid) (quantity : Int) :
    Option ServiceError :=
  (quantityError? quantity).or
    ((s.customerError? user).or (s.variantError? variant product quantity))

end Store

theorem shown_quantityObjection? (quantity : Int) :
    (quantityObjection? quantity).map Refusal.shown = quantityError? quantity := by
  unfold quantityObjection? quantityError?
  by_cases h : inRange quantity = true
  · rw [if_pos h, if_neg fun hout => not_inRange_iff.mpr hout h]
    rfl
  · rw [if_neg h, if_pos (not_inRange_iff.mp h)]
    rfl

/-- The gates of a variant and its stock have the errors of a sale. -/
theorem Snapshot.shown_objection? (x : Snapshot) (quantity : Int) :
    (x.verdict.objection?.or
      (if x.variant.stock < quantity then
        some (.error (.validation "required_quantity" "not enough stock available"))
      else none)).map Refusal.shown = x.saleError? quantity := by
  have hseller : (!x.seller.approved || x.seller.archived || x.seller.banned) = true ↔
      (x.seller.approved = false ∨ x.seller.archived ∨ x.seller.banned) := by
    simp [or_assoc]
  have hproduct : (!x.product.approved || x.product.archived || x.product.banned) = true ↔
      (x.product.approved = false ∨ x.product.archived ∨ x.product.banned) := by
    simp [or_assoc]
  have hvariant : (x.variant.archived || !x.variant.inStock) = true ↔
      (x.variant.archived ∨ x.variant.inStock = false) := by
    simp
  unfold verdict saleError?
  simp only [hseller, hproduct, hvariant]
  -- One question at a time: where it fails, both sides are its error.
  split
  · rfl
  · split
    · rfl
    · split
      · rfl
      · simp only [Verdict.objection?, Option.none_or]
        split <;> rfl

namespace Store

theorem shown_variantObjection? (s : Store) (variant : Uuid) (product : Option Uuid)
    (quantity : Int) :
    (s.variantObjection? variant product quantity).map Refusal.shown =
      s.variantError? variant product quantity := by
  unfold variantObjection? variantError?
  cases s.snapshot? variant product with
  | none => rfl
  | some x => exact x.shown_objection? quantity

theorem shown_saleObjection? (s : Store) (user variant : Uuid) (product : Option Uuid)
    (quantity : Int) :
    ((quantityObjection? quantity).or
      ((s.customerObjection? user).or (s.variantObjection? variant product quantity))).map
        Refusal.shown = s.saleError? user variant product quantity := by
  rw [Option.map_or, Option.map_or, shown_quantityObjection?, s.shown_customerObjection?,
    s.shown_variantObjection?]
  rfl

end Store

/-! ### The product of a variant -/

namespace Store

variable {s : Store} {variant product : Uuid}

/-- A variant is found under its own product as it is found under none. -/
theorem Keys.snapshot?_product (h : s.Keys)
    (hproduct : ∀ x, s.snapshot? variant none = some x → x.product.id = product) :
    s.snapshot? variant (some product) = s.snapshot? variant none := by
  refine Option.ext fun x => ?_
  rw [h.snapshot?_eq_some_iff, h.snapshot?_eq_some]
  constructor
  · rintro ⟨hx, hid, -⟩
    exact ⟨hx, hid⟩
  · rintro ⟨hx, hid⟩
    have hsame := hproduct x (h.snapshot?_eq_some.mpr ⟨hx, hid⟩)
    exact ⟨hx, hid, by simp [hsame]⟩

/-- A variant is not found under another product. -/
theorem Keys.snapshot?_other_product (h : s.Keys)
    (hproduct : ∀ x, s.snapshot? variant none = some x → x.product.id ≠ product) :
    s.snapshot? variant (some product) = none := by
  refine Option.eq_none_iff_forall_ne_some.mpr fun x hx => ?_
  obtain ⟨hmem, hid, hsame⟩ := h.snapshot?_eq_some_iff.mp hx
  refine hproduct x (h.snapshot?_eq_some.mpr ⟨hmem, hid⟩) ?_
  simpa using hsame

end Store

/-! ### What becomes of a mutation -/

namespace Mutation

variable {s : Store} {m : Mutation} {variant : Uuid}

/-- A mutation that passes its checks and names a variant is refused by the row of the variant, or
sets what the row holds and leaves no other trace. -/
theorem run_of_take (h : s.Keys) (hadmits : s.admits m = true)
    (hvariant : m.variant? = some variant) (givens : Givens) :
    match m.step.take (s.holding? m.user variant) with
    | (.error e, _) => m.run (.calm givens) s = (.error (.refused (.error e)), s)
    | (.ok status, after) =>
      (m.run (.calm givens) s).1.map (·.status) = .ok status ∧
        s.Sets m.user variant after (m.run (.calm givens) s).2 := by
  have hconcerns : m.concerns m.user variant = true := by simp [concerns, hvariant]
  obtain ⟨hstatus, hholding⟩ :
      (m.run (.calm givens) s).1.map (·.status) = _ ∧ _ := run_of_admits h hadmits hconcerns
  obtain ⟨hcustomers, hsnapshots⟩ := m.customers_run (.calm givens) s
  rcases htake : m.step.take (s.holding? m.user variant) with ⟨e | status, after⟩
  · rw [htake] at hstatus
    rcases m.run_cases (.calm givens) s with ⟨f, hrun⟩ | ⟨d, s', rows, -, -, hrun⟩
    · rw [hrun] at hstatus ⊢
      obtain rfl : f = .refused (.error e) := Except.error.inj hstatus
      rfl
    · rw [hrun] at hstatus
      cases hstatus
  · rw [htake] at hstatus hholding
    refine ⟨hstatus, hcustomers, hsnapshots, hholding, fun user' variant' hother => ?_⟩
    refine row?_run_of_not_concerns h ?_ (.calm givens)
    rw [Bool.eq_false_iff]
    intro hsame
    simp only [concerns, hvariant, Bool.and_eq_true, beq_iff_eq, Option.all_some] at hsame
    exact hother (Prod.ext hsame.1.symm hsame.2.symm)

end Mutation

namespace Shop

variable {s : Shop} {m : Mutation} {user variant product : Uuid} {quantity : Int}

/-- A mutation is refused with an error, and leaves the tables as they were, whatever it is
given. -/
def Refuses (s : Shop) (m : Mutation) (e : ServiceError) : Prop :=
  ∀ givens,
    (s.mutate (.calm givens) m).1.result.mapError Failure.shown? = .error (some e) ∧
      (s.mutate (.calm givens) m).2.store = s.store

/-- A mutation succeeds with a status, whatever it is given: its quantity is in the cart of the
customer, and the tables are otherwise as they were. -/
def Puts (s : Shop) (m : Mutation) (variant : Uuid) (quantity : Int) (status : Status) : Prop :=
  ∀ givens,
    (s.mutate (.calm givens) m).1.result = .ok ⟨some variant, some quantity, status⟩ ∧
      s.store.Sets m.user variant (some (.inCart quantity)) (s.mutate (.calm givens) m).2.store

theorem refuses_of_run {r : Refusal}
    (h : ∀ givens, m.run (.calm givens) s.store = (.error (.refused r), s.store)) :
    s.Refuses m r.shown := by
  intro givens
  rw [s.result_mutate, s.store_mutate, h]
  exact ⟨rfl, rfl⟩

theorem refuses_of_shown {e : ServiceError}
    (h : (s.store.objection? m).map Refusal.shown = some e) : s.Refuses m e := by
  obtain ⟨r, hr, rfl⟩ := Option.map_eq_some_iff.mp h
  exact refuses_of_run fun _ => Mutation.run_of_objection hr

theorem refuses_of_take (h : s.store.Keys) (hadmits : s.store.admits m = true)
    (hvariant : m.variant? = some variant) {e : ServiceError}
    (hillegal : (Holding.state (s.store.holding? m.user variant)).transition m.step.action =
      .error e) : s.Refuses m e := by
  have hrun := Mutation.run_of_take h hadmits hvariant
  rw [Step.take_eq_error.mpr ⟨hillegal, rfl⟩] at hrun
  exact refuses_of_run hrun

theorem puts_of_take (h : s.store.Keys) (hadmits : s.store.admits m = true)
    (hvariant : m.variant? = some variant) (hquantity : m.quantity? = some quantity)
    {status : Status}
    (hlegal : (Holding.state (s.store.holding? m.user variant)).transition m.step.action =
      .ok status) : s.Puts m variant quantity status := by
  intro givens
  have htake := Step.take_eq_ok.mpr ⟨hlegal, rfl⟩
  have hrun := Mutation.run_of_take h hadmits hvariant givens
  rw [htake] at hrun
  obtain ⟨hstatus, hsets⟩ := hrun
  obtain ⟨done, hdone, rfl⟩ := Except.map_eq_ok.mp hstatus
  rw [Step.inCart_of_take (Mutation.step_of_quantity? hquantity) htake] at hsets
  rw [s.result_mutate, s.store_mutate, hdone]
  refine ⟨?_, hsets⟩
  simp only [Except.map, Mutation.report, hvariant, hquantity]

/-! ### The row decides -/

/-- **Adding and updating are complementary.**  When the product is that of the variant, both fail
with the error of the first check that fails, and leave the tables as they were.  When no check
fails there is enough of the variant, and one of them puts the quantity into the row: the update if
the row is in the cart, and the add if it is not.  The other is refused with what the state of the
row has against it.  When the product is another one, an add finds no variant, whatever is
true of the variant. -/
theorem add_update_complementary (h : s.store.Keys) (user variant product : Uuid) (quantity : Int) :
    let add := Mutation.add user product variant quantity
    let update := Mutation.update user variant quantity
    ((∀ x, s.store.snapshot? variant none = some x → x.product.id = product) →
      match s.store.saleError? user variant none quantity with
      | some e => s.Refuses add e ∧ s.Refuses update e
      | none =>
        (∃ x, s.store.snapshot? variant none = some x ∧ quantity ≤ x.variant.stock) ∧
        match Holding.state (s.store.holding? user variant) with
        | .active =>
          s.Puts update variant quantity .updated ∧
            s.Refuses add (.conflict "item already exists in cart")
        | .absent =>
          s.Puts add variant quantity .added ∧ s.Refuses update (.notFound "cart item")
        | .inactive =>
          s.Puts add variant quantity .reactivated ∧
            s.Refuses update (.validation "cart" "cart item is archived")) ∧
    ((∀ x, s.store.snapshot? variant none = some x → x.product.id ≠ product) →
      s.Refuses add
        (((quantityError? quantity).or (s.store.customerError? user)).getD
          (.notFound "variant snapshot"))) := by
  intro add update
  have hadd : (s.store.objection? add).map Refusal.shown =
      s.store.saleError? user variant (some product) quantity :=
    s.store.shown_saleObjection? user variant (some product) quantity
  have hupdate : (s.store.objection? update).map Refusal.shown =
      s.store.saleError? user variant none quantity :=
    s.store.shown_saleObjection? user variant none quantity
  constructor
  · intro hproduct
    have hsame : s.store.saleError? user variant (some product) quantity =
        s.store.saleError? user variant none quantity := by
      rw [Store.saleError?, Store.saleError?, Store.variantError?, Store.variantError?,
        h.snapshot?_product hproduct]
    rw [hsame] at hadd
    cases herror : s.store.saleError? user variant none quantity with
    | some e =>
        exact ⟨refuses_of_shown (hadd.trans herror), refuses_of_shown (hupdate.trans herror)⟩
    | none =>
        have hadds : s.store.admits add = true :=
          Store.objection?_eq_none.mp (Option.map_eq_none_iff.mp (hadd.trans herror))
        have hupdates : s.store.admits update = true :=
          Store.objection?_eq_none.mp (Option.map_eq_none_iff.mp (hupdate.trans herror))
        have hsells : s.store.sells variant none quantity = true := by
          simp only [update, Store.admits, Bool.and_eq_true] at hupdates
          exact hupdates.2
        obtain ⟨x, hx, hcan⟩ := (Option.any_eq_true _ _).mp hsells
        simp only [Bool.and_eq_true, decide_eq_true_eq] at hcan
        refine ⟨⟨x, hx, hcan.2⟩, ?_⟩
        cases hstate : Holding.state (s.store.holding? user variant) with
        | active =>
            exact ⟨puts_of_take h hupdates rfl rfl (congrArg (·.transition .update) hstate),
              refuses_of_take h hadds rfl (congrArg (·.transition .add) hstate)⟩
        | absent | inactive =>
            exact ⟨puts_of_take h hadds rfl rfl (congrArg (·.transition .add) hstate),
              refuses_of_take h hupdates rfl (congrArg (·.transition .update) hstate)⟩
  · intro hproduct
    refine refuses_of_shown (hadd.trans ?_)
    rw [Store.saleError?, Store.variantError?, h.snapshot?_other_product hproduct,
      ← Option.or_assoc]
    exact Option.or_some.trans rfl

end Shop

/-- Jam that was taken out of the cart of the corner shop is added again, not updated; tea is
updated and not added; eleven cans of tea are more than there are; and no tea is found in another
product. -/
theorem add_update_complementary_corner :
    let s := Shop.opened Corner.store
    s.store.Keys ∧
      (s.Puts (.add Corner.user (.ofNat 5) Corner.jam 3) Corner.jam 3 .reactivated ∧
        s.Refuses (.update Corner.user Corner.jam 3)
          (.validation "cart" "cart item is archived")) ∧
      (s.Puts (.update Corner.user Corner.tea 10) Corner.tea 10 .updated ∧
        s.Refuses (.add Corner.user (.ofNat 5) Corner.tea 10)
          (.conflict "item already exists in cart")) ∧
      (s.Refuses (.add Corner.user (.ofNat 5) Corner.tea 11)
          (.validation "required_quantity" "not enough stock available") ∧
        s.Refuses (.update Corner.user Corner.tea 11)
          (.validation "required_quantity" "not enough stock available")) ∧
      s.Refuses (.add Corner.user (.ofNat 6) Corner.tea 10) (.notFound "variant snapshot") := by
  have hpantry : ∀ variant ∈ [Corner.tea, Corner.jam],
      ∀ x, Corner.store.snapshot? variant none = some x → x.product.id = .ofNat 5 := by
    intro variant _ x hx
    rcases List.mem_pair.mp (List.mem_of_find?_eq_some hx) with rfl | rfl <;> rfl
  have hcomplementary := fun variant product quantity => Shop.add_update_complementary
    (s := .opened Corner.store) Corner.keys_store Corner.user variant product quantity
  refine ⟨Corner.keys_store, (hcomplementary Corner.jam _ 3).1 (hpantry _ (by simp)) |>.2,
    (hcomplementary Corner.tea _ 10).1 (hpantry _ (by simp)) |>.2,
    (hcomplementary Corner.tea _ 11).1 (hpantry _ (by simp)), ?_⟩
  refine (hcomplementary Corner.tea _ 10).2 fun x hx => ?_
  rw [hpantry _ (by simp) x hx]
  decide

end Storefront
