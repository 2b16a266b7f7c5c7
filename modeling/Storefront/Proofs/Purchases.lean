/-
Buying one variant at once.

A purchase goes through the same aggregation as a checkout of the cart, so its one line is
joined with the row of the customer.  The quantity of the request then takes the place of the
one that was found, and with it goes all that came from the row (`withQuantities_lines_singleton`):
what is left is the snapshot.  So a purchase is a function of the customers and the snapshots
(`Store.purchase`), and the cart has no say in it.

Where the bundle holds nothing to buy, a purchase is refused with the reason of an invalid item.
A line with a positive quantity is sold or invalid, and a variant without a line is missing, so
there always is such an item and such a reason.
-/
import Storefront.Proofs.Audit
import Storefront.Proofs.BuyNow
import Storefront.Proofs.CartViews
import Storefront.Proofs.Discounts

namespace Storefront

/-! ### The bundle of a purchase -/

/-- A bundle of a quantity of one variant, at its price, and nothing else. -/
structure Bundle.Sells (b : Bundle) (x : Snapshot) (quantity : Int) : Prop where
  count : b.count = 1
  invalid : b.invalid = []
  priced : ∃ p v, x.prices.price quantity = .ok p ∧ b.variants = [v] ∧
    v = (CartLine.mk x quantity).atPrice p ∧ v.variant = x.variant.id ∧ v.quantity = quantity ∧
    b.subtotal = v.total

namespace Bundle

variable {x : Snapshot} {quantity : Int}

theorem sells_ofLines (heligible : x.isEligible = true) (hquantity : 0 < quantity) :
    (ofLines [⟨x, quantity⟩] [x.variant.id]).Sells x quantity := by
  have hnot : ¬quantity ≤ 0 := by omega
  have hadd : empty.add ⟨x, quantity⟩ =
      { sellers := (CartLine.mk x quantity).intoSellers []
        invalid := []
        subtotal := (CartLine.mk x quantity).priced.total
        weightGrams := (CartLine.mk x quantity).priced.quantity *
          (CartLine.mk x quantity).priced.weightGrams
        count := 1 } := by
    simp [add, empty, hnot, heligible]
  have hmissing : missing [⟨x, quantity⟩] [x.variant.id] = [] := by
    simp [missing, distinct_singleton]
  have hbundle : ofLines [⟨x, quantity⟩] [x.variant.id] = empty.add ⟨x, quantity⟩ := by
    rw [ofLines, hmissing, List.foldl_cons, List.foldl_nil, List.map_nil, List.append_nil]
  rw [hbundle, hadd]
  refine ⟨rfl, rfl, _, _, PriceList.price_eq_ok hquantity, rfl, rfl, rfl, ?_, rfl⟩
  exact CartLine.quantity_priced ⟨x, quantity⟩

/-- A line that asks for something and cannot be bought is the only thing in its bundle. -/
theorem ofLines_of_not_isEligible (heligible : x.isEligible = false) (hquantity : 0 < quantity) :
    ofLines [⟨x, quantity⟩] [x.variant.id] = { empty with invalid := [.unavailable x] } := by
  have hnot : ¬quantity ≤ 0 := by omega
  simp [ofLines, missing, add, empty, distinct_singleton, hnot, heligible]

theorem ofLines_nil_singleton (variant : Uuid) :
    ofLines [] [variant] = { empty with invalid := [.notFound variant] } := by
  simp [ofLines, missing, empty, distinct_singleton]

end Bundle

/-! ### What a purchase comes to -/

namespace Store

variable {s : Store} {user variant : Uuid} {quantity : Int}

/-- What a purchase comes to, said of the customers and the snapshots alone. -/
def purchase (s : Store) (user variant : Uuid) (quantity : Int) : Except Refusal Bundle :=
  if inRange quantity then
    match s.customerObjection? user with
    | some r => .error r
    | none =>
      match s.snapshot? variant none with
      | none => .error (.error (.validation "variant_id" "variant not found in system"))
      | some x =>
        if x.isEligible then .ok (.ofLines [⟨x, quantity⟩] [variant])
        else
          .error (.error (.validation "variant_id"
            "variant unavailable due to moderation or stock"))
  else .error (.error (.validation "quantity" rangeReason))

/-- At a quantity of the request, the line of a variant is its snapshot. -/
theorem ReadKeys.withQuantities_lines_singleton (h : s.ReadKeys) (user variant : Uuid)
    (quantity : Int) :
    withQuantities (some quantity) (s.lines user [variant]) =
      ((s.snapshot? variant none).map (CartLine.mk · quantity)).toList := by
  rw [h.lines_singleton, line?]
  cases s.snapshot? variant none <;> rfl

theorem ReadKeys.eval_plan_product (h : s.ReadKeys) (limit : Int) (user variant : Uuid)
    (quantity : Int) :
    ((Order.product user variant quantity).plan limit).eval s.view =
      s.purchase user variant quantity := by
  rw [Order.plan_product, purchase]
  by_cases hrange : inRange quantity = true
  · have hpos : 0 < quantity := (inRange_iff.mp hrange).1
    rw [if_pos hrange, if_pos hrange, Plan.eval_seq]
    cases hobjection : s.customerObjection? user with
    | some r =>
        rw [eval_aggregate_of_objection hobjection]
        rfl
    | none =>
        have hserves : s.serves user = true := customerObjection?_eq_none.mp hobjection
        rw [eval_aggregate hserves rfl, h.withQuantities_lines_singleton]
        show ((Bundle.ofLines _ [variant]).unlessEmpty).eval s.view = _
        cases hx : s.snapshot? variant none with
        | none =>
            rw [Option.map_none, Option.toList_none, Bundle.ofLines_nil_singleton]
            rfl
        | some x =>
            obtain rfl : x.variant.id = variant := (h.snapshot?_eq_some.mp hx).2
            rw [Option.map_some, Option.toList_some]
            dsimp only
            cases heligible : x.isEligible with
            | true =>
                have hone := (Bundle.sells_ofLines heligible hpos).count
                have hsome : ¬(Bundle.ofLines [⟨x, quantity⟩] [x.variant.id]).count = 0 := by
                  omega
                rw [Bundle.unlessEmpty, if_neg hsome]
                rfl
            | false =>
                rw [Bundle.ofLines_of_not_isEligible heligible hpos]
                rfl
  · rw [if_neg hrange, if_neg hrange]
    rfl

/-- A purchase does not depend on the rows. -/
theorem purchase_congr {s' : Store} (hcustomers : s'.customers = s.customers)
    (hsnapshots : s'.snapshots = s.snapshots) (user variant : Uuid) (quantity : Int) :
    s'.purchase user variant quantity = s.purchase user variant quantity := by
  simp only [purchase, customerObjection?, customer?, snapshot?, hcustomers, hsnapshots]

/-- What a customer is told who cannot buy a quantity of a variant at once: the quantity comes
first, then the customer, and the variant last. -/
def purchaseError? (s : Store) (user variant : Uuid) (quantity : Int) : Option ServiceError :=
  if quantity < 1 ∨ 2147483647 < quantity then
    some (.validation "quantity" "must be between 1 and 2147483647")
  else
    (s.customerError? user).or <|
      match s.snapshot? variant none with
      | none => some (.validation "variant_id" "variant not found in system")
      | some x =>
        if x.isEligible then none
        else some (.validation "variant_id" "variant unavailable due to moderation or stock")

/-- A purchase is refused with what the customer is told, or sells the variant. -/
theorem ReadKeys.purchase_cases (h : s.ReadKeys) (user variant : Uuid) (quantity : Int) :
    (∃ r, s.purchase user variant quantity = .error r ∧
      s.purchaseError? user variant quantity = some r.shown) ∨
    (s.purchaseError? user variant quantity = none ∧
      ∃ x b, s.snapshot? variant none = some x ∧ x.variant.id = variant ∧
        x.isEligible = true ∧ s.purchase user variant quantity = .ok b ∧
        b.Sells x quantity) := by
  have hcustomer := s.shown_customerObjection? user
  unfold purchase purchaseError?
  by_cases hrange : inRange quantity = true
  · rw [if_pos hrange, if_neg fun hout => not_inRange_iff.mpr hout hrange, ← hcustomer]
    cases s.customerObjection? user with
    | some r => exact Or.inl ⟨r, rfl, rfl⟩
    | none =>
        cases hx : s.snapshot? variant none with
        | none => exact Or.inl ⟨_, rfl, rfl⟩
        | some x =>
            obtain rfl : x.variant.id = variant := (h.snapshot?_eq_some.mp hx).2
            dsimp only
            cases heligible : x.isEligible with
            | false => exact Or.inl ⟨_, rfl, rfl⟩
            | true =>
                have hpos : 0 < quantity := (inRange_iff.mp hrange).1
                exact Or.inr ⟨rfl, x, _, rfl, rfl, heligible, rfl,
                  Bundle.sells_ofLines heligible hpos⟩
  · rw [if_neg hrange, if_pos (not_inRange_iff.mp hrange)]
    exact Or.inl ⟨_, rfl, rfl⟩

/-- What a purchase in range can be refused with.  The reason of last resort, for a bundle without
an invalid item, is not among it. -/
def purchaseErrors : List ServiceError :=
  customerErrors ++
    [.validation "variant_id" "variant not found in system",
      .validation "variant_id" "variant unavailable due to moderation or stock"]

theorem field?_purchaseErrors : ∀ e ∈ purchaseErrors, e.field? ≠ some "quantity" := by
  decide

theorem fallback_not_mem_purchaseErrors :
    ServiceError.validation "variant_id" "invalid product variant" ∉ purchaseErrors := by
  decide

theorem mem_purchaseErrors {e : ServiceError} (hrange : ¬(quantity < 1 ∨ 2147483647 < quantity))
    (h : s.purchaseError? user variant quantity = some e) : e ∈ purchaseErrors := by
  rw [purchaseError?, if_neg hrange] at h
  rcases Option.or_eq_some_iff.mp h with hcustomer | ⟨-, hvariant⟩
  · exact List.mem_append_left _ (mem_customerErrors hcustomer)
  · split at hvariant
    · obtain rfl := Option.some.inj hvariant
      simp [purchaseErrors]
    · obtain ⟨-, hunavailable⟩ := Option.ite_none_left_eq_some.mp hvariant
      obtain rfl := Option.some.inj hunavailable
      simp [purchaseErrors]

/-- Only a quantity out of range is refused as a quantity. -/
theorem purchaseError?_quantity (s : Store) (user variant : Uuid) (quantity : Int) :
    (∃ reason, s.purchaseError? user variant quantity = some (.validation "quantity" reason)) ↔
      quantity < 1 ∨ 2147483647 < quantity := by
  by_cases hout : quantity < 1 ∨ 2147483647 < quantity
  · refine iff_of_true ⟨"must be between 1 and 2147483647", ?_⟩ hout
    rw [purchaseError?, if_pos hout]
  · refine iff_of_false ?_ hout
    rintro ⟨reason, h⟩
    exact field?_purchaseErrors _ (mem_purchaseErrors hout h) rfl

theorem purchaseError?_ne_fallback (s : Store) (user variant : Uuid) (quantity : Int) :
    s.purchaseError? user variant quantity ≠
      some (.validation "variant_id" "invalid product variant") := by
  intro h
  by_cases hout : quantity < 1 ∨ 2147483647 < quantity
  · rw [purchaseError?, if_pos hout] at h
    exact absurd h (by decide)
  · exact fallback_not_mem_purchaseErrors (mem_purchaseErrors hout h)

end Store

/-! ### Buying now -/

namespace Shop

variable {s : Shop} {givens : Givens} {user variant : Uuid} {quantity : Int}

/-- A purchase is answered with what it comes to on the customers and the snapshots. -/
theorem buyNow_eq_purchase (h : s.store.ReadKeys) (limit : Int) (givens : Givens)
    (user variant : Uuid) (quantity : Int) :
    s.buyNow limit givens user variant quantity =
      ((s.store.purchase user variant quantity).mapError .refused).map fun b =>
        .session ⟨givens.session, .product, b⟩ := by
  rw [buyNow, result_call_checkout, h.eval_plan_product]
  rfl

/-- A purchase fails with what the customer is told. -/
theorem shown?_buyNow (h : s.store.ReadKeys) {limit : Int} {f : Failure}
    (hf : s.buyNow limit givens user variant quantity = .error f) :
    f.shown? = s.store.purchaseError? user variant quantity := by
  rw [buyNow_eq_purchase h] at hf
  rcases h.purchase_cases user variant quantity with ⟨r, hr, herror⟩ | ⟨-, x, b, -, -, -, hb, -⟩
  · rw [hr] at hf
    cases hf
    exact herror.symm
  · rw [hb] at hf
    cases hf

/-- A purchase succeeds or fails in one of the two ways. -/
theorem buyNow_cases (h : s.store.ReadKeys) (limit : Int) (givens : Givens)
    (user variant : Uuid) (quantity : Int) :
    match s.store.purchaseError? user variant quantity with
    | some e => ∃ f, s.buyNow limit givens user variant quantity = .error f ∧ f.shown? = some e
    | none => ∃ x b, s.store.snapshot? variant none = some x ∧ x.variant.id = variant ∧
        x.isEligible = true ∧
        s.buyNow limit givens user variant quantity =
          .ok (.session ⟨givens.session, .product, b⟩) ∧
        b.Sells x quantity := by
  rw [buyNow_eq_purchase h]
  rcases h.purchase_cases user variant quantity with
    ⟨r, hr, herror⟩ | ⟨hnone, x, b, hx, hid, heligible, hb, hsells⟩
  · rw [herror, hr]
    exact ⟨_, rfl, rfl⟩
  · rw [hnone, hb]
    exact ⟨x, b, hx, hid, heligible, rfl, hsells⟩

/-- **A purchase prices the variant that is asked for, or fails with a precise reason.**  The
quantity is refused when it is out of range and in no other case; then the customer is looked
at, and then the variant.  Where nothing is held against them the variant is sold alone, at its
price for the quantity.  The reason of last resort is never given, and what is in a cart makes
no difference. -/
theorem buyNow_priced_or_refused (h : s.store.ReadKeys) (limit : Int) (givens : Givens)
    (user variant : Uuid) (quantity : Int) :
    (match s.store.purchaseError? user variant quantity with
      | some e => ∃ f, s.buyNow limit givens user variant quantity = .error f ∧ f.shown? = some e
      | none => ∃ x b, s.store.snapshot? variant none = some x ∧ x.variant.id = variant ∧
          x.isEligible = true ∧ s.buyNow limit givens user variant quantity =
            .ok (.session ⟨givens.session, .product, b⟩) ∧ b.Sells x quantity) ∧
    ((∃ f reason, s.buyNow limit givens user variant quantity = .error f ∧
        f.shown? = some (.validation "quantity" reason)) ↔
      quantity < 1 ∨ 2147483647 < quantity) ∧
    (∀ f, s.buyNow limit givens user variant quantity = .error f →
      f.shown? ≠ some (.validation "variant_id" "invalid product variant")) ∧
    ∀ (t : Shop) (givens' : Givens), t.store.ReadKeys → t.store.customers = s.store.customers →
      t.store.snapshots = s.store.snapshots →
      (t.buyNow limit givens' user variant quantity).map Answer.withoutSession =
        (s.buyNow limit givens user variant quantity).map Answer.withoutSession := by
  have hcases := buyNow_cases h limit givens user variant quantity
  refine ⟨hcases, ?_, ?_, ?_⟩
  · rw [← s.store.purchaseError?_quantity user variant quantity]
    constructor
    · rintro ⟨f, reason, hf, hshown⟩
      exact ⟨reason, (shown?_buyNow h hf).symm.trans hshown⟩
    · rintro ⟨reason, herror⟩
      rw [herror] at hcases
      obtain ⟨f, hf, hshown⟩ := hcases
      exact ⟨f, reason, hf, hshown⟩
  · intro f hf hshown
    exact s.store.purchaseError?_ne_fallback user variant quantity
      ((shown?_buyNow h hf).symm.trans hshown)
  · intro t givens' ht hcustomers hsnapshots
    rw [buyNow_eq_purchase h, buyNow_eq_purchase ht,
      Store.purchase_congr hcustomers hsnapshots]
    cases s.store.purchase user variant quantity <;> rfl

end Shop

/-- Four jars of the jam that was taken out of the cart are bought in the corner shop, and in
one where no cart has ever held anything. -/
theorem buyNow_priced_or_refused_corner :
    let shop := Shop.opened Corner.store
    let bare := Shop.opened { Corner.store with rows := [] }
    let buy := fun s : Shop => s.buyNow 5 Corner.givens Corner.user Corner.jam 4
    shop.store.ReadKeys ∧ bare.store.ReadKeys ∧
      (∃ x b, shop.store.snapshot? Corner.jam none = some x ∧ x.variant.id = Corner.jam ∧
        x.isEligible = true ∧
        buy shop = .ok (.session ⟨Corner.givens.session, .product, b⟩) ∧ b.Sells x 4) ∧
      (¬∃ f reason, buy shop = .error f ∧
        f.shown? = some (.validation "quantity" reason)) ∧
      (buy bare).map Answer.withoutSession = (buy shop).map Answer.withoutSession := by
  have hkeys : Corner.store.ReadKeys := Corner.keys_store.readKeys
  have hbare : ({ Corner.store with rows := [] } : Store).ReadKeys :=
    ⟨hkeys.variants, List.nodup_nil⟩
  obtain ⟨hcases, hquantity, -, hrows⟩ :=
    Shop.buyNow_priced_or_refused (s := .opened Corner.store) hkeys 5 Corner.givens Corner.user
      Corner.jam 4
  have hnone : Corner.store.purchaseError? Corner.user Corner.jam 4 = none := by decide
  have hrange : ¬((4 : Int) < 1 ∨ (2147483647 : Int) < 4) := by decide
  rw [show (Shop.opened Corner.store).store = Corner.store from rfl, hnone] at hcases
  exact ⟨hkeys, hbare, hcases, hrange ∘ hquantity.mp,
    hrows (.opened { Corner.store with rows := [] }) Corner.givens hbare rfl rfl⟩

end Storefront
