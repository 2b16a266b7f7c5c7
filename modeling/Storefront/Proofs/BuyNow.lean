/-
Buying at once and checking out of the cart come to the same.

Both are the bundle of one variant, and differ in where its quantity comes from: a purchase
at once puts its own in place of the one that the line has, and a checkout of the cart takes
the one of the row.  Where a row holds the quantity of the purchase these are the same, so
the two work on one bundle.  From there on they differ only when the bundle holds nothing to
buy: the checkout answers with it, and the purchase is refused with the reason of its only
invalid item.

A mutation that has put a quantity into a row has found the variant to be for sale, so after
it both succeed.
-/
import Storefront.Proofs.Accounting
import Storefront.Proofs.Reads
import Storefront.Proofs.RowMachine
import Storefront.Proofs.WellFormed

namespace Storefront

/-! ### The bundle of one variant -/

namespace Store

variable {s : Store} {user variant : Uuid} {quantity : Int}

theorem wanted?_of_inCart (h : s.holding? user variant = some (.inCart quantity)) :
    s.wanted? user variant = some quantity := by
  rw [wanted?, h]
  rfl

theorem ReadKeys.lines_singleton (h : s.ReadKeys) (user variant : Uuid) :
    s.lines user [variant] = (s.line? user variant).toList := by
  rw [h.lines_eq, distinct_singleton]
  cases hline : s.line? user variant <;> simp [hline]

/-- A quantity that a row holds already changes no line. -/
theorem Keys.withQuantities_singleton (h : s.Keys)
    (hrow : s.holding? user variant = some (.inCart quantity)) :
    withQuantities (some quantity) (s.lines user [variant]) = s.lines user [variant] := by
  have hwanted := wanted?_of_inCart hrow
  rw [h.readKeys.lines_singleton, line?, hwanted]
  cases s.snapshot? variant none <;> rfl

/-- Whether a variant has a snapshot and can be bought. -/
def forSale (s : Store) (variant : Uuid) : Bool :=
  (s.snapshot? variant none).any (·.isEligible)

/-- The bundle of a variant in the cart holds the variant, if it is for sale. -/
theorem Keys.count_bundle_singleton (h : s.Keys)
    (hrow : s.holding? user variant = some (.inCart quantity)) (hpos : 1 ≤ quantity)
    (hsale : s.forSale variant = true) : (s.bundle user [variant]).count = 1 := by
  have hwanted := wanted?_of_inCart hrow
  have hnot : ¬quantity ≤ 0 := by omega
  obtain ⟨x, hx, heligible⟩ := (Option.any_eq_true _ _).mp hsale
  rw [bundle, h.readKeys.lines_singleton, line?, hwanted, hx]
  simp [Bundle.ofLines, Bundle.add, Bundle.empty, hnot, heligible]

/-- The bundle of a variant in the cart holds the reason why the variant is not for sale. -/
theorem Keys.bundle_singleton_of_not_forSale (h : s.Keys)
    (hrow : s.holding? user variant = some (.inCart quantity)) (hpos : 1 ≤ quantity)
    (hsale : s.forSale variant = false) :
    (s.bundle user [variant]).count = 0 ∧ (s.bundle user [variant]).sellers = [] ∧
      ∃ i, (s.bundle user [variant]).invalid = [i] ∧ i.variant = variant := by
  have hwanted := wanted?_of_inCart hrow
  have hnot : ¬quantity ≤ 0 := by omega
  rw [bundle, h.readKeys.lines_singleton, line?, hwanted]
  cases hx : s.snapshot? variant none with
  | none =>
      refine ⟨rfl, rfl, .notFound variant, ?_, rfl⟩
      simp [Bundle.ofLines, Bundle.missing, Bundle.empty, distinct_singleton]
  | some x =>
      have hid : x.variant.id = variant := (h.snapshot?_eq_some.mp hx).2
      have heligible : x.isEligible = false := by simpa [forSale, hx] using hsale
      refine ⟨?_, ?_, .unavailable x, ?_, hid⟩
      all_goals
        simp [Bundle.ofLines, Bundle.missing, Bundle.add, Bundle.empty, distinct_singleton, hnot,
          heligible, hid]

end Store

/-! ### The two checkouts -/

namespace Shop

variable {s : Shop} {limit : Int} {user variant : Uuid} {quantity : Int}

/-- What a purchase of one variant at once comes to. -/
def buyNow (s : Shop) (limit : Int) (givens : Givens) (user variant : Uuid) (quantity : Int) :
    Except Failure Answer :=
  (s.call limit (.calm givens) (.checkout (.product user variant quantity))).1.result

/-- What a checkout of one variant out of the cart comes to. -/
def checkOut (s : Shop) (limit : Int) (givens : Givens) (user variant : Uuid) :
    Except Failure Answer :=
  (s.call limit (.calm givens) (.checkout (.cart user [variant]))).1.result

theorem result_call_checkout (s : Shop) (limit : Int) (givens : Givens) (o : Order) :
    (s.call limit (.calm givens) (.checkout o)).1.result =
      (((o.plan limit).eval s.store.view).mapError .refused).map fun b =>
        .session ⟨givens.session, o.source, b⟩ := by
  show (s.checkout limit (.calm givens) o).1.result.map Answer.session = _
  rw [result_checkout, result_consult_calm]
  cases (o.plan limit).eval s.store.view <;> rfl

theorem result_checkout_cart (hserves : s.store.serves user = true) {ids : List Uuid}
    (hsome : 1 ≤ ids.length) (hshort : ids.length ≤ limit) (givens : Givens) :
    (s.call limit (.calm givens) (.checkout (.cart user ids))).1.result =
      .ok (.session ⟨givens.session, .cart, s.store.bundle user ids⟩) := by
  have hids : ¬ids.isEmpty = true := by
    rw [List.isEmpty_iff_length_eq_zero]
    omega
  rw [result_call_checkout, Order.plan_cart, if_neg hids, if_neg (by omega),
    eval_aggregate hserves rfl]
  rfl

theorem checkOut_eq (hserves : s.store.serves user = true) (hlimit : 1 ≤ limit)
    (givens : Givens) (variant : Uuid) :
    s.checkOut limit givens user variant =
      .ok (.session ⟨givens.session, .cart, s.store.bundle user [variant]⟩) := by
  have hone : 1 ≤ [variant].length := Nat.le_refl 1
  exact result_checkout_cart hserves hone (by simpa using hlimit) givens

theorem buyNow_eq (hkeys : s.store.Keys) (hserves : s.store.serves user = true)
    (hrow : s.store.holding? user variant = some (.inCart quantity))
    (hrange : inRange quantity = true) (limit : Int) (givens : Givens) :
    s.buyNow limit givens user variant quantity =
      ((((s.store.bundle user [variant]).unlessEmpty).eval s.store.view).mapError .refused).map
        fun b => .session ⟨givens.session, .product, b⟩ := by
  rw [buyNow, result_call_checkout, Order.plan_product, if_pos hrange, Plan.eval_seq,
    eval_aggregate hserves rfl, hkeys.withQuantities_singleton hrow]
  rfl

/-- What is in the cart and for sale can be bought at once, in the bundle that the checkout
has. -/
theorem buyNow_of_forSale (hkeys : s.store.Keys) (hserves : s.store.serves user = true)
    (hrow : s.store.holding? user variant = some (.inCart quantity))
    (hrange : inRange quantity = true) (hsale : s.store.forSale variant = true) (limit : Int)
    (givens : Givens) :
    s.buyNow limit givens user variant quantity =
      .ok (.session ⟨givens.session, .product, s.store.bundle user [variant]⟩) := by
  have hone := hkeys.count_bundle_singleton hrow (inRange_iff.mp hrange).1 hsale
  have hsome : ¬(s.store.bundle user [variant]).count = 0 := by omega
  rw [buyNow_eq hkeys hserves hrow hrange limit givens, Bundle.unlessEmpty, if_neg hsome]
  rfl

/-- A purchase at once and a checkout of the cart agree, each with what it is given. -/
structure CheckoutsAgree (s : Shop) (limit : Int) (g k : Givens) (user variant : Uuid)
    (quantity : Int) : Prop where
  /-- Where the purchase succeeds, the checkout does with the same bundle. -/
  opened : ∀ answer, s.buyNow limit g user variant quantity = .ok answer →
    ∃ b, answer = .session ⟨g.session, .product, b⟩ ∧
      s.checkOut limit k user variant = .ok (.session ⟨k.session, .cart, b⟩)
  /-- Where the purchase is refused, the checkout has nothing to buy, for the same reason. -/
  refused : ∀ f reason, s.buyNow limit g user variant quantity = .error f →
    f.shown? = some (.validation "variant_id" reason) →
    ∃ b i, s.checkOut limit k user variant = .ok (.session ⟨k.session, .cart, b⟩) ∧
      b.count = 0 ∧ b.sellers = [] ∧ b.invalid = [i] ∧ i.variant = variant ∧ i.reason = reason
  /-- There is no third case. -/
  decided : (∃ answer, s.buyNow limit g user variant quantity = .ok answer) ∨
    ∃ f reason, s.buyNow limit g user variant quantity = .error f ∧
      f.shown? = some (.validation "variant_id" reason)

theorem checkoutsAgree_of_inCart (hkeys : s.store.Keys) (hserves : s.store.serves user = true)
    (hrow : s.store.holding? user variant = some (.inCart quantity))
    (hrange : inRange quantity = true) (hlimit : 1 ≤ limit) (g k : Givens) :
    s.CheckoutsAgree limit g k user variant quantity := by
  have hcheck := checkOut_eq hserves hlimit k variant
  cases hsale : s.store.forSale variant with
  | true =>
      have hbuy := buyNow_of_forSale hkeys hserves hrow hrange hsale limit g
      refine ⟨?_, ?_, Or.inl ⟨_, hbuy⟩⟩
      · intro answer hanswer
        rw [hbuy] at hanswer
        exact ⟨_, (Except.ok.inj hanswer).symm, hcheck⟩
      · intro f reason hf
        rw [hbuy] at hf
        cases hf
  | false =>
      obtain ⟨hcount, hsellers, i, hinvalid, hi⟩ :=
        hkeys.bundle_singleton_of_not_forSale hrow (inRange_iff.mp hrange).1 hsale
      have hbuy := buyNow_eq hkeys hserves hrow hrange limit g
      rw [Bundle.unlessEmpty, if_pos hcount, hinvalid] at hbuy
      refine ⟨?_, ?_, Or.inr ⟨_, _, hbuy, rfl⟩⟩
      · intro answer hanswer
        rw [hbuy] at hanswer
        cases hanswer
      · intro f reason hf hshown
        rw [hbuy] at hf
        obtain rfl := Except.error.inj hf
        cases hshown
        exact ⟨_, i, hcheck, hcount, hsellers, hinvalid, hi, rfl⟩

end Shop

/-! ### After a mutation -/

section Mutations

variable {s : Store} {givens : Givens} {m : Mutation} {variant : Uuid} {quantity : Int}

theorem Mutation.step_of_quantity? (h : m.quantity? = some quantity) :
    m.step = .add quantity ∨ m.step = .update quantity := by
  cases m <;> simp_all [quantity?, step]

/-- What is admitted with a quantity is for sale. -/
theorem Store.Keys.forSale_of_admits (h : s.Keys) (hadmits : s.admits m = true)
    (hvariant : m.variant? = some variant) (hquantity : m.quantity? = some quantity) :
    s.serves m.user = true ∧ s.forSale variant = true := by
  have hsold : ∀ product, s.sells variant product quantity = true → s.forSale variant = true := by
    intro product hsells
    obtain ⟨x, hx, hcan⟩ := (Option.any_eq_true _ _).mp hsells
    have hid : x.variant.id = variant := by
      have hfound := List.find?_some hx
      simp only [Bool.and_eq_true, beq_iff_eq] at hfound
      exact hfound.1
    have hx' : s.snapshot? variant none = some x :=
      h.snapshot?_eq_some.mpr ⟨List.mem_of_find?_eq_some hx, hid⟩
    simp only [Bool.and_eq_true] at hcan
    rw [Store.forSale, hx']
    exact hcan.1
  cases m with
  | add user product variant' quantity' =>
      cases hvariant
      cases hquantity
      simp only [Store.admits, Bool.and_eq_true] at hadmits
      exact ⟨hadmits.1.2, hsold _ hadmits.2⟩
  | update user variant' quantity' =>
      cases hvariant
      cases hquantity
      simp only [Store.admits, Bool.and_eq_true] at hadmits
      exact ⟨hadmits.1.2, hsold _ hadmits.2⟩
  | remove user variant' => cases hquantity
  | clear user => cases hquantity

/-- A mutation with a quantity that succeeds was admitted, and leaves it in the cart. -/
theorem Mutation.inCart_of_run_eq_ok (h : s.Keys) (hvariant : m.variant? = some variant)
    (hquantity : m.quantity? = some quantity) {done : Written}
    (hrun : (m.run (.calm givens) s).1 = .ok done) :
    s.admits m = true ∧
      (m.run (.calm givens) s).2.holding? m.user variant = some (.inCart quantity) := by
  have hadmits : s.admits m = true := by
    cases hadmits : s.admits m with
    | true => rfl
    | false =>
        obtain ⟨r, hrefused⟩ := run_of_not_admits hadmits
        rw [hrefused] at hrun
        cases hrun
  have hconcerns : m.concerns m.user variant = true := by simp [concerns, hvariant]
  obtain ⟨hstatus, hholding⟩ := run_of_admits h hadmits hconcerns
  rw [hrun] at hstatus
  refine ⟨hadmits, ?_⟩
  rcases htake : m.step.take (s.holding? m.user variant) with ⟨e | status, after⟩
  · rw [htake] at hstatus
    cases hstatus
  · rw [hholding, htake]
    exact Step.inCart_of_take (step_of_quantity? hquantity) htake

end Mutations

namespace Shop

variable {s : Shop} {limit : Int} {givens : Givens} {variant : Uuid} {quantity : Int}

/-- A mutation that was answered has succeeded. -/
theorem exists_run_eq_ok {m : Mutation} {answer : Answer}
    (h : (s.call limit (.calm givens) (.mutate m)).1.result = .ok answer) :
    ∃ done, (m.run (.calm givens) s.store).1 = .ok done := by
  change (s.mutate (.calm givens) m).1.result.map Answer.report = .ok answer at h
  rw [s.result_mutate] at h
  cases hrun : (m.run (.calm givens) s.store).1 with
  | ok done => exact ⟨done, rfl⟩
  | error f =>
      rw [hrun] at h
      cases h

theorem checkouts_succeed_after (hkeys : s.store.Keys) (hlimit : 1 ≤ limit) {m : Mutation}
    {answer : Answer} (hvariant : m.variant? = some variant)
    (hquantity : m.quantity? = some quantity)
    (hdone : (s.call limit (.calm givens) (.mutate m)).1.result = .ok answer) (g k : Givens) :
    let after := (s.call limit (.calm givens) (.mutate m)).2
    ∃ b, after.buyNow limit g m.user variant quantity = .ok (.session ⟨g.session, .product, b⟩) ∧
      after.checkOut limit k m.user variant = .ok (.session ⟨k.session, .cart, b⟩) := by
  intro after
  have hstore : after.store = (m.run (.calm givens) s.store).2 :=
    s.store_call limit (.calm givens) (.mutate m)
  obtain ⟨done, hrun⟩ := exists_run_eq_ok hdone
  obtain ⟨hadmits, hrow⟩ := Mutation.inCart_of_run_eq_ok hkeys hvariant hquantity hrun
  obtain ⟨hserves, hsale⟩ := hkeys.forSale_of_admits hadmits hvariant hquantity
  obtain ⟨hcustomers, hsnapshots⟩ := m.customers_run (.calm givens) s.store
  have hrange : inRange quantity = true :=
    Store.inRange_of_admits hadmits (Mutation.step_of_quantity? hquantity)
  have hkeys' : after.store.Keys := hstore ▸ Mutation.keys_run hkeys m (.calm givens)
  have hserves' : after.store.serves m.user = true := by
    rw [hstore, Store.serves, Store.customer?, hcustomers]
    exact hserves
  have hsale' : after.store.forSale variant = true := by
    rw [hstore, Store.forSale, Store.snapshot?, hsnapshots]
    exact hsale
  rw [← hstore] at hrow
  exact ⟨_, buyNow_of_forSale hkeys' hserves' hrow hrange hsale' limit g,
    checkOut_eq hserves' hlimit k variant⟩

/-- **Buying at once and checking out of the cart agree** on every row in the cart of a
customer who is served, whether the variant can be bought or not.  After a mutation that
has put a quantity into a row, both succeed with the same bundle. -/
theorem checkouts_agree (hkeys : s.store.Keys) (hsound : s.store.SoundRows) (hlimit : 1 ≤ limit)
    (user variant : Uuid) (quantity : Int) (g k : Givens) :
    (s.store.serves user = true → s.store.holding? user variant = some (.inCart quantity) →
      s.CheckoutsAgree limit g k user variant quantity) ∧
    ∀ givens m answer, m.user = user → m.variant? = some variant → m.quantity? = some quantity →
      (s.call limit (.calm givens) (.mutate m)).1.result = .ok answer →
      let after := (s.call limit (.calm givens) (.mutate m)).2
      ∃ b, after.buyNow limit g user variant quantity = .ok (.session ⟨g.session, .product, b⟩) ∧
        after.checkOut limit k user variant = .ok (.session ⟨k.session, .cart, b⟩) := by
  constructor
  · intro hserves hrow
    obtain ⟨r, hr, hholding⟩ := Option.map_eq_some_iff.mp hrow
    have hrange : inRange quantity = true :=
      Holding.inRange_of_sound (hholding ▸ hsound r (Store.row?_mem hr))
    exact checkoutsAgree_of_inCart hkeys hserves hrow hrange hlimit g k
  · rintro givens m answer rfl hvariant hquantity hdone
    exact checkouts_succeed_after hkeys hlimit hvariant hquantity hdone g k

end Shop

/-- The tea of the corner shop is bought at once or out of the cart, and so is the jam after
it was put back. -/
theorem checkouts_agree_corner :
    let s := Shop.opened Corner.store
    let g := Corner.givens
    let added := s.call 100 (.calm g) (.mutate (.add Corner.user (.ofNat 5) Corner.jam 3))
    s.store.Keys ∧ s.store.SoundRows ∧ (1 : Int) ≤ 100 ∧ s.store.serves Corner.user = true ∧
      s.store.holding? Corner.user Corner.tea = some (.inCart 2) ∧
      s.CheckoutsAgree 100 g g Corner.user Corner.tea 2 ∧
      added.1.result = .ok (.report ⟨some Corner.jam, some 3, .reactivated⟩) ∧
      ∃ b, added.2.buyNow 100 g Corner.user Corner.jam 3 =
          .ok (.session ⟨g.session, .product, b⟩) ∧
        added.2.checkOut 100 g Corner.user Corner.jam = .ok (.session ⟨g.session, .cart, b⟩) := by
  intro s g added
  have hsound : s.store.SoundRows := Corner.wellFormed_store.holdings
  have hlimit : (1 : Int) ≤ 100 := by decide
  have hadded : added.1.result = .ok (.report ⟨some Corner.jam, some 3, .reactivated⟩) := rfl
  exact ⟨Corner.keys_store, hsound, hlimit, rfl, rfl,
    (Shop.checkouts_agree (s := s) Corner.keys_store hsound hlimit Corner.user Corner.tea 2 g g).1
      rfl rfl,
    hadded,
    (Shop.checkouts_agree (s := s) Corner.keys_store hsound hlimit Corner.user Corner.jam 3 g g).2
      _ _ _ rfl rfl rfl hadded⟩

end Storefront
