/-
The views of a cart agree.

Listing a cart, summing some of it up and checking some of it out each have an answer of their own,
and all three are made of one bundle: that of the ids that are asked for.  The ids come from the
request, or from the cart in the order of its rows, and the checks of a checkout are about how many
there are.  So for a customer who is served each request has one equation (`result_list`,
`result_summary`, `result_checkout_cart`), and where two of them are about the same ids their
answers are the same bundle.

Nothing but the customer can be in the way of a bundle.  What a customer who is not served is told
is a function of their record (`Store.customerError?`); a variant is unknown, unavailable or not in
the cart, and is then left out or reported, but never the cause of an error.
-/
import Storefront.Proofs.Accounting
import Storefront.Proofs.BuyNow
import Storefront.Proofs.Permanence
import Storefront.Proofs.Reads

namespace Storefront

/-! ### Aggregating -/

namespace Store

variable {s : Store} {user : Uuid}

/-- What a customer who may not read a cart is told: that they are unknown, archived or banned. -/
def customerError? (s : Store) (user : Uuid) : Option ServiceError :=
  match s.customer? user with
  | none => some (.notFound "user")
  | some c =>
    if c.archived then some (.auth "user is archived")
    else if c.banned then some (.auth "user is banned")
    else none

/-- Everything that a customer can be told who may not read a cart. -/
def customerErrors : List ServiceError :=
  [.notFound "user", .auth "user is archived", .auth "user is banned"]

theorem mem_customerErrors {e : ServiceError} (h : s.customerError? user = some e) :
    e ∈ customerErrors := by
  unfold customerError? at h
  split at h
  · obtain rfl := Option.some.inj h
    simp [customerErrors]
  · split at h
    · obtain rfl := Option.some.inj h
      simp [customerErrors]
    · obtain ⟨-, hbanned⟩ := Option.ite_none_right_eq_some.mp h
      obtain rfl := Option.some.inj hbanned
      simp [customerErrors]

theorem shown_customerObjection? (s : Store) (user : Uuid) :
    (s.customerObjection? user).map Refusal.shown = s.customerError? user := by
  unfold customerObjection? customerError?
  cases s.customer? user with
  | none => rfl
  | some c =>
      dsimp only
      unfold Customer.verdict
      cases c.archived
      · cases c.banned <;> rfl
      · rfl

end Store

section Aggregate

variable {s : Store} {user : Uuid}

theorem eval_aggregate_of_objection {r : Refusal} (h : s.customerObjection? user = some r)
    (selection : Selection) (quantity : Option Int) :
    (aggregate user selection quantity).eval s.view = .error r := by
  have hcustomer := eval_eligibleCustomer s.upToDate_view user
  rw [h] at hcustomer
  rw [aggregate, Plan.eval_seq, hcustomer]
  rfl

/-- An aggregation for a customer who is served has a bundle, whatever the variants are. -/
theorem exists_eval_aggregate (huser : s.serves user = true) (selection : Selection)
    (quantity : Option Int) : ∃ b, (aggregate user selection quantity).eval s.view = .ok b := by
  cases selection with
  | cart => exact ⟨_, eval_aggregate huser rfl⟩
  | variants ids => exact ⟨_, eval_aggregate huser rfl⟩

/-- An aggregation fails with what the customer is told, and with nothing else. -/
theorem eval_aggregate_cases (s : Store) (user : Uuid) (selection : Selection)
    (quantity : Option Int) :
    match s.customerError? user with
    | some e => ∃ r, (aggregate user selection quantity).eval s.view = .error r ∧ r.shown = e
    | none => ∃ b, (aggregate user selection quantity).eval s.view = .ok b := by
  have hshown := s.shown_customerObjection? user
  cases hobjection : s.customerObjection? user with
  | some r =>
      rw [hobjection] at hshown
      rw [← hshown]
      exact ⟨r, eval_aggregate_of_objection hobjection selection quantity, rfl⟩
  | none =>
      rw [hobjection] at hshown
      rw [← hshown]
      have hgate := Store.customerObjection?_eq_none.mp hobjection
      exact exists_eval_aggregate hgate selection quantity

end Aggregate

/-! ### One equation for each view -/

namespace Shop

variable {s : Shop} {limit : Int} {user : Uuid} {ids : List Uuid}

theorem result_list (hserves : s.store.serves user = true) (limit : Int) (givens : Givens) :
    (s.call limit (.calm givens) (.list user)).1.result =
      .ok (.bundle (s.store.bundle user (s.store.activeIds user))) := by
  show (s.consult (.calm givens) (listCart user)).result.map Answer.bundle = _
  rw [result_consult_calm, listCart, eval_aggregate hserves rfl]
  rfl

theorem result_summary (hserves : s.store.serves user = true) (limit : Int) (givens : Givens)
    (ids : List Uuid) :
    (s.call limit (.calm givens) (.summary user ids)).1.result =
      .ok (.summary (s.store.bundle user ids).summary) := by
  show (s.consult (.calm givens) (summarize user ids)).result.map Answer.summary = _
  rw [result_consult_calm, summarize, Plan.eval_seq, eval_aggregate hserves rfl]
  rfl

/-- A request that only reads leaves the tables as they were, whatever goes wrong. -/
theorem store_call_of_reads (s : Shop) (limit : Int) (c : Conditions) {call : Call}
    (h : call.reads = true) : (s.call limit c call).2.store = s.store := by
  rw [store_call]
  cases call with
  | mutate m => cases h
  | list user => rfl
  | summary user ids => rfl
  | checkout o => rfl

/-- **The views of a cart agree.**  For a customer who is served, the summary of some variants has
the total and the invalid items of their checkout, and the list of a cart is the bundle of the
checkout of everything in it.  Requests that read leave the tables as they were, whatever goes wrong
with the database, and a bundle fails with what is held against the customer and with nothing
else. -/
theorem cart_views_agree (s : Shop) (limit : Int) (user : Uuid) (g k : Givens) :
    (s.store.serves user = true → ∀ ids : List Uuid, 1 ≤ ids.length → ids.length ≤ limit →
      ∃ b, (s.call limit (.calm g) (.checkout (.cart user ids))).1.result =
          .ok (.session ⟨g.session, .cart, b⟩) ∧
        (s.call limit (.calm k) (.summary user ids)).1.result =
          .ok (.summary ⟨b.subtotal, b.invalid⟩)) ∧
    (s.store.serves user = true → 1 ≤ (s.store.activeIds user).length →
      (s.store.activeIds user).length ≤ limit →
      ∃ b, (s.call limit (.calm g) (.checkout (.cart user (s.store.activeIds user)))).1.result =
          .ok (.session ⟨g.session, .cart, b⟩) ∧
        (s.call limit (.calm k) (.list user)).1.result = .ok (.bundle b)) ∧
    (∀ c call, call.reads = true → (s.call limit c call).2.store = s.store) ∧
    ∀ selection quantity,
      match s.store.customerError? user with
      | some e =>
        ∃ r, (aggregate user selection quantity).eval s.store.view = .error r ∧ r.shown = e
      | none => ∃ b, (aggregate user selection quantity).eval s.store.view = .ok b := by
  refine ⟨?_, ?_, fun c call => s.store_call_of_reads limit c, eval_aggregate_cases s.store user⟩
  · intro hserves ids hsome hshort
    exact ⟨_, result_checkout_cart hserves hsome hshort g, result_summary hserves limit k ids⟩
  · intro hserves hsome hshort
    exact ⟨_, result_checkout_cart hserves hsome hshort g, result_list hserves limit k⟩

end Shop

theorem Corner.activeIds_store : store.activeIds user = [tea] := by
  rw [Store.activeIds, Store.listing_of_pairwise (by decide +kernel)]
  decide +kernel

/-- The tea in the cart of the corner shop, asked for twice, with jam that is in no cart and a
variant that was never sold; and all that is in the cart. -/
theorem cart_views_agree_corner :
    let s := Shop.opened Corner.store
    let calm := Conditions.calm Corner.givens
    let ids := [Corner.jam, Corner.tea, .ofNat 9, Corner.tea]
    s.store.serves Corner.user = true ∧
      (∃ b, (s.call 100 calm (.checkout (.cart Corner.user ids))).1.result =
          .ok (.session ⟨Corner.givens.session, .cart, b⟩) ∧
        (s.call 100 calm (.summary Corner.user ids)).1.result =
          .ok (.summary ⟨b.subtotal, b.invalid⟩)) ∧
      (∃ b, (s.call 100 calm (.checkout (.cart Corner.user [Corner.tea]))).1.result =
          .ok (.session ⟨Corner.givens.session, .cart, b⟩) ∧
        (s.call 100 calm (.list Corner.user)).1.result = .ok (.bundle b)) := by
  obtain ⟨hsummary, hlist, -, -⟩ :=
    Shop.cart_views_agree (.opened Corner.store) 100 Corner.user Corner.givens Corner.givens
  have hactive : (Shop.opened Corner.store).store.activeIds Corner.user = [Corner.tea] :=
    Corner.activeIds_store
  rw [hactive] at hlist
  exact ⟨rfl, hsummary rfl _ (by decide) (by decide), hlist rfl (by decide) (by decide)⟩

end Storefront
