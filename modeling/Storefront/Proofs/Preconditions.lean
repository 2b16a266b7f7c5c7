/-
What a body can ask for is what the services accept.

The bounds of a quantity and the need for at least one variant are written down twice: where a body
is read, and in the services, which do not know where their arguments come from.  The two agree.  A
body is accepted only with arguments that the services accept (`Call.Acceptable`), in whatever
spelling they came, and an integer that no service accepts is complained of in every body.

So over HTTP some errors of the services are never met: that a quantity is out of range, and that
there are no variants.  What is left to say of a list of variants is that it is too long, which no
body is held against.
-/
import Mathlib
import Storefront.Proofs.Complementarity
import Storefront.Proofs.Delivery
import Storefront.Proofs.Tally

namespace Storefront

namespace Intake

variable {α β γ : Type} {name : String} {read : Json → Checked α} {ms : Json.Members}

/-! ### Bodies that are accepted -/

theorem readObject_eq_ok {read : Json.Members → Checked α} {v : Json} {a : α} :
    readObject read v = .ok a ↔ ∃ ms, v = .object ms ∧ read ms = .ok a := by
  cases v <;> simp [readObject]

theorem Holds.inRange {n : Int} (h : Holds ms name readQuantity n) : inRange n = true := by
  obtain ⟨v, -, hv⟩ := h
  exact (readQuantity_eq_ok.mp hv).2

theorem NewItem.inRange_of_read {v : Json} {r : NewItem} (h : NewItem.read v = .ok r) :
    inRange r.quantity = true := by
  obtain ⟨ms, rfl, -⟩ := readObject_eq_ok.mp h
  obtain ⟨-, -, hquantity⟩ := NewItem.read_eq_ok.mp h
  exact hquantity.inRange

theorem NewQuantity.inRange_of_read {v : Json} {r : NewQuantity} (h : NewQuantity.read v = .ok r) :
    inRange r.quantity = true := by
  obtain ⟨ms, rfl, -⟩ := readObject_eq_ok.mp h
  exact (NewQuantity.read_eq_ok.mp h).inRange

theorem Choice.ne_nil_of_read {v : Json} {r : Choice} (h : Choice.read v = .ok r) :
    r.variants ≠ [] := by
  obtain ⟨ms, rfl, -⟩ := readObject_eq_ok.mp h
  exact (Choice.read_eq_ok.mp h).2

/-- The fields of a checkout have what its source needs: a variant in a quantity that can be had, or
some variants. -/
def CheckoutFields.Complete (f : CheckoutFields) : Prop :=
  match f.source with
  | .product => f.variant ≠ none ∧ ∃ n, f.quantity = some n ∧ inRange n = true
  | .cart => ∃ us, f.variants = some us ∧ us ≠ []

/-- A checkout is accepted exactly when its fields are, and have what its source needs. -/
theorem CheckoutRequest.exists_read_iff {v : Json} {f : CheckoutFields} :
    (∃ r, CheckoutRequest.read v = .ok r ∧ r.fields = f) ↔
      CheckoutFields.read v = .ok f ∧ f.Complete := by
  have hobject : (∃ r, CheckoutRequest.read v = .ok r ∧ r.fields = f) ∨
      CheckoutFields.read v = .ok f → ∃ ms, v = .object ms := by
    rintro (⟨r, hr, -⟩ | hf)
    · obtain ⟨f', hf', -⟩ := Except.bind_eq_ok.mp hr
      obtain ⟨ms, rfl, -⟩ := readObject_eq_ok.mp hf'
      exact ⟨ms, rfl⟩
    · obtain ⟨ms, rfl, -⟩ := readObject_eq_ok.mp hf
      exact ⟨ms, rfl⟩
  constructor
  · intro h
    obtain ⟨ms, rfl⟩ := hobject (Or.inl h)
    obtain ⟨r, hr, rfl⟩ := h
    have hfields := CheckoutRequest.read_eq_ok.mp hr
    refine ⟨hfields, ?_⟩
    cases r with
    | product variant quantity variants =>
        obtain ⟨-, -, hquantity, -⟩ := CheckoutFields.read_eq_ok.mp hfields
        exact ⟨by simp [fields], quantity, rfl, Holds.inRange hquantity⟩
    | cart variant quantity first rest => exact ⟨first :: rest, rfl, List.cons_ne_nil first rest⟩
  · rintro ⟨hfields, hcomplete⟩
    obtain ⟨ms, rfl⟩ := hobject (Or.inr hfields)
    have hr : ∃ r : CheckoutRequest, r.fields = f := by
      obtain ⟨source, variant, quantity, variants⟩ := f
      cases source with
      | product =>
          obtain ⟨hvariant, n, rfl, -⟩ := hcomplete
          obtain ⟨u, rfl⟩ := Option.ne_none_iff_exists'.mp hvariant
          exact ⟨.product u n variants, rfl⟩
      | cart =>
          obtain ⟨us, rfl, hsome⟩ := hcomplete
          obtain ⟨first, rest, rfl⟩ := List.exists_cons_of_ne_nil hsome
          exact ⟨.cart variant quantity first rest, rfl⟩
    obtain ⟨r, rfl⟩ := hr
    exact ⟨r, CheckoutRequest.read_eq_ok.mpr hfields, rfl⟩

/-! ### Quantities that are complained of -/

/-- An input is not accepted, and one of the complaints is about one of its fields. -/
def Complains (checked : Checked α) (c : Complaint) (name : String) : Prop :=
  ∃ ps sent, checked = .error ps ∧ ⟨c, [.field name], sent⟩ ∈ ps

section Complaints

variable {f : α → β → γ} {a : Checked α} {b : Checked β} {c : Complaint} {v : Json}

theorem Complains.left (h : Complains a c name) : Complains (Checked.both f a b) c name := by
  obtain ⟨ps, sent, rfl, hmem⟩ := h
  cases b with
  | ok b => exact ⟨ps, sent, rfl, hmem⟩
  | error qs => exact ⟨ps ++ qs, sent, rfl, List.mem_append_left qs hmem⟩

theorem Complains.right (h : Complains b c name) : Complains (Checked.both f a b) c name := by
  obtain ⟨qs, sent, rfl, hmem⟩ := h
  cases a with
  | ok a => exact ⟨qs, sent, rfl, hmem⟩
  | error ps => exact ⟨ps ++ qs, sent, rfl, List.mem_append_right ps hmem⟩

theorem Complains.map (h : Complains a c name) (g : α → β) : Complains (a.map g) c name := by
  obtain ⟨ps, sent, rfl, hmem⟩ := h
  exact ⟨ps, sent, rfl, hmem⟩

theorem Complains.bind (h : Complains a c name) (g : α → Checked β) :
    Complains (a >>= g) c name := by
  obtain ⟨ps, sent, rfl, hmem⟩ := h
  exact ⟨ps, sent, rfl, hmem⟩

theorem complains_required (hget : ms.get? name = some v) (hread : read v = .fail c v) :
    Complains (required name read ms) c name := by
  refine ⟨[⟨c, [.field name], v⟩], v, ?_, List.mem_singleton_self _⟩
  simp only [required, hget, hread]
  rfl

theorem complains_optional (hget : ms.get? name = some v) (hnull : v ≠ .null)
    (hread : read v = .fail c v) : Complains (optional name read ms) c name := by
  refine ⟨[⟨c, [.field name], v⟩], v, ?_, List.mem_singleton_self _⟩
  have hmap : (read v).map some = Checked.fail c v := by
    rw [hread]
    rfl
  simp only [optional, hget]
  cases v with
  | null => exact absurd rfl hnull
  | _ =>
      rw [hmap]
      rfl

/-- What is said of an integer that is no quantity. -/
def rangeComplaint (n : Int) : Complaint :=
  if n < 1 then .tooSmall else .tooLarge

/-- What writes an integer that is no quantity is complained of. -/
theorem exists_complaint {n : Int} (hwrites : Writes v n) (hout : inRange n = false) :
    ∃ c, readQuantity v = .fail c v ∧ (v = .int n → c = rangeComplaint n) := by
  rcases readQuantity_of_writes hwrites with hread | ⟨hread, hint, -⟩
  · refine ⟨rangeComplaint n, ?_, fun _ => rfl⟩
    rw [hread, bounded, rangeComplaint]
    by_cases hsmall : n < 1
    · rw [if_pos hsmall, if_pos hsmall]
    · have hlarge : maxQuantity < n := by
        by_contra hle
        have hrange : inRange n = true := inRange_iff.mpr ⟨by omega, by omega⟩
        rw [hout] at hrange
        cases hrange
      rw [if_neg hsmall, if_neg hsmall, if_pos hlarge]
  · exact ⟨.integerSize, hread, fun h => absurd h (hint n)⟩

end Complaints

end Intake

/-! ### Calls that the services accept -/

namespace Call

/-- The quantity of a call is in range, and the variants that it names are some. -/
def Acceptable : Call → Prop
  | mutate m => ∀ n, m.quantity? = some n → inRange n = true
  | list _ => True
  | summary _ variants => variants ≠ []
  | checkout (.product _ _ quantity) => inRange quantity = true
  | checkout (.cart _ variants) => variants ≠ []

end Call

/-- What is asked for over HTTP is acceptable. -/
theorem Http.Request.Asks.acceptable {r : Request} {user : Uuid} {call : Call}
    (h : r.Asks user call) : call.Acceptable := by
  cases h with
  | list => trivial
  | clear =>
      intro n hn
      cases hn
  | add _ _ _ _ hquantity =>
      intro n hn
      obtain rfl := Option.some.inj hn
      exact hquantity.inRange
  | update _ _ _ hquantity =>
      intro n hn
      obtain rfl := Option.some.inj hn
      exact hquantity.inRange
  | remove =>
      intro n hn
      cases hn
  | summary _ _ _ hsome => exact hsome
  | buyNow _ _ _ _ hquantity => exact hquantity.inRange
  | checkOut _ _ _ _ _ _ hsome => exact hsome

/-! ### Errors that are left -/

/-- The error is not about what a body is held against: of a quantity it says at most that there is
not enough, and it says nothing of a list of variants. -/
def ServiceError.isLeft : ServiceError → Bool
  | validation field reason =>
    field ≠ RawText.ofString "quantity" && field ≠ RawText.ofString "variant_ids" &&
      (field ≠ RawText.ofString "required_quantity" ||
        reason == RawText.ofString "not enough stock available")
  | _ => true

namespace Store

variable {s : Store} {user variant : Uuid} {e : ServiceError}

theorem isLeft_customerError? (h : s.customerError? user = some e) : e.isLeft = true := by
  have herrors : ∀ e ∈ customerErrors, e.isLeft = true := by
    decide
  exact herrors e (mem_customerErrors h)

theorem isLeft_customerObjection? {r : Refusal} (h : s.customerObjection? user = some r) :
    r.shown.isLeft = true := by
  have herror : s.customerError? user = some r.shown := by
    rw [← s.shown_customerObjection?, h]
    rfl
  exact isLeft_customerError? herror

theorem isLeft_variantError? {product : Option Uuid} {quantity : Int}
    (h : s.variantError? variant product quantity = some e) : e.isLeft = true := by
  have herrors : ∀ e ∈ [ServiceError.notFound "variant snapshot", .auth "seller moderation failed",
      .validation "product" "product is not available for cart",
      .validation "variant" "variant is not in stock or archived",
      .validation "required_quantity" "not enough stock available"], e.isLeft = true := by
    decide
  refine herrors e ?_
  unfold variantError? Snapshot.saleError? at h
  repeat' split at h
  all_goals cases h
  all_goals decide

end Store

theorem RowState.isLeft_transition {state : RowState} {action : Action} {e : ServiceError}
    (h : state.transition action = .error e) : e.isLeft = true := by
  cases state <;> cases action <;> cases h <;> decide

theorem Step.isLeft_refusal? {step : Step} {read : Option CartRow} {there : Bool} {r : Refusal}
    (h : step.refusal? read there = some r) : r.shown.isLeft = true := by
  unfold refusal? at h
  split at h
  · next e hillegal =>
    obtain rfl := Option.some.inj h
    exact RowState.isLeft_transition hillegal
  · split at h
    · obtain rfl := Option.some.inj h
      rfl
    · cases h

namespace Mutation

variable {m : Mutation} {c : Conditions} {s : Store} {r : Refusal}

theorem isLeft_objection? (hquantity : ∀ n, m.quantity? = some n → inRange n = true)
    (h : s.objection? m = some r) : r.shown.isLeft = true := by
  have hsale : ∀ user variant product quantity, inRange quantity = true →
      (quantityObjection? quantity).or
        ((s.customerObjection? user).or (s.variantObjection? variant product quantity)) = some r →
      r.shown.isLeft = true := by
    intro user variant product quantity hrange hsale
    rw [quantityObjection?_eq_none.mpr hrange, Option.none_or] at hsale
    rcases Option.or_eq_some_iff.mp hsale with hcustomer | ⟨-, hvariant⟩
    · exact Store.isLeft_customerObjection? hcustomer
    · have herror : s.variantError? variant product quantity = some r.shown := by
        rw [← s.shown_variantObjection?, hvariant]
        rfl
      exact Store.isLeft_variantError? herror
  cases m with
  | add user product variant quantity => exact hsale _ _ _ _ (hquantity quantity rfl) h
  | update user variant quantity => exact hsale _ _ _ _ (hquantity quantity rfl) h
  | remove user variant => exact Store.isLeft_customerObjection? h
  | clear user => exact Store.isLeft_customerObjection? h

theorem isLeft_refusal? (hquantity : ∀ n, m.quantity? = some n → inRange n = true)
    (h : m.refusal? c s = some r) : r.shown.isLeft = true := by
  rcases Option.or_eq_some_iff.mp h with hobjection | ⟨-, hstep⟩
  · exact isLeft_objection? hquantity hobjection
  · obtain ⟨variant, -, hrow⟩ := Option.bind_eq_some_iff.mp hstep
    exact Step.isLeft_refusal? hrow

end Mutation

/-! ### Calls that fail -/

/-- What is said of more variants than are checked out at once. -/
def tooManyVariants (limit : Int) : ServiceError :=
  .validation "variant_ids" ("must contain at most " ++ toString limit ++ " ids")

/-- A checkout names more variants than are checked out at once. -/
def Call.Exceeds (limit : Int) (call : Call) : Prop :=
  ∃ user ids, call = .checkout (.cart user ids) ∧ limit < ids.length

/-- A failure that is no refusal is shown as an error of a table, or not at all. -/
theorem Failure.isLeft_of_forall_ne {f : Failure} (h : ∀ r, f ≠ .refused r) {e : ServiceError} :
    f.shown? ≠ some e ∧ (f.ofUnitOfWork.shown? = some e → e.isLeft = true) := by
  cases f with
  | refused r => exact absurd rfl (h r)
  | database kind message =>
      refine ⟨by simp [shown?], fun he => ?_⟩
      obtain rfl := Option.some.inj he
      rfl
  | crash message => exact ⟨by simp [shown?], fun he => by cases he⟩

namespace Shop

variable {s : Shop} {limit : Int} {c : Conditions} {e : ServiceError} {f : Failure}

theorem isLeft_mutate (hc : c.Foreign) {m : Mutation}
    (hquantity : ∀ n, m.quantity? = some n → inRange n = true)
    (h : (s.mutate c m).1.result = .error f) (he : f.shown? = some e) : e.isLeft = true := by
  have hrun : (m.run c s.store).1 = .error f := by
    rw [s.result_mutate] at h
    cases hdone : (m.run c s.store).1 with
    | ok done => simp [hdone, Except.map] at h
    | error f' => simpa [hdone, Except.map] using h
  rcases Mutation.exists_of_run_eq_error hrun with ⟨r, hrefusal, rfl⟩ | ⟨fault, hfault, rfl⟩
  · obtain rfl := Option.some.inj he
    exact Mutation.isLeft_refusal? hquantity hrefusal
  · rcases m.raised_cases (c.view s.store) fault with hconflict | hraised
    · rw [hconflict] at he
      obtain rfl := Option.some.inj he
      rfl
    · rw [hraised] at he
      exact (Failure.isLeft_of_forall_ne (hc fault hfault)).2 he

/-- A plan that only reads fails with an error that it is refused with. -/
theorem of_consult_eq_error (hc : c.Foreign) {α : Type} {p : Plan α} {P : Refusal → Prop}
    (hp : p.RefusedBy (c.view s.store) P) (h : (s.consult c p).result = .error f)
    (he : f.shown? = some e) : ∃ r, P r ∧ r.shown = e := by
  rcases s.consult_cases c p with ⟨a, hconsult⟩ | ⟨f', hrun, hconsult⟩
  · rw [hconsult] at h
    cases h
  · rw [hconsult] at h
    obtain rfl := Except.error.inj h
    rcases Plan.exists_of_run_eq_error hrun with ⟨r, hr, rfl⟩ | ⟨fault, hfault, rfl⟩
    · exact ⟨r, hp r hr, Option.some.inj he⟩
    · exact absurd he (Failure.isLeft_of_forall_ne (hc fault hfault)).1

theorem refusedBy_acceptable_order {o : Order} (h : Call.Acceptable (.checkout o)) :
    (o.plan limit).RefusedBy (c.view s.store) fun r =>
      r.shown.isLeft = true ∨
        Call.Exceeds limit (.checkout o) ∧ r.shown = tooManyVariants limit := by
  have hreads : ∀ {user selection quantity},
      (aggregate user selection quantity).RefusedBy (c.view s.store) fun r =>
        r.shown.isLeft = true ∨
          Call.Exceeds limit (.checkout o) ∧ r.shown = tooManyVariants limit :=
    fun r hr => Or.inl (Store.isLeft_customerObjection? (refusedBy_customerObjection _ _ _ r hr))
  cases o with
  | product user variant quantity =>
      have hrange : inRange quantity = true := h
      rw [Order.plan_product, if_pos hrange]
      refine hreads.bind fun b r hr => ?_
      unfold Bundle.unlessEmpty at hr
      split at hr
      · obtain rfl := Except.error.inj hr
        exact Or.inl rfl
      · cases hr
  | cart user ids =>
      have hsome : ids ≠ [] := h
      rw [Order.plan_cart, if_neg (by simpa using hsome)]
      split
      · next hlong =>
        intro r hr
        obtain rfl := Except.error.inj hr
        exact Or.inr ⟨⟨user, ids, rfl, hlong⟩, rfl⟩
      · exact hreads

/-- A call that is acceptable fails with an error that is left, or names too many variants. -/
theorem isLeft_call (hc : c.Foreign) {call : Call} (hcall : call.Acceptable)
    (h : (s.call limit c call).1.result = .error f) (he : f.shown? = some e) :
    e.isLeft = true ∨ call.Exceeds limit ∧ e = tooManyVariants limit := by
  have herror : ∀ {α : Type} {x : Except Failure α} {g : α → Answer}, x.map g = .error f →
      x = .error f := by
    intro α x g hx
    cases x with
    | ok a => cases hx
    | error f' => exact congrArg _ (Except.error.inj hx)
  cases call with
  | mutate m => exact Or.inl (isLeft_mutate hc hcall (herror h) he)
  | list user =>
      obtain ⟨r, hr, rfl⟩ :=
        of_consult_eq_error hc (refusedBy_customerObjection user _ _) (herror h) he
      exact Or.inl (Store.isLeft_customerObjection? hr)
  | summary user variants =>
      have hsummary : (summarize user variants).RefusedBy (c.view s.store)
          (s.store.customerObjection? user = some ·) :=
        (refusedBy_customerObjection user _ _).bind fun _ => .of_eval_eq_ok rfl
      obtain ⟨r, hr, rfl⟩ := of_consult_eq_error hc hsummary (herror h) he
      exact Or.inl (Store.isLeft_customerObjection? hr)
  | checkout o =>
      have hconsult : (s.consult c (o.plan limit)).result = .error f := by
        have hcheckout : (s.checkout limit c o).1.result = .error f := herror h
        rw [s.result_checkout] at hcheckout
        cases hresult : (s.consult c (o.plan limit)).result with
        | ok b => simp [hresult, Except.map] at hcheckout
        | error f' => simpa [hresult, Except.map] using hcheckout
      obtain ⟨r, hr, rfl⟩ := of_consult_eq_error hc (refusedBy_acceptable_order hcall) hconsult he
      exact hr

/-- A checkout of too many variants fails before anything is read. -/
theorem call_of_exceeds {user : Uuid} {ids : List Uuid} (hsome : ids ≠ [])
    (hlong : limit < ids.length) (s : Shop) (c : Conditions) :
    (s.call limit c (.checkout (.cart user ids))).1.result =
      .error (.refused (.error (tooManyVariants limit))) := by
  show (s.checkout limit c (.cart user ids)).1.result.map Answer.session = _
  rw [s.result_checkout, consult, Order.plan_cart, if_neg (by simpa using hsome), if_pos hlong]
  rfl

end Shop

/-! ### Over HTTP -/

namespace Http

/-- A request is answered with an error of the services. -/
def Response.Shows (reply : Response) (e : ServiceError) : Prop :=
  reply.status = e.status ∧ reply.content = .json (errorJson e)

theorem errorJson_validation {field reason : RawText} {e : ServiceError}
    (h : errorJson e = errorJson (.validation field reason)) : e = .validation field reason := by
  have hparts : e.message = ServiceError.message (.validation field reason) ∧
      Json.ofText? e.field? = .text field := by
    simp only [errorJson, problemJson, Json.record, Json.object.injEq, List.map_cons,
      List.cons.injEq, Prod.mk.injEq, Json.text.injEq, true_and] at h
    exact ⟨h.1, h.2.2.1⟩
  obtain ⟨hmessage, hfield⟩ := hparts
  cases e with
  | validation field' reason' =>
      obtain rfl : field' = field := by simpa [ServiceError.field?, Json.ofText?] using hfield
      obtain rfl : reason' = reason := by simpa [ServiceError.message] using hmessage
      rfl
  | _ => simp [ServiceError.field?, Json.ofText?] at hfield

variable {settings : Settings} {now : Int} {c : Conditions} {shop : Shop} {r : Request}

/-- What is drafted without a call is no error of a field. -/
theorem draft_ne_of_call?_eq_none (h : r.call? settings now = none) (c : Conditions) (shop : Shop)
    (field reason : RawText) :
    (draft settings now c shop r).1 ≠
      .reply 400 (.json (errorJson (.validation field reason))) := by
  unfold draft
  split
  · simp
  · next hpreflight =>
    split
    · next o _ =>
      cases o with
      | noAccess e => cases e <;> simp [draftOfObjection, plainProblem]
      | problems ps =>
          by_cases hall : ps.all isReportable = true <;> simp [draftOfObjection, hall]
      | _ =>
        simp [draftOfObjection, plainProblem, errorJson, problemJson, Json.record, Json.ofText?]
    · simp
    · simp
    · next call hwish => simp [Request.call?, hpreflight, hwish] at h

/-- An error of a field is shown of a call, and is one of those that are left. -/
theorem isLeft_of_shows (hc : c.Foreign) {field reason : RawText}
    (h : (serve settings now c shop r).1.Shows (.validation field reason)) :
    (ServiceError.validation field reason).isLeft = true ∨
      ∃ call, r.call? settings now = some call ∧ call.Exceeds settings.maxCheckoutVariants ∧
        .validation field reason = tooManyVariants settings.maxCheckoutVariants := by
  cases hcall : r.call? settings now with
  | none =>
      exfalso
      unfold serve at h
      split at h
      · next status content events shop' hdraft =>
        obtain ⟨hstatus, hcontent⟩ := h
        obtain rfl : status = 400 := hstatus
        obtain rfl : content = .json (errorJson (.validation field reason)) := by
          simp only [contentFor] at hcontent
          split at hcontent
          · cases content <;> cases hcontent
          · exact hcontent
        exact draft_ne_of_call?_eq_none hcall c shop field reason
          (congrArg Prod.fst hdraft)
      · cases h.2
  | some call =>
      obtain ⟨-, -, -, hasks⟩ := Request.call?_eq_some.mp hcall
      cases hresult : (shop.call settings.maxCheckoutVariants c call).1.result with
      | ok a =>
          rw [serve_of_ok hcall hresult] at h
          have hstatus : okStatus call = 400 := h.1
          cases call <;> cases hstatus
      | error f =>
          cases hshown : f.shown? with
          | none =>
              rw [serve_of_hidden hcall hresult hshown] at h
              cases h.2
          | some e =>
              rw [serve_of_shown hcall hresult hshown] at h
              obtain rfl := errorJson_validation (Content.json.inj h.2)
              rcases Shop.isLeft_call hc hasks.acceptable hresult hshown with hleft | hexceeds
              · exact Or.inl hleft
              · exact Or.inr ⟨call, rfl, hexceeds⟩

/-- A checkout of too many variants is answered with that, and with nothing else. -/
theorem shows_of_exceeds {call : Call} (h : r.call? settings now = some call)
    (hexceeds : call.Exceeds settings.maxCheckoutVariants) (c : Conditions) (shop : Shop) :
    (serve settings now c shop r).1.Shows (tooManyVariants settings.maxCheckoutVariants) := by
  obtain ⟨-, -, -, hasks⟩ := Request.call?_eq_some.mp h
  obtain ⟨user, ids, rfl, hlong⟩ := hexceeds
  have hsome : ids ≠ [] := hasks.acceptable
  rw [serve_of_shown h (Shop.call_of_exceeds hsome hlong shop c) rfl]
  exact ⟨rfl, rfl⟩

end Http

/-! ### Bodies and services agree -/

open Intake in
/-- **What a body can ask for is what the services accept.**  Whatever value is read as the body of
a request to put a variant into the cart or to change its quantity, the quantity is one that can be
had; a choice of variants names some; and a checkout is read exactly when its fields are and there
is what its source needs, a variant in a quantity that can be had or some variants.  An integer
that no service accepts is complained of in each of these bodies, however it is written.

So of what a service has to say over HTTP, nothing is about the range of a quantity or the lack of
variants: no error is about `quantity`, an error about `required_quantity` is about the stock, and
one about `variant_ids` is met exactly when a cart is checked out with more variants than
configured. -/
theorem bodies_suit_services :
    (∀ v r, NewItem.read v = .ok r → inRange r.quantity = true) ∧
    (∀ v r, NewQuantity.read v = .ok r → inRange r.quantity = true) ∧
    (∀ v r, Choice.read v = .ok r → r.variants ≠ []) ∧
    (∀ v f, (∃ r, CheckoutRequest.read v = .ok r ∧ r.fields = f) ↔
      CheckoutFields.read v = .ok f ∧ f.Complete) ∧
    (∀ (ms : Json.Members) v n, ms.get? "quantity" = some v → Writes v n → inRange n = false →
      ∃ c, (v = .int n → c = rangeComplaint n) ∧
        Complains (NewItem.read (.object ms)) c "quantity" ∧
        Complains (NewQuantity.read (.object ms)) c "quantity" ∧
        Complains (CheckoutRequest.read (.object ms)) c "quantity") ∧
    ∀ (settings : Settings) (now : Int) (c : Conditions) (shop : Shop) (r : Http.Request),
      let reply := (Http.serve settings now c shop r).1
      let limit := settings.maxCheckoutVariants
      (c.Foreign → ∀ field reason, reply.Shows (.validation field reason) →
        field ≠ "quantity" ∧
        (field = "required_quantity" → reason = "not enough stock available") ∧
        (field = "variant_ids" → ∃ call, r.call? settings now = some call ∧ call.Exceeds limit ∧
          .validation field reason = tooManyVariants limit)) ∧
      ∀ call, r.call? settings now = some call → call.Exceeds limit →
        reply.Shows (tooManyVariants limit) := by
  refine ⟨fun v r => NewItem.inRange_of_read, fun v r => NewQuantity.inRange_of_read,
    fun v r => Choice.ne_nil_of_read, fun v f => CheckoutRequest.exists_read_iff, ?_, ?_⟩
  · intro ms v n hget hwrites hout
    obtain ⟨c, hread, hc⟩ := exists_complaint hwrites hout
    have hnull : v ≠ .null := by
      rintro rfl
      cases hwrites
    have hrequired : Complains (required "quantity" readQuantity ms) c "quantity" :=
      complains_required hget hread
    have hoptional : Complains (optional "quantity" readQuantity ms) c "quantity" :=
      complains_optional hget hnull hread
    have hfields : Complains (CheckoutFields.read (.object ms)) c "quantity" :=
      hoptional.left.right.right
    exact ⟨c, hc, hrequired.right.right, hrequired.map _, hfields.bind _⟩
  · intro settings now c shop r reply limit
    refine ⟨fun hc field reason hshows => ?_, fun call hcall hexceeds =>
      Http.shows_of_exceeds hcall hexceeds c shop⟩
    rcases Http.isLeft_of_shows hc hshows with hleft | hexceeds
    · simp only [ServiceError.isLeft, Bool.and_eq_true, Bool.or_eq_true, decide_eq_true_eq,
        beq_iff_eq] at hleft
      obtain ⟨⟨hquantity, hvariants⟩, hstock⟩ := hleft
      exact ⟨hquantity, fun hfield => hstock.resolve_left (not_not_intro hfield),
        fun hfield => absurd hfield hvariants⟩
    · obtain ⟨call, hcall, hlong, herror⟩ := hexceeds
      have hfield : field = RawText.ofString "variant_ids" := (ServiceError.validation.inj herror).1
      refine ⟨?_, fun h => ?_, fun _ => ⟨call, hcall, hlong, herror⟩⟩
      · rw [hfield]
        decide
      · rw [hfield] at h
        exact absurd h (by decide)

/-! ### A cart that is checked out where no cart is -/

namespace Corner

/-- A shop where no cart is checked out. -/
def strict : Settings := { Settings.standard with maxCheckoutVariants := 0 }

/-- A request to check out the tea in the cart. -/
def sweep : Http.Request :=
  { purchase with
    body := wide <|
      "\x7b\"source\": \"cart\", \"variant_ids\": " ++
        "[\"00000000000000000000000000000002\"]\x7d" }

theorem call?_sweep : sweep.call? strict morning = some (.checkout (.cart user [tea])) := by
  have hasks : sweep.Asks user (.checkout (.cart user [tea])) :=
    asks_of_body _ (by decide +kernel) (by decide +kernel)
  have haccess : Token.GivesAccess strict morning token user :=
    givesAccess_token.of_secret_eq rfl
  have hheaders : sweep.headers = purchase.headers := rfl
  have hbearer : sweep.bearer? = some token := by
    rw [← bearer?_purchase]
    simp only [Http.Request.bearer?, Http.Request.header?, hheaders]
  exact Http.Request.call?_eq_some.mpr ⟨token, hbearer, haccess, hasks⟩

end Corner

/-- Three cans of tea are asked for, then half a can, and then a cart where none is checked out. -/
theorem bodies_suit_services_corner :
    let item : Json := .record [("product_id", Corner.tea.json), ("variant_id", Corner.tea.json),
      ("quantity", .text " +03 ")]
    let choice : Json := .record [("variant_ids", .array [Corner.tea.json])]
    let nothing : Json.Members := [(RawText.ofString "quantity", .text "0.00")]
    let calm := Conditions.calm Corner.givens
    let reply := (Http.serve Corner.strict Corner.morning calm (.opened Corner.store)
      Corner.sweep).1
    (Intake.NewItem.read item = .ok ⟨Corner.tea, Corner.tea, 3⟩ ∧ inRange 3 = true) ∧
      (Intake.Choice.read choice = .ok ⟨[Corner.tea]⟩ ∧ [Corner.tea] ≠ []) ∧
      (∃ c, Intake.Complains (Intake.CheckoutRequest.read (.object nothing)) c "quantity") ∧
      reply.Shows (.validation "variant_ids" "must contain at most 0 ids") ∧
      ∃ call, Corner.sweep.call? Corner.strict Corner.morning = some call ∧ call.Exceeds 0 := by
  intro item choice nothing calm reply
  obtain ⟨hitem, -, hchoice, -, hcomplains, hserve⟩ := bodies_suit_services
  have hread : Intake.NewItem.read item = .ok ⟨Corner.tea, Corner.tea, 3⟩ :=
    Except.toOption_eq_some.mp (by decide +kernel)
  have hchosen : Intake.Choice.read choice = .ok ⟨[Corner.tea]⟩ :=
    Except.toOption_eq_some.mp (by decide +kernel)
  have hwrites : Intake.Writes (.text "0.00") 0 := .text rfl (by decide +kernel)
  obtain ⟨c, -, -, -, hcomplaint⟩ := hcomplains nothing (.text "0.00") 0 rfl hwrites rfl
  have hlong : Call.Exceeds 0 (.checkout (.cart Corner.user [Corner.tea])) :=
    ⟨Corner.user, [Corner.tea], rfl, by decide⟩
  obtain ⟨hleft, hexceeds⟩ := hserve Corner.strict Corner.morning calm (.opened Corner.store)
    Corner.sweep
  have hshows : reply.Shows (tooManyVariants 0) := hexceeds _ Corner.call?_sweep hlong
  have hcalm : calm.Foreign := fun fault hfault => by cases hfault
  obtain ⟨-, -, hfield⟩ := hleft hcalm _ _ hshows
  obtain ⟨call, hcall, hcalls, -⟩ := hfield rfl
  exact ⟨⟨hread, hitem item _ hread⟩, ⟨hchosen, hchoice choice _ hchosen⟩, ⟨c, hcomplaint⟩,
    hshows, call, hcall, hcalls⟩

end Storefront
