/-
How the outcome of a call gets out.

A request that is let through is the call that it asks for and nothing else: what the shop is
afterwards and which events the services leave are those of the call.  What is added on the way
out is a status, a body and two kinds of event that no service leaves.  An answer goes out whole
under a status of its own, so that whoever knows the names of its members reads it back, and an
error as its message, its code and its field under the status of its class.

The two kinds of checkout share their place, so there alone does the body decide which call is
asked for, by what it names as its source.
-/
import Mathlib
import Storefront.Proofs.Access
import Storefront.Proofs.Documents

namespace Storefront

/-! ### The events of the services -/

/-- Whether an event is left by a service, and not by what delivers its outcome. -/
def Event.isOfService : Event → Bool
  | cart .. | checkout .. | gate _ => true
  | serviceFailure .. | request .. => false

theorem Failure.isOfService_of_mem {f : Failure} {e : Event} (h : e ∈ f.events) :
    e.isOfService = true := by
  unfold events at h
  split at h
  · rw [List.mem_singleton.mp h]
    rfl
  · cases h

namespace Shop

variable {s : Shop} {limit : Int} {c : Conditions} {e : Event}

theorem isOfService_of_mem_consult {α : Type} {p : Plan α} (h : e ∈ (s.consult c p).events) :
    e.isOfService = true := by
  unfold consult at h
  split at h
  · cases h
  · exact Failure.isOfService_of_mem h

theorem isOfService_of_mem_mutate {m : Mutation} (h : e ∈ (s.mutate c m).1.events) :
    e.isOfService = true := by
  unfold mutate at h
  split at h
  · rw [List.mem_singleton.mp h]
    rfl
  · exact Failure.isOfService_of_mem h

theorem isOfService_of_mem_checkout {o : Order} (h : e ∈ (s.checkout limit c o).1.events) :
    e.isOfService = true := by
  unfold checkout at h
  split at h
  · rw [List.mem_singleton.mp h]
    rfl
  · next f events hconsult =>
    refine isOfService_of_mem_consult (s := s) (c := c) (p := o.plan limit) ?_
    rw [hconsult]
    exact h

theorem isOfService_of_mem_call {call : Call} (h : e ∈ (s.call limit c call).1.events) :
    e.isOfService = true := by
  cases call with
  | mutate m => exact isOfService_of_mem_mutate h
  | list user => exact isOfService_of_mem_consult (p := listCart user) h
  | summary user variants => exact isOfService_of_mem_consult (p := summarize user variants) h
  | checkout o => exact isOfService_of_mem_checkout h

end Shop

namespace Http

variable {settings : Settings} {now : Int} {c : Conditions} {shop : Shop} {r : Request}
  {call : Call}

/-! ### What is added on the way out -/

/-- The status of the answer to a call. -/
def okStatus : Call → Nat
  | .checkout _ => 201
  | .mutate _ | .list _ | .summary .. => 200

/-- Checkouts are answered with sessions, and nothing else is. -/
theorem answerStatus_of_call {limit : Int} {a : Answer}
    (h : (shop.call limit c call).1.result = .ok a) : answerStatus a = okStatus call := by
  cases call with
  | mutate m | list user | summary user variants | checkout o =>
    obtain ⟨b, -, rfl⟩ := Except.map_eq_ok.mp h
    rfl

theorem filter_eventsOfOutcome {o : Outcome Answer} {path : String}
    (h : ∀ e ∈ o.events, e.isOfService = true) :
    (eventsOfOutcome path o).filter Event.isOfService = o.events := by
  have hadded : ∀ f, (failureEvents path f).filter Event.isOfService = [] := by
    intro f
    unfold failureEvents
    split
    · split <;> rfl
    · rfl
  rw [eventsOfOutcome, List.filter_append, List.filter_eq_self.mpr h]
  split
  · simp
  · rw [hadded, List.append_nil]

/-- Whoever asks for a call does not ask for the head of the answer alone. -/
theorem contentFor_of_asks {user : Uuid} (h : r.Asks user call) (content : Content) :
    contentFor r.method content = content := by
  have hmethod : r.method ≠ "HEAD" := fun hhead => by
    have hmethods := h.method_mem
    simp [hhead] at hmethods
  rw [contentFor, if_neg hmethod]

/-- An outcome that is no breakdown is sent as it is drafted, with one event more. -/
theorem serve_of_reply (h : r.call? settings now = some call) {status : Nat} {content : Content}
    (hdraft : draftOfOutcome (shop.call settings.maxCheckoutVariants c call).1 =
      .reply status content) :
    serve settings now c shop r =
      (⟨status, content, some (r.idOr c.givens.request)⟩,
        eventsOfOutcome r.shownPath (shop.call settings.maxCheckoutVariants c call).1 ++
          [.request r.shownPath r.method status c.givens.duration],
        (shop.call settings.maxCheckoutVariants c call).2) := by
  obtain ⟨-, -, -, hasks⟩ := Request.call?_eq_some.mp h
  have hreply : draft settings now c shop r = _ := draft_of_call? h
  rw [hdraft] at hreply
  rw [serve_of_draft hreply, contentFor_of_asks hasks]

theorem serve_of_brokenDown (h : r.call? settings now = some call)
    (hdraft : draftOfOutcome (shop.call settings.maxCheckoutVariants c call).1 = .brokenDown) :
    serve settings now c shop r =
      (⟨500, .text "Internal Server Error", none⟩,
        eventsOfOutcome r.shownPath (shop.call settings.maxCheckoutVariants c call).1,
        (shop.call settings.maxCheckoutVariants c call).2) := by
  have hreply : draft settings now c shop r = _ := draft_of_call? h
  rw [hdraft] at hreply
  exact serve_of_no_draft hreply

theorem filter_events_serve (h : r.call? settings now = some call) :
    (serve settings now c shop r).2.1.filter Event.isOfService =
      (shop.call settings.maxCheckoutVariants c call).1.events := by
  have houtcome : (eventsOfOutcome r.shownPath
      (shop.call settings.maxCheckoutVariants c call).1).filter Event.isOfService =
        (shop.call settings.maxCheckoutVariants c call).1.events :=
    filter_eventsOfOutcome fun e he => Shop.isOfService_of_mem_call he
  cases hdraft : draftOfOutcome (shop.call settings.maxCheckoutVariants c call).1 with
  | reply status content =>
    rw [serve_of_reply h hdraft, List.filter_append, houtcome]
    exact List.append_nil _
  | brokenDown =>
    rw [serve_of_brokenDown h hdraft, houtcome]

/-- An answer is delivered whole. -/
theorem serve_of_ok (h : r.call? settings now = some call) {a : Answer}
    (ha : (shop.call settings.maxCheckoutVariants c call).1.result = .ok a) :
    (serve settings now c shop r).1 =
      ⟨okStatus call, .json a.json, some (r.idOr c.givens.request)⟩ := by
  have hdraft : draftOfOutcome (shop.call settings.maxCheckoutVariants c call).1 =
      .reply (answerStatus a) (.json a.json) := by
    rw [draftOfOutcome, ha]
  rw [serve_of_reply h hdraft, answerStatus_of_call ha]

/-- An error of a service is delivered under the status of its class. -/
theorem serve_of_shown (h : r.call? settings now = some call) {f : Failure} {e : ServiceError}
    (hf : (shop.call settings.maxCheckoutVariants c call).1.result = .error f)
    (he : f.shown? = some e) :
    (serve settings now c shop r).1 =
      ⟨e.status, .json (errorJson e), some (r.idOr c.givens.request)⟩ := by
  have hdraft : draftOfOutcome (shop.call settings.maxCheckoutVariants c call).1 =
      .reply e.status (.json (errorJson e)) := by
    rw [draftOfOutcome, hf]
    simp only [draftOfFailure, he]
  rw [serve_of_reply h hdraft]

/-- Nothing is delivered of a failure that is not an error of a service. -/
theorem serve_of_hidden (h : r.call? settings now = some call) {f : Failure}
    (hf : (shop.call settings.maxCheckoutVariants c call).1.result = .error f)
    (he : f.shown? = none) :
    (serve settings now c shop r).1 = ⟨500, .text "Internal Server Error", none⟩ := by
  have hdraft : draftOfOutcome (shop.call settings.maxCheckoutVariants c call).1 =
      .brokenDown := by
    rw [draftOfOutcome, hf]
    simp only [draftOfFailure, he]
  rw [serve_of_brokenDown h hdraft]

/-! ### The event of a request -/

theorem not_request_of_mem_draft {e : Event} (h : e ∈ (draft settings now c shop r).2.1) :
    ∀ path method status duration, e ≠ .request path method status duration := by
  rintro path method status duration rfl
  cases hcall : r.call? settings now with
  | some call =>
    rw [draft_of_call? hcall, eventsOfOutcome, List.mem_append] at h
    rcases h with hservice | hfailure
    · cases Shop.isOfService_of_mem_call hservice
    · split at hfailure
      · cases hfailure
      · unfold failureEvents at hfailure
        split at hfailure
        · split at hfailure
          · cases List.mem_singleton.mp hfailure
          · cases hfailure
        · cases hfailure
  | none =>
    unfold draft at h
    split at h
    · cases h
    · next hpreflight =>
      split at h
      · cases h
      · cases h
      · cases h
      · next call hwish => simp [Request.call?, hpreflight, hwish] at hcall

/-- **Every response that has the id of its request is logged once, after everything else**, with
the path and the method of the request, the status of the response and how long it took.  A request
that breaks down on the way is not logged at all, and its response has no id. -/
theorem response_logged_last (settings : Settings) (now : Int) (c : Conditions) (shop : Shop)
    (r : Request) :
    let reply := serve settings now c shop r
    ∃ earlier, (∀ e ∈ earlier, ∀ path method status duration,
        e ≠ Event.request path method status duration) ∧
      reply.2.1 = earlier ++ if reply.1.requestId.isSome
        then [.request r.shownPath r.method reply.1.status c.givens.duration] else [] := by
  intro reply
  rcases hdraft : draft settings now c shop r with ⟨d, events, left⟩
  refine ⟨events, fun e he => ?_, ?_⟩
  · have hmem : e ∈ (draft settings now c shop r).2.1 := by
      rw [hdraft]
      exact he
    exact not_request_of_mem_draft hmem
  · cases d with
    | reply status content =>
      have hserve : reply = _ := serve_of_draft hdraft
      rw [hserve]
      rfl
    | brokenDown =>
      have hserve : reply = _ := serve_of_no_draft hdraft
      rw [hserve]
      exact (List.append_nil events).symm

/-! ### Which checkout is asked for -/

theorem Request.Sends.unique {ms ms' : Json.Members} (h : r.Sends ms) (h' : r.Sends ms') :
    ms = ms' := by
  have hsame := h.symm.trans h'
  simpa using hsame

/-- One source of a checkout buys a variant at once, and every other one checks the cart out. -/
theorem Request.Asks.order {user : Uuid} {o : Order} (h : r.Asks user (.checkout o))
    {ms : Json.Members} (hbody : r.Sends ms) :
    ((∃ variant quantity, o = .product user variant quantity) ↔
      ms.get? "source" = some (.text "product")) ∧
    ((∃ variants, o = .cart user variants) ↔ ms.get? "source" ≠ some (.text "product")) := by
  cases h with
  | buyNow _ body source =>
    obtain rfl := hbody.unique body
    simp [source]
  | checkOut _ body source =>
    obtain rfl := hbody.unique body
    have hne : RawText.ofString "cart" ≠ RawText.ofString "product" := by decide
    simp [source, hne]

/-! ### A request is its call -/

/-- **Over HTTP a call is what it is without.**  A request that bears a token of a customer and
asks for a call in the customer's name leaves the shop and the events of the services as the call
alone leaves them.  It is answered with the answer of the call under 200, or 201 for a checkout, as
JSON from which the answer is read back; with the message, the code and the field of an error under
the status of its class; and with nothing but 500 when the failure is not an error of a service.
Which checkout it asks for is decided by the source in its body. -/
theorem serve_delivers_call {token : String} {user : Uuid} (hbearer : r.bearer? = some token)
    (haccess : Token.GivesAccess settings now token user) (hasks : r.Asks user call)
    (c : Conditions) (shop : Shop) :
    let done := shop.call settings.maxCheckoutVariants c call
    let reply := serve settings now c shop r
    reply.2.2 = done.2 ∧
    reply.2.1.filter Event.isOfService = done.1.events ∧
    (∀ a, done.1.result = .ok a →
      reply.1.status = okStatus call ∧
      reply.1.content = .json a.json ∧ call.read? a.json = some a) ∧
    (∀ f e, done.1.result = .error f → f.shown? = some e →
      reply.1.status = (match e with
        | .validation .. => 400
        | .auth _ => 403
        | .notFound _ => 404
        | .conflict _ => 409
        | .general _ | .server _ | .table .. => 500) ∧
      reply.1.content = .json (.record
        [("detail", .text e.message), ("code", .text e.code), ("field", .ofText? e.field?)])) ∧
    (∀ f, done.1.result = .error f → f.shown? = none →
      reply.1.status = 500 ∧ reply.1.content = .text "Internal Server Error") ∧
    ∀ ms o, r.Sends ms → call = .checkout o →
      ((∃ variant quantity, o = .product user variant quantity) ↔
        ms.get? "source" = some (.text "product")) ∧
      ((∃ variants, o = .cart user variants) ↔
        ms.get? "source" ≠ some (.text "product")) := by
  intro done reply
  have hcall : r.call? settings now = some call := by
    obtain rfl := hasks.user_eq
    exact Request.call?_eq_some.mpr ⟨token, hbearer, haccess, hasks⟩
  refine ⟨serve_snd_of_call? hcall, filter_events_serve hcall, ?_, ?_, ?_, ?_⟩
  · intro a ha
    have hreply : reply.1 = _ := serve_of_ok hcall ha
    rw [hreply]
    exact ⟨rfl, rfl, Shop.read?_answer ha⟩
  · intro f e hf he
    have hreply : reply.1 = _ := serve_of_shown hcall hf he
    rw [hreply]
    -- One class at a time, the status that is found for it is the one that is written here.
    cases e <;> exact ⟨rfl, rfl⟩
  · intro f hf he
    have hreply : reply.1 = _ := serve_of_hidden hcall hf he
    rw [hreply]
    exact ⟨rfl, rfl⟩
  · rintro ms o hbody rfl
    exact hasks.order hbody

/-- Tea bought over HTTP from the corner shop, and from one that does not know the customer. -/
theorem serve_delivers_call_corner :
    let shop := Shop.opened Corner.store
    let bare := Shop.opened ⟨[], [], []⟩
    let calm := Conditions.calm Corner.givens
    let reply := serve .standard Corner.morning calm shop Corner.purchase
    let elsewhere := serve .standard Corner.morning calm bare Corner.purchase
    let session : CheckoutSession :=
      ⟨Corner.givens.session, .product, .ofLines [⟨Corner.snapshot Corner.tea, 3⟩] [Corner.tea]⟩
    (Corner.purchase.bearer? = some Corner.token ∧
      Token.GivesAccess .standard Corner.morning Corner.token Corner.user ∧
      Corner.purchase.Asks Corner.user (.checkout (.product Corner.user Corner.tea 3))) ∧
    (reply.2.2 = ⟨Corner.store, ⟨[("checkout_sessions_product", 1)]⟩⟩ ∧
      reply.1.status = 201 ∧ reply.1.content = .json session.json) ∧
    (elsewhere.2.2 = bare ∧ elsewhere.1.status = 404 ∧
      elsewhere.1.content = .json (.record
        [("detail", .text "not found: user"), ("code", .text "not_found"), ("field", .null)])) := by
  intro shop bare calm reply elsewhere session
  have hdelivers := serve_delivers_call Corner.bearer?_purchase Corner.givesAccess_token
    Corner.asks_purchase calm
  obtain ⟨hshop, -, hanswer, -⟩ := hdelivers shop
  obtain ⟨hnoShop, -, -, herror, -⟩ := hdelivers bare
  have hsession : (shop.call 100 calm
      (.checkout (.product Corner.user Corner.tea 3))).1.result.toOption =
        some (.session session) := by
    cbv
  obtain ⟨hstatus, hcontent, -⟩ := hanswer _ (Except.toOption_eq_some.mp hsession)
  obtain ⟨hnoStatus, hnoContent⟩ := herror _ (.notFound "user") rfl rfl
  -- With the names of the two replies in the goal, the kernel would serve both requests.
  have hreply : reply = serve .standard Corner.morning calm shop Corner.purchase := rfl
  have helsewhere : elsewhere = serve .standard Corner.morning calm bare Corner.purchase := rfl
  rw [hreply, helsewhere]
  exact ⟨⟨Corner.bearer?_purchase, Corner.givesAccess_token, Corner.asks_purchase⟩,
    ⟨hshop.trans Corner.shop_after_purchase, hstatus, hcontent⟩, hnoShop, hnoStatus, hnoContent⟩

end Http

end Storefront
