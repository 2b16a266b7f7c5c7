/-
What a request is let through for.

A request comes to a call in one way: it bears a token that gives a customer access
(`Token.GivesAccess`), and it asks for the call in the name of that customer (`Request.Asks`).
`Request.call?_eq_some` says that these two are all there is to it, whatever the order in which
the program looks at them.  So the customer of a call is a function of the token.

A request that comes to no call is answered from the counters alone, which are open to everybody,
and leaves the shop as it is.
-/
import Mathlib
import Storefront.Http.Response
import Storefront.Proofs.Issuing
import Storefront.Proofs.Routes
import Storefront.Proofs.Tables

namespace Storefront

namespace Http

namespace Request

variable {r : Request} {s : Settings} {now : Int} {user : Uuid} {call : Call}

/-! ### Headers -/

/-- What follows the scheme `Bearer` is the token. -/
theorem bearer?_of_header? {token : String}
    (h : r.header? "Authorization" = some ("Bearer " ++ token)) (hsome : token.toList ≠ [])
    (hblank : ∀ c ∈ token.toList, Text.isBlank c = false) : r.bearer? = some token := by
  have hscheme : ("Bearer " ++ token).toList.takeWhile (· != ' ') = "Bearer".toList := by
    rw [String.toList_append]
    rfl
  have hdrop : ("Bearer " ++ token).toList.drop ("Bearer".toList.length + 1) = token.toList := by
    rw [String.toList_append]
    rfl
  have htrim : Text.trim Text.isBlank token.toList = token.toList :=
    Text.trim_eq_self (fun c hc => hblank c (List.mem_of_mem_head? hc))
      (fun c hc => hblank c (List.mem_of_mem_getLast? hc))
  have hlower : "Bearer".toLower = "bearer" := by cbv
  simp only [bearer?, h, Option.bind_eq_bind, Option.bind_some, hscheme, hdrop, htrim,
    String.ofList_toList, hlower]
  simp [hsome]

theorem announcesJson_of_header? (h : r.header? "Content-Type" = some "application/json") :
    r.announcesJson = true := by
  simp only [announcesJson, mediaType?, h]
  cbv

/-! ### The call of a request -/

/-- The call that a request comes to, if it comes to one. -/
def call? (r : Request) (s : Settings) (now : Int) : Option Call :=
  match r.preflight?, r.wish s now with
  | none, .ok (.call call) => some call
  | _, _ => none

theorem preflight?_of_asks (h : r.Asks user call) : r.preflight? = none := by
  have hmethod : r.method ≠ "OPTIONS" := fun hoptions => by
    have hmethods := h.method_mem
    simp [hoptions] at hmethods
  simp [preflight?, hmethod]

theorem customer_eq_ok :
    r.customer s now = .ok user ↔
      ∃ token, r.bearer? = some token ∧ Token.GivesAccess s now token user := by
  unfold customer
  split
  · next hnone => simp [hnone]
  · next token htoken =>
    simp [htoken, Except.mapError_eq_ok, Token.customer_eq_ok]

/-- A request comes to what it asks for in the name of the customer whom its token gives access,
and to nothing else. -/
theorem call?_eq_some :
    r.call? s now = some call ↔
      ∃ token, r.bearer? = some token ∧ Token.GivesAccess s now token call.user ∧
        r.Asks call.user call := by
  constructor
  · intro h
    have hcall : r.wish s now = .ok (.call call) := by
      unfold call? at h
      split at h
      · next hw => cases h; exact hw
      · cases h
    obtain ⟨user, huser, hasks⟩ := wish_eq_call.mp hcall
    obtain rfl := hasks.user_eq
    obtain ⟨token, htoken, haccess⟩ := customer_eq_ok.mp huser
    exact ⟨token, htoken, haccess, hasks⟩
  · rintro ⟨token, htoken, haccess, hasks⟩
    have hcall := wish_eq_call.mpr ⟨_, customer_eq_ok.mpr ⟨token, htoken, haccess⟩, hasks⟩
    simp [call?, preflight?_of_asks hasks, hcall]

end Request

/-! ### What becomes of a request -/

section Serving

variable {settings : Settings} {now : Int} {c c' : Conditions} {shop shop' : Shop} {r : Request}
  {call : Call} {events : List Event}

theorem serve_of_draft {status : Nat} {content : Content}
    (h : draft settings now c shop r = (.reply status content, events, shop')) :
    serve settings now c shop r =
      (⟨status, contentFor r.method content, some (r.idOr c.givens.request)⟩,
        events ++ [.request r.shownPath r.method status c.givens.duration], shop') := by
  rw [serve, h]

theorem serve_of_no_draft (h : draft settings now c shop r = (.brokenDown, events, shop')) :
    serve settings now c shop r =
      (⟨500, .text "Internal Server Error", none⟩, events, shop') := by
  rw [serve, h]

/-- A request that comes to a call is answered with the outcome of the call. -/
theorem draft_of_call? (h : r.call? settings now = some call) :
    draft settings now c shop r =
      (draftOfOutcome (shop.call settings.maxCheckoutVariants c call).1,
        eventsOfOutcome r.shownPath (shop.call settings.maxCheckoutVariants c call).1,
        (shop.call settings.maxCheckoutVariants c call).2) := by
  unfold Request.call? at h
  split at h
  · next hpreflight hwish =>
    cases h
    simp only [draft, hpreflight, hwish]
  · cases h

theorem serve_snd_of_call? (h : r.call? settings now = some call) :
    (serve settings now c shop r).2.2 = (shop.call settings.maxCheckoutVariants c call).2 := by
  have hdraft : draft settings now c shop r = _ := draft_of_call? h
  cases ho : draftOfOutcome (shop.call settings.maxCheckoutVariants c call).1 with
  | reply status content =>
    rw [ho] at hdraft
    rw [serve_of_draft hdraft]
  | brokenDown =>
    rw [ho] at hdraft
    rw [serve_of_no_draft hdraft]

/-- A request that comes to no call is drafted from the counters, and leaves the shop alone. -/
theorem draft_of_call?_eq_none (h : r.call? settings now = none)
    (hcounters : shop'.counters = shop.counters) :
    draft settings now c' shop' r =
      ((draft settings now c shop r).1, (draft settings now c shop r).2.1, shop') := by
  unfold draft
  split
  · rfl
  · next hpreflight =>
    split
    · rfl
    · rfl
    · rw [hcounters]
    · next call hwish => simp [Request.call?, hpreflight, hwish] at h

/-- A request is answered from the counters: what it is answered with is the same where the
counters are, and all that the shop makes of it is where the same is given, too. -/
structure AnsweredFromCounters (settings : Settings) (now : Int) (c c' : Conditions)
    (shop shop' : Shop) (r : Request) : Prop where
  status : (serve settings now c' shop' r).1.status = (serve settings now c shop r).1.status
  content : (serve settings now c' shop' r).1.content = (serve settings now c shop r).1.content
  kept : (serve settings now c' shop' r).2.2 = shop'
  same : c'.givens = c.givens → serve settings now c' shop' r =
    ((serve settings now c shop r).1, (serve settings now c shop r).2.1, shop')

theorem serve_of_call?_eq_none (h : r.call? settings now = none)
    (hcounters : shop'.counters = shop.counters) :
    AnsweredFromCounters settings now c c' shop shop' r := by
  have hdraft : draft settings now c' shop' r =
      ((draft settings now c shop r).1, (draft settings now c shop r).2.1, shop') :=
    draft_of_call?_eq_none h hcounters
  rcases hfirst : draft settings now c shop r with ⟨d, events, left⟩
  rw [hfirst] at hdraft
  cases d with
  | reply status content =>
    have hserve := serve_of_draft hfirst
    have hserve' := serve_of_draft hdraft
    refine ⟨by rw [hserve, hserve'], by rw [hserve, hserve'], by rw [hserve'], fun hgivens => ?_⟩
    rw [hserve, hserve', hgivens]
  | brokenDown =>
    have hserve := serve_of_no_draft hfirst
    have hserve' := serve_of_no_draft hdraft
    refine ⟨by rw [hserve, hserve'], by rw [hserve, hserve'], by rw [hserve'], fun _ => ?_⟩
    rw [hserve, hserve']

/-- The status of a response that breaks down is that of an error nobody expects. -/
def Draft.status : Draft → Nat
  | reply status _ => status
  | brokenDown => 500

theorem status_serve :
    (serve settings now c shop r).1.status = (draft settings now c shop r).1.status := by
  unfold serve
  split <;> simp_all [Draft.status]

/-- No service asks for a token or complains of an input that is not read. -/
theorem status_draftOfOutcome (o : Outcome Answer) :
    (draftOfOutcome o).status ∈ [200, 201, 400, 403, 404, 409, 500] := by
  unfold draftOfOutcome
  split
  · next a _ => cases a <;> simp [Draft.status, answerStatus]
  · next f _ =>
    unfold draftOfFailure
    split
    · next e _ => cases e <;> simp [Draft.status, ServiceError.status]
    · simp [Draft.status]

end Serving

/-! ### Access through a token -/

/-- **Only a token gives access.**  A request comes to a call exactly when it bears a token that
gives access to a customer and asks for the call in the name of that customer, and what becomes of
the shop is then what the call makes of it; requests with one token never come to calls of
different customers.  A request that comes to no call is answered from the counters and leaves the
shop as it is, and so does every request that is answered with 401 or 422. -/
theorem access_through_token (settings : Settings) (now : Int) (c : Conditions) (shop : Shop)
    (r : Request) :
    (∀ call, r.call? settings now = some call ↔
      ∃ token, r.bearer? = some token ∧ Token.GivesAccess settings now token call.user ∧
        r.Asks call.user call) ∧
    (∀ call, r.call? settings now = some call →
      (serve settings now c shop r).2.2 = (shop.call settings.maxCheckoutVariants c call).2 ∧
      ∀ (r' : Request) (call' : Call), r'.bearer? = r.bearer? →
        r'.call? settings now = some call' → call'.user = call.user) ∧
    (r.call? settings now = none →
      ∀ (c' : Conditions) (shop' : Shop), shop'.counters = shop.counters →
        AnsweredFromCounters settings now c c' shop shop' r) ∧
    ((serve settings now c shop r).1.status = 401 ∨ (serve settings now c shop r).1.status = 422 →
      (serve settings now c shop r).2.2 = shop) := by
  refine ⟨fun call => Request.call?_eq_some, ?_, ?_, ?_⟩
  · intro call hcall
    refine ⟨serve_snd_of_call? hcall, fun r' call' hbearer hcall' => ?_⟩
    obtain ⟨token, htoken, haccess, -⟩ := Request.call?_eq_some.mp hcall
    obtain ⟨token', htoken', haccess', -⟩ := Request.call?_eq_some.mp hcall'
    obtain rfl : token' = token := by
      rw [hbearer, htoken] at htoken'
      exact (Option.some.inj htoken').symm
    exact haccess'.unique haccess
  · intro hnone c' shop' hcounters
    exact serve_of_call?_eq_none hnone hcounters
  · intro hstatus
    cases hcall : r.call? settings now with
    | none =>
      have hsame : AnsweredFromCounters settings now c c shop shop r :=
        serve_of_call?_eq_none hcall rfl
      exact hsame.kept
    | some call =>
      -- A call is answered with neither of the two, so there was none.
      have hserved := status_draftOfOutcome (shop.call settings.maxCheckoutVariants c call).1
      rw [status_serve, draft_of_call? hcall] at hstatus
      rcases hstatus with hstatus | hstatus <;> simp [hstatus] at hserved

end Http

/-! ### Buying some tea -/

namespace Corner

open Http

/-- A token for the customer that counts for half an hour from that morning on. -/
def token : String :=
  Token.sign Settings.standard.secret Token.header (Token.issuedClaims user.text (morning + 1800))

/-- A text in units of sixteen bits, the low byte first. -/
def wide (text : String) : List UInt8 :=
  text.toList.flatMap fun c => [c.toNat.toUInt8, 0]

/-- A request to buy three cans of tea at once. -/
def purchase : Http.Request where
  method := "POST"
  target := "/api/v1/checkout"
  headers := [("Authorization", "Bearer " ++ token), ("Content-Type", "application/json")]
  body := wide <|
    "\x7b\"source\": \"product\", \"variant_id\": \"00000000000000000000000000000002\", " ++
      "\"quantity\": \" 3\"\x7d"

/-- A request to see a cart without a word of whose cart. -/
def stranger : Http.Request := ⟨"GET", "/api/v1/cart", [], []⟩

theorem givesAccess_token : Token.GivesAccess .standard morning token user :=
  Token.givesAccess_sign ⟨by decide, by decide⟩ (by decide)

theorem bearer?_purchase : purchase.bearer? = some token := by
  have hheader : purchase.header? "Authorization" = some ("Bearer " ++ token) := by
    simp [Request.header?, purchase]
  exact Request.bearer?_of_header? hheader (Token.sign_ne_nil _ _ _) fun c hc =>
    Token.isBlank_of_mem_sign hc

/-- A checkout is asked for with what is in its body. -/
theorem asks_of_body (body : List UInt8) {call : Call} (hbody : body.isEmpty = false)
    (hcall : ((Request.parsed body).toOption.bind fun v =>
      (Endpoint.call user (some v) .checkout).toOption) = some (.call call)) :
    ({ purchase with body := body } : Http.Request).Asks user call := by
  have hplace : purchase.IsFor .checkout := ⟨by decide +kernel, by decide +kernel⟩
  have hjson : ({ purchase with body := body } : Http.Request).announcesJson = true := by
    refine Request.announcesJson_of_header? ?_
    have hother : ("Authorization".toLower == "Content-Type".toLower) = false := by
      cbv
    simp [Request.header?, purchase, hother]
  have hvalue : ({ purchase with body := body } : Http.Request).value =
      (Request.parsed body).map some := by
    simp [Request.value, hjson, hbody]
  obtain ⟨v, hv, hcall⟩ := Option.bind_eq_some_iff.mp hcall
  refine Request.asks_iff.mpr ⟨.checkout, some v, hplace, ?_, Except.toOption_eq_some.mp hcall⟩
  calc ({ purchase with body := body } : Http.Request).valueFor .checkout
      = (Request.parsed body).map some := hvalue
    _ = .ok (some v) := by rw [Except.toOption_eq_some.mp hv]; rfl

theorem asks_purchase : purchase.Asks user (.checkout (.product user tea 3)) :=
  asks_of_body purchase.body (by decide +kernel) (by decide +kernel)

theorem shop_after_purchase :
    ((Shop.opened store).call 100 (.calm givens) (.checkout (.product user tea 3))).2 =
      ⟨store, ⟨[("checkout_sessions_product", 1)]⟩⟩ := by
  cbv

end Corner

/-- Whoever bears the token buys tea as the customer whom it names, and a stranger is turned away
from the cart. -/
theorem access_through_token_corner :
    let shop := Shop.opened Corner.store
    let calm := Conditions.calm Corner.givens
    let order : Order := .product Corner.user Corner.tea 3
    Corner.purchase.call? .standard Corner.morning = some (.checkout order) ∧
      (Http.serve .standard Corner.morning calm shop Corner.purchase).2.2 =
        ⟨Corner.store, ⟨[("checkout_sessions_product", 1)]⟩⟩ ∧
      (Http.serve .standard Corner.morning calm shop Corner.stranger).1.status = 401 ∧
      (Http.serve .standard Corner.morning calm shop Corner.stranger).2.2 = shop := by
  intro shop calm order
  have hstranger : (Http.serve .standard Corner.morning calm shop Corner.stranger).1.status =
      401 := by
    cbv
  obtain ⟨hcall, hserved, -, -⟩ := Http.access_through_token .standard Corner.morning calm
    shop Corner.purchase
  obtain ⟨-, -, -, hrefused⟩ := Http.access_through_token .standard Corner.morning calm
    shop Corner.stranger
  have hpurchase := (hcall (.checkout order)).mpr
    ⟨Corner.token, Corner.bearer?_purchase, Corner.givesAccess_token, Corner.asks_purchase⟩
  exact ⟨hpurchase, (hserved _ hpurchase).1.trans Corner.shop_after_purchase, hstranger,
    hrefused (.inl hstranger)⟩

end Storefront
