/-
What a request asks for.

A request asks for a call by its method, its path and its body.  `Request.Asks` says so without
the code that finds the call: one clause for each endpoint of the cart and two for a checkout,
each with the method and the path as they are written, and with the fields of the body that the
call is made of.  `Request.wish_eq_call` says that the code finds those calls and no others, in
the name of the customer who is let in.

No clause takes the customer from a path or a body.
-/
import Storefront.Http.Admission
import Storefront.Proofs.Bodies
import Storefront.Proofs.Reads

namespace Storefront

namespace Http

open Intake

/-! ### Places -/

/-- A line feed is no slash. -/
theorem length_segments_withoutLineFeed (path : List Char) :
    (segments (withoutLineFeed path)).length = (segments path).length := by
  simp only [segments, List.length_map, Text.length_split]
  unfold withoutLineFeed
  split
  · next hlast =>
    obtain ⟨cs, rfl⟩ := List.getLast?_eq_some_iff.mp hlast
    simp
  · rfl

namespace Request

variable {r : Request}

/-- A request has a method, and the segments of its path are those of a place; a line feed may
end the path. -/
def IsAt (r : Request) (method : String) (place : List String) : Prop :=
  r.method = method ∧ segments (withoutLineFeed r.path.toList) = place

/-- A request has a method, and its path is that of an item. -/
def IsAtItem (r : Request) (method variant : String) : Prop :=
  r.method = method ∧ segments r.path.toList = ["", "api", "v1", "cart", "items", variant]

/-- The method and the path of a request are those of an endpoint. -/
def IsFor (r : Request) : Endpoint → Prop
  | .health => r.IsAt "GET" ["", "api", "v1", "health"]
  | .metrics => r.IsAt "GET" ["", "api", "v1", "metrics"]
  | .showCart => r.IsAt "GET" ["", "api", "v1", "cart"]
  | .clearCart => r.IsAt "DELETE" ["", "api", "v1", "cart"]
  | .addItem => r.IsAt "POST" ["", "api", "v1", "cart", "items"]
  | .updateItem variant => r.IsAtItem "PATCH" variant ∧ variant ≠ ""
  | .removeItem variant => r.IsAtItem "DELETE" variant ∧ variant ≠ ""
  | .summary => r.IsAt "POST" ["", "api", "v1", "cart", "summary"]
  | .checkout => r.IsAt "POST" ["", "api", "v1", "checkout"]

theorem endpointsAt_of_isAt {method : String} {place : List String} (h : r.IsAt method place)
    (hlength : place.length ≠ 6) : endpointsAt r.path = fixedEndpoints place := by
  have hpath : (segments r.path.toList).length ≠ 6 := by
    rw [← length_segments_withoutLineFeed, h.2]
    exact hlength
  unfold endpointsAt
  split
  · next variant hitem => simp [hitem] at hpath
  · rw [h.2]

theorem endpointsAt_of_isAtItem {method variant : String} (h : r.IsAtItem method variant)
    (hvariant : variant ≠ "") :
    endpointsAt r.path = [("PATCH", .updateItem variant), ("DELETE", .removeItem variant)] := by
  unfold endpointsAt
  simp [h.2, hvariant]

/-- An endpoint is found where it is, and nowhere else. -/
theorem endpoint_eq_ok {e : Endpoint} : r.endpoint = .ok e ↔ r.IsFor e := by
  have hfound : r.endpoint = .ok e ↔ Keyed.get? r.method (endpointsAt r.path) = some e := by
    simp only [endpoint]
    generalize Keyed.get? r.method (endpointsAt r.path) = found
    cases found with
    | some e' => simp
    | none => cases (endpointsAt r.path).isEmpty <;> simp
  rw [hfound]
  constructor
  · intro h
    unfold endpointsAt at h
    split at h
    · next variant hitem =>
      by_cases hvariant : variant = ""
      · simp [hvariant, Keyed.get?] at h
      · simp only [if_neg hvariant, Keyed.get?, beq_iff_eq] at h
        repeat' split at h
        all_goals cases h
        all_goals exact ⟨⟨Eq.symm ‹_›, hitem⟩, hvariant⟩
    · unfold fixedEndpoints at h
      split at h <;> simp only [Keyed.get?, beq_iff_eq] at h
      all_goals repeat' split at h
      all_goals cases h
      all_goals exact ⟨Eq.symm ‹_›, ‹_›⟩
  · intro h
    -- The two endpoints of an item are looked for first; no other place has as many segments.
    cases e with
    | updateItem variant =>
      rw [endpointsAt_of_isAtItem h.1 h.2, h.1.1]
      rfl
    | removeItem variant =>
      rw [endpointsAt_of_isAtItem h.1 h.2, h.1.1]
      rfl
    | _ =>
      rw [endpointsAt_of_isAt h (by decide), h.1]
      rfl

/-! ### What is asked for -/

/-- The body of a request is an object. -/
def Sends (r : Request) (ms : Json.Members) : Prop :=
  r.value = .ok (some (.object ms))

/-- A request asks for a call in the name of a customer. -/
inductive Asks (r : Request) (user : Uuid) : Call → Prop
  | list (place : r.IsAt "GET" ["", "api", "v1", "cart"]) :
      r.Asks user (.list user)
  | clear (place : r.IsAt "DELETE" ["", "api", "v1", "cart"]) :
      r.Asks user (.mutate (.clear user))
  | add {ms : Json.Members} {product variant : Uuid} {quantity : Int}
      (place : r.IsAt "POST" ["", "api", "v1", "cart", "items"]) (body : r.Sends ms)
      (hproduct : Holds ms "product_id" readId product)
      (hvariant : Holds ms "variant_id" readId variant)
      (hquantity : Holds ms "quantity" readQuantity quantity) :
      r.Asks user (.mutate (.add user product variant quantity))
  | update {spelling : String} {variant : Uuid} {ms : Json.Members} {quantity : Int}
      (place : r.IsAtItem "PATCH" spelling) (spells : readId (.text spelling) = .ok variant)
      (body : r.Sends ms) (hquantity : Holds ms "quantity" readQuantity quantity) :
      r.Asks user (.mutate (.update user variant quantity))
  | remove {spelling : String} {variant : Uuid}
      (place : r.IsAtItem "DELETE" spelling) (spells : readId (.text spelling) = .ok variant) :
      r.Asks user (.mutate (.remove user variant))
  | summary {ms : Json.Members} {variants : List Uuid}
      (place : r.IsAt "POST" ["", "api", "v1", "cart", "summary"]) (body : r.Sends ms)
      (hvariants : Holds ms "variant_ids" readIds variants) (hsome : variants ≠ []) :
      r.Asks user (.summary user variants)
  | buyNow {ms : Json.Members} {variant : Uuid} {quantity : Int} {unused : Option (List Uuid)}
      (place : r.IsAt "POST" ["", "api", "v1", "checkout"]) (body : r.Sends ms)
      (hsource : ms.get? "source" = some (.text "product"))
      (hvariant : Holds ms "variant_id" readId variant)
      (hquantity : Holds ms "quantity" readQuantity quantity)
      (hvariants : MayHold ms "variant_ids" readIds unused) :
      r.Asks user (.checkout (.product user variant quantity))
  | checkOut {ms : Json.Members} {variants : List Uuid} {unused : Option Uuid}
      {unused' : Option Int}
      (place : r.IsAt "POST" ["", "api", "v1", "checkout"]) (body : r.Sends ms)
      (hsource : ms.get? "source" = some (.text "cart"))
      (hvariant : MayHold ms "variant_id" readId unused)
      (hquantity : MayHold ms "quantity" readQuantity unused')
      (hvariants : Holds ms "variant_ids" readIds variants) (hsome : variants ≠ []) :
      r.Asks user (.checkout (.cart user variants))

variable {s : Settings} {now : Int} {user : Uuid} {call : Call}

/-- The body as an endpoint gets it. -/
def valueFor (r : Request) (e : Endpoint) : Except Objection (Option Json) :=
  if e.takesBody then r.value else pure none

/-- What a request comes to at an endpoint that is not open. -/
def wishAt (r : Request) (s : Settings) (now : Int) (e : Endpoint) : Except Objection Wish := do
  let body ← r.valueFor e
  let user ← r.customer s now
  (e.call user body).mapError .problems

theorem wish_of_isFor {e : Endpoint} (he : r.IsFor e) :
    r.wish s now =
      match e with
      | .health => .ok .health
      | .metrics => .ok .metrics
      | e => r.wishAt s now e := by
  rw [wish, endpoint_eq_ok.mpr he]
  cases e <;> rfl

/-- A request is let through to an endpoint with its body, in the name of a customer. -/
theorem wish_eq_call_at :
    r.wish s now = .ok (.call call) ↔
      ∃ e body user, r.IsFor e ∧ r.valueFor e = .ok body ∧ r.customer s now = .ok user ∧
        e.call user body = .ok (.call call) := by
  constructor
  · intro h
    cases he : r.endpoint with
    | error o => simp [wish, he, bind, Except.bind] at h
    | ok e =>
      have hfor := endpoint_eq_ok.mp he
      rw [wish_of_isFor hfor] at h
      split at h
      · simp at h
      · simp at h
      · simp only [wishAt, Except.bind_eq_ok, Except.mapError_eq_ok] at h
        obtain ⟨body, hbody, user, huser, hcall⟩ := h
        exact ⟨e, body, user, hfor, hbody, huser, hcall⟩
  · rintro ⟨e, body, user, hfor, hbody, huser, hcall⟩
    rw [wish_of_isFor hfor]
    split
    · simp [Endpoint.call] at hcall
    · simp [Endpoint.call] at hcall
    · simp only [wishAt, Except.bind_eq_ok, Except.mapError_eq_ok]
      exact ⟨body, hbody, user, huser, hcall⟩

end Request

theorem readBody_eq_ok {α : Type} {read : Json → Checked α} {body : Option Json} {a : α} :
    readBody read body = .ok a ↔ ∃ ms, body = some (.object ms) ∧ read (.object ms) = .ok a := by
  simp only [readBody, Checked.within, Except.mapError_eq_ok]
  rcases body with _ | v
  · simp
  · cases v <;> simp

theorem readVariant_eq_ok {spelling : String} {variant : Uuid} :
    readVariant spelling = .ok variant ↔ readId (.text spelling) = .ok variant := by
  simp only [readVariant, Checked.within, Except.mapError_eq_ok]

/-- No text spells no identifier. -/
theorem ne_empty_of_readId {spelling : String} {variant : Uuid}
    (h : readId (.text spelling) = .ok variant) : spelling ≠ "" := by
  rintro rfl
  cases h

/-! ### One endpoint after another

What an endpoint makes of a body, in terms of the fields of the body.
-/

namespace Endpoint

variable {user : Uuid} {body : Option Json} {call : Call}

theorem call_addItem :
    addItem.call user body = .ok (.call call) ↔
      ∃ ms product variant quantity, body = some (.object ms) ∧
        Holds ms "product_id" readId product ∧ Holds ms "variant_id" readId variant ∧
        Holds ms "quantity" readQuantity quantity ∧
        call = .mutate (.add user product variant quantity) := by
  simp only [Endpoint.call, Except.map_eq_ok, readBody_eq_ok, NewItem.read_eq_ok]
  constructor
  · rintro ⟨⟨product, variant, quantity⟩, ⟨ms, rfl, hproduct, hvariant, hquantity⟩, hcall⟩
    cases hcall
    exact ⟨ms, product, variant, quantity, rfl, hproduct, hvariant, hquantity, rfl⟩
  · rintro ⟨ms, product, variant, quantity, rfl, hproduct, hvariant, hquantity, rfl⟩
    exact ⟨⟨product, variant, quantity⟩, ⟨ms, rfl, hproduct, hvariant, hquantity⟩, rfl⟩

theorem call_updateItem {spelling : String} :
    (updateItem spelling).call user body = .ok (.call call) ↔
      ∃ variant ms quantity, readId (.text spelling) = .ok variant ∧ body = some (.object ms) ∧
        Holds ms "quantity" readQuantity quantity ∧
        call = .mutate (.update user variant quantity) := by
  simp only [Endpoint.call, Checked.both_eq_ok, readVariant_eq_ok, readBody_eq_ok,
    NewQuantity.read_eq_ok]
  constructor
  · rintro ⟨variant, ⟨quantity⟩, spells, ⟨ms, rfl, hquantity⟩, hcall⟩
    cases hcall
    exact ⟨variant, ms, quantity, spells, rfl, hquantity, rfl⟩
  · rintro ⟨variant, ms, quantity, spells, rfl, hquantity, rfl⟩
    exact ⟨variant, ⟨quantity⟩, spells, ⟨ms, rfl, hquantity⟩, rfl⟩

theorem call_removeItem {spelling : String} :
    (removeItem spelling).call user body = .ok (.call call) ↔
      ∃ variant, readId (.text spelling) = .ok variant ∧ call = .mutate (.remove user variant) := by
  simp only [Endpoint.call, Except.map_eq_ok, readVariant_eq_ok, Wish.call.injEq]
  exact exists_congr fun variant => and_congr_right fun _ => eq_comm

theorem call_summary :
    summary.call user body = .ok (.call call) ↔
      ∃ ms variants, body = some (.object ms) ∧ Holds ms "variant_ids" readIds variants ∧
        variants ≠ [] ∧ call = .summary user variants := by
  simp only [Endpoint.call, Except.map_eq_ok, readBody_eq_ok, Choice.read_eq_ok]
  constructor
  · rintro ⟨⟨variants⟩, ⟨ms, rfl, hvariants, hsome⟩, hcall⟩
    cases hcall
    exact ⟨ms, variants, rfl, hvariants, hsome, rfl⟩
  · rintro ⟨ms, variants, rfl, hvariants, hsome, rfl⟩
    exact ⟨⟨variants⟩, ⟨ms, rfl, hvariants, hsome⟩, rfl⟩

/-- A checkout has two kinds of body, told apart by their source. -/
theorem call_checkout :
    checkout.call user body = .ok (.call call) ↔
      ∃ ms : Json.Members, body = some (.object ms) ∧
        ((∃ variant quantity unused, ms.get? "source" = some (.text "product") ∧
            Holds ms "variant_id" readId variant ∧ Holds ms "quantity" readQuantity quantity ∧
            MayHold ms "variant_ids" readIds unused ∧
            call = .checkout (.product user variant quantity)) ∨
          ∃ variants unused unused', ms.get? "source" = some (.text "cart") ∧
            MayHold ms "variant_id" readId unused ∧ MayHold ms "quantity" readQuantity unused' ∧
            Holds ms "variant_ids" readIds variants ∧ variants ≠ [] ∧
            call = .checkout (.cart user variants)) := by
  simp only [Endpoint.call, Except.map_eq_ok, readBody_eq_ok, CheckoutRequest.read_eq_ok,
    CheckoutFields.read_eq_ok]
  constructor
  · rintro ⟨order, ⟨ms, rfl, hsource, hvariant, hquantity, hvariants⟩, hcall⟩
    refine ⟨ms, rfl, ?_⟩
    cases hcall
    cases order with
    | product variant quantity unused =>
      exact Or.inl ⟨variant, quantity, unused, hsource, hvariant, hquantity, hvariants, rfl⟩
    | cart unused unused' first rest =>
      exact Or.inr ⟨first :: rest, unused, unused', hsource, hvariant, hquantity, hvariants,
        List.cons_ne_nil _ _, rfl⟩
  · rintro ⟨ms, rfl, ⟨variant, quantity, unused, hsource, hvariant, hquantity, hvariants, rfl⟩ |
      ⟨variants, unused, unused', hsource, hvariant, hquantity, hvariants, hsome, rfl⟩⟩
    · exact ⟨.product variant quantity unused,
        ⟨ms, rfl, hsource, hvariant, hquantity, hvariants⟩, rfl⟩
    · obtain ⟨first, rest, rfl⟩ := List.exists_cons_of_ne_nil hsome
      exact ⟨.cart unused unused' first rest,
        ⟨ms, rfl, hsource, hvariant, hquantity, hvariants⟩, rfl⟩

end Endpoint

namespace Request

variable {r : Request} {s : Settings} {now : Int} {user : Uuid} {call : Call}

/-- What is asked for is the call at the endpoint that the request is for. -/
theorem Asks.exists_endpoint (h : r.Asks user call) :
    ∃ e body, r.IsFor e ∧ r.valueFor e = .ok body ∧ e.call user body = .ok (.call call) := by
  cases h with
  | list place => exact ⟨.showCart, none, place, rfl, rfl⟩
  | clear place => exact ⟨.clearCart, none, place, rfl, rfl⟩
  | add place body hproduct hvariant hquantity =>
    exact ⟨.addItem, _, place, body,
      Endpoint.call_addItem.mpr ⟨_, _, _, _, rfl, hproduct, hvariant, hquantity, rfl⟩⟩
  | update place spells body hquantity =>
    exact ⟨.updateItem _, _, ⟨place, ne_empty_of_readId spells⟩, body,
      Endpoint.call_updateItem.mpr ⟨_, _, _, spells, rfl, hquantity, rfl⟩⟩
  | remove place spells =>
    exact ⟨.removeItem _, none, ⟨place, ne_empty_of_readId spells⟩, rfl,
      Endpoint.call_removeItem.mpr ⟨_, spells, rfl⟩⟩
  | summary place body hvariants hsome =>
    exact ⟨.summary, _, place, body,
      Endpoint.call_summary.mpr ⟨_, _, rfl, hvariants, hsome, rfl⟩⟩
  | buyNow place body hsource hvariant hquantity hvariants =>
    exact ⟨.checkout, _, place, body, Endpoint.call_checkout.mpr ⟨_, rfl,
      Or.inl ⟨_, _, _, hsource, hvariant, hquantity, hvariants, rfl⟩⟩⟩
  | checkOut place body hsource hvariant hquantity hvariants hsome =>
    exact ⟨.checkout, _, place, body, Endpoint.call_checkout.mpr ⟨_, rfl,
      Or.inr ⟨_, _, _, hsource, hvariant, hquantity, hvariants, hsome, rfl⟩⟩⟩

/-- The call at the endpoint that a request is for is asked for. -/
theorem asks_of_call {e : Endpoint} {body : Option Json} (hfor : r.IsFor e)
    (hbody : r.valueFor e = .ok body) (hcall : e.call user body = .ok (.call call)) :
    r.Asks user call := by
  cases e with
  | health => cases hcall
  | metrics => cases hcall
  | showCart => cases hcall; exact .list hfor
  | clearCart => cases hcall; exact .clear hfor
  | addItem =>
    obtain ⟨ms, _, _, _, rfl, hproduct, hvariant, hquantity, rfl⟩ :=
      Endpoint.call_addItem.mp hcall
    exact .add hfor hbody hproduct hvariant hquantity
  | updateItem spelling =>
    obtain ⟨_, ms, _, spells, rfl, hquantity, rfl⟩ := Endpoint.call_updateItem.mp hcall
    exact .update hfor.1 spells hbody hquantity
  | removeItem spelling =>
    obtain ⟨_, spells, rfl⟩ := Endpoint.call_removeItem.mp hcall
    exact .remove hfor.1 spells
  | summary =>
    obtain ⟨ms, _, rfl, hvariants, hsome, rfl⟩ := Endpoint.call_summary.mp hcall
    exact .summary hfor hbody hvariants hsome
  | checkout =>
    obtain ⟨ms, rfl, ⟨_, _, _, hsource, hvariant, hquantity, hvariants, rfl⟩ |
      ⟨_, _, _, hsource, hvariant, hquantity, hvariants, hsome, rfl⟩⟩ :=
      Endpoint.call_checkout.mp hcall
    · exact .buyNow hfor hbody hsource hvariant hquantity hvariants
    · exact .checkOut hfor hbody hsource hvariant hquantity hvariants hsome

/-- The calls at the endpoints are those that are asked for. -/
theorem asks_iff :
    r.Asks user call ↔
      ∃ e body, r.IsFor e ∧ r.valueFor e = .ok body ∧ e.call user body = .ok (.call call) :=
  ⟨Asks.exists_endpoint, fun ⟨_, _, hfor, hbody, hcall⟩ => asks_of_call hfor hbody hcall⟩

/-- A request that is let through wishes for what it asks for in the name of its customer. -/
theorem wish_eq_call :
    r.wish s now = .ok (.call call) ↔ ∃ user, r.customer s now = .ok user ∧ r.Asks user call := by
  simp only [wish_eq_call_at, asks_iff]
  constructor
  · rintro ⟨e, body, user, hfor, hbody, huser, hcall⟩
    exact ⟨user, huser, e, body, hfor, hbody, hcall⟩
  · rintro ⟨user, huser, e, body, hfor, hbody, hcall⟩
    exact ⟨e, body, user, hfor, hbody, huser, hcall⟩

/-- A call is asked for in the name of its customer. -/
theorem Asks.user_eq (h : r.Asks user call) : call.user = user := by
  cases h <;> rfl

/-- What is asked for has a method of its own, neither that of a question nor that of a head. -/
theorem Asks.method_mem (h : r.Asks user call) : r.method ∈ ["GET", "DELETE", "POST", "PATCH"] := by
  cases h with
  | list place | clear place | add place | update place | remove place | summary place
  | buyNow place | checkOut place => simp [place.1]

end Request

end Http

end Storefront
