/-
Requests that only read, on two shops.

Listing a cart, summing it up and checking it out ask for the customer, for the ids in the
cart and for the lines of some ids, and make a bundle of the lines.  So two shops answer a
customer alike where they agree on these: on the customer, on the ids, and on the bundle
that is made of the lines of any ids at any quantity.  The lines themselves need not agree.
`Store.ShowsAlike` is that condition, and `Shop.call_alike` says that it is enough, whatever
goes wrong with the database.

Plans are compared by `Plan.Alike`: they ask the same questions, each of its own tables, and
go on alike after different answers.

A checkout is given an id, which is another one on another occasion.  Outcomes are compared
without it, and the conditions of the two shops may differ in what is given.
-/
import Storefront.Shop

namespace Storefront

/-! ### Plans on two views -/

namespace Plan

variable {α β γ δ : Type} {view view' : View} {c : Conditions}

/-- Two plans ask the same questions, each of its own view, and then decide on related
values or are refused for the same reason. -/
inductive Alike (view view' : View) (R : α → β → Prop) : Plan α → Plan β → Prop
  | decided {a : α} {b : β} (h : R a b) : Alike view view' R (decided a) (decided b)
  | refused (r : Refusal) : Alike view view' R (refused r) (refused r)
  | ask {q : Query} {next : q.Answer → Plan α} {next' : q.Answer → Plan β}
      (h : Alike view view' R (next (view q)) (next' (view' q))) :
      Alike view view' R (ask q next) (ask q next')

theorem Alike.bind {R : α → β → Prop} {S : γ → δ → Prop} {p : Plan α} {p' : Plan β}
    {f : α → Plan γ} {f' : β → Plan δ} (hp : Alike view view' R p p')
    (hf : ∀ a b, R a b → Alike view view' S (f a) (f' b)) :
    Alike view view' S (p >>= f) (p' >>= f') := by
  induction hp with
  | decided h => exact hf _ _ h
  | refused r => exact .refused r
  | ask _ ih => exact .ask ih

/-- Plans that are alike come to the same, and meet the same fault, whatever is given. -/
theorem Alike.run {p p' : Plan α} (h : Alike view view' Eq p p') (givens : Givens) (sent : Nat) :
    p.run c view sent = p'.run { c with givens } view' sent := by
  induction h generalizing sent with
  | decided h =>
      subst h
      rfl
  | refused r => rfl
  | ask _ ih =>
      simp only [Plan.run, ih]
      rfl

end Plan

theorem alike_eligibleCustomer {view view' : View} {user : Uuid}
    (h : view (.customer user) = view' (.customer user)) :
    Plan.Alike view view' Eq (eligibleCustomer user) (eligibleCustomer user) := by
  refine .ask ?_
  rw [h]
  cases view' (.customer user) with
  | none => exact .refused _
  | some c =>
      show Plan.Alike _ _ _ (Plan.pass c.verdict) (Plan.pass c.verdict)
      cases c.verdict with
      | eligible => exact .decided rfl
      | rejected r => exact .refused _

/-! ### The plans of checkouts -/

/-- A checkout of one variant is refused when the bundle holds nothing to buy, with the
reason that the bundle gives. -/
def Bundle.unlessEmpty (b : Bundle) : Plan Bundle :=
  if b.count = 0 then
    let reason : RawText := (b.invalid.head?.map (·.reason)).getD "invalid product variant"
    .refused (.error (.validation "variant_id" reason))
  else .decided b

theorem Order.plan_product (limit : Int) (user variant : Uuid) (quantity : Int) :
    (product user variant quantity).plan limit =
      if inRange quantity then
        aggregate user (.variants [variant]) (some quantity) >>= Bundle.unlessEmpty
      else .refused (.error (.validation "quantity" rangeReason)) := by
  cases hrange : inRange quantity with
  | false =>
      simp only [plan, hrange]
      rfl
  | true =>
      simp only [plan, hrange, Bool.not_true, Bool.false_eq_true, if_false, if_true]
      refine congrArg (aggregate user (.variants [variant]) (some quantity)).bind ?_
      funext b
      unfold Bundle.unlessEmpty
      split <;> rfl

theorem Order.plan_cart (limit : Int) (user : Uuid) (ids : List Uuid) :
    (cart user ids).plan limit =
      if ids.isEmpty then
        .refused (.error (.validation "variant_ids" "must be a non-empty array"))
      else if limit < ids.length then
        .refused (.error (.validation "variant_ids"
          ("must contain at most " ++ toString limit ++ " ids")))
      else aggregate user (.variants ids) none := by
  by_cases hempty : ids.isEmpty = true
  · simp only [plan, if_pos hempty]
    rfl
  · by_cases hlong : limit < ids.length
    · simp only [plan, if_neg hempty, if_pos hlong]
      rfl
    · simp only [plan, if_neg hempty, if_neg hlong]

/-! ### Tables on two sides -/

/-- A customer sees the same of the first tables and of the second. -/
structure Store.ShowsAlike (s s' : Store) (user : Uuid) : Prop where
  customer : s.customer? user = s'.customer? user
  activeIds : s.activeIds user = s'.activeIds user
  bundles : ∀ ids quantity,
    Bundle.ofLines (withQuantities quantity (s.lines user ids)) ids =
      .ofLines (withQuantities quantity (s'.lines user ids)) ids

section Plans

variable {s s' : Store} {user : Uuid} (h : s.ShowsAlike s' user) (c : Conditions)

include h

theorem alike_aggregate (selection : Selection) (quantity : Option Int) :
    Plan.Alike (c.view s) (c.view s') Eq (aggregate user selection quantity)
      (aggregate user selection quantity) := by
  refine (alike_eligibleCustomer h.customer).bind fun _ _ _ => ?_
  have hids : Plan.Alike (c.view s) (c.view s') Eq (selection.ids user) (selection.ids user) := by
    cases selection with
    | cart => exact .ask (.decided h.activeIds)
    | variants ids => exact .decided rfl
  refine hids.bind fun ids _ hsame => ?_
  subst hsame
  unfold linesFor
  split
  · exact .decided rfl
  · exact .ask (.decided (h.bundles ids quantity))

theorem alike_order {o : Order} (ho : o.user = user) (limit : Int) :
    Plan.Alike (c.view s) (c.view s') Eq (o.plan limit) (o.plan limit) := by
  subst ho
  cases o with
  | product user variant quantity =>
      rw [Order.plan_product]
      split
      · refine (alike_aggregate h c _ _).bind fun b _ hsame => ?_
        subst hsame
        unfold Bundle.unlessEmpty
        split
        · exact .refused _
        · exact .decided rfl
      · exact .refused _
  | cart user ids =>
      rw [Order.plan_cart]
      split
      · exact .refused _
      · split
        · exact .refused _
        · exact alike_aggregate h c _ _

end Plans

/-! ### Requests -/

/-- Whether a request only reads. -/
def Call.reads : Call → Bool
  | mutate _ => false
  | list _ | summary .. | checkout _ => true

/-- The customer who makes a request. -/
def Call.user : Call → Uuid
  | mutate m => m.user
  | list user | summary user _ => user
  | checkout o => o.user

/-- The answer without the id of a checkout. -/
def Answer.withoutSession : Answer → Answer
  | session s => session { s with session := .ofNat 0 }
  | report r => report r
  | bundle b => bundle b
  | summary s => summary s

/-- The event without the id of a checkout. -/
def Event.withoutSession : Event → Event
  | checkout user _ source valid invalid subtotal =>
    checkout user (.ofNat 0) source valid invalid subtotal
  | e => e

/-- The outcome without the id of a checkout. -/
def Outcome.withoutSession (o : Outcome Answer) : Outcome Answer :=
  ⟨o.result.map Answer.withoutSession, o.events.map Event.withoutSession⟩

/-- How often an outcome moves a counter. -/
def Outcome.moves {α : Type} (o : Outcome α) (key : RawText) : Nat :=
  o.events.countP fun e => e.counter? == some key

theorem Event.counter?_withoutSession (e : Event) : e.withoutSession.counter? = e.counter? := by
  cases e <;> rfl

theorem Outcome.moves_withoutSession (o : Outcome Answer) (key : RawText) :
    o.withoutSession.moves key = o.moves key := by
  unfold moves withoutSession
  rw [List.countP_map]
  exact List.countP_congr fun e _ => by simp [Event.counter?_withoutSession]

theorem Event.count_foldl (events : List Event) (counters : Counters) (key : RawText) :
    (events.foldl Event.count counters).count key =
      counters.count key + events.countP fun e => e.counter? == some key := by
  induction events generalizing counters with
  | nil => rfl
  | cons e rest ih =>
      rw [List.foldl_cons, ih, List.countP_cons]
      unfold Event.count
      cases hkey : e.counter? with
      | none => simp
      | some key' =>
          rw [Counters.count_increment]
          by_cases h : key' = key
          · simp [h]
            omega
          · simp [h]

namespace Shop

variable {t t' : Shop} {call : Call}

/-- The counters move with the events. -/
theorem counters_call (t : Shop) (limit : Int) (c : Conditions) (call : Call) :
    (t.call limit c call).2.counters =
      (t.call limit c call).1.events.foldl Event.count t.counters := by
  cases call with
  | mutate m =>
      show (t.mutate c m).2.counters = (t.mutate c m).1.events.foldl Event.count t.counters
      unfold mutate
      split <;> rfl
  | list user => rfl
  | summary user variants => rfl
  | checkout o =>
      show (t.checkout limit c o).2.counters =
        (t.checkout limit c o).1.events.foldl Event.count t.counters
      unfold checkout
      split <;> rfl

theorem count_call (t : Shop) (limit : Int) (c : Conditions) (call : Call) (key : RawText) :
    (t.call limit c call).2.counters.count key =
      t.counters.count key + (t.call limit c call).1.moves key := by
  rw [counters_call, Event.count_foldl]
  rfl

/-- **Shops that look alike to a customer answer alike**, whatever goes wrong. -/
theorem call_alike (h : t.store.ShowsAlike t'.store call.user) (hreads : call.reads = true)
    (limit : Int) (c : Conditions) (givens : Givens) :
    (t.call limit c call).1.withoutSession =
      (t'.call limit { c with givens } call).1.withoutSession := by
  have hconsult : ∀ {α : Type} {p : Plan α},
      Plan.Alike (c.view t.store) (c.view t'.store) Eq p p →
        t.consult c p = t'.consult { c with givens } p := by
    intro α p hp
    have hview : ({ c with givens } : Conditions).view t'.store = c.view t'.store := rfl
    simp only [consult, hview, hp.run givens]
  cases call with
  | mutate m => cases hreads
  | list user =>
      have hsame : t.consult c (listCart user) = t'.consult { c with givens } (listCart user) :=
        hconsult (alike_aggregate h c .cart none)
      show ((t.consult c (listCart user)).map Answer.bundle).withoutSession = _
      rw [hsame]
      rfl
  | summary user ids =>
      have hsame : t.consult c (summarize user ids) =
          t'.consult { c with givens } (summarize user ids) :=
        hconsult ((alike_aggregate h c (.variants ids) none).bind fun _ _ hbundle =>
          .decided (congrArg Bundle.summary hbundle))
      show ((t.consult c (summarize user ids)).map Answer.summary).withoutSession = _
      rw [hsame]
      rfl
  | checkout o =>
      have hsame : t.consult c (o.plan limit) = t'.consult { c with givens } (o.plan limit) :=
        hconsult (alike_order h c rfl limit)
      show ((t.checkout limit c o).1.map Answer.session).withoutSession =
        ((t'.checkout limit { c with givens } o).1.map Answer.session).withoutSession
      unfold checkout
      rw [hsame]
      split <;> rfl

end Shop

end Storefront
