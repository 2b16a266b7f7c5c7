/-
Counters and logs are an exact account of what requests come to.

Recording is spread over the services: a rejection is recorded where a gate is met, a mutation
after its commit, a checkout before its answer.  What is recorded can be read off from outside
all the same.  `Served.account?` does so from the tables before a request, the request and its
result: a mutation or a checkout that succeeds is accounted for by what it is answered with, a
failed request by what the gates in its way hold against it, if this is the error that it is
shown, and everything else is not accounted for.

An account names the counter and says word for word what is logged: where, at which level, with
which message and which extras.  It knows nothing of events, so what it says of them is what
stands in the log, not how the shop keeps it.

The step is `Shop.covers_attend`: the events of a request are logged as its account says, or
there is none.
What could come between is an error that looks like the one of a gate and is not.  No check
of the services has such errors (`ServiceError.isGate`), and `Refusal.Fits` carries this from
the checks to the requests.
-/
import Storefront.Proofs.Atomicity
import Storefront.Proofs.Lines
import Storefront.Proofs.Reads
import Storefront.Proofs.RowMachine
import Storefront.Proofs.WellFormed

namespace Storefront

/-! ### Tallies -/

namespace Keyed

variable {κ α : Type} [BEq κ] [LawfulBEq κ] [DecidableEq κ]

theorem get?_map_of_mem (f : κ → α) {keys : List κ} {k : κ} (h : k ∈ keys) :
    get? k (keys.map fun key => (key, f key)) = some (f k) := by
  induction keys with
  | nil => cases h
  | cons key rest ih =>
      by_cases hk : key = k
      · simp [get?, hk]
      · have hrest : k ∈ rest := (List.mem_cons.mp h).resolve_left fun heq => hk heq.symm
        simp only [List.map_cons, get?, beq_iff_eq, if_neg hk, ih hrest]

/-- Pairs are determined by the order of their keys and by what stands under each. -/
theorem eq_of_keys_eq {pairs pairs' : List (κ × α)}
    (hkeys : pairs.map Prod.fst = pairs'.map Prod.fst) (hnodup : (pairs.map Prod.fst).Nodup)
    (hget : ∀ k, get? k pairs = get? k pairs') : pairs = pairs' := by
  induction pairs generalizing pairs' with
  | nil => exact (List.map_eq_nil_iff.mp hkeys.symm).symm
  | cons p rest ih =>
      obtain ⟨k, v⟩ := p
      match pairs' with
      | [] => simp at hkeys
      | (k', v') :: rest' =>
          obtain ⟨rfl, hrest⟩ := List.cons.inj hkeys
          obtain ⟨hfresh, hnodup'⟩ := List.nodup_cons.mp hnodup
          have hvalue : some v = some v' := by simpa [get?] using hget k
          obtain rfl := Option.some.inj hvalue
          refine congrArg ((k, v) :: ·) (ih hrest hnodup' fun key => ?_)
          by_cases hkey : k = key
          · subst hkey
            rw [get?_eq_none.mpr hfresh, get?_eq_none.mpr (hrest ▸ hfresh)]
          · simpa [get?, hkey] using hget key

end Keyed

/-- How often each key occurs, in the order of first occurrence. -/
def tally (keys : List RawText) : List (RawText × Nat) :=
  (distinct keys).map fun key => (key, keys.count key)

theorem keys_tally (keys : List RawText) : (tally keys).map Prod.fst = distinct keys := by
  rw [tally, List.map_map]
  exact List.map_id _

theorem get?_tally_of_mem {keys : List RawText} {key : RawText} (h : key ∈ keys) :
    Keyed.get? key (tally keys) = some (keys.count key) :=
  Keyed.get?_map_of_mem _ (mem_distinct.mpr h)

theorem get?_tally_of_not_mem {keys : List RawText} {key : RawText} (h : key ∉ keys) :
    Keyed.get? key (tally keys) = none := by
  rw [Keyed.get?_eq_none, keys_tally, mem_distinct]
  exact h

theorem Counters.count_tally (keys : List RawText) (key : RawText) :
    (⟨tally keys⟩ : Counters).count key = keys.count key := by
  by_cases hkey : key ∈ keys
  · rw [count, get?_tally_of_mem hkey]
    rfl
  · rw [count, get?_tally_of_not_mem hkey, List.count_eq_zero.mpr hkey]
    rfl

/-- Counters that are a tally of some keys are one of one more key after it is incremented. -/
theorem Counters.increment_tally (keys : List RawText) (key : RawText) :
    (⟨tally keys⟩ : Counters).increment key = ⟨tally (keys ++ [key])⟩ := by
  refine congrArg Counters.mk (Keyed.eq_of_keys_eq ?_ ?_ fun key' => ?_)
  · rw [Keyed.keys_put, keys_tally, keys_tally, distinct_concat]
    by_cases hkey : key ∈ keys <;> simp [mem_distinct, hkey]
  · refine Keyed.nodup_keys_put ?_ _ _
    rw [keys_tally]
    exact nodup_distinct
  · rw [Keyed.get?_put, count_tally]
    by_cases hsame : key = key'
    · subst hsame
      have hmem : key ∈ keys ++ [key] := List.mem_append_right _ (List.mem_singleton_self _)
      rw [if_pos rfl, get?_tally_of_mem hmem, List.count_append, List.count_singleton_self]
    · have hcount : (keys ++ [key]).count key' = keys.count key' := by
        rw [List.count_append, List.count_singleton, if_neg (by simpa using hsame), Nat.add_zero]
      rw [if_neg hsame]
      by_cases hkey : key' ∈ keys
      · rw [get?_tally_of_mem hkey, get?_tally_of_mem (List.mem_append_left _ hkey), hcount]
      · have hkey' : key' ∉ keys ++ [key] := by
          simpa [hkey] using fun h : key' = key => hsame h.symm
        rw [get?_tally_of_not_mem hkey, get?_tally_of_not_mem hkey']

/-! ### What the gates hold against a request -/

/-- What the gates hold against a request.  One that only reads meets the gate of the customer
alone. -/
def Store.callGate? (s : Store) : Call → Option Rejection
  | .mutate m => s.gate? m
  | call => s.customerGate? call.user

/-- The errors that a gate has. -/
def ServiceError.isGate : ServiceError → Bool
  | auth _ => true
  | validation field _ => field == RawText.ofString "product" || field == RawText.ofString "variant"
  | _ => false

/-- The rejection names its subject, and has an error of a gate. -/
structure Rejection.Known (r : Rejection) : Prop where
  subject : r.subject = some r.counted
  error : r.error.isGate = true

theorem Customer.known_rejection? {c : Customer} {r : Rejection}
    (h : c.verdict.rejection? = some r) : r.Known := by
  unfold verdict at h
  split at h
  · obtain rfl := Option.some.inj h
    exact ⟨by decide, by decide⟩
  · split at h
    · obtain rfl := Option.some.inj h
      exact ⟨by decide, by decide⟩
    · cases h

theorem Snapshot.known_rejection? {x : Snapshot} {r : Rejection}
    (h : x.verdict.rejection? = some r) : r.Known := by
  unfold verdict at h
  split at h
  · obtain rfl := Option.some.inj h
    exact ⟨by decide, by decide⟩
  · split at h
    · obtain rfl := Option.some.inj h
      exact ⟨by decide, by decide⟩
    · split at h
      · obtain rfl := Option.some.inj h
        exact ⟨by decide, by decide⟩
      · cases h

namespace Store

variable {s : Store} {r : Rejection}

theorem known_customerGate? {user : Uuid} (h : s.customerGate? user = some r) : r.Known := by
  obtain ⟨c, -, hc⟩ := Option.bind_eq_some_iff.mp h
  exact Customer.known_rejection? hc

theorem known_variantGate? {variant : Uuid} {product : Option Uuid}
    (h : s.variantGate? variant product = some r) : r.Known := by
  obtain ⟨x, -, hx⟩ := Option.bind_eq_some_iff.mp h
  exact Snapshot.known_rejection? hx

theorem known_gate? {m : Mutation} (h : s.gate? m = some r) : r.Known := by
  rcases Option.or_eq_some_iff.mp h with hcustomer | ⟨-, hvariant⟩
  · exact known_customerGate? hcustomer
  · cases m with
    | add user product variant quantity => exact known_variantGate? hvariant
    | update user variant quantity => exact known_variantGate? hvariant
    | remove user variant => cases hvariant
    | clear user => cases hvariant

theorem known_callGate? {call : Call} (h : s.callGate? call = some r) : r.Known := by
  cases call with
  | mutate m => exact known_gate? h
  | list user => exact known_customerGate? h
  | summary user ids => exact known_customerGate? h
  | checkout o => exact known_customerGate? h

end Store

/-- The refusal is what the gates hold against a request, or does not look like it. -/
def Refusal.Fits (gate? : Option Rejection) : Refusal → Prop
  | gate r => gate? = some r
  | error e => e.isGate = false

theorem isGate_of_mem_mutationErrors {e : ServiceError} (h : e ∈ mutationErrors) :
    e.isGate = false := by
  have hall : ∀ e ∈ mutationErrors, e.isGate = false := by decide
  exact hall e h

theorem Refusal.Raised.fits {g : Option Rejection} {r : Refusal} (h : r.Raised g) : r.Fits g := by
  cases h with
  | gate h => exact h
  | error h => exact isGate_of_mem_mutationErrors h

/-- The failure is a refusal that fits, or no refusal. -/
def Failure.Fits (gate? : Option Rejection) : Failure → Prop
  | refused r => r.Fits gate?
  | database .. | crash _ => True

/-! ### Accounts -/

/-- What a request is accounted for: a counter that it moves by one, and what is logged of it. -/
structure Account where
  key : RawText
  logger : RawText
  level : Int
  message : RawText
  extras : List (RawText × Log.Value)

namespace Account

/-- The log record of an account.  Its message takes no arguments, and no exception is
reported. -/
def record (a : Account) (created : Timestamp) : Log.Record where
  logger := a.logger
  level := a.level
  template := a.message
  args := []
  extras := a.extras
  created := created
  incident := none

/-- A text, or null where there is none. -/
def nullable (text? : Option RawText) : Log.Value :=
  text?.elim .null .text

/-- What a mutation is about beside its variant: the quantity that is asked for or, where no
variant is named either, so many rows. -/
def extent (m : Mutation) (rows : Nat) : List (RawText × Log.Value) :=
  match m.quantity?, m.variant? with
  | some quantity, _ => [("quantity", .number quantity)]
  | none, some _ => []
  | none, none => [("rows", .number rows)]

/-- A mutation with a status, of a customer who has so many rows. -/
def ofMutation (m : Mutation) (status : Status) (rows : Nat) : Account where
  key := status.text
  logger := "tanmore.services.cart"
  level := 20
  message := status.text
  extras :=
    ("customer_id", .text m.user.text) ::
      ("variant_id", nullable (m.variant?.map (·.text))) ::
      ("status", .text status.text) :: extent m rows

/-- A checkout that was opened for a customer. -/
def ofCheckout (user : Uuid) (s : CheckoutSession) : Account where
  key := "checkout_sessions_" ++ s.source.text
  logger := "tanmore.services.checkout"
  level := 20
  message := "checkout_session_created"
  extras :=
    [("customer_id", .text user.text), ("checkout_session_id", .text s.session.text),
      ("source", .text s.source.text), ("valid", .number s.bundle.count),
      ("invalid", .number s.bundle.invalid.length), ("subtotal", .number s.bundle.subtotal)]

/-- A rejection, which names its subject. -/
def ofRejection? (r : Rejection) : Option Account :=
  r.subject.map fun subject =>
    { key := "gate_rejections_" ++ subject
      logger := "tanmore.services.moderation"
      level := 30
      message := "moderation_gate_rejected"
      extras :=
        [("subject", .text subject), ("reason", nullable r.reason)] }

end Account

/-- What a failure is accounted for: what the gates hold against the request, if this is the
error that it is shown. -/
def Failure.account? (f : Failure) (gate? : Option Rejection) : Option Account :=
  gate?.bind fun r => if f.shown? = some r.error then Account.ofRejection? r else none

/-- What a request is accounted for. -/
def Served.account? (e : Served) : Option Account :=
  match e.call, e.outcome.result with
  | .mutate m, .ok (.report r) =>
    some (.ofMutation m r.status (e.before.store.rows.countP (·.user == m.user)))
  | .checkout o, .ok (.session s) => some (.ofCheckout o.user s)
  | call, .error f => f.account? (e.before.store.callGate? call)
  | _, _ => none

/-- The events are logged as the account says and move its counter, or there is neither an
event nor an account. -/
def Account.Covers (account? : Option Account) (events : List Event) : Prop :=
  events.map Event.record = account?.toList.map Account.record ∧
    events.filterMap Event.counter? = account?.toList.map (·.key)

theorem Account.covers_none : Covers none [] :=
  ⟨rfl, rfl⟩

theorem Account.covers_some {a : Account} {event : Event} (hrecord : event.record = a.record)
    (hkey : event.counter? = some a.key) : Covers (some a) [event] := by
  refine ⟨?_, ?_⟩
  · simp [hrecord]
  · simp [hkey]

/-- A failure that fits is accounted for. -/
theorem Failure.covers_account? {f : Failure} {g : Option Rejection} (hf : f.Fits g)
    (hg : ∀ r, g = some r → r.Known) : Account.Covers (f.account? g) f.events := by
  have hother : (∀ r, g = some r → f.shown? ≠ some r.error) → f.events = [] →
      Account.Covers (f.account? g) f.events := by
    intro hshown hevents
    have hnone : f.account? g = none :=
      Option.bind_eq_none_iff.mpr fun r hr => if_neg (hshown r hr)
    rw [hnone, hevents]
    exact Account.covers_none
  match f, hf with
  | .refused (.gate r), hgate =>
      obtain rfl : g = some r := hgate
      have hsubject := (hg r rfl).subject
      obtain ⟨account, haccount⟩ : ∃ a, Account.ofRejection? r = some a := by
        rw [Account.ofRejection?, hsubject]
        exact ⟨_, rfl⟩
      have hfailed : (refused (.gate r)).account? (some r) = some account := by
        have hshown : (refused (.gate r)).shown? = some r.error := rfl
        rw [account?, Option.bind_some, if_pos hshown, haccount]
      rw [Account.ofRejection?, hsubject] at haccount
      obtain rfl := Option.some.inj haccount
      rw [hfailed]
      refine Account.covers_some (funext fun created => ?_) rfl
      simp only [Event.record, Event.extras, hsubject]
      cases r.reason <;> rfl
  | .refused (.error e), herror =>
      refine hother (fun r hr hshown => ?_) rfl
      obtain rfl : e = r.error := Option.some.inj hshown
      have hgate := (hg r hr).error
      rw [herror] at hgate
      cases hgate
  | .database kind message, _ => exact hother (fun r _ hshown => by cases hshown) rfl
  | .crash message, _ => exact hother (fun r _ hshown => by cases hshown) rfl

/-! ### One request -/

/-- Whatever strikes is the database's or the program's fault, and no refusal. -/
def Conditions.Foreign (c : Conditions) : Prop :=
  ∀ fault, c.fault = some fault → ∀ r, fault.failure ≠ .refused r

/-- Whatever a plan is refused with on a view has a property. -/
def Plan.RefusedBy {α : Type} (view : View) (P : Refusal → Prop) (p : Plan α) : Prop :=
  ∀ r, p.eval view = .error r → P r

namespace Plan.RefusedBy

variable {α β : Type} {view : View} {P : Refusal → Prop}

theorem of_eval_eq_ok {p : Plan α} {a : α} (h : p.eval view = .ok a) : p.RefusedBy view P := by
  intro r hr
  rw [h] at hr
  cases hr

theorem bind {p : Plan α} {f : α → Plan β} (hp : p.RefusedBy view P)
    (hf : ∀ a, (f a).RefusedBy view P) : (p >>= f).RefusedBy view P := by
  intro r hr
  rw [eval_seq] at hr
  cases heval : p.eval view with
  | ok a =>
      rw [heval] at hr
      exact hf a r hr
  | error r' =>
      rw [heval] at hr
      obtain rfl : r' = r := Except.error.inj hr
      exact hp r' heval

end Plan.RefusedBy

section OneRequest

variable {c : Conditions} {s : Store} {f : Failure}

theorem Failure.fits_of_forall_ne (h : ∀ r, f ≠ .refused r) (g : Option Rejection) :
    f.Fits g ∧ f.ofUnitOfWork.Fits g := by
  cases f with
  | refused r => exact absurd rfl (h r)
  | database kind message => exact ⟨trivial, rfl⟩
  | crash message => exact ⟨trivial, trivial⟩

/-- What a mutation makes of a fault does not look like a rejection at a gate. -/
theorem Mutation.fits_raised (m : Mutation) (view : View) {fault : Fault}
    (h : ∀ r, fault.failure ≠ .refused r) (g : Option Rejection) :
    (m.raised view fault).Fits g := by
  rcases m.raised_cases view fault with hconflict | hraised
  · rw [hconflict]
    exact rfl
  · rw [hraised]
    exact (Failure.fits_of_forall_ne h g).2

theorem Mutation.fits_run (hc : c.Foreign) {m : Mutation} (h : (m.run c s).1 = .error f) :
    f.Fits (s.gate? m) := by
  rcases exists_of_run_eq_error h with ⟨r, hrefusal, rfl⟩ | ⟨fault, hfault, rfl⟩
  · exact (raised_refusal? hrefusal).fits
  · exact m.fits_raised _ (hc fault hfault) _

/-- A plan fails with what it is refused with, or with a fault. -/
theorem Plan.fits_run {α : Type} (hc : c.Foreign) {p : Plan α} {g : Option Rejection}
    (hp : p.RefusedBy (c.view s) (·.Fits g)) (h : p.run c (c.view s) 0 = .error f) : f.Fits g := by
  rcases exists_of_run_eq_error h with ⟨r, heval, rfl⟩ | ⟨fault, hfault, rfl⟩
  · exact hp r heval
  · exact (Failure.fits_of_forall_ne (hc fault hfault) _).1

/-- Reading a cart is refused by nothing but what is held against the customer. -/
theorem refusedBy_customerObjection (user : Uuid) (selection : Selection) (quantity : Option Int) :
    (aggregate user selection quantity).RefusedBy (c.view s)
      (s.customerObjection? user = some ·) := by
  have hcustomer : (eligibleCustomer user).RefusedBy (c.view s)
      (s.customerObjection? user = some ·) := by
    intro r h
    rw [eval_eligibleCustomer (c.upToDate_view s), settle_eq_error] at h
    exact h
  have hids : (selection.ids user).RefusedBy (c.view s) (s.customerObjection? user = some ·) := by
    cases selection <;> exact .of_eval_eq_ok rfl
  have hlines : ∀ ids, (linesFor user ids).RefusedBy (c.view s)
      (s.customerObjection? user = some ·) := by
    intro ids
    cases ids <;> exact .of_eval_eq_ok rfl
  exact hcustomer.bind fun _ => hids.bind fun ids => (hlines ids).bind fun _ => .of_eval_eq_ok rfl

theorem refusedBy_aggregate (user : Uuid) (selection : Selection) (quantity : Option Int) :
    (aggregate user selection quantity).RefusedBy (c.view s) (·.Fits (s.customerGate? user)) :=
  fun r h => (Store.raised_customerObjection?
    (refusedBy_customerObjection user selection quantity r h)).fits

theorem refusedBy_order (limit : Int) (o : Order) :
    (o.plan limit).RefusedBy (c.view s) (·.Fits (s.customerGate? o.user)) := by
  have hplain : ∀ {e : ServiceError}, e.isGate = false →
      (Plan.refused (.error e) : Plan Bundle).RefusedBy (c.view s)
        (·.Fits (s.customerGate? o.user)) := by
    intro e he r h
    obtain rfl : .error e = r := Except.error.inj h
    exact he
  cases o with
  | product user variant quantity =>
      rw [Order.plan_product]
      split
      · refine (refusedBy_aggregate user _ _).bind fun b => ?_
        unfold Bundle.unlessEmpty
        split
        · exact hplain rfl
        · exact .of_eval_eq_ok rfl
      · exact hplain rfl
  | cart user ids =>
      rw [Order.plan_cart]
      split
      · exact hplain rfl
      · split
        · exact hplain rfl
        · exact refusedBy_aggregate user _ _

end OneRequest

theorem Served.account?_of_error {e : Served} {f : Failure} (h : e.outcome.result = .error f) :
    e.account? = f.account? (e.before.store.callGate? e.call) := by
  unfold account?
  rw [h]
  split <;> simp_all

/-- The event of a mutation that is committed.  That of a clear is about all rows of the
customer; what the others are about does not depend on the rows. -/
theorem Mutation.event_run {m : Mutation} {c : Conditions} {s s' : Store} {done : Written}
    (h : m.run c s = (.ok done, s')) :
    m.event done = m.event ⟨done.status, s.rows.countP (·.user == m.user)⟩ := by
  rcases m.run_cases c s with ⟨f, hrun⟩ | ⟨d, s'', rows, hplan, happly, hrun⟩
  · rw [h] at hrun
    cases hrun
  · rw [h] at hrun
    obtain ⟨hdone, -⟩ := Prod.mk.inj hrun
    obtain rfl := Except.ok.inj hdone
    cases m with
    | add user product variant quantity => rfl
    | update user variant quantity => rfl
    | remove user variant => rfl
    | clear user =>
        obtain ⟨-, ⟨-, rfl⟩ | ⟨variant, _, _, hvariant, -, -⟩⟩ := of_eval_plan hplan
        · obtain ⟨-, hrows⟩ := Prod.mk.inj (Except.ok.inj happly)
          rw [← hrows]
        · cases hvariant

/-- A mutation is logged as its account says. -/
theorem Mutation.record_event (m : Mutation) (status : Status) (rows : Nat) :
    (m.event ⟨status, rows⟩).record = (Account.ofMutation m status rows).record := by
  cases m <;> rfl

namespace Shop

variable {s : Shop} {limit : Int} {c : Conditions}

/-- Serves a request under some conditions. -/
def attend (s : Shop) (limit : Int) (c : Conditions) (call : Call) : Served :=
  let done := s.call limit c call
  ⟨s, call, done.1, done.2⟩

theorem covers_of_fits {call : Call} {f : Failure}
    (houtcome : (s.attend limit c call).outcome = ⟨.error f, f.events⟩)
    (hfits : f.Fits (s.store.callGate? call)) :
    Account.Covers (s.attend limit c call).account? (s.attend limit c call).outcome.events := by
  rw [Served.account?_of_error (congrArg Outcome.result houtcome), houtcome]
  exact Failure.covers_account? hfits fun _ => Store.known_callGate?

/-- A plan that only reads leaves no event but the one of its failure. -/
theorem consult_cases {α : Type} (s : Shop) (c : Conditions) (p : Plan α) :
    (∃ a, s.consult c p = ⟨.ok a, []⟩) ∨
      ∃ f, p.run c (c.view s.store) 0 = .error f ∧ s.consult c p = ⟨.error f, f.events⟩ := by
  unfold consult
  cases p.run c (c.view s.store) 0 with
  | ok done => exact Or.inl ⟨done.1, rfl⟩
  | error f => exact Or.inr ⟨f, rfl, rfl⟩

/-- A request that only reads and fails is accounted for by the gate of the customer. -/
theorem covers_of_consult_error {α : Type} {call : Call} {p : Plan α} {f : Failure}
    (hc : c.Foreign) (hp : p.RefusedBy (c.view s.store) (·.Fits (s.store.customerGate? call.user)))
    (hgate : s.store.callGate? call = s.store.customerGate? call.user)
    (hrun : p.run c (c.view s.store) 0 = .error f)
    (houtcome : (s.attend limit c call).outcome = ⟨.error f, f.events⟩) :
    Account.Covers (s.attend limit c call).account? (s.attend limit c call).outcome.events := by
  refine covers_of_fits houtcome ?_
  rw [hgate]
  exact Plan.fits_run hc hp hrun

/-- A request that only reads and is not accounted for when it is answered. -/
theorem covers_of_consult {α : Type} {call : Call} {p : Plan α} (answer : α → Answer)
    (hc : c.Foreign) (hp : p.RefusedBy (c.view s.store) (·.Fits (s.store.customerGate? call.user)))
    (hgate : s.store.callGate? call = s.store.customerGate? call.user)
    (hconsult : (s.attend limit c call).outcome = (s.consult c p).map answer)
    (hsilent : ∀ a, (s.attend limit c call).outcome.result = .ok (answer a) →
      (s.attend limit c call).account? = none) :
    Account.Covers (s.attend limit c call).account? (s.attend limit c call).outcome.events := by
  rcases s.consult_cases c p with ⟨a, hok⟩ | ⟨f, hrun, herror⟩
  · rw [hok] at hconsult
    rw [hsilent a (congrArg Outcome.result hconsult), hconsult]
    exact Account.covers_none
  · rw [herror] at hconsult
    exact covers_of_consult_error hc hp hgate hrun hconsult

/-- **A request leaves the one event that its account tells of, or none.** -/
theorem covers_attend (hc : c.Foreign) (s : Shop) (limit : Int) (call : Call) :
    Account.Covers (s.attend limit c call).account? (s.attend limit c call).outcome.events := by
  cases call with
  | mutate m =>
      have hmutate : (s.attend limit c (.mutate m)).outcome = (s.mutate c m).1.map .report := rfl
      rcases hrun : m.run c s.store with ⟨f | done, store⟩
      · refine covers_of_fits (f := f) ?_ (Mutation.fits_run hc (congrArg Prod.fst hrun))
        rw [hmutate, mutate, hrun]
        rfl
      · have houtcome : (s.attend limit c (.mutate m)).outcome =
            ⟨.ok (.report (m.report done.status)), [m.event done]⟩ := by
          rw [hmutate, mutate, hrun]
          rfl
        have haccount : (s.attend limit c (.mutate m)).account? =
            some (.ofMutation m done.status (s.store.rows.countP (·.user == m.user))) := by
          unfold Served.account?
          rw [houtcome]
          rfl
        rw [haccount, houtcome]
        refine Account.covers_some ?_ rfl
        rw [Mutation.event_run hrun, Mutation.record_event]
  | list user =>
      refine covers_of_consult .bundle hc (refusedBy_aggregate user _ _)
        rfl rfl fun b hok => ?_
      unfold Served.account?
      rw [hok]
      rfl
  | summary user ids =>
      have hsummarize : (summarize user ids).RefusedBy (c.view s.store)
          (·.Fits (s.store.customerGate? user)) :=
        (refusedBy_aggregate user _ _).bind fun _ => .of_eval_eq_ok rfl
      refine covers_of_consult .summary hc hsummarize rfl rfl
        fun summary hok => ?_
      unfold Served.account?
      rw [hok]
      rfl
  | checkout o =>
      have hcheckout : (s.attend limit c (.checkout o)).outcome =
          (s.checkout limit c o).1.map .session := rfl
      rcases s.consult_cases c (o.plan limit) with ⟨b, hconsult⟩ | ⟨f, hrun, hconsult⟩
      · let opened : CheckoutSession := ⟨c.givens.session, o.source, b⟩
        have houtcome : (s.attend limit c (.checkout o)).outcome =
            ⟨.ok (.session opened), [opened.event o.user]⟩ := by
          rw [hcheckout, checkout, hconsult]
          rfl
        have haccount : (s.attend limit c (.checkout o)).account? =
            some (.ofCheckout o.user opened) := by
          unfold Served.account?
          rw [houtcome]
          rfl
        rw [haccount, houtcome]
        exact Account.covers_some rfl rfl
      · refine covers_of_consult_error hc (refusedBy_order limit o) rfl hrun ?_
        rw [hcheckout, checkout, hconsult]
        rfl

/-! ### Histories -/

/-- The requests of a history, as they are served. -/
def attended (s : Shop) : List Happening → List Served
  | [] => []
  | .request limit c call :: rest =>
    s.attend limit c call :: (s.undergo (.request limit c call)).attended rest
  | happening :: rest => (s.undergo happening).attended rest

/-- The tally of the counters goes on with the counters of the events. -/
theorem count_foldl_tally (events : List Event) (keys : List RawText) :
    events.foldl Event.count ⟨tally keys⟩ =
      ⟨tally (keys ++ events.filterMap Event.counter?)⟩ := by
  induction events generalizing keys with
  | nil => simp
  | cons e rest ih =>
      rw [List.foldl_cons, List.filterMap_cons, Event.count]
      cases hkey : e.counter? with
      | none => exact ih keys
      | some key =>
          dsimp only
          rw [Counters.increment_tally, ih, List.append_assoc, List.singleton_append]

/-- What a history is accounted for. -/
def accounts (s : Shop) (history : List Happening) : List Account :=
  (s.attended history).filterMap (·.account?)

theorem accounts_cons_request (s : Shop) (limit : Int) (c : Conditions) (call : Call)
    (rest : List Happening) :
    s.accounts (.request limit c call :: rest) =
      (s.attend limit c call).account?.toList ++
        (s.undergo (.request limit c call)).accounts rest := by
  rw [accounts, attended, List.filterMap_cons]
  cases (s.attend limit c call).account? <;> rfl

theorem accounted_history {history : List Happening} {keys : List RawText}
    (hforeign : ∀ limit c call, .request limit c call ∈ history → c.Foreign)
    (hcounters : s.counters = ⟨tally keys⟩) :
    ((s.attended history).flatMap (·.outcome.events)).map Event.record =
        (s.accounts history).map Account.record ∧
      (history.foldl undergo s).counters =
        ⟨tally (keys ++ (s.accounts history).map (·.key))⟩ := by
  induction history generalizing s keys with
  | nil => exact ⟨rfl, by simp [hcounters, accounts, attended]⟩
  | cons happening rest ih =>
      have hrest : ∀ limit c call, .request limit c call ∈ rest → c.Foreign :=
        fun limit c call hmem => hforeign limit c call (List.mem_cons_of_mem _ hmem)
      cases happening with
      | moderation flags => exact ih (s := s.undergo (.moderation flags)) hrest hcounters
      | catalogue snapshots unique =>
          exact ih (s := s.undergo (.catalogue snapshots unique)) hrest hcounters
      | request limit c call =>
          obtain ⟨hrecords, hkeys⟩ :=
            covers_attend (hforeign limit c call (List.mem_cons_self ..)) s limit call
          have hafter : (s.undergo (.request limit c call)).counters =
              ⟨tally (keys ++ (s.attend limit c call).account?.toList.map (·.key))⟩ := by
            rw [← hkeys, ← count_foldl_tally, ← hcounters]
            exact s.counters_call limit c call
          obtain ⟨hlogged, hcounts⟩ := ih hrest hafter
          rw [accounts_cons_request, List.map_append, List.map_append, ← List.append_assoc]
          refine ⟨?_, hcounts⟩
          rw [attended, List.flatMap_cons, List.map_append, hrecords, hlogged]

/-- **Counters and logs are an exact account of what requests come to.**  Over any history from
the opening of a shop, what is logged is, in the order of the requests, one record for each
account, with the logger, the level, the message and the extras that the account says; and the
counters are the tally of the keys of the accounts and hold no other key. -/
theorem recorded_exactly (store : Store) {history : List Happening}
    (hforeign : ∀ limit c call, .request limit c call ∈ history → c.Foreign) :
    (((opened store).attended history).flatMap (·.outcome.events)).map Event.record =
        ((opened store).accounts history).map Account.record ∧
      (history.foldl undergo (opened store)).counters.counts =
        tally (((opened store).accounts history).map (·.key)) := by
  have hopened : (opened store).counters = ⟨tally []⟩ := rfl
  obtain ⟨hlogged, hcounters⟩ := accounted_history hforeign hopened
  exact ⟨hlogged, congrArg Counters.counts hcounters⟩

end Shop

namespace Corner

/-- More tea is asked for while it is in the cart, the jam is put back, the cart cannot be
cleared and then is, and the customer is banned and lists it. -/
def ledger : List Happening :=
  [.request 100 (.calm givens) (.mutate (.add user (.ofNat 5) tea 3)),
    .request 100 (.calm givens) (.mutate (.add user (.ofNat 5) jam 1)),
    .request 100 fullDisk (.mutate (.clear user)),
    .request 100 (.calm givens) (.mutate (.clear user)),
    .moderation fun _ => (false, true),
    .request 100 (.calm givens) (.list user)]

theorem foreign_ledger {limit : Int} {c : Conditions} {call : Call}
    (h : .request limit c call ∈ ledger) : c.Foreign := by
  have hconditions : c = .calm givens ∨ c = fullDisk := by
    simp only [ledger, List.mem_cons, Happening.request.injEq, List.not_mem_nil, reduceCtorEq] at h
    tauto
  rintro fault hfault r
  rcases hconditions with rfl | rfl
  · cases hfault
  · obtain rfl := Option.some.inj hfault
    exact Failure.noConfusion

end Corner

/-- Of five requests to the corner shop, three are logged and move a counter. -/
theorem recorded_exactly_corner :
    let s := Shop.opened Corner.store
    let after := Corner.ledger.foldl Shop.undergo s
    (∀ limit c call, .request limit c call ∈ Corner.ledger → c.Foreign) ∧
      (s.accounts Corner.ledger).map (fun a => (a.logger, a.level, a.message)) =
        ([("tanmore.services.cart", 20, "cart_item_reactivated"),
          ("tanmore.services.cart", 20, "cart_cleared"),
          ("tanmore.services.moderation", 30, "moderation_gate_rejected")] :
            List (RawText × Int × RawText)) ∧
      ((s.attended Corner.ledger).flatMap (·.outcome.events)).map Event.record =
        (s.accounts Corner.ledger).map Account.record ∧
      after.counters.counts = tally ((s.accounts Corner.ledger).map (·.key)) :=
  ⟨fun _ _ _ => Corner.foreign_ledger, by decide +kernel,
    Shop.recorded_exactly Corner.store fun _ _ _ => Corner.foreign_ledger⟩

end Storefront
