/-
Customers are isolated from each other.

Every read and every write of a request is keyed by its customer, so what a customer sees is
made of four things: their own record, the snapshots, the order of their rows, and what these
hold.  `Store.AgreeFor` says that two sets of tables agree on the four.  A request of the
customer has the same result on tables that agree, and leaves tables that agree; a request of
anybody else leaves tables that agree with what they were.  So in a run the requests of the
others can be left out one by one, and what is left is the same list of requests for any two
runs that differ in the others only.

The two runs are given ids and times of their own.  These show in one place only, the order of
the listing, so all that is asked of them is that new rows are listed last.
-/
import Storefront.Proofs.Carts
import Storefront.Proofs.Reads

namespace Storefront

/-! ### Tables that agree for a customer -/

namespace Store

/-- Two sets of tables agree on everything that a customer can see. -/
structure AgreeFor (s s' : Store) (user : Uuid) : Prop where
  customer : s.customer? user = s'.customer? user
  snapshot : ∀ variant product, s.snapshot? variant product = s'.snapshot? variant product
  variants : s.variantsOf user = s'.variantsOf user
  holding : ∀ variant, s.holding? user variant = s'.holding? user variant

namespace AgreeFor

variable {s s' s'' : Store} {user : Uuid}

theorem refl (s : Store) (user : Uuid) : s.AgreeFor s user :=
  ⟨rfl, fun _ _ => rfl, rfl, fun _ => rfl⟩

theorem trans (h : s.AgreeFor s' user) (h' : s'.AgreeFor s'' user) : s.AgreeFor s'' user where
  customer := h.customer.trans h'.customer
  snapshot := fun variant product =>
    (h.snapshot variant product).trans (h'.snapshot variant product)
  variants := h.variants.trans h'.variants
  holding := fun variant => (h.holding variant).trans (h'.holding variant)

theorem cart (h : s.AgreeFor s' user) (hkeys : s.Keys) (hkeys' : s'.Keys) :
    s.cart user = s'.cart user := by
  simp only [hkeys.cart_eq, hkeys'.cart_eq, h.variants, h.holding]

theorem showsAlike (h : s.AgreeFor s' user) (hkeys : s.Keys) (hkeys' : s'.Keys) :
    s.ShowsAlike s' user where
  customer := h.customer
  activeIds := by simp only [hkeys.activeIds_eq, hkeys'.activeIds_eq, h.variants, h.holding]
  bundles := by
    intro ids quantity
    have hline : s.line? user = s'.line? user := by
      funext id
      simp only [line?, wanted?, h.snapshot, h.holding]
    rw [hkeys.readKeys.lines_eq, hkeys'.readKeys.lines_eq, hline]

end AgreeFor

end Store

namespace Mutation

variable {s s' : Store} {givens givens' : Givens} {m : Mutation} {user : Uuid}

theorem objection?_of_agreeFor (h : s.AgreeFor s' m.user) : s.objection? m = s'.objection? m := by
  have hcustomer : s.customerObjection? m.user = s'.customerObjection? m.user := by
    simp only [Store.customerObjection?, h.customer]
  cases m with
  | add user product variant quantity =>
      simp only [Store.objection?, Store.variantObjection?, h.snapshot]
      exact congrArg _ (congrArg (Option.or · _) hcustomer)
  | update user variant quantity =>
      simp only [Store.objection?, Store.variantObjection?, h.snapshot]
      exact congrArg _ (congrArg (Option.or · _) hcustomer)
  | remove user variant => exact hcustomer
  | clear user => exact hcustomer

theorem admits_of_agreeFor (h : s.AgreeFor s' m.user) : s.admits m = s'.admits m := by
  rw [Bool.eq_iff_iff, ← Store.objection?_eq_none, ← Store.objection?_eq_none,
    objection?_of_agreeFor h]

/-- A mutation comes to the same where the same is held against it and its rows hold the same. -/
theorem status_run_congr (hobjection : s.objection? m = s'.objection? m)
    (hholding : ∀ variant, m.concerns m.user variant = true →
      s.holding? m.user variant = s'.holding? m.user variant)
    (hkeys : s.Keys) (hkeys' : s'.Keys) :
    (m.run (.calm givens) s).1.map (·.status) = (m.run (.calm givens') s').1.map (·.status) := by
  cases hs : s.objection? m with
  | some r => rw [run_of_objection hs, run_of_objection (hobjection.symm.trans hs)]
  | none =>
      -- A cleared cart has no row of its own to look at; any will do.
      obtain ⟨variant, hconcerns⟩ : ∃ variant, m.concerns m.user variant = true := by
        cases hvariant : m.variant? with
        | none => exact ⟨m.user, by simp [concerns, hvariant]⟩
        | some variant => exact ⟨variant, by simp [concerns, hvariant]⟩
      rw [(run_of_admits hkeys (Store.objection?_eq_none.mp hs) hconcerns).1,
        (run_of_admits hkeys' (Store.objection?_eq_none.mp (hobjection.symm.trans hs)) hconcerns).1,
        hholding variant hconcerns]

/-- A mutation comes to the same on tables that agree for its customer. -/
theorem status_run_of_agreeFor (h : s.AgreeFor s' m.user) (hkeys : s.Keys) (hkeys' : s'.Keys) :
    (m.run (.calm givens) s).1.map (·.status) = (m.run (.calm givens') s').1.map (·.status) :=
  status_run_congr (objection?_of_agreeFor h) (fun variant _ => h.holding variant) hkeys hkeys'

/-- A mutation leaves tables that agree for its customer. -/
theorem agreeFor_run (h : s.AgreeFor s' m.user) (hkeys : s.Keys) (hkeys' : s'.Keys)
    (hlater : givens.Later) (hlater' : givens'.Later) :
    (m.run (.calm givens) s).2.AgreeFor (m.run (.calm givens') s').2 m.user := by
  obtain ⟨hcustomers, hsnapshots⟩ := m.customers_run (.calm givens) s
  obtain ⟨hcustomers', hsnapshots'⟩ := m.customers_run (.calm givens') s'
  have hholding : ∀ variant, (m.run (.calm givens) s).2.holding? m.user variant =
      (m.run (.calm givens') s').2.holding? m.user variant := by
    intro variant
    rw [holding?_run hkeys, holding?_run hkeys', h.holding, admits_of_agreeFor h]
  refine ⟨?_, ?_, ?_, hholding⟩
  · have hcustomer := h.customer
    rwa [Store.customer?, Store.customer?, ← hcustomers, ← hcustomers'] at hcustomer
  · intro variant product
    have hsnapshot := h.snapshot variant product
    rwa [Store.snapshot?, Store.snapshot?, ← hsnapshots, ← hsnapshots'] at hsnapshot
  · rw [variantsOf_run hkeys m hlater, variantsOf_run hkeys' m hlater']
    simp only [h.variants, h.holding, hholding]

/-- A mutation by somebody else changes nothing for a customer. -/
theorem agreeFor_run_of_ne (hne : m.user ≠ user) (hkeys : s.Keys) (hlater : givens.Later) :
    (m.run (.calm givens) s).2.AgreeFor s user := by
  obtain ⟨hcustomers, hsnapshots⟩ := m.customers_run (.calm givens) s
  have hholding : ∀ variant,
      (m.run (.calm givens) s).2.holding? user variant = s.holding? user variant := by
    intro variant
    have hconcerns : m.concerns user variant = false := by simp [concerns, hne]
    rw [holding?_run hkeys, hconcerns]
    rfl
  refine ⟨?_, ?_, ?_, hholding⟩
  · rw [Store.customer?, hcustomers, Store.customer?]
  · intro variant product
    rw [Store.snapshot?, hsnapshots, Store.snapshot?]
  · have hsome : ∀ variant, ((m.run (.calm givens) s).2.holding? user variant).isSome =
        (s.holding? user variant).isSome := fun variant => congrArg _ (hholding variant)
    rw [variantsOf_run hkeys m hlater, Store.filter_new_eq_nil hsome, List.append_nil]

end Mutation

/-! ### Runs -/

namespace Served

/-- What a customer sees of a request of their own: the answer, without the id of a checkout
session, and the cart after it. -/
def seen (e : Served) (user : Uuid) : Except Failure Answer × List (Uuid × Holding) :=
  (e.outcome.result.map Answer.withoutSession, e.after.store.cart user)

end Served

/-- What a customer sees of a run. -/
def seenBy (user : Uuid) (run : List Served) :
    List (Except Failure Answer × List (Uuid × Holding)) :=
  (run.filter (·.call.user == user)).map (·.seen user)

theorem seenBy_cons_of_eq {user : Uuid} {e : Served} (run : List Served)
    (h : e.call.user = user) : seenBy user (e :: run) = e.seen user :: seenBy user run := by
  simp [seenBy, h]

theorem seenBy_cons_of_ne {user : Uuid} {e : Served} (run : List Served)
    (h : e.call.user ≠ user) : seenBy user (e :: run) = seenBy user run := by
  simp [seenBy, h]

namespace Shop

variable {t t' : Shop} {limit : Int} {givens givens' : Givens} {call : Call} {user : Uuid}

/-- A request of a customer on tables that agree for them. -/
theorem agreeFor_serveOne (h : t.store.AgreeFor t'.store call.user) (hkeys : t.store.Keys)
    (hkeys' : t'.store.Keys) (hlater : givens.Later) (hlater' : givens'.Later) (limit : Int) :
    (t.serveOne limit givens call).after.store.AgreeFor
      (t'.serveOne limit givens' call).after.store call.user := by
  show (t.call limit (.calm givens) call).2.store.AgreeFor
    (t'.call limit (.calm givens') call).2.store call.user
  rw [t.store_call, t'.store_call]
  cases call with
  | mutate m => exact Mutation.agreeFor_run h hkeys hkeys' hlater hlater'
  | list user => exact h
  | summary user ids => exact h
  | checkout o => exact h

theorem result_serveOne (h : t.store.AgreeFor t'.store call.user) (hkeys : t.store.Keys)
    (hkeys' : t'.store.Keys) (limit : Int) :
    (t.serveOne limit givens call).outcome.result.map Answer.withoutSession =
      (t'.serveOne limit givens' call).outcome.result.map Answer.withoutSession := by
  cases hreads : call.reads with
  | true =>
      exact congrArg Outcome.result
        (call_alike (h.showsAlike hkeys hkeys') hreads limit (.calm givens) givens')
  | false =>
      cases call with
      | mutate m =>
          have hresult : ∀ (s : Shop) (givens : Givens),
              (s.serveOne limit givens (.mutate m)).outcome.result.map Answer.withoutSession =
                ((m.run (.calm givens) s.store).1.map (·.status)).map
                  fun status => .report (m.report status) := by
            intro s givens
            show ((s.mutate (.calm givens) m).1.result.map Answer.report).map
              Answer.withoutSession = _
            rw [s.result_mutate]
            cases (m.run (.calm givens) s.store).1 <;> rfl
          rw [hresult, hresult, Mutation.status_run_of_agreeFor h hkeys hkeys']
      | list user => cases hreads
      | summary user ids => cases hreads
      | checkout o => cases hreads

/-- A request of somebody else. -/
theorem agreeFor_serveOne_of_ne (hne : call.user ≠ user) (hkeys : t.store.Keys)
    (hlater : givens.Later) (limit : Int) :
    (t.serveOne limit givens call).after.store.AgreeFor t.store user := by
  show (t.call limit (.calm givens) call).2.store.AgreeFor t.store user
  rw [t.store_call]
  cases call with
  | mutate m => exact Mutation.agreeFor_run_of_ne hne hkeys hlater
  | list user' => exact .refl ..
  | summary user' ids => exact .refl ..
  | checkout o => exact .refl ..

/-- **A customer sees of a run what they would see without the others**, whatever ids and times
are given to the new rows of the one and of the other, as long as these are listed last. -/
theorem seenBy_serve (h : t.store.AgreeFor t'.store user) (hkeys : t.store.Keys)
    (hkeys' : t'.store.Keys) (limit : Int) {calls own : List (Givens × Call)}
    (hlater : ∀ x ∈ calls, x.1.Later) (hlater' : ∀ x ∈ own, x.1.Later)
    (hown : own.map (·.2) = (calls.map (·.2)).filter (·.user == user)) :
    seenBy user (t.serve limit calls) = seenBy user (t'.serve limit own) := by
  induction calls generalizing t t' own with
  | nil =>
      obtain rfl : own = [] := List.map_eq_nil_iff.mp hown
      rfl
  | cons posed calls ih =>
      obtain ⟨givens, call⟩ := posed
      have hhere : givens.Later := hlater _ List.mem_cons_self
      have hthere : ∀ x ∈ calls, x.1.Later := fun x hx => hlater x (List.mem_cons_of_mem _ hx)
      have hafter := keys_serveOne hkeys limit givens call
      by_cases huser : call.user = user
      · subst huser
        have hkept : ((call :: calls.map (·.2)).filter (·.user == call.user)) =
            call :: (calls.map (·.2)).filter (·.user == call.user) := by simp
        rw [List.map_cons, hkept] at hown
        obtain ⟨⟨givens', call'⟩, own, rfl, hsame, hrest⟩ := List.map_eq_cons_iff.mp hown
        obtain rfl : call = call' := hsame.symm
        have hhere' : givens'.Later := hlater' _ List.mem_cons_self
        have hthere' : ∀ x ∈ own, x.1.Later := fun x hx => hlater' x (List.mem_cons_of_mem _ hx)
        have hafter' := keys_serveOne hkeys' limit givens' call
        have hagree := agreeFor_serveOne h hkeys hkeys' hhere hhere' limit
        have hseen : (t.serveOne limit givens call).seen call.user =
            (t'.serveOne limit givens' call).seen call.user :=
          Prod.ext (result_serveOne h hkeys hkeys' limit) (hagree.cart hafter hafter')
        have hcall : ∀ (s : Shop) (g : Givens), (s.serveOne limit g call).call.user = call.user :=
          fun _ _ => rfl
        rw [serve, serve, seenBy_cons_of_eq _ (hcall t givens),
          seenBy_cons_of_eq _ (hcall t' givens'), hseen,
          ih hagree hafter hafter' hthere hthere' hrest]
      · have hagree := (agreeFor_serveOne_of_ne huser hkeys hhere limit).trans h
        have hdropped : ((call :: calls.map (·.2)).filter (·.user == user)) =
            (calls.map (·.2)).filter (·.user == user) := by simp [huser]
        rw [List.map_cons, hdropped] at hown
        rw [serve, seenBy_cons_of_ne _ huser, ih hagree hafter hkeys' hthere hlater' hown]

/-- A request of somebody else leaves the rows of a customer as they were. -/
theorem mem_rows_serveOne (hkeys : t.store.Keys) (limit : Int) (hother : call.user ≠ user)
    {r : CartRow} (hr : r.user = user) :
    r ∈ (t.serveOne limit givens call).after.store.rows ↔ r ∈ t.store.rows := by
  have hrow : (t.serveOne limit givens call).after.store.row? user r.variant =
      t.store.row? user r.variant := by
    show (t.call limit (.calm givens) call).2.store.row? user r.variant = _
    rw [t.store_call]
    cases call with
    | mutate m =>
        have hne : m.user ≠ user := hother
        exact Mutation.row?_run_of_not_concerns hkeys (by simp [Mutation.concerns, hne])
          (.calm givens)
    | list user' => rfl
    | summary user' ids => rfl
    | checkout o => rfl
  have hfound : ∀ s : Store, s.Keys → (r ∈ s.rows ↔ s.row? user r.variant = some r) := by
    intro s hs
    simp [hs.row?_eq_some, CartRow.pair, hr]
  rw [hfound _ (keys_serveOne hkeys limit givens call), hfound _ hkeys, hrow]

theorem mem_rows_serve (hkeys : t.store.Keys) {calls : List (Givens × Call)}
    {e : Served} (he : e ∈ t.serve limit calls) (hother : e.call.user ≠ user) {r : CartRow}
    (hr : r.user = user) : r ∈ e.after.store.rows ↔ r ∈ e.before.store.rows := by
  induction calls generalizing t with
  | nil => simp [serve] at he
  | cons posed calls ih =>
      obtain ⟨givens, call⟩ := posed
      rcases List.mem_cons.mp he with rfl | hrest
      · exact mem_rows_serveOne hkeys limit hother hr
      · exact ih (keys_serveOne hkeys limit givens call) hrest

end Shop

/-- Two sets of tables have one record of a customer, the same snapshots, and the same rows of
the customer. -/
structure Store.SameFor (s s' : Store) (user : Uuid) : Prop where
  customer : s.customer? user = s'.customer? user
  snapshots : ∀ x, x ∈ s.snapshots ↔ x ∈ s'.snapshots
  rows : ∀ r, r.user = user → (r ∈ s.rows ↔ r ∈ s'.rows)

theorem Store.SameFor.agreeFor {s s' : Store} {user : Uuid} (h : s.SameFor s' user)
    (hkeys : s.Keys) (hkeys' : s'.Keys) : s.AgreeFor s' user where
  customer := h.customer
  snapshot := by
    intro variant product
    refine Option.ext fun x => ?_
    rw [hkeys.snapshot?_eq_some_iff, hkeys'.snapshot?_eq_some_iff, h.snapshots]
  variants := by
    have hlisted := hkeys.filter_listing_congr hkeys' (p := (·.user == user)) fun r hr =>
      h.rows r (beq_iff_eq.mp hr)
    rw [variantsOf, hlisted, variantsOf]
  holding := by
    intro variant
    refine congrArg (Option.map _) (Option.ext fun r => ?_)
    rw [hkeys.row?_eq_some, hkeys'.row?_eq_some]
    refine and_congr_left fun hpair => h.rows r (congrArg Prod.fst hpair)

/-- **Customers are isolated from each other.**  What a customer sees of a run depends on
their own record, the snapshots, their own rows and their own requests, and on nothing that
is another's; and no request of another touches a row of theirs. -/
theorem Shop.customers_isolated {t t' : Shop} (hkeys : t.store.Keys) (hkeys' : t'.store.Keys)
    {user : Uuid} (hsame : t.store.SameFor t'.store user) {calls calls' : List (Givens × Call)}
    (hlater : ∀ x ∈ calls, x.1.Later) (hlater' : ∀ x ∈ calls', x.1.Later)
    (hcalls : (calls.map (·.2)).filter (·.user == user) =
      (calls'.map (·.2)).filter (·.user == user)) (limit : Int) :
    seenBy user (t.serve limit calls) = seenBy user (t'.serve limit calls') ∧
      ∀ e ∈ t.serve limit calls, e.call.user ≠ user → ∀ r : CartRow, r.user = user →
        (r ∈ e.after.store.rows ↔ r ∈ e.before.store.rows) := by
  constructor
  · -- Both runs are compared with the second one without the others.
    let own := calls'.filter (·.2.user == user)
    have hown : own.map (·.2) = (calls'.map (·.2)).filter (·.user == user) := by
      rw [List.filter_map]
      rfl
    have hlaterOwn : ∀ x ∈ own, x.1.Later := fun x hx => hlater' x (List.mem_of_mem_filter hx)
    rw [seenBy_serve (hsame.agreeFor hkeys hkeys') hkeys hkeys' limit hlater hlaterOwn
        (hown.trans hcalls.symm),
      ← seenBy_serve (.refl ..) hkeys' hkeys' limit hlater' hlaterOwn hown]
  · intro e he hother r hr
    exact mem_rows_serve hkeys he hother hr

namespace Corner

/-- A neighbour who comes to the shop. -/
def neighbour : Uuid := .ofNat 7

/-- The shop when the neighbour has tea in the cart as well. -/
def busyStore : Store where
  customers := [⟨neighbour, false, false⟩, ⟨user, false, false⟩]
  snapshots := store.snapshots
  rows := [⟨0, 1, user, tea, .inCart 2⟩, ⟨5, 1, neighbour, tea, .inCart 9⟩,
    ⟨1, 2, user, jam, .tombstone⟩]

/-- The clock of the shop is ahead of its rows. -/
theorem createdAt_lt_time {s : Store} {r : CartRow} (hr : r ∈ s.rows) :
    r.createdAt < givens.time s :=
  Int.lt_of_add_one_le ((le_foldl_max (fun r : CartRow => r.createdAt + 1) s.rows 0).2 r hr)

/-- Where the neighbour shops as well, ids are drawn a thousand higher. -/
def busyGivens : Givens :=
  { givens with
    row := fun s => givens.row s + 1000
    row_fresh := fun s r hr => by
      have hle := (le_foldl_max (fun r : CartRow => r.id + 1) s.rows 0).2 r hr
      show r.id ≠ givens.row s + 1000
      simp only [givens]
      omega
    session := .ofNat 80 }

/-- The customer updates the tea, puts the jam back and checks out. -/
def ownCalls : List (Givens × Call) :=
  [.mutate (.update user tea 3), .mutate (.add user (.ofNat 5) jam 1),
    .checkout (.cart user [tea, jam])].map (givens, ·)

/-- The same, with the neighbour in between. -/
def busyCalls : List (Givens × Call) :=
  [.mutate (.update user tea 3), .mutate (.clear neighbour),
    .checkout (.product neighbour tea 1), .mutate (.add user (.ofNat 5) jam 1),
    .mutate (.add neighbour (.ofNat 5) jam 4),
    .checkout (.cart user [tea, jam])].map (busyGivens, ·)

theorem later_ownCalls : ∀ x ∈ ownCalls, x.1.Later := by
  intro x hx
  obtain ⟨call, -, rfl⟩ := List.mem_map.mp hx
  exact fun s r hr => Or.inl (createdAt_lt_time hr)

theorem later_busyCalls : ∀ x ∈ busyCalls, x.1.Later := by
  intro x hx
  obtain ⟨call, -, rfl⟩ := List.mem_map.mp hx
  exact fun s r hr => Or.inl (createdAt_lt_time hr)

theorem keys_busyStore : busyStore.Keys := ⟨by decide, by decide, by decide⟩

theorem sameFor_busyStore : busyStore.SameFor store user where
  customer := rfl
  snapshots := fun _ => Iff.rfl
  rows := by
    intro r hr
    have hne : r ≠ ⟨5, 1, neighbour, tea, .inCart 9⟩ := by
      rintro rfl
      exact absurd hr (by decide)
    simp [store, busyStore, hne]

end Corner

/-- A neighbour comes to the corner shop, and the customer does not notice. -/
theorem customers_isolated_corner :
    let t := Shop.opened Corner.busyStore
    let t' := Shop.opened Corner.store
    let own := fun calls : List (Givens × Call) =>
      (calls.map (·.2)).filter (·.user == Corner.user)
    t.store.Keys ∧ t'.store.Keys ∧ t.store.SameFor t'.store Corner.user ∧
      (∀ x ∈ Corner.busyCalls, x.1.Later) ∧ (∀ x ∈ Corner.ownCalls, x.1.Later) ∧
      own Corner.busyCalls = own Corner.ownCalls ∧
      (seenBy Corner.user (t.serve 100 Corner.busyCalls) =
          seenBy Corner.user (t'.serve 100 Corner.ownCalls) ∧
        ∀ e ∈ t.serve 100 Corner.busyCalls, e.call.user ≠ Corner.user →
          ∀ r : CartRow, r.user = Corner.user →
            (r ∈ e.after.store.rows ↔ r ∈ e.before.store.rows)) := by
  intro t t' own
  have hcalls : own Corner.busyCalls = own Corner.ownCalls := by decide
  exact ⟨Corner.keys_busyStore, Corner.keys_store, Corner.sameFor_busyStore,
    Corner.later_busyCalls, Corner.later_ownCalls, hcalls,
    Shop.customers_isolated Corner.keys_busyStore Corner.keys_store Corner.sameFor_busyStore
      Corner.later_busyCalls Corner.later_ownCalls hcalls 100⟩

end Storefront
