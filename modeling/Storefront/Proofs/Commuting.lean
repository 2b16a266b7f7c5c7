/-
Mutations that are about different rows commute.

A mutation looks at its customer, at snapshots and at the rows that it is about, and writes to
these rows alone.  So where two mutations are about different rows, neither sees whether the
other has run (`agreeOn_run`), and comes to the same and leaves the same in its rows on tables
that agree on what it looks at.  This settles what each is answered with and, as every row is
written to by one of them at most, what the rows hold in the end.

What the order does decide is the id and the time of a row that is new, and nothing is asked of
what the four runs are given.  Old rows keep theirs, since tables grow, so the rows in the end are
compared by what they hold and, where they were there before, by their id and time:
`Store.recognized`.
-/
import Storefront.Proofs.Isolation
import Storefront.Proofs.Permanence
import Storefront.Proofs.Tally

namespace Storefront

/-! ### What a mutation looks at -/

/-- Two sets of tables agree on everything that a mutation looks at. -/
structure Store.AgreeOn (s s' : Store) (m : Mutation) : Prop where
  customers : s.customers = s'.customers
  snapshots : s.snapshots = s'.snapshots
  rows : ∀ user variant, m.concerns user variant = true →
    s.row? user variant = s'.row? user variant

namespace Mutation

/-- Two mutations are about different rows: of different customers, or of different variants
that they name. -/
def Independent (m m' : Mutation) : Prop :=
  m.user ≠ m'.user ∨
    ∃ variant variant', m.variant? = some variant ∧ m'.variant? = some variant' ∧
      variant ≠ variant'

variable {s s' : Store} {givens : Givens} {m m' : Mutation} {user variant : Uuid}

theorem Independent.symm (h : m.Independent m') : m'.Independent m := by
  rcases h with huser | ⟨variant, variant', hvariant, hvariant', hne⟩
  · exact Or.inl huser.symm
  · exact Or.inr ⟨variant', variant, hvariant', hvariant, hne.symm⟩

theorem Independent.not_concerns (h : m.Independent m') (hm : m.concerns user variant = true) :
    m'.concerns user variant = false := by
  simp only [concerns, Bool.and_eq_true, beq_iff_eq] at hm
  obtain ⟨rfl, hall⟩ := hm
  rcases h with huser | ⟨v, v', hv, hv', hne⟩
  · simp [concerns, huser.symm]
  · obtain rfl : v = variant := by simpa [hv] using hall
    simp [concerns, hv', hne.symm]

/-- A mutation does not see whether another one has run that is about different rows. -/
theorem agreeOn_run (h : s.Keys) (hm : m.Independent m') :
    s.AgreeOn (m'.run (.calm givens) s).2 m where
  customers := (m'.customers_run (.calm givens) s).1.symm
  snapshots := (m'.customers_run (.calm givens) s).2.symm
  rows := by
    intro user variant hconcerns
    exact (row?_run_of_not_concerns h (hm.not_concerns hconcerns) (.calm givens)).symm

end Mutation

namespace Store.AgreeOn

variable {s s' : Store} {m : Mutation} {user variant : Uuid}

theorem holding (h : s.AgreeOn s' m) (hm : m.concerns user variant = true) :
    s.holding? user variant = s'.holding? user variant :=
  congrArg (Option.map _) (h.rows user variant hm)

theorem objection?_eq (h : s.AgreeOn s' m) : s.objection? m = s'.objection? m := by
  cases m <;>
    simp only [objection?, customerObjection?, variantObjection?, customer?, snapshot?,
      h.customers, h.snapshots]

theorem admits_eq (h : s.AgreeOn s' m) : s.admits m = s'.admits m := by
  rw [Bool.eq_iff_iff, ← objection?_eq_none, ← objection?_eq_none, h.objection?_eq]

/-- A customer whose cart is cleared has as many rows on one side as on the other. -/
theorem countP_rows (h : s.AgreeOn s' (.clear user)) (hkeys : s.Keys) (hkeys' : s'.Keys) :
    s.rows.countP (·.user == user) = s'.rows.countP (·.user == user) := by
  have hlisted : ∀ s : Store, s.rows.countP (·.user == user) =
      (s.listing.filter (·.user == user)).length := by
    intro s
    rw [← List.countP_eq_length_filter]
    exact (List.mergeSort_perm s.rows _).symm.countP_eq _
  rw [hlisted, hlisted, hkeys.filter_listing_congr hkeys' fun r hr => ?_]
  have hrow := h.rows user r.variant (by simp [Mutation.concerns, Mutation.variant?, Mutation.user])
  have hpair : r.pair = (user, r.variant) := by rw [← beq_iff_eq.mp hr, CartRow.pair]
  have hfound : ∀ {s : Store}, s.Keys → (r ∈ s.rows ↔ s.row? user r.variant = some r) := by
    intro s hs
    rw [hs.row?_eq_some, and_iff_left hpair]
  rw [hfound hkeys, hfound hkeys', hrow]

end Store.AgreeOn

namespace Mutation

variable {s s' : Store} {m m' : Mutation} {user variant : Uuid}

theorem holding?_run_of_agreeOn {givens givens' : Givens} (h : s.AgreeOn s' m) (hkeys : s.Keys)
    (hkeys' : s'.Keys) (hm : m.concerns user variant = true) :
    (m.run (.calm givens) s).2.holding? user variant =
      (m.run (.calm givens') s').2.holding? user variant := by
  rw [holding?_run hkeys, holding?_run hkeys', h.admits_eq, h.holding hm]

theorem holding?_run_of_not_concerns {givens : Givens} (h : s.Keys)
    (hm : m.concerns user variant = false) :
    (m.run (.calm givens) s).2.holding? user variant = s.holding? user variant :=
  congrArg (Option.map _) (row?_run_of_not_concerns h hm (.calm givens))

/-- The tables after two mutations, each with what it is given. -/
def runBoth (m m' : Mutation) (g g' : Givens) (s : Store) : Store :=
  (m'.run (.calm g') (m.run (.calm g) s).2).2

theorem keys_runBoth (h : s.Keys) (m m' : Mutation) (g g' : Givens) : (m.runBoth m' g g' s).Keys :=
  keys_run (keys_run h m (.calm g)) m' (.calm g')

theorem grows_runBoth (s : Store) (m m' : Mutation) (g g' : Givens) :
    s.Grows (m.runBoth m' g g' s) :=
  (grows_run s m (.calm g)).trans (grows_run _ m' (.calm g'))

section Orders

variable {g g' k k' : Givens}

/-- What a row holds that the first of two mutations is about does not depend on their order. -/
theorem holding?_runBoth_of_concerns (h : s.Keys) (hm : m.Independent m')
    (hconcerns : m.concerns user variant = true) :
    (m.runBoth m' g g' s).holding? user variant = (m'.runBoth m k k' s).holding? user variant := by
  rw [runBoth, holding?_run_of_not_concerns (keys_run h m _) (hm.not_concerns hconcerns)]
  exact holding?_run_of_agreeOn (agreeOn_run h hm) h (keys_run h m' _) hconcerns

/-- What a row holds after two mutations that are about different rows. -/
theorem holding?_runBoth (h : s.Keys) (hm : m.Independent m') (user variant : Uuid) :
    (m.runBoth m' g g' s).holding? user variant = (m'.runBoth m k k' s).holding? user variant := by
  cases hconcerns : m.concerns user variant with
  | true => exact holding?_runBoth_of_concerns h hm hconcerns
  | false =>
      cases hconcerns' : m'.concerns user variant with
      | true => exact (holding?_runBoth_of_concerns h hm.symm hconcerns').symm
      | false =>
          rw [runBoth, runBoth, holding?_run_of_not_concerns (keys_run h m _) hconcerns',
            holding?_run_of_not_concerns h hconcerns,
            holding?_run_of_not_concerns (keys_run h m' _) hconcerns,
            holding?_run_of_not_concerns h hconcerns']

end Orders

end Mutation

/-! ### Answers and counters -/

/-- A mutation is answered alike, with the same event, on tables that agree on what it looks
at. -/
theorem Shop.outcome_mutate_of_agreeOn {t t' : Shop} {g g' : Givens} {m : Mutation}
    (h : t.store.AgreeOn t'.store m) (hkeys : t.store.Keys) (hkeys' : t'.store.Keys) :
    (t.mutate (.calm g) m).1 = (t'.mutate (.calm g') m).1 := by
  have hstatus : (m.run (.calm g) t.store).1.map (·.status) =
      (m.run (.calm g') t'.store).1.map (·.status) :=
    Mutation.status_run_congr h.objection?_eq (fun variant hm => h.holding hm) hkeys hkeys'
  have hrows : ∀ status,
      m.event ⟨status, t.store.rows.countP (·.user == m.user)⟩ =
        m.event ⟨status, t'.store.rows.countP (·.user == m.user)⟩ := by
    intro status
    cases m with
    | add user product variant quantity => rfl
    | update user variant quantity => rfl
    | remove user variant => rfl
    | clear user => rw [show (Mutation.clear user).user = user from rfl, h.countP_rows hkeys hkeys']
  rcases hrun : m.run (.calm g) t.store with ⟨f | done, store⟩ <;>
    rcases hrun' : m.run (.calm g') t'.store with ⟨f' | done', store'⟩ <;>
    rw [hrun, hrun'] at hstatus
  · obtain rfl : f = f' := Except.error.inj hstatus
    rw [mutate, mutate, hrun, hrun']
  · cases hstatus
  · cases hstatus
  · have hsame : done.status = done'.status := Except.ok.inj hstatus
    have hevent : m.event done = m.event done' := by
      rw [Mutation.event_run hrun, Mutation.event_run hrun', hsame, hrows]
    rw [mutate, mutate, hrun, hrun']
    simp only [hsame, hevent]

theorem Event.isSome_get?_foldl (events : List Event) (counters : Counters) (key : RawText) :
    (Keyed.get? key (events.foldl Event.count counters).counts).isSome =
      ((Keyed.get? key counters.counts).isSome || events.any fun e => e.counter? == some key) := by
  induction events generalizing counters with
  | nil => simp
  | cons e rest ih =>
      rw [List.foldl_cons, ih, List.any_cons]
      unfold Event.count
      cases hkey : e.counter? with
      | none => simp
      | some key' =>
          have hput : (Keyed.get? key (counters.increment key').counts).isSome =
              (key' == key || (Keyed.get? key counters.counts).isSome) := by
            rw [Counters.increment, Keyed.get?_put]
            by_cases h : key' = key <;> simp [h]
          simp only [hput, Option.some_beq_some]
          cases key' == key <;> simp

/-- Events can be counted in any order. -/
theorem Event.get?_foldl_comm (events events' : List Event) (counters : Counters)
    (key : RawText) :
    Keyed.get? key ((events ++ events').foldl Event.count counters).counts =
      Keyed.get? key ((events' ++ events).foldl Event.count counters).counts := by
  have hsome : (Keyed.get? key ((events ++ events').foldl Event.count counters).counts).isSome =
      (Keyed.get? key ((events' ++ events).foldl Event.count counters).counts).isSome := by
    simp only [isSome_get?_foldl, List.any_append]
    rw [Bool.or_comm (events.any _)]
  have hcount : ((events ++ events').foldl Event.count counters).count key =
      ((events' ++ events).foldl Event.count counters).count key := by
    simp only [count_foldl, List.countP_append]
    rw [Nat.add_comm (events.countP _)]
  -- The look-ups agree on whether the key is there and on what is counted under it.
  unfold Counters.count at hcount
  generalize Keyed.get? key ((events ++ events').foldl Event.count counters).counts = n
    at hsome hcount ⊢
  generalize Keyed.get? key ((events' ++ events).foldl Event.count counters).counts = n'
    at hsome hcount ⊢
  cases n with
  | none =>
      cases n' with
      | none => rfl
      | some k' => cases hsome
  | some k =>
      cases n' with
      | none => cases hsome
      | some k' => exact congrArg some hcount

/-! ### Rows in the end -/

/-- A row without its id and time, unless it is one of the rows of some tables. -/
def Store.recognized (s : Store) (r : CartRow) : Option (Nat × Int) × Uuid × Uuid × Holding :=
  (if r.id ∈ s.rows.map (·.id) then some (r.id, r.createdAt) else none, r.user, r.variant,
    r.holding)

namespace Store

variable {s a b : Store} {r r' : CartRow}

theorem Grows.exists_row (h : s.Grows a) (hr : r ∈ s.rows) :
    ∃ x ∈ a.rows, x.identity = r.identity := by
  have hmem : r.identity ∈ s.rows.map (·.identity) := List.mem_map_of_mem hr
  exact List.mem_map.mp (h.subset hmem)

/-- A row that was there before has one identity, wherever the tables have grown to. -/
theorem Grows.identity_eq (ha : s.Grows a) (hb : s.Grows b) (hkeys : a.Keys) (hkeys' : b.Keys)
    (hr : r ∈ a.rows) (hr' : r' ∈ b.rows) (hpair : r.pair = r'.pair)
    (hold : r.id ∈ s.rows.map (·.id)) : r.identity = r'.identity := by
  obtain ⟨old, hmem, hid⟩ := List.mem_map.mp hold
  obtain ⟨x, hx, hidentity⟩ := ha.exists_row hmem
  obtain ⟨y, hy, hidentity'⟩ := hb.exists_row hmem
  have hxid : x.id = r.id := (congrArg Prod.fst hidentity).trans hid
  obtain rfl := List.inj_on_of_nodup_map hkeys.ids hx hr hxid
  have hypair : y.pair = r'.pair :=
    (congrArg Prod.snd (congrArg Prod.snd (hidentity'.trans hidentity.symm))).trans hpair
  obtain rfl := List.inj_on_of_nodup_map hkeys'.pairs hy hr' hypair
  exact hidentity.trans hidentity'.symm

theorem recognized_eq (ha : s.Grows a) (hb : s.Grows b) (hkeys : a.Keys) (hkeys' : b.Keys)
    (hr : r ∈ a.rows) (hr' : r' ∈ b.rows) (hpair : r.pair = r'.pair)
    (hholding : r.holding = r'.holding) : s.recognized r = s.recognized r' := by
  have hplace : (if r.id ∈ s.rows.map (·.id) then some (r.id, r.createdAt) else none) =
      if r'.id ∈ s.rows.map (·.id) then some (r'.id, r'.createdAt) else none := by
    by_cases hold : r.id ∈ s.rows.map (·.id)
    · have hidentity := ha.identity_eq hb hkeys hkeys' hr hr' hpair hold
      have hid : r.id = r'.id := congrArg Prod.fst hidentity
      have htime : r.createdAt = r'.createdAt := congrArg Prod.fst (congrArg Prod.snd hidentity)
      rw [hid, htime]
    · have hnew : r'.id ∉ s.rows.map (·.id) := by
        intro hold'
        have hidentity := hb.identity_eq ha hkeys' hkeys hr' hr hpair.symm hold'
        have hid : r'.id = r.id := congrArg Prod.fst hidentity
        exact hold (hid ▸ hold')
      rw [if_neg hold, if_neg hnew]
  obtain ⟨huser, hvariant⟩ := Prod.mk.inj hpair
  rw [recognized, recognized, hplace, huser, hvariant, hholding]

/-- Tables that have grown from the same ones, and whose rows hold the same, have the same rows
but for the ids and times of the new ones. -/
theorem perm_recognized (ha : s.Grows a) (hb : s.Grows b) (hkeys : a.Keys) (hkeys' : b.Keys)
    (hholding : ∀ user variant, a.holding? user variant = b.holding? user variant) :
    (a.rows.map s.recognized).Perm (b.rows.map s.recognized) := by
  have hnodup : ∀ {t : Store}, t.Keys → (t.rows.map s.recognized).Nodup := by
    intro t ht
    refine List.Nodup.of_map (fun x => (x.2.1, x.2.2.1)) ?_
    rw [List.map_map]
    exact ht.pairs
  have hsubset : ∀ {t u : Store}, s.Grows t → s.Grows u → t.Keys → u.Keys →
      (∀ user variant, t.holding? user variant = u.holding? user variant) →
      ∀ x ∈ t.rows.map s.recognized, x ∈ u.rows.map s.recognized := by
    intro t u ht hu hkt hku hsame x hx
    obtain ⟨r, hr, rfl⟩ := List.mem_map.mp hx
    have hrow : t.row? r.user r.variant = some r := hkt.row?_eq_some.mpr ⟨hr, rfl⟩
    have hfound : u.holding? r.user r.variant = some r.holding := by
      rw [← hsame, holding?, hrow]
      rfl
    obtain ⟨r', hrow', hholds⟩ := Option.map_eq_some_iff.mp hfound
    obtain ⟨hr', hpair⟩ := hku.row?_eq_some.mp hrow'
    rw [recognized_eq ht hu hkt hku hr hr' hpair.symm hholds.symm]
    exact List.mem_map_of_mem hr'
  refine (List.perm_ext_iff_of_nodup (hnodup hkeys) (hnodup hkeys')).mpr fun x => ⟨?_, ?_⟩
  · exact hsubset ha hb hkeys hkeys' hholding x
  · exact hsubset hb ha hkeys' hkeys (fun user variant => (hholding user variant).symm) x

end Store

/-- The rows after two mutations that are about different rows. -/
theorem Mutation.perm_rows_runBoth {s : Store} (h : s.Keys) {m m' : Mutation}
    (hm : m.Independent m') (g g' k k' : Givens) :
    ((m.runBoth m' g g' s).rows.map s.recognized).Perm
      ((m'.runBoth m k k' s).rows.map s.recognized) :=
  Store.perm_recognized (grows_runBoth s m m' g g') (grows_runBoth s m' m k k')
    (keys_runBoth h m m' g g') (keys_runBoth h m' m k k') (holding?_runBoth h hm)

/-- **Mutations that are about different rows commute.**  Each is answered with the same in
both orders, and the counters and the rows in the end are the same, but that rows which are new
may have other ids and times.  What a mutation is given may be another thing in each order. -/
theorem Shop.mutate_comm {s : Shop} (h : s.store.Keys) {m m' : Mutation}
    (hm : m.Independent m') (g g' k k' : Givens) :
    let first := s.mutate (.calm g) m
    let second := first.2.mutate (.calm g') m'
    let first' := s.mutate (.calm k) m'
    let second' := first'.2.mutate (.calm k') m
    first.1 = second'.1 ∧ second.1 = first'.1 ∧
      (∀ key,
        Keyed.get? key second.2.counters.counts = Keyed.get? key second'.2.counters.counts) ∧
      (second.2.store.rows.map s.store.recognized).Perm
        (second'.2.store.rows.map s.store.recognized) := by
  intro first second first' second'
  have hstore : first.2.store = (m.run (.calm g) s.store).2 := s.store_mutate (.calm g) m
  have hstore' : first'.2.store = (m'.run (.calm k) s.store).2 := s.store_mutate (.calm k) m'
  have hanswer : first.1 = second'.1 := by
    refine outcome_mutate_of_agreeOn ?_ h ?_
    · rw [hstore']
      exact Mutation.agreeOn_run h hm
    · rw [hstore']
      exact Mutation.keys_run h m' (.calm k)
  have hanswer' : first'.1 = second.1 := by
    refine outcome_mutate_of_agreeOn ?_ h ?_
    · rw [hstore]
      exact Mutation.agreeOn_run h hm.symm
    · rw [hstore]
      exact Mutation.keys_run h m (.calm g)
  refine ⟨hanswer, hanswer'.symm, fun key => ?_, ?_⟩
  · have hcounters : ∀ (t : Shop) (g : Givens) (m : Mutation), (t.mutate (.calm g) m).2.counters =
        (t.mutate (.calm g) m).1.events.foldl Event.count t.counters :=
      fun t g m => t.counters_call 0 (.calm g) (.mutate m)
    have hsecond : second.2.counters =
        (first.1.events ++ second.1.events).foldl Event.count s.counters := by
      rw [List.foldl_append, ← hcounters s g m]
      exact hcounters first.2 g' m'
    have hsecond' : second'.2.counters =
        (second.1.events ++ first.1.events).foldl Event.count s.counters := by
      rw [List.foldl_append, hanswer, ← hanswer', ← hcounters s k m']
      exact hcounters first'.2 k' m
    rw [hsecond, hsecond']
    exact Event.get?_foldl_comm ..
  · have hrows : second.2.store = m.runBoth m' g g' s.store := by
      rw [Mutation.runBoth, ← hstore]
      exact first.2.store_mutate (.calm g') m'
    have hrows' : second'.2.store = m'.runBoth m k k' s.store := by
      rw [Mutation.runBoth, ← hstore']
      exact first'.2.store_mutate (.calm k') m
    rw [hrows, hrows']
    exact Mutation.perm_rows_runBoth h hm g g' k k'

namespace Corner

/-- The shop when only the customer's tea is in a cart. -/
def quietStore : Store where
  customers := busyStore.customers
  snapshots := store.snapshots
  rows := [⟨0, 1, user, tea, .inCart 2⟩]

theorem keys_quietStore : quietStore.Keys := ⟨by decide, by decide, by decide⟩

/-- The customer puts jam in the cart, or the neighbour tea. -/
def ownAdd : Mutation := .add user (.ofNat 5) jam 1

@[inherit_doc ownAdd]
def otherAdd : Mutation := .add neighbour (.ofNat 5) tea 4

theorem independent_adds : ownAdd.Independent otherAdd :=
  Or.inl (by decide)

end Corner

/-- Two customers of the corner shop each get a new row; which of them gets which id depends on
who comes first, and nothing else does. -/
theorem mutate_comm_corner :
    let s := Shop.opened Corner.quietStore
    let calm := Conditions.calm Corner.givens
    let busy := Conditions.calm Corner.busyGivens
    let first := s.mutate calm Corner.ownAdd
    let second := first.2.mutate calm Corner.otherAdd
    let first' := s.mutate busy Corner.otherAdd
    let second' := first'.2.mutate calm Corner.ownAdd
    s.store.Keys ∧ Corner.ownAdd.Independent Corner.otherAdd ∧
      second.2.store.rows.map (fun r => (r.id, r.variant)) =
        [(0, Corner.tea), (1, Corner.jam), (2, Corner.tea)] ∧
      second'.2.store.rows.map (fun r => (r.id, r.variant)) =
        [(0, Corner.tea), (1001, Corner.tea), (1002, Corner.jam)] ∧
      (first.1 = second'.1 ∧ second.1 = first'.1 ∧
        (∀ key,
          Keyed.get? key second.2.counters.counts = Keyed.get? key second'.2.counters.counts) ∧
        (second.2.store.rows.map s.store.recognized).Perm
          (second'.2.store.rows.map s.store.recognized)) :=
  ⟨Corner.keys_quietStore, Corner.independent_adds, by decide +kernel, by decide +kernel,
    Shop.mutate_comm (s := .opened Corner.quietStore) Corner.keys_quietStore
      Corner.independent_adds Corner.givens Corner.givens Corner.busyGivens Corner.givens⟩

end Storefront
