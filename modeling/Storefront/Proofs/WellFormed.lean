/-
Well-formed tables stay well formed.

Tables are well formed when their keys are unique, every row is in the cart with a
quantity that can be asked for or is a tombstone, and every row has its customer.  A
change keeps this when what it writes is sound, and a mutation decides on no other
change: an add or an update has had its quantity checked, and a row that is to be written
is the one with that id, so the columns that are replaced make of it exactly the contents
that were computed.

Nothing else is assumed of how a mutation runs.  Its reads of rows may come back empty,
and any of its database calls may fail: it then changes nothing, or an insert meets the
row that it did not see and is refused.  So the invariant holds along every history of
requests, whatever is done to the flags of customers and to the snapshots in between.
-/
import Storefront.Proofs.Lifecycle
import Storefront.Proofs.Mutations

namespace Storefront

/-- Every row is in the cart with a quantity in range, or a tombstone. -/
def Store.SoundRows (s : Store) : Prop :=
  ∀ r ∈ s.rows, r.holding.Sound

/-- Tables as the services leave them. -/
structure Store.WellFormed (s : Store) : Prop extends s.Keys where
  /-- A row is in the cart with a quantity in range, or a tombstone. -/
  holdings : ∀ r ∈ s.rows, r.holding.Sound
  /-- The customer of a row exists. -/
  owned : ∀ r ∈ s.rows, ∃ c ∈ s.customers, c.id = r.user

/-! ### Changes -/

/-- What a change has to satisfy for the rows to stay well formed. -/
def Change.Sound (s : Store) : Change → Prop
  | insert user _ holding => holding.Sound ∧ ∃ c ∈ s.customers, c.id = user
  | write row columns => ∀ r ∈ s.rows, r.id = row → (columns.write r.holding).Sound
  | clear _ | nothing => True

namespace Store.SoundRows

variable {s : Store}

theorem overwrite (h : s.SoundRows) {p : CartRow → Bool} {f : Holding → Holding}
    (hf : ∀ r ∈ s.rows, p r = true → (f r.holding).Sound) : (s.overwrite p f).SoundRows := by
  intro r' hr'
  obtain ⟨r, hr, rfl⟩ := List.mem_map.mp hr'
  by_cases hp : p r = true
  · simpa [hp] using hf r hr hp
  · simpa [hp] using h r hr

theorem inserted (h : s.SoundRows) {givens : Givens} {user variant : Uuid} {holding : Holding}
    (hsound : holding.Sound) : (s.inserted givens user variant holding).SoundRows := by
  intro r hr
  rcases List.mem_append.mp hr with hold | hnew
  · exact h r hold
  · rw [List.mem_singleton.mp hnew]
    exact hsound

end Store.SoundRows

namespace Store.WellFormed

variable {s s' : Store} {givens : Givens} {change : Change} {n : Nat}

theorem overwrite (h : s.WellFormed) (p : CartRow → Bool) (f : Holding → Holding)
    (hf : ∀ r ∈ s.rows, p r = true → (f r.holding).Sound) : (s.overwrite p f).WellFormed where
  toKeys := h.toKeys.overwrite p f
  holdings := SoundRows.overwrite h.holdings hf
  owned := by
    intro r' hr'
    obtain ⟨r, hr, rfl⟩ := List.mem_map.mp hr'
    have huser : (if p r then { r with holding := f r.holding } else r).user = r.user := by
      split <;> rfl
    rw [huser]
    exact h.owned r hr

theorem inserted (h : s.WellFormed) {user variant : Uuid} {holding : Holding}
    (hnone : s.row? user variant = none) (hsound : (Change.insert user variant holding).Sound s) :
    (s.inserted givens user variant holding).WellFormed where
  toKeys := h.toKeys.inserted hnone holding
  holdings := SoundRows.inserted h.holdings hsound.1
  owned := by
    intro r hr
    rcases List.mem_append.mp hr with hold | hnew
    · exact h.owned r hold
    · rw [List.mem_singleton.mp hnew]
      exact hsound.2

theorem apply (h : s.WellFormed) (hsound : change.Sound s)
    (happly : s.apply givens change = .ok (s', n)) : s'.WellFormed := by
  rcases apply_cases happly with ⟨_, _, _, rfl, hnone, rfl⟩ | ⟨_, _, rfl, rfl⟩ | ⟨_, rfl, rfl⟩ |
    ⟨-, rfl⟩
  · exact h.inserted hnone hsound
  · exact h.overwrite _ _ fun r hr hp => hsound r hr (by simpa using hp)
  · exact h.overwrite _ _ fun _ _ _ => Holding.sound_tombstone
  · exact h

end Store.WellFormed

/-! ### Mutations -/

section Mutations

variable {s : Store} {m : Mutation} {c : Conditions}

theorem Store.exists_customer_of_admits (h : s.admits m = true) :
    ∃ c ∈ s.customers, c.id = m.user := by
  have hserves : s.serves m.user = true := by
    cases m <;> simp_all [admits, Mutation.user]
  cases hfind : s.customer? m.user with
  | none => simp [serves, hfind] at hserves
  | some customer =>
      exact ⟨customer, List.mem_of_find?_eq_some hfind, by simpa using List.find?_some hfind⟩

theorem Store.inRange_of_admits (h : s.admits m = true) {n : Int}
    (hstep : m.step = .add n ∨ m.step = .update n) : inRange n = true := by
  cases m <;> simp_all [admits, Mutation.step]

/-- The change computed for a row as it was read is sound. -/
theorem Store.WellFormed.sound_between (h : s.WellFormed) {user variant : Uuid}
    {read : Option CartRow} (hread : read = none ∨ read = s.row? user variant)
    {after : Option Holding} (hafter : ∀ x, after = some x → x.Sound)
    (hcustomer : ∃ c ∈ s.customers, c.id = user) :
    (Change.between user variant read after).Sound s := by
  cases after with
  | none => cases read <;> trivial
  | some holding =>
      cases read with
      | none => exact ⟨hafter holding rfl, hcustomer⟩
      | some old =>
          have hold : s.row? user variant = some old := by simpa [eq_comm] using hread
          intro r hr hid
          have hsame : r = old := List.inj_on_of_nodup_map h.ids hr (Store.row?_mem hold) hid
          rw [hsame, Holding.write_changes]
          exact hafter holding rfl

/-- A mutation decides on sound changes only. -/
theorem Mutation.sound_of_eval_plan (h : s.WellFormed) {d : Decision}
    (hplan : m.plan.eval (c.view s) = .ok d) : d.change.Sound s := by
  obtain ⟨hadmits, ⟨-, rfl⟩ | ⟨variant, status, after, -, htake, rfl⟩⟩ := of_eval_plan hplan
  · trivial
  · refine h.sound_between (c.view_row s _ _) ?_ (Store.exists_customer_of_admits hadmits)
    exact Step.sound_of_take (fun n hn => Store.inRange_of_admits hadmits hn) htake

/-- **A mutation leaves well-formed tables, whether it succeeds or fails.** -/
theorem Store.WellFormed.run (h : s.WellFormed) (m : Mutation) (c : Conditions) :
    (m.run c s).2.WellFormed := by
  rcases m.run_cases c s with ⟨f, hrun⟩ | ⟨d, s', rows, hplan, happly, hrun⟩
  · rw [hrun]; exact h
  · rw [hrun]; exact h.apply (Mutation.sound_of_eval_plan h hplan) happly

end Mutations

/-! ### Histories -/

/-- Something that happens to a shop. -/
inductive Happening where
  /-- A request is served, with at most so many variants from a cart and under any
  conditions. -/
  | request (limit : Int) (conditions : Conditions) (call : Call)
  /-- The flags of every customer are set, archived first and banned second. -/
  | moderation (flags : Customer → Bool × Bool)
  /-- Other snapshots take the place of the ones there are, one for each variant. -/
  | catalogue (snapshots : List Snapshot) (unique : (snapshots.map (·.variant.id)).Nodup)

/-- The shop after something has happened to it. -/
def Shop.undergo (s : Shop) : Happening → Shop
  | .request limit conditions call => (s.call limit conditions call).2
  | .moderation flags =>
    { s with store.customers := s.store.customers.map fun c =>
        { c with archived := (flags c).1, banned := (flags c).2 } }
  | .catalogue snapshots _ => { s with store.snapshots := snapshots }

theorem Shop.wellFormed_undergo {s : Shop} (h : s.store.WellFormed) (happening : Happening) :
    (s.undergo happening).store.WellFormed := by
  cases happening with
  | request limit conditions call =>
      show (s.call limit conditions call).2.store.WellFormed
      rw [s.store_call]
      cases call with
      | mutate m => exact h.run m conditions
      | list user => exact h
      | summary user variants => exact h
      | checkout o => exact h
  | moderation flags =>
      refine ⟨⟨h.variants, h.pairs, h.ids⟩, h.holdings, ?_⟩
      intro r hr
      obtain ⟨c, hc, hid⟩ := h.owned r hr
      exact ⟨_, List.mem_map_of_mem hc, hid⟩
  | catalogue snapshots unique => exact ⟨⟨unique, h.pairs, h.ids⟩, h.holdings, h.owned⟩

/-- **Well-formed tables stay well formed, and a customer and a variant never have two
rows.**  A history is any list of happenings, so this is the state after each of them. -/
theorem Shop.wellFormed_history {s : Shop} (h : s.store.WellFormed) (history : List Happening) :
    (history.foldl Shop.undergo s).store.WellFormed ∧
      ∀ user variant,
        ((history.foldl Shop.undergo s).store.rows.filter (·.isFor user variant)).length ≤ 1 := by
  have hwf : (history.foldl Shop.undergo s).store.WellFormed := by
    induction history generalizing s with
    | nil => exact h
    | cons happening rest ih => exact ih (Shop.wellFormed_undergo h happening)
  exact ⟨hwf, hwf.length_filter_le⟩

theorem Corner.wellFormed_store : store.WellFormed where
  toKeys := keys_store
  holdings := by
    intro r hr
    simp only [store, List.mem_cons, List.not_mem_nil, or_false] at hr
    rcases hr with rfl | rfl
    · exact Holding.sound_inCart (by decide)
    · exact Holding.sound_tombstone
  owned := by decide

/-- The jam is put back by a request that does not see its tombstone, the customer is
banned, the catalogue is emptied, and clearing the cart then fails. -/
def Corner.history : List Happening :=
  [.request 100 ⟨true, none, givens⟩ (.mutate (.add user (.ofNat 5) jam 3)),
    .moderation fun _ => (false, true),
    .catalogue [] List.nodup_nil,
    .request 100 (.calm givens) (.mutate (.clear user))]

/-- The corner shop stays well formed, whatever happens to it. -/
theorem wellFormed_corner_history :
    Corner.store.WellFormed ∧
      ((Corner.history.foldl Shop.undergo (.opened Corner.store)).store.WellFormed ∧
        ∀ user variant,
          ((Corner.history.foldl Shop.undergo (.opened Corner.store)).store.rows.filter
            (·.isFor user variant)).length ≤ 1) :=
  ⟨Corner.wellFormed_store,
    Shop.wellFormed_history (s := .opened Corner.store) Corner.wellFormed_store Corner.history⟩

end Storefront
