/-
When a tombstone keeps a quantity.

A write replaces the columns in which the row was to change, and no others.  An add that
brings a row back and a removal replace both columns of it, and clearing does too, so what
they leave is sound whatever the row has become since it was read.  An update replaces the
quantity alone, since the row that it read was in the cart.  Where the row is taken out of
the cart between the read and the write, the update puts a quantity into the tombstone, and
the corner shop has such an interleaving.

Nothing else can go wrong.  The states of an interleaving are all sound exactly when no
update writes to a row that has left the cart: `soundRows_move` is the step of one half,
and `not_soundRows_of_staleUpdate` is the other half.
-/
import Storefront.Proofs.Interleaving
import Storefront.Proofs.WellFormed

namespace Storefront

/-! ### Writes -/

namespace Holding

theorem state_of_active {h : Holding} (hactive : h.active = true) : state (some h) = .active := by
  simp [state, hactive]

theorem state_of_not_active {h : Holding} (hactive : h.active = false) :
    state (some h) = .inactive := by
  simp [state, hactive]

/-- Sound contents differ in their quantity when they differ in whether they are in the
cart, so both columns are written. -/
theorem Sound.changes_of_active_ne {old new : Holding} (hold : old.Sound)
    (hnew : new.Sound) (hne : old.active ≠ new.active) :
    old.changes new = ⟨some new.active, some new.quantity⟩ := by
  have hquantity : old.quantity ≠ new.quantity := by
    rcases hold with ⟨hactive, n, hn, -⟩ | ⟨hactive, hnone⟩
    · rcases hnew with ⟨hactive', -⟩ | ⟨-, hnone'⟩
      · exact absurd (hactive.trans hactive'.symm) hne
      · rw [hn, hnone']
        simp
    · rcases hnew with ⟨-, n, hn, -⟩ | ⟨hactive', -⟩
      · rw [hnone, hn]
        simp
      · exact absurd (hactive.trans hactive'.symm) hne
  rw [changes, if_neg hne, if_neg hquantity]

end Holding

/-- The quantity alone is written, if at all, by a step that leaves a row where it is. -/
theorem Step.update_of_active_eq {step : Step} {old new : Holding} {status : Status}
    (hstep : step ≠ .clear) (htake : step.take (some old) = (.ok status, some new))
    (hsame : old.active = new.active) :
    ∃ n, step = .update n ∧ status = .updated ∧
      (old.changes new = ⟨none, none⟩ ∨ old.changes new = ⟨none, some (some n)⟩) := by
  obtain ⟨hlegal, happly⟩ := take_eq_ok.mp htake
  cases step with
  | add n =>
      have hnew : new = .inCart n := Option.some.inj happly
      have hactive : old.active = true := hsame.trans (congrArg Holding.active hnew)
      rw [Holding.state_of_active hactive] at hlegal
      cases hlegal
  | update n =>
      rw [Holding.state_of_active (active_of_update hlegal)] at hlegal
      obtain rfl : new = old.withQuantity n := Option.some.inj happly
      refine ⟨n, rfl, (Except.ok.inj hlegal).symm, ?_⟩
      rw [Holding.changes, if_pos hsame]
      by_cases hquantity : old.quantity = (old.withQuantity n).quantity
      · exact Or.inl (by rw [if_pos hquantity])
      · exact Or.inr (by rw [if_neg hquantity]; rfl)
  | remove =>
      have hnew : new = .tombstone := Option.some.inj happly
      have hactive : old.active = false := hsame.trans (congrArg Holding.active hnew)
      rw [Holding.state_of_not_active hactive] at hlegal
      cases hlegal
  | clear => exact absurd rfl hstep

namespace Store.SoundRows

variable {s : Store}

/-- A change keeps the rows sound when what it puts into each of them is. -/
theorem apply (h : s.SoundRows) {s' : Store} {givens : Givens} {change : Change} {n : Nat}
    (hinsert : ∀ user variant holding, change = .insert user variant holding → holding.Sound)
    (hwrite : ∀ row columns, change = .write row columns →
      ∀ r ∈ s.rows, r.id = row → (columns.write r.holding).Sound)
    (happly : s.apply givens change = .ok (s', n)) : s'.SoundRows := by
  rcases apply_cases happly with ⟨user, variant, holding, rfl, -, rfl⟩ | ⟨row, columns, rfl, rfl⟩ |
    ⟨_, rfl, rfl⟩ | ⟨-, rfl⟩
  · exact h.inserted (hinsert user variant holding rfl)
  · exact h.overwrite fun r hr hp => hwrite row columns rfl r hr (by simpa using hp)
  · exact h.overwrite fun _ _ _ => Holding.sound_tombstone
  · exact h

end Store.SoundRows

namespace Mutation.Decides

variable {s : Store} {m : Mutation} {d : Decision}

theorem sound_insert (h : m.Decides s d) {user variant : Uuid} {holding : Holding}
    (hd : d.change = .insert user variant holding) : holding.Sound := by
  cases h with
  | clears => cases hd
  | @steps v status after hvariant hrange htake =>
      have hafter := Step.sound_of_take hrange htake
      cases hrow : s.row? m.user v <;> cases after <;> rw [hrow] at hd <;> cases hd
      exact hafter _ rfl

/-- A write leaves sound contents whatever it meets, but for the quantity of an update. -/
theorem write_cases (h : m.Decides s d) (hs : s.SoundRows) {row : Nat} {columns : Columns}
    (hd : d.change = .write row columns) :
    (∀ holding, (columns.write holding).Sound) ∨
      ∃ user variant n, m = .update user variant n ∧ inRange n = true ∧
        (columns = ⟨none, none⟩ ∨ d = ⟨.write row ⟨none, some (some n)⟩, .updated⟩) := by
  cases h with
  | clears => cases hd
  | @steps v status after hvariant hrange htake =>
      have hafter := Step.sound_of_take hrange htake
      rw [Store.holding?] at htake
      cases hrow : s.row? m.user v with
      | none => cases after <;> rw [hrow] at hd <;> cases hd
      | some old =>
          cases after with
          | none => rw [hrow] at hd; cases hd
          | some new =>
              rw [hrow] at hd htake
              cases hd
              have hold : old.holding.Sound := hs old (Store.row?_mem hrow)
              have hnew : new.Sound := hafter new rfl
              by_cases hsame : old.holding.active = new.active
              · obtain ⟨n, hstep, rfl, hcolumns⟩ :=
                  Step.update_of_active_eq (step_ne_clear hvariant) htake hsame
                obtain ⟨user, variant, rfl⟩ : ∃ user variant, m = .update user variant n := by
                  cases m <;> simp_all [step]
                refine Or.inr ⟨user, variant, n, rfl, hrange n (Or.inr rfl), ?_⟩
                refine hcolumns.imp id fun hwrites => ?_
                rw [Change.between, hwrites]
              · refine Or.inl fun holding => ?_
                rw [hold.changes_of_active_ne hnew hsame]
                exact hnew

end Mutation.Decides

/-! ### Interleavings -/

namespace Traffic

variable {givens : Givens} {s : Store} {ms : List Mutation} {schedule : List Nat} {i : Nat}

/-- The client at a position is about to write the quantity of an update to a row that is
not in the cart. -/
def StaleUpdate (ms : List Mutation) (t : Traffic) (i : Nat) : Prop :=
  ∃ user variant n row, ms[i]? = some (.update user variant n) ∧
    t.clients[i]? = some (.deciding (.decided ⟨.write row ⟨none, some (some n)⟩, .updated⟩)) ∧
    ∃ r ∈ t.store.rows, r.id = row ∧ r.holding.active = false

/-- A move that is no stale update keeps the rows sound, if they have been sound so far. -/
theorem soundRows_move
    (h : ∀ past, past <+: schedule → ((start givens s ms).run past).store.SoundRows)
    (hfresh : ¬((start givens s ms).run schedule).StaleUpdate ms i) :
    (((start givens s ms).run schedule).move i).store.SoundRows := by
  have hnow : ((start givens s ms).run schedule).store.SoundRows := h schedule List.prefix_rfl
  rcases ((start givens s ms).run schedule).store_move_cases i with
    hsame | ⟨d, s', rows, hd, happly, hstore, -⟩
  · rw [hsame]
    exact hnow
  · -- The rows may have changed since the read, but they were sound then too.
    obtain ⟨past, rest, m, rfl, hm, hdecides, -⟩ := decided_earlier hd
    have hread := h past (List.prefix_append past _)
    rw [hstore]
    refine hnow.apply (fun _ _ _ => hdecides.sound_insert) ?_ happly
    intro row columns hchange r hr hid
    rcases hdecides.write_cases hread hchange with
      hwhole | ⟨user, variant, n, rfl, hrange, rfl | rfl⟩
    · exact hwhole r.holding
    · exact hnow r hr
    · cases hchange
      cases hactive : r.holding.active with
      | false =>
          exact absurd ⟨user, variant, n, row, hm, hd, r, hr, hid, hactive⟩ hfresh
      | true =>
          have hinCart : Columns.write ⟨none, some (some n)⟩ r.holding = .inCart n := by
            simp [Columns.write, Holding.inCart, hactive]
          rw [hinCart]
          exact Holding.sound_inCart hrange

/-- A stale update leaves a tombstone with a quantity. -/
theorem not_soundRows_of_staleUpdate {t : Traffic} (h : t.StaleUpdate ms i) :
    ¬(t.move i).store.SoundRows := by
  obtain ⟨user, variant, n, row, -, hd, r, hr, hid, hactive⟩ := h
  intro hsound
  have hwritten : (t.move i).store =
      t.store.overwrite (·.id == row) (Columns.write ⟨none, some (some n)⟩) := by
    rw [move_of_client hd]
    rfl
  rw [hwritten] at hsound
  have hmem := hsound _ (List.mem_map_of_mem hr)
  rw [if_pos (by simpa using hid)] at hmem
  rcases hmem with ⟨hin, -⟩ | ⟨-, hnone⟩
  · exact absurd (hactive.symm.trans hin) (by simp)
  · cases hnone

theorem soundRows_run (h : s.SoundRows)
    (hfresh : ∀ past i, past ++ [i] <+: schedule →
      ¬((start givens s ms).run past).StaleUpdate ms i) :
    ∀ past, past <+: schedule → ((start givens s ms).run past).store.SoundRows := by
  induction schedule using List.reverseRec with
  | nil =>
      intro past hpast
      rw [List.prefix_nil.mp hpast]
      exact h
  | append_singleton earlier i ih =>
      have hearlier := ih fun past i hpast => hfresh past i (hpast.trans (List.prefix_append _ _))
      intro past hpast
      rcases List.prefix_concat_iff.mp hpast with rfl | hpast
      · rw [run_concat]
        exact soundRows_move hearlier (hfresh earlier i List.prefix_rfl)
      · exact hearlier past hpast

/-- Without updates every state is sound, however the clients come between one another. -/
theorem soundRows_run_without_updates (h : s.SoundRows)
    (hms : ∀ user variant n, Mutation.update user variant n ∉ ms) (schedule : List Nat) :
    ((start givens s ms).run schedule).store.SoundRows := by
  refine soundRows_run h ?_ schedule List.prefix_rfl
  rintro past i - ⟨user, variant, n, -, hm, -⟩
  exact hms user variant n (List.mem_of_getElem? hm)

/-- **A tombstone keeps a quantity exactly where an update comes too late.**  All states of
an interleaving are sound when no update writes to a row that has left the cart, and one
of them is not when some update does. -/
theorem soundRows_iff_no_stale_update (h : s.SoundRows) (givens : Givens) (ms : List Mutation)
    (schedule : List Nat) :
    (∀ past, past <+: schedule → ((start givens s ms).run past).store.SoundRows) ↔
      ∀ past i, past ++ [i] <+: schedule → ¬((start givens s ms).run past).StaleUpdate ms i := by
  constructor
  · intro hsound past i hpast hstale
    have hafter := hsound (past ++ [i]) hpast
    rw [run_concat] at hafter
    exact not_soundRows_of_staleUpdate hstale hafter
  · exact soundRows_run h

end Traffic

namespace Corner

/-- The tea is updated and removed at once. -/
def crossing : List Mutation := [.update user tea 5, .remove user tea]

/-- The update reads everything, the removal goes through, and the update writes. -/
def removalBetween : List Nat := [0, 0, 0, 1, 1, 1, 0]

end Corner

theorem soundRows_iff_no_stale_update_corner :
    Corner.store.SoundRows ∧
      ((∀ past, past <+: Corner.removalBetween →
          ((Traffic.start Corner.givens Corner.store Corner.crossing).run past).store.SoundRows) ↔
        ∀ past i, past ++ [i] <+: Corner.removalBetween →
          ¬((Traffic.start Corner.givens Corner.store Corner.crossing).run past).StaleUpdate
            Corner.crossing i) :=
  ⟨Corner.wellFormed_store.holdings,
    Traffic.soundRows_iff_no_stale_update Corner.wellFormed_store.holdings Corner.givens
      Corner.crossing Corner.removalBetween⟩

/-- **Not every interleaving keeps tombstones empty.**  In the corner shop an update that
has read the tea in the cart writes after the tea is removed. -/
theorem update_fills_tombstone :
    ¬∀ (givens : Givens) (s : Store) (ms : List Mutation) (schedule : List Nat), s.Keys →
      s.SoundRows → ((Traffic.start givens s ms).run schedule).store.SoundRows := by
  intro hall
  have hsound := hall Corner.givens Corner.store Corner.crossing Corner.removalBetween
    Corner.keys_store Corner.wellFormed_store.holdings
  have hmem : (⟨0, 1, Corner.user, Corner.tea, ⟨false, some 5⟩⟩ : CartRow) ∈
      ((Traffic.start Corner.givens Corner.store Corner.crossing).run
        Corner.removalBetween).store.rows := by
    decide +kernel
  rcases hsound _ hmem with ⟨hactive, -⟩ | ⟨-, hnone⟩
  · cases hactive
  · cases hnone

end Storefront
