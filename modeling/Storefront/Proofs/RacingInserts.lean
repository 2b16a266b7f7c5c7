/-
Racing inserts neither duplicate a row nor overwrite one.

Any number of adds can find that a customer has no row for a variant, and each of them then
sets out to insert it.  The unique key decides between them at the write: the first one to
move inserts the row, and for every later one the row is there, in whatever state by then,
so it is refused and writes nothing.

Two facts carry this.  A row is never taken away and never changes its keys, so once the
row is there it stays (`prefix_run`).  And a row comes into being only by the insert of an
add that found none (`inserted_between`), so where some add found none and the row is there
in the end, there is an add between that made it.
-/
import Mathlib.Data.List.Infix
import Storefront.Proofs.Interleaving

namespace Storefront

/-! ### Rows stay -/

/-- The columns of a row that are never written again. -/
def CartRow.identity (r : CartRow) : Nat × Int × Uuid × Uuid :=
  (r.id, r.createdAt, r.user, r.variant)

namespace Store

variable {s s' : Store} {givens : Givens} {change : Change} {n : Nat} {user variant : Uuid}

/-- A change keeps every row in its place, and puts at most one more behind them. -/
theorem prefix_apply (h : s.apply givens change = .ok (s', n)) :
    s.rows.map (·.identity) <+: s'.rows.map (·.identity) := by
  rcases apply_cases h with ⟨_, _, holding, -, -, rfl⟩ | ⟨_, _, -, rfl⟩ | ⟨_, -, rfl⟩ | ⟨-, rfl⟩
  · rw [inserted, List.map_append]
    exact List.prefix_append _ _
  · rw [map_rows_overwrite _ _ _ _ fun _ _ => rfl]
  · rw [map_rows_overwrite _ _ _ _ fun _ _ => rfl]
  · exact List.prefix_rfl

/-- A change keeps the pairs of the rows unique. -/
theorem nodup_pairs_apply (hpairs : (s.rows.map (·.pair)).Nodup)
    (h : s.apply givens change = .ok (s', n)) : (s'.rows.map (·.pair)).Nodup := by
  rcases apply_cases h with ⟨_, _, holding, -, hnone, rfl⟩ | ⟨_, _, -, rfl⟩ | ⟨_, -, rfl⟩ |
    ⟨-, rfl⟩
  · exact nodup_pairs_inserted hpairs hnone holding
  · rw [map_rows_overwrite _ _ _ _ fun _ _ => rfl]
    exact hpairs
  · rw [map_rows_overwrite _ _ _ _ fun _ _ => rfl]
    exact hpairs
  · exact hpairs

theorem isSome_row?_iff :
    (s.row? user variant).isSome ↔ (user, variant) ∈ s.rows.map (·.pair) := by
  rw [row?, List.find?_isSome, List.mem_map]
  simp only [CartRow.isFor_iff]

theorem isSome_row?_of_prefix
    (h : s.rows.map (·.identity) <+: s'.rows.map (·.identity))
    (hsome : (s.row? user variant).isSome) : (s'.row? user variant).isSome := by
  have hpairs : s.rows.map (·.pair) <+: s'.rows.map (·.pair) := by
    have hmap := h.map fun k => (k.2.2.1, k.2.2.2)
    rw [List.map_map, List.map_map] at hmap
    exact hmap
  rw [isSome_row?_iff] at hsome ⊢
  exact hpairs.subset hsome

/-- Only an insert brings a row into being. -/
theorem insert_of_apply (h : s.apply givens change = .ok (s', n))
    (hnone : s.row? user variant = none) (hsome : (s'.row? user variant).isSome) :
    ∃ holding, change = .insert user variant holding ∧ n = 1 := by
  rcases apply_cases h with ⟨user', variant', holding, rfl, hnew, rfl⟩ | ⟨_, _, -, rfl⟩ |
    ⟨_, -, rfl⟩ | ⟨-, rfl⟩
  · rw [row?_inserted hnew] at hsome
    by_cases hpair : (user, variant) = (user', variant')
    · cases hpair
      simp only [apply, hnone, Option.isSome_none, Bool.false_eq_true, if_false,
        Except.ok.injEq, Prod.mk.injEq] at h
      exact ⟨holding, rfl, h.2.symm⟩
    · rw [if_neg hpair, hnone] at hsome
      cases hsome
  · rw [row?_overwrite, hnone] at hsome
    cases hsome
  · rw [row?_overwrite, hnone] at hsome
    cases hsome
  · rw [hnone] at hsome
    cases hsome

end Store

/-! ### Inserting -/

/-- A client that is about to insert a row. -/
def Client.inserting (user variant : Uuid) (quantity : Int) : Client :=
  deciding (.decided ⟨.insert user variant (.inCart quantity), .added⟩)

/-- A client that has inserted its row. -/
def Client.won : Client := ended (.ok ⟨.added, 1⟩)

/-- A client that has met a row in the place of its own. -/
def Client.lost : Client := ended (.error (.refused (.error RowState.alreadyInCart)))

theorem Client.move_inserting (user variant : Uuid) (quantity : Int) (givens : Givens)
    (s : Store) :
    (inserting user variant quantity).move givens s =
      if (s.row? user variant).isSome then (lost, s)
      else (won, s.inserted givens user variant (.inCart quantity)) := by
  unfold inserting
  by_cases h : (s.row? user variant).isSome
  · have happly : s.apply givens (.insert user variant (.inCart quantity)) =
        .error RowState.alreadyInCart := if_pos h
    rw [if_pos h, move_of_apply_error happly]
    rfl
  · have happly : s.apply givens (.insert user variant (.inCart quantity)) =
        .ok (s.inserted givens user variant (.inCart quantity), 1) := if_neg h
    rw [if_neg h, move_of_apply_ok happly]
    rfl

/-- Only an add that finds no row decides on an insert. -/
theorem Mutation.Decides.of_insert {s : Store} {m : Mutation} {d : Decision} (h : m.Decides s d)
    {user variant : Uuid} {holding : Holding} (hd : d.change = .insert user variant holding) :
    (∃ product quantity, m = .add user product variant quantity) ∧
      s.row? user variant = none ∧ d.status = .added := by
  cases h with
  | clears => cases hd
  | @steps v status after hvariant _ htake =>
      unfold Store.holding? at htake
      cases hrow : s.row? m.user v with
      | some r =>
          rw [hrow] at hd
          cases after <;> cases hd
      | none =>
          rw [hrow] at hd htake
          cases after with
          | none => cases hd
          | some new =>
              cases hd
              obtain ⟨hlegal, happly⟩ := Step.take_eq_ok.mp htake
              cases m with
              | add user product variant quantity =>
                  cases hvariant
                  cases hlegal
                  exact ⟨⟨product, quantity, rfl⟩, hrow, rfl⟩
              | update user variant quantity => cases hlegal
              | remove user variant => cases hlegal
              | clear user => cases hvariant

namespace Traffic

variable {givens : Givens} {s : Store} {ms : List Mutation} {t : Traffic} {schedule : List Nat}
  {i j : Nat} {user variant : Uuid}

theorem prefix_run (t : Traffic) (schedule : List Nat) :
    t.store.rows.map (·.identity) <+: (t.run schedule).store.rows.map (·.identity) := by
  induction schedule generalizing t with
  | nil => exact List.prefix_rfl
  | cons i rest ih =>
      refine List.IsPrefix.trans ?_ (ih (t.move i))
      rcases t.store_move_cases i with hsame | ⟨d, s', rows, -, happly, hstore, -⟩
      · exact hsame ▸ List.prefix_rfl
      · rw [hstore]
        exact Store.prefix_apply happly

theorem isSome_row?_run (h : (t.store.row? user variant).isSome) (schedule : List Nat) :
    ((t.run schedule).store.row? user variant).isSome :=
  Store.isSome_row?_of_prefix (t.prefix_run schedule) h

theorem nodup_pairs_run (h : (t.store.rows.map (·.pair)).Nodup) (schedule : List Nat) :
    ((t.run schedule).store.rows.map (·.pair)).Nodup := by
  induction schedule generalizing t with
  | nil => exact h
  | cons i rest ih =>
      refine ih ?_
      rcases t.store_move_cases i with hsame | ⟨d, s', rows, -, happly, hstore, -⟩
      · rw [hsame]
        exact h
      · rw [hstore]
        exact Store.nodup_pairs_apply h happly

/-- A row that comes into being was inserted at some move, by a client that then ends. -/
theorem inserted_between (hnone : t.store.row? user variant = none)
    (hsome : ((t.run schedule).store.row? user variant).isSome) :
    ∃ past i rest d holding, schedule = past ++ i :: rest ∧
      (t.run past).clients[i]? = some (.deciding (.decided d)) ∧
      d.change = .insert user variant holding ∧
      (t.run past).store.row? user variant = none ∧
      (((t.run past).move i).store.row? user variant).isSome ∧
      (t.run schedule).clients[i]? = some (.ended (.ok ⟨d.status, 1⟩)) := by
  induction schedule generalizing t with
  | nil =>
      rw [show t.run [] = t from rfl, hnone] at hsome
      cases hsome
  | cons i rest ih =>
      cases hnext : (t.move i).store.row? user variant with
      | none =>
          obtain ⟨past, j, rest', d, holding, rfl, hfacts⟩ := ih hnext hsome
          exact ⟨i :: past, j, rest', d, holding, rfl, hfacts⟩
      | some r =>
          rcases t.store_move_cases i with hsame | ⟨d, s', rows, hd, happly, hstore, hended⟩
          · rw [hsame, hnone] at hnext
            cases hnext
          · have hcreated : (s'.row? user variant).isSome := by
              rw [← hstore, hnext]
              rfl
            obtain ⟨holding, hchange, rfl⟩ := Store.insert_of_apply happly hnone hcreated
            refine ⟨[], i, rest, d, holding, rfl, hd, hchange, hnone, ?_, ended_run hended rest⟩
            show ((t.move i).store.row? user variant).isSome
            rw [hnext]
            rfl

/-- In the course of a schedule the add at a position has looked for its row, and there was
none. -/
def FoundNone (givens : Givens) (s : Store) (ms : List Mutation) (schedule : List Nat) (i : Nat)
    (user variant : Uuid) : Prop :=
  (∃ product quantity, ms[i]? = some (.add user product variant quantity)) ∧
    ∃ past rest, schedule = past ++ i :: rest ∧
      ((start givens s ms).run past).Looks i user variant ∧
      ((start givens s ms).run past).store.row? user variant = none

/-- An add that found no row waits to insert it, and ends with what its insert comes to on
the tables as they are when it moves. -/
theorem FoundNone.fate (h : FoundNone givens s ms schedule i user variant) :
    ∃ quantity,
      ((start givens s ms).run schedule).clients[i]? = some (.inserting user variant quantity) ∨
      ∃ past rest, schedule = past ++ i :: rest ∧
        ((start givens s ms).run past).clients[i]? = some (.inserting user variant quantity) ∧
        ((start givens s ms).run schedule).clients[i]? =
          some ((Client.inserting user variant quantity).move givens
            ((start givens s ms).run past).store).1 := by
  obtain ⟨⟨product, quantity, hm⟩, past, rest, rfl, ⟨next, hask⟩, hnone⟩ := h
  refine ⟨quantity, ?_⟩
  obtain ⟨m, hm', hleads⟩ := (carries_start givens s ms).run past i _ hask
  obtain rfl : .add user product variant quantity = m := Option.some.inj (hm.symm.trans hm')
  obtain ⟨-, -, rfl⟩ := Mutation.of_leads_row hleads
  have hwaits : ((start givens s ms).run (past ++ [i])).clients[i]? =
      some (.inserting user variant quantity) := by
    rw [run_concat, client_move hask]
    show some (Client.deciding (judge user variant (.add quantity)
      (((start givens s ms).run past).store.row? user variant))) = _
    rw [hnone]
    rfl
  have hsplit : past ++ i :: rest = (past ++ [i]) ++ rest := by simp
  rw [hsplit, run_append]
  rcases decided_run hwaits rest with hwait | ⟨past', rest', rfl, hthere, hend⟩
  · exact Or.inl hwait
  · refine Or.inr ⟨past ++ [i] ++ past', rest', by simp, ?_, ?_⟩
    · rw [run_append]; exact hthere
    · rw [givens_run] at hend
      rw [run_append _ (past ++ [i]) past']
      exact hend

theorem isSome_row?_move_inserting {quantity : Int}
    (h : t.clients[i]? = some (.inserting user variant quantity)) :
    ((t.move i).store.row? user variant).isSome := by
  rw [move_of_client h, Client.move_inserting]
  by_cases hthere : (t.store.row? user variant).isSome
  · rw [if_pos hthere]
    exact hthere
  · have hnone : t.store.row? user variant = none := by simpa using hthere
    rw [if_neg hthere, Store.row?_inserted hnone, if_pos rfl]
    rfl

theorem FoundNone.isSome_row? (h : FoundNone givens s ms schedule i user variant)
    {result : Except Failure Written}
    (hended : ((start givens s ms).run schedule).clients[i]? = some (.ended result)) :
    (((start givens s ms).run schedule).store.row? user variant).isSome := by
  obtain ⟨quantity, hwaits | ⟨past, rest, rfl, hthere, -⟩⟩ := h.fate
  · rw [hwaits] at hended
    cases hended
  · rw [run_append]
    exact isSome_row?_run (isSome_row?_move_inserting hthere) rest

/-- An add that found no row, where there is one in the end, has met the add that made it. -/
theorem FoundNone.exists_winner (h : FoundNone givens s ms schedule i user variant)
    (hthere : (((start givens s ms).run schedule).store.row? user variant).isSome) :
    ∃ past w rest, schedule = past ++ w :: rest ∧ FoundNone givens s ms schedule w user variant ∧
      ((start givens s ms).run past).store.row? user variant = none ∧
      ((((start givens s ms).run past).move w).store.row? user variant).isSome ∧
      ((start givens s ms).run schedule).clients[w]? = some .won := by
  obtain ⟨-, past, rest, rfl, -, hnone⟩ := h
  rw [run_append] at hthere
  obtain ⟨between, w, rest', d, holding, hsplit, hd, hchange, hnone', hmade, hended⟩ :=
    inserted_between hnone hthere
  rw [← run_append] at hd hnone' hmade hended
  -- What inserted the row had found none itself, at the read that its decision was made from.
  obtain ⟨past', rest'', m, hpast, hm, hdecides, hlooks⟩ := decided_earlier hd
  obtain ⟨⟨product, quantity, rfl⟩, hnone'', hstatus⟩ := hdecides.of_insert hchange
  have hwhole : past ++ i :: rest = (past ++ between) ++ w :: rest' := by
    rw [hsplit, List.append_assoc]
  refine ⟨past ++ between, w, rest', hwhole, ⟨⟨product, quantity, hm⟩, past',
    rest'' ++ w :: rest', ?_, hlooks variant rfl, hnone''⟩, hnone', hmade, ?_⟩
  · rw [hwhole, hpast, List.append_assoc, List.cons_append]
  · rw [hended, hstatus]
    rfl

/-- A move before which the row is missing does not come after one that has made it. -/
theorem length_le_of_made {past past' rest rest' : List Nat}
    (hsplit : past ++ i :: rest = past' ++ j :: rest')
    (hmade : (((t.run past).move i).store.row? user variant).isSome)
    (hnone' : (t.run past').store.row? user variant = none) : past'.length ≤ past.length := by
  rcases List.append_eq_append_iff.mp hsplit with ⟨between, rfl, hrest⟩ | ⟨between, rfl, -⟩
  · cases between with
    | nil => simp
    | cons k between =>
        obtain ⟨rfl, -⟩ := List.cons.inj hrest
        have hthere := isSome_row?_run hmade between
        rw [← run_concat, ← run_append, List.append_assoc, List.singleton_append, hnone'] at hthere
        cases hthere
  · simp

/-- The row is made at one move only. -/
theorem eq_of_made {past past' rest rest' : List Nat}
    (hsplit : past ++ i :: rest = past' ++ j :: rest')
    (hnone : (t.run past).store.row? user variant = none)
    (hmade : (((t.run past).move i).store.row? user variant).isSome)
    (hnone' : (t.run past').store.row? user variant = none)
    (hmade' : (((t.run past').move j).store.row? user variant).isSome) : i = j := by
  have hle := length_le_of_made hsplit hmade hnone'
  have hge := length_le_of_made hsplit.symm hmade' hnone
  obtain ⟨-, htail⟩ := List.append_inj hsplit (Nat.le_antisymm hge hle)
  exact (List.cons.inj htail).1

/-- What an interleaving leaves of racing inserts. -/
structure InsertsSafe (givens : Givens) (s : Store) (ms : List Mutation) (schedule : List Nat) :
    Prop where
  /-- A customer and a variant have at most one row. -/
  unique : (((start givens s ms).run schedule).store.rows.map (·.pair)).Nodup
  /-- Every row stays, with its id, its customer and its variant. -/
  kept : ∀ later, ((start givens s ms).run schedule).store.rows.map (·.identity) <+:
    ((start givens s ms).run (schedule ++ later)).store.rows.map (·.identity)
  /-- An add that found no row is refused when there is one by now, and writes nothing. -/
  refused : ∀ i user variant, FoundNone givens s ms schedule i user variant →
    (∀ result, ((start givens s ms).run schedule).clients[i]? ≠ some (.ended result)) →
    (((start givens s ms).run schedule).store.row? user variant).isSome →
    ((start givens s ms).run schedule).move i =
      { (start givens s ms).run schedule with
        clients := ((start givens s ms).run schedule).clients.set i .lost }
  /-- Of the adds that found no row and have come to their write, one has made the row, and
  the others are refused. -/
  oneWinner : ∀ user variant,
    (∃ i result, FoundNone givens s ms schedule i user variant ∧
      ((start givens s ms).run schedule).clients[i]? = some (.ended result)) →
    ∃ i, FoundNone givens s ms schedule i user variant ∧
      ((start givens s ms).run schedule).clients[i]? = some .won ∧
      ∀ j result, FoundNone givens s ms schedule j user variant →
        ((start givens s ms).run schedule).clients[j]? = some (.ended result) → j ≠ i →
        ((start givens s ms).run schedule).clients[j]? = some .lost

/-- **Racing inserts neither duplicate a row nor overwrite one**, whatever else goes on. -/
theorem racing_inserts (h : (s.rows.map (·.pair)).Nodup) (givens : Givens) (ms : List Mutation)
    (schedule : List Nat) : InsertsSafe givens s ms schedule where
  unique := nodup_pairs_run (t := start givens s ms) h schedule
  kept := by
    intro later
    rw [run_append]
    exact prefix_run _ later
  refused := by
    intro i user variant hfound honway hthere
    obtain ⟨quantity, hwaits | ⟨past, rest, -, -, hended⟩⟩ := hfound.fate
    · rw [move_of_client hwaits, Client.move_inserting, if_pos hthere]
    · rw [Client.move_inserting] at hended
      split at hended
      · exact absurd hended (honway _)
      · exact absurd hended (honway _)
  oneWinner := by
    rintro user variant ⟨i, result, hfound, hended⟩
    obtain ⟨past, w, rest, hsplit, hwinner, hnone, hmade, hwon⟩ :=
      hfound.exists_winner (hfound.isSome_row? hended)
    refine ⟨w, hwinner, hwon, ?_⟩
    intro j result' hfound' hended' hne
    obtain ⟨quantity, hwaits | ⟨past', rest', hsplit', hthere, hfate⟩⟩ := hfound'.fate
    · rw [hwaits] at hended'
      cases hended'
    · by_cases hrow : (((start givens s ms).run past').store.row? user variant).isSome
      · rw [hfate, Client.move_inserting, if_pos hrow]
      · -- Another add that met no row at its write would have made the row a second time.
        have hnone' : ((start givens s ms).run past').store.row? user variant = none := by
          simpa using hrow
        have hsame : w = j := eq_of_made (hsplit.symm.trans hsplit') hnone hmade hnone'
          (isSome_row?_move_inserting hthere)
        exact absurd hsame.symm hne

end Traffic

namespace Corner

/-- The shop with empty carts. -/
def emptyCarts : Store := { store with rows := [] }

/-- Two adds of the same variant. -/
def rivals : List Mutation := [.add user (.ofNat 5) tea 1, .add user (.ofNat 5) tea 2]

/-- Both adds look for the row before one of them writes. -/
def race : List Nat := [0, 0, 0, 1, 1, 1, 1, 0]

end Corner

/-- Two adds race in the corner shop, and both have found no row. -/
theorem racing_inserts_corner :
    (Corner.emptyCarts.rows.map (·.pair)).Nodup ∧
      (Traffic.FoundNone Corner.givens Corner.emptyCarts Corner.rivals Corner.race 0 Corner.user
          Corner.tea ∧
        Traffic.FoundNone Corner.givens Corner.emptyCarts Corner.rivals Corner.race 1 Corner.user
          Corner.tea) ∧
      Traffic.InsertsSafe Corner.givens Corner.emptyCarts Corner.rivals Corner.race := by
  have hunique : (Corner.emptyCarts.rows.map (·.pair)).Nodup := by decide
  refine ⟨hunique, ⟨?_, ?_⟩, Traffic.racing_inserts hunique Corner.givens Corner.rivals
    Corner.race⟩
  · exact ⟨⟨_, _, rfl⟩, [0, 0], [1, 1, 1, 1, 0], rfl, ⟨_, rfl⟩, rfl⟩
  · exact ⟨⟨_, _, rfl⟩, [0, 0, 0, 1, 1], [1, 0], rfl, ⟨_, rfl⟩, rfl⟩

end Storefront
