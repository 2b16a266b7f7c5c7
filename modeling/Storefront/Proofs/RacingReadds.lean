/-
Racing adds bring a row back, the last of them with its quantity.

An add that finds a tombstone brings the row back by a write to it, and no key stands in the
way of such a write.  So where several adds look for the row before any of them has written,
each of them brings the row back and says so, and the quantity of the last one stays; an add
that looks later is refused.  The corner shop has an interleaving with two of the first kind.

The invariant is `Standing`: the row is a tombstone until an add has brought it back, and from
then on it is in the cart with the quantity of the last add to write.  A move keeps it
(`standing_move`), since what is about to be written was decided when the invariant held:
only a tombstone lets an add decide, and it then replaces both columns of the row.
-/
import Storefront.Proofs.RacingInserts
import Storefront.Proofs.RowMachine

namespace Storefront

/-! ### Decisions that are out of date -/

namespace Store

variable {s s' : Store} {user variant : Uuid} {r : CartRow} {n : Nat}

/-- A row is still there, under its id, where every row has stayed. -/
theorem Keys.exists_row_of_kept (h : s'.Keys)
    (hkept : s.rows.map (·.identity) <+: s'.rows.map (·.identity))
    (hr : s.row? user variant = some r) :
    ∃ r', s'.row? user variant = some r' ∧ r'.id = r.id := by
  obtain ⟨r', hmem, hidentity⟩ :=
    List.mem_map.mp (hkept.subset (List.mem_map_of_mem (row?_mem hr)))
  have hpair : r'.pair = r.pair :=
    congrArg (fun k : Nat × Int × Uuid × Uuid => (k.2.2.1, k.2.2.2)) hidentity
  exact ⟨r', h.row?_eq_some.mpr ⟨hmem, hpair.trans (row?_pair hr)⟩, congrArg Prod.fst hidentity⟩

end Store

/-- A mutation leaves the rows alone that it is not about, however late it writes. -/
theorem Mutation.Decides.row?_apply {s₀ s s' : Store} {givens : Givens} {m : Mutation}
    {d : Decision} {n : Nat} {user variant : Uuid} (h : m.Decides s₀ d) (hkeys : s.Keys)
    (hkept : s₀.rows.map (·.identity) <+: s.rows.map (·.identity))
    (hm : m.concerns user variant = false) (happly : s.apply givens d.change = .ok (s', n)) :
    s'.row? user variant = s.row? user variant := by
  cases h with
  | @clears user' hclear =>
      have huser : user' ≠ user := by simpa [concerns, hclear, Mutation.user, variant?] using hm
      rw [Store.row?_apply_clear happly, if_neg huser.symm]
  | @steps variant' status after hvariant _ _ =>
      have hne : (user, variant) ≠ (m.user, variant') := by
        rintro heq
        obtain ⟨rfl, rfl⟩ := Prod.mk.inj heq
        simp [concerns, hvariant] at hm
      cases hrow : s₀.row? m.user variant' with
      | none =>
          rw [hrow] at happly
          exact hkeys.row?_apply_between (Or.inl rfl) happly hne
      | some r₀ =>
          -- The write goes by the id that the row had when it was read, and still has.
          obtain ⟨r, hr, hid⟩ := hkeys.exists_row_of_kept hkept hrow
          rw [hrow] at happly
          cases after with
          | none => rw [← (Prod.mk.inj (Except.ok.inj happly)).1]
          | some new =>
              have hwrite : s' = s.overwrite (·.id == r.id) (r₀.holding.changes new).write := by
                rw [hid]
                exact (Prod.mk.inj (Except.ok.inj happly)).1.symm
              rw [hwrite, hkeys.row?_overwrite_id hr, if_neg hne]

/-! ### Bringing a row back -/

namespace Traffic

variable {givens : Givens} {s : Store} {ms : List Mutation} {t : Traffic} {schedule : List Nat}
  {i j : Nat} {user variant : Uuid} {quantity : Int}

theorem keys_run (h : t.store.Keys) (schedule : List Nat) : (t.run schedule).store.Keys := by
  induction schedule generalizing t with
  | nil => exact h
  | cons i rest ih =>
      refine ih ?_
      rcases t.store_move_cases i with hsame | ⟨d, s', rows, -, happly, hstore, -⟩
      · rw [hsame]
        exact h
      · rw [hstore]
        exact h.apply happly

/-- The mutation at a position asks for so many of a variant. -/
def AddsAt (ms : List Mutation) (user variant : Uuid) (i : Nat) (quantity : Int) : Prop :=
  ∃ product, ms[i]? = some (.add user product variant quantity)

/-- The add at a position has brought the row back. -/
def Readded (ms : List Mutation) (user variant : Uuid) (t : Traffic) (i : Nat) : Prop :=
  (∃ quantity, AddsAt ms user variant i quantity) ∧
    ∃ done, t.Done i done ∧ done.status = .reactivated

/-- Of all the adds that have brought the row back, the one at a position was the last to
write. -/
def LastReadded (givens : Givens) (s : Store) (ms : List Mutation) (user variant : Uuid)
    (schedule : List Nat) (w : Nat) : Prop :=
  ∃ past rest, schedule = past ++ w :: rest ∧
    Readded ms user variant ((start givens s ms).run schedule) w ∧
    ¬Readded ms user variant ((start givens s ms).run past) w ∧
    ∀ i, Readded ms user variant ((start givens s ms).run schedule) i → i ≠ w →
      Readded ms user variant ((start givens s ms).run past) i

/-- The row is a tombstone that nobody has brought back, or it is in the cart with the
quantity of the last add to write. -/
def Standing (givens : Givens) (s : Store) (ms : List Mutation) (user variant : Uuid)
    (schedule : List Nat) : Prop :=
  ((∀ i, ¬Readded ms user variant ((start givens s ms).run schedule) i) ∧
    ((start givens s ms).run schedule).store.holding? user variant = some .tombstone) ∨
  ∃ w quantity, LastReadded givens s ms user variant schedule w ∧
    AddsAt ms user variant w quantity ∧
    ((start givens s ms).run schedule).store.holding? user variant = some (.inCart quantity)

/-- A client that is still on its way has not brought the row back. -/
theorem not_readded_of_deciding {p : Plan Decision}
    (h : t.clients[i]? = some (.deciding p)) : ¬Readded ms user variant t i := by
  rintro ⟨-, done, hdone, -⟩
  have hclient := h.symm.trans hdone
  cases hclient

/-- At a move of one client the others have brought the row back if they had before. -/
theorem readded_move_of_ne (h : i ≠ j) :
    Readded ms user variant (t.move i) j ↔ Readded ms user variant t j := by
  simp only [Readded, Done, client_move_of_ne h]

/-- The standing of the row does not change with a move that neither brings it back nor
writes to it. -/
theorem Standing.of_unchanged (h : Standing givens s ms user variant schedule)
    (hreadded : ∀ j, Readded ms user variant ((start givens s ms).run (schedule ++ [i])) j ↔
      Readded ms user variant ((start givens s ms).run schedule) j)
    (hholding : ((start givens s ms).run (schedule ++ [i])).store.holding? user variant =
      ((start givens s ms).run schedule).store.holding? user variant) :
    Standing givens s ms user variant (schedule ++ [i]) := by
  rcases h with ⟨hnobody, hrow⟩ | ⟨w, quantity, ⟨past, rest, hsplit, hw, hnot, hall⟩, hadds, hrow⟩
  · exact Or.inl ⟨fun j hj => hnobody j ((hreadded j).mp hj), hholding.trans hrow⟩
  · refine Or.inr ⟨w, quantity,
      ⟨past, rest ++ [i], by simp [hsplit], (hreadded w).mpr hw, hnot, ?_⟩,
      hadds, hholding.trans hrow⟩
    intro j hj hne
    exact hall j ((hreadded j).mp hj) hne

/-- **What an add makes of the row.**  It decides to bring the row back as long as nobody
has, and is refused afterwards. -/
theorem Standing.judge_add (h : Standing givens s ms user variant schedule) (quantity : Int) :
    ∃ r, ((start givens s ms).run schedule).store.row? user variant = some r ∧
      ((∀ i, ¬Readded ms user variant ((start givens s ms).run schedule) i) ∧
          judge user variant (.add quantity) (some r) =
            .decided ⟨.write r.id ⟨some true, some (some quantity)⟩, .reactivated⟩ ∨
        (∃ i, Readded ms user variant ((start givens s ms).run schedule) i) ∧
          judge user variant (.add quantity) (some r) =
            .refused (.error RowState.alreadyInCart)) := by
  rcases h with ⟨hnobody, hrow⟩ | ⟨w, n, ⟨-, -, -, hw, -⟩, -, hrow⟩
  · obtain ⟨⟨id, time, owner, item, holding⟩, hr, hholding⟩ := Option.map_eq_some_iff.mp hrow
    obtain rfl : holding = .tombstone := hholding
    exact ⟨_, hr, Or.inl ⟨hnobody, rfl⟩⟩
  · obtain ⟨⟨id, time, owner, item, holding⟩, hr, hholding⟩ := Option.map_eq_some_iff.mp hrow
    obtain rfl : holding = .inCart n := hholding
    exact ⟨_, hr, Or.inr ⟨⟨w, hw⟩, rfl⟩⟩

theorem Readded.run (h : Readded ms user variant t i) (schedule : List Nat) :
    Readded ms user variant (t.run schedule) i := by
  obtain ⟨hadds, done, hdone, hstatus⟩ := h
  exact ⟨hadds, done, ended_run hdone schedule, hstatus⟩

/-- No mutation but adds is about the row. -/
def OnlyAdds (ms : List Mutation) (user variant : Uuid) : Prop :=
  ∀ m ∈ ms, m.concerns user variant = true →
    ∃ product quantity, m = .add user product variant quantity

/-- An add that is about to write has looked while nobody had brought the row back. -/
theorem exists_look_of_decided {d : Decision} {product : Uuid}
    (hm : ms[i]? = some (.add user product variant quantity))
    (hd : ((start givens s ms).run schedule).clients[i]? = some (.deciding (.decided d)))
    (hall : ∀ past, past <+: schedule → Standing givens s ms user variant past) :
    ∃ past r, past <+: schedule ∧ ((start givens s ms).run past).store.row? user variant = some r ∧
      d = ⟨.write r.id ⟨some true, some (some quantity)⟩, .reactivated⟩ := by
  obtain ⟨m, hm', hwhere⟩ := checking_or_judged hd
  cases hm.symm.trans hm'
  rcases hwhere with ⟨_, -, heq, -⟩ | ⟨-, past, rest, variant', rfl, hvariant, -, hjudge⟩
  · obtain ⟨_, -, hdecision⟩ := Plan.decided_of_bind_eq heq.symm
    rw [Mutation.decision_of_variant rfl] at hdecision
    cases hdecision
  · cases hvariant
    have hpast : past <+: past ++ i :: rest := List.prefix_append _ _
    obtain ⟨r, hr, ⟨-, hlook⟩ | ⟨-, hlook⟩⟩ := (hall past hpast).judge_add quantity
    · exact ⟨past, r, hpast, hr, Plan.decided.inj (hjudge.trans (hr ▸ hlook))⟩
    · cases hjudge.trans (hr ▸ hlook)

/-- Every row that was there is there. -/
theorem kept_run {past : List Nat} (hpast : past <+: schedule) :
    ((start givens s ms).run past).store.rows.map (·.identity) <+:
      ((start givens s ms).run schedule).store.rows.map (·.identity) := by
  obtain ⟨rest, rfl⟩ := hpast
  rw [run_append]
  exact prefix_run _ _

/-- An add that has just brought the row back is the last one that did. -/
theorem lastReadded_concat {product : Uuid} {p : Plan Decision} {done : Written}
    (hm : ms[i]? = some (.add user product variant quantity))
    (hp : ((start givens s ms).run schedule).clients[i]? = some (.deciding p))
    (hend : ((start givens s ms).run (schedule ++ [i])).Done i done)
    (hstatus : done.status = .reactivated) :
    LastReadded givens s ms user variant (schedule ++ [i]) i := by
  refine ⟨schedule, [], rfl, ⟨⟨quantity, product, hm⟩, done, hend, hstatus⟩,
    not_readded_of_deciding hp, ?_⟩
  intro j hj hne
  rw [run_concat] at hj
  exact (readded_move_of_ne hne.symm).mp hj

section Writes

variable {d : Decision} {s' : Store} {rows : Nat} (h : s.Keys)
  (hd : ((start givens s ms).run schedule).clients[i]? = some (.deciding (.decided d)))
  (happly : ((start givens s ms).run schedule).store.apply givens d.change = .ok (s', rows))
  (hstore : ((start givens s ms).run (schedule ++ [i])).store = s')

include h hd happly hstore

/-- The write of an add to the row. -/
theorem standing_write_add {product : Uuid}
    (hm : ms[i]? = some (.add user product variant quantity))
    (hend : ((start givens s ms).run (schedule ++ [i])).Done i ⟨d.status, rows⟩)
    (hall : ∀ past, past <+: schedule → Standing givens s ms user variant past) :
    Standing givens s ms user variant (schedule ++ [i]) := by
  have hkeys : ((start givens s ms).run schedule).store.Keys :=
    keys_run (t := start givens s ms) h schedule
  obtain ⟨past, r₀, hpast, hr₀, rfl⟩ := exists_look_of_decided hm hd hall
  obtain ⟨r, hr, hid⟩ := hkeys.exists_row_of_kept (kept_run hpast) hr₀
  have hwrite : s' = ((start givens s ms).run schedule).store.overwrite (·.id == r.id)
      (Columns.write ⟨some true, some (some quantity)⟩) := by
    rw [hid]
    exact (Prod.mk.inj (Except.ok.inj happly)).1.symm
  refine Or.inr ⟨i, quantity, lastReadded_concat hm hd hend rfl, ⟨product, hm⟩, ?_⟩
  rw [hstore, hwrite, Store.holding?, hkeys.row?_overwrite_id hr, if_pos rfl]
  rfl

/-- The write of a mutation that is about other rows. -/
theorem standing_write_other {m : Mutation} (hm : ms[i]? = some m)
    (hother : m.concerns user variant = false) (hnow : Standing givens s ms user variant schedule) :
    Standing givens s ms user variant (schedule ++ [i]) := by
  have hkeys : ((start givens s ms).run schedule).store.Keys :=
    keys_run (t := start givens s ms) h schedule
  obtain ⟨past, rest, m', hsplit, hm', hdecides, -⟩ := decided_earlier hd
  cases hm.symm.trans hm'
  have hpast : past <+: schedule := hsplit ▸ List.prefix_append _ _
  have hrow := hdecides.row?_apply hkeys (kept_run hpast) hother happly
  refine hnow.of_unchanged (fun j => ?_) (by rw [hstore, Store.holding?, hrow, Store.holding?])
  by_cases hij : i = j
  · subst hij
    refine ⟨?_, fun hi => absurd hi (not_readded_of_deciding hd)⟩
    rintro ⟨⟨quantity, product, hadds⟩, -⟩
    cases hm.symm.trans hadds
    simp [Mutation.concerns, Mutation.user, Mutation.variant?] at hother
  · rw [run_concat]
    exact readded_move_of_ne hij

end Writes

/-- **A move keeps the standing of the row.** -/
theorem standing_move (h : s.Keys) (hms : OnlyAdds ms user variant)
    (hall : ∀ past, past <+: schedule → Standing givens s ms user variant past) (i : Nat) :
    Standing givens s ms user variant (schedule ++ [i]) := by
  have hnow := hall schedule List.prefix_rfl
  have hstep := ((start givens s ms).run schedule).move_cases i
  rw [← run_concat] at hstep
  rcases hstep with ⟨hsame, hdone⟩ | ⟨d, s', rows, hd, happly, hstore, hend⟩
  · refine hnow.of_unchanged (fun j => ⟨?_, ?_⟩) (by rw [hsame])
    · rintro ⟨hadds, done, hj, hstatus⟩
      exact ⟨hadds, done, hdone j done hj, hstatus⟩
    · intro hj
      rw [run_append]
      exact hj.run [i]
  · rw [givens_run] at happly
    obtain ⟨m, hm, -⟩ := (carries_start givens s ms).run schedule i _ hd
    cases hconcerns : m.concerns user variant with
    | true =>
        obtain ⟨product, quantity, rfl⟩ := hms m (List.mem_of_getElem? hm) hconcerns
        exact standing_write_add h hd happly hstore hm hend hall
    | false => exact standing_write_other h hd happly hstore hm hconcerns hnow

theorem standing_run (h : s.Keys) (hrow : s.holding? user variant = some .tombstone)
    (hms : OnlyAdds ms user variant) (schedule : List Nat) :
    ∀ past, past <+: schedule → Standing givens s ms user variant past := by
  induction schedule using List.reverseRec with
  | nil =>
      intro past hpast
      rw [List.prefix_nil.mp hpast]
      refine Or.inl ⟨?_, hrow⟩
      rintro i ⟨-, done, hdone, -⟩
      obtain ⟨m, -, hp⟩ := Option.map_eq_some_iff.mp ((List.getElem?_map ..).symm.trans hdone)
      cases hp
  | append_singleton earlier i ih =>
      intro past hpast
      rcases List.prefix_concat_iff.mp hpast with rfl | hpast
      · exact standing_move h hms ih i
      · exact ih past hpast

/-! ### What racing adds come to -/

/-- The verdict on an add that has ended: the objection to it, if there is one, and
otherwise what it has made of the row when it looked. -/
def Verdicts (givens : Givens) (s : Store) (ms : List Mutation) (user variant : Uuid)
    (schedule : List Nat) (i : Nat) (add : Mutation) (result : Except Failure Written) : Prop :=
  match s.objection? add with
  | some r => result = .error (.refused r)
  | none =>
    ∃ past rest, schedule = past ++ i :: rest ∧
      ((start givens s ms).run past).Looks i user variant ∧
      ((∀ j, ¬Readded ms user variant ((start givens s ms).run past) j) →
        result.map (·.status) = .ok .reactivated) ∧
      ((∃ j, Readded ms user variant ((start givens s ms).run past) j) →
        result = .error (.refused (.error RowState.alreadyInCart)))

/-- What an interleaving leaves of racing adds to a tombstone. -/
structure ReaddsSettled (givens : Givens) (s : Store) (ms : List Mutation) (user variant : Uuid)
    (schedule : List Nat) : Prop where
  /-- Every add that has ended was judged by its checks and then by its look at the row. -/
  verdicts : ∀ i product quantity result, ms[i]? = some (.add user product variant quantity) →
    ((start givens s ms).run schedule).clients[i]? = some (.ended result) →
    Verdicts givens s ms user variant schedule i (.add user product variant quantity) result
  /-- The tombstone stays until an add brings the row back. -/
  untouched : (∀ i, ¬Readded ms user variant ((start givens s ms).run schedule) i) →
    ((start givens s ms).run schedule).store.holding? user variant = some .tombstone
  /-- The quantity is the one of the last add to write. -/
  committed : (∃ i, Readded ms user variant ((start givens s ms).run schedule) i) →
    ∃ w quantity, LastReadded givens s ms user variant schedule w ∧
      AddsAt ms user variant w quantity ∧
      ((start givens s ms).run schedule).store.holding? user variant = some (.inCart quantity)

theorem verdicts_of_ended {product : Uuid} {result : Except Failure Written}
    (hall : ∀ past, past <+: schedule → Standing givens s ms user variant past)
    (hm : ms[i]? = some (.add user product variant quantity))
    (hended : ((start givens s ms).run schedule).clients[i]? = some (.ended result)) :
    Verdicts givens s ms user variant schedule i (.add user product variant quantity) result := by
  have hchecks := Mutation.eval_checks s.upToDate_view (.add user product variant quantity)
  unfold Verdicts
  rcases ended_cases hm rfl hended with ⟨r, hobjection, hresult⟩ |
    ⟨hpassed, past, rest, later, hsplit, hlook, hmove⟩
  · rw [settle_eq_error.mp (hchecks.symm.trans hobjection)]
    exact hresult
  · rw [settle_eq_ok.mp (hchecks.symm.trans hpassed)]
    have hpast : past <+: schedule := hsplit ▸ List.prefix_append _ _
    refine ⟨past, rest ++ i :: later, hsplit, hlook, ?_⟩
    obtain ⟨r, hr, hlooked⟩ := (hall past hpast).judge_add quantity
    have hmoved : ((Client.deciding (judge user variant (.add quantity) (some r))).move
        givens ((start givens s ms).run (past ++ i :: rest)).store).1 = .ended result := hr ▸ hmove
    rcases hlooked with ⟨hnobody, hjudge⟩ | ⟨hsomebody, hjudge⟩
    · obtain ⟨rows, rfl⟩ : ∃ rows, result = .ok ⟨.reactivated, rows⟩ := by
        rw [hjudge] at hmoved
        exact ⟨_, (Client.ended.inj hmoved).symm⟩
      exact ⟨fun _ => rfl, fun ⟨j, hj⟩ => absurd hj (hnobody j)⟩
    · have hresult : result = .error (.refused (.error RowState.alreadyInCart)) := by
        rw [hjudge] at hmoved
        exact (Client.ended.inj hmoved).symm
      exact ⟨fun hnobody => absurd hsomebody (not_exists.mpr hnobody), fun _ => hresult⟩

/-- **Racing adds bring a row back as long as nobody has, and the last of them leaves its
quantity.**  The other mutations on their way are about other rows. -/
theorem racing_readds (h : s.Keys) (hrow : s.holding? user variant = some .tombstone)
    (hms : OnlyAdds ms user variant) (givens : Givens) (schedule : List Nat) :
    ReaddsSettled givens s ms user variant schedule where
  verdicts := fun _ _ _ _ hm hended =>
    verdicts_of_ended (standing_run h hrow hms schedule) hm hended
  untouched := by
    intro hnobody
    rcases standing_run h hrow hms schedule schedule List.prefix_rfl with
      ⟨-, htombstone⟩ | ⟨w, quantity, ⟨-, -, -, hw, -⟩, -, -⟩
    · exact htombstone
    · exact absurd hw (hnobody w)
  committed := by
    rintro ⟨i, hi⟩
    rcases standing_run h hrow hms schedule schedule List.prefix_rfl with ⟨hnobody, -⟩ | hlast
    · exact absurd hi (hnobody i)
    · exact hlast

end Traffic

namespace Corner

/-- The jam is asked for again twice at once, in different quantities. -/
def readders : List Mutation := [.add user (.ofNat 5) jam 1, .add user (.ofNat 5) jam 2]

/-- Both adds look for the row before one of them writes; the first writes first. -/
def readdRace : List Nat := [0, 0, 0, 1, 1, 1, 0, 1]

theorem onlyAdds_readders : Traffic.OnlyAdds readders user jam := by
  intro m hm _
  simp only [readders, List.mem_cons, List.not_mem_nil, or_false] at hm
  rcases hm with rfl | rfl
  · exact ⟨_, _, rfl⟩
  · exact ⟨_, _, rfl⟩

end Corner

/-- Two adds race for the jam in the corner shop. -/
theorem racing_readds_corner :
    Corner.store.Keys ∧ Corner.store.holding? Corner.user Corner.jam = some .tombstone ∧
      Traffic.OnlyAdds Corner.readders Corner.user Corner.jam ∧
      Traffic.ReaddsSettled Corner.givens Corner.store Corner.readders Corner.user Corner.jam
        Corner.readdRace :=
  ⟨Corner.keys_store, rfl, Corner.onlyAdds_readders,
    Traffic.racing_readds Corner.keys_store rfl Corner.onlyAdds_readders Corner.givens
      Corner.readdRace⟩

/-- Of racing adds to a tombstone one wins: no two bring the row back, the others are
refused, and the quantity is the winner's. -/
structure Traffic.OneReaddWins (givens : Givens) (s : Store) (ms : List Mutation)
    (user variant : Uuid) (schedule : List Nat) : Prop where
  unique : ∀ i j, Readded ms user variant ((start givens s ms).run schedule) i →
    Readded ms user variant ((start givens s ms).run schedule) j → i = j
  refused : ∀ i quantity result, AddsAt ms user variant i quantity →
    ((start givens s ms).run schedule).clients[i]? = some (.ended result) →
    ¬Readded ms user variant ((start givens s ms).run schedule) i →
    result = .error (.refused (.error RowState.alreadyInCart))
  committed : ∀ i quantity, Readded ms user variant ((start givens s ms).run schedule) i →
    AddsAt ms user variant i quantity →
    ((start givens s ms).run schedule).store.holding? user variant = some (.inCart quantity)

/-- **Not every race of adds to a tombstone has one winner**, even when all of them pass
their checks.  In the corner shop two adds look for the jam before one of them writes. -/
theorem two_readds_win :
    ¬∀ (givens : Givens) (s : Store) (ms : List Mutation) (user variant : Uuid)
      (schedule : List Nat), s.Keys →
      s.holding? user variant = some .tombstone → Traffic.OnlyAdds ms user variant →
      (∀ m ∈ ms, s.admits m = true) → Traffic.OneReaddWins givens s ms user variant schedule := by
  intro hall
  have hwins := hall Corner.givens Corner.store Corner.readders Corner.user Corner.jam
    Corner.readdRace Corner.keys_store rfl Corner.onlyAdds_readders (by decide)
  have hreadded : ∀ i < 2, Traffic.Readded Corner.readders Corner.user Corner.jam
      ((Traffic.start Corner.givens Corner.store Corner.readders).run Corner.readdRace) i := by
    intro i hi
    match i, hi with
    | 0, _ => exact ⟨⟨1, _, rfl⟩, ⟨.reactivated, 1⟩, rfl, rfl⟩
    | 1, _ => exact ⟨⟨2, _, rfl⟩, ⟨.reactivated, 1⟩, rfl, rfl⟩
  exact absurd (hwins.unique 0 1 (hreadded 0 (by decide)) (hreadded 1 (by decide))) (by decide)

end Storefront
