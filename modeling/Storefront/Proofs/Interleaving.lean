/-
How mutations get on when others come between.

The answers that a mutation gets need not fit together, since the tables may change
between two of them.  `Plan.Leads` forgets where the answers came from: a plan leads to
whatever is left of it after some answers, and along a run every client is somewhere that
its plan leads to (`Carries.run`).

A mutation looks at a row only once and last, so what it decides depends on the tables at
that one read and on nothing before it.  `Mutation.Decides` lists what can come of the
read, and `decided_earlier` finds the read of every client that is about to write.  With
`store_move_cases`, which says that such a client alone can change the tables, a claim
about runs needs no more of a client than what its decision makes of tables that have
changed since.

The checks before that read ask what no change writes, so they come to the same whatever
the others do; `checking_or_judged` says so of every client on its way, and `ended_cases`
of every client that has ended.
-/
import Mathlib.Data.List.Induction
import Storefront.Cart.Interleaving
import Storefront.Proofs.Lifecycle
import Storefront.Proofs.Tables

namespace Storefront

/-! ### What is left of a plan -/

namespace Plan

variable {α β : Type}

/-- The second plan is what is left of the first after some answers, whatever they were. -/
inductive Leads : Plan α → Plan α → Prop
  | refl (p : Plan α) : Leads p p
  | ask {q : Query} {next : q.Answer → Plan α} {p : Plan α} (answer : q.Answer)
      (h : Leads (next answer) p) : Leads (ask q next) p

theorem Leads.trans {p p' p'' : Plan α} (h : p.Leads p') (h' : p'.Leads p'') : p.Leads p'' := by
  induction h with
  | refl => exact h'
  | ask answer _ ih => exact .ask answer (ih h')

/-- One more answer. -/
theorem Leads.answered {p : Plan α} {q : Query} {next : q.Answer → Plan α}
    (h : p.Leads (.ask q next)) (answer : q.Answer) : p.Leads (next answer) :=
  h.trans (.ask answer (.refl _))

/-- What is left of a sequence is a rest of its first part, with the second part to come,
or a rest of the second part. -/
theorem Leads.of_bind {p : Plan α} {f : α → Plan β} {p' : Plan β} (h : (p.bind f).Leads p') :
    (∃ r, p.Leads r ∧ p' = r.bind f) ∨ ∃ a, p.Leads (.decided a) ∧ (f a).Leads p' := by
  induction p with
  | decided a => exact Or.inr ⟨a, .refl _, h⟩
  | refused r =>
      cases h with
      | refl => exact Or.inl ⟨.refused r, .refl _, rfl⟩
  | ask q next ih =>
      cases h with
      | refl => exact Or.inl ⟨.ask q next, .refl _, rfl⟩
      | ask answer hrest =>
          rcases ih answer hrest with ⟨r, hr, rfl⟩ | ⟨a, ha, hf⟩
          · exact Or.inl ⟨r, .ask answer hr, rfl⟩
          · exact Or.inr ⟨a, .ask answer ha, hf⟩

theorem decided_of_bind_eq {p : Plan α} {f : α → Plan β} {b : β} (h : p.bind f = .decided b) :
    ∃ a, p = .decided a ∧ f a = .decided b := by
  cases p with
  | decided a => exact ⟨a, rfl, h⟩
  | refused r => cases h
  | ask q next => cases h

/-- Whatever the answers are, a plan asks questions of one class only. -/
def Asks (P : Query → Prop) (p : Plan α) : Prop :=
  ∀ (q : Query) (next : q.Answer → Plan α), p.Leads (.ask q next) → P q

variable {P : Query → Prop}

theorem asks_decided (a : α) : (decided a).Asks P := by
  intro q next h
  cases h

theorem asks_refused (r : Refusal) : (refused r : Plan α).Asks P := by
  intro q next h
  cases h

theorem asks_ask {q : Query} {next : q.Answer → Plan α} (hq : P q)
    (h : ∀ answer, (next answer).Asks P) : (ask q next).Asks P := by
  intro q' next' hleads
  cases hleads with
  | refl => exact hq
  | ask answer hrest => exact h answer q' next' hrest

theorem Asks.bind {p : Plan α} {f : α → Plan β} (hp : p.Asks P) (hf : ∀ a, (f a).Asks P) :
    (p.bind f).Asks P := by
  intro q next h
  rcases h.of_bind with ⟨r, hr, heq⟩ | ⟨a, -, hrest⟩
  · cases r with
    | decided a => exact hf a q next (heq ▸ .refl _)
    | refused _ => cases heq
    | ask q' next' =>
        cases heq
        exact hp q next' hr
  · exact hf a q next hrest

end Plan

/-! ### Checks ask what no change writes -/

/-- A question to the customers or to the snapshots, which no change writes. -/
def Query.Fixed : Query → Prop
  | customer _ | snapshot .. => True
  | row .. | activeIds _ | lines .. => False

theorem asks_pass (v : Verdict) : (Plan.pass v).Asks Query.Fixed := by
  cases v with
  | eligible => exact Plan.asks_decided ()
  | rejected r => exact Plan.asks_refused _

theorem asks_eligibleCustomer (user : Uuid) : (eligibleCustomer user).Asks Query.Fixed := by
  have hfind : (findCustomer user).Asks Query.Fixed := by
    refine Plan.asks_ask trivial fun answer => ?_
    cases answer with
    | none => exact Plan.asks_refused _
    | some c => exact Plan.asks_decided c
  exact hfind.bind fun c => asks_pass c.verdict

theorem asks_sellableVariant (variant : Uuid) (product : Option Uuid) (quantity : Int) :
    (sellableVariant variant product quantity).Asks Query.Fixed := by
  have hfind : (findSnapshot variant product).Asks Query.Fixed := by
    refine Plan.asks_ask trivial fun answer => ?_
    cases answer with
    | none => exact Plan.asks_refused _
    | some x => exact Plan.asks_decided x
  refine hfind.bind fun x => (asks_pass x.verdict).bind fun _ => ?_
  split
  · exact Plan.asks_refused _
  · exact Plan.asks_decided ()

theorem asks_checkedQuantity (quantity : Int) : (checkedQuantity quantity).Asks Query.Fixed := by
  unfold checkedQuantity
  split
  · exact Plan.asks_decided ()
  · exact Plan.asks_refused _

theorem Mutation.asks_checks (m : Mutation) : m.checks.Asks Query.Fixed := by
  cases m with
  | add user product variant quantity =>
      exact (asks_checkedQuantity _).bind fun _ =>
        (asks_eligibleCustomer _).bind fun _ => asks_sellableVariant _ _ _
  | update user variant quantity =>
      exact (asks_checkedQuantity _).bind fun _ =>
        (asks_eligibleCustomer _).bind fun _ => asks_sellableVariant _ _ _
  | remove user variant => exact asks_eligibleCustomer _
  | clear user => exact asks_eligibleCustomer _

/-! ### Deciding -/

/-- The step is legal for the row that was found. -/
def judge (user variant : Uuid) (step : Step) (row : Option CartRow) : Plan Decision :=
  match step.take (row.map (·.holding)) with
  | (.ok status, after) => .decided ⟨.between user variant row after, status⟩
  | (.error e, _) => .refused (.error e)

theorem judge_eq_decided {user variant : Uuid} {step : Step} {row : Option CartRow} {d : Decision}
    (h : judge user variant step row = .decided d) :
    ∃ status after, step.take (row.map (·.holding)) = (.ok status, after) ∧
      d = ⟨.between user variant row after, status⟩ := by
  unfold judge at h
  split at h
  · next status after htake => exact ⟨status, after, htake, (Plan.decided.inj h).symm⟩
  · cases h

theorem judge_ne_ask {user variant : Uuid} {step : Step} {row : Option CartRow} {q : Query}
    {next : q.Answer → Plan Decision} : judge user variant step row ≠ .ask q next := by
  unfold judge
  split <;> nofun

namespace Mutation

variable {m : Mutation} {q : Query} {next : q.Answer → Plan Decision}

theorem plan_eq (m : Mutation) : m.plan = m.checks.bind fun _ => m.decision := rfl

theorem decision_of_variant {variant : Uuid} (h : m.variant? = some variant) :
    m.decision = .ask (.row m.user variant) (judge m.user variant m.step) := by
  unfold decision
  rw [h]
  rfl

theorem plan_of_not_inRange {n : Int} (hstep : m.step = .add n ∨ m.step = .update n)
    (hrange : inRange n = false) :
    m.plan = .refused (.error (.validation "required_quantity" rangeReason)) := by
  have hrefused : checkedQuantity n =
      .refused (.error (.validation "required_quantity" rangeReason)) := by
    unfold checkedQuantity
    rw [hrange]
    rfl
  cases m with
  | add user product variant quantity =>
      have hn : quantity = n := by simpa [step] using hstep
      rw [plan_eq, checks, hn, hrefused]
      rfl
  | update user variant quantity =>
      have hn : quantity = n := by simpa [step] using hstep
      rw [plan_eq, checks, hn, hrefused]
      rfl
  | remove user variant => simp [step] at hstep
  | clear user => simp [step] at hstep

/-- A mutation that asks anything has had its quantity checked. -/
theorem inRange_of_leads_ask (h : m.plan.Leads (.ask q next)) {n : Int}
    (hstep : m.step = .add n ∨ m.step = .update n) : inRange n = true := by
  cases hrange : inRange n with
  | true => rfl
  | false =>
      rw [plan_of_not_inRange hstep hrange] at h
      cases h

/-- Nothing is decided before the tables are asked. -/
theorem plan_ne_decided (m : Mutation) (d : Decision) : m.plan ≠ .decided d := by
  intro h
  obtain ⟨_, hchecks, -⟩ := Plan.decided_of_bind_eq (m.plan_eq.symm.trans h)
  cases m with
  | add user product variant quantity =>
      obtain ⟨_, -, hrest⟩ := Plan.decided_of_bind_eq hchecks
      cases hrest
  | update user variant quantity =>
      obtain ⟨_, -, hrest⟩ := Plan.decided_of_bind_eq hchecks
      cases hrest
  | remove user variant => cases hchecks
  | clear user => cases hchecks

/-- Once the checks are over, a mutation asks for its own row and nothing else. -/
theorem of_decision_leads_ask (h : m.decision.Leads (.ask q next)) :
    ∃ variant, m.variant? = some variant ∧
      Plan.ask q next = .ask (.row m.user variant) (judge m.user variant m.step) := by
  cases hvariant : m.variant? with
  | none =>
      unfold decision at h
      rw [hvariant] at h
      cases h
  | some variant =>
      rw [decision_of_variant hvariant] at h
      cases h with
      | refl => exact ⟨variant, rfl, rfl⟩
      | ask answer hrest =>
          unfold judge at hrest
          split at hrest <;> cases hrest

/-- A mutation takes its step on what is found when it asks for a row. -/
theorem of_leads_row {user variant : Uuid} {next : Option CartRow → Plan Decision}
    (h : m.plan.Leads (.ask (.row user variant) next)) :
    m.user = user ∧ m.variant? = some variant ∧ next = judge user variant m.step := by
  rw [plan_eq] at h
  have hlast : m.decision.Leads (.ask (.row user variant) next) := by
    rcases h.of_bind with ⟨r, hr, heq⟩ | ⟨_, -, hrest⟩
    · cases r with
      | decided _ => exact heq ▸ .refl _
      | refused _ => cases heq
      | ask q next' =>
          cases heq
          exact (m.asks_checks _ _ hr).elim
    · exact hrest
  obtain ⟨v, hvariant, heq⟩ := of_decision_leads_ask hlast
  cases heq
  exact ⟨rfl, hvariant, rfl⟩

/-- What a mutation can decide when its last read is answered by some tables. -/
inductive Decides (s : Store) (m : Mutation) : Decision → Prop
  /-- Only clearing a cart decides without a row. -/
  | clears {user : Uuid} (h : m = .clear user) : Decides s m ⟨.clear user, .cleared⟩
  | steps {variant : Uuid} {status : Status} {after : Option Holding}
      (hvariant : m.variant? = some variant)
      (hrange : ∀ n, m.step = .add n ∨ m.step = .update n → inRange n = true)
      (htake : m.step.take (s.holding? m.user variant) = (.ok status, after)) :
      Decides s m ⟨.between m.user variant (s.row? m.user variant) after, status⟩

/-- **The answer before a decision is the row that it is made from.** -/
theorem decides_of_leads_ask {s : Store} {d : Decision} (h : m.plan.Leads (.ask q next))
    (hd : next (s.view q) = .decided d) :
    m.Decides s d ∧ ∀ variant, m.variant? = some variant → q = .row m.user variant := by
  -- A check is the last to ask only when there is no row to ask for.
  have hlast : m.decision = .decided d ∨ m.decision.Leads (.ask q next) := by
    have hplan := h
    rw [plan_eq] at hplan
    rcases hplan.of_bind with ⟨r, -, hr⟩ | ⟨_, -, hrest⟩
    · cases r with
      | decided _ => exact Or.inr (hr ▸ .refl _)
      | refused _ => cases hr
      | ask q' next' =>
          cases hr
          obtain ⟨_, -, hdecision⟩ := Plan.decided_of_bind_eq hd
          exact Or.inl hdecision
    · exact Or.inr hrest
  rcases hlast with hdecision | hleads
  · cases hvariant : m.variant? with
    | some variant =>
        rw [decision_of_variant hvariant] at hdecision
        cases hdecision
    | none =>
        obtain ⟨user, rfl⟩ := exists_eq_clear hvariant
        cases hdecision
        refine ⟨.clears rfl, ?_⟩
        intro variant hsome
        cases hsome
  · obtain ⟨variant, hvariant, heq⟩ := of_decision_leads_ask hleads
    cases heq
    obtain ⟨status, after, htake, rfl⟩ := judge_eq_decided hd
    refine ⟨.steps hvariant (fun n hstep => inRange_of_leads_ask h hstep) htake, ?_⟩
    intro variant' hvariant'
    cases hvariant.symm.trans hvariant'
    rfl

/-- What is left of a mutation that has not come to its row: a rest of the checks, which
comes to what the checks come to on some tables, and then the decision. -/
def Checking (s : Store) (m : Mutation) (p : Plan Decision) : Prop :=
  ∃ r, m.checks.Leads r ∧ p = r.bind (fun _ => m.decision) ∧ r.eval s.view = m.checks.eval s.view

theorem checking_plan (s : Store) (m : Mutation) : m.Checking s m.plan :=
  ⟨m.checks, .refl _, m.plan_eq, rfl⟩

/-- The checks go on, or they are passed and the row is next. -/
theorem Checking.of_ask {s : Store} (h : m.Checking s (.ask q next)) :
    (q.Fixed ∧ m.Checking s (next (s.view q))) ∨
      m.checks.eval s.view = .ok () ∧ ∃ variant, m.variant? = some variant ∧
        Plan.ask q next = .ask (.row m.user variant) (judge m.user variant m.step) := by
  obtain ⟨r, hleads, heq, heval⟩ := h
  cases r with
  | decided _ => exact Or.inr ⟨heval.symm, of_decision_leads_ask (heq ▸ .refl _)⟩
  | refused _ => cases heq
  | ask q' next' =>
      cases heq
      exact Or.inl ⟨m.asks_checks _ _ hleads, next' (s.view q), hleads.answered _, rfl, heval⟩

end Mutation

/-! ### One move -/

namespace Client

variable {s s' : Store} {givens : Givens} {d : Decision}

theorem move_of_apply_error {e : ServiceError} (h : s.apply givens d.change = .error e) :
    (deciding (.decided d)).move givens s = (ended (.error (.refused (.error e))), s) := by
  simp only [move, h]

theorem move_of_apply_ok {rows : Nat} (h : s.apply givens d.change = .ok (s', rows)) :
    (deciding (.decided d)).move givens s = (ended (.ok ⟨d.status, rows⟩), s') := by
  simp only [move, h]

/-- A client writes nothing and ends well only if it had, or it makes the change that it has
decided on. -/
theorem move_cases (c : Client) (givens : Givens) (s : Store) :
    ((c.move givens s).2 = s ∧
        ∀ done, (c.move givens s).1 = ended (.ok done) → c = ended (.ok done)) ∨
      ∃ d s' rows, c = deciding (.decided d) ∧ s.apply givens d.change = .ok (s', rows) ∧
        c.move givens s = (ended (.ok ⟨d.status, rows⟩), s') := by
  cases c with
  | ended result => exact Or.inl ⟨rfl, fun _ hdone => hdone⟩
  | deciding p =>
      cases p with
      | ask q next => exact Or.inl ⟨rfl, nofun⟩
      | refused r => exact Or.inl ⟨rfl, nofun⟩
      | decided d =>
          cases happly : s.apply givens d.change with
          | error e =>
              rw [move_of_apply_error happly]
              exact Or.inl ⟨rfl, nofun⟩
          | ok done => exact Or.inr ⟨d, done.1, done.2, rfl, happly, move_of_apply_ok happly⟩

theorem of_move_eq_deciding {c : Client} {p : Plan Decision}
    (h : (c.move givens s).1 = deciding p) :
    ∃ q next, c = deciding (.ask q next) ∧ p = next (s.view q) := by
  cases c with
  | ended result => cases h
  | deciding p' =>
      cases p' with
      | ask q next => exact ⟨q, next, rfl, (Client.deciding.inj h).symm⟩
      | refused r => cases h
      | decided d =>
          cases happly : s.apply givens d.change with
          | error e => rw [move_of_apply_error happly] at h; cases h
          | ok done => rw [move_of_apply_ok happly] at h; cases h

end Client

namespace Traffic

variable {t : Traffic} {givens : Givens} {i j : Nat} {c : Client}

theorem move_of_client (h : t.clients[i]? = some c) :
    t.move i =
      ⟨t.givens, (c.move t.givens t.store).2, t.clients.set i (c.move t.givens t.store).1⟩ := by
  unfold move
  rw [h]

@[simp]
theorem givens_move (t : Traffic) (i : Nat) : (t.move i).givens = t.givens := by
  unfold move
  split <;> rfl

@[simp]
theorem givens_run (t : Traffic) (schedule : List Nat) : (t.run schedule).givens = t.givens := by
  induction schedule generalizing t with
  | nil => rfl
  | cons i rest ih => exact (ih (t.move i)).trans (t.givens_move i)

/-- The client that moves. -/
theorem client_move (h : t.clients[i]? = some c) :
    (t.move i).clients[i]? = some (c.move t.givens t.store).1 := by
  rw [move_of_client h]
  exact List.getElem?_set_self (List.getElem?_eq_some_iff.mp h).1

/-- The clients that do not move. -/
theorem client_move_of_ne (h : i ≠ j) : (t.move i).clients[j]? = t.clients[j]? := by
  cases hc : t.clients[i]? with
  | none => rw [move, hc]
  | some c =>
      rw [move_of_client hc]
      exact List.getElem?_set_ne h

/-- A client that is still on its way has read something, or has not moved. -/
theorem of_client_move_eq_deciding {p : Plan Decision}
    (h : (t.move i).clients[j]? = some (.deciding p)) :
    t.clients[j]? = some (.deciding p) ∨
      i = j ∧ ∃ q next, t.clients[j]? = some (.deciding (.ask q next)) ∧
        p = next (t.store.view q) := by
  by_cases hij : i = j
  · subst hij
    cases hc : t.clients[i]? with
    | none =>
        rw [move, hc] at h
        exact absurd h (by simp [hc])
    | some c =>
        rw [client_move hc] at h
        obtain ⟨q, next, rfl, rfl⟩ := Client.of_move_eq_deciding (Option.some.inj h)
        exact Or.inr ⟨rfl, q, next, rfl, rfl⟩
  · rw [client_move_of_ne hij] at h
    exact Or.inl h

/-- The client at a position has ended well. -/
def Done (t : Traffic) (j : Nat) (done : Written) : Prop :=
  t.clients[j]? = some (.ended (.ok done))

/-- A move writes nothing and brings no client to a good end, or it makes the change that
its client has decided on. -/
theorem move_cases (t : Traffic) (i : Nat) :
    ((t.move i).store = t.store ∧ ∀ j done, (t.move i).Done j done → t.Done j done) ∨
      ∃ d s' rows, t.clients[i]? = some (.deciding (.decided d)) ∧
        t.store.apply t.givens d.change = .ok (s', rows) ∧ (t.move i).store = s' ∧
        (t.move i).Done i ⟨d.status, rows⟩ := by
  cases hc : t.clients[i]? with
  | none =>
      have hsame : t.move i = t := by rw [move, hc]
      exact Or.inl (by rw [hsame]; exact ⟨rfl, fun _ _ hdone => hdone⟩)
  | some c =>
      have hstore : (t.move i).store = (c.move t.givens t.store).2 := by rw [move_of_client hc]
      rcases c.move_cases t.givens t.store with ⟨hsame, hnot⟩ | ⟨d, s', rows, rfl, happly, hmove⟩
      · refine Or.inl ⟨hstore.trans hsame, ?_⟩
        intro j done hdone
        by_cases hij : i = j
        · subst hij
          have hself := Option.some.inj ((client_move hc).symm.trans hdone)
          exact hc.trans (congrArg some (hnot done hself))
        · exact (client_move_of_ne hij).symm.trans hdone
      · refine Or.inr ⟨d, s', rows, rfl, happly, hstore.trans (by rw [hmove]), ?_⟩
        rw [Done, client_move hc, hmove]

/-- A move writes nothing, or it makes the change that its client has decided on. -/
theorem store_move_cases (t : Traffic) (i : Nat) :
    (t.move i).store = t.store ∨
      ∃ d s' rows, t.clients[i]? = some (.deciding (.decided d)) ∧
        t.store.apply t.givens d.change = .ok (s', rows) ∧ (t.move i).store = s' ∧
        (t.move i).clients[i]? = some (.ended (.ok ⟨d.status, rows⟩)) :=
  (t.move_cases i).imp And.left id

/-! ### Runs -/

theorem run_concat (t : Traffic) (schedule : List Nat) (i : Nat) :
    t.run (schedule ++ [i]) = (t.run schedule).move i := by
  simp [run]

theorem run_append (t : Traffic) (past future : List Nat) :
    t.run (past ++ future) = (t.run past).run future := by
  simp [run]

/-- Every client that has not ended is somewhere that the plan of its mutation leads to. -/
def Carries (ms : List Mutation) (t : Traffic) : Prop :=
  ∀ (i : Nat) (p : Plan Decision), t.clients[i]? = some (.deciding p) →
    ∃ m, ms[i]? = some m ∧ m.plan.Leads p

theorem carries_start (givens : Givens) (s : Store) (ms : List Mutation) :
    (start givens s ms).Carries ms := by
  intro i p h
  rw [start, List.getElem?_map] at h
  obtain ⟨m, hm, hp⟩ := Option.map_eq_some_iff.mp h
  cases hp
  exact ⟨m, hm, .refl _⟩

theorem Carries.move {ms : List Mutation} (h : t.Carries ms) (i : Nat) : (t.move i).Carries ms := by
  intro j p hp
  rcases of_client_move_eq_deciding hp with hold | ⟨-, q, next, hask, rfl⟩
  · exact h j p hold
  · obtain ⟨m, hm, hleads⟩ := h j _ hask
    exact ⟨m, hm, hleads.answered _⟩

theorem Carries.run {ms : List Mutation} (h : t.Carries ms) (schedule : List Nat) :
    (t.run schedule).Carries ms := by
  induction schedule generalizing t with
  | nil => exact h
  | cons i rest ih => exact ih (h.move i)

theorem ended_run {result : Except Failure Written} (h : t.clients[i]? = some (.ended result))
    (schedule : List Nat) : (t.run schedule).clients[i]? = some (.ended result) := by
  induction schedule generalizing t with
  | nil => exact h
  | cons j rest ih =>
      refine ih ?_
      by_cases hji : j = i
      · rw [hji, client_move h]
        rfl
      · rw [client_move_of_ne hji, h]

/-- A client that has decided waits for its next move, and then ends with what its write
comes to on the tables as they are by then. -/
theorem decided_run {d : Decision} (h : t.clients[i]? = some (.deciding (.decided d)))
    (schedule : List Nat) :
    (t.run schedule).clients[i]? = some (.deciding (.decided d)) ∨
      ∃ past rest, schedule = past ++ i :: rest ∧
        (t.run past).clients[i]? = some (.deciding (.decided d)) ∧
        (t.run schedule).clients[i]? =
          some ((Client.deciding (.decided d)).move t.givens (t.run past).store).1 := by
  induction schedule generalizing t with
  | nil => exact Or.inl h
  | cons j rest ih =>
      by_cases hji : j = i
      · subst hji
        -- What it ends with here is never changed again.
        refine Or.inr ⟨[], rest, rfl, h, ?_⟩
        have hmoved := client_move h
        cases hclient : ((Client.deciding (.decided d)).move t.givens t.store).1 with
        | deciding p =>
            obtain ⟨q, next, heq, -⟩ := Client.of_move_eq_deciding hclient
            cases heq
        | ended result =>
            rw [hclient] at hmoved
            exact (ended_run hmoved rest).trans (congrArg some hclient.symm)
      · have hstill := h
        rw [← client_move_of_ne hji] at hstill
        rcases ih hstill with hwait | ⟨past, rest', rfl, hthere, hend⟩
        · exact Or.inl hwait
        · rw [t.givens_move] at hend
          exact Or.inr ⟨j :: past, rest', rfl, hthere, hend⟩

/-- The client at a position is about to look for the row of a customer and a variant. -/
def Looks (t : Traffic) (i : Nat) (user variant : Uuid) : Prop :=
  ∃ next, t.clients[i]? = some (.deciding (.ask (.row user variant) next))

/-- **What a client is about to write was decided at one of its moves, from the tables as
they were then.** -/
theorem decided_earlier {s : Store} {ms : List Mutation} {schedule : List Nat} {d : Decision}
    (h : ((start givens s ms).run schedule).clients[i]? = some (.deciding (.decided d))) :
    ∃ past rest m, schedule = past ++ i :: rest ∧ ms[i]? = some m ∧
      m.Decides ((start givens s ms).run past).store d ∧
      ∀ variant, m.variant? = some variant →
        ((start givens s ms).run past).Looks i m.user variant := by
  induction schedule using List.reverseRec with
  | nil =>
      obtain ⟨m, -, hp⟩ := Option.map_eq_some_iff.mp ((List.getElem?_map ..).symm.trans h)
      exact absurd (Client.deciding.inj hp) (m.plan_ne_decided d)
  | append_singleton earlier j ih =>
      rw [run_concat] at h
      rcases of_client_move_eq_deciding h with hold | ⟨rfl, q, next, hask, hd⟩
      · obtain ⟨past, rest, m, rfl, hfacts⟩ := ih hold
        exact ⟨past, rest ++ [j], m, by simp, hfacts⟩
      · obtain ⟨m, hm, hleads⟩ := (carries_start givens s ms).run earlier j _ hask
        obtain ⟨hdecides, hrow⟩ := Mutation.decides_of_leads_ask hleads hd.symm
        refine ⟨earlier, [], m, rfl, hm, hdecides, fun variant hvariant => ?_⟩
        obtain rfl := hrow variant hvariant
        exact ⟨next, hask⟩

/-- A client that has ended did so at one of its moves. -/
theorem ended_earlier {s : Store} {ms : List Mutation} {schedule : List Nat}
    {result : Except Failure Written}
    (h : ((start givens s ms).run schedule).clients[i]? = some (.ended result)) :
    ∃ past rest p, schedule = past ++ i :: rest ∧
      ((start givens s ms).run past).clients[i]? = some (.deciding p) ∧
      ((Client.deciding p).move givens ((start givens s ms).run past).store).1 = .ended result := by
  induction schedule using List.reverseRec with
  | nil =>
      obtain ⟨m, -, hp⟩ := Option.map_eq_some_iff.mp ((List.getElem?_map ..).symm.trans h)
      cases hp
  | append_singleton earlier j ih =>
      rw [run_concat] at h
      by_cases hji : j = i
      · subst hji
        cases hc : ((start givens s ms).run earlier).clients[j]? with
        | none =>
            rw [move, hc] at h
            exact absurd h (by simp [hc])
        | some c =>
            rw [client_move hc, givens_run] at h
            cases c with
            | deciding p => exact ⟨earlier, [], p, rfl, hc, Option.some.inj h⟩
            | ended result' =>
                obtain ⟨past, rest, p, rfl, hfacts⟩ := ih (hc.trans h)
                exact ⟨past, rest ++ [j], p, by simp, hfacts⟩
      · rw [client_move_of_ne hji] at h
        obtain ⟨past, rest, p, rfl, hfacts⟩ := ih h
        exact ⟨past, rest ++ [j], p, by simp, hfacts⟩

theorem view_run_of_fixed (t : Traffic) (schedule : List Nat) {q : Query} (hq : q.Fixed) :
    (t.run schedule).store.view q = t.store.view q := by
  induction schedule generalizing t with
  | nil => rfl
  | cons i rest ih =>
      refine (ih (t.move i)).trans ?_
      rcases t.store_move_cases i with hsame | ⟨d, s', rows, -, happly, hstore, -⟩
      · rw [hsame]
      · obtain ⟨hcustomers, hsnapshots⟩ := Store.apply_customers happly
        rw [hstore]
        cases q with
        | customer id => simp only [Store.view, Store.customer?, hcustomers]
        | snapshot variant product => simp only [Store.view, Store.snapshot?, hsnapshots]
        | row user variant => exact hq.elim
        | activeIds user => exact hq.elim
        | lines user variants => exact hq.elim

/-- **A client that is on its way is at its checks, or it has looked for its row.**  The
checks come to what they come to on the first tables; once they are passed, the client
looks and goes on with what it found. -/
theorem checking_or_judged {s : Store} {ms : List Mutation} {schedule : List Nat}
    {p : Plan Decision} (h : ((start givens s ms).run schedule).clients[i]? = some (.deciding p)) :
    ∃ m, ms[i]? = some m ∧ (m.Checking s p ∨
      m.checks.eval s.view = .ok () ∧ ∃ past rest variant, schedule = past ++ i :: rest ∧
        m.variant? = some variant ∧ ((start givens s ms).run past).Looks i m.user variant ∧
        p = judge m.user variant m.step
          (((start givens s ms).run past).store.row? m.user variant)) := by
  induction schedule using List.reverseRec generalizing p with
  | nil =>
      obtain ⟨m, hm, hp⟩ := Option.map_eq_some_iff.mp ((List.getElem?_map ..).symm.trans h)
      cases hp
      exact ⟨m, hm, Or.inl (m.checking_plan s)⟩
  | append_singleton earlier j ih =>
      rw [run_concat] at h
      rcases of_client_move_eq_deciding h with hold | ⟨rfl, q, next, hask, rfl⟩
      · obtain ⟨m, hm, hchecking | ⟨hpassed, past, rest, variant, rfl, hfacts⟩⟩ := ih hold
        · exact ⟨m, hm, Or.inl hchecking⟩
        · exact ⟨m, hm, Or.inr ⟨hpassed, past, rest ++ [j], variant, by simp, hfacts⟩⟩
      · obtain ⟨m, hm, hchecking | ⟨-, past, rest, variant, -, -, -, hjudge⟩⟩ := ih hask
        · refine ⟨m, hm, ?_⟩
          rcases hchecking.of_ask with ⟨hfixed, hnext⟩ | ⟨hpassed, variant, hvariant, heq⟩
          · rw [view_run_of_fixed _ _ hfixed]
            exact Or.inl hnext
          · cases heq
            exact Or.inr ⟨hpassed, earlier, [], variant, rfl, hvariant, ⟨_, hask⟩, rfl⟩
        · exact absurd hjudge.symm judge_ne_ask

/-- **A client that has ended did so at its checks, or after a look at its row.**  What it
found is judged at the look, and written at its last move. -/
theorem ended_cases {s : Store} {ms : List Mutation} {schedule : List Nat} {m : Mutation}
    {variant : Uuid} {result : Except Failure Written} (hm : ms[i]? = some m)
    (hvariant : m.variant? = some variant)
    (h : ((start givens s ms).run schedule).clients[i]? = some (.ended result)) :
    (∃ r, m.checks.eval s.view = .error r ∧ result = .error (.refused r)) ∨
      m.checks.eval s.view = .ok () ∧ ∃ past rest later,
        schedule = past ++ i :: (rest ++ i :: later) ∧
        ((start givens s ms).run past).Looks i m.user variant ∧
        ((Client.deciding (judge m.user variant m.step
            (((start givens s ms).run past).store.row? m.user variant))).move givens
          ((start givens s ms).run (past ++ i :: rest)).store).1 = .ended result := by
  obtain ⟨now, later, p, rfl, hp, hmove⟩ := ended_earlier h
  obtain ⟨m', hm', hwhere⟩ := checking_or_judged hp
  cases hm.symm.trans hm'
  rcases hwhere with ⟨r, -, rfl, heval⟩ |
    ⟨hpassed, past, rest, variant', rfl, hvariant', hlook, rfl⟩
  · -- A client that ends at its checks does so with what they come to.
    cases r with
    | ask q next => cases hmove
    | decided _ =>
        have hasks : (Client.deciding m.decision).move givens ((start givens s ms).run now).store =
            (.ended result, _) := Prod.ext hmove rfl
        rw [Mutation.decision_of_variant hvariant] at hasks
        cases hasks
    | refused r => exact Or.inl ⟨r, heval.symm, (Client.ended.inj hmove).symm⟩
  · obtain rfl := Option.some.inj (hvariant.symm.trans hvariant')
    exact Or.inr ⟨hpassed, past, rest, later, by simp, hlook, hmove⟩

end Traffic

end Storefront
