/-
The story of one row, told by its successes.

The statuses that one row is given in the course of its life form a regular language:
`Status.story` is the expression.  Its words are read by an automaton whose states are the
states of the row, since a status says in which state it was given and which one it leaves
(`RowState.after?`).  That the expression and the automaton agree is Kleene algebra: the three
languages of the rests of a story, one for each state, solve the equations of the automaton.
That the automaton and the row agree is one fact about a single step, in either direction.

Failing steps leave the row as it is, so they may stand anywhere; a word of the language is
told by a run without them.  The contents of the row after a run are dictated by its last
success, once there is a row.
-/
import Mathlib.Computability.RegularExpressions
import Storefront.Proofs.Lifecycle

open scoped Computability

namespace Storefront

/-! ### Languages -/

section Languages

variable {α : Type}

/-- A star in front is passed over or unrolled once. -/
theorem kstar_mul_eq (l m : Language α) : l∗ * m = m + l * (l∗ * m) := by
  conv_lhs => rw [← Language.one_add_self_mul_kstar_eq_kstar, add_mul, one_mul, mul_assoc]

theorem kstar_mul_add_one (l m : Language α) :
    l∗ * (m + 1) = 1 + l * (l∗ * (m + 1)) + m := by
  conv_lhs => rw [kstar_mul_eq]
  ac_rfl

theorem cons_mem_letter_mul {a b : α} {word : List α} {l : Language α} :
    b :: word ∈ ({[a]} : Language α) * l ↔ b = a ∧ word ∈ l := by
  rw [Language.mem_mul]
  constructor
  · rintro ⟨_, rfl, tail, htail, heq⟩
    obtain ⟨rfl, rfl⟩ := List.cons.inj heq
    exact ⟨rfl, htail⟩
  · rintro ⟨rfl, hword⟩
    exact ⟨[b], rfl, word, hword, rfl⟩

end Languages

/-! ### The language of a row -/

namespace Status

open RegularExpression

/-- A row that is not in the cart: it was removed or cleared, and may be cleared again. -/
def rest : RegularExpression Status :=
  (char removed + char cleared) * star (char cleared)

/-- The statuses of one row, from the time before there is one. -/
def story : RegularExpression Status :=
  star (char cleared) *
    (char added * star (char updated) *
        star (rest * char reactivated * star (char updated)) * (rest + 1) + 1)

end Status

namespace RowState

/-- The state that a status leaves, where it can be given. -/
def after? : RowState → Status → Option RowState
  | absent, .added | inactive, .reactivated | active, .updated => some active
  | active, .removed | active, .cleared | inactive, .cleared => some inactive
  | absent, .cleared => some absent
  | _, _ => none

/-- The state that a word of statuses leads to. -/
def follow? : RowState → List Status → Option RowState
  | state, [] => some state
  | state, status :: word => (state.after? status).bind (·.follow? word)

theorem follow?_append (state : RowState) (word word' : List Status) :
    state.follow? (word ++ word') = (state.follow? word).bind (·.follow? word') := by
  induction word generalizing state with
  | nil => rfl
  | cons status word ih =>
      simp only [List.cons_append, follow?, Option.bind_assoc]
      congr 1
      funext next
      exact ih next

/-! ### The rests of a story -/

/-- The rest of a story while the row is in the cart. -/
def activeStory : Language Status :=
  {[.updated]}∗ * (Status.rest.matches' * {[.reactivated]} * {[.updated]}∗)∗ *
    (Status.rest.matches' + 1)

/-- What is left of a story in a state. -/
def storyFrom : RowState → Language Status
  | absent => {[.cleared]}∗ * ({[.added]} * activeStory + 1)
  | active => activeStory
  | inactive => {[.cleared]}∗ * ({[.reactivated]} * activeStory + 1)

theorem matches'_story : Status.story.matches' = storyFrom absent := by
  show {[.cleared]}∗ * ({[.added]} * {[.updated]}∗ *
    (Status.rest.matches' * {[.reactivated]} * {[.updated]}∗)∗ * (Status.rest.matches' + 1) + 1) = _
  simp only [storyFrom, activeStory, mul_assoc]

theorem storyFrom_absent :
    storyFrom absent = 1 + {[.cleared]} * storyFrom absent + {[.added]} * storyFrom active :=
  kstar_mul_add_one _ _

theorem storyFrom_inactive :
    storyFrom inactive =
      1 + {[.cleared]} * storyFrom inactive + {[.reactivated]} * storyFrom active :=
  kstar_mul_add_one _ _

theorem storyFrom_active :
    storyFrom active =
      1 + {[.updated]} * storyFrom active + ({[.removed]} + {[.cleared]}) * storyFrom inactive := by
  have hrest : Status.rest.matches' = ({[.removed]} + {[.cleared]}) * {[.cleared]}∗ := rfl
  -- After the updates the story ends, or the row is taken out for good or to be put back.
  have hput : (Status.rest.matches' * {[.reactivated]} * {[.updated]}∗)∗ *
      (Status.rest.matches' + 1) =
        1 + ({[.removed]} + {[.cleared]}) * storyFrom inactive := by
    rw [kstar_mul_eq, storyFrom, hrest]
    simp only [activeStory, hrest, mul_add, mul_assoc, mul_one]
    ac_rfl
  have hactive : storyFrom active =
      {[.updated]}∗ * (1 + ({[.removed]} + {[.cleared]}) * storyFrom inactive) := by
    rw [← hput, storyFrom, activeStory, mul_assoc]
  conv_lhs => rw [hactive, kstar_mul_eq, ← hactive]
  ac_rfl

theorem nil_mem_storyFrom (state : RowState) : [] ∈ state.storyFrom := by
  have hone : ∀ l m : Language Status, [] ∈ 1 + l + m := fun _ _ => Or.inl (Or.inl rfl)
  cases state with
  | absent => rw [storyFrom_absent]; exact hone _ _
  | active => rw [storyFrom_active]; exact hone _ _
  | inactive => rw [storyFrom_inactive]; exact hone _ _

/-- What is left of a story begins with a status that can be given. -/
theorem cons_mem_storyFrom {state : RowState} {status : Status} {word : List Status} :
    status :: word ∈ state.storyFrom ↔
      ∃ next, state.after? status = some next ∧ word ∈ next.storyFrom := by
  have hone : status :: word ∉ (1 : Language Status) := by simp [Language.mem_one]
  cases state with
  | absent =>
      rw [storyFrom_absent]
      simp only [Language.mem_add, hone, false_or, cons_mem_letter_mul]
      cases status <;> simp [after?]
  | active =>
      rw [storyFrom_active]
      simp only [Language.mem_add, add_mul, hone, false_or, cons_mem_letter_mul]
      cases status <;> simp [after?]
  | inactive =>
      rw [storyFrom_inactive]
      simp only [Language.mem_add, hone, false_or, cons_mem_letter_mul]
      cases status <;> simp [after?]

/-- The automaton reads the language. -/
theorem mem_storyFrom_iff {state : RowState} {word : List Status} :
    word ∈ state.storyFrom ↔ (state.follow? word).isSome := by
  induction word generalizing state with
  | nil => simp [nil_mem_storyFrom, follow?]
  | cons status word ih =>
      rw [cons_mem_storyFrom, follow?]
      cases state.after? status <;> simp [ih]

end RowState

/-! ### The row -/

/-- The quantity that a step carries. -/
def Step.quantity? : Step → Option Int
  | add n | update n => some n
  | remove | clear => none

/-- A step that is given a status, where the status can be given. -/
def Status.step : Status → Step
  | added | reactivated => .add 1
  | updated => .update 1
  | removed => .remove
  | cleared => .clear

namespace Step

variable {step : Step} {row after : Option Holding} {status : Status}

/-- The status of a step says which state it was taken in and which one it leaves. -/
theorem after?_of_take (h : step.take row = (.ok status, after)) :
    (Holding.state row).after? status = some (Holding.state after) := by
  obtain ⟨hlegal, rfl⟩ := take_eq_ok.mp h
  cases row with
  | none => cases step <;> cases hlegal <;> rfl
  | some old =>
      obtain ⟨active, quantity⟩ := old
      cases active <;> cases step <;> cases hlegal <;> rfl

theorem take_of_after? {next : RowState} (h : (Holding.state row).after? status = some next) :
    ∃ after, status.step.take row = (.ok status, after) ∧ Holding.state after = next := by
  cases row with
  | none => cases status <;> cases h <;> exact ⟨_, rfl, rfl⟩
  | some old =>
      obtain ⟨active, quantity⟩ := old
      cases active <;> cases status <;> cases h <;> exact ⟨_, rfl, rfl⟩

/-! ### Runs -/

/-- The steps of a run that succeed, each with its status. -/
def successes (row : Option Holding) (steps : List Step) : List (Step × Status) :=
  (steps.zip (replay row steps)).filterMap fun taken =>
    taken.2.1.toOption.map fun status => (taken.1, status)

theorem successes_cons (row : Option Holding) (step : Step) (steps : List Step) :
    successes row (step :: steps) =
      ((step.take row).1.toOption.map fun status => (step, status)).toList ++
        successes (step.take row).2 steps := by
  rw [successes, replay, List.zip_cons_cons, List.filterMap_cons]
  cases (step.take row).1.toOption <;> rfl

theorem successes_concat (row : Option Holding) (steps : List Step) (step : Step) :
    successes row (steps ++ [step]) =
      successes row steps ++
        ((step.take (leave row steps)).1.toOption.map fun status => (step, status)).toList := by
  induction steps generalizing row with
  | nil =>
      rw [List.nil_append, successes_cons]
      exact List.append_nil _
  | cons first rest ih => simp [successes_cons, ih, leave]

/-- The word of a run leads to the state of the row after it. -/
theorem follow?_successes (row : Option Holding) (steps : List Step) :
    (Holding.state row).follow? ((successes row steps).map Prod.snd) =
      some (Holding.state (leave row steps)) := by
  induction steps generalizing row with
  | nil => rfl
  | cons step rest ih =>
      rw [successes_cons]
      rcases htake : step.take row with ⟨e | status, after⟩
      · obtain ⟨-, rfl⟩ := take_eq_error.mp htake
        simpa [Except.toOption, leave, htake] using ih after
      · simpa [Except.toOption, leave, htake, RowState.follow?, after?_of_take htake] using ih after

/-- A run without a failing step tells the word that its verdicts are. -/
theorem successes_of_verdicts {steps : List Step} {word : List Status}
    (h : (replay row steps).map Prod.fst = word.map .ok) :
    (successes row steps).map Prod.snd = word := by
  induction steps generalizing row word with
  | nil =>
      cases word with
      | nil => rfl
      | cons status word => cases h
  | cons step rest ih =>
      cases word with
      | nil => cases h
      | cons status word =>
          obtain ⟨hfirst, hrest⟩ := List.cons.inj h
          rw [successes_cons, hfirst, List.map_append, ih hrest]
          rfl

/-- A word that the automaton reads is told by a run without a failing step. -/
theorem verdicts_of_follow? {word : List Status} {state : RowState}
    (h : (Holding.state row).follow? word = some state) :
    (replay row (word.map Status.step)).map Prod.fst = word.map .ok := by
  induction word generalizing row with
  | nil => rfl
  | cons status word ih =>
      obtain ⟨next, hnext, hword⟩ := Option.bind_eq_some_iff.mp h
      obtain ⟨after, htake, rfl⟩ := take_of_after? hnext
      simp only [List.map_cons, replay, htake, ih hword]

/-- The row that the successes of a run dictate: there is one as soon as it was added, and the
last success says what it holds. -/
def dictated (done : List (Step × Status)) : Option Holding :=
  if .added ∈ done.map Prod.snd then
    done.getLast?.map fun last =>
      if last.2 = .removed ∨ last.2 = .cleared then .tombstone else ⟨true, last.1.quantity?⟩
  else none

theorem dictated_eq_none {done : List (Step × Status)} :
    dictated done = none ↔ .added ∉ done.map Prod.snd := by
  unfold dictated
  split
  · next h =>
    have hne : done ≠ [] := by
      rintro rfl
      cases h
    simpa [h] using hne
  · next h => simp [h]

theorem dictated_concat (done : List (Step × Status)) (step : Step) (status : Status) :
    dictated (done ++ [(step, status)]) =
      if .added ∈ done.map Prod.snd ∨ status = .added then
        if status = .removed ∨ status = .cleared then some .tombstone
        else some ⟨true, step.quantity?⟩
      else none := by
  unfold dictated
  simp only [List.map_append, List.map_cons, List.map_nil, List.mem_append, List.mem_singleton,
    List.getLast?_concat, Option.map_some, eq_comm (a := Status.added)]
  split
  · split <;> rfl
  · rfl

/-- One more success dictates what the step makes of the row that was dictated before. -/
theorem dictated_of_take {done : List (Step × Status)}
    (h : step.take (dictated done) = (.ok status, after)) :
    dictated (done ++ [(step, status)]) = after := by
  rw [dictated_concat]
  obtain ⟨hlegal, rfl⟩ := take_eq_ok.mp h
  cases hrow : dictated done with
  | none =>
      have hnew := dictated_eq_none.mp hrow
      rw [hrow] at hlegal
      cases step <;> cases hlegal <;> simp [hnew, apply, quantity?, Holding.inCart]
  | some old =>
      have hadded : Status.added ∈ done.map Prod.snd := by
        by_contra hnew
        rw [dictated_eq_none.mpr hnew] at hrow
        cases hrow
      rw [hrow] at hlegal
      obtain ⟨active, quantity⟩ := old
      cases active <;> cases step <;> cases hlegal <;>
        simp [hadded, apply, quantity?, Holding.inCart, Holding.withQuantity]

/-- **A row holds what its successes dictate.** -/
theorem leave_eq_dictated (steps : List Step) :
    leave none steps = dictated (successes none steps) := by
  induction steps using List.reverseRecOn with
  | nil => rfl
  | append_singleton steps step ih =>
      have hleave : leave none (steps ++ [step]) = (step.take (leave none steps)).2 := by
        simp [leave]
      rw [hleave, successes_concat]
      rcases htake : step.take (leave none steps) with ⟨e | status, after⟩
      · obtain ⟨-, rfl⟩ := take_eq_error.mp htake
        simpa [Except.toOption] using ih
      · rw [ih] at htake
        exact (dictated_of_take htake).symm

end Step

/-! ### What a word shows -/

namespace RowState

variable {state next : RowState} {word : List Status}

/-- Where there is a row, it is not added again. -/
theorem not_mem_added_of_follow? (hne : state ≠ absent) (h : state.follow? word = some next) :
    .added ∉ word := by
  induction word generalizing state with
  | nil => simp
  | cons status word ih =>
      obtain ⟨mid, hmid, hword⟩ := Option.bind_eq_some_iff.mp h
      have hmid' : status ≠ .added ∧ mid ≠ absent := by
        cases state <;> cases status <;> cases hmid <;> simp_all
      simpa [hmid'.1.symm] using ih hmid'.2 hword

theorem count_added_le_of_follow? (h : state.follow? word = some next) :
    word.count .added ≤ 1 := by
  induction word generalizing state with
  | nil => simp
  | cons status word ih =>
      obtain ⟨mid, hmid, hword⟩ := Option.bind_eq_some_iff.mp h
      by_cases hadded : status = .added
      · subst hadded
        have hne : mid ≠ absent := by
          cases state <;> cases hmid
          simp
        rw [List.count_cons_self, List.count_eq_zero.mpr (not_mem_added_of_follow? hne hword)]
      · rw [List.count_cons_of_ne (by simpa using hadded)]
        exact ih hword

/-- A row in the cart stays there until it is removed or cleared. -/
theorem eq_active_of_follow? (h : active.follow? word = some next)
    (hkept : ∀ status ∈ word, status ≠ .removed ∧ status ≠ .cleared) : next = active := by
  induction word with
  | nil => exact (Option.some.inj h).symm
  | cons status word ih =>
      obtain ⟨mid, hmid, hword⟩ := Option.bind_eq_some_iff.mp h
      have hstatus := hkept status (List.mem_cons_self ..)
      obtain rfl : mid = active := by
        cases status <;> cases hmid <;> simp_all
      exact ih hword fun status' hmem => hkept status' (List.mem_cons_of_mem _ hmem)

end RowState

/-- Whether a status is that of an add. -/
def Status.isAdd : Status → Bool
  | added | reactivated => true
  | updated | removed | cleared => false

namespace RowState

theorem after?_isAdd {state next : RowState} {status : Status} (hadd : status.isAdd = true)
    (h : state.after? status = some next) : state ≠ active ∧ next = active := by
  cases state <;> cases status <;> cases h <;> simp_all [Status.isAdd]

/-- Between two adds the row was taken out of the cart. -/
theorem exists_removed_between {state next : RowState} {past between later : List Status}
    {x y : Status} (hx : x.isAdd = true) (hy : y.isAdd = true)
    (h : state.follow? (past ++ x :: between ++ y :: later) = some next) :
    ∃ z ∈ between, z = .removed ∨ z = .cleared := by
  by_contra hkept
  simp only [not_exists, not_and, not_or] at hkept
  simp only [List.append_assoc, List.cons_append, follow?_append, follow?,
    Option.bind_eq_some_iff] at h
  obtain ⟨before, -, first, hfirst, last, hlast, final, hfinal, -⟩ := h
  obtain ⟨-, rfl⟩ := after?_isAdd hx hfirst
  obtain rfl := eq_active_of_follow? hlast hkept
  exact (after?_isAdd hy hfinal).1 rfl

end RowState

/-- **The statuses of one row are the words of a regular language**, and all words of it are
told by runs, also by ones in which no step fails.  The row after a run is the one that its
successes dictate; it is added at most once, and between two adds it is taken out. -/
theorem Step.told_story :
    (∀ word, word ∈ Status.story.matches' ↔
      ∃ steps, (replay none steps).map Prod.fst = word.map .ok) ∧
    ∀ steps,
      let word := (successes none steps).map Prod.snd
      word ∈ Status.story.matches' ∧
        leave none steps = dictated (successes none steps) ∧
        word.count .added ≤ 1 ∧
        ∀ past x between y later, word = past ++ x :: between ++ y :: later →
          x.isAdd = true → y.isAdd = true → ∃ z ∈ between, z = .removed ∨ z = .cleared := by
  have hread : ∀ word, word ∈ Status.story.matches' ↔ (RowState.absent.follow? word).isSome := by
    intro word
    rw [RowState.matches'_story, RowState.mem_storyFrom_iff]
  constructor
  · intro word
    rw [hread, Option.isSome_iff_exists]
    constructor
    · rintro ⟨state, hstate⟩
      have habsent : (Holding.state none).follow? word = some state := hstate
      exact ⟨_, verdicts_of_follow? habsent⟩
    · rintro ⟨steps, hsteps⟩
      rw [← successes_of_verdicts hsteps]
      exact ⟨_, follow?_successes none steps⟩
  · intro steps word
    have hword : RowState.absent.follow? word = some (Holding.state (leave none steps)) :=
      follow?_successes none steps
    refine ⟨(hread word).mpr (hword ▸ rfl), leave_eq_dictated steps,
      RowState.count_added_le_of_follow? hword, ?_⟩
    intro past x between y later heq hx hy
    rw [heq] at hword
    exact RowState.exists_removed_between hx hy hword

/-- A cart is cleared before the row is there; the row is added, added once more in vain, taken
out and put back. -/
theorem Step.told_story_of_readd :
    let steps := [.clear, .add 3, .add 4, .update 5, .remove, .add 1]
    let word : List Status := [.cleared, .added, .updated, .removed, .reactivated]
    (successes none steps).map Prod.snd = word ∧ word ∈ Status.story.matches' ∧
      leave none steps = some (.inCart 1) ∧ word.count .added ≤ 1 ∧
      ∃ z ∈ [.updated, .removed], z = Status.removed ∨ z = Status.cleared := by
  intro steps word
  have hword : (successes none steps).map Prod.snd = word := by decide
  obtain ⟨hstory, hrow, hcount, hbetween⟩ := told_story.2 steps
  rw [hword] at hstory hcount hbetween
  exact ⟨hword, hstory, hrow.trans (by decide), hcount,
    hbetween [.cleared] .added [.updated, .removed] .reactivated [] rfl rfl rfl⟩

end Storefront
