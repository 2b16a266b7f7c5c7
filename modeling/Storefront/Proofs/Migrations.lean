/-
Up and down again.

A database takes an operation when what it builds is not there and what it needs is (`Takes`).  An
operation that builds something can be taken back right after it was taken, and then nothing is left
of it (`apply_undo`); so a list of them can be taken back as a whole, last things first
(`run_undone`).  To take the schema down is to take back what built it up (`downgrade_eq_undone`).

What an empty database takes, a database takes that has other things of other names
(`takesAll_beside`), so the schema can be built up beside them.  A history of commands, refused ones
among them, then leaves a database with those things and what its stage says.
-/
import Mathlib.Data.List.Basic
import Storefront.Migration.History

namespace Storefront.Migration

/-! ### What a database takes -/

/-- The name of something in a database.  A table and an index may not have the same one, but a type
may be called like either. -/
inductive Name where
  | type (name : String)
  | relation (name : String)
  deriving DecidableEq, Repr

namespace Catalogue

/-- The names that are taken. -/
def names (c : Catalogue) : List Name :=
  c.types.map (.type ·.1) ++ c.tables.map (.relation ·.name) ++ c.indexes.map (.relation ·.name)

end Catalogue

/-- The types that the columns of a table are of, as far as they have to be there. -/
def Table.enumerated (t : Table) : List String :=
  t.columns.filterMap fun c =>
    match c.type with
    | .enumerated name => some name
    | _ => none

namespace Catalogue

/-- A database takes an operation: what it builds has a name that is free and needs nothing that is
not there, or what it drops is there and nothing that stays needs it. -/
def Takes (c : Catalogue) : Operation → Prop
  | .createType name _ => .type name ∉ c.names
  | .createTable t =>
    .relation t.name ∉ c.names ∧ (∀ name ∈ t.enumerated, name ∈ c.types.map Prod.fst) ∧
      ∀ k ∈ t.foreignKeys, k.table ∈ t.name :: c.tables.map Table.name
  | .createIndex i =>
    .relation i.name ∉ c.names ∧ ∃ t ∈ c.tables, t.name = i.table ∧
      i.column ∈ t.columns.map Column.name
  | .dropIndex name => name ∈ c.indexes.map Index.name
  | .dropTable name =>
    name ∈ c.tables.map Table.name ∧
      ∀ t ∈ c.tables, t.name ≠ name → ∀ k ∈ t.foreignKeys, k.table ≠ name
  | .dropType name => name ∈ c.types.map Prod.fst ∧ ∀ t ∈ c.tables, name ∉ t.enumerated

instance (c : Catalogue) (o : Operation) : Decidable (c.Takes o) := by
  cases o <;> unfold Takes <;> infer_instance

/-- A database takes some operations one after another. -/
def TakesAll : Catalogue → List Operation → Prop
  | _, [] => True
  | c, o :: os => c.Takes o ∧ (c.apply o).TakesAll os

instance decidableTakesAll : (c : Catalogue) → (os : List Operation) → Decidable (c.TakesAll os)
  | _, [] => .isTrue trivial
  | c, o :: os =>
    have := decidableTakesAll (c.apply o) os
    inferInstanceAs (Decidable (c.Takes o ∧ (c.apply o).TakesAll os))

/-- Nothing in a database needs what is not there. -/
structure Sound (c : Catalogue) : Prop where
  indexed : ∀ i ∈ c.indexes, i.table ∈ c.tables.map Table.name
  referred : ∀ t ∈ c.tables, ∀ k ∈ t.foreignKeys, k.table ∈ c.tables.map Table.name
  typed : ∀ t ∈ c.tables, ∀ name ∈ t.enumerated, name ∈ c.types.map Prod.fst

variable {c d : Catalogue}

theorem type_mem_names {name : String} :
    .type name ∈ c.names ↔ name ∈ c.types.map Prod.fst := by
  simp [names]

theorem relation_mem_names {name : String} :
    .relation name ∈ c.names ↔
      name ∈ c.tables.map Table.name ∨ name ∈ c.indexes.map Index.name := by
  simp [names]

theorem run_append (c : Catalogue) (os os' : List Operation) :
    c.run (os ++ os') = (c.run os).run os' :=
  List.foldl_append

theorem takesAll_append {os os' : List Operation} :
    c.TakesAll (os ++ os') ↔ c.TakesAll os ∧ (c.run os).TakesAll os' := by
  induction os generalizing c with
  | nil => simp [TakesAll, run]
  | cons o os ih =>
      simp only [List.cons_append, TakesAll, ih, and_assoc]
      rfl

end Catalogue

/-! ### Taking back -/

/-- The operation that takes back what another one builds. -/
def Operation.undo? : Operation → Option Operation
  | createType name _ => some (.dropType name)
  | createTable t => some (.dropTable t.name)
  | createIndex i => some (.dropIndex i.name)
  | dropIndex _ | dropTable _ | dropType _ => none

/-- The operations that take back what others build, last things first. -/
def undone (os : List Operation) : List Operation :=
  os.reverse.filterMap Operation.undo?

theorem undone_cons {o o' : Operation} (h : o.undo? = some o') (os : List Operation) :
    undone (o :: os) = undone os ++ [o'] := by
  simp [undone, h]

/-- To take the schema down is to take back what built it up. -/
theorem downgrade_eq_undone : downgrade = undone upgrade := by
  decide

namespace Catalogue

variable {c d : Catalogue}

/-- What comes last can be dropped by its name if the name is there once. -/
theorem filter_concat {α : Type} (name : α → String) {xs : List α} {x : α}
    (h : name x ∉ xs.map name) : (xs ++ [x]).filter (name · != name x) = xs := by
  have hkept : xs.filter (name · != name x) = xs := by
    refine List.filter_eq_self.mpr fun y hy => bne_iff_ne.mpr ?_
    exact fun heq => h (heq ▸ List.mem_map_of_mem hy)
  rw [List.filter_append, hkept]
  simp

/-- An operation that builds something and is taken leaves nothing unmet. -/
theorem Sound.apply {o o' : Operation} (hc : c.Sound) (h : c.Takes o) (ho : o.undo? = some o') :
    (c.apply o).Sound := by
  obtain ⟨hindexed, hreferred, htyped⟩ := hc
  cases o with
  | createType name values =>
      have hfree : name ∉ c.types.map Prod.fst := fun hmem => h (type_mem_names.mpr hmem)
      rw [Catalogue.apply, if_neg hfree]
      refine ⟨hindexed, hreferred, fun t ht n hn => ?_⟩
      rw [List.map_append]
      exact List.mem_append_left _ (htyped t ht n hn)
  | createTable t =>
      obtain ⟨-, htypes, hkeys⟩ := h
      have hgrown : ∀ name, name ∈ (c.tables ++ [t]).map Table.name ↔
          name ∈ t.name :: c.tables.map Table.name := by
        intro name
        simp [or_comm]
      refine ⟨fun i hi => ?_, fun u hu k hk => ?_, fun u hu n hn => ?_⟩
      · exact (hgrown _).mpr (List.mem_cons_of_mem _ (hindexed i hi))
      · rcases List.mem_append.mp hu with hold | hnew
        · exact (hgrown _).mpr (List.mem_cons_of_mem _ (hreferred u hold k hk))
        · obtain rfl := List.mem_singleton.mp hnew
          exact (hgrown _).mpr (hkeys k hk)
      · rcases List.mem_append.mp hu with hold | hnew
        · exact htyped u hold n hn
        · obtain rfl := List.mem_singleton.mp hnew
          exact htypes n hn
  | createIndex i =>
      obtain ⟨-, t, ht, htable, -⟩ := h
      refine ⟨fun j hj => ?_, hreferred, htyped⟩
      rcases List.mem_append.mp hj with hold | hnew
      · exact hindexed j hold
      · obtain rfl := List.mem_singleton.mp hnew
        exact htable ▸ List.mem_map_of_mem ht
  | dropIndex name | dropTable name | dropType name => cases ho

/-- What was built can be taken back at once, and then nothing is left of it. -/
theorem apply_undo {o o' : Operation} (hc : c.Sound) (h : c.Takes o) (ho : o.undo? = some o') :
    (c.apply o).Takes o' ∧ (c.apply o).apply o' = c := by
  cases o with
  | createType name values =>
      obtain rfl := Option.some.inj ho
      have hfree : name ∉ c.types.map Prod.fst := fun hmem => h (type_mem_names.mpr hmem)
      rw [Catalogue.apply, if_neg hfree]
      refine ⟨⟨by simp, fun t ht hn => hfree (hc.typed t ht name hn)⟩, ?_⟩
      simp only [Catalogue.apply, filter_concat Prod.fst (x := (name, values)) hfree]
  | createTable t =>
      obtain rfl := Option.some.inj ho
      obtain ⟨hfree, -, -⟩ := h
      have htables : t.name ∉ c.tables.map Table.name := fun hmem =>
        hfree (relation_mem_names.mpr (Or.inl hmem))
      have hindexes : c.indexes.filter (·.table != t.name) = c.indexes := by
        refine List.filter_eq_self.mpr fun i hi => bne_iff_ne.mpr ?_
        exact fun heq => htables (heq ▸ hc.indexed i hi)
      refine ⟨⟨by simp [Catalogue.apply], fun u hu hne k hk heq => ?_⟩, ?_⟩
      · -- A table that was there refers to tables that were there.
        rcases List.mem_append.mp hu with hold | hnew
        · exact htables (heq ▸ hc.referred u hold k hk)
        · exact hne (List.mem_singleton.mp hnew ▸ rfl)
      · simp only [Catalogue.apply, filter_concat Table.name htables, hindexes]
  | createIndex i =>
      obtain rfl := Option.some.inj ho
      obtain ⟨hfree, -⟩ := h
      have hindexes : i.name ∉ c.indexes.map Index.name := fun hmem =>
        hfree (relation_mem_names.mpr (Or.inr hmem))
      refine ⟨by simp [Catalogue.apply, Takes], ?_⟩
      simp only [Catalogue.apply, filter_concat Index.name hindexes]
  | dropIndex name | dropTable name | dropType name => cases ho

/-- **What was built can be taken back**, last things first, and then nothing is left of it. -/
theorem run_undone {os : List Operation} (hc : c.Sound) (h : c.TakesAll os)
    (hbuild : ∀ o ∈ os, o.undo?.isSome = true) :
    (c.run os).Sound ∧ (c.run os).TakesAll (undone os) ∧ (c.run os).run (undone os) = c := by
  induction os generalizing c with
  | nil => exact ⟨hc, trivial, rfl⟩
  | cons o os ih =>
      obtain ⟨hfirst, hrest⟩ := h
      obtain ⟨o', ho⟩ := Option.isSome_iff_exists.mp (hbuild o List.mem_cons_self)
      obtain ⟨htakes, hback⟩ := apply_undo hc hfirst ho
      obtain ⟨hsound, hall, hrun⟩ :=
        ih (hc.apply hfirst ho) hrest fun p hp => hbuild p (List.mem_cons_of_mem o hp)
      have hundone : ((c.apply o).run os).TakesAll (undone os ++ [o']) := by
        rw [takesAll_append, hrun]
        exact ⟨hall, htakes, trivial⟩
      have hstart : ((c.apply o).run os).run (undone os ++ [o']) = c := by
        rw [run_append, hrun]
        exact hback
      rw [undone_cons ho]
      exact ⟨hsound, hundone, hstart⟩

/-! ### Beside other things -/

/-- What two databases hold, in one. -/
def beside (c d : Catalogue) : Catalogue :=
  ⟨c.types ++ d.types, c.tables ++ d.tables, c.indexes ++ d.indexes⟩

theorem beside_empty (c : Catalogue) : c.beside .empty = c := by
  simp [beside, empty]

theorem mem_names_beside {n : Name} : n ∈ (c.beside d).names ↔ n ∈ c.names ∨ n ∈ d.names := by
  simp only [names, beside, List.map_append, List.mem_append]
  grind

end Catalogue

/-- The name of what an operation builds. -/
def Operation.name? : Operation → Option Name
  | createType name _ => some (.type name)
  | createTable t => some (.relation t.name)
  | createIndex i => some (.relation i.name)
  | dropIndex _ | dropTable _ | dropType _ => none

namespace Catalogue

variable {c d : Catalogue}

/-- What a database takes, it takes beside things of other names, and does not touch them. -/
theorem takes_beside {o : Operation} {n : Name} (hname : o.name? = some n) (hfree : n ∉ c.names)
    (h : d.Takes o) : (c.beside d).Takes o ∧ (c.beside d).apply o = c.beside (d.apply o) := by
  have hfree' : n ∉ d.names → n ∉ (c.beside d).names := fun hd hmem =>
    (mem_names_beside.mp hmem).elim hfree hd
  cases o with
  | createType name values =>
      obtain rfl := Option.some.inj hname
      have hd : name ∉ d.types.map Prod.fst := fun hmem => h (type_mem_names.mpr hmem)
      have hboth : name ∉ (c.beside d).types.map Prod.fst := fun hmem =>
        hfree' h (type_mem_names.mpr hmem)
      refine ⟨hfree' h, ?_⟩
      rw [Catalogue.apply, Catalogue.apply, if_neg hd, if_neg hboth]
      simp [beside]
  | createTable t =>
      obtain rfl := Option.some.inj hname
      obtain ⟨hnew, htypes, hkeys⟩ := h
      refine ⟨⟨hfree' hnew, fun n hn => ?_, fun k hk => ?_⟩, by simp [Catalogue.apply, beside]⟩
      · simpa [beside] using Or.inr (List.mem_map.mp (htypes n hn))
      · have hkey := hkeys k hk
        simp only [beside, List.map_append, List.mem_cons, List.mem_append] at hkey ⊢
        exact hkey.imp_right Or.inr
  | createIndex i =>
      obtain rfl := Option.some.inj hname
      obtain ⟨hnew, t, ht, htable, hcolumn⟩ := h
      refine ⟨⟨hfree' hnew, t, List.mem_append_right _ ht, htable, hcolumn⟩, ?_⟩
      simp [Catalogue.apply, beside]
  | dropIndex name | dropTable name | dropType name => cases hname

theorem takesAll_beside {os : List Operation} (h : d.TakesAll os)
    (hfree : ∀ o ∈ os, ∃ n, o.name? = some n ∧ n ∉ c.names) : (c.beside d).TakesAll os := by
  induction os generalizing d with
  | nil => trivial
  | cons o os ih =>
      obtain ⟨hfirst, hrest⟩ := h
      obtain ⟨n, hname, hn⟩ := hfree o List.mem_cons_self
      obtain ⟨htakes, happly⟩ := takes_beside hname hn hfirst
      refine ⟨htakes, ?_⟩
      rw [happly]
      exact ih hrest fun p hp => hfree p (List.mem_cons_of_mem o hp)

/-- A database in which the schema can be built up: nothing is missing, and none of its names is
taken. -/
structure Vacant (c : Catalogue) : Prop extends c.Sound where
  free : ∀ o ∈ upgrade, ∃ n, o.name? = some n ∧ n ∉ c.names

theorem vacant_empty : Catalogue.empty.Vacant where
  indexed := nofun
  referred := nofun
  typed := nofun
  free := by
    intro o ho
    have hnamed : ∀ o ∈ upgrade, o.name?.isSome = true := by decide
    obtain ⟨n, hn⟩ := Option.isSome_iff_exists.mp (hnamed o ho)
    exact ⟨n, hn, List.not_mem_nil⟩

/-- **The schema can be built up and taken down again**: each operation is taken, and what was there
before is there after it. -/
theorem downgrade_undoes_upgrade (hc : c.Vacant) :
    c.TakesAll upgrade ∧ (c.run upgrade).Sound ∧ (c.run upgrade).TakesAll downgrade ∧
      (c.run upgrade).run downgrade = c := by
  have hempty : Catalogue.empty.TakesAll upgrade := by decide
  have htaken : c.TakesAll upgrade := by
    rw [← beside_empty c]
    exact takesAll_beside hempty hc.free
  rw [downgrade_eq_undone]
  exact ⟨htaken, run_undone hc.toSound htaken (by decide)⟩

end Catalogue

/-! ### Where commands lead -/

namespace Command

variable {start finish : Stage} {target : RawText}

theorem destination_upgrade (h : upgrade.destination start target = .ok finish) :
    ∃ s, upgradeTarget start (.ofText target) = .ok s ∧
      finish = if s.height ≤ start.height then start else s := by
  unfold destination at h
  cases hs : upgradeTarget start (.ofText target) with
  | error e =>
      rw [hs] at h
      cases h
  | ok s =>
      rw [hs] at h
      exact ⟨s, rfl, (Except.ok.inj h).symm⟩

theorem destination_downgrade (h : downgrade.destination start target = .ok finish) :
    downgradeTarget start (.ofText target) = .ok finish ∧ finish.height ≤ start.height := by
  unfold destination at h
  cases hs : downgradeTarget start (.ofText target) with
  | error e =>
      rw [hs] at h
      cases h
  | ok s =>
      rw [hs] at h
      simp only [bind, Except.bind] at h
      split at h
      · next hbelow =>
        obtain rfl := Except.ok.inj h
        exact ⟨rfl, hbelow⟩
      · cases h

/-- Whether a command may lead from one stage to another: an upgrade never leads down, and a
downgrade never up. -/
def MayLead (start finish : Stage) : Command → Prop
  | upgrade => start.height ≤ finish.height
  | downgrade => finish.height ≤ start.height

theorem mayLead_of_destination {c : Command} (h : c.destination start target = .ok finish) :
    c.MayLead start finish := by
  cases c with
  | upgrade =>
      obtain ⟨s, -, rfl⟩ := destination_upgrade h
      show start.height ≤ Stage.height _
      split
      · exact Nat.le_refl _
      · next habove => exact Nat.le_of_not_le habove
  | downgrade => exact (destination_downgrade h).2

/-- A command to a place that is named, and not told in steps, stays where it led. -/
theorem destination_again {c : Command} {name : RawText}
    (htarget : Target.ofText target = .named name)
    (h : c.destination start target = .ok finish) : c.destination finish target = .ok finish := by
  cases c with
  | upgrade =>
      obtain ⟨s, hs, rfl⟩ := destination_upgrade h
      rw [htarget] at hs
      have hagain : ∀ start, upgrade.destination start target =
          .ok (if s.height ≤ start.height then start else s) := by
        intro start
        rw [destination, htarget, upgradeTarget, show locateAll name = .ok s from hs]
        rfl
      rw [hagain]
      by_cases hbelow : s.height ≤ start.height <;> simp [hbelow]
  | downgrade =>
      obtain ⟨hs, -⟩ := destination_downgrade h
      rw [htarget] at hs
      have hlocate : locate (afterBranches name) = .ok finish := hs
      rw [destination, htarget, downgradeTarget, hlocate]
      exact if_pos (Nat.le_refl _)

end Command

/-! ### Histories -/

/-- What a database holds at a stage that held other things before. -/
def Stage.over (c : Catalogue) : Stage → Catalogue
  | base => c
  | latest => c.run upgrade

theorem takesAll_operations {c : Catalogue} (hc : c.Vacant) (start finish : Stage) :
    (start.over c).TakesAll (operations start finish) ∧
      (start.over c).run (operations start finish) = finish.over c := by
  obtain ⟨hup, -, hdown, hback⟩ := Catalogue.downgrade_undoes_upgrade hc
  match start, finish with
  | .base, .base | .latest, .latest => exact ⟨trivial, rfl⟩
  | .base, .latest => exact ⟨hup, rfl⟩
  | .latest, .base => exact ⟨hdown, hback⟩

namespace Database

variable {c : Catalogue} {d d' : Database} {command : Command} {target : RawText}

/-- A database after a command: what the command makes of it, or the same when it is refused. -/
def after (d : Database) (command : Command × RawText) : Database :=
  (d.run command.1 command.2).toOption.getD d

theorem of_run (h : d.run command target = .ok d') :
    command.destination d.stage target = .ok d'.stage ∧
      d'.catalogue = d.catalogue.run (operations d.stage d'.stage) := by
  unfold run at h
  split at h
  · cases h
  · cases hfinish : command.destination d.stage target with
    | error e =>
        rw [hfinish] at h
        cases h
    | ok finish =>
        rw [hfinish] at h
        obtain rfl := Except.ok.inj h
        exact ⟨rfl, rfl⟩

/-- A command leads where it may lead; the database takes each of its operations and then holds what
its new stage says. -/
theorem run_holds (hc : c.Vacant) (hd : d.catalogue = d.stage.over c)
    (h : d.run command target = .ok d') :
    command.MayLead d.stage d'.stage ∧ d.catalogue.TakesAll (operations d.stage d'.stage) ∧
      d'.catalogue = d'.stage.over c := by
  obtain ⟨hfinish, hcatalogue⟩ := of_run h
  obtain ⟨htaken, hover⟩ := takesAll_operations hc d.stage d'.stage
  rw [hcatalogue, hd]
  exact ⟨Command.mayLead_of_destination hfinish, htaken, hover⟩

/-- **Whatever commands are run, refused or not, a database holds what its stage says**, beside what
it held before them. -/
theorem history_holds (hc : c.Vacant) (commands : List (Command × RawText))
    (hd : d.catalogue = d.stage.over c) :
    (commands.foldl after d).catalogue = (commands.foldl after d).stage.over c := by
  induction commands generalizing d with
  | nil => exact hd
  | cons command commands ih =>
      refine ih ?_
      unfold after
      cases hrun : d.run command.1 command.2 with
      | error e => exact hd
      | ok d' => exact (run_holds hc hd hrun).2.2

/-- A new database that commands have brought back to the base holds nothing. -/
theorem catalogue_of_base (commands : List (Command × RawText))
    (h : (commands.foldl after new).stage = .base) :
    (commands.foldl after new).catalogue = .empty := by
  have hholds := history_holds Catalogue.vacant_empty commands (d := new) rfl
  rwa [h] at hholds

end Database

end Storefront.Migration
