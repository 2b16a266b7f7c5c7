/-
Moving between revisions.

A command leads from one stage to another, and the operations between the two build the schema
up or take it down.  Where a command leads is decided before anything is done, so a command that
fails changes nothing.  A command runs on a database, or is written as the statements that it
would send to one.
-/
import Storefront.Migration.Catalogue
import Storefront.Migration.Revision
import Storefront.Migration.Statement
import Storefront.Text.Split

namespace Storefront.Migration

/-- A command that moves a database. -/
inductive Command where
  | upgrade
  | downgrade
  deriving DecidableEq, Repr

/-- The command with a name. -/
def Command.ofText? : String → Option Command
  | "upgrade" => some upgrade
  | "downgrade" => some downgrade
  | _ => none

namespace Stage

/-- The steps from the base. -/
def height : Stage → Nat
  | base => 0
  | latest => 1

/-- The rows of the version table. -/
def versions : Stage → List String
  | base => []
  | latest => [revisionName]

end Stage

/-- The operations between two stages. -/
def operations : Stage → Stage → List Operation
  | .base, .latest => upgrade
  | .latest, .base => downgrade
  | _, _ => []

/-! ### Upgrades -/

/-- The end of a walk that has to be a revision. -/
def reached : Option Foothold → Except CommandError Stage
  | some .revision => .ok .latest
  | _ => .error .noRevision

/-- A reference to a name, in a branch if one is given. -/
def inBranchText (branch : Option RawText) (name : RawText) : RawText :=
  match branch with
  | none => name
  | some b => b ++ .char '@' :: name

/-- The stage that an upgrade is to reach from a stage. -/
def upgradeTarget (start : Stage) : Target → Except CommandError Stage
  | .named text => locateAll text
  | .steps branch none written count => do
    if count ≤ 0 then throw (.offSteps (toString count) count.natAbs)
    if start = .latest then withBranch branch inLineage
    match ← (Foothold.ofStage start).up branch count.natAbs with
    | some .revision => return .latest
    | _ => throw (.offSteps written count.natAbs)
  | .steps branch (some origin) _ count => do
    if 0 < count then reached (← (Foothold.ofStage (← locate origin)).up branch count.natAbs)
    else reached ((Foothold.ofStage (← locate (inBranchText branch origin))).down count.natAbs)

/-! ### Downgrades -/

/-- The end of a walk down, at the base or above it. -/
def landed? : Option Foothold → Option Stage
  | some .revision => some .latest
  | some .bottom => some .base
  | _ => none

/-- A stage that is there, or else an error. -/
def orElse (e : CommandError) : Option Stage → Except CommandError Stage
  | some s => .ok s
  | none => .error e

/-- What follows the last at sign of a text. -/
def afterBranches (text : RawText) : RawText :=
  (text.reverse.takeWhile (· != .char '@')).reverse

/-- The stage that a downgrade is to reach from a stage. -/
def downgradeTarget (start : Stage) : Target → Except CommandError Stage
  | .named text => locate (afterBranches text)
  | .steps branch none written count => do
    if 0 ≤ count then throw (.offSteps written count.natAbs)
    match start, branch with
    | .base, none => throw (.offSteps written count.natAbs)
    | .base, some _ => throw .noRevision
    | .latest, branch => do
      withBranch branch inLineage
      let origin ← locate (inBranchText branch revisionName)
      orElse (.offSteps written count.natAbs)
        (landed? ((Foothold.ofStage origin).down count.natAbs))
  | .steps branch (some origin) _ count => do
    if 0 ≤ count then
      orElse .walkedTooFar
        (landed? (← (Foothold.ofStage (← locate origin)).up branch count.natAbs))
    else
      orElse .walkedTooFar
        (landed? ((Foothold.ofStage (← locate (inBranchText branch origin))).down count.natAbs))

/-! ### Commands -/

/-- Where a command ends that starts at a stage.  An upgrade to where one is or below stays
there; a downgrade has to lead to where one is or below. -/
def Command.destination (c : Command) (start : Stage) (target : RawText) :
    Except CommandError Stage := do
  match c with
  | .upgrade => do
    let s ← upgradeTarget start (.ofText target)
    return if s.height ≤ start.height then start else s
  | .downgrade => do
    let s ← downgradeTarget start (.ofText target)
    if s.height ≤ start.height then return s else throw (.notBelow target)

/-! ### Statements of a command -/

/-- The table that holds the version of a database. -/
def createVersions : String :=
  "CREATE TABLE alembic_version ( version_num VARCHAR(32) NOT NULL, " ++
    "CONSTRAINT alembic_version_pkc PRIMARY KEY (version_num) )"

/-- Notes that the revision is there. -/
def insertVersion : String :=
  "INSERT INTO alembic_version (version_num) VALUES (" ++ literal revisionName ++
    ") RETURNING alembic_version.version_num"

/-- Notes that the revision is gone. -/
def deleteVersion : String :=
  "DELETE FROM alembic_version WHERE alembic_version.version_num = " ++ literal revisionName

/-- The statements between two stages, as one transaction. -/
def statements (start finish : Stage) : List String :=
  let changes := (operations start finish).map Operation.sql
  let body := match start, finish with
    | .base, .latest => [createVersions] ++ changes ++ [insertVersion]
    | .latest, .base => changes ++ [deleteVersion]
    | _, _ => []
  ["BEGIN"] ++ body ++ ["COMMIT"]

/-- The stage where a range starts: the base, or a revision. -/
def rangeStart (text : RawText) : Except CommandError Stage := do
  if text = "base" then return .base
  match ← locate text with
  | .latest => return .latest
  | .base => throw .noStart

/-- The statements of a command over a range, without a database.  An upgrade may leave the
start out, which is the base then. -/
def Command.script (c : Command) (range : RawText) : Except CommandError (List String) := do
  match c, Text.split (.char ':') range with
  | .upgrade, [target] => return statements .base (← c.destination .base target)
  | .downgrade, [_] => throw .needsRange
  | _, [origin, target] =>
    let start ← rangeStart origin
    return statements start (← c.destination start target)
  | _, _ => throw .manyEnds

/-! ### Databases -/

/-- A database: how far it has come, and what it holds. -/
structure Database where
  stage : Stage
  catalogue : Catalogue
  deriving DecidableEq, Repr

/-- A database that no command has run on, and that holds nothing. -/
def Database.new : Database := ⟨.base, .empty⟩

/-- Runs a command on a database. -/
def Database.run (d : Database) (c : Command) (target : RawText) :
    Except CommandError Database := do
  if target.contains (.char ':') then throw .rangeNotAllowed
  let finish ← c.destination d.stage target
  return ⟨finish, d.catalogue.run (operations d.stage finish)⟩

end Storefront.Migration
