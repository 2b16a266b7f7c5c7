/-
Naming revisions.

The history has one revision above the base.  It is named by the start of its own name, or as
the head; a name may be put into a branch, and a branch is named like a revision.  A place in
the history can also be told by steps up or down, from where one is or from a name.

Walking down starts at the head when it starts at no revision, so one step down from the base
is the revision, and one more is the bottom.
-/
import Storefront.Text.CodePoint
import Storefront.Text.Digit
import Storefront.Text.Numeral
import Storefront.Text.Word

namespace Storefront.Migration

open Text

/-- How far a database has come. -/
inductive Stage where
  | base
  | latest
  deriving DecidableEq, Repr

/-- Why a command is refused. -/
inductive CommandError where
  | unknown (name : RawText)
  | offSteps (written : String) (steps : Nat)
  | walkedTooFar
  | notBelow (name : RawText)
  | needsRange
  | rangeNotAllowed
  /-- A target is no revision, or is named by nothing. -/
  | noRevision
  /-- A range has more than two ends. -/
  | manyEnds
  /-- A range starts at no revision. -/
  | noStart
  deriving DecidableEq, Repr

/-- What is said of a refused command. -/
def CommandError.message : CommandError → RawText
  | unknown name => "Can't locate revision identified by '" ++ name ++ "'"
  | offSteps written steps =>
    "Relative revision " ++ written ++ " didn't produce " ++ toString steps ++ " migrations"
  | walkedTooFar => "Walked too far"
  | notBelow name =>
    "Destination " ++ name ++ " is not a valid downgrade target from current head(s)"
  | needsRange => "downgrade with --sql requires <fromrev>:<torev>"
  | rangeNotAllowed => "Range revision not allowed"
  | noRevision => ""
  | manyEnds => "too many values to unpack (expected 2)"
  | noStart => "'NoneType' object has no attribute 'revision'"

/-! ### Names -/

/-- The name of the one revision. -/
def revisionName : String := "0001"

/-- Fails unless a text is the start of the name of the revision. -/
def identify (name : RawText) : Except CommandError Unit :=
  if name = [] then .error .noRevision
  else if name.isPrefixOf (RawText.ofString revisionName) then .ok ()
  else .error (.unknown name)

/-- What a name stands for. -/
inductive Naming where
  | head
  | base
  | revision (name : RawText)
  deriving DecidableEq, Repr

/-- What a name without a branch stands for. -/
def Naming.ofText (name : RawText) : Naming :=
  if name = "head" ∨ name = "heads" then head
  else if name = "base" then base
  else revision name

/-- A name in a branch, if one is given. -/
structure Reference where
  branch : Option RawText
  name : RawText
  deriving DecidableEq, Repr

namespace Reference

/-- The reference that a text writes: the first at sign ends the branch. -/
def ofText (text : RawText) : Reference :=
  match text.dropWhile (· != .char '@') with
  | [] => ⟨none, text⟩
  | _ :: name => ⟨some (text.takeWhile (· != .char '@')), name⟩

/-- The branch, unless it is empty. -/
def givenBranch? (r : Reference) : Option RawText :=
  r.branch.filter (!·.isEmpty)

end Reference

/-- Fails unless the head is in a branch that is named without a branch of its own. -/
def inBranch (branch : RawText) : Except CommandError Unit :=
  match Naming.ofText branch with
  | .head | .base => .ok ()
  | .revision name => identify name

/-- Fails unless the revision is in a branch. -/
def inLineage (branch : RawText) : Except CommandError Unit := do
  let r := Reference.ofText branch
  match r.givenBranch? with
  | none => inBranch r.name
  | some outer =>
    match Naming.ofText r.name with
    | .head => do
      inBranch outer
      identify outer
    | .base => identify outer
    | .revision name => do
      identify outer
      identify name

/-- Does something with a branch if one is given. -/
def withBranch (branch : Option RawText) (check : RawText → Except CommandError Unit) :
    Except CommandError Unit :=
  match branch with
  | none => .ok ()
  | some b => check b

/-- The stage that a text refers to. -/
def locate (text : RawText) : Except CommandError Stage := do
  let r := Reference.ofText text
  match Naming.ofText r.name with
  | .head => do
    withBranch r.givenBranch? inBranch
    withBranch r.givenBranch? identify
    return .latest
  | .base => do
    withBranch r.givenBranch? identify
    return .base
  | .revision name => do
    withBranch r.givenBranch? identify
    identify name
    return .latest

/-- The stage that a text refers to, for those who want all that is there: the base is there
in every branch, and steps down from the heads lead to no revision. -/
def locateAll (text : RawText) : Except CommandError Stage :=
  let r := Reference.ofText text
  match Naming.ofText r.name with
  | .base => .ok .base
  | .head => locate text
  | .revision name =>
    match name.chars?.bind claimedInteger? with
    | some (.negSucc _) => if r.branch.isSome then .ok .base else .error .noRevision
    | _ => locate text

/-! ### Steps -/

/-- Where a walk is. -/
inductive Foothold where
  /-- At no revision. -/
  | nowhere
  | revision
  /-- Below the revision. -/
  | bottom
  deriving DecidableEq, Repr

namespace Foothold

/-- Where a walk starts from a stage. -/
def ofStage : Stage → Foothold
  | .base => nowhere
  | .latest => revision

/-- So many steps up, inside a branch if one is given; nothing when there is no way up. -/
def up (branch : Option RawText) : Foothold → Nat → Except CommandError (Option Foothold)
  | h, 0 => .ok (some h)
  | nowhere, n + 1 => do
    withBranch branch inLineage
    up branch revision n
  | _, _ + 1 => .ok none

/-- So many steps down; nothing when there is no way down. -/
def down : Foothold → Nat → Option Foothold
  | h, 0 => some h
  | nowhere, n + 1 => down revision n
  | revision, n + 1 => down bottom n
  | bottom, _ + 1 => none

end Foothold

/-! ### Targets -/

/-- A target: a text that refers to a stage, or steps as they are written, from where one is or
from a name. -/
inductive Target where
  | named (text : RawText)
  | steps (branch origin : Option RawText) (written : String) (count : Int)
  deriving DecidableEq, Repr

/-- Whether a code point may stand in a word. -/
def isWordPoint (p : CodePoint) : Bool :=
  p.char?.any isWordChar

/-- The digits that a text starts with. -/
def leadingDigits : RawText → List Char
  | .char c :: t => if (decimalDigit? c).isSome then c :: leadingDigits t else []
  | _ => []

/-- The steps that a text starts with, behind a word that may name where they start. -/
def stepsOf? (branch : Option RawText) (text : RawText) : Option Target :=
  let origin := text.takeWhile isWordPoint
  match text.dropWhile isWordPoint with
  | .char sign :: rest =>
    let digits := leadingDigits rest
    if (sign = '+' ∨ sign = '-') ∧ digits ≠ [] then
      some (.steps branch (if origin = [] then none else some origin)
        (String.ofList (sign :: digits))
        (signed (sign == '-') (positional 10 (digits.filterMap decimalDigit?))))
    else none
  | _ => none

/-- The steps behind one of the at signs of a text, the first that has any; the code points of
the branch so far come in reverse, and a branch is on one line. -/
def stepsInBranch? (branch : RawText) : RawText → Option Target
  | [] => none
  | p :: rest =>
    let here := if p = .char '@' ∧ branch ≠ [] then stepsOf? (some branch.reverse) rest else none
    match here with
    | some t => some t
    | none => if p = .char '\n' then none else stepsInBranch? (p :: branch) rest

/-- The target that a text tells; what follows steps is passed over. -/
def Target.ofText (text : RawText) : Target :=
  match stepsInBranch? [] text, stepsOf? none text with
  | some t, _ | none, some t => t
  | none, none => .named text

end Storefront.Migration
