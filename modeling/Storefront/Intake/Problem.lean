/-
Problems with an input.

A problem has a place, a path of field names and positions, a complaint, and the part that
was sent there.  Reading several parts of an input reports the problems of all of them in
order, so that one round is enough to mend an input.
-/
import Storefront.Json.Basic

namespace Storefront.Intake

/-- One step to a part of an input. -/
inductive Place where
  | field (name : String)
  | position (index : Nat)
  deriving DecidableEq, Repr

/-- What is wrong with a part of an input. -/
inductive Complaint where
  | missing
  | notObject
  /-- The whole of a request body is no object. -/
  | notObjectBody
  | notInteger
  | notIntegerText
  /-- A number is beyond what is read as an integer. -/
  | integerSize
  | fractional
  | notFinite
  | tooSmall
  | tooLarge
  /-- A surrogate stands alone in a text. -/
  | notUnicode
  | notId
  | notIdText
  | notList
  | tooShort
  | notChoice
  | notJson
  /-- The parts are right and do not fit together. -/
  | rule (message : String)
  deriving DecidableEq, Repr

/-- The code of a complaint. -/
def Complaint.code : Complaint → String
  | missing => "missing"
  | notObject => "model_type"
  | notObjectBody => "model_attributes_type"
  | notInteger => "int_type"
  | notIntegerText => "int_parsing"
  | integerSize => "int_parsing_size"
  | fractional => "int_from_float"
  | notFinite => "finite_number"
  | tooSmall => "greater_than_equal"
  | tooLarge => "less_than_equal"
  | notUnicode => "string_unicode"
  | notId => "uuid_type"
  | notIdText => "uuid_parsing"
  | notList => "list_type"
  | tooShort => "too_short"
  | notChoice => "literal_error"
  | notJson => "json_invalid"
  | rule _ => "value_error"

/-- The sentence of a complaint, for those that have one. -/
def Complaint.message? : Complaint → Option String
  | rule message => some ("Value error, " ++ message)
  | _ => none

/-- A complaint with its place and what was sent there. -/
structure Problem where
  complaint : Complaint
  place : List Place
  sent : Json
  deriving Repr

/-- A problem of a part as one of the whole. -/
def Problem.under (step : Place) (p : Problem) : Problem :=
  { p with place := step :: p.place }

/-- A part of an input, or what is wrong with it. -/
abbrev Checked (α : Type) := Except (List Problem) α

namespace Checked

variable {α β γ : Type}

/-- A complaint about a part as a whole. -/
def fail (c : Complaint) (sent : Json) : Checked α :=
  .error [⟨c, [], sent⟩]

/-- A part in its place. -/
def within (step : Place) (part : Checked α) : Checked α :=
  part.mapError (·.map (Problem.under step))

/-- Two parts, with the problems of both. -/
def both (f : α → β → γ) : Checked α → Checked β → Checked γ
  | .ok a, .ok b => .ok (f a b)
  | .ok _, .error ps => .error ps
  | .error ps, .ok _ => .error ps
  | .error ps, .error qs => .error (ps ++ qs)

/-- Parts that succeed together succeed apart. -/
theorem both_eq_ok {f : α → β → γ} {a : Checked α} {b : Checked β} {c : γ} :
    both f a b = .ok c ↔ ∃ x y, a = .ok x ∧ b = .ok y ∧ f x y = c := by
  cases a <;> cases b <;> simp [both]

end Checked

/-! ### As JSON -/

/-- A step as JSON. -/
def Place.json : Place → Json
  | field name => .text name
  | position index => .int index

/-- A problem as JSON. -/
def Problem.json (p : Problem) : Json :=
  .record <|
    [("type", .text p.complaint.code), ("loc", .array (p.place.map Place.json))] ++
      match p.complaint.message? with
      | none => []
      | some message => [("msg", .text message)]

end Storefront.Intake
