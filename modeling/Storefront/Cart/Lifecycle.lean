/-
The life of a cart row.

  absent    add       active     added_to_cart
  inactive  add       active     cart_item_reactivated
  active    update    active     cart_item_updated
  active    remove    inactive   cart_item_removed
  any       clear     inactive   cart_cleared

Every other pair is refused with a cause of its own.  A row that is removed stays as a
tombstone without a quantity, so that a later add brings the same row back.
-/
import Storefront.Error
import Storefront.Text.Quoted

namespace Storefront

/-- Where a row is in its life. -/
inductive RowState where
  | absent
  | active
  | inactive
  deriving DecidableEq, Repr

/-- What a customer can do to a row. -/
inductive Action where
  | add
  | update
  | remove
  | clear
  deriving DecidableEq, Repr

/-- What a successful action is reported as. -/
inductive Status where
  | added
  | reactivated
  | updated
  | removed
  | cleared
  deriving DecidableEq, Repr

/-- The written name of a state. -/
def RowState.text : RowState → String
  | absent => "absent"
  | active => "active"
  | inactive => "inactive"

/-- The state with a written name. -/
def RowState.ofText? : String → Option RowState
  | "absent" => some absent
  | "active" => some active
  | "inactive" => some inactive
  | _ => none

/-- The written name of an action. -/
def Action.text : Action → String
  | add => "add"
  | update => "update"
  | remove => "remove"
  | clear => "clear"

/-- The action with a written name. -/
def Action.ofText? : String → Option Action
  | "add" => some add
  | "update" => some update
  | "remove" => some remove
  | "clear" => some clear
  | _ => none

/-- The written name of a status. -/
def Status.text : Status → String
  | added => "added_to_cart"
  | reactivated => "cart_item_reactivated"
  | updated => "cart_item_updated"
  | removed => "cart_item_removed"
  | cleared => "cart_cleared"

/-- A written name that no state or no action has. -/
inductive UnknownName where
  | state (name : RawText)
  | action (name : RawText)
  deriving DecidableEq, Repr

/-- What is said of an unknown name. -/
def UnknownName.message : UnknownName → String
  | state name => Text.quoted name ++ " is not a valid CartRowState"
  | action name => Text.quoted name ++ " is not a valid CartAction"

/-- The state with a written name, which has to have one. -/
def RowState.parse (name : RawText) : Except UnknownName RowState :=
  match name.string?.bind ofText? with
  | some s => .ok s
  | none => .error (.state name)

/-- The action with a written name, which has to have one. -/
def Action.parse (name : RawText) : Except UnknownName Action :=
  match name.string?.bind ofText? with
  | some a => .ok a
  | none => .error (.action name)

/-! ### Transitions -/

/-- The status of a legal pair. -/
def RowState.status? : RowState → Action → Option Status
  | .absent, .add => some .added
  | .inactive, .add => some .reactivated
  | .active, .update => some .updated
  | .active, .remove => some .removed
  | _, .clear => some .cleared
  | _, _ => none

/-- The refusal of a second row for the same customer and variant. -/
def RowState.alreadyInCart : ServiceError :=
  .conflict "item already exists in cart"

/-- The cause with which a pair is refused. -/
def RowState.refusal (state : RowState) : Action → ServiceError
  | .add => alreadyInCart
  | .update =>
    if state = .absent then .notFound "cart item"
    else .validation "cart" "cart item is archived"
  | .remove =>
    if state = .absent then .validation "cart_item" "item not found"
    else .conflict "item already removed"
  | .clear => .validation "action" ("unsupported cart action " ++ Action.clear.text)

/-- The status of an action in a state, or the cause why there is none. -/
def RowState.transition (state : RowState) (action : Action) : Except ServiceError Status :=
  match state.status? action with
  | some status => .ok status
  | none => .error (state.refusal action)

/-! ### The contents of a row -/

/-- What a row holds: whether it is in the cart, and how many of the variant. -/
structure Holding where
  active : Bool
  quantity : Option Int
  deriving DecidableEq, Repr

namespace Holding

/-- A row in the cart with a quantity. -/
def inCart (quantity : Int) : Holding :=
  ⟨true, some quantity⟩

/-- A row that was taken out of the cart. -/
def tombstone : Holding :=
  ⟨false, none⟩

/-- The row with another quantity, in the cart or not. -/
def withQuantity (h : Holding) (quantity : Int) : Holding :=
  { h with quantity := some quantity }

/-- Where the row of a customer and a variant is in its life, if there is one. -/
def state : Option Holding → RowState
  | none => .absent
  | some h => if h.active then .active else .inactive

end Holding

/-! ### One row on its own -/

/-- An action with the quantity it carries. -/
inductive Step where
  | add (quantity : Int)
  | update (quantity : Int)
  | remove
  | clear
  deriving DecidableEq, Repr

/-- The action of a step. -/
def Step.action : Step → Action
  | add _ => .add
  | update _ => .update
  | remove => .remove
  | clear => .clear

/-- What a legal step makes of a row.  An add creates the row if need be; the other steps
leave an absent row absent. -/
def Step.apply : Step → Option Holding → Option Holding
  | add n, _ => some (.inCart n)
  | update n, row => row.map (·.withQuantity n)
  | remove, row => row.map fun _ => .tombstone
  | clear, row => row.map fun _ => .tombstone

/-- Takes a step, which changes the row only if it is legal. -/
def Step.take (step : Step) (row : Option Holding) :
    Except ServiceError Status × Option Holding :=
  match (Holding.state row).transition step.action with
  | .ok status => (.ok status, step.apply row)
  | .error e => (.error e, row)

end Storefront
