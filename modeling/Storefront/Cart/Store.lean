/-
What is kept.

Three tables: customers, snapshots and cart rows.  A cart row belongs to one customer and
one variant and is never deleted; it is listed by the time of its creation and then by
its id, neither of which ever changes.

A change names what it writes and nothing else.  An insert is refused when the customer
already has a row for the variant, whatever that row holds; a write to a row replaces
the columns it names in the row with that id.  So two requests that read the same row
and write different columns of it both leave their mark.

The id and the time of a new row are given from outside.  Of the id it is known that no row
has it, and of the time nothing: a clock may stand still or go back.
-/
import Storefront.Catalog.Snapshot
import Storefront.Cart.Lifecycle

namespace Storefront

/-- What one customer wants of one variant. -/
structure CartRow where
  id : Nat
  createdAt : Int
  user : Uuid
  variant : Uuid
  holding : Holding
  deriving DecidableEq, Repr

/-- Whether the row is the one of a customer and a variant. -/
def CartRow.isFor (r : CartRow) (user variant : Uuid) : Bool :=
  r.user == user && r.variant == variant

/-- The order in which rows are listed. -/
def CartRow.notAfter (a b : CartRow) : Bool :=
  a.createdAt < b.createdAt || (a.createdAt == b.createdAt && a.id ≤ b.id)

/-- A snapshot with the quantity of it in the cart of one customer, zero when it is not
there. -/
structure CartLine where
  snapshot : Snapshot
  quantity : Int
  deriving DecidableEq, Repr

/-- The line at another quantity. -/
def CartLine.withQuantity (l : CartLine) (quantity : Int) : CartLine :=
  { l with quantity }

/-- The elements that are not among the seen ones, each where it occurs first. -/
def distinctFrom {α : Type} [DecidableEq α] (seen : List α) : List α → List α
  | [] => []
  | a :: as => if a ∈ seen then distinctFrom seen as else a :: distinctFrom (a :: seen) as

/-- The elements of a list, each where it occurs first. -/
def distinct {α : Type} [DecidableEq α] (as : List α) : List α :=
  distinctFrom [] as

/-- The tables. -/
structure Store where
  customers : List Customer
  snapshots : List Snapshot
  rows : List CartRow
  deriving DecidableEq, Repr

namespace Store

/-! ### Reading -/

/-- The customer with an id. -/
def customer? (s : Store) (id : Uuid) : Option Customer :=
  s.customers.find? (·.id == id)

/-- The snapshot of a variant, of a given product if one is asked for. -/
def snapshot? (s : Store) (variant : Uuid) (product : Option Uuid) : Option Snapshot :=
  s.snapshots.find? fun x => x.variant.id == variant && product.all (x.product.id == ·)

/-- The row of a customer and a variant. -/
def row? (s : Store) (user variant : Uuid) : Option CartRow :=
  s.rows.find? (·.isFor user variant)

/-- The rows in the order they are listed in. -/
def listing (s : Store) : List CartRow :=
  s.rows.mergeSort CartRow.notAfter

/-- The variants in the cart of a customer, in the order of their rows. -/
def activeIds (s : Store) (user : Uuid) : List Uuid :=
  (s.listing.filter fun r => r.user == user && r.holding.active).map (·.variant)

/-- The quantities in a customer's rows for a variant that are in the cart. -/
def quantities (s : Store) (user variant : Uuid) : List (Option Int) :=
  (s.rows.filter fun r => r.isFor user variant && r.holding.active).map (·.holding.quantity)

/-- A snapshot joined with the customer's rows for it; a snapshot without one stays. -/
def joined (s : Store) (user : Uuid) (x : Snapshot) : List CartLine :=
  match s.quantities user x.variant.id with
  | [] => [⟨x, 0⟩]
  | qs => qs.map fun q => ⟨x, q.getD 0⟩

/-- The snapshots of some variants, each with its quantity in the cart of a customer, in
the order in which the variants are first asked for.  Variants without a snapshot are
left out. -/
def lines (s : Store) (user : Uuid) (variants : List Uuid) : List CartLine :=
  let asked := distinct variants
  let found := (s.snapshots.filter fun x => asked.contains x.variant.id).flatMap (s.joined user)
  found.mergeSort fun a b =>
    asked.idxOf a.snapshot.variant.id ≤ asked.idxOf b.snapshot.variant.id

/-! ### Editing the tables beside the cart -/

/-- Adds a customer or replaces the one with the same id. -/
def putCustomer (s : Store) (c : Customer) : Store :=
  { s with customers := s.customers.filter (·.id != c.id) ++ [c] }

/-- Takes a customer out. -/
def deleteCustomer (s : Store) (id : Uuid) : Store :=
  { s with customers := s.customers.filter (·.id != id) }

/-- Adds a snapshot. -/
def addSnapshot (s : Store) (x : Snapshot) : Store :=
  { s with snapshots := s.snapshots ++ [x] }

/-- Takes the snapshot of a variant out. -/
def deleteSnapshot (s : Store) (variant : Uuid) : Store :=
  { s with snapshots := s.snapshots.filter (·.variant.id != variant) }

/-- Edits the snapshot of a variant. -/
def editSnapshot (s : Store) (variant : Uuid) (edit : Snapshot → Snapshot) : Store :=
  { s with snapshots := s.snapshots.map fun x => if x.variant.id = variant then edit x else x }

end Store

/-! ### Changes -/

/-- The columns of a row that a write replaces. -/
structure Columns where
  active : Option Bool
  quantity : Option (Option Int)
  deriving DecidableEq, Repr

/-- The columns in which two contents differ, with the values of the second. -/
def Holding.changes (old new : Holding) : Columns where
  active := if old.active = new.active then none else some new.active
  quantity := if old.quantity = new.quantity then none else some new.quantity

/-- The contents with some columns replaced. -/
def Columns.write (c : Columns) (h : Holding) : Holding :=
  ⟨c.active.getD h.active, c.quantity.getD h.quantity⟩

/-- Writing the changes to what they were computed from gives what they were computed for. -/
theorem Holding.write_changes (old new : Holding) : (old.changes new).write old = new := by
  obtain ⟨a, q⟩ := old
  obtain ⟨b, r⟩ := new
  by_cases ha : a = b <;> by_cases hq : q = r <;> simp [changes, Columns.write, ha, hq]

/-- What a request writes. -/
inductive Change where
  /-- A new row. -/
  | insert (user variant : Uuid) (holding : Holding)
  /-- Some columns of a row that was read. -/
  | write (row : Nat) (columns : Columns)
  /-- Tombstones in place of all rows of a customer. -/
  | clear (user : Uuid)
  | nothing
  deriving DecidableEq, Repr

/-- The change that turns the row of a customer and a variant into other contents. -/
def Change.between (user variant : Uuid) : Option CartRow → Option Holding → Change
  | none, some h => .insert user variant h
  | some r, some h => .write r.id (r.holding.changes h)
  | _, none => .nothing

/-- What a request is given from outside. -/
structure Givens where
  /-- The id of a row that is inserted into some tables. -/
  row : Store → Nat
  /-- No row has the id of a new one. -/
  row_fresh : ∀ s, ∀ r ∈ s.rows, r.id ≠ row s
  /-- The time at which a row is inserted into some tables. -/
  time : Store → Int
  /-- The id of a checkout session that is opened. -/
  session : Uuid
  /-- The id of a request that brings none along. -/
  request : Uuid
  /-- The milliseconds until a request is replied to. -/
  duration : Nat

namespace Store

/-- Replaces what the rows of a class hold. -/
def overwrite (s : Store) (p : CartRow → Bool) (f : Holding → Holding) : Store :=
  { s with rows := s.rows.map fun r => if p r then { r with holding := f r.holding } else r }

/-- The tables with a new row at the end. -/
def inserted (s : Store) (givens : Givens) (user variant : Uuid) (holding : Holding) : Store :=
  { s with rows := s.rows ++ [⟨givens.row s, givens.time s, user, variant, holding⟩] }

/-- Makes a change, with the number of rows it met.  Nothing is changed when it is refused. -/
def apply (s : Store) (givens : Givens) : Change → Except ServiceError (Store × Nat)
  | .insert user variant holding =>
    if (s.row? user variant).isSome then .error RowState.alreadyInCart
    else .ok (s.inserted givens user variant holding, 1)
  | .write row columns =>
    .ok (s.overwrite (·.id == row) columns.write, s.rows.countP (·.id == row))
  | .clear user =>
    .ok (s.overwrite (·.user == user) fun _ => .tombstone, s.rows.countP (·.user == user))
  | .nothing => .ok (s, 0)

end Store

end Storefront
