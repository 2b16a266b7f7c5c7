/-
The schema in a database.

What a database holds after some operations: its enumerated types, its tables in order, and their
indexes.  A table that is dropped takes its indexes along, and a type that is there already is not
made again.
-/
import Storefront.Migration.Schema

namespace Storefront.Migration

/-- The types of a database, its tables and their indexes. -/
structure Catalogue where
  types : List (String × List String)
  tables : List Table
  indexes : List Index
  deriving DecidableEq, Repr

namespace Catalogue

/-- A database that holds nothing. -/
def empty : Catalogue := ⟨[], [], []⟩

/-- The catalogue after an operation. -/
def apply (c : Catalogue) : Operation → Catalogue
  | .createType name values =>
    if name ∈ c.types.map Prod.fst then c else { c with types := c.types ++ [(name, values)] }
  | .createTable t => { c with tables := c.tables ++ [t] }
  | .createIndex i => { c with indexes := c.indexes ++ [i] }
  | .dropIndex name => { c with indexes := c.indexes.filter (·.name != name) }
  | .dropTable name =>
    { c with
      tables := c.tables.filter (·.name != name)
      indexes := c.indexes.filter (·.table != name) }
  | .dropType name => { c with types := c.types.filter (·.1 != name) }

/-- The catalogue after some operations. -/
def run (c : Catalogue) (operations : List Operation) : Catalogue :=
  operations.foldl apply c

end Catalogue

end Storefront.Migration
