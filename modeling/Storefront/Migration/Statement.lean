/-
The schema as statements.

Each operation is one statement, on one line and with single blanks.
-/
import Storefront.Migration.Schema

namespace Storefront.Migration

/-- Parts with commas between them. -/
def commas (parts : List String) : String :=
  ", ".intercalate parts

/-- A text as a literal. -/
def literal (s : String) : String :=
  "'" ++ s ++ "'"

/-- The name of a type. -/
def ColumnType.sql : ColumnType → String
  | uuid => "UUID"
  | varchar size => "VARCHAR(" ++ toString size ++ ")"
  | boolean => "BOOLEAN"
  | text => "TEXT"
  | integer => "INTEGER"
  | bigint => "BIGINT"
  | timestamp => "TIMESTAMP WITH TIME ZONE"
  | enumerated name => name

/-- The expression of a default. -/
def Default.sql : Default → String
  | no => "false"
  | yes => "true"
  | now => "now()"
  | literal s => Migration.literal s

/-- The definition of a column. -/
def Column.sql (c : Column) : String :=
  c.name ++ " " ++ c.type.sql ++
    (match c.default with
      | none => ""
      | some d => " DEFAULT " ++ d.sql) ++
    (if c.nullable then "" else " NOT NULL")

/-- The definition of a unique key. -/
def UniqueKey.sql (k : UniqueKey) : String :=
  "CONSTRAINT " ++ k.name ++ " UNIQUE (" ++ commas k.columns ++ ")"

/-- The definition of a foreign key. -/
def ForeignKey.sql (k : ForeignKey) : String :=
  "FOREIGN KEY(" ++ k.column ++ ") REFERENCES " ++ k.table ++ " (" ++ k.key ++ ")"

/-- The definitions in a table. -/
def Table.definitions (t : Table) : List String :=
  t.columns.map Column.sql ++ ["PRIMARY KEY (" ++ t.primaryKey ++ ")"] ++
    t.uniqueKeys.map UniqueKey.sql ++ t.foreignKeys.map ForeignKey.sql

/-- The statement of an operation. -/
def Operation.sql : Operation → String
  | createType name values =>
    "CREATE TYPE " ++ name ++ " AS ENUM (" ++ commas (values.map literal) ++ ")"
  | createTable t => "CREATE TABLE " ++ t.name ++ " ( " ++ commas t.definitions ++ " )"
  | createIndex i =>
    "CREATE " ++ (if i.unique then "UNIQUE " else "") ++ "INDEX " ++ i.name ++ " ON " ++ i.table ++
      " (" ++ i.column ++ ")"
  | dropIndex name => "DROP INDEX " ++ name
  | dropTable name => "DROP TABLE " ++ name
  | dropType name => "DROP TYPE " ++ name

end Storefront.Migration
