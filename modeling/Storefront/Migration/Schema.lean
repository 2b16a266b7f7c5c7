/-
The schema.

Tables, indexes and one enumerated type, and the operations that build them up and take
them down again.  Operations are data, so that the statements that are sent to a database
and the catalogue that the database then holds are two readings of the same list.
-/

namespace Storefront.Migration

/-- The type of a column. -/
inductive ColumnType where
  | uuid
  | varchar (size : Nat)
  | boolean
  | text
  | integer
  | bigint
  | timestamp
  | enumerated (name : String)
  deriving DecidableEq, Repr

/-- What a column holds in a row that does not say. -/
inductive Default where
  | no
  | yes
  | now
  | literal (s : String)
  deriving DecidableEq, Repr

/-- A column. -/
structure Column where
  name : String
  type : ColumnType
  default : Option Default
  nullable : Bool
  deriving DecidableEq, Repr

/-- A column that is to be unique together with others. -/
structure UniqueKey where
  name : String
  columns : List String
  deriving DecidableEq, Repr

/-- A column that holds a key of another table. -/
structure ForeignKey where
  column : String
  table : String
  key : String
  deriving DecidableEq, Repr

/-- A table. -/
structure Table where
  name : String
  columns : List Column
  primaryKey : String
  uniqueKeys : List UniqueKey
  foreignKeys : List ForeignKey
  deriving DecidableEq, Repr

/-- An index over one column of a table. -/
structure Index where
  name : String
  table : String
  column : String
  unique : Bool
  deriving DecidableEq, Repr

/-- One change of the schema. -/
inductive Operation where
  | createType (name : String) (values : List String)
  | createTable (t : Table)
  | createIndex (i : Index)
  | dropIndex (name : String)
  | dropTable (name : String)
  | dropType (name : String)
  deriving DecidableEq, Repr

/-! ### The tables -/

/-- A column that always holds something. -/
def held (name : String) (type : ColumnType) : Column := ⟨name, type, none, false⟩

/-- A column that always holds something, and what that is unless a row says. -/
def preset (name : String) (type : ColumnType) (default : Default) : Column :=
  ⟨name, type, some default, false⟩

/-- A column that may hold nothing. -/
def maybe (name : String) (type : ColumnType) : Column := ⟨name, type, none, true⟩

/-- A flag that is down. -/
def flag (name : String) : Column := preset name .boolean .no

/-- When a row was made and when it was last changed. -/
def timestamps : List Column :=
  [preset "created_at" .timestamp .now, preset "updated_at" .timestamp .now]

/-- The kinds of discounts. -/
def discountType : String := "discounttype"

/-- The customers. -/
def users : Table where
  name := "users"
  columns :=
    [held "id" .uuid, held "email" (.varchar 255), maybe "name" (.varchar 255),
     flag "is_archived", flag "is_banned"] ++ timestamps
  primaryKey := "id"
  uniqueKeys := []
  foreignKeys := []

/-- The snapshots of variants. -/
def snapshots : Table where
  name := "product_variant_snapshots"
  columns :=
    [held "id" .uuid, held "category_id" .uuid,
     preset "category_name" (.varchar 120) (.literal ""),
     held "seller_id" .uuid, preset "seller_store_name" (.varchar 160) (.literal ""),
     flag "is_seller_approved", flag "is_seller_archived", flag "is_seller_banned",
     held "product_id" .uuid, preset "product_title" (.varchar 255) (.literal ""),
     preset "product_description" .text (.literal ""),
     preset "product_primary_image_url" (.varchar 500) (.literal ""),
     flag "is_product_approved", flag "is_product_archived", flag "is_product_banned",
     held "variant_id" .uuid, preset "color" (.varchar 60) (.literal ""),
     preset "size" (.varchar 60) (.literal ""), flag "is_variant_archived",
     flag "is_variant_in_stock", preset "stock_amount" .integer (.literal "0"),
     preset "weight_grams" .integer (.literal "0"), held "retail_price" .bigint,
     flag "has_retail_discount", maybe "retail_discount" .bigint,
     maybe "retail_discount_type" (.enumerated discountType), flag "has_wholesale_enabled",
     maybe "wholesale_price" .bigint, maybe "wholesale_min_quantity" .integer,
     flag "has_wholesale_discount", maybe "wholesale_discount" .bigint,
     maybe "wholesale_discount_type" (.enumerated discountType)] ++ timestamps
  primaryKey := "id"
  uniqueKeys := []
  foreignKeys := []

/-- The rows of carts. -/
def cartItems : Table where
  name := "cart_items"
  columns :=
    [held "id" .uuid, held "user_id" .uuid, held "variant_id" .uuid,
     maybe "required_quantity" .integer, preset "is_active" .boolean .yes] ++ timestamps
  primaryKey := "id"
  uniqueKeys := [⟨"uq_cart_items_user_variant", ["user_id", "variant_id"]⟩]
  foreignKeys := [⟨"user_id", "users", "id"⟩]

/-- An index of a table over a column, named for both. -/
def indexOn (t : Table) (column : String) (unique : Bool) : Index :=
  ⟨"ix_" ++ t.name ++ "_" ++ column, t.name, column, unique⟩

/-- Builds the schema. -/
def upgrade : List Operation :=
  [.createType discountType ["flat", "percentage"],
   .createTable users, .createIndex (indexOn users "email" true),
   .createTable snapshots, .createIndex (indexOn snapshots "variant_id" true),
   .createIndex (indexOn snapshots "seller_id" false),
   .createIndex (indexOn snapshots "product_id" false),
   .createTable cartItems, .createIndex (indexOn cartItems "user_id" false)]

/-- Takes the schema down, last things first. -/
def downgrade : List Operation :=
  [.dropIndex "ix_cart_items_user_id", .dropTable "cart_items",
   .dropIndex "ix_product_variant_snapshots_product_id",
   .dropIndex "ix_product_variant_snapshots_seller_id",
   .dropIndex "ix_product_variant_snapshots_variant_id", .dropTable "product_variant_snapshots",
   .dropIndex "ix_users_email", .dropTable "users", .dropType discountType]

end Storefront.Migration
