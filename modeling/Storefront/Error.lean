/-
What a service refuses with.

Services name the cause and nothing about transport.  The wording, the code that clients
match on, the field that a form can point at, and the status of the reply are each one
function of the cause.
-/
import Storefront.Text.CodePoint

namespace Storefront

/-- The cause of a failed request. -/
inductive ServiceError where
  | general (message : RawText)
  | validation (field reason : RawText)
  | auth (reason : RawText)
  | notFound (entity : RawText)
  | conflict (reason : RawText)
  | server (context : RawText)
  | table (name reason : RawText)
  deriving DecidableEq, Repr

namespace ServiceError

/-- The sentence shown to the client. -/
def message : ServiceError → RawText
  | general message => message
  | validation field reason => "validation error: field '" ++ field ++ "' " ++ reason
  | auth reason => "auth error: " ++ reason
  | notFound entity => "not found: " ++ entity
  | conflict reason => "conflict: " ++ reason
  | server context => "server error: " ++ context
  | table name reason => "table '" ++ name ++ "' error: " ++ reason

/-- The code that clients match on. -/
def code : ServiceError → String
  | general _ => "error"
  | validation .. => "validation_error"
  | auth _ => "auth_error"
  | notFound _ => "not_found"
  | conflict _ => "conflict"
  | server _ => "server_error"
  | table .. => "table_error"

/-- The name of the kind of error, as logs write it. -/
def name : ServiceError → String
  | general _ => "DomainError"
  | validation .. => "ValidationError"
  | auth _ => "AuthError"
  | notFound _ => "NotFoundError"
  | conflict _ => "ConflictError"
  | server _ => "ServerError"
  | table .. => "TableError"

/-- The input field that is at fault; only validation errors point at one. -/
def field? : ServiceError → Option RawText
  | validation field _ => some field
  | _ => none

/-- The parts of an error beside its message, by name. -/
def details : ServiceError → List (String × RawText)
  | general _ => []
  | validation field reason => [("field", field), ("reason", reason)]
  | auth reason => [("reason", reason)]
  | notFound entity => [("entity", entity)]
  | conflict reason => [("reason", reason)]
  | server context => [("context", context)]
  | table name reason => [("context", name), ("table", name), ("reason", reason)]

/-- The status of the reply. -/
def status : ServiceError → Nat
  | validation .. => 400
  | auth _ => 403
  | notFound _ => 404
  | conflict _ => 409
  | general _ | server _ | table .. => 500

end ServiceError

end Storefront
