/-
Requests from other origins.

Before a page of another origin sends a request, its browser asks whether it may: with the
method OPTIONS, naming the origin and the method of the request to come.  The question is
answered at every path, in plain text.  One origin may, with all common methods.
-/
import Storefront.Http.Request

namespace Storefront.Http

/-- The origin whose pages may send requests. -/
def allowedOrigin : String := "http://localhost:3000"

/-- The methods that requests from another origin may have. -/
def allowedMethods : List String :=
  ["DELETE", "GET", "HEAD", "OPTIONS", "PATCH", "POST", "PUT"]

/-- A question whether a request may be sent. -/
structure Preflight where
  origin : String
  method : String
  deriving DecidableEq, Repr

/-- The question that a request asks, if it asks one. -/
def Request.preflight? (r : Request) : Option Preflight := do
  let origin ← r.header? "Origin"
  let method ← r.header? "Access-Control-Request-Method"
  if r.method = "OPTIONS" then return ⟨origin, method⟩ else none

namespace Preflight

/-- What speaks against the request to come. -/
def failures (p : Preflight) : List String :=
  (if p.origin = allowedOrigin then [] else ["origin"]) ++
    if allowedMethods.contains p.method then [] else ["method"]

/-- The status of the answer. -/
def status (p : Preflight) : Nat :=
  if p.failures.isEmpty then 200 else 400

/-- The text of the answer. -/
def answer (p : Preflight) : String :=
  if p.failures.isEmpty then "OK" else "Disallowed CORS " ++ ", ".intercalate p.failures

end Preflight

end Storefront.Http
