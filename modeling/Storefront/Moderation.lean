/-
Moderation.

A verdict says whether somebody or something may take part, and when it may not, which
subject failed and why.  The first failing flag decides.  Operators and callers that
change a cart learn the subject; a customer who only reads is told no more than that the
variant is unavailable.
-/
import Storefront.Catalog.Snapshot
import Storefront.Error

namespace Storefront

/-- What a gate holds against a request.  Both parts may be unknown. -/
structure Rejection where
  subject : Option RawText
  reason : Option RawText
  deriving DecidableEq, Repr

/-- The outcome of a moderation check. -/
inductive Verdict where
  | eligible
  | rejected (r : Rejection)
  deriving DecidableEq, Repr

namespace Rejection

/-- A part of a rejection, with what stands in for it when it is unknown or empty. -/
def orElse (part : Option RawText) (fallback : RawText) : RawText :=
  match part with
  | none | some [] => fallback
  | some s => s

/-- The subject under which the rejection is counted. -/
def counted (r : Rejection) : RawText :=
  orElse r.subject "unknown"

/-- The error of the request: a matter of authority for people, of the input otherwise. -/
def error (r : Rejection) : ServiceError :=
  let reason := orElse r.reason "not eligible"
  if r.subject = some (RawText.ofString "customer") ∨
      r.subject = some (RawText.ofString "seller") then .auth reason
  else .validation (orElse r.subject "variant") reason

end Rejection

namespace Verdict

/-- A rejection with a known subject and reason. -/
def because (subject reason : RawText) : Verdict :=
  rejected ⟨some subject, some reason⟩

/-- Whether the verdict lets the request pass. -/
def isEligible : Verdict → Bool
  | eligible => true
  | rejected _ => false

end Verdict

/-- The check on a customer. -/
def Customer.verdict (c : Customer) : Verdict :=
  if c.archived then .because "customer" "user is archived"
  else if c.banned then .because "customer" "user is banned"
  else .eligible

/-- The check on a variant: its seller, then its product, then the variant itself. -/
def Snapshot.verdict (s : Snapshot) : Verdict :=
  if !s.seller.approved || s.seller.archived || s.seller.banned then
    .because "seller" "seller moderation failed"
  else if !s.product.approved || s.product.archived || s.product.banned then
    .because "product" "product is not available for cart"
  else if s.variant.archived || !s.variant.inStock then
    .because "variant" "variant is not in stock or archived"
  else .eligible

/-- Whether a variant can be bought. -/
def Snapshot.isEligible (s : Snapshot) : Bool :=
  s.verdict.isEligible

end Storefront
