/-
Settings.
-/

namespace Storefront

/-- What the service is configured with. -/
structure Settings where
  /-- The key that tokens are signed with. -/
  secret : String
  /-- How long a token is good for. -/
  tokenMinutes : Int
  /-- The most variants of one checkout from a cart. -/
  maxCheckoutVariants : Int
  deriving DecidableEq, Repr

/-- The settings of a service that is not configured. -/
def Settings.standard : Settings :=
  ⟨"dev-secret-key", 30, 100⟩

end Storefront
