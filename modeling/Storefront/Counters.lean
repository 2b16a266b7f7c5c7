/-
Counters.

One counter for each kind of outcome, created at its first increment.
-/
import Storefront.Keyed
import Storefront.Text.CodePoint

namespace Storefront

/-- How often each kind of outcome has happened. -/
structure Counters where
  counts : List (RawText × Nat)
  deriving DecidableEq, Repr

namespace Counters

/-- Nothing has happened yet. -/
def zero : Counters := ⟨[]⟩

/-- How often one kind of outcome has happened. -/
def count (c : Counters) (key : RawText) : Nat :=
  (Keyed.get? key c.counts).getD 0

/-- One more outcome of a kind. -/
def increment (c : Counters) (key : RawText) : Counters :=
  ⟨Keyed.put key (c.count key + 1) c.counts⟩

/-- The counter of the checkouts from a source. -/
def checkoutKey (source : RawText) : RawText :=
  "checkout_sessions_" ++ source

/-- The counter of the rejections of a subject. -/
def gateKey (subject : RawText) : RawText :=
  "gate_rejections_" ++ subject

theorem count_increment (c : Counters) (key key' : RawText) :
    (c.increment key).count key' = c.count key' + if key = key' then 1 else 0 := by
  by_cases h : key = key'
  · subst h; simp [increment, count, Keyed.get?_put]
  · simp [increment, count, Keyed.get?_put, h]

end Counters

end Storefront
