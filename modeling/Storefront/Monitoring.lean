/-
Error monitoring.

Monitoring starts only when it is told where to send its reports (`starts_eq_nil`), and whatever
it is configured with, personal data stays out of them (`private_of_mem_starts`).
-/
import Storefront.Json.Basic

namespace Storefront

/-- What monitoring is configured with; nothing of it is checked. -/
structure Monitoring where
  dsn : Json
  environment : Json
  release : Json
  tracesSampleRate : Json

/-- What monitoring is started with; personal data is never sent along. -/
def Monitoring.options (m : Monitoring) : Json :=
  .record
    [("dsn", m.dsn), ("environment", m.environment), ("release", m.release),
     ("traces_sample_rate", m.tracesSampleRate),
     ("integrations", .array [.text "FastApiIntegration", .text "SqlalchemyIntegration"]),
     ("attach_stacktrace", .bool true), ("send_default_pii", .bool false)]

/-- Whether an address says nothing. -/
def isBlankAddress : Json → Bool
  | .null | .bool false | .int 0 | .text [] | .array [] | .object [] => true
  | .real x => x.toInt? == some 0
  | _ => false

/-- The starts of monitoring: one, or none without an address. -/
def Monitoring.starts (m : Monitoring) : List Json :=
  if isBlankAddress m.dsn then [] else [m.options]

namespace Monitoring

variable {m : Monitoring}

theorem mem_starts {started : Json} :
    started ∈ m.starts ↔ isBlankAddress m.dsn = false ∧ started = m.options := by
  unfold starts
  split
  · next hblank => simp [hblank]
  · next haddress => simp [haddress]

theorem starts_eq_nil : m.starts = [] ↔ isBlankAddress m.dsn = true := by
  simp [starts]

theorem nodup_options : (m.options.members.map Prod.fst).Nodup := by
  have hkeys : m.options.members.map Prod.fst =
      ["dsn", "environment", "release", "traces_sample_rate", "integrations", "attach_stacktrace",
        "send_default_pii"].map RawText.ofString := by
    simp [options, Json.record, Json.members]
  rw [hkeys]
  decide

/-- No configuration makes monitoring send personal data along, or send it elsewhere than to the
address that it is given. -/
theorem private_of_mem_starts {started : Json} (h : started ∈ m.starts) :
    started.get? "send_default_pii" = some (.bool false) ∧ started.get? "dsn" = some m.dsn := by
  obtain ⟨-, rfl⟩ := mem_starts.mp h
  constructor
  · exact Keyed.get?_of_mem nodup_options (by simp)
  · exact Keyed.get?_of_mem nodup_options (by simp)

end Monitoring

end Storefront
