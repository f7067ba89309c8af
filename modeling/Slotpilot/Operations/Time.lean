import Slotpilot.Lib.Checked

/-!
# UTC and monotonic instants

The time values of the operations crate. A UTC instant is not before the Unix epoch; a monotonic instant counts from the
origin of one process.
-/

set_option autoImplicit false

namespace Slotpilot.Operations

/-- Failure of UTC or slot time. -/
inductive SlotTimeError
  | beforeUnixEpoch
  | missedDeadline
  | arithmeticOverflow
  | misalignedSlot
  deriving DecidableEq

/-- UTC milliseconds since the Unix epoch. -/
structure UtcInstant where
  unixMillis : Int64
  nonneg : 0 ≤ unixMillis.toInt

theorem UtcInstant.eq_iff {a b : UtcInstant} : a.unixMillis = b.unixMillis ↔ a = b := by
  cases a
  cases b
  simp

instance : DecidableEq UtcInstant := fun _ _ => decidable_of_iff _ UtcInstant.eq_iff

theorem UtcInstant.epoch_nonneg : 0 ≤ (0 : Int64).toInt := by decide

def UtcInstant.fromUnixMillis (value : Int64) : Except SlotTimeError UtcInstant :=
  if h : 0 ≤ value.toInt then .ok ⟨value, h⟩ else .error .beforeUnixEpoch

/-- Monotonic milliseconds from a process-local origin. -/
structure MonotonicInstant where
  millis : UInt64
  deriving DecidableEq

/-- A simultaneous observation of UTC and monotonic time. -/
structure ClockSample where
  utc : UtcInstant
  monotonic : MonotonicInstant
  deriving DecidableEq

end Slotpilot.Operations
