import Mathlib

/-!
# Radio values
-/

set_option autoImplicit false

namespace Slotpilot.Domain

/-- Failure constructing a radio value. -/
inductive RadioValueError
  | frequencyOutOfRange (kind : String) (minimum maximum : Nat)
  | negativeSlot
  | misalignedSlot
  deriving DecidableEq

/-- An audio offset in integer hertz. -/
structure AudioFrequency where
  hz : Nat
  range : 1 ≤ hz ∧ hz ≤ 50000
  deriving DecidableEq

def AudioFrequency.fromHz (hz : Nat) : Except RadioValueError AudioFrequency :=
  if h : 1 ≤ hz ∧ hz ≤ 50000 then .ok ⟨hz, h⟩ else .error (.frequencyOutOfRange "audio" 1 50000)

/-- A dial frequency in integer hertz. -/
structure DialFrequency where
  hz : UInt64
  range : 100000 ≤ hz.toNat ∧ hz.toNat ≤ 300000000000
  deriving DecidableEq

def DialFrequency.fromHz (hz : UInt64) : Except RadioValueError DialFrequency :=
  if h : 100000 ≤ hz.toNat ∧ hz.toNat ≤ 300000000000 then .ok ⟨hz, h⟩
  else .error (.frequencyOutOfRange "dial" 100000 300000000000)

/-- Transmitter power in integer milliwatts. -/
structure Power where
  milliwatts : UInt64
  range : 1 ≤ milliwatts.toNat ∧ milliwatts.toNat ≤ 1000000
  deriving DecidableEq

/-- Bounded nonzero power; its only failure is `PowerOutOfRange`. -/
def Power.fromMilliwatts (value : UInt64) : Option Power :=
  if h : 1 ≤ value.toNat ∧ value.toNat ≤ 1000000 then some ⟨value, h⟩ else none

/-- Synchronized operating modes. -/
inductive OperatingMode
  | ft8
  | wspr
  deriving DecidableEq

/-- The slot duration in milliseconds. -/
def OperatingMode.slotMillis : OperatingMode → Int64
  | .ft8 => 15000
  | .wspr => 120000

/-- An exact UTC-aligned slot start. -/
structure UtcSlot where
  mode : OperatingMode
  startUnixMillis : Int64
  nonneg : ¬startUnixMillis.toInt < 0
  aligned : startUnixMillis.toInt.tmod mode.slotMillis.toInt = 0

/-- Checks the epoch and the alignment of a slot. -/
def UtcSlot.new (mode : OperatingMode) (startUnixMillis : Int64) : Except RadioValueError UtcSlot :=
  if hnegative : startUnixMillis.toInt < 0 then .error .negativeSlot
  else if haligned : startUnixMillis.toInt.tmod mode.slotMillis.toInt ≠ 0 then .error .misalignedSlot
  else .ok { mode, startUnixMillis, nonneg := hnegative, aligned := not_not.mp haligned }

end Slotpilot.Domain
