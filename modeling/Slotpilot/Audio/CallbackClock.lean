import Slotpilot.Audio.Contracts

/-!
# Capture timing

How the native capture callback dates its batches. An `Instant` is a number of exact milliseconds; what the source reads
from the operating system (`Instant::now`, `SystemTime::now`) is an argument.
-/

set_option autoImplicit false

namespace Slotpilot.Audio

open Lib

/-- UTC and monotonic reading of a callback clock. -/
structure ClockReading where
  utcUnixMillis : Int64
  monotonicMillis : UInt64
  deriving DecidableEq

/-- Callback clock of one native stream. -/
structure SystemCallbackClock where
  monotonicOrigin : Nat
  deriving DecidableEq

def SystemCallbackClock.new (now : Nat) : SystemCallbackClock := ⟨now⟩

/-- The reading at an instant whose UTC is `utc` milliseconds; a UTC that is not representable reads as zero. -/
def SystemCallbackClock.reading (self : SystemCallbackClock) (now : Nat) (utc : Int) : ClockReading where
  utcUnixMillis := if utc < 0 then 0 else (tryI64 utc).getD 0
  monotonicMillis := saturateU64 (now - self.monotonicOrigin : Nat)

/-- Timing of one callback. -/
structure CallbackTiming where
  utcUnixMillis : Int64
  monotonicMillis : UInt64
  callbackDelayMillis : Nat
  deriving DecidableEq

/-- The capture instant of a callback: its reading less the delay since capture. -/
def processNative (delayMillis : Nat) (reading : ClockReading) : CallbackTiming :=
  let callbackDelayMillis := min ((tryU32 delayMillis).getD (2 ^ 32 - 1)) maxCallbackDelayMillis
  { utcUnixMillis := saturateI64 (reading.utcUnixMillis.toInt - callbackDelayMillis)
    monotonicMillis := saturateU64 (reading.monotonicMillis.toNat - callbackDelayMillis)
    callbackDelayMillis }

/-- Whole milliseconds from the first frame of a callback to a later one. -/
def offsetMillis (frameOffset sampleRateHz : Nat) : Nat := min (frameOffset * 1000) (2 ^ 64 - 1) / sampleRateHz

/-- Time evidence of the batch that starts at a frame of a callback. -/
def firstFrameEvidence (timing : CallbackTiming) (position : CapturePosition) (offsetMillis : Nat) :
    Except ReceiveAudioError CaptureTimeEvidence :=
  CaptureTimeEvidence.new position
    (saturateI64 (timing.utcUnixMillis.toInt + (saturateI64 offsetMillis).toInt))
    (saturateU64 (timing.monotonicMillis.toNat + offsetMillis))

end Slotpilot.Audio
