import Slotpilot.Operations.ReceiveClock

/-!
# The process clock

`SystemClock` pairs a UTC reading with the midpoint of the monotonic readings around it. As in capture timing, an
`Instant` is a number of exact milliseconds and the operating system's readings are arguments.
-/

set_option autoImplicit false

namespace Slotpilot.Operations

open Lib

/-- Paired system clock of one process generation. -/
structure SystemClock where
  generation : ClockProcessGeneration
  monotonicOrigin : Nat
  deriving DecidableEq

def SystemClock.new (generation : ClockProcessGeneration) (now : Nat) : SystemClock := ⟨generation, now⟩

def durationMillis (duration : Nat) : Except ReceiveClockError UInt64 := okOr .arithmeticOverflow (tryU64 duration)

/-- A sample from the monotonic readings at two instants and the UTC milliseconds read between them. -/
def SystemClock.sample (self : SystemClock) (before : Nat) (utc : Int) (after : Nat) :
    Except ReceiveClockError GenerationClockSample := do
  let before ← durationMillis (before - self.monotonicOrigin)
  if utc < 0 then throw .systemClockBeforeEpoch
  else do
    let after ← durationMillis (after - self.monotonicOrigin)
    let midpoint ← okOr .arithmeticOverflow (tryU64 (before.toNat + (after.toNat - before.toNat) / 2 : Nat))
    let utc ← okOr .arithmeticOverflow (tryI64 utc)
    let utc ← (UtcInstant.fromUnixMillis utc).mapError fun _ => .systemClockBeforeEpoch
    pure { generation := self.generation, sample := { utc, monotonic := ⟨midpoint⟩ } }

end Slotpilot.Operations
