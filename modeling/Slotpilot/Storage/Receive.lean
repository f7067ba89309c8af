import Slotpilot.Audio.Timeline
import Slotpilot.Protocol.Decode
import Slotpilot.Storage.Events

/-!
# Receive records

One durable receive window: its context, its diagnostic summary and its decodes in deterministic order. `ReceiveRecord.new`
checks the bounds that hold across these fields.
-/

set_option autoImplicit false

namespace Slotpilot.Storage

open Lib Domain Audio Protocol

/-- Maximum decodes of one window. -/
def maxStoredDecodesPerWindow : Nat := 128
def maxClockMappingAgeMillis : Nat := 86400000

/-- The clock faults in their durable form. -/
inductive ReceiveClockFault
  | processGenerationChanged
  | timelineRegressed
  | utcJump (divergenceMillis : Int)
  | staleMapping (ageMillis : Nat)
  | samplingDelayed (delayMillis : Nat)
  | sampleGap (gapMillis : Nat)
  | windowMisaligned (divergenceMillis : Int)
  | arithmeticOverflow
  deriving DecidableEq

/-- Durable summary of the receive clock. -/
inductive ReceiveClockHealth
  | healthy (mappingAgeMillis : Nat)
  | unhealthy (fault : ReceiveClockFault) (recoveryProgress recoveryRequired mappingAgeMillis : Nat)
  deriving DecidableEq

namespace ReceiveClockHealth

def validate : ReceiveClockHealth → Except StorageError Unit
  | .healthy mappingAgeMillis =>
    if mappingAgeMillis ≤ maxClockMappingAgeMillis then .ok ()
    else .error (.invalidReceiveRecord "clock health or recovery bounds are invalid")
  | .unhealthy _ recoveryProgress recoveryRequired mappingAgeMillis =>
    if (2 ≤ recoveryRequired ∧ recoveryRequired ≤ 10) ∧ recoveryProgress < recoveryRequired ∧
        mappingAgeMillis ≤ maxClockMappingAgeMillis then .ok ()
    else .error (.invalidReceiveRecord "clock health or recovery bounds are invalid")

def isHealthy : ReceiveClockHealth → Bool
  | .healthy _ => true
  | .unhealthy .. => false

end ReceiveClockHealth

/-- Audio, timeline and clock summaries of one window. -/
structure ReceiveDiagnosticSummary where
  audio : InputHealth
  timeline : ReceiveTimelineHealth
  clock : ReceiveClockHealth
  deriving DecidableEq

/-- Identity of a persisted receive window. -/
abbrev ReceiveWindowId : Type := TypedId "rxw_"

/-- Stable context of one receive window. -/
structure ReceiveWindowContext where
  receiveWindowId : ReceiveWindowId
  serviceInstanceId : ServiceInstanceId
  processGeneration : ProcessGeneration
  streamGeneration : StreamGeneration
  slot : Ft8ReceiveSlot
  deviceIdentity : InputDeviceIdentity
  configuration : InputConfiguration
  captureMapping : CaptureTimeEvidence
  deriving DecidableEq

def validateDecodeMetadata (metadata : Ft8DecodeMetadata) : Except StorageError Unit :=
  if ¬(-60000 ≤ metadata.startOffsetMillis ∧ metadata.startOffsetMillis ≤ 60000) ∨ metadata.audioFrequencyHz > 6000 ∨
      ¬(-100 ≤ metadata.signalToNoiseDb ∧ metadata.signalToNoiseDb ≤ 100) then
    .error (.invalidReceiveRecord "decode metadata is outside durable bounds")
  else .ok ()

/-- The checks of a record, in the order of the source. -/
def validateReceive (context : ReceiveWindowContext) (diagnostics : ReceiveDiagnosticSummary) (decodes : List Ft8Decode)
    (recordedUtcMillis : Int64) : Except StorageError Unit := do
  if context.captureMapping.utcUnixMillis ≠ context.slot.startUtcUnixMillis then
    throw (.invalidReceiveRecord "capture mapping must begin at the declared FT8 slot")
  else if recordedUtcMillis.toInt < 0 then
    throw (.invalidReceiveRecord "recorded UTC time must be nonnegative")
  else if decodes.length > maxStoredDecodesPerWindow then
    throw (.invalidReceiveRecord "decode count exceeds the bounded window limit")
  else if ¬(-100000 ≤ diagnostics.timeline.driftPartsPerMillion ∧ diagnostics.timeline.driftPartsPerMillion ≤ 100000) then
    throw (.invalidReceiveRecord "timeline drift is outside durable bounds")
  else do
    diagnostics.clock.validate
    decodes.forM fun decode => validateDecodeMetadata decode.metadata
    if ¬diagnostics.clock.isHealthy ∧ decodes ≠ [] then
      throw (.invalidReceiveRecord "unhealthy clock evidence cannot carry decoder-ready results")
    else pure ()

/-- One atomic receive window with its diagnostics and ordered decodes. -/
structure ReceiveRecord where
  context : ReceiveWindowContext
  diagnostics : ReceiveDiagnosticSummary
  decodes : List Ft8Decode
  recordedUtcMillis : Int64
  checked : ∃ supplied, validateReceive context diagnostics supplied recordedUtcMillis = .ok () ∧
    decodes = Ft8Decode.sortDeterministically supplied
  deriving DecidableEq

def ReceiveRecord.new (context : ReceiveWindowContext) (diagnostics : ReceiveDiagnosticSummary)
    (decodes : List Ft8Decode) (recordedUtcMillis : Int64) : Except StorageError ReceiveRecord :=
  match h : validateReceive context diagnostics decodes recordedUtcMillis with
  | .ok () =>
    .ok
      { context, diagnostics, decodes := Ft8Decode.sortDeterministically decodes, recordedUtcMillis,
        checked := ⟨decodes, h, rfl⟩ }
  | .error error => .error error

/-- Result of recording one receive identity. -/
inductive ReceiveInsertOutcome
  | inserted (sequence : Nat)
  | existing (sequence : Nat)
  deriving DecidableEq

end Slotpilot.Storage
