import Slotpilot.Lib.Checked

/-!
# Receive-audio values

The checked values of the audio crate: device and configuration, the two generations, capture positions and their time
evidence, capture batches and canonical windows. A value whose fields are private in the source carries what its
constructor checks (`InputConfiguration`, `CaptureBatch`, …); a public field stays unconstrained and is checked only by
`new`.
-/

set_option autoImplicit false

namespace Slotpilot.Audio

open Lib

/-- Canonical FT8 receive sample rate. -/
def ft8ReceiveSampleRateHz : Nat := 12000
/-- Canonical number of mono samples in one complete slot. -/
def ft8ReceiveWindowSamples : Nat := 180000
/-- Nominal slot duration. -/
def ft8ReceiveSlotMillis : Nat := 15000
/-- Maximum frames in one callback-to-worker handoff. -/
def maxCaptureBatchFrames : Nat := 8192
/-- Maximum channel count of a configuration. -/
def maxInputChannels : Nat := 32
def maxIdentityBytes : Nat := 256
def minSampleRateHz : Nat := 8000
def maxSampleRateHz : Nat := 384000
def maxCallbackDelayMillis : Nat := 60000
def maxLatencyMillis : Nat := 60000
def maxDriftPartsPerMillion : Int := 100000

/-- Failure constructing a receive-audio value. -/
inductive ReceiveAudioError
  | invalidStableIdentity
  | invalidSampleRate
  | invalidChannelCount
  | invalidSelectedChannel
  | invalidGeneration
  | invalidUtcTimestamp
  | invalidCallbackDelay
  | invalidLatency
  | invalidDrift
  | invalidBatchShape
  | batchTooLarge
  | invalidClippedSampleCount
  | discontinuityPositionMismatch
  | positionOverflow
  | misalignedFt8Window
  | invalidFt8WindowSize
  deriving DecidableEq

/-! ## Device and configuration -/

/-- The Unicode control characters. -/
def isControl (c : Char) : Bool := c.toNat < 0x20 || (0x7f ≤ c.toNat && c.toNat ≤ 0x9f)

/-- Nonempty text of at most `maxBytes` bytes without control characters. -/
def validateBoundedText (value : String) (maxBytes : Nat) : Bool :=
  !(value.isEmpty || value.utf8ByteSize > maxBytes || value.toList.any isControl)

/-- Operating-system audio family of a device identity. -/
inductive InputPlatform
  | macOsCoreAudio
  | windowsWasapi
  | linuxAlsa
  | linuxJack
  deriving DecidableEq

/-- Stable platform identity of one input device. -/
structure InputDeviceIdentity where
  platform : InputPlatform
  opaqueId : String
  bounded : validateBoundedText opaqueId maxIdentityBytes = true
  deriving DecidableEq

def InputDeviceIdentity.new (platform : InputPlatform) (opaqueId : String) :
    Except ReceiveAudioError InputDeviceIdentity :=
  if h : validateBoundedText opaqueId maxIdentityBytes = true then .ok ⟨platform, opaqueId, h⟩
  else .error .invalidStableIdentity

/-- Sample representation of an input configuration. -/
inductive InputSampleFormat
  | signed8 | signed16 | signed24 | signed32 | signed64
  | unsigned8 | unsigned16 | unsigned24 | unsigned32 | unsigned64
  | float32 | float64
  deriving DecidableEq

/-- Checked receive-only stream configuration. -/
structure InputConfiguration where
  sampleRateHz : Nat
  channels : Nat
  sampleFormat : InputSampleFormat
  selectedChannel : Nat
  rate_ge : minSampleRateHz ≤ sampleRateHz
  rate_le : sampleRateHz ≤ maxSampleRateHz
  channels_pos : 0 < channels
  channels_le : channels ≤ maxInputChannels
  selected_lt : selectedChannel < channels
  deriving DecidableEq

def InputConfiguration.new (sampleRateHz channels : Nat) (sampleFormat : InputSampleFormat) (selectedChannel : Nat) :
    Except ReceiveAudioError InputConfiguration :=
  if hr : minSampleRateHz ≤ sampleRateHz ∧ sampleRateHz ≤ maxSampleRateHz then
    if hc : 0 < channels ∧ channels ≤ maxInputChannels then
      if hs : selectedChannel < channels then
        .ok ⟨sampleRateHz, channels, sampleFormat, selectedChannel, hr.1, hr.2, hc.1, hc.2, hs⟩
      else .error .invalidSelectedChannel
    else .error .invalidChannelCount
  else .error .invalidSampleRate

/-- One channel at the canonical rate. -/
def monoConfiguration : InputConfiguration :=
  ⟨12000, 1, .signed16, 0, by decide, by decide, by decide, by decide, by decide⟩

/-! ## Generations -/

theorem one_nonzero : (1 : UInt64) ≠ 0 := by decide
theorem two_nonzero : (2 : UInt64) ≠ 0 := by decide
theorem three_nonzero : (3 : UInt64) ≠ 0 := by decide

/-- Daemon-process generation of capture state. -/
structure ProcessGeneration where
  value : UInt64
  nonzero : value ≠ 0
  deriving DecidableEq

def ProcessGeneration.new (value : UInt64) : Except ReceiveAudioError ProcessGeneration :=
  if h : value = 0 then .error .invalidGeneration else .ok ⟨value, h⟩

/-- Stream generation within one daemon process. -/
structure StreamGeneration where
  value : UInt64
  nonzero : value ≠ 0
  deriving DecidableEq

def StreamGeneration.new (value : UInt64) : Except ReceiveAudioError StreamGeneration :=
  if h : value = 0 then .error .invalidGeneration else .ok ⟨value, h⟩

/-! ## Positions and time evidence -/

/-- Position in source frames since a stream generation began. -/
structure CapturePosition where
  frames : UInt64
  deriving DecidableEq

def CapturePosition.checkedAdvance (self : CapturePosition) (frames : Nat) : Except ReceiveAudioError CapturePosition :=
  match tryU64 (self.frames.toNat + frames) with
  | some value => .ok ⟨value⟩
  | none => .error .positionOverflow

@[simp] theorem CapturePosition.checkedAdvance_ok {p q : CapturePosition} {n : Nat} :
    p.checkedAdvance n = .ok q ↔ q.frames.toNat = p.frames.toNat + n := by
  have key : q.frames.toNat = p.frames.toNat + n ↔ tryU64 (p.frames.toNat + n) = some q.frames := by
    rw [tryU64_eq_some, ← Int.natCast_add, Int.natCast_inj]
  rw [key]
  unfold checkedAdvance
  cases tryU64 (p.frames.toNat + n) with
  | none => simp
  | some u => cases q; simp

/-- Simultaneous position, UTC and monotonic evidence of one source frame. -/
structure CaptureTimeEvidence where
  position : CapturePosition
  utcUnixMillis : Int64
  monotonicMillis : UInt64
  deriving DecidableEq

def CaptureTimeEvidence.new (position : CapturePosition) (utcUnixMillis : Int64) (monotonicMillis : UInt64) :
    Except ReceiveAudioError CaptureTimeEvidence :=
  if utcUnixMillis.toInt < 0 then .error .invalidUtcTimestamp else .ok ⟨position, utcUnixMillis, monotonicMillis⟩

@[simp] theorem CaptureTimeEvidence.new_ok {p : CapturePosition} {u : Int64} {m : UInt64} {e : CaptureTimeEvidence} :
    CaptureTimeEvidence.new p u m = .ok e ↔ 0 ≤ u.toInt ∧ e = ⟨p, u, m⟩ := by
  unfold CaptureTimeEvidence.new
  split
  · simp only [reduceCtorEq, false_iff]; omega
  · simp only [Except.ok.injEq, eq_comm, iff_and_self]; omega

/-! ## Batches -/

/-- Why continuity was lost. -/
inductive CaptureDiscontinuityKind
  | overflow
  | backendGap
  | streamRestart
  | clockRemapped
  deriving DecidableEq

/-- Explicit capture discontinuity at a source-frame position. -/
structure CaptureDiscontinuity where
  atPosition : CapturePosition
  kind : CaptureDiscontinuityKind
  droppedFrames : UInt64
  deriving DecidableEq

/-- Bounded callback counters of one batch. -/
structure CaptureDiagnostics where
  clippedSamples : Nat
  callbackDelayMillis : Nat
  deriving DecidableEq

def CaptureDiagnostics.new (clippedSamples callbackDelayMillis : Nat) : Except ReceiveAudioError CaptureDiagnostics :=
  if callbackDelayMillis > maxCallbackDelayMillis then .error .invalidCallbackDelay
  else .ok ⟨clippedSamples, callbackDelayMillis⟩

/-- One bounded, normalized mono callback-to-worker handoff. -/
structure CaptureBatch where
  processGeneration : ProcessGeneration
  streamGeneration : StreamGeneration
  configuration : InputConfiguration
  firstFrame : CaptureTimeEvidence
  discontinuity : Option CaptureDiscontinuity
  diagnostics : CaptureDiagnostics
  samples : List Int16
  samples_ne : samples ≠ []
  samples_le : samples.length ≤ maxCaptureBatchFrames
  deriving DecidableEq

def CaptureBatch.new (processGeneration : ProcessGeneration) (streamGeneration : StreamGeneration)
    (configuration : InputConfiguration) (firstFrame : CaptureTimeEvidence)
    (discontinuity : Option CaptureDiscontinuity) (diagnostics : CaptureDiagnostics) (samples : List Int16) :
    Except ReceiveAudioError CaptureBatch :=
  if hne : samples = [] then .error .invalidBatchShape
  else if hle : samples.length > maxCaptureBatchFrames then .error .batchTooLarge
  else if firstFrame.position ≠ discontinuity.elim firstFrame.position (·.atPosition) then
    .error .discontinuityPositionMismatch
  else if diagnostics.clippedSamples > samples.length then .error .invalidClippedSampleCount
  else .ok
    { processGeneration, streamGeneration, configuration, firstFrame, discontinuity, diagnostics, samples,
      samples_ne := hne, samples_le := Nat.le_of_not_gt hle }

/-- Source frames in a batch. -/
def CaptureBatch.frameCount (self : CaptureBatch) : Nat := (tryU32 self.samples.length).getD maxCaptureBatchFrames

@[simp] theorem CaptureBatch.frameCount_eq (b : CaptureBatch) : b.frameCount = b.samples.length := by
  have hle : b.samples.length ≤ 8192 := b.samples_le
  unfold frameCount
  rw [tryU32_eq_some.mpr ⟨rfl, by omega⟩]
  rfl

theorem CaptureBatch.length_pos (b : CaptureBatch) : 0 < b.samples.length := List.length_pos_iff.mpr b.samples_ne

/-- The position immediately after a batch. -/
def CaptureBatch.endPosition (self : CaptureBatch) : Except ReceiveAudioError CapturePosition :=
  self.firstFrame.position.checkedAdvance self.frameCount

/-- A contiguous batch of silence. -/
def CaptureBatch.silent (processGeneration : ProcessGeneration) (streamGeneration : StreamGeneration)
    (configuration : InputConfiguration) (firstFrame : CaptureTimeEvidence) (frames : Nat)
    (frames_pos : 0 < frames) (frames_le : frames ≤ maxCaptureBatchFrames) : CaptureBatch where
  processGeneration
  streamGeneration
  configuration
  firstFrame
  discontinuity := none
  diagnostics := { clippedSamples := 0, callbackDelayMillis := 0 }
  samples := List.replicate frames 0
  samples_ne := by rw [ne_eq, List.replicate_eq_nil_iff]; omega
  samples_le := by rw [List.length_replicate]; exact frames_le

/-! ## Windows and health -/

/-- Checked canonical mono receive window. -/
structure Ft8ReceiveWindow where
  processGeneration : ProcessGeneration
  streamGeneration : StreamGeneration
  slotStartUtcMillis : Int64
  mapping : CaptureTimeEvidence
  samples : List Int16
  nonneg : 0 ≤ slotStartUtcMillis.toInt
  aligned : slotStartUtcMillis.toInt.tmod ft8ReceiveSlotMillis = 0
  size : samples.length = ft8ReceiveWindowSamples
  deriving DecidableEq

def Ft8ReceiveWindow.new (processGeneration : ProcessGeneration) (streamGeneration : StreamGeneration)
    (slotStartUtcMillis : Int64) (mapping : CaptureTimeEvidence) (samples : List Int16) :
    Except ReceiveAudioError Ft8ReceiveWindow :=
  if ha : 0 ≤ slotStartUtcMillis.toInt ∧ slotStartUtcMillis.toInt.tmod ft8ReceiveSlotMillis = 0 then
    if hs : samples.length = ft8ReceiveWindowSamples then
      .ok ⟨processGeneration, streamGeneration, slotStartUtcMillis, mapping, samples, ha.1, ha.2, hs⟩
    else .error .invalidFt8WindowSize
  else .error .misalignedFt8Window

/-- Observable receive-input health. -/
structure InputHealth where
  latencyMillis : Nat
  driftPartsPerMillion : Int
  overflowCount : UInt64
  clippedSampleCount : UInt64
  maxCallbackDelayMillis : Nat
  deriving DecidableEq

def InputHealth.new (latencyMillis : Nat) (driftPartsPerMillion : Int) (overflowCount clippedSampleCount : UInt64)
    (callbackDelayMillis : Nat) : Except ReceiveAudioError InputHealth :=
  if latencyMillis > maxLatencyMillis then .error .invalidLatency
  else if driftPartsPerMillion < -maxDriftPartsPerMillion ∨ driftPartsPerMillion > maxDriftPartsPerMillion then
    .error .invalidDrift
  else if callbackDelayMillis > Audio.maxCallbackDelayMillis then .error .invalidCallbackDelay
  else .ok ⟨latencyMillis, driftPartsPerMillion, overflowCount, clippedSampleCount, callbackDelayMillis⟩

/-- Kind of a receive-only input fault. -/
inductive InputFaultKind
  | permissionDenied
  | deviceLost
  | overflow (droppedFrames : UInt64)
  | discontinuity (kind : CaptureDiscontinuityKind)
  | clipping (sampleCount : Nat)
  | drift (partsPerMillion : Int)
  | callbackDelay (millis : Nat)
  | backendFailure
  deriving DecidableEq

/-- Timestamped receive-only input fault. -/
structure InputFault where
  processGeneration : ProcessGeneration
  streamGeneration : Option StreamGeneration
  monotonicMillis : UInt64
  kind : InputFaultKind
  deriving DecidableEq

end Slotpilot.Audio
