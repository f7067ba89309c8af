import Slotpilot.Audio.Contracts
import Slotpilot.Lib.StateResult

/-!
# The rational resampler

The 12 kHz output clock counts ticks of a twelfth of a millisecond since the Unix epoch, so a slot is the 180,000 ticks
from a multiple of 180,000. The resampler anchors source frame 0 at the anchor's UTC tick and interpolates one output
sample for each tick up to the latest source frame. `active` accumulates the slot of the next tick.

A method of the source that pushes to `events` returns the events it pushed.
-/

set_option autoImplicit false

namespace Slotpilot.Audio

open Lib

def outputTicksPerMillisecond : Int := ft8ReceiveSampleRateHz / 1000
def outputTicksPerSlot : Int := ft8ReceiveWindowSamples

/-! ## Events and errors -/

/-- Failure of receive timeline processing. -/
inductive ReceiveTimelineError
  | invalidSlot
  | processGenerationChanged
  | streamGenerationChanged
  | configurationChanged
  | outOfOrder
  | overlap (frames : Nat)
  | gap (frames : Nat)
  | discontinuity (kind : CaptureDiscontinuityKind)
  | monotonicRegression
  | excessiveJitter (millis : Int)
  | clockRemapped (millis : Int)
  | excessiveDrift (partsPerMillion : Int)
  | lateData (millis : Nat)
  | arithmeticOverflow
  deriving DecidableEq

/-- Exact identity of one UTC-aligned receive slot. -/
structure Ft8ReceiveSlot where
  startUtcUnixMillis : Int64
  nonneg : 0 ≤ startUtcUnixMillis.toInt
  aligned : startUtcUnixMillis.toInt.tmod ft8ReceiveSlotMillis = 0

section SlotStart

variable {millis : Int64} (h : 0 ≤ millis.toInt ∧ millis.toInt.tmod ft8ReceiveSlotMillis = 0)
include h

theorem slotStart_nonneg : 0 ≤ millis.toInt := h.1

theorem slotStart_aligned : millis.toInt.tmod ft8ReceiveSlotMillis = 0 := h.2

end SlotStart

theorem Ft8ReceiveSlot.eq_iff {a b : Ft8ReceiveSlot} : a.startUtcUnixMillis = b.startUtcUnixMillis ↔ a = b := by
  cases a
  cases b
  simp

instance : DecidableEq Ft8ReceiveSlot := fun _ _ => decidable_of_iff _ Ft8ReceiveSlot.eq_iff

def Ft8ReceiveSlot.new (startUtcUnixMillis : Int64) : Except ReceiveTimelineError Ft8ReceiveSlot :=
  if h : 0 ≤ startUtcUnixMillis.toInt ∧ startUtcUnixMillis.toInt.tmod ft8ReceiveSlotMillis = 0 then
    .ok ⟨startUtcUnixMillis, slotStart_nonneg h, slotStart_aligned h⟩
  else .error .invalidSlot

def Ft8ReceiveWindow.slot (self : Ft8ReceiveWindow) : Ft8ReceiveSlot :=
  ⟨self.slotStartUtcMillis, self.nonneg, self.aligned⟩

/-- Why a partial slot was not published as a window. -/
inductive IncompleteSlotReason
  | captureStartedLate
  | timelineInvalidated
  deriving DecidableEq

/-- A slot that was withheld. -/
structure IncompleteFt8Slot where
  slot : Ft8ReceiveSlot
  reason : IncompleteSlotReason
  accumulatedSamples : Nat
  deriving DecidableEq

/-- One timeline-processing outcome. -/
inductive ReceiveTimelineEvent
  | window (window : Ft8ReceiveWindow)
  | incomplete (incomplete : IncompleteFt8Slot)
  deriving DecidableEq

/-! ## The accumulator of one slot -/

/-- Samples of the slot of the next tick, from its first tick on. -/
structure WindowAccumulator where
  slotTick : Int
  slot : Ft8ReceiveSlot
  firstTick : Int
  mapping : CaptureTimeEvidence
  samples : List Int16
  deriving DecidableEq

def WindowAccumulator.new (slotTick firstTick : Int) (mapping : CaptureTimeEvidence) :
    Except ReceiveTimelineError WindowAccumulator :=
  match tryI64 (slotTick.tdiv outputTicksPerMillisecond) with
  | none => .error .arithmeticOverflow
  | some slotMillis =>
    (Ft8ReceiveSlot.new slotMillis).map fun slot => { slotTick, slot, firstTick, mapping, samples := [] }

def WindowAccumulator.incompleteEvent (self : WindowAccumulator) :
    Except ReceiveTimelineError (Option ReceiveTimelineEvent) :=
  if self.samples = [] then .ok none
  else
    match tryU32 self.samples.length with
    | none => .error .arithmeticOverflow
    | some accumulatedSamples =>
      .ok (some (.incomplete
        { slot := self.slot
          reason := if self.firstTick = self.slotTick then .timelineInvalidated else .captureStartedLate
          accumulatedSamples }))

/-- Linear interpolation between two samples, rounded half away from the first. -/
def interpolate (previous current : Int16) (numerator denominator : Int) : Except ReceiveTimelineError Int16 :=
  if denominator ≤ 0 ∨ numerator < 0 ∨ numerator > denominator then .error .arithmeticOverflow
  else
    match tryI128 ((current.toInt - previous.toInt) * numerator) with
    | none => .error .arithmeticOverflow
    | some adjustment =>
      let rounded :=
        (if adjustment ≥ 0 then adjustment + denominator.tdiv 2 else adjustment - denominator.tdiv 2).tdiv denominator
      match tryI16 (previous.toInt + rounded) with
      | none => .error .arithmeticOverflow
      | some sample => .ok sample

/-! ## The resampler -/

/-- Resampler of one contiguous stretch of source frames; `previous` is the latest frame and its distance to the
anchor. -/
structure RationalResampler where
  anchor : CaptureTimeEvidence
  sourceRateHz : Nat
  processGeneration : ProcessGeneration
  streamGeneration : StreamGeneration
  nextOutputTick : Int
  previous : Option (Nat × Int16)
  active : Option WindowAccumulator
  deriving DecidableEq

namespace RationalResampler

/-- An update of a resampler. -/
abbrev Update (α : Type) : Type := EStateM ReceiveTimelineError RationalResampler α

def new (anchor : CaptureTimeEvidence) (sourceRateHz : Nat) (processGeneration : ProcessGeneration)
    (streamGeneration : StreamGeneration) : Except ReceiveTimelineError RationalResampler :=
  match tryI128 (anchor.utcUnixMillis.toInt * outputTicksPerMillisecond) with
  | none => .error .arithmeticOverflow
  | some nextOutputTick =>
    .ok { anchor, sourceRateHz, processGeneration, streamGeneration, nextOutputTick, previous := none, active := none }

/-- Source position of a tick relative to the anchor, or nothing below frame 0 or past the last frame number. -/
def sourcePosition (anchor : CaptureTimeEvidence) (sourceDelta : Int) : Option UInt64 :=
  tryU64 (anchor.position.frames.toNat + sourceDelta)

/-- Time evidence of a slot's first tick at an offset from the anchor; the anchor's own when there is no such frame. -/
def evidenceAt (anchor : CaptureTimeEvidence) (slotTick sourceDelta : Int) :
    Except ReceiveTimelineError CaptureTimeEvidence :=
  match sourcePosition anchor sourceDelta with
  | none => .ok anchor
  | some position => do
    let slotMillis ← okOr .arithmeticOverflow (tryI64 (slotTick.tdiv outputTicksPerMillisecond))
    let monotonicMillis ← okOr .arithmeticOverflow
      (tryU64 (anchor.monotonicMillis.toNat + (slotMillis.toInt - anchor.utcUnixMillis.toInt)))
    (CaptureTimeEvidence.new ⟨position⟩ slotMillis monotonicMillis).mapError fun _ => .arithmeticOverflow

def mappingForTick (self : RationalResampler) (slotTick : Int) : Except ReceiveTimelineError CaptureTimeEvidence := do
  let anchorTick ← okOr .arithmeticOverflow (tryI128 (self.anchor.utcUnixMillis.toInt * outputTicksPerMillisecond))
  let tickDelta ← okOr .arithmeticOverflow (tryI128 (slotTick - anchorTick))
  let scaled ← okOr .arithmeticOverflow (tryI128 (tickDelta * self.sourceRateHz))
  let sourceDelta ← okOr .arithmeticOverflow (tryI64 (scaled.tdiv ft8ReceiveSampleRateHz))
  evidenceAt self.anchor slotTick sourceDelta.toInt

def withActive (self : RationalResampler) (active : Option WindowAccumulator) : RationalResampler :=
  { self with active }

/-- Makes the slot from `slotTick` active and reports the partial slot it replaces. -/
def enterSlot (slotTick : Int) : Update (List ReceiveTimelineEvent) := do
  let self ← get
  if self.active.map (·.slotTick) ≠ some slotTick then do
    modify (withActive · none)
    let event ← fromResult (self.active.elim (.ok none) WindowAccumulator.incompleteEvent)
    let mapping ← fromResult (self.mappingForTick slotTick)
    let entered ← fromResult (WindowAccumulator.new slotTick self.nextOutputTick mapping)
    modify (withActive · (some entered))
    pure event.toList
  else pure []

/-- Appends a sample to the active slot and reports the window it completes. -/
def appendSample (sample : Int16) : Update (List ReceiveTimelineEvent) := do
  let self ← get
  let active ← orThrow .arithmeticOverflow self.active
  let samples := active.samples ++ [sample]
  if samples.length = ft8ReceiveWindowSamples then do
    modify (withActive · none)
    let window ← fromResult ((Ft8ReceiveWindow.new self.processGeneration self.streamGeneration
      active.slot.startUtcUnixMillis active.mapping samples).mapError fun _ => .arithmeticOverflow)
    pure [.window window]
  else do
    modify (withActive · (some { active with samples }))
    pure []

def pushOutput (sample : Int16) : Update (List ReceiveTimelineEvent) := do
  let self ← get
  let slotTick := self.nextOutputTick / outputTicksPerSlot * outputTicksPerSlot
  let withheld ← enterSlot slotTick
  let completed ← appendSample sample
  pure (withheld ++ completed)

/-- The next tick's distance to the anchor, in ticks of one source frame times one output sample. -/
def targetSourceTick (self : RationalResampler) : Option Int := do
  let anchorTick ← tryI128 (self.anchor.utcUnixMillis.toInt * outputTicksPerMillisecond)
  let targetFromAnchor ← tryI128 (self.nextOutputTick - anchorTick)
  tryI128 (targetFromAnchor * self.sourceRateHz)

/-- One pass of the loop of `push_sample`; nothing once the next tick lies past the current frame. -/
def pushTick (positionDelta : Nat) (sample : Int16) (currentSourceTick : Int) :
    Update (Option (List ReceiveTimelineEvent)) := do
  let self ← get
  let target ← orThrow .arithmeticOverflow self.targetSourceTick
  if target > currentSourceTick then pure none
  else do
    let (previousPosition, previousSample) ← orThrow .arithmeticOverflow self.previous
    let previousSourceTick ← orThrow .arithmeticOverflow (tryI128 (previousPosition * ft8ReceiveSampleRateHz))
    if target < previousSourceTick then throw .outOfOrder
    else do
      let interpolated ← fromResult (if positionDelta = previousPosition then .ok previousSample else
        interpolate previousSample sample (target - previousSourceTick) (currentSourceTick - previousSourceTick))
      let events ← pushOutput interpolated
      let nextOutputTick ← orThrow .arithmeticOverflow (tryI128 (self.nextOutputTick + 1))
      modify fun r => { r with nextOutputTick }
      pure (some events)

/-- The loop of `push_sample`, at most `passes` times. -/
def pushTicks (positionDelta : Nat) (sample : Int16) (currentSourceTick : Int) :
    Nat → Update (List ReceiveTimelineEvent)
  | 0 => pure []
  | passes + 1 => do
    match ← pushTick positionDelta sample currentSourceTick with
    | none => pure []
    | some events => do
      let later ← pushTicks positionDelta sample currentSourceTick passes
      pure (events ++ later)

/-- Passes of the loop: one for each tick up to the current frame and the one that leaves it. -/
def loopPasses (self : RationalResampler) (currentSourceTick : Int) : Nat :=
  let target := (self.nextOutputTick - self.anchor.utcUnixMillis.toInt * outputTicksPerMillisecond) * self.sourceRateHz
  ((currentSourceTick - target) / self.sourceRateHz + 1).toNat + 1

def pushSample (position : UInt64) (sample : Int16) : Update (List ReceiveTimelineEvent) := do
  let self ← get
  let delta ← orThrow .outOfOrder (tryU64 ((position.toNat : Int) - self.anchor.position.frames.toNat))
  let positionDelta := delta.toNat
  modify fun r => { r with previous := some (r.previous.getD (positionDelta, sample)) }
  let currentSourceTick ← orThrow .arithmeticOverflow (tryI128 (positionDelta * ft8ReceiveSampleRateHz))
  let events ← pushTicks positionDelta sample currentSourceTick (self.loopPasses currentSourceTick)
  modify fun r => { r with previous := some (positionDelta, sample) }
  pure events

/-- Pushes the samples of a batch from the one with number `index` on. -/
def pushSamples (firstPosition : UInt64) : Nat → List Int16 → Update (List ReceiveTimelineEvent)
  | _, [] => pure []
  | index, sample :: samples => do
    let position ← orThrow .arithmeticOverflow (tryU64 (firstPosition.toNat + index))
    let events ← pushSample position sample
    let later ← pushSamples firstPosition (index + 1) samples
    pure (events ++ later)

def push (batch : CaptureBatch) : Update (List ReceiveTimelineEvent) :=
  pushSamples batch.firstFrame.position.frames 0 batch.samples

/-- Drops the active slot; reports it when it holds a sample. -/
def discardActive (self : RationalResampler) : Option IncompleteFt8Slot × RationalResampler :=
  let discarded := self.active.bind fun active =>
    if active.samples = [] then none
    else some
      { slot := active.slot, reason := .timelineInvalidated,
        accumulatedSamples := (tryU32 active.samples.length).getD (2 ^ 32 - 1) }
  (discarded, self.withActive none)

end RationalResampler

end Slotpilot.Audio
