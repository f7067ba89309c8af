import Slotpilot.Audio.Resampler
import Slotpilot.Lib.Machine

/-!
# The receive timeline

`Ft8ReceiveTimeline.push` checks one batch in the order of the source (identity, lateness, position, discontinuity,
mapping), resamples it and advances the expected position. Each check is an update of its own (`checkLateness`, …): it
returns normally or has already discarded the active slot when it fails. A failure keeps what was written before it.
-/

set_option autoImplicit false

namespace Slotpilot.Audio

open Lib

/-- Maximum accepted batch-arrival delay. -/
def maxReceiveBatchLatenessMillis : Nat := 2000
/-- Maximum accepted deviation from the source-frame monotonic timeline. -/
def maxReceiveJitterMillis : Nat := 50
/-- Maximum accepted UTC/monotonic offset change. -/
def maxReceiveClockRemapMillis : Nat := 20
/-- Maximum accepted absolute source-rate error. -/
def maxReceiveDriftPartsPerMillion : Nat := 5000

/-- Health accounting of one timeline. -/
structure ReceiveTimelineHealth where
  maxJitterMillis : Nat
  driftPartsPerMillion : Int
  incompleteSlotCount : Nat
  lateBatchCount : Nat
  deriving DecidableEq

/-- Evidence of the first batch since the last invalidation. -/
structure TimelineAnchor where
  position : CapturePosition
  utcUnixMillis : Int64
  monotonicMillis : UInt64
  deriving DecidableEq

def TimelineAnchor.fromBatch (batch : CaptureBatch) : TimelineAnchor where
  position := batch.firstFrame.position
  utcUnixMillis := batch.firstFrame.utcUnixMillis
  monotonicMillis := batch.firstFrame.monotonicMillis

/-- Receive timeline of one capture generation. -/
structure Ft8ReceiveTimeline where
  processGeneration : ProcessGeneration
  streamGeneration : StreamGeneration
  configuration : InputConfiguration
  expectedPosition : Option CapturePosition
  lastBatchPosition : Option CapturePosition
  lastMonotonicMillis : Option UInt64
  anchor : Option TimelineAnchor
  resampler : Option RationalResampler
  health : ReceiveTimelineHealth
  deriving DecidableEq

namespace Ft8ReceiveTimeline

/-- An update of a timeline. -/
abbrev Update (α : Type) : Type := EStateM ReceiveTimelineError Ft8ReceiveTimeline α

def new (processGeneration : ProcessGeneration) (streamGeneration : StreamGeneration)
    (configuration : InputConfiguration) : Ft8ReceiveTimeline where
  processGeneration
  streamGeneration
  configuration
  expectedPosition := none
  lastBatchPosition := none
  lastMonotonicMillis := none
  anchor := none
  resampler := none
  health := { maxJitterMillis := 0, driftPartsPerMillion := 0, incompleteSlotCount := 0, lateBatchCount := 0 }

def validateIdentity (self : Ft8ReceiveTimeline) (batch : CaptureBatch) : Except ReceiveTimelineError Unit :=
  if batch.processGeneration ≠ self.processGeneration then .error .processGenerationChanged
  else if batch.streamGeneration ≠ self.streamGeneration then .error .streamGenerationChanged
  else if batch.configuration ≠ self.configuration then .error .configurationChanged
  else .ok ()

def validatePosition (self : Ft8ReceiveTimeline) (batch : CaptureBatch) : Except ReceiveTimelineError Unit :=
  match self.expectedPosition with
  | none => .ok ()
  | some expectedPosition =>
    let actual := batch.firstFrame.position.frames.toNat
    let expected := expectedPosition.frames.toNat
    if actual = expected then .ok ()
    else if actual < expected then
      if self.lastBatchPosition.any (actual < ·.frames.toNat) then .error .outOfOrder
      else .error (.overlap (expected - actual))
    else .error (.gap (actual - expected))

/-- Drops the anchor, the resampler and the active slot. -/
def invalidateActive (self : Ft8ReceiveTimeline) : Ft8ReceiveTimeline :=
  let discarded := self.resampler.bind (·.discardActive.1)
  { self with
    anchor := none
    resampler := none
    health.incompleteSlotCount :=
      if discarded.isSome then saturatingAdd self.health.incompleteSlotCount 1 else self.health.incompleteSlotCount }

/-- Expects the frame after a batch next. -/
def advanceExpected (batch : CaptureBatch) : Update Unit := do
  modify fun self =>
    { self with
      lastBatchPosition := some batch.firstFrame.position
      lastMonotonicMillis := some batch.firstFrame.monotonicMillis }
  let endPosition ← fromResult (batch.endPosition.mapError fun _ => .arithmeticOverflow)
  modify fun self => { self with expectedPosition := some endPosition }

/-- Fails with `error` after discarding the active slot and stepping over the batch. -/
def reject (batch : CaptureBatch) (error : ReceiveTimelineError) : Update Unit := do
  modify invalidateActive
  advanceExpected batch
  throw error

/-- Lateness of a batch at its observation. -/
def lateness (batch : CaptureBatch) (observedAtMonotonicMillis : UInt64) : Nat :=
  observedAtMonotonicMillis.toNat - batch.firstFrame.monotonicMillis.toNat

def checkLateness (batch : CaptureBatch) (observedAtMonotonicMillis : UInt64) : Update Unit :=
  let lateness := lateness batch observedAtMonotonicMillis
  if lateness > maxReceiveBatchLatenessMillis then do
    modify fun self => { self with health.lateBatchCount := saturatingAdd self.health.lateBatchCount 1 }
    reject batch (.lateData lateness)
  else pure ()

def checkPosition (batch : CaptureBatch) : Update Unit := do
  let self ← get
  match self.validatePosition batch with
  | .ok () => pure ()
  -- missing frames are stepped over, repeated ones are not
  | .error (.gap frames) => reject batch (.gap frames)
  | .error error => do
    modify invalidateActive
    throw error

def checkDiscontinuity (batch : CaptureBatch) : Update Unit :=
  match batch.discontinuity with
  | none => pure ()
  | some discontinuity => do
    let self ← get
    let initialRestart := self.expectedPosition = none ∧ discontinuity.kind = .streamRestart
    if initialRestart then pure () else reject batch (.discontinuity discontinuity.kind)

/-- Frames of the anchor's timeline before a batch, in whole milliseconds of the nominal rate. -/
def expectedMillis (self : Ft8ReceiveTimeline) (frameDelta : Nat) : Option Nat :=
  (tryU64 ((frameDelta : Int) * 1000)).map fun product => product.toNat / self.configuration.sampleRateHz

/-- The deviation of a batch from the nominal rate must stay within the jitter tolerance. -/
def validateJitter (expectedMillis observedMillis : Nat) : Update Unit := do
  let jitter ← orThrow .arithmeticOverflow (tryI64 ((observedMillis : Int) - expectedMillis))
  modify fun self =>
    { self with
      health.maxJitterMillis :=
        max self.health.maxJitterMillis ((tryU32 jitter.toInt.natAbs).getD (2 ^ 32 - 1)) }
  if jitter.toInt.natAbs > maxReceiveJitterMillis then throw (.excessiveJitter jitter.toInt) else pure ()

/-- The offset between UTC and the monotonic clock must stay the anchor's. -/
def validateRemap (anchor : TimelineAnchor) (batch : CaptureBatch) : Update Unit := do
  let anchorOffset := anchor.utcUnixMillis.toInt - anchor.monotonicMillis.toNat
  let currentOffset := batch.firstFrame.utcUnixMillis.toInt - batch.firstFrame.monotonicMillis.toNat
  let remap ← orThrow .arithmeticOverflow (tryI64 (currentOffset - anchorOffset))
  if remap.toInt.natAbs > maxReceiveClockRemapMillis then throw (.clockRemapped remap.toInt) else pure ()

/-- From one second on, the rate error must stay within the drift tolerance. -/
def validateDrift (expectedMillis observedMillis : Nat) : Update Unit :=
  if expectedMillis ≥ 1000 then do
    let scaled ← orThrow .arithmeticOverflow (tryI128 (((observedMillis : Int) - expectedMillis) * 1000000))
    let partsPerMillion ← orThrow .arithmeticOverflow (tryI32 (scaled.tdiv expectedMillis))
    modify fun self => { self with health.driftPartsPerMillion := partsPerMillion }
    if partsPerMillion.natAbs > maxReceiveDriftPartsPerMillion then throw (.excessiveDrift partsPerMillion) else pure ()
  else pure ()

/-- Checks the time evidence of a batch against the anchor. -/
def validateMapping (anchor : TimelineAnchor) (batch : CaptureBatch) : Update Unit := do
  let self ← get
  let monotonic := batch.firstFrame.monotonicMillis.toNat
  if self.lastMonotonicMillis.any (monotonic < ·.toNat) then throw .monotonicRegression
  else if monotonic < anchor.monotonicMillis.toNat then throw .monotonicRegression
  else do
    let frameDelta ← orThrow .outOfOrder
      (tryU64 ((batch.firstFrame.position.frames.toNat : Int) - anchor.position.frames.toNat))
    let expectedMillis ← orThrow .arithmeticOverflow (self.expectedMillis frameDelta.toNat)
    let observedMillis := monotonic - anchor.monotonicMillis.toNat
    validateJitter expectedMillis observedMillis
    validateRemap anchor batch
    validateDrift expectedMillis observedMillis

/-- Anchors the timeline at a first batch and checks the mapping of every later one. -/
def checkMapping (batch : CaptureBatch) : Update Unit := do
  let self ← get
  match self.anchor with
  | none => modify fun self => { self with anchor := some (TimelineAnchor.fromBatch batch) }
  | some anchor => tryCatch (validateMapping anchor batch) (reject batch)

/-- Starts a resampler at the batch if there is none. -/
def ensureResampler (batch : CaptureBatch) : Update Unit := do
  let self ← get
  if self.resampler = none then do
    let resampler ← fromResult (RationalResampler.new batch.firstFrame self.configuration.sampleRateHz
      self.processGeneration self.streamGeneration)
    modify fun self => { self with resampler := some resampler }
  else pure ()

/-- Runs an update of the resampler. -/
def onResampler {α : Type} (update : RationalResampler.Update α) : Update α :=
  onPart resampler (fun resampler self => { self with resampler := some resampler }) .arithmeticOverflow update

def countIncomplete (self : Ft8ReceiveTimeline) (events : List ReceiveTimelineEvent) : Ft8ReceiveTimeline :=
  let incomplete := events.countP fun
    | .incomplete _ => true
    | .window _ => false
  { self with health.incompleteSlotCount := saturatingAdd self.health.incompleteSlotCount incomplete }

/-- Consumes one batch observed at a monotonic instant. -/
def push (batch : CaptureBatch) (observedAtMonotonicMillis : UInt64) : Update (List ReceiveTimelineEvent) := do
  let self ← get
  fromResult (self.validateIdentity batch)
  checkLateness batch observedAtMonotonicMillis
  checkPosition batch
  checkDiscontinuity batch
  checkMapping batch
  ensureResampler batch
  let events ← onResampler (RationalResampler.push batch)
  modify (countIncomplete · events)
  advanceExpected batch
  pure events

/-- What a call of `push` gives. -/
abbrev Outcome : Type := Except ReceiveTimelineError (List ReceiveTimelineEvent)

/-- The timeline as a machine: a batch with its observation goes in, what `push` returns comes out. -/
def step (self : Ft8ReceiveTimeline) (input : CaptureBatch × UInt64) : Outcome × Ft8ReceiveTimeline :=
  let result := push input.1 input.2 self
  (outcome result, finalState result)

end Ft8ReceiveTimeline

end Slotpilot.Audio
