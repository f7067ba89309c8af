import Slotpilot.Audio.Resampler
import Slotpilot.Operations.Time

/-!
# The receive clock monitor

`ReceiveClockMonitor` keeps one mapping between UTC and the monotonic clock of its process generation. `observe` checks
each paired sample against the last accepted one, `snapshot` latches a stale mapping, and `gate` lets a complete window
through only while the mapping is healthy and agrees with the window's own. A fault latches the monitor unhealthy; it
recovers after enough consecutive consistent samples.

A method on a mutable monitor returns its result and the monitor after it. The monitor is also a machine (`step`) whose
inputs are the calls of the three methods.
-/

set_option autoImplicit false

namespace Slotpilot.Operations

open Lib Audio

def defaultClockSampleCadenceMillis : Nat := 1000
def defaultClockFreshnessMillis : Nat := 2500
def defaultClockSampleGapMillis : Nat := 5000
def defaultClockJumpToleranceMillis : Nat := 100
def defaultClockSamplingDelayMillis : Nat := 250
def defaultClockRecoverySamples : Nat := 3

/-- Construction failure of a clock value or monitor. -/
inductive ReceiveClockError
  | invalidGeneration
  | invalidConfiguration
  | systemClockBeforeEpoch
  | arithmeticOverflow
  deriving DecidableEq

/-- Process generation owning one monotonic clock origin. -/
structure ClockProcessGeneration where
  value : UInt64
  nonzero : value ≠ 0

theorem ClockProcessGeneration.eq_iff {a b : ClockProcessGeneration} : a.value = b.value ↔ a = b := by
  cases a
  cases b
  simp

instance : DecidableEq ClockProcessGeneration := fun _ _ => decidable_of_iff _ ClockProcessGeneration.eq_iff

def ClockProcessGeneration.new (value : UInt64) : Except ReceiveClockError ClockProcessGeneration :=
  if h : value = 0 then .error .invalidGeneration else .ok ⟨value, h⟩

/-- One paired observation scoped to a process generation. -/
structure GenerationClockSample where
  generation : ClockProcessGeneration
  sample : ClockSample
  deriving DecidableEq

/-- Receive-clock monitoring policy. -/
structure ReceiveClockConfig where
  sampleCadenceMillis : Nat
  freshnessMillis : Nat
  maxSampleGapMillis : Nat
  jumpToleranceMillis : Nat
  maxSamplingDelayMillis : Nat
  recoverySamples : Nat
  deriving DecidableEq

/-- The bounds a policy is checked against. -/
def ReceiveClockConfig.inBounds (self : ReceiveClockConfig) : Bool :=
  !(self.sampleCadenceMillis < 10 || self.sampleCadenceMillis > 10000 ||
    self.freshnessMillis < self.sampleCadenceMillis || self.freshnessMillis > 60000 ||
    self.maxSampleGapMillis < self.sampleCadenceMillis || self.maxSampleGapMillis > 300000 ||
    self.jumpToleranceMillis > 5000 || self.maxSamplingDelayMillis > self.sampleCadenceMillis ||
    self.recoverySamples < 2 || self.recoverySamples > 10)

def ReceiveClockConfig.new (sampleCadenceMillis freshnessMillis maxSampleGapMillis jumpToleranceMillis
    maxSamplingDelayMillis recoverySamples : Nat) : Except ReceiveClockError ReceiveClockConfig :=
  let config : ReceiveClockConfig :=
    { sampleCadenceMillis, freshnessMillis, maxSampleGapMillis, jumpToleranceMillis, maxSamplingDelayMillis,
      recoverySamples }
  if config.inBounds then .ok config else .error .invalidConfiguration

def ReceiveClockConfig.default : ReceiveClockConfig where
  sampleCadenceMillis := defaultClockSampleCadenceMillis
  freshnessMillis := defaultClockFreshnessMillis
  maxSampleGapMillis := defaultClockSampleGapMillis
  jumpToleranceMillis := defaultClockJumpToleranceMillis
  maxSamplingDelayMillis := defaultClockSamplingDelayMillis
  recoverySamples := defaultClockRecoverySamples

/-- Why a clock mapping cannot align live audio. -/
inductive ReceiveClockFault
  | processGenerationChanged
  | timelineRegressed
  | utcJump (divergenceMillis : Int)
  | staleMapping (ageMillis : Nat)
  | samplingDelayed (delayMillis : Nat)
  | sampleGap (gapMillis : Nat)
  | windowMisaligned (divergenceMillis : Int)
  | arithmeticOverflow
  deriving DecidableEq

/-- Latched state of a monitor. -/
inductive ReceiveClockState
  | healthy
  | unhealthy (fault : ReceiveClockFault) (recoveryProgress recoveryRequired : Nat)
  deriving DecidableEq

/-- Diagnostic snapshot. -/
structure ReceiveClockSnapshot where
  generation : ClockProcessGeneration
  state : ReceiveClockState
  lastAccepted : ClockSample
  observedAt : MonotonicInstant
  mappingAgeMillis : Nat
  nextSampleDue : MonotonicInstant
  deriving DecidableEq

/-- Transition reported for an observation. -/
inductive ReceiveClockTransition
  | healthy (snapshot : ReceiveClockSnapshot)
  | becameUnhealthy (snapshot : ReceiveClockSnapshot)
  | recovering (snapshot : ReceiveClockSnapshot)
  | recovered (snapshot : ReceiveClockSnapshot)
  | unhealthy (snapshot : ReceiveClockSnapshot)
  deriving DecidableEq

/-- Clock evidence attached to one accepted window. -/
structure ReceiveWindowAlignment where
  slot : Ft8ReceiveSlot
  slotStartMonotonic : MonotonicInstant
  mappingAgeMillis : Nat
  deriving DecidableEq

/-- Timeline outcome after clock gating. -/
inductive ClockGatedTimelineEvent
  | windowReady (window : Ft8ReceiveWindow) (alignment : ReceiveWindowAlignment)
  | windowRejected (slot : Ft8ReceiveSlot) (fault : ReceiveClockFault)
  | incomplete (incomplete : IncompleteFt8Slot)
  deriving DecidableEq

/-- Clock-health monitor and window gate. -/
structure ReceiveClockMonitor where
  generation : ClockProcessGeneration
  config : ReceiveClockConfig
  state : ReceiveClockState
  lastAccepted : ClockSample
  recoveryLast : Option ClockSample
  deriving DecidableEq

namespace ReceiveClockMonitor

def new (initial : GenerationClockSample) (config : ReceiveClockConfig) :
    Except ReceiveClockError ReceiveClockMonitor := do
  let _ ← ReceiveClockConfig.new config.sampleCadenceMillis config.freshnessMillis config.maxSampleGapMillis
    config.jumpToleranceMillis config.maxSamplingDelayMillis config.recoverySamples
  pure
    { generation := initial.generation
      config
      state := .healthy
      lastAccepted := initial.sample
      recoveryLast := none }

theorem new_of_inBounds {initial : GenerationClockSample} {config : ReceiveClockConfig} (h : config.inBounds = true) :
    new initial config = .ok
      { generation := initial.generation, config, state := .healthy, lastAccepted := initial.sample,
        recoveryLast := none } := by
  simp [new, ReceiveClockConfig.new, h]

theorem new_of_not_inBounds {initial : GenerationClockSample} {config : ReceiveClockConfig}
    (h : config.inBounds = false) : new initial config = .error .invalidConfiguration := by
  simp [new, ReceiveClockConfig.new, h]

def nextSampleDue (self : ReceiveClockMonitor) : Except ReceiveClockError MonotonicInstant :=
  match tryU64 ((self.lastAccepted.monotonic.millis.toNat : Int) + self.config.sampleCadenceMillis) with
  | some millis => .ok ⟨millis⟩
  | none => .error .arithmeticOverflow

/-- Age of the accepted mapping at an instant. -/
def mappingAge (self : ReceiveClockMonitor) (observedAt : MonotonicInstant) : Nat :=
  observedAt.millis.toNat - self.lastAccepted.monotonic.millis.toNat

def snapshotUnchecked (self : ReceiveClockMonitor) (observedAt : MonotonicInstant) : ReceiveClockSnapshot where
  generation := self.generation
  state := self.state
  lastAccepted := self.lastAccepted
  observedAt
  mappingAgeMillis := self.mappingAge observedAt
  nextSampleDue :=
    match self.nextSampleDue with
    | .ok due => due
    | .error _ => ⟨UInt64.ofNat (2 ^ 64 - 1)⟩

/-- A monitor latched unhealthy with `fault`. -/
def withFault (self : ReceiveClockMonitor) (fault : ReceiveClockFault) (recoveryLast : Option ClockSample) :
    ReceiveClockMonitor :=
  { self with
    state := .unhealthy fault (if recoveryLast.isSome then 1 else 0) self.config.recoverySamples
    recoveryLast }

def latch (self : ReceiveClockMonitor) (fault : ReceiveClockFault) (observedAt : MonotonicInstant)
    (recoveryLast : Option ClockSample) : ReceiveClockTransition × ReceiveClockMonitor :=
  let latched := self.withFault fault recoveryLast
  if self.state = .healthy then (.becameUnhealthy (latched.snapshotUnchecked observedAt), latched)
  else (.unhealthy (latched.snapshotUnchecked observedAt), latched)

/-- Takes a snapshot and latches a stale mapping. -/
def snapshot (self : ReceiveClockMonitor) (observedAt : MonotonicInstant) :
    ReceiveClockSnapshot × ReceiveClockMonitor :=
  let age := self.mappingAge observedAt
  let checked :=
    if age > self.config.freshnessMillis ∧ self.state = .healthy then self.withFault (.staleMapping age) none else self
  (checked.snapshotUnchecked observedAt, checked)

/-- The fault between two consecutive samples, if any. -/
def compare (self : ReceiveClockMonitor) (previous current : ClockSample) : Option ReceiveClockFault :=
  match tryI64 (current.utc.unixMillis.toInt - previous.utc.unixMillis.toInt) with
  | none => some .arithmeticOverflow
  | some utcDelta =>
    match tryU64 ((current.monotonic.millis.toNat : Int) - previous.monotonic.millis.toNat) with
    | none => some .timelineRegressed
    | some monotonicDelta =>
      let divergence := (saturateI64 (utcDelta.toInt - monotonicDelta.toNat)).toInt
      if utcDelta.toInt < 0 then some (.utcJump divergence)
      else if monotonicDelta.toNat > self.config.maxSampleGapMillis then some (.sampleGap monotonicDelta.toNat)
      else if divergence.natAbs > self.config.jumpToleranceMillis then some (.utcJump divergence)
      else none

/-- An observation of a healthy monitor's own generation, in time. -/
def observeHealthy (self : ReceiveClockMonitor) (sample : ClockSample) (observedAt : MonotonicInstant) :
    ReceiveClockTransition × ReceiveClockMonitor :=
  match self.compare self.lastAccepted sample with
  | some fault => self.latch fault observedAt none
  | none =>
    let result := { self with lastAccepted := sample }.snapshot observedAt
    (.healthy result.1, result.2)

/-- An observation of an unhealthy monitor's own generation, in time: a candidate for recovery. -/
def observeUnhealthy (self : ReceiveClockMonitor) (fault : ReceiveClockFault) (recoveryProgress recoveryRequired : Nat)
    (sample : ClockSample) (observedAt : MonotonicInstant) : ReceiveClockTransition × ReceiveClockMonitor :=
  if fault = .processGenerationChanged then
    let result := self.snapshot observedAt
    (.unhealthy result.1, result.2)
  else
    match self.recoveryLast.bind (self.compare · sample) with
    | some newFault => self.latch newFault observedAt (some sample)
    | none =>
      let progress := min (recoveryProgress + 1) 255
      if progress ≥ recoveryRequired then
        let result := { self with state := .healthy, lastAccepted := sample, recoveryLast := none }.snapshot observedAt
        (.recovered result.1, result.2)
      else
        let result :=
          { self with state := .unhealthy fault progress recoveryRequired, recoveryLast := some sample }.snapshot
            observedAt
        (.recovering result.1, result.2)

/-- Observes one sample. -/
def observe (self : ReceiveClockMonitor) (observation : GenerationClockSample) (observedAt : MonotonicInstant) :
    ReceiveClockTransition × ReceiveClockMonitor :=
  if observation.generation ≠ self.generation then self.latch .processGenerationChanged observedAt none
  else if observedAt.millis < observation.sample.monotonic.millis then
    self.latch .timelineRegressed observedAt none
  else
    let delay := observedAt.millis.toNat - observation.sample.monotonic.millis.toNat
    if delay > self.config.maxSamplingDelayMillis then self.latch (.samplingDelayed delay) observedAt none
    else
      match self.state with
      | .healthy => self.observeHealthy observation.sample observedAt
      | .unhealthy fault recoveryProgress recoveryRequired =>
        self.observeUnhealthy fault recoveryProgress recoveryRequired observation.sample observedAt

/-- Compares a window's capture mapping with the accepted clock mapping. -/
def alignWindow (self : ReceiveClockMonitor) (window : Ft8ReceiveWindow) (slot : Ft8ReceiveSlot)
    (mappingAgeMillis : Nat) : Except ReceiveClockFault ReceiveWindowAlignment := do
  let utcDelta := slot.startUtcUnixMillis.toInt - self.lastAccepted.utc.unixMillis.toInt
  let predicted ← okOr .arithmeticOverflow (tryU64 (self.lastAccepted.monotonic.millis.toNat + utcDelta))
  let divergence ← okOr .arithmeticOverflow
    (tryI64 ((window.mapping.monotonicMillis.toNat : Int) - predicted.toNat))
  if divergence.toInt.natAbs > self.config.jumpToleranceMillis then
    throw (.windowMisaligned divergence.toInt)
  else pure { slot, slotStartMonotonic := ⟨predicted⟩, mappingAgeMillis }

/-- Gates one timeline event. -/
def gate (self : ReceiveClockMonitor) (event : ReceiveTimelineEvent) (observedAt : MonotonicInstant) :
    ClockGatedTimelineEvent × ReceiveClockMonitor :=
  match event with
  | .incomplete incomplete => (.incomplete incomplete, self)
  | .window window =>
    let slot := window.slot
    let (snapshot, self) := self.snapshot observedAt
    match snapshot.state with
    | .unhealthy fault _ _ => (.windowRejected slot fault, self)
    | .healthy =>
      match self.alignWindow window slot snapshot.mappingAgeMillis with
      | .ok alignment => (.windowReady window alignment, self)
      | .error fault => (.windowRejected slot fault, self.withFault fault none)

/-! ## Calls -/

/-- A call of the monitor. -/
inductive Call
  | observe (observation : GenerationClockSample) (observedAt : MonotonicInstant)
  | snapshot (observedAt : MonotonicInstant)
  | gate (event : ReceiveTimelineEvent) (observedAt : MonotonicInstant)

/-- What a call returns. -/
inductive Answer
  | transition (transition : ReceiveClockTransition)
  | snapshot (snapshot : ReceiveClockSnapshot)
  | gated (event : ClockGatedTimelineEvent)
  deriving DecidableEq

/-- The monitor as a machine. -/
def step (self : ReceiveClockMonitor) : Call → Answer × ReceiveClockMonitor
  | .observe observation observedAt => (self.observe observation observedAt).map .transition id
  | .snapshot observedAt => (self.snapshot observedAt).map .snapshot id
  | .gate event observedAt => (self.gate event observedAt).map .gated id

end ReceiveClockMonitor

end Slotpilot.Operations
