import Slotpilot.Audio.Capture
import Slotpilot.Audio.Spectrum
import Slotpilot.Operations.ReceiveClock
import Slotpilot.Storage.Receive

/-!
# The live receive coordinator

`LiveReceiveCoordinator` composes one input, one decoder and one store with a timeline, a clock monitor and a spectrum
model. `start` opens the input, `poll` takes batches from it and turns complete healthy windows into stored records, and
`stop` closes it. A fault inhibits receive until an explicit stop.

The input, the decoder and the store are the classes of the source, whose methods return a result and the value after
them. Methods of the coordinator are updates: a failure keeps what was written before it.
-/

set_option autoImplicit false

namespace Slotpilot.Daemon

open Lib Domain Audio Operations Protocol Storage

/-- Batches a coordinator holds back. -/
def workerBatchCapacity : Nat := 4

/-- What the daemon takes from other crates: the SHA-256 digest and the FFT planner. -/
structure ReceiveCrates where
  sha256 : List UInt8 → List UInt8
  planFft : Nat → FftPlan

/-- Exact receive-only input selection. -/
structure ReceiveSelection where
  deviceIdentity : InputDeviceIdentity
  configuration : InputConfiguration
  deriving DecidableEq

/-- Configuration of one coordinator. -/
structure LiveReceiveCoordinatorConfig where
  serviceInstanceId : ServiceInstanceId
  processGeneration : ProcessGeneration
  selection : ReceiveSelection
  decode : Ft8DecodeConfig
  clock : ReceiveClockConfig
  deriving DecidableEq

/-- The live input of a coordinator. -/
class DaemonReceiveInput (I : Type) where
  start : I → ReceiveSelection → ProcessGeneration → StreamGeneration → Except InputCaptureError Unit × I
  nextBatch : I → Except InputCaptureError (Option CaptureBatch) × I
  nextFault : I → Option InputFault × I
  health : I → Except InputCaptureError InputHealth × I
  stop : I → Except InputCaptureError Unit × I

/-- The durable store of a coordinator. -/
class DaemonReceiveStore (S : Type) where
  recordReceive : S → ReceiveRecord → Except StorageError ReceiveInsertOutcome × S

/-! ## States, events and errors -/

/-- Why receive is inhibited. -/
inductive ReceiveInhibition
  | input (kind : InputFaultKind)
  | timeline (error : ReceiveTimelineError)
  | clock (fault : Operations.ReceiveClockFault)
  | workerBackpressure
  | decoderFailure
  | storageFailure
  deriving DecidableEq

/-- Why receive was stopped. -/
inductive ReceiveStopReason
  | requested
  | cancelled
  deriving DecidableEq

/-- Lifecycle of a coordinator. -/
inductive ReceiveLifecycleState
  | stopped (processGeneration : ProcessGeneration) (lastStreamGeneration : UInt64)
  | starting (streamGeneration : StreamGeneration)
  | receiving (streamGeneration : StreamGeneration)
  | inhibited (streamGeneration : StreamGeneration) (reason : ReceiveInhibition)
  | stopping (streamGeneration : StreamGeneration) (reason : ReceiveStopReason)
  deriving DecidableEq

/-- One transition of the lifecycle. -/
structure ReceiveLifecycleEvent where
  previous : ReceiveLifecycleState
  current : ReceiveLifecycleState
  deriving DecidableEq

/-- One result of a poll. -/
inductive ReceivePollEvent
  | incomplete (slotStartUtcMillis : Int64) (accumulatedSamples : Nat)
  | persisted (receiveWindowId : ReceiveWindowId) (outcome : ReceiveInsertOutcome) (decodeCount : Nat)
  | waterfall (snapshot : WaterfallSnapshot)
  | lifecycle (event : ReceiveLifecycleEvent)
  deriving DecidableEq

/-- Failure of a coordinator. -/
inductive ReceiveCoordinatorError
  | invalidLifecycle (state : ReceiveLifecycleState)
  | streamGenerationOverflow
  | invalidStreamGeneration
  | clock (error : ReceiveClockError)
  | pcm (error : PcmError)
  | identity (error : IdError)
  | spectrum (error : SpectrumModelError)
  deriving DecidableEq

def captureErrorKind : InputCaptureError → InputFaultKind
  | .permissionDenied => .permissionDenied
  | .deviceLost => .deviceLost
  | .unsupportedConfiguration | .invalidQueueCapacity | .stopped | .backendFailure => .backendFailure

/-! ## The identity of a window -/

/-- The big-endian bytes of a value. -/
def beBytes (width value : Nat) : List UInt8 := (List.range width).reverse.map fun i => UInt8.ofNat (value / 256 ^ i)

def platformCode : InputPlatform → UInt8
  | .macOsCoreAudio => 1
  | .windowsWasapi => 2
  | .linuxAlsa => 3
  | .linuxJack => 4

def sampleFormatCode : InputSampleFormat → UInt8
  | .signed8 => 1
  | .signed16 => 2
  | .signed24 => 3
  | .signed32 => 4
  | .signed64 => 5
  | .unsigned8 => 6
  | .unsigned16 => 7
  | .unsigned24 => 8
  | .unsigned32 => 9
  | .unsigned64 => 10
  | .float32 => 11
  | .float64 => 12

/-- The bytes whose digest identifies a window. -/
def receiveWindowBytes (serviceInstanceId : ServiceInstanceId) (selection : ReceiveSelection)
    (processGeneration : ProcessGeneration) (streamGeneration : StreamGeneration) (slotStartUtcMillis : Int64) :
    List UInt8 :=
  serviceInstanceId.text.toUTF8.toList ++ beBytes 8 processGeneration.value.toNat ++
    beBytes 8 streamGeneration.value.toNat ++ beBytes 8 slotStartUtcMillis.toUInt64.toNat ++
    [platformCode selection.deviceIdentity.platform] ++ selection.deviceIdentity.opaqueId.toUTF8.toList ++
    beBytes 4 selection.configuration.sampleRateHz ++ beBytes 2 selection.configuration.channels ++
    [sampleFormatCode selection.configuration.sampleFormat] ++ beBytes 2 selection.configuration.selectedChannel

/-- Two lowercase hexadecimal digits for each byte. -/
def lowerHex (bytes : List UInt8) : String :=
  String.ofList (bytes.flatMap fun byte => [Nat.digitChar (byte.toNat / 16), Nat.digitChar (byte.toNat % 16)])

def receiveWindowId (crates : ReceiveCrates) (serviceInstanceId : ServiceInstanceId) (selection : ReceiveSelection)
    (processGeneration : ProcessGeneration) (streamGeneration : StreamGeneration) (slotStartUtcMillis : Int64) :
    Except IdError ReceiveWindowId :=
  let bytes := receiveWindowBytes serviceInstanceId selection processGeneration streamGeneration slotStartUtcMillis
  TypedId.fromStr "rxw_" ("rxw_" ++ lowerHex (crates.sha256 bytes))

/-! ## The coordinator -/

/-- Receive coordinator of one daemon process generation. -/
structure LiveReceiveCoordinator (I D S : Type) where
  input : I
  decoder : D
  store : S
  serviceInstanceId : ServiceInstanceId
  processGeneration : ProcessGeneration
  selection : ReceiveSelection
  decodeConfig : Ft8DecodeConfig
  clockConfig : ReceiveClockConfig
  state : ReceiveLifecycleState
  lastStreamGeneration : UInt64
  timeline : Option Ft8ReceiveTimeline
  clock : Option ReceiveClockMonitor
  workerBatches : List CaptureBatch
  spectrum : Option SpectrumModel

namespace LiveReceiveCoordinator

variable {I D S α : Type}

/-- An update of a coordinator. -/
abbrev Update (I D S α : Type) : Type := EStateM ReceiveCoordinatorError (LiveReceiveCoordinator I D S) α

/-- An inactive coordinator. -/
def new (input : I) (decoder : D) (store : S) (config : LiveReceiveCoordinatorConfig) :
    LiveReceiveCoordinator I D S where
  input
  decoder
  store
  serviceInstanceId := config.serviceInstanceId
  processGeneration := config.processGeneration
  selection := config.selection
  decodeConfig := config.decode
  clockConfig := config.clock
  state := .stopped config.processGeneration 0
  lastStreamGeneration := 0
  timeline := none
  clock := none
  workerBatches := []
  spectrum := none

/-- A call of the input. -/
def onInput (call : I → α × I) : Update I D S α :=
  modifyGet fun self => ((call self.input).1, { self with input := (call self.input).2 })

/-- A call of the decoder. -/
def onDecoder (call : D → α × D) : Update I D S α :=
  modifyGet fun self => ((call self.decoder).1, { self with decoder := (call self.decoder).2 })

/-- A call of the store. -/
def onStore (call : S → α × S) : Update I D S α :=
  modifyGet fun self => ((call self.store).1, { self with store := (call self.store).2 })

/-- A call of the clock monitor, which an active coordinator has. -/
def onClock (call : ReceiveClockMonitor → α × ReceiveClockMonitor) : Update I D S α := do
  let self ← get
  match self.clock with
  | none => throw (.invalidLifecycle self.state)
  | some clock => do
    modify fun self => { self with clock := some (call clock).2 }
    pure (call clock).1

/-- A call of the timeline, which an active coordinator has. -/
def onTimeline (call : Ft8ReceiveTimeline → α × Ft8ReceiveTimeline) : Update I D S α := do
  let self ← get
  match self.timeline with
  | none => throw (.invalidLifecycle self.state)
  | some timeline => do
    modify fun self => { self with timeline := some (call timeline).2 }
    pure (call timeline).1

def transition (current : ReceiveLifecycleState) : Update I D S ReceiveLifecycleEvent :=
  modifyGet fun self => (⟨self.state, current⟩, { self with state := current })

def resetSpectrum (reason : SpectrumDiscontinuity) (self : LiveReceiveCoordinator I D S) :
    LiveReceiveCoordinator I D S :=
  { self with spectrum := self.spectrum.map (·.reset reason) }

def requireReceiving : Update I D S StreamGeneration := do
  let self ← get
  match self.state with
  | .receiving streamGeneration => pure streamGeneration
  | _ => throw (.invalidLifecycle self.state)

/-- Enables waterfall production. -/
def enableSpectrum (crates : ReceiveCrates) (config : SpectrumConfig) : Update I D S Unit := do
  let spectrum ← fromResult ((SpectrumModel.new crates.planFft config).mapError .spectrum)
  modify fun self => { self with spectrum := some spectrum }

section Input

variable [DaemonReceiveInput I]

/-- Drops the timeline, the clock and the backlog with the input. -/
def closeInput (reason : SpectrumDiscontinuity) : Update I D S Unit := do
  -- the result of stopping is ignored
  let _ ← onInput DaemonReceiveInput.stop
  modify fun self => resetSpectrum reason { self with timeline := none, clock := none, workerBatches := [] }

/-- Stops input and leaves receive inhibited; a stopped coordinator stays as it is. -/
def inhibit (reason : ReceiveInhibition) : Update I D S ReceiveLifecycleEvent := do
  let self ← get
  match self.state with
  | .stopped .. => transition self.state
  | .receiving streamGeneration | .starting streamGeneration | .inhibited streamGeneration _
  | .stopping streamGeneration _ => do
    closeInput .timelineDiscontinuity
    transition (.inhibited streamGeneration reason)

/-- Continues a poll after a check, or inhibits receive for the reason the check gives. -/
def orInhibit {β : Type} (check : Update I D S (Except ReceiveInhibition β))
    (next : β → Update I D S (List ReceivePollEvent)) : Update I D S (List ReceivePollEvent) := do
  match ← check with
  | .ok value => next value
  | .error reason => do
    let event ← inhibit reason
    pure [.lifecycle event]

/-- Opens the selected input for a reserved stream generation; the clock is checked after that. -/
def openInput (initialClock : GenerationClockSample) (streamGeneration : StreamGeneration) :
    Update I D S ReceiveLifecycleEvent := do
  let self ← get
  if initialClock.generation.value ≠ self.processGeneration.value then
    transition (.inhibited streamGeneration (.clock .processGenerationChanged))
  else do
    match ← onInput (DaemonReceiveInput.start · self.selection self.processGeneration streamGeneration) with
    | .error error => transition (.inhibited streamGeneration (.input (captureErrorKind error)))
    | .ok () => do
      let monitor ← fromResult ((ReceiveClockMonitor.new initialClock self.clockConfig).mapError .clock)
      modify fun self =>
        resetSpectrum .streamGenerationChanged
          { self with
            timeline := some
              (Ft8ReceiveTimeline.new self.processGeneration streamGeneration self.selection.configuration)
            clock := some monitor
            workerBatches := [] }
      transition (.receiving streamGeneration)

/-- Starts the selected input with a new stream generation; every attempt takes one, also a failed one. -/
def start (initialClock : GenerationClockSample) : Update I D S (List ReceiveLifecycleEvent) := do
  let self ← get
  match self.state with
  | .stopped .. => do
    let next ← orThrow .streamGenerationOverflow (tryU64 (self.lastStreamGeneration.toNat + 1))
    let streamGeneration ← fromResult ((StreamGeneration.new next).mapError fun _ => .invalidStreamGeneration)
    modify fun self => { self with lastStreamGeneration := next }
    let first ← transition (.starting streamGeneration)
    let second ← openInput initialClock streamGeneration
    pure [first, second]
  | _ => throw (.invalidLifecycle self.state)

/-- The state that a transition of the clock reports. -/
def clockState : ReceiveClockTransition → ReceiveClockState
  | .healthy snapshot | .recovered snapshot | .becameUnhealthy snapshot | .recovering snapshot
  | .unhealthy snapshot => snapshot.state

/-- Observes one clock sample while active. -/
def observeClock (observation : GenerationClockSample) (observedAt : MonotonicInstant) :
    Update I D S (Option ReceiveLifecycleEvent) := do
  let _ ← requireReceiving
  let transition ← onClock (·.observe observation observedAt)
  match clockState transition with
  | .unhealthy fault _ _ => do
    let event ← inhibit (.clock fault)
    pure (some event)
  | .healthy => pure none

/-- Stops receive; an inhibited coordinator passes through here before it can be started again. -/
def stop (reason : ReceiveStopReason) : Update I D S (List ReceiveLifecycleEvent) := do
  let self ← get
  match self.state with
  | .receiving streamGeneration | .inhibited streamGeneration _ => do
    let first ← transition (.stopping streamGeneration reason)
    closeInput .streamGenerationChanged
    let second ← transition (.stopped self.processGeneration self.lastStreamGeneration)
    pure [first, second]
  | _ => throw (.invalidLifecycle self.state)

/-! ### One poll -/

/-- The faults and the health of the input. -/
def checkInput : Update I D S (Except ReceiveInhibition InputHealth) := do
  match ← onInput DaemonReceiveInput.nextFault with
  | some fault => pure (.error (.input fault.kind))
  | none => do
    match ← onInput DaemonReceiveInput.health with
    | .error error => pure (.error (.input (captureErrorKind error)))
    | .ok audioHealth =>
      if audioHealth.overflowCount > 0 then pure (.error (.input (.overflow 0))) else pure (.ok audioHealth)

def checkClock (observedAt : MonotonicInstant) : Update I D S (Except ReceiveInhibition Unit) := do
  let snapshot ← onClock (·.snapshot observedAt)
  match snapshot.state with
  | .unhealthy fault _ _ => pure (.error (.clock fault))
  | .healthy => pure (.ok ())

/-- Takes batches from the input while there is room for them. -/
def fillBacklog : (room : Nat) → Update I D S (Except ReceiveInhibition Unit)
  | 0 => pure (.ok ())
  | room + 1 => do
    match ← onInput DaemonReceiveInput.nextBatch with
    | .ok (some batch) => do
      modify fun self => { self with workerBatches := self.workerBatches ++ [batch] }
      fillBacklog room
    | .ok none => pure (.ok ())
    | .error error => pure (.error (.input (captureErrorKind error)))

end Input

/-- Runs an update of the spectrum model. -/
def onSpectrum (update : SpectrumModel.Update α) : Update I D S α := fun self =>
  match self.spectrum with
  | none => .error (.invalidLifecycle self.state) self
  | some spectrum =>
    match update spectrum with
    | .ok a spectrum => .ok a { self with spectrum := some spectrum }
    | .error error spectrum => .error (.spectrum error) { self with spectrum := some spectrum }

/-- Pushes a window from an offset on to the spectrum model, in chunks of the largest size. -/
def pushWindow (window : Ft8ReceiveWindow) (offset : Nat) : SpectrumModel.Update Unit :=
  if offset < window.samples.length then do
    let count := min (window.samples.length - offset) maxSpectrumChunkSamples
    let offset32 ← orThrow .arithmeticOverflow (tryU32 offset)
    let count32 ← orThrow .arithmeticOverflow (tryU32 count)
    let chunk ← fromResult (CanonicalSpectrumChunk.fromWindow window offset32 count32 none)
    let _ ← SpectrumModel.push chunk
    pushWindow window (offset + count)
  else pure ()
termination_by window.samples.length - offset
decreasing_by
  simp only [maxSpectrumChunkSamples]
  omega

/-- The waterfall after a window, when the spectrum is enabled and a publication is due. -/
def waterfall (window : Ft8ReceiveWindow) : Update I D S (Option WaterfallSnapshot) := do
  let self ← get
  if self.spectrum.isSome then
    onSpectrum do
      pushWindow window 0
      modifyGet SpectrumModel.takeSnapshot
  else pure none

/-- The samples of a window as the decoder takes them. -/
def windowPcm (window : Ft8ReceiveWindow) : Except PcmError PcmBuffer := do
  let format ← PcmFormat.new ft8ReceiveSampleRateHz 1
  PcmBuffer.new format window.samples

/-- The record of a window. -/
def receiveRecord (self : LiveReceiveCoordinator I D S) (receiveWindowId : ReceiveWindowId) (window : Ft8ReceiveWindow)
    (alignment : ReceiveWindowAlignment) (audioHealth : InputHealth) (timelineHealth : ReceiveTimelineHealth)
    (decodes : List Ft8Decode) (recordedUtcMillis : Int64) : Except StorageError ReceiveRecord :=
  ReceiveRecord.new
    { receiveWindowId
      serviceInstanceId := self.serviceInstanceId
      processGeneration := window.processGeneration
      streamGeneration := window.streamGeneration
      slot := window.slot
      deviceIdentity := self.selection.deviceIdentity
      configuration := self.selection.configuration
      captureMapping := window.mapping }
    { audio := audioHealth, timeline := timelineHealth, clock := .healthy alignment.mappingAgeMillis }
    decodes recordedUtcMillis

section Poll

variable [DaemonReceiveInput I] [Ft8OfflineDecoder D] [DaemonReceiveStore S]

/-- Stores a record. -/
def persist (record : ReceiveRecord) (snapshot : Option WaterfallSnapshot) :
    Update I D S (Except ReceiveInhibition (List ReceivePollEvent)) := do
  match ← onStore (DaemonReceiveStore.recordReceive · record) with
  | .error _ => pure (.error .storageFailure)
  | .ok outcome =>
    pure (.ok (.persisted record.context.receiveWindowId outcome record.decodes.length ::
      snapshot.toList.map .waterfall))

/-- Decodes and stores one gated window. -/
def processWindow (crates : ReceiveCrates) (window : Ft8ReceiveWindow) (alignment : ReceiveWindowAlignment)
    (audioHealth : InputHealth) (recordedUtcMillis : Int64) :
    Update I D S (Except ReceiveInhibition (List ReceivePollEvent)) := do
  let snapshot ← waterfall window
  let pcm ← fromResult ((windowPcm window).mapError .pcm)
  let self ← get
  match ← onDecoder (Ft8OfflineDecoder.decode · pcm self.decodeConfig) with
  | .error _ => pure (.error .decoderFailure)
  | .ok decodes => do
    let receiveWindowId ← fromResult ((receiveWindowId crates self.serviceInstanceId self.selection
      window.processGeneration window.streamGeneration window.slotStartUtcMillis).mapError .identity)
    let timelineHealth ← onTimeline fun timeline => (timeline.health, timeline)
    match self.receiveRecord receiveWindowId window alignment audioHealth timelineHealth decodes recordedUtcMillis with
    | .error _ => pure (.error .storageFailure)
    | .ok record => persist record snapshot

/-- Gates the events of a batch in order; one that inhibits receive ends the poll. -/
def processEvents (crates : ReceiveCrates) (audioHealth : InputHealth) (observedAt : MonotonicInstant)
    (recordedUtcMillis : Int64) : List ReceiveTimelineEvent → Update I D S (List ReceivePollEvent)
  | [] => pure []
  | event :: events => do
    match ← onClock (·.gate event observedAt) with
    | .incomplete incomplete => do
      let results ← processEvents crates audioHealth observedAt recordedUtcMillis events
      pure (.incomplete incomplete.slot.startUtcUnixMillis incomplete.accumulatedSamples :: results)
    | .windowRejected _ fault => orInhibit (pure (.error (.clock fault))) pure
    | .windowReady window alignment =>
      orInhibit (processWindow crates window alignment audioHealth recordedUtcMillis) fun stored => do
        let results ← processEvents crates audioHealth observedAt recordedUtcMillis events
        pure (stored ++ results)

def processBatch (crates : ReceiveCrates) (batch : CaptureBatch) (audioHealth : InputHealth)
    (observedAt : MonotonicInstant) (recordedUtcMillis : Int64) : Update I D S (List ReceivePollEvent) :=
  orInhibit
    (do
      let pushed ← onTimeline (·.step (batch, observedAt.millis))
      pure (pushed.mapError .timeline))
    (processEvents crates audioHealth observedAt recordedUtcMillis)

/-- Performs one bounded worker poll. -/
def poll (crates : ReceiveCrates) (observedAt : MonotonicInstant) (recordedUtcMillis : Int64) :
    Update I D S (List ReceivePollEvent) := do
  let _ ← requireReceiving
  orInhibit checkInput fun audioHealth =>
    orInhibit (checkClock observedAt) fun _ => do
      let self ← get
      orInhibit (fillBacklog (workerBatchCapacity - self.workerBatches.length)) fun _ => do
        let self ← get
        match self.workerBatches with
        | [] => pure []
        | batch :: batches => do
          modify fun self => { self with workerBatches := batches }
          processBatch crates batch audioHealth observedAt recordedUtcMillis

/-! ## Calls -/

/-- A call of a coordinator. -/
inductive Call
  | start (initialClock : GenerationClockSample)
  | observeClock (observation : GenerationClockSample) (observedAt : MonotonicInstant)
  | poll (observedAt : MonotonicInstant) (recordedUtcMillis : Int64)
  | stop (reason : ReceiveStopReason)
  | enableSpectrum (config : SpectrumConfig)

/-- What a successful call returns. -/
inductive Answer
  | transitions (events : List ReceiveLifecycleEvent)
  | observed (event : Option ReceiveLifecycleEvent)
  | polled (events : List ReceivePollEvent)
  | enabled
  deriving DecidableEq

/-- One call as an update. -/
def call (crates : ReceiveCrates) : Call → Update I D S Answer
  | .start initialClock => .transitions <$> start initialClock
  | .observeClock observation observedAt => .observed <$> observeClock observation observedAt
  | .poll observedAt recordedUtcMillis => .polled <$> poll crates observedAt recordedUtcMillis
  | .stop reason => .transitions <$> stop reason
  | .enableSpectrum config => (fun _ => .enabled) <$> enableSpectrum crates config

/-- The coordinator as a machine. -/
def step (crates : ReceiveCrates) (self : LiveReceiveCoordinator I D S) (input : Call) :
    Except ReceiveCoordinatorError Answer × LiveReceiveCoordinator I D S :=
  let result := call crates input self
  (outcome result, finalState result)

end Poll

end LiveReceiveCoordinator

end Slotpilot.Daemon
