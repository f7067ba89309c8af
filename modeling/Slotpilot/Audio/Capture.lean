import Slotpilot.Audio.CallbackClock
import Slotpilot.Lib.Concurrent

/-!
# The callback queue of a capture stream

The real-time callback moves preallocated buffers from the queue `free` to the queue `ready`, the worker moves them back,
and the backend's error callback may stop the stream at any time. Every access to the shared state is one atomic
operation; what a party does between two of them is local. A buffer carries the identity of its allocation.

The library's queue is a parameter with the laws of a bounded queue (`LawfulArrayQueue`), which a list keeps. The sample
formats are a type class, as in the source; the two floating-point formats have no instance here.
-/

set_option autoImplicit false

namespace Slotpilot.Audio

open Lib

/-- Largest supported callback queue. -/
def maxCaptureQueueBatches : Nat := 128
/-- Delay at which the callback emits a health fault. -/
def callbackDelayFaultMillis : Nat := 250

/-- Failure of an input. -/
inductive InputCaptureError
  | invalidQueueCapacity
  | unsupportedConfiguration
  | permissionDenied
  | deviceLost
  | stopped
  | backendFailure
  deriving DecidableEq

/-! ## Bounded queues -/

/-- The library's queue, whose operations are atomic. The contents are in their order, the oldest first. -/
class ArrayQueue (Q : Type → Type) where
  new (α : Type) (capacity : Nat) : Q α
  push {α : Type} (queue : Q α) (value : α) : Except α Unit × Q α
  pop {α : Type} (queue : Q α) : Option α × Q α
  capacity {α : Type} (queue : Q α) : Nat
  items {α : Type} (queue : Q α) : List α

/-- A bounded queue, first in first out: one with room takes a value and a full one gives the value back. -/
class LawfulArrayQueue (Q : Type → Type) [ArrayQueue Q] : Prop where
  new_items (α : Type) (capacity : Nat) : ArrayQueue.items (ArrayQueue.new α capacity : Q α) = []
  new_capacity (α : Type) (capacity : Nat) : ArrayQueue.capacity (ArrayQueue.new α capacity : Q α) = capacity
  push_room {α : Type} {queue : Q α} (h : (ArrayQueue.items queue).length < ArrayQueue.capacity queue) (value : α) :
    (ArrayQueue.push queue value).1 = .ok () ∧
      ArrayQueue.items (ArrayQueue.push queue value).2 = ArrayQueue.items queue ++ [value]
  push_full {α : Type} {queue : Q α} (h : ArrayQueue.capacity queue ≤ (ArrayQueue.items queue).length) (value : α) :
    (ArrayQueue.push queue value).1 = .error value ∧
      ArrayQueue.items (ArrayQueue.push queue value).2 = ArrayQueue.items queue
  push_capacity {α : Type} (queue : Q α) (value : α) :
    ArrayQueue.capacity (ArrayQueue.push queue value).2 = ArrayQueue.capacity queue
  pop_items {α : Type} (queue : Q α) :
    (ArrayQueue.pop queue).1 = (ArrayQueue.items queue).head? ∧
      ArrayQueue.items (ArrayQueue.pop queue).2 = (ArrayQueue.items queue).tail
  pop_capacity {α : Type} (queue : Q α) : ArrayQueue.capacity (ArrayQueue.pop queue).2 = ArrayQueue.capacity queue

namespace ArrayQueue

attribute [simp] LawfulArrayQueue.new_items LawfulArrayQueue.new_capacity LawfulArrayQueue.push_capacity
  LawfulArrayQueue.pop_capacity

variable {Q : Type → Type} [ArrayQueue Q] [LawfulArrayQueue Q] {α : Type}

theorem pop_none {queue : Q α} (h : (pop queue).1 = none) : items (pop queue).2 = items queue := by
  obtain ⟨hhead, htail⟩ := LawfulArrayQueue.pop_items queue
  have hnil : items queue = [] := List.head?_eq_none_iff.mp (hhead.symm.trans h)
  rw [htail, hnil]
  rfl

theorem pop_some {queue : Q α} {value : α} (h : (pop queue).1 = some value) :
    items queue = value :: items (pop queue).2 := by
  obtain ⟨hhead, htail⟩ := LawfulArrayQueue.pop_items queue
  rw [htail]
  exact List.eq_cons_of_mem_head? (Option.mem_def.mpr (hhead.symm.trans h))

/-- A queue that takes a value had room for it. -/
theorem push_ok {queue : Q α} {value : α} (h : (push queue value).1 = .ok ()) :
    items (push queue value).2 = items queue ++ [value] := by
  rcases Nat.lt_or_ge (items queue).length (capacity queue) with hroom | hfull
  · exact (LawfulArrayQueue.push_room hroom value).2
  · rw [(LawfulArrayQueue.push_full hfull value).1] at h
    cases h

end ArrayQueue

/-- A bounded queue as a list. -/
structure ListQueue (α : Type) where
  capacity : Nat
  items : List α
  bounded : items.length ≤ capacity

namespace ListQueue

variable {α : Type}

def new (α : Type) (capacity : Nat) : ListQueue α := ⟨capacity, [], Nat.zero_le _⟩

/-- A full queue gives the value back. -/
def push (queue : ListQueue α) (value : α) : Except α Unit × ListQueue α :=
  if h : queue.items.length < queue.capacity then
    (.ok (), ⟨queue.capacity, queue.items ++ [value], by rw [List.length_append]; exact h⟩)
  else (.error value, queue)

theorem tail_bounded (queue : ListQueue α) : queue.items.tail.length ≤ queue.capacity := by
  have := queue.bounded
  rw [List.length_tail]
  omega

def pop (queue : ListQueue α) : Option α × ListQueue α :=
  (queue.items.head?, ⟨queue.capacity, queue.items.tail, queue.tail_bounded⟩)

instance : ArrayQueue ListQueue where
  new := new
  push := push
  pop := pop
  capacity := capacity
  items := items

theorem push_of_lt {queue : ListQueue α} (h : queue.items.length < queue.capacity) (value : α) :
    (queue.push value).1 = .ok () ∧ (queue.push value).2.items = queue.items ++ [value] := by
  unfold push
  rw [dif_pos h]
  exact ⟨rfl, rfl⟩

theorem push_of_ge {queue : ListQueue α} (h : queue.capacity ≤ queue.items.length) (value : α) :
    (queue.push value).1 = .error value ∧ (queue.push value).2.items = queue.items := by
  unfold push
  rw [dif_neg (not_lt.mpr h)]
  exact ⟨rfl, rfl⟩

theorem push_capacity (queue : ListQueue α) (value : α) : (queue.push value).2.capacity = queue.capacity := by
  unfold push
  split <;> rfl

instance : LawfulArrayQueue ListQueue where
  new_items _ _ := rfl
  new_capacity _ _ := rfl
  push_room := push_of_lt
  push_full := push_of_ge
  push_capacity := push_capacity
  pop_items _ := ⟨rfl, rfl⟩
  pop_capacity _ := rfl

end ListQueue

/-! ## Sample formats -/

/-- A sample as a signed 16-bit one, and whether it is clipped; `none` when it is no number. -/
class NormalizeSample (α : Type) where
  normalize : α → Option (Int16 × Bool)

def signedSample (value minimum maximum : Int) : Option (Int16 × Bool) :=
  let normalized := if value ≥ 0 then (value * 32767).tdiv maximum else (value * 32768).tdiv (-minimum)
  (tryI16 normalized).map fun sample => (sample, value == minimum || value == maximum)

def unsignedSample (value maximum midpoint : Nat) : Option (Int16 × Bool) :=
  let normalized : Int :=
    if value ≥ midpoint then ((value - midpoint) * 32767 / (maximum - midpoint) : Nat)
    else -((midpoint - value) * 32768 / midpoint : Nat)
  (tryI16 normalized).map fun sample => (sample, value == 0 || value == maximum)

/-- A signed integer of 24 bits. -/
def I24 : Type := { value : Int // -8388608 ≤ value ∧ value ≤ 8388607 }
/-- An unsigned integer of 24 bits. -/
def U24 : Type := { value : Nat // value ≤ 16777215 }

instance : NormalizeSample Int8 := ⟨fun value => signedSample value.toInt (-128) 127⟩
instance : NormalizeSample Int16 := ⟨fun value => signedSample value.toInt (-32768) 32767⟩
instance : NormalizeSample I24 := ⟨fun value => signedSample value.1 (-8388608) 8388607⟩
instance : NormalizeSample Int32 := ⟨fun value => signedSample value.toInt (-2147483648) 2147483647⟩
instance : NormalizeSample Int64 :=
  ⟨fun value => signedSample value.toInt (-9223372036854775808) 9223372036854775807⟩
instance : NormalizeSample UInt8 := ⟨fun value => unsignedSample value.toNat 255 128⟩
instance : NormalizeSample UInt16 := ⟨fun value => unsignedSample value.toNat 65535 32768⟩
instance : NormalizeSample U24 := ⟨fun value => unsignedSample value.1 16777215 8388608⟩
instance : NormalizeSample UInt32 := ⟨fun value => unsignedSample value.toNat 4294967295 2147483648⟩
instance : NormalizeSample UInt64 :=
  ⟨fun value => unsignedSample value.toNat 18446744073709551615 9223372036854775808⟩

/-! ## Buffers and shared state -/

/-- One preallocated buffer. -/
structure Buffer where
  id : Nat
  samples : List Int16
  size : samples.length = maxCaptureBatchFrames

def Buffer.silent (id : Nat) : Buffer := ⟨id, List.replicate maxCaptureBatchFrames 0, List.length_replicate⟩

def Buffer.set (buffer : Buffer) (index : Nat) (sample : Int16) : Buffer :=
  ⟨buffer.id, buffer.samples.set index sample, by rw [List.length_set, buffer.size]⟩

/-- A filled buffer on its way to the worker. -/
structure RawBatch where
  samples : Buffer
  frameCount : Nat
  firstFrame : CaptureTimeEvidence
  discontinuity : Option CaptureDiscontinuity
  diagnostics : CaptureDiagnostics

/-- The unchanging part of the shared state. -/
structure CaptureStream where
  configuration : InputConfiguration
  processGeneration : ProcessGeneration
  streamGeneration : StreamGeneration

/-- The state that the callback, the worker and the backend share. -/
structure SharedCapture (Q : Type → Type) where
  free : Q Buffer
  ready : Q RawBatch
  faults : Q InputFault
  stopped : Bool
  overflowCount : UInt64
  clippedSampleCount : UInt64
  maxCallbackDelayMillis : Nat
  terminalFault : Nat
  terminalFaultTime : UInt64
  terminalFaultReported : Bool

def SharedCapture.new (Q : Type → Type) [ArrayQueue Q] (queueBatches : Nat) :
    Except InputCaptureError (SharedCapture Q) :=
  if 2 ≤ queueBatches ∧ queueBatches ≤ maxCaptureQueueBatches then do
    let free ← (List.range queueBatches).foldlM
      (fun free id =>
        match ArrayQueue.push free (.silent id) with
        | (.ok (), free) => .ok free
        | (.error _, _) => .error .backendFailure)
      (ArrayQueue.new Buffer queueBatches)
    .ok
      { free, ready := ArrayQueue.new RawBatch queueBatches, faults := ArrayQueue.new InputFault queueBatches,
        stopped := false, overflowCount := 0, clippedSampleCount := 0, maxCallbackDelayMillis := 0, terminalFault := 0,
        terminalFaultTime := 0, terminalFaultReported := false }
  else .error .invalidQueueCapacity

/-! ## Atomic operations -/

/-- The atomic operations on the shared state. -/
inductive CaptureOp
  | loadStopped
  | swapStopped
  | storeStopped
  | popFree
  | pushFree (samples : Buffer)
  | popReady
  | pushReady (raw : RawBatch)
  | popFault
  | pushFault (fault : InputFault)
  | loadOverflowCount
  | addOverflowCount
  | loadClippedSampleCount
  | addClippedSampleCount (samples : Nat)
  | loadMaxCallbackDelay
  | maxCallbackDelay (millis : Nat)
  | loadTerminalFault
  | storeTerminalFault (code : Nat)
  | loadTerminalFaultTime
  | storeTerminalFaultTime (millis : UInt64)
  | swapTerminalFaultReported

/-- The answer of an operation. -/
@[reducible] def CaptureOp.Answer : CaptureOp → Type
  | .loadStopped => Bool
  | .swapStopped => Bool
  | .popFree => Option Buffer
  | .pushFree _ => Except Buffer Unit
  | .popReady => Option RawBatch
  | .pushReady _ => Except RawBatch Unit
  | .popFault => Option InputFault
  | .pushFault _ => Except InputFault Unit
  | .loadOverflowCount => UInt64
  | .loadClippedSampleCount => UInt64
  | .loadMaxCallbackDelay => Nat
  | .loadTerminalFault => Nat
  | .loadTerminalFaultTime => UInt64
  | .swapTerminalFaultReported => Bool
  | _ => Unit

/-- The one procedure that repeats until the queue is empty. -/
inductive CaptureProc
  | discardReady

@[reducible] def capture : Interface := ⟨CaptureOp, CaptureOp.Answer, CaptureProc⟩

/-- The effect of an operation. -/
def CaptureOp.exec {Q : Type → Type} [ArrayQueue Q] :
    (op : CaptureOp) → SharedCapture Q → op.Answer × SharedCapture Q
  | .loadStopped, s => (s.stopped, s)
  | .swapStopped, s => (s.stopped, { s with stopped := true })
  | .storeStopped, s => ((), { s with stopped := true })
  | .popFree, s => ((ArrayQueue.pop s.free).1, { s with free := (ArrayQueue.pop s.free).2 })
  | .pushFree samples, s => ((ArrayQueue.push s.free samples).1, { s with free := (ArrayQueue.push s.free samples).2 })
  | .popReady, s => ((ArrayQueue.pop s.ready).1, { s with ready := (ArrayQueue.pop s.ready).2 })
  | .pushReady raw, s => ((ArrayQueue.push s.ready raw).1, { s with ready := (ArrayQueue.push s.ready raw).2 })
  | .popFault, s => ((ArrayQueue.pop s.faults).1, { s with faults := (ArrayQueue.pop s.faults).2 })
  | .pushFault fault, s => ((ArrayQueue.push s.faults fault).1, { s with faults := (ArrayQueue.push s.faults fault).2 })
  | .loadOverflowCount, s => (s.overflowCount, s)
  | .addOverflowCount, s => ((), { s with overflowCount := s.overflowCount + 1 })
  | .loadClippedSampleCount, s => (s.clippedSampleCount, s)
  | .addClippedSampleCount samples, s =>
    ((), { s with clippedSampleCount := s.clippedSampleCount + UInt64.ofNat samples })
  | .loadMaxCallbackDelay, s => (s.maxCallbackDelayMillis, s)
  | .maxCallbackDelay millis, s => ((), { s with maxCallbackDelayMillis := max s.maxCallbackDelayMillis millis })
  | .loadTerminalFault, s => (s.terminalFault, s)
  | .storeTerminalFault code, s => ((), { s with terminalFault := code })
  | .loadTerminalFaultTime, s => (s.terminalFaultTime, s)
  | .storeTerminalFaultTime millis, s => ((), { s with terminalFaultTime := millis })
  | .swapTerminalFaultReported, s => (s.terminalFaultReported, { s with terminalFaultReported := true })

/-- The program of one operation. -/
def atomic (op : CaptureOp) : Program capture op.Answer := .act op .done

def loadStopped : Program capture Bool := atomic .loadStopped
def swapStopped : Program capture Bool := atomic .swapStopped
def storeStopped : Program capture Unit := atomic .storeStopped
def popFree : Program capture (Option Buffer) := atomic .popFree
def pushFree (samples : Buffer) : Program capture (Except Buffer Unit) := atomic (.pushFree samples)
def popReady : Program capture (Option RawBatch) := atomic .popReady
def pushReady (raw : RawBatch) : Program capture (Except RawBatch Unit) := atomic (.pushReady raw)

/-! ## The worker -/

/-- One round of `discard_ready`. -/
def discardReady : Program capture Unit := do
  match ← popReady with
  | none => return ()
  | some raw =>
    let _ ← pushFree raw.samples
    .invoke .discardReady

variable (stream : CaptureStream)

/-- The batch of a filled buffer. -/
def RawBatch.toBatch (raw : RawBatch) : Except InputCaptureError CaptureBatch :=
  (CaptureBatch.new stream.processGeneration stream.streamGeneration stream.configuration raw.firstFrame
    raw.discontinuity raw.diagnostics (raw.samples.samples.take raw.frameCount)).mapError fun _ => .backendFailure

def nextBatch : Program capture (Except InputCaptureError (Option CaptureBatch)) := do
  if ← loadStopped then
    .invoke .discardReady
    return .ok none
  else
    match ← popReady with
    | none => return .ok none
    | some raw =>
      match ← pushFree raw.samples with
      | .error _ => return .error .backendFailure
      | .ok () => return (raw.toBatch stream).map some

def emitFault (monotonicMillis : UInt64) (kind : InputFaultKind) : Program capture Unit := do
  let _ ← atomic (.pushFault ⟨stream.processGeneration, some stream.streamGeneration,
    monotonicMillis, kind⟩)
  return ()

/-- The kind of a terminal fault. -/
def terminalFaultKind : Nat → InputFaultKind
  | 1 => .permissionDenied
  | 2 => .deviceLost
  | _ => .backendFailure

def nextFault : Program capture (Option InputFault) := do
  let terminal : Nat ← atomic .loadTerminalFault
  if terminal = 0 then atomic .popFault
  else if ← atomic .swapTerminalFaultReported then atomic .popFault
  else
    let monotonicMillis : UInt64 ← atomic .loadTerminalFaultTime
    return some ⟨stream.processGeneration, some stream.streamGeneration, monotonicMillis, terminalFaultKind terminal⟩

def health : Program capture (Except InputCaptureError InputHealth) := do
  let latency : Nat ← atomic .loadMaxCallbackDelay
  let overflow : UInt64 ← atomic .loadOverflowCount
  let clipped : UInt64 ← atomic .loadClippedSampleCount
  let delay : Nat ← atomic .loadMaxCallbackDelay
  return (InputHealth.new latency 0 overflow clipped delay).mapError fun _ => .backendFailure

/-- `stop` of the stream, with what the native stream answers to its pause. -/
def stop (pause : Except InputCaptureError Unit) : Program capture (Except InputCaptureError Unit) := do
  if ← swapStopped then return .error .stopped
  else
    match pause with
    | .error error => return .error error
    | .ok () =>
      .invoke .discardReady
      return .ok ()

/-- The destructor of the stream. -/
def dropStream : Program capture Unit := do
  storeStopped
  .invoke .discardReady

/-! ## The callback -/

/-- What the callback keeps between two calls. -/
structure CallbackState where
  position : CapturePosition
  pendingDroppedFrames : UInt64
  firstBatch : Bool

def CallbackState.new : CallbackState := ⟨⟨0⟩, 0, true⟩

/-- The code of a terminal fault. -/
def terminalFaultCode : InputFaultKind → Nat
  | .permissionDenied => 1
  | .deviceLost => 2
  | _ => 3

def stopWithTerminalFault (monotonicMillis : UInt64) (kind : InputFaultKind) : Program capture Unit := do
  atomic (.storeTerminalFaultTime monotonicMillis)
  atomic (.storeTerminalFault (terminalFaultCode kind))
  storeStopped

/-- `frame_count` as the 32-bit count of an advance. -/
def advanceFrames (frameCount : Nat) : Nat := (tryU32 frameCount).getD (2 ^ 32 - 1)

def dropFrames (state : CallbackState) (frameCount : Nat) (monotonicMillis : UInt64) :
    Program capture CallbackState := do
  let frames := saturateU64 frameCount
  let dropped := saturateU64 (state.pendingDroppedFrames.toNat + frames.toNat)
  atomic .addOverflowCount
  emitFault stream monotonicMillis (.overflow frames)
  match state.position.checkedAdvance (advanceFrames frameCount) with
  | .ok position => return { state with pendingDroppedFrames := dropped, position }
  | .error _ =>
    stopWithTerminalFault monotonicMillis .backendFailure
    return { state with pendingDroppedFrames := dropped }

section Fill

variable {α : Type} [NormalizeSample α]

/-- The samples of the next `remaining` frames, from the output index on; a sample that is no number ends the filling. An
index past the data would panic; every index here is within it. -/
def fill (configuration : InputConfiguration) (data : List α) (frameOffset : Nat) :
    Nat → Nat → Buffer → Nat → Except Buffer (Buffer × Nat)
  | _, 0, samples, clipped => .ok (samples, clipped)
  | outputIndex, remaining + 1, samples, clipped =>
    let sourceIndex := (frameOffset + outputIndex) * configuration.channels + configuration.selectedChannel
    match data[sourceIndex]?.bind NormalizeSample.normalize with
    | none => .error samples
    | some (sample, isClipped) =>
      fill configuration data frameOffset (outputIndex + 1) remaining (samples.set outputIndex sample)
        (min (clipped + isClipped.toNat) (2 ^ 32 - 1))

end Fill

/-- The mark of the next batch. -/
def CallbackState.discontinuity (state : CallbackState) : Option CaptureDiscontinuity :=
  if state.pendingDroppedFrames > 0 then some ⟨state.position, .overflow, state.pendingDroppedFrames⟩
  else if state.firstBatch then some ⟨state.position, .streamRestart, 0⟩
  else none

/-- The state once the mark is taken. -/
def CallbackState.marked (state : CallbackState) : CallbackState :=
  { state with pendingDroppedFrames := 0, firstBatch := false }

/-- How a round of the callback's loop ends: with the next round, or with a return. -/
inductive Round
  | next (state : CallbackState)
  | finish (state : CallbackState)

/-- The callback gives its buffer back and stops. -/
def giveBackAndStop (state : CallbackState) (samples : Buffer) (monotonicMillis : UInt64) : Program capture Round := do
  let _ ← pushFree samples
  stopWithTerminalFault monotonicMillis .backendFailure
  return .finish state

/-- The callback counts and reports clipped samples. -/
def reportClipping (clippedSamples : Nat) (monotonicMillis : UInt64) : Program capture Unit :=
  if clippedSamples > 0 then do
    atomic (.addClippedSampleCount clippedSamples)
    emitFault stream monotonicMillis (.clipping clippedSamples)
  else return ()

/-- The callback hands a filled buffer over, or drops its frames. -/
def handOver (state : CallbackState) (raw : RawBatch) (monotonicMillis : UInt64) : Program capture Round := do
  match ← pushReady raw with
  | .error raw =>
    let _ ← pushFree raw.samples
    return .next (← dropFrames stream state raw.frameCount monotonicMillis)
  | .ok () =>
    reportClipping stream raw.diagnostics.clippedSamples monotonicMillis
    match state.position.checkedAdvance (advanceFrames raw.frameCount) with
    | .ok position => return .next { state with position }
    | .error _ =>
      stopWithTerminalFault monotonicMillis .backendFailure
      return .finish state

variable {α : Type} [NormalizeSample α]

/-- One round of the callback's loop, over `frameCount` frames. -/
def processRound (data : List α) (timing : CallbackTiming) (frameOffset frameCount : Nat) (state : CallbackState) :
    Program capture Round := do
  match ← popFree with
  | none => return .next (← dropFrames stream state frameCount timing.monotonicMillis)
  | some samples =>
    match fill stream.configuration data frameOffset 0 frameCount samples 0 with
    | .error samples => giveBackAndStop state samples timing.monotonicMillis
    | .ok (samples, clippedSamples) =>
      match firstFrameEvidence timing state.position
          (offsetMillis frameOffset stream.configuration.sampleRateHz) with
      | .error _ => giveBackAndStop state samples timing.monotonicMillis
      | .ok firstFrame =>
        match CaptureDiagnostics.new clippedSamples timing.callbackDelayMillis with
        | .error _ => giveBackAndStop state.marked samples timing.monotonicMillis
        | .ok diagnostics =>
          handOver stream state.marked ⟨samples, frameCount, firstFrame, state.discontinuity, diagnostics⟩
            timing.monotonicMillis

/-- The callback's loop; each round takes at least one frame, so `totalFrames` rounds are enough. -/
def processFrames (data : List α) (timing : CallbackTiming) (totalFrames : Nat) :
    Nat → Nat → CallbackState → Program capture CallbackState
  | 0, _, state => return state
  | rounds + 1, frameOffset, state =>
    if frameOffset < totalFrames then do
      let frameCount := min (totalFrames - frameOffset) maxCaptureBatchFrames
      match ← processRound stream data timing frameOffset frameCount state with
      | .next state => processFrames data timing totalFrames rounds (frameOffset + frameCount) state
      | .finish state => return state
    else return state

/-- The callback records its delay and reports a long one. -/
def reportDelay (timing : CallbackTiming) : Program capture Unit := do
  atomic (.maxCallbackDelay timing.callbackDelayMillis)
  if timing.callbackDelayMillis > callbackDelayFaultMillis then
    emitFault stream timing.monotonicMillis (.callbackDelay timing.callbackDelayMillis)
  else return ()

def process (state : CallbackState) (data : List α) (timing : CallbackTiming) : Program capture CallbackState := do
  if ← loadStopped then return state
  else
    let channels := stream.configuration.channels
    if data.isEmpty || data.length % channels ≠ 0 then
      stopWithTerminalFault timing.monotonicMillis .backendFailure
      return state
    else
      reportDelay stream timing
      processFrames stream data timing (data.length / channels) (data.length / channels) 0 state

/-! ## The system -/

/-- The parties of a stream: the data callback, the worker that owns the stream, and the backend's error callback. -/
inductive Role
  | callback
  | worker
  | backend
  deriving DecidableEq

instance : Fintype Role := ⟨{.callback, .worker, .backend}, fun role => by cases role <;> decide⟩

/-- What the worker asks of the stream. -/
inductive WorkerCall
  | nextBatch
  | nextFault
  | health
  | isStopped
  | stop (pause : Except InputCaptureError Unit)
  | drop

/-- What the worker last got from the stream. -/
inductive WorkerAnswer
  | opened
  | batch (answer : Except InputCaptureError (Option CaptureBatch))
  | fault (answer : Option InputFault)
  | health (answer : Except InputCaptureError InputHealth)
  | isStopped (answer : Bool)
  | stopped (answer : Except InputCaptureError Unit)
  | dropped

/-- The kind of an error of the native backend. -/
inductive ErrorKind
  | permissionDenied
  | deviceNotAvailable
  | deviceChanged
  | streamInvalidated
  | other

/-- An error of the backend and the monotonic time at which it is read. -/
structure BackendError where
  kind : ErrorKind
  monotonicMillis : UInt64

/-- A call of the data callback. -/
structure CallbackCall (α : Type) where
  data : List α
  timing : CallbackTiming

@[reducible] def Role.Call (α : Type) : Role → Type
  | .callback => CallbackCall α
  | .worker => WorkerCall
  | .backend => BackendError

@[reducible] def Role.Result : Role → Type
  | .callback => CallbackState
  | .worker => WorkerAnswer
  | .backend => Unit

def workerCall : WorkerCall → Program capture WorkerAnswer
  | .nextBatch => do return .batch (← nextBatch stream)
  | .nextFault => do return .fault (← nextFault stream)
  | .health => do return .health (← health)
  | .isStopped => do return .isStopped (← loadStopped)
  | .stop pause => do return .stopped (← stop pause)
  | .drop => do
    dropStream
    return .dropped

/-- A worker's call after its last answer; a dropped stream is not called again. -/
def workerEntry (call : WorkerCall) : WorkerAnswer → Program capture WorkerAnswer
  | .dropped => return .dropped
  | _ => workerCall stream call

def stopForBackendError (error : BackendError) : Program capture Unit :=
  let kind : InputFaultKind :=
    match error.kind with
    | .permissionDenied => .permissionDenied
    | .deviceNotAvailable => .deviceLost
    | .deviceChanged => .deviceLost
    | .streamInvalidated => .deviceLost
    | .other => .backendFailure
  stopWithTerminalFault error.monotonicMillis kind

variable (α) (Q : Type → Type) [ArrayQueue Q]

/-- The system of one capture stream. -/
@[reducible] def captureSystem : System capture (SharedCapture Q) Role where
  Call := Role.Call α
  Result := Role.Result
  entry role call last :=
    match role, call, last with
    | .callback, call, state => process stream state call.data call.timing
    | .worker, call, last => workerEntry stream call last
    | .backend, error, () => stopForBackendError error
  exec := CaptureOp.exec
  body
    | .discardReady => discardReady

/-- The world of a stream that was just opened. -/
def opened {Q : Type → Type} [ArrayQueue Q] (shared : SharedCapture Q) : World (captureSystem stream α Q) where
  shared
  party
    | .callback => ⟨[], .idle CallbackState.new⟩
    | .worker => ⟨[], .idle .opened⟩
    | .backend => ⟨[], .idle ()⟩

end Slotpilot.Audio
