import Slotpilot.Audio.Capture
import Slotpilot.Lib.StateResult

/-!
# Conservation of the capture buffers

A ledger records what a party has done: the buffers it has taken and not given back, and for the callback and the worker
the frames presented, what became of them, and the batches taken over and delivered. Buffers that a party still holds
when its call returns are lost with its local variables.

No call loses a buffer: in every interleaving the buffers in the two queues and in the hands of the parties are the
original ones, so no push finds a full queue, and the worker takes the callback's batches over once and in order
(`buffers_conserved`).
-/

set_option autoImplicit false

namespace Slotpilot.Audio

open Lib

/-! ## The ledger of a party -/

/-- What became of some presented frames: they were dropped, or a batch holds them. -/
inductive Outcome
  | dropped (frames : Nat)
  | batch (raw : RawBatch)

/-- The batches among the outcomes. -/
def batches (outcomes : List Outcome) : List RawBatch :=
  outcomes.filterMap fun
    | .dropped _ => none
    | .batch raw => some raw

@[simp] theorem batches_append (before later : List Outcome) :
    batches (before ++ later) = batches before ++ batches later := List.filterMap_append

@[simp] theorem batches_dropped (frames : Nat) : batches [.dropped frames] = [] := rfl
@[simp] theorem batches_batch (raw : RawBatch) : batches [.batch raw] = [raw] := rfl

theorem selectedIndex_lt {α : Type} (configuration : InputConfiguration) {data : List α} {frame : Nat}
    (h : frame < data.length / configuration.channels) :
    frame * configuration.channels + configuration.selectedChannel < data.length := by
  have hselected := configuration.selected_lt
  have hframe : (frame + 1) * configuration.channels ≤ data.length := by
    calc (frame + 1) * configuration.channels
        ≤ data.length / configuration.channels * configuration.channels := Nat.mul_le_mul_right _ h
      _ ≤ data.length := Nat.div_mul_le_self _ _
  rw [Nat.succ_mul] at hframe
  omega

/-- The samples of the selected channel. -/
def selectedFrames {α : Type} (configuration : InputConfiguration) (data : List α) : List α :=
  List.ofFn fun frame : Fin (data.length / configuration.channels) =>
    data.get ⟨frame * configuration.channels + configuration.selectedChannel, selectedIndex_lt configuration frame.2⟩

/-- What a party has done. -/
structure Ledger (α : Type) where
  held : Multiset Nat
  presented : List α
  outcomes : List Outcome
  popped : List RawBatch
  delivered : List CaptureBatch

namespace Ledger

variable {α : Type}

def empty : Ledger α := ⟨0, [], [], [], []⟩

/-- The ledger after an operation. The callback reports the frames it drops as an overflow fault. -/
def did (ledger : Ledger α) : (op : CaptureOp) → op.Answer → Ledger α
  | .popFree, some samples => { ledger with held := samples.id ::ₘ ledger.held }
  | .pushFree samples, .ok () => { ledger with held := ledger.held.erase samples.id }
  | .popReady, some raw =>
    { ledger with held := raw.samples.id ::ₘ ledger.held, popped := ledger.popped ++ [raw] }
  | .pushReady raw, .ok () =>
    { ledger with held := ledger.held.erase raw.samples.id, outcomes := ledger.outcomes ++ [.batch raw] }
  | .pushFault fault, _ =>
    match fault.kind with
    | .overflow frames => { ledger with outcomes := ledger.outcomes ++ [.dropped frames.toNat] }
    | _ => ledger
  | _, _ => ledger

/-- At the end of a call nothing is held any more. -/
def returned (ledger : Ledger α) : (role : Role) → role.Result → Ledger α
  | .worker, .batch (.ok (some batch)) => { ledger with held := 0, delivered := ledger.delivered ++ [batch] }
  | _, _ => { ledger with held := 0 }

end Ledger

section

variable {α : Type} (stream : CaptureStream)

/-- The ledger of a party, from its history. -/
@[reducible] def ledgers (role : Role) : Tracker capture (role.Call α) role.Result (Ledger α) where
  begun ledger call :=
    match role, call with
    | .callback, call =>
      { ledger with presented := ledger.presented ++ selectedFrames stream.configuration call.data }
    | _, _ => ledger
  did := Ledger.did
  returned ledger result := ledger.returned role result

/-! ## What a party promises of its buffers -/

/-- The worker can make a batch of the filled buffer. -/
structure RawBatch.WellFormed (raw : RawBatch) : Prop where
  pos : 0 < raw.frameCount
  le : raw.frameCount ≤ maxCaptureBatchFrames
  mark : ∀ discontinuity, raw.discontinuity = some discontinuity → discontinuity.atPosition = raw.firstFrame.position
  clipped : raw.diagnostics.clippedSamples ≤ raw.frameCount

/-- The deliveries are of popped batches, each at most once and in their order. -/
def Deliveries (popped : List RawBatch) (delivered : List CaptureBatch) : Prop :=
  ∃ raws, List.Sublist raws popped ∧ List.Forall₂ (fun raw batch => raw.toBatch stream = .ok batch) raws delivered

/-- The result of a call is a delivery of the last popped batch, and never an error of the queues. -/
def Delivers (ledger : Ledger α) : (role : Role) → role.Result → Prop
  | .worker, .batch (.ok (some batch)) =>
    ∃ before raw, ledger.popped = before ++ [raw] ∧ raw.toBatch stream = .ok batch ∧
      Deliveries stream before ledger.delivered
  | .worker, .batch (.error _) => False
  | .worker, _ => Deliveries stream ledger.popped ledger.delivered
  | _, _ => True

/-- A party gives away only what it holds, and holds nothing when it returns. -/
@[reducible] def conservation (role : Role) : Contract (ledgers (α := α) stream role) where
  requires ledger
    | .pushFree samples => samples.id ∈ ledger.held
    | .popReady => role = .worker
    | .pushReady raw => role = .callback ∧ raw.samples.id ∈ ledger.held ∧ raw.WellFormed
    | _ => True
  allows _ op answer :=
    match op, answer with
    | .pushFree _, answer => answer = .ok ()
    | .pushReady _, answer => answer = .ok ()
    | .popReady, some raw => raw.WellFormed
    | _, _ => True
  ends ledger result := ledger.held = 0 ∧ Delivers stream ledger role result
  idle ledger _ := ledger.held = 0 ∧ (role = .worker → Deliveries stream ledger.popped ledger.delivered)
  pre _ ledger := role = .worker ∧ ledger.held = 0 ∧ Deliveries stream ledger.popped ledger.delivered
  post _ _ ledger := ledger.held = 0 ∧ Deliveries stream ledger.popped ledger.delivered

variable {stream} {role : Role} {ledger : Ledger α}

theorem Deliveries.later {popped later : List RawBatch} {delivered : List CaptureBatch}
    (h : Deliveries stream popped delivered) : Deliveries stream (popped ++ later) delivered := by
  obtain ⟨raws, hraws, hbatches⟩ := h
  exact ⟨raws, hraws.trans (List.sublist_append_left _ _), hbatches⟩

theorem Deliveries.deliver {popped : List RawBatch} {delivered : List CaptureBatch} {raw : RawBatch}
    {batch : CaptureBatch} (h : Deliveries stream popped delivered) (hbatch : raw.toBatch stream = .ok batch) :
    Deliveries stream (popped ++ [raw]) (delivered ++ [batch]) := by
  obtain ⟨raws, hraws, hbatches⟩ := h
  exact ⟨raws ++ [raw], hraws.append (List.Sublist.refl _), List.rel_append hbatches (.cons hbatch .nil)⟩

variable (stream) in
/-- A well-formed buffer is a batch. -/
theorem RawBatch.WellFormed.toBatch_ok {raw : RawBatch} (h : raw.WellFormed) :
    ∃ batch, raw.toBatch stream = .ok batch := by
  have hlength : (raw.samples.samples.take raw.frameCount).length = raw.frameCount := by
    rw [List.length_take, raw.samples.size, Nat.min_eq_left h.le]
  have hne : raw.samples.samples.take raw.frameCount ≠ [] := by
    rw [← List.length_pos_iff, hlength]
    exact h.pos
  have hmark : ¬raw.firstFrame.position ≠ raw.discontinuity.elim raw.firstFrame.position (·.atPosition) := by
    cases hdiscontinuity : raw.discontinuity with
    | none => simp
    | some discontinuity => simp [h.mark _ hdiscontinuity]
  unfold RawBatch.toBatch CaptureBatch.new
  rw [dif_neg hne, dif_neg (by rw [hlength]; exact Nat.not_lt.mpr h.le), if_neg hmark,
    if_neg (by rw [hlength]; exact Nat.not_lt.mpr h.clipped)]
  exact ⟨_, rfl⟩

/-! ## Operations that move no buffer -/

/-- An operation that moves no buffer. -/
def CaptureOp.Quiet : CaptureOp → Prop
  | .popFree => False
  | .pushFree _ => False
  | .popReady => False
  | .pushReady _ => False
  | _ => True

variable (ledger) in
theorem did_quiet {op : CaptureOp} (h : op.Quiet) (answer : op.Answer) :
    (ledger.did op answer).held = ledger.held ∧ (ledger.did op answer).popped = ledger.popped ∧
      (ledger.did op answer).delivered = ledger.delivered := by
  cases op with
  | popFree => exact h.elim
  | pushFree samples => exact h.elim
  | popReady => exact h.elim
  | pushReady raw => exact h.elim
  | pushFault fault =>
    simp only [Ledger.did]
    split <;> exact ⟨rfl, rfl, rfl⟩
  | _ => exact ⟨rfl, rfl, rfl⟩

theorem quiet_keeps {β : Type} {program : Program capture β} (h : program.Only CaptureOp.Quiet) :
    Keeps (conservation stream role) (fun later _ => later.held = ledger.held ∧ later.popped = ledger.popped ∧
      later.delivered = ledger.delivered) ledger program := by
  refine h.keeps (K := fun later : Ledger α => later.held = ledger.held ∧ later.popped = ledger.popped ∧
    later.delivered = ledger.delivered) ?_ ?_ ⟨rfl, rfl, rfl⟩
  · intro g op hop
    cases op <;> trivial
  · rintro g op answer hop ⟨hheld, hpopped, hdelivered⟩
    obtain ⟨hheld', hpopped', hdelivered'⟩ := did_quiet g hop answer
    exact ⟨hheld'.trans hheld, hpopped'.trans hpopped, hdelivered'.trans hdelivered⟩

theorem stop_quiet (monotonicMillis : UInt64) (kind : InputFaultKind) :
    (stopWithTerminalFault monotonicMillis kind).Only CaptureOp.Quiet :=
  ⟨trivial, fun _ => ⟨trivial, fun _ => ⟨trivial, fun _ => trivial⟩⟩⟩

theorem emitFault_quiet (monotonicMillis : UInt64) (kind : InputFaultKind) :
    (emitFault stream monotonicMillis kind).Only CaptureOp.Quiet := ⟨trivial, fun _ => trivial⟩

theorem nextFault_quiet (stream : CaptureStream) : (nextFault stream).Only CaptureOp.Quiet := by
  refine ⟨trivial, fun (terminal : Nat) => ?_⟩
  show Program.Only _ (if terminal = 0 then _ else _)
  split
  · exact ⟨trivial, fun _ => trivial⟩
  · refine ⟨trivial, fun (reported : Bool) => ?_⟩
    cases reported <;> exact ⟨trivial, fun _ => trivial⟩

theorem health_quiet : health.Only CaptureOp.Quiet :=
  ⟨trivial, fun _ => ⟨trivial, fun _ => ⟨trivial, fun _ => ⟨trivial, fun _ => trivial⟩⟩⟩⟩

theorem dropFrames_quiet (state : CallbackState) (frameCount : Nat) (monotonicMillis : UInt64) :
    (dropFrames stream state frameCount monotonicMillis).Only CaptureOp.Quiet := by
  refine ⟨trivial, fun _ => (emitFault_quiet _ _).bind fun _ => ?_⟩
  split
  · trivial
  · exact (stop_quiet _ _).bind fun _ => trivial

/-! ## The worker keeps its promises -/

theorem discardReady_keeps (h : role = .worker) (hheld : ledger.held = 0)
    (hdeliveries : Deliveries stream ledger.popped ledger.delivered) :
    Keeps (conservation stream role)
      (fun later _ => later.held = 0 ∧ Deliveries stream later.popped later.delivered) ledger discardReady := by
  simp only [discardReady, popReady, pushFree, atomic, Program.invoke, keeps_bind, keeps_act, keeps_done]
  refine ⟨h, fun answer _ => ?_⟩
  cases answer with
  | none => exact ⟨hheld, hdeliveries⟩
  | some raw =>
    simp only [keeps_bind, keeps_act, keeps_done, keeps_call]
    refine ⟨Multiset.mem_cons_self _ _, ?_⟩
    rintro _ rfl
    refine ⟨⟨h, ?_, hdeliveries.later⟩, fun later hlater => hlater⟩
    simp only [Ledger.did, Multiset.erase_cons_head, hheld]

theorem nextBatch_keeps (h : role = .worker) (hheld : ledger.held = 0)
    (hdeliveries : Deliveries stream ledger.popped ledger.delivered) :
    Keeps (conservation stream role)
      (fun later answer => later.held = 0 ∧ Delivers stream later .worker (.batch answer)) ledger (nextBatch stream) := by
  simp only [nextBatch, loadStopped, popReady, pushFree, atomic, Program.invoke, keeps_bind, keeps_act, keeps_done]
  refine ⟨trivial, fun stopped _ => ?_⟩
  cases stopped with
  | true =>
    simp only [if_true, keeps_bind, keeps_call, keeps_done, keeps_pure]
    exact ⟨⟨h, hheld, hdeliveries⟩, fun later hlater => hlater⟩
  | false =>
    simp only [Bool.false_eq_true, if_false, keeps_bind, keeps_act, keeps_done]
    refine ⟨h, fun answer hwellFormed => ?_⟩
    cases answer with
    | none => exact ⟨hheld, hdeliveries⟩
    | some raw =>
      simp only [keeps_bind, keeps_act, keeps_done]
      refine ⟨Multiset.mem_cons_self _ _, ?_⟩
      rintro _ rfl
      obtain ⟨batch, hbatch⟩ := hwellFormed.toBatch_ok stream
      simp only [hbatch, keeps_pure, Except.map, Ledger.did, Multiset.erase_cons_head]
      exact ⟨hheld, ledger.popped, raw, rfl, hbatch, hdeliveries⟩

theorem worker_keeps (call : WorkerCall) (last : WorkerAnswer) (hheld : ledger.held = 0)
    (hdeliveries : Deliveries stream ledger.popped ledger.delivered) :
    Keeps (conservation stream .worker) (fun later answer => later.held = 0 ∧ Delivers stream later .worker answer)
      ledger (workerEntry stream call last) := by
  have hquiet : ∀ {β : Type} {program : Program capture β} {f : β → WorkerAnswer}, program.Only CaptureOp.Quiet →
      (∀ value, ∀ later : Ledger α, Deliveries stream later.popped later.delivered →
        Delivers stream later .worker (f value)) →
      Keeps (conservation stream .worker) (fun later answer => later.held = 0 ∧ Delivers stream later .worker answer)
        ledger (program >>= fun value => pure (f value)) := by
    intro β program f hprogram hf
    rw [keeps_bind]
    refine (quiet_keeps hprogram).imp ?_
    rintro later value ⟨hlater, hpopped, hdelivered⟩
    exact ⟨hlater.trans hheld, hf value later (by rw [hpopped, hdelivered]; exact hdeliveries)⟩
  have hcall : Keeps (conservation stream .worker)
      (fun later answer => later.held = 0 ∧ Delivers stream later .worker answer) ledger (workerCall stream call) := by
    cases call with
    | nextBatch =>
      rw [workerCall, keeps_bind]
      exact nextBatch_keeps rfl hheld hdeliveries
    | nextFault => exact hquiet (nextFault_quiet stream) fun _ _ h => h
    | health => exact hquiet health_quiet fun _ _ h => h
    | isStopped => exact hquiet ⟨trivial, fun _ => trivial⟩ fun _ _ h => h
    | stop pause =>
      simp only [workerCall, stop, swapStopped, atomic, Program.invoke, keeps_bind, keeps_act, keeps_done]
      refine ⟨trivial, fun stopped _ => ?_⟩
      cases stopped with
      | true => exact ⟨hheld, hdeliveries⟩
      | false =>
        cases pause with
        | error error => exact ⟨hheld, hdeliveries⟩
        | ok => exact ⟨⟨rfl, hheld, hdeliveries⟩, fun later hlater => hlater⟩
    | drop =>
      simp only [workerCall, dropStream, storeStopped, atomic, Program.invoke, keeps_bind, keeps_act, keeps_call,
        keeps_done, keeps_pure]
      exact ⟨trivial, fun _ _ => ⟨⟨trivial, hheld, hdeliveries⟩, fun later hlater => hlater⟩⟩
  cases last with
  | dropped => exact ⟨hheld, hdeliveries⟩
  | _ => exact hcall

/-! ## The callback keeps its promises -/

theorem reportClipping_quiet (clippedSamples : Nat) (monotonicMillis : UInt64) :
    (reportClipping stream clippedSamples monotonicMillis).Only CaptureOp.Quiet := by
  unfold reportClipping
  split
  · exact ⟨trivial, fun _ => emitFault_quiet _ _⟩
  · trivial

theorem reportDelay_quiet (timing : CallbackTiming) : (reportDelay stream timing).Only CaptureOp.Quiet := by
  refine ⟨trivial, fun _ => ?_⟩
  show Program.Only _ (if _ then _ else _)
  split
  · exact emitFault_quiet _ _
  · trivial

/-- A quiet end of a program keeps what is held. -/
theorem held_quiet {β : Type} {program : Program capture β} (h : program.Only CaptureOp.Quiet) {held : Multiset Nat}
    (hheld : ledger.held = held) :
    Keeps (conservation stream role) (fun later _ => later.held = held) ledger program :=
  (quiet_keeps h).imp fun _ _ hlater => hlater.1.trans hheld

theorem giveBackAndStop_keeps (state : CallbackState) (samples : Buffer) (monotonicMillis : UInt64)
    (h : ledger.held = {samples.id}) :
    Keeps (conservation stream role) (fun later _ => later.held = 0) ledger
      (giveBackAndStop state samples monotonicMillis) := by
  simp only [giveBackAndStop, pushFree, atomic, keeps_bind, keeps_act, keeps_done, keeps_pure, h, Multiset.mem_singleton]
  refine ⟨trivial, ?_⟩
  rintro _ rfl
  refine held_quiet (stop_quiet _ _) ?_
  simp only [Ledger.did, h, Multiset.erase_singleton]

theorem handOver_keeps (state : CallbackState) (raw : RawBatch) (monotonicMillis : UInt64)
    (h : ledger.held = {raw.samples.id}) (hwellFormed : raw.WellFormed) :
    Keeps (conservation stream .callback) (fun later _ => later.held = 0) ledger
      (handOver stream state raw monotonicMillis) := by
  simp only [handOver, pushReady, atomic, keeps_bind, keeps_act, keeps_done, h, Multiset.mem_singleton]
  refine ⟨⟨trivial, trivial, hwellFormed⟩, ?_⟩
  rintro _ rfl
  rw [keeps_bind]
  have hheld : (ledger.did (.pushReady raw) (.ok ())).held = 0 := by
    simp only [Ledger.did, h, Multiset.erase_singleton]
  refine (held_quiet (reportClipping_quiet _ _) hheld).imp fun later _ hlater => ?_
  split
  · exact hlater
  · exact held_quiet ((stop_quiet _ _).bind fun _ => Program.only_pure _) hlater

section Fill

variable [NormalizeSample α] {configuration : InputConfiguration} {data : List α} {frameOffset outputIndex remaining : Nat}
  {samples filled : Buffer} {clipped clippedSamples : Nat}

/-- Filling ends with the same buffer, and clips at most one sample a frame. -/
theorem fill_ok (h : fill configuration data frameOffset outputIndex remaining samples clipped =
    .ok (filled, clippedSamples)) : filled.id = samples.id ∧ clippedSamples ≤ clipped + remaining := by
  induction remaining generalizing outputIndex samples clipped with
  | zero =>
    simp only [fill, Except.ok.injEq, Prod.mk.injEq] at h
    obtain ⟨rfl, rfl⟩ := h
    exact ⟨rfl, Nat.le_refl _⟩
  | succ remaining ih =>
    simp only [fill] at h
    split at h
    · cases h
    · rename_i sample isClipped hsample
      obtain ⟨hid, hle⟩ := ih h
      have hbool := Bool.toNat_le isClipped
      exact ⟨hid, by omega⟩

theorem fill_error (h : fill configuration data frameOffset outputIndex remaining samples clipped = .error filled) :
    filled.id = samples.id := by
  induction remaining generalizing outputIndex samples clipped with
  | zero => cases h
  | succ remaining ih =>
    simp only [fill] at h
    split at h
    · cases h
      rfl
    · have hid := ih h
      exact hid

end Fill

theorem firstFrameEvidence_position {timing : CallbackTiming} {position : CapturePosition} {offsetMillis : Nat}
    {evidence : CaptureTimeEvidence} (h : firstFrameEvidence timing position offsetMillis = .ok evidence) :
    evidence.position = position := by
  obtain ⟨-, rfl⟩ := CaptureTimeEvidence.new_ok.mp h
  rfl

theorem CallbackState.discontinuity_at {state : CallbackState} {discontinuity : CaptureDiscontinuity}
    (h : state.discontinuity = some discontinuity) : discontinuity.atPosition = state.position := by
  unfold CallbackState.discontinuity at h
  split at h
  · cases h
    rfl
  · split at h
    · cases h
      rfl
    · cases h

theorem diagnostics_new_ok {clippedSamples callbackDelayMillis : Nat} {diagnostics : CaptureDiagnostics}
    (h : CaptureDiagnostics.new clippedSamples callbackDelayMillis = .ok diagnostics) :
    diagnostics.clippedSamples = clippedSamples := by
  unfold CaptureDiagnostics.new at h
  split at h
  · cases h
  · cases h
    rfl

variable [NormalizeSample α]

theorem processRound_keeps (data : List α) (timing : CallbackTiming) (frameOffset frameCount : Nat)
    (state : CallbackState) (hpos : 0 < frameCount) (hle : frameCount ≤ maxCaptureBatchFrames) (h : ledger.held = 0) :
    Keeps (conservation stream .callback) (fun later _ => later.held = 0) ledger
      (processRound stream data timing frameOffset frameCount state) := by
  simp only [processRound, popFree, atomic, keeps_bind, keeps_act, keeps_done]
  refine ⟨trivial, fun answer _ => ?_⟩
  cases answer with
  | none => exact held_quiet ((dropFrames_quiet _ _ _).bind fun _ => Program.only_pure _) h
  | some buffer =>
    have hheld : (ledger.did .popFree (some buffer)).held = {buffer.id} := by simp only [Ledger.did, h]; rfl
    dsimp only
    split
    · rename_i samples hfill
      exact giveBackAndStop_keeps _ _ _ (by rw [fill_error hfill]; exact hheld)
    · rename_i samples clippedSamples hfill
      obtain ⟨hid, hclipped⟩ := fill_ok hfill
      have hsamples : (ledger.did .popFree (some buffer)).held = {samples.id} := by rw [hid]; exact hheld
      split
      · exact giveBackAndStop_keeps _ _ _ hsamples
      · rename_i firstFrame hfirst
        split
        · exact giveBackAndStop_keeps _ _ _ hsamples
        · rename_i diagnostics hdiagnostics
          refine handOver_keeps _ _ _ hsamples ⟨hpos, hle, fun discontinuity hmark => ?_, ?_⟩
          · rw [firstFrameEvidence_position hfirst]
            exact CallbackState.discontinuity_at hmark
          · show diagnostics.clippedSamples ≤ frameCount
            rw [diagnostics_new_ok hdiagnostics]
            omega

theorem processFrames_keeps (data : List α) (timing : CallbackTiming) (totalFrames rounds frameOffset : Nat)
    (state : CallbackState) (h : ledger.held = 0) :
    Keeps (conservation stream .callback) (fun later _ => later.held = 0) ledger
      (processFrames stream data timing totalFrames rounds frameOffset state) := by
  induction rounds generalizing ledger frameOffset state with
  | zero => exact h
  | succ rounds ih =>
    simp only [processFrames]
    split
    · rename_i hlt
      rw [keeps_bind]
      refine (processRound_keeps data timing frameOffset _ state (Nat.lt_min.mpr ⟨by omega, by decide⟩)
        (Nat.min_le_right _ _) h).imp fun later round hlater => ?_
      cases round with
      | next state => exact ih _ _ hlater
      | finish state => exact hlater
    · exact h

theorem process_keeps (state : CallbackState) (data : List α) (timing : CallbackTiming) (h : ledger.held = 0) :
    Keeps (conservation stream .callback) (fun later _ => later.held = 0) ledger (process stream state data timing) := by
  simp only [process, loadStopped, atomic, keeps_bind, keeps_act, keeps_done]
  refine ⟨trivial, fun (stopped : Bool) _ => ?_⟩
  cases stopped with
  | true => exact h
  | false =>
    simp only [Bool.false_eq_true, if_false, keeps_ite, keeps_bind]
    refine ⟨fun _ => held_quiet (stop_quiet _ _) h, fun _ => ?_⟩
    exact (held_quiet (reportDelay_quiet timing) h).imp fun later _ hlater => processFrames_keeps _ _ _ _ _ _ hlater

end

/-! ## Every buffer is in one place -/

section

variable {α : Type} {stream : CaptureStream} {queueBatches : Nat} {Q : Type → Type} [ArrayQueue Q]
  {s t : SharedCapture Q} {ledgersOf : (role : Role) → Ledger α} {role : Role} {ledger : Ledger α}

/-- The buffers in the queue of free buffers. -/
def SharedCapture.freeBuffers (s : SharedCapture Q) : Multiset Nat := (ArrayQueue.items s.free).map Buffer.id

/-- The buffers in the queue of filled ones. -/
def SharedCapture.readyBuffers (s : SharedCapture Q) : Multiset Nat :=
  (ArrayQueue.items s.ready).map fun raw => raw.samples.id

/-- The buffers in the hands of the parties. -/
def heldBuffers (ledgersOf : (role : Role) → Ledger α) : Multiset Nat :=
  (ledgersOf .callback).held + (ledgersOf .worker).held + (ledgersOf .backend).held

theorem heldBuffers_update (ledgersOf : (role : Role) → Ledger α) (role : Role) (ledger : Ledger α) :
    heldBuffers (Function.update ledgersOf role ledger) + (ledgersOf role).held =
      heldBuffers ledgersOf + ledger.held := by
  cases role <;> simp [heldBuffers, Function.update] <;> abel

/-- The original buffers are in the queues and in the hands of the parties, and the filled ones that the worker has not
yet taken over wait in their order. -/
structure Conserved (queueBatches : Nat) (s : SharedCapture Q) (ledgersOf : (role : Role) → Ledger α) : Prop where
  buffers : s.freeBuffers + s.readyBuffers + heldBuffers ledgersOf = Multiset.range queueBatches
  freeCapacity : ArrayQueue.capacity s.free = queueBatches
  readyCapacity : ArrayQueue.capacity s.ready = queueBatches
  wellFormed : ∀ raw ∈ ArrayQueue.items s.ready, raw.WellFormed
  order : (ledgersOf .worker).popped ++ ArrayQueue.items s.ready = batches (ledgersOf .callback).outcomes

/-- Two queues of one capacity and one content. -/
def SameQueue {β : Type} (queue other : Q β) : Prop :=
  ArrayQueue.items queue = ArrayQueue.items other ∧ ArrayQueue.capacity queue = ArrayQueue.capacity other

theorem SameQueue.refl {β : Type} (queue : Q β) : SameQueue queue queue := ⟨rfl, rfl⟩

/-- A pop that finds nothing leaves the queue as it was. -/
theorem SameQueue.pop [LawfulArrayQueue Q] {β : Type} {queue : Q β} (h : (ArrayQueue.pop queue).1 = none) :
    SameQueue (ArrayQueue.pop queue).2 queue := ⟨ArrayQueue.pop_none h, LawfulArrayQueue.pop_capacity queue⟩

/-- A step that moves no buffer. -/
theorem Conserved.quiet (h : Conserved queueBatches s ledgersOf) (hfree : SameQueue t.free s.free)
    (hready : SameQueue t.ready s.ready) (hheld : ledger.held = (ledgersOf role).held) (hpopped : ledger.popped = (ledgersOf role).popped)
    (hbatches : batches ledger.outcomes = batches (ledgersOf role).outcomes) :
    Conserved queueBatches t (Function.update ledgersOf role ledger) where
  buffers := by
    have hupdate := heldBuffers_update ledgersOf role ledger
    rw [hheld, add_left_inj] at hupdate
    rw [hupdate, SharedCapture.freeBuffers, SharedCapture.readyBuffers, hfree.1, hready.1]
    exact h.buffers
  freeCapacity := hfree.2.trans h.freeCapacity
  readyCapacity := hready.2.trans h.readyCapacity
  wellFormed := by rw [hready.1]; exact h.wellFormed
  order := by
    rw [hready.1]
    cases role with
    | callback => simpa [Function.update, hbatches] using h.order
    | worker => simpa [Function.update, hpopped] using h.order
    | backend => simpa [Function.update] using h.order

/-- A queue has room for a buffer that a party holds. -/
theorem Conserved.room (h : Conserved queueBatches s ledgersOf) {id : Nat} (hid : id ∈ (ledgersOf role).held) :
    (ArrayQueue.items s.free).length < ArrayQueue.capacity s.free ∧
      (ArrayQueue.items s.ready).length < ArrayQueue.capacity s.ready := by
  have hcard := congrArg Multiset.card h.buffers
  have hpos : 0 < Multiset.card (heldBuffers ledgersOf) := by
    refine Multiset.card_pos_iff_exists_mem.mpr ⟨id, ?_⟩
    cases role <;> simp [heldBuffers, hid]
  simp only [Multiset.card_add, SharedCapture.freeBuffers, SharedCapture.readyBuffers, Multiset.coe_card,
    List.length_map, Multiset.card_range] at hcard
  rw [h.freeCapacity, h.readyCapacity]
  omega

/-- A buffer moves between the queues and a party. -/
theorem Conserved.move (h : Conserved queueBatches s ledgersOf)
    (hmoved : t.freeBuffers + t.readyBuffers + ledger.held = s.freeBuffers + s.readyBuffers + (ledgersOf role).held) :
    t.freeBuffers + t.readyBuffers + heldBuffers (Function.update ledgersOf role ledger) =
      Multiset.range queueBatches := by
  have hupdate := heldBuffers_update ledgersOf role ledger
  have hsum : t.freeBuffers + t.readyBuffers + heldBuffers (Function.update ledgersOf role ledger) + ledger.held +
      (ledgersOf role).held = Multiset.range queueBatches + ledger.held + (ledgersOf role).held := by
    calc _ = (t.freeBuffers + t.readyBuffers + ledger.held) +
          (heldBuffers (Function.update ledgersOf role ledger) + (ledgersOf role).held) := by abel
      _ = (s.freeBuffers + s.readyBuffers + heldBuffers ledgersOf) + ledger.held + (ledgersOf role).held := by
          rw [hmoved, hupdate]
          abel
      _ = _ := by rw [h.buffers]
  exact add_right_cancel (add_right_cancel hsum)

variable [LawfulArrayQueue Q]

theorem Conserved.popFree (h : Conserved queueBatches s ledgersOf) :
    Conserved queueBatches (CaptureOp.exec .popFree s).2
      (Function.update ledgersOf role ((ledgersOf role).did .popFree (CaptureOp.exec .popFree s).1)) := by
  simp only [CaptureOp.exec]
  cases hpop : (ArrayQueue.pop s.free).1 with
  | none => exact h.quiet (.pop hpop) (.refl _) rfl rfl rfl
  | some samples =>
    have hitems := ArrayQueue.pop_some hpop
    refine ⟨h.move ?_, (LawfulArrayQueue.pop_capacity _).trans h.freeCapacity, h.readyCapacity, h.wellFormed, ?_⟩
    · simp only [SharedCapture.freeBuffers, SharedCapture.readyBuffers, hitems, List.map_cons, ← Multiset.cons_coe,
        Multiset.cons_add, Multiset.add_cons, Ledger.did]
    · cases role <;> simpa [Function.update, Ledger.did] using h.order

theorem Conserved.pushFree (h : Conserved queueBatches s ledgersOf) {samples : Buffer}
    (hheld : samples.id ∈ (ledgersOf role).held) :
    (CaptureOp.exec (.pushFree samples) s).1 = .ok () ∧
      Conserved queueBatches (CaptureOp.exec (.pushFree samples) s).2
        (Function.update ledgersOf role ((ledgersOf role).did (.pushFree samples) (.ok ()))) := by
  obtain ⟨hanswer, hitems⟩ := LawfulArrayQueue.push_room (h.room hheld).1 samples
  refine ⟨hanswer, h.move ?_, ?_, h.readyCapacity, h.wellFormed, ?_⟩
  · simp only [SharedCapture.freeBuffers, SharedCapture.readyBuffers, CaptureOp.exec, hitems, List.map_append,
      List.map_singleton, ← Multiset.coe_add, Multiset.coe_singleton, Ledger.did]
    conv_rhs => rw [← Multiset.cons_erase hheld, ← Multiset.singleton_add]
    abel
  · exact (LawfulArrayQueue.push_capacity _ _).trans h.freeCapacity
  · cases role <;> simpa [Function.update, Ledger.did, CaptureOp.exec] using h.order

theorem Conserved.popReady (h : Conserved queueBatches s ledgersOf) :
    (∀ raw, (CaptureOp.exec .popReady s).1 = some raw → raw.WellFormed) ∧
      Conserved queueBatches (CaptureOp.exec .popReady s).2
        (Function.update ledgersOf .worker ((ledgersOf .worker).did .popReady (CaptureOp.exec .popReady s).1)) := by
  simp only [CaptureOp.exec]
  cases hpop : (ArrayQueue.pop s.ready).1 with
  | none => exact ⟨fun raw hraw => (by cases hraw), h.quiet (.refl _) (.pop hpop) rfl rfl rfl⟩
  | some raw =>
    have hitems := ArrayQueue.pop_some hpop
    have hwellFormed := h.wellFormed
    rw [hitems] at hwellFormed
    refine ⟨?_, h.move ?_, h.freeCapacity, (LawfulArrayQueue.pop_capacity _).trans h.readyCapacity,
      fun other hother => hwellFormed other (List.mem_cons_of_mem _ hother), ?_⟩
    · rintro _ ⟨⟩
      exact hwellFormed raw List.mem_cons_self
    · simp only [SharedCapture.freeBuffers, SharedCapture.readyBuffers, hitems, List.map_cons, ← Multiset.cons_coe,
        Multiset.cons_add, Multiset.add_cons, Ledger.did]
    · have horder := h.order
      rw [hitems] at horder
      simpa [Function.update, Ledger.did] using horder

theorem Conserved.pushReady (h : Conserved queueBatches s ledgersOf) {raw : RawBatch}
    (hheld : raw.samples.id ∈ (ledgersOf .callback).held) (hwellFormed : raw.WellFormed) :
    (CaptureOp.exec (.pushReady raw) s).1 = .ok () ∧
      Conserved queueBatches (CaptureOp.exec (.pushReady raw) s).2
        (Function.update ledgersOf .callback ((ledgersOf .callback).did (.pushReady raw) (.ok ()))) := by
  obtain ⟨hanswer, hitems⟩ := LawfulArrayQueue.push_room (h.room hheld).2 raw
  refine ⟨hanswer, h.move ?_, h.freeCapacity, ?_, ?_, ?_⟩
  · simp only [SharedCapture.freeBuffers, SharedCapture.readyBuffers, CaptureOp.exec, hitems, List.map_append,
      List.map_singleton, ← Multiset.coe_add, Multiset.coe_singleton, Ledger.did]
    conv_rhs => rw [← Multiset.cons_erase hheld, ← Multiset.singleton_add]
    abel
  · exact (LawfulArrayQueue.push_capacity _ _).trans h.readyCapacity
  · simp only [CaptureOp.exec, hitems, List.mem_append, List.mem_singleton]
    rintro other (hother | rfl)
    · exact h.wellFormed other hother
    · exact hwellFormed
  · simp only [CaptureOp.exec, hitems, Function.update_self, Function.update_of_ne (show Role.worker ≠ .callback by decide),
      Ledger.did, batches_append, batches_batch, ← h.order, List.append_assoc]

/-- A promised operation conserves the buffers, and answers as allowed. -/
theorem Conserved.did (h : Conserved queueBatches s ledgersOf) {op : CaptureOp}
    (hrequires : (conservation stream role).requires (ledgersOf role) op) :
    (conservation stream role).allows (ledgersOf role) op (op.exec s).1 ∧
      Conserved queueBatches (op.exec s).2
        (Function.update ledgersOf role ((ledgersOf role).did op (op.exec s).1)) := by
  cases op with
  | popFree => exact ⟨trivial, h.popFree⟩
  | pushFree samples =>
    obtain ⟨hanswer, hconserved⟩ := h.pushFree hrequires
    rw [hanswer]
    exact ⟨rfl, hconserved⟩
  | popReady =>
    obtain rfl : role = .worker := hrequires
    obtain ⟨hwellFormed, hconserved⟩ := h.popReady
    refine ⟨?_, hconserved⟩
    cases hanswer : (CaptureOp.exec .popReady s).1 with
    | none => trivial
    | some raw => exact hwellFormed raw hanswer
  | pushReady raw =>
    obtain ⟨rfl, hheld, hwellFormed⟩ := hrequires
    obtain ⟨hanswer, hconserved⟩ := h.pushReady hheld hwellFormed
    rw [hanswer]
    exact ⟨rfl, hconserved⟩
  | pushFault fault =>
    refine ⟨trivial, h.quiet (.refl _) (.refl _) ?_ ?_ ?_⟩ <;> simp only [Ledger.did] <;> split <;> simp
  | _ => exact ⟨trivial, h.quiet (.refl _) (.refl _) rfl rfl rfl⟩

/-! ## Returns and deliveries -/

theorem Ledger.returned_eq (ledger : Ledger α) (role : Role) (result : role.Result) :
    (ledger.returned role result).held = 0 ∧ (ledger.returned role result).popped = ledger.popped ∧
      (ledger.returned role result).outcomes = ledger.outcomes := by
  unfold Ledger.returned
  split <;> exact ⟨rfl, rfl, rfl⟩

/-- An operation only adds to what is popped. -/
theorem Deliveries.did (h : Deliveries stream ledger.popped ledger.delivered) (op : CaptureOp) (answer : op.Answer) :
    Deliveries stream (ledger.did op answer).popped (ledger.did op answer).delivered := by
  cases op with
  | popFree => cases answer <;> exact h
  | pushFree samples => cases answer <;> exact h
  | popReady =>
    cases answer with
    | none => exact h
    | some raw => exact h.later
  | pushReady raw => cases answer <;> exact h
  | pushFault fault =>
    simp only [Ledger.did]
    split <;> exact h
  | _ => exact h

/-- A delivery at the end of a call. -/
theorem Delivers.returned {answer : WorkerAnswer} (h : Delivers stream ledger .worker answer) :
    Deliveries stream (ledger.returned .worker answer).popped (ledger.returned .worker answer).delivered := by
  cases answer with
  | batch answer =>
    cases answer with
    | error error => exact h.elim
    | ok batch =>
      cases batch with
      | none => exact h
      | some batch =>
        obtain ⟨before, raw, hpopped, hbatch, hdeliveries⟩ := h
        show Deliveries stream ledger.popped (ledger.delivered ++ [batch])
        rw [hpopped]
        exact hdeliveries.deliver hbatch
  | _ => exact h

/-! ## A new stream -/

theorem fillFree {ids : List Nat} {queue filled : Q Buffer}
    (h : ids.foldlM (fun (queue : Q Buffer) id =>
      match ArrayQueue.push queue (.silent id) with
      | (.ok (), queue) => Except.ok queue
      | (.error _, _) => .error InputCaptureError.backendFailure) queue = .ok filled) :
    ArrayQueue.items filled = ArrayQueue.items queue ++ ids.map Buffer.silent ∧
      ArrayQueue.capacity filled = ArrayQueue.capacity queue := by
  induction ids generalizing queue with
  | nil =>
    cases h
    exact ⟨(List.append_nil _).symm, rfl⟩
  | cons id ids ih =>
    rw [List.foldlM_cons, exceptBind_ok] at h
    obtain ⟨pushed, hpushed, hrest⟩ := h
    have hpush : ArrayQueue.items pushed = ArrayQueue.items queue ++ [.silent id] ∧
        ArrayQueue.capacity pushed = ArrayQueue.capacity queue := by
      split at hpushed
      · rename_i after heq
        cases hpushed
        have hitems := ArrayQueue.push_ok (congrArg Prod.fst heq)
        have hcapacity := LawfulArrayQueue.push_capacity queue (.silent id)
        rw [heq] at hitems hcapacity
        exact ⟨hitems, hcapacity⟩
      · cases hpushed
    obtain ⟨hitems, hcapacity⟩ := ih hrest
    refine ⟨?_, hcapacity.trans hpush.2⟩
    rw [hitems, hpush.1, List.map_cons, List.append_assoc, List.singleton_append]

/-- A queue with room for all the buffers takes them. -/
theorem fillFree_room {ids : List Nat} {queue : Q Buffer}
    (h : (ArrayQueue.items queue).length + ids.length ≤ ArrayQueue.capacity queue) :
    ∃ filled, ids.foldlM (fun (queue : Q Buffer) id =>
      match ArrayQueue.push queue (.silent id) with
      | (.ok (), queue) => Except.ok queue
      | (.error _, _) => .error InputCaptureError.backendFailure) queue = .ok filled := by
  induction ids generalizing queue with
  | nil => exact ⟨queue, rfl⟩
  | cons id ids ih =>
    rw [List.length_cons] at h
    have hroom : (ArrayQueue.items queue).length < ArrayQueue.capacity queue := by omega
    obtain ⟨hanswer, hitems⟩ := LawfulArrayQueue.push_room hroom (.silent id)
    have hcapacity := LawfulArrayQueue.push_capacity queue (.silent id)
    rw [List.foldlM_cons]
    generalize ArrayQueue.push queue (.silent id) = pushed at hanswer hitems hcapacity ⊢
    obtain ⟨answer, after⟩ := pushed
    obtain rfl : answer = .ok () := hanswer
    refine ih ?_
    rw [hitems, hcapacity, List.length_append, List.length_singleton]
    omega

/-- The queue of a new stream may have from 2 to 128 buffers. -/
theorem sharedCapture_new (hmin : 2 ≤ queueBatches) (hmax : queueBatches ≤ maxCaptureQueueBatches) :
    ∃ s, SharedCapture.new Q queueBatches = .ok s := by
  have hroom : (ArrayQueue.items (ArrayQueue.new Buffer queueBatches : Q Buffer)).length +
      (List.range queueBatches).length ≤ ArrayQueue.capacity (ArrayQueue.new Buffer queueBatches : Q Buffer) := by
    simp
  obtain ⟨free, hfree⟩ := fillFree_room hroom
  unfold SharedCapture.new
  rw [if_pos ⟨hmin, hmax⟩]
  exact ⟨_, exceptBind_ok.mpr ⟨free, hfree, rfl⟩⟩

/-- A new stream has all its buffers free. -/
theorem conserved_new (h : SharedCapture.new Q queueBatches = .ok s) :
    Conserved queueBatches s (fun _ => (Ledger.empty : Ledger α)) ∧ s.stopped = false := by
  unfold SharedCapture.new at h
  split at h
  · obtain ⟨free, hfree, hs⟩ := exceptBind_ok.mp h
    cases hs
    obtain ⟨hitems, hcapacity⟩ := fillFree hfree
    have hids : (List.range queueBatches).map (Buffer.id ∘ Buffer.silent) = List.range queueBatches := List.map_id' _
    refine ⟨⟨?_, ?_, ?_, ?_, ?_⟩, rfl⟩
    · simp [SharedCapture.freeBuffers, SharedCapture.readyBuffers, heldBuffers, Ledger.empty, hitems, hids,
        Multiset.range]
    · exact hcapacity.trans (LawfulArrayQueue.new_capacity _ _)
    · exact LawfulArrayQueue.new_capacity _ _
    · simp
    · simp [Ledger.empty, batches]
  · cases h

/-! ## Every interleaving -/

variable [NormalizeSample α]

/-- What holds in every world of every run: the buffers are conserved and the deliveries are of popped batches. -/
def Kept (stream : CaptureStream) (queueBatches : Nat) (s : SharedCapture Q) (ledgersOf : (role : Role) → Ledger α) :
    Prop :=
  Conserved queueBatches s ledgersOf ∧ Deliveries stream (ledgersOf .worker).popped (ledgersOf .worker).delivered

/-- The ledgers of the parties. -/
def partyLedgers (w : World (captureSystem stream α Q)) : (role : Role) → Ledger α :=
  records (ledgers stream) (fun _ => .empty) w

omit [LawfulArrayQueue Q] in
theorem entry_keeps (role : Role) (call : role.Call α) (last : role.Result) (ledger : Ledger α)
    (h : (conservation stream role).idle ledger last) :
    Keeps (conservation stream role) (conservation stream role).Returns ((ledgers stream role).begun ledger call)
      ((captureSystem stream α Q).entry role call last) := by
  cases role with
  | callback =>
    have hheld : ((ledgers stream .callback).begun ledger call).held = 0 := h.1
    exact (process_keeps last call.data call.timing hheld).imp fun later state hlater =>
      ⟨⟨hlater, trivial⟩, (Ledger.returned_eq _ _ _).1, fun hrole => (by cases hrole)⟩
  | worker =>
    exact (worker_keeps call last h.1 (h.2 rfl)).imp fun later answer hlater =>
      ⟨hlater, (Ledger.returned_eq _ _ _).1, fun _ => hlater.2.returned⟩
  | backend =>
    exact (held_quiet (stop_quiet _ _) h.1).imp fun later _ hlater =>
      ⟨⟨hlater, trivial⟩, (Ledger.returned_eq _ _ _).1, fun hrole => (by cases hrole)⟩

/-- The calls, the procedure and the operations of a stream uphold the conservation. -/
theorem upholds_kept (w₀ : World (captureSystem stream α Q)) (queueBatches : Nat) :
    Upholds (conservation stream) (fun _ => (Ledger.empty : Ledger α)) (fun _ => True) (Kept stream queueBatches) w₀ where
  body role proc ledger h := by
    cases proc with
    | discardReady => exact discardReady_keeps h.1 h.2.1 h.2.2
  entry role call last ledger h := entry_keeps role call last ledger h
  begun s g role call last h hidle := by
    refine ⟨h.1.quiet (.refl _) (.refl _) ?_ ?_ ?_, ?_⟩
    · cases role <;> rfl
    · cases role <;> rfl
    · cases role <;> rfl
    · cases role <;> exact h.2
  returned s g role result h hends := by
    refine ⟨h.1.quiet (.refl _) (.refl _) ?_ ?_ ?_, ?_⟩
    · exact (Ledger.returned_eq _ _ _).1.trans hends.1.symm
    · exact (Ledger.returned_eq _ _ _).2.1
    · exact congrArg batches (Ledger.returned_eq _ _ _).2.2
    · cases role with
      | worker => simpa only [Function.update_self] using hends.2.returned
      | callback => exact h.2
      | backend => exact h.2
  did w role op next hreach hactivity hP h hrequires := by
    obtain ⟨hallows, hconserved⟩ := h.1.did hrequires
    refine ⟨hallows, hconserved, ?_⟩
    by_cases hrole : role = .worker
    · subst hrole
      rw [Function.update_self]
      exact h.2.did op _
    · rw [Function.update_of_ne (Ne.symm hrole)]
      exact h.2

/-- The ledgers of a new stream are empty, and its parties wait. -/
theorem kept_opened (stream : CaptureStream) (h : SharedCapture.new Q queueBatches = .ok s) :
    Kept stream queueBatches (opened stream α s).shared (partyLedgers (opened stream α s)) ∧
      AllMeet (conservation stream) (fun _ => (Ledger.empty : Ledger α)) (opened stream α s) := by
  have hledgers : partyLedgers (opened stream α s) = fun _ => Ledger.empty := by
    funext role
    cases role <;> rfl
  have hdeliveries : Deliveries stream [] [] := ⟨[], List.Sublist.refl _, .nil⟩
  refine ⟨⟨?_, ?_⟩, fun role => ?_⟩
  · rw [hledgers]
    exact (conserved_new h).1
  · rw [hledgers]
    exact hdeliveries
  · cases role <;> exact ⟨trivial, rfl, fun _ => hdeliveries⟩

/-- The conservation in every world of every run. -/
theorem kept_reach (h : SharedCapture.new Q queueBatches = .ok s) {P : SharedCapture Q → Prop}
    {w : World (captureSystem stream α Q)} (hw : World.Reach P (opened stream α s) w) :
    Kept stream queueBatches w.shared (partyLedgers w) ∧
      AllMeet (conservation stream) (fun _ => (Ledger.empty : Ledger α)) w := by
  obtain ⟨hkept, hmeet⟩ := kept_opened (α := α) stream h
  exact (upholds_kept _ queueBatches).invariant hkept hmeet (hw.imp fun _ _ => trivial)

/-- **Buffer conservation**: in every interleaving the original buffers are, once each, in the two queues and in the hands
of the parties, and in no hand between two calls. No push ever finds a full queue, and the worker takes every filled
buffer over at most once, in the order of the callback. -/
theorem buffers_conserved (stream : CaptureStream) (queueBatches : Nat) (shared : SharedCapture Q)
    (hnew : SharedCapture.new Q queueBatches = .ok shared) (moves : List (Move (captureSystem stream α Q))) :
    let w := (opened stream α shared).run moves
    let ledger := partyLedgers w
    w.shared.freeBuffers + w.shared.readyBuffers +
        ((ledger .callback).held + (ledger .worker).held + (ledger .backend).held) = Multiset.range queueBatches ∧
      (∀ role last, (w.party role).activity = .idle last → (ledger role).held = 0) ∧
      (∀ role samples answer, .did (CaptureOp.pushFree samples) answer ∈ (w.party role).history → answer = .ok ()) ∧
      (∀ role raw answer, .did (CaptureOp.pushReady raw) answer ∈ (w.party role).history → answer = .ok ()) ∧
      (∀ error, .returned (.batch (.error error)) ∉ (w.party .worker).history) ∧
      (ledger .worker).popped ++ ArrayQueue.items w.shared.ready = batches (ledger .callback).outcomes ∧
      Deliveries stream (ledger .worker).popped (ledger .worker).delivered := by
  intro w ledger
  obtain ⟨hkept, hmeet⟩ := kept_reach hnew (World.reach_run_all (opened stream α shared) moves)
  refine ⟨hkept.1.buffers, ?_, ?_, ?_, ?_, hkept.1.order, hkept.2⟩
  · intro role last hidle
    have hrole := (hmeet role).2
    rw [hidle] at hrole
    exact hrole.1
  · intro role samples answer hmem
    obtain ⟨_, _, hallows⟩ := (hmeet role).1.of_mem hmem
    exact hallows
  · intro role raw answer hmem
    obtain ⟨_, _, hallows⟩ := (hmeet role).1.of_mem hmem
    exact hallows
  · intro error hmem
    obtain ⟨_, _, hdelivers⟩ := (hmeet .worker).1.of_mem hmem
    exact hdelivers

end

/-- A mono stream of signed 16-bit samples. -/
def monoStream : CaptureStream := ⟨monoConfiguration, ⟨1, by decide⟩, ⟨1, by decide⟩⟩

/-- A new stream with two buffers. -/
def twoBuffers : SharedCapture ListQueue where
  free := ⟨2, [.silent 0, .silent 1], by decide⟩
  ready := ListQueue.new RawBatch 2
  faults := ListQueue.new InputFault 2
  stopped := false
  overflowCount := 0
  clippedSampleCount := 0
  maxCallbackDelayMillis := 0
  terminalFault := 0
  terminalFaultTime := 0
  terminalFaultReported := false

theorem new_two : SharedCapture.new ListQueue 2 = .ok twoBuffers := rfl

/-- The callback fills a buffer while the worker stops the stream. -/
def stopMoves : List (Move (captureSystem monoStream Int16 ListQueue)) :=
  [.enter .callback ⟨[1, 2], ⟨30000, 1000, 4⟩⟩, .advance .callback, .advance .callback, .enter .worker (.stop (.ok ())),
    .advance .worker, .advance .callback, .advance .worker, .advance .callback, .advance .worker, .advance .callback]

theorem buffers_conserved_two :
    let w := (opened monoStream Int16 twoBuffers).run stopMoves
    let ledger := partyLedgers w
    w.shared.freeBuffers + w.shared.readyBuffers +
        ((ledger .callback).held + (ledger .worker).held + (ledger .backend).held) = Multiset.range 2 ∧
      (∀ role last, (w.party role).activity = .idle last → (ledger role).held = 0) ∧
      (∀ role samples answer, .did (CaptureOp.pushFree samples) answer ∈ (w.party role).history → answer = .ok ()) ∧
      (∀ role raw answer, .did (CaptureOp.pushReady raw) answer ∈ (w.party role).history → answer = .ok ()) ∧
      (∀ error, .returned (.batch (.error error)) ∉ (w.party .worker).history) ∧
      (ledger .worker).popped ++ ArrayQueue.items w.shared.ready = batches (ledger .callback).outcomes ∧
      Deliveries monoStream (ledger .worker).popped (ledger .worker).delivered :=
  buffers_conserved monoStream 2 twoBuffers new_two stopMoves

end Slotpilot.Audio
