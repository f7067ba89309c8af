import Slotpilot.Audio.CaptureBuffers

/-!
# Frame accounting of a capture stream

Until a stream stops, every presented frame is in one batch or was reported as dropped, in the order of presentation
(`Tracks`, `RawAccounted`): the position of a batch is the number of frames presented before it, its samples are those
of the selected channel, and its mark says how many frames were dropped since the batch before it. A consumer that checks
the delivered batches as one `CaptureSequence` finds neither a position regression nor an unmarked gap
(`frames_accounted`).
-/

set_option autoImplicit false

namespace Slotpilot.Audio

open Lib

/-! ## Capture sequences -/

/-- Why a batch does not continue a sequence. -/
inductive CaptureSequenceError
  | generationChanged
  | positionRegressed
  | unmarkedGap
  | monotonicRegressed
  | positionOverflow
  deriving DecidableEq

/-- Validator of the order of batches within one generation. -/
structure CaptureSequence where
  processGeneration : ProcessGeneration
  streamGeneration : StreamGeneration
  nextPosition : CapturePosition
  lastMonotonicMillis : UInt64

def CaptureSequence.start (first : CaptureBatch) : Except CaptureSequenceError CaptureSequence :=
  match first.endPosition with
  | .error _ => .error .positionOverflow
  | .ok nextPosition =>
    .ok
      { processGeneration := first.processGeneration, streamGeneration := first.streamGeneration, nextPosition,
        lastMonotonicMillis := first.firstFrame.monotonicMillis }

def CaptureSequence.observe (sequence : CaptureSequence) (batch : CaptureBatch) :
    Except CaptureSequenceError CaptureSequence :=
  if batch.processGeneration ≠ sequence.processGeneration ∨ batch.streamGeneration ≠ sequence.streamGeneration then
    .error .generationChanged
  else if batch.firstFrame.position.frames < sequence.nextPosition.frames then .error .positionRegressed
  else if batch.firstFrame.position.frames > sequence.nextPosition.frames ∧ batch.discontinuity.isNone then
    .error .unmarkedGap
  else if batch.firstFrame.monotonicMillis < sequence.lastMonotonicMillis then .error .monotonicRegressed
  else
    match batch.endPosition with
    | .error _ => .error .positionOverflow
    | .ok nextPosition =>
      .ok { sequence with nextPosition, lastMonotonicMillis := batch.firstFrame.monotonicMillis }

/-- The sequence of a consumer goes on with a batch, or starts from it. -/
def CaptureSequence.next : Option CaptureSequence → CaptureBatch → Except CaptureSequenceError (Option CaptureSequence)
  | none, batch => (CaptureSequence.start batch).map some
  | some sequence, batch => (sequence.observe batch).map some

/-- The batches of a stream checked as one sequence. -/
def observeBatches (batches : List CaptureBatch) : Except CaptureSequenceError (Option CaptureSequence) :=
  batches.foldlM CaptureSequence.next none

/-! ## Frames of outcomes -/

def Outcome.frames : Outcome → Nat
  | .dropped frames => frames
  | .batch raw => raw.frameCount

/-- The frames with one of the outcomes. -/
def framesOf (outcomes : List Outcome) : Nat := (outcomes.map Outcome.frames).sum

/-- The frames dropped since the last batch. -/
def droppedSince (outcomes : List Outcome) : Nat :=
  outcomes.foldl
    (fun lost outcome =>
      match outcome with
      | .dropped frames => lost + frames
      | .batch _ => 0) 0

@[simp] theorem framesOf_snoc (outcomes : List Outcome) (outcome : Outcome) :
    framesOf (outcomes ++ [outcome]) = framesOf outcomes + outcome.frames := by simp [framesOf]

@[simp] theorem droppedSince_dropped (outcomes : List Outcome) (frames : Nat) :
    droppedSince (outcomes ++ [.dropped frames]) = droppedSince outcomes + frames := by simp [droppedSince]

@[simp] theorem droppedSince_batch (outcomes : List Outcome) (raw : RawBatch) :
    droppedSince (outcomes ++ [.batch raw]) = 0 := by simp [droppedSince]

theorem droppedSince_le (outcomes : List Outcome) : droppedSince outcomes ≤ framesOf outcomes := by
  induction outcomes using List.reverseRecOn with
  | nil => exact Nat.le_refl _
  | append_singleton outcomes outcome ih =>
    rw [framesOf_snoc]
    cases outcome with
    | dropped frames =>
      rw [droppedSince_dropped]
      exact Nat.add_le_add_right ih frames
    | batch raw =>
      rw [droppedSince_batch]
      exact Nat.zero_le _

/-! ## What a batch says -/

variable {α : Type} [NormalizeSample α]

/-- The normalized sample, without its clipping. -/
def normalizedSample (sample : α) : Option Int16 := (NormalizeSample.normalize sample).map Prod.fst

/-- A delivered batch is of the frames presented after those of the outcomes before it. -/
structure Accounted (presented : List α) (before : List Outcome) (batch : CaptureBatch) : Prop where
  position : batch.firstFrame.position.frames.toNat = framesOf before
  samples : batch.samples.map some =
    ((presented.drop (framesOf before)).take batch.samples.length).map normalizedSample
  overflow : (∃ mark, batch.discontinuity = some mark ∧ mark.kind = .overflow) ↔ 0 < droppedSince before
  dropped : ∀ mark, batch.discontinuity = some mark → mark.kind = .overflow →
    mark.droppedFrames.toNat = droppedSince before
  restart : ∀ mark, batch.discontinuity = some mark → mark.kind = .streamRestart → batches before = []

/-- The callback's state is that of the outcomes. -/
structure Tracks (state : CallbackState) (outcomes : List Outcome) : Prop where
  position : state.position.frames.toNat = framesOf outcomes
  pending : state.pendingDroppedFrames.toNat = droppedSince outcomes
  first : state.firstBatch = true ↔ batches outcomes = []

/-- A filled buffer is of the frames after those of the outcomes before it, with the mark of the callback's state. -/
structure RawAccounted (presented : List α) (before : List Outcome) (raw : RawBatch) : Prop where
  size : raw.frameCount ≤ maxCaptureBatchFrames
  le : framesOf before + raw.frameCount ≤ presented.length
  samples : (raw.samples.samples.take raw.frameCount).map some =
    ((presented.drop (framesOf before)).take raw.frameCount).map normalizedSample
  mark : ∃ state : CallbackState, Tracks state before ∧ raw.firstFrame.position = state.position ∧
    raw.discontinuity = state.discontinuity

/-- Later frames do not change what a batch is of. -/
theorem RawAccounted.later {presented : List α} {before : List Outcome} {raw : RawBatch}
    (h : RawAccounted presented before raw) (more : List α) : RawAccounted (presented ++ more) before raw where
  size := h.size
  le := by
    have := h.le
    rw [List.length_append]
    omega
  samples := by
    have hle := h.le
    rw [h.samples, List.drop_append_of_le_length (by omega), List.take_append_of_le_length]
    rw [List.length_drop]
    omega
  mark := h.mark

/-- Every batch is accounted among the outcomes. -/
def AllAccounted (presented : List α) (outcomes : List Outcome) : Prop :=
  ∀ before raw after, outcomes = before ++ .batch raw :: after → RawAccounted presented before raw

theorem AllAccounted.later {presented : List α} {outcomes : List Outcome} (h : AllAccounted presented outcomes)
    (more : List α) : AllAccounted (presented ++ more) outcomes :=
  fun before raw after hsplit => (h before raw after hsplit).later more

/-- One more outcome. -/
theorem AllAccounted.snoc {presented : List α} {outcomes : List Outcome} {outcome : Outcome}
    (h : AllAccounted presented outcomes)
    (hlast : ∀ raw, outcome = .batch raw → RawAccounted presented outcomes raw) :
    AllAccounted presented (outcomes ++ [outcome]) := by
  intro before raw after hsplit
  rcases List.append_eq_append_iff.mp hsplit with ⟨middle, hbefore, hmiddle⟩ | ⟨middle, houtcomes, hmiddle⟩
  · cases middle with
    | nil =>
      rw [List.nil_append, List.cons.injEq] at hmiddle
      rw [List.append_nil] at hbefore
      rw [hbefore]
      exact hlast raw hmiddle.1
    | cons first rest => simp at hmiddle
  · cases middle with
    | nil =>
      rw [List.nil_append, List.cons.injEq] at hmiddle
      rw [List.append_nil] at houtcomes
      rw [← houtcomes]
      exact hlast raw hmiddle.1.symm
    | cons first rest =>
      rw [List.cons_append, List.cons.injEq] at hmiddle
      obtain ⟨rfl, hafter⟩ := hmiddle
      exact h before raw rest houtcomes

/-! ## Filling a buffer -/

section Fill

variable {configuration : InputConfiguration} {data : List α} {frameOffset : Nat} {filled : Buffer}
  {clippedSamples : Nat}

omit [NormalizeSample α] in
theorem length_selectedFrames (configuration : InputConfiguration) (data : List α) :
    (selectedFrames configuration data).length = data.length / configuration.channels := List.length_ofFn

omit [NormalizeSample α] in
theorem get_selectedFrames {frame : Nat} (h : frame < (selectedFrames configuration data).length) :
    data[frame * configuration.channels + configuration.selectedChannel]? =
      some (selectedFrames configuration data)[frame] := by
  rw [length_selectedFrames] at h
  simp only [selectedFrames, List.getElem_ofFn, List.get_eq_getElem]
  exact List.getElem?_eq_getElem (selectedIndex_lt configuration h)

theorem take_set_succ {samples : List Int16} {index : Nat} (h : index < samples.length) (sample : Int16) :
    (samples.set index sample).take (index + 1) = samples.take index ++ [sample] := by
  rw [List.take_add_one, List.take_set_of_le (Nat.le_refl _), List.getElem?_set_self h]
  rfl

/-- A filled buffer holds the normalized samples of the selected channel. -/
theorem fill_samples {outputIndex remaining clipped : Nat} {samples : Buffer}
    (h : fill configuration data frameOffset outputIndex remaining samples clipped = .ok (filled, clippedSamples))
    (hframes : frameOffset + outputIndex + remaining ≤ data.length / configuration.channels)
    (hsize : outputIndex + remaining ≤ maxCaptureBatchFrames) :
    ∃ values, filled.samples.take (outputIndex + remaining) = samples.samples.take outputIndex ++ values ∧
      values.map some =
        (((selectedFrames configuration data).drop (frameOffset + outputIndex)).take remaining).map normalizedSample := by
  induction remaining generalizing outputIndex samples clipped with
  | zero =>
    simp only [fill, Except.ok.injEq, Prod.mk.injEq] at h
    obtain ⟨rfl, rfl⟩ := h
    exact ⟨[], by simp, by simp⟩
  | succ remaining ih =>
    simp only [fill] at h
    split at h
    · cases h
    · rename_i sample isClipped hsample
      obtain ⟨values, htake, hvalues⟩ := ih h (by omega) (by omega)
      have hframe : frameOffset + outputIndex < data.length / configuration.channels := by omega
      have hselected : frameOffset + outputIndex < (selectedFrames configuration data).length := by
        rw [length_selectedFrames]
        exact hframe
      refine ⟨sample :: values, ?_, ?_⟩
      · have hset : (samples.set outputIndex sample).samples.take (outputIndex + 1) =
            samples.samples.take outputIndex ++ [sample] := by
          refine take_set_succ ?_ sample
          rw [samples.size]
          omega
        rw [show outputIndex + (remaining + 1) = outputIndex + 1 + remaining by omega, htake, hset, List.append_assoc,
          List.singleton_append]
      · rw [get_selectedFrames hselected, Option.bind_some] at hsample
        rw [List.drop_eq_getElem_cons hselected, List.take_succ_cons, List.map_cons, List.map_cons, normalizedSample,
          hsample, Option.map_some, hvalues, Nat.add_assoc]

end Fill

/-! ## What the parties promise while the stream runs -/

section

variable {stream : CaptureStream} {role : Role} {ledger : Ledger α}

/-- The deliveries are the popped batches, in their order. -/
def Handed (stream : CaptureStream) (popped : List RawBatch) (delivered : List CaptureBatch) : Prop :=
  List.Forall₂ (fun raw batch => raw.toBatch stream = .ok batch) popped delivered

/-- The result of a worker's call is the delivery of the last popped batch. -/
def HandsOver (stream : CaptureStream) (ledger : Ledger α) : (role : Role) → role.Result → Prop
  | .worker, .batch (.ok (some batch)) =>
    ∃ before raw, ledger.popped = before ++ [raw] ∧ raw.toBatch stream = .ok batch ∧ Handed stream before ledger.delivered
  | .worker, .batch (.error _) => False
  | .worker, _ => Handed stream ledger.popped ledger.delivered
  | _, _ => True

/-- Between two calls the callback has an outcome for every presented frame, and the worker has delivered what it has
popped. -/
def Settled (stream : CaptureStream) (ledger : Ledger α) : (role : Role) → role.Result → Prop
  | .callback, state => Tracks state ledger.outcomes ∧ ledger.presented.length = framesOf ledger.outcomes
  | .worker, _ => Handed stream ledger.popped ledger.delivered
  | .backend, _ => True

/-- What a party promises as long as nothing stops the stream. -/
@[reducible] def accounting (stream : CaptureStream) (role : Role) : Contract (ledgers (α := α) stream role) where
  requires ledger
    | .popReady => role = .worker
    | .pushReady raw => role = .callback ∧ RawAccounted ledger.presented ledger.outcomes raw
    | _ => True
  allows _ op answer :=
    match op, answer with
    | .loadStopped, answer => answer = false
    | .swapStopped, _ => False
    | .storeStopped, _ => False
    | .pushFree _, answer => answer = .ok ()
    | .pushReady _, answer => answer = .ok ()
    | .popReady, some raw => raw.WellFormed
    | _, _ => True
  ends ledger result := HandsOver stream ledger role result
  idle ledger last := Settled stream ledger role last
  pre _ _ := False
  post _ _ _ := True

/-- Nothing is promised after a stop. -/
theorem stop_vacuous {Q : Ledger α → Unit → Prop} (monotonicMillis : UInt64) (kind : InputFaultKind) :
    Keeps (accounting stream role) Q ledger (stopWithTerminalFault monotonicMillis kind) :=
  ⟨trivial, fun _ _ => ⟨trivial, fun _ _ => ⟨trivial, fun _ hstop => hstop.elim⟩⟩⟩

theorem stopThen_vacuous {β : Type} {Q : Ledger α → β → Prop} {next : Unit → Program capture β}
    (monotonicMillis : UInt64) (kind : InputFaultKind) :
    Keeps (accounting stream role) Q ledger (stopWithTerminalFault monotonicMillis kind >>= next) := by
  rw [keeps_bind]
  exact stop_vacuous _ _

/-! ## The callback accounts for its frames -/

/-- Fewer frames than 32 bits count advance a position by themselves. -/
theorem advanceFrames_eq {frameCount : Nat} (h : frameCount ≤ maxCaptureBatchFrames) :
    advanceFrames frameCount = frameCount := by
  have hle : frameCount ≤ 8192 := h
  rw [advanceFrames, tryU32_eq_some.mpr ⟨rfl, by omega⟩]
  rfl

theorem emitFault_accounts {Q : Ledger α → Unit → Prop} (monotonicMillis : UInt64) (kind : InputFaultKind)
    (h : ∀ answer, Q (ledger.did (.pushFault ⟨stream.processGeneration, some stream.streamGeneration, monotonicMillis,
      kind⟩) answer) ()) : Keeps (accounting stream role) Q ledger (emitFault stream monotonicMillis kind) :=
  ⟨trivial, fun answer _ => h answer⟩

theorem dropFrames_accounts {state : CallbackState} (h : Tracks state ledger.outcomes) {frameCount : Nat}
    (hle : frameCount ≤ maxCaptureBatchFrames) (monotonicMillis : UInt64) :
    Keeps (accounting stream role)
      (fun later next => Tracks next later.outcomes ∧ later.presented = ledger.presented ∧
        framesOf later.outcomes = framesOf ledger.outcomes + frameCount) ledger
      (dropFrames stream state frameCount monotonicMillis) := by
  have hcount : frameCount ≤ 8192 := hle
  have hframes : (saturateU64 frameCount).toNat = frameCount := by
    have := saturateU64_of_fits (z := (frameCount : Int)) (by omega) (by omega)
    omega
  simp only [dropFrames, atomic, keeps_bind, keeps_act, keeps_done]
  refine ⟨trivial, fun _ _ => emitFault_accounts _ _ fun answer => ?_⟩
  split
  · rename_i position hposition
    rw [CapturePosition.checkedAdvance_ok, advanceFrames_eq hle] at hposition
    have hdropped : (saturateU64 (state.pendingDroppedFrames.toNat + (saturateU64 frameCount).toNat)).toNat =
        droppedSince ledger.outcomes + frameCount := by
      have hlost := droppedSince_le ledger.outcomes
      have hposition64 := position.frames.toNat_lt
      have hstate := h.position
      have hpending := h.pending
      have := saturateU64_of_fits (z := (state.pendingDroppedFrames.toNat + (saturateU64 frameCount).toNat : Int))
        (by omega) (by omega)
      omega
    rw [hframes] at hdropped
    simp only [keeps_pure, Ledger.did, hframes, framesOf_snoc, Outcome.frames, and_true]
    exact
      { position := by rw [framesOf_snoc, hposition, h.position, Outcome.frames]
        pending := by rw [droppedSince_dropped]; exact hdropped
        first := by rw [batches_append, batches_dropped, List.append_nil]; exact h.first }
  · exact stopThen_vacuous _ _

theorem Tracks.marked {state : CallbackState} {outcomes : List Outcome} (h : Tracks state outcomes) (raw : RawBatch)
    {position : CapturePosition} (hposition : position.frames.toNat = state.position.frames.toNat + raw.frameCount) :
    Tracks { state.marked with position } (outcomes ++ [.batch raw]) where
  position := by rw [framesOf_snoc, ← h.position]; exact hposition
  pending := by rw [droppedSince_batch]; rfl
  first := by
    rw [batches_append, batches_batch]
    simp [CallbackState.marked]

theorem reportClipping_accounts (clippedSamples : Nat) (monotonicMillis : UInt64) :
    Keeps (accounting stream role) (fun later _ => later = ledger) ledger
      (reportClipping stream clippedSamples monotonicMillis) := by
  unfold reportClipping
  split
  · exact ⟨trivial, fun _ _ => emitFault_accounts _ _ fun _ => rfl⟩
  · exact rfl

variable (ledger) in
theorem handOver_accounts {state : CallbackState} (h : Tracks state ledger.outcomes) {raw : RawBatch}
    (hraw : RawAccounted ledger.presented ledger.outcomes raw) (hle : raw.frameCount ≤ maxCaptureBatchFrames)
    (monotonicMillis : UInt64) :
    Keeps (accounting stream .callback)
      (fun later round => ∃ next, round = .next next ∧ Tracks next later.outcomes ∧
        later.presented = ledger.presented ∧ framesOf later.outcomes = framesOf ledger.outcomes + raw.frameCount) ledger
      (handOver stream state.marked raw monotonicMillis) := by
  simp only [handOver, pushReady, atomic, keeps_bind, keeps_act, keeps_done]
  refine ⟨⟨trivial, hraw⟩, ?_⟩
  rintro _ rfl
  rw [keeps_bind]
  refine (reportClipping_accounts _ _).imp ?_
  rintro later _ rfl
  split
  · rename_i position hposition
    rw [CapturePosition.checkedAdvance_ok, advanceFrames_eq hle] at hposition
    exact ⟨_, rfl, h.marked raw hposition, rfl, framesOf_snoc _ _⟩
  · exact stopThen_vacuous _ _

theorem giveBackAndStop_vacuous {Q : Ledger α → Round → Prop} (state : CallbackState) (samples : Buffer)
    (monotonicMillis : UInt64) :
    Keeps (accounting stream role) Q ledger (giveBackAndStop state samples monotonicMillis) :=
  ⟨trivial, fun _ _ => stopThen_vacuous _ _⟩

theorem processRound_accounts {data : List α} {timing : CallbackTiming} {frameOffset frameCount : Nat}
    {state : CallbackState} {earlier : List α} (h : Tracks state ledger.outcomes)
    (hpresented : ledger.presented = earlier ++ selectedFrames stream.configuration data)
    (hoffset : framesOf ledger.outcomes = earlier.length + frameOffset)
    (hframes : frameOffset + frameCount ≤ data.length / stream.configuration.channels)
    (hle : frameCount ≤ maxCaptureBatchFrames) :
    Keeps (accounting stream .callback)
      (fun later round => ∃ next, round = .next next ∧ Tracks next later.outcomes ∧
        later.presented = ledger.presented ∧ framesOf later.outcomes = framesOf ledger.outcomes + frameCount) ledger
      (processRound stream data timing frameOffset frameCount state) := by
  simp only [processRound, popFree, atomic, keeps_bind, keeps_act, keeps_done]
  refine ⟨trivial, fun answer _ => ?_⟩
  cases answer with
  | none =>
    rw [keeps_bind]
    exact (dropFrames_accounts h hle _).imp fun later next hlater => ⟨next, rfl, hlater⟩
  | some buffer =>
    dsimp only
    split
    · exact giveBackAndStop_vacuous _ _ _
    · rename_i samples clippedSamples hfill
      split
      · exact giveBackAndStop_vacuous _ _ _
      · rename_i firstFrame hfirst
        split
        · exact giveBackAndStop_vacuous _ _ _
        · refine handOver_accounts (ledger.did .popFree (some buffer)) h ?_ hle _
          obtain ⟨values, htake, hvalues⟩ := fill_samples hfill (by omega) (by omega)
          rw [Nat.zero_add, List.take_zero, List.nil_append] at htake
          refine ⟨hle, ?_, ?_, state, h, firstFrameEvidence_position hfirst, rfl⟩
          · show framesOf ledger.outcomes + frameCount ≤ ledger.presented.length
            rw [hpresented, List.length_append, length_selectedFrames]
            omega
          · show (samples.samples.take frameCount).map some =
              ((ledger.presented.drop (framesOf ledger.outcomes)).take frameCount).map normalizedSample
            rw [htake, hvalues, hpresented, hoffset, Nat.add_zero, List.drop_length_add_append]

theorem processFrames_accounts {data : List α} {timing : CallbackTiming} {rounds frameOffset : Nat}
    {state : CallbackState} {earlier : List α} (h : Tracks state ledger.outcomes)
    (hpresented : ledger.presented = earlier ++ selectedFrames stream.configuration data)
    (hoffset : framesOf ledger.outcomes = earlier.length + frameOffset)
    (hle : frameOffset ≤ data.length / stream.configuration.channels)
    (hrounds : data.length / stream.configuration.channels ≤ frameOffset + rounds) :
    Keeps (accounting stream .callback)
      (fun later next => Tracks next later.outcomes ∧ later.presented.length = framesOf later.outcomes) ledger
      (processFrames stream data timing (data.length / stream.configuration.channels) rounds frameOffset state) := by
  have hdone : ∀ {g : Ledger α}, g.presented = ledger.presented →
      framesOf g.outcomes = earlier.length + data.length / stream.configuration.channels →
      g.presented.length = framesOf g.outcomes := by
    intro g hg hframes
    rw [hg, hpresented, List.length_append, length_selectedFrames, hframes]
  induction rounds generalizing ledger frameOffset state with
  | zero => exact ⟨h, hdone rfl (by rw [hoffset]; omega)⟩
  | succ rounds ih =>
    simp only [processFrames]
    split
    · rename_i hlt
      have hcount := Nat.min_le_left (data.length / stream.configuration.channels - frameOffset) maxCaptureBatchFrames
      have hpos : 0 < min (data.length / stream.configuration.channels - frameOffset) maxCaptureBatchFrames :=
        Nat.lt_min.mpr ⟨by omega, by decide⟩
      rw [keeps_bind]
      refine (processRound_accounts h hpresented hoffset (by omega) (Nat.min_le_right _ _)).imp ?_
      rintro later _ ⟨next, rfl, htracks, hsame, hframes⟩
      refine ih htracks (hsame.trans hpresented) (by rw [hframes, hoffset, Nat.add_assoc]) (by omega) (by omega) ?_
      intro g hg hframes
      exact hdone (hg.trans hsame) hframes
    · exact ⟨h, hdone rfl (by rw [hoffset]; omega)⟩

theorem process_accounts {state : CallbackState} {data : List α} {timing : CallbackTiming} {earlier : List α}
    (h : Tracks state ledger.outcomes)
    (hpresented : ledger.presented = earlier ++ selectedFrames stream.configuration data)
    (hoffset : framesOf ledger.outcomes = earlier.length) :
    Keeps (accounting stream .callback)
      (fun later next => Tracks next later.outcomes ∧ later.presented.length = framesOf later.outcomes) ledger
      (process stream state data timing) := by
  simp only [process, loadStopped, atomic, keeps_bind, keeps_act, keeps_done]
  refine ⟨trivial, ?_⟩
  rintro _ rfl
  simp only [Bool.false_eq_true, if_false, keeps_ite]
  refine ⟨fun _ => stopThen_vacuous _ _, fun _ => ?_⟩
  rw [keeps_bind]
  have hdelay : Keeps (accounting stream .callback) (fun later _ => later = ledger) ledger (reportDelay stream timing) := by
    refine ⟨trivial, fun _ _ => ?_⟩
    show Keeps _ _ _ (if _ then _ else _)
    split
    · exact emitFault_accounts _ _ fun _ => rfl
    · exact rfl
  refine hdelay.imp ?_
  rintro later _ rfl
  exact processFrames_accounts h hpresented hoffset (Nat.zero_le _) (by omega)

/-! ## The worker delivers what it pops -/

theorem nextBatch_accounts (h : Handed stream ledger.popped ledger.delivered) :
    Keeps (accounting stream .worker) (fun later answer => HandsOver stream later .worker (.batch answer)) ledger
      (nextBatch stream) := by
  simp only [nextBatch, loadStopped, popReady, pushFree, atomic, keeps_bind, keeps_act, keeps_done]
  refine ⟨trivial, ?_⟩
  rintro _ rfl
  simp only [Bool.false_eq_true, if_false, keeps_bind, keeps_act, keeps_done]
  refine ⟨trivial, fun answer hwellFormed => ?_⟩
  cases answer with
  | none => exact h
  | some raw =>
    simp only [keeps_bind, keeps_act, keeps_done]
    refine ⟨trivial, ?_⟩
    rintro _ rfl
    obtain ⟨batch, hbatch⟩ := hwellFormed.toBatch_ok stream
    simp only [hbatch, keeps_pure, Except.map]
    exact ⟨ledger.popped, raw, rfl, hbatch, h⟩

theorem quiet_accounts {β : Type} {program : Program capture β} (h : program.Only CaptureOp.Quiet) :
    Keeps (accounting stream role) (fun later _ => later.popped = ledger.popped ∧ later.delivered = ledger.delivered)
      ledger program := by
  refine h.keeps (K := fun later : Ledger α => later.popped = ledger.popped ∧ later.delivered = ledger.delivered) ?_ ?_
    ⟨rfl, rfl⟩
  · intro g op hop
    cases op <;> trivial
  · rintro g op answer hop ⟨hpopped, hdelivered⟩
    obtain ⟨-, hpopped', hdelivered'⟩ := did_quiet g hop answer
    exact ⟨hpopped'.trans hpopped, hdelivered'.trans hdelivered⟩

theorem worker_accounts (call : WorkerCall) (last : WorkerAnswer) (h : Handed stream ledger.popped ledger.delivered) :
    Keeps (accounting stream .worker) (fun later answer => HandsOver stream later .worker answer) ledger
      (workerEntry stream call last) := by
  have hquiet : ∀ {β : Type} {program : Program capture β} {f : β → WorkerAnswer}, program.Only CaptureOp.Quiet →
      (∀ value, ∀ later : Ledger α, Handed stream later.popped later.delivered →
        HandsOver stream later .worker (f value)) →
      Keeps (accounting stream .worker) (fun later answer => HandsOver stream later .worker answer)
        ledger (program >>= fun value => pure (f value)) := by
    intro β program f hprogram hf
    rw [keeps_bind]
    refine (quiet_accounts hprogram).imp ?_
    rintro later value ⟨hpopped, hdelivered⟩
    exact hf value later (by rw [hpopped, hdelivered]; exact h)
  have hcall : Keeps (accounting stream .worker) (fun later answer => HandsOver stream later .worker answer) ledger
      (workerCall stream call) := by
    cases call with
    | nextBatch =>
      rw [workerCall, keeps_bind]
      exact nextBatch_accounts h
    | nextFault => exact hquiet (nextFault_quiet stream) fun _ _ h => h
    | health => exact hquiet health_quiet fun _ _ h => h
    | isStopped => exact hquiet ⟨trivial, fun _ => trivial⟩ fun _ _ h => h
    | stop pause => exact ⟨trivial, fun _ hswap => hswap.elim⟩
    | drop => exact ⟨trivial, fun _ hstore => hstore.elim⟩
  cases last with
  | dropped => exact h
  | _ => exact hcall

end

/-! ## Every run until a stop -/

section

variable {stream : CaptureStream} {role : Role} {ledger : Ledger α}

/-- What holds in every world of every run until a stop. -/
structure Running (stream : CaptureStream) (g : (role : Role) → Ledger α) : Prop where
  accounted : AllAccounted (g .callback).presented (g .callback).outcomes
  handed : ∃ raws, raws <+: (g .worker).popped ∧ Handed stream raws (g .worker).delivered

theorem AllAccounted.did (h : AllAccounted ledger.presented ledger.outcomes) {op : CaptureOp}
    (hrequires : (accounting stream role).requires ledger op) (answer : op.Answer) :
    AllAccounted (ledger.did op answer).presented (ledger.did op answer).outcomes := by
  cases op with
  | popFree => cases answer <;> exact h
  | pushFree samples => cases answer <;> exact h
  | popReady => cases answer <;> exact h
  | pushReady raw =>
    cases answer with
    | error raw => exact h
    | ok =>
      refine h.snoc fun other hother => ?_
      cases hother
      exact hrequires.2
  | pushFault fault =>
    simp only [Ledger.did]
    split
    · exact h.snoc fun other hother => (by cases hother)
    · exact h
  | _ => exact h

omit [NormalizeSample α] in
theorem handed_did (h : ∃ raws, raws <+: ledger.popped ∧ Handed stream raws ledger.delivered) (op : CaptureOp)
    (answer : op.Answer) :
    ∃ raws, raws <+: (ledger.did op answer).popped ∧ Handed stream raws (ledger.did op answer).delivered := by
  cases op with
  | popFree => cases answer <;> exact h
  | pushFree samples => cases answer <;> exact h
  | popReady =>
    cases answer with
    | none => exact h
    | some raw =>
      obtain ⟨raws, hraws, hhanded⟩ := h
      exact ⟨raws, hraws.trans (List.prefix_append _ _), hhanded⟩
  | pushReady raw => cases answer <;> exact h
  | pushFault fault =>
    simp only [Ledger.did]
    split <;> exact h
  | _ => exact h

omit [NormalizeSample α] in
/-- At the end of a worker's call all that it popped is delivered. -/
theorem HandsOver.returned {answer : WorkerAnswer} (h : HandsOver stream ledger .worker answer) :
    Handed stream (ledger.returned .worker answer).popped (ledger.returned .worker answer).delivered := by
  cases answer with
  | batch answer =>
    cases answer with
    | error error => exact h.elim
    | ok batch =>
      cases batch with
      | none => exact h
      | some batch =>
        obtain ⟨before, raw, hpopped, hbatch, hhanded⟩ := h
        show Handed stream ledger.popped (ledger.delivered ++ [batch])
        rw [hpopped]
        exact List.rel_append hhanded (.cons hbatch .nil)
  | _ => exact h

variable {Q : Type → Type} [ArrayQueue Q]

/-- An operation of a stream that is still running is answered as the accounting relies on. -/
theorem accounting_allows {s : SharedCapture Q} {op : CaptureOp} (hrunning : (op.exec s).2.stopped = false)
    (h : (conservation stream role).allows ledger op (op.exec s).1) :
    (accounting stream role).allows ledger op (op.exec s).1 := by
  cases op with
  | loadStopped => exact hrunning
  | swapStopped => cases hrunning
  | storeStopped => cases hrunning
  | pushFree samples => exact h
  | pushReady raw => exact h
  | popReady =>
    cases hanswer : (CaptureOp.exec .popReady s).1 with
    | none => trivial
    | some raw =>
      rw [hanswer] at h
      exact h
  | _ => trivial

/-- The calls and the operations of a stream uphold the accounting until a stop. -/
theorem upholds_running [LawfulArrayQueue Q] {queueBatches : Nat} {shared : SharedCapture Q}
    (hnew : SharedCapture.new Q queueBatches = .ok shared) :
    Upholds (accounting stream) (fun _ => (Ledger.empty : Ledger α)) (fun s => s.stopped = false)
      (fun _ g => Running stream g) (opened stream α shared) where
  body role proc g h := h.elim
  entry role call last ledger h := by
    cases role with
    | callback =>
      have hcall : Keeps (accounting stream .callback)
          (fun later next => Tracks next later.outcomes ∧ later.presented.length = framesOf later.outcomes)
          ((ledgers stream .callback).begun ledger call) (process stream last call.data call.timing) :=
        process_accounts h.1 rfl h.2.symm
      exact hcall.imp fun later next hlater => ⟨trivial, hlater⟩
    | worker => exact (worker_accounts call last h).imp fun later answer hlater => ⟨hlater, hlater.returned⟩
    | backend => exact stop_vacuous _ _
  begun s g role call last h hidle := by
    cases role with
    | callback => exact ⟨h.accounted.later _, h.handed⟩
    | worker => exact ⟨h.accounted, h.handed⟩
    | backend => exact ⟨h.accounted, h.handed⟩
  returned s g role result h hends := by
    cases role with
    | callback => exact ⟨h.accounted, h.handed⟩
    | worker => exact ⟨h.accounted, _, List.prefix_refl _, hends.returned⟩
    | backend => exact ⟨h.accounted, h.handed⟩
  did w role op next hreach hactivity hP h hrequires := by
    obtain ⟨hkept, hmeet⟩ := kept_reach hnew hreach
    have hpromised := (hmeet role).2
    rw [hactivity] at hpromised
    refine ⟨accounting_allows hP (hkept.1.did hpromised.1).1, ?_, ?_⟩
    · by_cases hrole : role = .callback
      · subst hrole
        rw [Function.update_self]
        exact h.accounted.did hrequires _
      · rw [Function.update_of_ne (Ne.symm hrole)]
        exact h.accounted
    · by_cases hrole : role = .worker
      · subst hrole
        rw [Function.update_self]
        exact handed_did h.handed op _
      · rw [Function.update_of_ne (Ne.symm hrole)]
        exact h.handed

end

/-! ## The delivered batches -/

/-- The mark of the callback's state says what was dropped since the last batch. -/
theorem Tracks.mark {state : CallbackState} {outcomes : List Outcome} (h : Tracks state outcomes) :
    ((∃ mark, state.discontinuity = some mark ∧ mark.kind = .overflow) ↔ 0 < droppedSince outcomes) ∧
      (∀ mark, state.discontinuity = some mark → mark.kind = .overflow →
        mark.droppedFrames.toNat = droppedSince outcomes) ∧
      ∀ mark, state.discontinuity = some mark → mark.kind = .streamRestart → batches outcomes = [] := by
  have hpending : state.pendingDroppedFrames > 0 ↔ 0 < droppedSince outcomes := by
    rw [← h.pending]
    exact UInt64.lt_iff_toNat_lt
  unfold CallbackState.discontinuity
  by_cases hdropped : state.pendingDroppedFrames > 0
  · rw [if_pos hdropped]
    refine ⟨⟨fun _ => hpending.mp hdropped, fun _ => ⟨_, rfl, rfl⟩⟩, ?_, ?_⟩
    · rintro _ ⟨⟩ -
      exact h.pending
    · rintro _ ⟨⟩ hkind
      cases hkind
  · rw [if_neg hdropped]
    have hnone : ¬0 < droppedSince outcomes := fun hlost => hdropped (hpending.mpr hlost)
    split
    · rename_i hfirst
      refine ⟨⟨?_, fun hlost => (hnone hlost).elim⟩, ?_, fun _ _ _ => h.first.mp hfirst⟩
      · rintro ⟨_, ⟨⟩, hkind⟩
        cases hkind
      · rintro _ ⟨⟩ hkind
        cases hkind
    · refine ⟨⟨?_, fun hlost => (hnone hlost).elim⟩, ?_, ?_⟩
      · rintro ⟨_, hmark, -⟩
        cases hmark
      · rintro _ ⟨⟩
      · rintro _ ⟨⟩

theorem RawBatch.toBatch_eq {stream : CaptureStream} {raw : RawBatch} {batch : CaptureBatch}
    (h : raw.toBatch stream = .ok batch) :
    batch.processGeneration = stream.processGeneration ∧ batch.streamGeneration = stream.streamGeneration ∧
      batch.firstFrame = raw.firstFrame ∧ batch.discontinuity = raw.discontinuity ∧
      batch.samples = raw.samples.samples.take raw.frameCount := by
  unfold RawBatch.toBatch at h
  rw [exceptMapError_ok] at h
  unfold CaptureBatch.new at h
  split at h
  · cases h
  split at h
  · cases h
  split at h
  · cases h
  split at h
  · cases h
  cases h
  exact ⟨rfl, rfl, rfl, rfl, rfl⟩

theorem RawAccounted.length {presented : List α} {before : List Outcome} {raw : RawBatch}
    (h : RawAccounted presented before raw) : (raw.samples.samples.take raw.frameCount).length = raw.frameCount := by
  rw [List.length_take, raw.samples.size, Nat.min_eq_left h.size]

/-- A delivered batch is of the frames of its filled buffer. -/
theorem RawAccounted.batch {stream : CaptureStream} {presented : List α} {before : List Outcome} {raw : RawBatch}
    {batch : CaptureBatch} (h : RawAccounted presented before raw) (hbatch : raw.toBatch stream = .ok batch) :
    Accounted presented before batch := by
  obtain ⟨-, -, hfirst, hdiscontinuity, hsamples⟩ := RawBatch.toBatch_eq hbatch
  obtain ⟨state, htracks, hposition, hmark⟩ := h.mark
  obtain ⟨hoverflow, hdropped, hrestart⟩ := htracks.mark
  rw [← hmark, ← hdiscontinuity] at hoverflow hdropped hrestart
  refine ⟨?_, ?_, hoverflow, hdropped, hrestart⟩
  · rw [hfirst, hposition]
    exact htracks.position
  · rw [hsamples, h.length]
    exact h.samples

/-- The sequence of the batches of some outcomes is at the end of the last one. -/
def At (stream : CaptureStream) (sequence : Option CaptureSequence) (before : List Outcome) : Prop :=
  match sequence with
  | none => True
  | some sequence =>
    sequence.processGeneration = stream.processGeneration ∧ sequence.streamGeneration = stream.streamGeneration ∧
      sequence.nextPosition.frames.toNat + droppedSince before = framesOf before

theorem endPosition_at {stream : CaptureStream} {presented : List α} {before : List Outcome} {raw : RawBatch}
    {batch : CaptureBatch} {position : CapturePosition} (hraw : RawAccounted presented before raw)
    (hbatch : raw.toBatch stream = .ok batch) (h : batch.endPosition = .ok position) :
    position.frames.toNat + droppedSince (before ++ [.batch raw]) = framesOf (before ++ [.batch raw]) := by
  obtain ⟨-, -, -, -, hsamples⟩ := RawBatch.toBatch_eq hbatch
  rw [CaptureBatch.endPosition, CapturePosition.checkedAdvance_ok, CaptureBatch.frameCount_eq, hsamples, hraw.length,
    (hraw.batch hbatch).position] at h
  rw [droppedSince_batch, framesOf_snoc, h]
  rfl

/-- The next batch regresses no position and leaves no unmarked gap. -/
theorem next_at {stream : CaptureStream} {sequence : Option CaptureSequence} {presented : List α}
    {before : List Outcome} {raw : RawBatch} {batch : CaptureBatch} (h : At stream sequence before)
    (hraw : RawAccounted presented before raw) (hbatch : raw.toBatch stream = .ok batch) :
    (∀ next, CaptureSequence.next sequence batch = .ok next → At stream next (before ++ [.batch raw])) ∧
      ∀ error, CaptureSequence.next sequence batch = .error error → error ≠ .positionRegressed ∧ error ≠ .unmarkedGap := by
  obtain ⟨hprocess, hstream, -, -, -⟩ := RawBatch.toBatch_eq hbatch
  have haccounted := hraw.batch hbatch
  cases sequence with
  | none =>
    simp only [CaptureSequence.next, CaptureSequence.start]
    cases hend : batch.endPosition with
    | error error =>
      refine ⟨fun next hnext => (by cases hnext), ?_⟩
      rintro _ ⟨⟩
      decide
    | ok position =>
      refine ⟨?_, fun error herror => (by cases herror)⟩
      rintro _ ⟨⟩
      exact ⟨hprocess, hstream, endPosition_at hraw hbatch hend⟩
  | some sequence =>
    obtain ⟨hprocess', hstream', hnext⟩ := h
    have hposition := haccounted.position
    have hgeneration : ¬(batch.processGeneration ≠ sequence.processGeneration ∨
        batch.streamGeneration ≠ sequence.streamGeneration) := by
      rw [hprocess, hprocess', hstream, hstream']
      simp
    have hregressed : ¬batch.firstFrame.position.frames < sequence.nextPosition.frames := by
      rw [UInt64.lt_iff_toNat_lt]
      omega
    have hgap : ¬(batch.firstFrame.position.frames > sequence.nextPosition.frames ∧ batch.discontinuity.isNone = true) := by
      rintro ⟨hgreater, hnone⟩
      have hlost : 0 < droppedSince before := by
        have := UInt64.lt_iff_toNat_lt.mp hgreater
        omega
      obtain ⟨mark, hmark, -⟩ := haccounted.overflow.mpr hlost
      rw [hmark] at hnone
      cases hnone
    simp only [CaptureSequence.next, CaptureSequence.observe, if_neg hgeneration, if_neg hregressed, if_neg hgap]
    split
    · refine ⟨fun next hnext => (by cases hnext), ?_⟩
      rintro _ ⟨⟩
      decide
    · cases hend : batch.endPosition with
      | error error =>
        refine ⟨fun next hnext => (by cases hnext), ?_⟩
        rintro _ ⟨⟩
        decide
      | ok position =>
        refine ⟨?_, fun error herror => (by cases herror)⟩
        rintro _ ⟨⟩
        exact ⟨hprocess', hstream', endPosition_at hraw hbatch hend⟩

/-- The batches of the outcomes from some point on, checked as one sequence. -/
theorem foldlM_at {stream : CaptureStream} {presented : List α} {before rest : List Outcome}
    (hall : AllAccounted presented (before ++ rest)) {sequence : Option CaptureSequence} (h : At stream sequence before)
    {raws : List RawBatch} (hraws : raws <+: batches rest) {delivered : List CaptureBatch}
    (hhanded : Handed stream raws delivered) {error : CaptureSequenceError}
    (herror : delivered.foldlM CaptureSequence.next sequence = .error error) :
    error ≠ .positionRegressed ∧ error ≠ .unmarkedGap := by
  induction rest generalizing before sequence raws delivered with
  | nil =>
    obtain rfl := List.prefix_nil.mp hraws
    cases hhanded
    cases herror
  | cons outcome rest ih =>
    have hall' : AllAccounted presented ((before ++ [outcome]) ++ rest) := by
      rw [List.append_assoc]
      exact hall
    cases outcome with
    | dropped frames =>
      refine ih hall' ?_ hraws hhanded herror
      cases sequence with
      | none => trivial
      | some sequence =>
        obtain ⟨hprocess, hstream, hnext⟩ := h
        refine ⟨hprocess, hstream, ?_⟩
        rw [droppedSince_dropped, framesOf_snoc, ← hnext, Outcome.frames, Nat.add_assoc]
    | batch raw =>
      cases hhanded with
      | nil => cases herror
      | cons hbatch hhanded =>
        rename_i first batch others batchesLeft
        obtain ⟨rfl, hothers⟩ := List.cons_prefix_cons.mp hraws
        obtain ⟨hok, hfailed⟩ := next_at h (hall before first rest rfl) hbatch
        rw [List.foldlM_cons] at herror
        cases hnext : CaptureSequence.next sequence batch with
        | error failure =>
          rw [hnext] at herror
          cases herror
          exact hfailed _ hnext
        | ok next =>
          rw [hnext] at herror
          exact ih hall' (hok next hnext) hothers hhanded herror

/-- The outcome of one of the batches. -/
theorem batches_split {outcomes : List Outcome} {earlier later : List RawBatch} {raw : RawBatch}
    (h : batches outcomes = earlier ++ raw :: later) :
    ∃ before rest, outcomes = before ++ .batch raw :: rest ∧ batches before = earlier := by
  induction outcomes generalizing earlier with
  | nil => simp [batches] at h
  | cons outcome outcomes ih =>
    cases outcome with
    | dropped frames =>
      obtain ⟨before, rest, rfl, hbefore⟩ := ih h
      exact ⟨.dropped frames :: before, rest, rfl, hbefore⟩
    | batch first =>
      cases earlier with
      | nil =>
        obtain ⟨rfl, -⟩ := List.cons.inj h
        exact ⟨[], outcomes, rfl, rfl⟩
      | cons head earlier =>
        obtain ⟨rfl, hrest⟩ := List.cons.inj h
        obtain ⟨before, rest, rfl, hbefore⟩ := ih hrest
        exact ⟨.batch first :: before, rest, rfl, congrArg (first :: ·) hbefore⟩

/-- One of the deliveries, with those before it. -/
theorem Handed.split {stream : CaptureStream} {raws : List RawBatch} {earlier later : List CaptureBatch}
    {batch : CaptureBatch} (h : Handed stream raws (earlier ++ batch :: later)) :
    ∃ before raw after, raws = before ++ raw :: after ∧ Handed stream before earlier ∧ raw.toBatch stream = .ok batch := by
  induction earlier generalizing raws with
  | nil =>
    cases h with
    | cons hbatch hrest => exact ⟨[], _, _, rfl, .nil, hbatch⟩
  | cons first earlier ih =>
    cases h with
    | cons hfirst hrest =>
      obtain ⟨before, raw, after, rfl, hbefore, hbatch⟩ := ih hrest
      exact ⟨_ :: before, raw, after, rfl, .cons hfirst hbefore, hbatch⟩

variable {Q : Type → Type} [ArrayQueue Q]

theorem running_opened (stream : CaptureStream) (shared : SharedCapture Q) :
    Running stream (partyLedgers (opened stream α shared)) ∧
      AllMeet (accounting stream) (fun _ => (Ledger.empty : Ledger α)) (opened stream α shared) := by
  refine ⟨⟨fun before raw after hsplit => ?_, [], List.prefix_refl _, .nil⟩, fun role => ?_⟩
  · exact absurd hsplit (List.append_ne_nil_of_right_ne_nil _ (List.cons_ne_nil _ _)).symm
  · cases role with
    | callback => exact ⟨trivial, ⟨rfl, rfl, iff_of_true rfl rfl⟩, rfl⟩
    | worker => exact ⟨trivial, .nil⟩
    | backend => exact ⟨trivial, trivial⟩

/-- **Frame accounting**: as long as a stream has not stopped, every presented frame has one outcome. A delivered batch
is at the position of the frames presented before it, holds the normalized samples of just its frames, and is marked as
an overflow exactly when frames were dropped since the batch delivered before it, by their number; only the first is
marked as a restart. The batches are never rejected as a regression of positions or for an unmarked gap. -/
theorem frames_accounted [LawfulArrayQueue Q] (stream : CaptureStream) (queueBatches : Nat) (shared : SharedCapture Q)
    (hnew : SharedCapture.new Q queueBatches = .ok shared) (moves : List (Move (captureSystem stream α Q)))
    (hrunning : ((opened stream α shared).run moves).shared.stopped = false) :
    let w := (opened stream α shared).run moves
    let callback := partyLedgers w .callback
    let delivered := (partyLedgers w .worker).delivered
    (∀ last, (w.party .callback).activity = .idle last → callback.presented.length = framesOf callback.outcomes) ∧
      (∀ earlier batch later, delivered = earlier ++ batch :: later →
        ∃ before raw rest, callback.outcomes = before ++ .batch raw :: rest ∧ raw.toBatch stream = .ok batch ∧
          Handed stream (batches before) earlier ∧ Accounted callback.presented before batch) ∧
      ∀ error, observeBatches delivered = .error error → error ≠ .positionRegressed ∧ error ≠ .unmarkedGap := by
  intro w callback delivered
  have hback : ∀ (op : CaptureOp) (s : SharedCapture Q), (op.exec s).2.stopped = false → s.stopped = false := by
    intro op s h
    cases op <;> first | exact h | cases h
  have hreach := World.reach_run (P := fun s : SharedCapture Q => s.stopped = false) hback moves hrunning
  obtain ⟨hrun, hmeet⟩ := (upholds_running hnew).invariant (running_opened stream shared).1
    (running_opened stream shared).2 hreach
  obtain ⟨hkept, -⟩ := kept_reach hnew hreach
  obtain ⟨raws, hraws, hhanded⟩ := hrun.handed
  change Handed stream raws delivered at hhanded
  have hprefix : raws <+: batches callback.outcomes := hraws.trans ⟨_, hkept.1.order⟩
  refine ⟨?_, ?_, ?_⟩
  · intro last hidle
    have hcallback := (hmeet .callback).2
    rw [hidle] at hcallback
    exact hcallback.2
  · intro earlier batch later hdelivered
    rw [hdelivered] at hhanded
    obtain ⟨before, raw, after, hsplit, hearlier, hbatch⟩ := hhanded.split
    obtain ⟨more, hmore⟩ := hprefix
    rw [hsplit, List.append_assoc, List.cons_append] at hmore
    obtain ⟨outcomes, rest, houtcomes, hbefore⟩ := batches_split hmore.symm
    exact ⟨outcomes, raw, rest, houtcomes, hbatch, hbefore ▸ hearlier,
      (hrun.accounted outcomes raw rest houtcomes).batch hbatch⟩
  · intro error herror
    have hstart : At stream none [] := trivial
    exact foldlM_at hrun.accounted hstart hprefix hhanded herror

/-- A callback with some samples, and its steps. -/
def presents (data : List Int16) (steps : Nat) : List (Move (captureSystem monoStream Int16 ListQueue)) :=
  .enter .callback ⟨data, ⟨30000, 1000, 4⟩⟩ :: List.replicate steps (.advance .callback)

/-- The worker takes over a filled buffer. -/
def takesBatch : List (Move (captureSystem monoStream Int16 ListQueue)) :=
  .enter .worker .nextBatch :: List.replicate 4 (.advance .worker)

/-- Two callbacks fill the two buffers, a third finds none, and a fourth comes when both are free again. -/
def deliverMoves : List (Move (captureSystem monoStream Int16 ListQueue)) :=
  presents [1, 2] 5 ++ presents [3, 4] 5 ++ presents [5, 5, 5] 6 ++ takesBatch ++ takesBatch ++ presents [6] 5 ++ takesBatch

theorem frames_accounted_delivered :
    let w := (opened monoStream Int16 twoBuffers).run deliverMoves
    let callback := partyLedgers w .callback
    let delivered := (partyLedgers w .worker).delivered
    callback.presented.length = 8 ∧ delivered.map CaptureBatch.samples = [[1, 2], [3, 4], [6]] ∧
      (delivered.map fun batch => batch.discontinuity.map CaptureDiscontinuity.droppedFrames) =
        [some 0, none, some 3] ∧
      (∀ last, (w.party .callback).activity = .idle last → callback.presented.length = framesOf callback.outcomes) ∧
      (∀ earlier batch later, delivered = earlier ++ batch :: later →
        ∃ before raw rest, callback.outcomes = before ++ .batch raw :: rest ∧ raw.toBatch monoStream = .ok batch ∧
          Handed monoStream (batches before) earlier ∧ Accounted callback.presented before batch) ∧
      ∀ error, observeBatches delivered = .error error → error ≠ .positionRegressed ∧ error ≠ .unmarkedGap := by
  refine ⟨by decide +kernel, by decide +kernel, by decide +kernel, ?_⟩
  exact frames_accounted monoStream 2 twoBuffers new_two deliverMoves (by decide +kernel)

end Slotpilot.Audio
