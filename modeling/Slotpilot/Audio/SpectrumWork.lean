import Slotpilot.Audio.SpectrumSteps
import Slotpilot.Lib.Machine

/-!
# The work of a push

A run of pushes, resets and snapshots. Between the operations fewer samples than one FFT are pending, and they end at the
cursor (`Settled`); a push keeps this as long as its rows have representations (`NumbersLeft`), so it neither reaches the
work bound nor holds more samples than a run of chunks leaves (`spectrum_work_bounded`). A row without a representation
leaves its samples pending, and a later push fails at the work bound (`work_bound_reached`).
-/

set_option autoImplicit false

namespace Slotpilot.Audio

open Lib

/-- An operation of the producer or of its consumer. -/
inductive SpectrumOp
  | push (chunk : CanonicalSpectrumChunk)
  | reset (reason : SpectrumDiscontinuity)
  | takeSnapshot
  deriving DecidableEq

/-- What an operation returns. -/
inductive SpectrumAnswer
  | pushed (result : Except SpectrumModelError SpectrumPushResult)
  | reset
  | snapshot (snapshot : Option WaterfallSnapshot)

/-- The chunk of a push lies inside its slot. -/
def SpectrumOp.Legal : SpectrumOp → Prop
  | .push chunk => chunk.Legal
  | .reset _ => True
  | .takeSnapshot => True

instance : ∀ op : SpectrumOp, Decidable op.Legal
  | .push chunk => inferInstanceAs (Decidable chunk.Legal)
  | .reset _ => inferInstanceAs (Decidable True)
  | .takeSnapshot => inferInstanceAs (Decidable True)

namespace SpectrumModel

/-- One operation. -/
def step (self : SpectrumModel) : SpectrumOp → SpectrumAnswer × SpectrumModel
  | .push chunk => (.pushed (outcome (push chunk self)), finalState (push chunk self))
  | .reset reason => (.reset, self.reset reason)
  | .takeSnapshot => (.snapshot self.takeSnapshot.1, self.takeSnapshot.2)

variable {self : SpectrumModel} {chunk : CanonicalSpectrumChunk}

/-! ## After some rows -/

theorem iterate_pendingSamples (n : Nat) :
    ((fun model => model.advance chunk)^[n] self).pendingSamples =
      self.pendingSamples.drop (n * self.config.hopSamples) := by
  induction n generalizing self with
  | zero => simp
  | succ n ih =>
    rw [Function.iterate_succ_apply, ih, advance_pendingSamples, advance_config, List.drop_drop, Nat.succ_mul,
      Nat.add_comm]

theorem iterate_pendingStartOffset (n : Nat) :
    ((fun model => model.advance chunk)^[n] self).pendingStartOffset =
      self.pendingStartOffset + n * self.config.hopSamples := by
  induction n generalizing self with
  | zero => simp
  | succ n ih =>
    rw [Function.iterate_succ_apply, ih, advance_pendingStartOffset, advance_config, Nat.succ_mul]
    omega

@[simp] theorem iterate_config (n : Nat) : ((fun model => model.advance chunk)^[n] self).config = self.config := by
  induction n generalizing self with
  | zero => rfl
  | succ n ih => rw [Function.iterate_succ_apply, ih, advance_config]

@[simp] theorem iterate_fft (n : Nat) : ((fun model => model.advance chunk)^[n] self).fft = self.fft := by
  induction n generalizing self with
  | zero => rfl
  | succ n ih => rw [Function.iterate_succ_apply, ih, advance_fft]

theorem iterate_nextSequence {n : Nat} (h : self.nextSequence.toNat + n < 2 ^ 64) :
    ((fun model => model.advance chunk)^[n] self).nextSequence.toNat = self.nextSequence.toNat + n := by
  induction n generalizing self with
  | zero => rfl
  | succ n ih =>
    have hnext : (self.advance chunk).nextSequence.toNat = self.nextSequence.toNat + 1 := by
      rw [advance_nextSequence, UInt64.toNat_add, UInt64.toNat_one]
      omega
    rw [Function.iterate_succ_apply, ih (by omega), hnext]
    omega

/-- Rows inside a slot have representations when their times and sequence numbers do. -/
theorem rowsFit_of (hinside : self.pendingStartOffset + self.pendingSamples.length ≤ 2 ^ 31)
    (hsequence : self.nextSequence.toNat + self.rowsDue < 2 ^ 64)
    (hutc : ∀ i < self.rowsDue, rowMicros chunk.slot (self.pendingStartOffset + i * self.config.hopSamples) < 2 ^ 63) :
    self.RowsFit chunk := by
  intro i hi
  have hrow := SpectrumConfig.rowsIn_inside hi
  obtain ⟨-, hle⟩ := self.config.hop_bounds
  constructor
  · rw [iterate_nextSequence (by omega)]
    omega
  · rw [iterate_pendingStartOffset]
    exact hutc i hi
  · rw [iterate_pendingStartOffset, iterate_config]
    omega

/-! ## Between the operations -/

/-- Fewer samples than one FFT are pending, and they end where the last chunk did. -/
structure Settled (model : SpectrumModel) : Prop where
  bounded : model.Bounded
  few : model.pendingSamples.length < model.config.fftSize
  ended : model.pendingSamples ≠ [] → ∃ cursor, model.cursor = some cursor ∧
    cursor.nextSampleOffset = model.pendingStartOffset + model.pendingSamples.length

/-- A chunk that joins continues the cursor. -/
theorem joins_cursor (h : self.effect chunk = .joins) {cursor : ChunkCursor} (hcursor : self.cursor = some cursor) :
    cursor.processGeneration = chunk.processGeneration ∧ cursor.streamGeneration = chunk.streamGeneration ∧
      cursor.slot = chunk.slot ∧ cursor.nextSampleOffset = chunk.startSampleOffset := by
  unfold effect at h
  rw [hcursor] at h
  cases hmark : chunk.discontinuity with
  | some reason =>
    rw [hmark] at h
    cases h
  | none =>
    rw [hmark] at h
    dsimp only at h
    split at h
    · cases h
    split at h
    · cases h
    rename_i hprocess hstream
    split at h
    · rename_i hjoins
      exact ⟨not_not.mp hprocess, not_not.mp hstream, hjoins⟩
    split at h <;> cases h

theorem joins_unmarked (h : self.effect chunk = .joins) : chunk.discontinuity = none := by
  unfold effect at h
  cases hmark : chunk.discontinuity with
  | some reason =>
    rw [hmark] at h
    cases h
  | none => rfl

/-- What stays pending before a chunk is joined by it. -/
theorem joins_of_pending (h : (self.prepared chunk).pendingSamples ≠ []) :
    self.effect chunk = .joins ∧ self.prepared chunk = self := by
  unfold prepared at h ⊢
  cases heffect : self.effect chunk with
  | joins => exact ⟨rfl, rfl⟩
  | rolls => simp [heffect] at h
  | breaks reason => simp [heffect, reset] at h

/-- The samples of a chunk end what is pending, behind fewer samples than one FFT. -/
theorem settled_joined (h : self.Settled) (chunk : CanonicalSpectrumChunk) :
    (self.joined chunk).pendingStartOffset + (self.joined chunk).pendingSamples.length =
        chunk.startSampleOffset + chunk.samples.length ∧
      (self.joined chunk).pendingSamples.length < self.config.fftSize + chunk.samples.length := by
  have hpos := self.config.sound.fft
  by_cases hempty : (self.prepared chunk).pendingSamples = []
  · simp only [joined, hempty, if_true, List.nil_append, true_and]
    omega
  · obtain ⟨hjoins, hprepared⟩ := joins_of_pending hempty
    rw [hprepared] at hempty
    obtain ⟨cursor, hcursor, hend⟩ := h.ended hempty
    obtain ⟨-, -, -, hnext⟩ := joins_cursor hjoins hcursor
    have hfew := h.few
    simp only [joined, hprepared, if_neg hempty, List.length_append]
    omega

theorem settled_reset (reason : SpectrumDiscontinuity) : (self.reset reason).Settled where
  bounded := Nat.zero_le _
  few := by
    have hpos := self.config.sound.fft
    show 0 < self.config.fftSize
    omega
  ended h := absurd rfl h

theorem settled_takeSnapshot (h : self.Settled) : self.takeSnapshot.2.Settled := by
  unfold takeSnapshot
  split
  · exact ⟨h.bounded, h.few, h.ended⟩
  · exact h

@[simp] theorem joined_config : (self.joined chunk).config = self.config := prepared_config

@[simp] theorem pushed_config : (self.pushed chunk).config = self.config := by
  show ((self.joined chunk).drained chunk).config = _
  rw [drained, iterate_config, joined_config]

/-- What a push leaves is settled again. -/
theorem settled_pushed (h : self.Settled) (chunk : CanonicalSpectrumChunk) : (self.pushed chunk).Settled := by
  have hleft := SpectrumConfig.rowsIn_left self.config (self.joined chunk).pendingSamples.length
  obtain ⟨hend, -⟩ := settled_joined h chunk
  have hpending : (self.pushed chunk).pendingSamples =
      (self.joined chunk).pendingSamples.drop ((self.joined chunk).rowsDue * self.config.hopSamples) := by
    show ((self.joined chunk).drained chunk).pendingSamples = _
    rw [drained, iterate_pendingSamples, joined_config]
  have hstart : (self.pushed chunk).pendingStartOffset =
      (self.joined chunk).pendingStartOffset + (self.joined chunk).rowsDue * self.config.hopSamples := by
    show ((self.joined chunk).drained chunk).pendingStartOffset = _
    rw [drained, iterate_pendingStartOffset, joined_config]
  refine ⟨bounded_pushed h.bounded, ?_, fun hne => ⟨_, rfl, ?_⟩⟩
  · rw [hpending, List.length_drop, pushed_config, rowsDue, joined_config]
    exact hleft
  · rw [hpending, ne_eq, List.drop_eq_nil_iff] at hne
    rw [hstart, hpending, List.length_drop]
    show chunk.startSampleOffset + chunk.samples.length = _
    omega

/-- The times and sequence numbers of the rows of a push have representations. -/
structure NumbersLeft (model : SpectrumModel) (chunk : CanonicalSpectrumChunk) : Prop where
  sequence : model.nextSequence.toNat + (model.joined chunk).rowsDue < 2 ^ 64
  utc : ∀ i < (model.joined chunk).rowsDue,
    rowMicros chunk.slot ((model.joined chunk).pendingStartOffset + i * model.config.hopSamples) < 2 ^ 63

instance (model : SpectrumModel) (chunk : CanonicalSpectrumChunk) : Decidable (NumbersLeft model chunk) :=
  decidable_of_iff (model.nextSequence.toNat + (model.joined chunk).rowsDue < 2 ^ 64 ∧
    ∀ i < (model.joined chunk).rowsDue,
      rowMicros chunk.slot ((model.joined chunk).pendingStartOffset + i * model.config.hopSamples) < 2 ^ 63)
    ⟨fun h => ⟨h.1, h.2⟩, fun h => ⟨h.sequence, h.utc⟩⟩

@[simp] theorem prepared_nextSequence : (self.prepared chunk).nextSequence = self.nextSequence := by
  unfold prepared
  split <;> rfl

theorem rowsFit_joined (h : self.Settled) (hlegal : chunk.Legal) (hleft : self.NumbersLeft chunk) :
    (self.joined chunk).RowsFit chunk := by
  obtain ⟨hend, -⟩ := settled_joined h chunk
  have hsequence : (self.joined chunk).nextSequence = self.nextSequence := prepared_nextSequence
  unfold CanonicalSpectrumChunk.Legal ft8ReceiveWindowSamples at hlegal
  refine rowsFit_of (by omega) ?_ ?_
  · rw [hsequence]
    exact hleft.sequence
  · rw [joined_config]
    exact hleft.utc

/-- A push onto settled samples stays within the work bound. -/
theorem rowsDue_joined_le (h : self.Settled) (chunk : CanonicalSpectrumChunk) :
    (self.joined chunk).rowsDue ≤ maxSpectrumRowsPerPush := by
  obtain ⟨-, hlt⟩ := settled_joined h chunk
  have hle := chunk.samples_le
  unfold maxSpectrumChunkSamples at hle
  refine SpectrumConfig.rowsIn_le ?_
  rw [joined_config]
  omega

/-- A push whose rows have representations makes them, or is refused and changes nothing. -/
theorem push_settled (h : self.Settled) (hlegal : chunk.Legal) (hleft : ¬self.Refused chunk → self.NumbersLeft chunk) :
    (∃ result, push chunk self = .ok result (self.pushed chunk) ∧
      result.producedRows = (self.joined chunk).rowsDue ∧ ¬self.Refused chunk) ∨
    push chunk self = .error .arithmeticOverflow self ∧ self.Refused chunk := by
  have hends := push_ends hlegal h.bounded
  have hle := rowsDue_joined_le h chunk
  unfold Ends at hends
  cases hpush : push chunk self with
  | ok result next =>
    rw [hpush] at hends
    obtain ⟨hopen, -, -, rfl, hcount⟩ := hends
    exact .inl ⟨result, rfl, hcount, hopen⟩
  | error error next =>
    rw [hpush] at hends
    obtain ⟨hrefused, rfl, rfl⟩ | ⟨hopen, ⟨-, hunfit⟩ | ⟨-, hlt⟩⟩ := hends
    · exact .inr ⟨rfl, hrefused⟩
    · exact absurd (rowsFit_joined h hlegal (hleft hopen)) hunfit
    · omega

/-! ## Runs -/

/-- The condition of an operation: a push is refused before it changes anything, or its rows have representations. -/
def OpFits (self : SpectrumModel) : SpectrumOp → Prop
  | .push chunk => ¬self.Refused chunk → self.NumbersLeft chunk
  | .reset _ => True
  | .takeSnapshot => True

instance (self : SpectrumModel) : ∀ op : SpectrumOp, Decidable (self.OpFits op)
  | .push chunk => inferInstanceAs (Decidable (¬self.Refused chunk → self.NumbersLeft chunk))
  | .reset _ => inferInstanceAs (Decidable True)
  | .takeSnapshot => inferInstanceAs (Decidable True)

/-- The bounds of one operation: a push does not reach the work bound, makes at most 64 rows and holds at most one FFT
and one chunk of samples. -/
def OpBounded (self : SpectrumModel) : SpectrumOp → Prop
  | .push chunk =>
    (self.step (.push chunk)).1 ≠ .pushed (.error .cpuBoundExceeded) ∧
      (self.step (.push chunk)).2.nextSequence.toNat ≤ self.nextSequence.toNat + maxSpectrumRowsPerPush ∧
      (∀ result, (self.step (.push chunk)).1 = .pushed (.ok result) → result.producedRows ≤ maxSpectrumRowsPerPush) ∧
      (self.joined chunk).pendingSamples.length ≤ self.config.fftSize + maxSpectrumChunkSamples
  | .reset _ => True
  | .takeSnapshot => True

@[simp] theorem joined_nextSequence : (self.joined chunk).nextSequence = self.nextSequence := prepared_nextSequence

/-- One operation keeps the samples settled and within the bounds. -/
theorem step_settled {op : SpectrumOp} (h : self.Settled) (hlegal : op.Legal) (hfits : self.OpFits op) :
    self.OpBounded op ∧ (self.step op).2.Settled := by
  cases op with
  | push chunk =>
    have hle := rowsDue_joined_le h chunk
    obtain ⟨-, hlt⟩ := settled_joined h chunk
    have hchunk := chunk.samples_le
    obtain ⟨result, hpush, hcount, hopen⟩ | ⟨hpush, -⟩ := push_settled h hlegal hfits
    · have hsequence : (self.pushed chunk).nextSequence.toNat =
          self.nextSequence.toNat + (self.joined chunk).rowsDue := by
        show ((self.joined chunk).drained chunk).nextSequence.toNat = _
        rw [drained, iterate_nextSequence, joined_nextSequence]
        rw [joined_nextSequence]
        exact (hfits hopen).sequence
      simp only [OpBounded, step, hpush, outcome_ok, finalState_ok]
      refine ⟨⟨fun h => ?_, by omega, fun result' h => ?_, by omega⟩, settled_pushed h chunk⟩
      · cases h
      · cases h
        omega
    · simp only [OpBounded, step, hpush, outcome_error, finalState_error]
      refine ⟨⟨fun h => ?_, by omega, fun result' h => ?_, by omega⟩, h⟩
      · cases h
      · cases h
  | reset reason => exact ⟨trivial, settled_reset reason⟩
  | takeSnapshot => exact ⟨trivial, settled_takeSnapshot h⟩

/-- An operation that meets the condition keeps the configuration. -/
theorem step_config {op : SpectrumOp} (h : self.Settled) (hlegal : op.Legal) (hfits : self.OpFits op) :
    (self.step op).2.config = self.config := by
  cases op with
  | push chunk =>
    obtain ⟨result, hpush, -⟩ | ⟨hpush, -⟩ := push_settled h hlegal hfits
    · simp only [step, hpush, finalState_ok, pushed_config]
    · simp only [step, hpush, finalState_error]
  | reset reason => rfl
  | takeSnapshot =>
    show self.takeSnapshot.2.config = _
    unfold takeSnapshot
    split <;> rfl

variable {plan : Nat → FftPlan} {config : SpectrumConfig} {model : SpectrumModel}

theorem new_ok (hnew : SpectrumModel.new plan config = .ok model) :
    model = { config, fft := plan config.fftSize, pendingSamples := [], pendingStartOffset := 0, cursor := none,
              rows := [], pendingDiscontinuity := none, nextSequence := 0, lastPublicationUtcMicros := none,
              publicationPending := false, coalescedPublications := 0, evictedRows := 0 } := by
  unfold SpectrumModel.new at hnew
  dsimp only at hnew
  split at hnew
  · cases hnew
  · exact (Except.ok.inj hnew).symm

theorem settled_new (hnew : SpectrumModel.new plan config = .ok model) : model.Settled := by
  have hpos := config.sound.fft
  rw [new_ok hnew]
  refine ⟨Nat.zero_le _, ?_, fun hne => absurd rfl hne⟩
  show 0 < config.fftSize
  omega

/-- In a run whose rows have representations no push reaches the work bound, and no state holds more samples than one FFT
and one chunk. -/
theorem spectrum_work_bounded (hnew : SpectrumModel.new plan config = .ok model) (ops : List SpectrumOp)
    (hops : EveryStep step (fun model op => op.Legal ∧ model.OpFits op) model ops) :
    EveryStep step OpBounded model ops ∧
      (final step model ops).pendingSamples.length ≤ config.fftSize + maxSpectrumChunkSamples := by
  have hstep (self : SpectrumModel) (op : SpectrumOp) (h : self.Settled ∧ self.config = config)
      (hop : op.Legal ∧ self.OpFits op) :
      self.OpBounded op ∧ (self.step op).2.Settled ∧ (self.step op).2.config = config := by
    obtain ⟨hbounded, hsettled⟩ := step_settled h.1 hop.1 hop.2
    exact ⟨hbounded, hsettled, (step_config h.1 hop.1 hop.2).trans h.2⟩
  have hstart : model.Settled ∧ model.config = config := ⟨settled_new hnew, by rw [new_ok hnew]⟩
  obtain ⟨hsettled, hconfig⟩ := final_inv (fun self op h hop => (hstep self op h hop).2) hstart hops
  have hfew := hsettled.few
  rw [hconfig] at hfew
  exact ⟨everyStep_of_inv hstep hstart hops, by omega⟩

/-! ## A row without a representation -/

theorem produceRow_unfit (hsequence : self.nextSequence.toNat + 1 < 2 ^ 64)
    (hutc : 2 ^ 63 ≤ rowMicros chunk.slot self.pendingStartOffset) :
    Ends (produceRow chunk.processGeneration chunk.streamGeneration chunk.slot) self (fun _ _ => False)
      (fun error next => error = .arithmeticOverflow ∧ next = { self with nextSequence := self.nextSequence + 1 }) := by
  have hnext : tryU64 ((self.nextSequence.toNat : Int) + 1) = some (self.nextSequence + 1) := by
    rw [tryU64_eq_some, UInt64.toNat_add, UInt64.toNat_one]
    omega
  have hnone : rowStartUtcMicros chunk.slot self.pendingStartOffset = .error .arithmeticOverflow := by
    show okOr _ (tryI64 (rowMicros chunk.slot self.pendingStartOffset)) = _
    cases hfit : tryI64 (rowMicros chunk.slot self.pendingStartOffset) with
    | none => rfl
    | some utc =>
      have hlt := utc.toInt_lt
      rw [tryI64_eq_some] at hfit
      omega
  unfold produceRow
  rw [ends_bind, ends_get, ends_bind, bins_ok, ends_fromResult]
  refine ⟨fun bins hbins => ?_, fun error herror => nomatch herror⟩
  rw [ends_bind, ends_orThrow, hnext]
  refine ⟨fun next hsome => ?_, fun hnone => nomatch hnone⟩
  cases hsome
  rw [ends_bind, ends_modify, ends_bind, ends_fromResult, hnone]
  constructor
  · intro utc hutc
    cases hutc
  · intro error herror
    cases herror
    exact ⟨rfl, rfl⟩

/-- A push whose first row is too late for a representation fails and leaves its samples pending. -/
theorem push_unfit (hopen : ¬self.Refused chunk) (hdue : self.config.fftSize ≤ (self.joined chunk).pendingSamples.length)
    (hsequence : self.nextSequence.toNat + 1 < 2 ^ 64)
    (hutc : 2 ^ 63 ≤ rowMicros chunk.slot (self.joined chunk).pendingStartOffset) :
    push chunk self =
      .error .arithmeticOverflow { self.joined chunk with nextSequence := self.nextSequence + 1 } := by
  have hends : Ends (push chunk) self (fun _ _ => False) (fun error next =>
      error = .arithmeticOverflow ∧ next = { self.joined chunk with nextSequence := self.nextSequence + 1 }) := by
    unfold push
    rw [ends_bind]
    refine prepareChunk_ends.imp ?_ ?_
    · intro _ next hprepared
      obtain ⟨-, rfl⟩ := hprepared
      rw [ends_bind, ends_modify, ends_bind, maxSpectrumRowsPerPush]
      change Ends _ (self.joined chunk) _ _
      unfold produceRows
      rw [ends_bind, ends_get, if_pos (by rw [joined_config]; exact hdue), ends_bind]
      refine (produceRow_unfit (by rw [joined_nextSequence]; exact hsequence) hutc).imp ?_ ?_
      · intro _ _ h
        exact h.elim
      · intro error next h
        rwa [joined_nextSequence] at h
    · intro error next h
      exact absurd h.1 hopen
  unfold Ends at hends
  cases hpush : push chunk self with
  | ok result next =>
    rw [hpush] at hends
    exact hends.elim
  | error error next =>
    rw [hpush] at hends
    rw [hends.1, hends.2]

/-- A push of more rows than the work bound fails at it. -/
theorem push_overworked (hlegal : chunk.Legal) (hbounded : self.Bounded) (hopen : ¬self.Refused chunk)
    (hfits : (self.joined chunk).RowsFit chunk) (hmany : maxSpectrumRowsPerPush < (self.joined chunk).rowsDue) :
    outcome (push chunk self) = .error .cpuBoundExceeded := by
  have hends := push_ends hlegal hbounded
  unfold Ends at hends
  cases hpush : push chunk self with
  | ok result next =>
    rw [hpush] at hends
    omega
  | error error next =>
    rw [hpush] at hends
    obtain ⟨hrefused, -⟩ | ⟨-, ⟨-, hunfit⟩ | ⟨rfl, -⟩⟩ := hends
    · exact absurd hrefused hopen
    · exact absurd hfits hunfit
    · rfl

end SpectrumModel

/-- The configuration with the most rows for each chunk. -/
def smallConfig : SpectrumConfig :=
  { fftSize := 256, overlapSamples := 192, layout := { firstBin := 0, lastBin := 2, estimatedModelBytes := 16560 },
    waterfallRows := 1, publicationMillis := 250, checked := ⟨0, 100, by decide⟩ }

/-- A plan without a signal. -/
def flatPlan (_ : Nat) : FftPlan := { scratchLen := 0, magnitude := fun _ _ => -120000 }

/-- The largest chunk of silence at the start of a slot. -/
def silentChunk (slot : Ft8ReceiveSlot) : CanonicalSpectrumChunk :=
  { processGeneration := ⟨1, one_nonzero⟩, streamGeneration := ⟨1, one_nonzero⟩, slot, startSampleOffset := 0,
    discontinuity := none, samples := List.replicate maxSpectrumChunkSamples 0,
    samples_ne := List.ne_nil_of_length_pos (by rw [List.length_replicate]; decide),
    samples_le := (List.length_replicate).le }

/-- The last slot of 64 bits. -/
def farSlot : Ft8ReceiveSlot := ⟨9223372036854765000, by decide, by decide⟩

/-- The first slot. -/
def firstSlot : Ft8ReceiveSlot := ⟨0, by decide, by decide⟩

/-- A new model. -/
def freshModel : SpectrumModel :=
  { config := smallConfig, fft := flatPlan 256, pendingSamples := [], pendingStartOffset := 0, cursor := none, rows := [],
    pendingDiscontinuity := none, nextSequence := 0, lastPublicationUtcMicros := none, publicationPending := false,
    coalescedPublications := 0, evictedRows := 0 }

/-- The model with the samples of a push that failed at its first row. -/
def stuckModel : SpectrumModel :=
  { freshModel with pendingSamples := (silentChunk farSlot).samples, nextSequence := 1 }

theorem length_silentChunk (slot : Ft8ReceiveSlot) : (silentChunk slot).samples.length = 4096 := List.length_replicate

theorem legal_silentChunk (slot : Ft8ReceiveSlot) : (silentChunk slot).Legal := by
  show 0 + (silentChunk slot).samples.length ≤ ft8ReceiveWindowSamples
  rw [length_silentChunk]
  decide

theorem push_far : SpectrumModel.push (silentChunk farSlot) freshModel = .error .arithmeticOverflow stuckModel := by
  have hopen : ¬freshModel.Refused (silentChunk farSlot) := by
    intro hrefused
    obtain ⟨-, cursor, hcursor, -⟩ := hrefused
    cases hcursor
  have hjoined : freshModel.joined (silentChunk farSlot) =
      { freshModel with pendingSamples := (silentChunk farSlot).samples } := rfl
  rw [SpectrumModel.push_unfit hopen, hjoined]
  · rfl
  · rw [hjoined]
    show 256 ≤ (silentChunk farSlot).samples.length
    rw [length_silentChunk]
    decide
  · decide
  · rw [hjoined]
    decide

theorem push_first :
    outcome (SpectrumModel.push (silentChunk firstSlot) stuckModel) = .error .cpuBoundExceeded := by
  have hpending : (stuckModel.joined (silentChunk firstSlot)).pendingSamples.length = 8192 := by
    show ((silentChunk farSlot).samples ++ (silentChunk firstSlot).samples).length = 8192
    rw [List.length_append, length_silentChunk, length_silentChunk]
  have hstart : (stuckModel.joined (silentChunk firstSlot)).pendingStartOffset = 0 := by
    show (if (stuckModel.prepared (silentChunk firstSlot)).pendingSamples = [] then 0 else 0) = 0
    exact ite_self 0
  have hconfig : (stuckModel.joined (silentChunk firstSlot)).config = smallConfig := rfl
  have hdue : (stuckModel.joined (silentChunk firstSlot)).rowsDue = 125 := by
    rw [SpectrumModel.rowsDue, hpending, hconfig]
    decide
  refine SpectrumModel.push_overworked (legal_silentChunk firstSlot) (Nat.zero_le _) ?_ ?_ ?_
  · intro hrefused
    obtain ⟨-, cursor, hcursor, -⟩ := hrefused
    cases hcursor
  · refine SpectrumModel.rowsFit_of ?_ ?_ ?_
    · rw [hpending, hstart]
      decide
    · rw [hdue]
      decide
    · intro i hi
      rw [hdue] at hi
      have hhop : smallConfig.hopSamples = 64 := rfl
      have hslot : (silentChunk firstSlot).slot.startUtcUnixMillis.toInt = 0 := rfl
      rw [hstart, hconfig, hhop, rowMicros, hslot, ft8ReceiveSampleRateHz]
      omega
  · rw [hdue]
    decide

/-- A late slot and then an early one: the second push fails at the work bound. -/
theorem work_bound_reached :
    SpectrumModel.new flatPlan smallConfig = .ok freshModel ∧ (silentChunk farSlot).Legal ∧
      (silentChunk firstSlot).Legal ∧
      (transcript SpectrumModel.step freshModel [.push (silentChunk farSlot), .push (silentChunk firstSlot)]).map
          Prod.snd = [.pushed (.error .arithmeticOverflow), .pushed (.error .cpuBoundExceeded)] := by
  refine ⟨rfl, legal_silentChunk farSlot, legal_silentChunk firstSlot, ?_⟩
  simp only [transcript_cons, transcript_nil, SpectrumModel.step, push_far, outcome_error, finalState_error, push_first,
    List.map_cons, List.map_nil]

/-- Equal samples, one and some more that a chunk has room for, from an offset of a slot on. -/
def levelChunk (slot : Ft8ReceiveSlot) (startSampleOffset : Nat) (discontinuity : Option SpectrumDiscontinuity)
    (level : Int16) (more : Nat) : CanonicalSpectrumChunk :=
  { processGeneration := ⟨1, one_nonzero⟩, streamGeneration := ⟨1, one_nonzero⟩, slot, startSampleOffset,
    discontinuity, samples := level :: List.replicate (min more 4095) level, samples_ne := List.cons_ne_nil _ _,
    samples_le := by
      rw [List.length_cons, List.length_replicate]
      exact Nat.succ_le_succ (Nat.min_le_right more 4095) }

/-- Pushes that leave samples behind. The second one is refused, and the fourth one drops what is left. -/
def leftoverPushes : List SpectrumOp :=
  [.push (levelChunk farSlot 0 none 0 99), .push (levelChunk firstSlot 0 none 0 299),
    .push (levelChunk farSlot 100 none 0 99), .push (levelChunk firstSlot 0 (some .timelineDiscontinuity) 0 299),
    .push (levelChunk firstSlot 300 none 0 4095)]

/-- The rows of a push that returns. -/
def rowsOfAnswer : SpectrumAnswer → Option Nat
  | .pushed (.ok result) => some result.producedRows
  | _ => none

/-- The refused push changes nothing, and the last one makes the most rows. -/
theorem spectrum_work_bounded_leftover :
    (transcript SpectrumModel.step freshModel leftoverPushes).map (fun entry => rowsOfAnswer entry.2) =
        [some 0, none, some 0, some 1, some 64] ∧
      EveryStep SpectrumModel.step SpectrumModel.OpBounded freshModel leftoverPushes ∧
      (final SpectrumModel.step freshModel leftoverPushes).pendingSamples.length ≤
        smallConfig.fftSize + maxSpectrumChunkSamples := by
  have hnew : SpectrumModel.new flatPlan smallConfig = .ok freshModel := rfl
  exact ⟨by decide +kernel, SpectrumModel.spectrum_work_bounded hnew leftoverPushes (by decide +kernel)⟩

end Slotpilot.Audio
