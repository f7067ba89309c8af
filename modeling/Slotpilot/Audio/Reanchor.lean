import Slotpilot.Audio.FailClosed

/-!
# Taking a new anchor

A timeline without an anchor takes the next batch that passes its checks as a new one. The slot that the batch falls in
began before it, and its start is mapped back to a source position and to a monotonic time. A position before the first
frame is given up for the anchor's own evidence; a monotonic time before the origin is an error.

* `Origin.framesFit_iff`: the ticks of a batch that is far from the largest integers fit exactly
  when the start of its slot does;
* `unanchored_run`: a timeline without an anchor has no resampler, in every state of a run;
* `reanchor_iff`: the batches from which a new anchor is taken.
-/

set_option autoImplicit false

namespace Slotpilot.Audio

open Lib

/-! ## The start of the first slot -/

/-- Milliseconds from the start of the slot. -/
def slotOffset (first : CaptureTimeEvidence) : Int := first.utcUnixMillis.toInt % 15000

/-- The slot start is not before the epoch, and it is before the first source frame or not before the monotonic
origin. -/
structure StartKnown (first : CaptureTimeEvidence) (sampleRateHz : Nat) : Prop where
  utc : 0 ≤ first.utcUnixMillis.toInt
  monotonic : first.position.frames.toNat < slotOffset first * sampleRateHz / 1000 ∨
    slotOffset first ≤ first.monotonicMillis.toNat

/-- The evidence is one largest batch and one slot away from the largest integers. -/
structure FarFromTop (first : CaptureTimeEvidence) : Prop where
  position : first.position.frames.toNat + 8192 < 2 ^ 64
  utc : first.utcUnixMillis.toInt + 15000 < 2 ^ 63
  monotonic : first.monotonicMillis.toNat + 15000 < 2 ^ 64

namespace Origin

variable {o : Origin} {frames k : Nat}

theorem slotTick_anchor : slotTick o.anchorTick = o.anchorTick - slotOffset o.first * 12 := by
  unfold slotTick anchorTick slotOffset
  omega

/-- Source frames from the anchor back to the start of its slot. -/
theorem sourceDelta_anchor :
    o.sourceDelta (slotTick o.anchorTick) = -(slotOffset o.first * o.rate / 1000) := by
  have hoffset : 0 ≤ slotOffset o.first := Int.emod_nonneg _ (by decide)
  have hback : (slotTick o.anchorTick - o.anchorTick) * o.rate = -(12 * (slotOffset o.first * o.rate)) := by
    rw [slotTick_anchor]
    ring
  unfold sourceDelta
  rw [hback, Int.neg_tdiv, Int.tdiv_eq_ediv_of_nonneg (by positivity)]
  omega

/-- The start of the first slot fits exactly when it is known. -/
theorem slotFits_anchor (hfar : FarFromTop o.first) :
    o.SlotFits (slotTick o.anchorTick) ↔ StartKnown o.first o.rate := by
  have hoffset : 0 ≤ slotOffset o.first := Int.emod_nonneg _ (by decide)
  have hframes : 0 ≤ slotOffset o.first * o.rate / 1000 := by positivity
  have hslot := slotTick_anchor (o := o)
  have hdelta := sourceDelta_anchor (o := o)
  have hfarUtc := hfar.utc
  have hposition := o.first.position.frames.toNat_lt
  have hmonotonic := o.first.monotonicMillis.toNat_lt
  have hutc : o.anchorTick = o.first.utcUnixMillis.toInt * 12 := rfl
  have hrest : slotOffset o.first = o.first.utcUnixMillis.toInt % 15000 := rfl
  unfold SlotFits HasFrame tickEvidence
  rw [hdelta, hslot, hutc]
  dsimp only
  constructor
  · intro hfits
    obtain ⟨⟨hnonneg, -⟩, -, hframe⟩ := hfits
    refine ⟨by omega, ?_⟩
    by_cases hbefore : o.first.position.frames.toNat < slotOffset o.first * o.rate / 1000
    · exact .inl hbefore
    · have hback := hframe ⟨by omega, by omega⟩
      exact .inr (by omega)
  · intro hknown
    obtain ⟨hnonneg, hstart⟩ := hknown
    refine ⟨⟨by omega, by omega⟩, by omega, ?_⟩
    intro hframe
    obtain hbefore | hafter := hstart
    · omega
    · exact ⟨by omega, by omega⟩

/-- The ticks of a batch are about a second. -/
theorem tickCount_le (hframes : frames ≤ 8192) : tickCount o frames ≤ 12288 := by
  have hrate := o.rate_ge
  unfold tickCount
  split
  · exact Nat.zero_le _
  · have hlt : (frames - 1) * 12000 / o.rate < 12288 := by
      rw [Nat.div_lt_iff_lt_mul (by omega)]
      omega
    exact hlt

/-- The source frames up to a tick of a batch are frames of the batch. -/
theorem tick_frames_le (hpos : 0 < frames) (hk : k < tickCount o frames) : k * o.rate ≤ (frames - 1) * 12000 := by
  unfold tickCount at hk
  rw [if_neg (by omega)] at hk
  calc k * o.rate ≤ (frames - 1) * 12000 / o.rate * o.rate := Nat.mul_le_mul_right _ (Nat.le_of_lt_succ hk)
    _ ≤ (frames - 1) * 12000 := Nat.div_mul_le_self _ _

/-- A slot start behind the anchor fits. -/
theorem slotFits_later (hfar : FarFromTop o.first) (hutc : 0 ≤ o.first.utcUnixMillis.toInt) (hpos : 0 < frames)
    (hframes : frames ≤ 8192) (hk : k < tickCount o frames) (hlater : o.anchorTick ≤ slotTick (o.anchorTick + k)) :
    o.SlotFits (slotTick (o.anchorTick + k)) := by
  have hfew := Nat.lt_of_lt_of_le hk (tickCount_le hframes)
  have hle : slotTick (o.anchorTick + k) ≤ o.anchorTick + k := by
    unfold slotTick
    omega
  have hscaled : (slotTick (o.anchorTick + k) - o.anchorTick) * o.rate ≤ 98292000 := by
    have hinside := tick_frames_le hpos hk
    calc (slotTick (o.anchorTick + k) - o.anchorTick) * o.rate ≤ (k : Int) * o.rate :=
          Int.mul_le_mul_of_nonneg_right (by omega) (Int.natCast_nonneg _)
      _ ≤ 98292000 := by
          have hbatch : k * o.rate ≤ 98292000 := by omega
          exact_mod_cast hbatch
  have hnonneg : 0 ≤ (slotTick (o.anchorTick + k) - o.anchorTick) * (o.rate : Int) :=
    Int.mul_nonneg (by omega) (by omega)
  have hdelta : 0 ≤ o.sourceDelta (slotTick (o.anchorTick + k)) ∧
      o.sourceDelta (slotTick (o.anchorTick + k)) ≤ 8191 := by
    unfold sourceDelta
    rw [Int.tdiv_eq_ediv_of_nonneg hnonneg]
    omega
  have hfarUtc := hfar.utc
  have hfarMonotonic := hfar.monotonic
  have hanchor : o.anchorTick = o.first.utcUnixMillis.toInt * 12 := rfl
  refine ⟨⟨by omega, by omega⟩, by omega, ?_⟩
  intro _
  unfold tickEvidence
  dsimp only
  exact ⟨by omega, by omega⟩

/-- A batch that is far from the largest integers fits exactly when the start of its slot is known. -/
theorem framesFit_iff (hfar : FarFromTop o.first) (hpos : 0 < frames) (hframes : frames ≤ 8192) :
    RationalResampler.FramesFit o frames ↔ StartKnown o.first o.rate := by
  rw [← slotFits_anchor hfar]
  constructor
  · intro hfits
    have hfirst : 0 < tickCount o frames := by
      unfold tickCount
      rw [if_neg (by omega)]
      exact Nat.succ_pos _
    have hzero := hfits.2 0 hfirst
    rwa [Nat.cast_zero, add_zero] at hzero
  · intro hanchor
    have hutc := ((slotFits_anchor hfar).mp hanchor).utc
    refine ⟨by have := hfar.position; omega, ?_⟩
    intro k hk
    have hfew := Nat.lt_of_lt_of_le hk (tickCount_le hframes)
    by_cases hlater : o.anchorTick ≤ slotTick (o.anchorTick + k)
    · exact slotFits_later hfar hutc hpos hframes hk hlater
    · have hsame : slotTick (o.anchorTick + k) = slotTick o.anchorTick := by
        unfold slotTick at hlater ⊢
        omega
      rw [hsame]
      exact hanchor

end Origin

namespace Ft8ReceiveTimeline

open RationalResampler

variable {batch : CaptureBatch} {s : Ft8ReceiveTimeline} {observedAt : UInt64}

/-! ## Timelines without an anchor -/

/-- Without an anchor there is no resampler. -/
def Unanchored (s : Ft8ReceiveTimeline) : Prop := s.anchor = none → s.resampler = none

theorem unanchored_step (h : Unanchored s) (input : CaptureBatch × UInt64) : Unanchored (step s input).2 := by
  intro hnone
  cases hpush : push input.1 input.2 s with
  | ok events u =>
    obtain ⟨-, _, _, -, -, haccepted⟩ := push_ends.of_ok hpush
    rw [step, hpush] at hnone
    change u.anchor = none at hnone
    rw [haccepted.anchor] at hnone
    cases hnone
  | error error u =>
    rw [step, hpush] at hnone ⊢
    change u.anchor = none at hnone
    show u.resampler = none
    obtain ⟨-, rfl⟩ | ⟨-, hdiscarded⟩ | ⟨-, hshort⟩ := push_ends.of_error hpush
    · exact h hnone
    · exact hdiscarded.resampler
    · rw [hshort.anchor] at hnone
      cases hnone

/-- In every state of a run a timeline without an anchor has no resampler. -/
theorem unanchored_run (processGeneration : ProcessGeneration) (streamGeneration : StreamGeneration)
    (configuration : InputConfiguration) (run : List (CaptureBatch × UInt64)) :
    Unanchored (final step (new processGeneration streamGeneration configuration) run) :=
  final_inv_all (I := Unanchored) (fun _ input h => unanchored_step h input) (fun _ => rfl) run

/-! ## Batches from which an anchor is taken -/

/-- The batch has the timeline's identity, arrives in time, starts at the expected position and has no mark. -/
structure Contiguous (s : Ft8ReceiveTimeline) (batch : CaptureBatch) (observedAt : UInt64) : Prop where
  identity : s.validateIdentity batch = .ok ()
  inTime : lateness batch observedAt ≤ maxReceiveBatchLatenessMillis
  start : StartsExpected batch s
  unmarked : batch.discontinuity = none

/-- Without an anchor there are no clocks to agree with. -/
theorem Contiguous.taken (h : Contiguous s batch observedAt) (hnone : s.anchor = none) : Taken s batch observedAt := by
  refine ⟨h.identity, h.inTime, h.start, ?_, ?_⟩
  · intro mark hmark
    rw [h.unmarked] at hmark
    cases hmark
  · intro anchor hanchor
    rw [hnone] at hanchor
    cases hanchor

/-- A clean timeline accepts a taken batch exactly when it is representable. -/
theorem accepts_iff_representable (hs : Clean s) (ht : Taken s batch observedAt) :
    (∃ events, (step s (batch, observedAt)).1 = .ok events) ↔ Representable s batch := by
  constructor
  · intro haccepted
    by_contra hno
    let input : CaptureBatch × UInt64 := (batch, observedAt)
    have htaken : Taken s input.1 input.2 := ht
    have hbeyond : ¬Representable s input.1 := hno
    obtain ⟨error, herror, -⟩ := hs.stoppedShort htaken hbeyond
    obtain ⟨events, hevents⟩ := haccepted
    rw [hevents] at herror
    cases herror
  · intro hrep
    cases hpush : push batch observedAt s with
    | ok events u => exact ⟨events, by rw [step, hpush]; rfl⟩
    | error error u =>
      obtain ⟨hid, -⟩ | ⟨⟨-, hnot⟩, -⟩ | ⟨-, hshort⟩ := push_ends.of_error hpush
      · rw [ht.identity] at hid
        cases hid
      · exact absurd ht hnot
      · exact absurd hshort (hs.not_stoppedShort ht hrep)

theorem configuration_of_identity (h : s.validateIdentity batch = .ok ()) : batch.configuration = s.configuration := by
  unfold validateIdentity at h
  split at h
  · cases h
  split at h
  · cases h
  split at h
  · cases h
  · rename_i hsame
    exact not_not.mp hsame

/-- A timeline without a resampler represents a batch exactly when the start of its slot is known. -/
theorem representable_iff (hnone : s.resampler = none) (hconfiguration : batch.configuration = s.configuration)
    (hfar : FarFromTop batch.firstFrame) :
    Representable s batch ↔ StartKnown batch.firstFrame batch.configuration.sampleRateHz := by
  have hfirst : (originAt s batch).first = batch.firstFrame := by
    rw [originAt, hnone]
    rfl
  have hrate : (originAt s batch).rate = batch.configuration.sampleRateHz := by
    rw [hconfiguration]
    rfl
  have hlength : batch.samples.length ≤ 8192 := batch.samples_le
  have hposition := hfar.position
  unfold Representable
  dsimp only
  rw [hfirst, Nat.sub_self, Nat.zero_add,
    Origin.framesFit_iff (hfirst ▸ hfar) batch.length_pos hlength, hfirst, hrate]
  exact and_iff_right (by omega)

/-- **Taking a new anchor**: in every state of a run without an anchor, a contiguous batch that is far from the largest
integers is accepted exactly when the start of its slot is known. -/
theorem reanchor_iff (processGeneration : ProcessGeneration) (streamGeneration : StreamGeneration)
    (configuration : InputConfiguration) (run : List (CaptureBatch × UInt64)) :
    let s := final step (new processGeneration streamGeneration configuration) run
    s.anchor = none → ∀ (batch : CaptureBatch) (observedAt : UInt64), Contiguous s batch observedAt →
      FarFromTop batch.firstFrame →
        ((∃ events, (step s (batch, observedAt)).1 = .ok events) ↔
          StartKnown batch.firstFrame batch.configuration.sampleRateHz) := by
  intro s hnone batch observedAt hcontiguous hfar
  have hresampler : s.resampler = none := unanchored_run processGeneration streamGeneration configuration run hnone
  have hclean : Clean s := .inl ⟨hnone, hresampler⟩
  rw [accepts_iff_representable hclean (hcontiguous.taken hnone),
    representable_iff hresampler (configuration_of_identity hcontiguous.identity) hfar]

/-- Three silent frames of the first generation. -/
theorem threeFrames_pos : 0 < 3 := by decide
theorem threeFrames_le : 3 ≤ maxCaptureBatchFrames := by decide

def threeFrames (firstFrame : CaptureTimeEvidence) : CaptureBatch :=
  CaptureBatch.silent ⟨1, one_nonzero⟩ ⟨1, one_nonzero⟩ monoConfiguration firstFrame 3 threeFrames_pos threeFrames_le

/-- Two batches, of which the second one is behind a gap. -/
def brokenRun : List (CaptureBatch × UInt64) :=
  [(threeFrames ⟨⟨0⟩, 1700000010000, 0⟩, 0), (threeFrames ⟨⟨11997⟩, 1700000011000, 500⟩, 500)]

/-- The timeline behind the gap. -/
def behindGap : Ft8ReceiveTimeline :=
  { new ⟨1, one_nonzero⟩ ⟨1, one_nonzero⟩ monoConfiguration with
    expectedPosition := some ⟨12000⟩
    lastBatchPosition := some ⟨11997⟩
    lastMonotonicMillis := some 500
    health := { maxJitterMillis := 0, driftPartsPerMillion := 0, incompleteSlotCount := 1, lateBatchCount := 0 } }

theorem final_brokenRun :
    final step (new ⟨1, one_nonzero⟩ ⟨1, one_nonzero⟩ monoConfiguration) brokenRun = behindGap := by
  decide +kernel

/-- A batch after the gap, one second into its slot. -/
theorem contiguous_behindGap (monotonicMillis : UInt64) :
    Contiguous behindGap (threeFrames ⟨⟨12000⟩, 1700000011000, monotonicMillis⟩) monotonicMillis := by
  refine ⟨rfl, ?_, ?_, rfl⟩
  · unfold lateness
    simp [threeFrames, CaptureBatch.silent]
  · intro e he
    cases he
    rfl

theorem reanchor_iff_gap :
    (∃ events, (step (final step (new ⟨1, one_nonzero⟩ ⟨1, one_nonzero⟩ monoConfiguration) brokenRun)
        (threeFrames ⟨⟨12000⟩, 1700000011000, 1000⟩, 1000)).1 = .ok events) ↔
      StartKnown ⟨⟨12000⟩, 1700000011000, 1000⟩ 12000 := by
  refine reanchor_iff ⟨1, one_nonzero⟩ ⟨1, one_nonzero⟩ monoConfiguration brokenRun ?_
    (threeFrames ⟨⟨12000⟩, 1700000011000, 1000⟩) 1000 ?_ ⟨by decide, by decide, by decide⟩
  · rw [final_brokenRun]
    rfl
  · rw [final_brokenRun]
    exact contiguous_behindGap 1000

/-- A second into its slot the next batch has a source position for the slot start, and half a second after the
monotonic origin no monotonic time for it. -/
theorem early_reanchor_refused :
    final step (new ⟨1, one_nonzero⟩ ⟨1, one_nonzero⟩ monoConfiguration) brokenRun = behindGap ∧ behindGap.anchor = none ∧
      Contiguous behindGap (threeFrames ⟨⟨12000⟩, 1700000011000, 500⟩) 500 ∧
      FarFromTop ⟨⟨12000⟩, 1700000011000, 500⟩ ∧
      (step behindGap (threeFrames ⟨⟨12000⟩, 1700000011000, 500⟩, 500)).1 = .error .arithmeticOverflow := by
  refine ⟨final_brokenRun, rfl, contiguous_behindGap 500, ⟨by decide, by decide, by decide⟩, ?_⟩
  decide +kernel

end Ft8ReceiveTimeline

end Slotpilot.Audio