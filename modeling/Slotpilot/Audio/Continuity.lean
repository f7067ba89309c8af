import Slotpilot.Audio.TimeEvidence
import Mathlib

/-!
# Continuity of the consumed source frames

What one `push` does to the expected position (`push_expected`), and what follows for a whole run: the expected
position never moves back, and the accepted batches are disjoint and increasing, exactly when no late batch ends before
the position expected at its arrival. The late path is the one that steps over a batch whose position was not checked.
-/

set_option autoImplicit false

namespace Slotpilot.Audio.Ft8ReceiveTimeline

open Lib

variable {batch : CaptureBatch} {s t : Ft8ReceiveTimeline} {observedAt : UInt64}

/-! ## One batch -/

/-- `t` expects the frame after the batch. -/
def ExpectsAfter (batch : CaptureBatch) (t : Ft8ReceiveTimeline) : Prop :=
  ∃ e, batch.endPosition = .ok e ∧ t.expectedPosition = some e

/-- `t` expects the frame after the batch, or what `s` expects when that frame has no number. -/
def SteppedOver (batch : CaptureBatch) (s t : Ft8ReceiveTimeline) : Prop :=
  ExpectsAfter batch t ∨ (∀ e, batch.endPosition ≠ .ok e) ∧ t.expectedPosition = s.expectedPosition

/-- The batch starts at the expected position, if there is one. -/
def StartsExpected (batch : CaptureBatch) (s : Ft8ReceiveTimeline) : Prop :=
  ∀ e, s.expectedPosition = some e → batch.firstFrame.position.frames.toNat = e.frames.toNat

/-- The batch starts past the expected position. -/
def StartsPast (batch : CaptureBatch) (s : Ft8ReceiveTimeline) : Prop :=
  ∃ e, s.expectedPosition = some e ∧ e.frames.toNat < batch.firstFrame.position.frames.toNat

theorem endPosition_ok {e : CapturePosition} :
    batch.endPosition = .ok e ↔ e.frames.toNat = batch.firstFrame.position.frames.toNat + batch.samples.length := by
  simp [CaptureBatch.endPosition]

theorem advanceExpected_ends :
    Ends (advanceExpected batch) s (fun _ t => ExpectsAfter batch t)
      (fun _ t => (∀ e, batch.endPosition ≠ .ok e) ∧ t.expectedPosition = s.expectedPosition) := by
  simp only [advanceExpected, ends_bind, ends_modify, ends_fromResult, exceptMapError_ok]
  refine ⟨fun e he => ⟨e, he, rfl⟩, fun err herr => ⟨fun e he => ?_, trivial⟩⟩
  rw [he] at herr
  cases herr

theorem reject_ends (error : ReceiveTimelineError) :
    Ends (reject batch error) s (fun _ _ => False) (fun _ t => SteppedOver batch s t) := by
  simp only [reject, ends_bind, ends_modify, ends_throw]
  exact advanceExpected_ends.imp (fun _ _ h => .inl h) (fun _ _ h => .inr h)

theorem checkLateness_ends :
    Ends (checkLateness batch observedAt) s
      (fun _ t => t = s ∧ lateness batch observedAt ≤ maxReceiveBatchLatenessMillis)
      (fun _ t => maxReceiveBatchLatenessMillis < lateness batch observedAt ∧ SteppedOver batch s t) := by
  simp only [checkLateness, ends_ite, ends_bind, ends_modify, ends_pure]
  refine ⟨fun h => ?_, fun h => ⟨trivial, Nat.le_of_not_gt h⟩⟩
  exact (reject_ends _).imp (fun _ _ hf => hf.elim) (fun _ _ hs => ⟨h, hs⟩)

theorem validatePosition_ok : s.validatePosition batch = .ok () ↔ StartsExpected batch s := by
  unfold validatePosition StartsExpected
  cases s.expectedPosition with
  | none => simp
  | some e =>
    simp only [Option.some.injEq, forall_eq']
    split
    · simp [*]
    · split
      · split <;> simp [*]
      · simp [*]

theorem startsPast_of_gap {frames : Nat} (h : s.validatePosition batch = .error (.gap frames)) :
    StartsPast batch s := by
  unfold validatePosition at h
  cases he : s.expectedPosition with
  | none => simp [he] at h
  | some e =>
    refine ⟨e, he, ?_⟩
    simp only [he] at h
    split at h
    · cases h
    · split at h
      · split at h <;> cases h
      · omega

theorem checkPosition_ends :
    Ends (checkPosition batch) s (fun _ t => t = s ∧ StartsExpected batch s)
      (fun _ t => t.expectedPosition = s.expectedPosition ∨ StartsPast batch s ∧ SteppedOver batch s t) := by
  simp only [checkPosition, ends_bind, ends_get]
  split
  · rename_i h
    exact ⟨rfl, validatePosition_ok.mp h⟩
  · rename_i frames h
    exact (reject_ends _).imp (fun _ _ hf => hf.elim) (fun _ _ hs => .inr ⟨startsPast_of_gap h, hs⟩)
  · exact .inl rfl

theorem checkDiscontinuity_ends :
    Ends (checkDiscontinuity batch) s (fun _ t => t = s) (fun _ t => SteppedOver batch s t) := by
  unfold checkDiscontinuity
  split
  · rfl
  · simp only [ends_bind, ends_get, ends_ite, ends_pure, implies_true, true_and]
    exact fun _ => (reject_ends _).imp (fun _ _ hf => hf.elim) (fun _ _ hs => hs)

/-- The anchor after an accepted batch. -/
def anchorAfter (batch : CaptureBatch) (t : Ft8ReceiveTimeline) : TimelineAnchor :=
  t.anchor.getD (TimelineAnchor.fromBatch batch)

theorem checkMapping_ends :
    Ends (checkMapping batch) s
      (fun _ t => ∃ health, t = { s with anchor := some (anchorAfter batch s), health })
      (fun _ t => SteppedOver batch s t) := by
  simp only [checkMapping, ends_bind, ends_get]
  unfold anchorAfter
  split
  · rename_i h
    exact ⟨s.health, by rw [h]; rfl⟩
  · rename_i anchor h
    simp only [ends_tryCatch]
    refine (validateMapping_ends anchor).imp ?_ ?_
    · rintro _ _ ⟨⟨jitter, drift, rfl⟩, -⟩
      exact ⟨_, by rw [h]; rfl⟩
    · rintro error _ ⟨⟨jitter, drift, rfl⟩, -⟩
      exact (reject_ends error).imp (fun _ _ hf => hf.elim) (fun _ _ hv => hv)

theorem ensureResampler_ends :
    Ends (ensureResampler batch) s (fun _ t => t.expectedPosition = s.expectedPosition)
      (fun _ t => t.expectedPosition = s.expectedPosition) := by
  simp [ensureResampler]

theorem onResampler_ends {α : Type} (update : RationalResampler.Update α) :
    Ends (onResampler update) s (fun _ t => t.expectedPosition = s.expectedPosition)
      (fun _ t => t.expectedPosition = s.expectedPosition) :=
  Ends.onPart_of_all rfl (fun _ _ => rfl) (fun _ _ => rfl)

/-- **What a push does to the expected position**: an accepted batch starts at it and ends at the new one; a rejected
one leaves it or steps over a batch that is late or does not start before it. -/
theorem push_expected :
    Ends (push batch observedAt) s (fun _ t => StartsExpected batch s ∧ ExpectsAfter batch t)
      (fun _ t => t.expectedPosition = s.expectedPosition ∨
        (s.validateIdentity batch = .ok () ∧ maxReceiveBatchLatenessMillis < lateness batch observedAt ∨
          StartsPast batch s ∨ StartsExpected batch s) ∧ ExpectsAfter batch t) := by
  have stepped {P : Prop} {u v : Ft8ReceiveTimeline} (hv : SteppedOver batch u v)
      (hu : u.expectedPosition = s.expectedPosition) (hp : P) :
      v.expectedPosition = s.expectedPosition ∨ P ∧ ExpectsAfter batch v := by
    rcases hv with hv | ⟨-, hv⟩
    · exact .inr ⟨hp, hv⟩
    · exact .inl (hv.trans hu)
  simp only [push, ends_bind, ends_get, ends_fromResult, ends_modify, ends_pure]
  refine ⟨fun _ hid => ?_, fun _ _ => .inl trivial⟩
  refine checkLateness_ends.imp ?_ (fun _ _ h => stepped h.2 rfl (.inl ⟨hid, h.1⟩))
  rintro - _ ⟨rfl, -⟩
  refine checkPosition_ends.imp ?_ (fun _ _ h => h.elim .inl fun h => stepped h.2 rfl (.inr (.inl h.1)))
  rintro - _ ⟨rfl, hstart⟩
  refine checkDiscontinuity_ends.imp ?_ (fun _ _ h => stepped h rfl (.inr (.inr hstart)))
  rintro - s rfl
  refine checkMapping_ends.imp ?_ (fun _ _ h => stepped h rfl (.inr (.inr hstart)))
  rintro - _ ⟨health, rfl⟩
  refine ensureResampler_ends.imp (fun _ v hv => ?_) (fun _ _ h => .inl h)
  refine (onResampler_ends _).imp (fun _ w hw => ?_) (fun _ _ h => .inl (h.trans hv))
  refine advanceExpected_ends.imp (fun _ _ h => ⟨hstart, h⟩) (fun _ _ h => .inl ?_)
  exact h.2.trans (hw.trans hv)

/-- A late batch of the timeline's own generation is stepped over wherever it starts. -/
theorem push_late (hid : s.validateIdentity batch = .ok ())
    (hlate : maxReceiveBatchLatenessMillis < lateness batch observedAt) :
    Ends (push batch observedAt) s (fun _ _ => False) (fun _ t => SteppedOver batch s t) := by
  simp only [push, ends_bind, ends_get, ends_fromResult, ends_modify, ends_pure]
  refine ⟨fun _ _ => ?_, fun e he => ?_⟩
  · exact checkLateness_ends.imp (fun _ _ h => absurd h.2 (Nat.not_le.mpr hlate)) (fun _ _ h => h.2)
  · rw [hid] at he
    cases he

/-! ## Runs -/

/-- The push does not move the expected position back. -/
def NotRewound (s : Ft8ReceiveTimeline) (input : CaptureBatch × UInt64) : Prop :=
  ∀ e, s.expectedPosition = some e →
    ∃ e', (step s input).2.expectedPosition = some e' ∧ e.frames.toNat ≤ e'.frames.toNat

/-- A late batch of the timeline's own generation does not end before the expected position. -/
def LateEndsAhead (s : Ft8ReceiveTimeline) (input : CaptureBatch × UInt64) : Prop :=
  s.validateIdentity input.1 = .ok () → maxReceiveBatchLatenessMillis < lateness input.1 input.2 →
    ∀ e e', s.expectedPosition = some e → input.1.endPosition = .ok e' → e.frames.toNat ≤ e'.frames.toNat

/-- Source frames of an accepted batch: its first frame and the one after its last. -/
def acceptedRange (entry : (CaptureBatch × UInt64) × Outcome) : Option (Nat × Nat) :=
  let start := entry.1.1.firstFrame.position.frames.toNat
  match entry.2 with
  | .ok _ => some (start, start + entry.1.1.samples.length)
  | .error _ => none

/-- Source frames of the accepted batches of a run, in the order of acceptance. -/
def acceptedRanges (s : Ft8ReceiveTimeline) (run : List (CaptureBatch × UInt64)) : List (Nat × Nat) :=
  (transcript step s run).filterMap acceptedRange

variable {input : CaptureBatch × UInt64} {run : List (CaptureBatch × UInt64)}

theorem acceptedRanges_ok {events : List ReceiveTimelineEvent} (h : (step s input).1 = .ok events) :
    acceptedRanges s (input :: run) =
      (input.1.firstFrame.position.frames.toNat, input.1.firstFrame.position.frames.toNat + input.1.samples.length) ::
        acceptedRanges (step s input).2 run := by
  rw [acceptedRanges, transcript_cons, List.filterMap_cons, h]
  rfl

theorem acceptedRanges_error {error : ReceiveTimelineError} (h : (step s input).1 = .error error) :
    acceptedRanges s (input :: run) = acceptedRanges (step s input).2 run := by
  rw [acceptedRanges, transcript_cons, List.filterMap_cons, h]
  rfl

theorem step_final : (step s input).2 = finalState (push input.1 input.2 s) := rfl

theorem step_accepted {events : List ReceiveTimelineEvent} (h : (step s input).1 = .ok events) :
    StartsExpected input.1 s ∧ ExpectsAfter input.1 (step s input).2 :=
  push_expected.of_ok (outcome_eq_ok.mp h)

theorem notRewound_of_lateEndsAhead (h : LateEndsAhead s input) : NotRewound s input := by
  intro e he
  have hcases : (step s input).2.expectedPosition = s.expectedPosition ∨
      (s.validateIdentity input.1 = .ok () ∧ maxReceiveBatchLatenessMillis < lateness input.1 input.2 ∨
        StartsPast input.1 s ∨ StartsExpected input.1 s) ∧ ExpectsAfter input.1 (step s input).2 := by
    rw [step_final]
    exact ends_final.mp (push_expected.imp (fun _ _ ha => .inr ⟨.inr (.inr ha.1), ha.2⟩) (fun _ _ hr => hr))
  rcases hcases with hkeep | ⟨hwhy, e', hend, hexp⟩
  · exact ⟨e, hkeep.trans he, Nat.le_refl _⟩
  · refine ⟨e', hexp, ?_⟩
    have hlen := endPosition_ok.mp hend
    rcases hwhy with ⟨hid, hlate⟩ | ⟨x, hx, hlt⟩ | hstart
    · exact h hid hlate e e' he hend
    · obtain rfl : x = e := Option.some.inj (hx.symm.trans he)
      omega
    · have := hstart e he
      omega

theorem lateEndsAhead_of_notRewound (h : NotRewound s input) : LateEndsAhead s input := by
  intro hid hlate e e' he hend
  have hstep := ends_final.mp ((push_late hid hlate).imp (fun _ _ hf => hf.elim) (fun _ _ hs => hs))
  obtain ⟨x, hx, hle⟩ := h e he
  rcases hstep with ⟨y, hy, hexp⟩ | ⟨hno, -⟩
  · obtain rfl : y = e' := Except.ok.inj (hy.symm.trans hend)
    obtain rfl : x = y := Option.some.inj (hx.symm.trans hexp)
    exact hle
  · exact absurd hend (hno e')

/-- No accepted batch of a run that is never rewound starts before the position expected first. -/
theorem acceptedRanges_ahead (h : EveryStep step NotRewound s run) {e : CapturePosition}
    (he : s.expectedPosition = some e) : ∀ r ∈ acceptedRanges s run, e.frames.toNat ≤ r.1 := by
  induction run generalizing s e with
  | nil => simp [acceptedRanges]
  | cons input run ih =>
    obtain ⟨e', he', hle⟩ := h.1 e he
    have later : ∀ r ∈ acceptedRanges (step s input).2 run, e.frames.toNat ≤ r.1 := fun r hr =>
      hle.trans (ih h.2 he' r hr)
    intro r hr
    cases hout : (step s input).1 with
    | error err =>
      rw [acceptedRanges_error hout] at hr
      exact later r hr
    | ok events =>
      rw [acceptedRanges_ok hout, List.mem_cons] at hr
      rcases hr with rfl | hr
      · exact ((step_accepted hout).1 e he).ge
      · exact later r hr

theorem acceptedRanges_pairwise (h : EveryStep step NotRewound s run) :
    (acceptedRanges s run).Pairwise fun a b => a.2 ≤ b.1 := by
  induction run generalizing s with
  | nil => exact .nil
  | cons input run ih =>
    cases hout : (step s input).1 with
    | error err =>
      rw [acceptedRanges_error hout]
      exact ih h.2
    | ok events =>
      obtain ⟨e, hend, he⟩ := (step_accepted hout).2
      rw [acceptedRanges_ok hout, List.pairwise_cons]
      refine ⟨fun r hr => ?_, ih h.2⟩
      rw [← endPosition_ok.mp hend]
      exact acceptedRanges_ahead h.2 he r hr

/-- An accepted range is not empty. -/
theorem acceptedRanges_nonempty : ∀ r ∈ acceptedRanges s run, r.1 < r.2 := by
  intro r hr
  obtain ⟨entry, -, hentry⟩ := List.mem_filterMap.mp hr
  have hpos := entry.1.1.length_pos
  unfold acceptedRange at hentry
  split at hentry
  · cases hentry
    exact Nat.lt_add_of_pos_right hpos
  · cases hentry

/-- **No source frame is consumed twice** exactly when no late batch ends before the expected position. -/
theorem consumed_once_iff (processGeneration : ProcessGeneration) (streamGeneration : StreamGeneration)
    (configuration : InputConfiguration) (run : List (CaptureBatch × UInt64)) :
    let start := new processGeneration streamGeneration configuration
    (EveryStep step NotRewound start run ∧ (∀ r ∈ acceptedRanges start run, r.1 < r.2) ∧
        (acceptedRanges start run).Pairwise fun a b => a.2 ≤ b.1) ↔
      EveryStep step LateEndsAhead start run := by
  intro start
  constructor
  · rintro ⟨h, -⟩
    exact h.imp fun _ _ => lateEndsAhead_of_notRewound
  · intro h
    have hmono := h.imp fun _ _ => notRewound_of_lateEndsAhead
    exact ⟨hmono, acceptedRanges_nonempty, acceptedRanges_pairwise hmono⟩

/-- Two batches, the first once more but late, and the second once more. -/
def rewindingRun (processGeneration : ProcessGeneration) (streamGeneration : StreamGeneration)
    (configuration : InputConfiguration) : List (CaptureBatch × UInt64) :=
  let batch (position monotonic : UInt64) :=
    CaptureBatch.silent processGeneration streamGeneration configuration ⟨⟨position⟩, 0, monotonic⟩ 2
      (by decide) (by decide)
  [(batch 0 0, 0), (batch 2 0, 0), (batch 0 0, 2001), (batch 2 2001, 2001)]

/-- The late repetition moves the expected position back, and frames 2 and 3 are consumed twice. -/
theorem consumed_once_fails :
    ¬∀ (processGeneration : ProcessGeneration) (streamGeneration : StreamGeneration)
        (configuration : InputConfiguration) (run : List (CaptureBatch × UInt64)),
      let start := new processGeneration streamGeneration configuration
      EveryStep step NotRewound start run ∧ (∀ r ∈ acceptedRanges start run, r.1 < r.2) ∧
        (acceptedRanges start run).Pairwise fun a b => a.2 ≤ b.1 := by
  intro h
  let processGeneration : ProcessGeneration := ⟨1, by decide⟩
  let streamGeneration : StreamGeneration := ⟨1, by decide⟩
  let configuration : InputConfiguration :=
    ⟨12000, 1, .signed16, 0, by decide, by decide, by decide, by decide, by decide⟩
  have hpair := (h processGeneration streamGeneration configuration
    (rewindingRun processGeneration streamGeneration configuration)).2.2
  have hranges : acceptedRanges (new processGeneration streamGeneration configuration)
      (rewindingRun processGeneration streamGeneration configuration) = [(0, 2), (2, 4), (2, 4)] := by decide +kernel
  rw [hranges] at hpair
  exact absurd hpair (by decide)

end Slotpilot.Audio.Ft8ReceiveTimeline
