import Slotpilot.Audio.FailClosed
import Slotpilot.Audio.Provenance

/-!
# What the health record of a timeline counts

The health record is written at four places of a push. `push_charged` says what one push does to it, whichever check
stops the push, and `health_accounts` what it holds after a run:

* the late batches of the stream, up to the largest 64-bit value;
* the slots withheld from the decoder, those reported in events and those whose samples were discarded;
* the largest jitter and the latest drift, which are within the tolerances unless an error reported them.

A batch whose last frame has no number is the one case where a push fails after it has counted.
-/

set_option autoImplicit false

namespace Slotpilot.Audio.Ft8ReceiveTimeline

open Lib RationalResampler

/-! ## What a run shows -/

/-- The frame after the batch has a number. -/
def EndFits (batch : CaptureBatch) : Prop := ∃ position, batch.endPosition = .ok position

/-- The batch is of the timeline's stream and arrives too late to be retained. -/
def tooLate (s : Ft8ReceiveTimeline) (input : CaptureBatch × UInt64) : Bool :=
  decide (s.validateIdentity input.1 = .ok ()) && decide (maxReceiveBatchLatenessMillis < lateness input.1 input.2)

/-- The slots that a push reports as withheld. -/
def incompleteIn : Outcome → Nat
  | .ok events => events.countP fun
    | .incomplete _ => true
    | .window _ => false
  | .error _ => 0

/-- One if the samples of an active slot have gone between two states. -/
def discardedIn (s u : Ft8ReceiveTimeline) : Nat := if partialSamples s ≠ [] ∧ u.resampler = none then 1 else 0

/-- The slots that a run withholds from the decoder. -/
def withheld : Ft8ReceiveTimeline → List (CaptureBatch × UInt64) → Nat
  | _, [] => 0
  | s, input :: later =>
    incompleteIn (step s input).1 + discardedIn s (step s input).2 + withheld (step s input).2 later

/-- The jitter that an error reports, as far as the record can hold it. -/
def jitterIn : Outcome → Nat
  | .error (.excessiveJitter millis) => min millis.natAbs (2 ^ 32 - 1)
  | _ => 0

/-- The drift that an error reports. -/
def driftIn : Outcome → Option Int
  | .error (.excessiveDrift partsPerMillion) => some partsPerMillion
  | _ => none

/-- The largest of the jitters that a run reports, or the tolerance. -/
def reportedJitter (outcomes : List Outcome) : Nat :=
  outcomes.foldl (fun jitter outcome => max jitter (jitterIn outcome)) maxReceiveJitterMillis

/-- The last of the drifts that a run reports. -/
def reportedDrift (outcomes : List Outcome) : Option Int := (outcomes.filterMap driftIn).getLast?

/-! ## The gauges -/

/-- How the jitter and the drift of a record move with an outcome: they stay within the tolerances, or the outcome
reports them. -/
structure Gauged (before : ReceiveTimelineHealth) (outcome : Outcome) (after : ReceiveTimelineHealth) : Prop where
  jitter : max after.maxJitterMillis maxReceiveJitterMillis =
    max (max before.maxJitterMillis maxReceiveJitterMillis) (jitterIn outcome)
  drift : driftIn outcome = some after.driftPartsPerMillion ∨
    driftIn outcome = none ∧ (after.driftPartsPerMillion = before.driftPartsPerMillion ∨
      after.driftPartsPerMillion.natAbs ≤ maxReceiveDriftPartsPerMillion)

/-- The outcome reports neither a jitter nor a drift. -/
structure Plain (outcome : Outcome) : Prop where
  jitter : jitterIn outcome = 0
  drift : driftIn outcome = none

theorem plain_ok (events : List ReceiveTimelineEvent) : Plain (.ok events) := ⟨rfl, rfl⟩

section Gauges

variable {before health after : ReceiveTimelineHealth} {outcome other : Outcome}

theorem Plain.gauged (h : Plain outcome) (hjitter : after.maxJitterMillis = before.maxJitterMillis)
    (hdrift : after.driftPartsPerMillion = before.driftPartsPerMillion) : Gauged before outcome after :=
  ⟨by rw [hjitter, h.jitter, Nat.max_zero], .inr ⟨h.drift, .inl hdrift⟩⟩

/-- Outcomes without a report move the gauges alike. -/
theorem Gauged.plain (hgauged : Gauged before outcome after) (h : Plain outcome) (hother : Plain other) :
    Gauged before other after := by
  refine ⟨by rw [hother.jitter, ← h.jitter]; exact hgauged.jitter, ?_⟩
  rcases hgauged.drift with hdrift | ⟨-, hdrift⟩
  · rw [h.drift] at hdrift
    cases hdrift
  · exact .inr ⟨hother.drift, hdrift⟩

theorem Gauged.trans (hfirst : Gauged before (.ok []) health) (h : Gauged health outcome after) :
    Gauged before outcome after := by
  refine ⟨?_, ?_⟩
  · rw [h.jitter, hfirst.jitter, (plain_ok []).jitter, Nat.max_zero]
  · rcases h.drift with hdrift | ⟨hnone, hdrift⟩
    · exact .inl hdrift
    · refine .inr ⟨hnone, ?_⟩
      rcases hdrift with hsame | hsmall
      · rw [hsame]
        rcases hfirst.drift with hreported | ⟨-, hkept⟩
        · cases hreported
        · exact hkept
      · exact .inr hsmall

end Gauges

variable {batch : CaptureBatch} {s t u : Ft8ReceiveTimeline} {observedAt : UInt64}

theorem plain_overflow : Plain (.error .arithmeticOverflow) := ⟨rfl, rfl⟩

theorem validateJitter_gauged (nominal observed : Nat) :
    Ends (validateJitter nominal observed) s (fun _ t => Gauged s.health (.ok []) t.health)
      (fun error t => Gauged s.health (.error error) t.health) := by
  simp only [validateJitter, ends_bind, ends_orThrow, ends_modify, ends_ite, ends_throw, ends_pure]
  refine ⟨fun jitter _ => ?_, fun _ => plain_overflow.gauged rfl rfl⟩
  have hheld : (tryU32 jitter.toInt.natAbs).getD (2 ^ 32 - 1) = min jitter.toInt.natAbs (2 ^ 32 - 1) :=
    tryU32_getD jitter.toInt.natAbs
  rw [hheld]
  refine ⟨fun hlarge => ⟨?_, .inr ⟨rfl, .inl rfl⟩⟩, fun hsmall => ⟨?_, .inr ⟨rfl, .inl rfl⟩⟩⟩
  · show max (max s.health.maxJitterMillis (min jitter.toInt.natAbs (2 ^ 32 - 1))) _ =
      max (max s.health.maxJitterMillis _) (min jitter.toInt.natAbs (2 ^ 32 - 1))
    omega
  · show max (max s.health.maxJitterMillis (min jitter.toInt.natAbs (2 ^ 32 - 1))) _ =
      max (max s.health.maxJitterMillis _) 0
    unfold maxReceiveJitterMillis at hsmall ⊢
    omega

theorem validateRemap_gauged (anchor : TimelineAnchor) :
    Ends (validateRemap anchor batch) s (fun _ t => Gauged s.health (.ok []) t.health)
      (fun error t => Gauged s.health (.error error) t.health) := by
  simp only [validateRemap, ends_bind, ends_orThrow, ends_ite, ends_throw, ends_pure]
  refine ⟨fun remap _ => ⟨fun _ => ?_, fun _ => (plain_ok []).gauged rfl rfl⟩, fun _ => plain_overflow.gauged rfl rfl⟩
  exact Plain.gauged ⟨rfl, rfl⟩ rfl rfl

theorem validateDrift_gauged (nominal observed : Nat) :
    Ends (validateDrift nominal observed) s (fun _ t => Gauged s.health (.ok []) t.health)
      (fun error t => Gauged s.health (.error error) t.health) := by
  simp only [validateDrift, ends_bind, ends_orThrow, ends_modify, ends_ite, ends_throw, ends_pure]
  refine ⟨fun _ => ⟨fun scaled _ => ⟨fun ppm _ => ⟨fun hlarge => ?_, fun hsmall => ?_⟩, fun _ => ?_⟩, fun _ => ?_⟩,
    fun _ => (plain_ok []).gauged rfl rfl⟩
  · exact ⟨(Nat.max_zero _).symm, .inl rfl⟩
  · exact ⟨(Nat.max_zero _).symm, .inr ⟨rfl, .inr (Nat.le_of_not_gt hsmall)⟩⟩
  · exact plain_overflow.gauged rfl rfl
  · exact plain_overflow.gauged rfl rfl

/-- The mapping check moves the gauges only, and reports what leaves the tolerances. -/
theorem validateMapping_gauged (anchor : TimelineAnchor) :
    Ends (validateMapping anchor batch) s (fun _ t => Gauged s.health (.ok []) t.health)
      (fun error t => Gauged s.health (.error error) t.health) := by
  simp only [validateMapping, ends_bind, ends_get, ends_ite, ends_throw, ends_orThrow]
  refine ⟨fun _ => Plain.gauged ⟨rfl, rfl⟩ rfl rfl, fun _ => ⟨fun _ => Plain.gauged ⟨rfl, rfl⟩ rfl rfl, fun _ =>
    ⟨fun delta _ => ⟨fun nominal _ => ?_, fun _ => plain_overflow.gauged rfl rfl⟩,
      fun _ => Plain.gauged ⟨rfl, rfl⟩ rfl rfl⟩⟩⟩
  refine (validateJitter_gauged _ _).imp (fun _ t hjitter => ?_) (fun _ _ h => h)
  refine (validateRemap_gauged anchor).imp (fun _ t' hremap => ?_) (fun _ _ h => hjitter.trans h)
  exact (validateDrift_gauged _ _).imp (fun _ _ h => (hjitter.trans hremap).trans h)
    (fun _ _ h => (hjitter.trans hremap).trans h)

/-! ## Errors of the resampler -/

/-- The errors of the resampler, none of which reports a jitter or a drift. -/
def Internal (error : ReceiveTimelineError) : Prop :=
  error = .arithmeticOverflow ∨ error = .outOfOrder ∨ error = .invalidSlot

theorem Internal.plain {error : ReceiveTimelineError} (h : Internal error) : Plain (.error error) := by
  rcases h with rfl | rfl | rfl <;> exact ⟨rfl, rfl⟩

theorem internal_overflow : Internal .arithmeticOverflow := .inl rfl

theorem internal_order : Internal .outOfOrder := .inr (.inl rfl)

theorem incompleteEvent_internal (active : Option WindowAccumulator) :
    Errs Internal (active.elim (.ok none) WindowAccumulator.incompleteEvent) := by
  cases active with
  | none => exact errs_ok none
  | some active =>
    show Errs Internal active.incompleteEvent
    unfold WindowAccumulator.incompleteEvent
    split
    · exact errs_ok none
    · split
      · exact errs_error internal_overflow
      · exact errs_ok _

theorem accumulator_internal (slotTick firstTick : Int) (mapping : CaptureTimeEvidence) :
    Errs Internal (WindowAccumulator.new slotTick firstTick mapping) := by
  unfold WindowAccumulator.new
  split
  · exact errs_error internal_overflow
  · apply Errs.map
    unfold Ft8ReceiveSlot.new
    split
    · exact errs_ok _
    · exact errs_error (.inr (.inr rfl))

theorem mappingForTick_internal (r : RationalResampler) (slotTick : Int) :
    Errs Internal (r.mappingForTick slotTick) := by
  unfold mappingForTick evidenceAt
  apply (errs_okOr internal_overflow _).bind
  intro anchorTick
  apply (errs_okOr internal_overflow _).bind
  intro tickDelta
  apply (errs_okOr internal_overflow _).bind
  intro scaled
  apply (errs_okOr internal_overflow _).bind
  intro sourceDelta
  split
  · exact errs_ok _
  · apply (errs_okOr internal_overflow _).bind
    intro slotMillis
    apply (errs_okOr internal_overflow _).bind
    intro monotonicMillis
    exact errs_mapError internal_overflow _

theorem interpolate_internal (previous current : Int16) (numerator denominator : Int) :
    Errs Internal (interpolate previous current numerator denominator) := by
  unfold interpolate
  split
  · exact errs_error internal_overflow
  split
  · exact errs_error internal_overflow
  dsimp only
  split
  · exact errs_error internal_overflow
  · exact errs_ok _

theorem enterSlot_internal (slotTick : Int) : Raises Internal (enterSlot slotTick) := by
  unfold enterSlot
  apply raises_get.bind
  intro r
  apply raises_ite
  · apply (raises_modify _).bind
    intro _
    apply (raises_fromResult (incompleteEvent_internal r.active)).bind
    intro event
    apply (raises_fromResult (mappingForTick_internal r slotTick)).bind
    intro mapping
    apply (raises_fromResult (accumulator_internal slotTick r.nextOutputTick mapping)).bind
    intro entered
    exact (raises_modify _).bind fun _ => raises_pure _
  · exact raises_pure _

theorem appendSample_internal (sample : Int16) : Raises Internal (appendSample sample) := by
  unfold appendSample
  apply raises_get.bind
  intro r
  apply (raises_orThrow internal_overflow _).bind
  intro active
  apply raises_ite
  · apply (raises_modify _).bind
    intro _
    apply (raises_fromResult (errs_mapError internal_overflow _)).bind
    exact fun window => raises_pure _
  · exact (raises_modify _).bind fun _ => raises_pure _

theorem pushOutput_internal (sample : Int16) : Raises Internal (pushOutput sample) := by
  unfold pushOutput
  apply raises_get.bind
  intro r
  apply (enterSlot_internal _).bind
  intro withheld
  exact (appendSample_internal sample).bind fun completed => raises_pure _

theorem pushTick_internal (positionDelta : Nat) (sample : Int16) (currentSourceTick : Int) :
    Raises Internal (pushTick positionDelta sample currentSourceTick) := by
  unfold pushTick
  apply raises_get.bind
  intro r
  apply (raises_orThrow internal_overflow _).bind
  intro target
  apply raises_ite
  · exact raises_pure _
  apply (raises_orThrow internal_overflow _).bind
  intro previous
  apply (raises_orThrow internal_overflow _).bind
  intro previousSourceTick
  apply raises_ite
  · exact raises_throw internal_order
  refine (raises_fromResult ?_).bind fun interpolated => ?_
  · split
    · exact errs_ok _
    · exact interpolate_internal _ _ _ _
  apply (pushOutput_internal interpolated).bind
  intro events
  apply (raises_orThrow internal_overflow _).bind
  exact fun nextOutputTick => (raises_modify _).bind fun _ => raises_pure _

theorem pushTicks_internal (positionDelta : Nat) (sample : Int16) (currentSourceTick : Int) (passes : Nat) :
    Raises Internal (pushTicks positionDelta sample currentSourceTick passes) := by
  induction passes with
  | zero => exact raises_pure _
  | succ passes ih =>
    unfold pushTicks
    apply (pushTick_internal positionDelta sample currentSourceTick).bind
    intro events
    cases events with
    | none => exact raises_pure _
    | some events => exact ih.bind fun later => raises_pure _

theorem pushSample_internal (position : UInt64) (sample : Int16) : Raises Internal (pushSample position sample) := by
  unfold pushSample
  apply raises_get.bind
  intro r
  apply (raises_orThrow internal_order _).bind
  intro delta
  apply (raises_modify _).bind
  intro _
  apply (raises_orThrow internal_overflow _).bind
  intro currentSourceTick
  apply (pushTicks_internal _ _ _ _).bind
  exact fun events => (raises_modify _).bind fun _ => raises_pure _

theorem pushSamples_internal (firstPosition : UInt64) (index : Nat) (samples : List Int16) :
    Raises Internal (pushSamples firstPosition index samples) := by
  induction samples generalizing index with
  | nil => exact raises_pure _
  | cons sample samples ih =>
    unfold pushSamples
    apply (raises_orThrow internal_overflow _).bind
    intro position
    apply (pushSample_internal position sample).bind
    exact fun events => (ih (index + 1)).bind fun later => raises_pure _

theorem push_internal (batch : CaptureBatch) : Raises Internal (RationalResampler.push batch) :=
  pushSamples_internal _ 0 batch.samples

/-! ## Refused batches -/

/-- `u` expects something else than `s` and is the same otherwise. -/
def Advanced (s u : Ft8ReceiveTimeline) : Prop :=
  ∃ lastBatchPosition lastMonotonicMillis expectedPosition,
    u = { s with lastBatchPosition, lastMonotonicMillis, expectedPosition }

theorem advanceExpected_advanced :
    Ends (advanceExpected batch) s (fun _ u => Advanced s u) (fun _ u => Advanced s u ∧ ¬EndFits batch) := by
  simp only [advanceExpected, ends_bind, ends_modify, ends_fromResult]
  refine ⟨fun _ _ => ⟨_, _, _, rfl⟩, fun error herror => ⟨⟨_, _, _, rfl⟩, ?_⟩⟩
  rintro ⟨position, hposition⟩
  rw [hposition] at herror
  cases herror

/-- The stream of a timeline. -/
def stream (s : Ft8ReceiveTimeline) : ProcessGeneration × StreamGeneration × InputConfiguration :=
  (s.processGeneration, s.streamGeneration, s.configuration)

/-- The batch has been refused: the active slot is discarded, `late` is the count of late batches, and the error reports
the gauges that left the tolerances. -/
structure Refused (batch : CaptureBatch) (s : Ft8ReceiveTimeline) (late : Nat) (error : ReceiveTimelineError)
    (u : Ft8ReceiveTimeline) : Prop where
  discarded : Discarded s u
  stream : u.stream = s.stream
  late : u.health.lateBatchCount = late
  gauged : EndFits batch → Gauged s.health (.error error) u.health

/-- A rejection whose error reports the gauges. -/
theorem reject_refused {error : ReceiveTimelineError} (hgauged : Gauged s.health (.error error) t.health)
    (hresampler : t.resampler = s.resampler) (hcount : t.health.incompleteSlotCount = s.health.incompleteSlotCount)
    (hstream : t.stream = s.stream) :
    Ends (reject batch error) t (fun _ _ => False) (Refused batch s t.health.lateBatchCount) := by
  have hdiscarded : Discarded s t.invalidateActive := by
    have hpart : partialSamples t = partialSamples s := by
      unfold partialSamples
      rw [hresampler]
    refine ⟨rfl, rfl, ?_⟩
    rw [(invalidateActive_discarded t).count, hpart, hcount]
  simp only [reject, ends_bind, ends_modify, ends_throw]
  refine advanceExpected_advanced.imp ?_ ?_
  · rintro _ _ ⟨_, _, _, rfl⟩
    exact ⟨⟨rfl, rfl, hdiscarded.count⟩, hstream, rfl, fun _ => ⟨hgauged.jitter, hgauged.drift⟩⟩
  · rintro _ _ ⟨⟨_, _, _, rfl⟩, hunfit⟩
    exact ⟨⟨rfl, rfl, hdiscarded.count⟩, hstream, rfl, fun hfits => absurd hfits hunfit⟩

/-- A rejection whose error reports no gauge. -/
theorem reject_plain {error : ReceiveTimelineError} (h : Plain (.error error)) :
    Ends (reject batch error) s (fun _ _ => False) (Refused batch s s.health.lateBatchCount) :=
  reject_refused (h.gauged rfl rfl) rfl rfl rfl

theorem checkLateness_refused :
    Ends (checkLateness batch observedAt) s
      (fun _ t => t = s ∧ ¬maxReceiveBatchLatenessMillis < lateness batch observedAt)
      (fun error u => maxReceiveBatchLatenessMillis < lateness batch observedAt ∧
        Refused batch s (saturatingAdd s.health.lateBatchCount 1) error u) := by
  simp only [checkLateness, ends_ite, ends_bind, ends_modify, ends_pure]
  refine ⟨fun hlate => ?_, fun hlate => ⟨trivial, hlate⟩⟩
  have hplain : Plain (.error (.lateData (lateness batch observedAt))) := ⟨rfl, rfl⟩
  refine Ends.imp (reject_refused (s := s) ?_ rfl rfl rfl) (fun _ _ hfalse => hfalse.elim) ?_
  · exact hplain.gauged rfl rfl
  · exact fun _ _ hrefused => ⟨hlate, hrefused⟩

theorem validateIdentity_plain : Errs (fun error => Plain (.error error)) (s.validateIdentity batch) := by
  unfold validateIdentity
  split
  · exact errs_error ⟨rfl, rfl⟩
  split
  · exact errs_error ⟨rfl, rfl⟩
  split
  · exact errs_error ⟨rfl, rfl⟩
  · exact errs_ok ()

theorem validatePosition_plain : Errs (fun error => Plain (.error error)) (s.validatePosition batch) := by
  unfold validatePosition
  split
  · exact errs_ok ()
  dsimp only
  split
  · exact errs_ok ()
  split
  · split
    · exact errs_error ⟨rfl, rfl⟩
    · exact errs_error ⟨rfl, rfl⟩
  · exact errs_error ⟨rfl, rfl⟩

theorem checkPosition_refused :
    Ends (checkPosition batch) s (fun _ t => t = s) (Refused batch s s.health.lateBatchCount) := by
  simp only [checkPosition, ends_bind, ends_get]
  split
  · rfl
  · exact (reject_plain ⟨rfl, rfl⟩).imp (fun _ _ hfalse => hfalse.elim) (fun _ _ hrefused => hrefused)
  · rename_i error herror hposition
    exact ⟨invalidateActive_discarded s, rfl, rfl, fun _ => (validatePosition_plain _ hposition).gauged rfl rfl⟩

theorem checkDiscontinuity_refused :
    Ends (checkDiscontinuity batch) s (fun _ t => t = s) (Refused batch s s.health.lateBatchCount) := by
  unfold checkDiscontinuity
  split
  · rfl
  · simp only [ends_bind, ends_get, ends_ite, ends_pure, implies_true, true_and]
    exact fun _ => (reject_plain ⟨rfl, rfl⟩).imp (fun _ _ hfalse => hfalse.elim) (fun _ _ hrefused => hrefused)

/-- The timeline after the mapping check: anchored, with its gauges moved. -/
structure Anchored (s t : Ft8ReceiveTimeline) : Prop where
  stream : t.stream = s.stream
  resampler : t.resampler = s.resampler
  late : t.health.lateBatchCount = s.health.lateBatchCount
  count : t.health.incompleteSlotCount = s.health.incompleteSlotCount
  gauged : Gauged s.health (.ok []) t.health

theorem checkMapping_refused :
    Ends (checkMapping batch) s (fun _ t => Anchored s t) (Refused batch s s.health.lateBatchCount) := by
  simp only [checkMapping, ends_bind, ends_get]
  cases s.anchor with
  | none => exact ⟨rfl, rfl, rfl, rfl, (plain_ok []).gauged rfl rfl⟩
  | some anchor =>
    simp only [ends_tryCatch]
    refine ((validateMapping_ends anchor).and (validateMapping_gauged anchor)).imp ?_ ?_
    · rintro _ _ ⟨⟨⟨_, _, rfl⟩, -⟩, hgauged⟩
      exact ⟨rfl, rfl, rfl, rfl, hgauged⟩
    · rintro error _ ⟨⟨⟨_, _, rfl⟩, -⟩, hgauged⟩
      exact (reject_refused hgauged rfl rfl rfl).imp (fun _ _ hfalse => hfalse.elim) (fun _ _ hrefused => hrefused)

/-! ## One push -/

/-- What a push from `s` with this outcome writes to the record. -/
structure Charged (s : Ft8ReceiveTimeline) (input : CaptureBatch × UInt64) (outcome : Outcome)
    (u : Ft8ReceiveTimeline) : Prop where
  stream : u.stream = s.stream
  late : u.health.lateBatchCount =
    if s.tooLate input then saturatingAdd s.health.lateBatchCount 1 else s.health.lateBatchCount
  count : EndFits input.1 → s.health.incompleteSlotCount < 2 ^ 64 →
    u.health.incompleteSlotCount = saturatingAdd s.health.incompleteSlotCount (incompleteIn outcome + discardedIn s u)
  gauged : EndFits input.1 → Gauged s.health outcome u.health

theorem tooLate_iff : s.tooLate (batch, observedAt) = true ↔
    s.validateIdentity batch = .ok () ∧ maxReceiveBatchLatenessMillis < lateness batch observedAt := by
  rw [tooLate, Bool.and_eq_true, decide_eq_true_eq, decide_eq_true_eq]

/-- A timeline that holds samples has a resampler. -/
theorem resampler_of_samples (h : partialSamples s ≠ []) : s.resampler ≠ none := by
  intro hnone
  apply h
  unfold partialSamples
  rw [hnone]
  rfl

theorem discardedIn_of_kept (h : s.resampler ≠ none → u.resampler ≠ none) : discardedIn s u = 0 := by
  unfold discardedIn
  apply if_neg
  rintro ⟨hpart, hnone⟩
  exact h (resampler_of_samples hpart) hnone

theorem Refused.charged {late : Nat} {error : ReceiveTimelineError} (h : Refused batch s late error u)
    (hlate : late = if s.tooLate (batch, observedAt) then saturatingAdd s.health.lateBatchCount 1
      else s.health.lateBatchCount) : Charged s (batch, observedAt) (.error error) u := by
  refine ⟨h.stream, h.late.trans hlate, fun _ hbound => ?_, h.gauged⟩
  rw [h.discarded.count, incompleteIn, discardedIn, Nat.zero_add]
  by_cases hpart : partialSamples s = []
  · rw [if_pos hpart, if_neg (fun hgone => hgone.1 hpart), saturatingAdd_zero hbound]
  · rw [if_neg hpart, if_pos ⟨hpart, h.discarded.resampler⟩]

/-- **One push** charges the record with its outcome. -/
theorem push_charged :
    Ends (push batch observedAt) s (fun events u => Charged s (batch, observedAt) (.ok events) u)
      (fun error u => Charged s (batch, observedAt) (.error error) u) := by
  simp only [push, ends_bind, ends_get, ends_fromResult, ends_modify, ends_pure]
  refine ⟨fun _ hid => ?_, fun error herror => ?_⟩
  swap
  · refine ⟨rfl, (if_neg fun hlate => ?_).symm, fun _ hbound => ?_, fun _ =>
      (validateIdentity_plain error herror).gauged rfl rfl⟩
    · rw [(tooLate_iff.mp hlate).1] at herror
      cases herror
    · rw [discardedIn_of_kept (fun h => h)]
      exact (saturatingAdd_zero hbound).symm
  refine checkLateness_refused.imp ?_ ?_
  swap
  · rintro error u ⟨hlate, hrefused⟩
    exact hrefused.charged (by rw [if_pos (tooLate_iff.mpr ⟨hid, hlate⟩)])
  rintro - s ⟨rfl, hintime⟩
  have hlate : s.health.lateBatchCount = if s.tooLate (batch, observedAt) then
      saturatingAdd s.health.lateBatchCount 1 else s.health.lateBatchCount :=
    (if_neg fun hlate => hintime (tooLate_iff.mp hlate).2).symm
  refine checkPosition_refused.imp ?_ (fun _ _ hrefused => hrefused.charged hlate)
  rintro - s rfl
  refine checkDiscontinuity_refused.imp ?_ (fun _ _ hrefused => hrefused.charged hlate)
  rintro - s rfl
  refine checkMapping_refused.imp ?_ (fun _ _ hrefused => hrefused.charged hlate)
  rintro - t hanchored
  refine ensureResampler_resampling.imp ?_ (fun _ _ hno => ?_)
  swap
  · obtain ⟨r, hr⟩ := exists_resampling batch t
    exact absurd hr (hno.2 r)
  rintro - _ ⟨r, hr, rfl⟩
  rw [onResampler, ends_onPart]
  refine ⟨(by simp), ?_⟩
  rintro _ ⟨rfl⟩
  refine (push_internal batch r).imp (fun events r' _ => ?_) (fun error r' hinternal => ?_)
  · refine advanceExpected_advanced.imp ?_ ?_
    · rintro _ _ ⟨_, _, _, rfl⟩
      have hgauged := hanchored.gauged.plain (plain_ok []) (plain_ok events)
      refine ⟨hanchored.stream, hanchored.late.trans hlate, fun _ _ => ?_, fun _ => ⟨hgauged.jitter, hgauged.drift⟩⟩
      rw [discardedIn_of_kept (fun _ => by simp [countIncomplete]), ← hanchored.count]
      rfl
    · -- the events are counted and lost
      rintro error _ ⟨⟨_, _, _, rfl⟩, hunfit⟩
      exact ⟨hanchored.stream, hanchored.late.trans hlate, fun hfits => absurd hfits hunfit,
        fun hfits => absurd hfits hunfit⟩
  · refine ⟨hanchored.stream, hanchored.late.trans hlate, fun _ hbound => ?_, fun _ =>
      hanchored.gauged.plain (plain_ok []) hinternal.plain⟩
    rw [discardedIn_of_kept (fun _ => by simp)]
    exact hanchored.count.trans (saturatingAdd_zero hbound).symm

theorem step_charged (s : Ft8ReceiveTimeline) (input : CaptureBatch × UInt64) :
    Charged s input (step s input).1 (step s input).2 := by
  obtain ⟨batch, observedAt⟩ := input
  unfold step
  cases hpush : push batch observedAt s with
  | ok events u => exact push_charged.of_ok hpush
  | error error u => exact push_charged.of_error hpush

/-! ## Runs -/

/-- What is too late depends on the stream of the timeline alone. -/
theorem tooLate_congr (h : u.stream = s.stream) : u.tooLate = s.tooLate := by
  simp only [stream, Prod.mk.injEq] at h
  obtain ⟨hprocess, hstream, hconfiguration⟩ := h
  funext input
  unfold tooLate validateIdentity
  rw [hprocess, hstream, hconfiguration]

variable {inputs : List (CaptureBatch × UInt64)}

theorem late_run (hlate : s.health.lateBatchCount < 2 ^ 64) :
    (final step s inputs).health.lateBatchCount = saturatingAdd s.health.lateBatchCount (inputs.countP s.tooLate) := by
  induction inputs generalizing s with
  | nil => exact (saturatingAdd_zero hlate).symm
  | cons input inputs ih =>
    have hcharged := step_charged s input
    have hnext : (step s input).2.health.lateBatchCount =
        saturatingAdd s.health.lateBatchCount (if s.tooLate input then 1 else 0) := by
      rw [hcharged.late]
      split
      · rfl
      · exact (saturatingAdd_zero hlate).symm
    rw [final_cons, ih (hnext ▸ saturatingAdd_lt _ _), hnext, saturatingAdd_add, tooLate_congr hcharged.stream,
      List.countP_cons, Nat.add_comm]

theorem count_run (hfits : ∀ input ∈ inputs, EndFits input.1) (hcount : s.health.incompleteSlotCount < 2 ^ 64) :
    (final step s inputs).health.incompleteSlotCount =
      saturatingAdd s.health.incompleteSlotCount (withheld s inputs) := by
  induction inputs generalizing s with
  | nil => exact (saturatingAdd_zero hcount).symm
  | cons input inputs ih =>
    obtain ⟨hfirst, hlater⟩ := List.forall_mem_cons.mp hfits
    have hnext := (step_charged s input).count hfirst hcount
    rw [final_cons, ih hlater (hnext ▸ saturatingAdd_lt _ _), hnext, saturatingAdd_add, withheld]

theorem jitter_run (hfits : ∀ input ∈ inputs, EndFits input.1) :
    max (final step s inputs).health.maxJitterMillis maxReceiveJitterMillis =
      ((transcript step s inputs).map Prod.snd).foldl (fun jitter outcome => max jitter (jitterIn outcome))
        (max s.health.maxJitterMillis maxReceiveJitterMillis) := by
  induction inputs generalizing s with
  | nil => rfl
  | cons input inputs ih =>
    obtain ⟨hfirst, hlater⟩ := List.forall_mem_cons.mp hfits
    rw [final_cons, ih hlater, ((step_charged s input).gauged hfirst).jitter]
    rfl

/-- A push that reports at most one event withholds at most two slots. -/
theorem withheld_le (hone : ∀ entry ∈ transcript step s inputs, (eventsOf entry).length ≤ 1) :
    withheld s inputs ≤ 2 * inputs.length := by
  induction inputs generalizing s with
  | nil => exact Nat.le_refl 0
  | cons input inputs ih =>
    rw [transcript_cons, List.forall_mem_cons] at hone
    have hlater := ih hone.2
    have hreported : incompleteIn (step s input).1 ≤ 1 := by
      have hfirst := hone.1
      cases hstep : (step s input).1 with
      | ok events =>
        rw [hstep, eventsOf] at hfirst
        exact List.countP_le_length.trans hfirst
      | error error => exact Nat.zero_le 1
    have hdiscarded : discardedIn s (step s input).2 ≤ 1 := by
      unfold discardedIn
      split <;> decide
    rw [withheld, List.length_cons]
    omega

/-- An accepted run reports no jitter. -/
theorem foldl_accepted {entries : List ((CaptureBatch × UInt64) × Outcome)} (hok : ∀ entry ∈ entries, entry.2.isOk)
    (jitter : Nat) :
    (entries.map Prod.snd).foldl (fun jitter outcome => max jitter (jitterIn outcome)) jitter = jitter := by
  induction entries with
  | nil => rfl
  | cons entry entries ih =>
    obtain ⟨hfirst, hlater⟩ := List.forall_mem_cons.mp hok
    have hnone : jitterIn entry.2 = 0 := by
      obtain ⟨input, outcome⟩ := entry
      cases outcome with
      | ok events => rfl
      | error error => cases hfirst
    rw [List.map_cons, List.foldl_cons, hnone, Nat.max_zero]
    exact ih hlater

/-- **The counters of an accepted run are small.** -/
theorem accepted_bounds {processGeneration : ProcessGeneration} {streamGeneration : StreamGeneration}
    {configuration : InputConfiguration} (hfits : ∀ input ∈ inputs, EndFits input.1)
    (hok : ∀ entry ∈ transcript step (new processGeneration streamGeneration configuration) inputs, entry.2.isOk) :
    let health := (final step (new processGeneration streamGeneration configuration) inputs).health
    health.lateBatchCount ≤ inputs.length ∧ health.incompleteSlotCount ≤ 2 * inputs.length ∧
      health.maxJitterMillis ≤ maxReceiveJitterMillis := by
  intro health
  refine ⟨?_, ?_, ?_⟩
  · have hlate : health.lateBatchCount = _ := late_run (Nat.two_pow_pos 64)
    have hcount := List.countP_le_length (p := (new processGeneration streamGeneration configuration).tooLate) (l := inputs)
    rw [hlate, saturatingAdd]
    exact (Nat.min_le_left _ _).trans ((Nat.zero_add _).trans_le hcount)
  · have hone : ∀ entry ∈ transcript step (new processGeneration streamGeneration configuration) inputs,
        (eventsOf entry).length ≤ 1 := by
      cases inputs with
      | nil => simp
      | cons first rest => exact (events_reconstructed first rest hok).2
    have hcount : health.incompleteSlotCount = _ := count_run hfits (Nat.two_pow_pos 64)
    rw [hcount, saturatingAdd]
    exact (Nat.min_le_left _ _).trans ((Nat.zero_add _).trans_le (withheld_le hone))
  · have hjitter := jitter_run (s := new processGeneration streamGeneration configuration) hfits
    rw [foldl_accepted hok] at hjitter
    exact (Nat.le_max_left _ _).trans hjitter.le

theorem reportedDrift_cons (outcome : Outcome) (outcomes : List Outcome) :
    reportedDrift (outcome :: outcomes) = (reportedDrift outcomes).or (driftIn outcome) := by
  unfold reportedDrift
  cases hdrift : driftIn outcome with
  | none => rw [List.filterMap_cons_none hdrift, Option.or_none]
  | some drift =>
    rw [List.filterMap_cons_some hdrift, List.getLast?_cons]
    cases (outcomes.filterMap driftIn).getLast? <;> rfl

theorem drift_run (hfits : ∀ input ∈ inputs, EndFits input.1) :
    let outcomes := (transcript step s inputs).map Prod.snd
    let drift := (final step s inputs).health.driftPartsPerMillion
    drift.natAbs ≤ maxReceiveDriftPartsPerMillion ∨ reportedDrift outcomes = some drift ∨
      reportedDrift outcomes = none ∧ drift = s.health.driftPartsPerMillion := by
  induction inputs generalizing s with
  | nil => exact .inr (.inr ⟨rfl, rfl⟩)
  | cons input inputs ih =>
    obtain ⟨hfirst, hlater⟩ := List.forall_mem_cons.mp hfits
    simp only [transcript_cons, List.map_cons, final_cons, reportedDrift_cons]
    rcases ih hlater with hsmall | hreported | ⟨hnone, hkept⟩
    · exact .inl hsmall
    · exact .inr (.inl (by rw [hreported]; rfl))
    · rw [hkept, hnone]
      rcases ((step_charged s input).gauged hfirst).drift with hreported | ⟨hquiet, hsame | hsmall⟩
      · exact .inr (.inl hreported)
      · exact .inr (.inr ⟨hquiet, hsame⟩)
      · exact .inl hsmall

/-- **The health record accounts for its run**, whatever the batches are. The late count is that of the late batches of
the stream. While every batch ends at a frame number, the incomplete count is that of the slots withheld, the largest
jitter beyond the tolerance is the largest one reported, and a drift beyond its tolerance is the last one reported. -/
theorem health_accounts (processGeneration : ProcessGeneration) (streamGeneration : StreamGeneration)
    (configuration : InputConfiguration) (inputs : List (CaptureBatch × UInt64)) :
    let s := new processGeneration streamGeneration configuration
    let outcomes := (transcript step s inputs).map Prod.snd
    let health := (final step s inputs).health
    health.lateBatchCount = min (inputs.countP s.tooLate) (2 ^ 64 - 1) ∧
      ((∀ input ∈ inputs, EndFits input.1) →
        health.incompleteSlotCount = min (withheld s inputs) (2 ^ 64 - 1) ∧
          max health.maxJitterMillis maxReceiveJitterMillis = reportedJitter outcomes ∧
            (health.driftPartsPerMillion.natAbs ≤ maxReceiveDriftPartsPerMillion ∨
              reportedDrift outcomes = some health.driftPartsPerMillion)) := by
  have hzero (k : Nat) : saturatingAdd 0 k = min k (2 ^ 64 - 1) := by rw [saturatingAdd, Nat.zero_add]
  refine ⟨?_, fun hfits => ⟨?_, ?_, ?_⟩⟩
  · rw [← hzero]
    exact late_run (Nat.two_pow_pos 64)
  · rw [← hzero]
    exact count_run hfits (Nat.two_pow_pos 64)
  · exact jitter_run hfits
  · rcases drift_run hfits with hsmall | hreported | ⟨-, hkept⟩
    · exact .inl hsmall
    · exact .inr hreported
    · exact .inl (hkept ▸ Nat.zero_le _)

/-- A capture that starts late in a slot, goes on into the next one, and delivers its third batch three seconds late. -/
def lateThirdRun : List (CaptureBatch × UInt64) :=
  [lateStartBatch 0, lateStartBatch 8, ((lateStartBatch 16).1, 3000)]

/-- The first slot is reported as incomplete, and the late batch discards the second. -/
theorem health_accounts_late :
    let health := (final step (new ⟨1, one_nonzero⟩ ⟨1, one_nonzero⟩ monoConfiguration) lateThirdRun).health
    health.lateBatchCount = 1 ∧ health.incompleteSlotCount = 2 := by
  obtain ⟨hlate, hcounts⟩ := health_accounts ⟨1, one_nonzero⟩ ⟨1, one_nonzero⟩ monoConfiguration lateThirdRun
  have hfits : ∀ input ∈ lateThirdRun, EndFits input.1 := by
    simp only [lateThirdRun, List.forall_mem_cons]
    exact ⟨⟨_, rfl⟩, ⟨_, rfl⟩, ⟨_, rfl⟩, by simp⟩
  exact ⟨hlate.trans (by decide +kernel), (hcounts hfits).1.trans (by decide +kernel)⟩

end Slotpilot.Audio.Ft8ReceiveTimeline
