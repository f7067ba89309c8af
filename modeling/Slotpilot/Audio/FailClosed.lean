import Slotpilot.Audio.Reconstruct
import Mathlib

/-!
# What a rejected batch leaves

`push_ends` says what a push does from any timeline: a batch of another identity changes nothing, a batch that fails a
check discards the active slot, and a batch that passes all of them (`Taken`) is either consumed or stops half way.
The last case is the one that does not fail closed: errors of the resampler and of the end position return before
anything is discarded. Over a run every error fails closed exactly when each taken batch is representable and no count
is saturated (`fails_closed_iff`).
-/

set_option autoImplicit false

namespace Slotpilot.Audio.Ft8ReceiveTimeline

open Lib RationalResampler

variable {batch : CaptureBatch} {s t u : Ft8ReceiveTimeline} {observedAt : UInt64}

/-! ## Discarding the active slot -/

/-- Samples of the active slot. -/
def partialSamples (t : Ft8ReceiveTimeline) : List Int16 := ((t.resampler.bind (·.active)).map (·.samples)).getD []

/-- The anchor, the resampler and the active slot of `s` are gone, and the slot is counted when it held a sample. -/
structure Discarded (s u : Ft8ReceiveTimeline) : Prop where
  anchor : u.anchor = none
  resampler : u.resampler = none
  count : u.health.incompleteSlotCount =
    if partialSamples s = [] then s.health.incompleteSlotCount else saturatingAdd s.health.incompleteSlotCount 1

/-- A slot is reported as discarded when it held a sample. -/
theorem discarded_isSome : (s.resampler.bind (·.discardActive.1)).isSome ↔ partialSamples s ≠ [] := by
  unfold partialSamples
  cases s.resampler with
  | none => simp
  | some r =>
    obtain ⟨_, _, _, _, _, _, active⟩ := r
    cases active with
    | none => simp [discardActive]
    | some acc => by_cases h : acc.samples = [] <;> simp [discardActive, h]

theorem invalidateActive_discarded (s : Ft8ReceiveTimeline) : Discarded s s.invalidateActive := by
  refine ⟨rfl, rfl, ?_⟩
  show (if _ then _ else _) = _
  by_cases hpart : partialSamples s = []
  · rw [if_pos hpart, if_neg (fun h => discarded_isSome.mp h hpart)]
  · rw [if_neg hpart, if_pos (discarded_isSome.mpr hpart)]

theorem advanceExpected_discarded (h : Discarded s t) :
    Ends (advanceExpected batch) t (fun _ u => Discarded s u) (fun _ u => Discarded s u) := by
  simp only [advanceExpected, ends_bind, ends_modify, ends_fromResult]
  exact ⟨fun _ _ => ⟨h.anchor, h.resampler, h.count⟩, fun _ _ => ⟨h.anchor, h.resampler, h.count⟩⟩

theorem reject_discarded (error : ReceiveTimelineError) :
    Ends (reject batch error) s (fun _ _ => False) (fun _ u => Discarded s u) := by
  simp only [reject, ends_bind, ends_modify, ends_throw]
  exact advanceExpected_discarded (invalidateActive_discarded s)

/-! ## The checks -/

/-- The batch has no discontinuity, or it is a restart before the first expected frame. -/
def Continues (s : Ft8ReceiveTimeline) (batch : CaptureBatch) : Prop :=
  ∀ d, batch.discontinuity = some d → s.expectedPosition = none ∧ d.kind = .streamRestart

/-- The clocks of the batch agree with the anchor's, if there is one. -/
def Agrees (s : Ft8ReceiveTimeline) (batch : CaptureBatch) : Prop :=
  ∀ anchor, s.anchor = some anchor → MappingAgrees s anchor batch

/-- The batch passes every check. -/
structure Taken (s : Ft8ReceiveTimeline) (batch : CaptureBatch) (observedAt : UInt64) : Prop where
  identity : s.validateIdentity batch = .ok ()
  inTime : lateness batch observedAt ≤ maxReceiveBatchLatenessMillis
  start : StartsExpected batch s
  continues : Continues s batch
  agrees : Agrees s batch

theorem checkLateness_discarded :
    Ends (checkLateness batch observedAt) s (fun _ t => t = s ∧ lateness batch observedAt ≤ maxReceiveBatchLatenessMillis)
      (fun _ t => ¬lateness batch observedAt ≤ maxReceiveBatchLatenessMillis ∧ Discarded s t) := by
  simp only [checkLateness, ends_ite, ends_bind, ends_modify, ends_pure]
  refine ⟨fun h => ?_, fun h => ⟨trivial, Nat.le_of_not_gt h⟩⟩
  exact (reject_discarded _).imp (fun _ _ hf => hf.elim)
    (fun _ _ hd => ⟨Nat.not_le.mpr h, hd.anchor, hd.resampler, hd.count⟩)

theorem checkPosition_discarded :
    Ends (checkPosition batch) s (fun _ t => t = s ∧ StartsExpected batch s)
      (fun _ t => ¬StartsExpected batch s ∧ Discarded s t) := by
  simp only [checkPosition, ends_bind, ends_get, ← validatePosition_ok]
  cases s.validatePosition batch with
  | ok _ => exact ⟨rfl, rfl⟩
  | error error =>
    cases error with
    | gap frames => exact (reject_discarded _).imp (fun _ _ hf => hf.elim) (fun _ _ hd => ⟨by simp, hd⟩)
    | _ => exact ⟨by simp, invalidateActive_discarded s⟩

theorem checkDiscontinuity_discarded :
    Ends (checkDiscontinuity batch) s (fun _ t => t = s ∧ Continues s batch)
      (fun _ t => ¬Continues s batch ∧ Discarded s t) := by
  unfold checkDiscontinuity Continues
  cases batch.discontinuity with
  | none => simp
  | some d =>
    simp only [ends_bind, ends_get, ends_ite, ends_pure, Option.some.injEq, forall_eq']
    exact ⟨fun h => ⟨trivial, h⟩, fun h => (reject_discarded _).imp (fun _ _ hf => hf.elim) (fun _ _ hd => ⟨h, hd⟩)⟩

theorem checkMapping_discarded :
    Ends (checkMapping batch) s
      (fun _ t => (∃ health, t = { s with anchor := some (anchorAfter batch s), health }) ∧ Agrees s batch)
      (fun _ t => ¬Agrees s batch ∧ Discarded s t) := by
  simp only [checkMapping, ends_bind, ends_get]
  unfold anchorAfter Agrees
  cases h : s.anchor with
  | none => exact ⟨⟨s.health, rfl⟩, by simp⟩
  | some anchor =>
    simp only [ends_tryCatch, Option.some.injEq, forall_eq']
    refine (validateMapping_ends anchor).imp ?_ ?_
    · rintro _ _ ⟨⟨jitter, drift, rfl⟩, hagrees⟩
      exact ⟨⟨_, by rw [Option.getD_some, ← h]⟩, hagrees⟩
    · rintro error _ ⟨⟨jitter, drift, rfl⟩, hno⟩
      exact (reject_discarded error).imp (fun _ _ hf => hf.elim)
        (fun _ _ hd => ⟨hno, hd.anchor, hd.resampler, hd.count⟩)

/-! ## One push -/

/-- A new resampler always exists. -/
theorem exists_new (anchor : CaptureTimeEvidence) (rate : Nat) (processGeneration : ProcessGeneration)
    (streamGeneration : StreamGeneration) :
    ∃ r, RationalResampler.new anchor rate processGeneration streamGeneration = .ok r := by
  have hlt := anchor.utcUnixMillis.toInt_lt
  have hle := anchor.utcUnixMillis.le_toInt
  have htick : tryI128 (anchor.utcUnixMillis.toInt * outputTicksPerMillisecond) =
      some (anchor.utcUnixMillis.toInt * outputTicksPerMillisecond) := by
    rw [outputTicksPerMillisecond_eq, tryI128_eq_some]
    omega
  unfold RationalResampler.new
  rw [htick]
  exact ⟨_, rfl⟩

theorem exists_resampling (batch : CaptureBatch) (s : Ft8ReceiveTimeline) : ∃ r, Resampling batch s r := by
  cases hs : s.resampler with
  | some r => exact ⟨r, .inl hs⟩
  | none =>
    obtain ⟨r, hr⟩ := exists_new batch.firstFrame s.configuration.sampleRateHz s.processGeneration s.streamGeneration
    exact ⟨r, .inr ⟨hs, hr⟩⟩

/-- A taken batch has stopped half way: the anchor is set, and the resampler or the end position failed. -/
structure StoppedShort (batch : CaptureBatch) (s u : Ft8ReceiveTimeline) : Prop where
  anchor : u.anchor = some (anchorAfter batch s)
  last : u.lastMonotonicMillis = s.lastMonotonicMillis ∨ u.lastMonotonicMillis = some batch.firstFrame.monotonicMillis
  reason : ∃ r, Resampling batch s r ∧
    ∀ events r', RationalResampler.push batch r = .ok events r' → ∀ e, batch.endPosition ≠ .ok e

/-- The state after a push that failed. -/
def Failed (batch : CaptureBatch) (observedAt : UInt64) (s : Ft8ReceiveTimeline) (error : ReceiveTimelineError)
    (u : Ft8ReceiveTimeline) : Prop :=
  s.validateIdentity batch = .error error ∧ u = s ∨
    (s.validateIdentity batch = .ok () ∧ ¬Taken s batch observedAt) ∧ Discarded s u ∨
    Taken s batch observedAt ∧ StoppedShort batch s u

/-- A check after the identity has failed. -/
theorem Failed.refused {error : ReceiveTimelineError} (hid : s.validateIdentity batch = .ok ())
    (hno : ¬Taken s batch observedAt) (h : Discarded s u) : Failed batch observedAt s error u := .inr (.inl ⟨⟨hid, hno⟩, h⟩)

/-- **What a push does**: a batch that passes every check is consumed or stops half way, another one is refused. -/
theorem push_ends :
    Ends (push batch observedAt) s
      (fun events u => Taken s batch observedAt ∧
        ∃ r r', Resampling batch s r ∧ RationalResampler.push batch r = .ok events r' ∧ AcceptedInto batch r' s u)
      (Failed batch observedAt s) := by
  simp only [push, ends_bind, ends_get, ends_fromResult, ends_modify, ends_pure]
  refine ⟨fun _ hid => ?_, fun error herr => .inl ⟨herr, rfl⟩⟩
  refine checkLateness_discarded.imp ?_ (fun _ _ h => .refused hid (fun ht => h.1 ht.inTime) h.2)
  rintro - _ ⟨rfl, htime⟩
  refine checkPosition_discarded.imp ?_ (fun _ _ h => .refused hid (fun ht => h.1 ht.start) h.2)
  rintro - _ ⟨rfl, hstart⟩
  refine checkDiscontinuity_discarded.imp ?_ (fun _ _ h => .refused hid (fun ht => h.1 ht.continues) h.2)
  rintro - s ⟨rfl, hcontinues⟩
  refine checkMapping_discarded.imp ?_ (fun _ _ h => .refused hid (fun ht => h.1 ht.agrees) h.2)
  rintro - _ ⟨⟨health, rfl⟩, hagrees⟩
  have htaken : Taken s batch observedAt := ⟨hid, htime, hstart, hcontinues, hagrees⟩
  refine ensureResampler_resampling.imp ?_ (fun _ _ hno => ?_)
  swap
  · obtain ⟨r, hr⟩ := exists_resampling batch s
    exact absurd hr (hno.2 r)
  rintro - _ ⟨r, hr, rfl⟩
  rw [onResampler, ends_onPart]
  refine ⟨(by simp), ?_⟩
  rintro _ ⟨rfl⟩
  refine (ends_run _ _).imp (fun events r' hpush => ?_) (fun error r' hpush => .inr (.inr ⟨htaken, ?_⟩))
  · simp only [advanceExpected, ends_bind, ends_modify, ends_fromResult, exceptMapError_ok]
    refine ⟨fun e he => ⟨htaken, r, r', hr, hpush, ⟨rfl, rfl, rfl, rfl, rfl, ⟨e, he, rfl⟩, rfl⟩⟩, fun error herr => ?_⟩
    refine .inr (.inr ⟨htaken, rfl, .inr rfl, r, hr, fun _ _ _ e he => ?_⟩)
    rw [he] at herr
    cases herr
  · refine ⟨rfl, .inl rfl, r, hr, fun events r'' hok => ?_⟩
    rw [hpush] at hok
    cases hok

/-! ## Timelines without a half-consumed batch -/

/-- The timeline has nothing active, or it has accepted contiguous frames since its anchor. -/
def Clean (s : Ft8ReceiveTimeline) : Prop := s.anchor = none ∧ s.resampler = none ∨ ∃ o x, Tracks o x s

/-- What the ticks of a batch depend on: the resampler's own anchor, or the batch as a new one. -/
def originAt (s : Ft8ReceiveTimeline) (batch : CaptureBatch) : Origin where
  first := (s.resampler.map (·.anchor)).getD batch.firstFrame
  configuration := s.configuration
  processGeneration := s.processGeneration
  streamGeneration := s.streamGeneration

/-- The batch ends at a frame number, and the slots of the ticks up to its last frame fit the machine integers. -/
def Representable (s : Ft8ReceiveTimeline) (batch : CaptureBatch) : Prop :=
  let start := batch.firstFrame.position.frames.toNat
  let first := (originAt s batch).first.position.frames.toNat
  start + batch.samples.length < 2 ^ 64 ∧ FramesFit (originAt s batch) (start - first + batch.samples.length)

/-- The resampler that takes a batch of a clean timeline has consumed the frames before it. -/
theorem Clean.consumed (hs : Clean s) (hstart : StartsExpected batch s) {r : RationalResampler}
    (hr : Resampling batch s r) :
    let o := originAt s batch
    anchorAfter batch s = ⟨o.first.position, o.first.utcUnixMillis, o.first.monotonicMillis⟩ ∧
      ∃ x ys, Consumed o x ys r ∧
        batch.firstFrame.position.frames.toNat = o.first.position.frames.toNat + x.length := by
  rcases hs with ⟨hanchor, hnone⟩ | ⟨o, x, ht⟩
  · rcases hr with hr | ⟨-, hr⟩
    · rw [hnone] at hr
      cases hr
    · have ho : (originAt s batch).first = batch.firstFrame := by simp [originAt, hnone]
      refine ⟨?_, [], [], consumed_new ?_, ?_⟩
      · rw [anchorAfter, hanchor, ho]
        rfl
      · rw [ho]
        exact hr
      · rw [ho]
        rfl
  · obtain ⟨r₀, ys, hr₀, hconsumed⟩ := ht.resampler
    obtain rfl : r₀ = r := by
      rcases hr with hr | ⟨hr, -⟩
      · exact Option.some.inj (hr₀.symm.trans hr)
      · rw [hr₀] at hr
        cases hr
    obtain rfl : o = originAt s batch := by
      unfold originAt
      rw [hr₀, ht.configuration, ht.processGeneration, ht.streamGeneration, Option.map_some, Option.getD_some,
        hconsumed.anchor]
    obtain ⟨e, he, hev⟩ := ht.expected
    rw [anchorAfter, ht.anchor]
    exact ⟨rfl, x, ys, hconsumed, (hstart e he).trans hev⟩

/-- A batch is consumed to its end exactly when it is representable. -/
theorem Clean.consumes_iff (hs : Clean s) (hstart : StartsExpected batch s) {r : RationalResampler}
    (hr : Resampling batch s r) :
    (∃ events r' e, RationalResampler.push batch r = .ok events r' ∧ batch.endPosition = .ok e) ↔
      Representable s batch := by
  obtain ⟨-, x, ys, hconsumed, hpos⟩ := hs.consumed hstart hr
  have hends := pushSamples_ends batch.samples 0 hconsumed hpos
  have hsub : batch.firstFrame.position.frames.toNat - (originAt s batch).first.position.frames.toNat = x.length := by
    omega
  have hrep : Representable s batch ↔ batch.firstFrame.position.frames.toNat + batch.samples.length < 2 ^ 64 ∧
      FramesFit (originAt s batch) (x.length + batch.samples.length) := by
    rw [← hsub]
    exact Iff.rfl
  rw [hrep]
  constructor
  · rintro ⟨events, r', e, hpush, hend⟩
    obtain ⟨zs, hzs, -⟩ := hends.of_ok hpush
    have hlt := e.frames.toNat_lt
    have hev := endPosition_ok.mp hend
    refine ⟨by omega, by omega, fun k hk => hzs.fits k ?_⟩
    rwa [hzs.length_eq, List.length_append]
  · rintro ⟨hlt, hfit⟩
    obtain ⟨e, he⟩ := tryU64_isSome (z := (batch.firstFrame.position.frames.toNat : Int) + batch.samples.length)
      (by omega) (by omega)
    have hend : batch.endPosition = .ok ⟨e⟩ := by
      rw [endPosition_ok]
      have := tryU64_eq_some.mp he
      show e.toNat = _
      omega
    cases hpush : RationalResampler.push batch r with
    | ok events r' => exact ⟨events, r', ⟨e⟩, rfl, hend⟩
    | error error r' => exact absurd hfit (hends.of_error hpush)

/-- An accepted batch leaves the timeline clean. -/
theorem Clean.accepted (hs : Clean s) {r r' : RationalResampler} {events : List ReceiveTimelineEvent}
    (hstart : StartsExpected batch s) (hr : Resampling batch s r)
    (hpush : RationalResampler.push batch r = .ok events r') (hu : AcceptedInto batch r' s u) : Clean u := by
  obtain ⟨hanchor, x, ys, hconsumed, hpos⟩ := hs.consumed hstart hr
  obtain ⟨⟨zs, hzs⟩, -⟩ := accepted_step hconsumed hpos hpush
  obtain ⟨e, hend, he⟩ := hu.expected
  refine .inr ⟨originAt s batch, x ++ batch.samples, hu.processGeneration, hu.streamGeneration, hu.configuration,
    hu.anchor.trans (congrArg some hanchor), ⟨e, he, ?_⟩, r', zs, hu.resampler, hzs⟩
  rw [endPosition_ok.mp hend, hpos, List.length_append, Nat.add_assoc]

theorem Clean.discarded (h : Discarded s u) : Clean u := .inl ⟨h.anchor, h.resampler⟩

/-! ## Runs -/

/-- An error of the identity check changes nothing; any other one leaves no anchor and no resampler, and counts the
active slot once when it held a sample. -/
def FailsClosed (s : Ft8ReceiveTimeline) (input : CaptureBatch × UInt64) : Prop :=
  ∀ error, (step s input).1 = .error error →
    let u := (step s input).2
    if s.validateIdentity input.1 = .error error then u = s
    else u.anchor = none ∧ u.resampler = none ∧ u.health.incompleteSlotCount =
      s.health.incompleteSlotCount + (if partialSamples s = [] then 0 else 1)

/-- A batch that passes every check is representable, and one that fails a later check than the identity's finds room
in the count for the slot it discards. -/
def ClosesOn (s : Ft8ReceiveTimeline) (input : CaptureBatch × UInt64) : Prop :=
  (Taken s input.1 input.2 → Representable s input.1) ∧
    (s.validateIdentity input.1 = .ok () → ¬Taken s input.1 input.2 → partialSamples s ≠ [] →
      s.health.incompleteSlotCount < 2 ^ 64 - 1)

variable {input : CaptureBatch × UInt64}

theorem failed_step {error : ReceiveTimelineError} (h : (step s input).1 = .error error) :
    Failed input.1 input.2 s error (step s input).2 := by
  cases hp : push input.1 input.2 s with
  | ok events u => rw [step, hp] at h; cases h
  | error error' u =>
    rw [step, hp] at h ⊢
    cases h
    exact push_ends.of_error hp

/-- In a clean timeline a taken batch that is representable is accepted. -/
theorem Clean.not_stoppedShort (hs : Clean s) (ht : Taken s batch observedAt) (hrep : Representable s batch) :
    ¬StoppedShort batch s u := by
  rintro ⟨-, -, r, hr, hno⟩
  obtain ⟨events, r', e, hpush, hend⟩ := (hs.consumes_iff ht.start hr).mpr hrep
  exact hno events r' hpush e hend

/-- A taken batch that is not representable stops half way. -/
theorem Clean.stoppedShort (hs : Clean s) (ht : Taken s input.1 input.2) (hno : ¬Representable s input.1) :
    ∃ error, (step s input).1 = .error error ∧ StoppedShort input.1 s (step s input).2 := by
  cases hp : push input.1 input.2 s with
  | ok events u =>
    obtain ⟨-, r, r', hr, hpush, hu⟩ := push_ends.of_ok hp
    obtain ⟨e, hend, -⟩ := hu.expected
    exact absurd ((hs.consumes_iff ht.start hr).mp ⟨events, r', e, hpush, hend⟩) hno
  | error error u =>
    refine ⟨error, by rw [step, hp]; rfl, ?_⟩
    rw [step, hp]
    rcases push_ends.of_error hp with ⟨hid, -⟩ | ⟨⟨-, hnot⟩, -⟩ | ⟨-, hshort⟩
    · rw [ht.identity] at hid
      cases hid
    · exact absurd ht hnot
    · exact hshort

theorem saturatingAdd_one {n : Nat} : saturatingAdd n 1 = n + 1 ↔ n < 2 ^ 64 - 1 := by
  unfold saturatingAdd
  omega

/-- **One push** on a clean timeline fails closed exactly on the condition. -/
theorem Clean.failsClosed_iff (hs : Clean s) : FailsClosed s input ↔ ClosesOn s input := by
  constructor
  · intro h
    refine ⟨fun ht => ?_, fun hid hnot hpart => ?_⟩
    · by_contra hno
      obtain ⟨error, herr, hshort⟩ := hs.stoppedShort ht hno
      have hclosed := h error herr
      rw [if_neg (by rw [ht.identity]; simp), hshort.anchor] at hclosed
      cases hclosed.1
    · cases hp : push input.1 input.2 s with
      | ok events u => exact absurd (push_ends.of_ok hp).1 hnot
      | error error u =>
        have herr : (step s input).1 = .error error := by rw [step, hp]; rfl
        have hclosed := h error herr
        rw [if_neg (by rw [hid]; simp), if_neg hpart] at hclosed
        rcases failed_step herr with ⟨hid', -⟩ | ⟨-, hd⟩ | ⟨ht, -⟩
        · rw [hid] at hid'
          cases hid'
        · rw [← saturatingAdd_one, ← hclosed.2.2, hd.count, if_neg hpart]
        · exact absurd ht hnot
  · rintro ⟨hrep, hroom⟩ error herr
    rcases failed_step herr with ⟨hid, hu⟩ | ⟨⟨hid, hnot⟩, hd⟩ | ⟨ht, hshort⟩
    · show if _ then _ else _
      rw [if_pos hid]
      exact hu
    · show if _ then _ else _
      rw [if_neg (by rw [hid]; simp)]
      refine ⟨hd.anchor, hd.resampler, ?_⟩
      rw [hd.count]
      by_cases hpart : partialSamples s = []
      · rw [if_pos hpart, if_pos hpart, Nat.add_zero]
      · rw [if_neg hpart, if_neg hpart]
        exact saturatingAdd_one.mpr (hroom hid hnot hpart)
    · exact absurd hshort (hs.not_stoppedShort ht (hrep ht))

theorem Clean.step (hs : Clean s) (h : ClosesOn s input) : Clean (step s input).2 := by
  cases hp : push input.1 input.2 s with
  | ok events u =>
    obtain ⟨ht, r, r', hr, hpush, hu⟩ := push_ends.of_ok hp
    rw [Ft8ReceiveTimeline.step, hp]
    exact hs.accepted ht.start hr hpush hu
  | error error u =>
    rw [Ft8ReceiveTimeline.step, hp]
    rcases push_ends.of_error hp with ⟨-, rfl⟩ | ⟨-, hd⟩ | ⟨ht, hshort⟩
    · exact hs
    · exact Clean.discarded hd
    · exact absurd hshort (hs.not_stoppedShort ht (h.1 ht))

theorem Clean.run_iff (hs : Clean s) (run : List (CaptureBatch × UInt64)) :
    EveryStep Ft8ReceiveTimeline.step FailsClosed s run ↔ EveryStep Ft8ReceiveTimeline.step ClosesOn s run := by
  induction run generalizing s with
  | nil => simp
  | cons input run ih =>
    rw [everyStep_cons, everyStep_cons, hs.failsClosed_iff]
    exact and_congr_right fun h => ih (hs.step h)

/-- **Every error of a run fails closed** exactly when each batch that passes the checks is representable and the count
of incomplete slots is not saturated. -/
theorem fails_closed_iff (processGeneration : ProcessGeneration) (streamGeneration : StreamGeneration)
    (configuration : InputConfiguration) (run : List (CaptureBatch × UInt64)) :
    EveryStep step FailsClosed (new processGeneration streamGeneration configuration) run ↔
      EveryStep step ClosesOn (new processGeneration streamGeneration configuration) run :=
  Clean.run_iff (.inl ⟨rfl, rfl⟩) run

/-- A batch half a second after the start of the process and one second after a slot boundary, whose source position
reaches back to the boundary. -/
def earlyBatch : CaptureBatch :=
  CaptureBatch.silent ⟨1, one_nonzero⟩ ⟨1, one_nonzero⟩ monoConfiguration ⟨⟨12000⟩, 1000, 500⟩ 3 (by decide) (by decide)

/-- The slot start has no monotonic time, and the push fails with the anchor set. -/
theorem fails_closed_fails :
    ¬∀ (processGeneration : ProcessGeneration) (streamGeneration : StreamGeneration)
        (configuration : InputConfiguration) (run : List (CaptureBatch × UInt64)),
      EveryStep step FailsClosed (new processGeneration streamGeneration configuration) run := by
  intro h
  have hclosed := (h ⟨1, one_nonzero⟩ ⟨1, one_nonzero⟩ monoConfiguration [(earlyBatch, 500)]).1 .arithmeticOverflow
    (by decide)
  exact absurd hclosed (by decide)

end Slotpilot.Audio.Ft8ReceiveTimeline
