import Slotpilot.Audio.Reconstruct
import Mathlib

/-!
# Sources with a constant rate error

A source of nominal rate `r` that runs at `r * (1 + e)` delivers contiguous batches whose clocks show the whole
milliseconds it has really run. The drift estimate stays small, but the jitter is measured against the first batch and
never rebased, so it grows with the run. A run is accepted exactly when each batch start is within the jitter tolerance
and the timeline's arithmetic is representable (`drifting_accepted_iff`).
-/

set_option autoImplicit false

namespace Slotpilot.Audio.Ft8ReceiveTimeline

open Lib RationalResampler

/-! ## The source -/

/-- Whole milliseconds a source of `rate` with the relative error `e` takes for `frames` frames. -/
noncomputable def elapsedMillis (rate : Nat) (e : ℝ) (frames : Nat) : ℤ := ⌊(1000 * frames : ℝ) / (rate * (1 + e))⌋

/-- A batch of the source at an offset from the first frame, observed at once. -/
structure Delivered (o : Origin) (e : ℝ) (offset : Nat) (input : CaptureBatch × UInt64) : Prop where
  processGeneration : input.1.processGeneration = o.processGeneration
  streamGeneration : input.1.streamGeneration = o.streamGeneration
  configuration : input.1.configuration = o.configuration
  discontinuity : input.1.discontinuity = none
  position : input.1.firstFrame.position.frames.toNat = o.first.position.frames.toNat + offset
  monotonic : (input.1.firstFrame.monotonicMillis.toNat : ℤ) =
    o.first.monotonicMillis.toNat + elapsedMillis o.rate e offset
  utc : input.1.firstFrame.utcUnixMillis.toInt = o.first.utcUnixMillis.toInt + elapsedMillis o.rate e offset
  observed : input.2 = input.1.firstFrame.monotonicMillis

/-- Contiguous batches of the source from an offset on. -/
def Delivers (o : Origin) (e : ℝ) : Nat → List (CaptureBatch × UInt64) → Prop
  | _, [] => True
  | offset, input :: run =>
    Delivered o e offset input ∧ Delivers o e (offset + input.1.samples.length) run

/-- A batch start deviates from the nominal rate by at most the jitter tolerance. -/
def JitterWithin (o : Origin) (e : ℝ) (offset : Nat) : Prop :=
  |elapsedMillis o.rate e offset - (offset * 1000 / o.rate : Nat)| ≤ 50

/-- The timeline's arithmetic for a batch is representable: its offset in milliframes, its end position and the slots of
its ticks. -/
def BatchFits (o : Origin) (offset : Nat) (input : CaptureBatch × UInt64) : Prop :=
  offset * 1000 < 2 ^ 64 ∧ o.first.position.frames.toNat + (offset + input.1.samples.length) < 2 ^ 64 ∧
    FramesFit o (offset + input.1.samples.length)

/-- Each batch of a run starts within the jitter tolerance and fits. -/
def WithinTolerance (o : Origin) (e : ℝ) : Nat → List (CaptureBatch × UInt64) → Prop
  | _, [] => True
  | offset, input :: run =>
    (JitterWithin o e offset ∧ BatchFits o offset input) ∧ WithinTolerance o e (offset + input.1.samples.length) run

variable {o : Origin} {e : ℝ} {n m : Nat}

theorem rate_mul_pos (o : Origin) (he : |e| ≤ 1 / 1000) : 0 < (o.rate : ℝ) * (1 + e) := by
  have hrate : (0 : ℝ) < o.rate := by
    have := o.rate_ge
    exact_mod_cast (by omega : 0 < o.rate)
  have := (abs_le.mp he).1
  exact mul_pos hrate (by linarith)

theorem elapsedMillis_mono (he : |e| ≤ 1 / 1000) (h : n ≤ m) : elapsedMillis o.rate e n ≤ elapsedMillis o.rate e m := by
  have hpos := rate_mul_pos o he
  have hle : (n : ℝ) ≤ m := by exact_mod_cast h
  exact Int.floor_le_floor (div_le_div_of_nonneg_right (by linarith) hpos.le)

@[simp] theorem elapsedMillis_zero (rate : Nat) (e : ℝ) : elapsedMillis rate e 0 = 0 := by simp [elapsedMillis]

theorem elapsedMillis_nonneg (he : |e| ≤ 1 / 1000) : 0 ≤ elapsedMillis o.rate e n := by
  have h := elapsedMillis_mono (o := o) he (Nat.zero_le n)
  rwa [elapsedMillis_zero] at h

/-- The deviation from the nominal rate is at most its 999th part and a millisecond. -/
theorem elapsedMillis_near (he : |e| ≤ 1 / 1000) :
    |elapsedMillis o.rate e n - (n * 1000 / o.rate : Nat)| * 999 ≤ (n * 1000 / o.rate : Nat) + 1000 := by
  have hrate : (0 : ℝ) < o.rate := by
    have := o.rate_ge
    exact_mod_cast (by omega : 0 < o.rate)
  obtain ⟨he1, he2⟩ := abs_le.mp he
  have h1e : (0 : ℝ) < 1 + e := by linarith
  set x : ℝ := 1000 * n / o.rate with hx
  have hx0 : 0 ≤ x := by positivity
  have hq : (1000 * n : ℝ) / (o.rate * (1 + e)) = x / (1 + e) := by rw [hx]; field_simp
  -- the real deviation
  have hup : x / (1 + e) ≤ x + x / 999 := by
    rw [div_le_iff₀ h1e]
    nlinarith
  have hdown : x - x / 999 ≤ x / (1 + e) := by
    rw [le_div_iff₀ h1e]
    nlinarith
  -- the two floors
  have hnom : (((n * 1000 / o.rate : Nat) : ℤ) : ℝ) = ⌊x⌋₊ := by
    rw [hx]
    have := Nat.floor_div_eq_div (K := ℝ) (n * 1000) o.rate
    push_cast at this
    rw [mul_comm (1000 : ℝ), this]
    push_cast
    rfl
  have hf1 := Nat.floor_le hx0
  have hf2 := Nat.lt_floor_add_one x
  have hg1 := Int.floor_le (x / (1 + e))
  have hg2 := Int.lt_floor_add_one (x / (1 + e))
  unfold elapsedMillis
  rw [hq]
  have key : |((⌊x / (1 + e)⌋ : ℤ) : ℝ) - ((n * 1000 / o.rate : Nat) : ℤ)| * 999 <
      ((n * 1000 / o.rate : Nat) : ℤ) + 1001 := by
    rw [hnom]
    rw [← lt_div_iff₀ (by norm_num), abs_lt]
    constructor <;> linarith
  have key' : |⌊x / (1 + e)⌋ - ((n * 1000 / o.rate : Nat) : ℤ)| * 999 < ((n * 1000 / o.rate : Nat) : ℤ) + 1001 := by
    exact_mod_cast key
  omega

/-! ## One batch of the source -/

variable {t u : Ft8ReceiveTimeline} {x : List Int16} {input : CaptureBatch × UInt64}

/-- A deviation below a two hundredth of the time is not excessive drift. -/
theorem ratePartsPerMillion_small {nominal observed : Nat} (hge : 1000 ≤ nominal)
    (h : |(observed : ℤ) - nominal| * 200 ≤ nominal) : |ratePartsPerMillion nominal observed| ≤ 5000 := by
  have habs := abs_le.mp (show |(observed : ℤ) - nominal| ≤ nominal / 200 from Int.le_ediv_of_mul_le (by omega) h)
  unfold ratePartsPerMillion
  generalize (observed : ℤ) - nominal = d at habs
  have hpos : (0 : ℤ) < nominal := by omega
  rw [abs_le]
  have hup : d * 1000000 ≤ 5000 * nominal := by omega
  have hdown : -(d * 1000000) ≤ 5000 * nominal := by omega
  have hneg := Int.neg_tdiv (d * 1000000) nominal
  rcases Int.le_total 0 (d * 1000000) with hn | hn
  · rw [Int.tdiv_eq_ediv_of_nonneg hn]
    exact ⟨(by norm_num : (-5000 : ℤ) ≤ 0).trans (Int.ediv_nonneg hn hpos.le), Int.ediv_le_of_le_mul hpos hup⟩
  · rw [Int.tdiv_eq_ediv_of_nonneg (show 0 ≤ -(d * 1000000) by omega)] at hneg
    have h1 := Int.ediv_le_of_le_mul hpos hdown
    have h2 : 0 ≤ -(d * 1000000) / (nominal : ℤ) := Int.ediv_nonneg (by omega) hpos.le
    omega

/-- The clocks of a batch of the source agree with those of its first one exactly within the jitter tolerance. -/
theorem mappingAgrees_source (he : |e| ≤ 1 / 1000) (h : Delivered o e n input)
    (hconf : t.configuration = o.configuration)
    (hlast : ∀ last, t.lastMonotonicMillis = some last → last.toNat ≤ input.1.firstFrame.monotonicMillis.toNat) :
    MappingAgrees t ⟨o.first.position, o.first.utcUnixMillis, o.first.monotonicMillis⟩ input.1 ↔
      JitterWithin o e n ∧ n * 1000 < 2 ^ 64 := by
  have hnonneg := elapsedMillis_nonneg (o := o) (n := n) he
  have hmono := h.monotonic
  have hpos := h.position
  have hframes : frameDelta ⟨o.first.position, o.first.utcUnixMillis, o.first.monotonicMillis⟩ input.1 = n := by
    show _ - o.first.position.frames.toNat = n
    omega
  have hnominal : nominalMillis t ⟨o.first.position, o.first.utcUnixMillis, o.first.monotonicMillis⟩ input.1 =
      n * 1000 / o.rate := by
    rw [nominalMillis, hframes, hconf]
    rfl
  have hobserved : (observedMillis ⟨o.first.position, o.first.utcUnixMillis, o.first.monotonicMillis⟩ input.1 : ℤ) =
      elapsedMillis o.rate e n := by
    show ((_ - o.first.monotonicMillis.toNat : Nat) : ℤ) = _
    omega
  have hremap : remapMillis ⟨o.first.position, o.first.utcUnixMillis, o.first.monotonicMillis⟩ input.1 = 0 := by
    show _ - (o.first.utcUnixMillis.toInt - (o.first.monotonicMillis.toNat : ℤ)) = 0
    rw [h.utc, h.monotonic]
    ring
  constructor
  · intro hm
    have hj := hm.jitter
    have hf := hm.fits
    rw [hobserved, hnominal] at hj
    rw [hframes] at hf
    exact ⟨hj, hf⟩
  · rintro ⟨hjitter, hlt⟩
    have hnear := elapsedMillis_near (o := o) (n := n) he
    refine ⟨hlast, by show o.first.monotonicMillis.toNat ≤ _; omega, by show o.first.position.frames.toNat ≤ _; omega,
      by rwa [hframes], by rwa [hobserved, hnominal], by rw [hremap]; decide, fun hge => ?_⟩
    refine ratePartsPerMillion_small hge ?_
    rw [hobserved, hnominal] at *
    generalize (n * 1000 / o.rate : Nat) = q at hnear hge
    omega

theorem resampling_unique {batch : CaptureBatch} {r r' : RationalResampler} (h : Resampling batch t r)
    (h' : Resampling batch t r') : r = r' := by
  rcases h with h | ⟨hn, h⟩ <;> rcases h' with h' | ⟨hn', h'⟩
  · exact Option.some.inj (h.symm.trans h')
  · rw [h] at hn'; cases hn'
  · rw [h'] at hn; cases hn
  · exact Except.ok.inj (h.symm.trans h')

/-- A batch of the source whose generation and position match is accepted exactly when the mapping check passes and the
batch fits. -/
theorem push_source {ys : List Int16} {r : RationalResampler} (h : Delivered o e x.length input)
    (hid : t.validateIdentity input.1 = .ok ()) (hstart : StartsExpected input.1 t)
    (hresampling : Resampling input.1 t r) (hr : Consumed o x ys r)
    (hmapping : Ends (checkMapping input.1) t
      (fun _ u => (∃ health, u = { t with anchor := some (anchorAfter input.1 t), health }) ∧
        JitterWithin o e x.length ∧ x.length * 1000 < 2 ^ 64)
      (fun _ _ => ¬(JitterWithin o e x.length ∧ x.length * 1000 < 2 ^ 64))) :
    Ends (push input.1 input.2) t
      (fun _ u => (JitterWithin o e x.length ∧ BatchFits o x.length input) ∧
        u.lastMonotonicMillis = some input.1.firstFrame.monotonicMillis)
      (fun _ _ => ¬(JitterWithin o e x.length ∧ BatchFits o x.length input)) := by
  have hlate : lateness input.1 input.2 = 0 := by
    rw [lateness, h.observed]
    exact Nat.sub_self _
  have hposition : Ends (checkPosition input.1) t (fun _ u => u = t) (fun _ _ => False) := by
    simp only [checkPosition, ends_bind, ends_get, validatePosition_ok.mpr hstart]
    rfl
  have hdiscontinuity : Ends (checkDiscontinuity input.1) t (fun _ u => u = t) (fun _ _ => False) := by
    simp only [checkDiscontinuity, h.discontinuity]
    rfl
  have hpos := h.position
  simp only [push, ends_bind, ends_get, ends_fromResult, ends_modify, ends_pure]
  refine ⟨fun _ _ => ?_, fun err herr => ?_⟩
  · refine checkLateness_ends.imp ?_ (fun _ _ hl => absurd hl.1 (by rw [hlate]; exact Nat.not_lt_zero _))
    rintro - _ ⟨rfl, -⟩
    refine hposition.imp ?_ (fun _ _ hf => hf.elim)
    rintro - _ rfl
    refine hdiscontinuity.imp ?_ (fun _ _ hf => hf.elim)
    rintro - t rfl
    refine hmapping.imp ?_ (fun _ _ hno hyes => hno ⟨hyes.1, hyes.2.1⟩)
    rintro - _ ⟨⟨health, rfl⟩, hjitter, hmilli⟩
    refine ensureResampler_resampling.imp ?_ (fun _ _ hno => absurd hresampling (hno.2 r))
    rintro - _ ⟨r', hr', rfl⟩
    obtain rfl : r = r' := resampling_unique hresampling hr'
    rw [onResampler, ends_onPart]
    refine ⟨(by simp), ?_⟩
    rintro _ ⟨rfl⟩
    refine (pushSamples_ends input.1.samples 0 hr hpos).imp ?_ (fun _ _ hno hyes => hno hyes.2.2.2)
    rintro events r' ⟨zs, hzs, -⟩
    simp only [advanceExpected, ends_bind, ends_modify, ends_fromResult, exceptMapError_ok]
    refine ⟨fun e' he' => ⟨⟨hjitter, hmilli, ?_, ?_, fun k hk => hzs.fits k ?_⟩, trivial⟩, fun err herr hyes => ?_⟩
    · have := e'.frames.toNat_lt
      have := endPosition_ok.mp he'
      omega
    · have := e'.frames.toNat_lt
      have := endPosition_ok.mp he'
      omega
    · rwa [hzs.length_eq, List.length_append]
    · obtain ⟨u, hu⟩ := tryU64_isSome (z := (input.1.firstFrame.position.frames.toNat : ℤ) + input.1.samples.length)
        (by omega) (by have := hyes.2.2.1; omega)
      have hend : input.1.endPosition = .ok ⟨u⟩ := endPosition_ok.mpr (by have := tryU64_eq_some.mp hu; show u.toNat = _; omega)
      rw [hend] at herr
      cases herr
  · rw [hid] at herr
    cases herr

/-! ## Runs of the source -/

theorem isOk_iff {C : Prop} {Q : List ReceiveTimelineEvent → Ft8ReceiveTimeline → Prop}
    (h : Ends (push input.1 input.2) t (fun events u => C ∧ Q events u) (fun _ _ => ¬C)) :
    (step t input).1.isOk ↔ C := by
  unfold step
  cases hp : push input.1 input.2 t with
  | ok events u => exact iff_of_true rfl (h.of_ok hp).1
  | error err u => exact iff_of_false Bool.false_ne_true (h.of_error hp)

theorem identity_ok (h : Delivered o e n input) (hp : t.processGeneration = o.processGeneration)
    (hs : t.streamGeneration = o.streamGeneration) (hc : t.configuration = o.configuration) :
    t.validateIdentity input.1 = .ok () := by
  simp [validateIdentity, h.processGeneration, h.streamGeneration, h.configuration, hp, hs, hc]

/-- The timeline last saw a batch of the source that did not start after the frames it has accepted. -/
def LastSeen (o : Origin) (e : ℝ) (frames : Nat) (t : Ft8ReceiveTimeline) : Prop :=
  ∃ last n, t.lastMonotonicMillis = some last ∧ n ≤ frames ∧
    (last.toNat : ℤ) = o.first.monotonicMillis.toNat + elapsedMillis o.rate e n

theorem push_source_next (he : |e| ≤ 1 / 1000) (ht : Tracks o x t) (hlast : LastSeen o e x.length t)
    (h : Delivered o e x.length input) :
    Ends (push input.1 input.2) t
      (fun _ u => (JitterWithin o e x.length ∧ BatchFits o x.length input) ∧
        u.lastMonotonicMillis = some input.1.firstFrame.monotonicMillis)
      (fun _ _ => ¬(JitterWithin o e x.length ∧ BatchFits o x.length input)) := by
  obtain ⟨f, hf, hfv⟩ := ht.expected
  obtain ⟨r, ys, hr, hconsumed⟩ := ht.resampler
  obtain ⟨last, n, hl, hn, hlv⟩ := hlast
  have hstart : StartsExpected input.1 t := by
    intro e' he'
    obtain rfl : f = e' := Option.some.inj (hf.symm.trans he')
    rw [h.position, hfv]
  refine push_source h (identity_ok h ht.processGeneration ht.streamGeneration ht.configuration) hstart (.inl hr)
    hconsumed ?_
  have hagrees := mappingAgrees_source (t := t) he h ht.configuration (by
    intro last' hl'
    obtain rfl : last = last' := Option.some.inj (hl.symm.trans hl')
    have hmono := elapsedMillis_mono (o := o) he hn
    have := h.monotonic
    omega)
  simp only [checkMapping, ends_bind, ends_get, ht.anchor, ends_tryCatch, anchorAfter, Option.getD_some, ← hagrees]
  refine (validateMapping_ends _).imp ?_
    (fun err u hno => (reject_ends err).imp (fun _ _ hf => hf.elim) (fun _ _ _ => hno.2))
  rintro _ _ ⟨⟨jitter, drift, rfl⟩, hwithin⟩
  exact ⟨⟨_, by rw [← ht.anchor]⟩, hwithin⟩

theorem drifting_run_iff (he : |e| ≤ 1 / 1000) (ht : Tracks o x t) (hlast : LastSeen o e x.length t)
    (run : List (CaptureBatch × UInt64)) (hrun : Delivers o e x.length run) :
    (∀ entry ∈ transcript step t run, entry.2.isOk) ↔ WithinTolerance o e x.length run := by
  induction run generalizing x t with
  | nil => simp [WithinTolerance]
  | cons input run ih =>
    obtain ⟨hinput, hrest⟩ := hrun
    have hends := push_source_next he ht hlast hinput
    rw [transcript_cons, List.forall_mem_cons, WithinTolerance, ← isOk_iff hends]
    refine and_congr_right fun hok => ?_
    obtain ⟨events, hpush, -⟩ := step_ok hok
    have hu := (tracks_next ht hpush).1
    have hseen : LastSeen o e (x ++ input.1.samples).length (step t input).2 :=
      ⟨_, _, (hends.of_ok hpush).2, by rw [List.length_append]; exact Nat.le_add_right _ _, hinput.monotonic⟩
    have := ih hu hseen (by rw [List.length_append]; exact hrest)
    rwa [List.length_append] at this

variable {processGeneration : ProcessGeneration} {streamGeneration : StreamGeneration}
  {configuration : InputConfiguration}

/-- A fresh timeline takes the first batch whenever it fits. -/
theorem push_source_first
    (h : Delivered (originOf configuration processGeneration streamGeneration input.1) e 0 input) :
    let o := originOf configuration processGeneration streamGeneration input.1
    Ends (push input.1 input.2) (new processGeneration streamGeneration configuration)
      (fun _ u => (JitterWithin o e 0 ∧ BatchFits o 0 input) ∧
        u.lastMonotonicMillis = some input.1.firstFrame.monotonicMillis)
      (fun _ _ => ¬(JitterWithin o e 0 ∧ BatchFits o 0 input)) := by
  intro o
  have hA := o.first.utcUnixMillis.toInt_lt
  have hA' := o.first.utcUnixMillis.le_toInt
  have hnew : RationalResampler.new input.1.firstFrame configuration.sampleRateHz processGeneration streamGeneration =
      .ok ⟨input.1.firstFrame, configuration.sampleRateHz, processGeneration, streamGeneration,
        input.1.firstFrame.utcUnixMillis.toInt * outputTicksPerMillisecond, none, none⟩ := by
    have htick : tryI128 (input.1.firstFrame.utcUnixMillis.toInt * outputTicksPerMillisecond) =
        some (input.1.firstFrame.utcUnixMillis.toInt * outputTicksPerMillisecond) := by
      rw [outputTicksPerMillisecond_eq]
      exact tryI128_eq_some.mpr ⟨rfl, by show _ ≤ o.first.utcUnixMillis.toInt * 12; omega,
        by show o.first.utcUnixMillis.toInt * 12 < _; omega⟩
    unfold RationalResampler.new
    rw [htick]
  refine push_source (x := []) h (identity_ok h rfl rfl rfl) (fun _ h => by cases h) (.inr ⟨rfl, hnew⟩) (consumed_new (o := o) hnew) ?_
  have hjitter : JitterWithin o e 0 := by simp [JitterWithin]
  simp only [checkMapping, ends_bind, ends_get]
  exact ⟨⟨_, rfl⟩, hjitter, by norm_num⟩

section Accepted

variable (he : |e| ≤ 1 / 1000) {first : CaptureBatch × UInt64} {rest : List (CaptureBatch × UInt64)}
  (hrun : Delivers (originOf configuration processGeneration streamGeneration first.1) e 0 (first :: rest))
include he hrun

/-- After an accepted first batch the rest is accepted exactly within tolerance. -/
theorem drifting_rest_iff (hok : (step (new processGeneration streamGeneration configuration) first).1.isOk) :
    (∀ entry ∈ transcript step (step (new processGeneration streamGeneration configuration) first).2 rest,
        entry.2.isOk) ↔
      WithinTolerance (originOf configuration processGeneration streamGeneration first.1) e first.1.samples.length
        rest := by
  obtain ⟨hfirst, hrest⟩ := hrun
  obtain ⟨events, hpush, -⟩ := step_ok hok
  have ht := (tracks_first hpush).1
  have hseen : LastSeen (originOf configuration processGeneration streamGeneration first.1) e first.1.samples.length
      (step (new processGeneration streamGeneration configuration) first).2 :=
    ⟨_, _, ((push_source_first hfirst).of_ok hpush).2, Nat.zero_le _, hfirst.monotonic⟩
  rw [Nat.zero_add] at hrest
  exact drifting_run_iff he ht hseen rest hrest

theorem withinTolerance_of_accepted
    (hok : ∀ entry ∈ transcript step (new processGeneration streamGeneration configuration) (first :: rest),
      entry.2.isOk) :
    WithinTolerance (originOf configuration processGeneration streamGeneration first.1) e 0 (first :: rest) := by
  rw [transcript_cons, List.forall_mem_cons] at hok
  rw [WithinTolerance, Nat.zero_add]
  exact ⟨(isOk_iff (push_source_first hrun.1)).mp hok.1, (drifting_rest_iff he hrun hok.1).mp hok.2⟩

theorem accepted_of_withinTolerance
    (h : WithinTolerance (originOf configuration processGeneration streamGeneration first.1) e 0 (first :: rest)) :
    ∀ entry ∈ transcript step (new processGeneration streamGeneration configuration) (first :: rest),
      entry.2.isOk := by
  rw [WithinTolerance, Nat.zero_add] at h
  rw [transcript_cons, List.forall_mem_cons]
  have hok := (isOk_iff (push_source_first hrun.1)).mpr h.1
  exact ⟨hok, (drifting_rest_iff he hrun hok).mpr h.2⟩

/-- **Long-run drift**: with a rate error of at most 1000 ppm the pushes are accepted exactly when every batch starts
within the jitter tolerance and fits. -/
theorem drifting_accepted_iff :
    (∀ entry ∈ transcript step (new processGeneration streamGeneration configuration) (first :: rest),
        entry.2.isOk) ↔
      WithinTolerance (originOf configuration processGeneration streamGeneration first.1) e 0 (first :: rest) :=
  ⟨withinTolerance_of_accepted he hrun, accepted_of_withinTolerance he hrun⟩

end Accepted

/-! ## A slow source -/

def lowestConfiguration : InputConfiguration :=
  { monoConfiguration with sampleRateHz := 8000, rate_ge := by decide, rate_le := by decide }

theorem fullBatch_pos : 0 < 8192 := by decide
theorem fullBatch_le : 8192 ≤ maxCaptureBatchFrames := by decide

/-- Batch number `i` of a source of 8 kHz that runs 1000 ppm slow, in batches of the greatest size. -/
def slowBatch (i : Nat) : CaptureBatch × UInt64 :=
  let millis := i * 8192 * 125 / 999
  (CaptureBatch.silent ⟨1, one_nonzero⟩ ⟨1, one_nonzero⟩ lowestConfiguration
    ⟨⟨UInt64.ofNat (i * 8192)⟩, Int64.ofNat millis, UInt64.ofNat millis⟩ 8192 fullBatch_pos fullBatch_le,
    UInt64.ofNat millis)

def slowOrigin : Origin := originOf lowestConfiguration ⟨1, one_nonzero⟩ ⟨1, one_nonzero⟩ (slowBatch 0).1

theorem slow_elapsed (n : Nat) : elapsedMillis 8000 (-1 / 1000) n = (n * 125 / 999 : Nat) := by
  have hq : (1000 * n : ℝ) / ((8000 : Nat) * (1 + -1 / 1000)) = ((n * 125 : Nat) : ℝ) / (999 : Nat) := by
    push_cast
    field_simp
    ring
  rw [elapsedMillis, hq, ← Nat.floor_div_eq_div (K := ℝ)]
  exact (Int.natCast_floor_eq_floor (by positivity)).symm

theorem slow_delivered {i : Nat} (hi : i < 2 ^ 32) : Delivered slowOrigin (-1 / 1000) (i * 8192) (slowBatch i) := by
  have hrate : slowOrigin.rate = 8000 := rfl
  have hlt : i * 8192 * 125 / 999 < 2 ^ 63 := by omega
  refine ⟨rfl, rfl, rfl, rfl, ?_, ?_, ?_, rfl⟩
  · show (UInt64.ofNat (i * 8192)).toNat = (UInt64.ofNat (0 * 8192)).toNat + i * 8192
    rw [UInt64.toNat_ofNat_of_lt' (by unfold UInt64.size; omega)]
    simp
  · rw [hrate, slow_elapsed]
    show ((UInt64.ofNat (i * 8192 * 125 / 999)).toNat : ℤ) = (UInt64.ofNat (0 * 8192 * 125 / 999)).toNat + _
    rw [UInt64.toNat_ofNat_of_lt' (by unfold UInt64.size; omega)]
    simp
  · rw [hrate, slow_elapsed]
    show (Int64.ofNat (i * 8192 * 125 / 999)).toInt = (Int64.ofNat (0 * 8192 * 125 / 999)).toInt + _
    rw [Int64.toInt_ofNat_of_lt (by omega)]
    simp

theorem slow_delivers (count : Nat) : ∀ i, i + count < 2 ^ 32 →
    Delivers slowOrigin (-1 / 1000) (i * 8192) ((List.range' i count).map slowBatch) := by
  induction count with
  | zero => exact fun _ _ => trivial
  | succ count ih =>
    intro i hi
    refine ⟨slow_delivered (by omega), ?_⟩
    have hlen : (slowBatch i).1.samples.length = 8192 := List.length_replicate
    rw [hlen, ← Nat.succ_mul]
    exact ih (i + 1) (by omega)

/-- The ticks of the slow run fit. -/
theorem slow_slotFits {k : Nat} (hk : k < 2 ^ 40) : slowOrigin.SlotFits (Origin.slotTick (slowOrigin.anchorTick + k)) := by
  have hanchor : slowOrigin.anchorTick = 0 := rfl
  have hrate : slowOrigin.rate = 8000 := rfl
  have hposition : slowOrigin.first.position.frames.toNat = 0 := rfl
  have hmonotonic : slowOrigin.first.monotonicMillis.toNat = 0 := rfl
  have hutc : slowOrigin.first.utcUnixMillis.toInt = 0 := rfl
  have hslot : 0 ≤ Origin.slotTick (0 + (k : Int)) ∧ Origin.slotTick (0 + (k : Int)) ≤ k := by
    unfold Origin.slotTick
    omega
  rw [hanchor]
  generalize Origin.slotTick (0 + (k : Int)) = tick at hslot ⊢
  have hdelta : slowOrigin.sourceDelta tick = tick * 8000 / 12000 := by
    unfold Origin.sourceDelta
    rw [hanchor, hrate, sub_zero]
    exact Int.tdiv_eq_ediv_of_nonneg (by omega)
  unfold Origin.SlotFits Origin.HasFrame Origin.tickEvidence
  simp only [hdelta, hposition, hmonotonic, hutc]
  omega

/-- The first fifty batches of the slow run are within tolerance. -/
theorem slow_withinTolerance (count : Nat) : ∀ i, i + count ≤ 50 →
    WithinTolerance slowOrigin (-1 / 1000) (i * 8192) ((List.range' i count).map slowBatch) := by
  have hrate : slowOrigin.rate = 8000 := rfl
  have hposition : slowOrigin.first.position.frames.toNat = 0 := rfl
  induction count with
  | zero => exact fun _ _ => trivial
  | succ count ih =>
    intro i hi
    have hlen : (slowBatch i).1.samples.length = 8192 := List.length_replicate
    have hjitter : JitterWithin slowOrigin (-1 / 1000) (i * 8192) := by
      rw [JitterWithin, hrate, slow_elapsed, abs_le]
      omega
    refine ⟨⟨hjitter, ⟨by omega, by rw [hposition, hlen]; omega, by rw [hposition, hlen]; omega, ?_⟩⟩, ?_⟩
    · intro k hk
      apply slow_slotFits
      unfold tickCount at hk
      rw [hlen, hrate] at hk
      split at hk <;> omega
    · rw [hlen, ← Nat.succ_mul]
      exact ih (i + 1) (by omega)

/-- The first fifty batches of a source 1000 ppm slow are accepted. -/
theorem drifting_accepted_iff_slow :
    (transcript step (new ⟨1, one_nonzero⟩ ⟨1, one_nonzero⟩ lowestConfiguration)
      (slowBatch 0 :: (List.range' 1 49).map slowBatch)).all (fun entry => entry.2.isOk) = true := by
  have he : |(-1 / 1000 : ℝ)| ≤ 1 / 1000 := by norm_num [abs_of_neg]
  have hrun : Delivers slowOrigin (-1 / 1000) 0 (slowBatch 0 :: (List.range' 1 49).map slowBatch) :=
    (Nat.zero_mul 8192).symm ▸ slow_delivers 50 0 (by omega)
  have hwithin : WithinTolerance slowOrigin (-1 / 1000) 0 (slowBatch 0 :: (List.range' 1 49).map slowBatch) :=
    (Nat.zero_mul 8192).symm ▸ slow_withinTolerance 50 0 le_rfl
  exact List.all_eq_true.mpr ((drifting_accepted_iff he hrun).mpr hwithin)

/-- Every batch of a slow run within tolerance starts within the jitter tolerance. -/
theorem slow_jitterWithin (count : Nat) : ∀ i, WithinTolerance slowOrigin (-1 / 1000) (i * 8192)
    ((List.range' i count).map slowBatch) → ∀ j < count, JitterWithin slowOrigin (-1 / 1000) ((i + j) * 8192) := by
  induction count with
  | zero => intro i _ j hj; cases hj
  | succ count ih =>
    rintro i ⟨⟨hjitter, -⟩, hrest⟩ j hj
    have hlen : (slowBatch i).1.samples.length = 8192 := List.length_replicate
    rw [hlen, ← Nat.succ_mul] at hrest
    rcases j with - | j
    · exact hjitter
    · have := ih (i + 1) hrest j (by omega)
      rwa [Nat.succ_add_eq_add_succ] at this

/-- After 51.2 seconds a source 1000 ppm slow is 51 milliseconds late, and its batch is rejected. -/
theorem drifting_accepted_fails :
    ¬∀ (processGeneration : ProcessGeneration) (streamGeneration : StreamGeneration)
        (configuration : InputConfiguration) (e : ℝ) (first : CaptureBatch × UInt64)
        (rest : List (CaptureBatch × UInt64)),
      |e| ≤ 1 / 1000 →
      Delivers (originOf configuration processGeneration streamGeneration first.1) e 0 (first :: rest) →
      ∀ entry ∈ transcript step (new processGeneration streamGeneration configuration) (first :: rest),
        entry.2.isOk := by
  intro h
  have he : |(-1 / 1000 : ℝ)| ≤ 1 / 1000 := by norm_num [abs_of_neg]
  have hrun : Delivers slowOrigin (-1 / 1000) 0 (slowBatch 0 :: (List.range' 1 50).map slowBatch) :=
    (Nat.zero_mul 8192).symm ▸ slow_delivers 51 0 (by omega)
  have hwithin := withinTolerance_of_accepted he hrun (h _ _ _ _ _ _ he hrun)
  have hjitter := slow_jitterWithin 51 0 ((Nat.zero_mul 8192).symm ▸ hwithin) 50 (by omega)
  have hrate : slowOrigin.rate = 8000 := rfl
  rw [JitterWithin, hrate, slow_elapsed] at hjitter
  norm_num at hjitter

end Slotpilot.Audio.Ft8ReceiveTimeline
