import Slotpilot.Audio.Reconstruct

/-!
# The clocks of the windows

When every batch shows clocks whose UTC is `d` milliseconds ahead of the monotonic one, so does the mapping of every
window that a timeline emits, and its UTC is the slot start. The invariant (`OnClock`) survives rejected and failed
pushes, so this holds of all runs (`windows_mapped`), not only of those that are accepted throughout.
-/

set_option autoImplicit false

namespace Slotpilot.Audio

open Lib

/-- Evidence of clocks whose UTC is `d` milliseconds ahead of the monotonic one. -/
def CaptureTimeEvidence.OnClock (d : Int) (self : CaptureTimeEvidence) : Prop :=
  self.utcUnixMillis.toInt = self.monotonicMillis.toNat + d

/-- The mapping is what such clocks show at the slot start. -/
def Ft8ReceiveWindow.Mapped (d : Int) (self : Ft8ReceiveWindow) : Prop :=
  self.mapping.utcUnixMillis = self.slotStartUtcMillis ∧ self.mapping.OnClock d

def ReceiveTimelineEvent.Mapped (d : Int) : ReceiveTimelineEvent → Prop
  | .window w => w.Mapped d
  | .incomplete _ => True

/-- The accumulator holds samples of its slot before the tick `next`, and the slot's mapping if it has the first one. -/
structure WindowAccumulator.Mapped (d next : Int) (acc : WindowAccumulator) : Prop where
  slot : acc.slot.startUtcUnixMillis.toInt = acc.slotTick / 12
  first : acc.slotTick ≤ acc.firstTick
  count : acc.firstTick + acc.samples.length ≤ next
  mapping : acc.firstTick = acc.slotTick →
    acc.mapping.utcUnixMillis = acc.slot.startUtcUnixMillis ∧ acc.mapping.OnClock d

namespace RationalResampler

/-- The resampler serves an origin on the clocks and its active slot lies before its next tick. -/
structure OnClock (o : Origin) (d : Int) (r : RationalResampler) : Prop extends Serves o r where
  origin : o.first.OnClock d
  next : o.anchorTick ≤ r.nextOutputTick
  active : ∀ acc, r.active = some acc → acc.Mapped d r.nextOutputTick

variable {o : Origin} {d : Int} {r : RationalResampler} {acc : WindowAccumulator} {y : Int16}

/-- A slot that starts at a frame has the mapping of its start. -/
theorem mapping_onClock {tick : Int} {m : CaptureTimeEvidence} (ho : o.first.OnClock d)
    (hf : m.values = o.tickEvidence tick) : m.utcUnixMillis.toInt = tick / 12 ∧ m.OnClock d := by
  simp only [CaptureTimeEvidence.values, Origin.tickEvidence, Prod.mk.injEq] at hf
  unfold CaptureTimeEvidence.OnClock at *
  omega

theorem enterSlot_onClock (h : OnClock o d r)
    (hframe : Origin.slotTick r.nextOutputTick = r.nextOutputTick → o.HasFrame r.nextOutputTick) :
    Ends (enterSlot (Origin.slotTick r.nextOutputTick)) r
      (fun events r' => (∀ e ∈ events, e.Mapped d) ∧ ∃ acc, r' = r.withActive (some acc) ∧
        acc.slotTick = Origin.slotTick r.nextOutputTick ∧ acc.Mapped d r.nextOutputTick)
      (fun _ r' => r' = r.withActive none) := by
  have hnext := h.next
  have hlo : o.anchorTick - 180000 ≤ Origin.slotTick r.nextOutputTick := by unfold Origin.slotTick; omega
  simp only [enterSlot, ends_bind, ends_get, ends_ite, ends_modify, ends_fromResult, ends_pure]
  refine ⟨fun _ => ⟨fun event hevent => ⟨fun m hm => ⟨fun acc hacc => ?_, fun _ _ => trivial⟩,
    fun _ _ => trivial⟩, fun _ _ => trivial⟩, fun hsame => ?_⟩
  · obtain ⟨⟨h0, h63⟩, ht, hf, hmap, hs, hslot⟩ := (accumulator_new_ok (slotTick_dvd _)).mp hacc
    obtain ⟨-, hvalues, -⟩ := (mappingForTick_ok h0 h63 hlo h.toServes).mp hm
    refine ⟨fun e he => ?_, acc, rfl, ht, by rw [hslot, ht], ?_, ?_, fun hfirst => ?_⟩
    · -- the slot that is left is reported as incomplete
      obtain ⟨acc', -, hinc⟩ : ∃ acc', r.active = some acc' ∧ acc'.incompleteEvent = .ok event := by
        cases ha : r.active with
        | none => rw [ha] at hevent; cases hevent; cases he
        | some acc' => rw [ha] at hevent; exact ⟨acc', rfl, hevent⟩
      unfold WindowAccumulator.incompleteEvent at hinc
      split at hinc
      · cases hinc; cases he
      · split at hinc
        · cases hinc
        · cases hinc
          obtain rfl := List.mem_singleton.mp he
          trivial
    · rw [ht, hf]
      unfold Origin.slotTick
      omega
    · rw [hf, hs]
      simp
    · rw [hf, ht] at hfirst
      have hm' := mapping_onClock h.origin (hvalues (hfirst ▸ hframe hfirst.symm))
      rw [hmap]
      exact ⟨Int64.toInt_inj.mp (hm'.1.trans hslot.symm), hm'.2⟩
  · obtain ⟨acc, ha, ht⟩ := Option.map_eq_some_iff.mp (not_not.mp hsame)
    exact ⟨(by simp), acc, by rw [← ha]; rfl, ht, h.active acc ha⟩

/-- A window holds the samples of a whole slot, so it has the first one. -/
theorem appendSample_onClock (ha : r.active = some acc) (ht : acc.slotTick = Origin.slotTick r.nextOutputTick)
    (hacc : acc.Mapped d r.nextOutputTick) :
    Ends (appendSample y) r
      (fun events r' => (∀ e ∈ events, e.Mapped d) ∧ ∃ active, r' = r.withActive active ∧
        ∀ acc, active = some acc → acc.Mapped d (r.nextOutputTick + 1))
      (fun _ r' => r' = r.withActive none) := by
  have hcount := hacc.count
  have hfirst := hacc.first
  simp only [appendSample, ends_bind, ends_get, ends_orThrow, ha]
  refine ⟨?_, (by simp)⟩
  rintro _ ⟨rfl⟩
  simp only [ends_ite, ends_bind, ends_modify, ends_fromResult, ends_pure, ft8ReceiveWindowSamples_eq,
    List.length_append, List.length_singleton, exceptMapError_ok]
  refine ⟨fun hfull => ⟨fun w hw => ?_, fun _ _ => trivial⟩, fun _ => ?_⟩
  · refine ⟨fun e he => ?_, none, rfl, (by simp)⟩
    obtain rfl := List.mem_singleton.mp he
    have hstart : acc.firstTick = acc.slotTick := by
      unfold Origin.slotTick at ht
      omega
    unfold Ft8ReceiveWindow.new at hw
    split at hw
    · split at hw
      · cases hw
        exact hacc.mapping hstart
      · cases hw
    · cases hw
  · refine ⟨(by simp), _, rfl, ?_⟩
    rintro _ ⟨rfl⟩
    refine ⟨hacc.slot, hfirst, ?_, hacc.mapping⟩
    simp only [List.length_append, List.length_singleton]
    omega

theorem pushOutput_onClock (h : OnClock o d r)
    (hframe : Origin.slotTick r.nextOutputTick = r.nextOutputTick → o.HasFrame r.nextOutputTick) :
    Ends (pushOutput y) r
      (fun events r' => (∀ e ∈ events, e.Mapped d) ∧ ∃ active, r' = r.withActive active ∧
        ∀ acc, active = some acc → acc.Mapped d (r.nextOutputTick + 1))
      (fun _ r' => r' = r.withActive none) := by
  simp only [pushOutput, ends_bind, ends_get, ends_pure, outputTicksPerSlot_eq]
  refine (enterSlot_onClock h hframe).imp ?_ (fun _ _ he => he)
  rintro withheld _ ⟨hwithheld, acc, rfl, ht, hacc⟩
  refine (appendSample_onClock (r := r.withActive (some acc)) rfl ht hacc).imp ?_ (fun _ _ he => he)
  rintro completed _ ⟨hcompleted, active, rfl, hactive⟩
  refine ⟨fun e he => ?_, active, rfl, hactive⟩
  exact (List.mem_append.mp he).elim (hwithheld e) (hcompleted e)

theorem OnClock.withActive_none (h : OnClock o d r) : OnClock o d (r.withActive none) :=
  ⟨h.toServes.withActive none, h.origin, h.next, fun _ ha => by cases ha⟩

theorem targetSourceTick_some {target : Int} (hr : Serves o r) (h : r.targetSourceTick = some target) :
    target = (r.nextOutputTick - o.anchorTick) * o.rate := by
  simp only [targetSourceTick, Option.bind_eq_bind, Option.bind_eq_some_iff, tryI128_eq_some, hr.anchor, hr.rate,
    outputTicksPerMillisecond_eq] at h
  obtain ⟨_, ⟨rfl, -⟩, _, ⟨rfl, -⟩, rfl, -⟩ := h
  rfl

/-- A due tick lies at a frame, and its number can be increased. -/
theorem due_hasFrame {positionDelta : Nat} (hnext : o.anchorTick ≤ r.nextOutputTick)
    (hpos : o.first.position.frames.toNat + positionDelta < 2 ^ 64)
    (hdue : (r.nextOutputTick - o.anchorTick) * o.rate ≤ positionDelta * 12000) :
    o.HasFrame r.nextOutputTick ∧ ∃ next, tryI128 (r.nextOutputTick + 1) = some next := by
  have hrate := o.rate_ge
  have hu := o.first.utcUnixMillis.toInt_lt
  have hu' := o.first.utcUnixMillis.le_toInt
  have hA : o.anchorTick = o.first.utcUnixMillis.toInt * 12 := rfl
  have hnonneg : 0 ≤ (r.nextOutputTick - o.anchorTick) * (o.rate : Int) := Int.mul_nonneg (by omega) (by omega)
  constructor
  · unfold Origin.HasFrame Origin.tickEvidence Origin.sourceDelta
    rw [Int.tdiv_eq_ediv_of_nonneg hnonneg]
    omega
  · have hle : (r.nextOutputTick - o.anchorTick) * 8000 ≤ (r.nextOutputTick - o.anchorTick) * (o.rate : Int) :=
      Int.mul_le_mul_of_nonneg_left (by omega) (by omega)
    exact ⟨_, tryI128_eq_some.mpr ⟨rfl, by omega, by omega⟩⟩

theorem pushTick_onClock {positionDelta : Nat} {currentSourceTick : Int} (h : OnClock o d r)
    (hpos : o.first.position.frames.toNat + positionDelta < 2 ^ 64)
    (hcurrent : currentSourceTick = positionDelta * 12000) :
    Ends (pushTick positionDelta y currentSourceTick) r
      (fun events r' => OnClock o d r' ∧ ∀ l, events = some l → ∀ e ∈ l, e.Mapped d) (fun _ r' => OnClock o d r') := by
  simp only [pushTick, ends_bind, ends_get, ends_orThrow, ends_ite, ends_pure, ends_throw, ends_fromResult, ends_modify]
  refine ⟨fun target htarget => ⟨fun _ => ⟨h, (by simp)⟩, fun hdue => ⟨fun previous _ => ⟨fun before _ => ⟨fun _ => h,
    fun _ => ⟨fun value _ => ?_, fun _ _ => h⟩⟩, fun _ => h⟩, fun _ => h⟩⟩, fun _ => h⟩
  obtain rfl := targetSourceTick_some h.toServes htarget
  obtain ⟨hframe, next, hnext⟩ := due_hasFrame h.next hpos (by omega)
  refine (pushOutput_onClock h fun _ => hframe).imp ?_ ?_
  · rintro events _ ⟨hevents, active, rfl, hactive⟩
    rw [hnext]
    refine ⟨?_, (by simp)⟩
    rintro _ ⟨rfl⟩
    obtain ⟨rfl, -⟩ := tryI128_eq_some.mp hnext
    have hle := h.next
    refine ⟨⟨⟨h.anchor, h.rate, h.processGeneration, h.streamGeneration⟩, h.origin, ?_, hactive⟩, ?_⟩
    · show o.anchorTick ≤ r.nextOutputTick + 1
      omega
    · rintro _ ⟨rfl⟩
      exact hevents
  · rintro _ _ rfl
    exact h.withActive_none

theorem pushTicks_onClock {positionDelta : Nat} {currentSourceTick : Int} (passes : Nat) (h : OnClock o d r)
    (hpos : o.first.position.frames.toNat + positionDelta < 2 ^ 64)
    (hcurrent : currentSourceTick = positionDelta * 12000) :
    Ends (pushTicks positionDelta y currentSourceTick passes) r
      (fun events r' => OnClock o d r' ∧ ∀ e ∈ events, e.Mapped d) (fun _ r' => OnClock o d r') := by
  induction passes generalizing r with
  | zero => exact ⟨h, (by simp)⟩
  | succ passes ih =>
    simp only [pushTicks, ends_bind]
    refine (pushTick_onClock h hpos hcurrent).imp ?_ (fun _ _ he => he)
    rintro (- | events) r' ⟨hr', hevents⟩
    · exact ⟨hr', (by simp)⟩
    · simp only [ends_bind, ends_pure]
      refine (ih hr').imp (fun later r'' hlater => ⟨hlater.1, fun e he => ?_⟩) (fun _ _ he => he)
      exact (List.mem_append.mp he).elim (hevents events rfl e) (hlater.2 e)

theorem OnClock.withPrevious (h : OnClock o d r) (previous : Option (Nat × Int16)) :
    OnClock o d { r with previous } :=
  ⟨⟨h.anchor, h.rate, h.processGeneration, h.streamGeneration⟩, h.origin, h.next, h.active⟩

theorem pushSample_onClock {position : UInt64} (h : OnClock o d r) :
    Ends (pushSample position y) r (fun events r' => OnClock o d r' ∧ ∀ e ∈ events, e.Mapped d)
      (fun _ r' => OnClock o d r') := by
  have hlt := position.toNat_lt
  simp only [pushSample, ends_bind, ends_get, ends_orThrow, ends_modify, ends_pure, tryU64_eq_some, tryI128_eq_some,
    ft8ReceiveSampleRateHz_eq]
  refine ⟨fun delta hdelta => ⟨?_, fun _ => h.withPrevious _⟩, fun _ => h⟩
  rintro _ ⟨rfl, -⟩
  rw [h.anchor] at hdelta
  refine (pushTicks_onClock _ (h.withPrevious _) (by omega) rfl).imp (fun events r' hr' => ?_) (fun _ _ he => he)
  exact ⟨hr'.1.withPrevious _, hr'.2⟩

theorem pushSamples_onClock {firstPosition : UInt64} (samples : List Int16) (index : Nat) (h : OnClock o d r) :
    Ends (pushSamples firstPosition index samples) r (fun events r' => OnClock o d r' ∧ ∀ e ∈ events, e.Mapped d)
      (fun _ r' => OnClock o d r') := by
  induction samples generalizing r index with
  | nil => exact ⟨h, (by simp)⟩
  | cons y samples ih =>
    simp only [pushSamples, ends_bind, ends_orThrow, ends_pure]
    refine ⟨fun position _ => ?_, fun _ => h⟩
    refine (pushSample_onClock h).imp (fun events r' hr' => ?_) (fun _ _ he => he)
    refine (ih (index + 1) hr'.1).imp (fun later r'' hr'' => ⟨hr''.1, fun e he => ?_⟩) (fun _ _ he => he)
    exact (List.mem_append.mp he).elim (hr'.2 e) (hr''.2 e)

theorem new_onClock (h : new o.first o.configuration.sampleRateHz o.processGeneration o.streamGeneration = .ok r)
    (ho : o.first.OnClock d) : OnClock o d r := by
  unfold new at h
  split at h
  · cases h
  · rename_i tick htick
    cases h
    obtain ⟨rfl, -⟩ := tryI128_eq_some.mp htick
    exact ⟨⟨rfl, rfl, rfl, rfl⟩, ho, Int.le_refl _, (by simp)⟩

end RationalResampler

namespace Ft8ReceiveTimeline

variable {d : Int} {batch : CaptureBatch} {observedAt : UInt64} {s t u : Ft8ReceiveTimeline}

/-! ## One push -/

/-- `t` has the resampler of `s` or none. -/
def KeepsResampler (s t : Ft8ReceiveTimeline) : Prop := t.resampler = s.resampler ∨ t.resampler = none

theorem KeepsResampler.trans (h : KeepsResampler s t) (h' : KeepsResampler t u) : KeepsResampler s u := by
  rcases h' with h' | h'
  · exact h.imp h'.trans h'.trans
  · exact .inr h'

theorem advanceExpected_keeps :
    Ends (advanceExpected batch) s (fun _ t => KeepsResampler s t) (fun _ t => KeepsResampler s t) := by
  simp only [advanceExpected, ends_bind, ends_modify, ends_fromResult]
  exact ⟨fun _ _ => .inl rfl, fun _ _ => .inl rfl⟩

theorem reject_keeps (error : ReceiveTimelineError) :
    Ends (reject batch error) s (fun _ t => KeepsResampler s t) (fun _ t => KeepsResampler s t) := by
  simp only [reject, ends_bind, ends_modify, ends_throw]
  have hnone : KeepsResampler s s.invalidateActive := .inr rfl
  exact advanceExpected_keeps.imp (fun _ _ h => hnone.trans h) (fun _ _ h => hnone.trans h)

theorem checkLateness_keeps :
    Ends (checkLateness batch observedAt) s (fun _ t => KeepsResampler s t) (fun _ t => KeepsResampler s t) := by
  simp only [checkLateness, ends_ite, ends_bind, ends_modify, ends_pure]
  exact ⟨fun _ => reject_keeps _, fun _ => .inl rfl⟩

theorem checkPosition_keeps :
    Ends (checkPosition batch) s (fun _ t => KeepsResampler s t) (fun _ t => KeepsResampler s t) := by
  simp only [checkPosition, ends_bind, ends_get]
  split
  · exact .inl rfl
  · exact reject_keeps _
  · exact .inr rfl

theorem checkDiscontinuity_keeps :
    Ends (checkDiscontinuity batch) s (fun _ t => KeepsResampler s t) (fun _ t => KeepsResampler s t) := by
  unfold checkDiscontinuity
  split
  · exact .inl rfl
  · simp only [ends_bind, ends_get, ends_ite, ends_pure]
    exact ⟨fun _ => .inl rfl, fun _ => reject_keeps _⟩

theorem checkMapping_keeps :
    Ends (checkMapping batch) s (fun _ t => KeepsResampler s t) (fun _ t => KeepsResampler s t) := by
  simp only [checkMapping, ends_bind, ends_get]
  split
  · exact .inl rfl
  · simp only [ends_tryCatch]
    have hmeasured {u : Ft8ReceiveTimeline} (h : Measured s u) : KeepsResampler s u := by
      obtain ⟨_, _, rfl⟩ := h
      exact .inl rfl
    refine (validateMapping_ends _).imp (fun _ _ h => hmeasured h.1) (fun error u h => ?_)
    exact (reject_keeps error).imp (fun _ _ h' => (hmeasured h.1).trans h') (fun _ _ h' => (hmeasured h.1).trans h')

/-- The resampler of the timeline, if any, is on the clocks. -/
def OnClock (d : Int) (t : Ft8ReceiveTimeline) : Prop :=
  ∀ r, t.resampler = some r → ∃ o, RationalResampler.OnClock o d r

theorem OnClock.keeps (h : OnClock d s) (hk : KeepsResampler s t) : OnClock d t := by
  intro r hr
  rcases hk with hk | hk
  · exact h r (hk.symm.trans hr)
  · rw [hk] at hr
    cases hr

theorem ensureResampler_onClock (h : OnClock d s) (hb : batch.firstFrame.OnClock d) :
    Ends (ensureResampler batch) s (fun _ t => OnClock d t) (fun _ t => OnClock d t) := by
  simp only [ensureResampler, ends_bind, ends_get, ends_ite, ends_fromResult, ends_modify, ends_pure]
  refine ⟨fun _ => ⟨fun r hr => ?_, fun _ _ => h⟩, fun _ => h⟩
  rintro _ ⟨rfl⟩
  let o : Origin := ⟨batch.firstFrame, s.configuration, s.processGeneration, s.streamGeneration⟩
  exact ⟨o, RationalResampler.new_onClock (o := o) hr hb⟩

/-- **A push on the clocks** keeps the resampler on them, also when it fails, and its windows have the mappings of
their slot starts. -/
theorem push_onClock (h : OnClock d s) (hb : batch.firstFrame.OnClock d) :
    Ends (push batch observedAt) s (fun events t => (∀ e ∈ events, e.Mapped d) ∧ OnClock d t)
      (fun _ t => OnClock d t) := by
  simp only [push, ends_bind, ends_get, ends_fromResult, ends_modify, ends_pure]
  refine ⟨fun _ _ => ?_, fun _ _ => h⟩
  refine checkLateness_keeps.imp (fun _ t hk => ?_) (fun _ _ hk => h.keeps hk)
  replace h := h.keeps hk
  refine checkPosition_keeps.imp (fun _ t hk => ?_) (fun _ _ hk => h.keeps hk)
  replace h := h.keeps hk
  refine checkDiscontinuity_keeps.imp (fun _ t hk => ?_) (fun _ _ hk => h.keeps hk)
  replace h := h.keeps hk
  refine checkMapping_keeps.imp (fun _ t hk => ?_) (fun _ _ hk => h.keeps hk)
  replace h := h.keeps hk
  refine (ensureResampler_onClock h hb).imp (fun _ t h => ?_) (fun _ _ h => h)
  rw [onResampler, ends_onPart]
  refine ⟨fun _ => h, fun r hr => ?_⟩
  obtain ⟨o, ho⟩ := h r hr
  have hsome {r' : RationalResampler} (hr' : RationalResampler.OnClock o d r') :
      OnClock d { t with resampler := some r' } := by
    rintro _ ⟨rfl⟩
    exact ⟨o, hr'⟩
  refine (RationalResampler.pushSamples_onClock batch.samples 0 ho).imp (fun events r' hr' => ?_)
    (fun _ r' hr' => hsome hr')
  have hcounted : OnClock d (countIncomplete { t with resampler := some r' } events) := hsome hr'.1
  exact advanceExpected_keeps.imp (fun _ _ hk => ⟨hr'.2, hcounted.keeps hk⟩) (fun _ _ hk => hcounted.keeps hk)

/-! ## Runs -/

/-- **All windows of a run** of pushes on the clocks have the mappings of their slot starts. -/
theorem windows_mapped (processGeneration : ProcessGeneration) (streamGeneration : StreamGeneration)
    (configuration : InputConfiguration) (run : List (CaptureBatch × UInt64))
    (hrun : ∀ input ∈ run, input.1.firstFrame.OnClock d) :
    ∀ entry ∈ transcript step (new processGeneration streamGeneration configuration) run,
      ∀ e ∈ eventsOf entry, e.Mapped d := by
  have hnew : OnClock d (new processGeneration streamGeneration configuration) := fun _ hr => by cases hr
  generalize new processGeneration streamGeneration configuration = t at hnew
  induction run generalizing t with
  | nil => simp
  | cons input run ih =>
    rw [List.forall_mem_cons] at hrun
    have hpush : Ends (push input.1 input.2) t _ _ := push_onClock hnew hrun.1
    rw [transcript_cons, List.forall_mem_cons]
    constructor
    · unfold eventsOf
      split
      · rename_i events hevents
        exact (hpush.of_ok (outcome_eq_ok.mp hevents)).1
      · simp
    · refine ih hrun.2 _ ?_
      exact ends_final.mp (hpush.imp (fun _ _ h => h.2) (fun _ _ h => h))

end Ft8ReceiveTimeline

end Slotpilot.Audio
