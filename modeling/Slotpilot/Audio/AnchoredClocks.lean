import Slotpilot.Audio.Drift
import Slotpilot.Audio.FailClosed
import Slotpilot.Audio.Mapping

/-!
# The clocks of an anchored timeline

A timeline and its resampler are anchored at the same evidence, in every state of a run (`linked_run`), so the mapping of
a window is what clocks with the anchor's distance show at the slot start (`push_linked`). The capture clocks of the
batches may drift against each other within the timeline's tolerances; only the anchor's count.

The drift a timeline records is that of a batch within the jitter tolerance (`driftBounded_step`). A run of silent
batches over one slot (`silentRun`) shows that windows are emitted.
-/

set_option autoImplicit false

namespace Slotpilot.Audio

open Lib

/-- Milliseconds that the UTC of an anchor is ahead of its monotonic time. -/
def TimelineAnchor.clockOffset (anchor : TimelineAnchor) : Int :=
  anchor.utcUnixMillis.toInt - anchor.monotonicMillis.toNat

/-- The anchor at the first frame of an origin. -/
def Origin.anchor (o : Origin) : TimelineAnchor := ⟨o.first.position, o.first.utcUnixMillis, o.first.monotonicMillis⟩

theorem Origin.first_onClock (o : Origin) : o.first.OnClock o.anchor.clockOffset := by
  show o.first.utcUnixMillis.toInt =
    o.first.monotonicMillis.toNat + (o.first.utcUnixMillis.toInt - o.first.monotonicMillis.toNat)
  omega

namespace Ft8ReceiveTimeline

variable {batch : CaptureBatch} {observedAt : UInt64} {s t u : Ft8ReceiveTimeline} {r : RationalResampler}

/-! ## One push -/

/-- The timeline is anchored where its resampler is, or neither is anchored. -/
inductive Linked (s : Ft8ReceiveTimeline) : Prop
  | idle (anchor : s.anchor = none) (resampler : s.resampler = none)
  | anchored (o : Origin) (r : RationalResampler) (anchor : s.anchor = some o.anchor) (resampler : s.resampler = some r)
    (onClock : RationalResampler.OnClock o o.anchor.clockOffset r)

theorem Linked.of_discarded (h : Discarded s u) : Linked u := .idle h.anchor h.resampler

/-- The resampler that takes a batch serves the timeline's anchor. -/
theorem Linked.resampling (h : Linked s) (hr : Resampling batch s r) :
    ∃ o : Origin, anchorAfter batch s = o.anchor ∧ RationalResampler.OnClock o o.anchor.clockOffset r := by
  cases h with
  | idle hanchor hresampler =>
    obtain hr | ⟨-, hr⟩ := hr
    · rw [hresampler] at hr
      cases hr
    · let o : Origin := ⟨batch.firstFrame, s.configuration, s.processGeneration, s.streamGeneration⟩
      refine ⟨o, ?_, RationalResampler.new_onClock (o := o) hr o.first_onClock⟩
      rw [anchorAfter, hanchor]
      rfl
  | anchored o r' hanchor hresampler honClock =>
    obtain hr | ⟨hr, -⟩ := hr
    · obtain rfl : r' = r := Option.some.inj (hresampler.symm.trans hr)
      exact ⟨o, by rw [anchorAfter, hanchor]; rfl, honClock⟩
    · rw [hresampler] at hr
      cases hr

/-- The events have the mappings of a timeline's anchor. -/
def AnchoredEvents (u : Ft8ReceiveTimeline) (events : List ReceiveTimelineEvent) : Prop :=
  ∃ anchor, u.anchor = some anchor ∧ ∀ e ∈ events, e.Mapped anchor.clockOffset

/-- **A push of a linked timeline** keeps it linked, also when it fails, and its windows have the mappings of the anchor
that the batch was taken with. -/
theorem push_linked (h : Linked s) :
    Ends (push batch observedAt) s
      (fun events u => Linked u ∧ u.anchor = some (anchorAfter batch s) ∧ AnchoredEvents u events)
      (fun _ u => Linked u) := by
  simp only [push, ends_bind, ends_get, ends_fromResult, ends_modify, ends_pure]
  refine ⟨fun _ _ => ?_, fun _ _ => h⟩
  refine checkLateness_discarded.imp ?_ (fun _ _ hd => .of_discarded hd.2)
  intro _ t ht
  obtain ⟨rfl, -⟩ := ht
  refine checkPosition_discarded.imp ?_ (fun _ _ hd => .of_discarded hd.2)
  intro _ t ht
  obtain ⟨rfl, -⟩ := ht
  refine checkDiscontinuity_discarded.imp ?_ (fun _ _ hd => .of_discarded hd.2)
  intro _ t ht
  obtain ⟨rfl, -⟩ := ht
  refine checkMapping_discarded.imp ?_ (fun _ _ hd => .of_discarded hd.2)
  intro _ u hu
  obtain ⟨⟨health, rfl⟩, -⟩ := hu
  refine ensureResampler_resampling.imp ?_ ?_
  · intro _ u hu
    obtain ⟨r, hr, rfl⟩ := hu
    obtain ⟨o, hanchor, honClock⟩ := h.resampling hr
    rw [onResampler, ends_onPart]
    refine ⟨(by simp), ?_⟩
    intro r₀ hr₀
    cases hr₀
    -- whatever the resampler does, it stays on the clocks of the anchor
    have hlinked {r' : RationalResampler} (hr' : RationalResampler.OnClock o o.anchor.clockOffset r')
        {v : Ft8ReceiveTimeline} (hv : v.anchor = some (anchorAfter batch t) ∧ v.resampler = some r') : Linked v :=
      .anchored o r' (hv.1.trans (congrArg some hanchor)) hv.2 hr'
    refine (RationalResampler.pushSamples_onClock batch.samples 0 honClock).imp ?_ ?_
    · intro events r' hpush
      obtain ⟨hr', hmapped⟩ := hpush
      simp only [advanceExpected, ends_bind, ends_modify, ends_fromResult]
      refine ⟨fun _ _ => ⟨hlinked hr' ⟨rfl, rfl⟩, rfl, _, rfl, ?_⟩, fun _ _ => hlinked hr' ⟨rfl, rfl⟩⟩
      rw [hanchor]
      exact hmapped
    · intro _ r' hr'
      exact hlinked hr' ⟨rfl, rfl⟩
  · intro _ _ hno
    obtain ⟨r, hr⟩ := exists_resampling batch t
    exact absurd hr (hno.2 r)

/-! ## Runs -/

theorem linked_step (h : Linked s) (input : CaptureBatch × UInt64) : Linked (step s input).2 :=
  ends_final.mp ((push_linked h).imp (fun _ _ hu => hu.1) (fun _ _ hu => hu))

/-- In every state of a run the timeline and its resampler are linked. -/
theorem linked_run (processGeneration : ProcessGeneration) (streamGeneration : StreamGeneration)
    (configuration : InputConfiguration) (run : List (CaptureBatch × UInt64)) :
    Linked (final step (new processGeneration streamGeneration configuration) run) :=
  final_inv_all (I := Linked) (fun _ input h => linked_step h input) (.idle rfl rfl) run

/-! ## The recorded drift -/

/-- The recorded drift is what the jitter tolerance is of one second. -/
def DriftBounded (s : Ft8ReceiveTimeline) : Prop := |s.health.driftPartsPerMillion| ≤ 50000

/-- From one second on, a deviation within the jitter tolerance is a small rate error. -/
theorem ratePartsPerMillion_le {nominal observed : Nat} (hnominal : 1000 ≤ nominal)
    (hjitter : |(observed : Int) - nominal| ≤ maxReceiveJitterMillis) :
    |ratePartsPerMillion nominal observed| ≤ 50000 := by
  have hdeviation : ((observed : Int) - nominal).natAbs ≤ 50 := by
    rw [Int.abs_eq_natAbs] at hjitter
    exact Int.ofNat_le.mp hjitter
  have hscaled : (((observed : Int) - nominal) * 1000000).natAbs ≤ 50000000 := by
    rw [Int.natAbs_mul]
    exact Nat.mul_le_mul_right 1000000 hdeviation
  have hquotient : (((observed : Int) - nominal) * 1000000).natAbs / nominal ≤ 50000000 / 1000 :=
    Nat.div_le_div hscaled hnominal (by decide)
  rw [ratePartsPerMillion, Int.abs_eq_natAbs, Int.natAbs_tdiv]
  exact Int.ofNat_le.mpr hquotient

theorem validateJitter_driftBounded (nominal observed : Nat) (h : DriftBounded s) :
    Ends (validateJitter nominal observed) s
      (fun _ t => DriftBounded t ∧ |(observed : Int) - nominal| ≤ maxReceiveJitterMillis) (fun _ => DriftBounded) := by
  have hmeasured := validateJitter_ends (s := s) nominal observed
  simp only [validateJitter, ends_bind, ends_orThrow, ends_modify, ends_ite, ends_throw, ends_pure] at hmeasured ⊢
  refine ⟨fun jitter hvalue => ⟨fun _ => h, fun hsmall => ⟨h, ?_⟩⟩, fun _ => h⟩
  exact ((hmeasured.1 jitter hvalue).2 hsmall).2

theorem validateDrift_driftBounded {nominal observed : Nat}
    (hjitter : |(observed : Int) - nominal| ≤ maxReceiveJitterMillis) :
    Leads DriftBounded DriftBounded (validateDrift nominal observed) := by
  intro s hs
  simp only [validateDrift, ends_bind, ends_orThrow, ends_modify, ends_ite, ends_throw, ends_pure]
  refine ⟨fun hnominal => ⟨fun scaled hscaled => ⟨fun partsPerMillion hvalue => ?_, fun _ => hs⟩, fun _ => hs⟩,
    fun _ => hs⟩
  have hrate : partsPerMillion = ratePartsPerMillion nominal observed := by
    rw [ratePartsPerMillion, ← (tryI128_eq_some.mp hscaled).1, (tryI32_eq_some.mp hvalue).1]
  have hbound : |partsPerMillion| ≤ 50000 := hrate ▸ ratePartsPerMillion_le hnominal hjitter
  exact ⟨fun _ => hbound, fun _ => hbound⟩

theorem validateMapping_driftBounded (anchor : TimelineAnchor) (batch : CaptureBatch) :
    Leads DriftBounded DriftBounded (validateMapping anchor batch) := by
  refine (leads_get fun _ => id).bind (fun _ => id) fun self => ?_
  intro s hs
  simp only [ends_ite, ends_throw]
  refine ⟨fun _ => hs, fun _ => ⟨fun _ => hs, fun _ => ?_⟩⟩
  refine ((leads_orThrow (fun _ => id) _ _).bind (fun _ => id) fun delta => ?_) s hs
  refine (leads_orThrow (fun _ => id) _ _).bind (fun _ => id) fun nominal => ?_
  intro s hs
  rw [ends_bind]
  refine (validateJitter_driftBounded _ _ hs).imp ?_ (fun _ _ ht => ht)
  intro _ t ht
  rw [ends_bind]
  refine (validateRemap_ends anchor).imp ?_ (fun _ _ hu => hu.1 ▸ ht.1)
  intro _ u hu
  exact validateDrift_driftBounded ht.2 u (hu.1 ▸ ht.1)

theorem advanceExpected_driftBounded (batch : CaptureBatch) :
    Leads DriftBounded DriftBounded (advanceExpected batch) := by
  refine (leads_modify fun s hs => ?_).bind (fun _ => id) fun _ => ?_
  · exact hs
  refine (leads_fromResult (fun _ => id) _).bind (fun _ => id) fun _ => leads_modify fun s hs => ?_
  exact hs

theorem reject_driftBounded (batch : CaptureBatch) (error : ReceiveTimelineError) :
    Leads DriftBounded DriftBounded (reject batch error) := by
  refine (leads_modify fun s hs => ?_).bind (fun _ => id) fun _ => ?_
  · exact hs
  exact (advanceExpected_driftBounded batch).bind (fun _ => id) fun _ => leads_throw (fun _ => id) _

theorem checkMapping_driftBounded (batch : CaptureBatch) : Leads DriftBounded DriftBounded (checkMapping batch) := by
  refine (leads_get fun _ => id).bind (fun _ => id) fun self => ?_
  cases self.anchor with
  | none => exact leads_modify fun _ hs => hs
  | some anchor =>
    intro s hs
    show Ends (tryCatch (validateMapping anchor batch) (reject batch)) s _ _
    rw [ends_tryCatch]
    exact (validateMapping_driftBounded anchor batch s hs).imp (fun _ _ ht => ht)
      (fun error t ht => reject_driftBounded batch error t ht)

/-- The checks before the mapping only count. -/
theorem checks_driftBounded (batch : CaptureBatch) (observedAt : UInt64) :
    Leads DriftBounded DriftBounded (checkLateness batch observedAt) ∧
      Leads DriftBounded DriftBounded (checkPosition batch) ∧
      Leads DriftBounded DriftBounded (checkDiscontinuity batch) := by
  refine ⟨fun s hs => ?_, ?_, ?_⟩
  · simp only [checkLateness, ends_ite, ends_bind, ends_modify, ends_pure]
    exact ⟨fun _ => reject_driftBounded batch _ _ hs, fun _ => hs⟩
  · refine (leads_get fun _ => id).bind (fun _ => id) fun self => ?_
    split
    · exact leads_pure (fun _ => id) _
    · exact reject_driftBounded batch _
    · refine (leads_modify fun s hs => ?_).bind (fun _ => id) fun _ => leads_throw (fun _ => id) _
      exact hs
  · unfold checkDiscontinuity
    split
    · exact leads_pure (fun _ => id) _
    · refine (leads_get fun _ => id).bind (fun _ => id) fun self => ?_
      intro s hs
      rw [ends_ite]
      exact ⟨fun _ => hs, fun _ => reject_driftBounded batch _ s hs⟩

theorem ensureResampler_driftBounded (batch : CaptureBatch) :
    Leads DriftBounded DriftBounded (ensureResampler batch) := by
  refine (leads_get fun _ => id).bind (fun _ => id) fun self => ?_
  intro s hs
  rw [ends_ite]
  refine ⟨fun _ => ?_, fun _ => hs⟩
  refine ((leads_fromResult (fun _ => id) _).bind (fun _ => id) fun _ => leads_modify fun t ht => ?_) s hs
  exact ht

theorem push_driftBounded (batch : CaptureBatch) (observedAt : UInt64) :
    Leads DriftBounded DriftBounded (push batch observedAt) := by
  obtain ⟨hlateness, hposition, hdiscontinuity⟩ := checks_driftBounded batch observedAt
  refine (leads_get fun _ => id).bind (fun _ => id) fun self => ?_
  refine (leads_fromResult (fun _ => id) _).bind (fun _ => id) fun _ => ?_
  refine hlateness.bind (fun _ => id) fun _ => ?_
  refine hposition.bind (fun _ => id) fun _ => ?_
  refine hdiscontinuity.bind (fun _ => id) fun _ => ?_
  refine (checkMapping_driftBounded batch).bind (fun _ => id) fun _ => ?_
  refine (ensureResampler_driftBounded batch).bind (fun _ => id) fun _ => ?_
  have hresampler : Leads DriftBounded DriftBounded (onResampler (RationalResampler.push batch)) :=
    fun s hs => Ends.onPart_of_all hs (fun _ _ => hs) (fun _ _ => hs)
  refine hresampler.bind (fun _ => id) fun events => ?_
  refine (leads_modify fun s hs => ?_).bind (fun _ => id) fun _ => ?_
  · exact hs
  exact (advanceExpected_driftBounded batch).bind (fun _ => id) fun _ => leads_pure (fun _ => id) _

/-- **The recorded drift is bounded** after every push, also when it fails. -/
theorem driftBounded_step (h : DriftBounded s) (input : CaptureBatch × UInt64) : DriftBounded (step s input).2 :=
  ends_final.mp (push_driftBounded input.1 input.2 s h)

/-! ## A slot of silence -/

/-- Batch number `i` of silence at 12 kHz from the epoch on, in batches of the greatest size. -/
def silentBatch (i : Nat) : CaptureBatch × UInt64 :=
  (CaptureBatch.silent ⟨1, one_nonzero⟩ ⟨1, one_nonzero⟩ monoConfiguration
    ⟨⟨UInt64.ofNat (i * 8192)⟩, Int64.ofNat (i * 8192 / 12), UInt64.ofNat (i * 8192 / 12)⟩ 8192 fullBatch_pos fullBatch_le,
    UInt64.ofNat (i * 8192 / 12))

/-- The batches over one slot. -/
def silentRun : List (CaptureBatch × UInt64) := (List.range' 0 22).map silentBatch

def silentOrigin : Origin := originOf monoConfiguration ⟨1, one_nonzero⟩ ⟨1, one_nonzero⟩ (silentBatch 0).1

theorem silent_elapsed (n : Nat) : elapsedMillis 12000 0 n = (n / 12 : Nat) := by
  have hq : (1000 * n : ℝ) / ((12000 : Nat) * (1 + 0)) = (n : ℝ) / (12 : Nat) := by
    push_cast
    ring
  rw [elapsedMillis, hq, ← Nat.floor_div_eq_div (K := ℝ)]
  exact (Int.natCast_floor_eq_floor (by positivity)).symm

/-- Batches of the greatest size at 12 kHz that a source delivers on time, from a slot start on. -/
structure Steady (batch : Nat → CaptureBatch × UInt64) (o : Origin) : Prop where
  origin : o = originOf monoConfiguration ⟨1, one_nonzero⟩ ⟨1, one_nonzero⟩ (batch 0).1
  length : ∀ i, (batch i).1.samples.length = 8192
  delivered : ∀ i < 2 ^ 32, Delivered o 0 (i * 8192) (batch i)
  position : o.first.position.frames.toNat = 0
  monotonic : o.first.monotonicMillis.toNat = 0
  utc : 0 ≤ o.first.utcUnixMillis.toInt ∧ o.first.utcUnixMillis.toInt < 2 ^ 62
  aligned : o.first.utcUnixMillis.toInt % 15000 = 0

section Steady

variable {next : Nat → CaptureBatch × UInt64} {o : Origin}

theorem Steady.rate (h : Steady next o) : o.rate = 12000 := by
  rw [h.origin]
  rfl

theorem Steady.lead (h : Steady next o) : o.leadTicks = 0 := by
  have haligned := h.aligned
  unfold Origin.leadTicks Origin.anchorTick
  omega

/-- A tick of the run fits. -/
theorem Steady.slotFits (h : Steady next o) {k : Nat} (hk : k < 2 ^ 40) :
    o.SlotFits (Origin.slotTick (o.anchorTick + k)) := by
  obtain ⟨hnonneg, hlt⟩ := h.utc
  have haligned := h.aligned
  have hmonotonic := h.monotonic
  have hposition := h.position
  have hdelta (tick : Int) : o.sourceDelta tick = tick - o.first.utcUnixMillis.toInt * 12 := by
    rw [Origin.sourceDelta, h.rate, Origin.anchorTick]
    exact Int.mul_tdiv_cancel _ (by decide)
  unfold Origin.SlotFits Origin.HasFrame Origin.tickEvidence Origin.slotTick
  simp only [hdelta, hmonotonic, hposition, Origin.anchorTick]
  omega

theorem Steady.batchFits (h : Steady next o) {offset i : Nat} (hoffset : offset < 2 ^ 30) :
    BatchFits o offset (next i) := by
  have hposition := h.position
  refine ⟨by omega, by rw [hposition, h.length]; omega, ?_, ?_⟩
  · rw [hposition, h.length]
    omega
  · intro k hk
    apply h.slotFits
    unfold tickCount at hk
    rw [h.length, h.rate] at hk
    split at hk <;> omega

/-- The batches are delivered on time and fit. -/
theorem Steady.within (h : Steady next o) (count : Nat) : ∀ i, i + count < 100000 →
    Delivers o 0 (i * 8192) ((List.range' i count).map next) ∧
      WithinTolerance o 0 (i * 8192) ((List.range' i count).map next) := by
  induction count with
  | zero =>
    intro _ _
    exact ⟨trivial, trivial⟩
  | succ count ih =>
    intro i hi
    have hrest := ih (i + 1) (by omega)
    rw [Nat.succ_mul] at hrest
    have hjitter : JitterWithin o 0 (i * 8192) := by
      rw [JitterWithin, h.rate, silent_elapsed, abs_le]
      omega
    rw [List.range'_succ, List.map_cons]
    refine ⟨⟨h.delivered i (by omega), ?_⟩, ⟨hjitter, h.batchFits (by omega)⟩, ?_⟩
    · rw [h.length]
      exact hrest.1
    · rw [h.length]
      exact hrest.2

/-- The ticks of the run are those of one slot and a part of the next one. -/
theorem Steady.reconstruct (h : Steady next o) :
    ∃ values, Audio.reconstruct o (framesOf ((List.range' 0 22).map next)) = [o.blockWindow 0 values] := by
  have hframes : (framesOf ((List.range' 0 22).map next)).length = 180224 := by
    have hconst : (fun batch : CaptureBatch × UInt64 => batch.1.samples.length) ∘ next = fun _ => 8192 :=
      funext h.length
    simp only [framesOf, List.length_flatMap, List.map_map, hconst, List.map_const', List.sum_replicate,
      List.length_range', smul_eq_mul]
  have hticks : (tickValues o (framesOf ((List.range' 0 22).map next))).length = 180224 := by
    rw [tickValues, List.length_map, List.length_range, hframes, tickCount, h.rate, if_neg (by decide)]
  have hblocks : (blocks 180000 (tickValues o (framesOf ((List.range' 0 22).map next)))).length = 1 := by
    rw [length_blocks, hticks]
  obtain ⟨values, hvalues⟩ := List.length_eq_one_iff.mp hblocks
  refine ⟨values, ?_⟩
  rw [Audio.reconstruct, Origin.assembled, Origin.leadIncomplete, h.lead, if_neg (by simp), List.drop_zero, hvalues]
  rfl

/-- The pushes of the run are accepted. -/
theorem Steady.accepted (h : Steady next o) :
    ∀ entry ∈ transcript step (new ⟨1, one_nonzero⟩ ⟨1, one_nonzero⟩ monoConfiguration) ((List.range' 0 22).map next),
      entry.2.isOk := by
  obtain ⟨hdelivers, hwithin⟩ := h.within 22 0 (by decide)
  rw [Nat.zero_mul, h.origin] at hdelivers hwithin
  exact accepted_of_withinTolerance (by norm_num) hdelivers hwithin

/-- The contents of its events. -/
theorem Steady.contents (h : Steady next o) :
    ∃ values, ((transcript step (new ⟨1, one_nonzero⟩ ⟨1, one_nonzero⟩ monoConfiguration)
      ((List.range' 0 22).map next)).flatMap eventsOf).map (·.content) = [o.blockWindow 0 values] := by
  obtain ⟨values, hvalues⟩ := h.reconstruct
  refine ⟨values, ?_⟩
  have hevents := (events_reconstructed _ _ h.accepted).1
  rw [← hvalues, h.origin]
  exact hevents

/-- The run over one slot emits its window. -/
theorem Steady.emits (h : Steady next o) :
    ∃ entry ∈ transcript step (new ⟨1, one_nonzero⟩ ⟨1, one_nonzero⟩ monoConfiguration) ((List.range' 0 22).map next),
      ∃ window, .window window ∈ eventsOf entry := by
  obtain ⟨values, hcontents⟩ := h.contents
  obtain ⟨e, he, hcontent⟩ := List.mem_map.mp (hcontents ▸ List.mem_singleton_self (o.blockWindow 0 values))
  obtain ⟨entry, hentry, hmem⟩ := List.mem_flatMap.mp he
  cases e with
  | incomplete slot => cases hcontent
  | window window => exact ⟨entry, hentry, window, hmem⟩

/-- Its window is the first slot. -/
theorem Steady.slots (h : Steady next o) :
    ∀ entry ∈ transcript step (new ⟨1, one_nonzero⟩ ⟨1, one_nonzero⟩ monoConfiguration) ((List.range' 0 22).map next),
      ∀ window, .window window ∈ eventsOf entry →
        window.slotStartUtcMillis.toInt = o.first.utcUnixMillis.toInt := by
  intro entry hentry window hwindow
  obtain ⟨values, hcontents⟩ := h.contents
  have hmem := List.mem_map_of_mem (f := (·.content)) (List.mem_flatMap_of_mem hentry hwindow)
  rw [hcontents, List.mem_singleton] at hmem
  simp only [ReceiveTimelineEvent.content, Origin.blockWindow, EventContent.window.injEq] at hmem
  rw [hmem.2.2.1, Origin.boundaryTick, h.lead, Origin.anchorTick]
  omega

/-- It is of the first generations and mapped to the first frame. -/
theorem Steady.window (h : Steady next o) :
    ∀ entry ∈ transcript step (new ⟨1, one_nonzero⟩ ⟨1, one_nonzero⟩ monoConfiguration) ((List.range' 0 22).map next),
      ∀ window, .window window ∈ eventsOf entry → window.processGeneration = ⟨1, one_nonzero⟩ ∧
        window.streamGeneration = ⟨1, one_nonzero⟩ ∧ window.mapping = o.first := by
  intro entry hentry window hwindow
  obtain ⟨values, hcontents⟩ := h.contents
  have hmem := List.mem_map_of_mem (f := (·.content)) (List.mem_flatMap_of_mem hentry hwindow)
  rw [hcontents, List.mem_singleton] at hmem
  simp only [ReceiveTimelineEvent.content, Origin.blockWindow, EventContent.window.injEq] at hmem
  refine ⟨hmem.1.trans (by rw [h.origin]; rfl), hmem.2.1.trans (by rw [h.origin]; rfl), ?_⟩
  apply CaptureTimeEvidence.values_injective
  rw [hmem.2.2.2.1, Origin.tickEvidence, Origin.sourceDelta, Origin.boundaryTick, h.lead, Origin.anchorTick,
    CaptureTimeEvidence.values]
  simp

end Steady

/-- Batch number `i` of a silence that begins at this UTC. -/
def silentFrom (startMillis i : Nat) : CaptureBatch × UInt64 :=
  (CaptureBatch.silent ⟨1, one_nonzero⟩ ⟨1, one_nonzero⟩ monoConfiguration
    ⟨⟨UInt64.ofNat (i * 8192)⟩, Int64.ofNat (startMillis + i * 8192 / 12), UInt64.ofNat (i * 8192 / 12)⟩ 8192
    fullBatch_pos fullBatch_le,
    UInt64.ofNat (i * 8192 / 12))

theorem silentFrom_zero : silentFrom 0 = silentBatch := by
  funext i
  rw [silentFrom, silentBatch, Nat.zero_add]

/-- A silence from a slot start on is steady. -/
theorem silentFrom_steady (startMillis : Nat) (hlt : startMillis < 2 ^ 62) (haligned : startMillis % 15000 = 0) :
    Steady (silentFrom startMillis)
      (originOf monoConfiguration ⟨1, one_nonzero⟩ ⟨1, one_nonzero⟩ (silentFrom startMillis 0).1) := by
  have hrate : (originOf monoConfiguration ⟨1, one_nonzero⟩ ⟨1, one_nonzero⟩ (silentFrom startMillis 0).1).rate = 12000 :=
    rfl
  have hutc (i : Nat) (hi : i < 2 ^ 32) :
      (silentFrom startMillis i).1.firstFrame.utcUnixMillis.toInt = startMillis + (i * 8192 / 12 : Nat) := by
    show (Int64.ofNat (startMillis + i * 8192 / 12)).toInt = _
    rw [Int64.toInt_ofNat_of_lt (by omega), Nat.cast_add]
  have hfirst : (originOf monoConfiguration ⟨1, one_nonzero⟩ ⟨1, one_nonzero⟩
      (silentFrom startMillis 0).1).first.utcUnixMillis.toInt = startMillis := hutc 0 (by decide)
  refine ⟨rfl, fun i => List.length_replicate, ?_, rfl, rfl, by omega, by omega⟩
  intro i hi
  refine ⟨rfl, rfl, rfl, rfl, ?_, ?_, ?_, rfl⟩
  · show (UInt64.ofNat (i * 8192)).toNat = (UInt64.ofNat (0 * 8192)).toNat + i * 8192
    rw [UInt64.toNat_ofNat_of_lt' (by unfold UInt64.size; omega)]
    simp
  · rw [hrate, silent_elapsed]
    show ((UInt64.ofNat (i * 8192 / 12)).toNat : ℤ) = (UInt64.ofNat (0 * 8192 / 12)).toNat + _
    rw [UInt64.toNat_ofNat_of_lt' (by unfold UInt64.size; omega)]
    simp
  · rw [hrate, silent_elapsed, hutc i hi, hfirst]

/-- Its clocks agree. -/
theorem silentFrom_onClock (startMillis : Nat) (hlt : startMillis < 2 ^ 62) :
    ∀ input ∈ (List.range' 0 22).map (silentFrom startMillis),
      input.1.firstFrame.OnClock startMillis ∧ input.2.toNat ≤ 60000 := by
  intro input hinput
  obtain ⟨i, hi, rfl⟩ := List.mem_map.mp hinput
  have hi := List.mem_range'_1.mp hi
  constructor
  · show (Int64.ofNat (startMillis + i * 8192 / 12)).toInt = ((UInt64.ofNat (i * 8192 / 12)).toNat : Int) + startMillis
    rw [Int64.toInt_ofNat_of_lt (by omega), UInt64.toNat_ofNat_of_lt' (by unfold UInt64.size; omega)]
    omega
  · show (UInt64.ofNat (i * 8192 / 12)).toNat ≤ 60000
    rw [UInt64.toNat_ofNat_of_lt' (by unfold UInt64.size; omega)]
    omega

theorem silent_steady : Steady silentBatch silentOrigin := by
  unfold silentOrigin
  rw [← silentFrom_zero]
  exact silentFrom_steady 0 (by decide) rfl

theorem silent_accepted : ∀ entry ∈ transcript step (new ⟨1, one_nonzero⟩ ⟨1, one_nonzero⟩ monoConfiguration) silentRun,
    entry.2.isOk := silent_steady.accepted

theorem silent_emits : ∃ entry ∈ transcript step (new ⟨1, one_nonzero⟩ ⟨1, one_nonzero⟩ monoConfiguration) silentRun,
    ∃ window, .window window ∈ eventsOf entry := silent_steady.emits

/-- The push that emits it. -/
theorem silent_window : ∃ before input events window,
    (step (final step (new ⟨1, one_nonzero⟩ ⟨1, one_nonzero⟩ monoConfiguration) before) input).1 = .ok events ∧
      .window window ∈ events := by
  obtain ⟨⟨input, result⟩, hentry, window, hwindow⟩ := silent_emits
  obtain ⟨before, later, -, hanswer⟩ := exists_of_mem_transcript hentry
  cases result with
  | ok events => exact ⟨before, input, events, window, hanswer, hwindow⟩
  | error error => cases hwindow

/-- The clocks of the batches agree. -/
theorem silent_onClock : ∀ input ∈ silentRun, input.1.firstFrame.OnClock 0 ∧ input.2.toNat ≤ 60000 := by
  rw [silentRun, ← silentFrom_zero]
  exact silentFrom_onClock 0 (by decide)

/-- The push of a batch that completes a window reports it alone, of the first generations and mapped to the first
frame. -/
theorem silent_completes {before later : List (CaptureBatch × UInt64)} {input : CaptureBatch × UInt64}
    {events : List ReceiveTimelineEvent} {window : Ft8ReceiveWindow} (hsplit : silentRun = before ++ input :: later)
    (hpush : ((final step (new ⟨1, one_nonzero⟩ ⟨1, one_nonzero⟩ monoConfiguration) before).step input).1 = .ok events)
    (hwindow : .window window ∈ events) :
    events = [.window window] ∧ window.Mapped 0 ∧ window.processGeneration = ⟨1, one_nonzero⟩ ∧
      window.streamGeneration = ⟨1, one_nonzero⟩ ∧ window.mapping = silentOrigin.first := by
  have hentry : (input, .ok events) ∈
      transcript step (new ⟨1, one_nonzero⟩ ⟨1, one_nonzero⟩ monoConfiguration) silentRun := by
    rw [hsplit, transcript_append, transcript_cons, hpush]
    exact List.mem_append_right _ List.mem_cons_self
  have hone : events.length ≤ 1 := (events_reconstructed _ _ silent_steady.accepted).2 _ hentry
  have hmapped := windows_mapped ⟨1, one_nonzero⟩ ⟨1, one_nonzero⟩ monoConfiguration silentRun
    (fun other hother => (silent_onClock other hother).1) _ hentry _ hwindow
  refine ⟨?_, hmapped, silent_steady.window _ hentry window hwindow⟩
  obtain ⟨event, rfl⟩ := List.length_eq_one_iff.mp (hone.antisymm (List.length_pos_of_mem hwindow))
  rw [List.mem_singleton.mp hwindow]

/-- The batches end at a frame number. -/
theorem silent_ends : ∀ input ∈ silentRun, ∃ position, input.1.endPosition = .ok position := by
  intro input hinput
  obtain ⟨i, hi, rfl⟩ := List.mem_map.mp hinput
  have hi := List.mem_range'_1.mp hi
  refine ⟨⟨UInt64.ofNat ((i + 1) * 8192)⟩, ?_⟩
  unfold CaptureBatch.endPosition
  rw [CapturePosition.checkedAdvance_ok, CaptureBatch.frameCount_eq, silent_steady.length]
  show (UInt64.ofNat ((i + 1) * 8192)).toNat = (UInt64.ofNat (i * 8192)).toNat + 8192
  rw [UInt64.toNat_ofNat_of_lt' (by unfold UInt64.size; omega), UInt64.toNat_ofNat_of_lt' (by unfold UInt64.size; omega)]
  omega

end Ft8ReceiveTimeline

end Slotpilot.Audio
