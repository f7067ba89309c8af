import Slotpilot.Audio.Resampler
import Slotpilot.Lib.Blocks
import Mathlib

/-!
# What one output tick does to the slots

`assembled o ys` is the list of events that the values `ys` of the ticks from the anchor on give: the partial first
slot, once its boundary is passed, and one window for each complete block after it. `Holds` relates a resampler to the
values pushed so far, and `pushOutput_ends` is the step: one more value keeps it and emits exactly the difference.
-/

set_option autoImplicit false

namespace Slotpilot.Audio

open Lib

/-! ## Events as integers -/

/-- Position, UTC and monotonic milliseconds of time evidence. -/
def CaptureTimeEvidence.values (self : CaptureTimeEvidence) : Int × Int × Int :=
  (self.position.frames.toNat, self.utcUnixMillis.toInt, self.monotonicMillis.toNat)

/-- The content of a timeline event. -/
inductive EventContent
  | incomplete (slotStartMillis : Int) (reason : IncompleteSlotReason) (accumulatedSamples : Nat)
  | window (processGeneration : ProcessGeneration) (streamGeneration : StreamGeneration) (slotStartMillis : Int)
      (mapping : Int × Int × Int) (samples : List Int)
  deriving DecidableEq

def ReceiveTimelineEvent.content : ReceiveTimelineEvent → EventContent
  | .incomplete slot => .incomplete slot.slot.startUtcUnixMillis.toInt slot.reason slot.accumulatedSamples
  | .window w =>
    .window w.processGeneration w.streamGeneration w.slotStartUtcMillis.toInt w.mapping.values
      (w.samples.map Int16.toInt)

theorem CaptureTimeEvidence.values_injective : Function.Injective CaptureTimeEvidence.values := by
  rintro ⟨⟨p⟩, u, m⟩ ⟨⟨p'⟩, u', m'⟩ h
  simp only [values, Prod.mk.injEq, Int.natCast_inj, UInt64.toNat_inj, Int64.toInt_inj] at h
  obtain ⟨rfl, rfl, rfl⟩ := h
  rfl

/-- An event is determined by its content. -/
theorem ReceiveTimelineEvent.content_injective : Function.Injective content := by
  intro e e' h
  cases e with
  | window w =>
    cases e' with
    | incomplete slot' => cases h
    | window w' =>
      obtain ⟨pg, sg, start, mapping, samples, _, _, _⟩ := w
      obtain ⟨pg', sg', start', mapping', samples', _, _, _⟩ := w'
      simp only [content, EventContent.window.injEq, Int64.toInt_inj] at h
      obtain ⟨rfl, rfl, rfl, hm, hx⟩ := h
      obtain rfl := CaptureTimeEvidence.values_injective hm
      obtain rfl := List.map_injective_iff.mpr (fun _ _ => Int16.toInt_inj.mp) hx
      rfl
  | incomplete slot =>
    cases e' with
    | window w' => cases h
    | incomplete slot' =>
      obtain ⟨⟨start, _, _⟩, reason, count⟩ := slot
      obtain ⟨⟨start', _, _⟩, reason', count'⟩ := slot'
      simp only [content, EventContent.incomplete.injEq, Int64.toInt_inj] at h
      obtain ⟨rfl, rfl, rfl⟩ := h
      rfl

/-! ## The events of a stretch of ticks -/

/-- What the events of a stretch of contiguous frames depend on besides its samples. -/
structure Origin where
  first : CaptureTimeEvidence
  configuration : InputConfiguration
  processGeneration : ProcessGeneration
  streamGeneration : StreamGeneration

namespace Origin

variable (o : Origin)

def rate : Nat := o.configuration.sampleRateHz

/-- The UTC tick of the first frame. -/
def anchorTick : Int := o.first.utcUnixMillis.toInt * 12

/-- Ticks before the first slot boundary. -/
def leadTicks : Nat := (-o.anchorTick % 180000).toNat

/-- The tick of the first slot boundary. -/
def boundaryTick : Int := o.anchorTick + o.leadTicks

/-- The first tick of the slot of a tick. -/
def slotTick (tick : Int) : Int := tick / 180000 * 180000

/-- Source frames from the anchor to a tick, rounded toward the anchor. -/
def sourceDelta (tick : Int) : Int := ((tick - o.anchorTick) * o.rate).tdiv 12000

/-- Time evidence of a tick: its source position and the anchor's clocks moved to its UTC millisecond. -/
def tickEvidence (tick : Int) : Int × Int × Int :=
  (o.first.position.frames.toNat + o.sourceDelta tick, tick / 12,
    o.first.monotonicMillis.toNat + (tick / 12 - o.first.utcUnixMillis.toInt))

/-- The window of one complete block of values from the boundary on. -/
def blockWindow (index : Nat) (block : List Int) : EventContent :=
  let tick := o.boundaryTick + index * 180000
  .window o.processGeneration o.streamGeneration (tick / 12) (o.tickEvidence tick) block

/-- The partial first slot, reported when a tick of the next slot arrives. -/
def leadIncomplete (ticks : Nat) : List EventContent :=
  if 0 < o.leadTicks ∧ o.leadTicks < ticks then
    [.incomplete ((o.boundaryTick - 180000) / 12) .captureStartedLate o.leadTicks]
  else []

/-- The events of the values of the ticks from the anchor on. -/
def assembled (values : List Int) : List EventContent :=
  o.leadIncomplete values.length ++ (blocks 180000 (values.drop o.leadTicks)).mapIdx o.blockWindow

/-- The source position of a tick is a frame number. -/
def HasFrame (tick : Int) : Prop := 0 ≤ (o.tickEvidence tick).1 ∧ (o.tickEvidence tick).1 < 2 ^ 64

/-- A slot start has a millisecond, a source offset and, where it is a frame, a monotonic millisecond that fit the
machine integers. -/
def SlotFits (tick : Int) : Prop :=
  (0 ≤ tick ∧ tick / 12 < 2 ^ 63) ∧ o.sourceDelta tick < 2 ^ 63 ∧
    (o.HasFrame tick → 0 ≤ (o.tickEvidence tick).2.2 ∧ (o.tickEvidence tick).2.2 < 2 ^ 64)

theorem rate_ge : 8000 ≤ o.rate := o.configuration.rate_ge
theorem rate_le : o.rate ≤ 384000 := o.configuration.rate_le

theorem leadTicks_lt : o.leadTicks < 180000 := by
  have h1 := Int.emod_nonneg (-o.anchorTick) (show (180000 : Int) ≠ 0 by decide)
  have h2 := Int.emod_lt_of_pos (-o.anchorTick) (show (0 : Int) < 180000 by decide)
  unfold leadTicks
  omega

theorem boundaryTick_dvd : (180000 : Int) ∣ o.boundaryTick := by
  have h1 := Int.emod_nonneg (-o.anchorTick) (show (180000 : Int) ≠ 0 by decide)
  unfold boundaryTick leadTicks
  rw [Int.toNat_of_nonneg h1]
  omega

variable {o}

/-- The slot of the ticks before the boundary. -/
theorem slotTick_lead {n : Nat} (hn : n < o.leadTicks) : slotTick (o.anchorTick + n) = o.boundaryTick - 180000 := by
  have hlt := o.leadTicks_lt
  have hdvd := o.boundaryTick_dvd
  unfold slotTick boundaryTick at *
  omega

/-- The slot of the ticks from the boundary on. -/
theorem slotTick_block (m : Nat) :
    slotTick (o.anchorTick + (o.leadTicks + m : Nat)) = o.boundaryTick + ↑(m / 180000 * 180000) := by
  have hdvd := o.boundaryTick_dvd
  unfold slotTick boundaryTick at *
  omega

theorem assembled_lead {values : List Int} {v : Int} (h : values.length < o.leadTicks) :
    o.assembled (values ++ [v]) = o.assembled values := by
  have hlen : (values ++ [v]).length ≤ o.leadTicks := by
    rw [List.length_append, List.length_singleton]
    exact h
  unfold assembled leadIncomplete
  rw [if_neg (by omega), if_neg (by omega), List.drop_eq_nil_of_le hlen, List.drop_eq_nil_of_le h.le]

theorem assembled_boundary {values : List Int} {v : Int} (h : values.length = o.leadTicks) (hpos : 0 < o.leadTicks) :
    o.assembled (values ++ [v]) = o.assembled values ++
      [.incomplete ((o.boundaryTick - 180000) / 12) .captureStartedLate o.leadTicks] := by
  unfold assembled leadIncomplete
  rw [if_pos (by rw [List.length_append, List.length_singleton]; omega), if_neg (by omega),
    List.drop_eq_nil_of_le h.le, List.drop_left' h]
  simp [blocks]

variable {values : List Int} {v : Int} (hlead : o.leadTicks ≤ values.length)
  (hpast : o.leadTicks = 0 ∨ o.leadTicks < values.length)
include hlead hpast

theorem leadIncomplete_succ : o.leadIncomplete (values ++ [v]).length = o.leadIncomplete values.length := by
  unfold leadIncomplete
  rw [List.length_append, List.length_singleton]
  congr 1
  rw [eq_iff_iff]
  omega

theorem assembled_part (h : (remainder 180000 (values.drop o.leadTicks)).length + 1 ≠ 180000) :
    o.assembled (values ++ [v]) = o.assembled values := by
  unfold assembled
  rw [leadIncomplete_succ hlead hpast, List.drop_append_of_le_length hlead, blocks_append_part (by omega) h]

theorem assembled_full (h : (remainder 180000 (values.drop o.leadTicks)).length + 1 = 180000) :
    o.assembled (values ++ [v]) = o.assembled values ++
      [o.blockWindow ((values.length - o.leadTicks) / 180000) (remainder 180000 (values.drop o.leadTicks) ++ [v])] := by
  unfold assembled
  rw [leadIncomplete_succ hlead hpast, List.drop_append_of_le_length hlead, blocks_append_full (by omega) h,
    List.mapIdx_concat, length_blocks, List.length_drop, List.append_assoc]

end Origin

/-! ## Entering a slot -/

namespace RationalResampler

@[simp] theorem outputTicksPerMillisecond_eq : outputTicksPerMillisecond = 12 := rfl
@[simp] theorem outputTicksPerSlot_eq : outputTicksPerSlot = 180000 := rfl
@[simp] theorem ft8ReceiveSampleRateHz_eq : ft8ReceiveSampleRateHz = 12000 := rfl
@[simp] theorem ft8ReceiveWindowSamples_eq : ft8ReceiveWindowSamples = 180000 := rfl

/-- The resampler serves the origin. -/
structure Serves (o : Origin) (r : RationalResampler) : Prop where
  anchor : r.anchor = o.first
  rate : r.sourceRateHz = o.rate
  processGeneration : r.processGeneration = o.processGeneration
  streamGeneration : r.streamGeneration = o.streamGeneration

theorem Serves.withActive {o : Origin} {r : RationalResampler} (hr : Serves o r) (active : Option WindowAccumulator) :
    Serves o (r.withActive active) := ⟨hr.anchor, hr.rate, hr.processGeneration, hr.streamGeneration⟩

@[simp] theorem withActive_withActive (r : RationalResampler) (a b : Option WindowAccumulator) :
    (r.withActive a).withActive b = r.withActive b := rfl

variable {o : Origin} {r : RationalResampler} {tick first : Int} {m : CaptureTimeEvidence} {acc : WindowAccumulator}

/-- An accumulator exists for a slot of nonnegative representable UTC. -/
theorem accumulator_new_ok (hdvd : (180000 : Int) ∣ tick) :
    WindowAccumulator.new tick first m = .ok acc ↔
      (0 ≤ tick ∧ tick / 12 < 2 ^ 63) ∧ acc.slotTick = tick ∧ acc.firstTick = first ∧ acc.mapping = m ∧
        acc.samples = [] ∧ acc.slot.startUtcUnixMillis.toInt = tick / 12 := by
  have hdiv : tick.tdiv 12 = tick / 12 := Int.tdiv_eq_ediv_of_dvd (by omega)
  unfold WindowAccumulator.new
  rw [outputTicksPerMillisecond_eq, hdiv]
  cases hs : tryI64 (tick / 12) with
  | none =>
    simp only [reduceCtorEq, false_iff]
    rintro ⟨⟨h0, h1⟩, -⟩
    obtain ⟨i, hi⟩ := tryI64_isSome (z := tick / 12) (by omega) h1
    rw [hs] at hi
    cases hi
  | some slotMillis =>
    have hv := tryI64_eq_some.mp hs
    have hlt := slotMillis.toInt_lt
    have hal : (0 ≤ slotMillis.toInt ∧ slotMillis.toInt.tmod ft8ReceiveSlotMillis = 0) ↔ 0 ≤ tick := by
      have hmod : slotMillis.toInt.tmod ft8ReceiveSlotMillis = 0 :=
        Int.tmod_eq_zero_of_dvd (show (15000 : Int) ∣ slotMillis.toInt by omega)
      rw [hmod]
      omega
    obtain ⟨aTick, ⟨aMillis, _, _⟩, aFirst, aMapping, aSamples⟩ := acc
    simp only [Ft8ReceiveSlot.new, exceptMap_ok]
    constructor
    · rintro ⟨slot, hslot, hacc⟩
      split at hslot
      · cases hslot
        cases hacc
        exact ⟨⟨hal.mp ‹_›, by omega⟩, rfl, rfl, rfl, rfl, hv⟩
      · cases hslot
    · rintro ⟨⟨h0, -⟩, rfl, rfl, rfl, rfl, hm⟩
      obtain rfl : aMillis = slotMillis := Int64.toInt_inj.mp (hm.trans hv.symm)
      exact ⟨_, dif_pos (hal.mpr h0), rfl⟩

theorem accumulator_new_exists (hdvd : (180000 : Int) ∣ tick) (h : 0 ≤ tick ∧ tick / 12 < 2 ^ 63) (first : Int)
    (m : CaptureTimeEvidence) : ∃ acc, WindowAccumulator.new tick first m = .ok acc := by
  obtain ⟨slotMillis, hs⟩ := tryI64_isSome (z := tick / 12) (by omega) h.2
  rw [tryI64_eq_some] at hs
  have hmod : slotMillis.toInt.tmod ft8ReceiveSlotMillis = 0 :=
    Int.tmod_eq_zero_of_dvd (show (15000 : Int) ∣ slotMillis.toInt by omega)
  let slot : Ft8ReceiveSlot := ⟨slotMillis, by omega, hmod⟩
  exact ⟨⟨tick, slot, first, m, []⟩, (accumulator_new_ok hdvd).mpr ⟨h, rfl, rfl, rfl, rfl, hs⟩⟩

theorem evidenceAt_ok {a : CaptureTimeEvidence} {delta : Int} (h0 : 0 ≤ tick) (h63 : tick / 12 < 2 ^ 63) :
    evidenceAt a tick delta = .ok m ↔
      let position := a.position.frames.toNat + delta
      let monotonic := a.monotonicMillis.toNat + (tick / 12 - a.utcUnixMillis.toInt)
      (0 ≤ position ∧ position < 2 ^ 64 →
          (0 ≤ monotonic ∧ monotonic < 2 ^ 64) ∧ m.values = (position, tick / 12, monotonic)) ∧
        (¬(0 ≤ position ∧ position < 2 ^ 64) → m = a) := by
  have hdiv : tick.tdiv 12 = tick / 12 := Int.tdiv_eq_ediv_of_nonneg h0
  obtain ⟨slotMillis, hslot⟩ := tryI64_isSome (z := tick / 12) (by omega) h63
  have hv := tryI64_eq_some.mp hslot
  have hnew : ¬slotMillis.toInt < 0 := by omega
  simp only [evidenceAt, sourcePosition, outputTicksPerMillisecond_eq, hdiv, hslot]
  by_cases hp : 0 ≤ a.position.frames.toNat + delta ∧ a.position.frames.toNat + delta < 2 ^ 64
  · obtain ⟨position, hpos⟩ := tryU64_isSome hp.1 hp.2
    rw [hpos]
    simp only [exceptBind_ok, okOr_ok, Option.some.injEq, exists_eq_left', exceptMapError_ok, CaptureTimeEvidence.new_ok,
      tryU64_eq_some, hv]
    have hpv := tryU64_eq_some.mp hpos
    constructor
    · rintro ⟨monotonic, hmono, -, rfl⟩
      have hlt := monotonic.toNat_lt
      refine ⟨fun _ => ⟨by omega, ?_⟩, fun hno => absurd hp hno⟩
      simp only [CaptureTimeEvidence.values, hpv, hv, hmono]
    · rintro ⟨hin, -⟩
      obtain ⟨hmono, hm⟩ := hin hp
      obtain ⟨monotonic, hmv⟩ := tryU64_isSome hmono.1 hmono.2
      rw [tryU64_eq_some] at hmv
      refine ⟨monotonic, hmv, by omega, CaptureTimeEvidence.values_injective ?_⟩
      rw [hm]
      simp only [CaptureTimeEvidence.values, hpv, hv, hmv]
  · have hnone : tryU64 (a.position.frames.toNat + delta) = none := by
      cases hu : tryU64 (a.position.frames.toNat + delta) with
      | none => rfl
      | some u =>
        have hlt := u.toNat_lt
        rw [tryU64_eq_some] at hu
        omega
    rw [hnone]
    simp only [Except.ok.injEq]
    exact ⟨fun hm => ⟨fun hin => absurd hin hp, fun _ => hm.symm⟩, fun h => (h.2 hp).symm⟩

section Mapping

variable (h0 : 0 ≤ tick) (h63 : tick / 12 < 2 ^ 63) (hlo : o.anchorTick - 180000 ≤ tick)
include h0 h63 hlo

/-- The arithmetic before the source offset does not overflow. -/
theorem sourceDelta_bounds : -2 ^ 63 ≤ o.sourceDelta tick ∧ -2 ^ 127 ≤ (tick - o.anchorTick) * o.rate ∧
    (tick - o.anchorTick) * o.rate < 2 ^ 127 := by
  have hrate : (o.rate : Int) ≤ 384000 := by exact_mod_cast o.rate_le
  have hu := o.first.utcUnixMillis.toInt_lt
  have hu' := o.first.utcUnixMillis.le_toInt
  have hA : o.anchorTick = o.first.utcUnixMillis.toInt * 12 := rfl
  have hlow : -180000 * 384000 ≤ (tick - o.anchorTick) * o.rate := by nlinarith
  have hhigh : (tick - o.anchorTick) * o.rate ≤ 2 ^ 68 * 384000 :=
    Int.mul_le_mul (by omega) hrate (by omega) (by omega)
  refine ⟨?_, by omega, by omega⟩
  unfold Origin.sourceDelta
  generalize (tick - o.anchorTick) * (o.rate : Int) = n at hlow hhigh
  have hneg := Int.neg_tdiv n 12000
  rcases Int.le_total 0 n with hn | hn
  · rw [Int.tdiv_eq_ediv_of_nonneg hn]; omega
  · rw [Int.tdiv_eq_ediv_of_nonneg (show 0 ≤ -n by omega)] at hneg; omega

/-- A slot start has a mapping when it fits, and then it is the evidence of the tick if that is a frame. -/
theorem mappingForTick_ok (hr : Serves o r) : r.mappingForTick tick = .ok m ↔
    o.SlotFits tick ∧ (o.HasFrame tick → m.values = o.tickEvidence tick) ∧ (¬o.HasFrame tick → m = o.first) := by
  obtain ⟨hd, hn, hn'⟩ := sourceDelta_bounds h0 h63 hlo
  have hu := o.first.utcUnixMillis.toInt_lt
  have hu' := o.first.utcUnixMillis.le_toInt
  have hdelta : ((tick - o.anchorTick) * o.rate).tdiv 12000 = o.sourceDelta tick := rfl
  have hA : o.first.utcUnixMillis.toInt * 12 = o.anchorTick := rfl
  have hmap : r.mappingForTick tick = .ok m ↔
      o.sourceDelta tick < 2 ^ 63 ∧ evidenceAt o.first tick (o.sourceDelta tick) = .ok m := by
    unfold mappingForTick
    simp only [hr.anchor, hr.rate, exceptBind_ok, okOr_ok, tryI128_eq_some, tryI64_eq_some,
      outputTicksPerMillisecond_eq, ft8ReceiveSampleRateHz_eq, hA]
    constructor
    · rintro ⟨_, ⟨rfl, -⟩, _, ⟨rfl, -⟩, _, ⟨rfl, -⟩, delta, hdv, hm⟩
      have hlt := delta.toInt_lt
      rw [Nat.cast_ofNat, hdelta] at hdv
      rw [hdv] at hm hlt
      exact ⟨hlt, hm⟩
    · rintro ⟨hlt, hm⟩
      obtain ⟨delta, hdv⟩ := tryI64_isSome hd hlt
      rw [tryI64_eq_some] at hdv
      exact ⟨_, ⟨rfl, by omega, by omega⟩, _, ⟨rfl, by omega, by omega⟩, _, ⟨rfl, hn, hn'⟩, delta, hdv, hdv ▸ hm⟩
  rw [hmap, evidenceAt_ok h0 h63]
  show _ ∧ (o.HasFrame tick → _ ∧ m.values = o.tickEvidence tick) ∧ (¬o.HasFrame tick → _) ↔ _
  unfold Origin.SlotFits
  by_cases hp : o.HasFrame tick
  · simp only [hp, not_true_eq_false, false_implies, true_implies, and_true]
    tauto
  · simp only [hp, not_false_eq_true, false_implies, true_implies, and_true, true_and]
    tauto

end Mapping

/-! ## One output tick -/

variable {samples : List Int16} {y : Int16}

/-- The accumulator holds the samples of the slot of `tick` from the tick `first` on. -/
structure Accumulates (o : Origin) (tick first : Int) (samples : List Int16) (acc : WindowAccumulator) : Prop where
  slotTick : acc.slotTick = tick
  firstTick : acc.firstTick = first
  samples : acc.samples = samples
  slot : acc.slot.startUtcUnixMillis.toInt = tick / 12
  mapping : o.HasFrame tick → acc.mapping.values = o.tickEvidence tick

theorem enterSlot_same (ha : r.active = some acc) (ht : acc.slotTick = tick) :
    Ends (enterSlot tick) r (fun events r' => events = [] ∧ r' = r) (fun _ _ => False) := by
  have hc : ¬r.active.map (·.slotTick) ≠ some tick := by rw [ha, Option.map_some, ht]; exact not_not.mpr rfl
  simp only [enterSlot, ends_bind, ends_get, ends_ite]
  exact ⟨fun h => absurd h hc, fun _ => ⟨rfl, rfl⟩⟩

theorem exists_mapping (h : o.SlotFits tick) :
    ∃ m : CaptureTimeEvidence, (o.HasFrame tick → m.values = o.tickEvidence tick) ∧ (¬o.HasFrame tick → m = o.first) := by
  obtain ⟨⟨h0, h63⟩, -, hmono⟩ := h
  by_cases hf : o.HasFrame tick
  · obtain ⟨position, hp⟩ := tryU64_isSome hf.1 hf.2
    obtain ⟨utc, hu⟩ := tryI64_isSome (z := tick / 12) (by omega) h63
    obtain ⟨monotonic, hm⟩ := tryU64_isSome (hmono hf).1 (hmono hf).2
    rw [tryU64_eq_some] at hp hm
    rw [tryI64_eq_some] at hu
    refine ⟨⟨⟨position⟩, utc, monotonic⟩, fun _ => ?_, fun hno => absurd hf hno⟩
    simp only [CaptureTimeEvidence.values, hp, hu, hm]
    rfl
  · exact ⟨o.first, fun hno => absurd hno hf, fun _ => rfl⟩

/-- Entering another slot reports the one it leaves, and fails exactly when the new slot does not fit. -/
theorem enterSlot_ends (hr : Serves o r) (hdvd : (180000 : Int) ∣ tick) (hlo : o.anchorTick - 180000 ≤ tick)
    (hne : r.active.map (·.slotTick) ≠ some tick) (event : Option ReceiveTimelineEvent)
    (hev : r.active.elim (.ok none) WindowAccumulator.incompleteEvent = .ok event) :
    Ends (enterSlot tick) r
      (fun events r' => events = event.toList ∧ o.SlotFits tick ∧
        ∃ acc, r' = r.withActive (some acc) ∧ Accumulates o tick r.nextOutputTick [] acc)
      (fun _ _ => ¬o.SlotFits tick) := by
  have hr' := hr.withActive none
  simp only [enterSlot, ends_bind, ends_get, ends_ite, ends_modify, ends_fromResult, hev, ends_pure]
  refine ⟨fun _ => ⟨?_, (by simp)⟩, fun h => absurd hne h⟩
  rintro _ ⟨rfl⟩
  constructor
  · intro m hm
    constructor
    · intro acc hacc
      obtain ⟨⟨h0, h63⟩, ht, hf, hmap, hs, hslot⟩ := (accumulator_new_ok hdvd).mp hacc
      obtain ⟨hfits, hvalues, -⟩ := (mappingForTick_ok h0 h63 hlo hr).mp hm
      exact ⟨rfl, hfits, acc, rfl, ht, hf, hs, hslot, fun h => by rw [hmap, hvalues h]⟩
    · rintro e he ⟨hutc, -⟩
      obtain ⟨acc, hacc⟩ := accumulator_new_exists hdvd hutc r.nextOutputTick m
      rw [hacc] at he
      cases he
  · rintro e he hfits
    obtain ⟨m, hm⟩ := exists_mapping hfits
    rw [(mappingForTick_ok hfits.1.1 hfits.1.2 hlo hr).mpr ⟨hfits, hm⟩] at he
    cases he

/-- The last sample of a slot completes its window, any other one stays in the slot. -/
theorem appendSample_ends {first : Int} (hr : Serves o r) (ha : r.active = some acc)
    (hacc : Accumulates o tick first samples acc) (hframe : samples.length + 1 = 180000 → o.HasFrame tick) :
    Ends (appendSample y) r
      (fun events r' => (∃ active, r' = r.withActive active) ∧
        if samples.length + 1 = 180000 then
          r'.active = none ∧ events.map (·.content) =
            [.window o.processGeneration o.streamGeneration (tick / 12) (o.tickEvidence tick)
              ((samples ++ [y]).map Int16.toInt)]
        else events = [] ∧ ∃ acc', r'.active = some acc' ∧ Accumulates o tick first (samples ++ [y]) acc')
      (fun _ _ => False) := by
  have hlen : (acc.samples ++ [y]).length = samples.length + 1 := by rw [hacc.samples, List.length_append]; rfl
  simp only [appendSample, ends_bind, ends_get, ends_orThrow, ha]
  refine ⟨?_, (by simp)⟩
  rintro _ ⟨rfl⟩
  simp only [ends_ite, ends_bind, ends_modify, ends_fromResult, ends_pure, hlen, ft8ReceiveWindowSamples_eq]
  refine ⟨fun hfull => ?_, fun hpart => ?_⟩
  · have hslot := And.intro acc.slot.nonneg acc.slot.aligned
    have hsize : (acc.samples ++ [y]).length = ft8ReceiveWindowSamples := hlen.trans hfull
    have hwindow : Ft8ReceiveWindow.new r.processGeneration r.streamGeneration acc.slot.startUtcUnixMillis acc.mapping
        (acc.samples ++ [y]) = .ok ⟨r.processGeneration, r.streamGeneration, acc.slot.startUtcUnixMillis, acc.mapping,
          acc.samples ++ [y], hslot.1, hslot.2, hsize⟩ := by
      rw [Ft8ReceiveWindow.new, dif_pos hslot, dif_pos hsize]
    rw [hwindow]
    refine ⟨?_, by simp [Except.mapError]⟩
    rintro _ ⟨rfl⟩
    refine ⟨⟨_, rfl⟩, ?_⟩
    rw [if_pos hfull]
    refine ⟨rfl, ?_⟩
    simp only [List.map_cons, List.map_nil, ReceiveTimelineEvent.content, hr.processGeneration, hr.streamGeneration,
      hacc.slot, hacc.mapping (hframe hfull), hacc.samples]
  · refine ⟨⟨_, rfl⟩, ?_⟩
    rw [if_neg hpart]
    refine ⟨trivial, _, rfl, hacc.slotTick, hacc.firstTick, ?_, hacc.slot, hacc.mapping⟩
    rw [hacc.samples]

/-! ## The invariant of the active slot -/

variable {ys : List Int16}

/-- The first tick of the samples that the next tick joins. -/
def tickFirst (o : Origin) (ticks : Nat) : Int :=
  if ticks < o.leadTicks then o.anchorTick else Origin.slotTick (o.anchorTick + ticks)

/-- The samples that the next tick joins. -/
def tickSamples (o : Origin) (ys : List Int16) : List Int16 :=
  if ys.length < o.leadTicks then ys else remainder 180000 (ys.drop o.leadTicks)

/-- The active slot after the values `ys`: the partial first slot until a tick of the next one arrives, else the slot of
the next tick once it has a sample. -/
def ActiveHolds (o : Origin) (ys : List Int16) (active : Option WindowAccumulator) : Prop :=
  if ys.length = o.leadTicks ∧ 0 < o.leadTicks then
    ∃ acc, active = some acc ∧ Accumulates o (o.boundaryTick - 180000) o.anchorTick ys acc
  else
    match active with
    | none => tickSamples o ys = []
    | some acc =>
      tickSamples o ys ≠ [] ∧
        Accumulates o (Origin.slotTick (o.anchorTick + ys.length)) (tickFirst o ys.length) (tickSamples o ys) acc

/-- The resampler has emitted the values `ys` and its next tick is the one after them. -/
structure Holds (o : Origin) (ys : List Int16) (r : RationalResampler) : Prop extends Serves o r where
  active : ActiveHolds o ys r.active
  fits : ∀ k < ys.length, o.SlotFits (Origin.slotTick (o.anchorTick + k))

theorem slotTick_dvd (t : Int) : (180000 : Int) ∣ Origin.slotTick t := by
  unfold Origin.slotTick
  exact Int.dvd_mul_left _ _

theorem slotTick_ge (n : Nat) : o.anchorTick - 180000 ≤ Origin.slotTick (o.anchorTick + n) := by
  unfold Origin.slotTick
  omega

/-- The first tick of an empty slot is the next tick. -/
theorem tickFirst_of_empty (h : tickSamples o ys = []) : tickFirst o ys.length = o.anchorTick + ys.length := by
  unfold tickSamples at h
  unfold tickFirst
  split at h
  · simp_all
  · have hlen := congrArg List.length h
    have hdvd := o.boundaryTick_dvd
    rw [length_remainder, List.length_drop, List.length_nil] at hlen
    rw [if_neg ‹_›]
    unfold Origin.slotTick Origin.boundaryTick at *
    omega

/-- A slot with a sample is the slot of the tick before. -/
theorem slotTick_of_nonempty (h : tickSamples o ys ≠ []) :
    ∃ n < ys.length, Origin.slotTick (o.anchorTick + n) = Origin.slotTick (o.anchorTick + ys.length) := by
  have hpos := List.length_pos_iff.mpr h
  have hdvd := o.boundaryTick_dvd
  have hlt := o.leadTicks_lt
  unfold tickSamples at hpos
  split at hpos
  · refine ⟨ys.length - 1, by omega, ?_⟩
    rw [Origin.slotTick_lead (by omega), Origin.slotTick_lead (by omega)]
  · rw [length_remainder, List.length_drop] at hpos
    refine ⟨ys.length - 1, by omega, ?_⟩
    unfold Origin.slotTick Origin.boundaryTick at *
    omega

theorem incompleteEvent_lead (h : Accumulates o (o.boundaryTick - 180000) o.anchorTick ys acc)
    (hlen : ys.length = o.leadTicks) (hpos : 0 < o.leadTicks) :
    ∃ event, acc.incompleteEvent = .ok (some event) ∧ event.content =
      .incomplete ((o.boundaryTick - 180000) / 12) .captureStartedLate o.leadTicks := by
  have hlt := o.leadTicks_lt
  have hne : acc.samples ≠ [] := by
    rw [h.samples]
    exact List.ne_nil_of_length_pos (by omega)
  have hcount : tryU32 (acc.samples.length : Int) = some o.leadTicks := by
    rw [tryU32_eq_some, h.samples, hlen]
    exact ⟨rfl, by omega⟩
  have hlate : acc.firstTick ≠ acc.slotTick := by
    rw [h.firstTick, h.slotTick]
    unfold Origin.boundaryTick
    omega
  unfold WindowAccumulator.incompleteEvent
  rw [if_neg hne, hcount]
  refine ⟨_, rfl, ?_⟩
  simp only [ReceiveTimelineEvent.content, if_neg hlate, h.slot]

/-- The slot of the next tick is entered with its samples so far; the partial first slot is reported on the way. -/
theorem enterSlot_holds (h : Holds o ys r) (hnext : r.nextOutputTick = o.anchorTick + ys.length) :
    Ends (enterSlot (Origin.slotTick (o.anchorTick + ys.length))) r
      (fun events r' =>
        o.SlotFits (Origin.slotTick (o.anchorTick + ys.length)) ∧
        events.map (·.content) =
          (if ys.length = o.leadTicks ∧ 0 < o.leadTicks then
            [.incomplete ((o.boundaryTick - 180000) / 12) .captureStartedLate o.leadTicks] else []) ∧
        ∃ acc, r' = r.withActive (some acc) ∧
          Accumulates o (Origin.slotTick (o.anchorTick + ys.length)) (tickFirst o ys.length) (tickSamples o ys) acc)
      (fun _ _ => ¬o.SlotFits (Origin.slotTick (o.anchorTick + ys.length))) := by
  have hactive := h.active
  unfold ActiveHolds at hactive
  split at hactive
  · -- the partial first slot is complete with this tick, which belongs to the next slot
    rename_i hlead
    obtain ⟨acc, ha, hacc⟩ := hactive
    obtain ⟨event, hev, hcontent⟩ := incompleteEvent_lead hacc hlead.1 hlead.2
    have hslot : Origin.slotTick (o.anchorTick + ys.length) = o.boundaryTick := by
      have := Origin.slotTick_block (o := o) 0
      rw [Nat.add_zero, ← hlead.1] at this
      simpa using this
    have hempty : tickSamples o ys = [] := by
      unfold tickSamples
      rw [if_neg (by omega), List.drop_eq_nil_of_le (by omega), remainder_nil]
    have hne : r.active.map (·.slotTick) ≠ some (Origin.slotTick (o.anchorTick + ys.length)) := by
      rw [ha, Option.map_some, hacc.slotTick, hslot, ne_eq, Option.some.injEq]
      omega
    refine (enterSlot_ends h.toServes (slotTick_dvd _) (slotTick_ge _) hne (some event) ?_).imp ?_
      (fun _ _ h => h)
    · rw [ha]; exact hev
    · rintro _ _ ⟨rfl, hfits, acc', rfl, hacc'⟩
      rw [hnext] at hacc'
      rw [if_pos hlead, hempty, tickFirst_of_empty hempty]
      exact ⟨hfits, by simp [hcontent], acc', rfl, hacc'⟩
  · rename_i hlead
    rw [if_neg hlead]
    cases ha : r.active with
    | none =>
      rw [ha] at hactive
      refine (enterSlot_ends h.toServes (slotTick_dvd _) (slotTick_ge _) (by rw [ha]; simp) none ?_).imp ?_
        (fun _ _ h => h)
      · rw [ha]; rfl
      · rintro _ _ ⟨rfl, hfits, acc, rfl, hacc⟩
        rw [hnext] at hacc
        rw [show tickSamples o ys = [] from hactive, tickFirst_of_empty hactive]
        exact ⟨hfits, rfl, acc, rfl, hacc⟩
    | some acc =>
      rw [ha] at hactive
      obtain ⟨hne, hacc⟩ := hactive
      obtain ⟨n, hn, hslot⟩ := slotTick_of_nonempty hne
      refine (enterSlot_same ha hacc.slotTick).imp ?_ (fun _ _ hf => hf.elim)
      rintro _ _ ⟨rfl, rfl⟩
      exact ⟨hslot ▸ h.fits n hn, rfl, acc, by rw [← ha]; rfl, hacc⟩

/-- A tick that fills its slot leaves the next slot empty. -/
theorem active_full (h : (tickSamples o ys).length + 1 = 180000) : ActiveHolds o (ys ++ [y]) none := by
  have hlt := o.leadTicks_lt
  have hblock : ¬ys.length < o.leadTicks := by
    intro hlead
    rw [tickSamples, if_pos hlead] at h
    omega
  rw [tickSamples, if_neg hblock] at h
  unfold ActiveHolds tickSamples
  rw [List.length_append, List.length_singleton, if_neg (by omega), if_neg (by omega),
    List.drop_append_of_le_length (by omega)]
  exact remainder_append_full (by omega) h

/-- Any other tick joins the samples of its slot. -/
theorem active_part (h : (tickSamples o ys).length + 1 ≠ 180000)
    (hacc : Accumulates o (Origin.slotTick (o.anchorTick + ys.length)) (tickFirst o ys.length)
      (tickSamples o ys ++ [y]) acc) : ActiveHolds o (ys ++ [y]) (some acc) := by
  have hdvd := o.boundaryTick_dvd
  unfold ActiveHolds
  rw [List.length_append, List.length_singleton]
  split
  · rename_i hlead
    rw [Origin.slotTick_lead (by omega), tickFirst, if_pos (by omega), tickSamples, if_pos (by omega)] at hacc
    exact ⟨acc, rfl, hacc⟩
  · rename_i hlead
    have hsamples : tickSamples o (ys ++ [y]) = tickSamples o ys ++ [y] := by
      unfold tickSamples at *
      rw [List.length_append, List.length_singleton]
      by_cases hn : ys.length < o.leadTicks
      · rw [if_pos hn, if_pos (by omega)]
      · rw [if_neg hn] at h
        rw [if_neg hn, if_neg (by omega), List.drop_append_of_le_length (by omega),
          remainder_append_part (by omega) h]
    have hslot : Origin.slotTick (o.anchorTick + (ys.length + 1 : Nat)) =
        Origin.slotTick (o.anchorTick + ys.length) := by
      by_cases hn : ys.length < o.leadTicks
      · rw [Origin.slotTick_lead hn, Origin.slotTick_lead (by omega)]
      · rw [tickSamples, if_neg hn, length_remainder, List.length_drop] at h
        unfold Origin.slotTick Origin.boundaryTick at *
        omega
    have hfirst : tickFirst o (ys.length + 1) = tickFirst o ys.length := by
      unfold tickFirst
      by_cases hn : ys.length < o.leadTicks
      · rw [if_pos hn, if_pos (by omega)]
      · rw [if_neg hn, if_neg (by omega), hslot]
    rw [hsamples, hslot, hfirst]
    exact ⟨by simp, hacc⟩

/-- The events of one more value: the partial first slot, then the window it completes. -/
theorem assembled_append : o.assembled ((ys ++ [y]).map Int16.toInt) = o.assembled (ys.map Int16.toInt) ++
    ((if ys.length = o.leadTicks ∧ 0 < o.leadTicks then
        [.incomplete ((o.boundaryTick - 180000) / 12) .captureStartedLate o.leadTicks] else []) ++
      if (tickSamples o ys).length + 1 = 180000 then
        [.window o.processGeneration o.streamGeneration (Origin.slotTick (o.anchorTick + ys.length) / 12)
          (o.tickEvidence (Origin.slotTick (o.anchorTick + ys.length))) ((tickSamples o ys ++ [y]).map Int16.toInt)]
      else []) := by
  have hlt := o.leadTicks_lt
  have hlen : (ys.map Int16.toInt).length = ys.length := List.length_map _
  rw [List.map_append, List.map_singleton]
  by_cases hn : ys.length < o.leadTicks
  · rw [Origin.assembled_lead (by omega), if_neg (by omega), tickSamples, if_pos hn, if_neg (by omega),
      List.append_nil, List.append_nil]
  have hdrop : ((ys.map Int16.toInt).drop o.leadTicks) = (ys.drop o.leadTicks).map Int16.toInt := List.map_drop.symm
  by_cases hp : ys.length = o.leadTicks ∧ 0 < o.leadTicks
  · have hempty : tickSamples o ys = [] := by
      rw [tickSamples, if_neg hn, List.drop_eq_nil_of_le (by omega), remainder_nil]
    rw [Origin.assembled_boundary (by omega) hp.2, if_pos hp, hempty, if_neg (by simp), List.append_nil]
  · have hrem : remainder 180000 ((ys.map Int16.toInt).drop o.leadTicks) = (tickSamples o ys).map Int16.toInt := by
      rw [hdrop, remainder_map, tickSamples, if_neg hn]
    rw [if_neg hp, List.nil_append]
    by_cases hfull : (tickSamples o ys).length + 1 = 180000
    · have hslot := Origin.slotTick_block (o := o) (ys.length - o.leadTicks)
      rw [Nat.add_sub_cancel' (by omega)] at hslot
      rw [Origin.assembled_full (by omega) (by omega) (by rw [hrem, List.length_map]; exact hfull), if_pos hfull,
        Origin.blockWindow, hrem, hlen, hslot]
      simp
    · rw [Origin.assembled_part (by omega) (by omega) (by rw [hrem, List.length_map]; exact hfull), if_neg hfull,
        List.append_nil]

/-- The slot a window completes starts at or after the anchor, so it has a frame when its last tick has one. -/
theorem hasFrame_of_full (hfull : (tickSamples o ys).length + 1 = 180000)
    (hframe : o.first.position.frames.toNat + ys.length * o.rate / 12000 < 2 ^ 64) :
    o.HasFrame (Origin.slotTick (o.anchorTick + ys.length)) := by
  have hlt := o.leadTicks_lt
  have hn : ¬ys.length < o.leadTicks := by
    intro hlead
    rw [tickSamples, if_pos hlead] at hfull
    omega
  have hslot := Origin.slotTick_block (o := o) (ys.length - o.leadTicks)
  rw [Nat.add_sub_cancel' (by omega)] at hslot
  obtain ⟨m, hm, hle⟩ : ∃ m : Nat, Origin.slotTick (o.anchorTick + ys.length) - o.anchorTick = m ∧ m ≤ ys.length := by
    refine ⟨o.leadTicks + (ys.length - o.leadTicks) / 180000 * 180000, ?_, by omega⟩
    rw [hslot, Origin.boundaryTick]
    push_cast
    ring
  have hdelta : o.sourceDelta (Origin.slotTick (o.anchorTick + ys.length)) = (m * o.rate / 12000 : Nat) := by
    unfold Origin.sourceDelta
    rw [hm, Int.tdiv_eq_ediv_of_nonneg (by positivity)]
    norm_cast
  have hmul : m * o.rate / 12000 ≤ ys.length * o.rate / 12000 := Nat.div_le_div_right (Nat.mul_le_mul_right _ hle)
  unfold Origin.HasFrame Origin.tickEvidence
  rw [hdelta]
  constructor <;> omega

/-- **One output tick**: the value joins its slot, and the events emitted are those it adds. -/
theorem pushOutput_ends (h : Holds o ys r) (hnext : r.nextOutputTick = o.anchorTick + ys.length)
    (hframe : o.first.position.frames.toNat + ys.length * o.rate / 12000 < 2 ^ 64) :
    Ends (pushOutput y) r
      (fun events r' => Holds o (ys ++ [y]) r' ∧ (∃ active, r' = r.withActive active) ∧
        o.assembled ((ys ++ [y]).map Int16.toInt) = o.assembled (ys.map Int16.toInt) ++ events.map (·.content))
      (fun _ _ => ¬o.SlotFits (Origin.slotTick (o.anchorTick + ys.length))) := by
  simp only [pushOutput, ends_bind, ends_get, ends_pure, hnext, outputTicksPerSlot_eq]
  refine (enterSlot_holds h hnext).imp ?_ (fun _ _ h => h)
  rintro withheld _ ⟨hfits, hwithheld, acc, rfl, hacc⟩
  have hfits' : ∀ k < (ys ++ [y]).length, o.SlotFits (Origin.slotTick (o.anchorTick + k)) := by
    intro k hk
    rw [List.length_append, List.length_singleton] at hk
    rcases Nat.lt_or_eq_of_le (Nat.le_of_lt_succ hk) with hk | rfl
    · exact h.fits k hk
    · exact hfits
  refine (appendSample_ends (h.withActive _) rfl hacc fun hfull => hasFrame_of_full hfull hframe).imp ?_
    (fun _ _ hf => hf.elim)
  rintro completed _ ⟨⟨active, rfl⟩, hcompleted⟩
  rw [withActive_withActive] at hcompleted ⊢
  rw [assembled_append, @List.map_append _ _ _ withheld, hwithheld]
  by_cases hfull : (tickSamples o ys).length + 1 = 180000
  · rw [if_pos hfull] at hcompleted
    obtain ⟨rfl, hcontent⟩ := hcompleted
    rw [if_pos hfull, hcontent]
    exact ⟨⟨h.withActive _, active_full hfull, hfits'⟩, ⟨_, rfl⟩, rfl⟩
  · rw [if_neg hfull] at hcompleted
    obtain ⟨rfl, acc', rfl, hacc'⟩ := hcompleted
    rw [if_neg hfull]
    exact ⟨⟨h.withActive _, active_part hfull hacc', hfits'⟩, ⟨_, rfl⟩, rfl⟩

end RationalResampler

end Slotpilot.Audio
