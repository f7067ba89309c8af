import Slotpilot.Audio.Timeline
import Mathlib

/-!
# The time-evidence check

`validateMapping` accepts a batch exactly when its clocks agree with the anchor's (`MappingAgrees`), and it writes the
two measurements of the health record only (`Measured`). The overflow exits are no cases of their own: where one is
taken, a bound of `MappingAgrees` is broken.
-/

set_option autoImplicit false

namespace Slotpilot.Audio.Ft8ReceiveTimeline

open Lib

variable {batch : CaptureBatch} {s t u : Ft8ReceiveTimeline} {anchor : TimelineAnchor}

/-- `t` differs from `s` in the measured jitter and drift only. -/
def Measured (s t : Ft8ReceiveTimeline) : Prop :=
  ∃ jitter drift, t = { s with health.maxJitterMillis := jitter, health.driftPartsPerMillion := drift }

theorem Measured.refl (s : Ft8ReceiveTimeline) : Measured s s := ⟨s.health.maxJitterMillis, _, rfl⟩

theorem Measured.trans (h : Measured s t) (h' : Measured t u) : Measured s u := by
  obtain ⟨_, _, rfl⟩ := h
  obtain ⟨jitter, drift, rfl⟩ := h'
  exact ⟨jitter, drift, rfl⟩

/-- Frames from the anchor to a batch. -/
def frameDelta (anchor : TimelineAnchor) (batch : CaptureBatch) : Nat :=
  batch.firstFrame.position.frames.toNat - anchor.position.frames.toNat

/-- Milliseconds these frames take at the nominal rate. -/
def nominalMillis (t : Ft8ReceiveTimeline) (anchor : TimelineAnchor) (batch : CaptureBatch) : Nat :=
  frameDelta anchor batch * 1000 / t.configuration.sampleRateHz

/-- Monotonic milliseconds from the anchor to a batch. -/
def observedMillis (anchor : TimelineAnchor) (batch : CaptureBatch) : Nat :=
  batch.firstFrame.monotonicMillis.toNat - anchor.monotonicMillis.toNat

/-- How far the offset between UTC and the monotonic clock has moved since the anchor. -/
def remapMillis (anchor : TimelineAnchor) (batch : CaptureBatch) : Int :=
  (batch.firstFrame.utcUnixMillis.toInt - batch.firstFrame.monotonicMillis.toNat) -
    (anchor.utcUnixMillis.toInt - anchor.monotonicMillis.toNat)

/-- The rate error in parts per million, rounded toward zero. -/
def ratePartsPerMillion (nominal observed : Nat) : Int := (((observed : Int) - nominal) * 1000000).tdiv nominal

/-- The clocks of a batch agree with the anchor's. -/
structure MappingAgrees (t : Ft8ReceiveTimeline) (anchor : TimelineAnchor) (batch : CaptureBatch) : Prop where
  last_le : ∀ last, t.lastMonotonicMillis = some last → last.toNat ≤ batch.firstFrame.monotonicMillis.toNat
  anchor_le : anchor.monotonicMillis.toNat ≤ batch.firstFrame.monotonicMillis.toNat
  position_le : anchor.position.frames.toNat ≤ batch.firstFrame.position.frames.toNat
  fits : frameDelta anchor batch * 1000 < 2 ^ 64
  jitter : |(observedMillis anchor batch : Int) - nominalMillis t anchor batch| ≤ maxReceiveJitterMillis
  remap : |remapMillis anchor batch| ≤ maxReceiveClockRemapMillis
  drift : 1000 ≤ nominalMillis t anchor batch →
    |ratePartsPerMillion (nominalMillis t anchor batch) (observedMillis anchor batch)| ≤ maxReceiveDriftPartsPerMillion

/-! ## The checks -/

theorem validateJitter_ends (nominal observed : Nat) :
    Ends (validateJitter nominal observed) s
      (fun _ t => Measured s t ∧ |(observed : Int) - nominal| ≤ maxReceiveJitterMillis)
      (fun _ t => Measured s t ∧ ¬|(observed : Int) - nominal| ≤ maxReceiveJitterMillis) := by
  simp only [validateJitter, ends_bind, ends_orThrow, ends_modify, ends_ite, ends_throw, ends_pure, tryI64_eq_some]
  refine ⟨fun jitter hj => ⟨fun hgt => ⟨⟨_, _, rfl⟩, ?_⟩, fun hle => ⟨⟨_, _, rfl⟩, ?_⟩⟩, fun hnone => ⟨.refl s, ?_⟩⟩
  · rw [← hj, Int.abs_eq_natAbs]
    omega
  · rw [← hj, Int.abs_eq_natAbs]
    omega
  · intro habs
    rw [abs_le, show ((maxReceiveJitterMillis : Nat) : Int) = 50 from rfl] at habs
    obtain ⟨i, hi⟩ := tryI64_isSome (z := (observed : Int) - nominal) (by omega) (by omega)
    rw [hi] at hnone
    cases hnone

theorem validateRemap_ends (anchor : TimelineAnchor) :
    Ends (validateRemap anchor batch) s
      (fun _ t => t = s ∧ |remapMillis anchor batch| ≤ maxReceiveClockRemapMillis)
      (fun _ t => t = s ∧ ¬|remapMillis anchor batch| ≤ maxReceiveClockRemapMillis) := by
  simp only [validateRemap, ends_bind, ends_orThrow, ends_ite, ends_throw, ends_pure, tryI64_eq_some, true_and,
    ← remapMillis.eq_1 anchor batch]
  refine ⟨fun remap hr => ⟨fun hgt => ?_, fun hle => ?_⟩, fun hnone habs => ?_⟩
  · rw [← hr, Int.abs_eq_natAbs]
    omega
  · rw [← hr, Int.abs_eq_natAbs]
    omega
  · rw [abs_le, show ((maxReceiveClockRemapMillis : Nat) : Int) = 20 from rfl] at habs
    obtain ⟨i, hi⟩ := tryI64_isSome (z := remapMillis anchor batch) (by omega) (by omega)
    rw [hi] at hnone
    cases hnone

theorem abs_tdiv_le {d : Int} {n : Nat} (hd : |d| ≤ 50) : |(d * 1000000).tdiv n| ≤ 50000000 := by
  have h : |d * 1000000| ≤ 50000000 := by
    rw [abs_mul]
    norm_num
    omega
  rw [Int.abs_eq_natAbs, Int.natAbs_tdiv]
  rw [Int.abs_eq_natAbs] at h
  have := Nat.div_le_self (d * 1000000).natAbs (n : Int).natAbs
  show (((d * 1000000).natAbs / (n : Int).natAbs : Nat) : Int) ≤ _
  omega

/-- Within the jitter tolerance the rate error is representable. -/
theorem validateDrift_ends {nominal observed : Nat} (hjitter : |(observed : Int) - nominal| ≤ maxReceiveJitterMillis) :
    let small := 1000 ≤ nominal → |ratePartsPerMillion nominal observed| ≤ maxReceiveDriftPartsPerMillion
    Ends (validateDrift nominal observed) s (fun _ t => Measured s t ∧ small) (fun _ t => Measured s t ∧ ¬small) := by
  intro small
  have hd : |(observed : Int) - nominal| ≤ 50 := hjitter
  have hq := abs_le.mp (abs_tdiv_le (n := nominal) hd)
  have habs := abs_le.mp hd
  have hscaled : tryI128 (((observed : Int) - nominal) * 1000000) = some (((observed : Int) - nominal) * 1000000) :=
    tryI128_eq_some.mpr ⟨rfl, by omega, by omega⟩
  have hppm : tryI32 ((((observed : Int) - nominal) * 1000000).tdiv nominal) =
      some (ratePartsPerMillion nominal observed) := tryI32_eq_some.mpr ⟨rfl, by omega, by omega⟩
  simp only [validateDrift, ends_bind, ends_orThrow, ends_modify, ends_ite, ends_throw, ends_pure, hscaled,
    Option.some.injEq, forall_eq', hppm, reduceCtorEq, false_implies, and_true]
  refine ⟨fun hge => ⟨fun hgt => ⟨⟨_, _, rfl⟩, fun hsmall => ?_⟩, fun hle => ⟨⟨_, _, rfl⟩, fun _ => ?_⟩⟩,
    fun hlt => ⟨.refl s, fun hge => absurd hge hlt⟩⟩
  · have := hsmall hge
    rw [Int.abs_eq_natAbs] at this
    omega
  · rw [Int.abs_eq_natAbs]
    omega

/-- **The mapping check** accepts exactly the batches whose clocks agree with the anchor's. -/
theorem validateMapping_ends (anchor : TimelineAnchor) :
    Ends (validateMapping anchor batch) s (fun _ t => Measured s t ∧ MappingAgrees s anchor batch)
      (fun _ t => Measured s t ∧ ¬MappingAgrees s anchor batch) := by
  have hpos := batch.firstFrame.position.frames.toNat_lt
  simp only [validateMapping, ends_bind, ends_get, ends_ite, ends_throw, ends_orThrow]
  refine ⟨fun hlast => ⟨.refl s, fun h => ?_⟩, fun hlast => ⟨fun hanchor => ⟨.refl s, fun h => ?_⟩, fun hanchor =>
    ⟨fun delta hdelta => ⟨fun nominal hnominal => ?_, fun hnone => ⟨.refl s, fun h => ?_⟩⟩,
      fun hnone => ⟨.refl s, fun h => ?_⟩⟩⟩⟩
  · cases hl : s.lastMonotonicMillis with
    | none => simp [hl] at hlast
    | some last =>
      have := h.last_le last hl
      simp only [hl, Option.any_some, decide_eq_true_eq] at hlast
      omega
  · exact absurd h.anchor_le (Nat.not_le.mpr hanchor)
  · have hdv := tryU64_eq_some.mp hdelta
    have hle : anchor.position.frames.toNat ≤ batch.firstFrame.position.frames.toNat := by omega
    have hframes : delta.toNat = frameDelta anchor batch := by
      unfold frameDelta
      omega
    rw [hframes] at hnominal
    obtain ⟨product, hproduct, rfl⟩ := Option.map_eq_some_iff.mp hnominal
    have hplt := product.toNat_lt
    have hpv : product.toNat = frameDelta anchor batch * 1000 := by
      have := tryU64_eq_some.mp hproduct
      omega
    rw [hpv]
    have hlast' : ∀ last, s.lastMonotonicMillis = some last →
        last.toNat ≤ batch.firstFrame.monotonicMillis.toNat := by
      intro last hl
      simpa [hl] using hlast
    refine (validateJitter_ends (nominalMillis s anchor batch) (observedMillis anchor batch)).imp ?_
      (fun _ _ h => ⟨h.1, fun hm => h.2 hm.jitter⟩)
    rintro _ t ⟨ht, hjitter⟩
    refine (validateRemap_ends anchor).imp ?_ ?_
    · rintro _ _ ⟨rfl, hremap⟩
      refine (validateDrift_ends hjitter).imp (fun _ u hu => ⟨ht.trans hu.1, ?_⟩) (fun _ u hu => ⟨ht.trans hu.1, ?_⟩)
      · exact ⟨hlast', Nat.le_of_not_lt hanchor, hle, by omega, hjitter, hremap, hu.2⟩
      · exact fun hm => hu.2 hm.drift
    · rintro _ _ ⟨rfl, hremap⟩
      exact ⟨ht, fun hm => hremap hm.remap⟩
  · obtain ⟨product, hproduct⟩ := tryU64_isSome (z := (frameDelta anchor batch : Int) * 1000) (by omega)
      (by have := h.fits; omega)
    have hdv := tryU64_eq_some.mp hdelta
    have hframes : delta.toNat = frameDelta anchor batch := by
      unfold frameDelta
      omega
    rw [hframes, expectedMillis, hproduct] at hnone
    cases hnone
  · obtain ⟨delta, hdelta⟩ := tryU64_isSome
      (z := (batch.firstFrame.position.frames.toNat : Int) - anchor.position.frames.toNat)
      (by have := h.position_le; omega) (by omega)
    rw [hdelta] at hnone
    cases hnone

end Slotpilot.Audio.Ft8ReceiveTimeline
