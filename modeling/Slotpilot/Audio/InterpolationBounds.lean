import Slotpilot.Audio.Reconstruct

/-!
# Bounds of the interpolation

Between two samples the interpolated values are the exact ones rounded half away from the first sample. They stay between
the two samples, meet both of them at the ends and follow their order (`interpolate_between`).
-/

set_option autoImplicit false

namespace Slotpilot.Audio

open Lib

/-- The sample a numerator stands for, from its share of the difference. -/
def sampleAt (previous current : Int16) (denominator : Nat) (numerator : Int) : Int16 :=
  Int16.ofInt (previous.toInt + roundDiv ((current.toInt - previous.toInt) * numerator) denominator)

/-- The interpolation from one sample to another in some parts. -/
structure Interpolates (previous current : Int16) (denominator : Int) (sample : Int → Int16) : Prop where
  succeeds : ∀ numerator, 0 ≤ numerator → numerator ≤ denominator →
    interpolate previous current numerator denominator = .ok (sample numerator)
  between : ∀ numerator, 0 ≤ numerator → numerator ≤ denominator →
    min previous.toInt current.toInt ≤ (sample numerator).toInt ∧
      (sample numerator).toInt ≤ max previous.toInt current.toInt
  nearest : ∀ numerator, 0 ≤ numerator → numerator ≤ denominator →
    |((sample numerator).toInt : ℚ) -
      (previous.toInt + (current.toInt - previous.toInt) * numerator / denominator)| ≤ 1 / 2
  monotone : previous.toInt ≤ current.toInt →
    MonotoneOn (fun numerator => (sample numerator).toInt) (Set.Icc 0 denominator)
  antitone : current.toInt ≤ previous.toInt →
    AntitoneOn (fun numerator => (sample numerator).toInt) (Set.Icc 0 denominator)
  start : sample 0 = previous
  finish : sample denominator = current

section

variable {previous current : Int16} {d : Nat} {n m : Int}

theorem interpolate_sampleAt (hd : 0 < d) (hd' : d < 2 ^ 64) (h0 : 0 ≤ n) (h1 : n ≤ d) :
    interpolate previous current n d = .ok (sampleAt previous current d n) ∧
      (sampleAt previous current d n).toInt =
        previous.toInt + roundDiv ((current.toInt - previous.toInt) * n) d := by
  obtain ⟨y, hy, hvalue⟩ := interpolate_ok previous current n d hd hd'.le h0 h1
  have hsample : sampleAt previous current d n = y := by
    rw [sampleAt, ← hvalue, Int16.ofInt_toInt]
  rw [hsample]
  exact ⟨hy, hvalue⟩

theorem sampleAt_between (hd : 0 < d) (hd' : d < 2 ^ 64) (h0 : 0 ≤ n) (h1 : n ≤ d) :
    min previous.toInt current.toInt ≤ (sampleAt previous current d n).toInt ∧
      (sampleAt previous current d n).toInt ≤ max previous.toInt current.toInt := by
  have hshare := roundDiv_share (a := current.toInt - previous.toInt) hd h0 h1
  rw [(interpolate_sampleAt hd hd' h0 h1).2]
  omega

theorem sampleAt_nearest (hd : 0 < d) (hd' : d < 2 ^ 64) (h0 : 0 ≤ n) (h1 : n ≤ d) :
    |((sampleAt previous current d n).toInt : ℚ) -
      (previous.toInt + (current.toInt - previous.toInt) * n / d)| ≤ 1 / 2 := by
  have herror := abs_roundAway_sub (((current.toInt - previous.toInt) * n : Int) / d : ℚ)
  rw [roundAway_div hd] at herror
  rw [(interpolate_sampleAt hd hd' h0 h1).2]
  push_cast at herror ⊢
  rwa [add_sub_add_left_eq_sub]

theorem sampleAt_le (hd : 0 < d) (hd' : d < 2 ^ 64) (hn : n ∈ Set.Icc 0 (d : Int)) (hm : m ∈ Set.Icc 0 (d : Int))
    (h : (current.toInt - previous.toInt) * n ≤ (current.toInt - previous.toInt) * m) :
    (sampleAt previous current d n).toInt ≤ (sampleAt previous current d m).toInt := by
  rw [(interpolate_sampleAt hd hd' hn.1 hn.2).2, (interpolate_sampleAt hd hd' hm.1 hm.2).2]
  exact Int.add_le_add_left (roundDiv_mono hd h) _

theorem sampleAt_zero (hd : 0 < d) : sampleAt previous current d 0 = previous := by
  have hnothing := roundDiv_mul (n := 0) hd
  rw [zero_mul] at hnothing
  rw [sampleAt, mul_zero, hnothing, add_zero, Int16.ofInt_toInt]

theorem sampleAt_denominator (hd : 0 < d) : sampleAt previous current d d = current := by
  rw [sampleAt, roundDiv_mul hd, add_sub_cancel, Int16.ofInt_toInt]

end

/-- **The interpolation** of two samples in fewer than `2 ^ 64` parts. -/
theorem interpolate_between (previous current : Int16) (denominator : Int) (hpos : 0 < denominator)
    (hbound : denominator < 2 ^ 64) : ∃ sample, Interpolates previous current denominator sample := by
  obtain ⟨d, rfl⟩ := Int.eq_ofNat_of_zero_le hpos.le
  have hd : 0 < d := by omega
  have hd' : d < 2 ^ 64 := by omega
  refine ⟨sampleAt previous current d, ?_⟩
  constructor
  case succeeds => exact fun n h0 h1 => (interpolate_sampleAt hd hd' h0 h1).1
  case between => exact fun n h0 h1 => sampleAt_between hd hd' h0 h1
  case nearest => exact fun n h0 h1 => sampleAt_nearest hd hd' h0 h1
  case monotone =>
    intro hle n hn m hm hnm
    exact sampleAt_le hd hd' hn hm (mul_le_mul_of_nonneg_left hnm (by omega))
  case antitone =>
    intro hle n hn m hm hnm
    exact sampleAt_le hd hd' hm hn (mul_le_mul_of_nonpos_left hnm (by omega))
  case start => exact sampleAt_zero hd
  case finish => exact sampleAt_denominator hd

/-- The greatest difference in three parts. -/
theorem interpolate_between_extremes : ∃ sample, Interpolates (-32768) 32767 3 sample :=
  interpolate_between (-32768) 32767 3 (by decide) (by decide)

end Slotpilot.Audio
