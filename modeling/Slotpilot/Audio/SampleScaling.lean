import Slotpilot.Audio.Capture

/-!
# Integer samples

The signed and the unsigned integer formats of a width are scaled to 16 bits by the same function of the value with the
midpoint moved to zero (`scaled`).

* `signedSample_eq`, `unsignedSample_eq`: both macros compute it;
* `integer_samples`: it is total and monotone, reaches the extremes and marks exactly them as clipped.
-/

set_option autoImplicit false

namespace Slotpilot.Audio

open Lib

/-! ## The scale -/

/-- A value between `-half` and `half - 1` on the scale of 16 bits, truncated towards zero. -/
def scaled (half value : Int) : Int :=
  if 0 ≤ value then value * 32767 / (half - 1) else -(-value * 32768 / half)

section Scale

variable {half a b : Int}

theorem scaled_nonneg (hhalf : 2 ≤ half) (ha : 0 ≤ a) (hlt : a < half) :
    0 ≤ scaled half a ∧ scaled half a ≤ 32767 := by
  rw [scaled, if_pos ha]
  constructor
  · exact Int.ediv_nonneg (by omega) (by omega)
  · refine Int.ediv_le_of_le_mul (by omega) ?_
    nlinarith

theorem scaled_neg (hhalf : 2 ≤ half) (ha : a < 0) (hle : -half ≤ a) :
    -32768 ≤ scaled half a ∧ scaled half a ≤ 0 := by
  rw [scaled, if_neg (by omega)]
  have hupper : -a * 32768 / half ≤ 32768 := by
    refine Int.ediv_le_of_le_mul (by omega) ?_
    nlinarith
  have hlower : 0 ≤ -a * 32768 / half := Int.ediv_nonneg (by omega) (by omega)
  omega

theorem scaled_range (hhalf : 2 ≤ half) (hle : -half ≤ a) (hlt : a < half) :
    -32768 ≤ scaled half a ∧ scaled half a ≤ 32767 := by
  by_cases ha : 0 ≤ a
  · have := scaled_nonneg hhalf ha hlt
    omega
  · have := scaled_neg hhalf (not_le.mp ha) hle
    omega

/-- **The scale is monotone**, also across zero. -/
theorem scaled_mono (hhalf : 2 ≤ half) (hle : -half ≤ a) (hlt : b < half) (hab : a ≤ b) :
    scaled half a ≤ scaled half b := by
  by_cases ha : 0 ≤ a
  · rw [scaled, scaled, if_pos ha, if_pos (ha.trans hab)]
    exact Int.ediv_le_ediv (by omega) (by omega)
  by_cases hb : 0 ≤ b
  · exact (scaled_neg hhalf (not_le.mp ha) hle).2.trans (scaled_nonneg hhalf hb hlt).1
  · rw [scaled, scaled, if_neg ha, if_neg hb]
    have hdiv : -b * 32768 / half ≤ -a * 32768 / half := Int.ediv_le_ediv (by omega) (by omega)
    omega

theorem scaled_minimum (hhalf : 2 ≤ half) : scaled half (-half) = -32768 := by
  rw [scaled, if_neg (by omega), Int.neg_neg, Int.mul_ediv_cancel_left _ (by omega)]

theorem scaled_maximum (hhalf : 2 ≤ half) : scaled half (half - 1) = 32767 := by
  rw [scaled, if_pos (by omega), Int.mul_ediv_cancel_left _ (by omega)]

@[simp] theorem scaled_zero (half : Int) : scaled half 0 = 0 := by
  simp [scaled]

/-- A scale of 16 bits changes nothing. -/
theorem scaled_identity (a : Int) : scaled 32768 a = a := by
  unfold scaled
  split <;> omega

/-- A value on the scale, and whether it is one of the extremes. -/
def scaledSample (half value : Int) : Int16 × Bool :=
  (Int16.ofInt (scaled half value), decide (value = -half ∨ value = half - 1))

theorem scaledSample_toInt (hhalf : 2 ≤ half) (hle : -half ≤ a) (hlt : a < half) :
    (scaledSample half a).1.toInt = scaled half a := by
  have hrange := scaled_range hhalf hle hlt
  exact Int16.toInt_ofInt_of_le (by omega) (by omega)

/-! ## Both macros -/

theorem tryI16_scaled (hhalf : 2 ≤ half) (hle : -half ≤ a) (hlt : a < half) :
    tryI16 (scaled half a) = some (Int16.ofInt (scaled half a)) := by
  rw [tryI16_eq_some]
  exact scaledSample_toInt hhalf hle hlt

/-- **The signed macro** scales the value. -/
theorem signedSample_eq (hhalf : 2 ≤ half) (hle : -half ≤ a) (hlt : a < half) :
    signedSample a (-half) (half - 1) = some (scaledSample half a) := by
  have hscaled : (if a ≥ 0 then (a * 32767).tdiv (half - 1) else (a * 32768).tdiv (-(-half))) = scaled half a := by
    unfold scaled
    split
    · rw [Int.tdiv_eq_ediv_of_nonneg (by omega)]
    · rw [Int.neg_neg, show a * 32768 = -(-a * 32768) by ring, Int.neg_tdiv, Int.tdiv_eq_ediv_of_nonneg (by omega)]
  rw [signedSample, hscaled, tryI16_scaled hhalf hle hlt, Option.map_some, scaledSample]
  congr 2
  rw [Bool.eq_iff_iff]
  simp

/-- **The unsigned macro** scales the value with its midpoint at zero. -/
theorem unsignedSample_eq {mid value : Nat} (hmid : 2 ≤ mid) (hlt : value < 2 * mid) :
    unsignedSample value (2 * mid - 1) mid = some (scaledSample mid (value - mid : Int)) := by
  have hscaled : (if value ≥ mid then (((value - mid) * 32767 / (2 * mid - 1 - mid) : Nat) : Int)
      else -(((mid - value) * 32768 / mid : Nat) : Int)) = scaled mid (value - mid : Int) := by
    unfold scaled
    split
    · rename_i hge
      rw [if_pos (by omega)]
      push_cast [hge, show mid ≤ 2 * mid - 1 by omega, show 1 ≤ 2 * mid by omega]
      congr 1
      omega
    · rename_i hnot
      rw [if_neg (by omega)]
      push_cast [show value ≤ mid by omega]
      congr 3
      omega
  rw [unsignedSample, hscaled, tryI16_scaled (by omega) (by omega) (by omega), Option.map_some, scaledSample]
  congr 2
  rw [Bool.eq_iff_iff]
  simp only [Bool.or_eq_true, beq_iff_eq, decide_eq_true_eq]
  omega

end Scale

/-! ## The formats -/

/-- The widths of the integer formats. -/
inductive SampleWidth
  | w8
  | w16
  | w24
  | w32
  | w64
  deriving DecidableEq

namespace SampleWidth

def bits : SampleWidth → Nat
  | w8 => 8
  | w16 => 16
  | w24 => 24
  | w32 => 32
  | w64 => 64

/-- The signed format of a width. -/
def Signed : SampleWidth → Type
  | w8 => Int8
  | w16 => Int16
  | w24 => I24
  | w32 => Int32
  | w64 => Int64

/-- The unsigned format of a width. -/
def Unsigned : SampleWidth → Type
  | w8 => UInt8
  | w16 => UInt16
  | w24 => U24
  | w32 => UInt32
  | w64 => UInt64

instance : (width : SampleWidth) → NormalizeSample width.Signed
  | w8 => inferInstanceAs (NormalizeSample Int8)
  | w16 => inferInstanceAs (NormalizeSample Int16)
  | w24 => inferInstanceAs (NormalizeSample I24)
  | w32 => inferInstanceAs (NormalizeSample Int32)
  | w64 => inferInstanceAs (NormalizeSample Int64)

instance : (width : SampleWidth) → NormalizeSample width.Unsigned
  | w8 => inferInstanceAs (NormalizeSample UInt8)
  | w16 => inferInstanceAs (NormalizeSample UInt16)
  | w24 => inferInstanceAs (NormalizeSample U24)
  | w32 => inferInstanceAs (NormalizeSample UInt32)
  | w64 => inferInstanceAs (NormalizeSample UInt64)

/-- The integer of a signed sample. -/
def signedValue : (width : SampleWidth) → width.Signed → Int
  | w8 => Int8.toInt
  | w16 => Int16.toInt
  | w24 => Subtype.val
  | w32 => Int32.toInt
  | w64 => Int64.toInt

/-- The integer of an unsigned sample. -/
def unsignedValue : (width : SampleWidth) → width.Unsigned → Nat
  | w8 => UInt8.toNat
  | w16 => UInt16.toNat
  | w24 => Subtype.val
  | w32 => UInt32.toNat
  | w64 => UInt64.toNat

/-- The values below zero of a width. -/
def half (width : SampleWidth) : Nat := 2 ^ (width.bits - 1)

theorem half_ge (width : SampleWidth) : 2 ≤ width.half := by
  cases width <;> decide

variable {width : SampleWidth}

theorem signedValue_range (sample : width.Signed) :
    -(width.half : Int) ≤ width.signedValue sample ∧ width.signedValue sample < width.half := by
  cases width with
  | w8 => exact ⟨Int8.le_toInt sample, Int8.toInt_lt sample⟩
  | w16 => exact ⟨Int16.le_toInt sample, Int16.toInt_lt sample⟩
  | w24 => exact ⟨sample.2.1, Int.lt_add_one_of_le sample.2.2⟩
  | w32 => exact ⟨Int32.le_toInt sample, Int32.toInt_lt sample⟩
  | w64 => exact ⟨Int64.le_toInt sample, Int64.toInt_lt sample⟩

theorem unsignedValue_lt (sample : width.Unsigned) : width.unsignedValue sample < 2 * width.half := by
  cases width with
  | w8 => exact UInt8.toNat_lt sample
  | w16 => exact UInt16.toNat_lt sample
  | w24 => exact Nat.lt_succ_of_le sample.2
  | w32 => exact UInt32.toNat_lt sample
  | w64 => exact UInt64.toNat_lt sample

/-- A width has a signed sample for each of its values. -/
theorem exists_signed {value : Int} (hle : -(width.half : Int) ≤ value) (hlt : value < width.half) :
    ∃ sample, width.signedValue sample = value := by
  cases width with
  | w8 => exact ⟨Int8.ofInt value, Int8.toInt_ofInt_of_le hle hlt⟩
  | w16 => exact ⟨Int16.ofInt value, Int16.toInt_ofInt_of_le hle hlt⟩
  | w24 => exact ⟨⟨value, hle, Int.le_of_lt_add_one hlt⟩, rfl⟩
  | w32 => exact ⟨Int32.ofInt value, Int32.toInt_ofInt_of_le hle hlt⟩
  | w64 => exact ⟨Int64.ofInt value, Int64.toInt_ofInt_of_le hle hlt⟩

/-- And an unsigned one. -/
theorem exists_unsigned {value : Nat} (hlt : value < 2 * width.half) : ∃ sample, width.unsignedValue sample = value := by
  cases width with
  | w8 => exact ⟨UInt8.ofNat value, UInt8.toNat_ofNat_of_lt' hlt⟩
  | w16 => exact ⟨UInt16.ofNat value, UInt16.toNat_ofNat_of_lt' hlt⟩
  | w24 => exact ⟨⟨value, Nat.le_of_lt_succ hlt⟩, rfl⟩
  | w32 => exact ⟨UInt32.ofNat value, UInt32.toNat_ofNat_of_lt' hlt⟩
  | w64 => exact ⟨UInt64.ofNat value, UInt64.toNat_ofNat_of_lt' hlt⟩

theorem normalize_signed (width : SampleWidth) (sample : width.Signed) :
    NormalizeSample.normalize sample = some (scaledSample width.half (width.signedValue sample)) := by
  obtain ⟨hle, hlt⟩ := signedValue_range sample
  have hhalf : (2 : Int) ≤ width.half := by exact_mod_cast width.half_ge
  rw [← signedSample_eq hhalf hle hlt]
  cases width <;> rfl

theorem normalize_unsigned (width : SampleWidth) (sample : width.Unsigned) :
    NormalizeSample.normalize sample = some (scaledSample width.half (width.unsignedValue sample - width.half : Int)) := by
  rw [← unsignedSample_eq width.half_ge (unsignedValue_lt sample)]
  cases width <;> rfl

end SampleWidth

/-- What normalization does to a format whose samples stand for the integers from `-half` to `half - 1`. -/
structure Normalizes {α : Type} [NormalizeSample α] (value : α → Int) (half : Int) : Prop where
  covers : ∀ number, -half ≤ number → number < half → ∃ sample, value sample = number
  total : ∀ sample : α, ∃ result, NormalizeSample.normalize sample = some result
  monotone : ∀ low high (a b : Int16 × Bool), NormalizeSample.normalize low = some a →
    NormalizeSample.normalize high = some b → value low ≤ value high → a.1.toInt ≤ b.1.toInt
  minimum : ∀ sample, value sample = -half → NormalizeSample.normalize sample = some (Int16.minValue, true)
  maximum : ∀ sample, value sample = half - 1 → NormalizeSample.normalize sample = some (Int16.maxValue, true)
  midpoint : ∀ sample, value sample = 0 → NormalizeSample.normalize sample = some (0, false)
  clipped : ∀ sample (result : Int16 × Bool), NormalizeSample.normalize sample = some result →
    (result.2 = true ↔ value sample = -half ∨ value sample = half - 1)

/-- A format that is scaled is normalized. -/
theorem normalizes_of_scaled {α : Type} [NormalizeSample α] {value : α → Int} {half : Int} (hhalf : 2 ≤ half)
    (hcovers : ∀ number, -half ≤ number → number < half → ∃ sample, value sample = number)
    (hrange : ∀ sample, -half ≤ value sample ∧ value sample < half)
    (hscaled : ∀ sample, NormalizeSample.normalize sample = some (scaledSample half (value sample))) :
    Normalizes value half := by
  refine ⟨hcovers, fun sample => ⟨_, hscaled sample⟩, ?_, ?_, ?_, ?_, ?_⟩
  · intro low high a b ha hb hle
    obtain rfl := Option.some.inj ((hscaled low).symm.trans ha)
    obtain rfl := Option.some.inj ((hscaled high).symm.trans hb)
    rw [scaledSample_toInt hhalf (hrange low).1 (hrange low).2, scaledSample_toInt hhalf (hrange high).1 (hrange high).2]
    exact scaled_mono hhalf (hrange low).1 (hrange high).2 hle
  · intro sample hvalue
    rw [hscaled, hvalue, scaledSample, scaled_minimum hhalf, decide_eq_true (.inl rfl)]
    rfl
  · intro sample hvalue
    rw [hscaled, hvalue, scaledSample, scaled_maximum hhalf, decide_eq_true (.inr rfl)]
    rfl
  · intro sample hvalue
    rw [hscaled, hvalue, scaledSample, scaled_zero, decide_eq_false (by omega)]
    rfl
  · intro sample result hresult
    obtain rfl := Option.some.inj ((hscaled sample).symm.trans hresult)
    rw [scaledSample, decide_eq_true_iff]

/-- **Integer samples**: in every width both formats are normalized without failure, monotonically, from extremes to
extremes and midpoint to zero, with exactly the extremes clipped; they agree, and 16 signed bits stay what they are. -/
theorem integer_samples (width : SampleWidth) :
    Normalizes width.signedValue width.half ∧
      Normalizes (fun sample => (width.unsignedValue sample : Int) - width.half) width.half ∧
      (∀ (unsigned : width.Unsigned) (signed : width.Signed),
        width.signedValue signed = width.unsignedValue unsigned - width.half →
          NormalizeSample.normalize unsigned = NormalizeSample.normalize signed) ∧
      ∀ sample : Int16, ∃ clipped, NormalizeSample.normalize sample = some (sample, clipped) := by
  have hhalf : (2 : Int) ≤ width.half := by exact_mod_cast width.half_ge
  refine ⟨?_, ?_, ?_, ?_⟩
  · exact normalizes_of_scaled hhalf (fun _ => SampleWidth.exists_signed) SampleWidth.signedValue_range
      width.normalize_signed
  · refine normalizes_of_scaled hhalf ?_ ?_ width.normalize_unsigned
    · intro number hle hlt
      have hlt : (number + width.half).toNat < 2 * width.half := by omega
      obtain ⟨sample, hsample⟩ := SampleWidth.exists_unsigned hlt
      refine ⟨sample, ?_⟩
      rw [hsample]
      omega
    · intro sample
      have hlt := SampleWidth.unsignedValue_lt sample
      omega
  · intro unsigned signed hvalue
    rw [SampleWidth.normalize_unsigned, SampleWidth.normalize_signed, hvalue]
  · intro sample
    have hsample : NormalizeSample.normalize sample = some (scaledSample 32768 sample.toInt) :=
      SampleWidth.w16.normalize_signed sample
    rw [scaledSample, scaled_identity, Int16.ofInt_toInt] at hsample
    exact ⟨_, hsample⟩

end Slotpilot.Audio
