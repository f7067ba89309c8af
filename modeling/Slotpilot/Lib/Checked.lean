import Mathlib

/-!
# Checked conversions to machine integers

Arithmetic is done in `Nat` and `Int` and converted back with a range check, as `checked_add` and `try_from` do. Each
conversion is characterized by the value it represents (`tryU64_eq_some`, …), so a proof never unfolds it.
-/

set_option autoImplicit false

namespace Slotpilot.Lib

/-- The value has an unsigned representation of `w` bits. -/
def fitsUnsigned (w : Nat) : Int → Bool
  | .ofNat n => n < 2 ^ w
  | .negSucc _ => false

/-- The value has a two's complement representation of `w + 1` bits. -/
def fitsSigned (w : Nat) : Int → Bool
  | .ofNat n => n < 2 ^ w
  | .negSucc n => n < 2 ^ w

theorem fitsUnsigned_iff {w : Nat} {z : Int} : fitsUnsigned w z = true ↔ 0 ≤ z ∧ z < ((2 ^ w : Nat) : Int) := by
  cases z with
  | ofNat n => simp only [fitsUnsigned, decide_eq_true_eq, Int.ofNat_eq_natCast]; omega
  | negSucc n => simp [fitsUnsigned]

theorem fitsSigned_iff {w : Nat} {z : Int} :
    fitsSigned w z = true ↔ -((2 ^ w : Nat) : Int) ≤ z ∧ z < ((2 ^ w : Nat) : Int) := by
  cases z with
  | ofNat n => simp only [fitsSigned, decide_eq_true_eq, Int.ofNat_eq_natCast]; omega
  | negSucc n => simp only [fitsSigned, decide_eq_true_eq, Int.negSucc_eq]; omega

/-- The unsigned 64-bit integer of a value, if it has one. -/
def tryU64 (z : Int) : Option UInt64 := if fitsUnsigned 64 z then some (UInt64.ofNat z.toNat) else none

/-- The signed 64-bit integer of a value, if it has one. -/
def tryI64 (z : Int) : Option Int64 := if fitsSigned 63 z then some (Int64.ofInt z) else none

/-- The signed 16-bit integer of a value, if it has one. -/
def tryI16 (z : Int) : Option Int16 := if fitsSigned 15 z then some (Int16.ofInt z) else none

/-- The value itself, if it fits 32 unsigned bits. -/
def tryU32 (z : Int) : Option Nat := if fitsUnsigned 32 z then some z.toNat else none

/-- The value itself, if it fits 16 unsigned bits. -/
def tryU16 (z : Int) : Option Nat := if fitsUnsigned 16 z then some z.toNat else none

/-- The value itself, if it fits 32 signed bits. -/
def tryI32 (z : Int) : Option Int := if fitsSigned 31 z then some z else none

/-- The value itself, if it fits 128 signed bits. -/
def tryI128 (z : Int) : Option Int := if fitsSigned 127 z then some z else none

@[simp] theorem tryU64_eq_some {z : Int} {u : UInt64} : tryU64 z = some u ↔ (u.toNat : Int) = z := by
  have hu := u.toNat_lt
  unfold tryU64
  split
  · rename_i h
    obtain ⟨h0, h1⟩ := fitsUnsigned_iff.mp h
    rw [Option.some.injEq, ← UInt64.toNat_inj, UInt64.toNat_ofNat_of_lt' (by unfold UInt64.size; omega)]
    omega
  · rename_i h
    simp only [reduceCtorEq, false_iff]
    intro hz
    exact h (fitsUnsigned_iff.mpr (by omega))

@[simp] theorem tryI64_eq_some {z : Int} {i : Int64} : tryI64 z = some i ↔ i.toInt = z := by
  have h1 := i.toInt_lt
  have h2 := i.le_toInt
  unfold tryI64
  split
  · rename_i h
    obtain ⟨h3, h4⟩ := fitsSigned_iff.mp h
    rw [Option.some.injEq, ← Int64.toInt_inj, Int64.toInt_ofInt_of_le (by omega) (by omega)]
    exact eq_comm
  · rename_i h
    simp only [reduceCtorEq, false_iff]
    intro hz
    exact h (fitsSigned_iff.mpr (by omega))

@[simp] theorem tryI16_eq_some {z : Int} {i : Int16} : tryI16 z = some i ↔ i.toInt = z := by
  have h1 := i.toInt_lt
  have h2 := i.le_toInt
  unfold tryI16
  split
  · rename_i h
    obtain ⟨h3, h4⟩ := fitsSigned_iff.mp h
    rw [Option.some.injEq, ← Int16.toInt_inj, Int16.toInt_ofInt_of_le (by omega) (by omega)]
    exact eq_comm
  · rename_i h
    simp only [reduceCtorEq, false_iff]
    intro hz
    exact h (fitsSigned_iff.mpr (by omega))

@[simp] theorem tryU32_eq_some {z : Int} {n : Nat} : tryU32 z = some n ↔ (n : Int) = z ∧ n < 2 ^ 32 := by
  unfold tryU32
  split
  · rename_i h
    obtain ⟨h0, h1⟩ := fitsUnsigned_iff.mp h
    rw [Option.some.injEq]
    omega
  · rename_i h
    simp only [reduceCtorEq, false_iff]
    rintro ⟨hz, hn⟩
    exact h (fitsUnsigned_iff.mpr (by omega))

/-- A number that 32 bits do not hold is held as the largest one. -/
theorem tryU32_getD (n : Nat) : (tryU32 n).getD (2 ^ 32 - 1) = min n (2 ^ 32 - 1) := by
  by_cases hsmall : n < 2 ^ 32
  · rw [tryU32_eq_some.mpr ⟨rfl, hsmall⟩, Option.getD_some]
    omega
  · have hnone : tryU32 n = none := by
      rw [Option.eq_none_iff_forall_ne_some]
      intro held hheld
      have := tryU32_eq_some.mp hheld
      omega
    rw [hnone, Option.getD_none]
    omega

@[simp] theorem tryU16_eq_some {z : Int} {n : Nat} : tryU16 z = some n ↔ (n : Int) = z ∧ n < 2 ^ 16 := by
  unfold tryU16
  split
  · rename_i h
    obtain ⟨h0, h1⟩ := fitsUnsigned_iff.mp h
    rw [Option.some.injEq]
    omega
  · rename_i h
    simp only [reduceCtorEq, false_iff]
    rintro ⟨hz, hn⟩
    exact h (fitsUnsigned_iff.mpr (by omega))

@[simp] theorem tryI32_eq_some {z w : Int} : tryI32 z = some w ↔ w = z ∧ -2 ^ 31 ≤ z ∧ z < 2 ^ 31 := by
  unfold tryI32
  split
  · rename_i h
    obtain ⟨h0, h1⟩ := fitsSigned_iff.mp h
    rw [Option.some.injEq]
    omega
  · rename_i h
    simp only [reduceCtorEq, false_iff]
    rintro ⟨hz, h0, h1⟩
    exact h (fitsSigned_iff.mpr (by omega))

@[simp] theorem tryI128_eq_some {z w : Int} : tryI128 z = some w ↔ w = z ∧ -2 ^ 127 ≤ z ∧ z < 2 ^ 127 := by
  unfold tryI128
  split
  · rename_i h
    obtain ⟨h0, h1⟩ := fitsSigned_iff.mp h
    rw [Option.some.injEq]
    omega
  · rename_i h
    simp only [reduceCtorEq, false_iff]
    rintro ⟨hz, h0, h1⟩
    exact h (fitsSigned_iff.mpr (by omega))

/-- A conversion succeeds in range. -/
theorem tryU64_isSome {z : Int} (h0 : 0 ≤ z) (h1 : z < 2 ^ 64) : ∃ u, tryU64 z = some u := by
  unfold tryU64
  rw [if_pos (fitsUnsigned_iff.mpr (by omega))]
  exact ⟨_, rfl⟩

theorem tryI64_isSome {z : Int} (h0 : -2 ^ 63 ≤ z) (h1 : z < 2 ^ 63) : ∃ i, tryI64 z = some i := by
  unfold tryI64
  rw [if_pos (fitsSigned_iff.mpr (by omega))]
  exact ⟨_, rfl⟩

theorem tryI16_isSome {z : Int} (h0 : -2 ^ 15 ≤ z) (h1 : z < 2 ^ 15) : ∃ i, tryI16 z = some i := by
  unfold tryI16
  rw [if_pos (fitsSigned_iff.mpr (by omega))]
  exact ⟨_, rfl⟩

/-! ## Saturation -/

/-- Addition that stops at the largest 64-bit value. -/
def saturatingAdd (a b : Nat) : Nat := min (a + b) (2 ^ 64 - 1)

theorem saturatingAdd_zero {n : Nat} (h : n < 2 ^ 64) : saturatingAdd n 0 = n := by
  unfold saturatingAdd
  omega

/-- Saturating on the way is saturating at the end. -/
theorem saturatingAdd_add (n a b : Nat) : saturatingAdd (saturatingAdd n a) b = saturatingAdd n (a + b) := by
  unfold saturatingAdd
  omega

theorem saturatingAdd_lt (n a : Nat) : saturatingAdd n a < 2 ^ 64 := by
  unfold saturatingAdd
  omega

/-- The nearest unsigned 64-bit integer. -/
def saturateU64 (z : Int) : UInt64 := (tryU64 z).getD (if z < 0 then 0 else UInt64.ofNat (2 ^ 64 - 1))

/-- The nearest signed 64-bit integer. -/
def saturateI64 (z : Int) : Int64 := (tryI64 z).getD (if z < 0 then Int64.ofInt (-2 ^ 63) else Int64.ofInt (2 ^ 63 - 1))

theorem saturateU64_of_fits {z : Int} (h0 : 0 ≤ z) (h1 : z < 2 ^ 64) : ((saturateU64 z).toNat : Int) = z := by
  obtain ⟨u, hu⟩ := tryU64_isSome h0 h1
  rw [saturateU64, hu, Option.getD_some]
  exact tryU64_eq_some.mp hu

theorem saturateI64_of_fits {z : Int} (h0 : -2 ^ 63 ≤ z) (h1 : z < 2 ^ 63) : (saturateI64 z).toInt = z := by
  obtain ⟨i, hi⟩ := tryI64_isSome h0 h1
  rw [saturateI64, hi, Option.getD_some]
  exact tryI64_eq_some.mp hi

end Slotpilot.Lib
