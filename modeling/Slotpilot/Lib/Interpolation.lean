import Mathlib

/-!
# Linear interpolation of integer samples

`lerpAt x q` is the piecewise linear function through the points `(i, x i)`, `resampleAt x q` its value rounded to an
integer, halves away from the sample before `q`. `resampleAt_between` computes it in integers on a segment, both ends
included; `resampleAt_congr` says which samples it depends on. Rounding is monotone (`roundAway_mono`) and off by a half at
most (`abs_roundAway_sub`).
-/

set_option autoImplicit false

namespace Slotpilot.Lib

/-- The nearest integer, halves away from zero. -/
def roundAway (q : ℚ) : ℤ := if 0 ≤ q then round q else -round (-q)

/-- The piecewise linear function through the samples. -/
def lerpAt (x : ℕ → ℤ) (q : ℚ) : ℚ := x ⌊q⌋₊ + (x (⌊q⌋₊ + 1) - x ⌊q⌋₊) * (q - ⌊q⌋₊)

/-- The interpolated value rounded half away from the earlier sample. -/
def resampleAt (x : ℕ → ℤ) (q : ℚ) : ℤ := x ⌊q⌋₊ + roundAway (lerpAt x q - x ⌊q⌋₊)

/-- `roundAway (n / d)` in integers. -/
def roundDiv (n : ℤ) (d : ℕ) : ℤ := (if 0 ≤ n then n + d / 2 else n - d / 2).tdiv d

theorem round_div {n : ℤ} {d : ℕ} (hd : 0 < d) : round (n / d : ℚ) = (n + d / 2) / d := by
  have hd' : (d : ℚ) ≠ 0 := by exact_mod_cast hd.ne'
  have hq : (n / d : ℚ) + 1 / 2 = ((2 * n + d : ℤ) : ℚ) / ((2 * d : ℕ) : ℚ) := by
    push_cast
    field_simp
  rw [round_eq, hq, Rat.floor_intCast_div_natCast]
  push_cast
  rw [← Int.ediv_ediv_of_nonneg (by omega)]
  congr 1
  omega

theorem roundAway_div {n : ℤ} {d : ℕ} (hd : 0 < d) : roundAway (n / d) = roundDiv n d := by
  have hpos : (0 : ℚ) < d := by exact_mod_cast hd
  unfold roundAway roundDiv
  by_cases hn : 0 ≤ n
  · have hq : (0 : ℚ) ≤ n / d := div_nonneg (by exact_mod_cast hn) hpos.le
    rw [if_pos hq, if_pos hn, round_div hd, Int.tdiv_eq_ediv_of_nonneg (by omega)]
  · have hq : ¬(0 : ℚ) ≤ n / d := by
      rw [not_le]
      exact div_neg_of_neg_of_pos (by exact_mod_cast not_le.mp hn) hpos
    have hneg : (-(n / d : ℚ)) = ((-n : ℤ) : ℚ) / d := by push_cast; ring
    rw [if_neg hq, if_neg hn, hneg, round_div hd, show n - (d : ℤ) / 2 = -(-n + d / 2) by ring, Int.neg_tdiv,
      Int.tdiv_eq_ediv_of_nonneg (by omega)]

@[simp] theorem roundAway_intCast (n : ℤ) : roundAway n = n := by
  unfold roundAway
  split
  · exact round_intCast n
  · rw [← Int.cast_neg, round_intCast, neg_neg]

@[simp] theorem roundDiv_mul {n : ℤ} {d : ℕ} (hd : 0 < d) : roundDiv (n * d) d = n := by
  have hd' : (d : ℚ) ≠ 0 := by exact_mod_cast hd.ne'
  rw [← roundAway_div hd, Int.cast_mul, Int.cast_natCast, mul_div_cancel_right₀ _ hd', roundAway_intCast]

theorem roundAway_nonneg {q : ℚ} (hq : 0 ≤ q) : 0 ≤ roundAway q := by
  rw [roundAway, if_pos hq, round_eq]
  exact Int.floor_nonneg.mpr (by linarith)

theorem roundAway_neg (q : ℚ) : roundAway (-q) = -roundAway q := by
  have hpos {p : ℚ} (hp : 0 < p) : roundAway (-p) = -roundAway p := by
    rw [roundAway, roundAway, if_neg (by linarith), if_pos hp.le, neg_neg]
  rcases lt_trichotomy q 0 with hq | rfl | hq
  · have h := hpos (neg_pos.mpr hq)
    rw [neg_neg] at h
    rw [h, neg_neg]
  · rw [neg_zero, ← Int.cast_zero, roundAway_intCast, neg_zero]
  · exact hpos hq

/-- Rounding moves a number by a half at most. -/
theorem abs_roundAway_sub (q : ℚ) : |(roundAway q : ℚ) - q| ≤ 1 / 2 := by
  have hpos {p : ℚ} (hp : 0 ≤ p) : |(roundAway p : ℚ) - p| ≤ 1 / 2 := by
    rw [roundAway, if_pos hp, abs_sub_comm]
    exact abs_sub_round p
  rcases le_total 0 q with hq | hq
  · exact hpos hq
  · have h := hpos (neg_nonneg.mpr hq)
    rwa [roundAway_neg, Int.cast_neg, ← neg_sub', abs_neg] at h

/-- Rounding keeps the order of numbers. -/
theorem roundAway_mono : Monotone roundAway := by
  have hpos {p q : ℚ} (hp : 0 ≤ p) (h : p ≤ q) : roundAway p ≤ roundAway q := by
    rw [roundAway, roundAway, if_pos hp, if_pos (hp.trans h), round_eq, round_eq]
    exact Int.floor_mono (by linarith)
  intro p q h
  rcases le_total 0 p with hp | hp
  · exact hpos hp h
  · rcases le_total 0 q with hq | hq
    · have hlow := roundAway_nonneg (neg_nonneg.mpr hp)
      rw [roundAway_neg] at hlow
      exact (neg_nonneg.mp hlow).trans (roundAway_nonneg hq)
    · have hneg := hpos (neg_nonneg.mpr hq) (neg_le_neg h)
      rw [roundAway_neg, roundAway_neg] at hneg
      exact neg_le_neg_iff.mp hneg

theorem roundDiv_neg (n : ℤ) {d : ℕ} (hd : 0 < d) : roundDiv (-n) d = -roundDiv n d := by
  rw [← roundAway_div hd, ← roundAway_div hd, Int.cast_neg, neg_div, roundAway_neg]

theorem roundDiv_mono {n m : ℤ} {d : ℕ} (hd : 0 < d) (h : n ≤ m) : roundDiv n d ≤ roundDiv m d := by
  rw [← roundAway_div hd, ← roundAway_div hd]
  have hcast : (n : ℚ) ≤ m := by exact_mod_cast h
  exact roundAway_mono (div_le_div_of_nonneg_right hcast (Nat.cast_nonneg d))

/-- A rounded share of a difference lies between nothing and all of it. -/
theorem roundDiv_share {a n : ℤ} {d : ℕ} (hd : 0 < d) (h0 : 0 ≤ n) (h1 : n ≤ d) :
    (0 ≤ a → 0 ≤ roundDiv (a * n) d ∧ roundDiv (a * n) d ≤ a) ∧
      (a ≤ 0 → a ≤ roundDiv (a * n) d ∧ roundDiv (a * n) d ≤ 0) := by
  have hpos : ∀ b : ℤ, 0 ≤ b → 0 ≤ roundDiv (b * n) d ∧ roundDiv (b * n) d ≤ b := by
    intro b hb
    have hle : b * n ≤ b * d := mul_le_mul_of_nonneg_left h1 hb
    have hge : 0 ≤ b * n := mul_nonneg hb h0
    rw [roundDiv, if_pos hge, Int.tdiv_eq_ediv_of_nonneg (by omega)]
    refine ⟨Int.ediv_nonneg (by omega) (by omega), Int.lt_add_one_iff.mp (Int.ediv_lt_of_lt_mul (by omega) ?_)⟩
    rw [add_mul, one_mul]
    omega
  refine ⟨hpos a, fun ha => ?_⟩
  have h := hpos (-a) (by omega)
  rw [neg_mul, roundDiv_neg _ hd] at h
  omega

theorem lerpAt_between {x : ℕ → ℤ} {n d j : ℕ} (hd : 0 < d) (h0 : j * d ≤ n) (h1 : n ≤ (j + 1) * d) :
    lerpAt x (n / d) = x j + (x (j + 1) - x j) * (n - j * d) / d := by
  have hd' : (d : ℚ) ≠ 0 := by exact_mod_cast hd.ne'
  unfold lerpAt
  rw [Nat.floor_div_eq_div]
  rcases Nat.lt_or_eq_of_le h1 with hlt | rfl
  · rw [Nat.div_eq_of_lt_le h0 hlt]
    field_simp
  · rw [Nat.mul_div_cancel _ hd]
    push_cast
    field_simp
    ring

/-- On the segment from sample `j` the rounded value is sample `j` and the rounded share of the difference. -/
theorem resampleAt_between {x : ℕ → ℤ} {n d j : ℕ} (hd : 0 < d) (h0 : j * d ≤ n) (h1 : n ≤ (j + 1) * d) :
    resampleAt x (n / d) = x j + roundDiv ((x (j + 1) - x j) * (n - j * d)) d := by
  have hd' : (d : ℚ) ≠ 0 := by exact_mod_cast hd.ne'
  unfold resampleAt
  rw [lerpAt_between hd h0 h1, Nat.floor_div_eq_div]
  rcases Nat.lt_or_eq_of_le h1 with hlt | rfl
  · rw [Nat.div_eq_of_lt_le h0 hlt, ← roundAway_div hd]
    congr 2
    push_cast
    ring
  · -- at the right end both sides are the right sample
    rw [Nat.mul_div_cancel _ hd]
    have hl : (x j : ℚ) + (x (j + 1) - x j) * (((j + 1) * d : ℕ) - j * d) / d - x (j + 1) = ((0 : ℤ) : ℚ) := by
      push_cast
      field_simp
      ring
    have hn : (((j + 1) * d : ℕ) : ℤ) - j * d = d := by push_cast; ring
    rw [hl, roundAway_intCast, hn, roundDiv_mul hd]
    ring

@[simp] theorem resampleAt_zero (x : ℕ → ℤ) : resampleAt x 0 = x 0 := by
  have h := resampleAt_between (x := x) (n := 0) (d := 1) (j := 0) (by omega) (by omega) (by omega)
  rw [show (x (0 + 1) - x 0) * (((0 : ℕ) : ℤ) - (0 : ℕ) * (1 : ℕ)) = (0 : ℤ) * (1 : ℕ) by ring,
    roundDiv_mul one_pos, add_zero] at h
  simpa using h

/-- The rounded value depends on the samples up to the first one not before the position. -/
theorem resampleAt_congr {x y : ℕ → ℤ} {n d m : ℕ} (hd : 0 < d) (hn : n ≤ m * d) (h : ∀ i ≤ m, x i = y i) :
    resampleAt x (n / d) = resampleAt y (n / d) := by
  rcases m with - | j
  · obtain rfl : n = 0 := by omega
    rw [resampleAt_between (j := 0) hd (by omega) (by omega), resampleAt_between (j := 0) hd (by omega) (by omega)]
    simp [h 0 le_rfl, roundDiv]
  · have hj : n / d * d ≤ n := Nat.div_mul_le_self n d
    have hj' : n ≤ (n / d + 1) * d := (Nat.lt_div_mul_add hd).le.trans_eq (by ring)
    rw [resampleAt_between hd hj hj', resampleAt_between hd hj hj']
    have hle : n / d ≤ j + 1 := Nat.div_le_of_le_mul (by rw [mul_comm]; exact hn)
    rcases Nat.lt_or_eq_of_le hle with hlt | heq
    · rw [h _ hle, h (n / d + 1) (by omega)]
    · rw [heq] at hj ⊢
      have hn' : (n : ℤ) - (j + 1 : ℕ) * d = 0 := by
        rw [← Int.natCast_mul, Nat.le_antisymm hn hj, sub_self]
      rw [h _ le_rfl, hn', mul_zero, mul_zero]

end Slotpilot.Lib
