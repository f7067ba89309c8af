import Mathlib

/-!
# Cutting a growing stream into blocks

`blocks size l` are the complete blocks of `l`, `remainder size l` the values after the last of them. The rules say what
one more value does: it completes a block (`blocks_append_full`) or it joins the remainder (`blocks_append_part`).
-/

set_option autoImplicit false

namespace Slotpilot.Lib

variable {α β : Type} {size : Nat} {l : List α} {a : α}

/-- The complete blocks of a stream. -/
def blocks (size : Nat) (l : List α) : List (List α) :=
  (List.range (l.length / size)).map fun i => (l.drop (i * size)).take size

/-- The values after the last complete block. -/
def remainder (size : Nat) (l : List α) : List α := l.drop (l.length / size * size)

@[simp] theorem blocks_nil : blocks size ([] : List α) = [] := by simp [blocks]
@[simp] theorem remainder_nil : remainder size ([] : List α) = [] := by simp [remainder]
@[simp] theorem length_blocks : (blocks size l).length = l.length / size := by simp [blocks]

theorem length_remainder : (remainder size l).length = l.length % size := by
  rw [remainder, List.length_drop, Nat.mod_eq_sub_div_mul]

theorem remainder_map (f : α → β) : remainder size (l.map f) = (remainder size l).map f := by
  simp [remainder, List.map_drop]

/-- The blocks so far are blocks of a longer stream. -/
theorem map_range_append {n : Nat} (hn : n * size ≤ l.length) :
    ((List.range n).map fun i => ((l ++ [a]).drop (i * size)).take size) =
      (List.range n).map fun i => (l.drop (i * size)).take size := by
  refine List.map_congr_left fun i hi => ?_
  have hle : (i + 1) * size ≤ l.length := (Nat.mul_le_mul_right _ (List.mem_range.mp hi)).trans hn
  rw [Nat.add_mul, one_mul] at hle
  rw [List.drop_append_of_le_length (by omega), List.take_append_of_le_length (by rw [List.length_drop]; omega)]

section Append

variable (hs : 0 < size)
include hs

theorem div_append_full (h : (remainder size l).length + 1 = size) :
    (l ++ [a]).length / size = l.length / size + 1 := by
  have hdiv := Nat.div_add_mod l.length size
  rw [length_remainder] at h
  have hlen : (l ++ [a]).length = (l.length / size + 1) * size := by
    rw [List.length_append, List.length_singleton, Nat.add_mul, one_mul, mul_comm]
    omega
  rw [hlen, Nat.mul_div_cancel _ hs]

theorem div_append_part (h : (remainder size l).length + 1 ≠ size) :
    (l ++ [a]).length / size = l.length / size := by
  have hlt := Nat.mod_lt l.length hs
  have hdiv := Nat.div_add_mod l.length size
  rw [length_remainder] at h
  rw [List.length_append, List.length_singleton]
  refine Nat.div_eq_of_lt_le ?_ ?_
  · rw [mul_comm]; omega
  · rw [Nat.add_mul, one_mul, mul_comm]; omega

/-- A value that fills the remainder completes a block. -/
theorem blocks_append_full (h : (remainder size l).length + 1 = size) :
    blocks size (l ++ [a]) = blocks size l ++ [remainder size l ++ [a]] := by
  have hle := Nat.div_mul_le_self l.length size
  unfold blocks
  rw [div_append_full hs h, List.range_succ, List.map_append, map_range_append hle, List.map_singleton,
    List.drop_append_of_le_length hle, List.take_of_length_le]
  · rfl
  · rw [List.length_append, List.length_singleton]
    exact h.le

theorem remainder_append_full (h : (remainder size l).length + 1 = size) : remainder size (l ++ [a]) = [] := by
  have hlen : (remainder size (l ++ [a])).length = 0 := by
    rw [length_remainder, List.length_append, List.length_singleton, Nat.add_mod, ← length_remainder]
    rcases Nat.lt_or_eq_of_le (show 1 ≤ size from hs) with h1 | h1
    · rw [Nat.mod_eq_of_lt h1, h, Nat.mod_self]
    · subst h1; exact Nat.mod_one _
  exact List.length_eq_zero_iff.mp hlen

/-- Any other value joins the remainder. -/
theorem blocks_append_part (h : (remainder size l).length + 1 ≠ size) : blocks size (l ++ [a]) = blocks size l := by
  unfold blocks
  rw [div_append_part hs h, map_range_append (Nat.div_mul_le_self _ _)]

theorem remainder_append_part (h : (remainder size l).length + 1 ≠ size) :
    remainder size (l ++ [a]) = remainder size l ++ [a] := by
  unfold remainder
  rw [div_append_part hs h, List.drop_append_of_le_length (Nat.div_mul_le_self _ _)]

end Append

end Slotpilot.Lib
