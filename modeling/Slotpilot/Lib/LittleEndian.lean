import Mathlib

/-!
# Little-endian fields

`leBytes width value` are the bytes of a number, lowest first, and `ofLeBytes` reads them back. Reading inverts writing
for every value that fits (`ofLeBytes_leBytes`), and every byte string is what is written for the number it reads as
(`leBytes_ofLeBytes`).
-/

set_option autoImplicit false

namespace Slotpilot.Lib

/-- The bytes of a number, lowest first. -/
def leBytes : (width value : Nat) → List UInt8
  | 0, _ => []
  | width + 1, value => UInt8.ofNat value :: leBytes width (value / 256)

/-- The number that some bytes are, lowest first. -/
def ofLeBytes : List UInt8 → Nat
  | [] => 0
  | byte :: bytes => byte.toNat + 256 * ofLeBytes bytes

@[simp] theorem length_leBytes (width value : Nat) : (leBytes width value).length = width := by
  induction width generalizing value with
  | zero => rfl
  | succ width ih => simp [leBytes, ih]

theorem ofLeBytes_lt (bytes : List UInt8) : ofLeBytes bytes < 256 ^ bytes.length := by
  induction bytes with
  | nil => simp [ofLeBytes]
  | cons byte bytes ih =>
    have hbyte := byte.toNat_lt
    rw [ofLeBytes, List.length_cons, Nat.pow_succ]
    omega

theorem ofLeBytes_leBytes {width value : Nat} (h : value < 256 ^ width) : ofLeBytes (leBytes width value) = value := by
  induction width generalizing value with
  | zero =>
    rw [Nat.pow_zero] at h
    rw [leBytes, ofLeBytes]
    omega
  | succ width ih =>
    rw [Nat.pow_succ] at h
    have hbyte : (UInt8.ofNat value).toNat = value % 256 := UInt8.toNat_ofNat'
    rw [leBytes, ofLeBytes, ih (by omega), hbyte]
    omega

theorem leBytes_ofLeBytes (bytes : List UInt8) : leBytes bytes.length (ofLeBytes bytes) = bytes := by
  induction bytes with
  | nil => rfl
  | cons byte bytes ih =>
    have hbyte := byte.toNat_lt
    have hlow : UInt8.ofNat (byte.toNat + 256 * ofLeBytes bytes) = byte := by
      rw [← UInt8.toNat_inj, UInt8.toNat_ofNat']
      omega
    have hhigh : (byte.toNat + 256 * ofLeBytes bytes) / 256 = ofLeBytes bytes := by omega
    rw [ofLeBytes, List.length_cons, leBytes, hlow, hhigh, ih]

end Slotpilot.Lib
