import Mathlib

/-!
# Bytes put together without lengths

Two texts of unknown length in one string of bytes, with fields of a fixed width before and between them, are told apart
by a byte that the second text cannot have (`delimited_inj`).

* `utf8_inj`, `mem_utf8`: the UTF-8 bytes of a text;
* `bigEndian_inj`: numbers of a fixed width;
* `hexDigits_inj`: bytes as hexadecimal digits.
-/

set_option autoImplicit false

namespace Slotpilot.Lib

variable {α : Type}

/-! ## Delimited fields -/

/-- The frames `front fixed mark body tail` are equal only if their fields are, when neither mark is in a body: a longer
front would put its mark into the other frame's body. -/
theorem delimited_le {front₁ front₂ fixed₁ fixed₂ body₁ body₂ tail₁ tail₂ : List α} {mark₁ mark₂ : α}
    (hfixed : fixed₁.length = fixed₂.length) (htail : tail₁.length = tail₂.length) (hmark : mark₂ ∉ body₁)
    (hle : front₁.length ≤ front₂.length)
    (h : front₁ ++ (fixed₁ ++ mark₁ :: (body₁ ++ tail₁)) = front₂ ++ (fixed₂ ++ mark₂ :: (body₂ ++ tail₂))) :
    front₁ = front₂ ∧ fixed₁ = fixed₂ ∧ mark₁ = mark₂ ∧ body₁ = body₂ ∧ tail₁ = tail₂ := by
  obtain ⟨shift, rfl, hrest⟩ : ∃ shift, front₂ = front₁ ++ shift ∧
      fixed₁ ++ mark₁ :: (body₁ ++ tail₁) = shift ++ (fixed₂ ++ mark₂ :: (body₂ ++ tail₂)) := by
    rcases List.append_eq_append_iff.mp h with ⟨shift, hfront, hrest⟩ | ⟨shift, hfront, hrest⟩
    · exact ⟨shift, hfront, hrest⟩
    · have hnil : shift = [] := by
        rw [hfront, List.length_append] at hle
        exact List.length_eq_zero_iff.mp (by omega)
      subst hnil
      exact ⟨[], by simpa using hfront.symm, by simpa using hrest.symm⟩
  cases shift with
  | nil =>
    rw [List.nil_append] at hrest
    obtain ⟨rfl, hmarked⟩ := List.append_inj hrest hfixed
    obtain ⟨rfl, hbodies⟩ := List.cons.inj hmarked
    obtain ⟨rfl, rfl⟩ := List.append_inj' hbodies htail
    simp
  | cons first shift =>
    have hlengths := congrArg List.length hrest
    simp only [List.length_append, List.length_cons] at hlengths
    have hbody : shift.length < body₁.length := by omega
    -- The second mark, at its place in the first frame.
    have hplace : (fixed₁ ++ mark₁ :: (body₁ ++ tail₁))[fixed₁.length + (shift.length + 1)]? = some mark₂ := by
      rw [hrest, hfixed, Nat.add_comm, List.getElem?_append_right (by simp), List.length_cons, Nat.add_sub_cancel_left,
        List.getElem?_append_right le_rfl, Nat.sub_self, List.getElem?_cons_zero]
    rw [List.getElem?_append_right (Nat.le_add_right _ _), Nat.add_sub_cancel_left, List.getElem?_cons_succ,
      List.getElem?_append_left hbody] at hplace
    exact absurd (List.mem_of_getElem? hplace) hmark

/-- **Frames are unambiguous**: equal frames have equal fields when no mark is in a body. -/
theorem delimited_inj {front₁ front₂ fixed₁ fixed₂ body₁ body₂ tail₁ tail₂ : List α} {mark₁ mark₂ : α}
    (hfixed : fixed₁.length = fixed₂.length) (htail : tail₁.length = tail₂.length) (hmark₁ : mark₁ ∉ body₂)
    (hmark₂ : mark₂ ∉ body₁)
    (h : front₁ ++ (fixed₁ ++ mark₁ :: (body₁ ++ tail₁)) = front₂ ++ (fixed₂ ++ mark₂ :: (body₂ ++ tail₂))) :
    front₁ = front₂ ∧ fixed₁ = fixed₂ ∧ mark₁ = mark₂ ∧ body₁ = body₂ ∧ tail₁ = tail₂ := by
  rcases Nat.le_total front₁.length front₂.length with hle | hle
  · exact delimited_le hfixed htail hmark₂ hle h
  · obtain ⟨hfront, hfixed', hmark, hbody, htail'⟩ := delimited_le hfixed.symm htail.symm hmark₁ hle h.symm
    exact ⟨hfront.symm, hfixed'.symm, hmark.symm, hbody.symm, htail'.symm⟩

/-! ## Texts -/

theorem byteArray_loop (bytes : ByteArray) (start : Nat) (read : List UInt8) :
    ByteArray.toList.loop bytes start read = read.reverse ++ bytes.data.toList.drop start := by
  fun_induction ByteArray.toList.loop bytes start read with
  | case1 start read h ih =>
    have hstart : start < bytes.data.toList.length := by simpa using h
    rw [ih, List.drop_eq_getElem_cons hstart]
    simp [ByteArray.get!, h]
  | case2 start read h =>
    rw [List.drop_eq_nil_of_le (by simpa using Nat.le_of_not_lt h), List.append_nil]

theorem byteArray_toList (bytes : ByteArray) : bytes.toList = bytes.data.toList := by
  rw [ByteArray.toList, byteArray_loop]
  simp

/-- A text is known by its UTF-8 bytes. -/
theorem utf8_inj {s t : String} (h : s.toUTF8.toList = t.toUTF8.toList) : s = t := by
  rw [byteArray_toList, byteArray_toList, Array.toList_inj] at h
  exact String.toByteArray_inj.mp (ByteArray.ext h)

theorem utf8_eq (s : String) : s.toUTF8.toList = s.toList.flatMap String.utf8EncodeChar := by
  have hbytes : s.toByteArray = s.toList.utf8Encode := by
    rw [← String.toByteArray_ofList, String.ofList_toList]
  rw [String.toUTF8_eq_toByteArray, byteArray_toList, hbytes]
  exact List.toList_data_toByteArray

theorem ofNat_not_ascii {value : Nat} (h : 0x80 ≤ value ∧ value < 0x100) : ¬(UInt8.ofNat value).toNat < 0x80 := by
  rw [UInt8.toNat_ofNat_of_lt' (show value < 2 ^ 8 by omega)]
  omega

/-- An ASCII byte of a text is one of its characters. -/
theorem mem_utf8 {s : String} {byte : UInt8} (h : byte ∈ s.toUTF8.toList) (hascii : byte.toNat < 0x80) :
    ∃ c ∈ s.toList, c.toNat = byte.toNat := by
  rw [utf8_eq] at h
  obtain ⟨c, hc, hbyte⟩ := List.mem_flatMap.mp h
  refine ⟨c, hc, ?_⟩
  have hvalue : c.toNat = c.val.toNat := rfl
  simp only [String.utf8EncodeChar] at hbyte
  split at hbyte
  · rw [List.mem_singleton.mp hbyte, UInt8.toNat_ofNat_of_lt' (show c.val.toNat < 2 ^ 8 by omega), hvalue]
  -- Every byte of a longer encoding is at least 0x80.
  have hwide : ¬byte.toNat < 0x80 := by
    split at hbyte
    · simp only [List.mem_cons, List.not_mem_nil, or_false] at hbyte
      rcases hbyte with rfl | rfl <;> exact ofNat_not_ascii (by omega)
    split at hbyte
    · simp only [List.mem_cons, List.not_mem_nil, or_false] at hbyte
      rcases hbyte with rfl | rfl | rfl <;> exact ofNat_not_ascii (by omega)
    · simp only [List.mem_cons, List.not_mem_nil, or_false] at hbyte
      rcases hbyte with rfl | rfl | rfl | rfl <;> exact ofNat_not_ascii (by omega)
  exact absurd hascii hwide

/-! ## Numbers and digits -/

/-- The big-endian bytes of a number, in a fixed width. -/
theorem bigEndian_inj {width a b : Nat} (ha : a < 256 ^ width) (hb : b < 256 ^ width)
    (h : (List.range width).reverse.map (fun i => UInt8.ofNat (a / 256 ^ i)) =
      (List.range width).reverse.map fun i => UInt8.ofNat (b / 256 ^ i)) : a = b := by
  have hdigits : ∀ i < width, a / 256 ^ i % 256 = b / 256 ^ i % 256 := by
    intro i hi
    have hbyte := List.map_inj_left.mp h i (List.mem_reverse.mpr (List.mem_range.mpr hi))
    have := congrArg UInt8.toNat hbyte
    simpa [UInt8.toNat_ofNat'] using this
  clear h
  induction width generalizing a b with
  | zero => omega
  | succ width ih =>
    have hlow := hdigits 0 (Nat.succ_pos _)
    rw [pow_zero, Nat.div_one, Nat.div_one] at hlow
    have hhigh : a / 256 = b / 256 := by
      refine ih (by rw [pow_succ] at ha; omega) (by rw [pow_succ] at hb; omega) fun i hi => ?_
      rw [Nat.div_div_eq_div_mul, Nat.div_div_eq_div_mul, ← pow_succ']
      exact hdigits (i + 1) (by omega)
    omega

theorem digitChar_inj {a b : Nat} (ha : a < 16) (hb : b < 16) (h : Nat.digitChar a = Nat.digitChar b) : a = b := by
  have hall : ∀ a b : Fin 16, Nat.digitChar a = Nat.digitChar b → a = b := by decide
  exact congrArg Fin.val (hall ⟨a, ha⟩ ⟨b, hb⟩ h)

/-- Two digits for each byte. -/
def hexDigits (bytes : List UInt8) : List Char :=
  bytes.flatMap fun byte => [Nat.digitChar (byte.toNat / 16), Nat.digitChar (byte.toNat % 16)]

@[simp] theorem length_hexDigits (bytes : List UInt8) : (hexDigits bytes).length = 2 * bytes.length := by
  induction bytes with
  | nil => rfl
  | cons byte bytes ih =>
    rw [hexDigits, List.flatMap_cons, List.length_append, ← hexDigits, ih]
    simp only [List.length_cons, List.length_nil]
    omega

theorem mem_hexDigits {bytes : List UInt8} {c : Char} (h : c ∈ hexDigits bytes) : ∃ digit : Fin 16, c = Nat.digitChar digit := by
  obtain ⟨byte, -, hc⟩ := List.mem_flatMap.mp h
  have hbyte := byte.toNat_lt
  simp only [List.mem_cons, List.not_mem_nil, or_false] at hc
  rcases hc with rfl | rfl
  · exact ⟨⟨byte.toNat / 16, by omega⟩, rfl⟩
  · exact ⟨⟨byte.toNat % 16, by omega⟩, rfl⟩

theorem hexDigits_inj {a b : List UInt8} (h : hexDigits a = hexDigits b) : a = b := by
  induction a generalizing b with
  | nil =>
    cases b with
    | nil => rfl
    | cons => cases h
  | cons byte bytes ih =>
    cases b with
    | nil => cases h
    | cons other others =>
      simp only [hexDigits, List.flatMap_cons, List.cons_append, List.nil_append, List.cons.injEq] at h
      obtain ⟨hhigh, hlow, hrest⟩ := h
      have hbyte := byte.toNat_lt
      have hother := other.toNat_lt
      have hdiv := digitChar_inj (by omega) (by omega) hhigh
      have hmod := digitChar_inj (by omega) (by omega) hlow
      rw [ih hrest, UInt8.toNat_inj.mp (show byte.toNat = other.toNat by omega)]

end Slotpilot.Lib
