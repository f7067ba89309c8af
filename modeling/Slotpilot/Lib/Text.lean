import Slotpilot.Lib.JsonParser

/-!
# Words and numbers in text

Splitting at whitespace (`words`), with the laws that a separator splits the words and that a run without separators is
one word; equality up to the case of letters; splitting at the last mark (`rsplitOnce`); and the parser of unsigned
integers (`parseUnsigned`), which takes a plus sign and leading zeros: the text of a number reads back, and other texts of
a number are those two (`toDigits_parseUnsigned`).
-/

set_option autoImplicit false

namespace Slotpilot.Lib

/-! ## Words -/

section Words

variable {α : Type} {sep : α → Bool}

/-- A word that ends here. -/
def closeWord (word : List α) : List (List α) := if word.isEmpty then [] else [word]

/-- The words of a list that begins inside a word. -/
def wordsFrom (sep : α → Bool) : (word rest : List α) → List (List α)
  | word, [] => closeWord word
  | word, x :: rest => if sep x then closeWord word ++ wordsFrom sep [] rest else wordsFrom sep (word ++ [x]) rest

/-- The maximal nonempty runs without a separator. -/
def words (sep : α → Bool) (l : List α) : List (List α) := wordsFrom sep [] l

/-- A nonempty run without a separator. -/
def IsWord (sep : α → Bool) (word : List α) : Prop := word ≠ [] ∧ ∀ x ∈ word, sep x = false

theorem wordsFrom_append (word a b : List α) {x : α} (hx : sep x = true) :
    wordsFrom sep word (a ++ x :: b) = wordsFrom sep word a ++ words sep b := by
  induction a generalizing word with
  | nil =>
    rw [List.nil_append, wordsFrom.eq_2, if_pos hx]
    rfl
  | cons y a ih =>
    rw [List.cons_append, wordsFrom.eq_2, wordsFrom.eq_2]
    split
    · rw [ih, List.append_assoc]
    · exact ih _

/-- A separator splits the words. -/
theorem words_append (a b : List α) {x : α} (hx : sep x = true) :
    words sep (a ++ x :: b) = words sep a ++ words sep b := wordsFrom_append [] a b hx

theorem wordsFrom_plain (word : List α) {rest : List α} (h : ∀ x ∈ rest, sep x = false) :
    wordsFrom sep word rest = closeWord (word ++ rest) := by
  induction rest generalizing word with
  | nil => rw [wordsFrom, List.append_nil]
  | cons x rest ih =>
    have hx : ¬sep x = true := by simp [h x List.mem_cons_self]
    rw [wordsFrom, if_neg hx, ih _ fun y hy => h y (List.mem_cons_of_mem x hy), List.append_assoc]
    rfl

/-- A word has no other words. -/
theorem words_of_isWord {word : List α} (h : IsWord sep word) : words sep word = [word] := by
  unfold words
  rw [wordsFrom_plain [] h.2, List.nil_append, closeWord, if_neg]
  simpa using h.1

theorem isWord_of_mem_from (word : List α) {rest : List α} (hword : ∀ x ∈ word, sep x = false) :
    ∀ found ∈ wordsFrom sep word rest, IsWord sep found := by
  have hclose {word : List α} (hword : ∀ x ∈ word, sep x = false) : ∀ found ∈ closeWord word, IsWord sep found := by
    intro found hfound
    unfold closeWord at hfound
    split at hfound
    · cases hfound
    · rename_i hne
      cases List.mem_singleton.mp hfound
      exact ⟨by simpa using hne, hword⟩
  induction rest generalizing word with
  | nil => exact hclose hword
  | cons x rest ih =>
    intro found hfound
    rw [wordsFrom] at hfound
    split at hfound
    · obtain hclosed | hlater := List.mem_append.mp hfound
      · exact hclose hword found hclosed
      · exact ih [] (by simp) found hlater
    · rename_i hx
      refine ih _ (fun y hy => ?_) found hfound
      obtain hy | hy := List.mem_append.mp hy
      · exact hword y hy
      · rw [List.mem_singleton.mp hy]
        simpa using hx

theorem mem_of_wordsFrom (word : List α) {rest : List α} {x : α} (hx : x ∈ word ∨ x ∈ rest ∧ sep x = false) :
    ∃ found ∈ wordsFrom sep word rest, x ∈ found := by
  have hclose {word : List α} (h : x ∈ word) : ∃ found ∈ closeWord word, x ∈ found := by
    unfold closeWord
    rw [if_neg (by simpa using List.ne_nil_of_mem h)]
    exact ⟨word, List.mem_singleton_self word, h⟩
  induction rest generalizing word with
  | nil =>
    rcases hx with hx | ⟨hx, -⟩
    · exact hclose hx
    · cases hx
  | cons y rest ih =>
    rw [wordsFrom]
    split
    · rename_i hy
      simp only [List.mem_append]
      rcases hx with hx | ⟨hx, hsep⟩
      · obtain ⟨found, hfound, hin⟩ := hclose hx
        exact ⟨found, .inl hfound, hin⟩
      · rcases List.mem_cons.mp hx with rfl | hx
        · rw [hsep] at hy
          cases hy
        · obtain ⟨found, hfound, hin⟩ := ih [] (.inr ⟨hx, hsep⟩)
          exact ⟨found, .inr hfound, hin⟩
    · apply ih
      rcases hx with hx | ⟨hx, hsep⟩
      · exact .inl (List.mem_append_left _ hx)
      · rcases List.mem_cons.mp hx with rfl | hx
        · exact .inl (List.mem_append_right _ (List.mem_singleton_self x))
        · exact .inr ⟨hx, hsep⟩

/-- What does not separate is in a word. -/
theorem exists_word_of_mem {l : List α} {x : α} (hx : x ∈ l) (hsep : sep x = false) : ∃ word ∈ words sep l, x ∈ word :=
  mem_of_wordsFrom [] (.inr ⟨hx, hsep⟩)

/-- Every word is one. -/
theorem isWord_of_mem {l word : List α} (h : word ∈ words sep l) : IsWord sep word :=
  isWord_of_mem_from [] (by simp) word h

end Words

/-- The characters of the Unicode property `White_Space`. -/
def isWhitespace (c : Char) : Bool :=
  decide (0x09 ≤ c.toNat ∧ c.toNat ≤ 0x0d) || c.toNat == 0x20 || c.toNat == 0x85 || c.toNat == 0xa0 ||
    c.toNat == 0x1680 || decide (0x2000 ≤ c.toNat ∧ c.toNat ≤ 0x200a) || c.toNat == 0x2028 || c.toNat == 0x2029 ||
    c.toNat == 0x202f || c.toNat == 0x205f || c.toNat == 0x3000

/-- The words of a text between whitespace. -/
def splitWhitespace (text : String) : List String := (words isWhitespace text.toList).map String.ofList

/-- Bytes of a text in UTF-8. -/
def byteLength (text : List Char) : Nat := (text.map Char.utf8Size).sum

theorem utf8Size_ascii {c : Char} (h : c.toNat < 128) : c.utf8Size = 1 := by
  rw [Char.utf8Size_eq_one_iff, UInt32.le_iff_toNat_le]
  exact Nat.le_of_lt_succ h

/-! ## Letter case -/

/-- The texts differ at most in the case of ASCII letters. -/
def EqIgnoreAsciiCase (a b : List Char) : Prop := a.map Char.toLower = b.map Char.toLower

instance (a b : List Char) : Decidable (EqIgnoreAsciiCase a b) :=
  inferInstanceAs (Decidable (a.map Char.toLower = b.map Char.toLower))

theorem toLower_of_not_isUpper {c : Char} (h : c.isUpper = false) : c.toLower = c := by
  unfold Char.toLower
  exact dif_neg (by simpa [Char.isUpper] using h)

theorem toNat_toLower {c : Char} (h : c.isUpper = true) : c.toLower.toNat = c.toNat + 32 := by
  simp only [Char.isUpper, decide_eq_true_eq] at h
  have hmax : c.toNat ≤ 90 := by
    simpa [UInt32.le_iff_toNat_le] using h.2
  unfold Char.toLower
  rw [dif_pos h]
  show (c.val + 32).toNat = c.val.toNat + 32
  rw [UInt32.toNat_add]
  apply Nat.mod_eq_of_lt
  show c.toNat + 32 < _
  omega

/-- Texts without capital letters are equal when they differ only in case. -/
theorem eq_of_eqIgnoreAsciiCase {a b : List Char} (ha : ∀ c ∈ a, c.isUpper = false) (hb : ∀ c ∈ b, c.isUpper = false)
    (h : EqIgnoreAsciiCase a b) : a = b := by
  have hlowered {text : List Char} (htext : ∀ c ∈ text, c.isUpper = false) : text.map Char.toLower = text := by
    rw [List.map_congr_left fun c hc => toLower_of_not_isUpper (htext c hc), List.map_id']
  rw [← hlowered ha, ← hlowered hb]
  exact h

/-! ## The last mark -/

/-- The texts before and after the last mark. -/
def rsplitOnce {α : Type} [DecidableEq α] (mark : α) : List α → Option (List α × List α)
  | [] => none
  | x :: rest =>
    match rsplitOnce mark rest with
    | some (before, after) => some (x :: before, after)
    | none => if x = mark then some ([], rest) else none

section LastMark

variable {α : Type} [DecidableEq α] {mark : α}

theorem rsplitOnce_of_notMem {text : List α} (h : mark ∉ text) : rsplitOnce mark text = none := by
  induction text with
  | nil => rfl
  | cons x text ih =>
    rw [List.mem_cons, not_or] at h
    rw [rsplitOnce, ih h.2]
    exact if_neg (Ne.symm h.1)

theorem rsplitOnce_append {before after : List α} (h : mark ∉ after) :
    rsplitOnce mark (before ++ mark :: after) = some (before, after) := by
  induction before with
  | nil =>
    rw [List.nil_append, rsplitOnce, rsplitOnce_of_notMem h]
    exact if_pos rfl
  | cons x before ih => rw [List.cons_append, rsplitOnce, ih]

/-- The mark stands between the two texts. -/
theorem rsplitOnce_eq {text before after : List α} (h : rsplitOnce mark text = some (before, after)) :
    text = before ++ mark :: after := by
  induction text generalizing before with
  | nil => cases h
  | cons x text ih =>
    rw [rsplitOnce] at h
    cases hrest : rsplitOnce mark text with
    | some split =>
      obtain ⟨front, back⟩ := split
      rw [hrest] at h
      cases h
      rw [ih hrest, List.cons_append]
    | none =>
      rw [hrest] at h
      dsimp only at h
      split_ifs at h with hx
      cases h
      rw [hx, List.nil_append]

end LastMark

/-! ## Numbers -/

/-- The unsigned integer of a decimal text with an optional plus sign, if it is at most `limit`. -/
def parseUnsigned (limit : Nat) (text : List Char) : Option Nat :=
  let digits := match text with
    | '+' :: digits => digits
    | digits => digits
  (Json.parseDigits digits).filter (· ≤ limit)

theorem parseUnsigned_of_ne_plus {limit : Nat} {text : List Char} (h : ∀ digits, text ≠ '+' :: digits) :
    parseUnsigned limit text = (Json.parseDigits text).filter (· ≤ limit) := by
  unfold parseUnsigned
  split
  · rename_i digits
    exact absurd rfl (h digits)
  · rfl

theorem parseUnsigned_le {limit value : Nat} {text : List Char} (h : parseUnsigned limit text = some value) :
    value ≤ limit := by
  simp only [parseUnsigned, Option.filter_eq_some_iff, decide_eq_true_eq] at h
  exact h.2

theorem toNat_isDigit {c : Char} (h : c.isDigit = true) : 48 ≤ c.toNat ∧ c.toNat ≤ 57 := by
  simp only [Char.isDigit, Bool.and_eq_true, decide_eq_true_eq, ge_iff_le, UInt32.le_iff_toNat_le] at h
  exact h

/-- A digit is the character of its value. -/
theorem digitChar_isDigit {c : Char} (h : c.isDigit = true) : Nat.digitChar (c.toNat - 48) = c := by
  obtain ⟨hmin, hmax⟩ := toNat_isDigit h
  have hall : ∀ n : Fin 10, (Nat.digitChar n).toNat = n + 48 := by decide
  have hvalue : (Nat.digitChar (c.toNat - 48)).toNat = c.toNat - 48 + 48 := hall ⟨c.toNat - 48, by omega⟩
  rw [← Char.toNat_inj, hvalue]
  omega

theorem ofDigitChars_cons (c : Char) (digits : List Char) (value : Nat) :
    Nat.ofDigitChars 10 (c :: digits) value = Nat.ofDigitChars 10 digits (10 * value + (c.toNat - 48)) :=
  Nat.ofDigitChars_cons

/-- Digits after a positive number continue its decimal text. -/
theorem toDigits_ofDigitChars_pos {digits : List Char} (h : ∀ c ∈ digits, c.isDigit = true) {value : Nat}
    (hpos : 0 < value) : Nat.toDigits 10 (Nat.ofDigitChars 10 digits value) = Nat.toDigits 10 value ++ digits := by
  induction digits generalizing value with
  | nil => rw [Nat.ofDigitChars_nil, List.append_nil]
  | cons c digits ih =>
    have hc := h c List.mem_cons_self
    obtain ⟨hmin, hmax⟩ := toNat_isDigit hc
    have hlast : Nat.toDigits 10 (c.toNat - 48) = [c] := by
      rw [Nat.toDigits_of_lt_base (by omega), digitChar_isDigit hc]
    have hstep : Nat.toDigits 10 (10 * value + (c.toNat - 48)) = Nat.toDigits 10 value ++ [c] := by
      rw [← Nat.toDigits_append_toDigits (by decide) hpos (by omega), hlast]
    rw [ofDigitChars_cons, ih (fun d hd => h d (List.mem_cons_of_mem c hd)) (by omega), hstep, List.append_assoc]
    rfl

/-- Digits without a leading zero are the decimal text of their value. -/
theorem toDigits_ofDigitChars {c : Char} {digits : List Char} (h : ∀ d ∈ c :: digits, d.isDigit = true)
    (hc : c ≠ '0' ∨ digits = []) : Nat.toDigits 10 (Nat.ofDigitChars 10 (c :: digits) 0) = c :: digits := by
  have hdigit := h c List.mem_cons_self
  obtain ⟨hmin, hmax⟩ := toNat_isDigit hdigit
  have hfirst : Nat.toDigits 10 (c.toNat - 48) = [c] := by
    rw [Nat.toDigits_of_lt_base (by omega), digitChar_isDigit hdigit]
  rw [ofDigitChars_cons, Nat.mul_zero, Nat.zero_add]
  obtain hnonzero | rfl := hc
  · have hpos : 0 < c.toNat - 48 := by
      have hne : c.toNat ≠ '0'.toNat := fun heq => hnonzero (Char.toNat_inj.mp heq)
      have hzero : '0'.toNat = 48 := rfl
      omega
    rw [toDigits_ofDigitChars_pos (fun d hd => h d (List.mem_cons_of_mem c hd)) hpos, hfirst]
    rfl
  · rw [Nat.ofDigitChars_nil, hfirst]

/-- A positive number has no leading zero. -/
theorem head_toDigits {value : Nat} (hpos : 0 < value) : (Nat.toDigits 10 value).head? ≠ some '0' := by
  induction value using Nat.strong_induction_on with
  | _ value ih =>
    by_cases hsmall : value < 10
    · have hall : ∀ n : Fin 10, 0 < n → [Nat.digitChar n].head? ≠ some '0' := by decide
      rw [Nat.toDigits_of_lt_base hsmall]
      exact hall ⟨value, hsmall⟩ hpos
    · have hlarge : 10 ≤ value := Nat.le_of_not_lt hsmall
      rw [Nat.toDigits_of_base_le (by decide) hlarge, List.head?_append_of_ne_nil _ Nat.toDigits_ne_nil]
      exact ih (value / 10) (by omega) (by omega)

/-- The decimal text of a number reads back. -/
theorem parseUnsigned_toDigits {limit value : Nat} (h : value ≤ limit) :
    parseUnsigned limit (Nat.toDigits 10 value) = some value := by
  rw [parseUnsigned_of_ne_plus, Json.parseDigits_toDigits]
  · simp [h]
  · intro digits hplus
    have hdigit : '+'.isDigit = true := by
      apply Nat.isDigit_of_mem_toDigits (by decide) (Nat.le_refl 10)
      rw [hplus]
      exact List.mem_cons_self
    cases hdigit

/-- A text that reads as a positive number is its decimal text if it has no sign and no leading zero. -/
theorem toDigits_parseUnsigned {limit value : Nat} {text : List Char} (h : parseUnsigned limit text = some value)
    (hpos : 0 < value) :
    Nat.toDigits 10 value = text ↔ text.head? ≠ some '+' ∧ text.head? ≠ some '0' := by
  constructor
  · rintro rfl
    refine ⟨fun hplus => ?_, head_toDigits hpos⟩
    have hdigit : '+'.isDigit = true :=
      Nat.isDigit_of_mem_toDigits (by decide) (Nat.le_refl 10) (List.mem_of_mem_head? hplus)
    cases hdigit
  · rintro ⟨hplus, hzero⟩
    rw [parseUnsigned_of_ne_plus, Option.filter_eq_some_iff, Json.parseDigits] at h
    · obtain ⟨hdigits, -⟩ := h
      split_ifs at hdigits with hall
      cases hdigits
      cases text with
      | nil => exact absurd rfl hall.1
      | cons c digits =>
        have hc : c ≠ '0' := fun hc => hzero (congrArg some hc)
        exact toDigits_ofDigitChars (List.all_eq_true.mp hall.2) (.inl hc)
    · rintro digits rfl
      exact hplus rfl

end Slotpilot.Lib
