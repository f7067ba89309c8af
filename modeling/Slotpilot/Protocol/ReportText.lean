import Slotpilot.Protocol.OfflineAdapter

/-!
# Normalized reports

`normalizeStandardReport` pads a third word `[R](+|-)d` to two digits and builds the text from the first three words, so
the words after a padded one are lost (`DropsWords`). Every other text keeps its words (`normalize_preserves`), and a
normalized text always stays as it is.
-/

set_option autoImplicit false

namespace Slotpilot.Protocol

open Lib

/-! ## Short reports -/

/-- The padded form of a sign and a digit. -/
def signedDigit : List Char → Option (List Char)
  | [sign, digit] => if (sign = '+' ∨ sign = '-') ∧ digit.isDigit = true then some [sign, '0', digit] else none
  | _ => none

/-- The padded form of a report of one digit. -/
def shortReport : List Char → Option (List Char)
  | 'R' :: numeric => (signedDigit numeric).map ('R' :: ·)
  | numeric => signedDigit numeric

/-- A word with its report padded. -/
def padReport (word : String) : String := ((shortReport word.toList).map String.ofList).getD word

/-- The words of a text with the third one padded. -/
def paddedWords : List String → List String
  | first :: second :: third :: rest => first :: second :: padReport third :: rest
  | words => words

/-- Normalizing again changes nothing, and no word changes but for the padding of the third. -/
def PreservesWords (text : String) : Prop :=
  normalizeStandardReport (normalizeStandardReport text) = normalizeStandardReport text ∧
    splitWhitespace (normalizeStandardReport text) = paddedWords (splitWhitespace text)

/-- The text has more than three words, and the third is a short report. -/
def DropsWords (text : String) : Prop :=
  ∃ first second third fourth rest,
    splitWhitespace text = first :: second :: third :: fourth :: rest ∧ (shortReport third.toList).isSome = true

/-! ## What the normalization does -/

/-- One character is a number exactly when it is a digit. -/
theorem parseUnsigned_single (c : Char) :
    parseUnsigned 255 [c] = if c.isDigit = true then some (c.toNat - 48) else none := by
  by_cases hplus : c = '+'
  · subst hplus
    rfl
  · rw [parseUnsigned_of_ne_plus (by simp [hplus]), Json.parseDigits]
    by_cases hdigit : c.isDigit = true
    · obtain ⟨hmin, hmax⟩ := toNat_isDigit hdigit
      have hvalue : Nat.ofDigitChars 10 [c] 0 = c.toNat - 48 := by
        rw [ofDigitChars_cons, Nat.ofDigitChars_nil, Nat.mul_zero, Nat.zero_add]
      have hsmall : c.toNat - 48 ≤ 255 := by omega
      rw [if_pos (by simpa using hdigit), if_pos hdigit, hvalue]
      simp [hsmall]
    · rw [if_neg (by simp [hdigit]), if_neg hdigit]
      rfl

/-- The number in one byte of text is a digit; it is padded after the characters before it. -/
theorem padded_digit (before digits : List Char) :
    (if byteLength digits ≥ 2 then none
      else (parseUnsigned 255 digits).bind fun value =>
        some (String.ofList (before ++ (Nat.toDigits 10 value).leftpad 2 '0'))) =
      match digits with
      | [digit] => if digit.isDigit = true then some (String.ofList (before ++ ['0', digit])) else none
      | _ => none := by
  match digits with
  | [] => rfl
  | c :: d :: rest =>
    have hlong : byteLength (c :: d :: rest) ≥ 2 := by
      have hc := c.utf8Size_pos
      have hd := d.utf8Size_pos
      simp only [byteLength, List.map_cons, List.sum_cons]
      omega
    rw [if_pos hlong]
  | [c] =>
    rw [parseUnsigned_single]
    by_cases hdigit : c.isDigit = true
    · obtain ⟨hmin, hmax⟩ := toNat_isDigit hdigit
      have hsize : ¬byteLength [c] ≥ 2 := by
        have hone : c.utf8Size = 1 := utf8Size_ascii (by omega)
        simp [byteLength, hone]
      have hpad : (Nat.toDigits 10 (c.toNat - 48)).leftpad 2 '0' = ['0', c] := by
        rw [Nat.toDigits_of_lt_base (by omega), digitChar_isDigit hdigit]
        rfl
      rw [if_neg hsize, if_pos hdigit, Option.bind_some, hpad]
      exact (if_pos hdigit).symm
    · rw [if_neg hdigit, Option.bind_none, ite_self]
      exact (if_neg hdigit).symm

/-- A sign and a digit are padded, with the optional roger before them. -/
theorem padded_signed (roger numeric : List Char) :
    (do
      let (sign, digits) ← splitFirst numeric
      if ¬(sign = '+' ∨ sign = '-') ∨ byteLength digits ≥ 2 then none
      else
        let value ← parseUnsigned 255 digits
        some (String.ofList (roger ++ [sign] ++ (Nat.toDigits 10 value).leftpad 2 '0'))) =
      (signedDigit numeric).map fun padded => String.ofList (roger ++ padded) := by
  match numeric with
  | [] => rfl
  | sign :: digits =>
    by_cases hsign : sign = '+' ∨ sign = '-'
    · have hsplit : splitFirst (sign :: digits) = some (sign, digits) := by
        rcases hsign with rfl | rfl
        · rfl
        · rfl
      rw [hsplit]
      show (if ¬(sign = '+' ∨ sign = '-') ∨ byteLength digits ≥ 2 then none
        else (parseUnsigned 255 digits).bind fun value =>
          some (String.ofList (roger ++ [sign] ++ (Nat.toDigits 10 value).leftpad 2 '0'))) = _
      simp only [hsign, not_true_eq_false, false_or]
      rw [padded_digit]
      match digits with
      | [] => rfl
      | [digit] =>
        by_cases hdigit : digit.isDigit = true
        · simp [signedDigit, hsign, hdigit]
        · simp [signedDigit, hdigit]
      | _ :: _ :: _ => rfl
    · have hunsigned : signedDigit (sign :: digits) = none := by
        match digits with
        | [] => rfl
        | [digit] => exact if_neg fun h => hsign h.1
        | _ :: _ :: _ => rfl
      rw [hunsigned, splitFirst]
      split
      · exact if_pos (.inl hsign)
      · rfl

/-- The normalization pads exactly the short reports. -/
theorem normalizedPayload_eq (payload : String) :
    normalizedPayload payload = (shortReport payload.toList).map String.ofList := by
  unfold normalizedPayload
  by_cases hroger : ∃ numeric, payload.toList = 'R' :: numeric
  · obtain ⟨numeric, hpayload⟩ := hroger
    rw [hpayload, shortReport, Option.map_map]
    exact padded_signed ['R'] numeric
  · have hplain (numeric : List Char) (h : payload.toList = 'R' :: numeric) : False := hroger ⟨numeric, h⟩
    rw [shortReport.eq_2 _ hplain]
    split
    rename_i roger numeric heq
    split at heq
    · rename_i rest hpayload
      exact absurd hpayload (hplain rest)
    · cases heq
      exact padded_signed [] payload.toList

/-! ## Words of a normalized text -/

theorem splitWhitespace_three {first second third : String} (hfirst : IsWord isWhitespace first.toList)
    (hsecond : IsWord isWhitespace second.toList) (hthird : IsWord isWhitespace third.toList) :
    splitWhitespace (first ++ " " ++ second ++ " " ++ third) = [first, second, third] := by
  have hspace : isWhitespace ' ' = true := by decide
  have htext : (first ++ " " ++ second ++ " " ++ third).toList =
      first.toList ++ ' ' :: (second.toList ++ ' ' :: third.toList) := by
    simp
  unfold splitWhitespace
  rw [htext, words_append _ _ hspace, words_append _ _ hspace, words_of_isWord hfirst, words_of_isWord hsecond,
    words_of_isWord hthird]
  simp

theorem isWord_of_mem_splitWhitespace {text word : String} (h : word ∈ splitWhitespace text) :
    IsWord isWhitespace word.toList := by
  obtain ⟨chars, hchars, rfl⟩ := List.mem_map.mp h
  rw [String.toList_ofList]
  exact isWord_of_mem hchars

/-- A padded report is a word and is not padded again. -/
theorem signedDigit_padded {numeric padded : List Char} (h : signedDigit numeric = some padded) :
    IsWord isWhitespace padded ∧ signedDigit padded = none ∧ ∀ rest, padded ≠ 'R' :: rest := by
  unfold signedDigit at h
  split at h
  · rename_i sign digit
    split at h
    · rename_i hreport
      cases h
      obtain ⟨hsign, hdigit⟩ := hreport
      obtain ⟨hmin, hmax⟩ := toNat_isDigit hdigit
      have hplain : isWhitespace digit = false := by
        simp [isWhitespace]
        omega
      have hzero : isWhitespace '0' = false := by decide
      rcases hsign with rfl | rfl
      · have hplus : isWhitespace '+' = false := by decide
        refine ⟨⟨by simp, ?_⟩, rfl, by simp⟩
        simp [hplus, hzero, hplain]
      · have hminus : isWhitespace '-' = false := by decide
        refine ⟨⟨by simp, ?_⟩, rfl, by simp⟩
        simp [hminus, hzero, hplain]
    · cases h
  · cases h

theorem shortReport_padded {payload padded : List Char} (h : shortReport payload = some padded) :
    IsWord isWhitespace padded ∧ shortReport padded = none := by
  unfold shortReport at h
  split at h
  · rename_i numeric
    obtain ⟨inner, hinner, rfl⟩ := Option.map_eq_some_iff.mp h
    obtain ⟨⟨hne, hplain⟩, hnone, -⟩ := signedDigit_padded hinner
    have hroger : isWhitespace 'R' = false := by decide
    refine ⟨⟨by simp, ?_⟩, by rw [shortReport, hnone]; rfl⟩
    rw [List.forall_mem_cons]
    exact ⟨hroger, hplain⟩
  · obtain ⟨hword, hnone, hplain⟩ := signedDigit_padded h
    exact ⟨hword, (shortReport.eq_2 _ hplain).trans hnone⟩

/-! ## Runs of the normalization -/

/-- A text whose third word is no short report stays as it is. -/
theorem normalize_of_none {text : String}
    (h : ∀ first second third rest, splitWhitespace text = first :: second :: third :: rest →
      shortReport third.toList = none) :
    normalizeStandardReport text = text ∧ paddedWords (splitWhitespace text) = splitWhitespace text := by
  unfold normalizeStandardReport
  split
  · rename_i first second third rest hwords
    have hnone := h first second third rest hwords
    rw [normalizedPayload_eq, hnone, hwords, paddedWords, padReport, hnone]
    exact ⟨rfl, rfl⟩
  · rename_i hshort
    refine ⟨rfl, ?_⟩
    unfold paddedWords
    split
    · rename_i first second third rest hwords
      exact absurd hwords (hshort first second third rest)
    · rfl

/-- A text with a short report becomes three words with the padded one. -/
theorem normalize_of_some {text first second third : String} {rest : List String} {padded : List Char}
    (hwords : splitWhitespace text = first :: second :: third :: rest) (h : shortReport third.toList = some padded) :
    splitWhitespace (normalizeStandardReport text) = [first, second, String.ofList padded] := by
  obtain ⟨hpadded, -⟩ := shortReport_padded h
  have hword (word : String) (hmem : word ∈ first :: second :: third :: rest) : IsWord isWhitespace word.toList :=
    isWord_of_mem_splitWhitespace (hwords ▸ hmem)
  unfold normalizeStandardReport
  rw [hwords]
  dsimp only
  rw [normalizedPayload_eq, h]
  exact splitWhitespace_three (hword first (by simp)) (hword second (by simp)) (by rwa [String.toList_ofList])

/-- The third word of a text is a short report, or the text stays as it is. -/
theorem normalize_cases (text : String) :
    (∃ first second third rest padded,
      splitWhitespace text = first :: second :: third :: rest ∧ shortReport third.toList = some padded) ∨
    normalizeStandardReport text = text ∧ paddedWords (splitWhitespace text) = splitWhitespace text := by
  by_cases hshort : ∃ first second third rest padded,
      splitWhitespace text = first :: second :: third :: rest ∧ shortReport third.toList = some padded
  · exact .inl hshort
  · refine .inr (normalize_of_none fun first second third rest hwords => ?_)
    rw [← Option.not_isSome_iff_eq_none, Option.isSome_iff_exists]
    rintro ⟨padded, hpadded⟩
    exact hshort ⟨first, second, third, rest, padded, hwords, hpadded⟩

/-- A normalized text stays as it is. -/
theorem normalize_idempotent (text : String) :
    normalizeStandardReport (normalizeStandardReport text) = normalizeStandardReport text := by
  obtain ⟨first, second, third, rest, padded, hwords, hpadded⟩ | ⟨hsame, -⟩ := normalize_cases text
  · have hnormal := normalize_of_some hwords hpadded
    refine (normalize_of_none fun a b c others hothers => ?_).1
    rw [hnormal] at hothers
    cases hothers
    rw [String.toList_ofList]
    exact (shortReport_padded hpadded).2
  · rw [hsame, hsame]

/-- **Normalization keeps the words** of a text and is idempotent on it, unless words follow a padded report. -/
theorem normalize_preserves (text : String) : PreservesWords text ↔ ¬DropsWords text := by
  constructor
  · rintro ⟨-, hkept⟩ ⟨first, second, third, fourth, rest, hwords, hshort⟩
    obtain ⟨padded, hpadded⟩ := Option.isSome_iff_exists.mp hshort
    have hlengths := congrArg List.length hkept
    rw [normalize_of_some hwords hpadded, hwords, paddedWords] at hlengths
    simp at hlengths
  · intro hkeeps
    refine ⟨normalize_idempotent text, ?_⟩
    obtain ⟨first, second, third, rest, padded, hwords, hpadded⟩ | ⟨hsame, hunpadded⟩ := normalize_cases text
    · have hlast : rest = [] := by
        cases rest with
        | nil => rfl
        | cons fourth rest =>
          exact absurd ⟨first, second, third, fourth, rest, hwords, by rw [hpadded]; rfl⟩ hkeeps
      rw [normalize_of_some hwords hpadded, hwords, hlast, paddedWords, padReport, hpadded]
      rfl
    · rw [hsame, hunpadded]

/-- A word after a short report is lost. -/
theorem normalize_drops : ¬∀ text, PreservesWords text := by
  intro h
  exact (normalize_preserves "K1ABC W9XYZ +5 TEST").mp (h _) ⟨"K1ABC", "W9XYZ", "+5", "TEST", [], by decide, by decide⟩

end Slotpilot.Protocol
