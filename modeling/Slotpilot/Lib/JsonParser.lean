import Slotpilot.Lib.Json

/-!
# Reading compact JSON text

A reader of JSON text without white space. `parse_text`: it reads the compact text of a value back as that value.
-/

set_option autoImplicit false

namespace Slotpilot.Lib.Json

/-! ## Strings -/

def hexValue (c : Char) : Option Nat :=
  if '0' ≤ c ∧ c ≤ '9' then some (c.toNat - 48)
  else if 'a' ≤ c ∧ c ≤ 'f' then some (c.toNat - 87)
  else none

/-- The character that a letter stands for after a backslash. -/
def longEscape (letter : Char) : Option Char :=
  if letter = '"' then some '"'
  else if letter = '\\' then some '\\'
  else if letter = 'b' then some (Char.ofNat 8)
  else if letter = 't' then some (Char.ofNat 9)
  else if letter = 'n' then some (Char.ofNat 10)
  else if letter = 'f' then some (Char.ofNat 12)
  else if letter = 'r' then some (Char.ofNat 13)
  else none

/-- The characters of a string up to its closing quote, and the rest of the text. -/
def parseBody : List Char → Option (List Char × List Char)
  | [] => none
  | '"' :: rest => some ([], rest)
  | '\\' :: 'u' :: '0' :: '0' :: high :: low :: rest =>
    match hexValue high, hexValue low with
    | some high, some low => (parseBody rest).map fun p => (Char.ofNat (16 * high + low) :: p.1, p.2)
    | _, _ => none
  | '\\' :: letter :: rest =>
    match longEscape letter with
    | some c => (parseBody rest).map fun p => (c :: p.1, p.2)
    | none => none
  | c :: rest => (parseBody rest).map fun p => (c :: p.1, p.2)

theorem hexValue_hexDigit : ∀ n < 16, hexValue (hexDigit n) = some n := by decide

theorem longEscape_shortEscape {c letter : Char} (h : shortEscape c = some letter) : longEscape letter = some c := by
  have hchar : ∀ n, c.toNat = n → c = Char.ofNat n := fun n hn => by rw [← hn, Char.ofNat_toNat]
  unfold shortEscape at h
  split_ifs at h with h1 h2 h3 h4 h5 h6 h7 <;> cases h
  · rw [h1]; decide
  · rw [h2]; decide
  · rw [hchar _ h3]; decide
  · rw [hchar _ h4]; decide
  · rw [hchar _ h5]; decide
  · rw [hchar _ h6]; decide
  · rw [hchar _ h7]; decide

/-- A letter after a backslash is read as the character it stands for. -/
theorem parseBody_letter {letter c : Char} {rest : List Char} (h : longEscape letter = some c) :
    parseBody ('\\' :: letter :: rest) = (parseBody rest).map fun p => (c :: p.1, p.2) := by
  have hne : letter ≠ 'u' := by
    rintro rfl
    cases h
  rw [parseBody, h]
  exact fun _ _ _ hu => absurd hu hne

/-- An escaped character is read back. -/
theorem parseBody_escape (c : Char) (rest : List Char) :
    parseBody (escape c ++ rest) = (parseBody rest).map fun p => (c :: p.1, p.2) := by
  unfold escape
  cases hshort : shortEscape c with
  | some letter => exact parseBody_letter (longEscape_shortEscape hshort)
  | none =>
    show parseBody ((if c.toNat < 32 then _ else [c]) ++ rest) = _
    split
    · have hhigh := hexValue_hexDigit (c.toNat / 16) (by omega)
      have hlow := hexValue_hexDigit (c.toNat % 16) (by omega)
      have hc : Char.ofNat (16 * (c.toNat / 16) + c.toNat % 16) = c := by
        rw [Nat.div_add_mod, Char.ofNat_toNat]
      show parseBody ('\\' :: 'u' :: '0' :: '0' :: _ :: _ :: rest) = _
      rw [parseBody, hhigh, hlow]
      simp only [hc]
    · have hquote : c ≠ '"' := by
        rintro rfl
        exact absurd hshort (by decide)
      have hslash : c ≠ '\\' := by
        rintro rfl
        exact absurd hshort (by decide)
      show parseBody (c :: rest) = _
      rw [parseBody]
      · exact fun h => absurd h hquote
      · exact fun _ _ _ h => absurd h hslash
      · exact fun _ _ h => absurd h hslash

theorem parseBody_flatMap (l rest : List Char) : parseBody (l.flatMap escape ++ '"' :: rest) = some (l, rest) := by
  induction l with
  | nil => rw [List.flatMap_nil, List.nil_append, parseBody]
  | cons c l ih =>
    rw [List.flatMap_cons, List.append_assoc, parseBody_escape, ih]
    rfl

/-! ## Numbers -/

/-- A character of the literal of a number. -/
def isNumeric (c : Char) : Bool := c.isDigit || c ∈ ['-', '+', '.', 'e', 'E']

def parseDigits (digits : List Char) : Option Nat :=
  if digits ≠ [] ∧ digits.all Char.isDigit = true then some (Nat.ofDigitChars 10 digits 0) else none

def parseInt : List Char → Option Int
  | '-' :: digits => (parseDigits digits).map fun n : Nat => -(n : Int)
  | digits => (parseDigits digits).map Int.ofNat

/-- The number with a literal. -/
def parseNumber (literal : List Char) : Option Json :=
  if h : literal.all isNumeric = true ∧ literal.any (fun c => c ∈ ['.', 'e', 'E']) = true then
    some (.decimal ⟨literal, h.1, h.2⟩)
  else (parseInt literal).map .int

theorem parseDigits_toDigits (n : Nat) : parseDigits (Nat.toDigits 10 n) = some n := by
  have hdigits : (Nat.toDigits 10 n).all Char.isDigit = true :=
    List.all_eq_true.mpr fun c hc => Nat.isDigit_of_mem_toDigits (by decide) (Nat.le_refl _) hc
  rw [parseDigits, if_pos ⟨Nat.toDigits_ne_nil, hdigits⟩, Nat.ofDigitChars_ten_toDigits]

theorem isNumeric_of_isDigit {c : Char} (h : c.isDigit = true) : isNumeric c = true := by simp [isNumeric, h]

theorem not_fractional_of_isDigit {c : Char} (h : c.isDigit = true) : c ∉ ['.', 'e', 'E'] := by
  intro hmem
  simp only [List.mem_cons, List.not_mem_nil, or_false] at hmem
  rcases hmem with rfl | rfl | rfl <;> cases h

theorem parseInt_printInt (value : Int) : parseInt (printInt value) = some value := by
  unfold printInt
  split
  · rename_i hnegative
    have hvalue : -(value.natAbs : Int) = value := by omega
    rw [parseInt, parseDigits_toDigits, Option.map_some, hvalue]
  · rename_i hnonneg
    have hvalue : Int.ofNat value.natAbs = value := by
      show (value.natAbs : Int) = value
      omega
    rw [parseInt, parseDigits_toDigits, Option.map_some, hvalue]
    intro digits hdigits
    have hminus : Char.isDigit '-' = true := by
      refine Nat.isDigit_of_mem_toDigits (b := 10) (n := value.natAbs) (by decide) (Nat.le_refl _) ?_
      rw [hdigits]
      exact List.mem_cons_self
    cases hminus

/-- The literal of an integer has digits and a sign only. -/
theorem mem_printInt {value : Int} {c : Char} (h : c ∈ printInt value) : c = '-' ∨ c.isDigit = true := by
  have hdigit : ∀ c ∈ Nat.toDigits 10 value.natAbs, c.isDigit = true := fun c hc =>
    Nat.isDigit_of_mem_toDigits (by decide) (Nat.le_refl _) hc
  unfold printInt at h
  split at h
  · exact (List.mem_cons.mp h).imp id (hdigit c)
  · exact .inr (hdigit c h)

theorem parseNumber_printInt (value : Int) : parseNumber (printInt value) = some (.int value) := by
  have hnot : ¬((printInt value).all isNumeric = true ∧ (printInt value).any (fun c => c ∈ ['.', 'e', 'E']) = true) := by
    rintro ⟨-, hany⟩
    obtain ⟨c, hc, hfractional⟩ := List.any_eq_true.mp hany
    rcases mem_printInt hc with rfl | hdigit
    · cases hfractional
    · exact not_fractional_of_isDigit hdigit (of_decide_eq_true hfractional)
  rw [parseNumber, dif_neg hnot, parseInt_printInt, Option.map_some]

theorem parseNumber_decimal (value : Decimal) : parseNumber value.literal = some (.decimal value) := by
  rw [parseNumber, dif_pos ⟨value.numeric, value.fractional⟩]

/-! ## Values -/

mutual

/-- A value at the start of a text, with the rest. -/
def parseValue : Nat → List Char → Option (Json × List Char)
  | 0, _ => none
  | fuel + 1, input =>
    match input with
    | 'n' :: 'u' :: 'l' :: 'l' :: rest => some (.null, rest)
    | 't' :: 'r' :: 'u' :: 'e' :: rest => some (.bool true, rest)
    | 'f' :: 'a' :: 'l' :: 's' :: 'e' :: rest => some (.bool false, rest)
    | '"' :: rest => (parseBody rest).map fun p => (.string (String.ofList p.1), p.2)
    | '[' :: ']' :: rest => some (.array [], rest)
    | '[' :: rest =>
      match parseValue fuel rest with
      | some (element, rest) => (parseElements fuel rest).map fun p => (.array (element :: p.1), p.2)
      | none => none
    | '{' :: '}' :: rest => some (.object [], rest)
    | '{' :: '"' :: rest =>
      match parseBody rest with
      | some (key, ':' :: rest) =>
        match parseValue fuel rest with
        | some (value, rest) =>
          (parseMembers fuel rest).map fun p => (.object ((String.ofList key, value) :: p.1), p.2)
        | none => none
      | _ => none
    | _ => (parseNumber (input.takeWhile isNumeric)).map fun value => (value, input.dropWhile isNumeric)

/-- The elements after the first. -/
def parseElements : Nat → List Char → Option (List Json × List Char)
  | 0, _ => none
  | fuel + 1, input =>
    match input with
    | ']' :: rest => some ([], rest)
    | ',' :: rest =>
      match parseValue fuel rest with
      | some (element, rest) => (parseElements fuel rest).map fun p => (element :: p.1, p.2)
      | none => none
    | _ => none

/-- The members after the first. -/
def parseMembers : Nat → List Char → Option (List (String × Json) × List Char)
  | 0, _ => none
  | fuel + 1, input =>
    match input with
    | '}' :: rest => some ([], rest)
    | ',' :: '"' :: rest =>
      match parseBody rest with
      | some (key, ':' :: rest) =>
        match parseValue fuel rest with
        | some (value, rest) => (parseMembers fuel rest).map fun p => ((String.ofList key, value) :: p.1, p.2)
        | none => none
      | _ => none
    | _ => none

end

/-- The value with a text. -/
def parse (input : String) : Option Json :=
  match parseValue (input.toList.length + 1) input.toList with
  | some (value, []) => some value
  | _ => none

/-! ## The text of a value is read back -/

/-- The text after a value: it does not continue a number. -/
def Ends (rest : List Char) : Prop := ∀ c, rest.head? = some c → isNumeric c = false

theorem takeWhile_numeric {literal rest : List Char} (hl : literal.all isNumeric = true) (hr : Ends rest) :
    (literal ++ rest).takeWhile isNumeric = literal ∧ (literal ++ rest).dropWhile isNumeric = rest := by
  have hall : ∀ c ∈ literal, isNumeric c = true := List.all_eq_true.mp hl
  rw [List.takeWhile_append_of_pos hall, List.dropWhile_append_of_pos hall]
  cases rest with
  | nil => simp
  | cons c rest => simp [hr c rfl]

/-- A text that starts with a character of a number is read as a number. -/
theorem parseValue_numeric {fuel : Nat} {literal rest : List Char} {value : Json} (hl : literal.all isNumeric = true)
    (hr : Ends rest) (hvalue : parseNumber literal = some value) :
    parseValue (fuel + 1) (literal ++ rest) = some (value, rest) := by
  have hne : literal ≠ [] := by
    rintro rfl
    cases hvalue
  obtain ⟨htake, hdrop⟩ := takeWhile_numeric hl hr
  obtain ⟨c, l, rfl⟩ := List.exists_cons_of_ne_nil hne
  have hc : isNumeric c = true := List.all_eq_true.mp hl c List.mem_cons_self
  rw [List.cons_append] at htake hdrop ⊢
  rw [parseValue, htake, hdrop, hvalue]
  · rfl
  all_goals
    intro tail heq
    rw [(List.cons.inj heq).1] at hc
    cases hc

theorem printInt_numeric (value : Int) : (printInt value).all isNumeric = true := by
  refine List.all_eq_true.mpr fun c hc => ?_
  rcases mem_printInt hc with rfl | hdigit
  · rfl
  · exact isNumeric_of_isDigit hdigit

theorem parseBody_string (value : String) (rest : List Char) :
    parseBody ((value.toList.flatMap escape ++ ['"']) ++ rest) = some (value.toList, rest) := by
  rw [List.append_assoc]
  exact parseBody_flatMap _ _

/-- No value starts with the end of an array. -/
theorem print_head (value : Json) : ∃ c rest, value.print = c :: rest ∧ c ≠ ']' := by
  have hnumeric : ∀ literal : List Char, literal.all isNumeric = true → literal ≠ [] →
      ∃ c rest, literal = c :: rest ∧ c ≠ ']' := by
    intro literal hall hne
    obtain ⟨c, l, rfl⟩ := List.exists_cons_of_ne_nil hne
    refine ⟨c, l, rfl, ?_⟩
    rintro rfl
    exact absurd (List.all_eq_true.mp hall ']' List.mem_cons_self) (by decide)
  cases value with
  | null => exact ⟨_, _, by rw [print], by decide⟩
  | bool b => cases b <;> exact ⟨_, _, by rw [print], by decide⟩
  | int i =>
    rw [print]
    refine hnumeric _ (printInt_numeric i) fun hnil => ?_
    have h := parseInt_printInt i
    rw [hnil] at h
    cases h
  | decimal d =>
    rw [print]
    refine hnumeric _ d.numeric fun hnil => ?_
    have h := d.fractional
    rw [hnil] at h
    cases h
  | string s => exact ⟨_, _, by rw [print, printString], by decide⟩
  | array elements => cases elements <;> exact ⟨_, _, by rw [print], by decide⟩
  | object members =>
    cases members with
    | nil => exact ⟨_, _, by rw [print], by decide⟩
    | cons member members =>
      obtain ⟨key, value⟩ := member
      exact ⟨_, _, by rw [print], by decide⟩

theorem ends_elements (elements : List Json) (rest : List Char) : Ends (printElements elements ++ rest) := by
  intro c hc
  cases elements <;> rw [printElements] at hc <;> cases hc <;> rfl

theorem ends_members (members : List (String × Json)) (rest : List Char) : Ends (printMembers members ++ rest) := by
  intro c hc
  cases members with
  | nil => rw [printMembers] at hc; cases hc; rfl
  | cons member members =>
    obtain ⟨key, value⟩ := member
    rw [printMembers] at hc
    cases hc
    rfl

mutual

theorem parseValue_print : ∀ (value : Json) (fuel : Nat) (rest : List Char), value.print.length < fuel → Ends rest →
    parseValue fuel (value.print ++ rest) = some (value, rest)
  | _, 0, _, h, _ => absurd h (Nat.not_lt_zero _)
  | .null, fuel + 1, rest, _, _ => by rw [print]; rfl
  | .bool true, fuel + 1, rest, _, _ => by rw [print]; rfl
  | .bool false, fuel + 1, rest, _, _ => by rw [print]; rfl
  | .int value, fuel + 1, rest, _, hr => by
    rw [print]
    exact parseValue_numeric (printInt_numeric value) hr (parseNumber_printInt value)
  | .decimal value, fuel + 1, rest, _, hr => by
    rw [print]
    exact parseValue_numeric value.numeric hr (parseNumber_decimal value)
  | .string value, fuel + 1, rest, _, _ => by
    rw [print, printString, List.cons_append, parseValue, parseBody_string]
    simp
  | .array [], fuel + 1, rest, _, _ => by rw [print]; rfl
  | .array (element :: elements), fuel + 1, rest, h, _ => by
    rw [print] at h ⊢
    have hlength : element.print.length + (printElements elements).length < fuel := by
      simpa using h
    have hvalue := parseValue_print element fuel (printElements elements ++ rest) (by omega) (ends_elements _ _)
    have helements := parseElements_print elements fuel rest (by omega)
    obtain ⟨c, l, hprint, hc⟩ := print_head element
    rw [List.cons_append, List.append_assoc]
    rw [hprint, List.cons_append] at hvalue ⊢
    rw [parseValue, hvalue]
    · simp [helements]
    · exact fun _ heq => hc (List.cons.inj heq).1
  | .object [], fuel + 1, rest, _, _ => by rw [print]; rfl
  | .object ((key, value) :: members), fuel + 1, rest, h, _ => by
    rw [print] at h ⊢
    have hlength : value.print.length + (printMembers members).length < fuel := by
      simp only [List.length_cons, List.length_append] at h
      omega
    have hvalue := parseValue_print value fuel (printMembers members ++ rest) (by omega) (ends_members _ _)
    have hmembers := parseMembers_print members fuel rest (by omega)
    have hkey := parseBody_string key (':' :: (value.print ++ (printMembers members ++ rest)))
    rw [printString]
    simp only [List.cons_append, List.append_assoc] at hkey ⊢
    rw [parseValue, hkey]
    simp [hvalue, hmembers]

theorem parseElements_print : ∀ (elements : List Json) (fuel : Nat) (rest : List Char),
    (printElements elements).length < fuel →
    parseElements fuel (printElements elements ++ rest) = some (elements, rest)
  | _, 0, _, h => absurd h (Nat.not_lt_zero _)
  | [], fuel + 1, rest, _ => by rw [printElements]; rfl
  | element :: elements, fuel + 1, rest, h => by
    rw [printElements] at h ⊢
    have hlength : element.print.length + (printElements elements).length < fuel := by
      simpa using h
    have hvalue := parseValue_print element fuel (printElements elements ++ rest) (by omega) (ends_elements _ _)
    have helements := parseElements_print elements fuel rest (by omega)
    rw [List.cons_append, List.append_assoc, parseElements, hvalue]
    simp [helements]

theorem parseMembers_print : ∀ (members : List (String × Json)) (fuel : Nat) (rest : List Char),
    (printMembers members).length < fuel →
    parseMembers fuel (printMembers members ++ rest) = some (members, rest)
  | _, 0, _, h => absurd h (Nat.not_lt_zero _)
  | [], fuel + 1, rest, _ => by rw [printMembers]; rfl
  | (key, value) :: members, fuel + 1, rest, h => by
    rw [printMembers] at h ⊢
    have hlength : value.print.length + (printMembers members).length < fuel := by
      simp only [List.length_cons, List.length_append] at h
      omega
    have hvalue := parseValue_print value fuel (printMembers members ++ rest) (by omega) (ends_members _ _)
    have hmembers := parseMembers_print members fuel rest (by omega)
    have hkey := parseBody_string key (':' :: (value.print ++ (printMembers members ++ rest)))
    rw [printString]
    simp only [List.cons_append, List.append_assoc] at hkey ⊢
    rw [parseMembers, hkey]
    simp [hvalue, hmembers]

end

/-- The compact text of a value is read back as the value. -/
@[simp] theorem parse_text (value : Json) : parse value.text = some value := by
  have hparse := parseValue_print value (value.print.length + 1) [] (Nat.lt_succ_self _) (fun _ h => (by cases h))
  rw [List.append_nil] at hparse
  unfold parse text
  rw [String.toList_ofList, hparse]

end Slotpilot.Lib.Json
