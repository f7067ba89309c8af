import Mathlib

/-!
# JSON values and their compact text

The values of JSON with integers, decimal literals and objects as lists of members in the order in which they are written.

* `sortKeys`: the value whose objects have their members in the order of the keys, as a sorted map holds them;
* `print`: the compact text, with the escapes of strings;
* `bytes`: the length of the text in UTF-8, with one equation for each kind of value.
-/

set_option autoImplicit false

namespace Slotpilot.Lib

/-- The literal of a number that is not an integer. -/
structure Decimal where
  literal : List Char
  numeric : literal.all (fun c => c.isDigit || c ∈ ['-', '+', '.', 'e', 'E']) = true
  fractional : literal.any (fun c => c ∈ ['.', 'e', 'E']) = true
  deriving DecidableEq

/-- A JSON value. -/
inductive Json
  | null
  | bool (value : Bool)
  | int (value : Int)
  | decimal (value : Decimal)
  | string (value : String)
  | array (elements : List Json)
  | object (members : List (String × Json))

namespace Json

/-! ## Members -/

/-- The value of the first member with a key. -/
def find (key : String) : List (String × Json) → Option Json
  | [] => none
  | (k, v) :: members => if key = k then some v else find key members

/-- Inserts a member into a list in the order of the keys; the value of a key that is there is replaced. -/
def insert (key : String) (value : Json) : List (String × Json) → List (String × Json)
  | [] => [(key, value)]
  | (k, v) :: members =>
    if key = k then (key, value) :: members
    else if key < k then (key, value) :: (k, v) :: members
    else (k, v) :: insert key value members

/-- The members without those of a key. -/
def remove (key : String) (members : List (String × Json)) : List (String × Json) :=
  members.filter (·.1 ≠ key)

/-- The keys of a list of members are strictly increasing. -/
def Sorted (members : List (String × Json)) : Prop := members.Pairwise (·.1 < ·.1)

section Members

variable {key other : String} {value : Json} {members : List (String × Json)}

@[simp] theorem find_nil : find key [] = none := rfl

@[simp] theorem find_cons : find key ((other, value) :: members) =
    if key = other then some value else find key members := by
  rw [find]

theorem find_insert : find key (insert other value members) = if key = other then some value else find key members := by
  induction members with
  | nil => rfl
  | cons member members ih =>
    obtain ⟨k, v⟩ := member
    unfold insert
    split
    · rename_i hsame
      subst hsame
      simp only [find_cons]
      split <;> rfl
    · rename_i hother
      split
      · rfl
      · simp only [find_cons, ih]
        by_cases hk : key = k
        · subst hk
          rw [if_pos rfl, if_neg (fun h => hother h.symm), if_pos rfl]
        · rw [if_neg hk, if_neg hk]

theorem mem_insert {member : String × Json} (h : member ∈ insert key value members) :
    member = (key, value) ∨ member ∈ members := by
  induction members with
  | nil => exact .inl (List.mem_singleton.mp h)
  | cons head members ih =>
    obtain ⟨k, v⟩ := head
    unfold insert at h
    split at h
    · rcases List.mem_cons.mp h with h | h
      · exact .inl h
      · exact .inr (List.mem_cons_of_mem _ h)
    · split at h
      · exact List.mem_cons.mp h
      · rcases List.mem_cons.mp h with h | h
        · exact .inr (h ▸ List.mem_cons_self)
        · exact (ih h).imp id (List.mem_cons_of_mem _)

theorem Sorted.insert (h : Sorted members) : Sorted (insert key value members) := by
  induction members with
  | nil => exact List.pairwise_singleton _ _
  | cons head members ih =>
    obtain ⟨k, v⟩ := head
    obtain ⟨hhead, htail⟩ := List.pairwise_cons.mp h
    unfold Json.insert
    split
    · rename_i hsame
      subst hsame
      exact List.pairwise_cons.mpr ⟨hhead, htail⟩
    · rename_i hother
      split
      · rename_i hless
        refine List.pairwise_cons.mpr ⟨fun member hmember => ?_, h⟩
        rcases List.mem_cons.mp hmember with rfl | hmember
        · exact hless
        · exact lt_trans hless (hhead member hmember)
      · rename_i hnot
        refine List.pairwise_cons.mpr ⟨fun member hmember => ?_, ih htail⟩
        rcases mem_insert hmember with rfl | hmember
        · exact lt_of_le_of_ne (not_lt.mp hnot) (fun heq => hother heq.symm)
        · exact hhead member hmember

theorem remove_eq_self (h : find key members = none) : remove key members = members := by
  refine List.filter_eq_self.mpr fun member hmember => ?_
  induction members with
  | nil => cases hmember
  | cons head members ih =>
    obtain ⟨k, v⟩ := head
    rw [find_cons] at h
    split at h
    · cases h
    · rename_i hother
      rcases List.mem_cons.mp hmember with rfl | hmember
      · exact decide_eq_true (fun heq => hother heq.symm)
      · exact ih h hmember

/-- What was inserted under a new key is what is removed under it. -/
theorem remove_insert (h : find key members = none) : remove key (insert key value members) = members := by
  induction members with
  | nil => simp [Json.insert, remove]
  | cons head members ih =>
    obtain ⟨k, v⟩ := head
    have hne : key ≠ k := by
      rintro rfl
      simp at h
    have htail : find key members = none := by simpa [hne] using h
    unfold Json.insert
    rw [if_neg hne]
    split
    · have hall := remove_eq_self h
      simp only [remove] at hall ⊢
      rw [List.filter_cons_of_neg (by simp), hall]
    · have hrest := ih htail
      simp only [remove] at hrest ⊢
      rw [List.filter_cons_of_pos (by simpa using fun heq : k = key => hne heq.symm), hrest]

theorem find_remove : find key (remove other members) = if key = other then none else find key members := by
  induction members with
  | nil => simp [remove]
  | cons head members ih =>
    obtain ⟨k, v⟩ := head
    simp only [remove] at ih ⊢
    by_cases hk : k = other
    · rw [List.filter_cons_of_neg (by simpa using hk), ih, find_cons]
      subst hk
      split <;> rfl
    · rw [List.filter_cons_of_pos (by simpa using hk), find_cons, find_cons, ih]
      by_cases hkey : key = k
      · subst hkey
        rw [if_pos rfl, if_pos rfl, if_neg hk]
      · rw [if_neg hkey, if_neg hkey]

end Members

/-! ## The order of the keys -/

mutual

/-- The value whose objects have their members in the order of the keys. -/
def sortKeys : Json → Json
  | .array elements => .array (sortElements elements)
  | .object members => .object (sortMembers members)
  | value => value

def sortElements : List Json → List Json
  | [] => []
  | element :: elements => element.sortKeys :: sortElements elements

/-- Of two members with one key the first is kept. -/
def sortMembers : List (String × Json) → List (String × Json)
  | [] => []
  | (key, value) :: members => insert key value.sortKeys (sortMembers members)

end

@[simp] theorem sortKeys_object (members : List (String × Json)) :
    sortKeys (.object members) = .object (sortMembers members) := by
  rw [sortKeys]

@[simp] theorem sortKeys_array (elements : List Json) : sortKeys (.array elements) = .array (elements.map sortKeys) := by
  have h : sortElements elements = elements.map sortKeys := by
    induction elements with
    | nil => rw [sortElements, List.map_nil]
    | cons element elements ih => rw [sortElements, ih, List.map_cons]
  rw [sortKeys, h]

@[simp] theorem sortKeys_string (value : String) : sortKeys (.string value) = .string value := rfl

@[simp] theorem sortKeys_int (value : Int) : sortKeys (.int value) = .int value := rfl

theorem sorted_sortMembers (members : List (String × Json)) : Sorted (sortMembers members) := by
  induction members with
  | nil =>
    rw [sortMembers]
    exact .nil
  | cons head members ih =>
    rw [sortMembers]
    exact ih.insert

theorem find_sortMembers (key : String) (members : List (String × Json)) :
    find key (sortMembers members) = (find key members).map sortKeys := by
  induction members with
  | nil => rw [sortMembers]; rfl
  | cons head members ih =>
    obtain ⟨k, v⟩ := head
    rw [sortMembers, find_insert, find_cons, ih]
    split <;> rfl

/-! ## Sorted values -/

theorem find_of_mem {key : String} {value : Json} {members : List (String × Json)} (hsorted : Sorted members)
    (h : (key, value) ∈ members) : find key members = some value := by
  induction members with
  | nil => cases h
  | cons head members ih =>
    obtain ⟨k, v⟩ := head
    obtain ⟨hhead, htail⟩ := List.pairwise_cons.mp hsorted
    rcases List.mem_cons.mp h with heq | hmember
    · cases heq
      rw [find_cons, if_pos rfl]
    · have hne : key ≠ k := ne_of_gt (hhead _ hmember)
      rw [find_cons, if_neg hne, ih htail hmember]

/-- A member that comes before all others is inserted at the head. -/
theorem insert_of_lt {key : String} {value : Json} {members : List (String × Json)}
    (h : ∀ member ∈ members, key < member.1) : insert key value members = (key, value) :: members := by
  cases members with
  | nil => rfl
  | cons head members =>
    have hless : key < head.1 := h head List.mem_cons_self
    rw [insert, if_neg (ne_of_lt hless), if_pos hless]

/-- Members are in order, at every depth, when their keys are and their values are. -/
theorem sortMembers_eq_self {members : List (String × Json)} :
    sortMembers members = members ↔ Sorted members ∧ ∀ member ∈ members, member.2.sortKeys = member.2 := by
  constructor
  · intro h
    have hsorted : Sorted members := h ▸ sorted_sortMembers members
    refine ⟨hsorted, fun member hmember => ?_⟩
    have hfind := find_sortMembers member.1 members
    rw [h, find_of_mem hsorted hmember, Option.map_some] at hfind
    exact (Option.some.inj hfind).symm
  · rintro ⟨hsorted, hvalues⟩
    induction members with
    | nil => rw [sortMembers]
    | cons head members ih =>
      obtain ⟨k, v⟩ := head
      obtain ⟨hhead, htail⟩ := List.pairwise_cons.mp hsorted
      rw [sortMembers, ih htail fun member hmember => hvalues member (List.mem_cons_of_mem _ hmember),
        hvalues (k, v) List.mem_cons_self, insert_of_lt hhead]

mutual

theorem sortKeys_sortKeys : ∀ value : Json, value.sortKeys.sortKeys = value.sortKeys
  | .array elements => by
    have hall : ∀ element ∈ elements, element.sortKeys.sortKeys = element.sortKeys :=
      fun element _ => sortKeys_sortKeys element
    rw [sortKeys_array, sortKeys_array, List.map_map]
    exact congrArg Json.array (List.map_congr_left hall)
  | .object members => by
    rw [sortKeys_object, sortKeys_object, sortMembers_sortMembers members]
  | .null | .bool _ | .int _ | .decimal _ | .string _ => rfl

theorem sortMembers_sortMembers : ∀ members : List (String × Json),
    sortMembers (sortMembers members) = sortMembers members
  | [] => by rw [sortMembers, sortMembers]
  | (key, value) :: members => by
    have hrest := sortMembers_eq_self.mp (sortMembers_sortMembers members)
    refine sortMembers_eq_self.mpr ⟨sorted_sortMembers _, fun member hmember => ?_⟩
    rw [sortMembers] at hmember
    rcases mem_insert hmember with rfl | hmember
    · exact sortKeys_sortKeys value
    · exact hrest.2 member hmember

end

/-! ## Compact text -/

def hexDigit (n : Nat) : Char := if n < 10 then Char.ofNat (48 + n) else Char.ofNat (87 + n)

/-- The letter that stands for a character after a backslash. -/
def shortEscape (c : Char) : Option Char :=
  if c = '"' then some '"'
  else if c = '\\' then some '\\'
  else if c.toNat = 8 then some 'b'
  else if c.toNat = 9 then some 't'
  else if c.toNat = 10 then some 'n'
  else if c.toNat = 12 then some 'f'
  else if c.toNat = 13 then some 'r'
  else none

/-- A character of a string, escaped where the compact text escapes it. -/
def escape (c : Char) : List Char :=
  match shortEscape c with
  | some letter => ['\\', letter]
  | none =>
    if c.toNat < 32 then ['\\', 'u', '0', '0', hexDigit (c.toNat / 16), hexDigit (c.toNat % 16)]
    else [c]

def printString (value : String) : List Char := '"' :: (value.toList.flatMap escape ++ ['"'])

def printInt (value : Int) : List Char :=
  if value < 0 then '-' :: Nat.toDigits 10 value.natAbs else Nat.toDigits 10 value.natAbs

mutual

/-- The compact text of a value. -/
def print : Json → List Char
  | .null => ['n', 'u', 'l', 'l']
  | .bool true => ['t', 'r', 'u', 'e']
  | .bool false => ['f', 'a', 'l', 's', 'e']
  | .int value => printInt value
  | .decimal value => value.literal
  | .string value => printString value
  | .array [] => ['[', ']']
  | .array (element :: elements) => '[' :: (element.print ++ printElements elements)
  | .object [] => ['{', '}']
  | .object ((key, value) :: members) => '{' :: (printString key ++ ':' :: (value.print ++ printMembers members))

/-- The elements after the first, and the end of the array. -/
def printElements : List Json → List Char
  | [] => [']']
  | element :: elements => ',' :: (element.print ++ printElements elements)

/-- The members after the first, and the end of the object. -/
def printMembers : List (String × Json) → List Char
  | [] => ['}']
  | (key, value) :: members => ',' :: (printString key ++ ':' :: (value.print ++ printMembers members))

end

/-- The compact text as a string. -/
def text (value : Json) : String := String.ofList value.print

/-! ## The length of the text -/

/-- The length of the compact text in UTF-8. -/
def bytes (value : Json) : Nat := value.text.utf8ByteSize

theorem bytes_eq (value : Json) : value.bytes = String.utf8Len value.print := String.utf8ByteSize_ofList _

/-- The bytes of a character in a string. -/
def escapedSize (c : Char) : Nat := if (shortEscape c).isSome then 2 else if c.toNat < 32 then 6 else c.utf8Size

/-- The bytes of the text between the quotes of a string. -/
def escapedBytes (value : String) : Nat := (value.toList.map escapedSize).sum

/-- The decimal digits of a number, with its sign. -/
def intBytes (value : Int) : Nat := (printInt value).length

theorem utf8Len_eq_length {l : List Char} (h : ∀ c ∈ l, c.toNat < 128) : String.utf8Len l = l.length := by
  induction l with
  | nil => rfl
  | cons c l ih =>
    have hc : c.utf8Size = 1 := Char.utf8Size_eq_one_iff.mpr (by
      have hlt := h c List.mem_cons_self
      rw [UInt32.le_iff_toNat_le]
      exact Nat.le_of_lt_succ hlt)
    rw [String.utf8Len_cons, hc, ih fun d hd => h d (List.mem_cons_of_mem c hd), List.length_cons]

theorem hexDigit_ascii {n : Nat} (h : n < 16) : (hexDigit n).toNat < 128 := by
  unfold hexDigit
  split
  · interval_cases n <;> decide
  · interval_cases n <;> decide

theorem shortEscape_ascii {c letter : Char} (h : shortEscape c = some letter) : letter.toNat < 128 := by
  unfold shortEscape at h
  split_ifs at h <;> cases h <;> decide

@[simp] theorem utf8Len_escape (c : Char) : String.utf8Len (escape c) = escapedSize c := by
  unfold escape escapedSize
  cases hshort : shortEscape c with
  | some letter =>
    show String.utf8Len ['\\', letter] = 2
    refine utf8Len_eq_length fun d hd => ?_
    rcases List.mem_cons.mp hd with rfl | hd
    · decide
    · rw [List.mem_singleton.mp hd]
      exact shortEscape_ascii hshort
  | none =>
    show String.utf8Len (if c.toNat < 32 then _ else [c]) = if c.toNat < 32 then 6 else c.utf8Size
    split
    · rename_i hcontrol
      refine utf8Len_eq_length fun d hd => ?_
      simp only [List.mem_cons, List.not_mem_nil, or_false] at hd
      rcases hd with rfl | rfl | rfl | rfl | rfl | rfl
      · decide
      · decide
      · decide
      · decide
      · exact hexDigit_ascii (by omega)
      · exact hexDigit_ascii (by omega)
    · simp

theorem utf8Len_flatMap_escape (l : List Char) : String.utf8Len (l.flatMap escape) = (l.map escapedSize).sum := by
  induction l with
  | nil => rfl
  | cons c l ih => rw [List.flatMap_cons, String.utf8Len_append, utf8Len_escape, ih, List.map_cons, List.sum_cons]

@[simp] theorem utf8Len_printString (value : String) : String.utf8Len (printString value) = escapedBytes value + 2 := by
  have hquote : Char.utf8Size '"' = 1 := by decide
  simp only [printString, String.utf8Len_cons, String.utf8Len_append, utf8Len_flatMap_escape, String.utf8Len_nil, hquote,
    escapedBytes]

theorem isDigit_ascii {c : Char} (h : c.isDigit = true) : c.toNat < 128 := by
  have hrange : 48 ≤ c.toNat ∧ c.toNat ≤ 57 := by
    simpa [Char.isDigit, UInt32.le_iff_toNat_le] using h
  omega

@[simp] theorem utf8Len_printInt (value : Int) : String.utf8Len (printInt value) = intBytes value := by
  refine utf8Len_eq_length fun c hc => ?_
  have hdigits : ∀ c ∈ Nat.toDigits 10 value.natAbs, c.toNat < 128 := fun c hc =>
    isDigit_ascii (Nat.isDigit_of_mem_toDigits (by decide) (Nat.le_refl _) hc)
  unfold printInt at hc
  split at hc
  · rcases List.mem_cons.mp hc with rfl | hc
    · decide
    · exact hdigits c hc
  · exact hdigits c hc

/-! ### One equation for each kind of value -/

theorem utf8Len_printElements (elements : List Json) :
    String.utf8Len (printElements elements) = 1 + (elements.map fun element => element.bytes + 1).sum := by
  induction elements with
  | nil => rw [printElements]; rfl
  | cons element elements ih =>
    have hcomma : Char.utf8Size ',' = 1 := by decide
    rw [printElements, String.utf8Len_cons, String.utf8Len_append, ih, hcomma, ← bytes_eq, List.map_cons, List.sum_cons]
    omega

theorem utf8Len_printMembers (members : List (String × Json)) :
    String.utf8Len (printMembers members) =
      1 + (members.map fun member => escapedBytes member.1 + member.2.bytes + 4).sum := by
  induction members with
  | nil => rw [printMembers]; rfl
  | cons head members ih =>
    obtain ⟨key, value⟩ := head
    have hcomma : Char.utf8Size ',' = 1 := by decide
    have hcolon : Char.utf8Size ':' = 1 := by decide
    rw [printMembers, String.utf8Len_cons, String.utf8Len_append, String.utf8Len_cons, String.utf8Len_append, ih,
      utf8Len_printString, hcomma, hcolon, ← bytes_eq, List.map_cons, List.sum_cons]
    show _ = 1 + (escapedBytes key + value.bytes + 4 + _)
    omega

@[simp] theorem bytes_null : bytes .null = 4 := by
  rw [bytes_eq]
  decide

@[simp] theorem bytes_bool (value : Bool) : bytes (.bool value) = if value then 4 else 5 := by
  rw [bytes_eq]
  cases value <;> decide

@[simp] theorem bytes_int (value : Int) : bytes (.int value) = intBytes value := by
  rw [bytes_eq, print, utf8Len_printInt]

@[simp] theorem bytes_string (value : String) : bytes (.string value) = escapedBytes value + 2 := by
  rw [bytes_eq, print, utf8Len_printString]

/-- An array has its brackets and, for each element but the last, a comma. -/
theorem bytes_array (elements : List Json) :
    bytes (.array elements) = max 2 (1 + (elements.map fun element => element.bytes + 1).sum) := by
  rw [bytes_eq]
  cases elements with
  | nil => rw [print]; decide
  | cons element elements =>
    have hopen : Char.utf8Size '[' = 1 := by decide
    rw [print, String.utf8Len_cons, String.utf8Len_append, utf8Len_printElements, hopen, ← bytes_eq, List.map_cons,
      List.sum_cons]
    omega

/-- An object has its braces, a comma for each member but the last, and for each member two quotes and a colon. -/
theorem bytes_object (members : List (String × Json)) :
    bytes (.object members) =
      max 2 (1 + (members.map fun member => escapedBytes member.1 + member.2.bytes + 4).sum) := by
  rw [bytes_eq]
  cases members with
  | nil => rw [print]; decide
  | cons head members =>
    obtain ⟨key, value⟩ := head
    have hopen : Char.utf8Size '\x7b' = 1 := by decide
    have hcolon : Char.utf8Size ':' = 1 := by decide
    rw [print, String.utf8Len_cons, String.utf8Len_append, String.utf8Len_cons, String.utf8Len_append,
      utf8Len_printMembers, utf8Len_printString, hopen, hcolon, ← bytes_eq, List.map_cons, List.sum_cons]
    show _ = max 2 (1 + (escapedBytes key + value.bytes + 4 + _))
    omega

end Json

end Slotpilot.Lib
