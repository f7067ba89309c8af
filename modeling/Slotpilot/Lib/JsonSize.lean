import Slotpilot.Lib.JsonCodec

/-!
# Sizes of JSON forms

`JsonSize α` gives the number of bytes of the compact text of a value's form, from the value alone. Sorting the keys of the
form does not change it (`Sized`).

* `sized_object`: the size of an object is that of its keys, which is a constant of its type, and those of its values;
* `sized_array`: the size of an array is that of its elements and a comma for each;
* `bytes_insert`: the size of a sorted object with one more member.
-/

set_option autoImplicit false

namespace Slotpilot.Lib

namespace Json

/-! ## Members -/

/-- The size of some members without their braces. -/
def memberBytes (members : List (String × Json)) : Nat :=
  (members.map fun member => escapedBytes member.1 + member.2.bytes + 4).sum

/-- The size of the braces and of some keys with their quotes, colons and commas. -/
def keyBytes (keys : List String) : Nat := 1 + (keys.map fun key => escapedBytes key + 4).sum

@[simp] theorem memberBytes_nil : memberBytes [] = 0 := rfl

@[simp] theorem memberBytes_cons (key : String) (value : Json) (members : List (String × Json)) :
    memberBytes ((key, value) :: members) = escapedBytes key + value.bytes + 4 + memberBytes members := by
  rw [memberBytes, List.map_cons, List.sum_cons, memberBytes]

/-- The size of an object that has a member. -/
theorem bytes_members {members : List (String × Json)} (hne : members ≠ []) :
    bytes (.object members) = 1 + memberBytes members := by
  rw [bytes_object, ← memberBytes]
  cases members with
  | nil => exact absurd rfl hne
  | cons head members =>
    obtain ⟨key, value⟩ := head
    rw [memberBytes_cons]
    omega

/-- The members are their keys and their values. -/
theorem memberBytes_eq (members : List (String × Json)) :
    1 + memberBytes members = keyBytes (members.map Prod.fst) + (members.map fun member => member.2.bytes).sum := by
  unfold keyBytes
  induction members with
  | nil => rfl
  | cons head members ih =>
    obtain ⟨key, value⟩ := head
    simp only [memberBytes_cons, List.map_cons, List.sum_cons]
    omega

/-- The member of a key that is there is replaced. -/
theorem memberBytes_insert {key : String} {value : Json} {members : List (String × Json)} (hsorted : Sorted members) :
    memberBytes (insert key value members) =
      escapedBytes key + value.bytes + 4 + memberBytes (remove key members) := by
  induction members with
  | nil => rfl
  | cons head members ih =>
    obtain ⟨k, v⟩ := head
    obtain ⟨hhead, htail⟩ := List.pairwise_cons.mp hsorted
    have hkept (l : List (String × Json)) (hl : ∀ member ∈ l, key < member.1) : remove key l = l := by
      refine List.filter_eq_self.mpr ?_
      intro member hmember
      exact decide_eq_true (ne_of_gt (hl member hmember))
    rw [insert]
    split
    · rename_i hsame
      subst hsame
      rw [memberBytes_cons, remove, List.filter_cons_of_neg (by simp)]
      exact congrArg (_ + memberBytes ·) (hkept members hhead).symm
    · rename_i hne
      split
      · rename_i hless
        rw [memberBytes_cons, hkept _ fun member hmember => ?_]
        rcases List.mem_cons.mp hmember with rfl | hmember
        · exact hless
        · exact lt_trans hless (hhead member hmember)
      · have hk : decide ((k, v).1 ≠ key) = true := decide_eq_true fun heq => hne heq.symm
        have hremove : remove key ((k, v) :: members) = (k, v) :: remove key members := List.filter_cons_of_pos hk
        rw [memberBytes_cons, ih htail, hremove, memberBytes_cons]
        omega

theorem find_eq_none {key : String} {members : List (String × Json)} (h : key ∉ members.map Prod.fst) :
    find key members = none := by
  induction members with
  | nil => rfl
  | cons head members ih =>
    obtain ⟨k, v⟩ := head
    simp only [List.map_cons, List.mem_cons, not_or] at h
    rw [find_cons, if_neg h.1, ih h.2]

/-- Sorting keeps the size of members whose keys are distinct and whose values keep theirs. -/
theorem memberBytes_sortMembers {members : List (String × Json)} (hdistinct : (members.map Prod.fst).Nodup)
    (hvalues : ∀ member ∈ members, member.2.sortKeys.bytes = member.2.bytes) :
    memberBytes (sortMembers members) = memberBytes members := by
  induction members with
  | nil => rw [sortMembers]
  | cons head members ih =>
    obtain ⟨k, v⟩ := head
    obtain ⟨hfresh, htail⟩ := List.nodup_cons.mp hdistinct
    have hnone : find k (sortMembers members) = none := by
      rw [find_sortMembers, find_eq_none hfresh, Option.map_none]
    have hlater := ih htail fun member hmember => hvalues member (List.mem_cons_of_mem _ hmember)
    rw [sortMembers, memberBytes_insert (sorted_sortMembers members), remove_eq_self hnone, memberBytes_cons,
      hvalues _ List.mem_cons_self, hlater]

theorem insert_ne_nil {key : String} {value : Json} {members : List (String × Json)} : insert key value members ≠ [] := by
  intro hnil
  have hfind := congrArg (find key) hnil
  rw [find_insert, if_pos rfl] at hfind
  cases hfind

/-- The size of a sorted object with a member inserted. -/
theorem bytes_insert {key : String} {value : Json} {members : List (String × Json)} (hsorted : Sorted members) :
    bytes (.object (insert key value members)) =
      5 + escapedBytes key + value.bytes + memberBytes (remove key members) := by
  rw [bytes_members insert_ne_nil, memberBytes_insert hsorted]
  omega

/-! ## Sizes that the order of the keys leaves -/

/-- The compact text has this size, also when its keys are sorted. -/
structure Sized (value : Json) (size : Nat) : Prop where
  bytes : value.bytes = size
  sorted : value.sortKeys.bytes = size

theorem sized_null : Sized .null 4 := ⟨bytes_null, bytes_null⟩

theorem sized_bool (value : Bool) : Sized (.bool value) (if value then 4 else 5) := ⟨bytes_bool value, bytes_bool value⟩

theorem sized_int (value : Int) : Sized (.int value) (intBytes value) := ⟨bytes_int value, bytes_int value⟩

theorem sized_string (value : String) : Sized (.string value) (escapedBytes value + 2) :=
  ⟨bytes_string value, bytes_string value⟩

/-- A fixed text. -/
theorem sized_text {value : String} {size : Nat} (h : escapedBytes value + 2 = size) : Sized (.string value) size :=
  h ▸ sized_string value

theorem sized_array {α : Type} {form : α → Json} {size : α → Nat} (h : ∀ a, Sized (form a) (size a)) (l : List α) :
    Sized (.array (l.map form)) (max 2 (1 + (l.map fun a => size a + 1).sum)) := by
  constructor
  · rw [bytes_array, List.map_map]
    simp only [Function.comp_def, (h _).bytes]
  · rw [sortKeys_array, bytes_array, List.map_map, List.map_map]
    simp only [Function.comp_def, (h _).sorted]

/-- The values of an object have the listed sizes. -/
theorem sized_values {members : List (String × Json)} {sizes : List Nat}
    (h : List.Forall₂ (fun member size => Sized member.2 size) members sizes) :
    (∀ member ∈ members, member.2.sortKeys.bytes = member.2.bytes) ∧
      (members.map fun member => member.2.bytes).sum = sizes.sum := by
  induction h with
  | nil => simp
  | cons hhead _ ih =>
    obtain ⟨hsame, hsum⟩ := ih
    refine ⟨List.forall_mem_cons.mpr ⟨hhead.sorted.trans hhead.bytes.symm, hsame⟩, ?_⟩
    rw [List.map_cons, List.sum_cons, List.sum_cons, hhead.bytes, hsum]

/-- **The size of an object**: its keys are distinct and have a size of their own. -/
theorem sized_object {members : List (String × Json)} {sizes : List Nat} {constant : Nat}
    (hsizes : List.Forall₂ (fun member size => Sized member.2 size) members sizes)
    (hkeys : (members.map Prod.fst).Nodup ∧ keyBytes (members.map Prod.fst) = constant) (hne : members ≠ []) :
    Sized (.object members) (constant + sizes.sum) := by
  obtain ⟨hdistinct, rfl⟩ := hkeys
  obtain ⟨hsame, hsum⟩ := sized_values hsizes
  have hbytes : bytes (.object members) = keyBytes (members.map Prod.fst) + sizes.sum := by
    rw [bytes_members hne, memberBytes_eq, hsum]
  refine ⟨hbytes, ?_⟩
  rw [sortKeys_object, bytes_object, ← memberBytes, memberBytes_sortMembers hdistinct hsame, memberBytes, ← bytes_object,
    hbytes]

theorem one_le_intBytes (value : Int) : 1 ≤ intBytes value := by
  have hdigits : 0 < (Nat.toDigits 10 value.natAbs).length := Nat.length_toDigits_pos
  unfold intBytes printInt
  split
  · exact Nat.le_add_left 1 _
  · exact hdigits

end Json

open Json

/-- A form whose size is known from the value. -/
class JsonSize (α : Type) [JsonForm α] where
  jsonBytes : α → Nat
  sized : ∀ a : α, Sized (toJson a) (jsonBytes a)

export JsonSize (jsonBytes sized)

attribute [simp] sized

/-! ## Basic values -/

instance : JsonSize Bool where
  jsonBytes value := if value then 4 else 5
  sized := sized_bool

instance : JsonSize String where
  jsonBytes value := escapedBytes value + 2
  sized := sized_string

instance : JsonSize UInt8 where
  jsonBytes value := intBytes value.toNat
  sized _ := sized_int _

instance : JsonSize UInt16 where
  jsonBytes value := intBytes value.toNat
  sized _ := sized_int _

instance : JsonSize UInt32 where
  jsonBytes value := intBytes value.toNat
  sized _ := sized_int _

instance : JsonSize UInt64 where
  jsonBytes value := intBytes value.toNat
  sized _ := sized_int _

instance : JsonSize Int16 where
  jsonBytes value := intBytes value.toInt
  sized _ := sized_int _

instance : JsonSize Int32 where
  jsonBytes value := intBytes value.toInt
  sized _ := sized_int _

instance : JsonSize Int64 where
  jsonBytes value := intBytes value.toInt
  sized _ := sized_int _

instance {α : Type} [Enumeration α] : JsonSize α where
  jsonBytes a := escapedBytes (Enumeration.name a) + 2
  sized _ := sized_string _

/-! ## Lists and options -/

section Containers

variable {α : Type} [JsonForm α] [JsonSize α]

instance : JsonSize (List α) where
  jsonBytes l := max 2 (1 + (l.map fun a => jsonBytes a + 1).sum)
  sized l := sized_array sized l

/-- A list has the sizes of its elements and a comma for each. -/
theorem le_listBytes {l : List α} {size : Nat} (h : ∀ a ∈ l, size ≤ jsonBytes a) : l.length * (size + 1) ≤ jsonBytes l := by
  have hsum := List.card_nsmul_le_sum (l.map fun a => jsonBytes a + 1) (size + 1)
  rw [List.length_map, smul_eq_mul] at hsum
  refine (hsum ?_).trans (le_max_of_le_right (Nat.le_add_left _ 1))
  intro element helement
  obtain ⟨a, ha, rfl⟩ := List.mem_map.mp helement
  exact Nat.succ_le_succ (h a ha)

/-- The size of an optional field's value. -/
def optionBytes (o : Option α) : Nat := o.elim 4 jsonBytes

@[simp] theorem sized_option (o : Option α) : Sized (optionToJson o) (optionBytes o) := by
  cases o with
  | none => exact sized_null
  | some a => exact sized a

end Containers

end Slotpilot.Lib
