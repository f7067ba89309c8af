import Slotpilot.Lib.Json

/-!
# Types with a JSON form

`JsonForm α` writes the values of `α`, and `JsonCodec α` reads back what it wrote after the keys are sorted. The forms are
those of derived serializers: records of fields, enumerations of names, and variants told apart by a tag among the fields.

* `record`: the fields of an object, or of an array in the order of the fields, with `required` and `optional` fields;
* `Enumeration`: finitely many values with distinct names;
* `tagged`: the variant and the other fields of an object with a tag.
-/

set_option autoImplicit false

namespace Slotpilot.Lib

open Json

/-- A type whose values are written as JSON. -/
class JsonForm (α : Type) where
  toJson : α → Json

/-- A type whose values are written as JSON other than `null` and read back. -/
class JsonCodec (α : Type) extends JsonForm α where
  fromJson : Json → Option α
  fromJson_toJson : ∀ a, fromJson (toJson a).sortKeys = some a
  toJson_ne_null : ∀ a, toJson a ≠ .null

export JsonForm (toJson)
export JsonCodec (fromJson fromJson_toJson toJson_ne_null)

attribute [simp] fromJson_toJson

/-! ## Basic values -/

instance : JsonCodec Bool where
  toJson := .bool
  fromJson
    | .bool value => some value
    | _ => none
  fromJson_toJson _ := rfl
  toJson_ne_null _ := by simp

instance : JsonCodec String where
  toJson := .string
  fromJson
    | .string value => some value
    | _ => none
  fromJson_toJson _ := rfl
  toJson_ne_null _ := by simp

/-- An integer of a range as a value of a machine type. -/
def ofRange {α : Type} (lo hi : Int) (make : Int → α) : Json → Option α
  | .int value => if lo ≤ value ∧ value < hi then some (make value) else none
  | _ => none

theorem ofRange_int {α : Type} {lo hi value : Int} {make : Int → α} {a : α} (h : lo ≤ value ∧ value < hi)
    (ha : make value = a) : ofRange lo hi make (sortKeys (.int value)) = some a := by
  show (if lo ≤ value ∧ value < hi then some (make value) else none) = some a
  rw [if_pos h, ha]

instance : JsonCodec UInt8 where
  toJson value := .int value.toNat
  fromJson := ofRange 0 (2 ^ 8) fun value => UInt8.ofNat value.toNat
  fromJson_toJson value := ofRange_int ⟨Int.natCast_nonneg _, by exact_mod_cast value.toNat_lt⟩ (by simp)
  toJson_ne_null _ := by simp

instance : JsonCodec UInt16 where
  toJson value := .int value.toNat
  fromJson := ofRange 0 (2 ^ 16) fun value => UInt16.ofNat value.toNat
  fromJson_toJson value := ofRange_int ⟨Int.natCast_nonneg _, by exact_mod_cast value.toNat_lt⟩ (by simp)
  toJson_ne_null _ := by simp

instance : JsonCodec UInt32 where
  toJson value := .int value.toNat
  fromJson := ofRange 0 (2 ^ 32) fun value => UInt32.ofNat value.toNat
  fromJson_toJson value := ofRange_int ⟨Int.natCast_nonneg _, by exact_mod_cast value.toNat_lt⟩ (by simp)
  toJson_ne_null _ := by simp

instance : JsonCodec UInt64 where
  toJson value := .int value.toNat
  fromJson := ofRange 0 (2 ^ 64) fun value => UInt64.ofNat value.toNat
  fromJson_toJson value := ofRange_int ⟨Int.natCast_nonneg _, by exact_mod_cast value.toNat_lt⟩ (by simp)
  toJson_ne_null _ := by simp

instance : JsonCodec Int16 where
  toJson value := .int value.toInt
  fromJson := ofRange (-2 ^ 15) (2 ^ 15) Int16.ofInt
  fromJson_toJson value := ofRange_int ⟨value.le_toInt, value.toInt_lt⟩ (by simp)
  toJson_ne_null _ := by simp

instance : JsonCodec Int32 where
  toJson value := .int value.toInt
  fromJson := ofRange (-2 ^ 31) (2 ^ 31) Int32.ofInt
  fromJson_toJson value := ofRange_int ⟨value.le_toInt, value.toInt_lt⟩ (by simp)
  toJson_ne_null _ := by simp

instance : JsonCodec Int64 where
  toJson value := .int value.toInt
  fromJson := ofRange (-2 ^ 63) (2 ^ 63) Int64.ofInt
  fromJson_toJson value := ofRange_int ⟨value.le_toInt, value.toInt_lt⟩ (by simp)
  toJson_ne_null _ := by simp

instance {α : Type} [JsonForm α] : JsonForm (List α) where
  toJson l := .array (l.map toJson)

instance {α : Type} [JsonCodec α] : JsonCodec (List α) where
  fromJson
    | .array elements => elements.mapM fromJson
    | _ => none
  fromJson_toJson l := by
    have hsorted : (toJson l).sortKeys = .array (l.map (sortKeys ∘ toJson)) := by
      show sortKeys (.array (l.map toJson)) = _
      rw [sortKeys_array, List.map_map]
    rw [hsorted]
    show (l.map (sortKeys ∘ toJson)).mapM fromJson = some l
    clear hsorted
    induction l with
    | nil => rfl
    | cons a l ih =>
      rw [List.map_cons, List.mapM_cons, ih]
      simp
  toJson_ne_null _ := by simp

/-! ## Records -/

/-- The fields of a record: those of an object, or the elements of an array in the order of the keys. -/
def record (keys : List String) : Json → Option (String → Option Json)
  | .object members => some fun key => find key members
  | .array elements => if elements.length = keys.length then some fun key => find key (keys.zip elements) else none
  | _ => none

section Fields

variable {α : Type} [JsonCodec α] {keys : List String} {members : List (String × Json)} {key tag : String} {a : α}

/-- A field that must be there. -/
def required (fields : String → Option Json) (key : String) : Option α := (fields key).bind fromJson

/-- The value of a field that may be absent or `null`. -/
def readOptional : Option Json → Option (Option α)
  | none | some .null => some none
  | some value => (fromJson value).map some

/-- A field that may be absent or `null`. -/
def optional (fields : String → Option Json) (key : String) : Option (Option α) := readOptional (fields key)

/-- The form of an optional field. -/
def optionToJson {α : Type} [JsonForm α] : Option α → Json
  | none => .null
  | some a => toJson a

/-- The fields of an object whose members are in the order of the keys. -/
def sortedField (members : List (String × Json)) (key : String) : Option Json := (find key members).map sortKeys

theorem record_sortMembers : record keys (.object (sortMembers members)) = some (sortedField members) := by
  rw [record]
  exact congrArg some (funext fun key => find_sortMembers key members)

theorem sortedField_self {value : Json} : sortedField ((key, value) :: members) key = some value.sortKeys := by
  rw [sortedField, find_cons, if_pos rfl, Option.map_some]

theorem sortedField_of_ne {other : String} {value : Json} (h : key ≠ other) :
    sortedField ((other, value) :: members) key = sortedField members key := by
  rw [sortedField, find_cons, if_neg h, sortedField]

theorem sortKeys_ne_null {value : Json} (h : value ≠ .null) : value.sortKeys ≠ .null := by
  cases value <;> simp_all [sortKeys]

theorem readOptional_optionToJson (o : Option α) : readOptional (some (optionToJson o).sortKeys) = some o := by
  cases o with
  | none => rfl
  | some a =>
    have hne := sortKeys_ne_null (toJson_ne_null a)
    show readOptional (some (toJson a).sortKeys) = _
    unfold readOptional
    split
    · rename_i heq
      cases heq
    · rename_i heq
      exact absurd (Option.some.inj heq) hne
    · rename_i value _ heq
      rw [← Option.some.inj heq, fromJson_toJson, Option.map_some]

-- The reader of a record goes through its fields in order, so the simp set rewrites one bind at a time. The keys are
-- compared by `simp`, because the kernel would unfold the texts.

variable {β : Type} {f : α → Option β} {g : Option α → Option β} {o : Option α} {other : String} {value : Json}

@[simp] theorem bind_record {h : (String → Option Json) → Option β} :
    (record keys (.object (sortMembers members)) >>= h) = h (sortedField members) := by
  rw [record_sortMembers]
  rfl

@[simp] theorem bind_required_self : (required (sortedField ((key, toJson a) :: members)) key >>= f) = f a := by
  rw [required, sortedField_self]
  simp

@[simp] theorem bind_required_of_ne (h : key ≠ other) :
    (required (sortedField ((other, value) :: members)) key >>= f) = (required (sortedField members) key >>= f) := by
  rw [required, sortedField_of_ne h, required]

@[simp] theorem bind_optional_self :
    (optional (sortedField ((key, optionToJson o) :: members)) key >>= g) = g o := by
  rw [optional, sortedField_self, readOptional_optionToJson]
  rfl

@[simp] theorem bind_optional_of_ne (h : key ≠ other) :
    (optional (sortedField ((other, value) :: members)) key >>= g) = (optional (sortedField members) key >>= g) := by
  rw [optional, sortedField_of_ne h, optional]

end Fields

/-! ## Enumerations -/

/-- Finitely many values with distinct names. -/
class Enumeration (α : Type) where
  all : List α
  name : α → String
  mem_all : ∀ a, a ∈ all
  name_injective : ∀ a b, name a = name b → a = b

/-- The name of a unit variant: a string, or an object with the name as its one key. -/
def unitName : Json → Option String
  | .string name => some name
  | .object [(name, .null)] => some name
  | _ => none

instance {α : Type} [Enumeration α] : JsonCodec α where
  toJson a := .string (Enumeration.name a)
  fromJson value := (unitName value).bind fun name => Enumeration.all.find? fun a => Enumeration.name a = name
  fromJson_toJson a := by
    show Enumeration.all.find? (fun b => Enumeration.name b = Enumeration.name a) = some a
    have hsome : (Enumeration.all.find? fun b : α => Enumeration.name b = Enumeration.name a).isSome := by
      rw [List.find?_isSome]
      exact ⟨a, Enumeration.mem_all a, decide_eq_true rfl⟩
    obtain ⟨b, hb⟩ := Option.isSome_iff_exists.mp hsome
    have hname : Enumeration.name b = Enumeration.name a := by simpa using List.find?_some hb
    rw [hb, Enumeration.name_injective b a hname]
  toJson_ne_null _ := by simp

/-! ## Tagged variants -/

/-- The variant that a tag names, with the other fields. -/
def tagged (tag : String) : Json → Option (String × Json)
  | .object members =>
    match find tag members with
    | some (.string variant) => some (variant, .object (remove tag members))
    | _ => none
  | .array (.string variant :: elements) => some (variant, .array elements)
  | _ => none

/-- The fields of a variant after its tag. -/
def untagged (tag : String) (members : List (String × Json)) : Json :=
  .object (remove tag (sortMembers members))

/-- The fields after a tag. -/
def untaggedField (tag : String) (members : List (String × Json)) (key : String) : Option Json :=
  if key = tag then none else sortedField members key

section Tags

variable {α β : Type} [JsonCodec α] {keys : List String} {members : List (String × Json)} {key tag variant : String}
  {f : α → Option β} {g : Option α → Option β}

@[simp] theorem bind_tagged {h : String × Json → Option β} :
    (tagged tag (.object (sortMembers ((tag, .string variant) :: members))) >>= h) =
      h (variant, untagged tag ((tag, .string variant) :: members)) := by
  rw [tagged, find_sortMembers, find_cons, if_pos rfl]
  rfl

@[simp] theorem bind_record_untagged {h : (String → Option Json) → Option β} :
    (record keys (untagged tag members) >>= h) = h (untaggedField tag members) := by
  rw [untagged, record]
  exact congrArg h (funext fun key => by rw [find_remove, find_sortMembers, untaggedField, sortedField])

@[simp] theorem bind_required_untagged (h : key ≠ tag) :
    (required (untaggedField tag members) key >>= f) = (required (sortedField members) key >>= f) := by
  rw [required, untaggedField, if_neg h, required]

@[simp] theorem bind_optional_untagged (h : key ≠ tag) :
    (optional (untaggedField tag members) key >>= g) = (optional (sortedField members) key >>= g) := by
  rw [optional, untaggedField, if_neg h, optional]

end Tags

/-! ## Sorted maps -/

/-- A value whose objects are maps in the order of their keys. -/
structure JsonValue where
  json : Json
  canonical : json.sortKeys = json

/-- An object whose members, at every depth, are in the order of their keys. -/
structure JsonMap where
  members : List (String × Json)
  canonical : sortMembers members = members

@[ext] theorem JsonMap.ext {a b : JsonMap} (h : a.members = b.members) : a = b := by
  cases a
  cases b
  cases h
  rfl

namespace JsonMap

def empty : JsonMap := ⟨[], by rw [sortMembers]⟩

def find (self : JsonMap) (key : String) : Option Json := Json.find key self.members

def remove (self : JsonMap) (key : String) : JsonMap where
  members := Json.remove key self.members
  canonical := by
    obtain ⟨hsorted, hvalues⟩ := sortMembers_eq_self.mp self.canonical
    exact sortMembers_eq_self.mpr ⟨hsorted.filter _, fun member hmember => hvalues member (List.mem_of_mem_filter hmember)⟩

def insert (self : JsonMap) (key : String) (value : JsonValue) : JsonMap where
  members := Json.insert key value.json self.members
  canonical := by
    obtain ⟨hsorted, hvalues⟩ := sortMembers_eq_self.mp self.canonical
    refine sortMembers_eq_self.mpr ⟨hsorted.insert, fun member hmember => ?_⟩
    rcases mem_insert hmember with rfl | hmember
    · exact value.canonical
    · exact hvalues member hmember

variable {map : JsonMap} {key other : String} {value : JsonValue}

@[simp] theorem find_insert : (map.insert other value).find key = if key = other then some value.json else map.find key :=
  Json.find_insert

@[simp] theorem find_remove : (map.remove other).find key = if key = other then none else map.find key :=
  Json.find_remove

theorem remove_insert (h : map.find key = none) : (map.insert key value).remove key = map :=
  JsonMap.ext (Json.remove_insert h)

/-- A value is put back when it is removed only if there was none. -/
theorem remove_insert_eq : (map.insert key value).remove key = map ↔ map.find key = none := by
  constructor
  · intro h
    rw [← h, find_remove, if_pos rfl]
  · exact remove_insert

end JsonMap

namespace JsonValue

def string (value : String) : JsonValue := ⟨.string value, rfl⟩

def object (map : JsonMap) : JsonValue := ⟨.object map.members, by rw [sortKeys_object, map.canonical]⟩

def asObject : JsonValue → Option JsonMap
  | ⟨.object members, h⟩ => some ⟨members, by rw [sortKeys_object] at h; exact Json.object.inj h⟩
  | _ => none

/-- The value of a type with a JSON form. -/
def of {α : Type} [JsonForm α] (a : α) : JsonValue := ⟨(toJson a).sortKeys, sortKeys_sortKeys _⟩

@[simp] theorem asObject_object (map : JsonMap) : (object map).asObject = some map := rfl

/-- The members of a form that is an object. -/
theorem asObject_of {α : Type} [JsonForm α] {a : α} {members : List (String × Json)}
    (h : toJson a = .object members) : (of a).asObject = some ⟨sortMembers members, sortMembers_sortMembers members⟩ := by
  have hvalue : of a = object ⟨sortMembers members, sortMembers_sortMembers members⟩ := by
    simp only [of, object, h, sortKeys_object]
  rw [hvalue, asObject_object]

end JsonValue

end Slotpilot.Lib
