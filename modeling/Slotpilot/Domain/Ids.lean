import Mathlib

/-!
# Typed identities

An identity is a text with the prefix of its type and a payload of 8 to 64 lowercase ASCII letters and digits. The types
differ in the prefix only.
-/

set_option autoImplicit false

namespace Slotpilot.Domain

/-- Failure parsing a typed identity. -/
inductive IdError
  | wrongPrefix (expected : String)
  | invalidLength
  | invalidCharacter
  deriving DecidableEq

/-- A byte of the portable wire alphabet. -/
def isIdCharacter (c : Char) : Bool := ('a' ≤ c && c ≤ 'z') || ('0' ≤ c && c ≤ '9')

/-- The checks of an identity with the prefix `tag`, in the order of the source; the length is in bytes. -/
def validateId (tag value : String) : Except IdError Unit :=
  match value.toList.dropPrefix? tag.toList with
  | none => .error (.wrongPrefix tag)
  | some payload =>
    let length := (payload.map Char.utf8Size).sum
    if length < 8 ∨ 64 < length then .error .invalidLength
    else if payload.all isIdCharacter then .ok ()
    else .error .invalidCharacter

/-- Identity with the prefix `tag`. -/
structure TypedId (tag : String) where
  text : String
  valid : validateId tag text = .ok ()
  deriving DecidableEq

def TypedId.fromStr (tag value : String) : Except IdError (TypedId tag) :=
  match h : validateId tag value with
  | .ok () => .ok ⟨value, h⟩
  | .error e => .error e

/-- A text is an identity when it is the prefix and a payload of the wire alphabet, 8 to 64 bytes long. -/
theorem validateId_ok {tag value : String} :
    validateId tag value = .ok () ↔ ∃ payload, value.toList = tag.toList ++ payload ∧
      (8 ≤ (payload.map Char.utf8Size).sum ∧ (payload.map Char.utf8Size).sum ≤ 64) ∧
      payload.all isIdCharacter = true := by
  unfold validateId
  cases hp : value.toList.dropPrefix? tag.toList with
  | none =>
    simp only [reduceCtorEq, false_iff]
    rintro ⟨payload, hvalue, -⟩
    rw [hvalue, List.dropPrefix?_append_of_beq payload (BEq.refl tag.toList)] at hp
    cases hp
  | some rest =>
    obtain hvalue : value.toList = tag.toList ++ rest := by
      obtain ⟨front, hfront, hbeq⟩ := List.dropPrefix?_eq_some_iff.mp hp
      rw [hfront, eq_of_beq hbeq]
    simp only [hvalue, List.append_cancel_left_eq]
    constructor
    · intro h
      split at h
      · cases h
      · rename_i hlength
        split at h
        · rename_i hall
          exact ⟨rest, rfl, by omega, hall⟩
        · cases h
    · rintro ⟨payload, rfl, hlength, hall⟩
      rw [if_neg (by omega), if_pos hall]

/-- Identity assigned to an operational event. -/
abbrev EventId : Type := TypedId "evt_"

/-- Identity of one running daemon process generation. -/
abbrev ServiceInstanceId : Type := TypedId "svc_"

/-- Identity of one immutable profile revision. -/
abbrev ProfileRevisionId : Type := TypedId "prv_"

@[ext] theorem TypedId.ext {tag : String} {a b : TypedId tag} (h : a.text = b.text) : a = b := by
  cases a
  cases b
  cases h
  rfl

@[simp] theorem TypedId.fromStr_ok {tag value : String} {id : TypedId tag} :
    TypedId.fromStr tag value = .ok id ↔ id.text = value := by
  unfold TypedId.fromStr
  split
  · rw [Except.ok.injEq, eq_comm, TypedId.ext_iff]
  · rename_i e h
    simp only [reduceCtorEq, false_iff]
    rintro rfl
    rw [id.valid] at h
    cases h

/-! ## Requests and commands -/

/-- Identity of a client request. -/
abbrev RequestId : Type := TypedId "req_"

/-- Identity of an accepted command. -/
abbrev CommandId : Type := TypedId "cmd_"

/-- The command identity of a request: the payload of the request under the prefix of a command. -/
def CommandId.forRequest (requestId : RequestId) : CommandId where
  text := "cmd_" ++ String.ofList (requestId.text.toList.drop "req_".length)
  valid := by
    obtain ⟨payload, hvalue, hrest⟩ := validateId_ok.mp requestId.valid
    refine validateId_ok.mpr ⟨payload, ?_, hrest⟩
    have hdrop : requestId.text.toList.drop "req_".length = payload := by
      rw [hvalue]
      exact List.drop_left
    rw [hdrop, String.toList_append, String.toList_ofList (l := payload)]

end Slotpilot.Domain
