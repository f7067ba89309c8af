import Mathlib

/-!
# Callsigns

A full callsign keeps the spelling it was parsed from and, besides, its base: the longest slash-separated component with
a letter and a digit, in upper case.
-/

set_option autoImplicit false

namespace Slotpilot.Domain

/-- Failure parsing a callsign. -/
inductive CallsignError
  | invalidLength
  | invalidCharacter
  | emptyComponent
  | missingBaseCall
  deriving DecidableEq

/-- The length, the alphabet and the components of a callsign; the length is in bytes. -/
def validateShape (value : String) (slashAllowed : Bool) : Except CallsignError Unit :=
  if ¬(1 ≤ value.utf8ByteSize ∧ value.utf8ByteSize ≤ 32) then .error .invalidLength
  else if !value.toList.all fun c => c.isAlphanum || (slashAllowed && c = '/') then .error .invalidCharacter
  else if (value.toList.splitOn '/').any List.isEmpty then .error .emptyComponent
  else .ok ()

/-- The last of the longest lists. -/
def longest : List (List Char) → Option (List Char)
  | [] => none
  | l :: ls =>
    match longest ls with
    | none => some l
    | some m => if m.length < l.length then some l else some m

/-- The base of a full callsign. -/
def baseOf (value : String) : Except CallsignError String := do
  validateShape value true
  let components := (value.toList.splitOn '/').filter fun component =>
    component.any Char.isAlpha && component.any Char.isDigit
  match longest components with
  | none => throw .missingBaseCall
  | some component => pure (String.ofList (component.map Char.toUpper))

/-- A full callsign exactly as supplied, with its base. -/
structure FullCallsign where
  original : String
  base : String
  parsed : baseOf original = .ok base
  deriving DecidableEq

def FullCallsign.fromStr (value : String) : Except CallsignError FullCallsign :=
  match h : baseOf value with
  | .ok base => .ok ⟨value, base, h⟩
  | .error e => .error e

/-- A callsign is read from its own spelling and from no other. -/
theorem FullCallsign.fromStr_ok {value : String} {callsign : FullCallsign} :
    FullCallsign.fromStr value = .ok callsign ↔ callsign.original = value := by
  unfold FullCallsign.fromStr
  constructor
  · intro h
    split at h
    · cases h
      rfl
    · cases h
  · rintro rfl
    split
    · rename_i base hbase
      have hsame : callsign.base = base := Except.ok.inj (callsign.parsed.symm.trans hbase)
      cases callsign
      cases hsame
      rfl
    · rename_i error herror
      rw [callsign.parsed] at herror
      cases herror

end Slotpilot.Domain
