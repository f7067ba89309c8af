import Slotpilot.Api.Encoding

/-!
# Event payloads

The payload of an event is written as an object with its kind among the fields of its value, and read back by its kind.
Events of an unknown kind keep their fields.

* `EventPayload.fromMap_toMap`: a payload is read back as itself exactly when it is `Recoverable`.
-/

set_option autoImplicit false

namespace Slotpilot.Api

open Lib Domain Json

/-- Observational payload of an event. -/
inductive EventPayload
  | phase0Notice (message : String)
  | receiveLifecycle (value : ReceiveLifecycleSnapshot)
  | receiveDecode (value : ReceiveRecordSummary)
  | receiveHealth (value : ReceiveHealthSnapshot)
  | receiveDiscontinuity (value : ReceiveDiscontinuity)
  | waterfallFrame (value : WaterfallFrame)
  | unknown (kind : String) (fields : JsonMap)

/-- The fields of a value with its kind. -/
def eventObject {α : Type} [JsonForm α] (kind : String) (value : α) : JsonMap :=
  ((JsonValue.of value).asObject.getD .empty).insert "kind" (.string kind)

/-- The kinds that have a payload type of their own. -/
def knownKinds : List String :=
  ["phase0_notice", "receive_lifecycle", "receive_decode", "receive_health", "receive_discontinuity", "waterfall_frame"]

namespace EventPayload

/-- The object that a payload is written as. -/
def toMap : EventPayload → JsonMap
  | .phase0Notice message =>
    (JsonMap.empty.insert "kind" (.string "phase0_notice")).insert "message" (.string message)
  | .receiveLifecycle value => eventObject "receive_lifecycle" value
  | .receiveDecode value => eventObject "receive_decode" value
  | .receiveHealth value => eventObject "receive_health" value
  | .receiveDiscontinuity value => eventObject "receive_discontinuity" value
  | .waterfallFrame value => eventObject "waterfall_frame" value
  | .unknown kind fields => fields.insert "kind" (.string kind)

/-- A field that is a text. -/
def asStr : Json → Option String
  | .string value => some value
  | _ => none

/-- The payload that an object stands for. -/
def fromMap (object : JsonMap) : Option EventPayload := do
  let kind ← (object.find "kind").bind asStr
  let object := object.remove "kind"
  let known := Json.object object.members
  if kind = "phase0_notice" then (object.find "message").bind asStr |>.map .phase0Notice
  else if kind = "receive_lifecycle" then (fromJson known).map .receiveLifecycle
  else if kind = "receive_decode" then (fromJson known).map .receiveDecode
  else if kind = "receive_health" then (fromJson known).map .receiveHealth
  else if kind = "receive_discontinuity" then (fromJson known).map .receiveDiscontinuity
  else if kind = "waterfall_frame" then (fromJson known).map .waterfallFrame
  else some (.unknown kind object)

/-- The bounds of a payload. -/
def validate : EventPayload → Except WireBoundError Unit
  | .phase0Notice message => if message.utf8ByteSize ≤ 512 then .ok () else .error .exceeded
  | .receiveLifecycle _ | .receiveHealth _ | .receiveDiscontinuity _ => .ok ()
  | .receiveDecode record => record.validate
  | .waterfallFrame frame => frame.validate
  | .unknown kind fields =>
    if kind.isEmpty = false ∧ kind.utf8ByteSize ≤ 64 ∧ fields.members.length ≤ 64 then .ok () else .error .exceeded

/-- The payload has a type of its own, or its kind is unknown and its fields leave the kind free. -/
def Recoverable : EventPayload → Prop
  | .unknown kind fields => kind ∉ knownKinds ∧ fields.find "kind" = none
  | _ => True

/-! ## Reading back -/

section Known

variable {α : Type} [JsonCodec α] {kind : String} {value : α} {members : List (String × Json)}

theorem find_eventObject : (eventObject kind value).find "kind" = some (.string kind) := by
  rw [eventObject, JsonMap.find_insert, if_pos rfl]
  rfl

/-- The fields of a value whose form is an object without a kind. -/
theorem remove_eventObject (hjson : toJson value = .object members) (hkind : Json.find "kind" members = none) :
    ((eventObject kind value).remove "kind").members = sortMembers members := by
  have hfree : JsonMap.find ⟨sortMembers members, sortMembers_sortMembers members⟩ "kind" = none := by
    rw [JsonMap.find, find_sortMembers, hkind, Option.map_none]
  rw [eventObject, JsonValue.asObject_of hjson, Option.getD_some, JsonMap.remove_insert hfree]

/-- The value of a known kind is read back from its fields. -/
theorem fromJson_eventObject (hjson : toJson value = .object members) (hkind : Json.find "kind" members = none) :
    fromJson (.object ((eventObject kind value).remove "kind").members) = some value := by
  rw [remove_eventObject hjson hkind, ← sortKeys_object, ← hjson, fromJson_toJson]

end Known

/-- An object is read by its kind. -/
theorem fromMap_of_kind {object : JsonMap} {kind : String} (h : object.find "kind" = some (.string kind)) :
    fromMap object =
      (let rest := object.remove "kind"
       let known := Json.object rest.members
       if kind = "phase0_notice" then (rest.find "message").bind asStr |>.map .phase0Notice
       else if kind = "receive_lifecycle" then (fromJson known).map .receiveLifecycle
       else if kind = "receive_decode" then (fromJson known).map .receiveDecode
       else if kind = "receive_health" then (fromJson known).map .receiveHealth
       else if kind = "receive_discontinuity" then (fromJson known).map .receiveDiscontinuity
       else if kind = "waterfall_frame" then (fromJson known).map .waterfallFrame
       else some (.unknown kind rest)) := by
  rw [fromMap, h]
  rfl

theorem fromMap_of_unknown {object : JsonMap} {kind : String} (h : object.find "kind" = some (.string kind))
    (hkind : kind ∉ knownKinds) : fromMap object = some (.unknown kind (object.remove "kind")) := by
  simp only [knownKinds, List.mem_cons, List.not_mem_nil, or_false, not_or] at hkind
  rw [fromMap_of_kind h]
  simp only [hkind, if_false]

/-- An object of a known kind is not read as one of an unknown kind. -/
theorem fromMap_of_known {object : JsonMap} {kind : String} (h : object.find "kind" = some (.string kind))
    (hkind : kind ∈ knownKinds) (other : String) (fields : JsonMap) : fromMap object ≠ some (.unknown other fields) := by
  rw [fromMap_of_kind h]
  simp only [knownKinds, List.mem_cons, List.not_mem_nil, or_false] at hkind
  rcases hkind with rfl | rfl | rfl | rfl | rfl | rfl
  all_goals simp [Option.bind_eq_some_iff]

theorem fromMap_phase0Notice (message : String) : fromMap (toMap (.phase0Notice message)) = some (.phase0Notice message) := by
  have hkind : (toMap (.phase0Notice message)).find "kind" = some (.string "phase0_notice") := by
    simp [toMap, JsonValue.string]
  have hmessage : ((toMap (.phase0Notice message)).remove "kind").find "message" = some (.string message) := by
    simp [toMap, JsonValue.string]
  rw [fromMap_of_kind hkind]
  simp only [if_true, hmessage]
  rfl

theorem fromMap_known (payload : EventPayload) (hknown : ∀ kind fields, payload ≠ .unknown kind fields) :
    fromMap payload.toMap = some payload := by
  cases payload with
  | phase0Notice message => exact fromMap_phase0Notice message
  | receiveLifecycle value =>
    have hread : fromJson (.object ((eventObject "receive_lifecycle" value).remove "kind").members) = some value := by
      cases value
      all_goals exact fromJson_eventObject rfl (by simp)
    rw [toMap, fromMap_of_kind find_eventObject]
    simp [hread]
  | receiveDecode value =>
    have hread : fromJson (.object ((eventObject "receive_decode" value).remove "kind").members) = some value :=
      fromJson_eventObject rfl (by simp)
    rw [toMap, fromMap_of_kind find_eventObject]
    simp [hread]
  | receiveHealth value =>
    have hread : fromJson (.object ((eventObject "receive_health" value).remove "kind").members) = some value :=
      fromJson_eventObject rfl (by simp)
    rw [toMap, fromMap_of_kind find_eventObject]
    simp [hread]
  | receiveDiscontinuity value =>
    have hread : fromJson (.object ((eventObject "receive_discontinuity" value).remove "kind").members) = some value :=
      fromJson_eventObject rfl (by simp)
    rw [toMap, fromMap_of_kind find_eventObject]
    simp [hread]
  | waterfallFrame value =>
    have hread : fromJson (.object ((eventObject "waterfall_frame" value).remove "kind").members) = some value :=
      fromJson_eventObject rfl (by simp)
    rw [toMap, fromMap_of_kind find_eventObject]
    simp [hread]
  | unknown kind fields => exact absurd rfl (hknown kind fields)

/-- **Payloads that are read back**: a payload is read back as itself exactly when it is recoverable. -/
theorem fromMap_toMap (payload : EventPayload) : fromMap payload.toMap = some payload ↔ payload.Recoverable := by
  cases payload with
  | unknown kind fields =>
    have hkind : (fields.insert "kind" (.string kind)).find "kind" = some (.string kind) := by
      rw [JsonMap.find_insert, if_pos rfl]
      rfl
    by_cases hknown : kind ∈ knownKinds
    · exact ⟨fun h => absurd h (fromMap_of_known hkind hknown kind fields), fun h => absurd hknown h.1⟩
    · rw [toMap, fromMap_of_unknown hkind hknown, Option.some.injEq, EventPayload.unknown.injEq,
        JsonMap.remove_insert_eq]
      exact ⟨fun h => ⟨hknown, h.2⟩, fun h => ⟨rfl, h.2⟩⟩
  | phase0Notice | receiveLifecycle | receiveDecode | receiveHealth | receiveDiscontinuity | waterfallFrame =>
    exact ⟨fun _ => trivial, fun _ => fromMap_known _ (by simp)⟩

end EventPayload

end Slotpilot.Api
