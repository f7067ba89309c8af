import Slotpilot.Api.EventPayload
import Slotpilot.Api.Subscription
import Slotpilot.Lib.JsonSize

/-!
# Sizes of the bounded responses

The forms of the responses with a bounded collection, and the number of bytes of their compact text. Each type has a
constant for its keys, braces, colons and commas; the rest is the digits of its numbers and the bytes of its texts.

* `sized_eventObject`: the size of a payload is that of its value and of its kind;
* `sized_outcome`: the size of the outcome of a subscription.
-/

set_option autoImplicit false

namespace Slotpilot.Api

open Lib Domain Json

/-! ## The receive vocabulary -/

instance : JsonSize InputDeviceIdentity where
  jsonBytes self := 26 + [jsonBytes self.platform, jsonBytes self.opaqueId].sum
  sized self := sized_object (by simp) (by simp only [List.map]; decide) (by simp)

instance : JsonSize InputConfiguration where
  jsonBytes self :=
    68 + [jsonBytes self.sampleRateHz, jsonBytes self.channels, jsonBytes self.sampleFormat,
      jsonBytes self.selectedChannel].sum
  sized self := sized_object (by simp) (by simp only [List.map]; decide) (by simp)

instance : JsonSize ReceiveSelection where
  jsonBytes self := 37 + [jsonBytes self.deviceIdentity, jsonBytes self.configuration].sum
  sized self := sized_object (by simp) (by simp only [List.map]; decide) (by simp)

instance : JsonSize ReceiveLifecycleSnapshot where
  jsonBytes
    | .stopped lastStreamGeneration => 36 + [9, jsonBytes lastStreamGeneration].sum
    | .starting streamGeneration => 31 + [10, jsonBytes streamGeneration].sum
    | .receiving streamGeneration => 31 + [11, jsonBytes streamGeneration].sum
    | .inhibited streamGeneration reason => 41 + [11, jsonBytes streamGeneration, jsonBytes reason].sum
    | .stopping streamGeneration => 31 + [10, jsonBytes streamGeneration].sum
  sized self := by
    cases self
    all_goals
      refine sized_object (.cons (sized_text (by decide)) (by simp)) ?_ (by simp)
      simp only [List.map]
      decide

instance : JsonSize ReceiveAudioHealth where
  jsonBytes self :=
    117 + [jsonBytes self.latencyMillis, jsonBytes self.driftPartsPerMillion, jsonBytes self.overflowCount,
      jsonBytes self.clippedSampleCount, jsonBytes self.maxCallbackDelayMillis].sum
  sized self := sized_object (by simp) (by simp only [List.map]; decide) (by simp)

instance : JsonSize ReceiveClockHealth where
  jsonBytes
    | .healthy mappingAgeMillis => 32 + [9, jsonBytes mappingAgeMillis].sum
    | .unhealthy reason recoveryProgress recoveryRequired mappingAgeMillis =>
      84 + [11, jsonBytes reason, jsonBytes recoveryProgress, jsonBytes recoveryRequired,
        jsonBytes mappingAgeMillis].sum
  sized self := by
    cases self
    all_goals
      refine sized_object (.cons (sized_text (by decide)) (by simp)) ?_ (by simp)
      simp only [List.map]
      decide

instance {tag : String} : JsonSize (TypedId tag) where
  jsonBytes self := escapedBytes self.text + 2
  sized self := sized_string self.text

instance : JsonSize Ft8Classification where
  jsonBytes
    | .resolved canonicalText sender recipient messageClass =>
      67 + [10, jsonBytes canonicalText, jsonBytes sender, optionBytes recipient, jsonBytes messageClass].sum
    | .unresolvedHash canonicalText detail => 37 + [17, jsonBytes canonicalText, jsonBytes detail].sum
    | .unsupported canonicalText detail => 37 + [13, jsonBytes canonicalText, jsonBytes detail].sum
    | .ambiguous canonicalText detail => 37 + [11, jsonBytes canonicalText, jsonBytes detail].sum
    | .freeText text => 17 + [11, jsonBytes text].sum
  sized self := by
    cases self
    all_goals
      refine sized_object (.cons (sized_text (by decide)) (by simp)) ?_ (by simp)
      simp only [List.map]
      decide

instance : JsonSize Ft8Decode where
  jsonBytes self :=
    86 + [jsonBytes self.startOffsetMillis, jsonBytes self.audioFrequencyHz, jsonBytes self.signalToNoiseDb,
      jsonBytes self.classification].sum
  sized self := sized_object (by simp) (by simp only [List.map]; decide) (by simp)

instance : JsonSize ReceiveRecordSummary where
  jsonBytes self :=
    101 + [jsonBytes self.sequence, jsonBytes self.receiveWindowId, jsonBytes self.slotStartUtcMillis,
      jsonBytes self.selection, jsonBytes self.audio, jsonBytes self.clock, jsonBytes self.decodes].sum
  sized self := sized_object (by simp) (by simp only [List.map]; decide) (by simp)

instance : JsonSize ReceiveHealthSnapshot where
  jsonBytes self := 32 + [jsonBytes self.lifecycle, optionBytes self.audio, optionBytes self.clock].sum
  sized self := sized_object (by simp) (by simp only [List.map]; decide) (by simp)

instance : JsonSize ReceiveDiscontinuity where
  jsonBytes self := 50 + [jsonBytes self.streamGeneration, jsonBytes self.reason, jsonBytes self.droppedFrames].sum
  sized self := sized_object (by simp) (by simp only [List.map]; decide) (by simp)

instance : JsonSize WaterfallBin where
  jsonBytes self := 45 + [jsonBytes self.frequencyMillihz, jsonBytes self.magnitudeMillidbfs].sum
  sized self := sized_object (by simp) (by simp only [List.map]; decide) (by simp)

instance : JsonSize WaterfallFrame where
  jsonBytes self :=
    80 + [jsonBytes self.streamGeneration, jsonBytes self.utcUnixMillis, jsonBytes self.frameSequence,
      jsonBytes self.coalesced, jsonBytes self.bins].sum
  sized self := sized_object (by simp) (by simp only [List.map]; decide) (by simp)

/-! ## Event payloads -/

instance : JsonForm EventPayload where
  toJson self := .object self.toMap.members

/-- A map is in the order of its keys. -/
theorem sized_map {map : JsonMap} {size : Nat} (h : bytes (.object map.members) = size) :
    Sized (.object map.members) size := by
  refine ⟨h, ?_⟩
  rw [sortKeys_object, map.canonical, h]

theorem kind_bytes : escapedBytes "kind" = 4 := by decide

/-- The kind of a value and its fields. -/
theorem sized_eventObject {α : Type} [JsonCodec α] [JsonSize α] {kind : String} {value : α}
    {members : List (String × Json)} (hjson : toJson value = .object members) (hne : members ≠ [])
    (hkind : Json.find "kind" members = none) {constant : Nat} (hconstant : escapedBytes kind + 10 = constant) :
    Sized (.object (eventObject kind value).members) (constant + jsonBytes value) := by
  have hmembers : (eventObject kind value).members = Json.insert "kind" (.string kind) (sortMembers members) := by
    rw [eventObject, JsonValue.asObject_of hjson]
    rfl
  have hfree : Json.find "kind" (sortMembers members) = none := by
    rw [find_sortMembers, hkind, Option.map_none]
  have hsorted : sortMembers members ≠ [] := by
    cases members with
    | nil => exact absurd rfl hne
    | cons head members =>
      rw [sortMembers]
      exact insert_ne_nil
  have hvalue : 1 + memberBytes (sortMembers members) = jsonBytes value := by
    rw [← bytes_members hsorted, ← sortKeys_object, ← hjson, (sized value).sorted]
  refine sized_map ?_
  rw [hmembers, bytes_insert (sorted_sortMembers members), remove_eq_self hfree, bytes_string, kind_bytes]
  omega

instance : JsonSize EventPayload where
  jsonBytes
    | .phase0Notice message => 37 + escapedBytes message
    | .receiveLifecycle value => 27 + jsonBytes value
    | .receiveDecode value => 24 + jsonBytes value
    | .receiveHealth value => 24 + jsonBytes value
    | .receiveDiscontinuity value => 31 + jsonBytes value
    | .waterfallFrame value => 25 + jsonBytes value
    | .unknown kind fields => 11 + escapedBytes kind + memberBytes (fields.remove "kind").members
  sized self := by
    cases self with
    | phase0Notice message =>
      refine sized_map ?_
      have hmembers : (EventPayload.phase0Notice message).toMap.members =
          Json.insert "message" (.string message) [("kind", .string "phase0_notice")] := rfl
      have hkeys : escapedBytes "message" = 7 ∧ escapedBytes "phase0_notice" = 13 := by decide
      rw [hmembers, bytes_insert (List.pairwise_singleton _ _), Json.remove, List.filter_cons_of_pos (by decide),
        List.filter_nil, memberBytes_cons, memberBytes_nil, bytes_string, bytes_string, kind_bytes, hkeys.1, hkeys.2]
      show _ = 37 + escapedBytes message
      omega
    | receiveLifecycle value => cases value <;> exact sized_eventObject rfl (by simp) (by simp) (by decide)
    | receiveDecode value => exact sized_eventObject rfl (by simp) (by simp) (by decide)
    | receiveHealth value => exact sized_eventObject rfl (by simp) (by simp) (by decide)
    | receiveDiscontinuity value => exact sized_eventObject rfl (by simp) (by simp) (by decide)
    | waterfallFrame value => exact sized_eventObject rfl (by simp) (by simp) (by decide)
    | unknown kind fields =>
      refine sized_map ?_
      have hmembers : (EventPayload.unknown kind fields).toMap.members =
          Json.insert "kind" (.string kind) fields.members := rfl
      rw [hmembers, bytes_insert (sortMembers_eq_self.mp fields.canonical).1, bytes_string, kind_bytes]
      show _ = 11 + escapedBytes kind + memberBytes (Json.remove "kind" fields.members)
      omega

/-! ## Responses -/

instance : JsonForm ReceiveHistoryPage where
  toJson self := .object
    [("records", toJson self.records), ("next_sequence", toJson self.nextSequence), ("has_more", toJson self.hasMore)]

instance : JsonSize ReceiveHistoryPage where
  jsonBytes self := 41 + [jsonBytes self.records, jsonBytes self.nextSequence, jsonBytes self.hasMore].sum
  sized self := sized_object (by simp) (by simp only [List.map]; decide) (by simp)

instance : Enumeration SubscriptionInvalidReason where
  all := [.incompatibleApiVersion, .invalidLimit]
  name
    | .incompatibleApiVersion => "incompatible_api_version"
    | .invalidLimit => "invalid_limit"
  mem_all a := by cases a <;> decide
  name_injective a b h := by cases a <;> cases b <;> first | rfl | (exact absurd h (by decide))

instance : JsonForm EventCursor where
  toJson self := .object
    [("service_instance_id", toJson self.serviceInstanceId), ("sequence", .int self.sequence)]

instance : JsonSize EventCursor where
  jsonBytes self := 36 + [jsonBytes self.serviceInstanceId, intBytes self.sequence].sum
  sized self := sized_object (by simp [sized_int]) (by simp only [List.map]; decide) (by simp)

instance : JsonForm (EventEnvelope EventPayload) where
  toJson self := .object
    [("api_version", .int self.apiVersion), ("service_instance_id", toJson self.serviceInstanceId),
      ("sequence", .int self.sequence), ("event_id", toJson self.eventId),
      ("occurred_utc_millis", .int self.occurredUtcMillis), ("event", toJson self.event)]

instance : JsonSize (EventEnvelope EventPayload) where
  jsonBytes self :=
    95 + [intBytes self.apiVersion, jsonBytes self.serviceInstanceId, intBytes self.sequence, jsonBytes self.eventId,
      intBytes self.occurredUtcMillis, jsonBytes self.event].sum
  sized self := sized_object (by simp [sized_int]) (by simp only [List.map]; decide) (by simp)

/-- The name and the payload of a replay outcome. -/
def outcomeForm : SubscriptionOutcome EventPayload → String × Json
  | .events events nextCursor hasMore =>
    ("events", .object [("events", toJson events), ("next_cursor", toJson nextCursor), ("has_more", toJson hasMore)])
  | .cursorGap requested earliestAvailable =>
    ("cursor_gap", .object [("requested", toJson requested), ("earliest_available", toJson earliestAvailable)])
  | .cursorUnavailable requested latestAvailable =>
    ("cursor_unavailable", .object [("requested", toJson requested), ("latest_available", toJson latestAvailable)])
  | .incompatibleGeneration requestedServiceInstanceId currentServiceInstanceId =>
    ("incompatible_generation",
      .object
        [("requested_service_instance_id", toJson requestedServiceInstanceId),
          ("current_service_instance_id", toJson currentServiceInstanceId)])
  | .invalidRequest reason => ("invalid_request", .object [("reason", toJson reason)])

instance : JsonForm (SubscriptionResponse EventPayload) where
  toJson self := .object
    [("api_version", .int self.apiVersion), ("outcome", .string (outcomeForm self.outcome).1),
      ("payload", (outcomeForm self.outcome).2)]

/-- The sizes of the name and the payload of a replay outcome. -/
def outcomeBytes : SubscriptionOutcome EventPayload → Nat × Nat
  | .events events nextCursor hasMore => (8, 38 + [jsonBytes events, jsonBytes nextCursor, jsonBytes hasMore].sum)
  | .cursorGap requested earliestAvailable => (12, 36 + [jsonBytes requested, jsonBytes earliestAvailable].sum)
  | .cursorUnavailable requested latestAvailable => (20, 34 + [jsonBytes requested, jsonBytes latestAvailable].sum)
  | .incompatibleGeneration requestedServiceInstanceId currentServiceInstanceId =>
    (25, 65 + [jsonBytes requestedServiceInstanceId, jsonBytes currentServiceInstanceId].sum)
  | .invalidRequest reason => (17, 11 + [jsonBytes reason].sum)

theorem sized_outcome (outcome : SubscriptionOutcome EventPayload) :
    Sized (.string (outcomeForm outcome).1) (outcomeBytes outcome).1 ∧
      Sized (outcomeForm outcome).2 (outcomeBytes outcome).2 := by
  cases outcome
  all_goals
    refine ⟨sized_text (by dsimp only [outcomeForm, outcomeBytes]; decide), sized_object (by simp) ?_ (by simp)⟩
    simp only [List.map]
    decide

instance : JsonSize (SubscriptionResponse EventPayload) where
  jsonBytes self :=
    38 + [intBytes self.apiVersion, (outcomeBytes self.outcome).1, (outcomeBytes self.outcome).2].sum
  sized self := by
    obtain ⟨hname, hpayload⟩ := sized_outcome self.outcome
    refine sized_object (.cons (sized_int _) (.cons hname (.cons hpayload .nil))) ?_ (by simp)
    simp only [List.map]
    decide

end Slotpilot.Api
