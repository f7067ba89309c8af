import Slotpilot.Api.Commands
import Slotpilot.Api.ResponseSizes
import Slotpilot.Lib.JsonText

/-!
# The wire forms of commands and responses

The JSON of a command envelope and of a response envelope, and the readers of both. A number that the source keeps in 32 or
64 bits is a natural number in the model, so what can be written is a condition on a value (`InRange`).

* `CommandEnvelope.read_form`, `ResponseEnvelope.read_form`: a value in range is read back from its form, in whatever
  order the keys stand;
* `CommandEnvelope.fromSlice_toVec`, `ResponseEnvelope.fromSlice_toVec`: the same for the bytes;
* `Command.toVec_inj`: commands with the same bytes are the same.
-/

set_option autoImplicit false

namespace Slotpilot.Api

open Lib Domain Json

/-! ## Numbers in range -/

theorem exists_uint32 {n : Nat} (h : n < 2 ^ 32) : ∃ v : UInt32, v.toNat = n :=
  ⟨UInt32.ofNat n, UInt32.toNat_ofNat_of_lt' h⟩

theorem exists_uint64 {n : Nat} (h : n < 2 ^ 64) : ∃ v : UInt64, v.toNat = n :=
  ⟨UInt64.ofNat n, UInt64.toNat_ofNat_of_lt' h⟩

theorem exists_uint32s {l : List Nat} (h : ∀ n ∈ l, n < 2 ^ 32) : ∃ vs : List UInt32, vs.map UInt32.toNat = l := by
  induction l with
  | nil => exact ⟨[], rfl⟩
  | cons n l ih =>
    obtain ⟨hn, hl⟩ := List.forall_mem_cons.mp h
    obtain ⟨v, rfl⟩ := exists_uint32 hn
    obtain ⟨vs, rfl⟩ := ih hl
    exact ⟨v :: vs, rfl⟩

/-- The form of a list of numbers. -/
def versionsToJson (versions : List Nat) : Json := .array (versions.map fun version : Nat => .int version)

theorem int_uint32 (v : UInt32) : Json.int v.toNat = toJson v := rfl

theorem int_uint64 (v : UInt64) : Json.int v.toNat = toJson v := rfl

theorem versionsToJson_uint32s (vs : List UInt32) : versionsToJson (vs.map UInt32.toNat) = toJson vs := by
  unfold versionsToJson
  rw [List.map_map]
  rfl

/-! ## Commands -/

namespace Command

/-- The numbers of a command fit the types of the source. -/
def InRange : Command → Prop
  | .getCapabilities supportedVersions => ∀ version ∈ supportedVersions, version < 2 ^ 32
  | _ => True

def form : Command → Json
  | .getCapabilities supportedVersions => .object
    [("kind", .string "get_capabilities"), ("supported_versions", versionsToJson supportedVersions)]
  | .getSnapshot => .object [("kind", .string "get_snapshot")]
  | .noopMutation marker => .object [("kind", .string "noop_mutation"), ("marker", toJson marker)]
  | .listInputDevices => .object [("kind", .string "list_input_devices")]
  | .receiveStart selection => .object [("kind", .string "receive_start"), ("selection", toJson selection)]
  | .receiveStop => .object [("kind", .string "receive_stop")]
  | .getReceiveStatus => .object [("kind", .string "get_receive_status")]
  | .queryReceiveHistory afterSequence limit => .object
    [("kind", .string "query_receive_history"), ("after_sequence", toJson afterSequence), ("limit", toJson limit)]

/-- The command with a form whose keys are sorted. -/
def read (value : Json) : Option Command := do
  let (variant, content) ← tagged "kind" value
  if variant = "get_capabilities" then do
    let fields ← record ["supported_versions"] content
    let supportedVersions : List UInt32 ← required fields "supported_versions"
    pure (.getCapabilities (supportedVersions.map UInt32.toNat))
  else if variant = "get_snapshot" then pure .getSnapshot
  else if variant = "noop_mutation" then do
    let fields ← record ["marker"] content
    let marker ← required fields "marker"
    pure (.noopMutation marker)
  else if variant = "list_input_devices" then pure .listInputDevices
  else if variant = "receive_start" then do
    let fields ← record ["selection"] content
    let selection ← required fields "selection"
    pure (.receiveStart selection)
  else if variant = "receive_stop" then pure .receiveStop
  else if variant = "get_receive_status" then pure .getReceiveStatus
  else if variant = "query_receive_history" then do
    let fields ← record ["after_sequence", "limit"] content
    let afterSequence ← required fields "after_sequence"
    let limit ← required fields "limit"
    pure (.queryReceiveHistory afterSequence limit)
  else none

theorem read_form {command : Command} (h : command.InRange) : read command.form.sortKeys = some command := by
  unfold read form
  cases command with
  | getCapabilities supportedVersions =>
    obtain ⟨vs, rfl⟩ := exists_uint32s h
    simp [-Option.bind_eq_bind, versionsToJson_uint32s]
  | getSnapshot => simp [-Option.bind_eq_bind]
  | noopMutation marker => simp [-Option.bind_eq_bind]
  | listInputDevices => simp [-Option.bind_eq_bind]
  | receiveStart selection => simp [-Option.bind_eq_bind]
  | receiveStop => simp [-Option.bind_eq_bind]
  | getReceiveStatus => simp [-Option.bind_eq_bind]
  | queryReceiveHistory afterSequence limit => simp [-Option.bind_eq_bind]

end Command

/-! ## Fields with a reader of their own -/

section Readers

variable {α β : Type} {members : List (String × Json)} {key other : String} {value : Json} {reader : Json → Option α}
  {f : α → Option β}

/-- A field that must be there, read by a given reader. -/
def field (fields : String → Option Json) (key : String) (reader : Json → Option α) : Option α :=
  (fields key).bind reader

theorem bind_field_self {a : α} (h : reader value.sortKeys = some a) :
    (field (sortedField ((key, value) :: members)) key reader >>= f) = f a := by
  rw [field, sortedField_self, Option.bind_some, h]
  rfl

@[simp] theorem bind_field_of_ne (h : key ≠ other) :
    (field (sortedField ((other, value) :: members)) key reader >>= f) =
      (field (sortedField members) key reader >>= f) := by
  rw [field, sortedField_of_ne h, field]

end Readers

namespace CommandEnvelope

def InRange (self : CommandEnvelope) : Prop := self.apiVersion < 2 ^ 32 ∧ self.command.InRange

def form (self : CommandEnvelope) : Json := .object
  [("api_version", .int self.apiVersion), ("request_id", toJson self.requestId), ("command", self.command.form)]

/-- The envelope with a form whose keys are sorted. -/
def read (value : Json) : Option CommandEnvelope := do
  let fields ← record ["api_version", "request_id", "command"] value
  let apiVersion : UInt32 ← required fields "api_version"
  let requestId ← required fields "request_id"
  let command ← field fields "command" Command.read
  pure { apiVersion := apiVersion.toNat, requestId, command }

theorem read_form {envelope : CommandEnvelope} (h : envelope.InRange) :
    read envelope.form.sortKeys = some envelope := by
  obtain ⟨apiVersion, requestId, command⟩ := envelope
  obtain ⟨hversion, hcommand⟩ := h
  obtain ⟨version, rfl⟩ := exists_uint32 hversion
  have hread := Command.read_form hcommand
  unfold read form
  simp [-Option.bind_eq_bind, int_uint32, bind_field_self hread]

end CommandEnvelope

/-! ## Values of responses -/

instance : Enumeration Availability where
  all := [.available, .unavailable]
  name
    | .available => "available"
    | .unavailable => "unavailable"
  mem_all a := by cases a <;> decide
  name_injective a b h := by cases a <;> cases b <;> first | rfl | (exact absurd h (by decide))

instance : Enumeration ConfigurationState where
  all := [.notConfigured]
  name
    | .notConfigured => "not_configured"
  mem_all a := by cases a; decide
  name_injective a b _ := by cases a; cases b; rfl

instance : Enumeration OperationState where
  all := [.notRunning]
  name
    | .notRunning => "not_running"
  mem_all a := by cases a; decide
  name_injective a b _ := by cases a; cases b; rfl

instance : Enumeration ErrorCode where
  all := [.incompatibleApiVersion, .negotiationTooLarge, .requestIdConflict, .requestJournalRequired,
    .commandUnavailableInVersion, .receiveUnavailable, .receiveInhibited, .invalidReceiveRequest]
  name := ErrorCode.asStr
  mem_all a := by cases a <;> decide
  name_injective a b h := by cases a <;> cases b <;> first | rfl | (exact absurd h (by decide))

instance : JsonCodec InputConfigurationRange where
  toJson self := .object
    [("min_sample_rate_hz", toJson self.minSampleRateHz), ("max_sample_rate_hz", toJson self.maxSampleRateHz),
      ("channels", toJson self.channels), ("sample_format", toJson self.sampleFormat)]
  fromJson value := do
    let fields ← record ["min_sample_rate_hz", "max_sample_rate_hz", "channels", "sample_format"] value
    let minSampleRateHz ← required fields "min_sample_rate_hz"
    let maxSampleRateHz ← required fields "max_sample_rate_hz"
    let channels ← required fields "channels"
    let sampleFormat ← required fields "sample_format"
    pure { minSampleRateHz, maxSampleRateHz, channels, sampleFormat }
  fromJson_toJson self := by simp [-Option.bind_eq_bind]
  toJson_ne_null _ := by simp

instance : JsonCodec InputDevice where
  toJson self := .object
    [("identity", toJson self.identity), ("display_name", toJson self.displayName),
      ("manufacturer", optionToJson self.manufacturer), ("configuration_ranges", toJson self.configurationRanges)]
  fromJson value := do
    let fields ← record ["identity", "display_name", "manufacturer", "configuration_ranges"] value
    let identity ← required fields "identity"
    let displayName ← required fields "display_name"
    let manufacturer ← optional fields "manufacturer"
    let configurationRanges ← required fields "configuration_ranges"
    pure { identity, displayName, manufacturer, configurationRanges }
  fromJson_toJson self := by simp [-Option.bind_eq_bind]
  toJson_ne_null _ := by simp

instance : JsonCodec InputDevicePage where
  toJson self := .object [("devices", toJson self.devices)]
  fromJson value := do
    let fields ← record ["devices"] value
    let devices ← required fields "devices"
    pure { devices }
  fromJson_toJson self := by simp [-Option.bind_eq_bind]
  toJson_ne_null _ := by simp

instance : JsonCodec ReceiveStatus where
  toJson self := .object
    [("lifecycle", toJson self.lifecycle), ("selection", optionToJson self.selection),
      ("audio", optionToJson self.audio), ("clock", optionToJson self.clock)]
  fromJson value := do
    let fields ← record ["lifecycle", "selection", "audio", "clock"] value
    let lifecycle ← required fields "lifecycle"
    let selection ← optional fields "selection"
    let audio ← optional fields "audio"
    let clock ← optional fields "clock"
    pure { lifecycle, selection, audio, clock }
  fromJson_toJson self := by simp [-Option.bind_eq_bind]
  toJson_ne_null _ := by simp

instance : JsonCodec ReceiveHistoryPage where
  fromJson value := do
    let fields ← record ["records", "next_sequence", "has_more"] value
    let records ← required fields "records"
    let nextSequence ← required fields "next_sequence"
    let hasMore ← required fields "has_more"
    pure { records, nextSequence, hasMore }
  fromJson_toJson self := by
    have hform : toJson self = .object
        [("records", toJson self.records), ("next_sequence", toJson self.nextSequence),
          ("has_more", toJson self.hasMore)] := rfl
    rw [hform]
    simp [-Option.bind_eq_bind]
  toJson_ne_null _ := Json.noConfusion

namespace EventCursor

def InRange (self : EventCursor) : Prop := self.sequence < 2 ^ 64

/-- The cursor with a form whose keys are sorted. -/
def read (value : Json) : Option EventCursor := do
  let fields ← record ["service_instance_id", "sequence"] value
  let serviceInstanceId ← required fields "service_instance_id"
  let sequence : UInt64 ← required fields "sequence"
  pure { serviceInstanceId, sequence := sequence.toNat }

theorem read_toJson {cursor : EventCursor} (h : cursor.InRange) : read (toJson cursor).sortKeys = some cursor := by
  obtain ⟨serviceInstanceId, sequence⟩ := cursor
  obtain ⟨position, rfl⟩ := exists_uint64 h
  have hform : toJson (⟨serviceInstanceId, position.toNat⟩ : EventCursor) = .object
      [("service_instance_id", toJson serviceInstanceId), ("sequence", toJson position)] := rfl
  unfold read
  rw [hform]
  simp [-Option.bind_eq_bind]

end EventCursor

/-- The member of an optional value, which is left out when there is none. -/
def presentMember {α : Type} [JsonForm α] (key : String) : Option α → List (String × Json)
  | none => []
  | some value => [(key, optionToJson (some value))]

@[simp] theorem bind_optional_absent {α β : Type} [JsonCodec α] {key : String} {g : Option α → Option β} :
    (optional (sortedField []) key >>= g) = g none := rfl

namespace Capabilities

def InRange (self : Capabilities) : Prop :=
  self.negotiatedVersion < 2 ^ 32 ∧ ∀ version ∈ self.supportedVersions, version < 2 ^ 32

def form (self : Capabilities) : Json := .object
  ([("negotiated_version", .int self.negotiatedVersion), ("supported_versions", versionsToJson self.supportedVersions),
      ("service_instance_id", toJson self.serviceInstanceId), ("station_control", toJson self.stationControl)] ++
    presentMember "receive_input" self.receiveInput ++ [("transmit_authority", toJson self.transmitAuthority)])

/-- The capabilities with a form whose keys are sorted. -/
def read (value : Json) : Option Capabilities := do
  let fields ← record ["negotiated_version", "supported_versions", "service_instance_id", "station_control",
    "receive_input", "transmit_authority"] value
  let negotiatedVersion : UInt32 ← required fields "negotiated_version"
  let supportedVersions : List UInt32 ← required fields "supported_versions"
  let serviceInstanceId ← required fields "service_instance_id"
  let stationControl ← required fields "station_control"
  let receiveInput ← optional fields "receive_input"
  let transmitAuthority ← required fields "transmit_authority"
  pure { negotiatedVersion := negotiatedVersion.toNat, supportedVersions := supportedVersions.map UInt32.toNat,
         serviceInstanceId, stationControl, receiveInput, transmitAuthority }

theorem read_form {capabilities : Capabilities} (h : capabilities.InRange) :
    read capabilities.form.sortKeys = some capabilities := by
  obtain ⟨negotiatedVersion, supportedVersions, serviceInstanceId, stationControl, receiveInput, transmitAuthority⟩ :=
    capabilities
  obtain ⟨hversion, hversions⟩ := h
  obtain ⟨version, rfl⟩ := exists_uint32 hversion
  obtain ⟨versions, rfl⟩ := exists_uint32s hversions
  unfold read form
  cases receiveInput with
  | none => simp [-Option.bind_eq_bind, presentMember, int_uint32, versionsToJson_uint32s]
  | some receiveInput => simp [-Option.bind_eq_bind, presentMember, int_uint32, versionsToJson_uint32s]

end Capabilities

namespace StationSnapshot

def InRange (self : StationSnapshot) : Prop := self.eventCursor.InRange

def form (self : StationSnapshot) : Json := .object
  ([("service_instance_id", toJson self.serviceInstanceId), ("event_cursor", toJson self.eventCursor),
      ("configuration", toJson self.configuration), ("operation", toJson self.operation)] ++
    presentMember "receive" self.receive ++ [("transmit_authority", toJson self.transmitAuthority)])

/-- The snapshot with a form whose keys are sorted. -/
def read (value : Json) : Option StationSnapshot := do
  let fields ← record ["service_instance_id", "event_cursor", "configuration", "operation", "receive",
    "transmit_authority"] value
  let serviceInstanceId ← required fields "service_instance_id"
  let eventCursor ← field fields "event_cursor" EventCursor.read
  let configuration ← required fields "configuration"
  let operation ← required fields "operation"
  let receive ← optional fields "receive"
  let transmitAuthority ← required fields "transmit_authority"
  pure { serviceInstanceId, eventCursor, configuration, operation, receive, transmitAuthority }

theorem read_form {snapshot : StationSnapshot} (h : snapshot.InRange) : read snapshot.form.sortKeys = some snapshot := by
  obtain ⟨serviceInstanceId, eventCursor, configuration, operation, receive, transmitAuthority⟩ := snapshot
  have hcursor := EventCursor.read_toJson h
  unfold read form
  cases receive with
  | none => simp [-Option.bind_eq_bind, presentMember, bind_field_self hcursor]
  | some receive => simp [-Option.bind_eq_bind, presentMember, bind_field_self hcursor]

end StationSnapshot

namespace ErrorDetails

def InRange : ErrorDetails → Prop
  | .versionMismatch requestedVersion supportedVersions =>
    requestedVersion < 2 ^ 32 ∧ ∀ version ∈ supportedVersions, version < 2 ^ 32
  | .negotiationLimit maximumVersions receivedVersions => maximumVersions < 2 ^ 64 ∧ receivedVersions < 2 ^ 64
  | .commandVersion minimumVersion => minimumVersion < 2 ^ 32
  | _ => True

def form : ErrorDetails → Json
  | .versionMismatch requestedVersion supportedVersions => .object
    [("kind", .string "version_mismatch"), ("requested_version", .int requestedVersion),
      ("supported_versions", versionsToJson supportedVersions)]
  | .negotiationLimit maximumVersions receivedVersions => .object
    [("kind", .string "negotiation_limit"), ("maximum_versions", .int maximumVersions),
      ("received_versions", .int receivedVersions)]
  | .requestConflict => .object [("kind", .string "request_conflict")]
  | .journalRequired => .object [("kind", .string "journal_required")]
  | .commandVersion minimumVersion => .object
    [("kind", .string "command_version"), ("minimum_version", .int minimumVersion)]
  | .receive reason => .object [("kind", .string "receive"), ("reason", toJson reason)]
  | .receiveRequest => .object [("kind", .string "receive_request")]

/-- The details with a form whose keys are sorted. -/
def read (value : Json) : Option ErrorDetails := do
  let (variant, content) ← tagged "kind" value
  if variant = "version_mismatch" then do
    let fields ← record ["requested_version", "supported_versions"] content
    let requestedVersion : UInt32 ← required fields "requested_version"
    let supportedVersions : List UInt32 ← required fields "supported_versions"
    pure (.versionMismatch requestedVersion.toNat (supportedVersions.map UInt32.toNat))
  else if variant = "negotiation_limit" then do
    let fields ← record ["maximum_versions", "received_versions"] content
    let maximumVersions : UInt64 ← required fields "maximum_versions"
    let receivedVersions : UInt64 ← required fields "received_versions"
    pure (.negotiationLimit maximumVersions.toNat receivedVersions.toNat)
  else if variant = "request_conflict" then pure .requestConflict
  else if variant = "journal_required" then pure .journalRequired
  else if variant = "command_version" then do
    let fields ← record ["minimum_version"] content
    let minimumVersion : UInt32 ← required fields "minimum_version"
    pure (.commandVersion minimumVersion.toNat)
  else if variant = "receive" then do
    let fields ← record ["reason"] content
    let reason ← required fields "reason"
    pure (.receive reason)
  else if variant = "receive_request" then pure .receiveRequest
  else none

theorem read_form {details : ErrorDetails} (h : details.InRange) : read details.form.sortKeys = some details := by
  unfold read form
  cases details with
  | versionMismatch requestedVersion supportedVersions =>
    obtain ⟨hversion, hversions⟩ := h
    obtain ⟨version, rfl⟩ := exists_uint32 hversion
    obtain ⟨versions, rfl⟩ := exists_uint32s hversions
    simp [-Option.bind_eq_bind, int_uint32, versionsToJson_uint32s]
  | negotiationLimit maximumVersions receivedVersions =>
    obtain ⟨hmaximum, hreceived⟩ := h
    obtain ⟨maximum, rfl⟩ := exists_uint64 hmaximum
    obtain ⟨received, rfl⟩ := exists_uint64 hreceived
    simp [-Option.bind_eq_bind, int_uint64]
  | requestConflict => simp [-Option.bind_eq_bind]
  | journalRequired => simp [-Option.bind_eq_bind]
  | commandVersion minimumVersion =>
    obtain ⟨version, rfl⟩ := exists_uint32 h
    simp [-Option.bind_eq_bind, int_uint32]
  | receive reason => simp [-Option.bind_eq_bind]
  | receiveRequest => simp [-Option.bind_eq_bind]

end ErrorDetails

namespace ApiError

def InRange (self : ApiError) : Prop := self.details.InRange

def form (self : ApiError) : Json := .object
  [("code", toJson self.code), ("message", toJson self.message), ("retryable", toJson self.retryable),
    ("details", self.details.form)]

/-- The error with a form whose keys are sorted. -/
def read (value : Json) : Option ApiError := do
  let fields ← record ["code", "message", "retryable", "details"] value
  let code ← required fields "code"
  let message ← required fields "message"
  let retryable ← required fields "retryable"
  let details ← field fields "details" ErrorDetails.read
  pure { code, message, retryable, details }

theorem read_form {error : ApiError} (h : error.InRange) : read error.form.sortKeys = some error := by
  have hdetails := ErrorDetails.read_form h
  unfold read form
  simp [-Option.bind_eq_bind, bind_field_self hdetails]

end ApiError

/-! ## Responses -/

/-- The variant and the content of a value with the two keys of adjacent tags. -/
def adjacent (tag content : String) (fields : String → Option Json) : Option (String × Option Json) :=
  match fields tag with
  | some (.string variant) => some (variant, fields content)
  | _ => none

theorem bind_adjacent {β : Type} {tag content variant : String} {value : Json} {members : List (String × Json)}
    {f : String × Option Json → Option β} (h : tag ≠ content) :
    (adjacent tag content (sortedField ((tag, .string variant) :: (content, value) :: members)) >>= f) =
      f (variant, some value.sortKeys) := by
  have htag : sortedField ((tag, .string variant) :: (content, value) :: members) tag = some (.string variant) :=
    sortedField_self
  have hcontent : sortedField ((tag, .string variant) :: (content, value) :: members) content = some value.sortKeys := by
    rw [sortedField_of_ne h.symm, sortedField_self]
  unfold adjacent
  rw [htag, hcontent]
  rfl

namespace ResultBody

def InRange : ResultBody → Prop
  | .capabilities value => value.InRange
  | .snapshot value => value.InRange
  | _ => True

/-- The name and the value of a result. -/
def content : ResultBody → String × Json
  | .capabilities value => ("capabilities", value.form)
  | .snapshot value => ("snapshot", value.form)
  | .noopMutationAccepted marker => ("noop_mutation_accepted", .object [("marker", toJson marker)])
  | .inputDevices value => ("input_devices", toJson value)
  | .receiveStarted value => ("receive_started", toJson value)
  | .receiveStopped value => ("receive_stopped", toJson value)
  | .receiveStatus value => ("receive_status", toJson value)
  | .receiveHistory value => ("receive_history", toJson value)

def form (self : ResultBody) : Json := .object [("kind", .string self.content.1), ("value", self.content.2)]

/-- The result with a name and a value whose keys are sorted. -/
def readContent (variant : String) (value : Json) : Option ResultBody :=
  if variant = "capabilities" then (Capabilities.read value).map .capabilities
  else if variant = "snapshot" then (StationSnapshot.read value).map .snapshot
  else if variant = "noop_mutation_accepted" then do
    let fields ← record ["marker"] value
    let marker ← required fields "marker"
    pure (.noopMutationAccepted marker)
  else if variant = "input_devices" then (fromJson value).map .inputDevices
  else if variant = "receive_started" then (fromJson value).map .receiveStarted
  else if variant = "receive_stopped" then (fromJson value).map .receiveStopped
  else if variant = "receive_status" then (fromJson value).map .receiveStatus
  else if variant = "receive_history" then (fromJson value).map .receiveHistory
  else none

/-- The result with a form whose keys are sorted. -/
def read (value : Json) : Option ResultBody := do
  let fields ← record ["kind", "value"] value
  let (variant, content) ← adjacent "kind" "value" fields
  let content ← content
  readContent variant content

theorem readContent_content {body : ResultBody} (h : body.InRange) :
    readContent body.content.1 body.content.2.sortKeys = some body := by
  unfold readContent content
  cases body with
  | capabilities value => simp [Capabilities.read_form h]
  | snapshot value => simp [StationSnapshot.read_form h]
  | noopMutationAccepted marker => simp [-Option.bind_eq_bind]
  | inputDevices value => simp
  | receiveStarted value => simp
  | receiveStopped value => simp
  | receiveStatus value => simp
  | receiveHistory value => simp

theorem read_form {body : ResultBody} (h : body.InRange) : read body.form.sortKeys = some body := by
  unfold read form
  rw [sortKeys_object, bind_record, bind_adjacent (by simp)]
  exact readContent_content h

end ResultBody

namespace ResponseOutcome

def InRange : ResponseOutcome → Prop
  | .success body => body.InRange
  | .error fault => fault.InRange

/-- The name and the payload of an outcome. -/
def content : ResponseOutcome → String × Json
  | .success body => ("success", body.form)
  | .error fault => ("error", fault.form)

/-- The outcome with a name and a payload whose keys are sorted. -/
def readContent (variant : String) (payload : Json) : Option ResponseOutcome :=
  if variant = "success" then (ResultBody.read payload).map .success
  else if variant = "error" then (ApiError.read payload).map .error
  else none

theorem readContent_content {outcome : ResponseOutcome} (h : outcome.InRange) :
    readContent outcome.content.1 outcome.content.2.sortKeys = some outcome := by
  unfold readContent content
  cases outcome with
  | success body => simp [ResultBody.read_form h]
  | error fault => simp [ApiError.read_form h]

end ResponseOutcome

namespace ResponseEnvelope

def InRange (self : ResponseEnvelope) : Prop := self.apiVersion < 2 ^ 32 ∧ self.outcome.InRange

def form (self : ResponseEnvelope) : Json := .object
  [("api_version", .int self.apiVersion), ("request_id", toJson self.requestId),
    ("outcome", .string self.outcome.content.1), ("payload", self.outcome.content.2)]

/-- The envelope with a form whose keys are sorted; a flattened outcome is read from an object only. -/
def read (value : Json) : Option ResponseEnvelope :=
  match value with
  | .object members => do
    let fields ← record ["api_version", "request_id", "outcome", "payload"] (.object members)
    let apiVersion : UInt32 ← required fields "api_version"
    let requestId ← required fields "request_id"
    let (variant, content) ← adjacent "outcome" "payload" fields
    let content ← content
    let outcome ← ResponseOutcome.readContent variant content
    pure { apiVersion := apiVersion.toNat, requestId, outcome }
  | _ => none

theorem read_form {envelope : ResponseEnvelope} (h : envelope.InRange) :
    read envelope.form.sortKeys = some envelope := by
  obtain ⟨apiVersion, requestId, outcome⟩ := envelope
  obtain ⟨hversion, houtcome⟩ := h
  obtain ⟨version, rfl⟩ := exists_uint32 hversion
  have hread := ResponseOutcome.readContent_content houtcome
  have hfields : ∀ key, key ≠ "api_version" → key ≠ "request_id" →
      sortedField [("api_version", Json.int version.toNat), ("request_id", toJson requestId),
        ("outcome", .string outcome.content.1), ("payload", outcome.content.2)] key =
      sortedField [("outcome", .string outcome.content.1), ("payload", outcome.content.2)] key := by
    intro key hne hne'
    rw [sortedField_of_ne hne, sortedField_of_ne hne']
  have hadjacent : adjacent "outcome" "payload"
      (sortedField [("api_version", Json.int version.toNat), ("request_id", toJson requestId),
        ("outcome", .string outcome.content.1), ("payload", outcome.content.2)]) =
      some (outcome.content.1, some outcome.content.2.sortKeys) := by
    have := @bind_adjacent _ "outcome" "payload" outcome.content.1 outcome.content.2 [] some (by simp)
    unfold adjacent at this ⊢
    rw [hfields "outcome" (by simp) (by simp), hfields "payload" (by simp) (by simp)]
    simpa using this
  unfold read form
  simp only [sortKeys_object]
  rw [bind_record]
  simp [-Option.bind_eq_bind, int_uint32] at hadjacent ⊢
  rw [hadjacent]
  simp [hread]

end ResponseEnvelope

/-! ## Bytes -/

instance (command : Command) : Decidable command.InRange :=
  match command with
  | .getCapabilities supportedVersions => inferInstanceAs (Decidable (∀ version ∈ supportedVersions, version < 2 ^ 32))
  | .getSnapshot => isTrue trivial
  | .noopMutation _ => isTrue trivial
  | .listInputDevices => isTrue trivial
  | .receiveStart _ => isTrue trivial
  | .receiveStop => isTrue trivial
  | .getReceiveStatus => isTrue trivial
  | .queryReceiveHistory _ _ => isTrue trivial

instance (envelope : CommandEnvelope) : Decidable envelope.InRange :=
  inferInstanceAs (Decidable (envelope.apiVersion < 2 ^ 32 ∧ envelope.command.InRange))

instance (details : ErrorDetails) : Decidable details.InRange :=
  match details with
  | .versionMismatch requestedVersion supportedVersions =>
    inferInstanceAs (Decidable (requestedVersion < 2 ^ 32 ∧ ∀ version ∈ supportedVersions, version < 2 ^ 32))
  | .negotiationLimit maximumVersions receivedVersions =>
    inferInstanceAs (Decidable (maximumVersions < 2 ^ 64 ∧ receivedVersions < 2 ^ 64))
  | .requestConflict => isTrue trivial
  | .journalRequired => isTrue trivial
  | .commandVersion minimumVersion => inferInstanceAs (Decidable (minimumVersion < 2 ^ 32))
  | .receive _ => isTrue trivial
  | .receiveRequest => isTrue trivial

instance (body : ResultBody) : Decidable body.InRange :=
  match body with
  | .capabilities value =>
    inferInstanceAs (Decidable (value.negotiatedVersion < 2 ^ 32 ∧ ∀ version ∈ value.supportedVersions, version < 2 ^ 32))
  | .snapshot value => inferInstanceAs (Decidable (value.eventCursor.sequence < 2 ^ 64))
  | .noopMutationAccepted _ => isTrue trivial
  | .inputDevices _ => isTrue trivial
  | .receiveStarted _ => isTrue trivial
  | .receiveStopped _ => isTrue trivial
  | .receiveStatus _ => isTrue trivial
  | .receiveHistory _ => isTrue trivial

instance (outcome : ResponseOutcome) : Decidable outcome.InRange :=
  match outcome with
  | .success body => inferInstanceAs (Decidable body.InRange)
  | .error fault => inferInstanceAs (Decidable fault.details.InRange)

instance (envelope : ResponseEnvelope) : Decidable envelope.InRange :=
  inferInstanceAs (Decidable (envelope.apiVersion < 2 ^ 32 ∧ envelope.outcome.InRange))

/-- The bytes of a value; one with a number that the types of the source cannot hold has none. -/
def toVec {α : Type} (InRange : α → Prop) [DecidablePred InRange] (form : α → Json) (value : α) : Option (List UInt8) :=
  if InRange value then some (form value).toBytes else none

/-- The value that some bytes are. -/
def fromSlice {α : Type} (read : Json → Option α) (bytes : List UInt8) : Option α :=
  (ofBytes bytes).bind fun value => read value.sortKeys

section Bytes

variable {α : Type} {InRange : α → Prop} [DecidablePred InRange] {form : α → Json} {read : Json → Option α} {value : α}
  {bytes : List UInt8}

theorem toVec_eq_some : toVec InRange form value = some bytes ↔ InRange value ∧ (form value).toBytes = bytes := by
  unfold toVec
  split
  · rename_i h
    simp [h]
  · rename_i h
    simp [h]

/-- Written bytes are read as the value that was written. -/
theorem fromSlice_toVec (hread : ∀ value, InRange value → read (form value).sortKeys = some value)
    (h : toVec InRange form value = some bytes) : fromSlice read bytes = some value := by
  obtain ⟨hrange, rfl⟩ := toVec_eq_some.mp h
  rw [fromSlice, ofBytes_toBytes, Option.bind_some, hread value hrange]

end Bytes

def Command.toVec (self : Command) : Option (List UInt8) := Api.toVec Command.InRange Command.form self

def CommandEnvelope.toVec (self : CommandEnvelope) : Option (List UInt8) :=
  Api.toVec CommandEnvelope.InRange CommandEnvelope.form self

def CommandEnvelope.fromSlice (bytes : List UInt8) : Option CommandEnvelope := Api.fromSlice CommandEnvelope.read bytes

def ResponseEnvelope.toVec (self : ResponseEnvelope) : Option (List UInt8) :=
  Api.toVec ResponseEnvelope.InRange ResponseEnvelope.form self

def ResponseEnvelope.fromSlice (bytes : List UInt8) : Option ResponseEnvelope := Api.fromSlice ResponseEnvelope.read bytes

theorem CommandEnvelope.fromSlice_toVec {envelope : CommandEnvelope} {bytes : List UInt8}
    (h : envelope.toVec = some bytes) : fromSlice bytes = some envelope :=
  Api.fromSlice_toVec (fun _ => read_form) h

theorem ResponseEnvelope.fromSlice_toVec {envelope : ResponseEnvelope} {bytes : List UInt8}
    (h : envelope.toVec = some bytes) : fromSlice bytes = some envelope :=
  Api.fromSlice_toVec (fun _ => read_form) h

/-- Commands with the same bytes are the same. -/
theorem Command.toVec_inj {a b : Command} {bytes : List UInt8} (ha : a.toVec = some bytes) (hb : b.toVec = some bytes) :
    a = b := by
  have hread := Api.fromSlice_toVec (fun _ => read_form) ha
  rw [Api.fromSlice_toVec (fun _ => read_form) hb] at hread
  exact (Option.some.inj hread).symm

end Slotpilot.Api
