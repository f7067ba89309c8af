import Slotpilot.Storage.ReceiveRows
import Slotpilot.Protocol.DecodeOrder
import Mathlib

/-!
# Records and their rows

`windowRow`, `diagnosticsRow` and `decodeRow` are the columns that a record is stored in, and `reconstructReceive` is the
record of its columns. A record is `Storable` when its counters fit the columns.

* `windowRow_ok`, `diagnosticsRow_ok`: the rows of a record pass the checks exactly when it is storable;
* `reconstructReceive_rows`: the record of its own columns is the record itself.
-/

set_option autoImplicit false

namespace Slotpilot.Storage

open Lib Domain Audio Protocol

/-! ## Columns of a record -/

/-- An unsigned value as a column. -/
def toI64 (value : Nat) : Except StorageError Int := if value < 2 ^ 63 then .ok value else .error .invalidSequence

def contextColumns (context : ReceiveWindowContext) : Except StorageError ContextColumns := do
  let processGeneration ← toI64 context.processGeneration.value.toNat
  let streamGeneration ← toI64 context.streamGeneration.value.toNat
  pure
    { serviceInstanceId := context.serviceInstanceId.text
      processGeneration
      streamGeneration
      slotStartUtcMillis := context.slot.startUtcUnixMillis.toInt
      devicePlatform := platformToStr context.deviceIdentity.platform
      deviceOpaqueId := context.deviceIdentity.opaqueId
      sampleRateHz := context.configuration.sampleRateHz
      channels := context.configuration.channels
      sampleFormat := sampleFormatToStr context.configuration.sampleFormat
      selectedChannel := context.configuration.selectedChannel }

def windowRow (sequence : Nat) (record : ReceiveRecord) : Except StorageError WindowRow := do
  let context ← contextColumns record.context
  let capturePositionFrames ← toI64 record.context.captureMapping.position.frames.toNat
  let captureMonotonicMillis ← toI64 record.context.captureMapping.monotonicMillis.toNat
  pure
    { sequence
      receiveWindowId := record.context.receiveWindowId.text
      context
      capturePositionFrames
      captureUtcMillis := record.context.captureMapping.utcUnixMillis.toInt
      captureMonotonicMillis
      recordedUtcMillis := record.recordedUtcMillis.toInt }

/-- The kind and the value of a fault. -/
def faultColumns : ReceiveClockFault → Except StorageError (String × Option Int)
  | .processGenerationChanged => pure ("process_generation_changed", none)
  | .timelineRegressed => pure ("timeline_regressed", none)
  | .utcJump divergenceMillis => pure ("utc_jump", some divergenceMillis)
  | .staleMapping ageMillis => return ("stale_mapping", some (← toI64 ageMillis))
  | .samplingDelayed delayMillis => return ("sampling_delayed", some (← toI64 delayMillis))
  | .sampleGap gapMillis => return ("sample_gap", some (← toI64 gapMillis))
  | .windowMisaligned divergenceMillis => pure ("window_misaligned", some divergenceMillis)
  | .arithmeticOverflow => pure ("arithmetic_overflow", none)

def durableClockColumns (clock : ReceiveClockHealth) : Except StorageError ClockColumns := do
  clock.validate
  match clock with
  | .healthy mappingAgeMillis =>
    pure
      { state := "healthy"
        faultKind := none
        faultValue := none
        recoveryProgress := 0
        recoveryRequired := 0
        mappingAgeMillis := ← toI64 mappingAgeMillis }
  | .unhealthy fault recoveryProgress recoveryRequired mappingAgeMillis =>
    let (faultKind, faultValue) ← faultColumns fault
    pure
      { state := "unhealthy"
        faultKind := some faultKind
        faultValue
        recoveryProgress
        recoveryRequired
        mappingAgeMillis := ← toI64 mappingAgeMillis }

def diagnosticsRow (record : ReceiveRecord) : Except StorageError DiagnosticsRow := do
  let diagnostic := record.diagnostics
  let clock ← durableClockColumns diagnostic.clock
  let audioOverflowCount ← toI64 diagnostic.audio.overflowCount.toNat
  let audioClippedSampleCount ← toI64 diagnostic.audio.clippedSampleCount.toNat
  let timelineIncompleteSlotCount ← toI64 diagnostic.timeline.incompleteSlotCount
  let timelineLateBatchCount ← toI64 diagnostic.timeline.lateBatchCount
  pure
    { receiveWindowId := record.context.receiveWindowId.text
      audioLatencyMillis := diagnostic.audio.latencyMillis
      audioDriftPartsPerMillion := diagnostic.audio.driftPartsPerMillion
      audioOverflowCount
      audioClippedSampleCount
      audioMaxCallbackDelayMillis := diagnostic.audio.maxCallbackDelayMillis
      timelineMaxJitterMillis := diagnostic.timeline.maxJitterMillis
      timelineDriftPartsPerMillion := diagnostic.timeline.driftPartsPerMillion
      timelineIncompleteSlotCount
      timelineLateBatchCount
      clock }

/-- The columns of an explained message. -/
def explainedColumns (outcomeKind : String) (message : ExplainedFt8Message) : MessageColumns where
  outcomeKind
  canonicalText := message.canonicalText
  detail := some message.detail
  messageClass := none
  sender := none
  recipient := none

def durableMessageColumns : ClassifiedFt8Message → MessageColumns
  | .resolved message =>
    { outcomeKind := "resolved"
      canonicalText := message.canonicalText
      detail := none
      messageClass := some (messageClassToStr message.messageClass)
      sender := some message.sender.original
      recipient := message.recipient.map (·.original) }
  | .unresolvedHash message => explainedColumns "unresolved_hash" message
  | .unsupported message => explainedColumns "unsupported" message
  | .ambiguous message => explainedColumns "ambiguous" message
  | .freeText message =>
    { outcomeKind := "free_text"
      canonicalText := message.text
      detail := none
      messageClass := none
      sender := none
      recipient := none }

def decodeRow (receiveWindowId : ReceiveWindowId) (index : Nat) (decode : Ft8Decode) : DecodeRow where
  receiveWindowId := receiveWindowId.text
  decodeIndex := index
  startOffsetMillis := decode.metadata.startOffsetMillis
  audioFrequencyHz := decode.metadata.audioFrequencyHz
  signalToNoiseDb := decode.metadata.signalToNoiseDb
  message := durableMessageColumns decode.message

/-- The decode rows of a record. -/
def decodeRows (record : ReceiveRecord) : List DecodeRow :=
  record.decodes.zipIdx.map fun (decode, index) => decodeRow record.context.receiveWindowId index decode

/-! ## The record of its columns -/

/-- A column in a range. -/
def fromColumn (low high value : Int) (field : String) : Except StorageError Int :=
  if low ≤ value ∧ value < high then .ok value else .error (.invalidPersistedReceiveValue field)

def toU64 (value : Int) (field : String) : Except StorageError Nat := (fromColumn 0 (2 ^ 64) value field).map Int.toNat
def toU32 (value : Int) (field : String) : Except StorageError Nat := (fromColumn 0 (2 ^ 32) value field).map Int.toNat
def toU16 (value : Int) (field : String) : Except StorageError Nat := (fromColumn 0 (2 ^ 16) value field).map Int.toNat
def toU8 (value : Int) (field : String) : Except StorageError Nat := (fromColumn 0 (2 ^ 8) value field).map Int.toNat
def toI32 (value : Int) (field : String) : Except StorageError Int := fromColumn (-2 ^ 31) (2 ^ 31) value field
def toI16 (value : Int) (field : String) : Except StorageError Int := fromColumn (-2 ^ 15) (2 ^ 15) value field

/-- A failure to read a persisted value. -/
def persisted {ε α : Type} (field : String) (result : Except ε α) : Except StorageError α :=
  result.mapError fun _ => .invalidPersistedReceiveValue field

def reconstructClockFault (kind : Option String) (value : Option Int) : Except StorageError ReceiveClockFault :=
  match kind, value with
  | some kind, none =>
    if kind = "process_generation_changed" then .ok .processGenerationChanged
    else if kind = "timeline_regressed" then .ok .timelineRegressed
    else if kind = "arithmetic_overflow" then .ok .arithmeticOverflow
    else .error (.invalidPersistedReceiveValue "clock fault shape")
  | some kind, some value =>
    if kind = "utc_jump" then .ok (.utcJump value)
    else if kind = "stale_mapping" then (toU64 value "stale mapping age").map .staleMapping
    else if kind = "sampling_delayed" then (toU64 value "sampling delay").map .samplingDelayed
    else if kind = "sample_gap" then (toU64 value "sample gap").map .sampleGap
    else if kind = "window_misaligned" then .ok (.windowMisaligned value)
    else .error (.invalidPersistedReceiveValue "clock fault shape")
  | none, _ => .error (.invalidPersistedReceiveValue "clock fault shape")

/-- A clock summary of its columns, before its own check. -/
def reconstructClockState (raw : ClockColumns) (mappingAgeMillis : Nat) : Except StorageError ReceiveClockHealth :=
  if raw.state = "healthy" ∧ raw.faultKind.isNone ∧ raw.faultValue.isNone ∧ raw.recoveryProgress = 0 ∧
      raw.recoveryRequired = 0 then
    .ok (.healthy mappingAgeMillis)
  else if raw.state = "unhealthy" then do
    let fault ← reconstructClockFault raw.faultKind raw.faultValue
    let recoveryProgress ← toU8 raw.recoveryProgress "clock recovery progress"
    let recoveryRequired ← toU8 raw.recoveryRequired "clock recovery required"
    pure (.unhealthy fault recoveryProgress recoveryRequired mappingAgeMillis)
  else .error (.invalidPersistedReceiveValue "clock state shape")

def reconstructClock (raw : ClockColumns) : Except StorageError ReceiveClockHealth := do
  let mappingAgeMillis ← toU64 raw.mappingAgeMillis "clock mapping age"
  let clock ← reconstructClockState raw mappingAgeMillis
  persisted "clock health" clock.validate
  pure clock

/-- An explained message of its columns. -/
def reconstructExplained (missing invalid : String) (raw : MessageColumns) : Except StorageError ExplainedFt8Message := do
  let detail ← okOr (.invalidPersistedReceiveValue missing) raw.detail
  persisted invalid (ExplainedFt8Message.new raw.canonicalText detail)

def reconstructMessage (raw : MessageColumns) : Except StorageError ClassifiedFt8Message :=
  if raw.outcomeKind = "resolved" then do
    let sender ← okOr (.invalidPersistedReceiveValue "resolved sender") raw.sender
    let sender ← persisted "resolved sender callsign" (FullCallsign.fromStr sender)
    let recipient ← raw.recipient.mapM fun value =>
      persisted "resolved recipient callsign" (FullCallsign.fromStr value)
    let messageClass ← okOr (.invalidPersistedReceiveValue "resolved message class") raw.messageClass
    let messageClass ← strToMessageClass messageClass
    let message ← persisted "resolved message"
      (ResolvedFt8Message.new raw.canonicalText sender recipient messageClass)
    pure (.resolved message)
  else if raw.outcomeKind = "unresolved_hash" then
    (reconstructExplained "unresolved detail" "unresolved message" raw).map .unresolvedHash
  else if raw.outcomeKind = "unsupported" then
    (reconstructExplained "unsupported detail" "unsupported message" raw).map .unsupported
  else if raw.outcomeKind = "ambiguous" then
    (reconstructExplained "ambiguous detail" "ambiguous message" raw).map .ambiguous
  else if raw.outcomeKind = "free_text" then
    (persisted "free-text message" (FreeTextFt8Message.new raw.canonicalText)).map .freeText
  else .error (.invalidPersistedReceiveValue "decode outcome classification")

/-- The decode of a row, which must have the expected index. -/
def readDecode (raw : DecodeRow) (expectedIndex : Nat) : Except StorageError Ft8Decode :=
  if raw.decodeIndex ≠ expectedIndex then .error (.invalidPersistedReceiveValue "decode indices are not contiguous")
  else do
    let startOffsetMillis ← toI32 raw.startOffsetMillis "decode offset"
    let audioFrequencyHz ← toU32 raw.audioFrequencyHz "decode frequency"
    let signalToNoiseDb ← toI16 raw.signalToNoiseDb "decode SNR"
    let message ← reconstructMessage raw.message
    pure { metadata := { startOffsetMillis, audioFrequencyHz, signalToNoiseDb }, message }

/-- The decodes of rows in the order of their index. -/
def readDecodes (rows : List DecodeRow) : Except StorageError (List Ft8Decode) := do
  let decodes ← rows.zipIdx.mapM fun (raw, expectedIndex) => readDecode raw expectedIndex
  if Ft8Decode.sortDeterministically decodes ≠ decodes then
    throw (.invalidPersistedReceiveValue "decode order is nondeterministic")
  else pure decodes

/-- One record with its sequence. -/
structure SequencedReceiveRecord where
  sequence : Nat
  record : ReceiveRecord
  deriving DecidableEq

def reconstructReceive (window : WindowRow) (diagnostic : DiagnosticsRow) (decodeRows : List DecodeRow) :
    Except StorageError SequencedReceiveRecord := do
  let clock ← reconstructClock diagnostic.clock
  let receiveWindowId ← (TypedId.fromStr "rxw_" window.receiveWindowId).mapError .invalidIdentity
  let platform ← strToPlatform window.context.devicePlatform
  let deviceIdentity ← persisted "device identity" (InputDeviceIdentity.new platform window.context.deviceOpaqueId)
  let sampleRateHz ← toU32 window.context.sampleRateHz "sample rate"
  let channels ← toU16 window.context.channels "channel count"
  let sampleFormat ← strToSampleFormat window.context.sampleFormat
  let selectedChannel ← toU16 window.context.selectedChannel "selected channel"
  let configuration ← persisted "input configuration"
    (InputConfiguration.new sampleRateHz channels sampleFormat selectedChannel)
  let serviceInstanceId ← (TypedId.fromStr "svc_" window.context.serviceInstanceId).mapError .invalidIdentity
  let process ← toU64 window.context.processGeneration "process"
  let processGeneration ← persisted "process generation" (ProcessGeneration.new (UInt64.ofNat process))
  let stream ← toU64 window.context.streamGeneration "stream"
  let streamGeneration ← persisted "stream generation" (StreamGeneration.new (UInt64.ofNat stream))
  let slot ← persisted "FT8 slot" (Ft8ReceiveSlot.new (Int64.ofInt window.context.slotStartUtcMillis))
  let position ← toU64 window.capturePositionFrames "capture position"
  let monotonic ← toU64 window.captureMonotonicMillis "capture monotonic time"
  let captureMapping ← persisted "capture mapping" (CaptureTimeEvidence.new ⟨UInt64.ofNat position⟩
    (Int64.ofInt window.captureUtcMillis) (UInt64.ofNat monotonic))
  let context : ReceiveWindowContext :=
    { receiveWindowId, serviceInstanceId, processGeneration, streamGeneration, slot, deviceIdentity, configuration,
      captureMapping }
  let latency ← toU32 diagnostic.audioLatencyMillis "audio latency"
  let drift ← toI32 diagnostic.audioDriftPartsPerMillion "audio drift"
  let overflow ← toU64 diagnostic.audioOverflowCount "audio overflow count"
  let clipped ← toU64 diagnostic.audioClippedSampleCount "audio clipped count"
  let delay ← toU32 diagnostic.audioMaxCallbackDelayMillis "callback delay"
  let audio ← persisted "audio health"
    (InputHealth.new latency drift (UInt64.ofNat overflow) (UInt64.ofNat clipped) delay)
  let maxJitterMillis ← toU32 diagnostic.timelineMaxJitterMillis "timeline jitter"
  let driftPartsPerMillion ← toI32 diagnostic.timelineDriftPartsPerMillion "timeline drift"
  let incompleteSlotCount ← toU64 diagnostic.timelineIncompleteSlotCount "incomplete slot count"
  let lateBatchCount ← toU64 diagnostic.timelineLateBatchCount "late batch count"
  let timeline : ReceiveTimelineHealth :=
    { maxJitterMillis, driftPartsPerMillion, incompleteSlotCount, lateBatchCount }
  let decodes ← readDecodes decodeRows
  let record ← persisted "receive record invariants"
    (ReceiveRecord.new context { audio, timeline, clock } decodes (Int64.ofInt window.recordedUtcMillis))
  pure { sequence := window.sequence, record }

/-! ## Texts in columns -/

theorem length_le_utf8Len (chars : List Char) : chars.length ≤ String.utf8Len chars := by
  induction chars with
  | nil => exact Nat.zero_le _
  | cons c chars ih =>
    have := c.utf8Size_pos
    rw [List.length_cons, String.utf8Len_cons]
    omega

theorem length_le_utf8ByteSize (text : String) : text.toList.length ≤ text.utf8ByteSize := by
  have h := length_le_utf8Len text.toList
  rwa [← String.utf8ByteSize_ofList, String.ofList_toList] at h

/-- A text without NUL is seen whole. -/
theorem sqlText_eq {text : String} (h : withoutNul text = true) : sqlText text = text.toList :=
  List.takeWhile_eq_self_iff.mpr (List.all_eq_true.mp h)

/-- A nonempty text without NUL of at most `high` bytes has a length in bounds. -/
theorem lengthBetween_of_bytes {text : String} {high : Nat} (hne : text.isEmpty = false) (hnul : withoutNul text = true)
    (hsize : text.utf8ByteSize ≤ high) : lengthBetween 1 high text = true := by
  have hlength := length_le_utf8ByteSize text
  have hpos : 0 < text.toList.length := by
    rw [List.length_pos_iff, ne_eq, String.toList_eq_nil_iff]
    rintro rfl
    cases hne
  rw [lengthBetween, sqlText_eq hnul, Bool.and_eq_true, decide_eq_true_eq, decide_eq_true_eq]
  omega

theorem ne_nul {c : Char} (h : 0 < c.toNat) : c ≠ Char.ofNat 0 := by
  rintro rfl
  exact absurd h (by decide)

theorem validateText_column {text : String} {maximum : Nat} (h : validateText text maximum = true) :
    lengthBetween 1 maximum text = true ∧ withoutNul text = true := by
  simp only [validateText, Bool.not_eq_true', Bool.or_eq_false_iff, decide_eq_false_iff_not, not_lt,
    Bool.not_eq_false', List.all_eq_true, Bool.and_eq_true, decide_eq_true_eq] at h
  have hnul : withoutNul text = true := List.all_eq_true.mpr fun c hc => by
    have := (h.2 c hc).1
    simpa using ne_nul (c := c) (by omega)
  exact ⟨lengthBetween_of_bytes h.1.1 hnul h.1.2, hnul⟩

theorem validateBoundedText_column {text : String} {maxBytes : Nat} (h : validateBoundedText text maxBytes = true) :
    lengthBetween 1 maxBytes text = true ∧ withoutNul text = true := by
  simp only [validateBoundedText, Bool.not_eq_true', Bool.or_eq_false_iff, decide_eq_false_iff_not, not_lt,
    List.any_eq_false] at h
  have hnul : withoutNul text = true := List.all_eq_true.mpr fun c hc => by
    have hcontrol := h.2 c hc
    simp only [isControl, Bool.or_eq_true, decide_eq_true_eq, not_or, not_lt] at hcontrol
    simpa using ne_nul (c := c) (by omega)
  exact ⟨lengthBetween_of_bytes h.1.1 hnul h.1.2, hnul⟩

theorem callsign_column (callsign : FullCallsign) : lengthBetween 1 32 callsign.original = true := by
  have hshape : validateShape callsign.original true = .ok () := by
    have hparsed := callsign.parsed
    unfold baseOf at hparsed
    exact (exceptBind_ok.mp hparsed).choose_spec.1
  unfold validateShape at hshape
  split at hshape
  · cases hshape
  · rename_i hlength
    split at hshape
    · cases hshape
    · rename_i hall
      have hnul : withoutNul callsign.original = true := List.all_eq_true.mpr fun c hc => by
        rw [Bool.not_eq_true', Bool.not_eq_false, List.all_eq_true] at hall
        have hc := hall c hc
        have : c ≠ Char.ofNat 0 := by
          rintro rfl
          exact absurd hc (by decide)
        simpa using this
      have hne : callsign.original.isEmpty = false := by
        rw [Bool.eq_false_iff]
        intro hempty
        rw [String.isEmpty_iff.mp hempty] at hlength
        exact hlength (by decide)
      exact lengthBetween_of_bytes hne hnul (not_not.mp hlength).2

theorem isIdCharacter_size {c : Char} (h : isIdCharacter c = true) : c.utf8Size = 1 ∧ c ≠ Char.ofNat 0 := by
  have hrange : 48 ≤ c.toNat ∧ c.toNat ≤ 122 := by
    simp only [isIdCharacter, Bool.or_eq_true, Bool.and_eq_true, decide_eq_true_eq] at h
    simp only [Char.le_def, UInt32.le_iff_toNat_le] at h
    have ha : ('a' : Char).val.toNat = 97 := rfl
    have hz : ('z' : Char).val.toNat = 122 := rfl
    have h0 : ('0' : Char).val.toNat = 48 := rfl
    have h9 : ('9' : Char).val.toNat = 57 := rfl
    have hc : c.val.toNat = c.toNat := rfl
    omega
  exact ⟨Char.utf8Size_eq_one_iff.mpr (UInt32.le_iff_toNat_le.mpr (hrange.2.trans (by decide))), ne_nul (by omega)⟩

/-- An identity passes the check of its column. -/
theorem identity_column {tag : String} (htag : tag.toList.length = 4) (hnul : withoutNul tag = true) (id : TypedId tag) :
    identityCheck tag id.text = true := by
  obtain ⟨payload, htext, hsize, hall⟩ := validateId_ok.mp id.valid
  rw [List.all_eq_true] at hall
  have hlength : (payload.map Char.utf8Size).sum = payload.length := by
    rw [List.map_congr_left fun c hc => (isIdCharacter_size (hall c hc)).1, List.map_const', List.sum_replicate]
    simp
  have hseen : sqlText id.text = tag.toList ++ payload := by
    rw [← htext]
    refine sqlText_eq (List.all_eq_true.mpr fun c hc => ?_)
    rw [htext, List.mem_append] at hc
    rcases hc with hc | hc
    · exact List.all_eq_true.mp hnul c hc
    · simpa using (isIdCharacter_size (hall c hc)).2
  rw [identityCheck, lengthBetween, hseen, ← htag, List.take_left, List.drop_left]
  simp only [List.length_append, htag, Bool.and_eq_true, decide_eq_true_eq, beq_self_eq_true, List.all_eq_true]
  exact ⟨⟨⟨by omega, by omega⟩, trivial⟩, hall⟩

/-! ## Messages -/

@[simp] theorem persisted_ok {ε α : Type} {field : String} {result : Except ε α} {value : α} :
    persisted field result = .ok value ↔ result = .ok value := exceptMapError_ok

theorem explained_new (message : ExplainedFt8Message) :
    ExplainedFt8Message.new message.canonicalText message.detail = .ok message := by
  simp [ExplainedFt8Message.new, message.bounded, message.explained]

@[simp] theorem explainedColumns_outcomeKind (outcomeKind : String) (message : ExplainedFt8Message) :
    (explainedColumns outcomeKind message).outcomeKind = outcomeKind := rfl

theorem explained_columns (outcomeKind missing invalid : String) (message : ExplainedFt8Message) :
    reconstructExplained missing invalid (explainedColumns outcomeKind message) = .ok message := by
  simp only [reconstructExplained, explainedColumns, exceptBind_ok, okOr_ok, persisted_ok]
  exact ⟨_, rfl, explained_new message⟩

/-- The message of its columns. -/
theorem reconstructMessage_columns (message : ClassifiedFt8Message) :
    reconstructMessage (durableMessageColumns message) = .ok message := by
  cases message with
  | resolved message =>
    have hrecipient : (message.recipient.map (·.original)).mapM (fun value =>
        persisted "resolved recipient callsign" (FullCallsign.fromStr value)) = .ok message.recipient := by
      cases message.recipient with
      | none => rfl
      | some recipient =>
        have hsome : persisted "resolved recipient callsign" (FullCallsign.fromStr recipient.original) =
            .ok recipient := persisted_ok.mpr (FullCallsign.fromStr_ok.mpr rfl)
        simp [hsome]
    have hnew : ResolvedFt8Message.new message.canonicalText message.sender message.recipient message.messageClass =
        .ok message := ResolvedFt8Message.new_ok.mpr ⟨rfl, rfl, rfl, rfl⟩
    simp only [reconstructMessage, durableMessageColumns, if_true, exceptBind_ok, okOr_ok, persisted_ok]
    exact ⟨_, rfl, _, FullCallsign.fromStr_ok.mpr rfl, _, hrecipient, _, rfl, _, strToMessageClass_toStr _, _,
      hnew, rfl⟩
  | unresolvedHash message | unsupported message | ambiguous message =>
    simp [reconstructMessage, durableMessageColumns, explained_columns, Except.map]
  | freeText message =>
    have hnew : FreeTextFt8Message.new message.text = .ok message := by
      simp [FreeTextFt8Message.new, message.bounded]
    simp [reconstructMessage, durableMessageColumns, hnew, persisted, Except.map, Except.mapError]

/-- The columns of a message pass their checks. -/
theorem durableMessageColumns_check (message : ClassifiedFt8Message) : (durableMessageColumns message).check = true := by
  cases message with
  | resolved message =>
    obtain ⟨hlength, hnul⟩ := validateText_column message.bounded
    have hrecipient : (message.recipient.map (·.original)).all (lengthBetween 1 32) = true := by
      cases message.recipient with
      | none => rfl
      | some recipient => exact callsign_column recipient
    have haddressed := message.addressed
    simp only [MessageColumns.check, durableMessageColumns, hlength, hnul, hrecipient, Option.all_some,
      callsign_column message.sender, Option.isNone_map, Option.isSome_map]
    cases hclass : message.messageClass <;> rw [hclass] at haddressed <;>
      simp [messageClassToStr, Ft8MessageClass.requiresRecipient] at haddressed ⊢ <;> exact haddressed
  | unresolvedHash message | unsupported message | ambiguous message =>
    obtain ⟨hlength, hnul⟩ := validateText_column message.bounded
    obtain ⟨hdetail, hdetailNul⟩ := validateText_column message.explained
    simp [MessageColumns.check, durableMessageColumns, explainedColumns, hlength, hnul, hdetail, hdetailNul]
  | freeText message =>
    obtain ⟨hlength, hnul⟩ := validateText_column message.bounded
    simp [MessageColumns.check, durableMessageColumns, hlength, hnul]

/-! ## Clock summaries -/

/-- The unsigned value of a fault fits a column. -/
def ReceiveClockFault.FitsI64 : ReceiveClockFault → Prop
  | .staleMapping millis | .samplingDelayed millis | .sampleGap millis => millis < 2 ^ 63
  | _ => True

def ReceiveClockHealth.FitsI64 : ReceiveClockHealth → Prop
  | .healthy _ => True
  | .unhealthy fault _ _ _ => fault.FitsI64

@[simp] theorem toI64_ok {value : Nat} {column : Int} : toI64 value = .ok column ↔ value < 2 ^ 63 ∧ column = value := by
  unfold toI64
  split <;> simp_all [eq_comm]

theorem fromColumn_ok {low high value : Int} {field : String} (h : low ≤ value ∧ value < high) :
    fromColumn low high value field = .ok value := if_pos h

theorem toU64_natCast {value : Nat} (field : String) (h : value < 2 ^ 63) : toU64 value field = .ok value := by
  rw [toU64, fromColumn_ok (by omega)]
  rfl

theorem toU32_natCast {value : Nat} (field : String) (h : value < 2 ^ 32) : toU32 value field = .ok value := by
  rw [toU32, fromColumn_ok (by omega)]
  rfl

theorem toU16_natCast {value : Nat} (field : String) (h : value < 2 ^ 16) : toU16 value field = .ok value := by
  rw [toU16, fromColumn_ok (by omega)]
  rfl

theorem toU8_natCast {value : Nat} (field : String) (h : value < 2 ^ 8) : toU8 value field = .ok value := by
  rw [toU8, fromColumn_ok (by omega)]
  rfl

theorem exceptPure_ok {ε α : Type} {a b : α} : (pure a : Except ε α) = .ok b ↔ a = b := by
  show Except.ok a = _ ↔ _
  simp

theorem faultColumns_ok (fault : ReceiveClockFault) :
    (∃ columns, faultColumns fault = .ok columns) ↔ fault.FitsI64 := by
  cases fault with
  | staleMapping millis | samplingDelayed millis | sampleGap millis =>
    simp only [faultColumns, exceptBind_ok, toI64_ok, exceptPure_ok]
    constructor
    · rintro ⟨-, -, ⟨hfits, -⟩, -⟩
      exact hfits
    · intro hfits
      exact ⟨_, _, ⟨hfits, rfl⟩, rfl⟩
  | _ => exact ⟨fun _ => trivial, fun _ => ⟨_, rfl⟩⟩

theorem reconstructClockFault_columns {fault : ReceiveClockFault} {kind : String} {value : Option Int}
    (h : faultColumns fault = .ok (kind, value)) :
    reconstructClockFault (some kind) value = .ok fault ∧
      (valuedFaults.contains kind = true ∧ value.isSome = true ∨ bareFaults.contains kind = true ∧ value.isNone = true) := by
  cases fault with
  | staleMapping millis | samplingDelayed millis | sampleGap millis =>
    simp only [faultColumns, exceptBind_ok, toI64_ok, exceptPure_ok] at h
    obtain ⟨_, ⟨hfits, rfl⟩, h⟩ := h
    cases h
    simp only [reconstructClockFault, toU64_natCast _ hfits]
    simp [valuedFaults, Except.map]
  | _ =>
    cases h
    simp only [reconstructClockFault]
    simp [valuedFaults, bareFaults]

theorem validate_healthy {mappingAgeMillis : Nat} (h : (ReceiveClockHealth.healthy mappingAgeMillis).validate = .ok ()) :
    mappingAgeMillis ≤ 86400000 := by
  simp only [ReceiveClockHealth.validate] at h
  split at h
  · assumption
  · cases h

theorem validate_unhealthy {fault : ReceiveClockFault} {recoveryProgress recoveryRequired mappingAgeMillis : Nat}
    (h : (ReceiveClockHealth.unhealthy fault recoveryProgress recoveryRequired mappingAgeMillis).validate = .ok ()) :
    (2 ≤ recoveryRequired ∧ recoveryRequired ≤ 10) ∧ recoveryProgress < recoveryRequired ∧
      mappingAgeMillis ≤ 86400000 := by
  simp only [ReceiveClockHealth.validate] at h
  split at h
  · assumption
  · cases h

/-- A valid summary has columns exactly when its fault fits. -/
theorem durableClockColumns_ok {clock : ReceiveClockHealth} (hvalid : clock.validate = .ok ()) :
    (∃ columns, durableClockColumns clock = .ok columns) ↔ clock.FitsI64 := by
  cases clock with
  | healthy mappingAgeMillis =>
    have hage := validate_healthy hvalid
    refine ⟨fun _ => trivial, fun _ => ?_⟩
    simp only [durableClockColumns, hvalid, exceptBind_ok, toI64_ok, exceptPure_ok]
    exact ⟨_, (), trivial, _, ⟨by omega, rfl⟩, rfl⟩
  | unhealthy fault recoveryProgress recoveryRequired mappingAgeMillis =>
    obtain ⟨-, -, hage⟩ := validate_unhealthy hvalid
    simp only [durableClockColumns, hvalid, exceptBind_ok, toI64_ok, exceptPure_ok]
    show _ ↔ fault.FitsI64
    rw [← faultColumns_ok]
    constructor
    · rintro ⟨-, -, -, pair, hpair, -⟩
      exact ⟨pair, hpair⟩
    · rintro ⟨pair, hpair⟩
      exact ⟨_, (), trivial, pair, hpair, _, ⟨by omega, rfl⟩, rfl⟩

/-- The columns of a summary pass their checks, and the summary is read back from them. -/
theorem durableClockColumns_read {clock : ReceiveClockHealth} {columns : ClockColumns}
    (h : durableClockColumns clock = .ok columns) : columns.check = true ∧ reconstructClock columns = .ok clock := by
  cases clock with
  | healthy mappingAgeMillis =>
    simp only [durableClockColumns, exceptBind_ok, toI64_ok, exceptPure_ok] at h
    obtain ⟨_, hvalid, _, ⟨hfits, rfl⟩, rfl⟩ := h
    have hage := validate_healthy hvalid
    refine ⟨?_, ?_⟩
    · simp [ClockColumns.check, between]
      omega
    · simp only [reconstructClock, exceptBind_ok]
      exact ⟨_, toU64_natCast _ hfits, _, if_pos ⟨rfl, rfl, rfl, rfl, rfl⟩, (), persisted_ok.mpr hvalid, rfl⟩
  | unhealthy fault recoveryProgress recoveryRequired mappingAgeMillis =>
    simp only [durableClockColumns, exceptBind_ok, toI64_ok, exceptPure_ok] at h
    obtain ⟨_, hvalid, ⟨kind, value⟩, hfault, _, ⟨hfits, rfl⟩, rfl⟩ := h
    obtain ⟨hrequired, hprogress, hage⟩ := validate_unhealthy hvalid
    obtain ⟨hread, hshape⟩ := reconstructClockFault_columns hfault
    refine ⟨?_, ?_⟩
    · have hkind : (bareFaults.contains kind || valuedFaults.contains kind) = true := by
        rcases hshape with ⟨hvalued, -⟩ | ⟨hbare, -⟩
        · rw [hvalued, Bool.or_true]
        · rw [hbare, Bool.true_or]
      have hvalue : ((valuedFaults.contains kind && value.isSome) || (bareFaults.contains kind && value.isNone)) = true := by
        rw [Bool.or_eq_true, Bool.and_eq_true, Bool.and_eq_true]
        exact hshape
      simp only [ClockColumns.check, between, Option.all_some, hkind, hvalue]
      simp
      omega
    · simp only [reconstructClock, exceptBind_ok]
      refine ⟨_, toU64_natCast _ hfits, _, ?_, (), persisted_ok.mpr hvalid, rfl⟩
      rw [reconstructClockState, if_neg (by simp), if_pos rfl]
      simp only [exceptBind_ok]
      exact ⟨_, hread, _, toU8_natCast _ (by omega), _, toU8_natCast _ (by omega), rfl⟩

/-! ## Records -/

/-- What the checks of a record promise. -/
structure ReceiveRecord.Facts (record : ReceiveRecord) : Prop where
  captured : record.context.captureMapping.utcUnixMillis = record.context.slot.startUtcUnixMillis
  recorded : 0 ≤ record.recordedUtcMillis.toInt
  bounded : record.decodes.length ≤ maxStoredDecodesPerWindow
  drift : -100000 ≤ record.diagnostics.timeline.driftPartsPerMillion ∧
    record.diagnostics.timeline.driftPartsPerMillion ≤ 100000
  clock : record.diagnostics.clock.validate = .ok ()
  metadata : ∀ decode ∈ record.decodes, validateDecodeMetadata decode.metadata = .ok ()
  ordered : Ft8Decode.sortDeterministically record.decodes = record.decodes
  revalidated : validateReceive record.context record.diagnostics record.decodes record.recordedUtcMillis = .ok ()

theorem forM_ok {ε α : Type} {f : α → Except ε Unit} {l : List α} : l.forM f = .ok () ↔ ∀ a ∈ l, f a = .ok () := by
  induction l with
  | nil => exact ⟨fun _ a ha => (by cases ha), fun _ => rfl⟩
  | cons a l ih =>
    show (f a >>= fun _ => l.forM f) = _ ↔ _
    rw [exceptBind_ok, List.forall_mem_cons, ← ih]
    exact ⟨fun ⟨_, ha, hl⟩ => ⟨ha, hl⟩, fun ⟨ha, hl⟩ => ⟨(), ha, hl⟩⟩

theorem validateReceive_ok {context : ReceiveWindowContext} {diagnostics : ReceiveDiagnosticSummary}
    {decodes : List Ft8Decode} {recordedUtcMillis : Int64} :
    validateReceive context diagnostics decodes recordedUtcMillis = .ok () ↔
      context.captureMapping.utcUnixMillis = context.slot.startUtcUnixMillis ∧ 0 ≤ recordedUtcMillis.toInt ∧
      decodes.length ≤ maxStoredDecodesPerWindow ∧
      (-100000 ≤ diagnostics.timeline.driftPartsPerMillion ∧ diagnostics.timeline.driftPartsPerMillion ≤ 100000) ∧
      diagnostics.clock.validate = .ok () ∧
      (∀ decode ∈ decodes, validateDecodeMetadata decode.metadata = .ok ()) ∧
      (diagnostics.clock.isHealthy = true ∨ decodes = []) := by
  unfold validateReceive
  split
  · rename_i h
    exact ⟨fun h => (by cases h), fun hall => absurd hall.1 h⟩
  rename_i hcaptured
  split
  · rename_i h
    exact ⟨fun h => (by cases h), fun hall => absurd hall.2.1 (Int.not_le.mpr h)⟩
  rename_i hrecorded
  split
  · rename_i h
    exact ⟨fun h => (by cases h), fun hall => absurd hall.2.2.1 (Nat.not_le.mpr h)⟩
  rename_i hlength
  split
  · rename_i h
    exact ⟨fun h => (by cases h), fun hall => absurd hall.2.2.2.1 h⟩
  rename_i hdrift
  have hlast : (if ¬diagnostics.clock.isHealthy = true ∧ decodes ≠ [] then
        throw (.invalidReceiveRecord "unhealthy clock evidence cannot carry decoder-ready results")
      else pure () : Except StorageError Unit) = .ok () ↔ diagnostics.clock.isHealthy = true ∨ decodes = [] := by
    by_cases hhealthy : diagnostics.clock.isHealthy = true <;> by_cases hdecodes : decodes = [] <;>
      simp [hhealthy, hdecodes, pure, Except.pure, throw, throwThe, MonadExceptOf.throw]
  rw [exceptBind_ok]
  constructor
  · rintro ⟨_, hclock, hrest⟩
    obtain ⟨_, hmetadata, hdecodes⟩ := exceptBind_ok.mp hrest
    exact ⟨not_not.mp hcaptured, Int.not_lt.mp hrecorded, Nat.not_lt.mp hlength, not_not.mp hdrift, hclock,
      forM_ok.mp hmetadata, hlast.mp hdecodes⟩
  · rintro ⟨-, -, -, -, hclock, hmetadata, hdecodes⟩
    exact ⟨(), hclock, exceptBind_ok.mpr ⟨(), forM_ok.mpr hmetadata, hlast.mpr hdecodes⟩⟩

/-- A record holds what its checks promise, of its sorted decodes as of those it was given. -/
theorem ReceiveRecord.facts (record : ReceiveRecord) : record.Facts := by
  obtain ⟨supplied, hvalid, hsorted⟩ := record.checked
  have hperm : record.decodes.Perm supplied := hsorted ▸ Ft8Decode.sortDeterministically_perm supplied
  obtain ⟨hcaptured, hrecorded, hlength, hdrift, hclock, hmetadata, hdecodes⟩ := validateReceive_ok.mp hvalid
  have hbounded : record.decodes.length ≤ maxStoredDecodesPerWindow := hperm.length_eq ▸ hlength
  have hown : ∀ decode ∈ record.decodes, validateDecodeMetadata decode.metadata = .ok () := fun decode hdecode =>
    hmetadata decode (hperm.mem_iff.mp hdecode)
  have hnone : record.diagnostics.clock.isHealthy = true ∨ record.decodes = [] :=
    hdecodes.imp_right fun hempty => List.perm_nil.mp (by rwa [hempty] at hperm)
  refine ⟨hcaptured, hrecorded, hbounded, hdrift, hclock, hown, ?_, ?_⟩
  · rw [hsorted, Ft8Decode.sortDeterministically_sorted]
  · exact validateReceive_ok.mpr ⟨hcaptured, hrecorded, hbounded, hdrift, hclock, hown, hnone⟩

/-- A record is built from its own parts. -/
theorem ReceiveRecord.new_self (record : ReceiveRecord) :
    ReceiveRecord.new record.context record.diagnostics record.decodes record.recordedUtcMillis = .ok record := by
  have hfacts := record.facts
  unfold ReceiveRecord.new
  split
  · cases record
    simp only [hfacts.ordered]
  · rename_i error herror
    rw [hfacts.revalidated] at herror
    cases herror

theorem validateDecodeMetadata_ok {metadata : Ft8DecodeMetadata} (h : validateDecodeMetadata metadata = .ok ()) :
    (-60000 ≤ metadata.startOffsetMillis ∧ metadata.startOffsetMillis ≤ 60000) ∧ metadata.audioFrequencyHz ≤ 6000 ∧
      (-100 ≤ metadata.signalToNoiseDb ∧ metadata.signalToNoiseDb ≤ 100) := by
  unfold validateDecodeMetadata at h
  split at h
  · cases h
  · omega

/-- The row of a decode of a record passes its checks. -/
theorem decodeRow_check {record : ReceiveRecord} {decode : Ft8Decode} {index : Nat} (hdecode : decode ∈ record.decodes)
    (hindex : index < record.decodes.length) :
    (decodeRow record.context.receiveWindowId index decode).check = true := by
  have hbounded : record.decodes.length ≤ 128 := record.facts.bounded
  obtain ⟨hoffset, hfrequency, hratio⟩ := validateDecodeMetadata_ok (record.facts.metadata decode hdecode)
  simp only [DecodeRow.check, decodeRow, Bool.and_eq_true, between_iff]
  exact ⟨by omega, durableMessageColumns_check _⟩

theorem readDecode_row {record : ReceiveRecord} {decode : Ft8Decode} (hdecode : decode ∈ record.decodes) (index : Nat) :
    readDecode (decodeRow record.context.receiveWindowId index decode) index = .ok decode := by
  obtain ⟨hoffset, hfrequency, hratio⟩ := validateDecodeMetadata_ok (record.facts.metadata decode hdecode)
  rw [readDecode, if_neg (by simp [decodeRow])]
  simp only [exceptBind_ok]
  exact ⟨_, fromColumn_ok (by simp only [decodeRow]; omega), _, toU32_natCast _ (by omega), _,
    fromColumn_ok (by simp only [decodeRow]; omega), _, reconstructMessage_columns _, rfl⟩

/-- The rows of decodes from an index on are read back as the decodes. -/
theorem readDecode_rows {record : ReceiveRecord} {decodes : List Ft8Decode} (hsub : ∀ decode ∈ decodes, decode ∈ record.decodes)
    (start : Nat) :
    List.Forall₂ (fun entry decode => readDecode entry.1 entry.2 = .ok decode)
      (((decodes.zipIdx start).map fun entry => decodeRow record.context.receiveWindowId entry.2 entry.1).zipIdx start)
      decodes := by
  induction decodes generalizing start with
  | nil => exact .nil
  | cons decode decodes ih =>
    refine .cons (readDecode_row (hsub decode List.mem_cons_self) start) (ih (fun other hother => ?_) (start + 1))
    exact hsub other (List.mem_cons_of_mem _ hother)

/-- The decodes of a record are read back from its rows. -/
theorem readDecodes_rows (record : ReceiveRecord) : readDecodes (decodeRows record) = .ok record.decodes := by
  have hrows : (decodeRows record).zipIdx.mapM (fun (raw, expectedIndex) => readDecode raw expectedIndex) =
      .ok record.decodes := mapM_ok.mpr (readDecode_rows (fun _ hdecode => hdecode) 0)
  rw [readDecodes, hrows]
  show (if Ft8Decode.sortDeterministically record.decodes ≠ record.decodes then _ else _) = _
  rw [if_neg (not_not.mpr record.facts.ordered)]
  rfl

/-- The health is as its constructor checks it, and the unsigned counters fit their columns. -/
structure ReceiveRecord.Storable (record : ReceiveRecord) : Prop where
  audio : InputHealth.new record.diagnostics.audio.latencyMillis record.diagnostics.audio.driftPartsPerMillion
    record.diagnostics.audio.overflowCount record.diagnostics.audio.clippedSampleCount
    record.diagnostics.audio.maxCallbackDelayMillis = .ok record.diagnostics.audio
  jitter : record.diagnostics.timeline.maxJitterMillis < 2 ^ 32
  processGeneration : record.context.processGeneration.value.toNat < 2 ^ 63
  streamGeneration : record.context.streamGeneration.value.toNat < 2 ^ 63
  position : record.context.captureMapping.position.frames.toNat < 2 ^ 63
  monotonic : record.context.captureMapping.monotonicMillis.toNat < 2 ^ 63
  overflow : record.diagnostics.audio.overflowCount.toNat < 2 ^ 63
  clipped : record.diagnostics.audio.clippedSampleCount.toNat < 2 ^ 63
  incomplete : record.diagnostics.timeline.incompleteSlotCount < 2 ^ 63
  late : record.diagnostics.timeline.lateBatchCount < 2 ^ 63
  clock : record.diagnostics.clock.FitsI64

/-- The rows of a record are there and pass their checks. -/
def ReceiveRecord.RowsAccepted (record : ReceiveRecord) (sequence : Nat) : Prop :=
  ∃ window diagnostics, windowRow sequence record = .ok window ∧ window.check = true ∧
    diagnosticsRow record = .ok diagnostics ∧ diagnostics.check = true

theorem contextColumns_ok {context : ReceiveWindowContext} {columns : ContextColumns} :
    contextColumns context = .ok columns ↔
      context.processGeneration.value.toNat < 2 ^ 63 ∧ context.streamGeneration.value.toNat < 2 ^ 63 ∧
      columns =
        { serviceInstanceId := context.serviceInstanceId.text
          processGeneration := context.processGeneration.value.toNat
          streamGeneration := context.streamGeneration.value.toNat
          slotStartUtcMillis := context.slot.startUtcUnixMillis.toInt
          devicePlatform := platformToStr context.deviceIdentity.platform
          deviceOpaqueId := context.deviceIdentity.opaqueId
          sampleRateHz := context.configuration.sampleRateHz
          channels := context.configuration.channels
          sampleFormat := sampleFormatToStr context.configuration.sampleFormat
          selectedChannel := context.configuration.selectedChannel } := by
  simp only [contextColumns, exceptBind_ok, toI64_ok, exceptPure_ok]
  constructor
  · rintro ⟨_, ⟨hprocess, rfl⟩, _, ⟨hstream, rfl⟩, rfl⟩
    exact ⟨hprocess, hstream, rfl⟩
  · rintro ⟨hprocess, hstream, rfl⟩
    exact ⟨_, ⟨hprocess, rfl⟩, _, ⟨hstream, rfl⟩, rfl⟩

theorem toNat_pos_of_ne {value : UInt64} (h : value ≠ 0) : 0 < value.toNat :=
  Nat.pos_of_ne_zero fun hzero => h (UInt64.toNat_inj.mp hzero)

theorem platformToStr_column (platform : InputPlatform) :
    ["macos_core_audio", "windows_wasapi", "linux_alsa", "linux_jack"].contains (platformToStr platform) = true := by
  cases platform <;> simp [platformToStr]

theorem sampleFormatToStr_column (format : InputSampleFormat) :
    ["signed_8", "signed_16", "signed_24", "signed_32", "signed_64", "unsigned_8", "unsigned_16", "unsigned_24",
      "unsigned_32", "unsigned_64", "float_32", "float_64"].contains (sampleFormatToStr format) = true := by
  cases format <;> simp [sampleFormatToStr]

/-- The context's columns pass their checks. -/
theorem contextColumns_check {context : ReceiveWindowContext} {columns : ContextColumns}
    (h : contextColumns context = .ok columns) : columns.check = true := by
  obtain ⟨-, -, rfl⟩ := contextColumns_ok.mp h
  have hprocess := toNat_pos_of_ne context.processGeneration.nonzero
  have hstream := toNat_pos_of_ne context.streamGeneration.nonzero
  have hrate : (8000 : Nat) ≤ context.configuration.sampleRateHz ∧ context.configuration.sampleRateHz ≤ 384000 :=
    ⟨context.configuration.rate_ge, context.configuration.rate_le⟩
  have hchannels : 0 < context.configuration.channels ∧ context.configuration.channels ≤ 32 :=
    ⟨context.configuration.channels_pos, context.configuration.channels_le⟩
  have hselected := context.configuration.selected_lt
  have haligned : context.slot.startUtcUnixMillis.toInt.tmod 15000 = 0 := context.slot.aligned
  simp only [ContextColumns.check, Bool.and_eq_true, between_iff, decide_eq_true_eq, beq_iff_eq]
  exact ⟨⟨⟨⟨⟨⟨⟨⟨⟨identity_column rfl rfl _, by omega⟩, by omega⟩, context.slot.nonneg, haligned⟩,
    platformToStr_column _⟩, validateBoundedText_column context.deviceIdentity.bounded⟩, by omega⟩, by omega⟩,
    sampleFormatToStr_column _⟩, by omega⟩

theorem windowRow_ok {sequence : Nat} {record : ReceiveRecord} {row : WindowRow} :
    windowRow sequence record = .ok row ↔ ∃ columns, contextColumns record.context = .ok columns ∧
      record.context.captureMapping.position.frames.toNat < 2 ^ 63 ∧
      record.context.captureMapping.monotonicMillis.toNat < 2 ^ 63 ∧
      row =
        { sequence
          receiveWindowId := record.context.receiveWindowId.text
          context := columns
          capturePositionFrames := record.context.captureMapping.position.frames.toNat
          captureUtcMillis := record.context.captureMapping.utcUnixMillis.toInt
          captureMonotonicMillis := record.context.captureMapping.monotonicMillis.toNat
          recordedUtcMillis := record.recordedUtcMillis.toInt } := by
  simp only [windowRow, exceptBind_ok, toI64_ok, exceptPure_ok]
  constructor
  · rintro ⟨columns, hcolumns, _, ⟨hposition, rfl⟩, _, ⟨hmonotonic, rfl⟩, rfl⟩
    exact ⟨columns, hcolumns, hposition, hmonotonic, rfl⟩
  · rintro ⟨columns, hcolumns, hposition, hmonotonic, rfl⟩
    exact ⟨columns, hcolumns, _, ⟨hposition, rfl⟩, _, ⟨hmonotonic, rfl⟩, rfl⟩

theorem diagnosticsRow_ok {record : ReceiveRecord} {row : DiagnosticsRow} :
    diagnosticsRow record = .ok row ↔ ∃ columns, durableClockColumns record.diagnostics.clock = .ok columns ∧
      record.diagnostics.audio.overflowCount.toNat < 2 ^ 63 ∧
      record.diagnostics.audio.clippedSampleCount.toNat < 2 ^ 63 ∧
      record.diagnostics.timeline.incompleteSlotCount < 2 ^ 63 ∧
      record.diagnostics.timeline.lateBatchCount < 2 ^ 63 ∧
      row =
        { receiveWindowId := record.context.receiveWindowId.text
          audioLatencyMillis := record.diagnostics.audio.latencyMillis
          audioDriftPartsPerMillion := record.diagnostics.audio.driftPartsPerMillion
          audioOverflowCount := record.diagnostics.audio.overflowCount.toNat
          audioClippedSampleCount := record.diagnostics.audio.clippedSampleCount.toNat
          audioMaxCallbackDelayMillis := record.diagnostics.audio.maxCallbackDelayMillis
          timelineMaxJitterMillis := record.diagnostics.timeline.maxJitterMillis
          timelineDriftPartsPerMillion := record.diagnostics.timeline.driftPartsPerMillion
          timelineIncompleteSlotCount := record.diagnostics.timeline.incompleteSlotCount
          timelineLateBatchCount := record.diagnostics.timeline.lateBatchCount
          clock := columns } := by
  simp only [diagnosticsRow, exceptBind_ok, toI64_ok, exceptPure_ok]
  constructor
  · rintro ⟨columns, hcolumns, _, ⟨ho, rfl⟩, _, ⟨hc, rfl⟩, _, ⟨hi, rfl⟩, _, ⟨hl, rfl⟩, rfl⟩
    exact ⟨columns, hcolumns, ho, hc, hi, hl, rfl⟩
  · rintro ⟨columns, hcolumns, ho, hc, hi, hl, rfl⟩
    exact ⟨columns, hcolumns, _, ⟨ho, rfl⟩, _, ⟨hc, rfl⟩, _, ⟨hi, rfl⟩, _, ⟨hl, rfl⟩, rfl⟩

/-- A window's row passes its checks. -/
theorem windowRow_check {sequence : Nat} {record : ReceiveRecord} {row : WindowRow}
    (h : windowRow sequence record = .ok row) : row.check = true := by
  obtain ⟨columns, hcolumns, -, -, rfl⟩ := windowRow_ok.mp h
  have hcaptured : 0 ≤ record.context.captureMapping.utcUnixMillis.toInt := by
    rw [record.facts.captured]
    exact record.context.slot.nonneg
  simp only [WindowRow.check, Bool.and_eq_true, decide_eq_true_eq]
  exact ⟨⟨⟨⟨⟨identity_column rfl rfl _, contextColumns_check hcolumns⟩, by omega⟩, hcaptured⟩, by omega⟩,
    record.facts.recorded⟩

theorem inputHealth_new {health : InputHealth} :
    InputHealth.new health.latencyMillis health.driftPartsPerMillion health.overflowCount health.clippedSampleCount
        health.maxCallbackDelayMillis = .ok health ↔
      health.latencyMillis ≤ 60000 ∧ (-100000 ≤ health.driftPartsPerMillion ∧ health.driftPartsPerMillion ≤ 100000) ∧
        health.maxCallbackDelayMillis ≤ 60000 := by
  have hlatency : maxLatencyMillis = 60000 := rfl
  have hdrift : maxDriftPartsPerMillion = 100000 := rfl
  have hdelay : Audio.maxCallbackDelayMillis = 60000 := rfl
  unfold InputHealth.new
  split
  · exact ⟨fun h => (by cases h), fun h => by omega⟩
  split
  · exact ⟨fun h => (by cases h), fun h => by omega⟩
  split
  · exact ⟨fun h => (by cases h), fun h => by omega⟩
  · exact ⟨fun _ => by omega, fun _ => rfl⟩

/-- The diagnostics' row passes its checks exactly when the health is checked and the jitter has its width. -/
theorem diagnosticsRow_check {record : ReceiveRecord} {row : DiagnosticsRow} (h : diagnosticsRow record = .ok row) :
    row.check = true ↔ InputHealth.new record.diagnostics.audio.latencyMillis
        record.diagnostics.audio.driftPartsPerMillion record.diagnostics.audio.overflowCount
        record.diagnostics.audio.clippedSampleCount record.diagnostics.audio.maxCallbackDelayMillis =
          .ok record.diagnostics.audio ∧
      record.diagnostics.timeline.maxJitterMillis < 2 ^ 32 := by
  obtain ⟨columns, hcolumns, -, -, -, -, rfl⟩ := diagnosticsRow_ok.mp h
  have hdrift := record.facts.drift
  have hclock := (durableClockColumns_read hcolumns).1
  simp only [DiagnosticsRow.check, Bool.and_eq_true, between_iff, decide_eq_true_eq, inputHealth_new]
  constructor
  · intro hall
    omega
  · intro hall
    exact ⟨by omega, hclock⟩

/-- **The rows of a record pass every check** exactly when it is storable. -/
theorem rowsAccepted_iff {record : ReceiveRecord} {sequence : Nat} :
    record.RowsAccepted sequence ↔ record.Storable := by
  constructor
  · rintro ⟨window, diagnostics, hwindow, -, hdiagnostics, hcheck⟩
    obtain ⟨columns, hcolumns, hposition, hmonotonic, -⟩ := windowRow_ok.mp hwindow
    obtain ⟨hprocess, hstream, -⟩ := contextColumns_ok.mp hcolumns
    obtain ⟨haudio, hjitter⟩ := (diagnosticsRow_check hdiagnostics).mp hcheck
    obtain ⟨clock, hclock, hoverflow, hclipped, hincomplete, hlate, -⟩ := diagnosticsRow_ok.mp hdiagnostics
    exact ⟨haudio, hjitter, hprocess, hstream, hposition, hmonotonic, hoverflow, hclipped, hincomplete, hlate,
      (durableClockColumns_ok record.facts.clock).mp ⟨clock, hclock⟩⟩
  · intro h
    obtain ⟨clock, hclock⟩ := (durableClockColumns_ok record.facts.clock).mpr h.clock
    have hcolumns := contextColumns_ok.mpr ⟨h.processGeneration, h.streamGeneration, rfl⟩
    have hwindow : windowRow sequence record = .ok _ := windowRow_ok.mpr ⟨_, hcolumns, h.position, h.monotonic, rfl⟩
    have hdiagnostics := diagnosticsRow_ok.mpr ⟨clock, hclock, h.overflow, h.clipped, h.incomplete, h.late, rfl⟩
    exact ⟨_, _, hwindow, windowRow_check hwindow, hdiagnostics,
      (diagnosticsRow_check hdiagnostics).mpr ⟨h.audio, h.jitter⟩⟩

/-! ## Reading a record back -/

theorem deviceIdentity_new (identity : InputDeviceIdentity) :
    InputDeviceIdentity.new identity.platform identity.opaqueId = .ok identity := dif_pos identity.bounded

theorem configuration_new (configuration : InputConfiguration) :
    InputConfiguration.new configuration.sampleRateHz configuration.channels configuration.sampleFormat
      configuration.selectedChannel = .ok configuration := by
  rw [InputConfiguration.new, dif_pos ⟨configuration.rate_ge, configuration.rate_le⟩,
    dif_pos ⟨configuration.channels_pos, configuration.channels_le⟩, dif_pos configuration.selected_lt]

theorem processGeneration_new (generation : ProcessGeneration) :
    ProcessGeneration.new (UInt64.ofNat generation.value.toNat) = .ok generation := by
  rw [UInt64.ofNat_toNat]
  exact dif_neg generation.nonzero

theorem streamGeneration_new (generation : StreamGeneration) :
    StreamGeneration.new (UInt64.ofNat generation.value.toNat) = .ok generation := by
  rw [UInt64.ofNat_toNat]
  exact dif_neg generation.nonzero

theorem slot_new (slot : Ft8ReceiveSlot) :
    Ft8ReceiveSlot.new (Int64.ofInt slot.startUtcUnixMillis.toInt) = .ok slot := by
  rw [Int64.ofInt_toInt]
  exact dif_pos ⟨slot.nonneg, slot.aligned⟩

/-- **A storable record is read back** from its own rows. -/
theorem reconstructReceive_rows {record : ReceiveRecord} {sequence : Nat} {window : WindowRow}
    {diagnostics : DiagnosticsRow} (hstorable : record.Storable) (hwindow : windowRow sequence record = .ok window)
    (hdiagnostics : diagnosticsRow record = .ok diagnostics) :
    reconstructReceive window diagnostics (decodeRows record) = .ok ⟨sequence, record⟩ := by
  obtain ⟨columns, hcolumns, hposition, hmonotonic, rfl⟩ := windowRow_ok.mp hwindow
  obtain ⟨hprocess, hstream, rfl⟩ := contextColumns_ok.mp hcolumns
  obtain ⟨clock, hclock, hoverflow, hclipped, hincomplete, hlate, rfl⟩ := diagnosticsRow_ok.mp hdiagnostics
  have hfacts := record.facts
  have hrate : record.context.configuration.sampleRateHz ≤ 384000 := record.context.configuration.rate_le
  have hchannels : record.context.configuration.channels ≤ 32 := record.context.configuration.channels_le
  have hselected := record.context.configuration.selected_lt
  obtain ⟨hlatency, hdrift, hdelay⟩ := inputHealth_new.mp hstorable.audio
  have htimeline := hfacts.drift
  have hmapping : CaptureTimeEvidence.new ⟨UInt64.ofNat record.context.captureMapping.position.frames.toNat⟩
      (Int64.ofInt record.context.captureMapping.utcUnixMillis.toInt)
      (UInt64.ofNat record.context.captureMapping.monotonicMillis.toNat) = .ok record.context.captureMapping := by
    rw [UInt64.ofNat_toNat, UInt64.ofNat_toNat, Int64.ofInt_toInt, CaptureTimeEvidence.new_ok, hfacts.captured]
    exact ⟨record.context.slot.nonneg, by rw [← hfacts.captured]⟩
  have haudio : InputHealth.new record.diagnostics.audio.latencyMillis record.diagnostics.audio.driftPartsPerMillion
      (UInt64.ofNat record.diagnostics.audio.overflowCount.toNat)
      (UInt64.ofNat record.diagnostics.audio.clippedSampleCount.toNat) record.diagnostics.audio.maxCallbackDelayMillis =
        .ok record.diagnostics.audio := by
    rw [UInt64.ofNat_toNat, UInt64.ofNat_toNat]
    exact hstorable.audio
  have hrecord : ReceiveRecord.new record.context record.diagnostics record.decodes
      (Int64.ofInt record.recordedUtcMillis.toInt) = .ok record := by
    rw [Int64.ofInt_toInt]
    exact record.new_self
  simp only [reconstructReceive, exceptBind_ok, exceptMapError_ok, persisted_ok, TypedId.fromStr_ok]
  refine ⟨_, (durableClockColumns_read hclock).2, _, rfl, _, strToPlatform_toStr _, _, deviceIdentity_new _,
    _, toU32_natCast _ (by omega), _, toU16_natCast _ (by omega), _, strToSampleFormat_toStr _,
    _, toU16_natCast _ (by omega), _, configuration_new _, _, rfl, _, toU64_natCast _ hprocess,
    _, processGeneration_new _, _, toU64_natCast _ hstream, _, streamGeneration_new _, _, slot_new _,
    _, toU64_natCast _ hposition, _, toU64_natCast _ hmonotonic, _, hmapping,
    _, toU32_natCast _ (by omega), _, fromColumn_ok (by omega), _, toU64_natCast _ hoverflow,
    _, toU64_natCast _ hclipped, _, toU32_natCast _ (by omega), _, haudio,
    _, toU32_natCast _ hstorable.jitter, _, fromColumn_ok (by omega), _, toU64_natCast _ hincomplete,
    _, toU64_natCast _ hlate, _, readDecodes_rows record, _, hrecord, rfl⟩

end Slotpilot.Storage
