import Slotpilot.Daemon.EventFidelity
import Slotpilot.Daemon.Selections
import Slotpilot.Storage.ReceiveReadback

/-!
# The public receive store

The adapter of the daemon records a window together with its `receive_decode` event: the event has the identity of the
window under its own prefix, and its payload is the public summary of the record with the sequence it was given.

* `receiveEventId_ok`: every window has an event identity of its own;
* `recordReceive_ends`: the adapter commits the window and its event, or leaves the store as it is.
-/

set_option autoImplicit false

namespace Slotpilot.Daemon

open Lib Domain Audio Storage

/-! ## Public summaries -/

def mapMessageClass : Protocol.Ft8MessageClass → Api.Ft8MessageClass
  | .generalCall => .generalCall
  | .directedGrid => .directedGrid
  | .signalReport => .signalReport
  | .rogerSignalReport => .rogerSignalReport
  | .roger => .roger
  | .ending73 => .ending73
  | .endingRr73 => .endingRr73

def mapDecode (decode : Protocol.Ft8Decode) : Api.Ft8Decode where
  startOffsetMillis := Int32.ofInt decode.metadata.startOffsetMillis
  audioFrequencyHz := UInt32.ofNat decode.metadata.audioFrequencyHz
  signalToNoiseDb := Int16.ofInt decode.metadata.signalToNoiseDb
  classification :=
    match decode.message with
    | .resolved value =>
      .resolved value.canonicalText value.sender.original (value.recipient.map (·.original))
        (mapMessageClass value.messageClass)
    | .unresolvedHash value => .unresolvedHash value.canonicalText value.detail
    | .unsupported value => .unsupported value.canonicalText value.detail
    | .ambiguous value => .ambiguous value.canonicalText value.detail
    | .freeText value => .freeText value.text

/-- The public form of a clock summary; every fault is reported as an unhealthy clock. -/
def mapStorageClock : Storage.ReceiveClockHealth → Api.ReceiveClockHealth
  | .healthy mappingAgeMillis => .healthy (UInt64.ofNat mappingAgeMillis)
  | .unhealthy _ recoveryProgress recoveryRequired mappingAgeMillis =>
    .unhealthy .clockUnhealthy (UInt8.ofNat recoveryProgress) (UInt8.ofNat recoveryRequired)
      (UInt64.ofNat mappingAgeMillis)

/-- The public summary of a committed record. -/
def mapReceiveRecord (record : SequencedReceiveRecord) : Api.ReceiveRecordSummary where
  sequence := UInt64.ofNat record.sequence
  receiveWindowId := record.record.context.receiveWindowId
  slotStartUtcMillis := record.record.context.slot.startUtcUnixMillis
  selection :=
    { deviceIdentity := mapDeviceIdentity record.record.context.deviceIdentity
      configuration := mapConfiguration record.record.context.configuration }
  audio :=
    { latencyMillis := UInt32.ofNat record.record.diagnostics.audio.latencyMillis
      driftPartsPerMillion := Int32.ofInt record.record.diagnostics.audio.driftPartsPerMillion
      overflowCount := record.record.diagnostics.audio.overflowCount
      clippedSampleCount := record.record.diagnostics.audio.clippedSampleCount
      maxCallbackDelayMillis := UInt32.ofNat record.record.diagnostics.audio.maxCallbackDelayMillis }
  clock := mapStorageClock record.record.diagnostics.clock
  decodes := record.record.decodes.map mapDecode

/-- The public form of a page; without records its cursor is the one that was asked for. -/
def mapReceivePage (page : ReceivePage) (afterSequence : Nat) : Api.ReceiveHistoryPage where
  records := page.records.map mapReceiveRecord
  nextSequence := ((page.records.map mapReceiveRecord).getLast?.map (·.sequence)).getD (UInt64.ofNat afterSequence)
  hasMore := page.hasMore

/-! ## Event identities -/

/-- The identity of a window under the prefix of events. -/
def receiveEventId (receiveWindowId : ReceiveWindowId) : Except StorageError EventId := do
  let suffix ← okOr .invalidReceiveEventPayload (receiveWindowId.text.toList.dropPrefix? "rxw_".toList)
  (TypedId.fromStr "evt_" ("evt_" ++ String.ofList suffix)).mapError .invalidIdentity

theorem receiveEventId_eq {receiveWindowId : ReceiveWindowId} {payload : List Char}
    (hpayload : receiveWindowId.text.toList = "rxw_".toList ++ payload) :
    receiveEventId receiveWindowId =
      (TypedId.fromStr "evt_" ("evt_" ++ String.ofList payload)).mapError .invalidIdentity := by
  rw [receiveEventId, hpayload, List.dropPrefix?_append_of_beq payload (BEq.refl "rxw_".toList)]
  rfl

/-- Every window has an event identity. -/
theorem receiveEventId_ok (receiveWindowId : ReceiveWindowId) :
    ∃ eventId, receiveEventId receiveWindowId = .ok eventId := by
  obtain ⟨payload, hpayload, hrest⟩ := validateId_ok.mp receiveWindowId.valid
  have hvalid : validateId "evt_" ("evt_" ++ String.ofList payload) = .ok () :=
    validateId_ok.mpr ⟨payload, by rw [String.toList_append, String.toList_ofList (l := payload)], hrest⟩
  refine ⟨⟨_, hvalid⟩, ?_⟩
  rw [receiveEventId_eq hpayload, exceptMapError_ok, TypedId.fromStr_ok]

/-- Two windows with one event identity are one. -/
theorem receiveEventId_inj {a b : ReceiveWindowId} {eventId : EventId} (ha : receiveEventId a = .ok eventId)
    (hb : receiveEventId b = .ok eventId) : a = b := by
  obtain ⟨payloadA, hpayloadA, -⟩ := validateId_ok.mp a.valid
  obtain ⟨payloadB, hpayloadB, -⟩ := validateId_ok.mp b.valid
  rw [receiveEventId_eq hpayloadA, exceptMapError_ok, TypedId.fromStr_ok] at ha
  rw [receiveEventId_eq hpayloadB, exceptMapError_ok, TypedId.fromStr_ok] at hb
  have hsame : payloadA = payloadB := by
    have htext := congrArg String.toList (ha.symm.trans hb)
    rwa [String.toList_append, String.toList_append, String.toList_ofList (l := payloadA),
      String.toList_ofList (l := payloadB), List.append_cancel_left_eq] at htext
  refine TypedId.ext (String.toList_inj.mp ?_)
  rw [hpayloadA, hpayloadB, hsame]

/-! ## Recording -/

/-- The text of the event of a committed record. -/
def receiveEventJson (serde : Serde) (record : SequencedReceiveRecord) : Except StorageError String :=
  okOr .invalidReceiveEventPayload
    (serde.toText (.object (Api.EventPayload.receiveDecode (mapReceiveRecord record)).toMap))

namespace PublicReceiveStore

/-- Records a window with its public event. -/
def recordReceive (serde : Serde) (sqlite : Sqlite) (record : ReceiveRecord) : Statement ReceiveInsertOutcome := do
  let eventId ← fromResult (receiveEventId record.context.receiveWindowId)
  let commit ← ReceiveStore.recordReceiveWithEventBuilder sqlite record eventId record.recordedUtcMillis.toInt
    fun sequence => receiveEventJson serde ⟨sequence, record⟩
  pure commit.receive

/-- A call of the store that the daemon holds. -/
inductive Call
  | recordReceive (record : ReceiveRecord)
  | pruneReceiveBefore (firstRetainedSequence : Nat)
  | pruneEventsBefore (firstRetainedSequence : Nat)

/-- What a call returns. -/
inductive Answer
  | received (outcome : Except StorageError ReceiveInsertOutcome)
  | pruned (count : Except StorageError Nat)

/-- The store as a machine. -/
def step (serde : Serde) (sqlite : Sqlite) (self : ReceiveStore) : Call → Answer × ReceiveStore
  | .recordReceive record => ReceiveStore.run .received (recordReceive serde sqlite record) self
  | .pruneReceiveBefore firstRetainedSequence =>
    ReceiveStore.run .pruned (ReceiveStore.pruneReceiveBefore firstRetainedSequence) self
  | .pruneEventsBefore firstRetainedSequence =>
    ReceiveStore.run .pruned (ReceiveStore.pruneEventsBefore firstRetainedSequence) self

variable {self : ReceiveStore} {log : List StoredReceive} {record : ReceiveRecord}

/-- **Recording** commits a window and its event, or leaves the store as it is. -/
theorem recordReceive_ends (h : Holds self log) (serde : Serde) (sqlite : Sqlite) {eventId : EventId}
    (hid : receiveEventId record.context.receiveWindowId = .ok eventId) :
    Ends (recordReceive serde sqlite record) self
      (fun recorded after => ∃ commit next, commit.receive = recorded ∧
        Committed self log record eventId record.recordedUtcMillis.toInt
          (fun sequence => receiveEventJson serde ⟨sequence, record⟩) commit after next)
      (fun error after => Uncommitted sqlite self log record eventId record.recordedUtcMillis.toInt
        (fun sequence => receiveEventJson serde ⟨sequence, record⟩) error ∧ after = self) := by
  unfold recordReceive
  rw [hid]
  show Ends (ReceiveStore.recordReceiveWithEventBuilder _ _ _ _ _ >>= _) self _ _
  simp only [ends_bind, ends_pure]
  refine (recordReceiveWithEventBuilder_ends h sqlite record eventId _ _).imp ?_ fun _ _ hno => hno
  rintro commit after ⟨next, hcommitted⟩
  exact ⟨commit, next, rfl, hcommitted⟩

end PublicReceiveStore

end Slotpilot.Daemon
