import Slotpilot.Daemon.PublicStore

/-!
# Retries under retention

Windows and events are pruned independently, and the event of a window names the window's sequence. In every run of the
public store each event was written for a record and a sequence, and no other window of its identity is stored
(`Coupled`). A record is therefore accepted again when its window is stored, or when neither its window nor its event is
left (`retried_iff`); the window alone can be pruned, and then the retry is a collision.
-/

set_option autoImplicit false

namespace Slotpilot.Daemon.PublicReceiveStore

open Lib Domain Audio Storage
open EventHistory (compactSerde compactSerde_faithful)

variable {serde : Serde} {sqlite : Sqlite} {self after : ReceiveStore} {log next : List StoredReceive}
  {record : ReceiveRecord}

/-- Serde writes every receive event, and SQLite accepts what it writes as JSON. -/
structure WritesEvents (serde : Serde) (sqlite : Sqlite) : Prop where
  faithful : serde.Faithful
  valid : ∀ summary, ∃ text, serde.toText (.object (Api.EventPayload.receiveDecode summary).toMap) = some text ∧
    sqlite.jsonValid text = true

/-! ## Payloads -/

/-- The summary of a decode event. -/
def decodeSummary : Api.EventPayload → Option Api.ReceiveRecordSummary
  | .receiveDecode summary => some summary
  | _ => none

/-- The summary that an event carries. -/
def storedSummary (serde : Serde) (row : EventRow) : Option Api.ReceiveRecordSummary :=
  (serde.fromText row.eventJson).bind fun value => (value.asObject.bind Api.EventPayload.fromMap).bind decodeSummary

/-- The text of an event is read as the summary it was written for. -/
theorem storedSummary_of_json (hserde : serde.Faithful) {row : EventRow} {sequenced : SequencedReceiveRecord}
    (hjson : receiveEventJson serde sequenced = .ok row.eventJson) :
    storedSummary serde row = some (mapReceiveRecord sequenced) := by
  have hread := hserde _ _ (okOr_ok.mp hjson)
  have hpayload : Api.EventPayload.fromMap (Api.EventPayload.receiveDecode (mapReceiveRecord sequenced)).toMap =
      some (.receiveDecode (mapReceiveRecord sequenced)) := (Api.EventPayload.fromMap_toMap _).mpr trivial
  rw [storedSummary, hread, Option.bind_some, JsonValue.asObject_object, Option.bind_some, hpayload]
  rfl

/-! ## The invariant -/

/-- The event was written for the record and the sequence. -/
structure WrittenFor (serde : Serde) (row : EventRow) (sequenced : SequencedReceiveRecord) : Prop where
  eventId : ∃ eventId, receiveEventId sequenced.record.context.receiveWindowId = .ok eventId ∧ row.eventId = eventId.text
  service : row.serviceInstanceId = sequenced.record.context.serviceInstanceId.text
  json : receiveEventJson serde sequenced = .ok row.eventJson
  occurred : row.occurredUtcMillis = sequenced.record.recordedUtcMillis.toInt

/-- Each event belongs to the only window of its identity, if that is stored. -/
structure Coupled (serde : Serde) (store : ReceiveStore) (log : List StoredReceive) : Prop where
  holds : Holds store log
  eventIds : (store.events.rows.map (·.eventId)).Nodup
  written : ∀ row ∈ store.events.rows, ∃ sequenced, WrittenFor serde row sequenced ∧
    sequenced.sequence ≤ store.lastSequence ∧
    ∀ entry ∈ log, entry.record.context.receiveWindowId = sequenced.record.context.receiveWindowId →
      entry.sequenced = sequenced

/-- Two events with one identity are one. -/
theorem Coupled.eq_of_eventId (h : Coupled serde self log) {a b : EventRow} (ha : a ∈ self.events.rows)
    (hb : b ∈ self.events.rows) (hsame : a.eventId = b.eventId) : a = b :=
  List.inj_on_of_nodup_map h.eventIds ha hb hsame

/-- The event that is stored with a record was written for it. -/
theorem writtenFor_eventRow (eventSequence : Nat) {sequence : Nat} {eventId : EventId} {text : String}
    (hid : receiveEventId record.context.receiveWindowId = .ok eventId)
    (htext : receiveEventJson serde ⟨sequence, record⟩ = .ok text) :
    WrittenFor serde (eventRow eventSequence eventId record.context.serviceInstanceId text record.recordedUtcMillis.toInt)
      ⟨sequence, record⟩ := ⟨⟨eventId, hid, rfl⟩, rfl, htext, rfl⟩

/-- The sequence in the text of an event. -/
theorem sequence_of_json (hserde : serde.Faithful) {row : EventRow} {a b : SequencedReceiveRecord}
    (ha : receiveEventJson serde a = .ok row.eventJson) (hb : receiveEventJson serde b = .ok row.eventJson)
    (hfitsA : a.sequence < 2 ^ 64) (hfitsB : b.sequence < 2 ^ 64) : a.sequence = b.sequence := by
  have hsame := Option.some.inj ((storedSummary_of_json hserde ha).symm.trans (storedSummary_of_json hserde hb))
  have hsequence : UInt64.ofNat a.sequence = UInt64.ofNat b.sequence := congrArg Api.ReceiveRecordSummary.sequence hsame
  have := congrArg UInt64.toNat hsequence
  rwa [UInt64.toNat_ofNat_of_lt' hfitsA, UInt64.toNat_ofNat_of_lt' hfitsB] at this

/-! ## One call -/

theorem Coupled.refl_of_events {events : EventTable} (h : Coupled serde self log)
    (hsub : List.Sublist events.rows self.events.rows) : Coupled serde { self with events } log where
  holds := h.holds.with_events events
  eventIds := h.eventIds.sublist (hsub.map _)
  written row hrow := h.written row (hsub.subset hrow)

/-- A new event of a stored record keeps the store coupled. -/
theorem Coupled.append_event {sequenced : SequencedReceiveRecord} {row : EventRow} {events : EventTable}
    (h : Coupled serde self log) (hstored : ∃ entry ∈ log, entry.sequenced = sequenced) (hwritten : WrittenFor serde row sequenced)
    (hnone : ∀ other ∈ self.events.rows, other.eventId ≠ row.eventId)
    (hrows : events.rows = self.events.rows ++ [row]) : Coupled serde { self with events } log where
  holds := h.holds.with_events events
  eventIds := by
    show (events.rows.map (·.eventId)).Nodup
    rw [hrows, List.map_append, List.nodup_append]
    refine ⟨h.eventIds, List.nodup_singleton _, fun id hid other hother => ?_⟩
    obtain ⟨old, hold, rfl⟩ := List.mem_map.mp hid
    rw [List.mem_singleton.mp hother]
    exact hnone old hold
  written other hother := by
    rw [show ({ self with events } : ReceiveStore).events.rows = self.events.rows ++ [row] from hrows] at hother
    rcases List.mem_append.mp hother with hold | hnew
    · exact h.written other hold
    · rw [List.mem_singleton.mp hnew]
      obtain ⟨entry, hentry, hsequenced⟩ := hstored
      refine ⟨sequenced, hwritten, ?_, fun candidate hcandidate hsame => ?_⟩
      · rw [← hsequenced]
        exact (h.holds.assigned entry hentry).2
      · rw [h.holds.eq_of_shares hcandidate hentry (.inl (by rw [hsame, ← hsequenced]; rfl)), hsequenced]

/-- A new record that has no event keeps the store coupled. -/
theorem Coupled.append_record {entry : StoredReceive} {recorded : ReceiveStore} (h : Coupled serde self log)
    (hholds : Holds recorded (log ++ [entry])) (hlast : recorded.lastSequence = self.lastSequence + 1)
    (hevents : recorded.events = self.events) {eventId : EventId}
    (hid : receiveEventId entry.record.context.receiveWindowId = .ok eventId)
    (hnone : ∀ row ∈ self.events.rows, row.eventId ≠ eventId.text) : Coupled serde recorded (log ++ [entry]) where
  holds := hholds
  eventIds := by
    rw [hevents]
    exact h.eventIds
  written row hrow := by
    rw [hevents] at hrow
    obtain ⟨sequenced, hwritten, hle, hown⟩ := h.written row hrow
    refine ⟨sequenced, hwritten, by omega, fun other hother hsame => ?_⟩
    rcases List.mem_append.mp hother with hold | hnew
    · exact hown other hold hsame
    · rw [List.mem_singleton.mp hnew] at hsame
      obtain ⟨written, hwrittenId, hrowId⟩ := hwritten.eventId
      rw [← hsame, hid, Except.ok.injEq] at hwrittenId
      exact absurd (by rw [hrowId, hwrittenId]) (hnone row hrow)

/-- The event of a new record is new: one that is there names a sequence that was given before. -/
theorem Coupled.event_fresh (hserde : serde.Faithful) (h : Coupled serde self log) {recorded : ReceiveStore}
    (hevents : recorded.events = self.events) {row : EventRow}
    (hwritten : WrittenFor serde row ⟨self.lastSequence + 1, record⟩) (hstored : EventStored recorded row after) :
    (∀ other ∈ self.events.rows, other.eventId ≠ row.eventId) ∧ self.events.lastSequence + 1 < 2 ^ 63 := by
  cases hstored with
  | existing hrow =>
    rw [hevents] at hrow
    obtain ⟨sequenced, hother, hle, -⟩ := h.written _ hrow
    have hfits := h.holds.fits
    have hsequence : self.lastSequence + 1 = sequenced.sequence :=
      sequence_of_json hserde hwritten.json hother.json (show self.lastSequence + 1 < 2 ^ 64 by omega) (by omega)
    omega
  | appended hnone hroom =>
    rw [← hevents]
    exact ⟨hnone, hroom⟩

/-- A committed record and its event are stored, and the store stays coupled. -/
theorem committed_coupled (hwrites : WritesEvents serde sqlite) (h : Coupled serde self log) {eventId : EventId}
    (hid : receiveEventId record.context.receiveWindowId = .ok eventId) {commit : ReceiveEventCommit}
    (hcommitted : Committed self log record eventId record.recordedUtcMillis.toInt
      (fun sequence => receiveEventJson serde ⟨sequence, record⟩) commit after next) :
    Coupled serde after next ∧ (∃ entry ∈ next, entry.sequenced = ⟨commit.receive.sequence, record⟩) ∧
      ∃ row ∈ after.events.rows, row.eventId = eventId.text ∧
        WrittenFor serde row ⟨commit.receive.sequence, record⟩ := by
  obtain ⟨receive, eventSequence⟩ := commit
  obtain ⟨recorded, next, hrecorded, text, hbuilt, after, hstored⟩ := hcommitted
  have hwritten := writtenFor_eventRow eventSequence hid hbuilt
  refine ⟨?_, hrecorded.mem, _, hstored.mem, rfl, hwritten⟩
  have hmem := hrecorded.mem
  cases hrecorded with
  | existing entry hentry hsame =>
    cases hstored with
    | existing => exact h
    | appended hnone _ events hrows => exact h.append_event hmem hwritten hnone hrows
  | inserted hnone hroom entry hentry recorded hlast hevents hholds =>
    have hrecord : entry.record = record := congrArg SequencedReceiveRecord.record hentry
    have hfresh := (h.event_fresh hwrites.faithful hevents hwritten hstored).1
    have hcoupled := h.append_record hholds hlast hevents (by rw [hrecord]; exact hid) hfresh
    cases hstored with
    | existing => exact hcoupled
    | appended hnone _ events hrows => exact hcoupled.append_event hmem hwritten hnone hrows

theorem recordReceive_coupled (hwrites : WritesEvents serde sqlite) (h : Coupled serde self log) (record : ReceiveRecord) :
    Ends (recordReceive serde sqlite record) self
      (fun recorded after => ∃ next, Coupled serde after next ∧
        ∃ entry ∈ next, entry.sequenced = ⟨recorded.sequence, record⟩)
      (fun _ after => after = self) := by
  obtain ⟨eventId, hid⟩ := receiveEventId_ok record.context.receiveWindowId
  refine (recordReceive_ends h.holds serde sqlite hid).imp ?_ fun error after hno => hno.2
  rintro recorded after ⟨commit, next, rfl, hcommitted⟩
  obtain ⟨hcoupled, hentry, -⟩ := committed_coupled hwrites h hid hcommitted
  exact ⟨next, hcoupled, hentry⟩

theorem Coupled.pruneReceive (h : Coupled serde self log) (firstRetainedSequence : Nat) :
    Ends (ReceiveStore.pruneReceiveBefore firstRetainedSequence) self
      (fun _ after => after.events = self.events ∧
        Coupled serde after (retained StoredReceive.sequence firstRetainedSequence log))
      (fun _ after => ¬firstRetainedSequence < 2 ^ 63 ∧ after = self) := by
  refine (pruneReceiveBefore_ends h.holds firstRetainedSequence).imp ?_ fun _ _ hno => hno.2
  rintro deleted after ⟨hlast, hevents, hholds⟩
  refine ⟨hevents, hholds, by rw [hevents]; exact h.eventIds, fun row hrow => ?_⟩
  rw [hevents] at hrow
  obtain ⟨sequenced, hwritten, hle, hown⟩ := h.written row hrow
  exact ⟨sequenced, hwritten, hlast ▸ hle, fun entry hentry => hown entry (mem_retained.mp hentry).1⟩

theorem Coupled.pruneEvents (h : Coupled serde self log) (firstRetainedSequence : Nat) :
    Ends (ReceiveStore.pruneEventsBefore firstRetainedSequence) self
      (fun _ after => Coupled serde after log) (fun _ after => after = self) := by
  refine (pruneEventsBefore_ends firstRetainedSequence).imp ?_ fun _ _ hno => hno.2
  rintro deleted after ⟨hafter, hrows⟩
  rw [hafter]
  refine h.refl_of_events ?_
  rw [hrows]
  exact List.filter_sublist

/-- **One call** keeps the store coupled. -/
theorem step_coupled (hwrites : WritesEvents serde sqlite) (h : Coupled serde self log) (call : Call) :
    ∃ next, Coupled serde (step serde sqlite self call).2 next := by
  cases call with
  | recordReceive record =>
    refine run_ends (recordReceive_coupled hwrites h record) ?_ ?_ (f := Answer.received)
      (P := fun _ after => ∃ next, Coupled serde after next)
    · rintro recorded after ⟨next, hcoupled, -⟩
      exact ⟨next, hcoupled⟩
    · rintro error after rfl
      exact ⟨log, h⟩
  | pruneReceiveBefore firstRetainedSequence =>
    refine run_ends (h.pruneReceive firstRetainedSequence) ?_ ?_ (f := Answer.pruned)
      (P := fun _ after => ∃ next, Coupled serde after next)
    · exact fun _ after hpruned => ⟨_, hpruned.2⟩
    · rintro error after ⟨-, rfl⟩
      exact ⟨log, h⟩
  | pruneEventsBefore firstRetainedSequence =>
    refine run_ends (h.pruneEvents firstRetainedSequence) ?_ ?_ (f := Answer.pruned)
      (P := fun _ after => ∃ next, Coupled serde after next)
    · exact fun _ after hcoupled => ⟨log, hcoupled⟩
    · rintro error after rfl
      exact ⟨log, h⟩

theorem coupled_empty : Coupled serde .empty [] where
  holds := holds_empty
  eventIds := List.nodup_nil
  written row hrow := by cases hrow

/-- **Every run** from the empty store keeps it coupled. -/
theorem final_coupled (hwrites : WritesEvents serde sqlite) (calls : List Call) :
    ∃ log, Coupled serde (final (step serde sqlite) .empty calls) log :=
  final_inv_all (fun _ call ⟨_, h⟩ => step_coupled hwrites h call) (I := fun store => ∃ log, Coupled serde store log)
    ⟨[], coupled_empty⟩ calls

/-! ## Retries -/

/-- The window of the event that a row carries. -/
def storedWindow (serde : Serde) (row : EventRow) : Option ReceiveWindowId :=
  (storedSummary serde row).map (·.receiveWindowId)

/-- Recording the record returns, and leaves one window and one event of its identity, which names the window's
sequence. -/
def Retried (serde : Serde) (sqlite : Sqlite) (store : ReceiveStore) (record : ReceiveRecord) : Prop :=
  ∃ recorded after, recordReceive serde sqlite record store = .ok recorded after ∧
    (∃ window, after.windows.filter (·.receiveWindowId = record.context.receiveWindowId.text) = [window] ∧
      window.sequence = recorded.sequence) ∧
    after.Stores ⟨recorded.sequence, record⟩ ∧
    ∃ row summary, after.events.rows.filter (fun row => storedWindow serde row = some record.context.receiveWindowId) = [row] ∧
      storedSummary serde row = some summary ∧ summary.sequence.toNat = recorded.sequence

/-- An event of the window is retained. -/
def EventLeft (store : ReceiveStore) (receiveWindowId : ReceiveWindowId) : Prop :=
  ∃ row ∈ store.events.rows, ∃ eventId, receiveEventId receiveWindowId = .ok eventId ∧ row.eventId = eventId.text

/-- The record is stored, or nothing of it is left; the tables have a sequence for what is missing. -/
def RetryAccepted (store : ReceiveStore) (record : ReceiveRecord) : Prop :=
  (∃ sequence, store.Stores ⟨sequence, record⟩) ∧
      (EventLeft store record.context.receiveWindowId ∨ store.events.lastSequence + 1 < 2 ^ 63) ∨
    (∀ other, store.Stores other → ¬SharesIdentity other.record.context record.context) ∧
      ¬EventLeft store record.context.receiveWindowId ∧ store.lastSequence + 1 < 2 ^ 63 ∧
      store.events.lastSequence + 1 < 2 ^ 63

theorem WrittenFor.storedWindow (hserde : serde.Faithful) {row : EventRow} {sequenced : SequencedReceiveRecord}
    (h : WrittenFor serde row sequenced) :
    storedWindow serde row = some sequenced.record.context.receiveWindowId := by
  rw [PublicReceiveStore.storedWindow, storedSummary_of_json hserde h.json]
  rfl

/-- A list whose only element with a property is `a`. -/
theorem filter_eq_singleton {α : Type} {p : α → Bool} {l : List α} {a : α} (hnodup : l.Nodup) (ha : a ∈ l)
    (hp : p a = true) (hunique : ∀ b ∈ l, p b = true → b = a) : l.filter p = [a] := by
  refine List.perm_singleton.mp ((List.perm_ext_iff_of_nodup (hnodup.filter p) (List.nodup_singleton a)).mpr fun b => ?_)
  rw [List.mem_filter, List.mem_singleton]
  exact ⟨fun ⟨hb, hpb⟩ => hunique b hb hpb, fun hb => hb ▸ ⟨ha, hp⟩⟩

/-- What is committed is one window and one event of the record. -/
theorem retried_of_ok (hwrites : WritesEvents serde sqlite) (h : Coupled serde self log) {recorded : ReceiveInsertOutcome}
    (hok : recordReceive serde sqlite record self = .ok recorded after) : Retried serde sqlite self record := by
  obtain ⟨eventId, hid⟩ := receiveEventId_ok record.context.receiveWindowId
  obtain ⟨commit, next, rfl, hcommitted⟩ := (recordReceive_ends h.holds serde sqlite hid).of_ok hok
  obtain ⟨hcoupled, ⟨entry, hentry, hsequenced⟩, row, hrow, hrowId, hwritten⟩ := committed_coupled hwrites h hid hcommitted
  have hrecord : entry.record = record := congrArg SequencedReceiveRecord.record hsequenced
  have hsequence : entry.sequence = commit.receive.sequence := congrArg SequencedReceiveRecord.sequence hsequenced
  refine ⟨_, _, hok, ⟨entry.window, ?_, by rw [entry.window_sequence, hsequence]⟩, ?_, row, _, ?_,
    storedSummary_of_json hwrites.faithful hwritten.json, ?_⟩
  · rw [← hrecord]
    exact hcoupled.holds.filter_windows hentry
  · rw [← hsequenced]
    exact hcoupled.holds.stores hentry
  · refine filter_eq_singleton (List.Nodup.of_map _ hcoupled.eventIds) hrow ?_ fun other hother hsame => ?_
    · exact decide_eq_true (hwritten.storedWindow hwrites.faithful)
    · obtain ⟨sequenced, hotherWritten, -⟩ := hcoupled.written other hother
      rw [decide_eq_true_iff, hotherWritten.storedWindow hwrites.faithful, Option.some.injEq] at hsame
      obtain ⟨otherId, hotherId, hotherRow⟩ := hotherWritten.eventId
      rw [hsame, hid, Except.ok.injEq] at hotherId
      exact hcoupled.eq_of_eventId hother hrow (by rw [hotherRow, hrowId, hotherId])
  · have hle := (hcoupled.holds.assigned entry hentry).2
    have hfits := hcoupled.holds.fits
    show (UInt64.ofNat commit.receive.sequence).toNat = _
    exact UInt64.toNat_ofNat_of_lt' (show commit.receive.sequence < 2 ^ 64 by omega)

/-- A record that was recorded met the condition. -/
theorem accepted_of_committed (hwrites : WritesEvents serde sqlite) (h : Coupled serde self log) {eventId : EventId}
    (hid : receiveEventId record.context.receiveWindowId = .ok eventId) {commit : ReceiveEventCommit}
    (hcommitted : Committed self log record eventId record.recordedUtcMillis.toInt
      (fun sequence => receiveEventJson serde ⟨sequence, record⟩) commit after next) : RetryAccepted self record := by
  obtain ⟨receive, eventSequence⟩ := commit
  obtain ⟨recorded, next, hrecorded, text, hbuilt, after, hstored⟩ := hcommitted
  cases hrecorded with
  | existing entry hentry hsame =>
    refine .inl ⟨⟨entry.sequence, ?_⟩, ?_⟩
    · rw [← hsame]
      exact h.holds.stores hentry
    · cases hstored with
      | existing hrow => exact .inl ⟨_, hrow, eventId, hid, rfl⟩
      | appended _ hroom => exact .inr hroom
  | inserted hnone hroom entry hentry recorded hlast hevents hholds =>
    have hwritten := writtenFor_eventRow eventSequence hid hbuilt
    obtain ⟨hfresh, hevent⟩ := h.event_fresh hwrites.faithful hevents hwritten hstored
    refine .inr ⟨fun other hother => ?_, ?_, hroom, hevent⟩
    · obtain ⟨found, hfound, rfl⟩ := h.holds.stores_iff.mp hother
      exact hnone found hfound
    · rintro ⟨row, hrow, other, hother, hrowId⟩
      rw [hid, Except.ok.injEq] at hother
      exact hfresh row hrow (by rw [hrowId, ← hother]; rfl)

/-- The event that is retained for a stored record is the event of the record. -/
theorem Coupled.event_of_stored (h : Coupled serde self log) {entry : StoredReceive}
    (hentry : entry ∈ log) {eventId : EventId} (hid : receiveEventId entry.record.context.receiveWindowId = .ok eventId)
    {text : String} (htext : receiveEventJson serde entry.sequenced = .ok text) {row : EventRow}
    (hrow : row ∈ self.events.rows) (hrowId : row.eventId = eventId.text) :
    row = eventRow row.sequence eventId entry.record.context.serviceInstanceId text
      entry.record.recordedUtcMillis.toInt := by
  obtain ⟨sequenced, hwritten, -, hown⟩ := h.written row hrow
  obtain ⟨other, hother, hotherId⟩ := hwritten.eventId
  obtain rfl : eventId = other := TypedId.ext (hrowId.symm.trans hotherId)
  have hsame : entry.sequenced = sequenced := hown entry hentry (receiveEventId_inj hid hother)
  subst hsame
  have hjson : row.eventJson = text := Except.ok.inj (hwritten.json.symm.trans htext)
  have hservice := hwritten.service
  have hoccurred := hwritten.occurred
  cases row
  cases hrowId
  cases hjson
  cases hservice
  cases hoccurred
  rfl

theorem WritesEvents.json (hwrites : WritesEvents serde sqlite) (sequenced : SequencedReceiveRecord) :
    ∃ text, receiveEventJson serde sequenced = .ok text ∧ sqlite.jsonValid text = true := by
  obtain ⟨text, htext, hvalid⟩ := hwrites.valid (mapReceiveRecord sequenced)
  exact ⟨text, okOr_ok.mpr htext, hvalid⟩

/-- An event that is not refused as a collision has a sequence left only if its table has. -/
theorem no_room_of_rejected (hwrites : WritesEvents serde sqlite) {sequence : Nat} {text : String}
    (hbuilt : receiveEventJson serde ⟨sequence, record⟩ = .ok text)
    (hbad : sqlite.jsonValid text = false ∨ record.recordedUtcMillis.toInt < 0 ∨
      ¬self.events.lastSequence + 1 < 2 ^ 63) : ¬self.events.lastSequence + 1 < 2 ^ 63 := by
  rcases hbad with hinvalid | hnegative | hroom
  · obtain ⟨other, hother, hvalid⟩ := hwrites.json ⟨sequence, record⟩
    rw [hbuilt, Except.ok.injEq] at hother
    rw [← hother, hinvalid] at hvalid
    cases hvalid
  · exact absurd record.facts.recorded (not_le.mpr hnegative)
  · exact hroom

/-- A stored record is recorded again when its event is retained or there is room for it. -/
theorem committed_of_stored (hwrites : WritesEvents serde sqlite) (h : Coupled serde self log) {entry : StoredReceive}
    (hentry : entry ∈ log) {eventId : EventId}
    (hid : receiveEventId entry.record.context.receiveWindowId = .ok eventId)
    (hevent : EventLeft self entry.record.context.receiveWindowId ∨ self.events.lastSequence + 1 < 2 ^ 63)
    (error : StorageError) :
    ¬Uncommitted sqlite self log entry.record eventId entry.record.recordedUtcMillis.toInt
      (fun sequence => receiveEventJson serde ⟨sequence, entry.record⟩) error := by
  intro hno
  cases hno with
  | unrecorded _ hno =>
    cases hno with
    | unfit hunfit => exact hunfit entry.generationsFit
    | collision _ other hother hdiffers hshares => exact hdiffers (by rw [h.holds.eq_of_shares hother hentry hshares])
    | refused hnone => exact hnone entry hentry (.inl rfl)
  | unbuilt recorded _ _ _ _ hno =>
    obtain ⟨text, htext, -⟩ := hwrites.json ⟨recorded.sequence, entry.record⟩
    rw [htext] at hno
    cases hno
  | refused recorded _ _ hrecorded text hbuilt _ hno =>
    cases hrecorded with
    | existing other hother hsame =>
      obtain rfl : other = entry := h.holds.eq_of_shares hother hentry (.inl (by rw [hsame]))
      cases hno with
      | collision row hrow hrowId hdiffers => exact hdiffers (h.event_of_stored hentry hid hbuilt hrow hrowId)
      | rejected hnone hbad =>
        rcases hevent with ⟨row, hrow, otherId, hotherId, hrowId⟩ | hroom
        · rw [hid, Except.ok.injEq] at hotherId
          exact hnone row hrow (by rw [hrowId, hotherId])
        · exact no_room_of_rejected hwrites hbuilt hbad hroom
    | inserted hnone => exact hnone entry hentry (.inl rfl)

/-- A record of which nothing is left is recorded anew. -/
theorem committed_of_absent (hwrites : WritesEvents serde sqlite) (hstorable : record.Storable) {eventId : EventId}
    (hid : receiveEventId record.context.receiveWindowId = .ok eventId)
    (hnone : ∀ entry ∈ log, ¬SharesIdentity entry.record.context record.context)
    (hleft : ¬EventLeft self record.context.receiveWindowId) (hroom : self.lastSequence + 1 < 2 ^ 63)
    (hevent : self.events.lastSequence + 1 < 2 ^ 63) (error : StorageError) :
    ¬Uncommitted sqlite self log record eventId record.recordedUtcMillis.toInt
      (fun sequence => receiveEventJson serde ⟨sequence, record⟩) error := by
  intro hno
  cases hno with
  | unrecorded _ hno =>
    cases hno with
    | unfit hunfit => exact hunfit ⟨hstorable.processGeneration, hstorable.streamGeneration⟩
    | collision _ other hother _ hshares => exact hnone other hother hshares
    | refused _ _ hno => exact hno.2 ⟨hstorable, hroom⟩
  | unbuilt recorded _ _ _ _ hno =>
    obtain ⟨text, htext, -⟩ := hwrites.json ⟨recorded.sequence, record⟩
    rw [htext] at hno
    cases hno
  | refused recorded _ _ _ text hbuilt _ hno =>
    cases hno with
    | collision row hrow hrowId => exact hleft ⟨row, hrow, eventId, hid, hrowId⟩
    | rejected _ hbad => exact no_room_of_rejected hwrites hbuilt hbad hevent

/-- A record that meets the condition is recorded. -/
theorem ok_of_accepted (hwrites : WritesEvents serde sqlite) (h : Coupled serde self log) (hstorable : record.Storable)
    (haccepted : RetryAccepted self record) :
    ∃ recorded after, recordReceive serde sqlite record self = .ok recorded after := by
  obtain ⟨eventId, hid⟩ := receiveEventId_ok record.context.receiveWindowId
  have hends := recordReceive_ends h.holds serde sqlite hid
  have hnever : ∀ error, ¬Uncommitted sqlite self log record eventId record.recordedUtcMillis.toInt
      (fun sequence => receiveEventJson serde ⟨sequence, record⟩) error := by
    rcases haccepted with ⟨⟨sequence, hstores⟩, hevent⟩ | ⟨hnone, hleft, hroom, hevent⟩
    · obtain ⟨entry, hentry, hsequenced⟩ := h.holds.stores_iff.mp hstores
      obtain rfl : entry.record = record := congrArg SequencedReceiveRecord.record hsequenced
      exact committed_of_stored hwrites h hentry hid hevent
    · exact committed_of_absent hwrites hstorable hid (fun entry hentry => hnone _ (h.holds.stores hentry)) hleft
        hroom hevent
  obtain ⟨recorded, after, hok, -⟩ :=
    (hends.imp (fun _ _ hcommitted => hcommitted) fun error _ hno => hnever error hno.1).exists_ok
  exact ⟨recorded, after, hok⟩

/-- A retry is exact when its record is stored or nothing of it is left. -/
theorem retried_iff_accepted (hwrites : WritesEvents serde sqlite) (h : Coupled serde self log)
    (hstorable : record.Storable) : Retried serde sqlite self record ↔ RetryAccepted self record := by
  constructor
  · rintro ⟨recorded, after, hok, -⟩
    obtain ⟨eventId, hid⟩ := receiveEventId_ok record.context.receiveWindowId
    obtain ⟨commit, next, -, hcommitted⟩ := (recordReceive_ends h.holds serde sqlite hid).of_ok hok
    exact accepted_of_committed hwrites h hid hcommitted
  · intro haccepted
    obtain ⟨recorded, after, hok⟩ := ok_of_accepted hwrites h hstorable haccepted
    exact retried_of_ok hwrites h hok

/-- The run has committed the record. -/
def CommittedIn (serde : Serde) (sqlite : Sqlite) (calls : List Call) (record : ReceiveRecord) : Prop :=
  ∃ recorded, (Call.recordReceive record, Answer.received (.ok recorded)) ∈ transcript (step serde sqlite) .empty calls

theorem CommittedIn.storable (hwrites : WritesEvents serde sqlite) {calls : List Call}
    (h : CommittedIn serde sqlite calls record) : record.Storable := by
  obtain ⟨recorded, hmem⟩ := h
  obtain ⟨before, later, -, hanswer⟩ := exists_of_mem_transcript hmem
  obtain ⟨log, hcoupled⟩ := final_coupled hwrites before
  have hends := recordReceive_coupled hwrites hcoupled record
  obtain ⟨next, -, entry, -, hsequenced⟩ := hends.of_ok (outcome_eq_ok.mp (Answer.received.inj hanswer))
  have hrecord : entry.record = record := congrArg SequencedReceiveRecord.record hsequenced
  exact hrecord ▸ entry.storable

/-- **Retry under retention.** In every run of recordings and prunes, a record that was committed before is accepted
again, as one window and one event that names the window's sequence, exactly when its window is stored or neither a
window of its identity nor its event is left. -/
theorem retried_iff (hwrites : WritesEvents serde sqlite) (calls : List Call) (record : ReceiveRecord)
    (hcommitted : CommittedIn serde sqlite calls record) :
    Retried serde sqlite (final (step serde sqlite) .empty calls) record ↔
      RetryAccepted (final (step serde sqlite) .empty calls) record := by
  obtain ⟨log, hcoupled⟩ := final_coupled hwrites calls
  exact retried_iff_accepted hwrites hcoupled (hcommitted.storable hwrites)

theorem step_of_ok {recorded : ReceiveInsertOutcome}
    (hok : recordReceive serde sqlite record self = .ok recorded after) :
    step serde sqlite self (.recordReceive record) = (.received (.ok recorded), after) := by
  show (Answer.received (outcome (recordReceive serde sqlite record self)),
    finalState (recordReceive serde sqlite record self)) = _
  rw [hok]
  rfl

/-! ## A window pruned without its event -/

/-- A database that accepts the texts of JSON values. -/
def jsonSqlite : Sqlite := Sqlite.inOrder fun text => (Json.parse text).isSome

theorem writesEvents_compact : WritesEvents compactSerde jsonSqlite where
  faithful := compactSerde_faithful
  valid summary := by
    refine ⟨_, rfl, ?_⟩
    show (Json.parse _).isSome = true
    rw [Json.parse_text]
    rfl

def firstRecord : ReceiveRecord := quietRecord firstWindow ⟨1, one_nonzero⟩

theorem firstRecord_storable : firstRecord.Storable := quietRecord_storable _ _ (by decide)

/-- The empty store accepts every record that is storable. -/
theorem accepted_empty (record : ReceiveRecord) : RetryAccepted .empty record := by
  refine .inr ⟨fun other hother => ?_, ?_, by decide, by decide⟩
  · obtain ⟨entry, hentry, -⟩ := holds_empty.stores_iff.mp hother
    cases hentry
  · rintro ⟨row, hrow, -⟩
    cases hrow

/-- The empty store records the first record under the first sequence, with its event. -/
theorem firstRecord_recorded : ∃ recorded after, recordReceive compactSerde jsonSqlite firstRecord .empty = .ok recorded after ∧
    EventLeft after firstRecord.context.receiveWindowId ∧
      ∃ entry : StoredReceive, entry.sequence = 1 ∧ Coupled compactSerde after [entry] := by
  obtain ⟨recorded, after, hok⟩ :=
    ok_of_accepted writesEvents_compact coupled_empty firstRecord_storable (accepted_empty firstRecord)
  refine ⟨recorded, after, hok, ?_⟩
  obtain ⟨eventId, hid⟩ := receiveEventId_ok firstRecord.context.receiveWindowId
  obtain ⟨⟨receive, eventSequence⟩, next, -, hcommitted⟩ := (recordReceive_ends holds_empty _ _ hid).of_ok hok
  obtain ⟨hcoupled, -, row, hrow, hrowId, -⟩ := committed_coupled writesEvents_compact coupled_empty hid hcommitted
  refine ⟨⟨row, hrow, eventId, hid, hrowId⟩, ?_⟩
  obtain ⟨stored, next, hrecorded, -⟩ := hcommitted
  cases hrecorded with
  | existing entry hentry => cases hentry
  | inserted _ _ entry hentry => exact ⟨entry, congrArg SequencedReceiveRecord.sequence hentry, hcoupled⟩

/-- The first record is committed by the empty store. -/
theorem firstRecord_committed (later : List Call) :
    CommittedIn compactSerde jsonSqlite (.recordReceive firstRecord :: later) firstRecord := by
  obtain ⟨recorded, after, hok, -⟩ := firstRecord_recorded
  refine ⟨recorded, List.mem_cons.mpr (.inl ?_)⟩
  rw [step_of_ok hok]

theorem retried_iff_first :
    Retried compactSerde jsonSqlite (final (step compactSerde jsonSqlite) .empty [.recordReceive firstRecord]) firstRecord ↔
      RetryAccepted (final (step compactSerde jsonSqlite) .empty [.recordReceive firstRecord]) firstRecord :=
  retried_iff writesEvents_compact _ _ (firstRecord_committed [])

/-- After its window is pruned and its event is not, a committed record is not accepted again. -/
theorem pruned_window_not_retried :
    CommittedIn compactSerde jsonSqlite [.recordReceive firstRecord, .pruneReceiveBefore 2] firstRecord ∧
      ¬Retried compactSerde jsonSqlite
        (final (step compactSerde jsonSqlite) .empty [.recordReceive firstRecord, .pruneReceiveBefore 2]) firstRecord := by
  refine ⟨firstRecord_committed _, ?_⟩
  obtain ⟨recorded, after, hok, ⟨row, hrow, hevent⟩, entry, hsequence, hcoupled⟩ := firstRecord_recorded
  rw [final_cons, final_cons, final_nil, step_of_ok hok]
  have hpruned : EventLeft (step compactSerde jsonSqlite after (.pruneReceiveBefore 2)).2 firstRecord.context.receiveWindowId ∧
      Coupled compactSerde (step compactSerde jsonSqlite after (.pruneReceiveBefore 2)).2 [] := by
    refine run_ends (hcoupled.pruneReceive 2) ?_ ?_ (f := Answer.pruned)
      (P := fun _ pruned => EventLeft pruned firstRecord.context.receiveWindowId ∧ Coupled compactSerde pruned [])
    · rintro deleted pruned ⟨hevents, hrest⟩
      have hnone : retained StoredReceive.sequence 2 [entry] = [] := by simp [retained, hsequence]
      rw [hnone] at hrest
      exact ⟨⟨row, hevents ▸ hrow, hevent⟩, hrest⟩
    · rintro error pruned ⟨hlarge, -⟩
      exact absurd (by decide) hlarge
  rw [retried_iff_accepted writesEvents_compact hpruned.2 firstRecord_storable]
  rintro (⟨⟨sequence, hstores⟩, -⟩ | ⟨-, hleft, -⟩)
  · obtain ⟨found, hfound, -⟩ := hpruned.2.holds.stores_iff.mp hstores
    cases hfound
  · exact hleft hpruned.1

end Slotpilot.Daemon.PublicReceiveStore
