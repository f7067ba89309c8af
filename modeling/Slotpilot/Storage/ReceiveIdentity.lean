import Slotpilot.Storage.ReceiveRuns

/-!
# Identity and atomicity of the store

What each call of a run answers and leaves (`CallLaw`) and what the tables look like after it (`Consistent`).

* a record is answered with its own sequence when it is stored, refused when another shares its identity, and appended
  otherwise, as far as its columns and the sequence have room (`RecordLaw`);
* a recording leaves the old records and the one it inserted (`Leaves`), a prune those from its cut on, and a stored
  record keeps the sequence that it was inserted under (`stored_issued`);
* a call that fails leaves the store as it is;
* every window has one row of diagnostics and its decodes from 0 on, and no row is left without its window.
-/

set_option autoImplicit false

namespace Slotpilot.Storage

open Lib Domain Audio Protocol

variable {self after : ReceiveStore} {log next : List StoredReceive} {record : ReceiveRecord}

/-! ## Stored records -/

/-- The store reads the record under its sequence. -/
def ReceiveStore.Stores (self : ReceiveStore) (sequenced : SequencedReceiveRecord) : Prop :=
  self.readReceiveBySequence sequenced.sequence = .ok (some sequenced)

theorem Holds.stores_iff (h : Holds self log) {sequenced : SequencedReceiveRecord} :
    self.Stores sequenced ↔ ∃ entry ∈ log, entry.sequenced = sequenced := by
  constructor
  · intro hstores
    by_cases hnone : ∀ entry ∈ log, entry.sequence ≠ sequenced.sequence
    · rw [ReceiveStore.Stores, h.read_none hnone] at hstores
      cases hstores
    · simp only [not_forall, not_not] at hnone
      obtain ⟨entry, hentry, hsequence⟩ := hnone
      rw [ReceiveStore.Stores, ← hsequence, h.read hentry, Except.ok.injEq, Option.some.injEq] at hstores
      exact ⟨entry, hentry, hstores⟩
  · rintro ⟨entry, hentry, rfl⟩
    exact h.read hentry

theorem Holds.stores (h : Holds self log) {entry : StoredReceive} (hentry : entry ∈ log) :
    self.Stores entry.sequenced := h.read hentry

/-! ## The law -/

/-- What recording a record answers. -/
structure RecordLaw (store : ReceiveStore) (record : ReceiveRecord)
    (outcome : Except StorageError ReceiveInsertOutcome) : Prop where
  existing : ∀ sequence, outcome = .ok (.existing sequence) ↔ store.Stores ⟨sequence, record⟩
  collision : outcome = .error .identityCollision ↔ record.context.GenerationsFit ∧
    ∃ other, store.Stores other ∧ other.record ≠ record ∧ SharesIdentity other.record.context record.context
  inserted : ∀ sequence, outcome = .ok (.inserted sequence) ↔
    (∀ other, store.Stores other → ¬SharesIdentity other.record.context record.context) ∧ record.Storable ∧
      sequence = store.lastSequence + 1 ∧ sequence < 2 ^ 63

/-- What recording a record leaves: the store as it is, or its records and the new one under its sequence. -/
def Leaves (store : ReceiveStore) (record : ReceiveRecord) : ReceiveInsertOutcome → ReceiveStore → Prop
  | .existing _, after => after = { store with events := after.events }
  | .inserted sequence, after => after.lastSequence = sequence ∧
      ∀ other, after.Stores other ↔ store.Stores other ∨ other = ⟨sequence, record⟩

/-- What storing an event leaves: the events as they are, with its row among them, or its row after them. -/
def LeavesEvent (events : EventTable) (row : EventRow) (after : EventTable) : Prop :=
  row ∈ events.rows ∧ after = events ∨
    (∀ other ∈ events.rows, other.eventId ≠ row.eventId) ∧ after.rows = events.rows ++ [row]

/-- What a call answers and leaves. -/
def CallLaw (sqlite : Sqlite) (store : ReceiveStore) :
    ReceiveStore.Call → ReceiveStore.Answer → ReceiveStore → Prop
  | .recordReceive record, .received outcome, after =>
    RecordLaw store record outcome ∧
      (∀ recorded, outcome = .ok recorded → Leaves store record recorded after ∧ after.events = store.events) ∧
      ∀ error, outcome = .error error → after = store
  | .recordReceiveWithEventBuilder record eventId occurredUtcMillis eventJson, .committed outcome, after =>
    ∃ receive, RecordLaw store record receive ∧
      (∀ commit, outcome = .ok commit → receive = .ok commit.receive ∧ Leaves store record commit.receive after ∧
        ∃ text, eventJson commit.receive.sequence = .ok text ∧ LeavesEvent store.events
          (eventRow commit.eventSequence eventId record.context.serviceInstanceId text occurredUtcMillis) after.events) ∧
      (∀ error, outcome = .error error → after = store ∧
        (receive = .error error ∨ ∃ recorded, receive = .ok recorded ∧
          (eventJson recorded.sequence = .error error ∨ ∃ text, eventJson recorded.sequence = .ok text ∧
            EventRefused sqlite store.events eventId record.context.serviceInstanceId text occurredUtcMillis error)))
  | .pruneReceiveBefore firstRetainedSequence, .pruned outcome, after =>
    (∀ deleted, outcome = .ok deleted → after.lastSequence = store.lastSequence ∧ after.events = store.events ∧
      ∀ other, after.Stores other ↔ store.Stores other ∧ firstRetainedSequence ≤ other.sequence) ∧
    ∀ error, outcome = .error error → after = store
  | .pruneEventsBefore firstRetainedSequence, .pruned outcome, after =>
    (∀ deleted, outcome = .ok deleted → after = { store with events := after.events } ∧
      after.events.rows = retained EventRow.sequence firstRetainedSequence store.events.rows) ∧
    ∀ error, outcome = .error error → after = store
  | _, _, _ => False

/-- Every window has its own rows, and every row has its window. -/
structure Consistent (store : ReceiveStore) : Prop where
  diagnostics : ∀ window ∈ store.windows, ∃ row,
    store.diagnostics.filter (·.receiveWindowId = window.receiveWindowId) = [row]
  decodes : ∀ window ∈ store.windows, ∃ count,
    (store.decodes.filter (·.receiveWindowId = window.receiveWindowId)).map (·.decodeIndex) =
      (List.range count).map Int.ofNat
  ownedDiagnostics : ∀ row ∈ store.diagnostics, ∃ window ∈ store.windows, window.receiveWindowId = row.receiveWindowId
  ownedDecodes : ∀ row ∈ store.decodes, ∃ window ∈ store.windows, window.receiveWindowId = row.receiveWindowId

/-! ## What a call answers -/

theorem Recorded.law (h : Holds self log) {recorded : ReceiveInsertOutcome}
    (hrecorded : Recorded self log record recorded after next) : RecordLaw self record (.ok recorded) := by
  cases hrecorded with
  | existing entry hentry hsame =>
    have hshares : SharesIdentity entry.record.context record.context := by rw [hsame]; exact .inl rfl
    refine ⟨fun sequence => ?_, ?_, fun sequence => ?_⟩
    · rw [h.stores_iff, Except.ok.injEq, ReceiveInsertOutcome.existing.injEq]
      constructor
      · rintro rfl
        exact ⟨entry, hentry, by rw [← hsame]; rfl⟩
      · rintro ⟨other, hother, hsequenced⟩
        have hrecord : other.record = record := congrArg SequencedReceiveRecord.record hsequenced
        have hone : entry = other := h.eq_of_shares hentry hother (by rw [hrecord]; exact hshares)
        rw [hone]
        exact congrArg SequencedReceiveRecord.sequence hsequenced
    · refine iff_of_false (by simp) ?_
      rintro ⟨-, other, hother, hdiffers, hother'⟩
      obtain ⟨found, hfound, rfl⟩ := h.stores_iff.mp hother
      have hone : found = entry := h.eq_of_shares hfound hentry (by rw [hsame]; exact hother')
      exact hdiffers (by rw [hone]; exact hsame)
    · refine iff_of_false (by simp) ?_
      rintro ⟨hnone, -⟩
      exact hnone _ (h.stores hentry) hshares
  | inserted hnone hroom entry hentry after hlast hevents hholds =>
    refine ⟨fun sequence => iff_of_false (by simp) fun hstores => ?_, iff_of_false (by simp) ?_, fun sequence => ?_⟩
    · obtain ⟨found, hfound, hsequenced⟩ := h.stores_iff.mp hstores
      have hrecord : found.record = record := congrArg SequencedReceiveRecord.record hsequenced
      exact hnone found hfound (by rw [hrecord]; exact .inl rfl)
    · rintro ⟨-, other, hother, -, hshares⟩
      obtain ⟨found, hfound, rfl⟩ := h.stores_iff.mp hother
      exact hnone found hfound hshares
    · have hstorable : record.Storable := by
        have hrecord : entry.record = record := congrArg SequencedReceiveRecord.record hentry
        exact hrecord ▸ entry.storable
      rw [Except.ok.injEq, ReceiveInsertOutcome.inserted.injEq]
      constructor
      · rintro rfl
        refine ⟨fun other hother => ?_, hstorable, rfl, hroom⟩
        obtain ⟨found, hfound, rfl⟩ := h.stores_iff.mp hother
        exact hnone found hfound
      · rintro ⟨-, -, hsequence, -⟩
        exact hsequence.symm

theorem Recorded.leaves (h : Holds self log) {recorded : ReceiveInsertOutcome}
    (hrecorded : Recorded self log record recorded after next) : Leaves self record recorded after := by
  cases hrecorded with
  | existing => rfl
  | inserted _ _ entry hentry _ hlast _ hholds =>
    refine ⟨hlast, fun other => ?_⟩
    rw [hholds.stores_iff, h.stores_iff]
    constructor
    · rintro ⟨found, hfound, rfl⟩
      rcases List.mem_append.mp hfound with hold | hnew
      · exact .inl ⟨found, hold, rfl⟩
      · rw [List.mem_singleton.mp hnew]
        exact .inr hentry
    · rintro (⟨found, hfound, rfl⟩ | rfl)
      · exact ⟨found, List.mem_append_left _ hfound, rfl⟩
      · exact ⟨entry, List.mem_append_right _ (List.mem_singleton.mpr rfl), hentry⟩

/-- The records do not depend on the events. -/
theorem Leaves.with_events {recorded : ReceiveInsertOutcome} (h : Leaves self record recorded after)
    (events : EventTable) : Leaves self record recorded { after with events } := by
  cases recorded with
  | existing sequence =>
    have hafter : after = { self with events := after.events } := h
    show ({ after with events } : ReceiveStore) = { self with events }
    rw [hafter]
  | inserted sequence => exact h

/-- A recording and then its event. -/
theorem Committed.leaves (h : Holds self log) {recorded : ReceiveInsertOutcome} {middle : ReceiveStore} {row : EventRow}
    (hrecorded : Recorded self log record recorded middle next) (hstored : EventStored middle row after) :
    Leaves self record recorded after ∧ LeavesEvent self.events row after.events := by
  have hevents := hrecorded.events
  have hleaves := hrecorded.leaves h
  cases hstored with
  | existing hrow =>
    rw [hevents] at hrow
    exact ⟨hleaves, .inl ⟨hrow, hevents⟩⟩
  | appended hnone _ events hrows =>
    rw [hevents] at hnone hrows
    exact ⟨hleaves.with_events events, .inr ⟨hnone, hrows⟩⟩

/-- A stored record fits its columns. -/
theorem StoredReceive.generationsFit (entry : StoredReceive) : entry.record.context.GenerationsFit :=
  ⟨entry.storable.processGeneration, entry.storable.streamGeneration⟩

theorem Unrecorded.law (h : Holds self log) {error : StorageError} (hno : Unrecorded self log record error) :
    RecordLaw self record (.error error) := by
  have habsent (hall : ∀ entry ∈ log, entry.record ≠ record) (sequence : Nat) : ¬self.Stores ⟨sequence, record⟩ := by
    intro hstores
    obtain ⟨found, hfound, hsequenced⟩ := h.stores_iff.mp hstores
    exact hall found hfound (congrArg SequencedReceiveRecord.record hsequenced)
  cases hno with
  | unfit hunfit =>
    refine ⟨fun sequence => iff_of_false (by simp) (habsent ?_ sequence), iff_of_false (by simp) ?_, fun sequence => ?_⟩
    · rintro entry - rfl
      exact hunfit entry.generationsFit
    · rintro ⟨hfit, -⟩
      exact hunfit hfit
    · refine iff_of_false (by simp) ?_
      rintro ⟨-, hstorable, -⟩
      exact hunfit ⟨hstorable.processGeneration, hstorable.streamGeneration⟩
  | collision hfit entry hentry hdiffers hshares =>
    refine ⟨fun sequence => iff_of_false (by simp) (habsent ?_ sequence), iff_of_true rfl ?_, fun sequence => ?_⟩
    · rintro other hother rfl
      exact hdiffers (by rw [h.eq_of_shares hentry hother hshares])
    · exact ⟨hfit, entry.sequenced, h.stores hentry, hdiffers, hshares⟩
    · refine iff_of_false (by simp) ?_
      rintro ⟨hnone, -⟩
      exact hnone _ (h.stores hentry) hshares
  | refused hnone error hno =>
    refine ⟨fun sequence => iff_of_false (by simp) (habsent ?_ sequence), iff_of_false ?_ ?_, fun sequence => ?_⟩
    · rintro entry hentry rfl
      exact hnone entry hentry (.inl rfl)
    · obtain ⟨rfl | rfl, -⟩ := hno <;> simp
    · rintro ⟨-, other, hother, -, hshares⟩
      obtain ⟨found, hfound, rfl⟩ := h.stores_iff.mp hother
      exact hnone found hfound hshares
    · refine iff_of_false (by simp) ?_
      rintro ⟨-, hstorable, rfl, hroom⟩
      exact hno.2 ⟨hstorable, hroom⟩

/-- A record is answered by the law. -/
theorem recordReceive_law (h : Holds self log) (sqlite : Sqlite) (record : ReceiveRecord) :
    ∃ outcome, (ReceiveStore.step sqlite self (.recordReceive record)).1 = .received outcome ∧
      RecordLaw self record outcome := by
  refine run_ends (recordReceive_ends h sqlite record) ?_ ?_ (f := ReceiveStore.Answer.received)
    (P := fun answer _ => ∃ outcome, answer = .received outcome ∧ RecordLaw self record outcome)
  · rintro recorded after ⟨next, hrecorded⟩
    exact ⟨_, rfl, hrecorded.law h⟩
  · rintro error after ⟨hno, -⟩
    exact ⟨_, rfl, hno.law h⟩

theorem step_law (h : Holds self log) (sqlite : Sqlite) (call : ReceiveStore.Call) :
    CallLaw sqlite self call (ReceiveStore.step sqlite self call).1 (ReceiveStore.step sqlite self call).2 := by
  cases call with
  | recordReceive record =>
    refine run_ends (recordReceive_ends h sqlite record) ?_ ?_ (P := CallLaw sqlite self (.recordReceive record))
    · rintro recorded after ⟨next, hrecorded⟩
      refine ⟨hrecorded.law h, ?_, by simp⟩
      rintro _ ⟨⟩
      exact ⟨hrecorded.leaves h, hrecorded.events⟩
    · rintro error _ ⟨hno, rfl⟩
      exact ⟨hno.law h, by simp, fun _ _ => rfl⟩
  | recordReceiveWithEventBuilder record eventId occurredUtcMillis eventJson =>
    refine run_ends (recordReceiveWithEventBuilder_ends h sqlite record eventId occurredUtcMillis eventJson) ?_ ?_
      (P := CallLaw sqlite self (.recordReceiveWithEventBuilder record eventId occurredUtcMillis eventJson))
    · rintro commit after ⟨next, hcommitted⟩
      cases hcommitted with
      | both recorded _ hrecorded text hbuilt _ hstored =>
        refine ⟨.ok commit.receive, hrecorded.law h, ?_, by simp⟩
        rintro _ ⟨⟩
        obtain ⟨hleaves, hevent⟩ := Committed.leaves h hrecorded hstored
        exact ⟨rfl, hleaves, text, hbuilt, hevent⟩
    · rintro error _ ⟨hno, rfl⟩
      cases hno with
      | unrecorded _ hno =>
        refine ⟨.error error, hno.law h, by simp, ?_⟩
        rintro _ ⟨⟩
        exact ⟨rfl, .inl rfl⟩
      | unbuilt recorded _ _ hrecorded _ hno =>
        refine ⟨.ok recorded, hrecorded.law h, by simp, ?_⟩
        rintro _ ⟨⟩
        exact ⟨rfl, .inr ⟨recorded, rfl, .inl hno⟩⟩
      | refused recorded _ _ hrecorded text hbuilt _ hno =>
        refine ⟨.ok recorded, hrecorded.law h, by simp, ?_⟩
        rintro _ ⟨⟩
        exact ⟨rfl, .inr ⟨recorded, rfl, .inr ⟨text, hbuilt, hno⟩⟩⟩
  | pruneReceiveBefore firstRetainedSequence =>
    refine run_ends (pruneReceiveBefore_ends h firstRetainedSequence) ?_ ?_
      (P := CallLaw sqlite self (.pruneReceiveBefore firstRetainedSequence))
    · rintro deleted after ⟨hlast, hevents, hholds⟩
      refine ⟨fun _ _ => ⟨hlast, hevents, fun other => ?_⟩, by simp⟩
      rw [hholds.stores_iff, h.stores_iff]
      constructor
      · rintro ⟨entry, hentry, rfl⟩
        obtain ⟨hmem, hcut⟩ := mem_retained.mp hentry
        exact ⟨⟨entry, hmem, rfl⟩, hcut⟩
      · rintro ⟨⟨entry, hentry, rfl⟩, hcut⟩
        exact ⟨entry, mem_retained.mpr ⟨hentry, hcut⟩, rfl⟩
    · rintro error _ ⟨-, -, rfl⟩
      exact ⟨by simp, fun _ _ => rfl⟩
  | pruneEventsBefore firstRetainedSequence =>
    refine run_ends (pruneEventsBefore_ends firstRetainedSequence) ?_ ?_
      (P := CallLaw sqlite self (.pruneEventsBefore firstRetainedSequence))
    · rintro deleted after ⟨hafter, hrows⟩
      exact ⟨fun _ _ => ⟨hafter, hrows⟩, by simp⟩
    · rintro error _ ⟨-, rfl⟩
      exact ⟨by simp, fun _ _ => rfl⟩

/-! ## The original sequence -/

/-- The record that a call records. -/
def ReceiveStore.Call.recorded : ReceiveStore.Call → Option ReceiveRecord
  | .recordReceive record | .recordReceiveWithEventBuilder record _ _ _ => some record
  | .pruneReceiveBefore _ | .pruneEventsBefore _ => none

/-- What a recording leaves is what was there and what it answers as inserted. -/
theorem Leaves.stored {recorded : ReceiveInsertOutcome} (h : Leaves self record recorded after)
    {sequenced : SequencedReceiveRecord} (hstores : after.Stores sequenced) :
    self.Stores sequenced ∨ record = sequenced.record ∧ recorded.issued = some sequenced.sequence := by
  cases recorded with
  | existing sequence =>
    have hafter : after = { self with events := after.events } := h
    rw [hafter] at hstores
    exact .inl hstores
  | inserted sequence =>
    refine ((h.2 sequenced).mp hstores).imp_right ?_
    rintro rfl
    exact ⟨rfl, rfl⟩

/-- A stored record was stored before the call, or the call inserted it under its sequence. -/
theorem CallLaw.stored {sqlite : Sqlite} {call : ReceiveStore.Call} {answer : ReceiveStore.Answer}
    (h : CallLaw sqlite self call answer after) {sequenced : SequencedReceiveRecord} (hstores : after.Stores sequenced) :
    self.Stores sequenced ∨ call.recorded = some sequenced.record ∧ answer.issued = some sequenced.sequence := by
  cases call with
  | recordReceive record =>
    obtain outcome | outcome | outcome := answer
    · obtain ⟨-, hleaves, hfailed⟩ := h
      cases outcome with
      | error error => exact .inl (hfailed error rfl ▸ hstores)
      | ok recorded => exact ((hleaves recorded rfl).1.stored hstores).imp_right fun hnew => ⟨congrArg some hnew.1, hnew.2⟩
    · exact h.elim
    · exact h.elim
  | recordReceiveWithEventBuilder record eventId occurredUtcMillis eventJson =>
    obtain outcome | outcome | outcome := answer
    · exact h.elim
    · obtain ⟨receive, -, hleaves, hfailed⟩ := h
      cases outcome with
      | error error => exact .inl ((hfailed error rfl).1 ▸ hstores)
      | ok commit =>
        exact ((hleaves commit rfl).2.1.stored hstores).imp_right fun hnew => ⟨congrArg some hnew.1, hnew.2⟩
    · exact h.elim
  | pruneReceiveBefore firstRetainedSequence =>
    obtain outcome | outcome | outcome := answer
    · exact h.elim
    · exact h.elim
    · cases outcome with
      | error error => exact .inl (h.2 error rfl ▸ hstores)
      | ok deleted => exact .inl (((h.1 deleted rfl).2.2 sequenced).mp hstores).1
  | pruneEventsBefore firstRetainedSequence =>
    obtain outcome | outcome | outcome := answer
    · exact h.elim
    · exact h.elim
    · cases outcome with
      | error error => exact .inl (h.2 error rfl ▸ hstores)
      | ok deleted =>
        have hafter := (h.1 deleted rfl).1
        rw [hafter] at hstores
        exact .inl hstores

/-- Every stored record was inserted by a call of the run, under the sequence that it has. -/
theorem stored_issued (sqlite : Sqlite) (calls : List ReceiveStore.Call) {sequenced : SequencedReceiveRecord}
    (hstores : (final (ReceiveStore.step sqlite) .empty calls).Stores sequenced) :
    ∃ earlier ∈ transcript (ReceiveStore.step sqlite) .empty calls,
      earlier.1.recorded = some sequenced.record ∧ earlier.2.issued = some sequenced.sequence := by
  induction calls using List.reverseRecOn with
  | nil =>
    obtain ⟨entry, hentry, -⟩ := holds_empty.stores_iff.mp hstores
    cases hentry
  | append_singleton calls call ih =>
    obtain ⟨log, hrun⟩ := final_holds sqlite calls
    rw [final_append] at hstores
    rw [transcript_append]
    rcases (step_law hrun.holds sqlite call).stored hstores with hbefore | hinserted
    · obtain ⟨earlier, hearlier, hissued⟩ := ih hbefore
      exact ⟨earlier, List.mem_append_left _ hearlier, hissued⟩
    · exact ⟨_, List.mem_append_right _ (List.mem_singleton.mpr rfl), hinserted⟩

/-! ## The tables -/

theorem Holds.consistent (h : Holds self log) : Consistent self := by
  have hwindow {window : WindowRow} (hmem : window ∈ self.windows) : ∃ entry ∈ log, entry.window = window := by
    rw [h.windows] at hmem
    exact List.mem_map.mp hmem
  refine ⟨fun window hmem => ?_, fun window hmem => ?_, fun row hrow => ?_, fun row hrow => ?_⟩
  · obtain ⟨entry, hentry, rfl⟩ := hwindow hmem
    refine ⟨entry.diagnostics, ?_⟩
    rw [entry.window_id, h.filter_diagnostics hentry]
  · obtain ⟨entry, hentry, rfl⟩ := hwindow hmem
    refine ⟨entry.record.decodes.length, ?_⟩
    rw [entry.window_id, h.filter_decodes hentry, decodeRows, List.map_map, List.range_eq_range', ← List.zipIdx_map_snd,
      List.map_map]
    rfl
  · rw [h.diagnostics] at hrow
    obtain ⟨entry, hentry, rfl⟩ := List.mem_map.mp hrow
    refine ⟨entry.window, h.windows ▸ List.mem_map_of_mem hentry, ?_⟩
    rw [entry.window_id, entry.diagnostics_id]
  · rw [h.decodes] at hrow
    obtain ⟨entry, hentry, hrow⟩ := List.mem_flatMap.mp hrow
    refine ⟨entry.window, h.windows ▸ List.mem_map_of_mem hentry, ?_⟩
    rw [entry.window_id, decodeRows_id hrow]

/-- **Identity and atomicity.** Every call of every run answers a record by what is stored and leaves what it answers: the
old records and the inserted one, the store as it is for an existing record or an error, the records from the cut on.
A stored record has the sequence that it was inserted under, a new window gets one that was never given before, and the
tables stay consistent. -/
theorem receive_store_law (sqlite : Sqlite) (calls : List ReceiveStore.Call) (call : ReceiveStore.Call) :
    let store := final (ReceiveStore.step sqlite) .empty calls
    let answered := ReceiveStore.step sqlite store call
    CallLaw sqlite store call answered.1 answered.2 ∧
      (∀ sequenced, store.Stores sequenced → ∃ earlier ∈ transcript (ReceiveStore.step sqlite) .empty calls,
        earlier.1.recorded = some sequenced.record ∧ earlier.2.issued = some sequenced.sequence) ∧
      (∀ sequence, answered.1.issued = some sequence →
        ∀ earlier ∈ transcript (ReceiveStore.step sqlite) .empty calls, ∀ given, earlier.2.issued = some given →
          given < sequence) ∧
      Consistent answered.2 := by
  intro store answered
  obtain ⟨log, hrun⟩ := final_holds sqlite calls
  obtain ⟨next, hstep⟩ := step_holds hrun.holds sqlite call
  refine ⟨step_law hrun.holds sqlite call, fun sequenced => stored_issued sqlite calls,
    fun sequence hissued earlier hearlier given hgiven => ?_, hstep.holds.consistent⟩
  have hle : given ≤ store.lastSequence := (hrun.issued earlier hearlier given hgiven).2
  have hlt : store.lastSequence < sequence := (hstep.issued sequence hissued).1
  exact hle.trans_lt hlt

theorem firstWindow_valid : validateId "rxw_" "rxw_00000001" = .ok () := by decide
theorem secondWindow_valid : validateId "rxw_" "rxw_00000002" = .ok () := by decide
theorem thirdWindow_valid : validateId "rxw_" "rxw_00000003" = .ok () := by decide

def firstWindow : ReceiveWindowId := ⟨"rxw_00000001", firstWindow_valid⟩
def secondWindow : ReceiveWindowId := ⟨"rxw_00000002", secondWindow_valid⟩
def thirdWindow : ReceiveWindowId := ⟨"rxw_00000003", thirdWindow_valid⟩

/-- The context of a window of a device that samples at the window's rate. -/
def sampleContext (receiveWindowId : ReceiveWindowId) (processGeneration : ProcessGeneration) : ReceiveWindowContext where
  receiveWindowId
  serviceInstanceId := sampleInstance
  processGeneration
  streamGeneration := ⟨1, one_nonzero⟩
  slot := sampleSlot
  deviceIdentity := sampleDevice
  configuration := sampleConfiguration
  captureMapping := ⟨⟨0⟩, 15000, 0⟩

def sampleDiagnostics : ReceiveDiagnosticSummary where
  audio := ⟨0, 0, 0, 0, 0⟩
  timeline := ⟨0, 0, 0, 0⟩
  clock := .healthy 0

/-- A healthy window without decodes. -/
def quietRecord (receiveWindowId : ReceiveWindowId) (processGeneration : ProcessGeneration) : ReceiveRecord where
  context := sampleContext receiveWindowId processGeneration
  diagnostics := sampleDiagnostics
  decodes := []
  recordedUtcMillis := 15000
  checked := ⟨[], rfl, by simp [Ft8Decode.sortDeterministically]⟩

/-- A record whose generations have no columns is refused by every store. -/
theorem recordReceive_unfit (sqlite : Sqlite) (hunfit : ¬record.context.GenerationsFit) :
    (ReceiveStore.step sqlite self (.recordReceive record)).1 = .received (.error .invalidSequence) := by
  have hcolumns : contextColumns record.context = .error .invalidSequence := by
    cases hcolumns : contextColumns record.context with
    | ok columns => exact absurd ⟨(contextColumns_key.mp hcolumns).1, (contextColumns_key.mp hcolumns).2.1⟩ hunfit
    | error error => rw [contextColumns_error hcolumns]
  have hfind : self.findExistingSequence sqlite record.context = .error .invalidSequence := by
    rw [ReceiveStore.findExistingSequence, hcolumns]
    rfl
  have hends : Ends (ReceiveStore.recordReceive sqlite record) self (fun _ _ => False)
      fun error after => error = .invalidSequence ∧ after = self := by
    refine ends_transaction ?_
    unfold ReceiveStore.storeReceive
    simp [hfind]
  refine run_ends hends ?_ ?_ (f := ReceiveStore.Answer.received)
    (P := fun answer _ => answer = .received (.error .invalidSequence))
  · exact fun _ _ hfalse => hfalse.elim
  · rintro _ _ ⟨rfl, -⟩
    rfl

/-- A window of a process generation without a column is refused by the empty store, where no record is stored. -/
theorem generation_without_column_refused :
    (∀ other, ¬ReceiveStore.empty.Stores other) ∧
      (ReceiveStore.step (Sqlite.inOrder fun _ => true) .empty
        (.recordReceive (quietRecord firstWindow ⟨9223372036854775808, by decide⟩))).1 =
          .received (.error .invalidSequence) := by
  refine ⟨fun other hstores => ?_, recordReceive_unfit _ ?_⟩
  · obtain ⟨entry, hentry, -⟩ := holds_empty.stores_iff.mp hstores
    cases hentry
  · rintro ⟨hprocess, -⟩
    exact absurd hprocess (by decide)

end Slotpilot.Storage
