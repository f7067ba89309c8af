import Slotpilot.Storage.ReceiveLog
import Slotpilot.Lib.Machine

/-!
# Runs of the store

The tables of a run from the empty store hold a log (`Holds`): a call keeps the log, appends a record to it, or drops
the records below a sequence (`step_holds`).

* `storeEvent_ends`, `recordReceiveWithEventBuilder_ends`: the event half of a transaction;
* `final_holds`: the log at the end of a run;
* `receive_store_law`: what each call of a run answers and leaves.
-/

set_option autoImplicit false

namespace Slotpilot.Storage

open Lib Domain Audio Protocol

variable {self after : ReceiveStore} {log next : List StoredReceive} {entry : StoredReceive} {record : ReceiveRecord}
  {call : ReceiveStore.Call} {answer : ReceiveStore.Answer}

/-! ## Events -/

/-- The row of an event. -/
def eventRow (sequence : Nat) (eventId : EventId) (serviceInstanceId : ServiceInstanceId) (eventJson : String)
    (occurredUtcMillis : Int) : EventRow where
  sequence
  eventId := eventId.text
  serviceInstanceId := serviceInstanceId.text
  eventJson
  occurredUtcMillis

/-- The row of an event is there or is appended. -/
inductive EventStored (self : ReceiveStore) (row : EventRow) : ReceiveStore → Prop
  | existing (hrow : row ∈ self.events.rows) : EventStored self row self
  | appended (hnone : ∀ other ∈ self.events.rows, other.eventId ≠ row.eventId)
      (hroom : self.events.lastSequence + 1 < 2 ^ 63) (events : EventTable)
      (hrows : events.rows = self.events.rows ++ [row]) : EventStored self row { self with events }

/-- Why an event is not stored: another event has its identity, or its row is not accepted. -/
inductive EventRefused (sqlite : Sqlite) (events : EventTable) (eventId : EventId) (serviceInstanceId : ServiceInstanceId)
    (eventJson : String) (occurredUtcMillis : Int) : StorageError → Prop
  | collision (row : EventRow) (hrow : row ∈ events.rows) (hid : row.eventId = eventId.text)
      (hdiffers : row ≠ eventRow row.sequence eventId serviceInstanceId eventJson occurredUtcMillis) :
      EventRefused sqlite events eventId serviceInstanceId eventJson occurredUtcMillis .identityCollision
  | rejected (hnone : ∀ row ∈ events.rows, row.eventId ≠ eventId.text)
      (hbad : sqlite.jsonValid eventJson = false ∨ occurredUtcMillis < 0 ∨ ¬events.lastSequence + 1 < 2 ^ 63) :
      EventRefused sqlite events eventId serviceInstanceId eventJson occurredUtcMillis .database

theorem appendEvent_cases (jsonValid : String → Bool) (events : EventTable) (eventId : EventId)
    (serviceInstanceId : ServiceInstanceId) (eventJson : String) (occurredUtcMillis : Int)
    (hnone : ∀ row ∈ events.rows, row.eventId ≠ eventId.text) :
    (∃ appended : EventTable, events.lastSequence + 1 < 2 ^ 63 ∧ appended.rows = events.rows ++
        [eventRow (events.lastSequence + 1) eventId serviceInstanceId eventJson occurredUtcMillis] ∧
      events.appendEvent jsonValid eventId serviceInstanceId eventJson occurredUtcMillis =
        .ok (events.lastSequence + 1, appended)) ∨
    (jsonValid eventJson = false ∨ occurredUtcMillis < 0 ∨ ¬events.lastSequence + 1 < 2 ^ 63) ∧
      events.appendEvent jsonValid eventId serviceInstanceId eventJson occurredUtcMillis = .error .database := by
  have hfresh : ¬events.rows.any (·.eventId = eventId.text) = true := by
    rw [Bool.not_eq_true, List.any_eq_false]
    exact fun row hrow => by simpa using hnone row hrow
  unfold EventTable.appendEvent
  split
  · rename_i hbad
    exact .inr ⟨(hbad.resolve_left hfresh).imp_right .inl, rfl⟩
  · split
    · rename_i hroom
      exact .inl ⟨_, hroom, rfl, rfl⟩
    · rename_i hroom
      exact .inr ⟨.inr (.inr hroom), rfl⟩

theorem storeEvent_ends (sqlite : Sqlite) (eventId : EventId) (serviceInstanceId : ServiceInstanceId)
    (eventJson : String) (occurredUtcMillis : Int) :
    Ends (ReceiveStore.storeEvent sqlite eventId serviceInstanceId eventJson occurredUtcMillis) self
      (fun sequence after =>
        EventStored self (eventRow sequence eventId serviceInstanceId eventJson occurredUtcMillis) after)
      (fun error _ =>
        EventRefused sqlite self.events eventId serviceInstanceId eventJson occurredUtcMillis error) := by
  unfold ReceiveStore.storeEvent
  rw [ends_bind, ends_get]
  cases hfind : self.events.rows.find? (·.eventId = eventId.text) with
  | some event =>
    have hevent : event ∈ self.events.rows := List.mem_of_find?_eq_some hfind
    have hid : event.eventId = eventId.text := by simpa using List.find?_some hfind
    simp only [ends_ite, ends_throw, ends_pure]
    refine ⟨fun hdiffers => ?_, fun hsame => ?_⟩
    · refine .collision event hevent hid fun hrow => ?_
      rw [hrow] at hdiffers
      simp [eventRow] at hdiffers
    · simp only [not_or, not_not] at hsame
      obtain ⟨hservice, hjson, htime⟩ := hsame
      have hrow : eventRow event.sequence eventId serviceInstanceId eventJson occurredUtcMillis = event := by
        cases event
        cases hid
        cases hservice
        cases hjson
        cases htime
        rfl
      rw [hrow]
      exact .existing hevent
  | none =>
    have hnone : ∀ row ∈ self.events.rows, row.eventId ≠ eventId.text := by
      simpa using List.find?_eq_none.mp hfind
    simp only [ends_bind, ends_fromResult, ends_set, ends_pure]
    rcases appendEvent_cases sqlite.jsonValid self.events eventId serviceInstanceId eventJson occurredUtcMillis hnone with
      ⟨appended, hroom, hrows, happended⟩ | ⟨hbad, hrejected⟩
    · rw [happended]
      refine ⟨fun answered hanswered => ?_, by simp⟩
      cases hanswered
      exact .appended hnone hroom appended hrows
    · rw [hrejected]
      refine ⟨by simp, fun error herror => ?_⟩
      cases herror
      exact .rejected hnone hbad

theorem EventStored.lastSequence {row : EventRow} (h : EventStored self row after) :
    after.lastSequence = self.lastSequence := by
  cases h <;> rfl

theorem EventStored.mem {row : EventRow} (h : EventStored self row after) : row ∈ after.events.rows := by
  cases h with
  | existing hrow => exact hrow
  | appended _ _ events hrows =>
    show row ∈ events.rows
    rw [hrows]
    exact List.mem_append_right _ (List.mem_singleton.mpr rfl)

/-- The log does not depend on the events. -/
theorem Holds.with_events (h : Holds self log) (events : EventTable) : Holds { self with events } log :=
  ⟨h.windows, h.diagnostics, h.decodes, h.numbered, h.assigned, h.fits, h.distinct⟩

theorem EventStored.holds {row : EventRow} (hstored : EventStored self row after) (h : Holds self log) :
    Holds after log := by
  cases hstored with
  | existing => exact h
  | appended _ _ events => exact h.with_events events

theorem Recorded.events {recorded : ReceiveInsertOutcome} (hrecorded : Recorded self log record recorded after next) :
    after.events = self.events := by
  cases hrecorded with
  | existing => rfl
  | inserted _ _ _ _ _ _ hevents => exact hevents

/-- Why a window is not recorded with its event. -/
inductive Uncommitted (sqlite : Sqlite) (self : ReceiveStore) (log : List StoredReceive) (record : ReceiveRecord)
    (eventId : EventId) (occurredUtcMillis : Int) (eventJson : Nat → Except StorageError String) : StorageError → Prop
  | unrecorded (error : StorageError) (hno : Unrecorded self log record error) :
      Uncommitted sqlite self log record eventId occurredUtcMillis eventJson error
  | unbuilt (recorded : ReceiveInsertOutcome) (after : ReceiveStore) (next : List StoredReceive)
      (hrecorded : Recorded self log record recorded after next) (error : StorageError)
      (hno : eventJson recorded.sequence = .error error) :
      Uncommitted sqlite self log record eventId occurredUtcMillis eventJson error
  | refused (recorded : ReceiveInsertOutcome) (after : ReceiveStore) (next : List StoredReceive)
      (hrecorded : Recorded self log record recorded after next) (text : String)
      (hbuilt : eventJson recorded.sequence = .ok text) (error : StorageError)
      (hno : EventRefused sqlite self.events eventId record.context.serviceInstanceId text occurredUtcMillis error) :
      Uncommitted sqlite self log record eventId occurredUtcMillis eventJson error

/-- A window is recorded and its event is stored. -/
inductive Committed (self : ReceiveStore) (log : List StoredReceive) (record : ReceiveRecord) (eventId : EventId)
    (occurredUtcMillis : Int) (eventJson : Nat → Except StorageError String) :
    ReceiveEventCommit → ReceiveStore → List StoredReceive → Prop
  | both (commit : ReceiveEventCommit) (recorded : ReceiveStore) (next : List StoredReceive)
      (hrecorded : Recorded self log record commit.receive recorded next) (text : String)
      (hbuilt : eventJson commit.receive.sequence = .ok text) (after : ReceiveStore)
      (hstored : EventStored recorded
        (eventRow commit.eventSequence eventId record.context.serviceInstanceId text occurredUtcMillis) after) :
      Committed self log record eventId occurredUtcMillis eventJson commit after next

/-- **Recording with an event** commits both or leaves the store as it is. -/
theorem recordReceiveWithEventBuilder_ends (h : Holds self log) (sqlite : Sqlite) (record : ReceiveRecord)
    (eventId : EventId) (occurredUtcMillis : Int) (eventJson : Nat → Except StorageError String) :
    Ends (ReceiveStore.recordReceiveWithEventBuilder sqlite record eventId occurredUtcMillis eventJson) self
      (fun commit after => ∃ next, Committed self log record eventId occurredUtcMillis eventJson commit after next)
      (fun error after =>
        Uncommitted sqlite self log record eventId occurredUtcMillis eventJson error ∧ after = self) := by
  refine ends_transaction ?_
  simp only [ends_bind, ends_fromResult, ends_pure]
  refine (storeReceive_ends h sqlite record).imp ?_ fun error _ hno => .unrecorded error hno
  rintro recorded middle ⟨next, hrecorded⟩
  refine ⟨fun text hbuilt => ?_, fun error hno => .unbuilt recorded middle next hrecorded error hno⟩
  refine (storeEvent_ends sqlite eventId record.context.serviceInstanceId text occurredUtcMillis).imp ?_ ?_
  · intro sequence after hstored
    exact ⟨next, .both ⟨recorded, sequence⟩ middle next hrecorded text hbuilt after hstored⟩
  · intro error _ hno
    rw [hrecorded.events] at hno
    exact .refused recorded middle next hrecorded text hbuilt error hno

/-! ## Steps -/

/-- The call prunes the window of the sequence. -/
def ReceiveStore.Call.Prunes : ReceiveStore.Call → Nat → Prop
  | .pruneReceiveBefore firstRetainedSequence, sequence => sequence < firstRetainedSequence
  | _, _ => False

/-- The sequence that an outcome gives to a new window. -/
def ReceiveInsertOutcome.issued : ReceiveInsertOutcome → Option Nat
  | .inserted sequence => some sequence
  | .existing _ => none

/-- The sequence that a call gives to a new window. -/
def ReceiveStore.Answer.issued : ReceiveStore.Answer → Option Nat
  | .received (.ok receive) => receive.issued
  | .committed (.ok commit) => commit.receive.issued
  | _ => none

/-- What a call does to the log. -/
structure Step (store : ReceiveStore) (log : List StoredReceive) (call : ReceiveStore.Call)
    (answer : ReceiveStore.Answer) (after : ReceiveStore) (next : List StoredReceive) : Prop where
  holds : Holds after next
  monotone : store.lastSequence ≤ after.lastSequence
  kept : ∀ entry ∈ log, ¬call.Prunes entry.sequence → entry ∈ next
  added : ∀ entry ∈ next, entry ∈ log ∨ store.lastSequence < entry.sequence
  issued : ∀ sequence, answer.issued = some sequence → store.lastSequence < sequence ∧ sequence ≤ after.lastSequence
  quiet : answer.issued = none → after.lastSequence = store.lastSequence

theorem Step.refl (h : Holds self log) (hanswer : answer.issued = none) : Step self log call answer self log where
  holds := h
  monotone := le_rfl
  kept _ hentry _ := hentry
  added _ hentry := .inl hentry
  issued _ hissued := by rw [hanswer] at hissued; cases hissued
  quiet _ := rfl

theorem Recorded.step {recorded : ReceiveInsertOutcome} (h : Holds self log)
    (hrecorded : Recorded self log record recorded after next) (hanswer : answer.issued = recorded.issued) :
    Step self log call answer after next := by
  cases hrecorded with
  | existing => exact .refl h hanswer
  | inserted hnone hroom entry hentry after hlast hevents hholds =>
    have hsequence : entry.sequence = self.lastSequence + 1 := congrArg SequencedReceiveRecord.sequence hentry
    refine ⟨hholds, by omega, fun _ hold _ => List.mem_append_left _ hold, fun other hother => ?_, ?_, ?_⟩
    · rcases List.mem_append.mp hother with hold | hnew
      · exact .inl hold
      · rw [List.mem_singleton.mp hnew]
        exact .inr (by omega)
    · intro sequence hissued
      rw [hanswer, ReceiveInsertOutcome.issued, Option.some.injEq] at hissued
      omega
    · intro hquiet
      rw [hanswer] at hquiet
      cases hquiet

theorem Step.with_event {row : EventRow} {recorded : ReceiveStore} (hstep : Step self log call answer recorded next)
    (hstored : EventStored recorded row after) : Step self log call answer after next := by
  refine ⟨hstored.holds hstep.holds, ?_, hstep.kept, hstep.added, ?_, ?_⟩ <;> rw [hstored.lastSequence]
  · exact hstep.monotone
  · exact hstep.issued
  · exact hstep.quiet

/-- A step has what holds at the end of its statement. -/
theorem run_ends {α β : Type} {statement : Statement α} {f : Except StorageError α → β}
    {Q : α → ReceiveStore → Prop} {E : StorageError → ReceiveStore → Prop} {P : β → ReceiveStore → Prop}
    (h : Ends statement self Q E) (hok : ∀ value after, Q value after → P (f (.ok value)) after)
    (herror : ∀ error after, E error after → P (f (.error error)) after) :
    P (ReceiveStore.run f statement self).1 (ReceiveStore.run f statement self).2 := by
  unfold Ends at h
  unfold ReceiveStore.run
  cases hrun : statement self with
  | ok value after =>
    rw [hrun] at h
    exact hok value after h
  | error error after =>
    rw [hrun] at h
    exact herror error after h

theorem pruneEventsBefore_ends (firstRetainedSequence : Nat) :
    Ends (ReceiveStore.pruneEventsBefore firstRetainedSequence) self
      (fun _ after => after = { self with events := after.events } ∧
        after.events.rows = retained EventRow.sequence firstRetainedSequence self.events.rows)
      (fun error after => error = .invalidSequence ∧ after = self) := by
  unfold ReceiveStore.pruneEventsBefore
  simp only [ends_bind, ends_get, ends_fromResult, ends_set, ends_pure]
  refine ⟨fun pruned hpruned => ?_, fun error herror => ⟨?_, trivial⟩⟩
  · obtain ⟨cut, hcut, hkept⟩ := exceptBind_ok.mp hpruned
    obtain ⟨-, rfl⟩ := toSqlInteger_ok.mp hcut
    cases hkept
    exact ⟨trivial, rfl⟩
  · rcases exceptBind_error.mp herror with hcut | ⟨_, -, hpruned⟩
    · rw [toSqlInteger] at hcut
      split at hcut
      · cases hcut
      · cases hcut
        rfl
    · cases hpruned

/-- **One call** keeps the log, appends a record, or drops the records below a sequence. -/
theorem step_holds (h : Holds self log) (sqlite : Sqlite) (call : ReceiveStore.Call) :
    ∃ next, Step self log call (ReceiveStore.step sqlite self call).1 (ReceiveStore.step sqlite self call).2 next := by
  cases call with
  | recordReceive record =>
    refine run_ends (recordReceive_ends h sqlite record) ?_ ?_
      (P := fun answer after => ∃ next, Step self log _ answer after next)
    · rintro recorded after ⟨next, hrecorded⟩
      exact ⟨next, hrecorded.step h rfl⟩
    · rintro error _ ⟨-, rfl⟩
      exact ⟨log, .refl h rfl⟩
  | recordReceiveWithEventBuilder record eventId occurredUtcMillis eventJson =>
    refine run_ends (recordReceiveWithEventBuilder_ends h sqlite record eventId occurredUtcMillis eventJson) ?_ ?_
      (P := fun answer after => ∃ next, Step self log _ answer after next)
    · rintro commit after ⟨next, hcommitted⟩
      cases hcommitted with
      | both recorded _ hrecorded _ _ _ hstored => exact ⟨next, (hrecorded.step h rfl).with_event hstored⟩
    · rintro error _ ⟨-, rfl⟩
      exact ⟨log, .refl h rfl⟩
  | pruneReceiveBefore firstRetainedSequence =>
    refine run_ends (pruneReceiveBefore_ends h firstRetainedSequence) ?_ ?_
      (P := fun answer after => ∃ next, Step self log _ answer after next)
    · rintro deleted after ⟨hlast, hevents, hholds⟩
      refine ⟨_, hholds, hlast.ge, fun entry hentry hkept => ?_, fun entry hentry => ?_, ?_, fun _ => hlast⟩
      · exact mem_retained.mpr ⟨hentry, not_lt.mp hkept⟩
      · exact .inl (mem_retained.mp hentry).1
      · rintro _ ⟨⟩
    · rintro error _ ⟨-, -, rfl⟩
      exact ⟨log, .refl h rfl⟩
  | pruneEventsBefore firstRetainedSequence =>
    refine run_ends (pruneEventsBefore_ends firstRetainedSequence) ?_ ?_
      (P := fun answer after => ∃ next, Step self log _ answer after next)
    · rintro deleted after ⟨hafter, -⟩
      rw [hafter]
      exact ⟨log, h.with_events _, le_rfl, fun _ hentry _ => hentry, fun _ hentry => .inl hentry, by rintro _ ⟨⟩,
        fun _ => rfl⟩
    · rintro error _ ⟨-, rfl⟩
      exact ⟨log, .refl h rfl⟩

/-! ## Runs -/

theorem holds_empty : Holds .empty [] where
  windows := rfl
  diagnostics := rfl
  decodes := rfl
  numbered := .nil
  assigned := by simp
  fits := by decide
  distinct := .nil

/-- What a run does to the log. -/
structure Run (sqlite : Sqlite) (store : ReceiveStore) (log : List StoredReceive) (calls : List ReceiveStore.Call)
    (next : List StoredReceive) : Prop where
  holds : Holds (final (ReceiveStore.step sqlite) store calls) next
  monotone : store.lastSequence ≤ (final (ReceiveStore.step sqlite) store calls).lastSequence
  kept : ∀ entry ∈ log, (∀ call ∈ calls, ¬call.Prunes entry.sequence) → entry ∈ next
  added : ∀ entry ∈ next, entry ∈ log ∨ store.lastSequence < entry.sequence
  issued : ∀ answered ∈ transcript (ReceiveStore.step sqlite) store calls, ∀ sequence,
    answered.2.issued = some sequence →
      store.lastSequence < sequence ∧ sequence ≤ (final (ReceiveStore.step sqlite) store calls).lastSequence

/-- **A run** keeps the records that it does not prune, adds records of later sequences and gives each one once. -/
theorem run_holds (h : Holds self log) (sqlite : Sqlite) (calls : List ReceiveStore.Call) :
    ∃ next, Run sqlite self log calls next := by
  induction calls generalizing self log with
  | nil => exact ⟨log, h, le_rfl, fun _ hentry _ => hentry, fun _ hentry => .inl hentry, by simp⟩
  | cons call calls ih =>
    obtain ⟨middle, hstep⟩ := step_holds h sqlite call
    obtain ⟨next, hrun⟩ := ih hstep.holds
    refine ⟨next, hrun.holds, hstep.monotone.trans hrun.monotone, fun entry hentry hkept => ?_, fun entry hentry => ?_, ?_⟩
    · have hfirst : entry ∈ middle := hstep.kept entry hentry (hkept call List.mem_cons_self)
      exact hrun.kept entry hfirst fun other hother => hkept other (List.mem_cons_of_mem _ hother)
    · rcases hrun.added entry hentry with hold | hnew
      · exact hstep.added entry hold
      · exact .inr (hstep.monotone.trans_lt hnew)
    · intro answered hanswered sequence hissued
      rcases List.mem_cons.mp hanswered with rfl | hlater
      · obtain ⟨hlt, hle⟩ := hstep.issued sequence hissued
        exact ⟨hlt, hle.trans hrun.monotone⟩
      · obtain ⟨hlt, hle⟩ := hrun.issued answered hlater sequence hissued
        exact ⟨hstep.monotone.trans_lt hlt, hle⟩

/-- **The tables of a run** from the empty store hold a log. -/
theorem final_holds (sqlite : Sqlite) (calls : List ReceiveStore.Call) :
    ∃ log, Run sqlite .empty [] calls log := run_holds holds_empty sqlite calls

end Slotpilot.Storage
