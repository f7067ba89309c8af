import Slotpilot.Audio.TimelineHealth
import Slotpilot.Daemon.PublicRetries
import Slotpilot.Daemon.ScriptedPolls

/-!
# The history of a live run

A coordinator that receives into the public store. What the store has accepted, its history and its events are three views
of one list of records.

* `step_store`: what recording keeps true of a store, every call of a coordinator keeps true of its store;
* `recorded_views`: recording keeps the three views together;
* `live_history`: after every run the pages of the history and the summaries of the events are those of the accepted
  records, numbered from 1, and what a poll has reported as persisted is among them.
-/

set_option autoImplicit false

namespace Slotpilot.Daemon

open Lib Domain Audio Operations Protocol Storage

/-! ## What recording keeps true -/

namespace LiveReceiveCoordinator

section Stores

variable {I D S α : Type} {P : S → Prop}

/-- The store of the coordinator has a property. -/
def StoreHas (P : S → Prop) (c : LiveReceiveCoordinator I D S) : Prop := P c.store

theorem onClock_store (call : ReceiveClockMonitor → α × ReceiveClockMonitor) :
    Leads (StoreHas P) (StoreHas P) (onClock call : Update I D S α) := by
  refine (leads_get fun _ => id).bind (fun _ => id) fun self => ?_
  split
  · exact leads_throw (fun _ => id) _
  · exact Leads.bind (leads_modify fun _ => id) (fun _ => id) fun _ => leads_pure (fun _ => id) _

theorem onTimeline_store (call : Ft8ReceiveTimeline → α × Ft8ReceiveTimeline) :
    Leads (StoreHas P) (StoreHas P) (onTimeline call : Update I D S α) := by
  refine (leads_get fun _ => id).bind (fun _ => id) fun self => ?_
  split
  · exact leads_throw (fun _ => id) _
  · exact Leads.bind (leads_modify fun _ => id) (fun _ => id) fun _ => leads_pure (fun _ => id) _

theorem onSpectrum_store (update : SpectrumModel.Update α) :
    Leads (StoreHas P) (StoreHas P) (onSpectrum update : Update I D S α) := by
  intro c hc
  unfold Ends onSpectrum
  cases c.spectrum with
  | none => exact hc
  | some spectrum =>
    dsimp only
    cases update spectrum <;> exact hc

theorem waterfall_store (window : Ft8ReceiveWindow) :
    Leads (StoreHas P) (StoreHas P) (waterfall window : Update I D S _) := by
  refine (leads_get fun _ => id).bind (fun _ => id) fun self => ?_
  split
  · exact onSpectrum_store _
  · exact leads_pure (fun _ => id) _

theorem requireReceiving_store : Leads (StoreHas P) (StoreHas P) (requireReceiving : Update I D S _) := by
  refine (leads_get fun _ => id).bind (fun _ => id) fun self => ?_
  split
  · exact leads_pure (fun _ => id) _
  · exact leads_throw (fun _ => id) _

theorem checkClock_store (observedAt : MonotonicInstant) :
    Leads (StoreHas P) (StoreHas P) (checkClock observedAt : Update I D S _) := by
  refine (onClock_store _).bind (fun _ => id) fun snapshot => ?_
  split <;> exact leads_pure (fun _ => id) _

theorem processWindow_store [Ft8OfflineDecoder D] [DaemonReceiveStore S]
    (hrecord : ∀ store record, P store → P (DaemonReceiveStore.recordReceive store record).2)
    (crates : ReceiveCrates) (window : Ft8ReceiveWindow) (alignment : ReceiveWindowAlignment)
    (audioHealth : InputHealth) (recordedUtcMillis : Int64) :
    Leads (StoreHas P) (StoreHas P)
      (processWindow crates window alignment audioHealth recordedUtcMillis : Update I D S _) := by
  refine (waterfall_store window).bind (fun _ => id) fun snapshot => ?_
  refine (leads_fromResult (fun _ => id) _).bind (fun _ => id) fun pcm => ?_
  refine (leads_get fun _ => id).bind (fun _ => id) fun self => ?_
  refine Leads.bind (leads_modifyGet fun _ => id) (fun _ => id) fun result => ?_
  split
  · exact leads_pure (fun _ => id) _
  · refine (leads_fromResult (fun _ => id) _).bind (fun _ => id) fun receiveWindowId => ?_
    refine (onTimeline_store _).bind (fun _ => id) fun timelineHealth => ?_
    split
    · exact leads_pure (fun _ => id) _
    · refine (leads_modifyGet fun c hc => hrecord c.store _ hc).bind (fun _ => id) fun stored => ?_
      split <;> exact leads_pure (fun _ => id) _

section Input

variable [DaemonReceiveInput I]

theorem closeInput_store (reason : SpectrumDiscontinuity) :
    Leads (StoreHas P) (StoreHas P) (closeInput reason : Update I D S _) := by
  refine Leads.bind (leads_modifyGet fun _ => id) (fun _ => id) fun _ => ?_
  exact leads_modify fun _ => id

theorem inhibit_store (reason : ReceiveInhibition) :
    Leads (StoreHas P) (StoreHas P) (inhibit reason : Update I D S _) := by
  refine (leads_get fun _ => id).bind (fun _ => id) fun self => ?_
  split
  · exact leads_modifyGet fun _ => id
  all_goals exact (closeInput_store _).bind (fun _ => id) fun _ => leads_modifyGet fun _ => id

theorem orInhibit_store {β : Type} {check : Update I D S (Except ReceiveInhibition β)}
    {next : β → Update I D S (List ReceivePollEvent)} (hcheck : Leads (StoreHas P) (StoreHas P) check)
    (hnext : ∀ b, Leads (StoreHas P) (StoreHas P) (next b)) :
    Leads (StoreHas P) (StoreHas P) (orInhibit check next) := by
  refine hcheck.bind (fun _ => id) fun result => ?_
  cases result with
  | ok b => exact hnext b
  | error reason => exact (inhibit_store reason).bind (fun _ => id) fun _ => leads_pure (fun _ => id) _

theorem checkInput_store : Leads (StoreHas P) (StoreHas P) (checkInput : Update I D S _) := by
  refine Leads.bind (leads_modifyGet fun _ => id) (fun _ => id) fun fault => ?_
  cases fault with
  | some fault => exact leads_pure (fun _ => id) _
  | none =>
    refine Leads.bind (leads_modifyGet fun _ => id) (fun _ => id) fun health => ?_
    cases health with
    | error error => exact leads_pure (fun _ => id) _
    | ok health =>
      dsimp only
      split <;> exact leads_pure (fun _ => id) _

theorem fillBacklog_store (room : Nat) : Leads (StoreHas P) (StoreHas P) (fillBacklog room : Update I D S _) := by
  induction room with
  | zero => exact leads_pure (fun _ => id) _
  | succ room ih =>
    refine Leads.bind (leads_modifyGet fun _ => id) (fun _ => id) fun result => ?_
    split
    · exact Leads.bind (leads_modify fun _ => id) (fun _ => id) fun _ => ih
    · exact leads_pure (fun _ => id) _
    · exact leads_pure (fun _ => id) _

theorem openInput_store (initialClock : GenerationClockSample) (streamGeneration : StreamGeneration) :
    Leads (StoreHas P) (StoreHas P) (openInput initialClock streamGeneration : Update I D S _) := by
  refine (leads_get fun _ => id).bind (fun _ => id) fun self => ?_
  split
  · exact leads_modifyGet fun _ => id
  · refine Leads.bind (leads_modifyGet fun _ => id) (fun _ => id) fun result => ?_
    cases result with
    | error error => exact leads_modifyGet fun _ => id
    | ok _ =>
      refine (leads_fromResult (fun _ => id) _).bind (fun _ => id) fun monitor => ?_
      exact Leads.bind (leads_modify fun _ => id) (fun _ => id) fun _ => leads_modifyGet fun _ => id

theorem start_store (initialClock : GenerationClockSample) :
    Leads (StoreHas P) (StoreHas P) (start initialClock : Update I D S _) := by
  refine (leads_get fun _ => id).bind (fun _ => id) fun self => ?_
  split
  · refine (leads_orThrow (fun _ => id) _ _).bind (fun _ => id) fun next => ?_
    refine (leads_fromResult (fun _ => id) _).bind (fun _ => id) fun streamGeneration => ?_
    refine Leads.bind (leads_modify fun _ => id) (fun _ => id) fun _ => ?_
    refine Leads.bind (leads_modifyGet fun _ => id) (fun _ => id) fun first => ?_
    exact (openInput_store _ _).bind (fun _ => id) fun _ => leads_pure (fun _ => id) _
  · exact leads_throw (fun _ => id) _

theorem observeClock_store (observation : GenerationClockSample) (observedAt : MonotonicInstant) :
    Leads (StoreHas P) (StoreHas P) (observeClock observation observedAt : Update I D S _) := by
  refine requireReceiving_store.bind (fun _ => id) fun _ => ?_
  refine (onClock_store _).bind (fun _ => id) fun transition => ?_
  split
  · exact (inhibit_store _).bind (fun _ => id) fun _ => leads_pure (fun _ => id) _
  · exact leads_pure (fun _ => id) _

theorem stop_store (reason : ReceiveStopReason) :
    Leads (StoreHas P) (StoreHas P) (stop reason : Update I D S _) := by
  refine (leads_get fun _ => id).bind (fun _ => id) fun self => ?_
  split
  · refine Leads.bind (leads_modifyGet fun _ => id) (fun _ => id) fun first => ?_
    refine (closeInput_store _).bind (fun _ => id) fun _ => ?_
    exact Leads.bind (leads_modifyGet fun _ => id) (fun _ => id) fun _ => leads_pure (fun _ => id) _
  · refine Leads.bind (leads_modifyGet fun _ => id) (fun _ => id) fun first => ?_
    refine (closeInput_store _).bind (fun _ => id) fun _ => ?_
    exact Leads.bind (leads_modifyGet fun _ => id) (fun _ => id) fun _ => leads_pure (fun _ => id) _
  · exact leads_throw (fun _ => id) _

section Poll

variable [Ft8OfflineDecoder D] [DaemonReceiveStore S]
  (hrecord : ∀ store record, P store → P (DaemonReceiveStore.recordReceive store record).2)

include hrecord

theorem processEvents_store (crates : ReceiveCrates) (audioHealth : InputHealth) (observedAt : MonotonicInstant)
    (recordedUtcMillis : Int64) (events : List ReceiveTimelineEvent) :
    Leads (StoreHas P) (StoreHas P)
      (processEvents crates audioHealth observedAt recordedUtcMillis events : Update I D S _) := by
  induction events with
  | nil => exact leads_pure (fun _ => id) _
  | cons event events ih =>
    refine (onClock_store _).bind (fun _ => id) fun gated => ?_
    split
    · exact ih.bind (fun _ => id) fun _ => leads_pure (fun _ => id) _
    · exact orInhibit_store (leads_pure (fun _ => id) _) fun _ => leads_pure (fun _ => id) _
    · refine orInhibit_store (processWindow_store hrecord crates _ _ audioHealth recordedUtcMillis) fun _ => ?_
      exact ih.bind (fun _ => id) fun _ => leads_pure (fun _ => id) _

theorem poll_store (crates : ReceiveCrates) (observedAt : MonotonicInstant) (recordedUtcMillis : Int64) :
    Leads (StoreHas P) (StoreHas P) (poll crates observedAt recordedUtcMillis : Update I D S _) := by
  refine requireReceiving_store.bind (fun _ => id) fun _ => ?_
  refine orInhibit_store checkInput_store fun audioHealth => ?_
  refine orInhibit_store (checkClock_store observedAt) fun _ => ?_
  refine (leads_get fun _ => id).bind (fun _ => id) fun self => ?_
  refine orInhibit_store (fillBacklog_store _) fun _ => ?_
  refine (leads_get fun _ => id).bind (fun _ => id) fun self => ?_
  split
  · exact leads_pure (fun _ => id) _
  · refine Leads.bind (leads_modify fun _ => id) (fun _ => id) fun _ => orInhibit_store ?_ fun events =>
      processEvents_store hrecord crates audioHealth observedAt recordedUtcMillis events
    exact (onTimeline_store _).bind (fun _ => id) fun _ => leads_pure (fun _ => id) _

/-- **What recording keeps true of a store**, every call of a coordinator keeps true of its store. -/
theorem step_store (crates : ReceiveCrates) (c : LiveReceiveCoordinator I D S) (input : Call) (hc : P c.store) :
    P (step crates c input).2.store := by
  have hcall : Leads (StoreHas P) (StoreHas P) (call crates input : Update I D S Answer) := by
    cases input with
    | start initialClock => exact (start_store initialClock).map _
    | observeClock observation observedAt => exact (observeClock_store observation observedAt).map _
    | poll observedAt recordedUtcMillis => exact (poll_store hrecord crates observedAt recordedUtcMillis).map _
    | stop reason => exact (stop_store reason).map _
    | enableSpectrum config =>
      refine Leads.map _ ?_
      exact (leads_fromResult (fun _ => id) _).bind (fun _ => id) fun _ => leads_modify fun _ => id
  exact ends_final.mp (hcall c hc)

end Poll

end Input

end Stores

end LiveReceiveCoordinator

/-! ## The public store of a coordinator -/

/-- The store that records windows with their events. -/
structure PublicReceiveStore (serde : Serde) (sqlite : Sqlite) where
  store : ReceiveStore

instance {serde : Serde} {sqlite : Sqlite} : DaemonReceiveStore (PublicReceiveStore serde sqlite) where
  recordReceive self record :=
    let (result, store) := ReceiveStore.run id (PublicReceiveStore.recordReceive serde sqlite record) self.store
    (result, { store })

/-- A record that the store inserted, with its sequence. -/
def insertedOf : StoreAnswer → Option SequencedReceiveRecord
  | (record, .ok (.inserted sequence)) => some ⟨sequence, record⟩
  | _ => none

/-- A record that the store accepted, with its sequence. -/
def sequencedOf : StoreAnswer → Option SequencedReceiveRecord
  | (record, .ok outcome) => some ⟨outcome.sequence, record⟩
  | _ => none

/-- The records that were inserted. -/
def insertedIn (answers : List StoreAnswer) : List SequencedReceiveRecord := answers.filterMap insertedOf

open PublicReceiveStore

section Views

variable {serde : Serde} {sqlite : Sqlite}

/-- The tables hold the inserted records, one event was written for each, and every accepted record is one of them. -/
structure Views (serde : Serde) (store : ReceiveStore) (answers : List StoreAnswer) (log : List StoredReceive) : Prop where
  coupled : Coupled serde store log
  records : log.map (·.sequenced) = insertedIn answers
  events : List.Forall₂ (fun row entry => WrittenFor serde row entry.sequenced) store.events.rows log
  last : store.lastSequence = log.length
  numbers : log.map (·.sequence) = List.range' 1 log.length
  accepted : ∀ answer ∈ answers, ∀ sequenced, sequencedOf answer = some sequenced → sequenced ∈ insertedIn answers

theorem views_empty : Views serde .empty [] [] where
  coupled := coupled_empty
  records := rfl
  events := .nil
  last := rfl
  numbers := rfl
  accepted := fun _ hanswer => absurd hanswer List.not_mem_nil

/-- An answer that inserts nothing changes no view. -/
theorem Views.answered {store : ReceiveStore} {answers : List StoreAnswer} {log : List StoredReceive}
    (h : Views serde store answers log) {answer : StoreAnswer} (hnone : insertedOf answer = none)
    (haccepted : ∀ sequenced, sequencedOf answer = some sequenced → sequenced ∈ insertedIn answers) :
    Views serde store (answers ++ [answer]) log := by
  have hsame : insertedIn (answers ++ [answer]) = insertedIn answers := by
    simp [insertedIn, hnone]
  refine ⟨h.coupled, by rw [hsame, h.records], h.events, h.last, h.numbers, fun other hother sequenced hsequenced => ?_⟩
  rw [hsame]
  rcases List.mem_append.mp hother with hother | hother
  · exact h.accepted other hother sequenced hsequenced
  · rw [List.mem_singleton.mp hother] at hsequenced
    exact haccepted sequenced hsequenced

/-- **Recording** keeps the views together. -/
theorem recorded_views (hwrites : WritesEvents serde sqlite) {store : ReceiveStore} {answers : List StoreAnswer}
    {log : List StoredReceive} (h : Views serde store answers log) (record : ReceiveRecord) :
    Ends (recordReceive serde sqlite record) store
      (fun outcome after => ∃ next, Views serde after (answers ++ [(record, .ok outcome)]) next)
      (fun error after => ∃ next, Views serde after (answers ++ [(record, .error error)]) next) := by
  obtain ⟨eventId, hid⟩ := receiveEventId_ok record.context.receiveWindowId
  refine (recordReceive_ends h.coupled.holds serde sqlite hid).imp ?_ ?_
  · rintro outcome after ⟨commit, next, rfl, hcommitted⟩
    obtain ⟨hcoupled, -, -⟩ := committed_coupled hwrites h.coupled hid hcommitted
    obtain ⟨receive, eventSequence⟩ := commit
    obtain ⟨recorded, next, hrecorded, text, hbuilt, after, hstored⟩ := hcommitted
    have hwritten := writtenFor_eventRow eventSequence hid hbuilt
    cases hrecorded with
    | existing entry hentry hsame =>
      -- the event of the entry is there, so the store is as it was
      have hmem : entry.sequenced ∈ insertedIn answers := by
        rw [← h.records]
        exact List.mem_map_of_mem hentry
      have hafter : after = store := by
        cases hstored with
        | existing => rfl
        | appended hnone =>
          obtain ⟨row, hrow, hother⟩ := exists_of_forall₂_mem h.events hentry
          obtain ⟨otherId, hotherId, hrowId⟩ := hother.eventId
          have hids : otherId = eventId := by
            rw [show entry.sequenced.record = record from hsame, hid] at hotherId
            exact (Except.ok.inj hotherId).symm
          exact absurd (by rw [hrowId, hids]; rfl) (hnone row hrow)
      rw [hafter]
      refine ⟨log, h.answered rfl fun sequenced hsequenced => ?_⟩
      obtain rfl := Option.some.inj hsequenced
      rw [← hsame]
      exact hmem
    | inserted hnone hroom entry hentry recorded hlast hevents hholds =>
      have hfresh := (h.coupled.event_fresh hwrites.faithful hevents hwritten hstored).1
      have hadded : insertedIn (answers ++ [(record, .ok (.inserted (store.lastSequence + 1)))]) =
          insertedIn answers ++ [entry.sequenced] := by
        rw [hentry]
        simp [insertedIn, insertedOf]
      have hrows : after.events.rows = store.events.rows ++
          [eventRow eventSequence eventId record.context.serviceInstanceId text record.recordedUtcMillis.toInt] := by
        cases hstored with
        | existing hrow =>
          rw [hevents] at hrow
          exact absurd rfl (hfresh _ hrow)
        | appended _ _ events hrows =>
          rw [← hevents]
          exact hrows
      refine ⟨log ++ [entry], hcoupled, ?_, ?_, ?_, ?_, ?_⟩
      · rw [hadded, List.map_append, h.records]
        rfl
      · rw [hrows]
        refine List.rel_append h.events (.cons ?_ .nil)
        rw [hentry]
        exact hwritten
      · rw [hstored.lastSequence, hlast, h.last, List.length_append]
        rfl
      · have hsequence : entry.sequence = 1 + log.length := by
          rw [show entry.sequence = store.lastSequence + 1 from congrArg SequencedReceiveRecord.sequence hentry, h.last,
            Nat.add_comm]
        rw [List.map_append, List.length_append, h.numbers, List.map_singleton, hsequence, List.length_singleton,
          List.range'_1_concat]
      · intro answer hanswer sequenced hsequenced
        rw [hadded]
        rcases List.mem_append.mp hanswer with hanswer | hanswer
        · exact List.mem_append_left _ (h.accepted answer hanswer sequenced hsequenced)
        · rw [List.mem_singleton.mp hanswer] at hsequenced
          obtain rfl := Option.some.inj hsequenced
          refine List.mem_append_right _ (List.mem_singleton.mpr ?_)
          rw [hentry]
          rfl
  · rintro error after ⟨-, rfl⟩
    exact ⟨log, h.answered rfl fun _ hsequenced => nomatch hsequenced⟩

/-- A page of the history is cut out of the inserted records. -/
theorem Views.page {store : ReceiveStore} {answers : List StoreAnswer} {log : List StoredReceive}
    (h : Views serde store answers log) {afterSequence limit : Nat} (hlimit : 1 ≤ limit ∧ limit ≤ maxReceivePageSize)
    (hafter : afterSequence < 2 ^ 63) :
    ∃ page, store.receivePage afterSequence limit = .ok page ∧
      page.records = ((insertedIn answers).drop afterSequence).take limit ∧
      (page.hasMore = true ↔ afterSequence + limit < (insertedIn answers).length) := by
  have hposition : Lib.after StoredReceive.sequence afterSequence log = log.drop afterSequence :=
    after_consecutive h.numbers afterSequence
  refine ⟨_, h.coupled.holds.receivePage hlimit hafter, ?_, ?_⟩
  · show (Lib.page StoredReceive.sequence limit afterSequence log).map StoredReceive.sequenced = _
    rw [Lib.page, hposition, ← h.records, List.map_take, List.map_drop]
  · show decide (limit < (Lib.after StoredReceive.sequence afterSequence log).length) = true ↔ _
    rw [hposition, List.length_drop, decide_eq_true_eq, ← h.records, List.length_map]
    omega

/-- The events carry the summaries of the inserted records. -/
theorem Views.summaries (hserde : serde.Faithful) {store : ReceiveStore} {answers : List StoreAnswer}
    {log : List StoredReceive} (h : Views serde store answers log) :
    store.events.rows.map (storedSummary serde) = (insertedIn answers).map fun record => some (mapReceiveRecord record) := by
  rw [← h.records, List.map_map]
  have hevents := h.events
  generalize store.events.rows = rows at hevents ⊢
  clear h
  induction hevents with
  | nil => rfl
  | cons hwritten _ ih => exact congrArg₂ List.cons (storedSummary_of_json hserde hwritten.json) ih

end Views

namespace LiveReceiveCoordinator

variable {I D : Type} [DaemonReceiveInput I] [Ft8OfflineDecoder D] {serde : Serde} {sqlite : Sqlite}

/-- The views of a store that remembers are together. -/
def Viewed (serde : Serde) (sqlite : Sqlite) (tracked : TrackedStore (PublicReceiveStore serde sqlite)) : Prop :=
  ∃ log, Views serde tracked.store.store tracked.answers log

theorem viewed_record (hwrites : WritesEvents serde sqlite) (tracked : TrackedStore (PublicReceiveStore serde sqlite))
    (record : ReceiveRecord) (h : Viewed serde sqlite tracked) :
    Viewed serde sqlite (DaemonReceiveStore.recordReceive tracked record).2 := by
  obtain ⟨log, hviews⟩ := h
  exact run_ends (recorded_views hwrites hviews record) (f := id)
    (P := fun result after => ∃ next, Views serde after (tracked.answers ++ [(record, result)]) next)
    (fun _ _ hnext => hnext) (fun _ _ hnext => hnext)

/-- The answers of a store stay in later calls. -/
theorem answer_stays {S : Type} [DaemonReceiveStore S] (crates : ReceiveCrates) (answer : StoreAnswer)
    (c : LiveReceiveCoordinator I D (TrackedStore S)) (calls : List Call) (h : answer ∈ c.store.answers) :
    answer ∈ (final (step crates) c calls).store.answers :=
  final_inv_all (I := fun c : LiveReceiveCoordinator I D (TrackedStore S) => answer ∈ c.store.answers)
    (fun c input hc => step_store (P := fun store : TrackedStore S => answer ∈ store.answers)
      (fun _ _ hmem => List.mem_append_left _ hmem) crates c input hc) h calls

/-! ## A receiver of two stations -/

/-- The empty store records a storable record under the first sequence. -/
theorem recorded_first {record : ReceiveRecord} (hstorable : record.Storable) :
    ∃ after, DaemonReceiveStore.recordReceive
      (⟨.empty⟩ : PublicReceiveStore EventHistory.compactSerde jsonSqlite) record = (.ok (.inserted 1), after) := by
  obtain ⟨recorded, after, hok⟩ := ok_of_accepted writesEvents_compact coupled_empty hstorable (accepted_empty record)
  obtain ⟨next, hviews⟩ := (recorded_views writesEvents_compact views_empty record).of_ok hok
  have hrun : DaemonReceiveStore.recordReceive (⟨.empty⟩ : PublicReceiveStore EventHistory.compactSerde jsonSqlite) record =
      (.ok recorded, ⟨after⟩) := by
    show ((outcome (PublicReceiveStore.recordReceive _ _ record .empty), _) : _ × _) = _
    rw [hok]
    rfl
  have hmem := hviews.accepted _ List.mem_cons_self _ rfl
  cases recorded with
  | existing sequence => cases hmem
  | inserted sequence =>
    obtain ⟨entry, rfl, hentry⟩ := List.map_eq_singleton_iff.mp
      (show next.map StoredReceive.sequenced = [⟨sequence, record⟩] from hviews.records)
    have hnumber : entry.sequence = 1 := (List.cons.inj hviews.numbers).1
    have hsame : entry.sequence = sequence := congrArg SequencedReceiveRecord.sequence hentry
    rw [hrun, ← hsame, hnumber]
    exact ⟨_, rfl⟩

/-- What its decoder finds. -/
def stations : List Ft8Decode := crowd.take 2

theorem stations_durable : Durable stations := fun decode hdecode => crowd_durable decode (List.mem_of_mem_take hdecode)

def stationCrates : ReceiveCrates := ⟨fun _ => List.replicate 32 0, flatPlan⟩

/-- A receiver over one slot of batches, into an empty store. -/
def receiver : Observed Scripted Busy (PublicReceiveStore EventHistory.compactSerde jsonSqlite) :=
  new ⟨scriptOf Ft8ReceiveTimeline.silentRun, []⟩ ⟨stations⟩ ⟨⟨.empty⟩, []⟩ busyConfig

def receiverStarted : Observed Scripted Busy (PublicReceiveStore EventHistory.compactSerde jsonSqlite) :=
  final (step stationCrates) receiver [.start (ownSample busyConfig)]

theorem receiverStarted_hears : Hears (ownSample busyConfig).sample.utc receiverStarted ∧
    receiverStarted.spectrum = none ∧ receiverStarted.decoder = ⟨stations⟩ ∧ receiverStarted.store = ⟨⟨.empty⟩, []⟩ :=
  ⟨⟨rfl, rfl, rfl⟩, rfl, rfl, rfl⟩

theorem receiverStarted_watching :
    Watching receiverStarted Ft8ReceiveTimeline.silentRun (.new ⟨1, one_nonzero⟩ ⟨1, one_nonzero⟩ monoConfiguration)
      receiverStarted :=
  watching_self rfl rfl

/-- The counters of the timeline fit their columns. -/
theorem silent_health {before later : List (CaptureBatch × UInt64)} {input : CaptureBatch × UInt64}
    (hsplit : Ft8ReceiveTimeline.silentRun = before ++ input :: later) :
    let health := (final Ft8ReceiveTimeline.step (.new ⟨1, one_nonzero⟩ ⟨1, one_nonzero⟩ monoConfiguration)
      (before ++ [input])).health
    health.lateBatchCount < 2 ^ 63 ∧ health.incompleteSlotCount < 2 ^ 63 ∧ health.maxJitterMillis < 2 ^ 32 := by
  intro health
  have hrun : Ft8ReceiveTimeline.silentRun = (before ++ [input]) ++ later := by
    rw [hsplit, List.append_assoc]
    rfl
  have hlength : (before ++ [input]).length ≤ 22 := by
    have htotal := congrArg List.length hrun
    rw [List.length_append] at htotal
    exact (Nat.le_add_right _ later.length).trans htotal.symm.le
  have hfits : ∀ other ∈ before ++ [input], Ft8ReceiveTimeline.EndFits other.1 := by
    intro other hother
    have hmem : other ∈ Ft8ReceiveTimeline.silentRun := hrun ▸ List.mem_append_left later hother
    exact Ft8ReceiveTimeline.silent_ends other hmem
  have haccepted := Ft8ReceiveTimeline.silent_accepted
  rw [hrun, transcript_append, List.forall_mem_append] at haccepted
  obtain ⟨hlate, hincomplete, hjitter⟩ := Ft8ReceiveTimeline.accepted_bounds hfits haccepted.1
  exact ⟨hlate.trans_lt (by omega), hincomplete.trans_lt (by omega), hjitter.trans_lt (by decide)⟩

/-- The record of the slot is storable. -/
theorem silent_storable {before later : List (CaptureBatch × UInt64)} {input : CaptureBatch × UInt64}
    (hsplit : Ft8ReceiveTimeline.silentRun = before ++ input :: later) {window : Ft8ReceiveWindow}
    (hwindow : window.processGeneration = ⟨1, one_nonzero⟩ ∧ window.streamGeneration = ⟨1, one_nonzero⟩ ∧
      window.mapping = Ft8ReceiveTimeline.silentOrigin.first) {id : ReceiveWindowId}
    {alignment : ReceiveWindowAlignment} {decodes : List Ft8Decode} {record : ReceiveRecord}
    (hrecord : receiverStarted.receiveRecord id window alignment ⟨10, 0, 0, 0, 5⟩
      (final Ft8ReceiveTimeline.step (.new ⟨1, one_nonzero⟩ ⟨1, one_nonzero⟩ monoConfiguration) (before ++ [input])).health
      decodes 0 = .ok record) : record.Storable := by
  obtain ⟨hprocess, hstream, hmapping⟩ := hwindow
  obtain ⟨hlate, hincomplete, hjitter⟩ := silent_health hsplit
  unfold receiveRecord at hrecord
  obtain ⟨made, hnew, -, hcontext, hdiagnostics, -⟩ | ⟨error, herror, -⟩ := ReceiveRecord.new_cases _ _ _ _
  · cases hnew.symm.trans hrecord
    refine ⟨?_, ?_, ?_, ?_, ?_, ?_, ?_, ?_, ?_, ?_, ?_⟩ <;>
      simp only [hcontext, hdiagnostics, hprocess, hstream, hmapping]
    · rfl
    · exact hjitter
    · decide
    · decide
    · decide
    · decide
    · decide
    · decide
    · exact hincomplete
    · exact hlate
    · trivial
  · cases herror.symm.trans hrecord

/-- The window of the slot has a storable record of both stations. -/
theorem stations_record {before later : List (CaptureBatch × UInt64)} {input : CaptureBatch × UInt64}
    (hsplit : Ft8ReceiveTimeline.silentRun = before ++ input :: later) {window : Ft8ReceiveWindow}
    (hwindow : window.processGeneration = ⟨1, one_nonzero⟩ ∧ window.streamGeneration = ⟨1, one_nonzero⟩ ∧
      window.mapping = Ft8ReceiveTimeline.silentOrigin.first)
    (hmapped : window.Mapped (ownSample busyConfig).sample.utc.unixMillis.toInt) (id : ReceiveWindowId)
    {alignment : ReceiveWindowAlignment} (hage : alignment.mappingAgeMillis ≤ 60000) :
    ∃ record, receiverStarted.receiveRecord id window alignment ⟨10, 0, 0, 0, 5⟩
        (final Ft8ReceiveTimeline.step (.new ⟨1, one_nonzero⟩ ⟨1, one_nonzero⟩ monoConfiguration) (before ++ [input])).health
        stations 0 = .ok record ∧ record.Storable ∧ record.decodes.length = 2 := by
  have hdrift : |(final Ft8ReceiveTimeline.step (.new ⟨1, one_nonzero⟩ ⟨1, one_nonzero⟩ monoConfiguration)
      (before ++ [input])).health.driftPartsPerMillion| ≤ 50000 :=
    final_inv_all (I := Ft8ReceiveTimeline.DriftBounded) (fun _ next h => Ft8ReceiveTimeline.driftBounded_step h next)
      (abs_zero.trans_le (by decide)) _
  obtain ⟨record, hrecord, -, hdecodes⟩ | ⟨error, -, hunfit⟩ :=
    receiveRecord_cases receiverStarted id ⟨10, 0, 0, 0, 5⟩ stations 0 hmapped.1 hage hdrift
  · refine ⟨record, hrecord, silent_storable hsplit hwindow hrecord, ?_⟩
    rw [hdecodes, (Ft8Decode.sortDeterministically_perm stations).length_eq]
    rfl
  · exact absurd hunfit (not_or.mpr ⟨by decide, not_not.mpr ⟨Int.le_refl 0, stations_durable⟩⟩)

/-- The poll that completes the slot records its window, under the first sequence. -/
theorem receiver_records : ∃ (polls : List Call) (poll : Call) (record : ReceiveRecord)
    (t : Observed Scripted Busy (PublicReceiveStore EventHistory.compactSerde jsonSqlite)),
    record.decodes.length = 2 ∧
    step stationCrates (final (step stationCrates) receiver (.start (ownSample busyConfig) :: polls)) poll =
      (.ok (.polled [.persisted record.context.receiveWindowId (.inserted 1) 2]), t) ∧
    t.store.answers = [(record, .ok (.inserted 1))] := by
  obtain ⟨hhears, hspectrum, hdecoder, hstore⟩ := receiverStarted_hears
  have honClock : ∀ input ∈ Ft8ReceiveTimeline.silentRun, input.2.toNat ≤ 60000 := fun input hinput =>
    (Ft8ReceiveTimeline.silent_onClock input hinput).2
  have hrun : ∀ entry ∈ transcript Ft8ReceiveTimeline.step (.new ⟨1, one_nonzero⟩ ⟨1, one_nonzero⟩ monoConfiguration)
      Ft8ReceiveTimeline.silentRun, entry.2.isOk = true ∧ entry.1.2.toNat ≤ 60000 := by
    intro entry hentry
    obtain ⟨before, later, hsplit, -⟩ := exists_of_mem_transcript hentry
    refine ⟨Ft8ReceiveTimeline.silent_accepted entry hentry, honClock entry.1 ?_⟩
    rw [hsplit]
    exact List.mem_append_right before List.mem_cons_self
  obtain ⟨before, input, later, hsplit, hwatching, window, events, hpush, hwindow⟩ :=
    receiverStarted_watching.reaches hhears stationCrates hrun Ft8ReceiveTimeline.silent_emits
  have hobserved : input.2.toNat ≤ 60000 := by
    refine honClock input ?_
    rw [hsplit]
    exact List.mem_append_right before List.mem_cons_self
  obtain ⟨rfl, hmapped, hfacts⟩ := Ft8ReceiveTimeline.silent_completes hsplit hpush hwindow
  have hdigest : ∀ bytes, (stationCrates.sha256 bytes).length = 32 := fun _ => List.length_replicate
  obtain ⟨id, alignment, hage, hstores⟩ :=
    hwatching.stores hhears hspectrum hdigest hobserved hpush hmapped window.slot.nonneg
  obtain ⟨record, hrecord, hstorable, hlength⟩ := stations_record hsplit hfacts hmapped id hage
  obtain ⟨after, hanswer⟩ := recorded_first hstorable
  have hnext : (Ft8ReceiveTimeline.step (final Ft8ReceiveTimeline.step
      (.new ⟨1, one_nonzero⟩ ⟨1, one_nonzero⟩ monoConfiguration) before) input).2 =
      final Ft8ReceiveTimeline.step (.new ⟨1, one_nonzero⟩ ⟨1, one_nonzero⟩ monoConfiguration) (before ++ [input]) := by
    rw [final_append]
    rfl
  rw [hnext, hdecoder, hstore] at hstores
  have hcall : Ends (call stationCrates (pollOf input)) (final (step stationCrates) receiverStarted (before.map pollOf))
      (fun answer t => answer = .polled [.persisted record.context.receiveWindowId (.inserted 1) record.decodes.length] ∧
        t.store = ⟨after, [(record, .ok (.inserted 1))]⟩) (fun _ _ => False) := by
    rw [pollOf, call, map_eq_pure_bind, ends_bind]
    refine (hstores record hrecord _ _ hanswer).imp ?_ (fun _ _ => False.elim)
    rintro _ t ⟨rfl, ht⟩
    exact ⟨rfl, ht⟩
  rw [hlength] at hcall
  obtain ⟨_, t, hreturned, rfl, hkept⟩ := hcall.exists_ok
  refine ⟨before.map pollOf, pollOf input, record, t, hlength, ?_, congrArg TrackedStore.answers hkept⟩
  show step stationCrates (final (step stationCrates) receiverStarted (before.map pollOf)) (pollOf input) = _
  rw [step, hreturned]
  rfl

/-! ## The history of every run -/

/-- **The history of a live run.** After every run of a coordinator that receives into an empty public store, the records
that the store has inserted are numbered from 1; every page of the history is cut out of them; the events carry their
summaries, in order; and each window that a poll has reported as persisted is one of them, with the sequence and the
number of decodes that were reported. -/
theorem live_history (hwrites : WritesEvents serde sqlite) (crates : ReceiveCrates) (device : I) (decoder : D)
    (config : LiveReceiveCoordinatorConfig) (calls : List Call) :
    let initial : Observed I D (PublicReceiveStore serde sqlite) := new ⟨device, []⟩ decoder ⟨⟨.empty⟩, []⟩ config
    let last := final (step crates) initial calls
    let records := insertedIn last.store.answers
    records.map (·.sequence) = List.range' 1 records.length ∧
    (∀ afterSequence limit, 1 ≤ limit ∧ limit ≤ maxReceivePageSize → afterSequence < 2 ^ 63 →
      ∃ page, last.store.store.store.receivePage afterSequence limit = .ok page ∧
        page.records = (records.drop afterSequence).take limit ∧
        (page.hasMore = true ↔ afterSequence + limit < records.length)) ∧
    last.store.store.store.events.rows.map (storedSummary serde) =
      records.map (fun record => some (mapReceiveRecord record)) ∧
    ∀ before input later, calls = before ++ input :: later →
      ∀ events, (step crates (final (step crates) initial before) input).1 = .ok (.polled events) →
      ∀ receiveWindowId outcome decodeCount, .persisted receiveWindowId outcome decodeCount ∈ events →
        ∃ record ∈ records, record.sequence = outcome.sequence ∧
          record.record.context.receiveWindowId = receiveWindowId ∧ record.record.decodes.length = decodeCount := by
  intro initial last records
  obtain ⟨log, hviews⟩ : Viewed serde sqlite last.store :=
    final_inv_all (I := fun c : Observed I D (PublicReceiveStore serde sqlite) => Viewed serde sqlite c.store)
      (fun c input hc => step_store (viewed_record hwrites) crates c input hc) ⟨[], views_empty⟩ calls
  refine ⟨?_, fun afterSequence limit => hviews.page, hviews.summaries hwrites.faithful, ?_⟩
  · have hlength : records.length = log.length := by
      rw [show records = log.map (·.sequenced) from hviews.records.symm, List.length_map]
    rw [hlength, ← hviews.numbers, show records = log.map (·.sequenced) from hviews.records.symm, List.map_map]
    rfl
  · rintro before input later rfl events hpolled receiveWindowId outcome decodeCount hpersisted
    have hsourced : Sourced (final (step crates) initial before) :=
      sourced_final (sourced_new device decoder (⟨.empty⟩ : PublicReceiveStore serde sqlite) config) before
    have hreported := (step_safe crates hsourced input).1.reported events hpolled
    have hmem : (receiveWindowId, outcome, decodeCount) ∈ events.filterMap persistedOf :=
      List.mem_filterMap.mpr ⟨_, hpersisted, rfl⟩
    rw [hreported] at hmem
    obtain ⟨⟨record, result⟩, hanswer, haccepted⟩ := List.mem_filterMap.mp hmem
    cases result with
    | error error => cases haccepted
    | ok accepted =>
      cases haccepted
      have hlast : (record, Except.ok outcome) ∈ last.store.answers := by
        have hstays := answer_stays crates (record, .ok outcome)
          (step crates (final (step crates) initial before) input).2 later (List.mem_of_mem_drop hanswer)
        rw [← final_cons, ← final_append] at hstays
        exact hstays
      exact ⟨⟨outcome.sequence, record⟩, hviews.accepted _ hlast _ rfl, rfl, rfl, rfl⟩

/-- **A receiver of two stations.** The poll that completes its first slot stores the window under the first sequence,
with both decodes: the history has it, its event has its summary, and the poll has reported it. -/
theorem live_history_stations : ∃ (polls : List Call) (poll : Call) (record : ReceiveRecord),
    let calls : List Call := .start (ownSample busyConfig) :: polls
    let last := final (step stationCrates) receiver (calls ++ [poll])
    record.decodes.length = 2 ∧ insertedIn last.store.answers = [⟨1, record⟩] ∧
    (∃ page, last.store.store.store.receivePage 0 1 = .ok page ∧ page.records = [⟨1, record⟩] ∧ page.hasMore = false) ∧
    last.store.store.store.events.rows.map (storedSummary EventHistory.compactSerde) =
      [some (mapReceiveRecord ⟨1, record⟩)] ∧
    ∃ events, (step stationCrates (final (step stationCrates) receiver calls) poll).1 = .ok (.polled events) ∧
      .persisted record.context.receiveWindowId (.inserted 1) 2 ∈ events ∧
      ∃ kept ∈ insertedIn last.store.answers, kept.sequence = 1 ∧
        kept.record.context.receiveWindowId = record.context.receiveWindowId ∧ kept.record.decodes.length = 2 := by
  obtain ⟨polls, poll, record, t, hlength, hstep, hkept⟩ := receiver_records
  refine ⟨polls, poll, record, ?_⟩
  intro calls last
  have hlast : last.store.answers = [(record, .ok (.inserted 1))] := by
    show (final (step stationCrates) receiver (calls ++ [poll])).store.answers = _
    rw [final_append]
    exact (congrArg (·.2.store.answers) hstep).trans hkept
  have hinserted : insertedIn last.store.answers = [⟨1, record⟩] := by
    rw [hlast]
    rfl
  obtain ⟨-, hpages, hsummaries, hpersisted⟩ := live_history writesEvents_compact stationCrates
    (scriptOf Ft8ReceiveTimeline.silentRun) (⟨stations⟩ : Busy) busyConfig (calls ++ [poll])
  obtain ⟨page, hpage, hrecords, hmore⟩ := hpages 0 1 (by decide) (by decide)
  have hanswered := congrArg Prod.fst hstep
  have hreported := hpersisted calls poll [] rfl _ hanswered record.context.receiveWindowId (.inserted 1) 2
    List.mem_cons_self
  change page.records = ((insertedIn last.store.answers).drop 0).take 1 at hrecords
  change page.hasMore = true ↔ 0 + 1 < (insertedIn last.store.answers).length at hmore
  change _ = (insertedIn last.store.answers).map _ at hsummaries
  rw [hinserted] at hrecords hmore hsummaries
  refine ⟨hlength, hinserted, ⟨page, hpage, hrecords, ?_⟩, hsummaries, _, hanswered, List.mem_cons_self, hreported⟩
  exact Bool.eq_false_iff.mpr fun htrue => absurd (hmore.mp htrue) (by simp)

end LiveReceiveCoordinator

end Slotpilot.Daemon
