import Slotpilot.Daemon.EventService
import Slotpilot.Lib.Machine

/-!
# Histories of one event store

Daemon generations take turns publishing into one store and pruning it. A history (`EventHistory`) holds the store and,
besides, every row that was ever published. It is a machine whose inputs are the calls; `history_valid` says what its
states have in common: the published rows are numbered from 1 without gaps, and the retained ones are those from some
sequence on.
-/

set_option autoImplicit false

namespace Slotpilot.Daemon

open Lib Domain Storage Api

variable {Payload : Type}

/-- A call on the store by one daemon generation. -/
inductive HistoryCall (Payload : Type)
  | publish (generation : ServiceInstanceId) (eventId : EventId) (payload : Payload) (occurredUtcMillis : Int)
  | prune (generation : ServiceInstanceId) (sequence : Nat)
  deriving DecidableEq

/-- What a call returns. -/
inductive HistoryAnswer (Payload : Type)
  | published (result : Except EventProcessorError (EventEnvelope Payload))
  | pruned (result : Except EventProcessorError Nat)
  deriving DecidableEq

/-- The event store and the rows ever published in it. -/
structure EventHistory where
  store : EventTable
  published : List EventRow

namespace EventHistory

def initial : EventHistory := ⟨.empty, []⟩

/-- The service of one generation over the store. -/
def service (self : EventHistory) (generation : ServiceInstanceId) : EventService := ⟨self.store, generation⟩

/-- The row of a published envelope. -/
def rowOf (codec : EventCodec Payload) (envelope : EventEnvelope Payload) : EventRow where
  sequence := envelope.sequence
  eventId := envelope.eventId.text
  serviceInstanceId := envelope.serviceInstanceId.text
  eventJson := (codec.toJson envelope.event).getD ""
  occurredUtcMillis := envelope.occurredUtcMillis

def publish (codec : EventCodec Payload) (self : EventHistory) (generation : ServiceInstanceId) (eventId : EventId)
    (payload : Payload) (occurredUtcMillis : Int) : HistoryAnswer Payload × EventHistory :=
  match (self.service generation).publishEvent codec eventId payload occurredUtcMillis with
  | .ok (envelope, service) =>
    (.published (.ok envelope), ⟨service.store, self.published ++ [rowOf codec envelope]⟩)
  | .error error => (.published (.error error), self)

def prune (self : EventHistory) (generation : ServiceInstanceId) (sequence : Nat) :
    HistoryAnswer Payload × EventHistory :=
  match (self.service generation).pruneBefore sequence with
  | .ok (count, service) => (.pruned (.ok count), ⟨service.store, self.published⟩)
  | .error error => (.pruned (.error error), self)

def step (codec : EventCodec Payload) (self : EventHistory) :
    HistoryCall Payload → HistoryAnswer Payload × EventHistory
  | .publish generation eventId payload occurredUtcMillis =>
    self.publish codec generation eventId payload occurredUtcMillis
  | .prune generation sequence => self.prune generation sequence

/-- The rows that a generation published. -/
def publishedBy (self : EventHistory) (generation : ServiceInstanceId) : List EventRow :=
  self.published.filter (·.serviceInstanceId = generation.text)

/-- The retained rows of a generation. -/
def retainedBy (self : EventHistory) (generation : ServiceInstanceId) : List EventRow :=
  self.store.ofInstance generation

/-- The row has the texts of valid identities. -/
def HasIdentities (row : EventRow) : Prop :=
  (∃ eventId : EventId, eventId.text = row.eventId) ∧
    ∃ generation : ServiceInstanceId, generation.text = row.serviceInstanceId

/-- What the states of a history have in common. -/
structure Valid (h : EventHistory) : Prop where
  consecutive : h.published.map EventRow.sequence = List.range' 1 h.published.length
  last : h.store.lastSequence = h.published.length
  kept : ∃ cut, h.store.rows = retained EventRow.sequence cut h.published
  identities : ∀ row ∈ h.published, HasIdentities row

variable {codec : EventCodec Payload} {h : EventHistory} {generation : ServiceInstanceId}

/-! ## One call -/

/-- **A successful publication** appends its row, numbered with the next sequence, to the store. -/
theorem publishEvent_ok {service service' : EventService} {eventId : EventId} {payload : Payload} {occurred : Int}
    {envelope : EventEnvelope Payload} (hok : service.publishEvent codec eventId payload occurred = .ok (envelope, service')) :
    envelope.sequence = service.store.lastSequence + 1 ∧ envelope.serviceInstanceId = service.serviceInstanceId ∧
      service'.store.lastSequence = service.store.lastSequence + 1 ∧
      service'.store.rows = service.store.rows ++ [rowOf codec envelope] := by
  unfold EventService.publishEvent at hok
  split at hok
  · simp only [exceptBind_ok, okOr_ok, exceptMapError_ok] at hok
    obtain ⟨json, hjson, ⟨sequence, store⟩, hstore, hok⟩ := hok
    cases hok
    unfold EventTable.appendEvent at hstore
    split at hstore
    · cases hstore
    · split at hstore
      · cases hstore
        refine ⟨rfl, rfl, rfl, ?_⟩
        simp only [rowOf, hjson, Option.getD_some]
      · cases hstore
  · cases hok

/-- Pruning keeps the rows from a sequence on. -/
theorem pruneBefore_ok {service service' : EventService} {sequence count : Nat}
    (hok : service.pruneBefore sequence = .ok (count, service')) :
    service'.store.lastSequence = service.store.lastSequence ∧
      service'.store.rows = retained EventRow.sequence sequence service.store.rows := by
  simp only [EventService.pruneBefore, EventTable.pruneEventsBefore, exceptBind_ok, exceptMapError_ok,
    toSqlInteger_ok] at hok
  obtain ⟨⟨count', store⟩, ⟨_, ⟨-, rfl⟩, hstore⟩, hok⟩ := hok
  cases hok
  cases hstore
  exact ⟨rfl, rfl⟩

theorem Valid.numbered (hv : Valid h) : Numbered EventRow.sequence h.published := by
  have hlt : (h.published.map EventRow.sequence).Pairwise (· < ·) := by
    rw [hv.consecutive]
    exact List.pairwise_lt_range'
  exact List.pairwise_map.mp hlt

theorem Valid.bounds (hv : Valid h) {row : EventRow} (hrow : row ∈ h.published) :
    1 ≤ row.sequence ∧ row.sequence ≤ h.store.lastSequence := by
  have hmem : row.sequence ∈ List.range' 1 h.published.length := by
    rw [← hv.consecutive]
    exact List.mem_map_of_mem hrow
  rw [List.mem_range'_1] at hmem
  rw [hv.last]
  omega

theorem valid_initial : Valid initial := ⟨rfl, rfl, ⟨0, rfl⟩, fun _ hrow => by cases hrow⟩

theorem valid_publish (hv : Valid h) (eventId : EventId) (payload : Payload) (occurred : Int) :
    Valid (h.publish codec generation eventId payload occurred).2 := by
  unfold publish
  split
  · rename_i envelope service hok
    obtain ⟨hsequence, -, hlast, hrows⟩ := publishEvent_ok hok
    have hlast' : (h.service generation).store.lastSequence = h.published.length := hv.last
    have hnext : (rowOf codec envelope).sequence = h.published.length + 1 := by rw [← hlast']; exact hsequence
    obtain ⟨cut, hcut⟩ := hv.kept
    refine ⟨?_, ?_, ⟨min cut (h.published.length + 1), ?_⟩, ?_⟩
    · rw [List.map_append, hv.consecutive, List.length_append, List.length_singleton, List.range'_concat]
      simp [hnext, Nat.add_comm]
    · rw [List.length_append, List.length_singleton, ← hlast']
      exact hlast
    · rw [hrows, retained_append_singleton (by rw [hnext]; exact Nat.min_le_right _ _), retained_min]
      · exact congrArg (· ++ [rowOf codec envelope]) hcut
      · intro row hrow
        rw [← hv.last]
        exact Nat.lt_succ_of_le (hv.bounds hrow).2
    · intro row hrow
      rcases List.mem_append.mp hrow with hrow | hrow
      · exact hv.identities row hrow
      · rw [List.mem_singleton.mp hrow]
        exact ⟨⟨envelope.eventId, rfl⟩, envelope.serviceInstanceId, rfl⟩
  · exact hv

theorem valid_prune (hv : Valid h) (sequence : Nat) :
    Valid (h.prune generation sequence : HistoryAnswer Payload × EventHistory).2 := by
  unfold prune
  split
  · rename_i count service hok
    obtain ⟨hlast, hrows⟩ := pruneBefore_ok hok
    obtain ⟨cut, hcut⟩ := hv.kept
    refine ⟨hv.consecutive, hlast.trans hv.last, ⟨max cut sequence, ?_⟩, hv.identities⟩
    rw [hrows, ← retained_retained]
    exact congrArg _ hcut
  · exact hv

theorem valid_step (hv : Valid h) (call : HistoryCall Payload) : Valid (h.step codec call).2 := by
  cases call with
  | publish generation eventId payload occurred => exact valid_publish hv eventId payload occurred
  | prune generation sequence => exact valid_prune hv sequence

/-- **Every history is valid.** -/
theorem history_valid (codec : EventCodec Payload) (calls : List (HistoryCall Payload)) :
    Valid (final (step codec) initial calls) :=
  final_inv_all (I := Valid) (fun _ call hv => valid_step hv call) valid_initial calls

end EventHistory

end Slotpilot.Daemon
