import Slotpilot.Domain.Ids
import Slotpilot.Lib.RetainedLog
import Slotpilot.Lib.StateResult

/-!
# The operational event table

The table `operational_events` of the store: rows numbered by an autoincrement key that is never reused, a unique event
identity, and checks of the payload text and the time. SQLite's `json_valid` is the parameter `jsonValid`.
-/

set_option autoImplicit false

namespace Slotpilot.Storage

open Lib Domain

/-- Failure of a store operation. -/
inductive StorageError
  | database
  | invalidIdentity (error : IdError)
  | identityCollision
  | invalidSequence
  | invalidReceiveRecord (reason : String)
  | invalidPersistedReceiveValue (reason : String)
  | invalidPageLimit
  | invalidReceiveEventPayload
  deriving DecidableEq

/-- Row of `operational_events`. -/
structure EventRow where
  sequence : Nat
  eventId : String
  serviceInstanceId : String
  eventJson : String
  occurredUtcMillis : Int
  deriving DecidableEq

/-- The table, its rows in the order of their sequence, with the largest sequence it ever assigned. -/
structure EventTable where
  rows : List EventRow
  lastSequence : Nat
  numbered : Numbered EventRow.sequence rows
  assigned : ∀ row ∈ rows, row.sequence ≤ lastSequence
  fits : lastSequence < 2 ^ 63

/-- Storage-owned representation of one operational event. -/
structure StoredEvent where
  sequence : Nat
  eventId : EventId
  serviceInstanceId : ServiceInstanceId
  eventJson : String
  occurredUtcMillis : Int
  deriving DecidableEq

/-- Bounded retained history of one generation. -/
structure ReplayWindow where
  events : List StoredEvent
  earliestSequence : Option Nat
  latestSequence : Option Nat
  hasMore : Bool
  deriving DecidableEq

/-- A row as an owned event; its identities must parse. -/
def EventRow.toStored (self : EventRow) : Except StorageError StoredEvent := do
  let eventId ← (TypedId.fromStr "evt_" self.eventId).mapError .invalidIdentity
  let serviceInstanceId ← (TypedId.fromStr "svc_" self.serviceInstanceId).mapError .invalidIdentity
  pure { sequence := self.sequence, eventId, serviceInstanceId, eventJson := self.eventJson,
         occurredUtcMillis := self.occurredUtcMillis }

/-- A value as a SQLite integer. -/
def toSqlInteger (value : Nat) : Except StorageError Nat :=
  if value < 2 ^ 63 then .ok value else .error .invalidSequence

@[simp] theorem toSqlInteger_ok {value result : Nat} :
    toSqlInteger value = .ok result ↔ value < 2 ^ 63 ∧ result = value := by
  unfold toSqlInteger
  by_cases h : value < 2 ^ 63
  · rw [if_pos h, Except.ok.injEq]
    exact ⟨fun hr => ⟨h, hr.symm⟩, fun hr => hr.2.symm⟩
  · rw [if_neg h]
    exact ⟨(by simp), fun hr => absurd hr.1 h⟩

namespace EventTable

def empty : EventTable where
  rows := []
  lastSequence := 0
  numbered := .nil
  assigned := by simp
  fits := by decide

/-- Appends one event and returns its sequence. -/
def appendEvent (jsonValid : String → Bool) (self : EventTable) (eventId : EventId)
    (serviceInstanceId : ServiceInstanceId) (eventJson : String) (occurredUtcMillis : Int) :
    Except StorageError (Nat × EventTable) :=
  if self.rows.any (·.eventId = eventId.text) ∨ jsonValid eventJson = false ∨ occurredUtcMillis < 0 then .error .database
  else if h : self.lastSequence + 1 < 2 ^ 63 then
    let row : EventRow :=
      { sequence := self.lastSequence + 1, eventId := eventId.text, serviceInstanceId := serviceInstanceId.text,
        eventJson, occurredUtcMillis }
    .ok (self.lastSequence + 1,
      { rows := self.rows ++ [row]
        lastSequence := self.lastSequence + 1
        numbered := self.numbered.append_singleton fun r hr => Nat.lt_succ_of_le (self.assigned r hr)
        assigned := fun r hr => (List.mem_append.mp hr).elim (fun hr => Nat.le_succ_of_le (self.assigned r hr))
          (fun hr => Nat.le_of_eq (congrArg EventRow.sequence (List.mem_singleton.mp hr)))
        fits := h })
  else .error .database

/-- The rows of one generation. -/
def ofInstance (self : EventTable) (serviceInstanceId : ServiceInstanceId) : List EventRow :=
  self.rows.filter (·.serviceInstanceId = serviceInstanceId.text)

/-- Reads at most `limit` ordered events after a cursor for one generation. -/
def replayEvents (self : EventTable) (serviceInstanceId : ServiceInstanceId) (afterSequence limit : Nat) :
    Except StorageError ReplayWindow := do
  let own := self.ofInstance serviceInstanceId
  let earliestSequence := (own.map (·.sequence)).min?
  let latestSequence := (own.map (·.sequence)).max?
  let afterSequence ← toSqlInteger afterSequence
  let fetchLimit ← toSqlInteger (limit + 1)
  let events ← (page EventRow.sequence fetchLimit afterSequence own).mapM EventRow.toStored
  pure { events := events.take limit, earliestSequence, latestSequence, hasMore := events.length > limit }

/-- Deletes the events older than a sequence and returns their number. -/
def pruneEventsBefore (self : EventTable) (firstRetainedSequence : Nat) : Except StorageError (Nat × EventTable) := do
  let firstRetainedSequence ← toSqlInteger firstRetainedSequence
  let kept := retained EventRow.sequence firstRetainedSequence self.rows
  pure (self.rows.length - kept.length,
    { self with
      rows := kept
      numbered := self.numbered.filter _
      assigned := fun r hr => self.assigned r (mem_retained.mp hr).1 })

end EventTable

end Slotpilot.Storage
