import Slotpilot.Api.Subscription
import Slotpilot.Storage.Events

/-!
# Event publication and replay

`EventService` publishes validated payloads into the event table and replays them to subscribers in bounded pages. The
payload's validation and its JSON encoding, which the daemon takes from the API crate and serde, are an `EventCodec`.
-/

set_option autoImplicit false

namespace Slotpilot.Daemon

open Lib Domain Storage Api

/-- Validation and JSON text of event payloads, and the texts that SQLite accepts as JSON. -/
structure EventCodec (Payload : Type) where
  validate : Payload → Bool
  toJson : Payload → Option String
  fromJson : String → Option Payload
  jsonValid : String → Bool

/-- Event publication or replay failure. -/
inductive EventProcessorError
  | storage (error : StorageError)
  | invalidPersistedEvent
  | payloadBound
  deriving DecidableEq

/-- Durable event publisher and replay service of one daemon generation. -/
structure EventService where
  store : EventTable
  serviceInstanceId : ServiceInstanceId

namespace EventService

variable {Payload : Type} (codec : EventCodec Payload)

/-- Appends one validated payload. -/
def publishEvent (self : EventService) (eventId : EventId) (payload : Payload) (occurredUtcMillis : Int) :
    Except EventProcessorError (EventEnvelope Payload × EventService) := do
  if codec.validate payload then
    let eventJson ← okOr .invalidPersistedEvent (codec.toJson payload)
    let (sequence, store) ← (self.store.appendEvent codec.jsonValid eventId self.serviceInstanceId eventJson
      occurredUtcMillis).mapError .storage
    pure
      ({ apiVersion := Api.apiVersion, serviceInstanceId := self.serviceInstanceId, sequence, eventId,
         occurredUtcMillis, event := payload },
       { self with store })
  else throw .payloadBound

/-- A stored event as an envelope; its payload must decode. -/
def toEnvelope (apiVersion : Nat) (stored : StoredEvent) : Except EventProcessorError (EventEnvelope Payload) := do
  let event ← okOr .invalidPersistedEvent (codec.fromJson stored.eventJson)
  pure { apiVersion, serviceInstanceId := stored.serviceInstanceId, sequence := stored.sequence,
         eventId := stored.eventId, occurredUtcMillis := stored.occurredUtcMillis, event }

/-- One replay page, or the outcome that the cursor has instead. -/
def subscribe (self : EventService) (request : SubscriptionRequest) :
    Except EventProcessorError (SubscriptionResponse Payload) := do
  let cursor (sequence : Nat) : EventCursor := { serviceInstanceId := self.serviceInstanceId, sequence }
  let outcome (outcome : SubscriptionOutcome Payload) : SubscriptionResponse Payload :=
    { apiVersion := request.apiVersion, outcome }
  if request.apiVersion ∉ supportedApiVersions then pure (outcome (.invalidRequest .incompatibleApiVersion))
  else if request.limit = 0 ∨ request.limit > maxReplayEvents then pure (outcome (.invalidRequest .invalidLimit))
  else
    let requested := request.after.elim self.serviceInstanceId (·.serviceInstanceId)
    if requested ≠ self.serviceInstanceId then
      pure (outcome (.incompatibleGeneration requested self.serviceInstanceId))
    else do
      let requestedSequence := request.after.elim 0 (·.sequence)
      let window ← (self.store.replayEvents self.serviceInstanceId requestedSequence request.limit).mapError .storage
      let gap := window.earliestSequence.filter fun earliest => requestedSequence < earliest - 1
      match gap with
      | some earliest => pure (outcome (.cursorGap (cursor requestedSequence) (cursor earliest)))
      | none =>
        let latest := window.latestSequence.getD 0
        if requestedSequence > latest then
          pure (outcome (.cursorUnavailable (cursor requestedSequence) (cursor latest)))
        else do
          let events ← window.events.mapM (toEnvelope codec request.apiVersion)
          let nextSequence := (events.getLast?.map (·.sequence)).getD requestedSequence
          pure (outcome (.events events (cursor nextSequence) window.hasMore))

/-- Applies the retention boundary. -/
def pruneBefore (self : EventService) (sequence : Nat) : Except EventProcessorError (Nat × EventService) := do
  let (count, store) ← (self.store.pruneEventsBefore sequence).mapError .storage
  pure (count, { self with store })

end EventService

end Slotpilot.Daemon
