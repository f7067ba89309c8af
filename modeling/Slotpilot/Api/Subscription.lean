import Slotpilot.Domain.Ids

/-!
# Event subscription contract

Cursors, envelopes, requests and outcomes of event replay. The event payload is the type `Payload`.
-/

set_option autoImplicit false

namespace Slotpilot.Api

open Domain

def apiVersion : Nat := 2
def legacyApiVersion : Nat := 1
/-- Service-supported versions, in order. -/
def supportedApiVersions : List Nat := [apiVersion, legacyApiVersion]
/-- Maximum events returned by one replay exchange. -/
def maxReplayEvents : Nat := 256

/-- Position in one daemon event generation; the sequence is the last event already observed. -/
structure EventCursor where
  serviceInstanceId : ServiceInstanceId
  sequence : Nat
  deriving DecidableEq

/-- One ordered, versioned daemon event. -/
structure EventEnvelope (Payload : Type) where
  apiVersion : Nat
  serviceInstanceId : ServiceInstanceId
  sequence : Nat
  eventId : EventId
  occurredUtcMillis : Int
  event : Payload
  deriving DecidableEq

/-- One bounded replay request. -/
structure SubscriptionRequest where
  apiVersion : Nat
  after : Option EventCursor
  limit : Nat
  deriving DecidableEq

/-- Why a replay request is invalid. -/
inductive SubscriptionInvalidReason
  | incompatibleApiVersion
  | invalidLimit
  deriving DecidableEq

/-- Replay outcomes. -/
inductive SubscriptionOutcome (Payload : Type)
  | events (events : List (EventEnvelope Payload)) (nextCursor : EventCursor) (hasMore : Bool)
  | cursorGap (requested earliestAvailable : EventCursor)
  | cursorUnavailable (requested latestAvailable : EventCursor)
  | incompatibleGeneration (requestedServiceInstanceId currentServiceInstanceId : ServiceInstanceId)
  | invalidRequest (reason : SubscriptionInvalidReason)
  deriving DecidableEq

/-- One bounded replay response. -/
structure SubscriptionResponse (Payload : Type) where
  apiVersion : Nat
  outcome : SubscriptionOutcome Payload
  deriving DecidableEq

end Slotpilot.Api
