import Slotpilot.Api.Receive
import Slotpilot.Api.Subscription
import Slotpilot.Lib.StateResult

/-!
# Command and response contract

Versioned commands with their class and their canonical bytes, responses with typed results and errors, and the read-only
service that answers without a journal. The bytes of serde are the parameter `toVec`.
-/

set_option autoImplicit false

namespace Slotpilot.Api

open Lib Domain

/-- Maximum versions in a negotiation request. -/
def maxNegotiationVersions : Nat := 16

/-! ## Commands -/

inductive Command
  | getCapabilities (supportedVersions : List Nat)
  | getSnapshot
  | noopMutation (marker : String)
  | listInputDevices
  | receiveStart (selection : ReceiveSelection)
  | receiveStop
  | getReceiveStatus
  | queryReceiveHistory (afterSequence : UInt64) (limit : UInt16)
  deriving DecidableEq

/-- A bounded command of a client. -/
structure CommandEnvelope where
  apiVersion : Nat
  requestId : RequestId
  command : Command
  deriving DecidableEq

/-- Whether a command is evaluated afresh or journaled. -/
inductive CommandClass
  | readOnly
  | mutating
  deriving DecidableEq

inductive CanonicalizationError
  | markerTooLong
  | invalidReceiveCommand
  | serialization
  deriving DecidableEq

namespace Command

/-- Named `class` in the source. -/
def commandClass : Command → CommandClass
  | .getCapabilities _ | .getSnapshot | .listInputDevices | .getReceiveStatus | .queryReceiveHistory .. => .readOnly
  | .noopMutation _ | .receiveStart _ | .receiveStop => .mutating

/-- The bounds of a command that has a canonical identity. -/
def checkBounds : Command → Except CanonicalizationError Unit
  | .noopMutation marker => if marker.utf8ByteSize > 128 then .error .markerTooLong else .ok ()
  | .receiveStart selection => if selection.inBounds then .ok () else .error .invalidReceiveCommand
  | .queryReceiveHistory _ limit =>
    if limit = 0 ∨ limit.toNat > maxReceiveHistoryPage then .error .invalidReceiveCommand else .ok ()
  | _ => .ok ()

/-- Deterministic byte identity of a command. -/
def canonicalBytes (toVec : Command → Option (List UInt8)) (self : Command) :
    Except CanonicalizationError (List UInt8) := do
  self.checkBounds
  okOr .serialization (toVec self)

end Command

/-! ## Responses -/

inductive Availability
  | available
  | unavailable
  deriving DecidableEq

/-- Negotiated capabilities. -/
structure Capabilities where
  negotiatedVersion : Nat
  supportedVersions : List Nat
  serviceInstanceId : ServiceInstanceId
  stationControl : Availability
  receiveInput : Option Availability
  transmitAuthority : Availability
  deriving DecidableEq

inductive ConfigurationState
  | notConfigured
  deriving DecidableEq

inductive OperationState
  | notRunning
  deriving DecidableEq

/-- Bounded station snapshot. -/
structure StationSnapshot where
  serviceInstanceId : ServiceInstanceId
  eventCursor : EventCursor
  configuration : ConfigurationState
  operation : OperationState
  receive : Option ReceiveStatus
  transmitAuthority : Availability
  deriving DecidableEq

/-- Successful results. -/
inductive ResultBody
  | capabilities (value : Capabilities)
  | snapshot (value : StationSnapshot)
  | noopMutationAccepted (marker : String)
  | inputDevices (value : InputDevicePage)
  | receiveStarted (value : ReceiveLifecycleSnapshot)
  | receiveStopped (value : ReceiveLifecycleSnapshot)
  | receiveStatus (value : ReceiveStatus)
  | receiveHistory (value : ReceiveHistoryPage)
  deriving DecidableEq

/-- Stable symbolic error codes. -/
inductive ErrorCode
  | incompatibleApiVersion
  | negotiationTooLarge
  | requestIdConflict
  | requestJournalRequired
  | commandUnavailableInVersion
  | receiveUnavailable
  | receiveInhibited
  | invalidReceiveRequest
  deriving DecidableEq

def ErrorCode.asStr : ErrorCode → String
  | .incompatibleApiVersion => "incompatible_api_version"
  | .negotiationTooLarge => "negotiation_too_large"
  | .requestIdConflict => "request_id_conflict"
  | .requestJournalRequired => "request_journal_required"
  | .commandUnavailableInVersion => "command_unavailable_in_version"
  | .receiveUnavailable => "receive_unavailable"
  | .receiveInhibited => "receive_inhibited"
  | .invalidReceiveRequest => "invalid_receive_request"

/-- Structured details of an error. -/
inductive ErrorDetails
  | versionMismatch (requestedVersion : Nat) (supportedVersions : List Nat)
  | negotiationLimit (maximumVersions receivedVersions : Nat)
  | requestConflict
  | journalRequired
  | commandVersion (minimumVersion : Nat)
  | receive (reason : ReceiveInhibitionKind)
  | receiveRequest
  deriving DecidableEq

/-- Service error; `retryable` says whether retrying the same request without changes may succeed. -/
structure ApiError where
  code : ErrorCode
  message : String
  retryable : Bool
  details : ErrorDetails
  deriving DecidableEq

inductive ResponseOutcome
  | success (body : ResultBody)
  | error (error : ApiError)
  deriving DecidableEq

/-- A response correlated to its request. -/
structure ResponseEnvelope where
  apiVersion : Nat
  requestId : RequestId
  outcome : ResponseOutcome
  deriving DecidableEq

def ResponseOutcome.isSuccess : ResponseOutcome → Bool
  | .success _ => true
  | .error _ => false

/-- The outcome is an error marked retryable. -/
def ResponseOutcome.isRetryable : ResponseOutcome → Bool
  | .success _ => false
  | .error fault => fault.retryable

/-- The outcome is the error for a reused request identity. -/
def ResponseOutcome.isConflict : ResponseOutcome → Bool
  | .success _ => false
  | .error fault => fault.code = .requestIdConflict

/-! ## The service without a journal -/

/-- An error response in the current version. -/
def errorResponse (requestId : RequestId) (code : ErrorCode) (message : String) (details : ErrorDetails) :
    ResponseEnvelope :=
  { apiVersion, requestId, outcome := .error { code, message, retryable := false, details } }

/-- Service that answers without persistence or station access. -/
structure NoopService where
  instanceId : ServiceInstanceId
  deriving DecidableEq

namespace NoopService

/-- The first of the client's versions that the service supports. -/
def capabilities (self : NoopService) (requestedVersion : Nat) (supported : List Nat) : ResponseOutcome :=
  if supported.length > maxNegotiationVersions then
    .error
      { code := .negotiationTooLarge
        message := "version negotiation request exceeds the supported bound"
        retryable := false
        details := .negotiationLimit maxNegotiationVersions supported.length }
  else
    match supported.find? (· ∈ supportedApiVersions) with
    | some negotiatedVersion =>
      .success (.capabilities
        { negotiatedVersion
          supportedVersions := supportedApiVersions
          serviceInstanceId := self.instanceId
          stationControl := .unavailable
          receiveInput := if negotiatedVersion ≥ apiVersion then some .unavailable else none
          transmitAuthority := .unavailable })
    | none =>
      .error
        { code := .incompatibleApiVersion
          message := "client and service API versions are incompatible"
          retryable := false
          details := .versionMismatch requestedVersion supportedApiVersions }

/-- Executes one bounded command. -/
def execute (self : NoopService) (envelope : CommandEnvelope) : ResponseEnvelope :=
  if envelope.apiVersion ∉ supportedApiVersions then
    errorResponse envelope.requestId .incompatibleApiVersion "client and service API versions are incompatible"
      (.versionMismatch envelope.apiVersion supportedApiVersions)
  else
    let outcome : ResponseOutcome :=
      match envelope.command with
      | .getCapabilities supported => self.capabilities envelope.apiVersion supported
      | .getSnapshot =>
        .success (.snapshot
          { serviceInstanceId := self.instanceId
            eventCursor := { serviceInstanceId := self.instanceId, sequence := 0 }
            configuration := .notConfigured
            operation := .notRunning
            receive := if envelope.apiVersion ≥ apiVersion then some .stopped else none
            transmitAuthority := .unavailable })
      | .noopMutation _ =>
        .error
          { code := .requestJournalRequired
            message := "mutating commands require the durable request journal"
            retryable := false
            details := .journalRequired }
      | .listInputDevices | .receiveStart _ | .receiveStop | .getReceiveStatus | .queryReceiveHistory .. =>
        .error
          { code := if envelope.apiVersion < apiVersion then .commandUnavailableInVersion else .receiveUnavailable
            message := "receive commands require the daemon receive service"
            retryable := false
            details :=
              if envelope.apiVersion < apiVersion then .commandVersion apiVersion
              else .receive .serviceUnavailable }
    { apiVersion := envelope.apiVersion, requestId := envelope.requestId, outcome }

end NoopService

end Slotpilot.Api
