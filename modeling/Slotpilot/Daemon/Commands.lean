import Slotpilot.Api.Commands
import Slotpilot.Storage.Commands

/-!
# Command processors with a durable request journal

`CommandProcessor` and `ReceiveApiProcessor` answer read-only commands directly. They journal a mutating command: the
receive processor looks the request up, calls its port, and accepts the response or the one that is there already.

The journal is the shared table of accepted commands, so the processors' methods read and return it. The bytes of serde are
a `CommandCodec`, and the port is a class of the source, whose methods return a result and the value after them.
-/

set_option autoImplicit false

namespace Slotpilot.Daemon

open Lib Domain Storage Api

/-- Bytes of commands and responses. -/
structure CommandCodec where
  commandToVec : Command → Option (List UInt8)
  responseToVec : ResponseEnvelope → Option (List UInt8)
  responseFromSlice : List UInt8 → Option ResponseEnvelope

/-- A codec of one response. -/
def CommandCodec.single (commandToVec : Command → Option (List UInt8)) (original : ResponseEnvelope)
    (bytes : List UInt8) : CommandCodec where
  commandToVec
  responseToVec response := if response = original then some bytes else none
  responseFromSlice read := if read = bytes then some original else none

/-- Failure before a bounded response could be produced. -/
inductive ProcessorError
  | canonicalization (error : CanonicalizationError)
  | storage (error : StorageError)
  | invalidPersistedResult
  deriving DecidableEq

/-! ## The port -/

/-- Failure of the receive service. -/
inductive ReceiveApiFault
  | deviceUnavailable
  | inhibited (reason : ReceiveInhibitionKind)
  | invalidRequest
  | storageUnavailable
  deriving DecidableEq

/-- The derived debug text of a category. -/
def debugName : ReceiveInhibitionKind → String
  | .serviceUnavailable => "ServiceUnavailable"
  | .deviceUnavailable => "DeviceUnavailable"
  | .overflow => "Overflow"
  | .discontinuity => "Discontinuity"
  | .clockUnhealthy => "ClockUnhealthy"
  | .timelineInvalid => "TimelineInvalid"
  | .decoderFailed => "DecoderFailed"
  | .storageFailed => "StorageFailed"
  | .cancelled => "Cancelled"

def ReceiveApiFault.toText : ReceiveApiFault → String
  | .deviceUnavailable => "receive device is unavailable"
  | .inhibited reason => "receive is inhibited: " ++ debugName reason
  | .invalidRequest => "receive request is invalid"
  | .storageUnavailable => "receive storage is unavailable"

/-- The receive service of a processor. -/
class ReceiveApiPort (P : Type) where
  inputDevices : P → Except ReceiveApiFault InputDevicePage × P
  status : P → Except ReceiveApiFault ReceiveStatus × P
  start : P → RequestId → Api.ReceiveSelection → Except ReceiveApiFault ReceiveStatus × P
  stop : P → RequestId → Except ReceiveApiFault ReceiveStatus × P
  history : P → UInt64 → UInt16 → Except ReceiveApiFault ReceiveHistoryPage × P

/-- A fault as an error response. -/
def apiFaultOutcome (fault : ReceiveApiFault) : ResponseOutcome :=
  let (code, reason, retryable) : ErrorCode × ReceiveInhibitionKind × Bool :=
    match fault with
    | .deviceUnavailable => (.receiveUnavailable, .deviceUnavailable, true)
    | .inhibited reason => (.receiveInhibited, reason, false)
    | .invalidRequest => (.invalidReceiveRequest, .serviceUnavailable, false)
    | .storageUnavailable => (.receiveUnavailable, .storageFailed, true)
  .error { code, message := fault.toText, retryable, details := .receive reason }

def invalidRequestOutcome : ResponseOutcome :=
  .error
    { code := .invalidReceiveRequest
      message := "receive request violates a documented bound"
      retryable := false
      details := .receiveRequest }

/-- An error whose message is its code in words. -/
def apiError (apiVersion : Nat) (requestId : RequestId) (code : ErrorCode) (details : ErrorDetails) :
    ResponseEnvelope :=
  let message := String.ofList (code.asStr.toList.map fun c => if c = '_' then ' ' else c)
  { apiVersion, requestId, outcome := .error { code, message, retryable := false, details } }

def isReceiveCommand : Command → Bool
  | .listInputDevices | .receiveStart _ | .receiveStop | .getReceiveStatus | .queryReceiveHistory .. => true
  | _ => false

/-! ## The journal -/

variable (codec : CommandCodec)

/-- The answer to a request that is journaled already. -/
def replay (canonical : List UInt8) (existing : AcceptedCommand) (conflict : ResponseEnvelope) :
    Except ProcessorError ResponseEnvelope :=
  if existing.canonicalCommand = canonical then
    okOr .invalidPersistedResult (codec.responseFromSlice existing.originalResult)
  else .ok conflict

/-- The journal entry of a request. -/
def acceptedFor (requestId : RequestId) (canonical originalResult : List UInt8) (acceptedUtcMillis : Int) :
    AcceptedCommand :=
  { requestId, commandId := .forRequest requestId, canonicalCommand := canonical, originalResult, acceptedUtcMillis }

/-- Journals a response, or answers with the one that is there already. -/
def acceptResponse (journal : CommandTable) (requestId : RequestId) (canonical : List UInt8)
    (response conflict : ResponseEnvelope) (acceptedUtcMillis : Int) :
    Except ProcessorError ResponseEnvelope × CommandTable :=
  match codec.responseToVec response with
  | none => (.error .invalidPersistedResult, journal)
  | some originalResult =>
    match journal.acceptOrExisting (acceptedFor requestId canonical originalResult acceptedUtcMillis) with
    | .error error => (.error (.storage error), journal)
    | .ok (.inserted _, after) => (.ok response, after)
    | .ok (.existing existing, after) => (replay codec canonical existing conflict, after)

section Accept

variable {codec} {journal : CommandTable} {requestId : RequestId} {canonical : List UInt8}
  {response conflict answer : ResponseEnvelope} {acceptedUtcMillis : Int}

/-- An accept journals its response, or answers from the entry of the request. -/
theorem acceptResponse_ok
    (h : (acceptResponse codec journal requestId canonical response conflict acceptedUtcMillis).1 = .ok answer) :
    (answer = response ∧ ∃ result, codec.responseToVec response = some result ∧
      journal.Admits (acceptedFor requestId canonical result acceptedUtcMillis).toRow ∧
      (acceptResponse codec journal requestId canonical response conflict acceptedUtcMillis).2.acceptedCommand requestId =
        .ok (some (acceptedFor requestId canonical result acceptedUtcMillis))) ∨
    ∃ existing, journal.acceptedCommand requestId = .ok (some existing) ∧
      (acceptResponse codec journal requestId canonical response conflict acceptedUtcMillis).2 = journal ∧
      replay codec canonical existing conflict = .ok answer := by
  unfold acceptResponse at h ⊢
  cases hresult : codec.responseToVec response with
  | none => simp [hresult] at h
  | some result =>
    simp only [hresult] at h ⊢
    cases haccept : journal.acceptOrExisting (acceptedFor requestId canonical result acceptedUtcMillis) with
    | error error => simp [haccept] at h
    | ok accepted =>
      simp only [haccept] at h ⊢
      obtain ⟨outcome, after⟩ := accepted
      rcases CommandTable.acceptOrExisting_ok haccept with ⟨rfl, hadmits, hentry⟩ | ⟨existing, rfl, rfl, hentry⟩
      · exact .inl ⟨(Except.ok.inj h).symm, result, rfl, hadmits, hentry⟩
      · exact .inr ⟨existing, hentry, rfl, h⟩

/-- An accept keeps the entry of every request. -/
theorem acceptResponse_keeps {other : RequestId} {entry : AcceptedCommand}
    (hentry : journal.acceptedCommand other = .ok (some entry)) :
    (acceptResponse codec journal requestId canonical response conflict acceptedUtcMillis).2.acceptedCommand other =
      .ok (some entry) := by
  unfold acceptResponse
  cases codec.responseToVec response with
  | none => exact hentry
  | some result =>
    cases haccept : journal.acceptOrExisting (acceptedFor requestId canonical result acceptedUtcMillis) with
    | error error => simpa only [haccept] using hentry
    | ok accepted =>
      obtain ⟨_ | _, after⟩ := accepted
      all_goals
        have hkeeps := CommandTable.acceptOrExisting_keeps haccept hentry
        simpa only [haccept] using hkeeps

/-- Where the constraints admit its entry, an accept journals its response. -/
theorem acceptResponse_admitted {result : List UInt8} (hresult : codec.responseToVec response = some result)
    (hadmits : journal.Admits (acceptedFor requestId canonical result acceptedUtcMillis).toRow) :
    acceptResponse codec journal requestId canonical response conflict acceptedUtcMillis =
      (.ok response, journal.push _ hadmits) := by
  simp only [acceptResponse, hresult, CommandTable.acceptOrExisting, dif_pos hadmits]

/-- Where the constraints admit its entry no more and no entry of the request is there, an accept fails. -/
theorem acceptResponse_refused {result : List UInt8} (hresult : codec.responseToVec response = some result)
    (hrefused : ¬journal.Admits (acceptedFor requestId canonical result acceptedUtcMillis).toRow)
    (hnone : journal.acceptedCommand requestId = .ok none) :
    acceptResponse codec journal requestId canonical response conflict acceptedUtcMillis =
      (.error (.storage .identityCollision), journal) := by
  have hfound : journal.acceptedCommand (acceptedFor requestId canonical result acceptedUtcMillis).requestId = .ok none :=
    hnone
  simp only [acceptResponse, hresult, CommandTable.acceptOrExisting, dif_neg hrefused, hfound]
  rfl

end Accept

/-! ## The receive processor -/

namespace ReceiveApiProcessor

def conflictFor (envelope : CommandEnvelope) : ResponseEnvelope :=
  apiError envelope.apiVersion envelope.requestId .requestIdConflict .requestConflict

/-- The first step of a mutating request: its answer when it is journaled. -/
def lookUp (journal : CommandTable) (envelope : CommandEnvelope) (canonical : List UInt8) :
    Option (Except ProcessorError ResponseEnvelope) :=
  match journal.acceptedCommand envelope.requestId with
  | .error error => some (.error (.storage error))
  | .ok (some existing) => some (replay codec canonical existing (conflictFor envelope))
  | .ok none => none

/-- The outcome of a result of the port. -/
def outcomeOf {α : Type} (body : α → ResultBody) : Except ReceiveApiFault α → ResponseOutcome
  | .ok value => .success (body value)
  | .error fault => apiFaultOutcome fault

variable {P : Type} [ReceiveApiPort P]

/-- The second step: evaluates the command through the port. The class of the command is mutating. -/
def operate (port : P) (envelope : CommandEnvelope) : ResponseOutcome × P :=
  match envelope.command with
  | .noopMutation marker => (.success (.noopMutationAccepted marker), port)
  | .receiveStart selection =>
    let (result, port) := ReceiveApiPort.start port envelope.requestId selection
    (outcomeOf (fun status => .receiveStarted status.lifecycle) result, port)
  | .receiveStop =>
    let (result, port) := ReceiveApiPort.stop port envelope.requestId
    (outcomeOf (fun status => .receiveStopped status.lifecycle) result, port)
  | _ => (invalidRequestOutcome, port)

/-- The last step: journals the response. -/
def finish (journal : CommandTable) (envelope : CommandEnvelope) (canonical : List UInt8) (outcome : ResponseOutcome)
    (acceptedUtcMillis : Int) : Except ProcessorError ResponseEnvelope × CommandTable :=
  acceptResponse codec journal envelope.requestId canonical
    { apiVersion := envelope.apiVersion, requestId := envelope.requestId, outcome } (conflictFor envelope)
    acceptedUtcMillis

/-- A mutating command: look up, evaluate, accept. -/
def executeMutating (journal : CommandTable) (port : P) (envelope : CommandEnvelope) (acceptedUtcMillis : Int) :
    Except ProcessorError ResponseEnvelope × CommandTable × P :=
  match envelope.command.canonicalBytes codec.commandToVec with
  | .error _ =>
    (.ok { apiVersion := envelope.apiVersion, requestId := envelope.requestId, outcome := invalidRequestOutcome },
      journal, port)
  | .ok canonical =>
    match lookUp codec journal envelope canonical with
    | some result => (result, journal, port)
    | none =>
      let (outcome, port) := operate port envelope
      let (result, journal) := finish codec journal envelope canonical outcome acceptedUtcMillis
      (result, journal, port)

/-- A result that must meet its wire bounds. -/
def checked {α : Type} (validate : α → Except WireBoundError Unit) (result : Except ReceiveApiFault α) :
    Except ReceiveApiFault α := do
  let value ← result
  (validate value).mapError fun _ => ReceiveApiFault.invalidRequest
  pure value

/-- A read-only command. -/
def executeReadOnly (serviceInstanceId : ServiceInstanceId) (port : P) (envelope : CommandEnvelope) :
    ResponseEnvelope × P :=
  let respond (outcome : ResponseOutcome) : ResponseEnvelope :=
    { apiVersion := envelope.apiVersion, requestId := envelope.requestId, outcome }
  match envelope.command with
  | .getCapabilities supported =>
    let base := NoopService.execute ⟨serviceInstanceId⟩ { envelope with command := .getCapabilities supported }
    match base.outcome with
    | .success (.capabilities capabilities) =>
      (respond (.success (.capabilities { capabilities with receiveInput := some .available })), port)
    | other => (respond other, port)
  | .getSnapshot =>
    let (result, port) := ReceiveApiPort.status port
    (respond (outcomeOf (fun receive => .snapshot
      { serviceInstanceId, eventCursor := { serviceInstanceId, sequence := 0 }, configuration := .notConfigured,
        operation := .notRunning, receive := some receive, transmitAuthority := .unavailable }) result), port)
  | .listInputDevices =>
    let (result, port) := ReceiveApiPort.inputDevices port
    (respond (outcomeOf .inputDevices (checked InputDevicePage.validate result)), port)
  | .getReceiveStatus =>
    let (result, port) := ReceiveApiPort.status port
    (respond (outcomeOf .receiveStatus result), port)
  | .queryReceiveHistory afterSequence limit =>
    match envelope.command.canonicalBytes codec.commandToVec with
    | .error _ => (respond invalidRequestOutcome, port)
    | .ok _ =>
      let (result, port) := ReceiveApiPort.history port afterSequence limit
      (respond (outcomeOf .receiveHistory (checked ReceiveHistoryPage.validate result)), port)
  | .noopMutation _ | .receiveStart _ | .receiveStop => (respond invalidRequestOutcome, port)

/-- The answer that the version of a request has before its command is looked at. -/
def versionAnswer (serviceInstanceId : ServiceInstanceId) (envelope : CommandEnvelope) : Option ResponseEnvelope :=
  if envelope.apiVersion ≠ apiVersion ∧ envelope.apiVersion ≠ legacyApiVersion then
    some (NoopService.execute ⟨serviceInstanceId⟩ envelope)
  else if envelope.apiVersion = legacyApiVersion ∧ isReceiveCommand envelope.command = true then
    some (apiError envelope.apiVersion envelope.requestId .commandUnavailableInVersion (.commandVersion apiVersion))
  else none

/-- Executes one versioned command. -/
def execute (serviceInstanceId : ServiceInstanceId) (journal : CommandTable) (port : P) (envelope : CommandEnvelope)
    (acceptedUtcMillis : Int) : Except ProcessorError ResponseEnvelope × CommandTable × P :=
  match versionAnswer serviceInstanceId envelope with
  | some response => (.ok response, journal, port)
  | none =>
    match envelope.command.commandClass with
    | .readOnly =>
      let (response, port) := executeReadOnly codec serviceInstanceId port envelope
      (.ok response, journal, port)
    | .mutating => executeMutating codec journal port envelope acceptedUtcMillis

section Execution

variable {codec} {serviceInstanceId : ServiceInstanceId} {journal : CommandTable} {port : P} {envelope : CommandEnvelope}
  {acceptedUtcMillis : Int} {canonical : List UInt8}

/-- A journaled command is answered from the journal. -/
theorem execute_journaled {existing : AcceptedCommand} (hversion : versionAnswer serviceInstanceId envelope = none)
    (hmutating : envelope.command.commandClass = .mutating)
    (hcanonical : envelope.command.canonicalBytes codec.commandToVec = .ok canonical)
    (hexisting : journal.acceptedCommand envelope.requestId = .ok (some existing)) :
    execute codec serviceInstanceId journal port envelope acceptedUtcMillis =
      (replay codec canonical existing (conflictFor envelope), journal, port) := by
  simp only [execute, hversion, hmutating, executeMutating, hcanonical, lookUp, hexisting]

/-- A command that is not journaled is evaluated and its response is accepted. -/
theorem execute_unjournaled (hversion : versionAnswer serviceInstanceId envelope = none)
    (hmutating : envelope.command.commandClass = .mutating)
    (hcanonical : envelope.command.canonicalBytes codec.commandToVec = .ok canonical)
    (hnone : journal.acceptedCommand envelope.requestId = .ok none) :
    execute codec serviceInstanceId journal port envelope acceptedUtcMillis =
      ((finish codec journal envelope canonical (operate port envelope).1 acceptedUtcMillis).1,
        (finish codec journal envelope canonical (operate port envelope).1 acceptedUtcMillis).2,
        (operate port envelope).2) := by
  simp only [execute, hversion, hmutating, executeMutating, hcanonical, lookUp, hnone]

end Execution

end ReceiveApiProcessor

/-! ## The processor without a receive service -/

namespace CommandProcessor

def conflictResponse (requestId : RequestId) : ResponseEnvelope :=
  { apiVersion, requestId
    outcome := .error
      { code := .requestIdConflict
        message := "request ID was already accepted for a different command"
        retryable := false
        details := .requestConflict } }

/-- The response that a journaled command gets. -/
def acceptedResponse (requestId : RequestId) (marker : String) : ResponseEnvelope :=
  { apiVersion, requestId, outcome := .success (.noopMutationAccepted marker) }

/-- Executes one command. -/
def execute (service : NoopService) (store : CommandTable) (envelope : CommandEnvelope) (acceptedUtcMillis : Int) :
    Except ProcessorError ResponseEnvelope × CommandTable :=
  if envelope.apiVersion ≠ apiVersion ∨ envelope.command.commandClass = .readOnly then
    (.ok (service.execute envelope), store)
  else
    match envelope.command.canonicalBytes codec.commandToVec with
    | .error error => (.error (.canonicalization error), store)
    | .ok canonical =>
      match envelope.command with
      | .noopMutation marker =>
        acceptResponse codec store envelope.requestId canonical (acceptedResponse envelope.requestId marker)
          (conflictResponse envelope.requestId) acceptedUtcMillis
      | _ => (.ok (service.execute envelope), store)

end CommandProcessor

end Slotpilot.Daemon
