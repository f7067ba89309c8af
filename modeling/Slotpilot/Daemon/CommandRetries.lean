import Slotpilot.Daemon.Commands

/-!
# Retries of retryable errors

An error marked retryable says that the same request may succeed later. The receive processor journals every outcome of a
mutating command, so such an error is stored and replayed.

* `RetriesReach`: after a retryable answer the same request is evaluated by the port again;
* `Pinned`: the requests whose answer is a retryable error, in terms of the journal and of the port's answer;
* `retries_reach_iff`: the requests that meet the one are those that do not meet the other.
-/

set_option autoImplicit false

namespace Slotpilot.Daemon

open Lib Domain Storage Api

/-- The faults that are marked retryable. -/
def ReceiveApiFault.retryable : ReceiveApiFault → Bool
  | .deviceUnavailable | .storageUnavailable => true
  | .inhibited _ | .invalidRequest => false

namespace ReceiveApiProcessor

/-! ## Evaluations by the port -/

/-- A port with the requests it was started or stopped for. -/
structure RecordedPort (P : Type) where
  port : P
  evaluated : List RequestId

section Recorded

variable {P : Type} [ReceiveApiPort P]

instance : ReceiveApiPort (RecordedPort P) where
  inputDevices self :=
    let (result, port) := ReceiveApiPort.inputDevices self.port
    (result, { self with port })
  status self :=
    let (result, port) := ReceiveApiPort.status self.port
    (result, { self with port })
  start self requestId selection :=
    let (result, port) := ReceiveApiPort.start self.port requestId selection
    (result, { port, evaluated := self.evaluated ++ [requestId] })
  stop self requestId :=
    let (result, port) := ReceiveApiPort.stop self.port requestId
    (result, { port, evaluated := self.evaluated ++ [requestId] })
  history self afterSequence limit :=
    let (result, port) := ReceiveApiPort.history self.port afterSequence limit
    (result, { self with port })

end Recorded

variable {P : Type} [ReceiveApiPort P] {codec : CommandCodec} {serviceInstanceId : ServiceInstanceId}
  {journal : CommandTable} {port : P} {envelope : CommandEnvelope} {acceptedUtcMillis : Int}

/-- **Retryable means retryable**: after a retryable answer the same request is evaluated by the port again. -/
def RetriesReach (codec : CommandCodec) (serviceInstanceId : ServiceInstanceId) (journal : CommandTable) (port : P)
    (envelope : CommandEnvelope) (acceptedUtcMillis : Int) : Prop :=
  ∀ response (after : CommandTable) (portAfter : RecordedPort P),
    execute codec serviceInstanceId journal (RecordedPort.mk port []) envelope acceptedUtcMillis =
      (.ok response, after, portAfter) →
    response.outcome.isRetryable = true →
    ∀ retriedUtcMillis,
      portAfter.evaluated.length <
        (execute codec serviceInstanceId after portAfter envelope retriedUtcMillis).2.2.evaluated.length

/-- The result of the port for a mutating command. -/
def portResult (port : P) (envelope : CommandEnvelope) : Option (Except ReceiveApiFault ReceiveStatus) :=
  match envelope.command with
  | .receiveStart selection => some (ReceiveApiPort.start port envelope.requestId selection).1
  | .receiveStop => some (ReceiveApiPort.stop port envelope.requestId).1
  | _ => none

/-- The journal answers the command with a retryable error. -/
def StoredRetryable (codec : CommandCodec) (journal : CommandTable) (requestId : RequestId) (canonical : List UInt8) :
    Prop :=
  ∃ existing response, journal.acceptedCommand requestId = .ok (some existing) ∧
    existing.canonicalCommand = canonical ∧ codec.responseFromSlice existing.originalResult = some response ∧
    response.outcome.isRetryable = true

/-- The request is not journaled, the port answers it with a retryable fault, and the answer can be journaled. -/
def FreshRetryable (codec : CommandCodec) (journal : CommandTable) (port : P) (envelope : CommandEnvelope)
    (acceptedUtcMillis : Int) : Prop :=
  journal.acceptedCommand envelope.requestId = .ok none ∧ 0 ≤ acceptedUtcMillis ∧
    (∀ row ∈ journal.rows, row.commandId ≠ (CommandId.forRequest envelope.requestId).text) ∧
    ∃ fault, portResult port envelope = some (.error fault) ∧ fault.retryable = true ∧
      (codec.responseToVec
        { apiVersion := envelope.apiVersion, requestId := envelope.requestId, outcome := apiFaultOutcome fault }).isSome

/-- The request reaches the journal and its answer is a retryable error, stored already or now. -/
def Pinned (codec : CommandCodec) (serviceInstanceId : ServiceInstanceId) (journal : CommandTable) (port : P)
    (envelope : CommandEnvelope) (acceptedUtcMillis : Int) : Prop :=
  versionAnswer serviceInstanceId envelope = none ∧
    ∃ canonical, envelope.command.canonicalBytes codec.commandToVec = .ok canonical ∧
      (StoredRetryable codec journal envelope.requestId canonical ∨
        FreshRetryable codec journal port envelope acceptedUtcMillis)

/-! ## Answers marked retryable -/

theorem noop_not_retryable (service : NoopService) (envelope : CommandEnvelope) :
    (service.execute envelope).outcome.isRetryable = false := by
  unfold NoopService.execute
  split
  · rfl
  · cases envelope.command with
    | getCapabilities supported =>
      show (service.capabilities _ supported).isRetryable = false
      unfold NoopService.capabilities
      split
      · rfl
      · split <;> rfl
    | _ => rfl

theorem versionAnswer_not_retryable {response : ResponseEnvelope}
    (h : versionAnswer serviceInstanceId envelope = some response) : response.outcome.isRetryable = false := by
  unfold versionAnswer at h
  split at h
  · cases h
    exact noop_not_retryable _ _
  · split at h
    · cases h
      rfl
    · cases h

@[simp] theorem apiFaultOutcome_retryable (fault : ReceiveApiFault) :
    (apiFaultOutcome fault).isRetryable = fault.retryable := by
  cases fault <;> rfl

@[simp] theorem outcomeOf_retryable {α : Type} {body : α → ResultBody} {result : Except ReceiveApiFault α} :
    (outcomeOf body result).isRetryable = true ↔ ∃ fault, result = .error fault ∧ fault.retryable = true := by
  cases result with
  | ok value => simp [outcomeOf, ResponseOutcome.isRetryable]
  | error fault => simp [outcomeOf]

/-- The outcome of the evaluation is retryable when the port answers with a retryable fault. -/
theorem operate_retryable : (operate port envelope).1.isRetryable = true ↔
    ∃ fault, portResult port envelope = some (.error fault) ∧ fault.retryable = true := by
  unfold operate portResult
  cases envelope.command with
  | receiveStart selection => simp
  | receiveStop => simp
  | _ => simp [ResponseOutcome.isRetryable, invalidRequestOutcome]

theorem operate_fault {fault : ReceiveApiFault} (h : portResult port envelope = some (.error fault)) :
    (operate port envelope).1 = apiFaultOutcome fault := by
  unfold portResult at h
  unfold operate
  cases hcommand : envelope.command with
  | receiveStart selection =>
    rw [hcommand] at h
    show outcomeOf _ (ReceiveApiPort.start port envelope.requestId selection).1 = _
    rw [Option.some.inj h]
    rfl
  | receiveStop =>
    rw [hcommand] at h
    show outcomeOf _ (ReceiveApiPort.stop port envelope.requestId).1 = _
    rw [Option.some.inj h]
    rfl
  | _ => simp [hcommand] at h

@[simp] theorem operate_recorded (evaluated : List RequestId) :
    (operate (RecordedPort.mk port evaluated) envelope).1 = (operate port envelope).1 := by
  unfold operate
  cases envelope.command <;> rfl

/-- Recording the evaluations changes nothing else. -/
theorem pinned_recorded {evaluated : List RequestId} :
    Pinned codec serviceInstanceId journal (RecordedPort.mk port evaluated) envelope acceptedUtcMillis ↔
      Pinned codec serviceInstanceId journal port envelope acceptedUtcMillis := by
  have hresult : portResult (RecordedPort.mk port evaluated) envelope = portResult port envelope := by
    unfold portResult
    cases envelope.command <;> rfl
  unfold Pinned FreshRetryable
  rw [hresult]

/-- A retryable answer is pinned. -/
theorem pinned_of_retryable {response : ResponseEnvelope} (hmutating : envelope.command.commandClass = .mutating)
    (hanswer : (execute codec serviceInstanceId journal port envelope acceptedUtcMillis).1 = .ok response)
    (hretryable : response.outcome.isRetryable = true) :
    Pinned codec serviceInstanceId journal port envelope acceptedUtcMillis := by
  cases hversion : versionAnswer serviceInstanceId envelope with
  | some answer =>
    obtain rfl : answer = response := by simpa [execute, hversion] using hanswer
    rw [versionAnswer_not_retryable hversion] at hretryable
    cases hretryable
  | none =>
    cases hcanonical : envelope.command.canonicalBytes codec.commandToVec with
    | error error =>
      simp only [execute, hversion, hmutating, executeMutating, hcanonical] at hanswer
      cases hanswer
      cases hretryable
    | ok canonical =>
      refine ⟨hversion, canonical, hcanonical, ?_⟩
      cases hfound : journal.acceptedCommand envelope.requestId with
      | error error => simp [execute, hversion, hmutating, executeMutating, hcanonical, lookUp, hfound] at hanswer
      | ok found =>
        cases found with
        | some existing =>
          rw [execute_journaled hversion hmutating hcanonical hfound] at hanswer
          unfold replay at hanswer
          split at hanswer
          · rename_i hsame
            exact .inl ⟨existing, response, hfound, hsame, okOr_ok.mp hanswer, hretryable⟩
          · cases hanswer
            cases hretryable
        | none =>
          rw [execute_unjournaled hversion hmutating hcanonical hfound] at hanswer
          rcases acceptResponse_ok hanswer with ⟨rfl, result, hresult, hadmits, -⟩ | ⟨existing, hexisting, -⟩
          · obtain ⟨fault, hfault, hfaultRetryable⟩ := operate_retryable.mp hretryable
            rw [operate_fault hfault] at hresult
            obtain ⟨htime, hcommand⟩ := (CommandTable.admits_iff hfound).mp hadmits
            exact .inr ⟨hfound, htime, hcommand, fault, hfault, hfaultRetryable, Option.isSome_iff_exists.mpr ⟨result, hresult⟩⟩
          · rw [hfound] at hexisting
            cases hexisting

/-- **Retryable means retryable** fails exactly for the pinned requests. -/
theorem retries_reach_iff (hmutating : envelope.command.commandClass = .mutating) :
    RetriesReach codec serviceInstanceId journal port envelope acceptedUtcMillis ↔
      ¬Pinned codec serviceInstanceId journal port envelope acceptedUtcMillis := by
  constructor
  · rintro hreach ⟨hversion, canonical, hcanonical, hpinned⟩
    rcases hpinned with ⟨existing, response, hexisting, hsame, hstored, hretryable⟩ |
      ⟨hnone, htime, hcommand, fault, hfault, hretryable, hencodes⟩
    · have hanswer : replay codec canonical existing (conflictFor envelope) = .ok response := by
        rw [replay, if_pos hsame, okOr_ok]
        exact hstored
      have hless := hreach response journal (.mk port []) (by
        rw [execute_journaled hversion hmutating hcanonical hexisting, hanswer]) hretryable acceptedUtcMillis
      rw [execute_journaled hversion hmutating hcanonical hexisting] at hless
      exact absurd hless (Nat.lt_irrefl _)
    · obtain ⟨result, hresult⟩ := Option.isSome_iff_exists.mp hencodes
      have hadmits : journal.Admits (acceptedFor envelope.requestId canonical result acceptedUtcMillis).toRow :=
        (CommandTable.admits_iff hnone).mpr ⟨htime, hcommand⟩
      have hanswer : execute codec serviceInstanceId journal (RecordedPort.mk port []) envelope acceptedUtcMillis =
          (.ok
            { apiVersion := envelope.apiVersion, requestId := envelope.requestId, outcome := apiFaultOutcome fault },
            journal.push _ hadmits, (operate (RecordedPort.mk port []) envelope).2) := by
        rw [execute_unjournaled hversion hmutating hcanonical hnone, operate_recorded, operate_fault hfault, finish,
          acceptResponse_admitted hresult hadmits]
      have hless := hreach _ _ _ hanswer ((apiFaultOutcome_retryable fault).trans hretryable) acceptedUtcMillis
      rw [execute_journaled hversion hmutating hcanonical (CommandTable.acceptedCommand_push hadmits)] at hless
      exact absurd hless (Nat.lt_irrefl _)
  · intro hpinned response after portAfter hanswer hretryable
    have hrecorded := pinned_of_retryable hmutating (by rw [hanswer]) hretryable
    exact absurd (pinned_recorded.mp hrecorded) hpinned

/-! ## A device that is plugged in later -/

/-- A port whose first start finds no device. -/
structure DevicePort where
  plugged : Bool
  deriving DecidableEq

instance : ReceiveApiPort DevicePort where
  inputDevices self := (.error .deviceUnavailable, self)
  status self := (.ok .stopped, self)
  start self _ selection :=
    if self.plugged then
      (.ok { lifecycle := .receiving 1, selection := some selection, audio := none, clock := none }, self)
    else (.error .deviceUnavailable, ⟨true⟩)
  stop self _ := (.ok .stopped, self)
  history self _ _ := (.error .storageUnavailable, self)

def startSelection : Api.ReceiveSelection where
  deviceIdentity := { platform := .macOsCoreAudio, opaqueId := "BuiltIn" }
  configuration := { sampleRateHz := 48000, channels := 1, sampleFormat := .float32, selectedChannel := 0 }

def startRequest : CommandEnvelope where
  apiVersion := apiVersion
  requestId := ⟨"req_start001", by decide⟩
  command := .receiveStart startSelection

/-- The bytes that the start and its first answer have on the wire. -/
def startCodec : CommandCodec :=
  .single
    (fun _ => some
      ("\x7b\"kind\":\"receive_start\",\"selection\":\x7b\"device_identity\":\x7b\"platform\":\"mac_os_core_audio\"," ++
        "\"opaque_id\":\"BuiltIn\"\x7d,\"configuration\":\x7b\"sample_rate_hz\":48000,\"channels\":1," ++
        "\"sample_format\":\"float32\",\"selected_channel\":0\x7d\x7d\x7d").toUTF8.data.toList)
    { apiVersion, requestId := startRequest.requestId, outcome := apiFaultOutcome .deviceUnavailable }
    ("\x7b\"api_version\":2,\"request_id\":\"req_start001\",\"outcome\":\"error\",\"payload\":\x7b" ++
      "\"code\":\"receive_unavailable\",\"message\":\"receive device is unavailable\",\"retryable\":true," ++
      "\"details\":\x7b\"kind\":\"receive\",\"reason\":\"device_unavailable\"\x7d\x7d\x7d").toUTF8.data.toList

def startInstance : ServiceInstanceId := ⟨"svc_start001", by decide⟩

theorem retries_reach_iff_start :
    RetriesReach startCodec startInstance .empty (DevicePort.mk false) startRequest 1000 ↔
      ¬Pinned startCodec startInstance .empty (DevicePort.mk false) startRequest 1000 :=
  retries_reach_iff rfl

/-- A start without its device is not evaluated again when the device is there. -/
theorem start_stays_unavailable :
    ¬∀ codec serviceInstanceId journal (port : DevicePort) envelope acceptedUtcMillis,
      envelope.command.commandClass = .mutating →
        RetriesReach codec serviceInstanceId journal port envelope acceptedUtcMillis := by
  intro hevery
  have hreach := hevery startCodec startInstance .empty ⟨false⟩ startRequest 1000 rfl
    { apiVersion, requestId := startRequest.requestId, outcome := apiFaultOutcome .deviceUnavailable } _ _ rfl rfl 2000
  revert hreach
  decide

end ReceiveApiProcessor

end Slotpilot.Daemon
