import Slotpilot.Daemon.Commands

/-!
# The legacy version

Version 1 keeps the commands of Phase 0. Both processors answer them, over the same journal.

* `StaysPhase0`: the processors give the same answer, without a field of version 2;
* `stays_phase0_iff`: the requests of version 1 for which they do.
-/

set_option autoImplicit false

namespace Slotpilot.Daemon

open Lib Domain Storage Api

/-- The command was there in Phase 0. -/
def isPhase0 : Command → Bool
  | .getCapabilities _ | .getSnapshot | .noopMutation _ => true
  | _ => false

/-- The outcome has no field of version 2. -/
def isLegacy : ResponseOutcome → Bool
  | .success (.capabilities capabilities) => capabilities.receiveInput.isNone
  | .success (.snapshot snapshot) => snapshot.receive.isNone
  | _ => true

section Legacy

variable {P : Type} [ReceiveApiPort P] {codec : CommandCodec} {serviceInstanceId : ServiceInstanceId}
  {journal : CommandTable} {port : P} {envelope : CommandEnvelope} {acceptedUtcMillis : Int}

/-- **Legacy version stays Phase 0**: the processors give the same answer, and it has no field of version 2. -/
def StaysPhase0 (codec : CommandCodec) (serviceInstanceId : ServiceInstanceId) (journal : CommandTable) (port : P)
    (envelope : CommandEnvelope) (acceptedUtcMillis : Int) : Prop :=
  (CommandProcessor.execute codec ⟨serviceInstanceId⟩ journal envelope acceptedUtcMillis).1 =
      (ReceiveApiProcessor.execute codec serviceInstanceId journal port envelope acceptedUtcMillis).1 ∧
    ∀ response, (CommandProcessor.execute codec ⟨serviceInstanceId⟩ journal envelope acceptedUtcMillis).1 = .ok response →
      isLegacy response.outcome = true

/-- The answer to a mutating command without the journal. -/
def journalRequired (envelope : CommandEnvelope) : ResponseEnvelope where
  apiVersion := envelope.apiVersion
  requestId := envelope.requestId
  outcome := .error
    { code := .requestJournalRequired
      message := "mutating commands require the durable request journal"
      retryable := false
      details := .journalRequired }

/-- The requests that both processors answer alike: a negotiation that fails, or a marker whose journal entry holds the
answer that is given without the journal. -/
def AnsweredAlike (codec : CommandCodec) (journal : CommandTable) (envelope : CommandEnvelope) : Prop :=
  match envelope.command with
  | .getCapabilities supported =>
    supported.length > maxNegotiationVersions ∨ ∀ version ∈ supported, version ∉ supportedApiVersions
  | .noopMutation _ =>
    ∃ canonical existing, envelope.command.canonicalBytes codec.commandToVec = .ok canonical ∧
      journal.acceptedCommand envelope.requestId = .ok (some existing) ∧ existing.canonicalCommand = canonical ∧
      codec.responseFromSlice existing.originalResult = some (journalRequired envelope)
  | _ => False

/-! ## The answers to a request of version 1 -/

theorem commandProcessor_legacy (hversion : envelope.apiVersion = legacyApiVersion) :
    (CommandProcessor.execute codec ⟨serviceInstanceId⟩ journal envelope acceptedUtcMillis).1 =
      .ok (NoopService.execute ⟨serviceInstanceId⟩ envelope) := by
  have hother : envelope.apiVersion ≠ apiVersion := by
    rw [hversion]
    decide
  rw [CommandProcessor.execute, if_pos (.inl hother)]

theorem versionAnswer_legacy (hversion : envelope.apiVersion = legacyApiVersion)
    (hphase0 : isPhase0 envelope.command = true) :
    ReceiveApiProcessor.versionAnswer serviceInstanceId envelope = none := by
  have hreceive : isReceiveCommand envelope.command = false := by
    cases hcommand : envelope.command <;> simp_all [isPhase0, isReceiveCommand]
  rw [ReceiveApiProcessor.versionAnswer, if_neg (fun h => h.2 hversion), if_neg (fun h => by simp [hreceive] at h)]

theorem readOnly_legacy (hversion : envelope.apiVersion = legacyApiVersion) (hphase0 : isPhase0 envelope.command = true)
    (hclass : envelope.command.commandClass = .readOnly) :
    (ReceiveApiProcessor.execute codec serviceInstanceId journal port envelope acceptedUtcMillis).1 =
      .ok (ReceiveApiProcessor.executeReadOnly codec serviceInstanceId port envelope).1 := by
  simp only [ReceiveApiProcessor.execute, versionAnswer_legacy hversion hphase0, hclass]

theorem capabilities_found {requested version : Nat} {supported : List Nat}
    (hlength : supported.length ≤ maxNegotiationVersions)
    (hfound : supported.find? (· ∈ supportedApiVersions) = some version) :
    ∃ capabilities : Capabilities, NoopService.capabilities ⟨serviceInstanceId⟩ requested supported =
        .success (.capabilities capabilities) ∧ capabilities.receiveInput ≠ some .available := by
  rw [NoopService.capabilities, if_neg (Nat.not_lt.mpr hlength), hfound]
  refine ⟨_, rfl, ?_⟩
  show (if version ≥ apiVersion then some Availability.unavailable else none) ≠ some .available
  split <;> simp

theorem capabilities_failed {requested : Nat} {supported : List Nat}
    (h : supported.length > maxNegotiationVersions ∨ ∀ version ∈ supported, version ∉ supportedApiVersions) :
    ∃ error, NoopService.capabilities ⟨serviceInstanceId⟩ requested supported = .error error := by
  rw [NoopService.capabilities]
  split
  · exact ⟨_, rfl⟩
  · rename_i hlength
    have hnone : supported.find? (· ∈ supportedApiVersions) = none :=
      List.find?_eq_none.mpr fun version hmember => by
        simpa using h.resolve_left hlength version hmember
    rw [hnone]
    exact ⟨_, rfl⟩

/-- The negotiation of the receive processor differs from that of the service where it succeeds. -/
theorem stays_phase0_capabilities {requestId : RequestId} {supported : List Nat} :
    StaysPhase0 codec serviceInstanceId journal port
        ⟨legacyApiVersion, requestId, .getCapabilities supported⟩ acceptedUtcMillis ↔
      supported.length > maxNegotiationVersions ∨ ∀ version ∈ supported, version ∉ supportedApiVersions := by
  have hservice : NoopService.execute ⟨serviceInstanceId⟩ ⟨legacyApiVersion, requestId, .getCapabilities supported⟩ =
      ⟨legacyApiVersion, requestId, NoopService.capabilities ⟨serviceInstanceId⟩ legacyApiVersion supported⟩ := rfl
  rw [StaysPhase0, commandProcessor_legacy rfl, readOnly_legacy rfl rfl rfl, hservice]
  simp only [ReceiveApiProcessor.executeReadOnly, hservice]
  constructor
  · rintro ⟨hsame, -⟩
    by_contra hneither
    rw [not_or, not_lt, not_forall] at hneither
    obtain ⟨hlength, version, hversion⟩ := hneither
    have hsome : (supported.find? (· ∈ supportedApiVersions)).isSome := List.find?_isSome.mpr
      ⟨version, (Classical.not_imp.mp hversion).1, decide_eq_true (not_not.mp (Classical.not_imp.mp hversion).2)⟩
    obtain ⟨first, hfirst⟩ := Option.isSome_iff_exists.mp hsome
    obtain ⟨capabilities, hcapabilities, hreceive⟩ := capabilities_found hlength hfirst
    rw [hcapabilities] at hsame
    simp only [Except.ok.injEq, ResponseEnvelope.mk.injEq, ResponseOutcome.success.injEq, ResultBody.capabilities.injEq,
      true_and] at hsame
    exact hreceive (congrArg Capabilities.receiveInput hsame)
  · intro hfails
    obtain ⟨error, herror⟩ := capabilities_failed hfails
    rw [herror]
    refine ⟨rfl, fun response hresponse => ?_⟩
    cases hresponse
    rfl

/-- The snapshot of the receive processor has the receive state, or is an error. -/
theorem not_stays_phase0_snapshot {requestId : RequestId} :
    ¬StaysPhase0 codec serviceInstanceId journal port ⟨legacyApiVersion, requestId, .getSnapshot⟩ acceptedUtcMillis := by
  rintro ⟨hsame, -⟩
  rw [commandProcessor_legacy rfl, readOnly_legacy rfl rfl rfl] at hsame
  simp only [ReceiveApiProcessor.executeReadOnly] at hsame
  cases hstatus : (ReceiveApiPort.status port).1 with
  | ok receive =>
    rw [hstatus] at hsame
    simp [NoopService.execute, supportedApiVersions, legacyApiVersion, apiVersion,
      ReceiveApiProcessor.outcomeOf] at hsame
  | error fault =>
    rw [hstatus] at hsame
    have houtcome := congrArg ResponseEnvelope.outcome (Except.ok.inj hsame)
    cases fault <;> cases houtcome

/-- A marker is answered alike only from the journal. -/
theorem stays_phase0_noop {requestId : RequestId} {marker : String} :
    StaysPhase0 codec serviceInstanceId journal port ⟨legacyApiVersion, requestId, .noopMutation marker⟩
        acceptedUtcMillis ↔
      AnsweredAlike codec journal ⟨legacyApiVersion, requestId, .noopMutation marker⟩ := by
  have hservice : NoopService.execute ⟨serviceInstanceId⟩ ⟨legacyApiVersion, requestId, .noopMutation marker⟩ =
      journalRequired ⟨legacyApiVersion, requestId, .noopMutation marker⟩ := rfl
  have hversion : ReceiveApiProcessor.versionAnswer serviceInstanceId
      ⟨legacyApiVersion, requestId, .noopMutation marker⟩ = none := versionAnswer_legacy rfl rfl
  rw [StaysPhase0, commandProcessor_legacy rfl, hservice]
  have hlegacy : ∀ response, (Except.ok (journalRequired ⟨legacyApiVersion, requestId, .noopMutation marker⟩) :
      Except ProcessorError ResponseEnvelope) = .ok response → isLegacy response.outcome = true := by
    intro response hresponse
    cases hresponse
    rfl
  unfold AnsweredAlike
  cases hcanonical : (Command.noopMutation marker).canonicalBytes codec.commandToVec with
  | error error =>
    simp only [ReceiveApiProcessor.execute, hversion, Command.commandClass, ReceiveApiProcessor.executeMutating, hcanonical]
    constructor
    · rintro ⟨hsame, -⟩
      cases congrArg ResponseEnvelope.outcome (Except.ok.inj hsame)
    · rintro ⟨canonical, existing, hother, -⟩
      cases hother
  | ok canonical =>
    cases hfound : journal.acceptedCommand requestId with
    | error error =>
      simp only [ReceiveApiProcessor.execute, hversion, Command.commandClass, ReceiveApiProcessor.executeMutating,
        hcanonical, ReceiveApiProcessor.lookUp, hfound]
      constructor
      · rintro ⟨hsame, -⟩
        cases hsame
      · rintro ⟨_, existing, -, hother, -⟩
        cases hother
    | ok found =>
      cases found with
      | some existing =>
        rw [ReceiveApiProcessor.execute_journaled hversion rfl hcanonical hfound]
        constructor
        · rintro ⟨hsame, -⟩
          unfold replay at hsame
          split at hsame
          · rename_i hequal
            exact ⟨canonical, existing, rfl, rfl, hequal, okOr_ok.mp hsame.symm⟩
          · cases congrArg ResponseEnvelope.outcome (Except.ok.inj hsame)
        · rintro ⟨other, entry, hother, hentry, hequal, hstored⟩
          cases hother
          cases hentry
          refine ⟨?_, hlegacy⟩
          show Except.ok _ = replay codec canonical existing _
          rw [replay, if_pos hequal, hstored]
          rfl
      | none =>
        rw [ReceiveApiProcessor.execute_unjournaled hversion rfl hcanonical hfound]
        constructor
        · rintro ⟨hsame, -⟩
          rcases acceptResponse_ok hsame.symm with ⟨hsuccess, -⟩ | ⟨entry, hentry, -⟩
          · cases congrArg ResponseEnvelope.outcome hsuccess
          · rw [hfound] at hentry
            cases hentry
        · rintro ⟨_, existing, -, hother, -⟩
          cases hother

/-- **Legacy version stays Phase 0** exactly for the requests that are answered alike. -/
theorem stays_phase0_iff (hversion : envelope.apiVersion = legacyApiVersion)
    (hphase0 : isPhase0 envelope.command = true) :
    StaysPhase0 codec serviceInstanceId journal port envelope acceptedUtcMillis ↔
      AnsweredAlike codec journal envelope := by
  obtain ⟨version, requestId, command⟩ := envelope
  obtain rfl : version = legacyApiVersion := hversion
  cases command with
  | getCapabilities supported => exact stays_phase0_capabilities
  | getSnapshot => exact ⟨fun h => absurd h not_stays_phase0_snapshot, fun h => h.elim⟩
  | noopMutation marker => exact stays_phase0_noop
  | _ => cases hphase0

end Legacy

/-! ## A snapshot in version 1 -/

def legacyInstance : ServiceInstanceId := ⟨"svc_legacy01", by decide⟩

def legacyRequest (command : Command) : CommandEnvelope where
  apiVersion := legacyApiVersion
  requestId := ⟨"req_legacy001", by decide⟩
  command

/-- A port whose receive is stopped. -/
structure StoppedPort where
  history : List ReceiveRecordSummary

instance : ReceiveApiPort StoppedPort where
  inputDevices self := (.ok ⟨[]⟩, self)
  status self := (.ok .stopped, self)
  start self _ _ := (.error .deviceUnavailable, self)
  stop self _ := (.ok .stopped, self)
  history self afterSequence _ := (.ok ⟨self.history, afterSequence, false⟩, self)

/-- The bytes of a version 1 marker and its answer on the wire. -/
def legacyCodec : CommandCodec :=
  .single (fun _ => some "\x7b\"kind\":\"get_snapshot\"\x7d".toUTF8.data.toList)
    (journalRequired (legacyRequest .getSnapshot)) []

theorem stays_phase0_iff_negotiation :
    StaysPhase0 legacyCodec legacyInstance .empty (StoppedPort.mk []) (legacyRequest (.getCapabilities [3])) 0 ↔
      AnsweredAlike legacyCodec .empty (legacyRequest (.getCapabilities [3])) :=
  stays_phase0_iff rfl rfl

/-- A snapshot in version 1 has the receive state of version 2. -/
theorem legacy_snapshot_differs :
    ¬∀ codec serviceInstanceId journal (port : StoppedPort) envelope acceptedUtcMillis,
      envelope.apiVersion = legacyApiVersion → isPhase0 envelope.command = true →
        StaysPhase0 codec serviceInstanceId journal port envelope acceptedUtcMillis := by
  intro hall
  have hstays := hall legacyCodec legacyInstance .empty ⟨[]⟩ (legacyRequest .getSnapshot) 0 rfl rfl
  exact not_stays_phase0_snapshot hstays

end Slotpilot.Daemon
