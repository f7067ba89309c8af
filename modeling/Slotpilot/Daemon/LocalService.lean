import Slotpilot.Api.Wire
import Slotpilot.Daemon.CommandRetries
import Slotpilot.Daemon.CommandRuns
import Slotpilot.Ipc.Exchange

/-!
# The receive service over the local transport

`serveReceiveOnce` answers one exchange with the receive processor, whose journal and answers have the bytes of the wire
forms. Clients exchange requests with it and repeat them as they like, the transport loses what it likes, calls of the
database fail, and the service is restarted with a new port over the same journal, between exchanges or while a request is
executed.

* `execute_settles`: a mutating request that is executed has its answer from then on;
* `executeFaulty_cases`: an execution ends with an answer, or with an error before the answer is journaled;
* `mutations_once`: a request is evaluated again only when an evaluation of it was not journaled, all answers that are
  received to a mutating request are the same, and a success is received only for a request that was evaluated.
-/

set_option autoImplicit false

namespace Slotpilot.Daemon

open Lib Domain Storage Api Ipc ReceiveApiProcessor

/-! ## The bytes of the service -/

/-- The bytes that the journal holds. -/
def wireCodec : CommandCodec where
  commandToVec := Command.toVec
  responseToVec := ResponseEnvelope.toVec
  responseFromSlice := ResponseEnvelope.fromSlice

/-- The JSON library on requests. -/
def requestJson : SerdeJson Unit CommandEnvelope where
  toVec envelope := okOr () envelope.toVec
  fromSlice bytes := okOr () (CommandEnvelope.fromSlice bytes)

/-- The JSON library on responses. -/
def responseJson : SerdeJson Unit ResponseEnvelope where
  toVec envelope := okOr () envelope.toVec
  fromSlice bytes := okOr () (ResponseEnvelope.fromSlice bytes)

theorem wireCodec_replays : wireCodec.Replays := fun _ _ h => ResponseEnvelope.fromSlice_toVec h

theorem requestJson_faithful : requestJson.Faithful := by
  intro envelope payload h
  exact okOr_ok.mpr (CommandEnvelope.fromSlice_toVec (okOr_ok.mp h))

theorem responseJson_faithful : responseJson.Faithful := by
  intro envelope payload h
  exact okOr_ok.mpr (ResponseEnvelope.fromSlice_toVec (okOr_ok.mp h))

/-! ## The service -/

/-- A receive processor over the journal, with the requests that its ports were started or stopped for. -/
structure LocalService (P : Type) where
  serviceInstanceId : ServiceInstanceId
  journal : CommandTable
  port : RecordedPort P

/-- The call of the database that fails in an execution, and changes nothing. -/
inductive JournalFault
  | acceptedCommand
  | acceptOrExisting
  deriving DecidableEq

/-- What happens to a service: an exchange with a client, a restart between two exchanges, or a restart after the port was
asked for a request and before the answer is journaled. -/
inductive ServiceEvent (P : Type)
  | exchange (envelope : CommandEnvelope) (acceptedUtcMillis : Int) (fault : Option JournalFault)
    (connection : Connection Unit)
  | restart (serviceInstanceId : ServiceInstanceId) (port : P)
  | crash (envelope : CommandEnvelope) (serviceInstanceId : ServiceInstanceId) (port : P)

/-- The request whose evaluation the event may leave out of the journal: the database fails to accept its answer, refuses
the time before the epoch, or is not asked. -/
def ServiceEvent.interrupted {P : Type} : ServiceEvent P → Option RequestId
  | .exchange envelope acceptedUtcMillis fault _ =>
    if fault = some .acceptOrExisting ∨ acceptedUtcMillis < 0 then some envelope.requestId else none
  | .restart .. => none
  | .crash envelope _ _ => some envelope.requestId

/-- An exchange in which the database does not fail. -/
def ServiceEvent.Clean {P : Type} : ServiceEvent P → Prop
  | .exchange _ acceptedUtcMillis fault _ => fault = none ∧ 0 ≤ acceptedUtcMillis
  | _ => False

/-- The response to a request that failed before a bounded response was produced. -/
def failedResponse (envelope : CommandEnvelope) (message : String) : ResponseEnvelope where
  apiVersion := envelope.apiVersion
  requestId := envelope.requestId
  outcome := .error
    { code := .receiveUnavailable
      message
      retryable := true
      details := .receive .storageFailed }

namespace LocalService

variable {P : Type} [ReceiveApiPort P] (errorText : ProcessorError → String)

/-- The bytes under which the journal is asked for a request, if it is. -/
def journalBytes (self : LocalService P) (envelope : CommandEnvelope) : Option (List UInt8) :=
  match versionAnswer self.serviceInstanceId envelope, envelope.command.commandClass with
  | none, .mutating => (envelope.command.canonicalBytes wireCodec.commandToVec).toOption
  | _, _ => none

/-- An execution with a call of the database that fails, if it is made. -/
def executeFaulty (self : LocalService P) (envelope : CommandEnvelope) (acceptedUtcMillis : Int)
    (fault : Option JournalFault) : Except ProcessorError ResponseEnvelope × CommandTable × RecordedPort P :=
  match fault, self.journalBytes envelope with
  | some .acceptedCommand, some _ => (.error (.storage .database), self.journal, self.port)
  | some .acceptOrExisting, some canonical =>
    match ReceiveApiProcessor.lookUp wireCodec self.journal envelope canonical with
    | some result => (result, self.journal, self.port)
    | none => (.error (.storage .database), self.journal, (operate self.port envelope).2)
  | _, _ =>
    ReceiveApiProcessor.execute wireCodec self.serviceInstanceId self.journal self.port envelope acceptedUtcMillis

/-- The handler of an exchange; `errorText` is the text of a failure. -/
def handle (acceptedUtcMillis : Int) (fault : Option JournalFault) (envelope : CommandEnvelope) (self : LocalService P) :
    ResponseEnvelope × LocalService P :=
  let (result, journal, port) := self.executeFaulty envelope acceptedUtcMillis fault
  let response :=
    match result with
    | .ok response => response
    | .error error => failedResponse envelope (errorText error)
  (response, { self with journal, port })

/-- Serves one receive command. -/
def serveReceiveOnce (acceptedUtcMillis : Int) (fault : Option JournalFault) (side : ServerSide Unit)
    (self : LocalService P) : Except (IpcError Unit) Unit × List UInt8 × LocalService P :=
  serveExchange requestJson responseJson (handle errorText acceptedUtcMillis fault) side self

/-- The response that the client of an exchange receives. -/
def request (connection : Connection Unit) (envelope : CommandEnvelope) : Except (IpcError Unit) ResponseEnvelope :=
  (Ipc.exchange requestJson responseJson connection.client envelope).1

/-- One event, with the request and the response when a client receives one. -/
def step (self : LocalService P) : ServiceEvent P → Option (CommandEnvelope × ResponseEnvelope) × LocalService P
  | .exchange envelope acceptedUtcMillis fault connection =>
    ((request connection envelope).toOption.map fun response => (envelope, response),
      (serveReceiveOnce errorText acceptedUtcMillis fault connection.server self).2.2)
  | .restart serviceInstanceId port =>
    (none, { self with serviceInstanceId, port := { self.port with port } })
  | .crash envelope serviceInstanceId port =>
    -- the port was asked as before an acceptance that fails
    let (_, _, asked) := self.executeFaulty envelope 0 (some .acceptOrExisting)
    (none, { self with serviceInstanceId, port := { asked with port } })

/-- The transport of an exchange delivers first parts of what each end writes. -/
def Delivered (self : LocalService P) : ServiceEvent P → Prop
  | .exchange envelope acceptedUtcMillis fault connection =>
    connection.Carried requestJson responseJson (handle errorText acceptedUtcMillis fault) envelope self
  | _ => True

/-- A service with an empty journal. -/
def opened (serviceInstanceId : ServiceInstanceId) (port : P) : LocalService P :=
  { serviceInstanceId, journal := .empty, port := { port, evaluated := [] } }

end LocalService

/-! ## Identities of requests -/

theorem forRequest_inj {a b : RequestId} (h : (CommandId.forRequest a).text = (CommandId.forRequest b).text) : a = b := by
  obtain ⟨p, ha, -⟩ := validateId_ok.mp a.valid
  obtain ⟨q, hb, -⟩ := validateId_ok.mp b.valid
  have htext := congrArg String.toList h
  simp only [CommandId.forRequest, String.toList_append, String.toList_ofList, ha, hb] at htext
  have hdrop : ∀ payload : List Char, ("req_".toList ++ payload).drop "req_".length = payload := fun payload =>
    List.drop_left
  rw [hdrop, hdrop] at htext
  have hpayload := List.append_cancel_left htext
  refine TypedId.ext (String.toList_injective ?_)
  rw [ha, hb, hpayload]

/-! ## Settled requests -/

/-- The response to a request with an outcome. -/
def respond (envelope : CommandEnvelope) (outcome : ResponseOutcome) : ResponseEnvelope where
  apiVersion := envelope.apiVersion
  requestId := envelope.requestId
  outcome

/-- A mutating request has its answer: by its version, by its bounds, or in the journal. -/
inductive Settled (codec : CommandCodec) (journal : CommandTable) (envelope : CommandEnvelope) :
    ResponseEnvelope → Prop
  | version {response : ResponseEnvelope}
    (hversion : ∀ serviceInstanceId, versionAnswer serviceInstanceId envelope = some response) :
    Settled codec journal envelope response
  | invalid {error : CanonicalizationError}
    (hversion : ∀ serviceInstanceId, versionAnswer serviceInstanceId envelope = none)
    (hcanonical : envelope.command.canonicalBytes codec.commandToVec = .error error) :
    Settled codec journal envelope (respond envelope invalidRequestOutcome)
  | journaled {canonical : List UInt8} {entry : AcceptedCommand} {response : ResponseEnvelope}
    (hversion : ∀ serviceInstanceId, versionAnswer serviceInstanceId envelope = none)
    (hcanonical : envelope.command.canonicalBytes codec.commandToVec = .ok canonical)
    (hentry : journal.acceptedCommand envelope.requestId = .ok (some entry))
    (hreplay : replay codec canonical entry (conflictFor envelope) = .ok response) :
    Settled codec journal envelope response

section Settling

variable {P : Type} [ReceiveApiPort P] {codec : CommandCodec} {serviceInstanceId : ServiceInstanceId}
  {journal after : CommandTable} {port : P} {envelope : CommandEnvelope} {acceptedUtcMillis : Int}
  {response other : ResponseEnvelope}

/-- The answer that a version has does not name the instance. -/
theorem versionAnswer_instance (a b : ServiceInstanceId) (envelope : CommandEnvelope) :
    versionAnswer a envelope = versionAnswer b envelope := by
  unfold versionAnswer
  by_cases hversion : envelope.apiVersion ≠ apiVersion ∧ envelope.apiVersion ≠ legacyApiVersion
  · have hunsupported : envelope.apiVersion ∉ supportedApiVersions := by simpa [supportedApiVersions] using hversion
    simp only [if_pos hversion, NoopService.execute, if_pos hunsupported]
  · simp only [if_neg hversion]

/-- A settled answer stays when the journal grows. -/
theorem Settled.grow (hgrows : Shared.Grows journal after) (h : Settled codec journal envelope response) :
    Settled codec after envelope response := by
  cases h with
  | version hversion => exact .version hversion
  | invalid hversion hcanonical => exact .invalid hversion hcanonical
  | journaled hversion hcanonical hentry hreplay => exact .journaled hversion hcanonical (hgrows _ _ hentry) hreplay

/-- A settled request gets its answer and changes nothing. -/
theorem Settled.execute (hmutating : envelope.command.commandClass = .mutating)
    (h : Settled codec journal envelope response) :
    execute codec serviceInstanceId journal port envelope acceptedUtcMillis = (.ok response, journal, port) := by
  cases h with
  | version hversion => simp only [ReceiveApiProcessor.execute, hversion]
  | invalid hversion hcanonical =>
    simp only [ReceiveApiProcessor.execute, hversion, hmutating, executeMutating, hcanonical, respond]
  | journaled hversion hcanonical hentry hreplay =>
    rw [execute_journaled (hversion _) hmutating hcanonical hentry, hreplay]

theorem Settled.unique (hmutating : envelope.command.commandClass = .mutating)
    (h : Settled codec journal envelope response) (hother : Settled codec journal envelope other) : response = other := by
  have hanswer : ReceiveApiProcessor.execute codec Shared.retriedInstance journal Shared.noDevice envelope 0 =
      (.ok response, journal, Shared.noDevice) := h.execute hmutating
  rw [hother.execute hmutating] at hanswer
  exact (Except.ok.inj (Prod.ext_iff.mp hanswer).1).symm

/-- **An executed request is settled**: whatever a mutating request is answered, it is answered from then on. -/
theorem execute_settles (hcodec : codec.Replays) (hmutating : envelope.command.commandClass = .mutating)
    (h : (execute codec serviceInstanceId journal port envelope acceptedUtcMillis).1 = .ok response) :
    Settled codec (execute codec serviceInstanceId journal port envelope acceptedUtcMillis).2.1 envelope response := by
  cases hversion : versionAnswer serviceInstanceId envelope with
  | some answer =>
    simp only [execute, hversion] at h ⊢
    cases h
    exact .version fun other => (versionAnswer_instance other serviceInstanceId envelope).trans hversion
  | none =>
    have hversions : ∀ other, versionAnswer other envelope = none := fun other =>
      (versionAnswer_instance other serviceInstanceId envelope).trans hversion
    cases hcanonical : envelope.command.canonicalBytes codec.commandToVec with
    | error error =>
      simp only [execute, hversion, hmutating, executeMutating, hcanonical] at h ⊢
      cases h
      exact .invalid hversions hcanonical
    | ok canonical =>
      cases hfound : journal.acceptedCommand envelope.requestId with
      | error error => simp [execute, hversion, hmutating, executeMutating, hcanonical, lookUp, hfound] at h
      | ok found =>
        cases found with
        | some entry =>
          rw [execute_journaled hversion hmutating hcanonical hfound] at h ⊢
          exact .journaled hversions hcanonical hfound h
        | none =>
          rw [execute_unjournaled hversion hmutating hcanonical hfound] at h ⊢
          rcases acceptResponse_ok h with ⟨rfl, result, hresult, -, hentry⟩ | ⟨existing, hexisting, -⟩
          · refine .journaled hversions hcanonical hentry ?_
            have hown : (acceptedFor envelope.requestId canonical result acceptedUtcMillis).canonicalCommand =
                canonical := rfl
            rw [replay, if_pos hown, okOr_ok]
            exact hcodec _ _ hresult
          · rw [hfound] at hexisting
            cases hexisting

end Settling

/-! ## The journal of a service -/

/-- An entry is the one of a mutating request and its response; a start or a stop was evaluated. -/
def Journaled (evaluated : List RequestId) (entry : AcceptedCommand) : Prop :=
  ∃ (envelope : CommandEnvelope) (response : ResponseEnvelope),
    entry.requestId = envelope.requestId ∧ entry.commandId = .forRequest envelope.requestId ∧
      envelope.command.canonicalBytes wireCodec.commandToVec = .ok entry.canonicalCommand ∧
      wireCodec.responseToVec response = some entry.originalResult ∧ response.requestId = envelope.requestId ∧
      ∀ requestId, Shared.portRequest envelope = some requestId → requestId ∈ evaluated

/-- The rows of the journal are entries of requests, and every evaluation of a request has its row or was interrupted. -/
structure LocalService.Consistent {P : Type} (interrupted : List RequestId) (service : LocalService P) : Prop where
  entries : ∀ row ∈ service.journal.rows, ∃ entry, Journaled service.port.evaluated entry ∧ entry.toRow = row
  evaluated : ∀ requestId, service.port.evaluated.count requestId ≤
    interrupted.count requestId + service.journal.rows.countP (·.requestId = requestId.text)

section Journal

variable {P : Type} {serviceInstanceId : ServiceInstanceId} {evaluated more interrupted : List RequestId}
  {entry : AcceptedCommand} {envelope : CommandEnvelope} {requestId : RequestId} {service : LocalService P}
  {acceptedUtcMillis : Int} {canonical : List UInt8}

theorem Journaled.mono (hmore : ∀ requestId ∈ evaluated, requestId ∈ more) (h : Journaled evaluated entry) :
    Journaled more entry := by
  obtain ⟨envelope, response, hrequest, hcommand, hcanonical, hresult, hcorrelated, hport⟩ := h
  exact ⟨envelope, response, hrequest, hcommand, hcanonical, hresult, hcorrelated, fun id hid => hmore id (hport id hid)⟩

theorem portRequest_eq (h : Shared.portRequest envelope = some requestId) : requestId = envelope.requestId := by
  unfold Shared.portRequest at h
  split at h
  · exact (Option.some.inj h).symm
  · exact (Option.some.inj h).symm
  · cases h

theorem portRequest_mutating (h : Shared.portRequest envelope = some requestId) :
    envelope.command.commandClass = .mutating := by
  unfold Shared.portRequest at h
  cases hcommand : envelope.command with
  | receiveStart selection => rfl
  | receiveStop => rfl
  | _ =>
    rw [hcommand] at h
    cases h

/-- A lookup finds the entry of a request, or there is none. -/
theorem LocalService.Consistent.lookUp (h : service.Consistent interrupted) (requestId : RequestId) :
    (service.journal.acceptedCommand requestId = .ok none ∧
      ∀ row ∈ service.journal.rows, row.requestId ≠ requestId.text) ∨
    ∃ entry, service.journal.acceptedCommand requestId = .ok (some entry) ∧ Journaled service.port.evaluated entry ∧
      entry.requestId = requestId := by
  unfold CommandTable.acceptedCommand
  cases hfind : service.journal.rows.find? (·.requestId = requestId.text) with
  | none =>
    refine .inl ⟨rfl, fun row hrow hsame => ?_⟩
    exact absurd hsame (by simpa using List.find?_eq_none.mp hfind row hrow)
  | some row =>
    obtain ⟨entry, hjournaled, rfl⟩ := h.entries row (List.mem_of_find?_eq_some hfind)
    have hsame : entry.toRow.requestId = requestId.text := by simpa using List.find?_some hfind
    refine .inr ⟨entry, ?_, hjournaled, TypedId.ext hsame⟩
    show entry.toRow.toAccepted.map some = _
    rw [AcceptedCommand.toAccepted_toRow]
    rfl

/-- Where no row has the request, its entry is admitted from the epoch on. -/
theorem LocalService.Consistent.admits (h : service.Consistent interrupted)
    (hnone : service.journal.acceptedCommand envelope.requestId = .ok none)
    (hfree : ∀ row ∈ service.journal.rows, row.requestId ≠ envelope.requestId.text) (htime : 0 ≤ acceptedUtcMillis)
    (result : List UInt8) :
    service.journal.Admits (acceptedFor envelope.requestId canonical result acceptedUtcMillis).toRow := by
  refine (CommandTable.admits_iff hnone).mpr ⟨htime, fun row hrow hsame => ?_⟩
  obtain ⟨entry, ⟨other, -, hrequest, hcommand, -⟩, rfl⟩ := h.entries row hrow
  have htext : (CommandId.forRequest other.requestId).text = (CommandId.forRequest envelope.requestId).text := by
    rw [← hcommand]
    exact hsame
  have hrow : entry.toRow.requestId = envelope.requestId.text := by
    show entry.requestId.text = _
    rw [hrequest, forRequest_inj htext]
  exact hfree _ ‹_› hrow

/-- A new entry keeps the service consistent. -/
theorem LocalService.Consistent.push (h : service.Consistent interrupted) {response : ResponseEnvelope}
    {result : List UInt8} (hcanonical : envelope.command.canonicalBytes wireCodec.commandToVec = .ok canonical)
    (hresult : wireCodec.responseToVec response = some result) (hcorrelated : response.requestId = envelope.requestId)
    (hadmits : service.journal.Admits (acceptedFor envelope.requestId canonical result acceptedUtcMillis).toRow)
    (port : RecordedPort P)
    (hport : port.evaluated = service.port.evaluated ++ (Shared.portRequest envelope).toList) :
    ({ service with journal := service.journal.push _ hadmits, port } : LocalService P).Consistent interrupted where
  entries := by
    intro row hrow
    show ∃ entry, Journaled port.evaluated entry ∧ entry.toRow = row
    rw [hport]
    rcases List.mem_append.mp hrow with hrow | hrow
    · obtain ⟨entry, hjournaled, hentry⟩ := h.entries row hrow
      exact ⟨entry, hjournaled.mono fun _ hid => List.mem_append_left _ hid, hentry⟩
    · refine ⟨_, ⟨envelope, response, rfl, rfl, hcanonical, hresult, hcorrelated, fun requestId hid => ?_⟩,
        (List.mem_singleton.mp hrow).symm⟩
      exact List.mem_append_right _ (Option.mem_toList.mpr hid)
  evaluated := by
    intro requestId
    have hbefore := h.evaluated requestId
    have hadded : (Shared.portRequest envelope).toList.count requestId ≤
        [(acceptedFor envelope.requestId canonical result acceptedUtcMillis).toRow].countP
          (·.requestId = requestId.text) := by
      cases hrequest : Shared.portRequest envelope with
      | none => exact Nat.zero_le _
      | some evaluated =>
        obtain rfl := portRequest_eq hrequest
        by_cases hsame : envelope.requestId = requestId
        · subst hsame
          simp [acceptedFor, AcceptedCommand.toRow]
        · simp [hsame]
    show port.evaluated.count requestId ≤ _ + (service.journal.rows ++ [_]).countP _
    rw [hport, List.count_append, List.countP_append]
    omega

/-- An evaluation that is not journaled keeps the service consistent as an interrupted one. -/
theorem LocalService.Consistent.interrupt (h : service.Consistent interrupted) (port : RecordedPort P)
    (hport : port.evaluated = service.port.evaluated ++ (Shared.portRequest envelope).toList) :
    ({ service with port } : LocalService P).Consistent (interrupted ++ [envelope.requestId]) where
  entries := by
    intro row hrow
    obtain ⟨entry, hjournaled, hentry⟩ := h.entries row hrow
    refine ⟨entry, hjournaled.mono fun _ hid => ?_, hentry⟩
    show _ ∈ port.evaluated
    rw [hport]
    exact List.mem_append_left _ hid
  evaluated := by
    intro requestId
    have hbefore := h.evaluated requestId
    have hadded : (Shared.portRequest envelope).toList.count requestId ≤ [envelope.requestId].count requestId := by
      cases hrequest : Shared.portRequest envelope with
      | none => exact Nat.zero_le _
      | some evaluated =>
        obtain rfl := portRequest_eq hrequest
        exact le_rfl
    show port.evaluated.count requestId ≤ _ + service.journal.rows.countP _
    rw [hport, List.count_append, List.count_append]
    omega

/-- An event that evaluates nothing keeps the service consistent. -/
theorem LocalService.Consistent.later (h : service.Consistent interrupted) {port : RecordedPort P}
    (hport : port.evaluated = service.port.evaluated) (serviceInstanceId : ServiceInstanceId) (next : List RequestId) :
    ({ service with serviceInstanceId, port } : LocalService P).Consistent (interrupted ++ next) where
  entries := hport ▸ h.entries
  evaluated := by
    intro requestId
    have hbefore := h.evaluated requestId
    show port.evaluated.count requestId ≤ _ + service.journal.rows.countP _
    rw [hport, List.count_append]
    omega

/-- The rows of a table have a request at most once. -/
theorem countP_request_le (table : CommandTable) (requestId : RequestId) :
    table.rows.countP (·.requestId = requestId.text) ≤ 1 := by
  have hunique := table.unique
  generalize table.rows = rows at hunique ⊢
  induction rows with
  | nil => exact Nat.zero_le _
  | cons row rows ih =>
    obtain ⟨hdistinct, hrest⟩ := List.pairwise_cons.mp hunique
    by_cases hsame : row.requestId = requestId.text
    · have hnone : rows.countP (·.requestId = requestId.text) = 0 := by
        refine List.countP_eq_zero.mpr fun other hother hrequest => ?_
        exact (hdistinct other hother).1 (hsame.trans (of_decide_eq_true hrequest).symm)
      rw [List.countP_cons, hnone]
      split <;> omega
    · rw [List.countP_cons, if_neg (by simpa using hsame)]
      exact ih hrest

/-- The journal is asked for the mutating requests of a supported version that have canonical bytes. -/
theorem journalBytes_cases (service : LocalService P) (envelope : CommandEnvelope) :
    service.journalBytes envelope = none ∨
      ∃ canonical, service.journalBytes envelope = some canonical ∧
        versionAnswer service.serviceInstanceId envelope = none ∧ envelope.command.commandClass = .mutating ∧
        envelope.command.canonicalBytes wireCodec.commandToVec = .ok canonical := by
  unfold LocalService.journalBytes
  cases hversion : versionAnswer service.serviceInstanceId envelope with
  | some response => exact .inl rfl
  | none =>
    cases hclass : envelope.command.commandClass with
    | readOnly => exact .inl rfl
    | mutating =>
      cases hcanonical : envelope.command.canonicalBytes wireCodec.commandToVec with
      | error error => exact .inl rfl
      | ok canonical => exact .inr ⟨canonical, rfl, rfl, rfl, rfl⟩

variable [ReceiveApiPort P]

/-- The evaluation of a mutating request records the start or the stop. -/
theorem operate_evaluated (port : RecordedPort P) (envelope : CommandEnvelope) :
    (operate port envelope).2.evaluated = port.evaluated ++ (Shared.portRequest envelope).toList := by
  unfold operate Shared.portRequest
  cases envelope.command with
  | receiveStart selection => rfl
  | receiveStop => rfl
  | _ => exact (List.append_nil _).symm

/-- A read-only request is not evaluated by the port. -/
theorem executeReadOnly_evaluated (codec : CommandCodec) (port : RecordedPort P) (envelope : CommandEnvelope) :
    (executeReadOnly codec serviceInstanceId port envelope).2.evaluated = port.evaluated := by
  unfold executeReadOnly
  cases envelope.command with
  | getCapabilities supported =>
    dsimp only
    split <;> rfl
  | queryReceiveHistory afterSequence limit =>
    dsimp only
    split <;> rfl
  | _ => rfl

/-- The outcome of an evaluation can be written. -/
theorem operate_inRange {Q : Type} [ReceiveApiPort Q] (port : Q) (envelope : CommandEnvelope) :
    (operate port envelope).1.InRange := by
  have hfault : ∀ fault : ReceiveApiFault, (apiFaultOutcome fault).InRange := fun fault => by cases fault <;> trivial
  unfold operate
  cases envelope.command with
  | receiveStart selection =>
    dsimp only
    cases (ReceiveApiPort.start port envelope.requestId selection).1 with
    | ok status => trivial
    | error fault => exact hfault fault
  | receiveStop =>
    dsimp only
    cases (ReceiveApiPort.stop port envelope.requestId).1 with
    | ok status => trivial
    | error fault => exact hfault fault
  | _ => trivial

/-- A version that is not answered by itself is one of the two supported ones. -/
theorem version_inRange (h : versionAnswer serviceInstanceId envelope = none) : envelope.apiVersion < 2 ^ 32 := by
  unfold versionAnswer at h
  split at h
  · cases h
  · rename_i hversion
    have hsupported : envelope.apiVersion = apiVersion ∨ envelope.apiVersion = legacyApiVersion := by
      by_contra hneither
      exact hversion (not_or.mp hneither)
    rcases hsupported with hcurrent | hlegacy
    · rw [hcurrent]
      decide
    · rw [hlegacy]
      decide

/-- A request that is not asked for is answered, and evaluates nothing. -/
theorem execute_unasked (acceptedUtcMillis : Int) (hnone : service.journalBytes envelope = none) :
    ∃ response port, execute wireCodec service.serviceInstanceId service.journal service.port envelope
      acceptedUtcMillis = (.ok response, service.journal, port) ∧ port.evaluated = service.port.evaluated := by
  unfold LocalService.journalBytes at hnone
  cases hversion : versionAnswer service.serviceInstanceId envelope with
  | some response => exact ⟨response, service.port, by simp only [execute, hversion], rfl⟩
  | none =>
    cases hclass : envelope.command.commandClass with
    | readOnly =>
      exact ⟨_, _, by simp only [execute, hversion, hclass]; rfl, executeReadOnly_evaluated wireCodec service.port envelope⟩
    | mutating =>
      cases hcanonical : envelope.command.canonicalBytes wireCodec.commandToVec with
      | error error =>
        exact ⟨_, service.port, by simp only [execute, hversion, hclass, executeMutating, hcanonical]; rfl, rfl⟩
      | ok canonical =>
        rw [hversion, hclass, hcanonical] at hnone
        cases hnone

/-- How an execution ends. -/
inductive Execution (service : LocalService P) (envelope : CommandEnvelope) (acceptedUtcMillis : Int)
    (fault : Option JournalFault) : Except ProcessorError ResponseEnvelope × CommandTable × RecordedPort P → Prop
  /-- With the answer of an execution without a fault, which evaluates nothing. -/
  | answered {response : ResponseEnvelope} {port : RecordedPort P}
    (hexecute : execute wireCodec service.serviceInstanceId service.journal service.port envelope acceptedUtcMillis =
      (.ok response, service.journal, port)) (hport : port.evaluated = service.port.evaluated) :
    Execution service envelope acceptedUtcMillis fault (.ok response, service.journal, port)
  /-- With the answer of an execution without a fault, which is journaled. -/
  | accepted {response : ResponseEnvelope} {canonical result : List UInt8} {port : RecordedPort P}
    (hcanonical : envelope.command.canonicalBytes wireCodec.commandToVec = .ok canonical)
    (hresult : wireCodec.responseToVec response = some result) (hcorrelated : response.requestId = envelope.requestId)
    (hadmits : service.journal.Admits (acceptedFor envelope.requestId canonical result acceptedUtcMillis).toRow)
    (hexecute : execute wireCodec service.serviceInstanceId service.journal service.port envelope acceptedUtcMillis =
      (.ok response, service.journal.push _ hadmits, port))
    (hport : port.evaluated = service.port.evaluated ++ (Shared.portRequest envelope).toList) :
    Execution service envelope acceptedUtcMillis fault (.ok response, service.journal.push _ hadmits, port)
  /-- With an error, before anything is evaluated. -/
  | refused {error : ProcessorError} (hfault : fault = some .acceptedCommand) :
    Execution service envelope acceptedUtcMillis fault (.error error, service.journal, service.port)
  /-- With an error, when the evaluation is not journaled. -/
  | interrupted {error : ProcessorError} {port : RecordedPort P}
    (hfault : fault = some .acceptOrExisting ∨ acceptedUtcMillis < 0)
    (hport : port.evaluated = service.port.evaluated ++ (Shared.portRequest envelope).toList) :
    Execution service envelope acceptedUtcMillis fault (.error error, service.journal, port)

/-- An execution without a fault. -/
theorem execute_cases (h : service.Consistent interrupted) (envelope : CommandEnvelope) (acceptedUtcMillis : Int)
    (fault : Option JournalFault) : Execution service envelope acceptedUtcMillis fault
      (execute wireCodec service.serviceInstanceId service.journal service.port envelope acceptedUtcMillis) := by
  rcases journalBytes_cases service envelope with hnone | ⟨canonical, -, hversion, hclass, hcanonical⟩
  · obtain ⟨response, port, hexecute, hport⟩ := execute_unasked acceptedUtcMillis hnone
    rw [hexecute]
    exact .answered hexecute hport
  rcases h.lookUp envelope.requestId with ⟨hnone, hfree⟩ | ⟨entry, hentry, hjournaled, -⟩
  · have hrange : (respond envelope (operate service.port envelope).1).InRange :=
      ⟨version_inRange hversion, operate_inRange service.port envelope⟩
    obtain ⟨result, hresult⟩ : ∃ result,
        wireCodec.responseToVec (respond envelope (operate service.port envelope).1) = some result :=
      ⟨_, toVec_eq_some.mpr ⟨hrange, rfl⟩⟩
    have hport : (operate service.port envelope).2.evaluated =
        service.port.evaluated ++ (Shared.portRequest envelope).toList := operate_evaluated service.port envelope
    by_cases htime : 0 ≤ acceptedUtcMillis
    · have hadmits : service.journal.Admits
          (acceptedFor envelope.requestId canonical result acceptedUtcMillis).toRow := h.admits hnone hfree htime result
      have hexecute : execute wireCodec service.serviceInstanceId service.journal service.port envelope
          acceptedUtcMillis = (.ok (respond envelope (operate service.port envelope).1),
            service.journal.push _ hadmits, (operate service.port envelope).2) := by
        rw [execute_unjournaled hversion hclass hcanonical hnone, finish, ← respond,
          acceptResponse_admitted hresult hadmits]
      rw [hexecute]
      exact .accepted hcanonical hresult rfl hadmits hexecute hport
    · have hrefused : ¬service.journal.Admits
          (acceptedFor envelope.requestId canonical result acceptedUtcMillis).toRow := fun hadmits => htime hadmits.2
      have hexecute : execute wireCodec service.serviceInstanceId service.journal service.port envelope
          acceptedUtcMillis = (.error (.storage .identityCollision), service.journal,
            (operate service.port envelope).2) := by
        rw [execute_unjournaled hversion hclass hcanonical hnone, finish, ← respond,
          acceptResponse_refused hresult hrefused hnone]
      rw [hexecute]
      exact .interrupted (.inr (not_le.mp htime)) hport
  · obtain ⟨other, response, -, -, -, hresult, -⟩ := hjournaled
    have hreplay : ∃ answer, replay wireCodec canonical entry (conflictFor envelope) = .ok answer := by
      by_cases hsame : entry.canonicalCommand = canonical
      · exact ⟨response, by rw [replay, if_pos hsame, okOr_ok.mpr (wireCodec_replays _ _ hresult)]⟩
      · exact ⟨conflictFor envelope, by rw [replay, if_neg hsame]⟩
    obtain ⟨answer, hanswer⟩ := hreplay
    have hexecute : execute wireCodec service.serviceInstanceId service.journal service.port envelope acceptedUtcMillis =
        (.ok answer, service.journal, service.port) := by
      rw [execute_journaled hversion hclass hcanonical hentry, hanswer]
    rw [hexecute]
    exact .answered hexecute rfl

/-- **Every execution ends with an answer**, or with an error before the answer is journaled. -/
theorem executeFaulty_cases (h : service.Consistent interrupted) (envelope : CommandEnvelope) (acceptedUtcMillis : Int)
    (fault : Option JournalFault) : Execution service envelope acceptedUtcMillis fault
      (service.executeFaulty envelope acceptedUtcMillis fault) := by
  have hexecuted := execute_cases h envelope acceptedUtcMillis fault
  unfold LocalService.executeFaulty
  rcases journalBytes_cases service envelope with hnone | ⟨canonical, hbytes, hversion, hclass, hcanonical⟩
  · rw [hnone]
    cases fault with
    | none => exact hexecuted
    | some fault => cases fault <;> exact hexecuted
  rw [hbytes]
  cases fault with
  | none => exact hexecuted
  | some fault =>
    cases fault with
    | acceptedCommand => exact .refused rfl
    | acceptOrExisting =>
      dsimp only
      have hmutating : execute wireCodec service.serviceInstanceId service.journal service.port envelope
          acceptedUtcMillis = executeMutating wireCodec service.journal service.port envelope acceptedUtcMillis := by
        simp only [execute, hversion, hclass]
      rw [hmutating] at hexecuted
      simp only [executeMutating, hcanonical] at hexecuted
      cases hlookUp : ReceiveApiProcessor.lookUp wireCodec service.journal envelope canonical with
      | some result =>
        rw [hlookUp] at hexecuted
        exact hexecuted
      | none => exact .interrupted (.inl rfl) (operate_evaluated service.port envelope)

end Journal

/-! ## Answers are correlated -/

section Correlation

variable {serviceInstanceId : ServiceInstanceId} {envelope : CommandEnvelope} {response : ResponseEnvelope}

theorem noop_requestId (service : NoopService) (envelope : CommandEnvelope) :
    (service.execute envelope).requestId = envelope.requestId := by
  unfold NoopService.execute
  split <;> rfl

theorem versionAnswer_requestId (h : versionAnswer serviceInstanceId envelope = some response) :
    response.requestId = envelope.requestId := by
  unfold versionAnswer at h
  split at h
  · cases h
    exact noop_requestId _ _
  split at h
  · cases h
    rfl
  · cases h

theorem executeReadOnly_requestId {P : Type} [ReceiveApiPort P] (codec : CommandCodec) (port : P)
    (envelope : CommandEnvelope) :
    (executeReadOnly codec serviceInstanceId port envelope).1.requestId = envelope.requestId := by
  unfold executeReadOnly
  cases envelope.command with
  | getCapabilities supported =>
    dsimp only
    split <;> rfl
  | queryReceiveHistory afterSequence limit =>
    dsimp only
    split <;> rfl
  | _ => rfl

end Correlation

namespace LocalService

variable {P : Type} {service : LocalService P} {interrupted : List RequestId} {envelope : CommandEnvelope}
  {acceptedUtcMillis : Int} {fault : Option JournalFault} {response : ResponseEnvelope}

theorem opened_consistent (serviceInstanceId : ServiceInstanceId) (port : P) :
    (opened serviceInstanceId port).Consistent [] where
  entries := fun _ hrow => absurd hrow List.not_mem_nil
  evaluated := fun _ => Nat.zero_le _

/-- A settled answer names the request, and a success is one of an evaluated start or stop. -/
theorem Consistent.settled (h : service.Consistent interrupted)
    (hsettled : Settled wireCodec service.journal envelope response) :
    response.requestId = envelope.requestId ∧
      (response.outcome.isSuccess = true → ∀ requestId, Shared.portRequest envelope = some requestId →
        requestId ∈ service.port.evaluated) := by
  cases hsettled with
  | version hversion =>
    refine ⟨versionAnswer_requestId (hversion service.serviceInstanceId), fun hsuccess _ _ => ?_⟩
    rw [Shared.versionAnswer_not_success (hversion service.serviceInstanceId)] at hsuccess
    cases hsuccess
  | invalid hversion hcanonical =>
    refine ⟨rfl, fun hsuccess _ _ => ?_⟩
    cases hsuccess
  | @journaled canonical entry _ hversion hcanonical hentry hreplay =>
    rcases h.lookUp envelope.requestId with ⟨hnone, -⟩ | ⟨found, hfound, hjournaled, hrequest⟩
    · rw [hentry] at hnone
      cases hnone
    obtain rfl : entry = found := Option.some.inj (Except.ok.inj (hentry.symm.trans hfound))
    obtain ⟨other, original, hother, -, hbytes, hresult, hcorrelated, hport⟩ := hjournaled
    unfold replay at hreplay
    split at hreplay
    · rename_i hsame
      have horiginal : response = original := by
        have hdecoded := okOr_ok.mp hreplay
        rw [wireCodec_replays _ _ hresult] at hdecoded
        exact (Option.some.inj hdecoded).symm
      have hrequests : other.requestId = envelope.requestId := hother.symm.trans hrequest
      refine ⟨by rw [horiginal, hcorrelated, hrequests], fun _ requestId hid => hport requestId ?_⟩
      -- the canonical bytes determine the command, so the entry is the one of a start or a stop too
      have hcommand : other.command = envelope.command := by
        rw [hsame] at hbytes
        obtain ⟨_, -, hleft⟩ := exceptBind_ok.mp hbytes
        obtain ⟨_, -, hright⟩ := exceptBind_ok.mp hcanonical
        exact Command.toVec_inj (okOr_ok.mp hleft) (okOr_ok.mp hright)
      unfold Shared.portRequest at hid ⊢
      rw [hcommand, hrequests]
      exact hid
    · cases hreplay
      refine ⟨rfl, fun hsuccess _ _ => ?_⟩
      cases hsuccess

variable [ReceiveApiPort P] (errorText : ProcessorError → String)

/-- The answer of an execution names its request. -/
theorem execute_requestId (hconsistent : service.Consistent interrupted)
    (h : (execute wireCodec service.serviceInstanceId service.journal service.port envelope acceptedUtcMillis).1 =
      .ok response)
    (hsettles : envelope.command.commandClass = .mutating → Settled wireCodec service.journal envelope response) :
    response.requestId = envelope.requestId := by
  cases hclass : envelope.command.commandClass with
  | mutating => exact (hconsistent.settled (hsettles hclass)).1
  | readOnly =>
    cases hversion : versionAnswer service.serviceInstanceId envelope with
    | some answer =>
      simp only [execute, hversion] at h
      cases h
      exact versionAnswer_requestId hversion
    | none =>
      simp only [execute, hversion, hclass] at h
      cases h
      exact executeReadOnly_requestId _ _ _

/-- What a handler leaves and answers: a mutating request is settled, or the database failed. -/
structure Handled (errorText : ProcessorError → String) (interrupted : List RequestId) (service : LocalService P)
    (envelope : CommandEnvelope) (clean : Prop) (handled : ResponseEnvelope × LocalService P) : Prop where
  consistent : handled.2.Consistent interrupted
  grows : Shared.Grows service.journal handled.2.journal
  requestId : handled.1.requestId = envelope.requestId
  settled : envelope.command.commandClass = .mutating → Settled wireCodec handled.2.journal envelope handled.1 ∨
    ¬clean ∧ ∃ error, handled.1 = failedResponse envelope (errorText error)

theorem handle_spec (h : service.Consistent interrupted) (acceptedUtcMillis : Int) (fault : Option JournalFault)
    (envelope : CommandEnvelope) (connection : Connection Unit) :
    let event : ServiceEvent P := .exchange envelope acceptedUtcMillis fault connection
    Handled errorText (interrupted ++ event.interrupted.toList) service envelope event.Clean
      (handle errorText acceptedUtcMillis fault envelope service) := by
  intro event
  have hended := executeFaulty_cases h envelope acceptedUtcMillis fault
  unfold handle
  generalize service.executeFaulty envelope acceptedUtcMillis fault = ended at hended
  cases hended with
  | @answered response port hexecute hport =>
    have hok : (execute wireCodec service.serviceInstanceId service.journal service.port envelope
      acceptedUtcMillis).1 = .ok response := by rw [hexecute]
    have hsettles : envelope.command.commandClass = .mutating →
        Settled wireCodec service.journal envelope response := by
      intro hmutating
      have hsettled := execute_settles wireCodec_replays hmutating hok
      rw [hexecute] at hsettled
      exact hsettled
    exact ⟨h.later hport service.serviceInstanceId _, fun _ _ hentry => hentry, execute_requestId h hok hsettles,
      fun hmutating => .inl (hsettles hmutating)⟩
  | @accepted response canonical result port hcanonical hresult hcorrelated hadmits hexecute hport =>
    have hpushed := h.push hcanonical hresult hcorrelated hadmits port hport
    refine ⟨hpushed.later rfl service.serviceInstanceId _,
      fun _ _ hentry => CommandTable.acceptedCommand_push_of_some (h := hadmits) hentry, hcorrelated,
      fun hmutating => .inl ?_⟩
    have hsettled := execute_settles wireCodec_replays hmutating (by rw [hexecute])
    rw [hexecute] at hsettled
    exact hsettled
  | @refused error hfault =>
    refine ⟨h.later rfl service.serviceInstanceId _, fun _ _ hentry => hentry, rfl, fun _ => .inr ⟨?_, error, rfl⟩⟩
    rintro ⟨hnone, -⟩
    rw [hfault] at hnone
    cases hnone
  | @interrupted error port hfault hport =>
    have hinterrupted : event.interrupted.toList = [envelope.requestId] := by
      show (if _ then some envelope.requestId else none).toList = _
      rw [if_pos hfault]
      rfl
    refine ⟨hinterrupted ▸ h.interrupt port hport, fun _ _ hentry => hentry, rfl, fun _ => .inr ⟨?_, error, rfl⟩⟩
    rintro ⟨hnone, htime⟩
    rcases hfault with haccept | hbefore
    · rw [hnone] at haccept
      cases haccept
    · exact absurd hbefore (not_lt.mpr htime)

/-! ## Runs -/

variable {errorText}

/-- One event keeps the service consistent and settled requests settled. -/
theorem step_keeps (h : service.Consistent interrupted) (event : ServiceEvent P)
    (hdelivered : service.Delivered errorText event) :
    (step errorText service event).2.Consistent (interrupted ++ event.interrupted.toList) ∧
      Shared.Grows service.journal (step errorText service event).2.journal := by
  cases event with
  | restart serviceInstanceId port =>
    have hlater : ({ service with serviceInstanceId } : LocalService P).Consistent (interrupted ++ []) :=
      h.later rfl serviceInstanceId []
    exact ⟨⟨hlater.entries, hlater.evaluated⟩, fun _ _ hentry => hentry⟩
  | crash envelope serviceInstanceId port =>
    refine ⟨?_, fun _ _ hentry => hentry⟩
    have hended := executeFaulty_cases h envelope 0 (some .acceptOrExisting)
    show ({ service with serviceInstanceId, port := { (service.executeFaulty envelope 0 (some .acceptOrExisting)).2.2 with
      port } } : LocalService P).Consistent (interrupted ++ [envelope.requestId])
    generalize service.executeFaulty envelope 0 (some .acceptOrExisting) = ended at hended
    cases hended with
    | answered hexecute hport =>
      have hlater := h.later hport serviceInstanceId [envelope.requestId]
      exact ⟨hlater.entries, hlater.evaluated⟩
    | refused hfault => cases hfault
    | accepted hcanonical hresult hcorrelated hadmits hexecute hport =>
      have hasked := h.interrupt _ hport
      exact ⟨hasked.entries, hasked.evaluated⟩
    | interrupted hfault hport =>
      have hasked := h.interrupt _ hport
      exact ⟨hasked.entries, hasked.evaluated⟩
  | exchange envelope acceptedUtcMillis fault connection =>
    have hhandled := handle_spec errorText h acceptedUtcMillis fault envelope connection
    rcases serveExchange_cases requestJson_faithful connection.server (exchange_wrote connection.client envelope)
      hdelivered.1 with ⟨-, hstate⟩ | ⟨-, hstate⟩
    · have hafter : (step errorText service (.exchange envelope acceptedUtcMillis fault connection)).2 = service := hstate
      rw [hafter]
      exact ⟨h.later rfl service.serviceInstanceId _, fun _ _ hentry => hentry⟩
    · have hafter : (step errorText service (.exchange envelope acceptedUtcMillis fault connection)).2 =
        (handle errorText acceptedUtcMillis fault envelope service).2 := hstate
      rw [hafter]
      exact ⟨hhandled.consistent, hhandled.grows⟩

/-- A response that is received is the one of a handler. -/
theorem step_received (h : service.Consistent interrupted) (event : ServiceEvent P)
    (hdelivered : service.Delivered errorText event)
    (hreceived : (step errorText service event).1 = some (envelope, response)) :
    response.requestId = envelope.requestId ∧
      (envelope.command.commandClass = .mutating →
        Settled wireCodec (step errorText service event).2.journal envelope response ∨
          ¬event.Clean ∧ ∃ error, response = failedResponse envelope (errorText error)) := by
  cases event with
  | restart serviceInstanceId port => cases hreceived
  | crash envelope serviceInstanceId port => cases hreceived
  | exchange sent acceptedUtcMillis fault connection =>
    obtain ⟨answer, hanswer, hpair⟩ := Option.map_eq_some_iff.mp hreceived
    cases hpair
    have hok : (Ipc.exchange requestJson responseJson connection.client envelope).1 = .ok response := by
      unfold request at hanswer
      revert hanswer
      cases (Ipc.exchange requestJson responseJson connection.client envelope).1 with
      | error error => exact fun hanswer => nomatch hanswer
      | ok answer => exact fun hanswer => congrArg Except.ok (Option.some.inj hanswer)
    obtain ⟨rfl, hstate⟩ := exchange_answered requestJson_faithful responseJson_faithful hdelivered hok
    have hhandled := handle_spec errorText h acceptedUtcMillis fault envelope connection
    refine ⟨hhandled.requestId, fun hmutating => ?_⟩
    have hafter : (step errorText service (.exchange envelope acceptedUtcMillis fault connection)).2 =
      (handle errorText acceptedUtcMillis fault envelope service).2 := hstate
    rw [hafter]
    exact hhandled.settled hmutating

/-- An event of a run, and the request and the response that its client received. -/
abbrev Received (P : Type) : Type := ServiceEvent P × Option (CommandEnvelope × ResponseEnvelope)

/-- The requests whose evaluations a run may leave out of the journal. -/
def interruptedIn (run : List (ServiceEvent P)) : List RequestId := run.filterMap ServiceEvent.interrupted

/-- The response says that the database failed, in an exchange in which it did. -/
def Failed (errorText : ProcessorError → String) (received : Received P) : Prop :=
  ¬received.1.Clean ∧ ∃ envelope error, received.2 = some (envelope, failedResponse envelope (errorText error))

/-- At the end of a run the service is consistent, and every response that was received is settled or a failure. -/
theorem run_settles (h : service.Consistent interrupted) {run : List (ServiceEvent P)}
    (hdelivered : EveryStep (step errorText) (Delivered errorText) service run) :
    (final (step errorText) service run).Consistent (interrupted ++ interruptedIn run) ∧
      Shared.Grows service.journal (final (step errorText) service run).journal ∧
      ∀ received ∈ transcript (step errorText) service run, ∀ envelope response,
        received.2 = some (envelope, response) →
        response.requestId = envelope.requestId ∧
          (envelope.command.commandClass = .mutating →
            Settled wireCodec (final (step errorText) service run).journal envelope response ∨
              Failed errorText received ∧ response.outcome.isSuccess = false) := by
  induction run generalizing service interrupted with
  | nil =>
    refine ⟨?_, fun _ _ hentry => hentry, fun _ hreceived => absurd hreceived List.not_mem_nil⟩
    rw [interruptedIn, List.filterMap_nil, List.append_nil]
    exact h
  | cons event later ih =>
    obtain ⟨hevent, hlater⟩ := hdelivered
    obtain ⟨hconsistent, hgrows⟩ := step_keeps h event hevent
    obtain ⟨hlast, hlaterGrows, hreceived⟩ := ih hconsistent hlater
    have hinterrupted : interruptedIn (event :: later) = event.interrupted.toList ++ interruptedIn later := by
      simp only [interruptedIn, List.filterMap_cons]
      cases event.interrupted <;> rfl
    refine ⟨?_, fun requestId entry hentry => hlaterGrows _ _ (hgrows _ _ hentry), ?_⟩
    · rw [hinterrupted, ← List.append_assoc]
      exact hlast
    · intro received hmem envelope response hout
      rcases List.mem_cons.mp hmem with rfl | hmem
      · obtain ⟨hcorrelated, hsettles⟩ := step_received h event hevent hout
        refine ⟨hcorrelated, fun hmutating => ?_⟩
        rcases hsettles hmutating with hsettled | ⟨hunclean, error, rfl⟩
        · exact .inl (hsettled.grow hlaterGrows)
        · exact .inr ⟨⟨hunclean, envelope, error, hout⟩, rfl⟩
      · exact hreceived received hmem envelope response hout

/-- **Mutations happen once**: in every run of exchanges, repeated by their clients, cut off by the transport, and
interrupted by restarts and failures of the database, a request is evaluated at most once more than its evaluations were
kept from the journal; a received response names its request; all responses that are received to one mutating request are
the same, except those that say that the database failed; and a success is received only for a start or a stop that was
evaluated. -/
theorem mutations_once (serviceInstanceId : ServiceInstanceId) (port : P) (run : List (ServiceEvent P))
    (hdelivered : EveryStep (step errorText) (Delivered errorText) (opened serviceInstanceId port) run) :
    let service := final (step errorText) (opened serviceInstanceId port) run
    let received := transcript (step errorText) (opened serviceInstanceId port) run
    (∀ requestId, service.port.evaluated.count requestId ≤ (interruptedIn run).count requestId + 1) ∧
      (∀ event envelope response, (event, some (envelope, response)) ∈ received →
        response.requestId = envelope.requestId ∧
          (response.outcome.isSuccess = true → ∀ requestId, Shared.portRequest envelope = some requestId →
            requestId ∈ service.port.evaluated)) ∧
      ∀ event other envelope first second, envelope.command.commandClass = .mutating →
        (event, some (envelope, first)) ∈ received → (other, some (envelope, second)) ∈ received →
        ¬Failed errorText (event, some (envelope, first)) → ¬Failed errorText (other, some (envelope, second)) →
          first = second := by
  intro service received
  obtain ⟨hlast, -, hreceived⟩ := run_settles (opened_consistent serviceInstanceId port) hdelivered
  refine ⟨fun requestId => ?_, fun event envelope response hmem => ?_, ?_⟩
  · have hevaluated := hlast.evaluated requestId
    have hrows := countP_request_le service.journal requestId
    exact hevaluated.trans (Nat.add_le_add_left hrows _)
  · obtain ⟨hcorrelated, hsettled⟩ := hreceived _ hmem envelope response rfl
    refine ⟨hcorrelated, fun hsuccess requestId hid => ?_⟩
    rcases hsettled (portRequest_mutating hid) with hsettled | ⟨-, hfailed⟩
    · exact (hlast.settled hsettled).2 hsuccess requestId hid
    · rw [hsuccess] at hfailed
      cases hfailed
  · intro event other envelope first second hmutating hfirst hsecond hclear hotherClear
    rcases (hreceived _ hfirst envelope first rfl).2 hmutating with hsettled | ⟨hfailed, -⟩
    · rcases (hreceived _ hsecond envelope second rfl).2 hmutating with hother | ⟨hfailed, -⟩
      · exact hsettled.unique hmutating hother
      · exact absurd hfailed hotherClear
    · exact absurd hfailed hclear

/-! ## A start whose answer was lost -/

/-- A connection without a fault, whose server is delivered what the client writes. -/
def calm (envelope : CommandEnvelope) (returned : ByteStream) : Connection Unit :=
  let client : ClientSide Unit :=
    { beforeConnect := false, connected := .ok (), writing := false, calls := [], reading := (false, false), returned }
  { client
    server :=
      { beforeAccept := false, authorized := .ok (), afterAccept := false, reading := (false, false),
        inbound := [.ok (Ipc.exchange requestJson responseJson client envelope).2], writing := false, calls := [] } }

/-- What a client has written does not depend on what it is answered. -/
theorem calm_server (envelope : CommandEnvelope) (returned : ByteStream) :
    (calm envelope returned).server = (calm envelope []).server := by
  have hwritten : ∀ returned : ByteStream,
      (Ipc.exchange requestJson responseJson (calm envelope returned).client envelope).2 =
        (finalState (writeFrame requestJson envelope false ⟨[], []⟩)).written := by
    intro returned
    unfold Ipc.exchange calm
    dsimp only
    cases writeFrame requestJson envelope false ⟨[], []⟩ with
    | error error writer => rfl
    | ok _ writer =>
      dsimp only
      cases readFrame responseJson (false, false) returned <;> rfl
  show ServerSide.mk false (.ok ()) false (false, false)
      [.ok (Ipc.exchange requestJson responseJson (calm envelope returned).client envelope).2] false [] =
    ServerSide.mk false (.ok ()) false (false, false)
      [.ok (Ipc.exchange requestJson responseJson (calm envelope []).client envelope).2] false []
  rw [hwritten, hwritten]

variable (errorText)

/-- The answer is delivered as well. -/
def answered (acceptedUtcMillis : Int) (fault : Option JournalFault) (envelope : CommandEnvelope)
    (service : LocalService P) : Connection Unit :=
  calm envelope [.ok (serveReceiveOnce errorText acceptedUtcMillis fault (calm envelope []).server service).2.1]

variable {errorText}

theorem carries_self (bytes : List UInt8) : Carries bytes [.ok bytes] := by
  show bytes ++ [] <+: bytes
  rw [List.append_nil]

theorem calm_delivered (service : LocalService P) (acceptedUtcMillis : Int) (fault : Option JournalFault)
    (envelope : CommandEnvelope) :
    Delivered errorText service (.exchange envelope acceptedUtcMillis fault (calm envelope [])) :=
  ⟨carries_self _, List.nil_prefix⟩

theorem answered_delivered (service : LocalService P) (acceptedUtcMillis : Int) (fault : Option JournalFault)
    (envelope : CommandEnvelope) :
    Delivered errorText service
      (.exchange envelope acceptedUtcMillis fault (answered errorText acceptedUtcMillis fault envelope service)) := by
  refine ⟨carries_self _, ?_⟩
  unfold answered
  rw [calm_server]
  exact carries_self _

theorem calm_undisturbed (envelope : CommandEnvelope) (returned : ByteStream) :
    (calm envelope returned).Undisturbed where
  beforeConnect := rfl
  connected := rfl
  sending := ⟨rfl, rfl⟩
  receiving := rfl
  beforeAccept := rfl
  authorized := rfl
  afterAccept := rfl
  reading := rfl
  writing := ⟨rfl, rfl⟩

section Calm

variable (service : LocalService P) (acceptedUtcMillis : Int) (fault : Option JournalFault) {envelope : CommandEnvelope}
  {payload answer : List UInt8}

/-- One piece delivers a frame. -/
theorem delivers_frame (payload : List UInt8) : Delivers [.ok (frame payload)] (frame payload) := by
  have hlength : 0 < (frame payload).length := by
    rw [frame, List.length_append, length_toBeBytes]
    omega
  exact ⟨[frame payload], rfl, List.forall_mem_singleton.mpr (List.ne_nil_of_length_pos hlength),
    List.flatten_singleton⟩

/-- Where nothing is disturbed, the service handles the request. -/
theorem calm_serves (hpayload : Encodes requestJson envelope payload)
    (hanswer : Encodes responseJson (handle errorText acceptedUtcMillis fault envelope service).1 answer)
    (returned : ByteStream) :
    serveReceiveOnce errorText acceptedUtcMillis fault (calm envelope returned).server service =
      (.ok (), frame answer, (handle errorText acceptedUtcMillis fault envelope service).2) := by
  have hwritten : (Ipc.exchange requestJson responseJson (calm envelope returned).client envelope).2 = frame payload :=
    (exchange_sends (calm_undisturbed envelope returned) hpayload).1
  have hinbound : (calm envelope returned).server.inbound = [.ok (frame payload)] := by
    rw [← hwritten]
    rfl
  refine serveExchange_answers requestJson_faithful (calm_undisturbed envelope returned) hpayload hanswer ?_
  rw [hinbound]
  exact delivers_frame payload

/-- The answer to a request that is handled is lost. -/
theorem step_lost (hpayload : Encodes requestJson envelope payload)
    (hanswer : Encodes responseJson (handle errorText acceptedUtcMillis fault envelope service).1 answer) :
    step errorText service (.exchange envelope acceptedUtcMillis fault (calm envelope [])) =
      (none, (handle errorText acceptedUtcMillis fault envelope service).2) := by
  have hnone : (request (calm envelope []) envelope).toOption = none := by
    unfold request Ipc.exchange calm
    dsimp only
    cases writeFrame requestJson envelope false ⟨[], []⟩ <;> rfl
  show ((request (calm envelope []) envelope).toOption.map fun response => (envelope, response),
    (serveReceiveOnce errorText acceptedUtcMillis fault (calm envelope []).server service).2.2) = _
  rw [hnone, calm_serves service acceptedUtcMillis fault hpayload hanswer []]
  rfl

/-- The answer to a request that is handled is received. -/
theorem step_answered (hpayload : Encodes requestJson envelope payload)
    (hanswer : Encodes responseJson (handle errorText acceptedUtcMillis fault envelope service).1 answer) :
    step errorText service
        (.exchange envelope acceptedUtcMillis fault (answered errorText acceptedUtcMillis fault envelope service)) =
      (some (envelope, (handle errorText acceptedUtcMillis fault envelope service).1),
        (handle errorText acceptedUtcMillis fault envelope service).2) := by
  have hreturned : answered errorText acceptedUtcMillis fault envelope service = calm envelope [.ok (frame answer)] := by
    unfold answered
    rw [calm_serves service acceptedUtcMillis fault hpayload hanswer []]
  obtain ⟨later, hread, -⟩ := readFrame_run responseJson_faithful hanswer
    (by rw [List.append_nil]; exact delivers_frame answer : Delivers [.ok (frame answer)] (frame answer ++ []))
  have hreceived : request (calm envelope [.ok (frame answer)]) envelope =
      .ok (handle errorText acceptedUtcMillis fault envelope service).1 :=
    (exchange_sends (calm_undisturbed envelope [.ok (frame answer)]) hpayload).2 _ later hread
  rw [hreturned]
  show ((request (calm envelope [.ok (frame answer)]) envelope).toOption.map fun response => (envelope, response),
    (serveReceiveOnce errorText acceptedUtcMillis fault (calm envelope [.ok (frame answer)]).server service).2.2) = _
  rw [hreceived, calm_serves service acceptedUtcMillis fault hpayload hanswer]
  rfl

/-- A settled request is answered as before, and is not evaluated again. -/
theorem handle_settled {response : ResponseEnvelope} (hmutating : envelope.command.commandClass = .mutating)
    (h : Settled wireCodec service.journal envelope response) :
    handle errorText acceptedUtcMillis none envelope service = (response, service) := by
  have hexecute : service.executeFaulty envelope acceptedUtcMillis none = (.ok response, service.journal, service.port) :=
    h.execute hmutating
  unfold handle
  rw [hexecute]

/-- A value whose bytes are in bounds has a frame. -/
theorem encodes_bounded {T : Type} {json : SerdeJson Unit T} {value : T}
    (h : (json.toVec value).toOption.any (fun payload => payload.length ≤ maxFrameBytes) = true) :
    ∃ payload, Encodes json value payload := by
  unfold Encodes
  cases hvec : json.toVec value with
  | error error =>
    rw [hvec] at h
    cases h
  | ok payload =>
    rw [hvec] at h
    exact ⟨payload, rfl, of_decide_eq_true h⟩

end Calm

/-- A start whose answer is delivered. -/
def deliveredStart (acceptedUtcMillis : Int) (fault : Option JournalFault) (service : LocalService DevicePort) :
    ServiceEvent DevicePort :=
  .exchange startRequest acceptedUtcMillis fault
    (answered (fun _ => "") acceptedUtcMillis fault startRequest service)

/-- The device is missing when it is first asked for. -/
def firstStart : ServiceEvent DevicePort :=
  deliveredStart 1000 (some .acceptOrExisting) (opened startInstance (DevicePort.mk false))

/-- The states of the service: the first start is not journaled, the second one is. -/
def startedOnce : LocalService DevicePort :=
  (handle (fun _ => "") 1000 (some .acceptOrExisting) startRequest (opened startInstance (DevicePort.mk false))).2

def startedTwice : LocalService DevicePort := (handle (fun _ => "") 2000 none startRequest startedOnce).2

/-- It is restarted. -/
def restarted : LocalService DevicePort :=
  { startedTwice with serviceInstanceId := startInstance, port := { startedTwice.port with port := DevicePort.mk true } }

/-- The answer to the second start is lost, and it is sent twice again after the restart. -/
def repeatedStart : List (ServiceEvent DevicePort) :=
  [firstStart, .exchange startRequest 2000 none (calm startRequest []), .restart startInstance (DevicePort.mk true),
    deliveredStart 3000 none restarted, deliveredStart 4000 none restarted]

/-- The answer of the device that is there. -/
def startAnswer : ResponseEnvelope := respond startRequest (operate (DevicePort.mk true) startRequest).1

theorem handle_startedOnce :
    handle (fun _ => "") 1000 (some .acceptOrExisting) startRequest (opened startInstance (DevicePort.mk false)) =
      (failedResponse startRequest "", startedOnce) := by
  refine Prod.ext ?_ rfl
  decide +kernel

theorem handle_startedTwice : handle (fun _ => "") 2000 none startRequest startedOnce = (startAnswer, startedTwice) := by
  refine Prod.ext ?_ rfl
  decide +kernel

theorem startAnswer_settled : Settled wireCodec restarted.journal startRequest startAnswer := by
  have hexecuted : (execute wireCodec startedOnce.serviceInstanceId startedOnce.journal startedOnce.port startRequest
    2000).1 = .ok startAnswer := by decide +kernel
  exact execute_settles wireCodec_replays rfl hexecuted

theorem restarted_evaluated : restarted.port.evaluated = [startRequest.requestId, startRequest.requestId] := by
  decide +kernel

theorem startRequest_encodes : ∃ payload, Encodes requestJson startRequest payload := encodes_bounded (by decide +kernel)

theorem failed_encodes : ∃ answer, Encodes responseJson (failedResponse startRequest "") answer :=
  encodes_bounded (by decide +kernel)

theorem startAnswer_encodes : ∃ answer, Encodes responseJson startAnswer answer := encodes_bounded (by decide +kernel)

/-- A start that is handled is answered to the client. -/
theorem step_deliveredStart {service after : LocalService DevicePort} {acceptedUtcMillis : Int}
    {fault : Option JournalFault} {response : ResponseEnvelope}
    (hhandle : handle (fun _ => "") acceptedUtcMillis fault startRequest service = (response, after))
    (hencodes : ∃ answer, Encodes responseJson response answer) :
    step (fun _ => "") service (deliveredStart acceptedUtcMillis fault service) =
      (some (startRequest, response), after) := by
  obtain ⟨payload, hpayload⟩ := startRequest_encodes
  obtain ⟨answer, hanswer⟩ := hencodes
  have hstep := step_answered service acceptedUtcMillis fault hpayload (by rw [hhandle]; exact hanswer)
  rw [hhandle] at hstep
  exact hstep

theorem step_startedOnce : step (fun _ => "") (opened startInstance (DevicePort.mk false)) firstStart =
    (some (startRequest, failedResponse startRequest ""), startedOnce) :=
  step_deliveredStart handle_startedOnce failed_encodes

theorem step_startedTwice : step (fun _ => "") startedOnce (.exchange startRequest 2000 none (calm startRequest [])) =
    (none, startedTwice) := by
  obtain ⟨payload, hpayload⟩ := startRequest_encodes
  obtain ⟨answer, hanswer⟩ := startAnswer_encodes
  have hstep := step_lost startedOnce 2000 none hpayload (by rw [handle_startedTwice]; exact hanswer)
  rw [handle_startedTwice] at hstep
  exact hstep

theorem step_restarted (acceptedUtcMillis : Int) :
    step (fun _ => "") restarted (deliveredStart acceptedUtcMillis none restarted) =
      (some (startRequest, startAnswer), restarted) :=
  step_deliveredStart (handle_settled restarted acceptedUtcMillis rfl startAnswer_settled) startAnswer_encodes

theorem step_restart :
    step (fun _ => "") startedTwice (.restart startInstance (DevicePort.mk true)) = (none, restarted) := rfl

theorem repeatedStart_run :
    final (step fun _ => "") (opened startInstance (DevicePort.mk false)) repeatedStart = restarted ∧
    (transcript (step fun _ => "") (opened startInstance (DevicePort.mk false)) repeatedStart).map Prod.snd =
      [some (startRequest, failedResponse startRequest ""), none, none, some (startRequest, startAnswer),
        some (startRequest, startAnswer)] := by
  unfold repeatedStart
  constructor
  · rw [final_step step_startedOnce, final_step step_startedTwice, final_step step_restart,
      final_step (step_restarted 3000), final_step (step_restarted 4000), final_nil]
  · rw [transcript_step step_startedOnce, transcript_step step_startedTwice, transcript_step step_restart,
      transcript_step (step_restarted 3000), transcript_step (step_restarted 4000), transcript_nil]
    rfl

theorem repeatedStart_delivered : EveryStep (step fun _ => "") (Delivered fun _ => "")
    (opened startInstance (DevicePort.mk false)) repeatedStart := by
  unfold repeatedStart
  rw [everyStep_step step_startedOnce, everyStep_step step_startedTwice, everyStep_step step_restart,
    everyStep_step (step_restarted 3000), everyStep_step (step_restarted 4000)]
  exact ⟨answered_delivered (opened startInstance (DevicePort.mk false)) 1000 (some .acceptOrExisting) startRequest,
    calm_delivered startedOnce 2000 none startRequest, trivial, answered_delivered restarted 3000 none startRequest,
    answered_delivered restarted 4000 none startRequest, trivial⟩

/-- The start is evaluated a second time as its first answer was not journaled, and then no more. -/
theorem mutations_once_repeated :
    let service := final (step fun _ => "") (opened startInstance (DevicePort.mk false)) repeatedStart
    let received := transcript (step fun _ => "") (opened startInstance (DevicePort.mk false)) repeatedStart
    interruptedIn repeatedStart = [startRequest.requestId] ∧
      service.port.evaluated = [startRequest.requestId, startRequest.requestId] ∧
      service.port.evaluated.count startRequest.requestId ≤
        (interruptedIn repeatedStart).count startRequest.requestId + 1 ∧
      received.map Prod.snd =
        [some (startRequest, failedResponse startRequest ""), none, none, some (startRequest, startAnswer),
          some (startRequest, startAnswer)] ∧
      startAnswer.outcome.isSuccess = true ∧
      ∀ event other first second, (event, some (startRequest, first)) ∈ received →
        (other, some (startRequest, second)) ∈ received → ¬Failed (fun _ => "") (event, some (startRequest, first)) →
        ¬Failed (fun _ => "") (other, some (startRequest, second)) → first = second := by
  obtain ⟨honce, -, hsame⟩ := mutations_once startInstance (DevicePort.mk false) repeatedStart repeatedStart_delivered
  obtain ⟨hfinal, hreceived⟩ := repeatedStart_run
  have hevaluated : (final (step fun _ => "") (opened startInstance (DevicePort.mk false)) repeatedStart).port.evaluated =
      [startRequest.requestId, startRequest.requestId] := by rw [hfinal, restarted_evaluated]
  exact ⟨rfl, hevaluated, honce startRequest.requestId, hreceived, rfl, fun event other first second =>
    hsame event other startRequest first second rfl⟩

end LocalService

end Slotpilot.Daemon
