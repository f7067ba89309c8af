import Slotpilot.Daemon.Commands
import Slotpilot.Lib.Machine

/-!
# Processors that share one journal

Any number of command and receive processors execute requests over one journal. A call runs in the steps of the source:
lookup, evaluation through the port, accept. The steps of different calls interleave in any order, and a call can crash
between two of its steps. The answers of the port are part of the step that calls it.

* `execute_run`: the steps of one call, taken in a row, are the source's `execute`;
* `one_durable_winner`: a journaled entry stays, every answer from the journal is the entry's result or a conflict, and
  after a lookup that finds an entry the port is not called.
-/

set_option autoImplicit false

namespace Slotpilot.Daemon

open Lib Domain Storage Api

/-! ## Calls and their steps -/

/-- The answers of a port during one step. -/
structure PortAnswers where
  inputDevices : Except ReceiveApiFault InputDevicePage
  status : Except ReceiveApiFault ReceiveStatus
  started : Except ReceiveApiFault ReceiveStatus
  stopped : Except ReceiveApiFault ReceiveStatus
  history : Except ReceiveApiFault ReceiveHistoryPage

instance : ReceiveApiPort PortAnswers where
  inputDevices self := (self.inputDevices, self)
  status self := (self.status, self)
  start self _ _ := (self.started, self)
  stop self _ := (self.stopped, self)
  history self _ _ := (self.history, self)

/-- The processor that executes a request. -/
inductive Processor
  | command (service : NoopService)
  | receiveApi (serviceInstanceId : ServiceInstanceId)

/-- What a call does next. -/
inductive Stage
  | lookingUp (canonical : List UInt8)
  | operating (canonical : List UInt8)
  | accepting (canonical : List UInt8) (response conflict : ResponseEnvelope)
  | answered (result : Except ProcessorError ResponseEnvelope)
  | crashed

/-- One execution of a request by a processor. -/
structure Call where
  processor : Processor
  envelope : CommandEnvelope
  acceptedUtcMillis : Int
  stage : Stage

/-- The journal with the calls over it. -/
structure Shared where
  journal : CommandTable
  calls : List Call

/-- One step of one call. -/
inductive Action
  | submit (processor : Processor) (envelope : CommandEnvelope) (acceptedUtcMillis : Int) (port : PortAnswers)
  | lookUp (call : Nat)
  | operate (call : Nat) (port : PortAnswers)
  | accept (call : Nat)
  | crash (call : Nat)

/-- The call that an action moves. -/
def Action.target : Action → Option Nat
  | .submit .. => none
  | .lookUp index | .operate index _ | .accept index | .crash index => some index

namespace Shared

variable (codec : CommandCodec)

/-- What a processor does before it reads the journal. -/
def firstStage (processor : Processor) (envelope : CommandEnvelope) (port : PortAnswers) : Stage :=
  match processor with
  | .command service =>
    if envelope.apiVersion ≠ apiVersion ∨ envelope.command.commandClass = .readOnly then
      .answered (.ok (service.execute envelope))
    else
      match envelope.command.canonicalBytes codec.commandToVec with
      | .error error => .answered (.error (.canonicalization error))
      | .ok canonical =>
        match envelope.command with
        | .noopMutation marker =>
          .accepting canonical (CommandProcessor.acceptedResponse envelope.requestId marker)
            (CommandProcessor.conflictResponse envelope.requestId)
        | _ => .answered (.ok (service.execute envelope))
  | .receiveApi serviceInstanceId =>
    match ReceiveApiProcessor.versionAnswer serviceInstanceId envelope with
    | some response => .answered (.ok response)
    | none =>
      match envelope.command.commandClass with
      | .readOnly => .answered (.ok (ReceiveApiProcessor.executeReadOnly codec serviceInstanceId port envelope).1)
      | .mutating =>
        match envelope.command.canonicalBytes codec.commandToVec with
        | .error _ =>
          .answered (.ok
            { apiVersion := envelope.apiVersion, requestId := envelope.requestId, outcome := invalidRequestOutcome })
        | .ok canonical => .lookingUp canonical

/-- The request for which the evaluation of a command calls the port. -/
def portRequest (envelope : CommandEnvelope) : Option RequestId :=
  match envelope.command with
  | .receiveStart _ | .receiveStop => some envelope.requestId
  | _ => none

/-- A call moves to its next stage. -/
def advance (self : Shared) (index : Nat) (call : Call) (stage : Stage) : Shared :=
  { self with calls := self.calls.set index { call with stage } }

/-- One step, with the request for which it calls the port. A step that the call is not ready for does nothing. -/
def step (self : Shared) (action : Action) : Option RequestId × Shared :=
  match action with
  | .submit processor envelope acceptedUtcMillis port =>
    (none, { self with calls := self.calls ++
      [{ processor, envelope, acceptedUtcMillis, stage := firstStage codec processor envelope port }] })
  | .lookUp index =>
    match self.calls[index]? with
    | some ⟨processor, envelope, acceptedUtcMillis, .lookingUp canonical⟩ =>
      let stage :=
        match ReceiveApiProcessor.lookUp codec self.journal envelope canonical with
        | some result => Stage.answered result
        | none => .operating canonical
      (none, self.advance index ⟨processor, envelope, acceptedUtcMillis, .lookingUp canonical⟩ stage)
    | _ => (none, self)
  | .operate index port =>
    match self.calls[index]? with
    | some ⟨processor, envelope, acceptedUtcMillis, .operating canonical⟩ =>
      let outcome := (ReceiveApiProcessor.operate port envelope).1
      (portRequest envelope,
        self.advance index ⟨processor, envelope, acceptedUtcMillis, .operating canonical⟩
          (.accepting canonical { apiVersion := envelope.apiVersion, requestId := envelope.requestId, outcome }
            (ReceiveApiProcessor.conflictFor envelope)))
    | _ => (none, self)
  | .accept index =>
    match self.calls[index]? with
    | some ⟨processor, envelope, acceptedUtcMillis, .accepting canonical response conflict⟩ =>
      let (result, journal) :=
        acceptResponse codec self.journal envelope.requestId canonical response conflict acceptedUtcMillis
      (none, { self with journal }.advance index
        ⟨processor, envelope, acceptedUtcMillis, .accepting canonical response conflict⟩ (.answered result))
    | _ => (none, self)
  | .crash index =>
    match self.calls[index]? with
    | some call =>
      match call.stage with
      | .answered _ => (none, self)
      | _ => (none, self.advance index call .crashed)
    | none => (none, self)

/-! ## One call in a row -/

/-- The steps of one call of a receive processor are the source's `execute`. -/
theorem execute_run (journal : CommandTable) (serviceInstanceId : ServiceInstanceId) (envelope : CommandEnvelope)
    (acceptedUtcMillis : Int) (port : PortAnswers) :
    let (result, after, _) :=
      ReceiveApiProcessor.execute codec serviceInstanceId journal port envelope acceptedUtcMillis
    final (step codec) ⟨journal, []⟩
        [.submit (.receiveApi serviceInstanceId) envelope acceptedUtcMillis port, .lookUp 0, .operate 0 port, .accept 0] =
      ⟨after, [⟨.receiveApi serviceInstanceId, envelope, acceptedUtcMillis, .answered result⟩]⟩ := by
  cases hversion : ReceiveApiProcessor.versionAnswer serviceInstanceId envelope with
  | some response => simp [ReceiveApiProcessor.execute, step, firstStage, hversion]
  | none =>
    cases hclass : envelope.command.commandClass with
    | readOnly => simp [ReceiveApiProcessor.execute, step, firstStage, hversion, hclass]
    | mutating =>
      cases hcanonical : envelope.command.canonicalBytes codec.commandToVec with
      | error error =>
        simp [ReceiveApiProcessor.execute, ReceiveApiProcessor.executeMutating, step, firstStage, hversion, hclass, hcanonical]
      | ok canonical =>
        cases hlookUp : ReceiveApiProcessor.lookUp codec journal envelope canonical with
        | some result =>
          simp [ReceiveApiProcessor.execute, ReceiveApiProcessor.executeMutating, step, firstStage, advance, hversion, hclass,
            hcanonical, hlookUp]
        | none =>
          simp [ReceiveApiProcessor.execute, ReceiveApiProcessor.executeMutating, ReceiveApiProcessor.finish, step, firstStage,
            advance, hversion, hclass, hcanonical, hlookUp]

/-- The steps of one call of a command processor are the source's `execute`. -/
theorem commandExecute_run (journal : CommandTable) (service : NoopService) (envelope : CommandEnvelope)
    (acceptedUtcMillis : Int) (port : PortAnswers) :
    let (result, after) := CommandProcessor.execute codec service journal envelope acceptedUtcMillis
    final (step codec) ⟨journal, []⟩ [.submit (.command service) envelope acceptedUtcMillis port, .accept 0] =
      ⟨after, [⟨.command service, envelope, acceptedUtcMillis, .answered result⟩]⟩ := by
  obtain ⟨version, requestId, command⟩ := envelope
  by_cases hdirect : version ≠ apiVersion ∨ command.commandClass = .readOnly
  · simp [CommandProcessor.execute, step, firstStage, hdirect]
  · cases hcanonical : command.canonicalBytes codec.commandToVec with
    | error error => simp [CommandProcessor.execute, step, firstStage, hdirect, hcanonical]
    | ok canonical =>
      cases command <;> simp [CommandProcessor.execute, step, firstStage, advance, hdirect, hcanonical]

/-! ## The cases of a step -/

/-- What one step does to the call it moves: its output, the journal after it and the next stage. -/
inductive Moves (journal : CommandTable) (call : Call) : Option RequestId → CommandTable → Stage → Prop
  | found {canonical : List UInt8} {result : Except ProcessorError ResponseEnvelope}
      (hstage : call.stage = .lookingUp canonical)
      (hlookUp : ReceiveApiProcessor.lookUp codec journal call.envelope canonical = some result) :
      Moves journal call none journal (.answered result)
  | missed {canonical : List UInt8} (hstage : call.stage = .lookingUp canonical)
      (hlookUp : ReceiveApiProcessor.lookUp codec journal call.envelope canonical = none) :
      Moves journal call none journal (.operating canonical)
  | evaluated {canonical : List UInt8} (port : PortAnswers) (hstage : call.stage = .operating canonical) :
      Moves journal call (portRequest call.envelope) journal
        (.accepting canonical
          { apiVersion := call.envelope.apiVersion, requestId := call.envelope.requestId
            outcome := (ReceiveApiProcessor.operate port call.envelope).1 }
          (ReceiveApiProcessor.conflictFor call.envelope))
  | accepted {canonical : List UInt8} {response conflict : ResponseEnvelope}
      (hstage : call.stage = .accepting canonical response conflict) :
      Moves journal call none
        (acceptResponse codec journal call.envelope.requestId canonical response conflict call.acceptedUtcMillis).2
        (.answered
          (acceptResponse codec journal call.envelope.requestId canonical response conflict call.acceptedUtcMillis).1)
  | crashed (hopen : ∀ result, call.stage ≠ .answered result) : Moves journal call none journal .crashed

variable {codec} {s : Shared}

/-- A step does nothing, adds a call, or moves one call. -/
theorem step_cases (s : Shared) (action : Action) :
    step codec s action = (none, s) ∨
    (∃ processor envelope acceptedUtcMillis port, step codec s action = (none, { s with calls := s.calls ++
      [{ processor, envelope, acceptedUtcMillis, stage := firstStage codec processor envelope port }] })) ∨
    ∃ index call output journal stage, s.calls[index]? = some call ∧ action.target = some index ∧
      Moves codec s.journal call output journal stage ∧
      step codec s action = (output, { journal, calls := s.calls.set index { call with stage } }) := by
  cases action with
  | submit processor envelope acceptedUtcMillis port => exact .inr (.inl ⟨_, _, _, _, rfl⟩)
  | lookUp index =>
    simp only [step]
    split
    · rename_i processor envelope acceptedUtcMillis canonical hcall
      cases hlookUp : ReceiveApiProcessor.lookUp codec s.journal envelope canonical with
      | some result => exact .inr (.inr ⟨index, _, _, _, _, hcall, rfl, .found rfl hlookUp, rfl⟩)
      | none => exact .inr (.inr ⟨index, _, _, _, _, hcall, rfl, .missed rfl hlookUp, rfl⟩)
    · exact .inl rfl
  | operate index port =>
    simp only [step]
    split
    · rename_i processor envelope acceptedUtcMillis canonical hcall
      exact .inr (.inr ⟨index, _, _, _, _, hcall, rfl, .evaluated port rfl, rfl⟩)
    · exact .inl rfl
  | accept index =>
    simp only [step]
    split
    · rename_i processor envelope acceptedUtcMillis canonical response conflict hcall
      exact .inr (.inr ⟨index, _, _, _, _, hcall, rfl, .accepted rfl, rfl⟩)
    · exact .inl rfl
  | crash index =>
    simp only [step]
    split
    · rename_i call hcall
      split
      · exact .inl rfl
      · rename_i hopen
        exact .inr (.inr ⟨index, call, _, _, _, hcall, rfl, .crashed hopen, rfl⟩)
    · exact .inl rfl

/-! ## The invariant of a call -/

end Shared

/-- The request reaches the journal: its version and its command are those that the processor journals. -/
def Call.journals (self : Call) : Bool :=
  match self.processor with
  | .command _ =>
    decide (self.envelope.apiVersion = apiVersion) &&
      match self.envelope.command with
      | .noopMutation _ => true
      | _ => false
  | .receiveApi serviceInstanceId =>
    (ReceiveApiProcessor.versionAnswer serviceInstanceId self.envelope).isNone &&
      decide (self.envelope.command.commandClass = .mutating)

/-- Every response that the codec encodes decodes to itself. -/
def CommandCodec.Replays (codec : CommandCodec) : Prop :=
  ∀ response bytes, codec.responseToVec response = some bytes → codec.responseFromSlice bytes = some response

/-- The canonical bytes of the command. -/
def Call.canonical (codec : CommandCodec) (self : Call) : Except CanonicalizationError (List UInt8) :=
  self.envelope.command.canonicalBytes codec.commandToVec

namespace Shared

variable {codec : CommandCodec} {journal after : CommandTable} {call : Call}

/-- The journal has an entry for the request, and a response is its original result or, for another command, a conflict. -/
def Settled (codec : CommandCodec) (journal : CommandTable) (requestId : RequestId) (canonical : List UInt8)
    (response : ResponseEnvelope) : Prop :=
  ∃ entry, journal.acceptedCommand requestId = .ok (some entry) ∧
    if entry.canonicalCommand = canonical then codec.responseFromSlice entry.originalResult = some response
    else response.outcome.isConflict = true

/-- Every entry of a journal stays in a later one. -/
def Grows (journal after : CommandTable) : Prop :=
  ∀ requestId entry, journal.acceptedCommand requestId = .ok (some entry) →
    after.acceptedCommand requestId = .ok (some entry)

/-- What a stage says of its call. -/
def Sound (codec : CommandCodec) (journal : CommandTable) (call : Call) : Prop :=
  match call.stage with
  | .lookingUp canonical | .operating canonical => call.journals = true ∧ call.canonical codec = .ok canonical
  | .accepting canonical _ conflict =>
    call.journals = true ∧ call.canonical codec = .ok canonical ∧ conflict.outcome.isConflict = true
  | .answered (.ok response) =>
    (call.journals = true → ∀ canonical, call.canonical codec = .ok canonical →
      Settled codec journal call.envelope.requestId canonical response) ∧
    (call.envelope.command.commandClass = .mutating → response.outcome.isSuccess = true →
      call.journals = true ∧ ∃ canonical, call.canonical codec = .ok canonical)
  | .answered (.error _) | .crashed => True

theorem Settled.grow {requestId : RequestId} {canonical : List UInt8} {response : ResponseEnvelope}
    (hgrows : Grows journal after) (h : Settled codec journal requestId canonical response) :
    Settled codec after requestId canonical response := by
  obtain ⟨entry, hentry, hanswer⟩ := h
  exact ⟨entry, hgrows _ _ hentry, hanswer⟩

theorem Sound.grow (hgrows : Grows journal after) (h : Sound codec journal call) : Sound codec after call := by
  obtain ⟨processor, envelope, acceptedUtcMillis, stage⟩ := call
  cases stage with
  | answered result =>
    cases result with
    | ok response => exact ⟨fun hjournals canonical hcanonical => (h.1 hjournals canonical hcanonical).grow hgrows, h.2⟩
    | error error => trivial
  | _ => exact h

/-- A replay of an entry is settled. -/
theorem settled_replay {requestId : RequestId} {canonical : List UInt8} {existing : AcceptedCommand}
    {response conflict : ResponseEnvelope} (hexisting : journal.acceptedCommand requestId = .ok (some existing))
    (hconflict : conflict.outcome.isConflict = true) (h : replay codec canonical existing conflict = .ok response) :
    Settled codec journal requestId canonical response := by
  refine ⟨existing, hexisting, ?_⟩
  unfold replay at h
  split
  · rename_i hsame
    rw [if_pos hsame] at h
    exact okOr_ok.mp h
  · rename_i hother
    rw [if_neg hother] at h
    cases h
    exact hconflict

@[simp] theorem conflictFor_isConflict (envelope : CommandEnvelope) :
    (ReceiveApiProcessor.conflictFor envelope).outcome.isConflict = true := rfl

theorem noop_not_success {service : NoopService} {envelope : CommandEnvelope}
    (h : envelope.command.commandClass = .mutating) : (service.execute envelope).outcome.isSuccess = false := by
  unfold NoopService.execute
  split
  · rfl
  · cases hcommand : envelope.command with
    | noopMutation marker => rfl
    | receiveStart selection => rfl
    | receiveStop => rfl
    | _ =>
      rw [hcommand] at h
      cases h

theorem versionAnswer_not_success {serviceInstanceId : ServiceInstanceId} {envelope : CommandEnvelope}
    {response : ResponseEnvelope} (h : ReceiveApiProcessor.versionAnswer serviceInstanceId envelope = some response) :
    response.outcome.isSuccess = false := by
  unfold ReceiveApiProcessor.versionAnswer at h
  split at h
  · rename_i hversion
    cases h
    have hunsupported : envelope.apiVersion ∉ supportedApiVersions := by
      simpa [supportedApiVersions] using hversion
    simp only [NoopService.execute, if_pos hunsupported]
    rfl
  · split at h
    · cases h
      rfl
    · cases h

/-- A response that no processor journals is sound for a request that it does not journal. -/
theorem sound_unjournaled {processor : Processor} {envelope : CommandEnvelope} {acceptedUtcMillis : Int}
    {response : ResponseEnvelope}
    (hjournals : Call.journals ⟨processor, envelope, acceptedUtcMillis, .answered (.ok response)⟩ = false)
    (hsuccess : envelope.command.commandClass = .mutating → response.outcome.isSuccess = false) :
    Sound codec journal ⟨processor, envelope, acceptedUtcMillis, .answered (.ok response)⟩ := by
  refine ⟨fun h => ?_, fun hmutating h => ?_⟩
  · rw [hjournals] at h
    cases h
  · rw [hsuccess hmutating] at h
    cases h

/-- A call is sound when it is submitted. -/
theorem sound_firstStage (journal : CommandTable) (processor : Processor) (envelope : CommandEnvelope)
    (acceptedUtcMillis : Int) (port : PortAnswers) :
    Sound codec journal ⟨processor, envelope, acceptedUtcMillis, firstStage codec processor envelope port⟩ := by
  cases processor with
  | command service =>
    by_cases hdirect : envelope.apiVersion ≠ apiVersion ∨ envelope.command.commandClass = .readOnly
    · simp only [firstStage, if_pos hdirect]
      refine sound_unjournaled ?_ noop_not_success
      rcases hdirect with hversion | hclass
      · simp [Call.journals, hversion]
      · cases hcommand : envelope.command with
        | noopMutation marker =>
          rw [hcommand] at hclass
          cases hclass
        | _ => simp [Call.journals, hcommand]
    · obtain ⟨hversion, hclass⟩ := not_or.mp hdirect
      simp only [firstStage, if_neg hdirect]
      cases hcanonical : envelope.command.canonicalBytes codec.commandToVec with
      | error error => trivial
      | ok canonical =>
        cases hcommand : envelope.command with
        | noopMutation marker =>
          refine ⟨?_, hcanonical, rfl⟩
          simp [Call.journals, hcommand, not_not.mp hversion]
        | _ => exact sound_unjournaled (by simp [Call.journals, hcommand]) noop_not_success
  | receiveApi serviceInstanceId =>
    cases hversion : ReceiveApiProcessor.versionAnswer serviceInstanceId envelope with
    | some response =>
      simp only [firstStage, hversion]
      exact sound_unjournaled (by simp [Call.journals, hversion]) fun _ => versionAnswer_not_success hversion
    | none =>
      cases hclass : envelope.command.commandClass with
      | readOnly =>
        simp only [firstStage, hversion, hclass]
        exact sound_unjournaled (by simp [Call.journals, hclass]) fun h => (by rw [hclass] at h; cases h)
      | mutating =>
        simp only [firstStage, hversion, hclass]
        cases hcanonical : envelope.command.canonicalBytes codec.commandToVec with
        | error error =>
          refine ⟨fun _ canonical h => ?_, fun _ h => (by cases h)⟩
          rw [Call.canonical, hcanonical] at h
          cases h
        | ok canonical => exact ⟨by simp [Call.journals, hversion, hclass], hcanonical⟩

/-! ## Steps keep the invariant -/

theorem Moves.grows {output : Option RequestId} {stage : Stage} (h : Moves codec journal call output after stage) :
    Grows journal after := by
  cases h with
  | accepted hstage => exact fun _ _ hentry => acceptResponse_keeps hentry
  | found | missed | evaluated | crashed => exact fun _ _ hentry => hentry

/-- The answer of a sound call that reaches the journal is sound when it is settled. -/
theorem sound_answered {canonical : List UInt8} {result : Except ProcessorError ResponseEnvelope}
    (hjournals : call.journals = true) (hcanonical : call.canonical codec = .ok canonical)
    (hsettled : ∀ response, result = .ok response →
      Settled codec journal call.envelope.requestId canonical response) :
    Sound codec journal { call with stage := .answered result } := by
  cases result with
  | error error => trivial
  | ok response =>
    refine ⟨fun _ other hother => ?_, fun _ _ => ⟨hjournals, canonical, hcanonical⟩⟩
    obtain rfl : canonical = other := Except.ok.inj (hcanonical.symm.trans hother)
    exact hsettled response rfl

theorem Moves.sound (hcodec : codec.Replays) {output : Option RequestId} {stage : Stage}
    (hsound : Sound codec journal call) (h : Moves codec journal call output after stage) :
    Sound codec after { call with stage } := by
  unfold Sound at hsound
  cases h with
  | found hstage hlookUp =>
    rw [hstage] at hsound
    refine sound_answered hsound.1 hsound.2 fun response hresponse => ?_
    subst hresponse
    unfold ReceiveApiProcessor.lookUp at hlookUp
    split at hlookUp
    · cases hlookUp
    · rename_i existing hexisting
      exact settled_replay hexisting (conflictFor_isConflict call.envelope) (Option.some.inj hlookUp)
    · cases hlookUp
  | missed hstage hlookUp =>
    rw [hstage] at hsound
    exact hsound
  | evaluated port hstage =>
    rw [hstage] at hsound
    exact ⟨hsound.1, hsound.2, rfl⟩
  | @accepted canonical response conflict hstage =>
    rw [hstage] at hsound
    obtain ⟨hjournals, hcanonical, hconflict⟩ := hsound
    refine sound_answered hjournals hcanonical fun answer hanswer => ?_
    rcases acceptResponse_ok hanswer with ⟨rfl, result, hresult, -, hentry⟩ | ⟨existing, hexisting, hsame, hreplay⟩
    · have hown : (acceptedFor call.envelope.requestId canonical result call.acceptedUtcMillis).canonicalCommand =
          canonical := rfl
      refine ⟨_, hentry, ?_⟩
      rw [if_pos hown]
      exact hcodec _ _ hresult
    · rw [hsame]
      exact settled_replay hexisting hconflict hreplay
  | crashed hopen => trivial

/-- Every call over the journal is sound. -/
def AllSound (codec : CommandCodec) (s : Shared) : Prop := ∀ call ∈ s.calls, Sound codec s.journal call

theorem allSound_step (hcodec : codec.Replays) (s : Shared) (action : Action) (h : AllSound codec s) :
    AllSound codec (step codec s action).2 := by
  rcases step_cases s action with hsame | ⟨processor, envelope, acceptedUtcMillis, port, hsubmit⟩ |
    ⟨index, call, output, journal, stage, hcall, -, hmoves, hmoved⟩
  · rw [hsame]
    exact h
  · rw [hsubmit]
    intro call hcall
    rcases List.mem_append.mp hcall with hcall | hcall
    · exact h call hcall
    · rw [List.mem_singleton.mp hcall]
      exact sound_firstStage _ _ _ _ _
  · rw [hmoved]
    intro other hother
    rcases List.mem_or_eq_of_mem_set hother with hother | rfl
    · exact (h other hother).grow hmoves.grows
    · exact hmoves.sound hcodec (h call (List.mem_of_getElem? hcall))

theorem grows_step (s : Shared) (action : Action) : Grows s.journal (step codec s action).2.journal := by
  rcases step_cases s action with hsame | ⟨_, _, _, _, hsubmit⟩ | ⟨_, _, _, _, _, -, -, hmoves, hmoved⟩
  · rw [hsame]
    exact fun _ _ hentry => hentry
  · rw [hsubmit]
    exact fun _ _ hentry => hentry
  · rw [hmoved]
    exact hmoves.grows

theorem grows_final (s : Shared) (run : List Action) : Grows s.journal (final (step codec) s run).journal := by
  intro requestId entry hentry
  exact final_inv_all (fun s action h => grows_step s action requestId entry h) hentry run

/-! ## Answered calls -/

/-- The call at an index is answered. -/
def AnsweredAt (index : Nat) (s : Shared) : Prop :=
  ∃ call result, s.calls[index]? = some call ∧ call.stage = .answered result

theorem Moves.open {output : Option RequestId} {stage : Stage} (h : Moves codec journal call output after stage)
    (result : Except ProcessorError ResponseEnvelope) : call.stage ≠ .answered result := by
  intro hanswered
  cases h with
  | found hstage | missed hstage | evaluated _ hstage | accepted hstage =>
    rw [hstage] at hanswered
    cases hanswered
  | crashed hopen => exact hopen result hanswered

/-- An answered call stays answered, and its port is not called. -/
theorem answeredAt_step {index : Nat} {s : Shared} (action : Action) (h : AnsweredAt index s) :
    (action.target = some index → (step codec s action).1 = none) ∧ AnsweredAt index (step codec s action).2 := by
  obtain ⟨call, result, hcall, hanswered⟩ := h
  rcases step_cases s action with hsame | ⟨_, _, _, _, hsubmit⟩ |
    ⟨moved, other, _, _, _, hother, htarget, hmoves, hmoved⟩
  · rw [hsame]
    exact ⟨fun _ => rfl, call, result, hcall, hanswered⟩
  · rw [hsubmit]
    refine ⟨fun _ => rfl, call, result, ?_, hanswered⟩
    exact List.getElem?_append_left (List.getElem?_eq_some_iff.mp hcall).1 ▸ hcall
  · have hne : moved ≠ index := by
      rintro rfl
      obtain rfl : other = call := Option.some.inj (hother.symm.trans hcall)
      exact hmoves.open result hanswered
    rw [hmoved]
    refine ⟨fun hindex => absurd (Option.some.inj (htarget.symm.trans hindex)) hne, call, result, ?_, hanswered⟩
    exact (List.getElem?_set_ne hne).trans hcall

/-- A lookup that finds an entry answers its call. -/
theorem answeredAt_lookUp {index : Nat} {s : Shared} {call : Call} {canonical : List UInt8} {entry : AcceptedCommand}
    (hcall : s.calls[index]? = some call) (hstage : call.stage = .lookingUp canonical)
    (hentry : s.journal.acceptedCommand call.envelope.requestId = .ok (some entry)) :
    AnsweredAt index (step codec s (.lookUp index)).2 := by
  obtain ⟨processor, envelope, acceptedUtcMillis, stage⟩ := call
  obtain rfl : stage = .lookingUp canonical := hstage
  have hlookUp : ReceiveApiProcessor.lookUp codec s.journal envelope canonical =
      some (replay codec canonical entry (ReceiveApiProcessor.conflictFor envelope)) := by
    simp only [ReceiveApiProcessor.lookUp, hentry]
  simp only [step, hcall, hlookUp, advance]
  exact ⟨_, _, List.getElem?_set_self (List.getElem?_eq_some_iff.mp hcall).1, rfl⟩

/-! ## One durable winner -/

/-- The answers to requests that reach the journal are settled, and no other mutating request succeeds. -/
def OneWinner (codec : CommandCodec) (s : Shared) : Prop :=
  ∀ call ∈ s.calls, ∀ response, call.stage = .answered (.ok response) →
    (call.journals = true → ∀ canonical, call.canonical codec = .ok canonical →
      Settled codec s.journal call.envelope.requestId canonical response) ∧
    (call.envelope.command.commandClass = .mutating → response.outcome.isSuccess = true →
      call.journals = true ∧ ∃ canonical, call.canonical codec = .ok canonical)

/-- An entry of the journal is there after every further step. -/
def EntriesStay (codec : CommandCodec) (s : Shared) (run : List Action) : Prop :=
  ∀ before rest, run = before ++ rest →
    Grows (final (step codec) s before).journal (final (step codec) s run).journal

/-- After a lookup that finds an entry of its request, no step calls the port for the call. -/
def LookupsReplay (codec : CommandCodec) (s : Shared) (run : List Action) : Prop :=
  ∀ before index rest call canonical entry, run = before ++ .lookUp index :: rest →
    (final (step codec) s before).calls[index]? = some call → call.stage = .lookingUp canonical →
    (final (step codec) s before).journal.acceptedCommand call.envelope.requestId = .ok (some entry) →
    ∀ later ∈ transcript (step codec) (final (step codec) s (before ++ [.lookUp index])) rest,
      later.1.target = some index → later.2 = none

/-- **One durable winner**: over every run of calls from any journal, the answers to mutating requests that reach the
journal are the original result of the one entry or conflicts with it, entries stay, and a lookup that finds an entry
keeps its call from the port. -/
theorem one_durable_winner (hcodec : codec.Replays) (journal : CommandTable) (run : List Action) :
    OneWinner codec (final (step codec) ⟨journal, []⟩ run) ∧ EntriesStay codec ⟨journal, []⟩ run ∧
      LookupsReplay codec ⟨journal, []⟩ run := by
  refine ⟨?_, ?_, ?_⟩
  · have hsound : AllSound codec (final (step codec) ⟨journal, []⟩ run) :=
      final_inv_all (allSound_step hcodec) (fun _ hcall => absurd hcall List.not_mem_nil) run
    intro call hcall response hanswered
    have h := hsound call hcall
    unfold Sound at h
    rw [hanswered] at h
    exact h
  · rintro before rest rfl
    rw [final_append]
    exact grows_final _ rest
  · rintro before index rest call canonical entry rfl hcall hstage hentry later hlater
    have hanswered : AnsweredAt index (final (step codec) ⟨journal, []⟩ (before ++ [.lookUp index])) := by
      rw [final_append]
      exact answeredAt_lookUp hcall hstage hentry
    exact transcript_inv (I := AnsweredAt index) (P := fun action output => action.target = some index → output = none)
      (fun _ action h _ => answeredAt_step action h) hanswered (everyStep_of_forall (fun _ _ => trivial) _ rest) later
      hlater

theorem single_replays (commandToVec : Command → Option (List UInt8)) (original : ResponseEnvelope)
    (bytes : List UInt8) : (CommandCodec.single commandToVec original bytes).Replays := by
  intro response encoded hencoded
  unfold CommandCodec.single at hencoded ⊢
  simp only [Option.ite_none_right_eq_some, Option.some.injEq] at hencoded ⊢
  exact ⟨hencoded.2.symm, hencoded.1.symm⟩

def retriedRequest : RequestId := ⟨"req_00000001", by decide⟩

def retriedInstance : ServiceInstanceId := ⟨"svc_00000001", by decide⟩

/-- The bytes that a marker, a snapshot and the answer to the marker have on the wire. -/
def markerCodec : CommandCodec :=
  .single
    (fun
      | .noopMutation _ => some "\x7b\"kind\":\"noop_mutation\",\"marker\":\"retry\"\x7d".toUTF8.data.toList
      | .getSnapshot => some "\x7b\"kind\":\"get_snapshot\"\x7d".toUTF8.data.toList
      | _ => none)
    (CommandProcessor.acceptedResponse retriedRequest "retry")
    ("\x7b\"api_version\":2,\"request_id\":\"req_00000001\",\"outcome\":\"success\"," ++
      "\"payload\":\x7b\"kind\":\"noop_mutation_accepted\",\"value\":\x7b\"marker\":\"retry\"\x7d\x7d\x7d").toUTF8.data.toList

/-- A port without a device. -/
def noDevice : PortAnswers where
  inputDevices := .error .deviceUnavailable
  status := .error .deviceUnavailable
  started := .error .deviceUnavailable
  stopped := .error .deviceUnavailable
  history := .error .deviceUnavailable

/-- The answer to a stop. -/
def stopAnswer : ResponseEnvelope where
  apiVersion := apiVersion
  requestId := retriedRequest
  outcome := .success (.receiveStopped (.stopped 1))

/-- A stop and its answer on the wire. -/
def stopBytes : List UInt8 := "\x7b\"kind\":\"receive_stop\"\x7d".toUTF8.data.toList

def stopAnswerBytes : List UInt8 :=
  ("\x7b\"api_version\":2,\"request_id\":\"req_00000001\",\"outcome\":\"success\",\"payload\":" ++
    "\x7b\"kind\":\"receive_stopped\",\"value\":" ++
    "\x7b\"state\":\"stopped\",\"last_stream_generation\":1\x7d\x7d\x7d").toUTF8.data.toList

def stopCodec : CommandCodec where
  commandToVec
    | .receiveStop => some stopBytes
    | command => markerCodec.commandToVec command
  responseToVec response := if response = stopAnswer then some stopAnswerBytes else markerCodec.responseToVec response
  responseFromSlice bytes :=
    if bytes = stopAnswerBytes then some stopAnswer else markerCodec.responseFromSlice bytes

theorem stopCodec_replays : stopCodec.Replays := by
  intro response encoded hencoded
  unfold stopCodec at hencoded ⊢
  dsimp only at hencoded ⊢
  split at hencoded
  · rename_i hstop
    cases hencoded
    rw [if_pos rfl, hstop]
  · have hmarker : encoded ≠ stopAnswerBytes := by
      rintro rfl
      unfold markerCodec CommandCodec.single at hencoded
      dsimp only at hencoded
      split at hencoded
      · exact absurd (Option.some.inj hencoded) (by decide +kernel)
      · cases hencoded
    rw [if_neg hmarker]
    exact single_replays _ _ _ response encoded hencoded

/-- A port that stops its device. -/
def stoppedDevice : PortAnswers :=
  { noDevice with stopped := .ok { lifecycle := .stopped 1, selection := none, audio := none, clock := none } }

def submitStop (acceptedUtcMillis : Int) : Action :=
  .submit (.receiveApi retriedInstance) ⟨apiVersion, retriedRequest, .receiveStop⟩ acceptedUtcMillis stoppedDevice

/-- Two processors look a stop up and evaluate it before either accepts it, a marker uses its identity, and it is sent
again. -/
def racedStops : List Action :=
  [submitStop 1000, submitStop 2000, .lookUp 0, .lookUp 1, .operate 1 stoppedDevice, .operate 0 stoppedDevice, .accept 1,
    .accept 0, .submit (.command ⟨retriedInstance⟩) ⟨apiVersion, retriedRequest, .noopMutation "retry"⟩ 3000 noDevice,
    .accept 2, submitStop 4000]

/-- The response of a call that is answered. -/
def responseOf (call : Call) : Option ResponseEnvelope :=
  match call.stage with
  | .answered (.ok response) => some response
  | _ => none

/-- The stop that was accepted first answers all three, and the last one does not reach the port. -/
theorem one_durable_winner_raced :
    let run := racedStops ++ .lookUp 3 :: [.operate 3 stoppedDevice, .accept 3]
    OneWinner stopCodec (final (step stopCodec) ⟨.empty, []⟩ run) ∧
      (final (step stopCodec) ⟨.empty, []⟩ run).calls.map responseOf =
        [some stopAnswer, some stopAnswer, some (CommandProcessor.conflictResponse retriedRequest), some stopAnswer] ∧
      EntriesStay stopCodec ⟨.empty, []⟩ run ∧
      ∀ later ∈ transcript (step stopCodec) (final (step stopCodec) ⟨.empty, []⟩ (racedStops ++ [.lookUp 3]))
          [.operate 3 stoppedDevice, .accept 3], later.1.target = some 3 → later.2 = none := by
  obtain ⟨hwinner, hentries, hreplay⟩ := one_durable_winner stopCodec_replays .empty
    (racedStops ++ .lookUp 3 :: [.operate 3 stoppedDevice, .accept 3])
  have hentry : (final (step stopCodec) ⟨.empty, []⟩ racedStops).journal.acceptedCommand retriedRequest =
      .ok (some (acceptedFor retriedRequest stopBytes stopAnswerBytes 2000)) := by decide +kernel
  refine ⟨hwinner, by decide +kernel, hentries, ?_⟩
  exact hreplay racedStops 3 _
    ⟨.receiveApi retriedInstance, ⟨apiVersion, retriedRequest, .receiveStop⟩, 4000, .lookingUp stopBytes⟩ stopBytes _ rfl
    rfl rfl hentry

/-! ## Requests that do not reach the journal -/

/-- **One durable winner, for every request**: a call answered after its request identity is journaled gets the original
result or, for another canonical command, a conflict. -/
def EveryRequestSettled (codec : CommandCodec) (journal : CommandTable) (run : List Action) : Prop :=
  ∀ before rest index call response canonical entry, run = before ++ rest →
    ¬AnsweredAt index (final (step codec) ⟨journal, []⟩ before) →
    (final (step codec) ⟨journal, []⟩ before).journal.acceptedCommand call.envelope.requestId = .ok (some entry) →
    (final (step codec) ⟨journal, []⟩ run).calls[index]? = some call → call.stage = .answered (.ok response) →
    call.canonical codec = .ok canonical →
    if entry.canonicalCommand = canonical then
      response.outcome.isSuccess = true → codec.responseFromSlice entry.originalResult = some response
    else response.outcome.isConflict = true

/-- A marker is journaled, and its identity is used again. -/
def reusedRun (command : Command) : List Action :=
  [.submit (.command ⟨retriedInstance⟩) ⟨apiVersion, retriedRequest, .noopMutation "retry"⟩ 1000 noDevice, .accept 0,
    .submit (.command ⟨retriedInstance⟩) ⟨apiVersion, retriedRequest, command⟩ 2000 noDevice, .accept 1]

/-- A snapshot with the identity of a journaled marker is answered without a conflict. -/
theorem read_only_reuses_identity :
    ¬∀ codec : CommandCodec, codec.Replays → ∀ journal run, EveryRequestSettled codec journal run := by
  intro hevery
  have hsettled := hevery markerCodec (single_replays _ _ _) .empty (reusedRun .getSnapshot) ((reusedRun .getSnapshot).take 2)
    ((reusedRun .getSnapshot).drop 2) 1
  let reused := NoopService.execute ⟨retriedInstance⟩ ⟨apiVersion, retriedRequest, .getSnapshot⟩
  have hconflict := hsettled
    ⟨.command ⟨retriedInstance⟩, ⟨apiVersion, retriedRequest, .getSnapshot⟩, 2000, .answered (.ok reused)⟩ reused
    ("\x7b\"kind\":\"get_snapshot\"\x7d".toUTF8.data.toList) _ rfl (by rintro ⟨_, _, h, -⟩; cases h) rfl rfl rfl rfl
  revert hconflict
  decide

end Shared

end Slotpilot.Daemon
