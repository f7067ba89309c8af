import Slotpilot.Audio.Provenance
import Slotpilot.Daemon.RecordedWindows

/-!
# The records of one poll

A receiving coordinator hands on records of its current start only, each from a window that a batch of the poll has
completed and that its own clock let through in the poll, and it asks for batches while the input is open. The batches
go through its backlog in the order in which the input answered them.

* `Gated.ofStart`: a gated record is of the start, has a healthy clock and is made of frames of batches of the start;
* `poll_pollEnds`: what a poll hands to the store, returns and leaves.
-/

set_option autoImplicit false

namespace Slotpilot.Daemon

open Lib Domain Audio Operations Protocol Storage

/-! ## Inputs with a journal -/

/-- What was done with an input. -/
inductive InputEntry
  | started (accepted : Bool)
  | asked (answer : Except InputCaptureError (Option CaptureBatch))
  | stopped

/-- An input, and what was done with it. -/
structure JournaledInput (I : Type) where
  input : I
  journal : List InputEntry

instance {I : Type} [DaemonReceiveInput I] : DaemonReceiveInput (JournaledInput I) where
  start self selection processGeneration streamGeneration :=
    let result := DaemonReceiveInput.start self.input selection processGeneration streamGeneration
    (result.1, { input := result.2, journal := self.journal ++ [.started result.1.isOk] })
  nextBatch self :=
    let result := DaemonReceiveInput.nextBatch self.input
    (result.1, { input := result.2, journal := self.journal ++ [.asked result.1] })
  nextFault self :=
    let result := DaemonReceiveInput.nextFault self.input
    (result.1, { self with input := result.2 })
  health self :=
    let result := DaemonReceiveInput.health self.input
    (result.1, { self with input := result.2 })
  stop self :=
    let result := DaemonReceiveInput.stop self.input
    (result.1, { input := result.2, journal := self.journal ++ [.stopped] })

/-- Whether the input is open after an entry. -/
def InputEntry.opens : Bool → InputEntry → Bool
  | opened, .started accepted => opened || accepted
  | opened, .asked _ => opened
  | _, .stopped => false

/-- Whether the input is open: it was started and has not been stopped since. -/
def isOpen (journal : List InputEntry) : Bool := journal.foldl InputEntry.opens false

/-- A batch is asked for only while the input is open. -/
def AsksOpen (journal : List InputEntry) : Prop :=
  ∀ before answer later, journal = before ++ .asked answer :: later → isOpen before = true

/-- The batches that the input has answered since it was last opened, after an entry. -/
def InputEntry.answers : List CaptureBatch → InputEntry → List CaptureBatch
  | _, .started true => []
  | batches, .asked (.ok (some batch)) => batches ++ [batch]
  | batches, _ => batches

/-- The batches that the input has answered since it was last opened. -/
def batchesOf (journal : List InputEntry) : List CaptureBatch := journal.foldl InputEntry.answers []

/-- No batch is asked for. -/
def AsksNothing (entries : List InputEntry) : Prop := ∀ answer, .asked answer ∉ entries

@[simp] theorem isOpen_append (journal : List InputEntry) (entry : InputEntry) :
    isOpen (journal ++ [entry]) = entry.opens (isOpen journal) := by
  simp [isOpen]

@[simp] theorem batchesOf_append (journal : List InputEntry) (entry : InputEntry) :
    batchesOf (journal ++ [entry]) = entry.answers (batchesOf journal) := by
  simp [batchesOf]

theorem asksOpen_nil : AsksOpen [] := by
  intro before answer later h
  cases before <;> cases h

theorem AsksOpen.append {journal : List InputEntry} {entry : InputEntry} (h : AsksOpen journal)
    (hentry : ∀ answer, entry = .asked answer → isOpen journal = true) : AsksOpen (journal ++ [entry]) := by
  intro before answer later hsplit
  obtain rfl | ⟨init, last, rfl⟩ := later.eq_nil_or_concat
  · obtain ⟨rfl, hlast⟩ := List.append_inj' hsplit rfl
    exact hentry answer (List.cons.inj hlast).1
  · rw [List.concat_eq_append, ← List.cons_append, ← List.append_assoc] at hsplit
    obtain ⟨hjournal, -⟩ := List.append_inj' hsplit rfl
    exact h before answer init hjournal

/-- A coordinator with a journal of its input and of its store. -/
abbrev Observed (I D S : Type) : Type := LiveReceiveCoordinator (JournaledInput I) D (TrackedStore S)

/-- A record that the store accepted, as a poll reports it. -/
def acceptedOf : StoreAnswer → Option (ReceiveWindowId × ReceiveInsertOutcome × Nat)
  | (record, .ok outcome) => some (record.context.receiveWindowId, outcome, record.decodes.length)
  | (_, .error _) => none

/-- What a poll reports of a stored record. -/
def persistedOf : ReceivePollEvent → Option (ReceiveWindowId × ReceiveInsertOutcome × Nat)
  | .persisted receiveWindowId outcome decodeCount => some (receiveWindowId, outcome, decodeCount)
  | _ => none

/-- No event is a transition. -/
def NoTransition (events : List ReceivePollEvent) : Prop := ∀ event, .lifecycle event ∉ events

theorem noTransition_nil : NoTransition [] := by
  intro event hevent
  cases hevent

namespace LiveReceiveCoordinator

variable {I D S α : Type}

/-! ## Records of the current start -/

/-- In the poll at `observedAt` the batch completes the window, and the clock that the check of the poll left lets it
through. -/
def LetsThrough (c : LiveReceiveCoordinator I D S) (observedAt : MonotonicInstant) (batch : CaptureBatch)
    (window : Ft8ReceiveWindow) (alignment : ReceiveWindowAlignment) : Prop :=
  ∃ timeline clock,
    c.timeline = some timeline ∧ (timeline.step (batch, observedAt.millis)).1 = .ok [.window window] ∧
    c.clock = some clock ∧
    ((clock.snapshot observedAt).2.gate (.window window) observedAt).1 = .windowReady window alignment

/-- The record of a window that the batch completed and the clock let through in this poll. -/
def Gated (crates : ReceiveCrates) (c : LiveReceiveCoordinator I D S) (observedAt : MonotonicInstant)
    (recordedUtcMillis : Int64) (batch : CaptureBatch) (window : Ft8ReceiveWindow) (record : ReceiveRecord) : Prop :=
  ∃ (alignment : ReceiveWindowAlignment) (receiveWindowId : ReceiveWindowId) (audioHealth : InputHealth)
      (timelineHealth : ReceiveTimelineHealth) (decodes : List Ft8Decode),
    c.LetsThrough observedAt batch window alignment ∧
    Daemon.receiveWindowId crates c.serviceInstanceId c.selection window.processGeneration window.streamGeneration
      window.slotStartUtcMillis = .ok receiveWindowId ∧
    c.receiveRecord receiveWindowId window alignment audioHealth timelineHealth decodes recordedUtcMillis = .ok record

/-- The window is made of the frames of these batches, and each of them has the identity of the start. -/
def MadeOf (c : LiveReceiveCoordinator I D S) (streamGeneration : StreamGeneration)
    (run : List (CaptureBatch × UInt64)) (window : Ft8ReceiveWindow) : Prop :=
  (∀ input ∈ run,
    CaptureBatch.HasIdentity c.processGeneration streamGeneration c.selection.configuration input.1) ∧
  ∃ first rest, run = first :: rest ∧
    (ReceiveTimelineEvent.window window).content ∈ reconstruct
      (Ft8ReceiveTimeline.originOf c.selection.configuration c.processGeneration streamGeneration first.1)
      (Ft8ReceiveTimeline.framesOf run)

/-- The window is of the start, made of the first batches that the input answered, up to the one of this poll. -/
def MadeOfAnswers (c : LiveReceiveCoordinator I D S) (streamGeneration : StreamGeneration)
    (observedAt : MonotonicInstant) (answered : List CaptureBatch) (batch : CaptureBatch) (window : Ft8ReceiveWindow) :
    Prop :=
  window.streamGeneration = streamGeneration ∧
    ∃ run later, answered = run.map Prod.fst ++ batch :: later ∧
      c.MadeOf streamGeneration (run ++ [(batch, observedAt.millis)]) window

/-- The record is of the start, with a healthy clock, and its window is made of the batches that the input answered
since then. -/
structure OfStart (c : LiveReceiveCoordinator I D S) (streamGeneration : StreamGeneration)
    (observedAt : MonotonicInstant) (answered : List CaptureBatch) (batch : CaptureBatch) (window : Ft8ReceiveWindow)
    (record : ReceiveRecord) : Prop where
  generation : record.context.streamGeneration = streamGeneration
  healthy : record.diagnostics.clock.isHealthy = true
  slot : record.context.slot = window.slot
  captureMapping : record.context.captureMapping = window.mapping
  window : c.MadeOfAnswers streamGeneration observedAt answered batch window

theorem Gated.ofStart {crates : ReceiveCrates} {c : LiveReceiveCoordinator I D S} {streamGeneration : StreamGeneration}
    {observedAt : MonotonicInstant} {recordedUtcMillis : Int64} {answered : List CaptureBatch} {batch : CaptureBatch}
    {window : Ft8ReceiveWindow} {record : ReceiveRecord}
    (h : c.Gated crates observedAt recordedUtcMillis batch window record)
    (hmade : c.MadeOfAnswers streamGeneration observedAt answered batch window) :
    c.OfStart streamGeneration observedAt answered batch window record := by
  obtain ⟨alignment, id, audioHealth, timelineHealth, decodes, -, -, hrecord⟩ := h
  unfold receiveRecord at hrecord
  obtain ⟨made, hnew, -, hcontext, hdiagnostics, -⟩ | ⟨error, herror, -⟩ := ReceiveRecord.new_cases _ _ _ _
  · cases hnew.symm.trans hrecord
    refine ⟨?_, ?_, ?_, ?_, hmade⟩
    · rw [hcontext]
      exact hmade.1
    · rw [hdiagnostics]
      rfl
    · rw [hcontext]
    · rw [hcontext]
  · cases herror.symm.trans hrecord

/-! ## What a coordinator keeps true -/

/-- The timeline has accepted this run of batches since the start of the stream generation. -/
def Fed (c : LiveReceiveCoordinator I D S) (streamGeneration : StreamGeneration) (run : List (CaptureBatch × UInt64))
    (timeline : Ft8ReceiveTimeline) : Prop :=
  Ft8ReceiveTimeline.FromStart c.processGeneration streamGeneration c.selection.configuration run ∧
    timeline = final Ft8ReceiveTimeline.step
      (.new c.processGeneration streamGeneration c.selection.configuration) run

/-- The batches that the input has answered since it was opened are those of the run, and then the backlog. -/
def Queued (c : Observed I D S) (run : List (CaptureBatch × UInt64)) : Prop :=
  batchesOf c.input.journal = run.map Prod.fst ++ c.workerBatches

/-- The timeline is fed by the current start with the answers of the input, which is open while receiving and closed
when stopped or inhibited. -/
structure Sourced (c : Observed I D S) : Prop where
  timeline : ∀ timeline, c.timeline = some timeline →
    ∃ streamGeneration run, c.state = .receiving streamGeneration ∧ c.Fed streamGeneration run timeline ∧ c.Queued run
  current : ∀ streamGeneration, c.state = .receiving streamGeneration →
    streamGeneration.value = c.lastStreamGeneration
  asks : AsksOpen c.input.journal
  opened : c.state.isReceiving = true → isOpen c.input.journal = true
  closed : c.state.isStopped = true ∨ c.state.isInhibited = true → isOpen c.input.journal = false

/-- What a call never changes in a receiving coordinator. -/
structure SameSetting (c s : LiveReceiveCoordinator I D S) : Prop where
  serviceInstanceId : s.serviceInstanceId = c.serviceInstanceId
  processGeneration : s.processGeneration = c.processGeneration
  selection : s.selection = c.selection
  last : s.lastStreamGeneration = c.lastStreamGeneration

/-- A poll of a receiving coordinator. -/
structure Occasion (I D S : Type) where
  crates : ReceiveCrates
  before : Observed I D S
  streamGeneration : StreamGeneration
  observedAt : MonotonicInstant
  recordedUtcMillis : Int64

variable {c s t : Observed I D S} {p : Occasion I D S} {answers : List StoreAnswer}

/-- What was handed to the store in a poll so far. -/
structure Handed (p : Occasion I D S) (answers : List StoreAnswer) (s : Observed I D S) : Prop where
  setting : SameSetting p.before s
  asks : AsksOpen s.input.journal
  store : s.store.answers = p.before.store.answers ++ answers
  gated : ∀ entry ∈ answers, ∃ batch window,
    p.before.Gated p.crates p.observedAt p.recordedUtcMillis batch window entry.1 ∧
      p.before.MadeOfAnswers p.streamGeneration p.observedAt (batchesOf s.input.journal) batch window

/-- Within a poll, still receiving. -/
structure Receiving (p : Occasion I D S) (answers : List StoreAnswer) (s : Observed I D S) : Prop
    extends Handed p answers s where
  state : s.state = .receiving p.streamGeneration
  opened : isOpen s.input.journal = true

/-- And the timeline has accepted all batches so far. -/
structure During (p : Occasion I D S) (answers : List StoreAnswer) (s : Observed I D S) : Prop
    extends Receiving p answers s where
  timeline : ∀ timeline, s.timeline = some timeline →
    ∃ run, p.before.Fed p.streamGeneration run timeline ∧ s.Queued run

/-- Before the batch of the poll is pushed: the timeline is the one before the poll, and the clock is this one. -/
structure Unpushed (p : Occasion I D S) (monitor : Option ReceiveClockMonitor) (s : Observed I D S) : Prop
    extends During p [] s where
  kept : s.timeline = p.before.timeline
  clock : s.clock = monitor

/-- At the end of a poll that inhibits receive. -/
structure Inhibited (p : Occasion I D S) (answers : List StoreAnswer) (s : Observed I D S) : Prop
    extends Handed p answers s where
  state : s.state.isInhibited = true
  closed : isOpen s.input.journal = false
  timeline : s.timeline = none

/-- Still receiving without a transition, or inhibited with the transition as the last event. -/
def Finished (p : Occasion I D S) (answers : List StoreAnswer) (events : List ReceivePollEvent) (t : Observed I D S) :
    Prop :=
  During p answers t ∧ NoTransition events ∨
    Inhibited p answers t ∧
      ∃ before event, events = before ++ [.lifecycle event] ∧ NoTransition before ∧ event.current = t.state

/-- The end of a poll that has handed on `answers` already: it reports what the store accepts from here. -/
def PollEnds (p : Occasion I D S) (answers : List StoreAnswer)
    (poll : Update (JournaledInput I) D (TrackedStore S) (List ReceivePollEvent)) (s : Observed I D S) : Prop :=
  Ends poll s
    (fun events t => ∃ more, events.filterMap persistedOf = more.filterMap acceptedOf ∧
      Finished p (answers ++ more) events t)
    (fun _ t => ∃ more, During p (answers ++ more) t)

/-- The decoder, the clock and the spectrum may change. -/
theorem During.keep (h : During p answers s) (decoder : D) (clock : Option ReceiveClockMonitor)
    (spectrum : Option SpectrumModel) :
    During p answers { s with decoder := decoder, clock := clock, spectrum := spectrum } :=
  ⟨⟨⟨⟨h.setting.serviceInstanceId, h.setting.processGeneration, h.setting.selection, h.setting.last⟩, h.asks, h.store,
    h.gated⟩, h.state, h.opened⟩, h.timeline⟩

/-- The input keeps its journal, and the clock may change. -/
theorem Unpushed.keep {monitor : Option ReceiveClockMonitor} (h : Unpushed p monitor s) {input : JournaledInput I}
    (hjournal : input.journal = s.input.journal) (clock : Option ReceiveClockMonitor) :
    Unpushed p clock { s with input := input, clock := clock } := by
  obtain ⟨input', journal'⟩ := input
  obtain rfl : journal' = s.input.journal := hjournal
  exact ⟨⟨⟨⟨⟨h.setting.serviceInstanceId, h.setting.processGeneration, h.setting.selection, h.setting.last⟩, h.asks,
    h.store, h.gated⟩, h.state, h.opened⟩, h.timeline⟩, h.kept, rfl⟩

/-- The input answers a batch, which joins the backlog. -/
theorem Unpushed.grow {monitor : Option ReceiveClockMonitor} (h : Unpushed p monitor s) {input : JournaledInput I}
    {batch : CaptureBatch} (hjournal : input.journal = s.input.journal ++ [.asked (.ok (some batch))]) :
    Unpushed p monitor { s with input := input, workerBatches := s.workerBatches ++ [batch] } := by
  obtain ⟨input', journal'⟩ := input
  obtain rfl : journal' = _ := hjournal
  refine ⟨⟨⟨⟨⟨h.setting.serviceInstanceId, h.setting.processGeneration, h.setting.selection, h.setting.last⟩, ?_,
    h.store, by simp⟩, h.state, ?_⟩, ?_⟩, h.kept, h.clock⟩
  · exact h.asks.append fun _ _ => h.opened
  · show isOpen (s.input.journal ++ [_]) = true
    rw [isOpen_append]
    exact h.opened
  · intro timeline htimeline
    obtain ⟨run, hfed, hqueued⟩ := h.timeline timeline htimeline
    refine ⟨run, hfed, ?_⟩
    show batchesOf (s.input.journal ++ [_]) = _ ++ (s.workerBatches ++ [batch])
    rw [batchesOf_append, InputEntry.answers, hqueued, List.append_assoc]

/-- The input answers no batch. -/
theorem Unpushed.dry {monitor : Option ReceiveClockMonitor} (h : Unpushed p monitor s) {input : JournaledInput I}
    {answer : Except InputCaptureError (Option CaptureBatch)}
    (hjournal : input.journal = s.input.journal ++ [.asked answer]) (hanswer : ∀ batch, answer ≠ .ok (some batch)) :
    Unpushed p monitor { s with input := input } := by
  obtain ⟨input', journal'⟩ := input
  obtain rfl : journal' = _ := hjournal
  refine ⟨⟨⟨⟨⟨h.setting.serviceInstanceId, h.setting.processGeneration, h.setting.selection, h.setting.last⟩, ?_,
    h.store, by simp⟩, h.state, ?_⟩, ?_⟩, h.kept, h.clock⟩
  · exact h.asks.append fun _ _ => h.opened
  · show isOpen (s.input.journal ++ [_]) = true
    rw [isOpen_append]
    exact h.opened
  · intro timeline htimeline
    obtain ⟨run, hfed, hqueued⟩ := h.timeline timeline htimeline
    refine ⟨run, hfed, ?_⟩
    show batchesOf (s.input.journal ++ [.asked answer]) = _
    rw [batchesOf_append, ← hqueued]
    unfold InputEntry.answers
    split
    · rename_i hentry
      cases hentry
    · rename_i batch hentry
      cases hentry
      exact absurd rfl (hanswer batch)
    · rfl

/-- A poll that ends where it is. -/
theorem pollEnds_pure (h : During p answers s) :
    PollEnds p answers (pure []) s := by
  refine ⟨[], rfl, .inl ⟨?_, noTransition_nil⟩⟩
  rw [List.append_nil]
  exact h

/-- An error that changes nothing that was handed on. -/
theorem During.some (h : During p answers s) :
    ∃ more, During p (answers ++ more) s := by
  refine ⟨[], ?_⟩
  rw [List.append_nil]
  exact h

/-- A check goes on with a value, or hands on nothing that is accepted. -/
def Proceeds (p : Occasion I D S) (answers : List StoreAnswer)
    (next : α → Update (JournaledInput I) D (TrackedStore S) (List ReceivePollEvent)) :
    Except ReceiveInhibition α → Observed I D S → Prop
  | .ok a, t => PollEnds p answers (next a) t
  | .error _, t => ∃ more, Receiving p (answers ++ more) t ∧
      more.filterMap acceptedOf = []

theorem Receiving.refuse (h : Receiving p answers s)
    (next : α → Update (JournaledInput I) D (TrackedStore S) (List ReceivePollEvent)) (reason : ReceiveInhibition) :
    Proceeds p answers next (.error reason) s := by
  refine ⟨[], ?_, rfl⟩
  rw [List.append_nil]
  exact h

/-! ## Calls that hand nothing on -/

theorem onInput_unpushed {monitor : Option ReceiveClockMonitor} {call : JournaledInput I → α × JournaledInput I}
    (hcall : ∀ input, (call input).2.journal = input.journal) :
    Leads (Unpushed p monitor) (Unpushed p monitor)
      (onInput call : Update (JournaledInput I) D (TrackedStore S) α) := by
  refine leads_modifyGet fun c hc => ?_
  exact hc.clock ▸ hc.keep (hcall c.input) c.clock

/-- Another spectrum alone. -/
def OnlySpectrum (s t : Observed I D S) : Prop := ∃ spectrum, t = { s with spectrum := spectrum }

theorem onSpectrum_frame (update : SpectrumModel.Update α) (s : Observed I D S) :
    Ends (onSpectrum update) s (fun _ => OnlySpectrum s) (fun _ => OnlySpectrum s) := by
  unfold Ends onSpectrum
  cases s.spectrum with
  | none => exact ⟨s.spectrum, rfl⟩
  | some spectrum =>
    dsimp only
    cases update spectrum with
    | ok a spectrum => exact ⟨some spectrum, rfl⟩
    | error error spectrum => exact ⟨some spectrum, rfl⟩

theorem waterfall_frame (window : Ft8ReceiveWindow) (s : Observed I D S) :
    Ends (waterfall window) s (fun _ => OnlySpectrum s) (fun _ => OnlySpectrum s) := by
  unfold waterfall
  rw [ends_bind, ends_get]
  split
  · exact onSpectrum_frame _ s
  · exact ⟨s.spectrum, rfl⟩

/-- The check of the clock leaves the monitor as its snapshot does. -/
theorem checkClock_unpushed (observedAt : MonotonicInstant) :
    Leads (Unpushed p p.before.clock) (Unpushed p (p.before.clock.map fun clock => (clock.snapshot observedAt).2))
      (checkClock observedAt : Update (JournaledInput I) D (TrackedStore S) _) := by
  intro s hs
  unfold checkClock
  rw [ends_bind, onClock_ends]
  constructor
  · intro hnone
    rw [← hs.clock, hnone]
    exact ⟨hs.toDuring, hs.kept, hnone⟩
  · intro clock hclock
    have hafter := hs.keep rfl (some (clock.snapshot observedAt).2)
    rw [← hs.clock, hclock]
    split <;> exact hafter

/-! ## One window -/

/-- A record of a gated window is handed to the store. -/
theorem During.hand (h : During p answers s) {record : ReceiveRecord} {batch : CaptureBatch} {window : Ft8ReceiveWindow}
    (hgated : p.before.Gated p.crates p.observedAt p.recordedUtcMillis batch window record)
    (hmade : p.before.MadeOfAnswers p.streamGeneration p.observedAt (batchesOf s.input.journal) batch window)
    (answer : Except StorageError ReceiveInsertOutcome) (store : S) :
    During p (answers ++ [(record, answer)])
      { s with store := { store, answers := s.store.answers ++ [(record, answer)] } } := by
  refine ⟨⟨⟨⟨h.setting.serviceInstanceId, h.setting.processGeneration, h.setting.selection, h.setting.last⟩, h.asks,
    ?_, ?_⟩, h.state, h.opened⟩, h.timeline⟩
  · show s.store.answers ++ [(record, answer)] = _
    rw [h.store, List.append_assoc]
  · rw [List.forall_mem_append]
    refine ⟨h.gated, ?_⟩
    intro entry hentry
    rw [List.mem_singleton.mp hentry]
    exact ⟨batch, window, hgated, hmade⟩

/-- What follows a stored window. -/
def Follows (p : Occasion I D S) (answers : List StoreAnswer)
    (next : List ReceivePollEvent → Update (JournaledInput I) D (TrackedStore S) (List ReceivePollEvent)) : Prop :=
  ∀ stored more t, During p (answers ++ more) t → stored.filterMap persistedOf = more.filterMap acceptedOf →
    NoTransition stored → PollEnds p answers (next stored) t

section Window

variable [DaemonReceiveStore S]

theorem persist_proceeds {record : ReceiveRecord} {batch : CaptureBatch} {window : Ft8ReceiveWindow}
    {next : List ReceivePollEvent → Update (JournaledInput I) D (TrackedStore S) (List ReceivePollEvent)}
    (hs : During p answers s) (hgated : p.before.Gated p.crates p.observedAt p.recordedUtcMillis batch window record)
    (hmade : p.before.MadeOfAnswers p.streamGeneration p.observedAt (batchesOf s.input.journal) batch window)
    (hnext : Follows p answers next) (snapshot : Option WaterfallSnapshot) :
    Ends (persist record snapshot) s (Proceeds p answers next)
      (fun _ t => ∃ more, During p (answers ++ more) t) := by
  have hcall : DaemonReceiveStore.recordReceive s.store record =
      ((DaemonReceiveStore.recordReceive s.store.store record).1,
        { store := (DaemonReceiveStore.recordReceive s.store.store record).2
          answers := s.store.answers ++ [(record, (DaemonReceiveStore.recordReceive s.store.store record).1)] }) := rfl
  unfold persist
  rw [ends_bind, onStore, ends_modifyGet, hcall]
  generalize DaemonReceiveStore.recordReceive s.store.store record = called
  obtain ⟨answer, store⟩ := called
  have hhanded := hs.hand hgated hmade answer store
  cases answer with
  | error error => exact ⟨_, hhanded.toReceiving, rfl⟩
  | ok outcome =>
    refine hnext _ _ _ hhanded ?_ ?_
    · cases snapshot <;> rfl
    · intro event hevent
      cases snapshot with
      | none => simp at hevent
      | some snapshot => simp at hevent

variable [Ft8OfflineDecoder D]

/-- **One gated window**: its record is handed to the store, or nothing is. -/
theorem processWindow_proceeds {window : Ft8ReceiveWindow} {alignment : ReceiveWindowAlignment} {batch : CaptureBatch}
    (audioHealth : InputHealth)
    {next : List ReceivePollEvent → Update (JournaledInput I) D (TrackedStore S) (List ReceivePollEvent)}
    (hthrough : p.before.LetsThrough p.observedAt batch window alignment)
    (hmade : p.before.MadeOfAnswers p.streamGeneration p.observedAt (batchesOf s.input.journal) batch window)
    (hnext : Follows p answers next) (hs : During p answers s) :
    Ends (processWindow p.crates window alignment audioHealth p.recordedUtcMillis) s (Proceeds p answers next)
      (fun _ t => ∃ more, During p (answers ++ more) t) := by
  unfold processWindow
  rw [ends_bind]
  refine (waterfall_frame window s).imp ?_ ?_
  swap
  · rintro _ _ ⟨spectrum, rfl⟩
    exact (hs.keep _ _ spectrum).some
  rintro snapshot _ ⟨spectrum, rfl⟩
  replace hs := hs.keep s.decoder s.clock spectrum
  rw [ends_bind, ends_fromResult]
  refine ⟨?_, fun _ _ => hs.some⟩
  intro pcm _
  rw [ends_bind, ends_get, ends_bind, onDecoder, ends_modifyGet]
  dsimp only
  generalize Ft8OfflineDecoder.decode s.decoder pcm s.decodeConfig = called
  obtain ⟨result, decoder⟩ := called
  have hdecoded := hs.keep decoder s.clock spectrum
  cases result with
  | error error => exact hdecoded.toReceiving.refuse next .decoderFailure
  | ok decodes =>
    dsimp only
    rw [ends_bind, ends_fromResult]
    refine ⟨?_, fun _ _ => hdecoded.some⟩
    intro receiveWindowId hid
    rw [exceptMapError_ok, hs.setting.serviceInstanceId, hs.setting.selection] at hid
    rw [ends_bind, onTimeline_ends]
    refine ⟨fun _ => hdecoded.some, ?_⟩
    intro timeline htimeline
    have hkept : During p answers
        { s with decoder := decoder, timeline := some timeline, spectrum := spectrum } := by
      rw [← htimeline]
      exact hdecoded
    dsimp only
    split
    · exact hkept.toReceiving.refuse next .storageFailure
    · rename_i record hrecord
      refine persist_proceeds hkept ?_ hmade hnext snapshot
      refine ⟨alignment, receiveWindowId, audioHealth, timeline.health, decodes, hthrough, hid, ?_⟩
      unfold receiveRecord at hrecord ⊢
      rwa [hs.setting.serviceInstanceId, hs.setting.selection] at hrecord

end Window

section Poll

variable [DaemonReceiveInput I]

/-! ## Parts of a poll -/

/-- Inhibiting closes the input and is the last event. -/
theorem inhibit_pollEnds {more : List StoreAnswer} (reason : ReceiveInhibition)
    (h : Receiving p (answers ++ more) s)
    (hrefused : more.filterMap acceptedOf = []) :
    PollEnds p answers
      (do
        let event ← inhibit reason
        pure [.lifecycle event]) s := by
  unfold PollEnds inhibit
  rw [ends_bind, ends_bind, ends_get, h.state]
  simp only [closeInput, transition, onInput, ends_bind, ends_modify, ends_modifyGet, ends_pure]
  refine ⟨more, hrefused.symm, .inr ⟨⟨⟨?_, ?_, h.store, ?_⟩, rfl, ?_, rfl⟩, [], _, rfl, noTransition_nil, rfl⟩⟩
  · exact ⟨h.setting.serviceInstanceId, h.setting.processGeneration, h.setting.selection, h.setting.last⟩
  · exact h.asks.append (by simp)
  · intro entry hentry
    show ∃ batch window, _ ∧ p.before.MadeOfAnswers _ _ (batchesOf (s.input.journal ++ [.stopped])) batch window
    rw [batchesOf_append]
    exact h.gated entry hentry
  · show isOpen (s.input.journal ++ [.stopped]) = false
    rw [isOpen_append]
    rfl

theorem orInhibit_pollEnds {check : Update (JournaledInput I) D (TrackedStore S) (Except ReceiveInhibition α)}
    {next : α → Update (JournaledInput I) D (TrackedStore S) (List ReceivePollEvent)}
    (hcheck : Ends check s (Proceeds p answers next)
      (fun _ t => ∃ more, During p (answers ++ more) t)) :
    PollEnds p answers (orInhibit check next) s := by
  unfold PollEnds orInhibit
  rw [ends_bind]
  refine hcheck.imp ?_ (fun _ _ ht => ht)
  intro answer t ht
  cases answer with
  | ok a => exact ht
  | error reason =>
    obtain ⟨more, hduring, hrefused⟩ := ht
    exact inhibit_pollEnds reason hduring hrefused

/-- A check that hands nothing on. -/
theorem orInhibit_during {P Q : Observed I D S → Prop}
    {check : Update (JournaledInput I) D (TrackedStore S) (Except ReceiveInhibition α)}
    {next : α → Update (JournaledInput I) D (TrackedStore S) (List ReceivePollEvent)} (hcheck : Leads P Q check)
    (hduring : ∀ t, Q t → During p answers t) (hnext : ∀ a t, Q t → PollEnds p answers (next a) t) (hs : P s) :
    PollEnds p answers (orInhibit check next) s := by
  refine orInhibit_pollEnds ((hcheck s hs).imp ?_ (fun _ t ht => (hduring t ht).some))
  intro answer t ht
  cases answer with
  | ok a => exact hnext a t ht
  | error reason => exact (hduring t ht).toReceiving.refuse next reason

theorem checkInput_unpushed {monitor : Option ReceiveClockMonitor} :
    Leads (Unpushed p monitor) (Unpushed p monitor)
      (checkInput : Update (JournaledInput I) D (TrackedStore S) _) := by
  refine (onInput_unpushed fun _ => rfl).bind (fun _ => id) fun fault => ?_
  cases fault with
  | some fault => exact leads_pure (fun _ => id) _
  | none =>
    refine (onInput_unpushed fun _ => rfl).bind (fun _ => id) fun health => ?_
    cases health with
    | error error => exact leads_pure (fun _ => id) _
    | ok health =>
      dsimp only
      split <;> exact leads_pure (fun _ => id) _

/-- Batches are asked for while the input is open, and join the backlog. -/
theorem fillBacklog_unpushed {monitor : Option ReceiveClockMonitor} (room : Nat) :
    Leads (Unpushed p monitor) (Unpushed p monitor)
      (fillBacklog room : Update (JournaledInput I) D (TrackedStore S) _) := by
  induction room with
  | zero => exact leads_pure (fun _ => id) _
  | succ room ih =>
    intro s hs
    have hcall : DaemonReceiveInput.nextBatch s.input =
        ((DaemonReceiveInput.nextBatch s.input.input).1,
          { input := (DaemonReceiveInput.nextBatch s.input.input).2
            journal := s.input.journal ++ [.asked (DaemonReceiveInput.nextBatch s.input.input).1] }) := rfl
    unfold fillBacklog
    rw [ends_bind, onInput, ends_modifyGet, hcall]
    generalize DaemonReceiveInput.nextBatch s.input.input = called
    obtain ⟨answer, input⟩ := called
    rcases answer with error | _ | batch
    · exact hs.dry rfl (by simp)
    · exact hs.dry rfl (by simp)
    · dsimp only
      rw [ends_bind, ends_modify]
      exact ih _ (hs.grow rfl)

/-! ## One batch -/

section Store

variable [Ft8OfflineDecoder D] [DaemonReceiveStore S]

/-- Gates the event of a batch: a window that is ready was completed by the batch. -/
theorem processEvents_pollEnds {batch : CaptureBatch} {timeline : Ft8ReceiveTimeline} (audioHealth : InputHealth)
    {events : List ReceiveTimelineEvent} (hone : events.length ≤ 1) (htimeline : p.before.timeline = some timeline)
    (haccepted : (timeline.step (batch, p.observedAt.millis)).1 = .ok events)
    (hclock : s.clock = p.before.clock.map fun clock => (clock.snapshot p.observedAt).2)
    (hmade : ∀ window, .window window ∈ events →
      p.before.MadeOfAnswers p.streamGeneration p.observedAt (batchesOf s.input.journal) batch window)
    (hs : During p [] s) :
    PollEnds p [] (processEvents p.crates audioHealth p.observedAt p.recordedUtcMillis events) s := by
  match events, hone with
  | [], _ => exact pollEnds_pure hs
  | [event], _ =>
    -- nothing follows the event
    have hrest (stored : List ReceivePollEvent) :
        (do
          let results ← processEvents p.crates audioHealth p.observedAt p.recordedUtcMillis []
          pure (stored ++ results) : Update (JournaledInput I) D (TrackedStore S) (List ReceivePollEvent)) =
          pure stored := by
      rw [processEvents, pure_bind, List.append_nil]
    unfold PollEnds processEvents
    rw [ends_bind, onClock_ends]
    refine ⟨fun _ => hs.some, ?_⟩
    intro clock hsome
    rw [hsome] at hclock
    obtain ⟨monitor, hmonitor, rfl⟩ := Option.map_eq_some_iff.mp hclock.symm
    have hafter := hs.keep s.decoder (some ((monitor.snapshot p.observedAt).2.gate event p.observedAt).2) s.spectrum
    split
    · rename_i incomplete _
      rw [processEvents, pure_bind]
      refine ⟨[], rfl, .inl ⟨hafter, ?_⟩⟩
      intro transition htransition
      cases List.mem_singleton.mp htransition
    · rename_i slot fault _
      exact orInhibit_pollEnds (hafter.toReceiving.refuse pure (.clock fault))
    · rename_i window alignment hready
      obtain ⟨rfl, -⟩ := gate_ready_age hready
      simp only [hrest]
      refine orInhibit_pollEnds (processWindow_proceeds audioHealth ?_ (hmade window List.mem_cons_self) ?_ hafter)
      · exact ⟨timeline, monitor, htimeline, haccepted, hmonitor, hready⟩
      · intro stored more t ht hreported hnone
        exact ⟨more, hreported, .inl ⟨ht, hnone⟩⟩

/-- The first batch of the backlog is pushed. -/
theorem processBatch_pollEnds {batch : CaptureBatch} {batches : List CaptureBatch} (audioHealth : InputHealth)
    (hs : Unpushed p (p.before.clock.map fun clock => (clock.snapshot p.observedAt).2) s)
    (hbacklog : s.workerBatches = batch :: batches) :
    PollEnds p [] (processBatch p.crates batch audioHealth p.observedAt p.recordedUtcMillis)
      { s with workerBatches := batches } := by
  have hpopped {timeline : Option Ft8ReceiveTimeline} :
      Receiving p [] { s with workerBatches := batches, timeline := timeline } :=
    ⟨⟨⟨hs.setting.serviceInstanceId, hs.setting.processGeneration, hs.setting.selection, hs.setting.last⟩, hs.asks,
      hs.store, hs.gated⟩, hs.state, hs.opened⟩
  refine orInhibit_pollEnds ?_
  rw [ends_bind, onTimeline_ends]
  constructor
  · intro hnone
    refine ⟨[], hpopped, ?_⟩
    intro timeline htimeline
    rw [hnone] at htimeline
    cases htimeline
  · intro timeline htimeline
    obtain ⟨run, ⟨hfed, hfinal⟩, hqueued⟩ := hs.timeline timeline htimeline
    rw [Queued, hbacklog] at hqueued
    rw [ends_pure]
    cases hpushed : (timeline.step (batch, p.observedAt.millis)).1 with
    | error error => exact hpopped.refuse _ (.timeline error)
    | ok events =>
      have haccepted := hpushed
      rw [hfinal] at haccepted
      have hgrown := hfed.append haccepted
      refine processEvents_pollEnds audioHealth (hfed.one_event haccepted) (hs.kept.symm.trans htimeline) hpushed
        hs.clock ?_ ⟨hpopped, ?_⟩
      · intro window hwindow
        obtain ⟨-, hstream, hframes⟩ := hgrown.window haccepted hwindow
        exact ⟨hstream, run, batches, hqueued, hgrown.identity, hframes⟩
      · intro next hnext
        refine ⟨run ++ [(batch, p.observedAt.millis)], ⟨hgrown, ?_⟩, ?_⟩
        · rw [final_append, ← hfinal]
          exact (Option.some.inj hnext).symm
        · show batchesOf s.input.journal = _ ++ batches
          rw [hqueued, List.map_append, List.append_assoc]
          rfl

/-- **A poll of a receiving coordinator.** -/
theorem poll_pollEnds (hs : Unpushed p p.before.clock s) :
    PollEnds p [] (poll p.crates p.observedAt p.recordedUtcMillis) s := by
  unfold PollEnds poll requireReceiving
  rw [ends_bind, ends_bind, ends_get, hs.state]
  refine orInhibit_during checkInput_unpushed (fun _ => Unpushed.toDuring) ?_ hs
  intro audioHealth s hs
  refine orInhibit_during (checkClock_unpushed p.observedAt) (fun _ => Unpushed.toDuring) ?_ hs
  intro _ s hs
  unfold PollEnds
  rw [ends_bind, ends_get]
  refine orInhibit_during (fillBacklog_unpushed _) (fun _ => Unpushed.toDuring) ?_ hs
  intro _ s hs
  unfold PollEnds
  rw [ends_bind, ends_get]
  split
  · exact pollEnds_pure hs.toDuring
  · rename_i batch batches hbacklog
    rw [ends_bind, ends_modify]
    exact processBatch_pollEnds audioHealth hs hbacklog

end Store

end Poll

end LiveReceiveCoordinator

end Slotpilot.Daemon
