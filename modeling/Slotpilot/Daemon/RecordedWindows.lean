import Slotpilot.Daemon.ReceiveLifecycle
import Slotpilot.Daemon.WindowIdentity
import Slotpilot.Operations.GateDecision
import Slotpilot.Storage.RetryOrder

/-!
# The records of a call

The checks of a record follow from what the coordinator keeps true of its timeline and its clock (`Consistent`), but for
those of the decodes and the record time. A decoder and a store that remember show what became of each result.

* `receiveRecord_cases`: the record of a gated window is refused for its decodes or its record time only;
* `step_judged`: in every call storage inhibits receive exactly when the last result was not stored, and a result is not
  stored only when the store refuses it or no record takes it.
-/

set_option autoImplicit false

namespace Slotpilot.Daemon

open Lib Domain Audio Operations Protocol Storage

/-! ## Decoders and stores that remember -/

/-- A decoder, and what it has returned. -/
structure TrackedDecoder (D : Type) where
  decoder : D
  results : List (List Ft8Decode)

instance {D : Type} [Ft8OfflineDecoder D] : Ft8OfflineDecoder (TrackedDecoder D) where
  decode self pcm config :=
    let result := Ft8OfflineDecoder.decode self.decoder pcm config
    (result.1, { decoder := result.2, results := self.results ++ result.1.toOption.toList })

/-- A record that a store was handed, with its answer. -/
abbrev StoreAnswer : Type := ReceiveRecord × Except StorageError ReceiveInsertOutcome

/-- A store, and the records it was handed with its answers. -/
structure TrackedStore (S : Type) where
  store : S
  answers : List StoreAnswer

instance {S : Type} [DaemonReceiveStore S] : DaemonReceiveStore (TrackedStore S) where
  recordReceive self record :=
    let result := DaemonReceiveStore.recordReceive self.store record
    (result.1, { store := result.2, answers := self.answers ++ [(record, result.1)] })

/-- The metadata of each decode is in the durable ranges. -/
def Durable (decodes : List Ft8Decode) : Prop :=
  ∀ decode ∈ decodes, validateDecodeMetadata decode.metadata = .ok ()

namespace LiveReceiveCoordinator

/-- A coordinator whose decoder and store remember. -/
abbrev Tracked (I D S : Type) : Type := LiveReceiveCoordinator I (TrackedDecoder D) (TrackedStore S)

/-- An update of one. -/
abbrev TrackedUpdate (I D S α : Type) : Type := Update I (TrackedDecoder D) (TrackedStore S) α

variable {I D S α : Type}

/-! ## What a coordinator keeps true -/

/-- The timeline is anchored where its resampler is and records a small drift, the clock has a checked policy, and a
receiving coordinator has a timeline. -/
structure Consistent (c : LiveReceiveCoordinator I D S) : Prop where
  timeline : ∀ t, c.timeline = some t → Ft8ReceiveTimeline.Linked t ∧ Ft8ReceiveTimeline.DriftBounded t
  clock : ∀ m, c.clock = some m → m.Sound
  receiving : c.state.isReceiving = true → c.timeline.isSome = true

theorem consistent_new (input : I) (decoder : D) (store : S) (config : LiveReceiveCoordinatorConfig) :
    Consistent (new input decoder store config) := by
  refine ⟨?_, ?_, ?_⟩
  · intro t ht
    cases ht
  · intro m hm
    cases hm
  · intro hreceiving
    cases hreceiving

/-- A change elsewhere leaves a coordinator consistent. -/
theorem Consistent.of_same {c t : LiveReceiveCoordinator I D S} (h : Consistent c) (htimeline : t.timeline = c.timeline)
    (hclock : t.clock = c.clock) (hstate : t.state = c.state) : Consistent t := by
  refine ⟨?_, ?_, ?_⟩
  · rw [htimeline]
    exact h.timeline
  · rw [hclock]
    exact h.clock
  · rw [hstate, htimeline]
    exact h.receiving

/-- Without a timeline and a clock a coordinator that is not receiving is consistent. -/
theorem consistent_closed {t : LiveReceiveCoordinator I D S} (htimeline : t.timeline = none) (hclock : t.clock = none)
    (hstate : t.state.isReceiving = false) : Consistent t := by
  refine ⟨?_, ?_, ?_⟩
  · intro timeline h
    rw [htimeline] at h
    cases h
  · intro m h
    rw [hclock] at h
    cases h
  · intro h
    rw [hstate] at h
    cases h

/-! ## The record of a window -/

/-- **The record of a gated window** is refused for its decodes only. -/
theorem receiveRecord_cases (self : LiveReceiveCoordinator I D S) (receiveWindowId : ReceiveWindowId)
    {window : Ft8ReceiveWindow} {alignment : ReceiveWindowAlignment} (audioHealth : InputHealth)
    {timelineHealth : ReceiveTimelineHealth} (decodes : List Ft8Decode) (recordedUtcMillis : Int64)
    (hmapping : window.mapping.utcUnixMillis = window.slotStartUtcMillis) (hage : alignment.mappingAgeMillis ≤ 60000)
    (hdrift : |timelineHealth.driftPartsPerMillion| ≤ 50000) :
    (∃ record, self.receiveRecord receiveWindowId window alignment audioHealth timelineHealth decodes
        recordedUtcMillis = .ok record ∧ decodes.length ≤ maxStoredDecodesPerWindow ∧
          record.decodes = Ft8Decode.sortDeterministically decodes) ∨
      ∃ error, self.receiveRecord receiveWindowId window alignment audioHealth timelineHealth decodes
        recordedUtcMillis = .error error ∧
          (maxStoredDecodesPerWindow < decodes.length ∨ ¬(0 ≤ recordedUtcMillis.toInt ∧ Durable decodes)) := by
  have hsmall := abs_le.mp hdrift
  have hrange : -100000 ≤ timelineHealth.driftPartsPerMillion ∧ timelineHealth.driftPartsPerMillion ≤ 100000 := by
    omega
  have hclock : (ReceiveClockHealth.healthy alignment.mappingAgeMillis).validate = .ok () := by
    rw [ReceiveClockHealth.validate, if_pos]
    unfold maxClockMappingAgeMillis
    omega
  unfold receiveRecord
  obtain ⟨record, hrecord, hvalid, -, -, hdecodes, -⟩ | ⟨error, herror, hinvalid⟩ := ReceiveRecord.new_cases
    { receiveWindowId
      serviceInstanceId := self.serviceInstanceId
      processGeneration := window.processGeneration
      streamGeneration := window.streamGeneration
      slot := window.slot
      deviceIdentity := self.selection.deviceIdentity
      configuration := self.selection.configuration
      captureMapping := window.mapping }
    { audio := audioHealth, timeline := timelineHealth, clock := .healthy alignment.mappingAgeMillis }
    decodes recordedUtcMillis
  · exact .inl ⟨record, hrecord, (validateReceive_ok.mp hvalid).2.2.1, hdecodes⟩
  · refine .inr ⟨error, herror, ?_⟩
    by_contra hfine
    rw [not_or, not_not, Nat.not_lt] at hfine
    have hvalid := hinvalid.symm.trans
      (validateReceive_ok.mpr ⟨hmapping, hfine.2.1, hfine.1, hrange, hclock, hfine.2.2, .inl rfl⟩)
    cases hvalid

/-- The identity of a window exists. -/
theorem receiveWindowId_ok {crates : ReceiveCrates} (hdigest : ∀ bytes, (crates.sha256 bytes).length = 32)
    (self : LiveReceiveCoordinator I D S) (window : Ft8ReceiveWindow) :
    ∃ id, receiveWindowId crates self.serviceInstanceId self.selection window.processGeneration
      window.streamGeneration window.slotStartUtcMillis = .ok id := by
  obtain ⟨id, hid, -⟩ := windowId_ok hdigest
    { serviceInstanceId := self.serviceInstanceId
      processGeneration := window.processGeneration
      streamGeneration := window.streamGeneration
      slot := window.slot
      deviceIdentity := self.selection.deviceIdentity
      configuration := self.selection.configuration }
  exact ⟨id, hid⟩

/-- The PCM of a window exists. -/
theorem windowPcm_ok (window : Ft8ReceiveWindow) : ∃ pcm, windowPcm window = .ok pcm := by
  have hsize : window.samples.length = 180000 := window.size
  refine ⟨⟨⟨12000, 1, by decide, by decide⟩, window.samples, ?_, Nat.mod_one _⟩, ?_⟩
  · rw [hsize]
    decide
  · simp [windowPcm, PcmFormat.new, PcmBuffer.new, hsize, maxOfflinePcmSamples, Nat.mod_one]

/-! ## What the decoder and the store have seen -/

variable {c s t : Tracked I D S} {recordedUtcMillis : Int64}

/-- What the decoder returned from `c` to `t`. -/
def newResults (c t : Tracked I D S) : List (List Ft8Decode) :=
  t.decoder.results.drop c.decoder.results.length

/-- The records handed to the store from `c` to `t`, with its answers. -/
def newAnswers (c t : LiveReceiveCoordinator I D (TrackedStore S)) : List StoreAnswer :=
  t.store.answers.drop c.store.answers.length

/-- From `c` to `t` the decoder returned these results and the store was handed these records. -/
structure Logged (c t : Tracked I D S) (results : List (List Ft8Decode))
    (answers : List StoreAnswer) : Prop where
  results : t.decoder.results = c.decoder.results ++ results
  answers : t.store.answers = c.store.answers ++ answers

/-- Each result fits a record and was handed to the store. -/
structure AllStored (results : List (List Ft8Decode)) (answers : List StoreAnswer) : Prop where
  fits : ∀ decodes ∈ results, decodes.length ≤ maxStoredDecodesPerWindow
  stored : answers.map (·.1.decodes) = results.map Ft8Decode.sortDeterministically

/-- The last result was handed to the store in vain, or not at all. -/
inductive Unstored (recordedUtcMillis : Int64) :
    List (List Ft8Decode) → List StoreAnswer → Prop
  | refused (results answers) (decodes : List Ft8Decode) (record : ReceiveRecord) (error : StorageError)
      (before : AllStored results answers) (fits : decodes.length ≤ maxStoredDecodesPerWindow)
      (stored : record.decodes = Ft8Decode.sortDeterministically decodes) :
      Unstored recordedUtcMillis (results ++ [decodes]) (answers ++ [(record, .error error)])
  | rejected (results answers) (decodes : List Ft8Decode) (before : AllStored results answers)
      (unfit : maxStoredDecodesPerWindow < decodes.length ∨ ¬(0 ≤ recordedUtcMillis.toInt ∧ Durable decodes)) :
      Unstored recordedUtcMillis (results ++ [decodes]) answers

/-- Storage failed, and the last result was not stored; or all results were. -/
def Accounts (recordedUtcMillis : Int64) (failed : Prop) (results : List (List Ft8Decode))
    (answers : List StoreAnswer) : Prop :=
  failed ∧ Unstored recordedUtcMillis results answers ∨ ¬failed ∧ AllStored results answers

theorem allStored_nil : AllStored [] [] := by
  refine ⟨?_, rfl⟩
  intro decodes hdecodes
  cases hdecodes

theorem AllStored.append {results : List (List Ft8Decode)}
    {answers : List StoreAnswer} {decodes : List Ft8Decode}
    {record : ReceiveRecord} (h : AllStored results answers) (hfits : decodes.length ≤ maxStoredDecodesPerWindow)
    (hstored : record.decodes = Ft8Decode.sortDeterministically decodes)
    (answer : Except StorageError ReceiveInsertOutcome) :
    AllStored (results ++ [decodes]) (answers ++ [(record, answer)]) := by
  refine ⟨?_, ?_⟩
  · intro result hresult
    obtain hresult | hresult := List.mem_append.mp hresult
    · exact h.fits result hresult
    · rw [List.mem_singleton.mp hresult]
      exact hfits
  · simp [h.stored, hstored]

/-- In the same lifecycle state as `c`, with every result stored. -/
structure Progress (c t : Tracked I D S) : Prop where
  state : t.state = c.state
  consistent : Consistent t
  logs : ∃ results answers, Logged c t results answers ∧ AllStored results answers

/-- In the same lifecycle state as `c`, about to be inhibited. -/
structure Halted (recordedUtcMillis : Int64) (c : Tracked I D S) (reason : ReceiveInhibition)
    (t : Tracked I D S) : Prop where
  state : t.state = c.state
  logs : ∃ results answers, Logged c t results answers ∧
    Accounts recordedUtcMillis (reason = .storageFailure) results answers

/-- Storage has inhibited a receiving coordinator. -/
def StorageInhibited (c t : Tracked I D S) : Prop :=
  c.state.isReceiving = true ∧ ∃ g, t.state = .inhibited g .storageFailure

/-- After a call: storage inhibits receive exactly when the last result was not stored. -/
structure Judged (recordedUtcMillis : Int64) (c t : Tracked I D S) : Prop where
  consistent : Consistent t
  logs : ∃ results answers, Logged c t results answers ∧
    Accounts recordedUtcMillis (StorageInhibited c t) results answers

theorem progress_self (h : Consistent c) : Progress c c :=
  ⟨rfl, h, [], [], ⟨(List.append_nil _).symm, (List.append_nil _).symm⟩, allStored_nil⟩

/-- A change elsewhere is progress. -/
theorem Progress.of_same (h : Progress c s) (hdecoder : t.decoder = s.decoder) (hstore : t.store = s.store)
    (hstate : t.state = s.state) (hconsistent : Consistent t) : Progress c t := by
  obtain ⟨results, answers, hlogged, hall⟩ := h.logs
  refine ⟨hstate.trans h.state, hconsistent, results, answers, ⟨?_, ?_⟩, hall⟩
  · rw [hdecoder]
    exact hlogged.results
  · rw [hstore]
    exact hlogged.answers

theorem Progress.halted (h : Progress c t) {reason : ReceiveInhibition} (hreason : reason ≠ .storageFailure) :
    Halted recordedUtcMillis c reason t := by
  obtain ⟨results, answers, hlogged, hall⟩ := h.logs
  exact ⟨h.state, results, answers, hlogged, .inr ⟨hreason, hall⟩⟩

theorem Progress.judged (h : Progress c t) : Judged recordedUtcMillis c t := by
  obtain ⟨results, answers, hlogged, hall⟩ := h.logs
  refine ⟨h.consistent, results, answers, hlogged, .inr ⟨?_, hall⟩⟩
  intro hinhibited
  obtain ⟨hreceiving, g, hstate⟩ := hinhibited
  rw [← h.state, hstate] at hreceiving
  cases hreceiving

/-! ## Parts of a call -/

section Calls

variable [DaemonReceiveInput I]

/-- Inhibiting ends a call that has halted. -/
theorem inhibit_judged {reason : ReceiveInhibition} (hreceiving : c.state.isReceiving = true)
    (h : Halted recordedUtcMillis c reason s) :
    Ends (inhibit reason) s (fun _ => Judged recordedUtcMillis c) (fun _ => Judged recordedUtcMillis c) := by
  obtain ⟨results, answers, hlogged, haccounts⟩ := h.logs
  unfold inhibit
  rw [ends_bind, ends_get]
  split
  · rename_i hstate
    rw [← h.state, hstate] at hreceiving
    cases hreceiving
  all_goals
    simp only [closeInput, transition, ends_bind, ends_modify]
    refine ⟨consistent_closed rfl rfl rfl, results, answers, ⟨hlogged.results, hlogged.answers⟩, ?_⟩
    refine haccounts.imp (fun hfailed => ⟨⟨hreceiving, _, congrArg _ hfailed.1⟩, hfailed.2⟩)
      (fun hfine => ⟨?_, hfine.2⟩)
    intro hinhibited
    obtain ⟨-, g, hstate⟩ := hinhibited
    cases hstate
    exact hfine.1 rfl

/-- A check goes on with a value, or has halted. -/
def Checked (recordedUtcMillis : Int64) (P : α → Prop) (c : Tracked I D S) :
    Except ReceiveInhibition α → Tracked I D S → Prop
  | .ok a, t => P a ∧ Progress c t
  | .error reason, t => Halted recordedUtcMillis c reason t

/-- From progress, a check ends checked or fails where it made progress to. -/
def Checks (recordedUtcMillis : Int64) (P : α → Prop) (c : Tracked I D S)
    (check : TrackedUpdate I D S (Except ReceiveInhibition α)) : Prop :=
  ∀ s, Progress c s → Ends check s (Checked recordedUtcMillis P c) (fun _ => Progress c)

theorem orInhibit_judged {P : α → Prop} {check : TrackedUpdate I D S (Except ReceiveInhibition α)}
    {next : α → TrackedUpdate I D S (List ReceivePollEvent)}
    (hreceiving : c.state.isReceiving = true) (hcheck : Checks recordedUtcMillis P c check)
    (hnext : ∀ a, P a → Leads (Progress c) (Judged recordedUtcMillis c) (next a)) :
    Leads (Progress c) (Judged recordedUtcMillis c) (orInhibit check next) := by
  intro s hs
  unfold orInhibit
  rw [ends_bind]
  refine (hcheck s hs).imp ?_ (fun _ _ ht => ht.judged)
  intro answer t ht
  cases answer with
  | ok a => exact hnext a ht.1 t ht.2
  | error reason =>
    show Ends (inhibit reason >>= _) t _ _
    rw [ends_bind]
    exact inhibit_judged hreceiving ht

end Calls

theorem onInput_progress (call : I → α × I) :
    Leads (Progress c) (Progress c) (onInput call : TrackedUpdate I D S α) :=
  leads_modifyGet fun _ hs => hs.of_same rfl rfl rfl (hs.consistent.of_same rfl rfl rfl)

theorem onTimeline_ends {call : Ft8ReceiveTimeline → α × Ft8ReceiveTimeline}
    {Q : α → LiveReceiveCoordinator I D S → Prop} {E : ReceiveCoordinatorError → LiveReceiveCoordinator I D S → Prop}
    {s : LiveReceiveCoordinator I D S} :
    Ends (onTimeline call) s Q E ↔ (s.timeline = none → E (.invalidLifecycle s.state) s) ∧
      ∀ timeline, s.timeline = some timeline → Q (call timeline).1 { s with timeline := some (call timeline).2 } := by
  unfold onTimeline
  rw [ends_bind, ends_get]
  cases s.timeline with
  | none => simp
  | some timeline =>
    constructor
    · intro h
      refine ⟨nofun, ?_⟩
      intro _ hsame
      cases hsame
      exact h
    · intro h
      exact h.2 timeline rfl

theorem onClock_ends {call : ReceiveClockMonitor → α × ReceiveClockMonitor}
    {Q : α → LiveReceiveCoordinator I D S → Prop} {E : ReceiveCoordinatorError → LiveReceiveCoordinator I D S → Prop}
    {s : LiveReceiveCoordinator I D S} :
    Ends (onClock call) s Q E ↔ (s.clock = none → E (.invalidLifecycle s.state) s) ∧
      ∀ clock, s.clock = some clock → Q (call clock).1 { s with clock := some (call clock).2 } := by
  unfold onClock
  rw [ends_bind, ends_get]
  cases s.clock with
  | none => simp
  | some clock =>
    constructor
    · intro h
      refine ⟨nofun, ?_⟩
      intro _ hsame
      cases hsame
      exact h
    · intro h
      exact h.2 clock rfl

/-- A call of the clock that keeps it sound is progress. -/
theorem onClock_progress {call : ReceiveClockMonitor → α × ReceiveClockMonitor}
    (hcall : ∀ m, m.Sound → (call m).2.Sound) :
    Leads (Progress c) (Progress c) (onClock call : TrackedUpdate I D S α) := by
  intro s hs
  rw [onClock_ends]
  refine ⟨fun _ => hs, ?_⟩
  intro clock hclock
  refine hs.of_same rfl rfl rfl ⟨hs.consistent.timeline, ?_, hs.consistent.receiving⟩
  intro m hm
  cases hm
  exact hcall clock (hs.consistent.clock clock hclock)

/-- The events have the slot starts of their windows as mappings. -/
def AtSlotStart (events : List ReceiveTimelineEvent) : Prop :=
  ∀ window, .window window ∈ events → window.mapping.utcUnixMillis = window.slotStartUtcMillis

/-- A push keeps the coordinator consistent, and the windows it emits begin at their slots. -/
theorem push_checks (batch : CaptureBatch) (observedAt : MonotonicInstant) :
    Checks recordedUtcMillis AtSlotStart c (do
      let pushed ← onTimeline (·.step (batch, observedAt.millis))
      pure (pushed.mapError .timeline) : TrackedUpdate I D S _) := by
  intro s hs
  rw [ends_bind, onTimeline_ends]
  refine ⟨fun _ => hs, ?_⟩
  intro timeline htimeline
  obtain ⟨hlinked, hdrift⟩ := hs.consistent.timeline timeline htimeline
  have hafter : Progress c { s with timeline := some (timeline.step (batch, observedAt.millis)).2 } := by
    refine hs.of_same rfl rfl rfl ⟨?_, hs.consistent.clock, fun _ => rfl⟩
    intro t ht
    cases ht
    exact ⟨Ft8ReceiveTimeline.linked_step hlinked _, Ft8ReceiveTimeline.driftBounded_step hdrift _⟩
  rw [ends_pure]
  cases hpushed : (timeline.step (batch, observedAt.millis)).1 with
  | error error => exact hafter.halted (by simp)
  | ok events =>
    refine ⟨?_, hafter⟩
    intro window hwindow
    obtain ⟨-, -, anchor, -, hmapped⟩ := (Ft8ReceiveTimeline.push_linked hlinked).of_ok (outcome_eq_ok.mp hpushed)
    exact (hmapped _ hwindow).1

theorem onSpectrum_progress (update : SpectrumModel.Update α) :
    Leads (Progress c) (Progress c) (onSpectrum update : TrackedUpdate I D S α) := by
  intro s hs
  unfold Ends onSpectrum
  cases s.spectrum with
  | none => exact hs
  | some spectrum =>
    dsimp only
    cases update spectrum with
    | ok a spectrum => exact hs.of_same rfl rfl rfl (hs.consistent.of_same rfl rfl rfl)
    | error error spectrum => exact hs.of_same rfl rfl rfl (hs.consistent.of_same rfl rfl rfl)

theorem waterfall_progress (window : Ft8ReceiveWindow) :
    Leads (Progress c) (Progress c) (waterfall window : TrackedUpdate I D S _) := by
  refine (leads_get fun _ => id).bind (fun _ => id) fun self => ?_
  split
  · exact onSpectrum_progress _
  · exact leads_pure (fun _ => id) _

theorem checkInput_checks [DaemonReceiveInput I] :
    Checks recordedUtcMillis (fun _ => True) c (checkInput : TrackedUpdate I D S _) := by
  intro s hs
  unfold checkInput
  rw [ends_bind]
  refine (onInput_progress _ s hs).imp ?_ (fun _ _ ht => ht)
  intro fault t ht
  cases fault with
  | some fault => exact ht.halted (by simp)
  | none =>
    show Ends (onInput DaemonReceiveInput.health >>= _) t _ _
    rw [ends_bind]
    refine (onInput_progress _ t ht).imp ?_ (fun _ _ hu => hu)
    intro health u hu
    cases health with
    | error error => exact hu.halted (by simp)
    | ok health =>
      dsimp only
      rw [ends_ite]
      exact ⟨fun _ => hu.halted (by simp), fun _ => ⟨trivial, hu⟩⟩

theorem checkClock_checks (observedAt : MonotonicInstant) :
    Checks recordedUtcMillis (fun _ => True) c (checkClock observedAt : TrackedUpdate I D S _) := by
  intro s hs
  unfold checkClock
  rw [ends_bind]
  refine (onClock_progress (fun _ hm => hm.snapshot) s hs).imp ?_ (fun _ _ ht => ht)
  intro snapshot t ht
  split
  · exact ht.halted (by simp)
  · exact ⟨trivial, ht⟩

theorem fillBacklog_checks [DaemonReceiveInput I] (room : Nat) :
    Checks recordedUtcMillis (fun _ => True) c (fillBacklog room : TrackedUpdate I D S _) := by
  induction room with
  | zero =>
    intro s hs
    exact ⟨trivial, hs⟩
  | succ room ih =>
    intro s hs
    unfold fillBacklog
    rw [ends_bind]
    refine (onInput_progress _ s hs).imp ?_ (fun _ _ ht => ht)
    intro batch t ht
    split
    · rw [ends_bind, ends_modify]
      exact ih _ (ht.of_same rfl rfl rfl (ht.consistent.of_same rfl rfl rfl))
    · exact ⟨trivial, ht⟩
    · exact ht.halted (by simp)

/-- A record is handed to the store, and the answer is kept. -/
theorem persist_checks [DaemonReceiveStore S] {record : ReceiveRecord} {decodes : List Ft8Decode}
    (snapshot : Option WaterfallSnapshot) {results : List (List Ft8Decode)} {answers : List StoreAnswer}
    (hstate : s.state = c.state) (hconsistent : Consistent s) (hlogged : Logged c s (results ++ [decodes]) answers)
    (hall : AllStored results answers) (hfits : decodes.length ≤ maxStoredDecodesPerWindow)
    (hstored : record.decodes = Ft8Decode.sortDeterministically decodes) :
    Ends (persist record snapshot) s (Checked recordedUtcMillis (fun _ => True) c) (fun _ => Progress c) := by
  unfold persist
  rw [ends_bind, onStore, ends_modifyGet]
  have hcall : DaemonReceiveStore.recordReceive s.store record =
      ((DaemonReceiveStore.recordReceive s.store.store record).1,
        { store := (DaemonReceiveStore.recordReceive s.store.store record).2
          answers := s.store.answers ++ [(record, (DaemonReceiveStore.recordReceive s.store.store record).1)] }) := rfl
  rw [hcall]
  generalize DaemonReceiveStore.recordReceive s.store.store record = called
  obtain ⟨answer, store⟩ := called
  have hanswers : s.store.answers ++ [(record, answer)] = c.store.answers ++ (answers ++ [(record, answer)]) := by
    rw [hlogged.answers, List.append_assoc]
  cases answer with
  | error error =>
    have hrefused : Unstored recordedUtcMillis (results ++ [decodes]) (answers ++ [(record, .error error)]) :=
      .refused results answers decodes record error hall hfits hstored
    exact ⟨hstate, _, _, ⟨hlogged.results, hanswers⟩, .inl ⟨rfl, hrefused⟩⟩
  | ok outcome =>
    refine ⟨trivial, hstate, hconsistent.of_same rfl rfl rfl, _, _, ⟨hlogged.results, hanswers⟩, ?_⟩
    exact hall.append hfits hstored _

section Poll

variable [Ft8OfflineDecoder D] [DaemonReceiveStore S] {crates : ReceiveCrates}

/-- **One gated window**: its result is stored, or storage is blamed for the store's refusal or for the result. -/
theorem processWindow_checks (hdigest : ∀ bytes, (crates.sha256 bytes).length = 32)
    (hreceiving : c.state.isReceiving = true) {window : Ft8ReceiveWindow} {alignment : ReceiveWindowAlignment}
    (audioHealth : InputHealth)
    (hmapping : window.mapping.utcUnixMillis = window.slotStartUtcMillis) (hage : alignment.mappingAgeMillis ≤ 60000) :
    Checks recordedUtcMillis (fun _ => True) c (processWindow crates window alignment audioHealth recordedUtcMillis :
      TrackedUpdate I D S _) := by
  intro s hs
  unfold processWindow
  rw [ends_bind]
  refine (waterfall_progress window s hs).imp ?_ (fun _ _ ht => ht)
  intro snapshot s hs
  rw [ends_bind, ends_fromResult]
  refine ⟨?_, fun _ _ => hs⟩
  intro pcm _
  rw [ends_bind, ends_get, ends_bind, onDecoder, ends_modifyGet]
  have hcall : Ft8OfflineDecoder.decode s.decoder pcm s.decodeConfig =
      ((Ft8OfflineDecoder.decode s.decoder.decoder pcm s.decodeConfig).1,
        { decoder := (Ft8OfflineDecoder.decode s.decoder.decoder pcm s.decodeConfig).2
          results := s.decoder.results ++
            (Ft8OfflineDecoder.decode s.decoder.decoder pcm s.decodeConfig).1.toOption.toList }) := rfl
  rw [hcall]
  generalize Ft8OfflineDecoder.decode s.decoder.decoder pcm s.decodeConfig = called
  obtain ⟨result, decoder⟩ := called
  obtain ⟨results, answers, hlogged, hall⟩ := hs.logs
  cases result with
  | error error =>
    refine ⟨hs.state, results, answers, ⟨?_, hlogged.answers⟩, .inr ⟨by simp, hall⟩⟩
    exact (List.append_nil _).trans hlogged.results
  | ok decodes =>
    have hresults : s.decoder.results ++ [decodes] = c.decoder.results ++ (results ++ [decodes]) := by
      rw [hlogged.results, List.append_assoc]
    obtain ⟨id, hid⟩ := receiveWindowId_ok hdigest s window
    dsimp only
    rw [hid, ends_bind]
    show Ends (onTimeline _ >>= _) _ _ _
    rw [ends_bind, onTimeline_ends]
    refine ⟨?_, ?_⟩
    · intro hnone
      have hsome := hs.consistent.receiving (hs.state ▸ hreceiving)
      rw [show s.timeline = none from hnone] at hsome
      cases hsome
    · intro timeline htimeline
      have hdrift := (hs.consistent.timeline timeline htimeline).2
      have hconsistent := hs.consistent
      obtain ⟨record, hrecord, hfits, hstored⟩ | ⟨error, herror, hunfit⟩ :=
        receiveRecord_cases s id audioHealth decodes recordedUtcMillis hmapping hage hdrift
      · dsimp only
        rw [hrecord]
        refine persist_checks snapshot hs.state ?_ ⟨hresults, hlogged.answers⟩ hall hfits hstored
        exact hconsistent.of_same htimeline.symm rfl rfl
      · dsimp only
        rw [herror]
        exact ⟨hs.state, _, _, ⟨hresults, hlogged.answers⟩, .inl ⟨rfl, .rejected results answers decodes hall hunfit⟩⟩

variable [DaemonReceiveInput I]

theorem processEvents_judged (hdigest : ∀ bytes, (crates.sha256 bytes).length = 32)
    (hreceiving : c.state.isReceiving = true) (audioHealth : InputHealth) (observedAt : MonotonicInstant)
    {events : List ReceiveTimelineEvent} (hevents : AtSlotStart events) :
    Leads (Progress c) (Judged recordedUtcMillis c)
      (processEvents crates audioHealth observedAt recordedUtcMillis events : TrackedUpdate I D S _) := by
  induction events with
  | nil => exact leads_pure (fun _ => Progress.judged) _
  | cons event events ih =>
    have hlater := ih fun window hwindow => hevents window (List.mem_cons_of_mem event hwindow)
    -- what follows the recursive call only changes the result
    have hrest {f : List ReceivePollEvent → List ReceivePollEvent} : Leads (Progress c) (Judged recordedUtcMillis c) (do
        let results ← processEvents crates audioHealth observedAt recordedUtcMillis events
        pure (f results) : TrackedUpdate I D S _) := by
      intro s hs
      rw [ends_bind]
      exact hlater s hs
    intro s hs
    unfold processEvents
    rw [ends_bind, onClock_ends]
    refine ⟨fun _ => hs.judged, ?_⟩
    intro clock hclock
    have hsound := hs.consistent.clock clock hclock
    have hafter : Progress c { s with clock := some (clock.gate event observedAt).2 } := by
      refine hs.of_same rfl rfl rfl ⟨hs.consistent.timeline, ?_, hs.consistent.receiving⟩
      intro m hm
      cases hm
      exact hsound.gate event
    split
    · exact hrest _ hafter
    · rename_i slot fault _
      refine orInhibit_judged (P := fun _ => True) hreceiving ?_
        (fun _ _ => leads_pure (fun _ => Progress.judged) _) _ hafter
      intro t ht
      exact ht.halted (by simp)
    · rename_i window alignment hready
      obtain ⟨rfl, hage⟩ := gate_ready_age hready
      have hmapping := hevents window List.mem_cons_self
      have hpolicy := hage.trans (inBounds_freshness hsound.config)
      exact orInhibit_judged hreceiving (processWindow_checks hdigest hreceiving audioHealth hmapping hpolicy)
        (fun _ _ => hrest) _ hafter

theorem poll_judged (hdigest : ∀ bytes, (crates.sha256 bytes).length = 32) (observedAt : MonotonicInstant)
    (h : Consistent c) :
    Ends (poll crates observedAt recordedUtcMillis) c (fun _ => Judged recordedUtcMillis c)
      (fun _ => Judged recordedUtcMillis c) := by
  have hself := progress_self h
  unfold poll requireReceiving
  rw [ends_bind, ends_bind, ends_get]
  split
  swap
  · exact hself.judged
  rename_i g hstate
  have hreceiving : c.state.isReceiving = true := by rw [hstate]; rfl
  refine orInhibit_judged hreceiving checkInput_checks (fun audioHealth _ => ?_) c hself
  refine orInhibit_judged hreceiving (checkClock_checks observedAt) fun _ _ => ?_
  refine (leads_get fun _ => id).bind (fun _ => Progress.judged) fun self => ?_
  refine orInhibit_judged hreceiving (fillBacklog_checks _) fun _ _ => ?_
  refine (leads_get fun _ => id).bind (fun _ => Progress.judged) fun self => ?_
  split
  · exact leads_pure (fun _ => Progress.judged) _
  · refine (leads_modify fun t ht => ?_).bind (fun _ => Progress.judged) fun _ => ?_
    · exact ht.of_same rfl rfl rfl (ht.consistent.of_same rfl rfl rfl)
    · exact orInhibit_judged hreceiving (push_checks _ observedAt) fun events hevents =>
        processEvents_judged hdigest hreceiving audioHealth observedAt hevents

end Poll

/-! ## The other calls -/

/-- The decoder and the store are as they were, and receive is not inhibited for storage. -/
structure Apart (c t : Tracked I D S) : Prop where
  decoder : t.decoder = c.decoder
  store : t.store = c.store
  consistent : Consistent t
  fine : ¬StorageInhibited c t

theorem Apart.judged (h : Apart c t) : Judged recordedUtcMillis c t := by
  refine ⟨h.consistent, [], [], ⟨?_, ?_⟩, .inr ⟨h.fine, allStored_nil⟩⟩
  · rw [h.decoder, List.append_nil]
  · rw [h.store, List.append_nil]

theorem apart_self (h : Consistent c) : Apart c c := by
  refine ⟨rfl, rfl, h, ?_⟩
  intro hinhibited
  obtain ⟨hreceiving, g, hstate⟩ := hinhibited
  rw [hstate] at hreceiving
  cases hreceiving

theorem enableSpectrum_judged (crates : ReceiveCrates) (config : SpectrumConfig) (h : Consistent c) :
    Ends (enableSpectrum crates config) c (fun _ => Judged recordedUtcMillis c)
      (fun _ => Judged recordedUtcMillis c) := by
  unfold enableSpectrum
  rw [ends_bind, ends_fromResult]
  refine ⟨fun spectrum _ => ?_, fun _ _ => (apart_self h).judged⟩
  exact Apart.judged ⟨rfl, rfl, h.of_same rfl rfl rfl, (apart_self h).fine⟩

section Input

variable [DaemonReceiveInput I]

theorem observeClock_judged (observation : GenerationClockSample) (observedAt : MonotonicInstant) (h : Consistent c) :
    Ends (observeClock observation observedAt) c (fun _ => Judged recordedUtcMillis c)
      (fun _ => Judged recordedUtcMillis c) := by
  have hself := progress_self h
  unfold observeClock requireReceiving
  rw [ends_bind, ends_bind, ends_get]
  split
  swap
  · exact hself.judged
  rename_i g hstate
  have hreceiving : c.state.isReceiving = true := by rw [hstate]; rfl
  show Ends (onClock _ >>= _) c _ _
  rw [ends_bind]
  refine (onClock_progress (fun _ hm => hm.observe observation) c hself).imp ?_ (fun _ _ ht => ht.judged)
  intro reported t ht
  split
  · rw [ends_bind]
    exact inhibit_judged hreceiving (ht.halted (by simp))
  · exact ht.judged

theorem stop_judged (reason : ReceiveStopReason) (h : Consistent c) :
    Ends (stop reason) c (fun _ => Judged recordedUtcMillis c) (fun _ => Judged recordedUtcMillis c) := by
  unfold stop
  rw [ends_bind, ends_get]
  split
  case h_3 => exact (apart_self h).judged
  all_goals
    simp only [closeInput, transition, ends_bind, ends_modify]
    refine Apart.judged ⟨rfl, rfl, consistent_closed rfl rfl rfl, ?_⟩
    intro hinhibited
    obtain ⟨-, g, hstopped⟩ := hinhibited
    cases hstopped

theorem start_judged (initialClock : GenerationClockSample) (h : Consistent c) :
    Ends (start initialClock) c (fun _ => Judged recordedUtcMillis c) (fun _ => Judged recordedUtcMillis c) := by
  unfold start
  rw [ends_bind, ends_get]
  split
  swap
  · exact (apart_self h).judged
  rename_i hstate
  have hstopped : c.state.isReceiving = false := by rw [hstate]; rfl
  -- a stopped coordinator cannot be inhibited for storage by the call
  have hfine (t : Tracked I D S) : ¬StorageInhibited c t := by
    intro hinhibited
    obtain ⟨hreceiving, -⟩ := hinhibited
    rw [hstopped] at hreceiving
    cases hreceiving
  have hself : Judged recordedUtcMillis c c := (apart_self h).judged
  rw [ends_bind, ends_orThrow]
  refine ⟨fun next _ => ?_, fun _ => hself⟩
  rw [ends_bind, ends_fromResult]
  refine ⟨fun streamGeneration _ => ?_, fun _ _ => hself⟩
  rw [ends_bind, ends_modify, ends_bind, transition, ends_modifyGet, ends_bind]
  -- the timeline and the clock of a stopped coordinator are replaced or stay
  have hkept : ∀ t : Tracked I D S, t.decoder = c.decoder →
      t.store = c.store → t.timeline = c.timeline → t.clock = c.clock → t.state.isReceiving = false →
        Judged recordedUtcMillis c t := by
    intro t hdecoder hstore htimeline hclock hnot
    refine Apart.judged ⟨hdecoder, hstore, ⟨?_, ?_, ?_⟩, hfine t⟩
    · rw [htimeline]
      exact h.timeline
    · rw [hclock]
      exact h.clock
    · intro hreceiving
      rw [hnot] at hreceiving
      cases hreceiving
  unfold openInput
  rw [ends_bind, ends_get, ends_ite]
  refine ⟨fun _ => hkept _ rfl rfl rfl rfl rfl, fun _ => ?_⟩
  rw [ends_bind, onInput, ends_modifyGet]
  split
  · exact hkept _ rfl rfl rfl rfl rfl
  · rw [ends_bind, ends_fromResult]
    refine ⟨fun monitor hmonitor => ?_, fun _ _ => hkept _ rfl rfl rfl rfl rfl⟩
    refine Apart.judged ⟨rfl, rfl, ⟨?_, ?_, fun _ => rfl⟩, hfine _⟩
    · intro timeline htimeline
      cases htimeline
      exact ⟨.idle rfl rfl, by simp [Ft8ReceiveTimeline.DriftBounded, Ft8ReceiveTimeline.new]⟩
    · intro m hm
      cases hm
      exact ReceiveClockMonitor.sound_new (exceptMapError_ok.mp hmonitor)

end Input

/-! ## Every call -/

/-- The record time of a poll. -/
def Call.recordTime : Call → Int64
  | .poll _ recordedUtcMillis => recordedUtcMillis
  | _ => 0

section Runs

variable [DaemonReceiveInput I] [Ft8OfflineDecoder D] [DaemonReceiveStore S] {crates : ReceiveCrates}

/-- **Every call** of a consistent coordinator is accounted for. -/
theorem step_judged (hdigest : ∀ bytes, (crates.sha256 bytes).length = 32) (h : Consistent c) (input : Call) :
    Judged input.recordTime c (step crates c input).2 := by
  refine ends_final.mp ?_
  show Ends (call crates input) c _ _
  cases input with
  | start initialClock =>
    rw [call, map_eq_pure_bind, ends_bind]
    exact start_judged initialClock h
  | observeClock observation observedAt =>
    rw [call, map_eq_pure_bind, ends_bind]
    exact observeClock_judged observation observedAt h
  | poll observedAt recordedUtcMillis =>
    rw [call, map_eq_pure_bind, ends_bind]
    exact poll_judged hdigest observedAt h
  | stop reason =>
    rw [call, map_eq_pure_bind, ends_bind]
    exact stop_judged reason h
  | enableSpectrum config =>
    rw [call, map_eq_pure_bind, ends_bind]
    exact enableSpectrum_judged crates config h

theorem consistent_run (hdigest : ∀ bytes, (crates.sha256 bytes).length = 32) (h : Consistent c) (calls : List Call) :
    Consistent (final (step crates) c calls) :=
  final_inv_all (I := Consistent) (fun _ input hc => (step_judged hdigest hc input).consistent) h calls

end Runs

end LiveReceiveCoordinator

end Slotpilot.Daemon
