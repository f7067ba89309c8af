import Slotpilot.Daemon.GatedRecords

/-!
# Receive safety

Over every run each record is one of the current start, and the start attempts take increasing stream generations. An
inhibited coordinator neither stores nor asks for batches until it is stopped and started again.

* `step_safe`: what is safe about every call, and what every call keeps true;
* `attempts_increasing`, `attempts_current`: the stream generations of the start attempts;
* `atRest_run`: a stopped or inhibited coordinator is moved only by a start;
* `receive_safety`: the safety of every run.
-/

set_option autoImplicit false

namespace Slotpilot.Daemon

open Lib Domain Audio Operations Protocol Storage

/-- The stream generation of a state. -/
def ReceiveLifecycleState.streamGeneration : ReceiveLifecycleState → Option StreamGeneration
  | .stopped .. => none
  | .starting streamGeneration | .receiving streamGeneration | .inhibited streamGeneration _
  | .stopping streamGeneration _ => some streamGeneration

namespace LiveReceiveCoordinator

variable {I D S : Type}

/-- The stream generation that a call reserves: that of a start which leaves the stopped state. -/
def attempted (c t : LiveReceiveCoordinator I D S) : Call → Option StreamGeneration
  | .start _ => if c.state.isStopped then t.state.streamGeneration else none
  | _ => none

/-- The stream generations of the start attempts of a run. -/
def attempts [DaemonReceiveInput I] [Ft8OfflineDecoder D] [DaemonReceiveStore S] (crates : ReceiveCrates) :
    LiveReceiveCoordinator I D S → List Call → List StreamGeneration
  | _, [] => []
  | c, input :: calls =>
    (c.attempted (step crates c input).2 input).toList ++ attempts crates (step crates c input).2 calls

variable {c s t : Observed I D S} {p : Occasion I D S} {answers : List StoreAnswer}

/-! ## Every call -/

/-- The store is as it was, the coordinator is sourced, and it receives only if it did. -/
structure Calm (c t : Observed I D S) : Prop where
  store : t.store = c.store
  last : t.lastStreamGeneration = c.lastStreamGeneration
  receiving : ∀ streamGeneration, t.state = .receiving streamGeneration → c.state = .receiving streamGeneration
  sourced : Sourced t

theorem calm_self (h : Sourced c) : Calm c c := ⟨rfl, rfl, fun _ => id, h⟩

/-- A start has failed where it began, or it has reserved the next stream generation. -/
def Started (c t : Observed I D S) : Prop :=
  t.state = c.state ∧ t.lastStreamGeneration = c.lastStreamGeneration ∨
    c.state.isStopped = true ∧ ∃ streamGeneration, t.state.streamGeneration = some streamGeneration ∧
      streamGeneration.value = t.lastStreamGeneration ∧
      t.lastStreamGeneration.toNat = c.lastStreamGeneration.toNat + 1

/-- The poll of a coordinator that is receiving begins. -/
theorem Sourced.unpushed (h : Sourced c) {streamGeneration : StreamGeneration}
    (hstate : c.state = .receiving streamGeneration) (crates : ReceiveCrates) (observedAt : MonotonicInstant)
    (recordedUtcMillis : Int64) :
    Unpushed ⟨crates, c, streamGeneration, observedAt, recordedUtcMillis⟩ c.clock c := by
  refine ⟨⟨⟨⟨⟨rfl, rfl, rfl, rfl⟩, h.asks, (List.append_nil _).symm, ?_⟩, hstate, ?_⟩, ?_⟩, rfl, rfl⟩
  · intro entry hentry
    cases hentry
  · apply h.opened
    rw [hstate]
    rfl
  · intro timeline htimeline
    obtain ⟨other, run, hother, hfed, hqueued⟩ := h.timeline timeline htimeline
    cases hstate.symm.trans hother
    exact ⟨run, hfed, hqueued⟩

/-- The poll of a coordinator that is receiving ends. -/
theorem During.sourced (h : Sourced p.before) (hstate : p.before.state = .receiving p.streamGeneration)
    (ht : During p answers t) : Sourced t := by
  refine ⟨?_, ?_, ht.asks, fun _ => ht.opened, ?_⟩
  · intro timeline htimeline
    obtain ⟨run, hfed, hqueued⟩ := ht.timeline timeline htimeline
    refine ⟨p.streamGeneration, run, ht.state, ?_, hqueued⟩
    unfold Fed at hfed ⊢
    rwa [ht.setting.processGeneration, ht.setting.selection]
  · intro other hother
    cases ht.state.symm.trans hother
    rw [ht.setting.last]
    exact h.current _ hstate
  · intro hidle
    rw [ht.state] at hidle
    obtain hidle | hidle := hidle <;> cases hidle

theorem Inhibited.sourced (ht : Inhibited p answers t) : Sourced t := by
  refine ⟨?_, ?_, ht.asks, ?_, fun _ => ht.closed⟩
  · intro timeline htimeline
    rw [ht.timeline] at htimeline
    cases htimeline
  · intro other hother
    have hinhibited := ht.state
    rw [hother] at hinhibited
    cases hinhibited
  · intro hreceiving
    have hinhibited := ht.state
    cases hstate : t.state with
    | inhibited g reason =>
      rw [hstate] at hreceiving
      cases hreceiving
    | stopped | starting | receiving | stopping =>
      rw [hstate] at hinhibited
      cases hinhibited

theorem enableSpectrum_calm (crates : ReceiveCrates) (config : SpectrumConfig) (h : Sourced c) :
    Ends (enableSpectrum crates config) c (fun _ => Calm c) (fun _ t => Calm c t ∧ t.state = c.state) := by
  unfold enableSpectrum
  rw [ends_bind, ends_fromResult]
  refine ⟨?_, fun _ _ => ⟨calm_self h, rfl⟩⟩
  intro spectrum _
  exact ⟨rfl, rfl, fun _ => id, h.timeline, h.current, h.asks, h.opened, h.closed⟩

/-- Closing the input leaves a stopped or inhibited coordinator sourced. -/
theorem Sourced.close (h : Sourced c) {input : JournaledInput I}
    (hjournal : input.journal = c.input.journal ++ [.stopped]) (spectrum : Option SpectrumModel)
    (state : ReceiveLifecycleState) (hstate : state.isReceiving = false) :
    Calm c { c with
      input := input, timeline := none, clock := none, workerBatches := [], spectrum := spectrum, state := state } := by
  refine ⟨rfl, rfl, ?_, ?_, ?_, ?_, ?_, ?_⟩
  · intro g hg
    rw [show state = .receiving g from hg] at hstate
    cases hstate
  · intro timeline htimeline
    cases htimeline
  · intro g hg
    rw [show state = .receiving g from hg] at hstate
    cases hstate
  · show AsksOpen input.journal
    rw [hjournal]
    exact h.asks.append (by simp)
  · intro hreceiving
    rw [show state.isReceiving = true from hreceiving] at hstate
    cases hstate
  · intro _
    show isOpen input.journal = false
    rw [hjournal, isOpen_append]
    rfl

/-- After the input was not opened. -/
theorem Sourced.unopened (h : Sourced c) (hstopped : c.state.isStopped = true) {input : JournaledInput I}
    (hasks : AsksOpen input.journal) (last : UInt64) {state : ReceiveLifecycleState}
    (hreceiving : state.isReceiving = false)
    (hclosed : state.isStopped = true ∨ state.isInhibited = true → isOpen input.journal = false) :
    Sourced { c with input := input, lastStreamGeneration := last, state := state } := by
  refine ⟨?_, ?_, hasks, ?_, hclosed⟩
  · intro timeline htimeline
    obtain ⟨g, run, hstate, -⟩ := h.timeline timeline htimeline
    rw [hstate] at hstopped
    cases hstopped
  · intro g hg
    rw [show state = .receiving g from hg] at hreceiving
    cases hreceiving
  · intro hopen
    rw [show state.isReceiving = true from hopen] at hreceiving
    cases hreceiving

/-- A new timeline over an input that has just been opened. -/
theorem sourced_opened {g : StreamGeneration} {journal : List InputEntry} (hstate : t.state = .receiving g)
    (hlast : g.value = t.lastStreamGeneration)
    (htimeline : t.timeline = some (.new t.processGeneration g t.selection.configuration))
    (hbacklog : t.workerBatches = []) (hjournal : t.input.journal = journal ++ [.started true])
    (hasks : AsksOpen t.input.journal) : Sourced t := by
  refine ⟨?_, ?_, hasks, ?_, ?_⟩
  · intro timeline hsome
    rw [htimeline] at hsome
    cases hsome
    refine ⟨g, [], hstate, ⟨Ft8ReceiveTimeline.fromStart_nil, rfl⟩, ?_⟩
    show batchesOf t.input.journal = [] ++ t.workerBatches
    rw [hjournal, batchesOf_append, hbacklog]
    rfl
  · intro other hother
    cases hstate.symm.trans hother
    exact hlast
  · intro _
    rw [hjournal, isOpen_append]
    cases isOpen journal <;> rfl
  · intro hidle
    rw [hstate] at hidle
    obtain hidle | hidle := hidle <;> cases hidle

section Input

variable [DaemonReceiveInput I]

/-- Closing the input. -/
theorem closeInput_ends (reason : SpectrumDiscontinuity) :
    Ends (closeInput reason) s
      (fun _ t => ∃ input spectrum, input.journal = s.input.journal ++ [.stopped] ∧
        t = { s with
          input := input, timeline := none, clock := none, workerBatches := [], spectrum := spectrum })
      (fun _ _ => False) := by
  simp only [closeInput, onInput, ends_bind, ends_modify, ends_modifyGet]
  exact ⟨_, _, rfl, rfl⟩

theorem observeClock_calm (observation : GenerationClockSample) (observedAt : MonotonicInstant) (h : Sourced c) :
    Ends (observeClock observation observedAt) c (fun _ => Calm c) (fun _ t => Calm c t ∧ t.state = c.state) := by
  unfold observeClock requireReceiving
  rw [ends_bind, ends_bind, ends_get]
  split
  swap
  · exact ⟨calm_self h, rfl⟩
  rename_i g hstate
  show Ends (onClock _ >>= _) c _ _
  rw [ends_bind, onClock_ends]
  refine ⟨fun _ => ⟨calm_self h, rfl⟩, ?_⟩
  intro clock _
  have hafter : Sourced { c with clock := some (clock.observe observation observedAt).2 } :=
    ⟨h.timeline, h.current, h.asks, h.opened, h.closed⟩
  split
  · rename_i fault _ _ _
    rw [ends_bind]
    unfold inhibit
    rw [ends_bind, ends_get, hstate]
    rw [ends_bind]
    refine (closeInput_ends _).imp ?_ (fun _ _ hfalse => hfalse.elim)
    rintro _ _ ⟨input, spectrum, hjournal, rfl⟩
    have hcalm := hafter.close hjournal spectrum (.inhibited g (.clock fault)) rfl
    exact ⟨hcalm.store, hcalm.last, hcalm.receiving, hcalm.sourced⟩
  · exact ⟨rfl, rfl, fun _ => id, hafter⟩

theorem stop_calm (reason : ReceiveStopReason) (h : Sourced c) :
    Ends (stop reason) c (fun _ => Calm c) (fun _ t => Calm c t ∧ t.state = c.state) := by
  unfold stop
  rw [ends_bind, ends_get]
  split
  case h_3 => exact ⟨calm_self h, rfl⟩
  all_goals
    rw [ends_bind, transition, ends_modifyGet, ends_bind]
    refine (closeInput_ends _).imp ?_ (fun _ _ hfalse => hfalse.elim)
    rintro _ _ ⟨input, spectrum, hjournal, rfl⟩
    have hcalm := h.close hjournal spectrum (.stopped c.processGeneration c.lastStreamGeneration) rfl
    exact ⟨hcalm.store, hcalm.last, hcalm.receiving, hcalm.sourced⟩

theorem start_started (initialClock : GenerationClockSample) (h : Sourced c) :
    Ends (start initialClock) c (fun _ t => t.store = c.store ∧ Sourced t ∧ Started c t)
      (fun _ t => (t.store = c.store ∧ Sourced t ∧ Started c t) ∧ t.state.isInhibited = c.state.isInhibited) := by
  have hself : c.store = c.store ∧ Sourced c ∧ Started c c := ⟨rfl, h, .inl ⟨rfl, rfl⟩⟩
  unfold start
  rw [ends_bind, ends_get]
  split
  swap
  · exact ⟨hself, rfl⟩
  rename_i hstate
  have hstopped : c.state.isStopped = true := by
    rw [hstate]
    rfl
  have hinhibited : c.state.isInhibited = false := by
    rw [hstate]
    rfl
  have hclosed := h.closed (.inl hstopped)
  rw [ends_bind, ends_orThrow]
  refine ⟨?_, fun _ => ⟨hself, rfl⟩⟩
  intro next hnext
  rw [tryU64_eq_some] at hnext
  rw [ends_bind, ends_fromResult]
  refine ⟨?_, fun _ _ => ⟨hself, rfl⟩⟩
  intro g hg
  have hvalue : g.value = next := by
    rw [exceptMapError_ok, StreamGeneration.new] at hg
    split at hg
    · cases hg
    · cases hg
      rfl
  -- every state from here on has reserved the generation
  have hreserved {t : Observed I D S} (hstate : t.state.streamGeneration = some g)
      (hlast : t.lastStreamGeneration = next) : Started c t := by
    refine .inr ⟨hstopped, g, hstate, ?_, ?_⟩
    · rw [hlast, hvalue]
    · rw [hlast]
      omega
  rw [ends_bind, ends_modify, ends_bind, transition, ends_modifyGet, ends_bind]
  unfold openInput
  rw [ends_bind, ends_get, ends_ite]
  constructor
  · intro _
    refine ⟨rfl, h.unopened hstopped h.asks next rfl ?_, hreserved rfl rfl⟩
    exact fun _ => hclosed
  · intro _
    rw [ends_bind, onInput, ends_modifyGet]
    have hcall : DaemonReceiveInput.start c.input c.selection c.processGeneration g =
        ((DaemonReceiveInput.start c.input.input c.selection c.processGeneration g).1,
          { input := (DaemonReceiveInput.start c.input.input c.selection c.processGeneration g).2
            journal := c.input.journal ++
              [.started (DaemonReceiveInput.start c.input.input c.selection c.processGeneration g).1.isOk] }) := rfl
    rw [hcall]
    generalize DaemonReceiveInput.start c.input.input c.selection c.processGeneration g = called
    obtain ⟨result, input⟩ := called
    have hasks : AsksOpen (c.input.journal ++ [.started result.isOk]) := h.asks.append (by simp)
    cases result with
    | error error =>
      refine ⟨rfl, h.unopened hstopped hasks next rfl ?_, hreserved rfl rfl⟩
      intro _
      show isOpen (c.input.journal ++ [.started false]) = false
      rw [isOpen_append, hclosed]
      rfl
    | ok opened =>
      dsimp only
      rw [ends_bind, ends_fromResult]
      constructor
      · intro monitor _
        exact ⟨rfl, sourced_opened rfl hvalue rfl rfl rfl hasks, hreserved rfl rfl⟩
      · intro error _
        refine ⟨⟨rfl, h.unopened hstopped hasks next rfl ?_, hreserved rfl rfl⟩, hinhibited.symm⟩
        intro hidle
        obtain hidle | hidle := hidle <;> cases hidle

end Input

/-! ## Runs -/

/-- What is safe about a call from `c` to `t`: only a poll of a receiving coordinator hands records on, each of a window
gated in it; the records that the store accepts are the reported ones, in order, and a transition is reported last. -/
structure SafeCall (crates : ReceiveCrates) (c t : Observed I D S) (input : Call)
    (answer : Except ReceiveCoordinatorError Answer) : Prop where
  handed : ∀ entry ∈ newAnswers c t, ∃ observedAt recordedUtcMillis streamGeneration batch window,
    input = .poll observedAt recordedUtcMillis ∧ c.state = .receiving streamGeneration ∧
      c.Gated crates observedAt recordedUtcMillis batch window entry.1 ∧
      c.MadeOfAnswers streamGeneration observedAt (batchesOf t.input.journal) batch window
  reported : ∀ events, answer = .ok (.polled events) →
    events.filterMap persistedOf = (newAnswers c t).filterMap acceptedOf
  last : ∀ before event later, answer = .ok (.polled (before ++ .lifecycle event :: later)) →
    later = [] ∧ event.current = t.state
  failed : ∀ error, answer = .error error → t.state.isInhibited = c.state.isInhibited

/-- What a call reserves: nothing, and then it receives only if it did, or the next stream generation. -/
def Reserves (c t : Observed I D S) (input : Call) : Prop :=
  c.attempted t input = none ∧ t.lastStreamGeneration = c.lastStreamGeneration ∧
      (∀ streamGeneration, t.state = .receiving streamGeneration → c.state = .receiving streamGeneration) ∨
    ∃ streamGeneration, c.attempted t input = some streamGeneration ∧
      streamGeneration.value = t.lastStreamGeneration ∧ c.lastStreamGeneration < t.lastStreamGeneration ∧
      ∀ other, t.state = .receiving other → other = streamGeneration

theorem newAnswers_of_same (hstore : t.store = c.store) : newAnswers c t = [] := by
  rw [newAnswers, hstore, List.drop_length]

/-- A call that leaves the store alone and returns no events of a poll. -/
theorem safeCall_returned {crates : ReceiveCrates} {input : Call} {answer : Answer} (hstore : t.store = c.store)
    (hanswer : ∀ events, answer ≠ .polled events) : SafeCall crates c t input (.ok answer) := by
  refine ⟨?_, ?_, ?_, by simp⟩
  · rw [newAnswers_of_same hstore]
    simp
  · intro events hevents
    exact absurd (Except.ok.inj hevents) (hanswer events)
  · intro before event later hevents
    exact absurd (Except.ok.inj hevents) (hanswer _)

/-- A call that leaves the store alone and fails. -/
theorem safeCall_failed {crates : ReceiveCrates} {input : Call} {error : ReceiveCoordinatorError}
    (hstore : t.store = c.store) (hstate : t.state.isInhibited = c.state.isInhibited) :
    SafeCall crates c t input (.error error) := by
  refine ⟨?_, by simp, by simp, fun _ _ => hstate⟩
  rw [newAnswers_of_same hstore]
  simp

theorem Handed.new_eq (h : Handed p answers t) : newAnswers p.before t = answers := by
  rw [newAnswers, h.store, List.drop_left]

/-- The transition of a poll is its last event. -/
theorem Finished.last {before later : List ReceivePollEvent} {event : ReceiveLifecycleEvent}
    (h : Finished p answers (before ++ .lifecycle event :: later) t) : later = [] ∧ event.current = t.state := by
  obtain ⟨-, hnone⟩ | ⟨-, others, transition, hsplit, hnone, hcurrent⟩ := h
  · exact absurd (List.mem_append_right before List.mem_cons_self) (hnone event)
  · obtain rfl | ⟨init, final, rfl⟩ := later.eq_nil_or_concat
    · obtain ⟨-, hlast⟩ := List.append_inj' hsplit rfl
      cases hlast
      exact ⟨rfl, hcurrent⟩
    · rw [List.concat_eq_append, ← List.cons_append, ← List.append_assoc] at hsplit
      obtain ⟨rfl, -⟩ := List.append_inj' hsplit rfl
      exact absurd (List.mem_append_right before List.mem_cons_self) (hnone event)

/-- What a poll hands on is safe. -/
theorem Handed.handed (h : Handed p answers t) (hstate : p.before.state = .receiving p.streamGeneration) :
    ∀ entry ∈ newAnswers p.before t, ∃ observedAt recordedUtcMillis streamGeneration batch window,
      Call.poll p.observedAt p.recordedUtcMillis = .poll observedAt recordedUtcMillis ∧
        p.before.state = .receiving streamGeneration ∧
          p.before.Gated p.crates observedAt recordedUtcMillis batch window entry.1 ∧
          p.before.MadeOfAnswers streamGeneration observedAt (batchesOf t.input.journal) batch window := by
  intro entry hentry
  rw [h.new_eq] at hentry
  obtain ⟨batch, window, hgated, hmade⟩ := h.gated entry hentry
  exact ⟨_, _, _, batch, window, rfl, hstate, hgated, hmade⟩

theorem Calm.reserves (h : Calm c t) {input : Call} (hinput : ∀ clock, input ≠ .start clock) : Reserves c t input := by
  refine .inl ⟨?_, h.last, h.receiving⟩
  cases input with
  | start clock => exact absurd rfl (hinput clock)
  | observeClock | poll | stop | enableSpectrum => rfl

theorem Started.reserves (h : Started c t) (initialClock : GenerationClockSample) :
    Reserves c t (.start initialClock) := by
  obtain ⟨hstate, hlast⟩ | ⟨hstopped, g, hg, hvalue, hnext⟩ := h
  · refine .inl ⟨?_, hlast, ?_⟩
    · rw [attempted, hstate]
      cases c.state <;> rfl
    · intro g hg
      rw [← hstate, hg]
  · refine .inr ⟨g, ?_, hvalue, ?_, ?_⟩
    · rw [attempted, if_pos hstopped, hg]
    · rw [UInt64.lt_iff_toNat_lt]
      omega
    · intro other hother
      rw [hother] at hg
      exact Option.some.inj hg

/-- What a call does that is no start and stores nothing. -/
theorem Calm.returned (h : Calm c t) (crates : ReceiveCrates) {input : Call} {answer : Answer}
    (hinput : ∀ clock, input ≠ .start clock) (hanswer : ∀ events, answer ≠ .polled events) :
    SafeCall crates c t input (.ok answer) ∧ Reserves c t input ∧ Sourced t :=
  ⟨safeCall_returned h.store hanswer, h.reserves hinput, h.sourced⟩

theorem Calm.failed (h : Calm c t) (crates : ReceiveCrates) {input : Call} {error : ReceiveCoordinatorError}
    (hinput : ∀ clock, input ≠ .start clock) (hstate : t.state.isInhibited = c.state.isInhibited) :
    SafeCall crates c t input (.error error) ∧ Reserves c t input ∧ Sourced t :=
  ⟨safeCall_failed h.store hstate, h.reserves hinput, h.sourced⟩

section Runs

variable [DaemonReceiveInput I] [Ft8OfflineDecoder D] [DaemonReceiveStore S] {crates : ReceiveCrates}

/-- What holds at the end of a call holds after the step. -/
theorem step_of_ends {c : LiveReceiveCoordinator I D S} {input : Call}
    {Q : Except ReceiveCoordinatorError Answer → LiveReceiveCoordinator I D S → Prop}
    (h : Ends (call crates input) c (fun answer => Q (.ok answer)) (fun error => Q (.error error))) :
    Q (step crates c input).1 (step crates c input).2 := by
  unfold Ends at h
  unfold step
  cases hcall : call crates input c with
  | ok answer t =>
    rw [hcall] at h
    exact h
  | error error t =>
    rw [hcall] at h
    exact h

theorem poll_safe (observedAt : MonotonicInstant) (recordedUtcMillis : Int64) (h : Sourced c) :
    Ends (poll crates observedAt recordedUtcMillis) c
      (fun events t => SafeCall crates c t (.poll observedAt recordedUtcMillis) (.ok (.polled events)) ∧
        Reserves c t (.poll observedAt recordedUtcMillis) ∧ Sourced t)
      (fun error t => SafeCall crates c t (.poll observedAt recordedUtcMillis) (.error error) ∧
        Reserves c t (.poll observedAt recordedUtcMillis) ∧ Sourced t) := by
  by_cases hreceiving : ∃ g, c.state = .receiving g
  · obtain ⟨g, hstate⟩ := hreceiving
    let p : Occasion I D S := ⟨crates, c, g, observedAt, recordedUtcMillis⟩
    have hpoll : PollEnds p [] (poll crates observedAt recordedUtcMillis) c :=
      poll_pollEnds (h.unpushed hstate crates observedAt recordedUtcMillis)
    refine hpoll.imp ?_ ?_
    · rintro events t ⟨more, hreported, hfinished⟩
      rw [List.nil_append] at hfinished
      have hhanded : Handed p more t := by
        obtain ⟨hduring, -⟩ | ⟨hinhibited, -⟩ := hfinished
        · exact hduring.toHanded
        · exact hinhibited.toHanded
      refine ⟨⟨hhanded.handed hstate, ?_, ?_, by simp⟩, ?_, ?_⟩
      · intro _ hevents
        cases hevents
        rw [hhanded.new_eq]
        exact hreported
      · intro before event later hevents
        cases hevents
        exact hfinished.last
      · refine .inl ⟨rfl, hhanded.setting.last, ?_⟩
        intro other hother
        obtain ⟨hduring, -⟩ | ⟨hinhibited, -⟩ := hfinished
        · rw [← hother, hduring.state]
          exact hstate
        · have hstopped := hinhibited.state
          rw [hother] at hstopped
          cases hstopped
      · obtain ⟨hduring, -⟩ | ⟨hinhibited, -⟩ := hfinished
        · exact hduring.sourced h hstate
        · exact hinhibited.sourced
    · rintro error t ⟨more, hduring⟩
      rw [List.nil_append] at hduring
      refine ⟨⟨hduring.handed hstate, by simp, by simp, ?_⟩, ?_, hduring.sourced h hstate⟩
      · intro _ _
        rw [hduring.state]
        show _ = c.state.isInhibited
        rw [hstate]
      · refine .inl ⟨rfl, hduring.setting.last, ?_⟩
        intro other hother
        rw [← hother, hduring.state]
        exact hstate
  · have hfails : Ends (poll crates observedAt recordedUtcMillis) c (fun _ _ => False) (fun _ t => t = c) := by
      unfold poll requireReceiving
      rw [ends_bind, ends_bind, ends_get]
      split
      · rename_i g hstate
        exact absurd ⟨g, hstate⟩ hreceiving
      · rfl
    refine hfails.imp (fun _ _ hfalse => hfalse.elim) ?_
    rintro error t rfl
    exact (calm_self h).failed crates (by simp) rfl

/-- **Every call** of a sourced coordinator is safe and leaves it sourced. -/
theorem step_safe (crates : ReceiveCrates) (h : Sourced c) (input : Call) :
    SafeCall crates c (step crates c input).2 input (step crates c input).1 ∧
      Reserves c (step crates c input).2 input ∧ Sourced (step crates c input).2 := by
  refine step_of_ends (Q := fun answer t => SafeCall crates c t input answer ∧ Reserves c t input ∧ Sourced t) ?_
  cases input with
  | start initialClock =>
    rw [call, map_eq_pure_bind, ends_bind]
    refine (start_started initialClock h).imp ?_ ?_
    · rintro events t ⟨hstore, hsourced, hstarted⟩
      exact ⟨safeCall_returned hstore (by simp), hstarted.reserves initialClock, hsourced⟩
    · rintro error t ⟨⟨hstore, hsourced, hstarted⟩, hstate⟩
      exact ⟨safeCall_failed hstore hstate, hstarted.reserves initialClock, hsourced⟩
  | observeClock observation observedAt =>
    rw [call, map_eq_pure_bind, ends_bind]
    refine (observeClock_calm observation observedAt h).imp ?_ ?_
    · intro _ t ht
      exact ht.returned crates (by simp) (by simp)
    · rintro _ t ⟨ht, hstate⟩
      exact ht.failed crates (by simp) (by rw [hstate])
  | poll observedAt recordedUtcMillis =>
    rw [call, map_eq_pure_bind, ends_bind]
    exact poll_safe observedAt recordedUtcMillis h
  | stop reason =>
    rw [call, map_eq_pure_bind, ends_bind]
    refine (stop_calm reason h).imp ?_ ?_
    · intro _ t ht
      exact ht.returned crates (by simp) (by simp)
    · rintro _ t ⟨ht, hstate⟩
      exact ht.failed crates (by simp) (by rw [hstate])
  | enableSpectrum config =>
    rw [call, map_eq_pure_bind, ends_bind]
    refine (enableSpectrum_calm crates config h).imp ?_ ?_
    · intro _ t ht
      exact ht.returned crates (by simp) (by simp)
    · rintro _ t ⟨ht, hstate⟩
      exact ht.failed crates (by simp) (by rw [hstate])

/-- The start attempts of a run take generations after the last one, each after the one before. -/
theorem attempts_increasing (h : Sourced c) (calls : List Call) :
    (∀ g ∈ attempts crates c calls, c.lastStreamGeneration < g.value) ∧
      (attempts crates c calls).Pairwise (·.value < ·.value) := by
  induction calls generalizing c with
  | nil => exact ⟨by simp [attempts], .nil⟩
  | cons input calls ih =>
    obtain ⟨-, hreserves, hnext⟩ := step_safe crates h input
    obtain ⟨hlater, hordered⟩ := ih hnext
    unfold attempts
    obtain ⟨hnone, hlast, -⟩ | ⟨g, hsome, hvalue, hless, -⟩ := hreserves
    · rw [hnone, Option.toList_none, List.nil_append, ← hlast]
      exact ⟨hlater, hordered⟩
    · rw [hsome, Option.toList_some, List.singleton_append]
      refine ⟨?_, List.pairwise_cons.mpr ⟨?_, hordered⟩⟩
      · intro other hother
        obtain rfl | hother := List.mem_cons.mp hother
        · rwa [hvalue]
        · exact UInt64.lt_trans hless (hlater other hother)
      · intro other hother
        rw [hvalue]
        exact hlater other hother

theorem attempts_append (c : LiveReceiveCoordinator I D S) (calls later : List Call) :
    attempts crates c (calls ++ later) =
      attempts crates c calls ++ attempts crates (final (step crates) c calls) later := by
  induction calls generalizing c with
  | nil => rfl
  | cons input calls ih => rw [List.cons_append, attempts, attempts, ih, List.append_assoc, final_cons]

theorem sourced_final (h : Sourced c) (calls : List Call) : Sourced (final (step crates) c calls) :=
  final_inv_all (I := Sourced) (fun _ input hs => (step_safe crates hs input).2.2) h calls

/-- A coordinator receives in the stream generation of its last start attempt. -/
theorem attempts_current (h : Sourced c) (hidle : c.state.isReceiving = false) (calls : List Call)
    {streamGeneration : StreamGeneration}
    (hstate : (final (step crates) c calls).state = .receiving streamGeneration) :
    (attempts crates c calls).getLast? = some streamGeneration := by
  induction calls using List.reverseRecOn with
  | nil =>
    rw [final_nil] at hstate
    rw [hstate] at hidle
    cases hidle
  | append_singleton calls input ih =>
    obtain ⟨-, hreserves, -⟩ := step_safe crates (sourced_final h calls) input
    rw [final_append] at hstate
    rw [attempts_append, attempts, attempts, List.append_nil]
    obtain ⟨hnone, -, hreceiving⟩ | ⟨g, hsome, -, -, hcurrent⟩ := hreserves
    · rw [hnone, Option.toList_none, List.append_nil]
      exact ih (hreceiving _ hstate)
    · rw [hsome, Option.toList_some, List.getLast?_concat, hcurrent _ hstate]

end Runs

/-! ## Rest -/

/-- No call is a start. -/
def NoStart (calls : List Call) : Prop := ∀ initialClock, .start initialClock ∉ calls

/-- No stop is followed by a start. -/
def NoRestart (calls : List Call) : Prop :=
  ∀ before reason later, calls = before ++ .stop reason :: later → NoStart later

/-- From `c` to `t` nothing is stored and no batch is asked for. -/
structure AtRest (c t : Observed I D S) : Prop where
  store : t.store = c.store
  journal : ∃ entries, t.input.journal = c.input.journal ++ entries ∧ AsksNothing entries

theorem atRest_self (c : Observed I D S) : AtRest c c :=
  ⟨rfl, [], (List.append_nil _).symm, by simp [AsksNothing]⟩

theorem AtRest.trans (h : AtRest c s) (h' : AtRest s t) : AtRest c t := by
  obtain ⟨entries, hentries, hnone⟩ := h.journal
  obtain ⟨later, hlater, hnone'⟩ := h'.journal
  refine ⟨h'.store.trans h.store, entries ++ later, ?_, ?_⟩
  · rw [hlater, hentries, List.append_assoc]
  · intro answer hanswer
    obtain hanswer | hanswer := List.mem_append.mp hanswer
    · exact hnone answer hanswer
    · exact hnone' answer hanswer

/-- A call that keeps a coordinator at rest: it stays in its state, or a stop leads to the stopped one. -/
def Rests (c t : Observed I D S) (input : Call) : Prop :=
  AtRest c t ∧ (t.state = c.state ∨ (∃ reason, input = .stop reason) ∧ t.state.isStopped = true)

theorem rests_self (c : Observed I D S) (input : Call) : Rests c c input := ⟨atRest_self c, .inl rfl⟩

theorem requireReceiving_rests (hidle : c.state.isReceiving = false) :
    Ends (requireReceiving : Update (JournaledInput I) D (TrackedStore S) _) c (fun _ _ => False)
      (fun _ t => t = c) := by
  unfold requireReceiving
  rw [ends_bind, ends_get]
  split
  · rename_i g hstate
    rw [hstate] at hidle
    cases hidle
  · rfl

section Rest

variable [DaemonReceiveInput I]

theorem stop_rests (reason : ReceiveStopReason) :
    Ends (stop reason) c (fun _ t => Rests c t (.stop reason)) (fun _ t => Rests c t (.stop reason)) := by
  unfold stop
  rw [ends_bind, ends_get]
  split
  case h_3 => exact rests_self c _
  all_goals
    rw [ends_bind, transition, ends_modifyGet, ends_bind]
    refine (closeInput_ends _).imp ?_ (fun _ _ hfalse => hfalse.elim)
    rintro _ _ ⟨input, spectrum, hjournal, rfl⟩
    refine ⟨⟨rfl, [.stopped], hjournal, ?_⟩, .inr ⟨⟨reason, rfl⟩, rfl⟩⟩
    intro answer hanswer
    cases List.mem_singleton.mp hanswer

variable [Ft8OfflineDecoder D] [DaemonReceiveStore S]

/-- **A coordinator at rest** is moved only by a start from the stopped state. -/
theorem step_rests (crates : ReceiveCrates) (hidle : c.state.isReceiving = false) (input : Call)
    (hstart : c.state.isStopped = true → ∀ initialClock, input ≠ .start initialClock) :
    Rests c (step crates c input).2 input := by
  refine step_of_ends (Q := fun _ t => Rests c t input) ?_
  have hfails {next : StreamGeneration → Update (JournaledInput I) D (TrackedStore S) Answer} :
      Ends (requireReceiving >>= next) c (fun _ t => Rests c t input) (fun _ t => Rests c t input) := by
    rw [ends_bind]
    refine (requireReceiving_rests hidle).imp (fun _ _ hfalse => hfalse.elim) ?_
    rintro _ t rfl
    exact rests_self _ input
  cases input with
  | start initialClock =>
    rw [call, map_eq_pure_bind, ends_bind]
    unfold start
    rw [ends_bind, ends_get]
    split
    · rename_i hstate
      refine absurd rfl (hstart ?_ initialClock)
      rw [hstate]
      rfl
    · exact rests_self c _
  | observeClock observation observedAt =>
    rw [call, map_eq_pure_bind]
    unfold observeClock
    rw [bind_assoc]
    exact hfails
  | poll observedAt recordedUtcMillis =>
    rw [call, map_eq_pure_bind]
    unfold poll
    rw [bind_assoc]
    exact hfails
  | stop reason =>
    rw [call, map_eq_pure_bind, ends_bind]
    exact stop_rests reason
  | enableSpectrum config =>
    rw [call, map_eq_pure_bind, ends_bind]
    unfold enableSpectrum
    rw [ends_bind, ends_fromResult]
    refine ⟨fun spectrum _ => ?_, fun _ _ => rests_self c _⟩
    exact ⟨⟨rfl, [], (List.append_nil _).symm, by simp [AsksNothing]⟩, .inl rfl⟩

/-- A run without a start keeps a stopped or inhibited coordinator quiet. -/
theorem atRest_run {crates : ReceiveCrates} {calls : List Call} (hidle : c.state.isStopped = true ∧ NoStart calls ∨
      c.state.isInhibited = true ∧ NoRestart calls) : AtRest c (final (step crates) c calls) := by
  induction calls generalizing c with
  | nil => exact atRest_self c
  | cons input calls ih =>
    have hreceiving : c.state.isReceiving = false := by
      cases hstate : c.state with
      | receiving g =>
        rw [hstate] at hidle
        obtain ⟨hidle, -⟩ | ⟨hidle, -⟩ := hidle <;> cases hidle
      | stopped | starting | inhibited | stopping => rfl
    have hstart : c.state.isStopped = true → ∀ initialClock, input ≠ .start initialClock := by
      rintro hstopped initialClock rfl
      obtain ⟨-, hnone⟩ | ⟨hinhibited, -⟩ := hidle
      · exact hnone initialClock List.mem_cons_self
      · cases hstate : c.state with
        | inhibited g reason =>
          rw [hstate] at hstopped
          cases hstopped
        | stopped | starting | receiving | stopping =>
          rw [hstate] at hinhibited
          cases hinhibited
    obtain ⟨hrest, hnext⟩ := step_rests crates hreceiving input hstart
    rw [final_cons]
    refine hrest.trans (ih ?_)
    obtain ⟨hstopped, hnone⟩ | ⟨hinhibited, hnone⟩ := hidle
    · refine .inl ⟨?_, fun initialClock hmem => hnone initialClock (List.mem_cons_of_mem input hmem)⟩
      obtain hstate | ⟨-, hstate⟩ := hnext
      · rwa [hstate]
      · exact hstate
    · obtain hstate | ⟨⟨reason, rfl⟩, hstate⟩ := hnext
      · refine .inr ⟨by rwa [hstate], fun before reason later hsplit => ?_⟩
        exact hnone (input :: before) reason later (by rw [hsplit, List.cons_append])
      · exact .inl ⟨hstate, hnone [] reason calls rfl⟩

end Rest

/-! ## The safety of every run -/

/-- A new coordinator is sourced. -/
theorem sourced_new (input : I) (decoder : D) (store : S) (config : LiveReceiveCoordinatorConfig) :
    Sourced (new ⟨input, []⟩ decoder ⟨store, []⟩ config) := by
  refine ⟨?_, ?_, asksOpen_nil, ?_, fun _ => rfl⟩
  · intro timeline htimeline
    cases htimeline
  · intro streamGeneration hstate
    cases hstate
  · intro hreceiving
    cases hreceiving

/-- **Receive safety.** After every run of a new coordinator:

* the start attempts have taken increasing stream generations;
* the next call hands a record to the store only if it is a poll; its window was completed by a batch of the poll and
  let through by the clock of the coordinator as the check of the poll left it; the record is of the generation of the
  last start attempt, its clock is healthy, and the window is made of frames of batches of this start, the first ones
  that the input answered since it was opened;
* the records that the store accepts are the ones the poll reports, and a transition is reported after them;
* batches are asked for while the input is open, which it is not once receive is inhibited; from there on nothing is
  stored or asked for without a stop and a later start. -/
theorem receive_safety [DaemonReceiveInput I] [Ft8OfflineDecoder D] [DaemonReceiveStore S] (crates : ReceiveCrates)
    (device : I) (decoder : D) (store : S) (config : LiveReceiveCoordinatorConfig) (calls : List Call) (input : Call) :
    let initial : Observed I D S := new ⟨device, []⟩ decoder ⟨store, []⟩ config
    let before := final (step crates) initial calls
    let after := (step crates before input).2
    (attempts crates initial (calls ++ [input])).Pairwise (·.value < ·.value) ∧
    (∀ entry ∈ newAnswers before after, ∃ observedAt recordedUtcMillis streamGeneration batch window,
      input = .poll observedAt recordedUtcMillis ∧
        (attempts crates initial calls).getLast? = some streamGeneration ∧
        before.Gated crates observedAt recordedUtcMillis batch window entry.1 ∧
        before.OfStart streamGeneration observedAt (batchesOf after.input.journal) batch window entry.1) ∧
    (∀ events, (step crates before input).1 = .ok (.polled events) →
      events.filterMap persistedOf = (newAnswers before after).filterMap acceptedOf ∧
        ∀ first event later, events = first ++ .lifecycle event :: later → later = [] ∧ event.current = after.state) ∧
    AsksOpen after.input.journal ∧
    (after.state.isInhibited = true → isOpen after.input.journal = false ∧
      ∀ later, NoRestart later → AtRest after (final (step crates) after later)) := by
  intro initial before after
  have hinitial : Sourced initial := sourced_new device decoder store config
  have hbefore : Sourced before := sourced_final hinitial calls
  obtain ⟨hsafe, -, hafter⟩ := step_safe crates hbefore input
  refine ⟨(attempts_increasing hinitial _).2, ?_, ?_, hafter.asks, ?_⟩
  · intro entry hentry
    obtain ⟨observedAt, recordedUtcMillis, g, batch, window, hpoll, hstate, hgated, hmade⟩ :=
      hsafe.handed entry hentry
    exact ⟨observedAt, recordedUtcMillis, g, batch, window, hpoll, attempts_current hinitial rfl calls hstate, hgated,
      hgated.ofStart hmade⟩
  · intro events hevents
    refine ⟨hsafe.reported events hevents, ?_⟩
    rintro first event later rfl
    exact hsafe.last first event later hevents
  · intro hinhibited
    exact ⟨hafter.closed (.inr hinhibited), fun later hlater => atRest_run (.inr ⟨hinhibited, hlater⟩)⟩

end LiveReceiveCoordinator

end Slotpilot.Daemon
