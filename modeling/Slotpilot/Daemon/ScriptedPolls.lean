import Slotpilot.Daemon.BlindReceive
import Slotpilot.Daemon.StorableWindows

/-!
# Polls of a scripted run

A coordinator whose input delivers one batch for each poll and whose clock is fresh. Its polls go through the run, and up
to the journal of the input it is known what each of them does.

* `Watching.quiet`: a poll without a window pushes its batch;
* `Watching.stores`: a poll with a window hands its record to the store and reports the answer;
* `Watching.reaches`: a run with a window comes to the poll of its first one.
-/

set_option autoImplicit false

namespace Slotpilot.Daemon

open Lib Domain Audio Operations Protocol Storage

namespace LiveReceiveCoordinator

variable {I D S α β : Type}

theorem andThen_of_ok {check : Update I D S (Except ReceiveInhibition α)}
    {next : α → Update I D S (Except ReceiveInhibition β)} {s t : LiveReceiveCoordinator I D S} {a : α}
    {result : EStateM.Result ReceiveCoordinatorError (LiveReceiveCoordinator I D S) (Except ReceiveInhibition β)}
    (hcheck : check s = .ok (.ok a) t) (hnext : next a t = result) : andThen check next s = result := by
  show EStateM.bind check _ s = _
  rw [EStateM.bind, hcheck]
  exact hnext

theorem get_bind_run (next : LiveReceiveCoordinator I D S → Update I D S α) (s : LiveReceiveCoordinator I D S) :
    (get >>= next) s = next s s := rfl

/-- Receiving, with a clock that was set at this time and nothing held back. -/
structure Hears (utc : UtcInstant) (base : Observed Scripted Busy S) : Prop where
  state : base.state = .receiving ⟨1, one_nonzero⟩
  clock : base.clock = some (monitorFrom utc)
  backlog : base.workerBatches = []

/-- The coordinator with its input before this run and with this timeline. -/
def Watching (base : Observed Scripted Busy S) (run : List (CaptureBatch × UInt64)) (timeline : Ft8ReceiveTimeline)
    (c : Observed Scripted Busy S) : Prop :=
  ∃ journal, c = { base with input := ⟨scriptOf run, journal⟩, timeline := some timeline }

variable {utc : UtcInstant} {base c : Observed Scripted Busy S} {input : CaptureBatch × UInt64}
  {run : List (CaptureBatch × UInt64)} {timeline : Ft8ReceiveTimeline} {events : List ReceiveTimelineEvent}
  {window : Ft8ReceiveWindow}

theorem watching_self (hinput : c.input.input = scriptOf run) (htimeline : c.timeline = some timeline) :
    Watching c run timeline c := by
  obtain ⟨⟨played, journal⟩, decoder, store, service, process, selection, decode, config, state, last, anchored, monitor,
    backlog, spectrum⟩ := c
  cases hinput
  cases htimeline
  exact ⟨journal, rfl⟩

theorem Watching.state (h : Watching base run timeline c) : c.state = base.state := by
  obtain ⟨journal, rfl⟩ := h
  rfl

theorem Watching.spectrum (h : Watching base run timeline c) : c.spectrum = base.spectrum := by
  obtain ⟨journal, rfl⟩ := h
  rfl

/-- A poll takes the next batch. -/
theorem Watching.intake (hbase : Hears utc base) (h : Watching base (input :: run) timeline c)
    (hobserved : input.2.toNat ≤ 60000) :
    ∃ t, intake ⟨input.2⟩ c = .ok (.ok (⟨10, 0, 0, 0, 5⟩, some input.1)) t ∧ Watching base run timeline t := by
  obtain ⟨journal, rfl⟩ := h
  obtain ⟨hstate, hclock, hbacklog⟩ := hbase
  obtain ⟨played, decoder, store, service, process, selection, decode, config, state, last, anchored, monitor, backlog,
    spectrum⟩ := base
  dsimp only at hstate hclock hbacklog
  subst hstate hclock hbacklog
  let first : Observed Scripted Busy S :=
    ⟨⟨scriptOf (input :: run), journal⟩, decoder, store, service, process, selection, decode, config,
      .receiving ⟨1, one_nonzero⟩, last, some timeline, some (monitorFrom utc), [], spectrum⟩
  let rest : Observed Scripted Busy S :=
    { first with input := ⟨scriptOf run, journal ++ [.asked (.ok (some input.1))] ++ [.asked (.ok none)]⟩ }
  have hfresh := ReceiveClockMonitor.snapshot_fresh (monitorFrom_fresh utc ⟨input.2⟩ hobserved)
  have hhealthy : ((monitorFrom utc).snapshot ⟨input.2⟩).1.state = .healthy := by
    rw [hfresh]
    rfl
  have hclock : checkClock ⟨input.2⟩ first = .ok (.ok ()) first := by
    obtain ⟨answer, t, hchecked, rfl, rfl⟩ := (checkClock_healthy (c := first) rfl hhealthy).exists_ok
    rw [hchecked, hfresh]
  have hfilled : fillBacklog 4 first = .ok (.ok ()) { rest with workerBatches := [input.1] } := rfl
  refine ⟨rest, ?_, _, rfl⟩
  unfold LiveReceiveCoordinator.intake
  refine andThen_of_ok (t := first) rfl ?_
  refine andThen_of_ok hclock ?_
  rw [get_bind_run]
  refine andThen_of_ok hfilled ?_
  rfl

/-- The clock gate lets a later window of the batch through. -/
theorem Watching.gates (hbase : Hears utc base) (h : Watching base run timeline c) (hobserved : input.2.toNat ≤ 60000)
    (hpush : (timeline.step input).1 = .ok events) (hwindow : .window window ∈ events)
    (hmapped : window.Mapped utc.unixMillis.toInt) (hlater : utc.unixMillis.toInt ≤ window.slotStartUtcMillis.toInt) :
    c.Gates input.1 ⟨input.2⟩ window := by
  obtain ⟨journal, rfl⟩ := h
  obtain ⟨alignment, hready⟩ := monitorFrom_ready utc ⟨input.2⟩ hmapped hlater hobserved
  exact ⟨timeline, events, monitorFrom utc, alignment, rfl, hpush, hwindow, hbase.clock, hready⟩

section Polls

variable [DaemonReceiveStore S] {crates : ReceiveCrates}

/-- A poll is the processing of the events of its batch. -/
theorem Watching.poll (hbase : Hears utc base) (h : Watching base (input :: run) timeline c) (crates : ReceiveCrates)
    (hobserved : input.2.toNat ≤ 60000) (hpush : (timeline.step input).1 = .ok events)
    {Q : List ReceivePollEvent → Observed Scripted Busy S → Prop} {E : ReceiveCoordinatorError → Observed Scripted Busy S → Prop}
    (hevents : ∀ t, Watching base run (timeline.step input).2 t →
      Ends (processEvents crates ⟨10, 0, 0, 0, 5⟩ ⟨input.2⟩ 0 events) t Q E) :
    Ends (poll crates ⟨input.2⟩ 0) c Q E := by
  obtain ⟨t, hintake, journal, rfl⟩ := h.intake hbase hobserved
  have hstate : c.state = .receiving ⟨1, one_nonzero⟩ := h.state.trans hbase.state
  rw [poll_eq, requireReceiving]
  rw [ends_bind, ends_bind, ends_get, hstate]
  refine orInhibit_of_ok hintake ?_
  refine orInhibit_of_ok ?_ (hevents _ ⟨journal, rfl⟩)
  show EStateM.Result.ok ((timeline.step input).1.mapError ReceiveInhibition.timeline) _ = _
  rw [hpush]
  rfl

/-- **A poll without a window** goes on with the run. -/
theorem Watching.quiet (hbase : Hears utc base) (h : Watching base (input :: run) timeline c) (crates : ReceiveCrates)
    (hobserved : input.2.toNat ≤ 60000) (hpush : (timeline.step input).1 = .ok events)
    (hnone : ∀ window, .window window ∉ events) :
    Ends (LiveReceiveCoordinator.poll crates ⟨input.2⟩ 0) c (fun _ t => Watching base run (timeline.step input).2 t)
      (fun _ _ => False) := by
  refine h.poll hbase crates hobserved hpush fun t ht => ?_
  clear hpush h
  generalize (timeline.step input).2 = pushed at ht ⊢
  induction events with
  | nil => exact ht
  | cons event events ih =>
    have hlater := ih fun window hwindow => hnone window (List.mem_cons_of_mem event hwindow)
    have hclock : t.clock = some (monitorFrom utc) := by
      obtain ⟨_, rfl⟩ := ht
      exact hbase.clock
    unfold processEvents
    rw [ends_bind, onClock_ends, hclock]
    constructor
    · intro hmissing
      cases hmissing
    intro clock hsome
    cases hsome
    cases event with
    | window window => exact absurd List.mem_cons_self (hnone window)
    | incomplete slot =>
      have hsame : { t with clock := some (monitorFrom utc) } = t := by rw [← hclock]
      show Ends (processEvents crates _ _ 0 events >>= _) { t with clock := some (monitorFrom utc) } _ _
      rw [hsame, ends_bind]
      exact hlater

/-- A window whose result is recorded. -/
theorem processWindow_stores {D : Type} [Ft8OfflineDecoder D] {t : Observed I D S} (hspectrum : t.spectrum = none)
    (htimeline : t.timeline = some timeline) {alignment : ReceiveWindowAlignment} {audioHealth : InputHealth}
    {recordedUtcMillis : Int64} {decodes : List Ft8Decode}
    (hdecode : ∀ pcm, (Ft8OfflineDecoder.decode t.decoder pcm t.decodeConfig).1 = .ok decodes) {id : ReceiveWindowId}
    (hid : receiveWindowId crates t.serviceInstanceId t.selection window.processGeneration window.streamGeneration
      window.slotStartUtcMillis = .ok id) {record : ReceiveRecord}
    (hrecord : t.receiveRecord id window alignment audioHealth timeline.health decodes recordedUtcMillis = .ok record)
    {outcome : ReceiveInsertOutcome} {after : S}
    (hanswer : DaemonReceiveStore.recordReceive t.store.store record = (.ok outcome, after)) :
    Ends (processWindow crates window alignment audioHealth recordedUtcMillis) t
      (fun answer u => answer = .ok [.persisted record.context.receiveWindowId outcome record.decodes.length] ∧
        u.store = ⟨after, t.store.answers ++ [(record, .ok outcome)]⟩)
      (fun _ _ => False) := by
  obtain ⟨pcm, hpcm⟩ := windowPcm_ok window
  have hcall : DaemonReceiveStore.recordReceive t.store record =
      (.ok outcome, ⟨after, t.store.answers ++ [(record, .ok outcome)]⟩) := by
    show (_, TrackedStore.mk _ _) = _
    rw [hanswer]
  unfold processWindow waterfall
  rw [ends_bind, ends_bind, ends_get, hspectrum]
  show Ends (fromResult _ >>= _) t _ _
  rw [hpcm, ends_bind, ends_fromResult]
  constructor
  swap
  · intro error herror
    cases herror
  intro _ hsame
  cases hsame
  rw [ends_bind, ends_get, ends_bind, onDecoder, ends_modifyGet, hdecode]
  dsimp only
  rw [hid, ends_bind]
  show Ends (onTimeline _ >>= _) _ _ _
  rw [ends_bind, onTimeline_ends]
  constructor
  · intro hmissing
    cases htimeline.symm.trans hmissing
  intro other hother
  cases htimeline.symm.trans hother
  dsimp only
  rw [hrecord]
  dsimp only
  unfold persist
  rw [ends_bind, onStore, ends_modifyGet, hcall]
  exact ⟨rfl, rfl⟩

/-- **A poll with a window** hands its record to the store and reports the answer. -/
theorem Watching.stores (hbase : Hears utc base) (h : Watching base (input :: run) timeline c)
    (hspectrum : base.spectrum = none) (hdigest : ∀ bytes, (crates.sha256 bytes).length = 32)
    (hobserved : input.2.toNat ≤ 60000) (hpush : (timeline.step input).1 = .ok [.window window])
    (hmapped : window.Mapped utc.unixMillis.toInt) (hlater : utc.unixMillis.toInt ≤ window.slotStartUtcMillis.toInt) :
    ∃ id alignment, alignment.mappingAgeMillis ≤ 60000 ∧
      ∀ record, base.receiveRecord id window alignment ⟨10, 0, 0, 0, 5⟩ (timeline.step input).2.health
        base.decoder.decodes 0 = .ok record →
      ∀ outcome after, DaemonReceiveStore.recordReceive base.store.store record = (.ok outcome, after) →
        Ends (LiveReceiveCoordinator.poll crates ⟨input.2⟩ 0) c
          (fun events t =>
            events = [.persisted record.context.receiveWindowId outcome record.decodes.length] ∧
              t.store = ⟨after, base.store.answers ++ [(record, .ok outcome)]⟩)
          (fun _ _ => False) := by
  obtain ⟨alignment, hready⟩ := monitorFrom_ready utc ⟨input.2⟩ hmapped hlater hobserved
  obtain ⟨-, hage⟩ := gate_ready_age hready
  obtain ⟨id, hid⟩ := receiveWindowId_ok hdigest base window
  refine ⟨id, alignment, hage, fun record hrecord outcome after hanswer => ?_⟩
  refine h.poll hbase crates hobserved hpush ?_
  rintro t ⟨journal, rfl⟩
  unfold processEvents
  rw [ends_bind, onClock_ends]
  constructor
  · intro hmissing
    cases hbase.clock.symm.trans hmissing
  intro clock hclock
  cases hbase.clock.symm.trans hclock
  rw [hready]
  dsimp only
  unfold orInhibit
  rw [ends_bind]
  let gated : Observed Scripted Busy S :=
    { base with
      input := ⟨scriptOf run, journal⟩, timeline := some (timeline.step input).2
      clock := some ((monitorFrom utc).gate (.window window) ⟨input.2⟩).2 }
  refine (processWindow_stores (t := gated) hspectrum rfl (fun _ => rfl) hid hrecord hanswer).imp ?_
    (fun _ _ hfalse => hfalse)
  rintro _ u ⟨rfl, hstore⟩
  exact ⟨rfl, hstore⟩

/-- **A run with a window** comes to the poll of its first one. -/
theorem Watching.reaches (hbase : Hears utc base) (h : Watching base run timeline c) (crates : ReceiveCrates)
    (hrun : ∀ entry ∈ transcript Ft8ReceiveTimeline.step timeline run, entry.2.isOk = true ∧ entry.1.2.toNat ≤ 60000)
    (hwindow : ∃ entry ∈ transcript Ft8ReceiveTimeline.step timeline run, ∃ window,
      .window window ∈ Ft8ReceiveTimeline.eventsOf entry) :
    ∃ before input later, run = before ++ input :: later ∧
      Watching base (input :: later) (final Ft8ReceiveTimeline.step timeline before)
        (final (step crates) c (before.map pollOf)) ∧
      ∃ window events, ((final Ft8ReceiveTimeline.step timeline before).step input).1 = .ok events ∧
        .window window ∈ events := by
  induction run generalizing timeline c with
  | nil =>
    obtain ⟨entry, hentry, -⟩ := hwindow
    cases hentry
  | cons input run ih =>
    rw [transcript_cons, List.forall_mem_cons] at hrun
    obtain ⟨⟨hok, hobserved⟩, hlater⟩ := hrun
    obtain ⟨events, -, hpush⟩ := Ft8ReceiveTimeline.step_ok hok
    by_cases hnone : ∀ window, .window window ∉ events
    · have hcall : Ends (call crates (pollOf input)) c (fun _ t => Watching base run (timeline.step input).2 t)
          (fun _ t => Watching base run (timeline.step input).2 t) := by
        rw [pollOf, call, map_eq_pure_bind, ends_bind]
        exact (h.quiet hbase crates hobserved hpush hnone).imp (fun _ _ => id) (fun _ _ => False.elim)
      obtain ⟨entry, hentry, window, hmem⟩ := hwindow
      obtain rfl | hentry := List.mem_cons.mp hentry
      · rw [Ft8ReceiveTimeline.eventsOf_ok hpush] at hmem
        exact absurd hmem (hnone window)
      · obtain ⟨before, next, later, rfl, hreached⟩ := ih (ends_final.mp hcall) hlater ⟨entry, hentry, window, hmem⟩
        exact ⟨input :: before, next, later, rfl, hreached⟩
    · push Not at hnone
      obtain ⟨window, hmem⟩ := hnone
      exact ⟨[], input, run, rfl, h, window, events, hpush, hmem⟩

end Polls

end LiveReceiveCoordinator

end Slotpilot.Daemon
