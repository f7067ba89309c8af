import Slotpilot.Daemon.RecordedWindows

/-!
# Storing the windows

The decoder may return more decodes than a record holds, and then receive is inhibited as if the store had failed. Apart
from that the windows of a healthy clock are stored.

* `storable_iff`: a call stores every result of the decoder exactly when none is too long;
* `busy_crowded`: a coordinator whose decoder returns one decode more than a record holds meets such a window.
-/

set_option autoImplicit false

namespace Slotpilot.Daemon

open Lib Domain Audio Operations Protocol Storage

namespace LiveReceiveCoordinator

variable {I D S α : Type} {c s t : Tracked I D S} {recordedUtcMillis : Int64}

/-- Each result of the decoder was handed to the store, and storage inhibits receive only when the store refused. -/
structure StoresResults (c t : Tracked I D S) : Prop where
  stored : (newAnswers c t).map (·.1.decodes) = (newResults c t).map Ft8Decode.sortDeterministically
  blamed : StorageInhibited c t → ∃ answer ∈ newAnswers c t, answer.2.isOk = false

theorem Logged.new_eq {results : List (List Ft8Decode)}
    {answers : List StoreAnswer} (h : Logged c t results answers) :
    newResults c t = results ∧ newAnswers c t = answers := by
  constructor
  · rw [newResults, h.results, List.drop_left]
  · rw [newAnswers, h.answers, List.drop_left]

/-- A call that is accounted for stores its results exactly when they all fit. -/
theorem Judged.stores_iff (h : Judged recordedUtcMillis c t) (hrecorded : 0 ≤ recordedUtcMillis.toInt)
    (hdurable : ∀ decodes ∈ newResults c t, Durable decodes) :
    StoresResults c t ↔ ∀ decodes ∈ newResults c t, decodes.length ≤ maxStoredDecodesPerWindow := by
  obtain ⟨results, answers, hlogged, haccounts⟩ := h.logs
  obtain ⟨hresults, hanswers⟩ := hlogged.new_eq
  obtain ⟨hfailed, hunstored⟩ | ⟨hfine, hall⟩ := haccounts
  · cases hunstored with
    | refused results answers decodes record error before fits stored =>
      have hall := before.append fits stored (.error error)
      rw [hresults]
      refine ⟨fun _ => hall.fits, fun _ => ⟨?_, fun _ => ⟨(record, .error error), ?_, rfl⟩⟩⟩
      · rw [hresults, hanswers]
        exact hall.stored
      · rw [hanswers]
        exact List.mem_append_right _ (List.mem_singleton_self _)
    | rejected results answers decodes before unfit =>
      have hlast : decodes ∈ newResults c t := by
        rw [hresults]
        exact List.mem_append_right _ (List.mem_singleton_self _)
      have hlong : maxStoredDecodesPerWindow < decodes.length :=
        unfit.resolve_right (not_not.mpr ⟨hrecorded, hdurable decodes hlast⟩)
      constructor
      · intro hstores
        have hlength := congrArg List.length hstores.stored
        have hbefore := congrArg List.length before.stored
        rw [hresults, hanswers] at hlength
        simp only [List.length_map, List.length_append, List.length_singleton] at hlength hbefore
        omega
      · intro hfits
        exact absurd (hfits decodes hlast) (Nat.not_le.mpr hlong)
  · rw [hresults]
    refine ⟨fun _ => hall.fits, fun _ => ⟨?_, fun hinhibited => absurd hinhibited hfine⟩⟩
    rw [hresults, hanswers]
    exact hall.stored

/-- **A healthy window is stored** unless its result is too long: in every run and for every call after it, with a
record time and metadata in the durable ranges, each result of the decoder is handed to the store and only the store's
refusal inhibits receive for storage exactly when no result exceeds the decodes of a record. -/
theorem storable_iff (crates : ReceiveCrates) (hdigest : ∀ bytes, (crates.sha256 bytes).length = 32)
    (config : LiveReceiveCoordinatorConfig) {I D S : Type} [DaemonReceiveInput I] [Ft8OfflineDecoder D]
    [DaemonReceiveStore S] (input : I) (decoder : D) (store : S) (calls : List Call) (next : Call)
    (hrecorded : 0 ≤ next.recordTime.toInt) :
    let c := final (step crates) (new input (TrackedDecoder.mk decoder []) (TrackedStore.mk store []) config) calls
    let t := (step crates c next).2
    (∀ decodes ∈ newResults c t, Durable decodes) →
      (StoresResults c t ↔ ∀ decodes ∈ newResults c t, decodes.length ≤ maxStoredDecodesPerWindow) := by
  intro c t hdurable
  have hconsistent : Consistent c := consistent_run hdigest (consistent_new _ _ _ config) calls
  exact (step_judged hdigest hconsistent next).stores_iff hrecorded hdurable

/-! ## A busy band -/

/-- An input that delivers its batches, with a pause where it has none. -/
structure Scripted where
  script : List (Option CaptureBatch)

instance : DaemonReceiveInput Scripted where
  start self _ _ _ := (.ok (), self)
  nextBatch self := (.ok (self.script.headD none), ⟨self.script.tail⟩)
  nextFault self := (none, self)
  health self := (.ok ⟨10, 0, 0, 0, 5⟩, self)
  stop self := (.ok (), self)

/-- One batch for each poll. -/
def scriptOf (run : List (CaptureBatch × UInt64)) : Scripted := ⟨run.flatMap fun input => [some input.1, none]⟩

/-- A decoder that finds the same decodes in every window. -/
structure Busy where
  decodes : List Ft8Decode

instance : Ft8OfflineDecoder Busy where
  decode self _ _ := (.ok self.decodes, self)

/-- One decode more than a record holds, each on its own frequency. -/
def crowd : List Ft8Decode :=
  (List.range 129).map fun i => ⟨⟨0, 600 + i, 0⟩, .freeText ⟨"TNX", by decide⟩⟩

/-- A configuration that admits 1000 candidates and takes a mapping as fresh for a minute. -/
def busyConfig : LiveReceiveCoordinatorConfig :=
  { oneRecoverySample with
    processGeneration := ⟨1, one_nonzero⟩
    decode := { oneRecoverySample.decode with maximumCandidates := 1000, candidates := by decide }
    clock := { ReceiveClockConfig.default with freshnessMillis := 60000 } }

/-- The clock after the start. -/
def busyMonitor : ReceiveClockMonitor :=
  ⟨(ownSample busyConfig).generation, busyConfig.clock, .healthy, (ownSample busyConfig).sample, none⟩

/-- The coordinator of a busy band, whose input delivers one batch for each poll. -/
def busy (run : List (CaptureBatch × UInt64)) : Tracked Scripted Busy Quiet :=
  new (scriptOf run) ⟨⟨crowd⟩, []⟩ ⟨⟨⟩, []⟩ busyConfig

/-- The poll that takes a batch. -/
def pollOf (input : CaptureBatch × UInt64) : Call := .poll ⟨input.2⟩ 0

/-- Receiving, with the timeline and nothing decoded so far. -/
structure Listening (run : List (CaptureBatch × UInt64)) (timeline : Ft8ReceiveTimeline)
    (c : Tracked Scripted Busy Quiet) : Prop where
  input : c.input = scriptOf run
  decoder : c.decoder = ⟨⟨crowd⟩, []⟩
  state : c.state = .receiving ⟨1, one_nonzero⟩
  timeline : c.timeline = some timeline
  clock : c.clock = some busyMonitor
  backlog : c.workerBatches = []
  spectrum : c.spectrum = none

theorem length_crowd : crowd.length = 129 := by simp [crowd]

theorem crowd_durable : Durable crowd := by
  intro decode hdecode
  obtain ⟨i, hi, rfl⟩ := List.mem_map.mp hdecode
  have hlt := List.mem_range.mp hi
  simp only [validateDecodeMetadata]
  rw [if_neg]
  omega

/-- No record takes the crowd. -/
theorem crowd_refused (self : LiveReceiveCoordinator I D S) (receiveWindowId : ReceiveWindowId)
    (window : Ft8ReceiveWindow) (alignment : ReceiveWindowAlignment) (audioHealth : InputHealth)
    (timelineHealth : ReceiveTimelineHealth) (recordedUtcMillis : Int64) :
    ∃ error, self.receiveRecord receiveWindowId window alignment audioHealth timelineHealth crowd recordedUtcMillis =
      .error error := by
  unfold receiveRecord
  cases hrecord : ReceiveRecord.new _ _ crowd recordedUtcMillis with
  | error error => exact ⟨error, rfl⟩
  | ok record =>
    obtain ⟨-, -, hvalid, -⟩ | ⟨error, herror, -⟩ := ReceiveRecord.new_cases _ _ crowd recordedUtcMillis
    · have hfits := (validateReceive_ok.mp hvalid).2.2.1
      rw [length_crowd] at hfits
      exact absurd hfits (by decide)
    · exact absurd (hrecord.symm.trans herror) (by simp)

/-- The clock after a start at this time. -/
def monitorFrom (utc : UtcInstant) : ReceiveClockMonitor :=
  ⟨(ownSample busyConfig).generation, busyConfig.clock, .healthy, ⟨utc, ⟨0⟩⟩, none⟩

theorem monitorFrom_fresh (utc : UtcInstant) (observedAt : MonotonicInstant) (hobserved : observedAt.millis.toNat ≤ 60000) :
    (monitorFrom utc).mappingAge observedAt ≤ (monitorFrom utc).config.freshnessMillis := by
  show observedAt.millis.toNat - 0 ≤ 60000
  omega

/-- It lets every later window on its own clocks through. -/
theorem monitorFrom_ready (utc : UtcInstant) (observedAt : MonotonicInstant) {window : Ft8ReceiveWindow}
    (hmapped : window.Mapped utc.unixMillis.toInt) (hlater : utc.unixMillis.toInt ≤ window.slotStartUtcMillis.toInt)
    (hobserved : observedAt.millis.toNat ≤ 60000) :
    ∃ alignment, ((monitorFrom utc).gate (.window window) observedAt).1 = .windowReady window alignment := by
  have hanchor : window.Mapped (TimelineAnchor.clockOffset ⟨⟨0⟩, utc.unixMillis, 0⟩) := by
    have hoffset : TimelineAnchor.clockOffset ⟨⟨0⟩, utc.unixMillis, 0⟩ = utc.unixMillis.toInt := sub_zero _
    rwa [hoffset]
  have hconfig : busyConfig.clock.inBounds = true := by decide
  rw [gate_ready_iff rfl (monitorFrom_fresh utc observedAt hobserved), alignWindow_iff hconfig hanchor]
  have hnonneg := utc.nonneg
  have hlt := window.slot.startUtcUnixMillis.toInt_lt
  have hstart : utc.unixMillis.toInt ≤ window.slot.startUtcUnixMillis.toInt := hlater
  have hpredicted : (monitorFrom utc).lastAccepted.predicted window.slot =
      window.slot.startUtcUnixMillis.toInt - utc.unixMillis.toInt := zero_add _
  refine ⟨⟨?_, ?_⟩, ?_⟩
  · rw [hpredicted]
    omega
  · rw [hpredicted]
    omega
  · show |((0 : Int) - utc.unixMillis.toInt) - (0 - utc.unixMillis.toInt)| ≤ _
    rw [sub_self, abs_zero]
    exact Int.natCast_nonneg _

/-- The clock after the start lets every window on its own clocks through. -/
theorem busy_ready {window : Ft8ReceiveWindow} {observedAt : MonotonicInstant} (hmapped : window.Mapped 0)
    (hobserved : observedAt.millis.toNat ≤ 60000) :
    ∃ alignment, (busyMonitor.gate (.window window) observedAt).1 = .windowReady window alignment := by
  have hnonneg := window.slot.nonneg
  exact monitorFrom_ready (ownSample busyConfig).sample.utc observedAt hmapped hnonneg hobserved

theorem inhibit_decoder [DaemonReceiveInput I] (reason : ReceiveInhibition) (c : LiveReceiveCoordinator I D S) :
    Ends (inhibit reason) c (fun _ t => t.decoder = c.decoder) (fun _ _ => False) := by
  unfold inhibit
  rw [ends_bind, ends_get]
  split
  · rfl
  all_goals
    simp only [closeInput, transition, ends_bind, ends_modify]
    rfl

/-- A gated window of a busy band inhibits receive. -/
theorem processWindow_crowded {crates : ReceiveCrates} (hdigest : ∀ bytes, (crates.sha256 bytes).length = 32)
    {c : Tracked Scripted Busy Quiet}
    (hdecoder : c.decoder = ⟨⟨crowd⟩, []⟩) (htimeline : c.timeline.isSome = true) (hspectrum : c.spectrum = none)
    (window : Ft8ReceiveWindow) (alignment : ReceiveWindowAlignment) (audioHealth : InputHealth) :
    Ends (processWindow crates window alignment audioHealth 0) c
      (fun answer t => answer = .error .storageFailure ∧ t.decoder.results = [crowd]) (fun _ _ => False) := by
  obtain ⟨pcm, hpcm⟩ := windowPcm_ok window
  obtain ⟨id, hid⟩ := receiveWindowId_ok hdigest c window
  have hdecode : Ft8OfflineDecoder.decode c.decoder pcm c.decodeConfig = (.ok crowd, ⟨⟨crowd⟩, [crowd]⟩) := by
    rw [hdecoder]
    rfl
  unfold processWindow waterfall
  rw [ends_bind, ends_bind, ends_get, hspectrum]
  show Ends (fromResult _ >>= _) c _ _
  rw [hpcm, ends_bind, ends_fromResult]
  constructor
  swap
  · intro error herror
    cases herror
  intro _ hsame
  cases hsame
  rw [ends_bind, ends_get, ends_bind, onDecoder, ends_modifyGet, hdecode]
  dsimp only
  rw [hid, ends_bind]
  show Ends (onTimeline _ >>= _) _ _ _
  rw [ends_bind, onTimeline_ends]
  refine ⟨?_, ?_⟩
  · intro hnone
    rw [show c.timeline = none from hnone] at htimeline
    cases htimeline
  · intro timeline _
    obtain ⟨error, herror⟩ := crowd_refused c id window alignment audioHealth timeline.health 0
    dsimp only
    rw [herror]
    exact ⟨rfl, rfl⟩

/-- The events of a batch in a busy band: the first window ends receive. -/
theorem processEvents_crowded {crates : ReceiveCrates} (hdigest : ∀ bytes, (crates.sha256 bytes).length = 32)
    {run : List (CaptureBatch × UInt64)} {timeline : Ft8ReceiveTimeline}
    {c : Tracked Scripted Busy Quiet} (h : Listening run timeline c)
    (audioHealth : InputHealth) {observedAt : MonotonicInstant} (hobserved : observedAt.millis.toNat ≤ 60000)
    {events : List ReceiveTimelineEvent} (hmapped : ∀ e ∈ events, e.Mapped 0) :
    Ends (processEvents crates audioHealth observedAt 0 events) c
      (fun _ t => (∀ window, .window window ∉ events) ∧ t = c ∨ t.decoder.results = [crowd]) (fun _ _ => False) := by
  induction events with
  | nil => exact .inl ⟨fun _ => List.not_mem_nil, rfl⟩
  | cons event events ih =>
    have hlater := ih fun e he => hmapped e (List.mem_cons_of_mem event he)
    unfold processEvents
    rw [ends_bind, onClock_ends, h.clock]
    constructor
    · intro hnone
      cases hnone
    intro clock hclock
    cases hclock
    cases event with
    | incomplete slot =>
      have hsame : { c with clock := some busyMonitor } = c := by rw [← h.clock]
      show Ends (processEvents crates audioHealth observedAt 0 events >>= _) { c with clock := some busyMonitor } _ _
      rw [hsame, ends_bind]
      refine hlater.imp ?_ (fun _ _ hfalse => hfalse)
      intro _ t ht
      refine ht.imp_left ?_
      intro hnone
      refine ⟨?_, hnone.2⟩
      intro window hwindow
      obtain heq | hwindow := List.mem_cons.mp hwindow
      · cases heq
      · exact hnone.1 window hwindow
    | window window =>
      obtain ⟨alignment, hready⟩ := busy_ready (hmapped _ List.mem_cons_self) hobserved
      rw [hready]
      dsimp only
      have htimeline : c.timeline.isSome = true := by
        rw [h.timeline]
        rfl
      unfold orInhibit
      rw [ends_bind]
      refine (processWindow_crowded (c := { c with clock := some (busyMonitor.gate (.window window) observedAt).2 })
        hdigest h.decoder htimeline h.spectrum window alignment audioHealth).imp ?_ (fun _ _ hfalse => hfalse)
      intro answer t ht
      obtain ⟨rfl, hresults⟩ := ht
      show Ends (inhibit .storageFailure >>= _) t _ _
      rw [ends_bind]
      refine (inhibit_decoder _ t).imp ?_ (fun _ _ hfalse => hfalse)
      intro _ u hu
      exact .inr (hu ▸ hresults)

theorem orInhibit_of_ok [DaemonReceiveInput I] {check : Update I D S (Except ReceiveInhibition α)}
    {next : α → Update I D S (List ReceivePollEvent)} {s t : LiveReceiveCoordinator I D S} {a : α}
    {Q : List ReceivePollEvent → LiveReceiveCoordinator I D S → Prop}
    {E : ReceiveCoordinatorError → LiveReceiveCoordinator I D S → Prop} (hcheck : check s = .ok (.ok a) t)
    (hnext : Ends (next a) t Q E) : Ends (orInhibit check next) s Q E := by
  unfold orInhibit
  rw [ends_bind, Ends, hcheck]
  exact hnext

/-- A healthy clock passes its check. -/
theorem checkClock_healthy {c : LiveReceiveCoordinator I D S} {clock : ReceiveClockMonitor}
    {observedAt : MonotonicInstant} (hclock : c.clock = some clock)
    (hhealthy : (clock.snapshot observedAt).1.state = .healthy) :
    Ends (checkClock observedAt) c
      (fun answer t => answer = .ok () ∧ t = { c with clock := some (clock.snapshot observedAt).2 })
      (fun _ _ => False) := by
  unfold checkClock
  rw [ends_bind, onClock_ends, hclock]
  constructor
  · intro hnone
    cases hnone
  intro monitor hmonitor
  cases hmonitor
  rw [hhealthy]
  exact ⟨rfl, rfl⟩

/-- **A poll of a busy band**: receive goes on without a window, and ends with the first one. -/
theorem poll_crowded {crates : ReceiveCrates} (hdigest : ∀ bytes, (crates.sha256 bytes).length = 32)
    {input : CaptureBatch × UInt64} {run : List (CaptureBatch × UInt64)} {timeline : Ft8ReceiveTimeline}
    {c : Tracked Scripted Busy Quiet}
    (h : Listening (input :: run) timeline c) (hobserved : input.2.toNat ≤ 60000) {events : List ReceiveTimelineEvent}
    (hpush : (timeline.step input).1 = .ok events) (hmapped : ∀ e ∈ events, e.Mapped 0) :
    Ends (poll crates ⟨input.2⟩ 0) c
      (fun _ t => (∀ window, .window window ∉ events) ∧ Listening run (timeline.step input).2 t ∨
        t.decoder.results = [crowd])
      (fun _ _ => False) := by
  have hfresh : busyMonitor.snapshot ⟨input.2⟩ = (busyMonitor.snapshotUnchecked ⟨input.2⟩, busyMonitor) :=
    ReceiveClockMonitor.snapshot_fresh (monitorFrom_fresh (ownSample busyConfig).sample.utc ⟨input.2⟩ hobserved)
  obtain ⟨taken, decoder, store, service, process, selection, decode, clock, state, last, anchored, monitor, backlog,
    spectrum⟩ := c
  obtain ⟨hinput, hdecoder, hstate, htimeline, hclock, hbacklog, hspectrum⟩ := h
  dsimp only at hinput hdecoder hstate htimeline hclock hbacklog hspectrum
  subst hinput hdecoder hstate htimeline hclock hbacklog hspectrum
  let rest : Tracked Scripted Busy Quiet :=
    ⟨scriptOf run, ⟨⟨crowd⟩, []⟩, store, service, process, selection, decode, clock,
      .receiving ⟨1, one_nonzero⟩, last, some timeline, some busyMonitor, [], none⟩
  let first : Tracked Scripted Busy Quiet :=
    { rest with input := scriptOf (input :: run) }
  have hclock : checkClock ⟨input.2⟩ first = .ok (.ok ()) first := by
    have hhealthy : (busyMonitor.snapshot ⟨input.2⟩).1.state = .healthy := by
      rw [hfresh]
      rfl
    obtain ⟨answer, t, hchecked, rfl, rfl⟩ := (checkClock_healthy (c := first) rfl hhealthy).exists_ok
    rw [hchecked, hfresh]
  have hfilled : fillBacklog 4 first = .ok (.ok ()) { rest with workerBatches := [input.1] } := rfl
  have hpushed : (do
      let pushed ← onTimeline (·.step input)
      pure (pushed.mapError ReceiveInhibition.timeline) : TrackedUpdate Scripted Busy Quiet _) rest =
        .ok (.ok events) { rest with timeline := some (timeline.step input).2 } := by
    show EStateM.Result.ok ((timeline.step input).1.mapError ReceiveInhibition.timeline) _ = _
    rw [hpush]
    rfl
  have hlistening : Listening run (timeline.step input).2 { rest with timeline := some (timeline.step input).2 } :=
    ⟨rfl, rfl, rfl, rfl, rfl, rfl, rfl⟩
  unfold poll requireReceiving
  rw [ends_bind, ends_bind, ends_get]
  refine orInhibit_of_ok (t := first) rfl ?_
  refine orInhibit_of_ok hclock ?_
  rw [ends_bind, ends_get]
  refine orInhibit_of_ok hfilled ?_
  rw [ends_bind, ends_get]
  refine orInhibit_of_ok hpushed ?_
  refine (processEvents_crowded hdigest hlistening _ hobserved hmapped).imp ?_ (fun _ _ hfalse => hfalse)
  intro _ t ht
  refine ht.imp_left ?_
  intro hnone
  obtain ⟨hwindows, rfl⟩ := hnone
  exact ⟨hwindows, hlistening⟩

/-- A busy band decodes the crowd in the poll of the first window of its run. -/
theorem crowded_run {crates : ReceiveCrates} (hdigest : ∀ bytes, (crates.sha256 bytes).length = 32)
    {run : List (CaptureBatch × UInt64)} {timeline : Ft8ReceiveTimeline}
    {c : Tracked Scripted Busy Quiet} (h : Listening run timeline c)
    (hrun : ∀ entry ∈ transcript Ft8ReceiveTimeline.step timeline run, entry.2.isOk = true ∧
      (∀ e ∈ Ft8ReceiveTimeline.eventsOf entry, e.Mapped 0) ∧ entry.1.2.toNat ≤ 60000)
    (hwindow : ∃ entry ∈ transcript Ft8ReceiveTimeline.step timeline run, ∃ window,
      .window window ∈ Ft8ReceiveTimeline.eventsOf entry) :
    ∃ calls input, newResults (final (step crates) c calls)
      (step crates (final (step crates) c calls) (pollOf input)).2 = [crowd] := by
  induction run generalizing timeline c with
  | nil =>
    obtain ⟨entry, hentry, -⟩ := hwindow
    cases hentry
  | cons input run ih =>
    rw [transcript_cons, List.forall_mem_cons] at hrun
    obtain ⟨⟨hok, hmapped, hobserved⟩, hlater⟩ := hrun
    obtain ⟨events, -, hpush⟩ := Ft8ReceiveTimeline.step_ok hok
    have hevents := Ft8ReceiveTimeline.eventsOf_ok hpush
    rw [hevents] at hmapped
    have hpoll := poll_crowded hdigest h hobserved hpush hmapped
    have hcall : Ends (call crates (pollOf input)) c
        (fun _ t => (∀ window, .window window ∉ events) ∧ Listening run (timeline.step input).2 t ∨
          t.decoder.results = [crowd])
        (fun _ t => (∀ window, .window window ∉ events) ∧ Listening run (timeline.step input).2 t ∨
          t.decoder.results = [crowd]) := by
      rw [pollOf, call, map_eq_pure_bind, ends_bind]
      exact hpoll.imp (fun _ _ ht => ht) (fun _ _ hfalse => hfalse.elim)
    have hafter := ends_final.mp hcall
    obtain ⟨hnone, hlistening⟩ | hresults := hafter
    · obtain ⟨entry, hentry, window, hmem⟩ := hwindow
      obtain rfl | hentry := List.mem_cons.mp hentry
      · rw [hevents] at hmem
        exact absurd hmem (hnone window)
      · obtain ⟨calls, next, hnew⟩ := ih hlistening hlater ⟨entry, hentry, window, hmem⟩
        exact ⟨pollOf input :: calls, next, hnew⟩
    · refine ⟨[], input, ?_⟩
      show (finalState (call crates (pollOf input) c)).decoder.results.drop c.decoder.results.length = [crowd]
      rw [hresults, h.decoder]
      rfl

/-- A busy band decodes the crowd within a slot of silence. -/
theorem busy_crowded {crates : ReceiveCrates} (hdigest : ∀ bytes, (crates.sha256 bytes).length = 32) :
    ∃ calls input, newResults (final (step crates) (busy Ft8ReceiveTimeline.silentRun) calls)
      (step crates (final (step crates) (busy Ft8ReceiveTimeline.silentRun) calls) (pollOf input)).2 = [crowd] := by
  have hstarted : Listening Ft8ReceiveTimeline.silentRun (.new ⟨1, one_nonzero⟩ ⟨1, one_nonzero⟩ monoConfiguration)
      (step crates (busy Ft8ReceiveTimeline.silentRun) (.start (ownSample busyConfig))).2 :=
    ⟨rfl, rfl, rfl, rfl, rfl, rfl, rfl⟩
  have hclocks := Ft8ReceiveTimeline.silent_onClock
  have hmapped := Ft8ReceiveTimeline.windows_mapped ⟨1, one_nonzero⟩ ⟨1, one_nonzero⟩ monoConfiguration
    Ft8ReceiveTimeline.silentRun fun input hinput => (hclocks input hinput).1
  have hobserved : ∀ entry ∈ transcript Ft8ReceiveTimeline.step
      (.new ⟨1, one_nonzero⟩ ⟨1, one_nonzero⟩ monoConfiguration) Ft8ReceiveTimeline.silentRun,
        entry.1.2.toNat ≤ 60000 := by
    intro entry hentry
    obtain ⟨before, later, hrun, -⟩ := exists_of_mem_transcript hentry
    refine (hclocks entry.1 ?_).2
    rw [hrun]
    exact List.mem_append_right before List.mem_cons_self
  obtain ⟨calls, input, hnew⟩ := crowded_run hdigest hstarted (fun entry hentry =>
    ⟨Ft8ReceiveTimeline.silent_accepted entry hentry, hmapped entry hentry, hobserved entry hentry⟩)
    Ft8ReceiveTimeline.silent_emits
  exact ⟨.start (ownSample busyConfig) :: calls, input, hnew⟩

/-- The crowd of a busy band is not stored. -/
theorem storable_iff_busy : ∃ calls input,
    let crates : ReceiveCrates := ⟨fun _ => List.replicate 32 0, fun _ => ⟨0, fun _ _ => 0⟩⟩
    let c := final (step crates) (busy Ft8ReceiveTimeline.silentRun) calls
    let t := (step crates c (pollOf input)).2
    newResults c t = [crowd] ∧
      (StoresResults c t ↔ ∀ decodes ∈ newResults c t, decodes.length ≤ maxStoredDecodesPerWindow) := by
  let crates : ReceiveCrates := ⟨fun _ => List.replicate 32 0, fun _ => ⟨0, fun _ _ => 0⟩⟩
  have hdigest : ∀ bytes, (crates.sha256 bytes).length = 32 := fun _ => List.length_replicate
  obtain ⟨calls, input, hnew⟩ := busy_crowded hdigest
  refine ⟨calls, input, hnew, ?_⟩
  refine storable_iff crates hdigest busyConfig _ _ _ calls (pollOf input) (Int.le_refl 0) ?_
  intro decodes hdecodes
  have hcrowd : decodes ∈ [crowd] := hnew ▸ hdecodes
  rw [List.mem_singleton.mp hcrowd]
  exact crowd_durable

/-- A decoder may return more decodes than a record holds: the window is not stored and receive is inhibited for
storage, although the store was not asked. -/
theorem storable_fails :
    ¬∀ (crates : ReceiveCrates) (config : LiveReceiveCoordinatorConfig) (I D S : Type) [DaemonReceiveInput I]
        [Ft8OfflineDecoder D] [DaemonReceiveStore S] (input : I) (decoder : D) (store : S) (calls : List Call)
        (next : Call),
      let c := final (step crates) (new input (TrackedDecoder.mk decoder []) (TrackedStore.mk store []) config) calls
      let t := (step crates c next).2
      (∀ bytes, (crates.sha256 bytes).length = 32) → 0 ≤ next.recordTime.toInt →
        (∀ decodes ∈ newResults c t, decodes.length ≤ config.decode.maximumCandidates ∧ Durable decodes) →
          StoresResults c t := by
  intro hall
  let crates : ReceiveCrates := ⟨fun _ => List.replicate 32 0, fun _ => ⟨0, fun _ _ => 0⟩⟩
  have hdigest : ∀ bytes, (crates.sha256 bytes).length = 32 := fun _ => List.length_replicate
  obtain ⟨calls, input, hnew⟩ := busy_crowded hdigest
  have hconsistent := consistent_run hdigest
    (consistent_new (scriptOf Ft8ReceiveTimeline.silentRun) (TrackedDecoder.mk (Busy.mk crowd) [])
      (TrackedStore.mk Quiet.mk []) busyConfig) calls
  have hdurable : ∀ decodes ∈ newResults (final (step crates) (busy Ft8ReceiveTimeline.silentRun) calls)
      (step crates (final (step crates) (busy Ft8ReceiveTimeline.silentRun) calls) (pollOf input)).2,
        decodes.length ≤ 1000 ∧ Durable decodes := by
    intro decodes hdecodes
    have hcrowd : decodes ∈ [crowd] := hnew ▸ hdecodes
    rw [List.mem_singleton.mp hcrowd, length_crowd]
    exact ⟨by decide, crowd_durable⟩
  have hstores := hall crates busyConfig Scripted Busy Quiet (scriptOf Ft8ReceiveTimeline.silentRun) ⟨crowd⟩ ⟨⟩ calls
    (pollOf input) hdigest (Int.le_refl 0) hdurable
  have hjudged := step_judged hdigest hconsistent (pollOf input)
  have hiff := hjudged.stores_iff (Int.le_refl 0) fun decodes hdecodes => (hdurable decodes hdecodes).2
  have hfits := hiff.mp hstores crowd (hnew ▸ List.mem_singleton_self _)
  rw [length_crowd] at hfits
  exact absurd hfits (by decide)

end LiveReceiveCoordinator

end Slotpilot.Daemon
