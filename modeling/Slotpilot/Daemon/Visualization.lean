import Slotpilot.Daemon.ScriptedPolls

/-!
# Visualization and receive

The spectrum runs inside a poll, before the decoder, and its errors end the poll. A run with the spectrum enabled shows
the same states, records and results as the run without it exactly when the windows of its polls are drawable.

* `Sourced.takesAtMostOne`: a poll completes at most one window;
* `visualization_iff`: the two runs show the same exactly when each poll draws its window;
* `visualization_fails`: a coordinator with a late clock meets a window that is not drawable.
-/

set_option autoImplicit false

namespace Slotpilot.Daemon

open Lib Domain Audio Operations Protocol Storage

namespace LiveReceiveCoordinator

variable {I D S α β : Type}

/-! ## One window for each poll -/

section Intake

variable {c : Observed I D S} {p : Occasion I D S}

theorem andThen_leads {P Q R : LiveReceiveCoordinator I D S → Prop} {check : Update I D S (Except ReceiveInhibition α)}
    {next : α → Update I D S (Except ReceiveInhibition β)} (hcheck : Leads P R check) (hkeep : ∀ s, R s → Q s)
    (hnext : ∀ a, Leads R Q (next a)) : Leads P Q (andThen check next) := by
  intro s hs
  unfold andThen
  rw [ends_bind]
  refine (hcheck s hs).imp ?_ (fun _ => hkeep)
  intro answer t ht
  cases answer with
  | ok a => exact hnext a t ht
  | error reason => exact hkeep t ht

theorem Sourced.blind (h : Sourced c) : Sourced (blind c) := ⟨h.timeline, h.current, h.asks, h.opened, h.closed⟩

theorem shows_blind (c : LiveReceiveCoordinator I D S) : Shows (blind c) := by
  intro model hmodel
  cases hmodel

variable [DaemonReceiveInput I]

/-- The intake of a poll leaves the timeline as it is. -/
theorem intake_kept :
    Leads (Unpushed p p.before.clock) (fun t => t.timeline = p.before.timeline)
      (intake p.observedAt : Update (JournaledInput I) D (TrackedStore S) _) := by
  refine andThen_leads checkInput_unpushed (fun _ => Unpushed.kept) fun audioHealth => ?_
  refine andThen_leads (checkClock_unpushed p.observedAt) (fun _ => Unpushed.kept) fun _ => ?_
  refine (leads_get fun _ => id).bind (fun _ => Unpushed.kept) fun self => ?_
  refine andThen_leads (fillBacklog_unpushed _) (fun _ => Unpushed.kept) fun _ => ?_
  refine (leads_get fun _ => id).bind (fun _ => Unpushed.kept) fun self => ?_
  split
  · exact leads_pure (fun _ => Unpushed.kept) _
  · intro s hs
    rw [ends_bind, ends_modify]
    exact hs.kept

/-- **A poll completes at most one window.** -/
theorem Sourced.takesAtMostOne (h : Sourced c) (observedAt : MonotonicInstant) : c.TakesAtMostOne observedAt := by
  intro streamGeneration audioHealth batch s hstate hintake timeline events htimeline hstep
  have hunpushed := h.unpushed hstate ⟨fun _ => [], fun _ => flatPlan 0⟩ observedAt 0
  have hkept := (intake_kept c hunpushed).of_ok hintake
  obtain ⟨other, run, -, ⟨hfrom, rfl⟩, -⟩ := h.timeline timeline (hkept.symm.trans htimeline)
  exact hfrom.one_event hstep

theorem draws_blind (c : LiveReceiveCoordinator I D S) (input : Call) : Draws (blind c) input := by
  cases input with
  | poll observedAt recordedUtcMillis =>
    intro window model _ hmodel
    cases hmodel
  | start | observeClock | stop | enableSpectrum => trivial

end Intake

/-! ## What receive shows -/

/-- What a call shows of receive: its answer without waterfalls, the lifecycle state and the records handed to the
store, with the answers of the store. -/
structure ReceiveView where
  answer : Except ReceiveCoordinatorError Answer
  state : ReceiveLifecycleState
  records : List StoreAnswer

/-- What a call showed. -/
def receiveView (result : Except ReceiveCoordinatorError Answer × Observed I D S) : ReceiveView :=
  ⟨result.1.map Answer.withoutWaterfalls, result.2.state, result.2.store.answers⟩

theorem withoutWaterfalls_idem (events : List ReceivePollEvent) :
    withoutWaterfalls (withoutWaterfalls events) = withoutWaterfalls events := by
  unfold withoutWaterfalls
  rw [List.filter_filter]
  simp only [Bool.and_self]

theorem answer_withoutWaterfalls_idem (result : Except ReceiveCoordinatorError Answer) :
    (result.map Answer.withoutWaterfalls).map Answer.withoutWaterfalls = result.map Answer.withoutWaterfalls := by
  cases result with
  | error error => rfl
  | ok answer =>
    cases answer with
    | polled events =>
      show Except.ok (Answer.polled (withoutWaterfalls (withoutWaterfalls events))) = .ok (.polled (withoutWaterfalls events))
      rw [withoutWaterfalls_idem]
    | transitions | observed | enabled => rfl

section Runs

variable [DaemonReceiveInput I] [Ft8OfflineDecoder D] [DaemonReceiveStore S]

/-- What the calls of a run show, apart from those that enable the spectrum. -/
def receiveViews (crates : ReceiveCrates) : Observed I D S → List Call → List ReceiveView
  | _, [] => []
  | c, input :: calls =>
    let result := step crates c input
    if input.receives then receiveView result :: receiveViews crates result.2 calls
    else receiveViews crates result.2 calls

variable {c : Observed I D S} {input : Call}

/-- A call that draws its window shows the same without the spectrum. -/
theorem step_blind (crates : ReceiveCrates) (h : Sourced c) (hs : Shows c) (hreceives : input.receives = true)
    (hdraws : c.Draws input) :
    receiveView (step crates (blind c) input) = receiveView (step crates c input) ∧
      (step crates (blind c) input).2 = blind (step crates c input).2 ∧ Shows (step crates c input).2 := by
  obtain ⟨hanswer, hstate, hshows⟩ := (call_blind crates hs h.takesAtMostOne hreceives hdraws).ends
  have hstep : step crates (blind c) input =
      ((step crates c input).1.map Answer.withoutWaterfalls, blind (step crates c input).2) := Prod.ext hanswer hstate
  refine ⟨?_, congrArg Prod.snd hstep, hshows⟩
  rw [hstep, receiveView, answer_withoutWaterfalls_idem]
  rfl

/-- A call that does not shows another answer. -/
theorem step_undrawn (crates : ReceiveCrates) (h : Sourced c) (hs : Shows c) (hreceives : input.receives = true)
    (hnot : ¬c.Draws input) :
    receiveView (step crates (blind c) input) ≠ receiveView (step crates c input) := by
  intro hsame
  have hanswers := congrArg ReceiveView.answer hsame
  obtain ⟨spectral, hfailed⟩ : ∃ spectral, (step crates c input).1 = .error (.spectrum spectral) := by
    refine step_of_ends (Q := fun answer _ => ∃ spectral, answer = .error (.spectrum spectral)) ?_
    refine (call_undrawn crates hs h.takesAtMostOne hnot).imp (fun _ _ => False.elim) ?_
    rintro _ _ ⟨spectral, rfl⟩
    exact ⟨spectral, rfl⟩
  have hreceive : ∀ error, (step crates (blind c) input).1 = .error error → error.OfReceive := by
    refine step_of_ends (Q := fun answer _ => ∀ error, answer = .error error → error.OfReceive) ?_
    have hblind := call_blind crates (shows_blind c) h.blind.takesAtMostOne hreceives (draws_blind c input)
    refine Ends.imp hblind ?_ ?_
    · intro _ _ _ error herror
      cases herror
    · rintro _ _ ⟨-, -, herror⟩ _ hsame
      cases hsame
      exact herror
  change (step crates (blind c) input).1.map _ = (step crates c input).1.map _ at hanswers
  rw [hfailed] at hanswers
  cases hblind : (step crates (blind c) input).1 with
  | ok answer =>
    rw [hblind] at hanswers
    cases hanswers
  | error error =>
    rw [hblind] at hanswers
    cases hanswers
    exact hreceive _ hblind spectral rfl

/-- Two runs from a coordinator, with and without its spectrum. -/
theorem receiveViews_eq_iff (crates : ReceiveCrates) (h : Sourced c) (hs : Shows c) (calls : List Call) :
    receiveViews crates c calls = receiveViews crates (blind c) (calls.filter Call.receives) ↔
      EveryStep (step crates) Draws c calls := by
  induction calls generalizing c with
  | nil => exact iff_of_true rfl trivial
  | cons input calls ih =>
    have hnext : Sourced (step crates c input).2 := (step_safe crates h input).2.2
    rw [everyStep_cons]
    by_cases hreceives : input.receives = true
    · rw [List.filter_cons_of_pos hreceives, receiveViews, receiveViews, if_pos hreceives, if_pos hreceives,
        List.cons.injEq]
      by_cases hdraws : c.Draws input
      · obtain ⟨hview, hblind, hshows⟩ := step_blind crates h hs hreceives hdraws
        rw [hview, hblind, ih hnext hshows]
        exact ⟨fun hlater => ⟨hdraws, hlater.2⟩, fun hlater => ⟨rfl, hlater.2⟩⟩
      · have hother := step_undrawn crates h hs hreceives hdraws
        exact iff_of_false (fun hsame => hother hsame.1.symm) (fun hall => hdraws hall.1)
    · cases input with
      | enableSpectrum config =>
        obtain ⟨hblind, hshows⟩ := enableSpectrum_blind crates config hs
        rw [List.filter_cons_of_neg hreceives, receiveViews, if_neg hreceives, ← hblind, ih hnext hshows]
        exact ⟨fun hlater => ⟨trivial, hlater⟩, And.right⟩
      | start | observeClock | poll | stop => exact absurd rfl hreceives

/-- **Visualization leaves receive alone** while it can draw: a run of any coordinator, in which the spectrum is enabled
at any calls and with any configurations, shows the same states, records and results as the run without those calls
exactly when each poll draws the window that it completes and its clock gate lets through. -/
theorem visualization_iff (crates : ReceiveCrates) (config : LiveReceiveCoordinatorConfig) {I D S : Type}
    [DaemonReceiveInput I] [Ft8OfflineDecoder D] [DaemonReceiveStore S] (input : I) (decoder : D) (store : S)
    (calls : List Call) :
    let c : Observed I D S := new ⟨input, []⟩ decoder ⟨store, []⟩ config
    receiveViews crates c calls = receiveViews crates c (calls.filter Call.receives) ↔
      EveryStep (step crates) Draws c calls := by
  intro c
  exact receiveViews_eq_iff crates (sourced_new input decoder store config) (shows_blind c) calls

end Runs

/-! ## A late clock -/

theorem lateInstant_nonneg : 0 ≤ (9223372036845000 : Int64).toInt := by decide

/-- The start of the first slot that is not drawable. -/
def lateInstant : UtcInstant := ⟨9223372036845000, lateInstant_nonneg⟩

/-- The batches over that slot. -/
def lateRun : List (CaptureBatch × UInt64) := (List.range' 0 22).map (Ft8ReceiveTimeline.silentFrom 9223372036845000)

/-- A start at that time. -/
def lateSample : GenerationClockSample := ⟨(ownSample busyConfig).generation, ⟨lateInstant, ⟨0⟩⟩⟩

/-- A coordinator whose input delivers one batch for each poll. -/
def late : Observed Scripted Busy Quiet := new ⟨scriptOf lateRun, []⟩ ⟨[]⟩ ⟨⟨⟩, []⟩ busyConfig

/-- The coordinator after the spectrum is enabled and receive is started. -/
def lateStarted (crates : ReceiveCrates) : Observed Scripted Busy Quiet :=
  final (step crates) late [.enableSpectrum smallConfig, .start lateSample]

/-- It receives with the late clock and the spectrum. -/
theorem lateStarted_hears (sha256 : List UInt8 → List UInt8) :
    Hears lateInstant (lateStarted ⟨sha256, flatPlan⟩) ∧ (lateStarted ⟨sha256, flatPlan⟩).spectrum.isSome = true :=
  ⟨⟨rfl, rfl, rfl⟩, rfl⟩

theorem lateStarted_watching (sha256 : List UInt8 → List UInt8) :
    Watching (lateStarted ⟨sha256, flatPlan⟩) lateRun (.new ⟨1, one_nonzero⟩ ⟨1, one_nonzero⟩ monoConfiguration)
      (lateStarted ⟨sha256, flatPlan⟩) :=
  watching_self rfl rfl

/-- A poll with a window at that time does not draw it. -/
theorem Watching.undrawn {base c : Observed Scripted Busy S} {input : CaptureBatch × UInt64}
    {run : List (CaptureBatch × UInt64)} {timeline : Ft8ReceiveTimeline} {events : List ReceiveTimelineEvent}
    (hbase : Hears lateInstant base) (h : Watching base (input :: run) timeline c)
    (hspectrum : base.spectrum.isSome = true) (hobserved : input.2.toNat ≤ 60000)
    (hpush : (timeline.step input).1 = .ok events) {window : Ft8ReceiveWindow} (hwindow : .window window ∈ events)
    (hmapped : window.Mapped lateInstant.unixMillis.toInt)
    (hlate : window.slotStartUtcMillis.toInt = lateInstant.unixMillis.toInt) : ¬c.Draws (pollOf input) := by
  intro hdraws
  obtain ⟨t, hintake, ht⟩ := h.intake hbase hobserved
  rw [← h.spectrum] at hspectrum
  obtain ⟨model, hmodel⟩ := Option.isSome_iff_exists.mp hspectrum
  have hready : c.ReadyWindow ⟨input.2⟩ window :=
    ⟨_, _, _, t, h.state.trans hbase.state, hintake, ht.gates hbase hobserved hpush hwindow hmapped hlate.ge⟩
  have hearly := (hdraws window model hready hmodel).utc
  rw [hlate] at hearly
  exact absurd hearly (by decide)

/-- With a late clock and the spectrum enabled, the poll of the first window fails before its decoder. -/
theorem visualization_fails :
    ¬∀ (crates : ReceiveCrates) (config : LiveReceiveCoordinatorConfig) (I D S : Type) [DaemonReceiveInput I]
        [Ft8OfflineDecoder D] [DaemonReceiveStore S] (input : I) (decoder : D) (store : S) (calls : List Call),
      let c : Observed I D S := new ⟨input, []⟩ decoder ⟨store, []⟩ config
      receiveViews crates c calls = receiveViews crates c (calls.filter Call.receives) := by
  intro hall
  let crates : ReceiveCrates := ⟨fun _ => List.replicate 32 0, flatPlan⟩
  let calls : List Call := [.enableSpectrum smallConfig, .start lateSample]
  have hsame := hall crates busyConfig Scripted Busy Quiet (scriptOf lateRun) ⟨[]⟩ ⟨⟩ (calls ++ lateRun.map pollOf)
  have hdraws := (receiveViews_eq_iff crates (c := late) (sourced_new _ _ _ busyConfig) (shows_blind late) _).mp hsame
  have hsteady := Ft8ReceiveTimeline.silentFrom_steady 9223372036845000 (by decide) (by decide)
  have hclocks := Ft8ReceiveTimeline.silentFrom_onClock 9223372036845000 (by decide)
  have hmapped := Ft8ReceiveTimeline.windows_mapped ⟨1, one_nonzero⟩ ⟨1, one_nonzero⟩ monoConfiguration lateRun
    fun input hinput => (hclocks input hinput).1
  have hrun : ∀ entry ∈ transcript Ft8ReceiveTimeline.step (.new ⟨1, one_nonzero⟩ ⟨1, one_nonzero⟩ monoConfiguration)
      lateRun, entry.2.isOk = true ∧ entry.1.2.toNat ≤ 60000 := by
    intro entry hentry
    obtain ⟨before, later, hsplit, -⟩ := exists_of_mem_transcript hentry
    refine ⟨hsteady.accepted entry hentry, (hclocks entry.1 ?_).2⟩
    show entry.1 ∈ lateRun
    rw [hsplit]
    exact List.mem_append_right before List.mem_cons_self
  obtain ⟨hhears, hspectrum⟩ := lateStarted_hears crates.sha256
  obtain ⟨before, input, later, hsplit, hwatching, window, events, hpush, hwindow⟩ :=
    (lateStarted_watching crates.sha256).reaches hhears crates hrun hsteady.emits
  have hentry : (input, .ok events) ∈ transcript Ft8ReceiveTimeline.step
      (.new ⟨1, one_nonzero⟩ ⟨1, one_nonzero⟩ monoConfiguration) lateRun := by
    rw [hsplit, transcript_append, transcript_cons, hpush]
    exact List.mem_append_right _ List.mem_cons_self
  refine hwatching.undrawn hhears hspectrum (hrun _ hentry).2 hpush hwindow
    (hmapped _ hentry _ hwindow) (hsteady.slots _ hentry window hwindow) ?_
  have hpolls := (everyStep_iff _).mp ((everyStep_append _).mp hdraws).2
  exact hpolls (before.map pollOf) (pollOf input) (later.map pollOf) (by rw [hsplit, List.map_append, List.map_cons])

end LiveReceiveCoordinator

end Slotpilot.Daemon
