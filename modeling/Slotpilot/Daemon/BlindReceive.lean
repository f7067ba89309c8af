import Slotpilot.Daemon.ReceiveSafety
import Slotpilot.Daemon.WindowRows
import Slotpilot.Lib.Erasure

/-!
# Receive without the spectrum

`blind` forgets the spectrum of a coordinator. A poll completes at most one window (`ReadyWindow`), and only the rows of
that window can fail; when they are drawable, every call does to the blind coordinator what it does to the whole one,
less the waterfalls.

* `Unseen`: an update that neither reads nor changes the spectrum, with a rule for each part of a poll;
* `call_blind`: a call whose window is drawable;
* `call_undrawn`: a call whose window is not, which fails with an error of the spectrum.
-/

set_option autoImplicit false

namespace Slotpilot.Daemon

open Lib Domain Audio Operations Protocol Storage

/-- Waterfalls are left out of the results of a poll. -/
def withoutWaterfalls (events : List ReceivePollEvent) : List ReceivePollEvent :=
  events.filter fun
    | .waterfall _ => false
    | _ => true

/-- The error is none of the spectrum. -/
def ReceiveCoordinatorError.OfReceive (self : ReceiveCoordinatorError) : Prop := ∀ error, self ≠ .spectrum error

namespace LiveReceiveCoordinator

variable {I D S α β : Type}

/-- What a call returns, without waterfalls. -/
def Answer.withoutWaterfalls : Answer → Answer
  | .polled events => .polled (Daemon.withoutWaterfalls events)
  | answer => answer

/-- The coordinator without its spectrum. -/
def blind (self : LiveReceiveCoordinator I D S) : LiveReceiveCoordinator I D S := { self with spectrum := none }

/-- The spectrum model, if there is one, is between two windows. -/
def Shows (self : LiveReceiveCoordinator I D S) : Prop := ∀ model, self.spectrum = some model → model.AtWindow

/-- The blind coordinator does the same, and the update leaves the condition. -/
abbrev Blinds (f : α → β) (x : Update I D S α) (y : Update I D S β) (s : LiveReceiveCoordinator I D S)
    (Q : LiveReceiveCoordinator I D S → Prop) : Prop :=
  Erases blind f x y s Q ReceiveCoordinatorError.OfReceive

/-! ## Parts that do not see the spectrum -/

/-- The update neither reads nor changes the spectrum. -/
def Unseen (x : Update I D S α) : Prop := ∀ s, Blinds id x x s fun t => t.spectrum = s.spectrum

section Unseen

variable {x : Update I D S α}

/-- It leaves the model between two windows. -/
theorem Unseen.shows (h : Unseen x) {s : LiveReceiveCoordinator I D S} (hs : Shows s) : Blinds id x x s Shows := by
  refine (h s).imp ?_
  intro t ht model hmodel
  exact hs model (ht ▸ hmodel)

theorem Unseen.bind {k : α → Update I D S β} (hx : Unseen x) (hk : ∀ a, Unseen (k a)) : Unseen (x >>= k) := by
  intro s
  refine (hx s).bind (fun _ => id) ?_
  intro a t _ ht
  refine (hk a t).imp ?_
  intro u hu
  rw [hu, ht]

/-- What is read of the coordinator is not its spectrum. -/
theorem Unseen.get_bind {k : LiveReceiveCoordinator I D S → Update I D S β} (hread : ∀ s, k (blind s) = k s)
    (hk : ∀ s, Unseen (k s)) : Unseen (get >>= k) := by
  intro s
  refine erases_get_bind.mpr ?_
  rw [hread]
  exact hk s s

theorem unseen_pure (a : α) : Unseen (pure a : Update I D S α) := fun _ => ⟨rfl, rfl⟩

theorem unseen_throw {error : ReceiveCoordinatorError} (h : error.OfReceive) : Unseen (throw error : Update I D S α) :=
  fun _ => ⟨rfl, rfl, h⟩

theorem unseen_fromResult {result : Except ReceiveCoordinatorError α} (h : ∀ e, result = .error e → e.OfReceive) :
    Unseen (fromResult result : Update I D S α) := fun _ => erases_fromResult rfl h

theorem ofReceive_mapError {ε : Type} {wrap : ε → ReceiveCoordinatorError} (hwrap : ∀ e, (wrap e).OfReceive)
    {result : Except ε α} : ∀ e, result.mapError wrap = .error e → e.OfReceive := by
  intro e he
  cases result with
  | ok a => cases he
  | error error =>
    cases he
    exact hwrap error

theorem ofReceive_invalidLifecycle (state : ReceiveLifecycleState) :
    (ReceiveCoordinatorError.invalidLifecycle state).OfReceive := by
  intro error h
  cases h

theorem unseen_onInput (call : I → α × I) : Unseen (onInput call : Update I D S α) := fun _ => erases_modifyGet rfl rfl

theorem unseen_onDecoder (call : D → α × D) : Unseen (onDecoder call : Update I D S α) :=
  fun _ => erases_modifyGet rfl rfl

theorem unseen_onStore (call : S → α × S) : Unseen (onStore call : Update I D S α) := fun _ => erases_modifyGet rfl rfl

theorem unseen_onClock (call : ReceiveClockMonitor → α × ReceiveClockMonitor) :
    Unseen (onClock call : Update I D S α) := by
  refine Unseen.get_bind (fun _ => rfl) fun self => ?_
  split
  · exact unseen_throw (ofReceive_invalidLifecycle _)
  · exact Unseen.bind (fun s => erases_modify rfl rfl) fun _ => unseen_pure _

theorem unseen_onTimeline (call : Ft8ReceiveTimeline → α × Ft8ReceiveTimeline) :
    Unseen (onTimeline call : Update I D S α) := by
  refine Unseen.get_bind (fun _ => rfl) fun self => ?_
  split
  · exact unseen_throw (ofReceive_invalidLifecycle _)
  · exact Unseen.bind (fun s => erases_modify rfl rfl) fun _ => unseen_pure _

theorem unseen_transition (current : ReceiveLifecycleState) : Unseen (transition current : Update I D S _) :=
  fun _ => erases_modifyGet rfl rfl

theorem unseen_requireReceiving : Unseen (requireReceiving : Update I D S StreamGeneration) := by
  refine Unseen.get_bind (fun _ => rfl) fun self => ?_
  split
  · exact unseen_pure _
  · exact unseen_throw (ofReceive_invalidLifecycle _)

/-- Goes on with the value of a check. -/
def andThen (check : Update I D S (Except ReceiveInhibition α)) (next : α → Update I D S (Except ReceiveInhibition β)) :
    Update I D S (Except ReceiveInhibition β) := do
  match ← check with
  | .ok value => next value
  | .error reason => pure (.error reason)

theorem unseen_andThen {check : Update I D S (Except ReceiveInhibition α)}
    {next : α → Update I D S (Except ReceiveInhibition β)} (hcheck : Unseen check) (hnext : ∀ a, Unseen (next a)) :
    Unseen (andThen check next) := by
  refine hcheck.bind fun answer => ?_
  cases answer with
  | ok value => exact hnext value
  | error reason => exact unseen_pure _

/-- A check that does not see the spectrum. -/
theorem Unseen.check {check : Update I D S (Except ReceiveInhibition α)} (h : Unseen check)
    (s : LiveReceiveCoordinator I D S) : Blinds (Except.map id) check check s (·.spectrum = s.spectrum) := by
  have hid : (Except.map id : Except ReceiveInhibition α → _) = id := by
    funext answer
    cases answer <;> rfl
  rw [hid]
  exact h s

theorem unseen_checkClock (observedAt : MonotonicInstant) : Unseen (checkClock observedAt : Update I D S _) := by
  refine (unseen_onClock _).bind fun snapshot => ?_
  split <;> exact unseen_pure _

end Unseen

/-! ## A poll up to its batch -/

section Intake

variable [DaemonReceiveInput I]

/-- A poll up to the batch that it takes. -/
def intake (observedAt : MonotonicInstant) :
    Update I D S (Except ReceiveInhibition (InputHealth × Option CaptureBatch)) :=
  andThen checkInput fun audioHealth =>
    andThen (checkClock observedAt) fun _ => do
      let self ← get
      andThen (fillBacklog (workerBatchCapacity - self.workerBatches.length)) fun _ => do
        let self ← get
        match self.workerBatches with
        | [] => pure (.ok (audioHealth, none))
        | batch :: batches => do
          modify fun self => { self with workerBatches := batches }
          pure (.ok (audioHealth, some batch))

theorem orInhibit_andThen (check : Update I D S (Except ReceiveInhibition α))
    (next : α → Update I D S (Except ReceiveInhibition β)) (last : β → Update I D S (List ReceivePollEvent)) :
    orInhibit (andThen check next) last = orInhibit check fun value => orInhibit (next value) last := by
  unfold orInhibit andThen
  rw [bind_assoc]
  refine congrArg (check >>= ·) (funext fun answer => ?_)
  cases answer with
  | ok value => rfl
  | error reason => rw [pure_bind]

theorem orInhibit_get (next : LiveReceiveCoordinator I D S → Update I D S (Except ReceiveInhibition β))
    (last : β → Update I D S (List ReceivePollEvent)) :
    orInhibit (get >>= next) last = get >>= fun self => orInhibit (next self) last := by
  unfold orInhibit
  rw [bind_assoc]

section Batch

variable [Ft8OfflineDecoder D] [DaemonReceiveStore S]

/-- What follows the intake of a poll. -/
def processTaken (crates : ReceiveCrates) (observedAt : MonotonicInstant) (recordedUtcMillis : Int64) :
    InputHealth × Option CaptureBatch → Update I D S (List ReceivePollEvent)
  | (_, none) => pure []
  | (audioHealth, some batch) => processBatch crates batch audioHealth observedAt recordedUtcMillis

/-- A poll is its intake and the processing of the batch. -/
theorem poll_eq (crates : ReceiveCrates) (observedAt : MonotonicInstant) (recordedUtcMillis : Int64) :
    (poll crates observedAt recordedUtcMillis : Update I D S _) = (do
      let _ ← requireReceiving
      orInhibit (intake observedAt) (processTaken crates observedAt recordedUtcMillis)) := by
  unfold poll intake
  refine congrArg (requireReceiving >>= ·) (funext fun _ => ?_)
  rw [orInhibit_andThen]
  refine congrArg (orInhibit checkInput) (funext fun audioHealth => ?_)
  rw [orInhibit_andThen]
  refine congrArg (orInhibit (checkClock observedAt)) (funext fun _ => ?_)
  rw [orInhibit_get]
  refine congrArg (get >>= ·) (funext fun self => ?_)
  rw [orInhibit_andThen]
  refine congrArg (orInhibit _) (funext fun _ => ?_)
  rw [orInhibit_get]
  refine congrArg (get >>= ·) (funext fun self => ?_)
  cases self.workerBatches with
  | nil => rfl
  | cons batch batches => rfl

end Batch

theorem unseen_checkInput : Unseen (checkInput : Update I D S _) := by
  refine (unseen_onInput _).bind fun fault => ?_
  cases fault with
  | some fault => exact unseen_pure _
  | none =>
    refine (unseen_onInput _).bind fun health => ?_
    cases health with
    | error error => exact unseen_pure _
    | ok health =>
      dsimp only
      split <;> exact unseen_pure _

theorem unseen_fillBacklog (room : Nat) : Unseen (fillBacklog room : Update I D S _) := by
  induction room with
  | zero => exact unseen_pure _
  | succ room ih =>
    refine (unseen_onInput _).bind fun result => ?_
    split
    · exact Unseen.bind (fun s => erases_modify rfl rfl) fun _ => ih
    · exact unseen_pure _
    · exact unseen_pure _

theorem unseen_intake (observedAt : MonotonicInstant) : Unseen (intake observedAt : Update I D S _) := by
  refine unseen_andThen unseen_checkInput fun audioHealth => ?_
  refine unseen_andThen (unseen_checkClock observedAt) fun _ => ?_
  refine Unseen.get_bind (fun _ => rfl) fun self => ?_
  refine unseen_andThen (unseen_fillBacklog _) fun _ => ?_
  refine Unseen.get_bind (fun _ => rfl) fun self => ?_
  split
  · exact unseen_pure _
  · exact Unseen.bind (fun s => erases_modify rfl rfl) fun _ => unseen_pure _

end Intake

/-! ## One window -/

section Window

variable {s : LiveReceiveCoordinator I D S}

/-- A call of the spectrum, which the coordinator has. -/
theorem onSpectrum_ends {update : SpectrumModel.Update α} {model : SpectrumModel}
    {Q : α → LiveReceiveCoordinator I D S → Prop} {E : ReceiveCoordinatorError → LiveReceiveCoordinator I D S → Prop}
    (h : s.spectrum = some model) :
    Ends (onSpectrum update) s Q E ↔ Ends update model (fun a next => Q a { s with spectrum := some next })
      (fun error next => E (.spectrum error) { s with spectrum := some next }) := by
  unfold Ends onSpectrum
  rw [h]
  dsimp only
  cases update model <;> rfl

/-- The spectrum has the rows of a drawable window, and the blind coordinator has none. -/
theorem waterfall_blind (hs : Shows s) {window : Ft8ReceiveWindow}
    (hdraws : ∀ model, s.spectrum = some model → Drawable model window) :
    Blinds (fun _ => none) (waterfall window) (waterfall window) s Shows := by
  unfold waterfall
  refine erases_get_bind.mpr ?_
  cases hspectrum : s.spectrum with
  | none => exact ⟨rfl, hs⟩
  | some model =>
    show Ends (onSpectrum (pushWindow window 0 >>= fun _ => modifyGet SpectrumModel.takeSnapshot)) s _ _
    rw [onSpectrum_ends hspectrum, ends_bind]
    refine (pushWindow_ends (hs model hspectrum) window).imp ?_ ?_
    · rintro _ next ⟨-, hnext⟩
      rw [ends_modifyGet]
      refine ⟨rfl, ?_⟩
      intro taken htaken
      cases htaken
      exact hnext.takeSnapshot
    · intro _ _ hunfit
      exact absurd (hdraws model hspectrum) hunfit

/-- The result of a stored window, without its waterfall. -/
def storedBlind : Except ReceiveInhibition (List ReceivePollEvent) → Except ReceiveInhibition (List ReceivePollEvent) :=
  Except.map withoutWaterfalls

theorem persist_blind [DaemonReceiveStore S] (hs : Shows s) (record : ReceiveRecord)
    (snapshot : Option WaterfallSnapshot) :
    Blinds storedBlind (persist record snapshot) (persist record none) s Shows := by
  refine ((unseen_onStore _).shows hs).bind (fun _ => id) ?_
  intro answer t _ ht
  cases answer with
  | error error => exact ⟨rfl, ht⟩
  | ok outcome =>
    refine ⟨?_, ht⟩
    cases snapshot <;> rfl

variable [Ft8OfflineDecoder D] [DaemonReceiveStore S]

theorem processWindow_blind (crates : ReceiveCrates) {window : Ft8ReceiveWindow} (alignment : ReceiveWindowAlignment)
    (audioHealth : InputHealth) (recordedUtcMillis : Int64) (hs : Shows s)
    (hdraws : ∀ model, s.spectrum = some model → Drawable model window) :
    Blinds storedBlind (processWindow crates window alignment audioHealth recordedUtcMillis)
      (processWindow crates window alignment audioHealth recordedUtcMillis) s Shows := by
  unfold processWindow
  refine (waterfall_blind hs hdraws).bind (fun _ => id) ?_
  intro snapshot t _ ht
  refine ((unseen_fromResult (ofReceive_mapError ?_)).shows ht).bind (fun _ => id) ?_
  · intro error spectral h
    cases h
  intro pcm t _ ht
  refine erases_get_bind.mpr ?_
  refine ((unseen_onDecoder _).shows ht).bind (fun _ => id) ?_
  intro decoded u _ hu
  cases decoded with
  | error error => exact ⟨rfl, hu⟩
  | ok decodes =>
    refine ((unseen_fromResult (ofReceive_mapError ?_)).shows hu).bind (fun _ => id) ?_
    · intro error spectral h
      cases h
    intro receiveWindowId v _ hv
    refine ((unseen_onTimeline _).shows hv).bind (fun _ => id) ?_
    intro health w _ hw
    have hrecord : (blind t).receiveRecord receiveWindowId window alignment audioHealth health decodes recordedUtcMillis =
        t.receiveRecord receiveWindowId window alignment audioHealth health decodes recordedUtcMillis := rfl
    simp only [id_eq, hrecord]
    cases t.receiveRecord receiveWindowId window alignment audioHealth health decodes recordedUtcMillis with
    | error error => exact ⟨rfl, hw⟩
    | ok record => exact persist_blind hw record snapshot

/-- A window that is not drawable fails before it is decoded. -/
theorem processWindow_undrawn (crates : ReceiveCrates) {window : Ft8ReceiveWindow} (alignment : ReceiveWindowAlignment)
    (audioHealth : InputHealth) (recordedUtcMillis : Int64) (hs : Shows s) {model : SpectrumModel}
    (hmodel : s.spectrum = some model) (hnot : ¬Drawable model window) :
    Ends (processWindow crates window alignment audioHealth recordedUtcMillis) s (fun _ _ => False)
      (fun error _ => ∃ spectral, error = .spectrum spectral) := by
  have hsome : s.spectrum.isSome = true := by
    rw [hmodel]
    rfl
  unfold processWindow waterfall
  rw [ends_bind, ends_bind, ends_get, if_pos hsome, onSpectrum_ends hmodel, ends_bind]
  refine (pushWindow_ends (hs model hmodel) window).imp ?_ ?_
  · rintro _ next ⟨hdrawable, -⟩
    exact absurd hdrawable hnot
  · intro error _ _
    exact ⟨error, rfl⟩

end Window

/-! ## The end of a poll -/

theorem shows_reset (reason : SpectrumDiscontinuity) (s : LiveReceiveCoordinator I D S) :
    Shows (resetSpectrum reason s) := by
  intro model hmodel
  obtain ⟨before, -, rfl⟩ := Option.map_eq_some_iff.mp hmodel
  exact SpectrumModel.atWindow_reset reason

/-- It is a condition on the spectrum alone. -/
theorem Shows.of_same {s t : LiveReceiveCoordinator I D S} (h : Shows s) (hsame : t.spectrum = s.spectrum) : Shows t := by
  intro model hmodel
  exact h model (hsame ▸ hmodel)

/-- A receiving coordinator goes on, and another one fails. -/
theorem requireReceiving_ends {c : LiveReceiveCoordinator I D S} :
    Ends requireReceiving c
      (fun _ t => t = c ∧ ∃ streamGeneration, c.state = .receiving streamGeneration) (fun _ _ => True) := by
  unfold requireReceiving
  rw [ends_bind, ends_get]
  split
  · rename_i streamGeneration hstate
    exact ⟨rfl, streamGeneration, hstate⟩
  · trivial

section Input

variable [DaemonReceiveInput I] {s : LiveReceiveCoordinator I D S}

theorem closeInput_blind (reason : SpectrumDiscontinuity) (hs : Shows s) :
    Blinds id (closeInput reason) (closeInput reason) s Shows := by
  refine ((unseen_onInput _).shows hs).bind (fun _ => id) ?_
  intro _ t _ _
  exact erases_modify rfl (shows_reset reason _)

theorem inhibit_blind (reason : ReceiveInhibition) (hs : Shows s) :
    Blinds id (inhibit reason) (inhibit reason) s Shows := by
  have hclosed (current : ReceiveLifecycleState) :
      Blinds id (closeInput .timelineDiscontinuity >>= fun _ => transition current)
        (closeInput .timelineDiscontinuity >>= fun _ => transition current) s Shows := by
    refine (closeInput_blind _ hs).bind (fun _ => id) ?_
    intro _ t _ ht
    exact (unseen_transition current).shows ht
  unfold inhibit
  refine erases_get_bind.mpr ?_
  have hstate : (blind s).state = s.state := rfl
  rw [hstate]
  cases s.state with
  | stopped processGeneration last => exact (unseen_transition _).shows hs
  | starting g => exact hclosed _
  | receiving g => exact hclosed _
  | inhibited g reason => exact hclosed _
  | stopping g reason => exact hclosed _

/-- A check that goes on or inhibits receive. -/
theorem orInhibit_blind {P : LiveReceiveCoordinator I D S → Prop} {g : α → β}
    {check : Update I D S (Except ReceiveInhibition α)} {check' : Update I D S (Except ReceiveInhibition β)}
    {next : α → Update I D S (List ReceivePollEvent)} {next' : β → Update I D S (List ReceivePollEvent)}
    (hcheck : Blinds (Except.map g) check check' s P) (hshows : ∀ t, P t → Shows t)
    (hnext : ∀ a t, check s = .ok (.ok a) t → P t → Blinds withoutWaterfalls (next a) (next' (g a)) t Shows) :
    Blinds withoutWaterfalls (orInhibit check next) (orInhibit check' next') s Shows := by
  refine hcheck.bind hshows ?_
  intro answer t hanswer ht
  cases answer with
  | ok a => exact hnext a t hanswer ht
  | error reason =>
    refine (inhibit_blind reason (hshows t ht)).bind (fun _ => id) ?_
    intro event u _ hu
    exact ⟨rfl, hu⟩

section Batch

variable [Ft8OfflineDecoder D] [DaemonReceiveStore S]

/-- The batch completes the window, and the clock gate lets it through. -/
def Gates (s : LiveReceiveCoordinator I D S) (batch : CaptureBatch) (observedAt : MonotonicInstant)
    (window : Ft8ReceiveWindow) : Prop :=
  ∃ timeline events clock alignment, s.timeline = some timeline ∧
    (timeline.step (batch, observedAt.millis)).1 = .ok events ∧ .window window ∈ events ∧ s.clock = some clock ∧
    (clock.gate (.window window) observedAt).1 = .windowReady window alignment

/-- The batch completes at most one window. -/
def AtMostOne (s : LiveReceiveCoordinator I D S) (batch : CaptureBatch) (observedAt : MonotonicInstant) : Prop :=
  ∀ timeline events, s.timeline = some timeline → (timeline.step (batch, observedAt.millis)).1 = .ok events →
    events.length ≤ 1

variable {crates : ReceiveCrates} {audioHealth : InputHealth} {observedAt : MonotonicInstant}
  {recordedUtcMillis : Int64} {batch : CaptureBatch} {window : Ft8ReceiveWindow} {events : List ReceiveTimelineEvent}

/-- The event of a batch. -/
theorem processEvents_blind (hs : Shows s) (hone : events.length ≤ 1)
    (hdraws : ∀ window clock alignment model, .window window ∈ events → s.clock = some clock →
      (clock.gate (.window window) observedAt).1 = .windowReady window alignment → s.spectrum = some model →
      Drawable model window) :
    Blinds withoutWaterfalls (processEvents crates audioHealth observedAt recordedUtcMillis events)
      (processEvents crates audioHealth observedAt recordedUtcMillis events) s Shows := by
  match events, hone with
  | [], _ => exact ⟨rfl, hs⟩
  | [event], _ =>
    refine Erases.bind (unseen_onClock (fun clock => clock.gate event observedAt) s) (fun t ht => hs.of_same ht) ?_
    intro gated t hgated ht
    have hts := hs.of_same ht
    have hcalled : Ends (onClock fun clock => clock.gate event observedAt) s
        (fun gated _ => ∃ clock, s.clock = some clock ∧ (clock.gate event observedAt).1 = gated) (fun _ _ => True) :=
      onClock_ends.mpr ⟨fun _ => trivial, fun clock hclock => ⟨clock, hclock, rfl⟩⟩
    obtain ⟨clock, hclock, hgate⟩ := hcalled.of_ok hgated
    cases gated with
    | incomplete incomplete => exact ⟨rfl, hts⟩
    | windowRejected slot fault =>
      refine orInhibit_blind ((unseen_pure _).check t) (fun u hu => hts.of_same hu) ?_
      intro events u hanswer _
      rw [pure_ok] at hanswer
      cases hanswer.1
    | windowReady window alignment =>
      obtain ⟨rfl, -⟩ := gate_ready_age hgate
      refine orInhibit_blind (processWindow_blind crates alignment audioHealth recordedUtcMillis hts ?_) (fun _ => id) ?_
      · intro model hmodel
        exact hdraws window clock alignment model List.mem_cons_self hclock hgate (ht ▸ hmodel)
      · intro stored u _ hu
        refine ⟨?_, hu⟩
        show EStateM.Result.ok (withoutWaterfalls stored ++ []) _ = .ok (withoutWaterfalls (stored ++ [])) _
        rw [List.append_nil, List.append_nil]

theorem processBatch_blind (hs : Shows s) (hone : s.AtMostOne batch observedAt)
    (hdraws : ∀ window model, s.Gates batch observedAt window → s.spectrum = some model → Drawable model window) :
    Blinds withoutWaterfalls (processBatch crates batch audioHealth observedAt recordedUtcMillis)
      (processBatch crates batch audioHealth observedAt recordedUtcMillis) s Shows := by
  have hunseen : Unseen (do
      let pushed ← onTimeline (·.step (batch, observedAt.millis))
      pure (pushed.mapError ReceiveInhibition.timeline) : Update I D S _) :=
    (unseen_onTimeline _).bind fun _ => unseen_pure _
  refine orInhibit_blind (hunseen.check s) (fun t ht => hs.of_same ht) ?_
  intro events t hpushed ht
  have hstepped : Ends (do
      let pushed ← onTimeline (·.step (batch, observedAt.millis))
      pure (pushed.mapError ReceiveInhibition.timeline) : Update I D S _) s
      (fun answer t => ∃ timeline, s.timeline = some timeline ∧ t.clock = s.clock ∧
        (timeline.step (batch, observedAt.millis)).1.mapError ReceiveInhibition.timeline = answer)
      (fun _ _ => True) := by
    rw [ends_bind, onTimeline_ends]
    exact ⟨fun _ => trivial, fun timeline htimeline => ⟨timeline, htimeline, rfl, rfl⟩⟩
  obtain ⟨timeline, htimeline, hclock, hanswer⟩ := hstepped.of_ok hpushed
  rw [exceptMapError_ok] at hanswer
  refine processEvents_blind (hs.of_same ht) (hone timeline events htimeline hanswer) ?_
  intro window clock alignment model hwindow hsome hready hmodel
  exact hdraws window model ⟨timeline, events, clock, alignment, htimeline, hanswer, hwindow, hclock ▸ hsome, hready⟩
    (ht ▸ hmodel)

/-- A window that is not drawable ends the poll with an error of the spectrum. -/
theorem processBatch_undrawn (hs : Shows s) (hone : s.AtMostOne batch observedAt)
    (hgates : s.Gates batch observedAt window) {model : SpectrumModel} (hmodel : s.spectrum = some model)
    (hnot : ¬Drawable model window) :
    Ends (processBatch crates batch audioHealth observedAt recordedUtcMillis) s (fun _ _ => False)
      (fun error _ => ∃ spectral, error = .spectrum spectral) := by
  obtain ⟨timeline, events, clock, alignment, htimeline, hstep, hmem, hclock, hready⟩ := hgates
  have honly : events = [.window window] := by
    have hlength := hone timeline events htimeline hstep
    match events, hmem, hlength with
    | [event], hmem, _ => rw [List.mem_singleton.mp hmem]
  subst honly
  unfold processBatch orInhibit
  rw [ends_bind, ends_bind, onTimeline_ends]
  refine ⟨fun hnone => by simp [htimeline] at hnone, ?_⟩
  intro timeline' hsame
  rw [htimeline] at hsame
  cases hsame
  rw [ends_pure, hstep]
  show Ends (processEvents crates audioHealth observedAt recordedUtcMillis [.window window]) _ _ _
  unfold processEvents
  rw [ends_bind, onClock_ends]
  refine ⟨fun hnone => by simp [hclock] at hnone, ?_⟩
  intro clock' hsame
  cases hclock.symm.trans hsame
  rw [hready]
  dsimp only
  have hfailed := processWindow_undrawn crates alignment audioHealth recordedUtcMillis
    (s := { s with
      timeline := some (timeline.step (batch, observedAt.millis)).2
      clock := some (clock.gate (.window window) observedAt).2 }) (hs.of_same rfl) hmodel hnot
  unfold orInhibit
  rw [ends_bind]
  exact hfailed.imp (fun _ _ hfalse => hfalse.elim) (fun _ _ herror => herror)

/-! ## A poll -/

/-- The poll completes the window, and the clock gate lets it through. -/
def ReadyWindow (c : LiveReceiveCoordinator I D S) (observedAt : MonotonicInstant) (window : Ft8ReceiveWindow) : Prop :=
  ∃ streamGeneration audioHealth batch s, c.state = .receiving streamGeneration ∧
    intake observedAt c = .ok (.ok (audioHealth, some batch)) s ∧ s.Gates batch observedAt window

/-- The batch of the poll completes at most one window. -/
def TakesAtMostOne (c : LiveReceiveCoordinator I D S) (observedAt : MonotonicInstant) : Prop :=
  ∀ streamGeneration audioHealth batch s, c.state = .receiving streamGeneration →
    intake observedAt c = .ok (.ok (audioHealth, some batch)) s → s.AtMostOne batch observedAt

variable {c : LiveReceiveCoordinator I D S}

theorem poll_blind (hs : Shows c) (hone : c.TakesAtMostOne observedAt)
    (hdraws : ∀ window model, c.ReadyWindow observedAt window → c.spectrum = some model → Drawable model window) :
    Blinds withoutWaterfalls (poll crates observedAt recordedUtcMillis) (poll crates observedAt recordedUtcMillis) c
      Shows := by
  rw [poll_eq]
  refine (unseen_requireReceiving.shows hs).bind (fun _ => id) ?_
  intro _ t hreceiving _
  obtain ⟨rfl, streamGeneration, hstate⟩ := requireReceiving_ends.of_ok hreceiving
  refine orInhibit_blind ((unseen_intake observedAt).check t) (fun u hu => hs.of_same hu) ?_
  rintro ⟨audioHealth, taken⟩ u hintake hu
  cases taken with
  | none => exact ⟨rfl, hs.of_same hu⟩
  | some batch =>
    refine processBatch_blind (hs.of_same hu) (hone _ _ _ _ hstate hintake) ?_
    intro window model hgates hmodel
    exact hdraws window model ⟨streamGeneration, audioHealth, batch, u, hstate, hintake, hgates⟩ (hu ▸ hmodel)

theorem poll_undrawn (hs : Shows c) (hone : c.TakesAtMostOne observedAt) (hready : c.ReadyWindow observedAt window)
    {model : SpectrumModel} (hmodel : c.spectrum = some model) (hnot : ¬Drawable model window) :
    Ends (poll crates observedAt recordedUtcMillis) c (fun _ _ => False)
      (fun error _ => ∃ spectral, error = .spectrum spectral) := by
  obtain ⟨streamGeneration, audioHealth, batch, s, hstate, hintake, hgates⟩ := hready
  have hsame : s.spectrum = c.spectrum := ((unseen_intake observedAt c).of_ok hintake).2
  rw [poll_eq]
  unfold requireReceiving orInhibit
  rw [ends_bind, ends_bind, ends_get, hstate, ends_pure, ends_bind, Ends, hintake]
  exact processBatch_undrawn (hs.of_same hsame) (hone _ _ _ _ hstate hintake) hgates (hsame.trans hmodel) hnot

end Batch

/-! ## The other calls -/

theorem observeClock_blind (observation : GenerationClockSample) (observedAt : MonotonicInstant) (hs : Shows s) :
    Blinds id (observeClock observation observedAt) (observeClock observation observedAt) s Shows := by
  refine (unseen_requireReceiving.shows hs).bind (fun _ => id) ?_
  intro _ t _ ht
  refine ((unseen_onClock _).shows ht).bind (fun _ => id) ?_
  intro transition u _ hu
  rw [id_eq]
  cases clockState transition with
  | healthy => exact ⟨rfl, hu⟩
  | unhealthy fault progress required =>
    refine (inhibit_blind (.clock fault) hu).bind (fun _ => id) ?_
    intro event v _ hv
    exact ⟨rfl, hv⟩

theorem openInput_blind (initialClock : GenerationClockSample) (streamGeneration : StreamGeneration) (hs : Shows s) :
    Blinds id (openInput initialClock streamGeneration) (openInput initialClock streamGeneration) s Shows := by
  unfold openInput
  refine erases_get_bind.mpr ?_
  have hprocess : (blind s).processGeneration = s.processGeneration := rfl
  rw [hprocess]
  by_cases hgeneration : initialClock.generation.value ≠ s.processGeneration.value
  · rw [if_pos hgeneration, if_pos hgeneration]
    exact (unseen_transition _).shows hs
  · rw [if_neg hgeneration, if_neg hgeneration]
    refine ((unseen_onInput _).shows hs).bind (fun _ => id) ?_
    intro opened t _ ht
    cases opened with
    | error error => exact (unseen_transition _).shows ht
    | ok _ =>
      refine ((unseen_fromResult (ofReceive_mapError ?_)).shows ht).bind (fun _ => id) ?_
      · intro error spectral h
        cases h
      intro monitor u _ hu
      refine Erases.bind (erases_modify rfl (shows_reset .streamGenerationChanged _)) (fun _ => id) ?_
      intro _ v _ hv
      exact (unseen_transition _).shows hv

theorem start_blind (initialClock : GenerationClockSample) (hs : Shows s) :
    Blinds id (start initialClock) (start initialClock) s Shows := by
  unfold start
  refine erases_get_bind.mpr ?_
  have hstate : (blind s).state = s.state := rfl
  have hlast : (blind s).lastStreamGeneration = s.lastStreamGeneration := rfl
  rw [hstate, hlast]
  cases s.state with
  | stopped processGeneration last =>
    refine (erases_orThrow hs ?_).bind (fun _ => id) ?_
    · intro error h
      cases h
    intro next t _ ht
    refine ((unseen_fromResult (ofReceive_mapError ?_)).shows ht).bind (fun _ => id) ?_
    · intro error spectral h
      cases h
    intro streamGeneration u _ hu
    refine Erases.bind (erases_modify rfl (hu.of_same rfl)) (fun _ => id) ?_
    intro _ v _ hv
    refine ((unseen_transition _).shows hv).bind (fun _ => id) ?_
    intro first w _ hw
    refine (openInput_blind initialClock streamGeneration hw).bind (fun _ => id) ?_
    intro second z _ hz
    exact ⟨rfl, hz⟩
  | starting g => exact (unseen_throw (ofReceive_invalidLifecycle _)).shows hs
  | receiving g => exact (unseen_throw (ofReceive_invalidLifecycle _)).shows hs
  | inhibited g reason => exact (unseen_throw (ofReceive_invalidLifecycle _)).shows hs
  | stopping g reason => exact (unseen_throw (ofReceive_invalidLifecycle _)).shows hs

theorem stop_blind (reason : ReceiveStopReason) (hs : Shows s) : Blinds id (stop reason) (stop reason) s Shows := by
  have hstopped (streamGeneration : StreamGeneration) (stopped : ReceiveLifecycleState) :
      Blinds id
        (do
          let first ← transition (.stopping streamGeneration reason)
          closeInput .streamGenerationChanged
          let second ← transition stopped
          pure [first, second])
        (do
          let first ← transition (.stopping streamGeneration reason)
          closeInput .streamGenerationChanged
          let second ← transition stopped
          pure [first, second]) s Shows := by
    refine ((unseen_transition _).shows hs).bind (fun _ => id) ?_
    intro first t _ ht
    refine (closeInput_blind _ ht).bind (fun _ => id) ?_
    intro _ u _ hu
    refine ((unseen_transition _).shows hu).bind (fun _ => id) ?_
    intro second v _ hv
    exact ⟨rfl, hv⟩
  unfold stop
  refine erases_get_bind.mpr ?_
  have hstate : (blind s).state = s.state := rfl
  rw [hstate]
  cases s.state with
  | receiving g => exact hstopped g _
  | inhibited g why => exact hstopped g _
  | stopped processGeneration last => exact (unseen_throw (ofReceive_invalidLifecycle _)).shows hs
  | starting g => exact (unseen_throw (ofReceive_invalidLifecycle _)).shows hs
  | stopping g why => exact (unseen_throw (ofReceive_invalidLifecycle _)).shows hs

/-! ## One call -/

/-- The call does not enable the spectrum. -/
def Call.receives : Call → Bool
  | .enableSpectrum _ => false
  | _ => true

/-- The window that the call completes and the clock gate lets through is drawable, if there is a spectrum. -/
def Draws (c : LiveReceiveCoordinator I D S) : Call → Prop
  | .poll observedAt _ =>
    ∀ window model, c.ReadyWindow observedAt window → c.spectrum = some model → Drawable model window
  | _ => True

section Calls

variable [Ft8OfflineDecoder D] [DaemonReceiveStore S] {c : LiveReceiveCoordinator I D S} {input : Call}

/-- **A call that draws its window** does the same to the blind coordinator, less the waterfall. -/
theorem call_blind (crates : ReceiveCrates) (hs : Shows c) (hone : ∀ observedAt, c.TakesAtMostOne observedAt)
    (hreceives : input.receives = true) (hdraws : c.Draws input) :
    Blinds Answer.withoutWaterfalls (call crates input) (call crates input) c Shows := by
  cases input with
  | start initialClock => exact (start_blind initialClock hs).map fun _ => rfl
  | observeClock observation observedAt => exact (observeClock_blind observation observedAt hs).map fun _ => rfl
  | poll observedAt recordedUtcMillis => exact (poll_blind hs (hone observedAt) hdraws).map fun _ => rfl
  | stop reason => exact (stop_blind reason hs).map fun _ => rfl
  | enableSpectrum config => cases hreceives

/-- **A call that does not** fails with an error of the spectrum. -/
theorem call_undrawn (crates : ReceiveCrates) (hs : Shows c) (hone : ∀ observedAt, c.TakesAtMostOne observedAt)
    (hnot : ¬c.Draws input) :
    Ends (call crates input) c (fun _ _ => False) (fun error _ => ∃ spectral, error = .spectrum spectral) := by
  cases input with
  | poll observedAt recordedUtcMillis =>
    unfold Draws at hnot
    push Not at hnot
    obtain ⟨window, model, hready, hmodel, hundrawn⟩ := hnot
    rw [call, map_eq_pure_bind, ends_bind]
    exact (poll_undrawn hs (hone observedAt) hready hmodel hundrawn).imp (fun _ _ => False.elim) (fun _ _ => id)
  | start | observeClock | stop | enableSpectrum => exact absurd trivial hnot

/-- A call that enables the spectrum changes nothing else. -/
theorem enableSpectrum_blind (crates : ReceiveCrates) (config : SpectrumConfig) (hs : Shows c) :
    blind (step crates c (.enableSpectrum config)).2 = blind c ∧ Shows (step crates c (.enableSpectrum config)).2 := by
  have hends : Ends (call crates (.enableSpectrum config)) c (fun _ t => blind t = blind c ∧ Shows t)
      (fun _ t => blind t = blind c ∧ Shows t) := by
    rw [call, map_eq_pure_bind, ends_bind, enableSpectrum, ends_bind, ends_fromResult]
    refine ⟨?_, fun _ _ => ⟨rfl, hs⟩⟩
    intro spectrum hnew
    refine ⟨rfl, ?_⟩
    intro model hmodel
    cases hmodel
    exact SpectrumModel.atWindow_new ((exceptMapError_ok ..).mp hnew)
  exact ends_final.mp hends

end Calls

end Input

end LiveReceiveCoordinator

end Slotpilot.Daemon
