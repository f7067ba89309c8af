import Slotpilot.Daemon.Receive
import Slotpilot.Lib.Machine

/-!
# The lifecycle of the receive coordinator

Between calls a coordinator is stopped, receiving or inhibited, and its input, timeline, clock and backlog agree with
that (`Settled`), over every run with any input, decoder and store, exactly when its clock configuration is within
bounds (`settled_iff`). `start` checks the clock configuration after it has opened the input; one out of bounds leaves
the coordinator starting with an open input, which neither `start` nor `stop` accepts.
-/

set_option autoImplicit false

namespace Slotpilot.Daemon

open Lib Domain Audio Operations Protocol Storage

/-! ## Inputs that remember whether they are open -/

/-- An input, and whether it was started and has not been stopped since. -/
structure TrackedInput (I : Type) where
  input : I
  opened : Bool

namespace TrackedInput

variable {I : Type}

/-- A call that neither opens nor closes the input. -/
def pass {α : Type} (call : I → α × I) (self : TrackedInput I) : α × TrackedInput I :=
  ((call self.input).1, { self with input := (call self.input).2 })

instance [DaemonReceiveInput I] : DaemonReceiveInput (TrackedInput I) where
  start self selection processGeneration streamGeneration :=
    let result := DaemonReceiveInput.start self.input selection processGeneration streamGeneration
    (result.1, { input := result.2, opened := self.opened || result.1.isOk })
  nextBatch := pass DaemonReceiveInput.nextBatch
  nextFault := pass DaemonReceiveInput.nextFault
  health := pass DaemonReceiveInput.health
  stop self :=
    let result := DaemonReceiveInput.stop self.input
    (result.1, { input := result.2, opened := false })

variable [DaemonReceiveInput I] (input : TrackedInput I)

@[simp] theorem nextBatch_opened : (DaemonReceiveInput.nextBatch input).2.opened = input.opened := rfl
@[simp] theorem nextFault_opened : (DaemonReceiveInput.nextFault input).2.opened = input.opened := rfl
@[simp] theorem health_opened : (DaemonReceiveInput.health input).2.opened = input.opened := rfl
@[simp] theorem stop_opened : (DaemonReceiveInput.stop input).2.opened = false := rfl

@[simp] theorem start_opened (selection : ReceiveSelection) (processGeneration : ProcessGeneration)
    (streamGeneration : StreamGeneration) :
    (DaemonReceiveInput.start input selection processGeneration streamGeneration).2.opened =
      (input.opened || (DaemonReceiveInput.start input selection processGeneration streamGeneration).1.isOk) := rfl

end TrackedInput

namespace ReceiveLifecycleState

def isStopped : ReceiveLifecycleState → Bool
  | .stopped .. => true
  | _ => false

def isReceiving : ReceiveLifecycleState → Bool
  | .receiving _ => true
  | _ => false

def isInhibited : ReceiveLifecycleState → Bool
  | .inhibited .. => true
  | _ => false

end ReceiveLifecycleState

namespace LiveReceiveCoordinator

variable {I D S : Type}

/-- Receiving, with an open input, a timeline and a clock. -/
structure Active (c : LiveReceiveCoordinator (TrackedInput I) D S) : Prop where
  policy : c.clockConfig.inBounds = true
  receiving : c.state.isReceiving = true
  opened : c.input.opened = true
  timeline : c.timeline.isSome = true
  clock : c.clock.isSome = true

/-- With a closed input and nothing else left. -/
structure Closed (c : LiveReceiveCoordinator (TrackedInput I) D S) : Prop where
  policy : c.clockConfig.inBounds = true
  opened : c.input.opened = false
  timeline : c.timeline = none
  clock : c.clock = none
  backlog : c.workerBatches = []

/-- Stopped or inhibited, and closed. -/
structure Idle (c : LiveReceiveCoordinator (TrackedInput I) D S) : Prop extends Closed c where
  state : c.state.isStopped = true ∨ c.state.isInhibited = true

def Coupled (c : LiveReceiveCoordinator (TrackedInput I) D S) : Prop := Active c ∨ Idle c

variable {c : LiveReceiveCoordinator (TrackedInput I) D S} {α : Type}

theorem Active.coupled (h : Active c) : Coupled c := .inl h
theorem Idle.coupled (h : Idle c) : Coupled c := .inr h

theorem new_coupled (input : I) (decoder : D) (store : S) {config : LiveReceiveCoordinatorConfig}
    (hpolicy : config.clock.inBounds = true) : Coupled (new ⟨input, false⟩ decoder store config) :=
  .inr ⟨⟨hpolicy, rfl, rfl, rfl, rfl⟩, .inl rfl⟩

/-! ## Updates of an active coordinator -/

theorem onInput_active {call : TrackedInput I → α × TrackedInput I} (h : ∀ input, (call input).2.opened = input.opened) :
    Leads Active Active (onInput call : Update (TrackedInput I) D S α) :=
  leads_modifyGet fun c hc => ⟨hc.policy, hc.receiving, (h c.input).trans hc.opened, hc.timeline, hc.clock⟩

theorem onDecoder_active (call : D → α × D) : Leads Active Active (onDecoder call : Update (TrackedInput I) D S α) :=
  leads_modifyGet fun _ hc => ⟨hc.policy, hc.receiving, hc.opened, hc.timeline, hc.clock⟩

theorem onStore_active (call : S → α × S) : Leads Active Active (onStore call : Update (TrackedInput I) D S α) :=
  leads_modifyGet fun _ hc => ⟨hc.policy, hc.receiving, hc.opened, hc.timeline, hc.clock⟩

theorem onClock_active (call : ReceiveClockMonitor → α × ReceiveClockMonitor) :
    Leads Active Active (onClock call : Update (TrackedInput I) D S α) := by
  refine (leads_get fun _ => id).bind (fun _ => id) fun self => ?_
  split
  · exact leads_throw (fun _ => id) _
  · refine (leads_modify fun c hc => ?_).bind (fun _ => id) fun _ => leads_pure (fun _ => id) _
    exact ⟨hc.policy, hc.receiving, hc.opened, hc.timeline, rfl⟩

theorem onTimeline_active (call : Ft8ReceiveTimeline → α × Ft8ReceiveTimeline) :
    Leads Active Active (onTimeline call : Update (TrackedInput I) D S α) := by
  refine (leads_get fun _ => id).bind (fun _ => id) fun self => ?_
  split
  · exact leads_throw (fun _ => id) _
  · refine (leads_modify fun c hc => ?_).bind (fun _ => id) fun _ => leads_pure (fun _ => id) _
    exact ⟨hc.policy, hc.receiving, hc.opened, rfl, hc.clock⟩

theorem onSpectrum_active (update : SpectrumModel.Update α) :
    Leads Active Active (onSpectrum update : Update (TrackedInput I) D S α) := by
  intro c hc
  unfold Ends onSpectrum
  cases c.spectrum with
  | none => exact hc
  | some spectrum =>
    dsimp only
    cases update spectrum with
    | ok a spectrum => exact ⟨hc.policy, hc.receiving, hc.opened, hc.timeline, hc.clock⟩
    | error error spectrum => exact ⟨hc.policy, hc.receiving, hc.opened, hc.timeline, hc.clock⟩

theorem waterfall_active (window : Ft8ReceiveWindow) :
    Leads Active Active (waterfall window : Update (TrackedInput I) D S _) := by
  refine (leads_get fun _ => id).bind (fun _ => id) fun self => ?_
  split
  · exact onSpectrum_active _
  · exact leads_pure (fun _ => id) _

theorem checkClock_active (observedAt : MonotonicInstant) :
    Leads Active Active (checkClock observedAt : Update (TrackedInput I) D S _) := by
  refine (onClock_active _).bind (fun _ => id) fun snapshot => ?_
  split <;> exact leads_pure (fun _ => id) _

theorem persist_active [DaemonReceiveStore S] (record : ReceiveRecord) (snapshot : Option WaterfallSnapshot) :
    Leads Active Active (persist record snapshot : Update (TrackedInput I) D S _) := by
  refine (onStore_active _).bind (fun _ => id) fun result => ?_
  split <;> exact leads_pure (fun _ => id) _

theorem processWindow_active [Ft8OfflineDecoder D] [DaemonReceiveStore S] (crates : ReceiveCrates)
    (window : Ft8ReceiveWindow) (alignment : ReceiveWindowAlignment) (audioHealth : InputHealth) (recordedUtcMillis : Int64) :
    Leads Active Active
      (processWindow crates window alignment audioHealth recordedUtcMillis : Update (TrackedInput I) D S _) := by
  refine (waterfall_active window).bind (fun _ => id) fun snapshot => ?_
  refine (leads_fromResult (fun _ => id) _).bind (fun _ => id) fun pcm => ?_
  refine (leads_get fun _ => id).bind (fun _ => id) fun self => ?_
  refine (onDecoder_active _).bind (fun _ => id) fun result => ?_
  split
  · exact leads_pure (fun _ => id) _
  · refine (leads_fromResult (fun _ => id) _).bind (fun _ => id) fun receiveWindowId => ?_
    refine (onTimeline_active _).bind (fun _ => id) fun timelineHealth => ?_
    split
    · exact leads_pure (fun _ => id) _
    · exact persist_active _ _

/-- What a call does while receiving; in every other state it fails where it began. -/
theorem onActive {next : StreamGeneration → Update (TrackedInput I) D S α} (hnext : ∀ g, Leads Active Coupled (next g)) :
    Leads Coupled Coupled (requireReceiving >>= next) := by
  intro c hc
  unfold requireReceiving
  rw [ends_bind, ends_bind, ends_get]
  split
  · rename_i g hstate
    refine hnext g c (hc.resolve_right fun hidle => ?_)
    have := hidle.state
    rw [hstate] at this
    rcases this with h | h <;> cases h
  · exact hc

theorem enableSpectrum_coupled (crates : ReceiveCrates) (config : SpectrumConfig) :
    Leads Coupled Coupled (enableSpectrum crates config : Update (TrackedInput I) D S _) := by
  refine (leads_fromResult (fun _ => id) _).bind (fun _ => id) fun spectrum => leads_modify fun c hc => ?_
  rcases hc with hc | hc
  · exact .inl ⟨hc.policy, hc.receiving, hc.opened, hc.timeline, hc.clock⟩
  · exact .inr ⟨⟨hc.policy, hc.opened, hc.timeline, hc.clock, hc.backlog⟩, hc.state⟩

/-- A transition to inhibited or stopped settles a closed coordinator. -/
theorem transition_idle {current : ReceiveLifecycleState} (h : current.isStopped = true ∨ current.isInhibited = true) :
    Leads Closed Idle (transition current : Update (TrackedInput I) D S _) :=
  leads_modifyGet fun _ hc => ⟨⟨hc.policy, hc.opened, hc.timeline, hc.clock, hc.backlog⟩, h⟩

section Calls

variable [DaemonReceiveInput I]

/-- A coordinator between calls. -/
structure Settled (c : LiveReceiveCoordinator (TrackedInput I) D S) : Prop where
  state : c.state.isStopped = true ∨ c.state.isReceiving = true ∨ c.state.isInhibited = true
  input : c.input.opened = c.state.isReceiving
  timeline : c.timeline.isSome = c.state.isReceiving
  clock : c.clock.isSome = c.state.isReceiving
  backlog : c.state.isReceiving = false → c.workerBatches = []
  stops : c.state.isStopped = false →
    ∀ reason, ∃ events stopped, stop reason c = .ok events stopped ∧ stopped.state.isStopped = true

/-- Inhibiting closes the input and drops the rest. -/
theorem inhibit_idle (reason : ReceiveInhibition) :
    Leads Active Idle (inhibit reason : Update (TrackedInput I) D S _) := by
  intro c hc
  obtain ⟨g, hg⟩ : ∃ g, c.state = .receiving g := by
    have := hc.receiving
    cases hstate : c.state with
    | receiving g => exact ⟨g, rfl⟩
    | stopped | starting | inhibited | stopping => rw [hstate] at this; cases this
  unfold inhibit
  rw [ends_bind, ends_get, hg]
  simp only [closeInput, transition, ends_bind, ends_modify]
  exact ⟨⟨hc.policy, rfl, rfl, rfl, rfl⟩, .inr rfl⟩

theorem orInhibit_coupled {check : Update (TrackedInput I) D S (Except ReceiveInhibition α)}
    {next : α → Update (TrackedInput I) D S (List ReceivePollEvent)} (hcheck : Leads Active Active check)
    (hnext : ∀ a, Leads Active Coupled (next a)) : Leads Active Coupled (orInhibit check next) := by
  refine hcheck.bind (fun _ => Active.coupled) fun result => ?_
  cases result with
  | ok a => exact hnext a
  | error reason =>
    intro c hc
    rw [ends_bind]
    exact ((inhibit_idle reason).imp fun _ => Idle.coupled) c hc

/-! ## One poll -/

theorem checkInput_active : Leads Active Active (checkInput : Update (TrackedInput I) D S _) := by
  refine (onInput_active TrackedInput.nextFault_opened).bind (fun _ => id) fun fault => ?_
  cases fault with
  | some fault => exact leads_pure (fun _ => id) _
  | none =>
    refine (onInput_active TrackedInput.health_opened).bind (fun _ => id) fun health => ?_
    cases health with
    | error error => exact leads_pure (fun _ => id) _
    | ok health =>
      dsimp only
      split <;> exact leads_pure (fun _ => id) _

theorem fillBacklog_active (room : Nat) : Leads Active Active (fillBacklog room : Update (TrackedInput I) D S _) := by
  induction room with
  | zero => exact leads_pure (fun _ => id) _
  | succ room ih =>
    refine (onInput_active TrackedInput.nextBatch_opened).bind (fun _ => id) fun result => ?_
    split
    · refine (leads_modify fun c hc => ?_).bind (fun _ => id) fun _ => ih
      exact ⟨hc.policy, hc.receiving, hc.opened, hc.timeline, hc.clock⟩
    · exact leads_pure (fun _ => id) _
    · exact leads_pure (fun _ => id) _

section Poll

variable [Ft8OfflineDecoder D] [DaemonReceiveStore S]

theorem processEvents_coupled (crates : ReceiveCrates) (audioHealth : InputHealth) (observedAt : MonotonicInstant)
    (recordedUtcMillis : Int64) (events : List ReceiveTimelineEvent) :
    Leads Active Coupled
      (processEvents crates audioHealth observedAt recordedUtcMillis events : Update (TrackedInput I) D S _) := by
  induction events with
  | nil => exact leads_pure (fun _ => Active.coupled) _
  | cons event events ih =>
    -- what follows the recursive call only changes the result
    have hrest {f : List ReceivePollEvent → List ReceivePollEvent} : Leads Active Coupled (do
        let results ← processEvents crates audioHealth observedAt recordedUtcMillis events
        pure (f results) : Update (TrackedInput I) D S _) := by
      intro c hc
      rw [ends_bind]
      exact ih c hc
    refine (onClock_active _).bind (fun _ => Active.coupled) fun gated => ?_
    split
    · exact hrest
    · exact orInhibit_coupled (leads_pure (fun _ => id) _) fun _ => leads_pure (fun _ => Active.coupled) _
    · exact orInhibit_coupled (processWindow_active _ _ _ _ _) fun _ => hrest

theorem processBatch_coupled (crates : ReceiveCrates) (batch : CaptureBatch) (audioHealth : InputHealth)
    (observedAt : MonotonicInstant) (recordedUtcMillis : Int64) :
    Leads Active Coupled
      (processBatch crates batch audioHealth observedAt recordedUtcMillis : Update (TrackedInput I) D S _) :=
  orInhibit_coupled ((onTimeline_active _).bind (fun _ => id) fun _ => leads_pure (fun _ => id) _)
    (processEvents_coupled crates audioHealth observedAt recordedUtcMillis)

theorem poll_coupled (crates : ReceiveCrates) (observedAt : MonotonicInstant) (recordedUtcMillis : Int64) :
    Leads Coupled Coupled (poll crates observedAt recordedUtcMillis : Update (TrackedInput I) D S _) := by
  refine onActive fun _ => ?_
  refine orInhibit_coupled checkInput_active fun audioHealth => ?_
  refine orInhibit_coupled (checkClock_active observedAt) fun _ => ?_
  refine (leads_get fun _ => id).bind (fun _ => Active.coupled) fun self => ?_
  refine orInhibit_coupled (fillBacklog_active _) fun _ => ?_
  refine (leads_get fun _ => id).bind (fun _ => Active.coupled) fun self => ?_
  split
  · exact leads_pure (fun _ => Active.coupled) _
  · refine (leads_modify fun c hc => ?_).bind (fun _ => Active.coupled) fun _ =>
      processBatch_coupled crates _ audioHealth observedAt recordedUtcMillis
    exact ⟨hc.policy, hc.receiving, hc.opened, hc.timeline, hc.clock⟩

end Poll

/-! ## The other calls -/

theorem observeClock_coupled (observation : GenerationClockSample) (observedAt : MonotonicInstant) :
    Leads Coupled Coupled (observeClock observation observedAt : Update (TrackedInput I) D S _) := by
  refine onActive fun _ => ?_
  refine (onClock_active _).bind (fun _ => Active.coupled) fun transition => ?_
  split
  · intro c hc
    rw [ends_bind]
    exact ((inhibit_idle _).imp fun _ => Idle.coupled) c hc
  · exact leads_pure (fun _ => Active.coupled) _

/-- A clock within bounds makes a monitor, so opening the input ends receiving or idle. -/
theorem openInput_coupled (initialClock : GenerationClockSample) (g : StreamGeneration) :
    Leads Closed Coupled (openInput initialClock g : Update (TrackedInput I) D S _) := by
  intro c hc
  have hinhibited (reason : ReceiveInhibition) {t} (ht : Closed t) :
      Ends (transition (.inhibited g reason) : Update (TrackedInput I) D S _) t (fun _ => Coupled) (fun _ => Coupled) :=
    ((transition_idle (.inr rfl)).imp fun _ => Idle.coupled) t ht
  unfold openInput
  rw [ends_bind, ends_get]
  split
  · exact hinhibited _ hc
  · rw [ends_bind, onInput, ends_modifyGet]
    generalize hresult : DaemonReceiveInput.start c.input c.selection c.processGeneration g = result
    have hopened : result.2.opened = result.1.isOk := by
      rw [← hresult, TrackedInput.start_opened, hc.opened, Bool.false_or]
    obtain ⟨result, input⟩ := result
    cases result with
    | error error => exact hinhibited _ ⟨hc.policy, hopened, hc.timeline, hc.clock, hc.backlog⟩
    | ok _ =>
      rw [ReceiveClockMonitor.new_of_inBounds hc.policy]
      exact .inl ⟨hc.policy, rfl, hopened, rfl, rfl⟩

/-- A clock out of bounds fails after the input was opened, and nothing closes it. -/
theorem openInput_fails (initialClock : GenerationClockSample) (g : StreamGeneration)
    (hpolicy : c.clockConfig.inBounds = false) (hgeneration : initialClock.generation.value = c.processGeneration.value)
    (hopen : (DaemonReceiveInput.start c.input c.selection c.processGeneration g).1 = .ok ()) :
    Ends (openInput initialClock g) c (fun _ _ => False)
      (fun e t => e = .clock .invalidConfiguration ∧ t.state = c.state ∧ t.input.opened = true) := by
  unfold openInput
  rw [ends_bind, ends_get, if_neg (not_not.mpr hgeneration), ends_bind, onInput, ends_modifyGet, hopen,
    ReceiveClockMonitor.new_of_not_inBounds hpolicy]
  refine ⟨rfl, rfl, ?_⟩
  show (DaemonReceiveInput.start c.input c.selection c.processGeneration g).2.opened = true
  rw [TrackedInput.start_opened, hopen, Except.isOk, Except.toBool, Bool.or_true]

theorem start_coupled (initialClock : GenerationClockSample) :
    Leads Coupled Coupled (start initialClock : Update (TrackedInput I) D S _) := by
  intro c hc
  unfold start
  rw [ends_bind, ends_get]
  split
  · rename_i hstate
    have hidle : Idle c := hc.resolve_left fun hactive => by
      have := hactive.receiving
      rw [hstate] at this
      cases this
    refine ((leads_orThrow (fun _ => id) _ _).bind (fun _ => Idle.coupled) fun next => ?_) c hidle
    refine (leads_fromResult (fun _ => id) _).bind (fun _ => Idle.coupled) fun streamGeneration => ?_
    intro c hc
    rw [ends_bind, ends_modify, ends_bind, transition, ends_modifyGet, ends_bind]
    exact openInput_coupled initialClock streamGeneration _ ⟨hc.policy, hc.opened, hc.timeline, hc.clock, hc.backlog⟩
  · exact hc

/-- Stopping a receiving or inhibited coordinator succeeds. -/
theorem stop_stopped (hpolicy : c.clockConfig.inBounds = true)
    (hstate : c.state.isReceiving = true ∨ c.state.isInhibited = true) (reason : ReceiveStopReason) :
    Ends (stop reason) c (fun _ t => Idle t ∧ t.state.isStopped = true) (fun _ _ => False) := by
  unfold stop
  rw [ends_bind, ends_get]
  split
  · simp only [closeInput, transition, ends_bind, ends_modify]
    exact ⟨⟨⟨hpolicy, rfl, rfl, rfl, rfl⟩, .inl rfl⟩, rfl⟩
  · simp only [closeInput, transition, ends_bind, ends_modify]
    exact ⟨⟨⟨hpolicy, rfl, rfl, rfl, rfl⟩, .inl rfl⟩, rfl⟩
  · rename_i hreceiving hinhibited
    cases hc : c.state with
    | receiving g => exact hreceiving g hc
    | inhibited g reason => exact hinhibited g reason hc
    | stopped | starting | stopping =>
      rw [hc] at hstate
      rcases hstate with h | h <;> cases h

theorem stop_coupled (reason : ReceiveStopReason) :
    Leads Coupled Coupled (stop reason : Update (TrackedInput I) D S _) := by
  intro c hc
  have hstopped (hpolicy : c.clockConfig.inBounds = true)
      (hstate : c.state.isReceiving = true ∨ c.state.isInhibited = true) :
      Ends (stop reason) c (fun _ => Coupled) (fun _ => Coupled) :=
    (stop_stopped hpolicy hstate reason).imp (fun _ _ h => h.1.coupled) (fun _ _ h => h.elim)
  rcases hc with hc | hc
  · exact hstopped hc.policy (.inl hc.receiving)
  · rcases hc.state with hstate | hstate
    · cases hs : c.state with
      | stopped g last =>
        unfold stop
        rw [ends_bind, ends_get, hs]
        exact hc.coupled
      | starting | receiving | inhibited | stopping =>
        rw [hs] at hstate
        cases hstate
    · exact hstopped hc.policy (.inr hstate)

/-- A coupled coordinator is settled. -/
theorem Coupled.settled (hc : Coupled c) : Settled c := by
  have hstops (hpolicy : c.clockConfig.inBounds = true)
      (hstate : c.state.isReceiving = true ∨ c.state.isInhibited = true) (reason : ReceiveStopReason) :
      ∃ events stopped, stop reason c = .ok events stopped ∧ stopped.state.isStopped = true := by
    obtain ⟨events, stopped, hrun, -, hstopped⟩ := (stop_stopped hpolicy hstate reason).exists_ok
    exact ⟨events, stopped, hrun, hstopped⟩
  rcases hc with hc | hc
  · refine ⟨.inr (.inl hc.receiving), ?_, ?_, ?_, fun h => ?_, fun _ => hstops hc.policy (.inl hc.receiving)⟩
    · rw [hc.opened, hc.receiving]
    · rw [hc.timeline, hc.receiving]
    · rw [hc.clock, hc.receiving]
    · rw [hc.receiving] at h
      cases h
  · have hnot : c.state.isReceiving = false := by
      cases hs : c.state with
      | receiving g =>
        have := hc.state
        rw [hs] at this
        rcases this with h | h <;> cases h
      | stopped | starting | inhibited | stopping => rfl
    refine ⟨hc.state.imp id .inr, ?_, ?_, ?_, fun _ => hc.backlog, fun h => ?_⟩
    · rw [hc.opened, hnot]
    · rw [hc.timeline, hnot]
      rfl
    · rw [hc.clock, hnot]
      rfl
    · refine hstops hc.policy (.inr (hc.state.resolve_left fun hs => ?_))
      rw [hs] at h
      cases h

section Runs

variable [Ft8OfflineDecoder D] [DaemonReceiveStore S]

theorem step_coupled (crates : ReceiveCrates) (hc : Coupled c) (input : Call) : Coupled (step crates c input).2 := by
  refine ends_final.mp ?_
  cases input with
  | start initialClock => exact (start_coupled initialClock).map _ c hc
  | observeClock observation observedAt => exact (observeClock_coupled observation observedAt).map _ c hc
  | poll observedAt recordedUtcMillis => exact (poll_coupled crates observedAt recordedUtcMillis).map _ c hc
  | stop reason => exact (stop_coupled reason).map _ c hc
  | enableSpectrum config => exact (enableSpectrum_coupled crates config).map _ c hc

end Runs

end Calls

/-! ## Runs -/

/-- After every run of a configuration, with any input, decoder and store, the coordinator is settled. -/
def AlwaysSettled (crates : ReceiveCrates) (config : LiveReceiveCoordinatorConfig) : Prop :=
  ∀ (I D S : Type) [DaemonReceiveInput I] [Ft8OfflineDecoder D] [DaemonReceiveStore S] (input : I) (decoder : D)
    (store : S) (calls : List Call),
    Settled (final (step crates) (new ⟨input, false⟩ decoder store config) calls)

theorem alwaysSettled_of_inBounds (crates : ReceiveCrates) {config : LiveReceiveCoordinatorConfig}
    (h : config.clock.inBounds = true) : AlwaysSettled crates config := by
  intro I D S _ _ _ input decoder store calls
  have hrun : Coupled (final (step crates) (new ⟨input, false⟩ decoder store config) calls) :=
    final_inv_all (I := Coupled) (fun _ call hc => step_coupled crates hc call) (new_coupled input decoder store h) calls
  exact hrun.settled

/-- An input that opens and delivers nothing, a decoder that finds nothing and a store that takes everything. -/
structure Quiet where

instance : DaemonReceiveInput Quiet where
  start self _ _ _ := (.ok (), self)
  nextBatch self := (.ok none, self)
  nextFault self := (none, self)
  health self := (.ok ⟨10, 0, 0, 0, 5⟩, self)
  stop self := (.ok (), self)

instance : Ft8OfflineDecoder Quiet where
  decode self _ _ := (.ok [], self)

instance : DaemonReceiveStore Quiet where
  recordReceive self _ := (.ok (.inserted 1), self)

/-- A coordinator of these. -/
def quiet (config : LiveReceiveCoordinatorConfig) : LiveReceiveCoordinator (TrackedInput Quiet) Quiet Quiet :=
  new ⟨⟨⟩, false⟩ ⟨⟩ ⟨⟩ config

/-- A sample of the coordinator's own process generation. -/
def ownSample (config : LiveReceiveCoordinatorConfig) : GenerationClockSample where
  generation := ⟨config.processGeneration.value, config.processGeneration.nonzero⟩
  sample := { utc := ⟨0, UtcInstant.epoch_nonneg⟩, monotonic := ⟨0⟩ }

/-- The first start of the quiet coordinator stays starting when its clock is out of bounds. -/
theorem start_quiet {config : LiveReceiveCoordinatorConfig} (h : config.clock.inBounds = false) :
    Ends (start (ownSample config)) (quiet config) (fun _ _ => False)
      (fun e t => e = .clock .invalidConfiguration ∧ t.state = .starting ⟨1, by decide⟩ ∧ t.input.opened = true) := by
  have hopen := openInput_fails (ownSample config) ⟨1, by decide⟩
    (c := { quiet config with lastStreamGeneration := 1, state := .starting ⟨1, by decide⟩ }) h rfl rfl
  show Ends (openInput (ownSample config) ⟨1, by decide⟩ >>= _) _ _ _
  rw [ends_bind]
  exact hopen.imp (fun _ _ hfalse => hfalse) (fun _ _ herror => herror)

theorem inBounds_of_alwaysSettled {crates : ReceiveCrates} {config : LiveReceiveCoordinatorConfig}
    (h : AlwaysSettled crates config) : config.clock.inBounds = true := by
  by_contra hno
  have hsettled : Settled (step crates (quiet config) (.start (ownSample config))).2 :=
    h Quiet Quiet Quiet ⟨⟩ ⟨⟩ ⟨⟩ [.start (ownSample config)]
  have hstate : (step crates (quiet config) (.start (ownSample config))).2.state = .starting ⟨1, by decide⟩ := by
    have hends : Ends (call crates (.start (ownSample config))) (quiet config)
        (fun _ t => t.state = .starting ⟨1, by decide⟩) (fun _ t => t.state = .starting ⟨1, by decide⟩) := by
      rw [call, map_eq_pure_bind, ends_bind]
      exact (start_quiet (Bool.eq_false_iff.mpr hno)).imp (fun _ _ hfalse => hfalse.elim) fun _ _ herror => herror.2.1
    exact ends_final.mp hends
  have hcases := hsettled.state
  rw [hstate] at hcases
  rcases hcases with hcase | hcase | hcase <;> cases hcase

/-- **The coordinator is settled after every call** exactly when its clock configuration is within bounds. -/
theorem settled_iff (crates : ReceiveCrates) (config : LiveReceiveCoordinatorConfig) :
    AlwaysSettled crates config ↔ config.clock.inBounds = true :=
  ⟨inBounds_of_alwaysSettled, alwaysSettled_of_inBounds crates⟩

/-- A configuration with the default clock but for one recovery sample, which is out of bounds. -/
def oneRecoverySample : LiveReceiveCoordinatorConfig where
  serviceInstanceId := ⟨"svc_phase2001", by decide⟩
  processGeneration := ⟨7, by decide⟩
  selection :=
    { deviceIdentity := ⟨.macOsCoreAudio, "stable-input-1", by decide⟩
      configuration := monoConfiguration }
  decode := ⟨⟨600, by decide⟩, ⟨1800, by decide⟩, 1000, .normal, 20, by decide, by decide, by decide⟩
  clock := { ReceiveClockConfig.default with recoverySamples := 1 }

/-- Its first start leaves it starting with an open input. -/
theorem settled_fails : ¬∀ (crates : ReceiveCrates) (config : LiveReceiveCoordinatorConfig), AlwaysSettled crates config := by
  intro hall
  have hin := inBounds_of_alwaysSettled (hall ⟨id, fun _ => ⟨0, fun _ _ => 0⟩⟩ oneRecoverySample)
  exact absurd hin (by decide)

end LiveReceiveCoordinator

end Slotpilot.Daemon
