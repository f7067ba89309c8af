import Slotpilot.Operations.RigPort
import Slotpilot.Operations.VirtualClock

/-!
# The scripted rig

The deterministic rig port: it answers from a bounded script and judges freshness by a clock that its user moves.

* `fakeReadOnlyRig_implements`: the scripted rig implements the contract of the read-only rig port;
* `rig_observation_backed`: every observation of a run is backed by a connection and a probe of that run;
* `rig_script_delivered`: the script is delivered in order, without loss of order, repetition or invention, and in bounds;
* `read_fresh_exact`: which observations pass as fresh after the clock was moved.
-/

set_option autoImplicit false

namespace Slotpilot.Testkit

open Domain Lib Operations

/-- Maximum scripted calls retained by one deterministic rig fake. -/
def maxFakeRigSteps : Nat := 64

/-- Failure scripting the bounded deterministic rig fake. -/
inductive FakeRigScriptError
  | scriptFull
  deriving DecidableEq

/-- One scripted result. -/
inductive FakeRigStep
  | connect (result : Except RigFault RigConnectionGeneration)
  | probe (result : Except RigFault RigCapabilityReport)
  | read (result : Except RigFault RigObservation)

/-- Deterministic in-memory read-only rig port with injected time. -/
structure FakeReadOnlyRig where
  clock : VirtualClock
  lifecycle : RigLifecycleState
  profileRevisionId : Option ProfileRevisionId
  steps : List FakeRigStep

namespace FakeReadOnlyRig

/-- A disconnected fake driven by the supplied virtual clock. -/
def new (clock : VirtualClock) : FakeReadOnlyRig :=
  { clock, lifecycle := .disconnected, profileRevisionId := none, steps := [] }

def push (self : FakeReadOnlyRig) (step : FakeRigStep) : Except FakeRigScriptError Unit × FakeReadOnlyRig :=
  if self.steps.length = maxFakeRigSteps then (.error .scriptFull, self)
  else (.ok (), { self with steps := self.steps ++ [step] })

/-- The number of unconsumed script steps. -/
def remainingSteps (self : FakeReadOnlyRig) : Nat := self.steps.length

def currentGeneration (self : FakeReadOnlyRig) : Option RigConnectionGeneration :=
  match self.lifecycle with
  | .connected generation => some generation
  | .probing generation => some generation
  | .ready generation => some generation
  | .faulted generation _ => generation
  | .disconnected => none
  | .connecting => none

def fail (self : FakeReadOnlyRig) (fault : RigFault) : FakeReadOnlyRig :=
  { self with lifecycle := .faulted self.currentGeneration fault.kind }

/-- Fails with a fault and reports it. -/
def failWith {α : Type} (self : FakeReadOnlyRig) (fault : RigFault) : Except RigFault α × FakeReadOnlyRig :=
  (.error fault, self.fail fault)

/-- The rig without its next step, if there is one. -/
def popped (self : FakeReadOnlyRig) : FakeReadOnlyRig := { self with steps := self.steps.tail }

def connect (self : FakeReadOnlyRig) (profile : RigProfile) :
    Except RigFault RigConnectionGeneration × FakeReadOnlyRig :=
  let connecting := { self with lifecycle := .connecting }.popped
  match self.steps.head? with
  | some (.connect (.ok generation)) =>
    (.ok generation,
      { connecting with profileRevisionId := some profile.revisionId, lifecycle := .connected generation })
  | some (.connect (.error fault)) => connecting.failWith fault
  | _ => connecting.failWith .malformedResponse

def probe (self : FakeReadOnlyRig) : Except RigFault RigCapabilityReport × FakeReadOnlyRig :=
  match self.currentGeneration with
  | none => (.error .notConnected, self)
  | some generation =>
    if self.lifecycle ≠ .connected generation then (.error .notConnected, self)
    else
      let probing := { self with lifecycle := .probing generation }.popped
      match self.steps.head? with
      | some (.probe (.ok report)) =>
        if report.generation = generation then (.ok report, { probing with lifecycle := .ready generation })
        else probing.failWith (.generationChanged generation report.generation)
      | some (.probe (.error fault)) => probing.failWith fault
      | _ => probing.failWith .malformedResponse

def read (self : FakeReadOnlyRig) : Except RigFault RigObservation × FakeReadOnlyRig :=
  match self.lifecycle with
  | .ready generation =>
    match self.steps.head? with
    | some (.read (.ok observation)) =>
      if observation.provenance.connectionGeneration = generation ∧
          self.profileRevisionId = some observation.profileRevisionId then
        (.ok observation, self.popped)
      else if observation.provenance.connectionGeneration ≠ generation then
        self.popped.failWith (.generationChanged generation observation.provenance.connectionGeneration)
      else self.popped.failWith (.contradictoryReadback .profileRevision)
    | some (.read (.error fault)) => self.popped.failWith fault
    | _ => self.popped.failWith .malformedResponse
  | _ => (.error (if self.currentGeneration.isSome then .notProbed else .notConnected), self)

/-- Reads once and checks freshness against the injected virtual clock. -/
def readFresh (self : FakeReadOnlyRig) (policy : RigFreshnessPolicy) :
    Except RigFault (RigObservation × RigObservationAge) × FakeReadOnlyRig :=
  match self.read with
  | (.error fault, next) => (.error fault, next)
  | (.ok observation, next) =>
    match observation.freshAt next.clock.state policy with
    | .ok age => (.ok (observation, age), next)
    | .error fault => next.failWith fault

end FakeReadOnlyRig

/-! ## Runs -/

/-- A call of the rig, or of the clock that it shares with its user. -/
inductive RigCall
  | queue (step : FakeRigStep)
  | connect (profile : RigProfile)
  | probe
  | read
  | readFresh (policy : RigFreshnessPolicy)
  | clock (call : VirtualCall)

/-- The result of a call. -/
inductive RigReply
  | queued (result : Except FakeRigScriptError Unit)
  | connected (result : Except RigFault RigConnectionGeneration)
  | probed (result : Except RigFault RigCapabilityReport)
  | observed (result : Except RigFault RigObservation)
  | fresh (result : Except RigFault (RigObservation × RigObservationAge))
  | ticked (result : Except SlotTimeError Unit)

namespace FakeReadOnlyRig

/-- One call. -/
def step (self : FakeReadOnlyRig) : RigCall → RigReply × FakeReadOnlyRig
  | .queue step => (.queued (self.push step).1, (self.push step).2)
  | .connect profile => (.connected (self.connect profile).1, (self.connect profile).2)
  | .probe => (.probed self.probe.1, self.probe.2)
  | .read => (.observed self.read.1, self.read.2)
  | .readFresh policy => (.fresh (self.readFresh policy).1, (self.readFresh policy).2)
  | .clock call => (.ticked (self.clock.step call).1, { self with clock := (self.clock.step call).2 })

/-- The event of a call at the port; queued results and the clock are no part of it. -/
def portEvent : RigCall → RigReply → Option RigPortEvent
  | .connect profile, .connected result => some (.connect profile result)
  | .probe, .probed result => some (.probe result)
  | .read, .observed result => some (.read result)
  | .readFresh _, .fresh result => some (.read (result.map Prod.fst))
  | _, _ => none

/-- The session that a rig is in. -/
def session (self : FakeReadOnlyRig) : RigSession :=
  match self.lifecycle, self.profileRevisionId with
  | .connected generation, some revision => .connected generation revision
  | .ready generation, some revision => .probed generation revision
  | _, _ => .unbound

/-- Between calls no operation is in progress, and a connected rig knows its profile. -/
def Settled (self : FakeReadOnlyRig) : Prop :=
  match self.lifecycle with
  | .disconnected => True
  | .faulted _ _ => True
  | .connected _ => self.profileRevisionId.isSome = true
  | .ready _ => self.profileRevisionId.isSome = true
  | .connecting => False
  | .probing _ => False

/-! ## One call -/

section Calls

variable {self : FakeReadOnlyRig}

@[simp] theorem settled_fail (fault : RigFault) : (self.fail fault).Settled := trivial

@[simp] theorem session_fail (fault : RigFault) : (self.fail fault).session = .unbound := rfl

@[simp] theorem settled_push (step : FakeRigStep) : (self.push step).2.Settled ↔ self.Settled := by
  unfold push
  split <;> exact Iff.rfl

@[simp] theorem session_push (step : FakeRigStep) : (self.push step).2.session = self.session := by
  unfold push
  split <;> rfl

/-- A connection succeeds with a scripted generation for this profile, or fails. -/
theorem connect_cases (self : FakeReadOnlyRig) (profile : RigProfile) :
    (∃ generation, (self.connect profile).1 = .ok generation ∧
      self.steps.head? = some (.connect (.ok generation)) ∧
      (self.connect profile).2.lifecycle = .connected generation ∧
      (self.connect profile).2.profileRevisionId = some profile.revisionId) ∨
    ∃ fault, (self.connect profile).1 = .error fault ∧
      ∃ connecting : FakeReadOnlyRig, (self.connect profile).2 = connecting.fail fault := by
  unfold connect
  dsimp only
  split
  · rename_i generation hstep
    exact .inl ⟨generation, rfl, hstep, rfl, rfl⟩
  · rename_i fault _
    exact .inr ⟨fault, rfl, _, rfl⟩
  · exact .inr ⟨_, rfl, _, rfl⟩

/-- A probe of a connected rig succeeds with a scripted report of this generation, or fails. -/
theorem probe_connected {generation : RigConnectionGeneration} (h : self.lifecycle = .connected generation) :
    (∃ report, self.probe.1 = .ok report ∧ self.steps.head? = some (.probe (.ok report)) ∧
      report.generation = generation ∧ self.probe.2.lifecycle = .ready generation ∧
      self.probe.2.profileRevisionId = self.profileRevisionId) ∨
    ∃ fault, self.probe.1 = .error fault ∧ ∃ probing : FakeReadOnlyRig, self.probe.2 = probing.fail fault := by
  have hgeneration : self.currentGeneration = some generation := by
    unfold currentGeneration
    rw [h]
  unfold probe
  rw [hgeneration]
  dsimp only
  rw [if_neg (not_not.mpr h)]
  split
  · rename_i report hstep
    split
    · rename_i hsame
      exact .inl ⟨report, rfl, hstep, hsame, rfl, rfl⟩
    · exact .inr ⟨_, rfl, _, rfl⟩
  · exact .inr ⟨_, rfl, _, rfl⟩
  · exact .inr ⟨_, rfl, _, rfl⟩

/-- No other rig is probed. -/
theorem probe_refused (h : ∀ generation, self.lifecycle ≠ .connected generation) :
    self.probe = (.error .notConnected, self) := by
  unfold probe
  split
  · rfl
  · rw [if_pos (h _)]

/-- A read of a ready rig succeeds with a scripted observation of this session, or fails. -/
theorem read_ready {generation : RigConnectionGeneration} (h : self.lifecycle = .ready generation) :
    (∃ observation, self.read.1 = .ok observation ∧ self.steps.head? = some (.read (.ok observation)) ∧
      observation.provenance.connectionGeneration = generation ∧
      self.profileRevisionId = some observation.profileRevisionId ∧ self.read.2 = self.popped) ∨
    ∃ fault, self.read.1 = .error fault ∧ self.read.2 = self.popped.fail fault := by
  unfold read
  rw [h]
  dsimp only
  split
  · rename_i observation hstep
    split
    · rename_i hsame
      exact .inl ⟨observation, rfl, hstep, hsame.1, hsame.2, rfl⟩
    · split <;> exact .inr ⟨_, rfl, rfl⟩
  · exact .inr ⟨_, rfl, rfl⟩
  · exact .inr ⟨_, rfl, rfl⟩

/-- No other rig is read. -/
theorem read_refused (h : ∀ generation, self.lifecycle ≠ .ready generation) :
    self.read = (.error (if self.currentGeneration.isSome then .notProbed else .notConnected), self) := by
  unfold read
  split
  · rename_i generation hready
    exact absurd hready (h generation)
  · rfl

/-- A fresh read is a read whose observation also passes the clock; a stale one ends the session. -/
theorem readFresh_cases (self : FakeReadOnlyRig) (policy : RigFreshnessPolicy) :
    (∃ fault, self.read.1 = .error fault ∧ self.readFresh policy = (.error fault, self.read.2)) ∨
    (∃ observation age, self.read.1 = .ok observation ∧
      observation.freshAt self.read.2.clock.state policy = .ok age ∧
      self.readFresh policy = (.ok (observation, age), self.read.2)) ∨
    ∃ observation fault, self.read.1 = .ok observation ∧
      observation.freshAt self.read.2.clock.state policy = .error fault ∧
      self.readFresh policy = (.error fault, self.read.2.fail fault) := by
  unfold readFresh
  cases hread : self.read with
  | mk result next =>
    cases result with
    | error fault => exact .inl ⟨fault, rfl, rfl⟩
    | ok observation =>
      dsimp only
      cases hfresh : observation.freshAt next.clock.state policy with
      | ok age => exact .inr (.inl ⟨observation, age, rfl, hfresh, rfl⟩)
      | error fault => exact .inr (.inr ⟨observation, fault, rfl, hfresh, rfl⟩)

/-- What a call of the rig has to keep, with the event that it shows. -/
def Keeps (self next : FakeReadOnlyRig) (event : RigPortEvent) : Prop :=
  next.Settled ∧ self.session.Admits event ∧ next.session = self.session.observe event

theorem keeps_connect (profile : RigProfile) :
    Keeps self (self.connect profile).2 (.connect profile (self.connect profile).1) := by
  rcases self.connect_cases profile with ⟨generation, hresult, -, hlifecycle, hrevision⟩ | ⟨fault, hresult, _, hnext⟩
  · rw [hresult]
    refine ⟨?_, trivial, ?_⟩
    · unfold Settled
      rw [hlifecycle, hrevision]
      rfl
    · unfold session
      rw [hlifecycle, hrevision]
      rfl
  · rw [hresult, hnext]
    exact ⟨trivial, trivial, rfl⟩

theorem keeps_probe (h : self.Settled) : Keeps self self.probe.2 (.probe self.probe.1) := by
  obtain ⟨clock, lifecycle, revision, steps⟩ := self
  cases lifecycle with
  | connected generation =>
    cases revision with
    | none => cases h
    | some revision =>
      rcases @probe_connected ⟨clock, .connected generation, some revision, steps⟩ _ rfl with
        ⟨report, hresult, -, hsame, hlifecycle, hrevision⟩ | ⟨fault, hresult, _, hnext⟩
      · rw [hresult]
        refine ⟨?_, hsame, ?_⟩
        · unfold Settled
          rw [hlifecycle, hrevision]
          rfl
        · unfold session
          rw [hlifecycle, hrevision]
          rfl
      · rw [hresult, hnext]
        exact ⟨trivial, trivial, rfl⟩
  | ready generation =>
    rw [probe_refused (by simp)]
    cases revision with
    | none => cases h
    | some revision => exact ⟨rfl, rfl, rfl⟩
  | disconnected =>
    rw [probe_refused (by simp)]
    exact ⟨trivial, rfl, rfl⟩
  | faulted generation fault =>
    rw [probe_refused (by simp)]
    exact ⟨trivial, rfl, rfl⟩
  | connecting => cases h
  | probing generation => cases h

theorem keeps_read (h : self.Settled) : Keeps self self.read.2 (.read self.read.1) := by
  obtain ⟨clock, lifecycle, revision, steps⟩ := self
  cases lifecycle with
  | ready generation =>
    cases revision with
    | none => cases h
    | some revision =>
      rcases @read_ready ⟨clock, .ready generation, some revision, steps⟩ _ rfl with
        ⟨observation, hresult, -, hsame, hrevision, hnext⟩ | ⟨fault, hresult, hnext⟩
      · rw [hresult, hnext]
        exact ⟨rfl, ⟨hsame, (Option.some.inj hrevision).symm⟩, rfl⟩
      · rw [hresult, hnext]
        exact ⟨trivial, trivial, rfl⟩
  | connected generation =>
    rw [read_refused (by simp)]
    cases revision with
    | none => cases h
    | some revision => exact ⟨rfl, rfl, rfl⟩
  | disconnected =>
    rw [read_refused (by simp)]
    exact ⟨trivial, .inl rfl, rfl⟩
  | faulted generation fault =>
    rw [read_refused (by simp)]
    refine ⟨trivial, ?_, rfl⟩
    cases generation with
    | none => exact .inl rfl
    | some generation => exact .inr rfl
  | connecting => cases h
  | probing generation => cases h

/-- A stale observation is a failed read. -/
theorem keeps_readFresh (policy : RigFreshnessPolicy) (h : self.Settled) :
    Keeps self (self.readFresh policy).2 (.read ((self.readFresh policy).1.map Prod.fst)) := by
  have hread := keeps_read h
  rcases self.readFresh_cases policy with ⟨fault, hresult, heq⟩ | ⟨observation, age, hresult, -, heq⟩ |
    ⟨observation, fault, hresult, -, heq⟩
  · rw [heq]
    rw [hresult] at hread
    exact hread
  · rw [heq]
    rw [hresult] at hread
    exact hread
  · rw [heq]
    rw [hresult] at hread
    obtain ⟨-, hadmits, -⟩ := hread
    refine ⟨trivial, ?_, ?_⟩
    · -- A session that allows an observation allows a fault in its place.
      cases hsession : self.session with
      | unbound =>
        rw [hsession] at hadmits
        rcases hadmits with hfalse | hfalse <;> cases hfalse
      | connected generation revision =>
        rw [hsession] at hadmits
        cases hadmits
      | probed generation revision => exact trivial
    · cases hsession : self.session with
      | unbound => rfl
      | connected generation revision =>
        rw [hsession] at hadmits
        cases hadmits
      | probed generation revision => rfl

end Calls

/-- The scripted rig implements the contract of the read-only rig port. -/
theorem fakeReadOnlyRig_implements : readOnlyRigPort.Implements session Settled step portEvent := by
  intro self call h
  cases call with
  | queue script =>
    refine ⟨?_, ?_⟩
    · exact (settled_push script).mpr h
    · exact session_push script
  | connect profile =>
    exact @keeps_connect self profile
  | probe =>
    exact keeps_probe h
  | read =>
    exact keeps_read h
  | readFresh policy =>
    exact keeps_readFresh policy h
  | clock call => exact ⟨h, rfl⟩

/-! ## Whole runs -/

/-- The events of a run at the port. -/
def portEvents (clock : VirtualClock) (calls : List RigCall) : List RigPortEvent :=
  PortContract.events step portEvent (new clock) calls

/-- **Observations are backed by their connection.** In every run of the scripted rig, whatever was queued and however
the clock was moved, the calls and results follow the contract of the port; so each observation that is returned, fresh or
not, has the profile and the generation of the last connection, which was probed, and no read has failed since. -/
theorem rig_observation_backed (clock : VirtualClock) (calls : List RigCall) :
    readOnlyRigPort.Follows .unbound (portEvents clock calls) ∧
    ∀ earlier observation later, portEvents clock calls = earlier ++ .read (.ok observation) :: later →
      Backed earlier observation := by
  have hfollows : readOnlyRigPort.Follows .unbound (portEvents clock calls) :=
    (fakeReadOnlyRig_implements.run (s := new clock) trivial calls).1
  refine ⟨hfollows, fun earlier observation later hevents => ?_⟩
  rw [hevents] at hfollows
  exact backed_of_follows hfollows

/-! ## The script -/

/-- The evidence that a result hands out. -/
def delivery : RigCall × RigReply → List FakeRigStep
  | (.connect _, .connected (.ok generation)) => [.connect (.ok generation)]
  | (.probe, .probed (.ok report)) => [.probe (.ok report)]
  | (.read, .observed (.ok observation)) => [.read (.ok observation)]
  | (.readFresh _, .fresh (.ok (observation, _))) => [.read (.ok observation)]
  | _ => []

/-- The step that a call has put into the script. -/
def queueing : RigCall × RigReply → List FakeRigStep
  | (.queue script, .queued (.ok ())) => [script]
  | _ => []

section Script

variable {self : FakeReadOnlyRig}

@[simp] theorem steps_fail (fault : RigFault) : (self.fail fault).steps = self.steps := rfl

@[simp] theorem steps_popped : self.popped.steps = self.steps.tail := rfl

/-- A call leaves the script, or takes its first step, and hands out no more than that step. -/
def Takes (self next : FakeReadOnlyRig) (delivered : List FakeRigStep) : Prop :=
  next.steps <:+ self.steps ∧ (delivered ++ next.steps).Sublist self.steps

theorem takes_none {next : FakeReadOnlyRig} (h : next.steps <:+ self.steps) : Takes self next [] :=
  ⟨h, h.sublist⟩

theorem takes_head {next : FakeReadOnlyRig} {script : FakeRigStep} (hhead : self.steps.head? = some script)
    (hnext : next.steps = self.steps.tail) : Takes self next [script] := by
  obtain ⟨steps, hsteps⟩ := List.head?_eq_some_iff.mp hhead
  rw [hsteps] at hnext
  refine ⟨?_, ?_⟩
  · rw [hnext, hsteps]
    exact List.suffix_cons _ _
  · rw [hnext, hsteps]
    exact List.Sublist.refl _

theorem takes_connect (profile : RigProfile) :
    Takes self (self.connect profile).2 (delivery (.connect profile, .connected (self.connect profile).1)) := by
  unfold connect
  dsimp only
  split
  · rename_i generation hhead
    exact takes_head hhead rfl
  · exact takes_none (List.tail_suffix _)
  · exact takes_none (List.tail_suffix _)

theorem takes_probe : Takes self self.probe.2 (delivery (.probe, .probed self.probe.1)) := by
  unfold probe
  split
  · exact takes_none (List.suffix_refl _)
  split
  · exact takes_none (List.suffix_refl _)
  dsimp only
  split
  · rename_i report hhead
    split
    · exact takes_head hhead rfl
    · exact takes_none (List.tail_suffix _)
  · exact takes_none (List.tail_suffix _)
  · exact takes_none (List.tail_suffix _)

theorem takes_read : Takes self self.read.2 (delivery (.read, .observed self.read.1)) := by
  unfold read
  split
  · split
    · rename_i observation hhead
      split
      · exact takes_head hhead rfl
      · split <;> exact takes_none (List.tail_suffix _)
    · exact takes_none (List.tail_suffix _)
    · exact takes_none (List.tail_suffix _)
  · exact takes_none (List.suffix_refl _)

theorem takes_readFresh (policy : RigFreshnessPolicy) :
    Takes self (self.readFresh policy).2 (delivery (.readFresh policy, .fresh (self.readFresh policy).1)) := by
  have hread := @takes_read self
  rcases self.readFresh_cases policy with ⟨fault, hresult, heq⟩ | ⟨observation, age, hresult, -, heq⟩ |
    ⟨observation, fault, hresult, -, heq⟩
  · rw [heq]
    exact takes_none hread.1
  · rw [heq]
    rw [hresult] at hread
    exact hread
  · rw [heq]
    exact takes_none hread.1

/-- One call takes steps off the front of the script and adds steps at its end, within the bound. -/
theorem step_script (call : RigCall) (hbound : self.steps.length ≤ maxFakeRigSteps) :
    (self.step call).2.steps.length ≤ maxFakeRigSteps ∧
    (self.step call).2.steps <:+ self.steps ++ queueing (call, (self.step call).1) ∧
    (delivery (call, (self.step call).1) ++ (self.step call).2.steps).Sublist
      (self.steps ++ queueing (call, (self.step call).1)) := by
  have htakes : ∀ {next : FakeReadOnlyRig} {delivered}, Takes self next delivered →
      next.steps.length ≤ maxFakeRigSteps ∧ next.steps <:+ self.steps ++ [] ∧
        (delivered ++ next.steps).Sublist (self.steps ++ []) := by
    rintro next delivered ⟨hsuffix, hsublist⟩
    rw [List.append_nil]
    exact ⟨hsuffix.length_le.trans hbound, hsuffix, hsublist⟩
  cases call with
  | queue script =>
    have hpush : self.step (.queue script) = (.queued (self.push script).1, (self.push script).2) := rfl
    rw [hpush]
    unfold push
    split
    · exact htakes ⟨List.suffix_refl _, List.Sublist.refl _⟩
    · rename_i hfull
      refine ⟨?_, List.suffix_refl _, List.Sublist.refl _⟩
      rw [List.length_append, List.length_singleton]
      omega
  | connect profile => exact htakes (takes_connect profile)
  | probe => exact htakes takes_probe
  | read => exact htakes takes_read
  | readFresh policy => exact htakes (takes_readFresh policy)
  | clock call => exact htakes ⟨List.suffix_refl _, List.Sublist.refl _⟩

end Script

/-- **The script is delivered in order.** In every run the evidence that was handed out, followed by the steps that are
left, are in this order among the steps that were queued; the steps that are left are the last ones queued, and there are
never more than the bound. So no result is invented, repeated or overtaken. -/
theorem rig_script_delivered (clock : VirtualClock) (calls : List RigCall) :
    let run := transcript step (new clock) calls
    let rig := final step (new clock) calls
    (run.flatMap delivery ++ rig.steps).Sublist (run.flatMap queueing) ∧
      rig.steps <:+ run.flatMap queueing ∧ rig.remainingSteps ≤ maxFakeRigSteps := by
  intro run rig
  have hrun : ∀ (self : FakeReadOnlyRig) (earlier : List FakeRigStep) (delivered : List FakeRigStep),
      (delivered ++ self.steps).Sublist earlier → self.steps <:+ earlier → self.steps.length ≤ maxFakeRigSteps →
      (delivered ++ (transcript step self calls).flatMap delivery ++ (final step self calls).steps).Sublist
          (earlier ++ (transcript step self calls).flatMap queueing) ∧
        (final step self calls).steps <:+ earlier ++ (transcript step self calls).flatMap queueing ∧
        (final step self calls).steps.length ≤ maxFakeRigSteps := by
    clear run rig
    induction calls with
    | nil =>
      intro self earlier delivered hsublist hsuffix hbound
      simp only [transcript_nil, List.flatMap_nil, List.append_nil, final_nil]
      exact ⟨hsublist, hsuffix, hbound⟩
    | cons call calls ih =>
      intro self earlier delivered hsublist hsuffix hbound
      obtain ⟨hnext, hleft, htaken⟩ := step_script call hbound
      simp only [transcript_cons, List.flatMap_cons, final_cons]
      rw [← List.append_assoc delivered, ← List.append_assoc earlier]
      apply ih
      · rw [List.append_assoc]
        refine (List.Sublist.append_left htaken delivered).trans ?_
        rw [← List.append_assoc]
        exact hsublist.append_right _
      · obtain ⟨front, rfl⟩ := hsuffix
        rw [List.append_assoc]
        exact hleft.trans (List.suffix_append _ _)
      · exact hnext
  exact hrun (new clock) [] [] (List.Sublist.refl _) (List.suffix_refl _) (Nat.zero_le _)

/-! ## Freshness -/

/-- The milliseconds that the calls of a run advanced the clock by. -/
def elapsed (run : List (VirtualCall × Except SlotTimeError Unit)) : Nat :=
  (run.map fun pair => match pair with
    | (.advance millis, .ok ()) => millis.toNat
    | _ => 0).sum

/-- The milliseconds that the calls of a run moved UTC alone by. -/
def jumped (run : List (VirtualCall × Except SlotTimeError Unit)) : Int :=
  (run.map fun pair => match pair with
    | (.jumpUtc delta, .ok ()) => delta.toInt
    | _ => 0).sum

/-- A call that does not tear the timelines apart moves them by what it says. -/
theorem step_moves {clock : VirtualClock} {call : VirtualCall} (h : ¬clock.Tears call) :
    (clock.step call).2.state.utc.unixMillis.toInt = clock.state.utc.unixMillis.toInt +
        elapsed [(call, (clock.step call).1)] + jumped [(call, (clock.step call).1)] ∧
      (clock.step call).2.state.monotonic.millis.toNat = clock.state.monotonic.millis.toNat +
        elapsed [(call, (clock.step call).1)] := by
  unfold VirtualClock.step
  cases call with
  | advance millis =>
    have hends := VirtualClock.advance_ends clock millis
    simp only [VirtualClock.update]
    cases hrun : VirtualClock.advance millis clock with
    | ok value next =>
      obtain ⟨hutc, hmonotonic, -⟩ := hends.of_ok hrun
      simpa [elapsed, jumped] using ⟨hutc, hmonotonic⟩
    | error error next =>
      obtain ⟨-, ⟨rfl, -⟩ | ⟨-, -, htears⟩⟩ := hends.of_error hrun
      · simp [elapsed, jumped]
      · exact absurd htears h
  | jumpUtc delta =>
    have hends := VirtualClock.jumpUtc_ends clock delta
    simp only [VirtualClock.update]
    cases hrun : VirtualClock.jumpUtc delta clock with
    | ok value next =>
      obtain ⟨hutc, hmonotonic⟩ := hends.of_ok hrun
      simp [elapsed, jumped, hutc, hmonotonic]
    | error error next =>
      have hsame : next = clock := hends.of_error hrun
      simp [elapsed, jumped, hsame]

/-- Untorn calls move both timelines by the time they advance, and UTC also by the jumps. -/
theorem final_moves {clock : VirtualClock} {calls : List VirtualCall}
    (h : EveryStep VirtualClock.step (fun clock call => ¬clock.Tears call) clock calls) :
    (final VirtualClock.step clock calls).state.utc.unixMillis.toInt = clock.state.utc.unixMillis.toInt +
        elapsed (transcript VirtualClock.step clock calls) + jumped (transcript VirtualClock.step clock calls) ∧
      (final VirtualClock.step clock calls).state.monotonic.millis.toNat = clock.state.monotonic.millis.toNat +
        elapsed (transcript VirtualClock.step clock calls) := by
  induction calls generalizing clock with
  | nil => simp [elapsed, jumped]
  | cons call calls ih =>
    obtain ⟨hutc, hmonotonic⟩ := step_moves h.1
    obtain ⟨hlaterUtc, hlaterMonotonic⟩ := ih h.2
    have helapsed : ∀ pair run, elapsed (pair :: run) = elapsed [pair] + elapsed run := by
      intro pair run
      simp [elapsed]
    have hjumped : ∀ pair run, jumped (pair :: run) = jumped [pair] + jumped run := by
      intro pair run
      simp [jumped]
    rw [final_cons, transcript_cons, helapsed, hjumped, hlaterUtc, hlaterMonotonic, hutc, hmonotonic]
    push_cast
    constructor <;> ring

/-- Calls of the clock move nothing else. -/
theorem final_clock (self : FakeReadOnlyRig) (calls : List VirtualCall) :
    final step self (calls.map .clock) = { self with clock := final VirtualClock.step self.clock calls } := by
  induction calls generalizing self with
  | nil => rfl
  | cons call calls ih =>
    rw [List.map_cons, final_cons, ih]
    rfl

/-- **Freshness after the clock was moved.** Take a ready rig whose next step is an observation of its session, stamped
with the time of its clock, and move the clock by calls that do not tear it apart. A fresh read then judges the time `e`
that was advanced and the sum `j` of the jumps of UTC: it is a regression when `e + j < 0`, contradictory when `|j|`
exceeds the policy's divergence, stale when `e` exceeds its age, and the observation with the ages `e + j` and `e`
otherwise; every refusal faults the rig. -/
theorem read_fresh_exact (self : FakeReadOnlyRig) (calls : List VirtualCall) (policy : RigFreshnessPolicy)
    (observation : RigObservation)
    (hready : self.lifecycle = .ready observation.provenance.connectionGeneration)
    (hprofile : self.profileRevisionId = some observation.profileRevisionId)
    (hnext : self.steps.head? = some (.read (.ok observation)))
    (hstamp : observation.observedAt = RigObservationTimestamp.fromClockSample self.clock.state)
    (hwhole : EveryStep VirtualClock.step (fun clock call => ¬clock.Tears call) self.clock calls) :
    let run := transcript VirtualClock.step self.clock calls
    let moved := final step self (calls.map .clock)
    let judged := RigObservation.verdict policy (elapsed run + jumped run) (elapsed run)
    (moved.readFresh policy).1 = judged.map (fun age => (observation, age)) ∧
      (moved.readFresh policy).2.lifecycle = match judged with
        | .ok _ => .ready observation.provenance.connectionGeneration
        | .error fault => .faulted (some observation.provenance.connectionGeneration) fault.kind := by
  intro run moved judged
  have hmoved : moved = { self with clock := final VirtualClock.step self.clock calls } := final_clock self calls
  have hread : moved.read = (.ok observation, moved.popped) := by
    rw [hmoved]
    unfold read
    dsimp only
    rw [hready, hnext]
    dsimp only
    rw [if_pos ⟨rfl, hprofile⟩]
  have hfresh : observation.freshAt moved.popped.clock.state policy = judged := by
    obtain ⟨hutc, hmonotonic⟩ := final_moves hwhole
    have hclock : moved.popped.clock = final VirtualClock.step self.clock calls := by
      rw [hmoved]
      rfl
    rw [RigObservation.freshAt_eq, hstamp, hclock]
    show RigObservation.verdict policy (_ - self.clock.state.utc.unixMillis.toInt)
      (_ - (self.clock.state.monotonic.millis.toNat : Int)) = _
    rw [hutc, hmonotonic]
    congr 1
    · ring
    · push_cast
      ring
  have hlifecycle : moved.popped.lifecycle = .ready observation.provenance.connectionGeneration := by
    rw [hmoved]
    exact hready
  unfold readFresh
  rw [hread]
  dsimp only
  rw [hfresh]
  cases judged with
  | ok age => exact ⟨rfl, hlifecycle⟩
  | error fault =>
    refine ⟨rfl, ?_⟩
    show RigLifecycleState.faulted moved.popped.currentGeneration fault.kind = _
    unfold currentGeneration
    rw [hlifecycle]

theorem first_nonzero : (1 : UInt64) ≠ 0 := by decide
theorem second_nonneg : 0 ≤ (1000 : Int64).toInt := by decide

/-- An observation of the first connection, stamped at one second. -/
def firstObservation : RigObservation where
  profileRevisionId := ⟨"prv_01jrigprofile", by decide⟩
  provenance :=
    { serviceInstanceId := ⟨"svc_01jrigprocess", by decide⟩
      connectionGeneration := ⟨1, first_nonzero⟩
      sequence := ⟨1, first_nonzero⟩ }
  observedAt := ⟨1000, 10, second_nonneg⟩
  fields :=
    { dialFrequency := .observed ⟨14074000, by decide⟩
      modulation := .observed .dataUpperSideband
      passband := .observed ⟨3000, by decide⟩
      vfo := .observed .a
      split := .observed ⟨false, none⟩
      power := .unavailable
      pttAsserted := .unsupported }

/-- A probed rig that is about to read it. -/
def readyRig : FakeReadOnlyRig where
  clock := ⟨⟨⟨1000, second_nonneg⟩, ⟨10⟩⟩⟩
  lifecycle := .ready ⟨1, first_nonzero⟩
  profileRevisionId := some ⟨"prv_01jrigprofile", by decide⟩
  steps := [.read (.ok firstObservation)]

/-- A jump of UTC back does not make an old observation fresh. -/
theorem read_fresh_exact_stale :
    ((final step readyRig [.clock (.advance 101), .clock (.jumpUtc (-3))]).readFresh
      ⟨100, 5, by decide⟩).1 = .error (.stale 101 100) := by
  have hwhole : EveryStep VirtualClock.step (fun clock call => ¬clock.Tears call) readyRig.clock
      [.advance 101, .jumpUtc (-3)] := by
    refine ⟨?_, fun htears => htears.elim, trivial⟩
    rintro ⟨-, -, hlarge⟩
    revert hlarge
    decide
  have hread := read_fresh_exact readyRig [.advance 101, .jumpUtc (-3)] ⟨100, 5, by decide⟩ firstObservation rfl rfl rfl
    rfl hwhole
  exact hread.1

end FakeReadOnlyRig

end Slotpilot.Testkit
