import Slotpilot.Lib.PortContract
import Slotpilot.Operations.Rig

/-!
# The read-only rig port

What a port promises its consumers: a probe belongs to the connection before it, an observation to the probe before it,
and a failed call ends the session. `RigSession` is what a consumer knows from the calls and their results alone.

* `readOnlyRigPort`: the contract of the port;
* `backed_of_follows`: where it is followed, each observation is backed by the last connection and a probe of it, with no
  fault in between.
-/

set_option autoImplicit false

namespace Slotpilot.Operations

open Domain Lib

/-- A call of the port with its result. -/
inductive RigPortEvent
  | connect (profile : RigProfile) (result : Except RigFault RigConnectionGeneration)
  | probe (result : Except RigFault RigCapabilityReport)
  | read (result : Except RigFault RigObservation)

/-- What the calls and results so far leave a consumer with. -/
inductive RigSession
  | unbound
  | connected (generation : RigConnectionGeneration) (revision : ProfileRevisionId)
  | probed (generation : RigConnectionGeneration) (revision : ProfileRevisionId)
  deriving DecidableEq

namespace RigSession

/-- The session after a probe. -/
def onProbe : RigSession → Except RigFault RigCapabilityReport → RigSession
  | .connected generation revision, .ok _ => .probed generation revision
  | .connected _ _, .error _ => .unbound
  | .probed generation revision, _ => .probed generation revision
  | .unbound, _ => .unbound

/-- The session after a read. -/
def onRead : RigSession → Except RigFault RigObservation → RigSession
  | .probed generation revision, .ok _ => .probed generation revision
  | .probed _ _, .error _ => .unbound
  | .connected generation revision, _ => .connected generation revision
  | .unbound, _ => .unbound

/-- The session after an event. -/
def observe (session : RigSession) : RigPortEvent → RigSession
  | .connect profile (.ok generation) => .connected generation profile.revisionId
  | .connect _ (.error _) => .unbound
  | .probe result => session.onProbe result
  | .read result => session.onRead result

/-- The results of a probe that a session allows. -/
def AdmitsProbe : RigSession → Except RigFault RigCapabilityReport → Prop
  | .connected generation _, .ok report => report.generation = generation
  | .connected _ _, .error _ => True
  | .probed _ _, result => result = .error .notConnected
  | .unbound, result => result = .error .notConnected

/-- The results of a read that a session allows. -/
def AdmitsRead : RigSession → Except RigFault RigObservation → Prop
  | .probed generation revision, .ok observation =>
    observation.provenance.connectionGeneration = generation ∧ observation.profileRevisionId = revision
  | .probed _ _, .error _ => True
  | .connected _ _, result => result = .error .notProbed
  | .unbound, result => result = .error .notConnected ∨ result = .error .notProbed

/-- The events that a session allows. -/
def Admits (session : RigSession) : RigPortEvent → Prop
  | .connect _ _ => True
  | .probe result => session.AdmitsProbe result
  | .read result => session.AdmitsRead result

end RigSession

/-- The contract of the read-only rig port. -/
def readOnlyRigPort : PortContract RigSession RigPortEvent where
  observe := RigSession.observe
  admits := RigSession.Admits

/-- The event is a call of `connect`. -/
def RigPortEvent.IsConnect : RigPortEvent → Prop
  | .connect _ _ => True
  | _ => False

/-- The event is a failed call. -/
def RigPortEvent.IsFault : RigPortEvent → Prop
  | .connect _ (.error _) => True
  | .read (.error _) => True
  | _ => False

/-- The events end in a live session for the observation: its profile was connected with its generation, that connection
was probed, and since then there was neither another connection nor a failed read. -/
def Backed (events : List RigPortEvent) (observation : RigObservation) : Prop :=
  ∃ (profile : RigProfile) (report : RigCapabilityReport) (earlier connected ready : List RigPortEvent),
    events = earlier ++ .connect profile (.ok observation.provenance.connectionGeneration) ::
      (connected ++ .probe (.ok report) :: ready) ∧
    observation.profileRevisionId = profile.revisionId ∧
    report.generation = observation.provenance.connectionGeneration ∧
    (∀ event ∈ connected ++ ready, ¬event.IsConnect) ∧ ∀ event ∈ ready, ¬event.IsFault

section Sessions

variable {events : List RigPortEvent} {session : RigSession} {generation : RigConnectionGeneration}
  {revision : ProfileRevisionId}

/-- Without a connection a session stays unbound. -/
theorem observed_unbound (h : ∀ event ∈ events, ¬event.IsConnect) :
    readOnlyRigPort.observed .unbound events = .unbound := by
  induction events with
  | nil => rfl
  | cons event events ih =>
    obtain ⟨hevent, hevents⟩ := List.forall_mem_cons.mp h
    rw [PortContract.observed_cons]
    have hkept : readOnlyRigPort.observe .unbound event = .unbound := by
      cases event with
      | connect profile result => exact absurd trivial hevent
      | probe result => rfl
      | read result => rfl
    rw [hkept]
    exact ih hevents

/-- A probed session was connected. -/
theorem exists_connect (h : readOnlyRigPort.observed .unbound events = .probed generation revision) :
    ∃ event ∈ events, event.IsConnect := by
  by_contra hnone
  have hunbound := observed_unbound fun event hmem hconnect => hnone ⟨event, hmem, hconnect⟩
  rw [h] at hunbound
  cases hunbound

/-- Only a successful probe of a connected session leads to a probed one. -/
theorem probed_cases {event : RigPortEvent} (hevent : ¬event.IsConnect)
    (h : session.observe event = .probed generation revision) :
    session = .probed generation revision ∨
      session = .connected generation revision ∧ ∃ report, event = .probe (.ok report) := by
  cases event with
  | connect profile result => exact absurd trivial hevent
  | probe result =>
    cases session with
    | unbound => exact .inl h
    | probed g r => exact .inl h
    | connected g r =>
      cases result with
      | error fault => cases h
      | ok report =>
        cases h
        exact .inr ⟨rfl, report, rfl⟩
  | read result =>
    cases session with
    | unbound => exact .inl h
    | connected g r => exact .inl h
    | probed g r =>
      cases result with
      | error fault => cases h
      | ok observation => exact .inl h

/-- Only a successful connection leads to a connected session. -/
theorem connected_cases {event : RigPortEvent} (hevent : ¬event.IsConnect)
    (h : session.observe event = .connected generation revision) : session = .connected generation revision := by
  cases event with
  | connect profile result => exact absurd trivial hevent
  | probe result =>
    cases session with
    | unbound => exact h
    | probed g r => exact h
    | connected g r => cases result <;> cases h
  | read result =>
    cases session with
    | unbound => exact h
    | connected g r => exact h
    | probed g r =>
      cases result with
      | error fault => cases h
      | ok observation => exact h

/-- A connected session without another connection was connected at once. -/
theorem observed_connected (hevents : ∀ event ∈ events, ¬event.IsConnect)
    (h : readOnlyRigPort.observed session events = .connected generation revision) :
    session = .connected generation revision := by
  induction events generalizing session with
  | nil => exact h
  | cons event events ih =>
    obtain ⟨hevent, hlater⟩ := List.forall_mem_cons.mp hevents
    exact connected_cases hevent (ih hlater h)

/-- A probed session that is kept has seen no fault. -/
theorem not_isFault {event : RigPortEvent}
    (h : (RigSession.probed generation revision).observe event = .probed generation revision) : ¬event.IsFault := by
  intro hfault
  cases event with
  | probe result => cases result <;> exact hfault
  | connect profile result =>
    cases result with
    | ok generation => exact hfault
    | error fault => cases h
  | read result =>
    cases result with
    | ok observation => exact hfault
    | error fault => cases h

/-- The last connection of a probed session, and the probe of it. -/
theorem probed_session (hfollows : readOnlyRigPort.Follows .unbound events)
    (h : readOnlyRigPort.observed .unbound events = .probed generation revision) :
    ∃ (profile : RigProfile) (report : RigCapabilityReport) (earlier connected ready : List RigPortEvent),
      events = earlier ++ .connect profile (.ok generation) :: (connected ++ .probe (.ok report) :: ready) ∧
      revision = profile.revisionId ∧ report.generation = generation ∧
      (∀ event ∈ connected ++ ready, ¬event.IsConnect) ∧ ∀ event ∈ ready, ¬event.IsFault := by
  obtain ⟨earlier, event, since, rfl, hconnect, hsince⟩ := exists_last (exists_connect h)
  obtain ⟨profile, result, rfl⟩ : ∃ profile result, event = .connect profile result := by
    cases event with
    | connect profile result => exact ⟨profile, result, rfl⟩
    | probe result => exact hconnect.elim
    | read result => exact hconnect.elim
  rw [PortContract.observed_append, PortContract.observed_cons] at h
  obtain ⟨hfirst, hrest⟩ := ((readOnlyRigPort.follows_append).mp hfollows)
  obtain ⟨-, hrest⟩ := hrest
  generalize hstart : readOnlyRigPort.observed .unbound earlier = start at h hrest
  -- The last event that changed the session is its probe.
  have hentered : readOnlyRigPort.observe start (.connect profile result) ≠ .probed generation revision := by
    cases result <;> simp [readOnlyRigPort, RigSession.observe]
  obtain ⟨connected, event, ready, rfl, hother, henters, hkept⟩ := last_change h hentered
  have hevent : ¬event.IsConnect := hsince event (List.mem_append_right _ List.mem_cons_self)
  rcases probed_cases hevent henters with hsame | ⟨hconnected, report, rfl⟩
  · exact absurd hsame hother
  have hbefore : ∀ event ∈ connected, ¬event.IsConnect := fun event hmem =>
    hsince event (List.mem_append_left _ hmem)
  have hgeneration := observed_connected hbefore hconnected
  cases result with
  | error fault => cases hgeneration
  | ok found =>
    cases hgeneration
    refine ⟨profile, report, earlier, connected, ready, rfl, rfl, ?_, ?_, fun event hmem => ?_⟩
    · obtain ⟨-, hprobe⟩ := (readOnlyRigPort.follows_append).mp hrest
      obtain ⟨hadmits, -⟩ := hprobe
      have hreport : (readOnlyRigPort.observed _ connected).AdmitsProbe (.ok report) := hadmits
      rw [show readOnlyRigPort.observed _ connected = _ from hconnected] at hreport
      exact hreport
    · intro event hmem
      rcases List.mem_append.mp hmem with hmem | hmem
      · exact hbefore event hmem
      · exact hsince event (List.mem_append_right _ (List.mem_cons_of_mem _ hmem))
    · exact not_isFault (hkept event hmem)

/-- Every observation of events that follow the contract is backed by the events before it. -/
theorem backed_of_follows {earlier later : List RigPortEvent} {observation : RigObservation}
    (h : readOnlyRigPort.Follows .unbound (earlier ++ .read (.ok observation) :: later)) :
    Backed earlier observation := by
  obtain ⟨hearlier, hread, -⟩ := (readOnlyRigPort.follows_append).mp h
  cases hsession : readOnlyRigPort.observed .unbound earlier with
  | unbound =>
    rw [hsession] at hread
    rcases hread with hread | hread <;> cases hread
  | connected generation revision =>
    rw [hsession] at hread
    cases hread
  | probed generation revision =>
    rw [hsession] at hread
    obtain ⟨rfl, rfl⟩ := hread
    obtain ⟨profile, report, before, connected, ready, hevents, hrevision, hreport, hconnects, hfaults⟩ :=
      probed_session hearlier hsession
    exact ⟨profile, report, before, connected, ready, hevents, hrevision, hreport, hconnects, hfaults⟩

end Sessions

end Slotpilot.Operations
