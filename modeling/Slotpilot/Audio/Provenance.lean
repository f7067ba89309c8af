import Slotpilot.Audio.Reconstruct

/-!
# Where the samples of a window come from

A timeline that has accepted every batch since its start has taken batches of its own identity only (`FromStart`), and
its windows are made of their frames.

* `FromStart.append`: an accepted batch has the timeline's identity;
* `FromStart.window`: a window belongs to the start, and its samples are reconstructed from the accepted frames.
-/

set_option autoImplicit false

namespace Slotpilot.Audio

open Lib

/-- The batch has this identity. -/
structure CaptureBatch.HasIdentity (processGeneration : ProcessGeneration) (streamGeneration : StreamGeneration)
    (configuration : InputConfiguration) (batch : CaptureBatch) : Prop where
  processGeneration : batch.processGeneration = processGeneration
  streamGeneration : batch.streamGeneration = streamGeneration
  configuration : batch.configuration = configuration

namespace Ft8ReceiveTimeline

/-- The batches that a new timeline has accepted, all of its identity. -/
structure FromStart (processGeneration : ProcessGeneration) (streamGeneration : StreamGeneration)
    (configuration : InputConfiguration) (run : List (CaptureBatch × UInt64)) : Prop where
  identity : ∀ input ∈ run, CaptureBatch.HasIdentity processGeneration streamGeneration configuration input.1
  accepted : ∀ entry ∈ transcript step (new processGeneration streamGeneration configuration) run, entry.2.isOk

variable {processGeneration : ProcessGeneration} {streamGeneration : StreamGeneration}
  {configuration : InputConfiguration} {run : List (CaptureBatch × UInt64)} {input : CaptureBatch × UInt64}
  {events : List ReceiveTimelineEvent} {emitted : Ft8ReceiveWindow} {s : Ft8ReceiveTimeline} {batch : CaptureBatch}

theorem validateIdentity_ok :
    s.validateIdentity batch = .ok () ↔
      CaptureBatch.HasIdentity s.processGeneration s.streamGeneration s.configuration batch := by
  unfold validateIdentity
  constructor
  · intro h
    split at h
    · cases h
    rename_i hprocess
    split at h
    · cases h
    rename_i hstream
    split at h
    · cases h
    rename_i hconfiguration
    exact ⟨not_not.mp hprocess, not_not.mp hstream, not_not.mp hconfiguration⟩
  · intro h
    simp [h.processGeneration, h.streamGeneration, h.configuration]

theorem fromStart_nil : FromStart processGeneration streamGeneration configuration [] := by
  refine ⟨?_, ?_⟩
  · intro input hinput
    cases hinput
  · intro entry hentry
    cases hentry

/-- The timeline keeps its identity while it accepts. -/
theorem identity_kept (hok : ∀ entry ∈ transcript step s run, entry.2.isOk) :
    (final step s run).processGeneration = s.processGeneration ∧
      (final step s run).streamGeneration = s.streamGeneration ∧
        (final step s run).configuration = s.configuration := by
  induction run generalizing s with
  | nil => exact ⟨rfl, rfl, rfl⟩
  | cons input run ih =>
    simp only [transcript_cons, List.forall_mem_cons] at hok
    obtain ⟨events, hpush, -⟩ := step_ok hok.1
    obtain ⟨-, -, r, r', -, -, hinto⟩ := push_accepted.of_ok hpush
    obtain ⟨hprocess, hstream, hconfiguration⟩ := ih hok.2
    rw [final_cons, hprocess, hstream, hconfiguration]
    exact ⟨hinto.processGeneration, hinto.streamGeneration, hinto.configuration⟩

/-- **An accepted batch** has the identity of the start. -/
theorem FromStart.append (h : FromStart processGeneration streamGeneration configuration run)
    (haccepted : (step (final step (new processGeneration streamGeneration configuration) run) input).1 = .ok events) :
    FromStart processGeneration streamGeneration configuration (run ++ [input]) := by
  obtain ⟨hid, -⟩ := push_accepted.of_ok (outcome_eq_ok.mp haccepted)
  obtain ⟨hprocess, hstream, hconfiguration⟩ := identity_kept h.accepted
  rw [validateIdentity_ok, hprocess, hstream, hconfiguration] at hid
  refine ⟨?_, ?_⟩
  · rw [List.forall_mem_append]
    refine ⟨h.identity, ?_⟩
    intro other hother
    obtain rfl := List.mem_singleton.mp hother
    exact hid
  · rw [transcript_append, List.forall_mem_append]
    exact ⟨h.accepted, by simp [haccepted, Except.isOk, Except.toBool]⟩

/-- A window among the events of an origin has the origin's generations. -/
theorem generations_of_reconstruct {o : Origin} {x : List Int16}
    (h : (ReceiveTimelineEvent.window emitted).content ∈ reconstruct o x) :
    emitted.processGeneration = o.processGeneration ∧ emitted.streamGeneration = o.streamGeneration := by
  unfold reconstruct Origin.assembled Origin.leadIncomplete at h
  obtain hlead | hblock := List.mem_append.mp h
  · split at hlead
    · cases List.mem_singleton.mp hlead
    · cases hlead
  · obtain ⟨i, hi, heq⟩ := List.mem_mapIdx.mp hblock
    have hgenerations := heq.symm
    simp only [ReceiveTimelineEvent.content, Origin.blockWindow, EventContent.window.injEq] at hgenerations
    exact ⟨hgenerations.1, hgenerations.2.1⟩

/-- **A window of the last batch** belongs to the start and is made of the frames that were accepted since. -/
theorem FromStart.window (h : FromStart processGeneration streamGeneration configuration (run ++ [input]))
    (haccepted : (step (final step (new processGeneration streamGeneration configuration) run) input).1 = .ok events)
    (hwindow : .window emitted ∈ events) :
    emitted.processGeneration = processGeneration ∧ emitted.streamGeneration = streamGeneration ∧
      ∃ first rest, run ++ [input] = first :: rest ∧
        (ReceiveTimelineEvent.window emitted).content ∈
          reconstruct (originOf configuration processGeneration streamGeneration first.1) (framesOf (run ++ [input])) := by
  obtain ⟨first, rest, hrun⟩ := List.exists_cons_of_ne_nil (List.append_ne_nil_of_right_ne_nil run (List.cons_ne_nil input []))
  have hok := h.accepted
  rw [hrun] at hok
  obtain ⟨hevents, -⟩ := events_reconstructed first rest hok
  have hmem : (ReceiveTimelineEvent.window emitted).content ∈
      reconstruct (originOf configuration processGeneration streamGeneration first.1) (framesOf (first :: rest)) := by
    rw [← hevents, ← hrun, transcript_append, List.flatMap_append, List.map_append]
    refine List.mem_append_right _ (List.mem_map_of_mem ?_)
    simpa [eventsOf, haccepted] using hwindow
  obtain ⟨hprocess, hstream⟩ := generations_of_reconstruct hmem
  exact ⟨hprocess, hstream, first, rest, hrun, hrun ▸ hmem⟩

/-- The last batch completes at most one window. -/
theorem FromStart.one_event (h : FromStart processGeneration streamGeneration configuration run)
    (haccepted : (step (final step (new processGeneration streamGeneration configuration) run) input).1 = .ok events) :
    events.length ≤ 1 := by
  have hgrown := (h.append haccepted).accepted
  obtain ⟨first, rest, hrun⟩ := List.exists_cons_of_ne_nil (List.append_ne_nil_of_right_ne_nil run (List.cons_ne_nil input []))
  rw [hrun] at hgrown
  obtain ⟨-, hone⟩ := events_reconstructed first rest hgrown
  rw [← hrun, transcript_append, List.forall_mem_append] at hone
  have hlast := hone.2 _ (List.mem_singleton_self _)
  rwa [haccepted, eventsOf] at hlast

end Ft8ReceiveTimeline

end Slotpilot.Audio
