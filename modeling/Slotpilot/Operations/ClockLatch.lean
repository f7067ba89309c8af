import Slotpilot.Operations.ReceiveClock
import Slotpilot.Lib.Machine

/-!
# The latch of a foreign generation

An observation of another process generation latches the monitor unhealthy for good: `observe` refuses to count recovery
candidates while that fault is latched. The refusal comes after the checks of regressed and delayed observations, so
one of these replaces the fault by its own, and the monitor recovers from that. The latch holds at a step exactly when
the step is no such observation (`step_latched_iff`).
-/

set_option autoImplicit false

namespace Slotpilot.Operations.ReceiveClockMonitor

open Lib Audio

variable {m : ReceiveClockMonitor} {observation : GenerationClockSample} {observedAt : MonotonicInstant} {call : Call}

/-! ## One call -/

/-- The monitor is latched unhealthy by another process generation. -/
def Latched (m : ReceiveClockMonitor) : Prop :=
  ∃ progress required, m.state = .unhealthy .processGenerationChanged progress required

/-- The call observes another process generation. -/
def Foreign (m : ReceiveClockMonitor) : Call → Prop
  | .observe observation _ => observation.generation ≠ m.generation
  | _ => False

/-- An observation is neither before its sample nor later than the sampling delay. -/
def Timely (m : ReceiveClockMonitor) (observation : GenerationClockSample) (observedAt : MonotonicInstant) : Prop :=
  observation.sample.monotonic.millis.toNat ≤ observedAt.millis.toNat ∧
    observedAt.millis.toNat - observation.sample.monotonic.millis.toNat ≤ m.config.maxSamplingDelayMillis

/-- While latched, the monitor's own generation is observed in time. -/
def TimelyWhileLatched (m : ReceiveClockMonitor) : Call → Prop
  | .observe observation observedAt =>
    Latched m → observation.generation = m.generation → Timely m observation observedAt
  | _ => True

/-- The answer tells that the mapping is usable again. -/
def Answer.Reopens : Answer → Prop
  | .transition (.recovered _) => True
  | .gated (.windowReady _ _) => True
  | _ => False

theorem Latched.not_healthy (h : Latched m) : m.state ≠ .healthy := by
  obtain ⟨progress, required, h⟩ := h
  rw [h]
  simp

@[simp] theorem latch_final (fault : ReceiveClockFault) (last : Option ClockSample) :
    (m.latch fault observedAt last).2 = m.withFault fault last := by
  unfold latch
  split <;> rfl

theorem latch_not_reopens (fault : ReceiveClockFault) (last : Option ClockSample) :
    ¬(Answer.transition (m.latch fault observedAt last).1).Reopens := by
  unfold latch
  split <;> exact id

@[simp] theorem latched_withFault {fault : ReceiveClockFault} {last : Option ClockSample} :
    Latched (m.withFault fault last) ↔ fault = .processGenerationChanged := by
  simp [Latched, withFault]

/-- A snapshot of an unhealthy monitor changes nothing. -/
theorem snapshot_unhealthy (h : m.state ≠ .healthy) (observedAt : MonotonicInstant) :
    m.snapshot observedAt = (m.snapshotUnchecked observedAt, m) := by
  simp [snapshot, h]

/-- **What a latched monitor does with an observation**: it latches again, takes over the fault of an untimely one of
its own generation, or ignores a timely one. -/
theorem observe_latched (hl : Latched m) (observation : GenerationClockSample) (observedAt : MonotonicInstant) :
    (observation.generation ≠ m.generation ∧
        m.observe observation observedAt = m.latch .processGenerationChanged observedAt none) ∨
      (observation.generation = m.generation ∧ ¬Timely m observation observedAt ∧
        ∃ fault ≠ .processGenerationChanged, m.observe observation observedAt = m.latch fault observedAt none) ∨
      (observation.generation = m.generation ∧ Timely m observation observedAt ∧
        m.observe observation observedAt = (.unhealthy (m.snapshotUnchecked observedAt), m)) := by
  by_cases hgen : observation.generation = m.generation
  · by_cases hreg : observedAt.millis < observation.sample.monotonic.millis
    · refine .inr (.inl ⟨hgen, fun ht => Nat.not_le.mpr hreg ht.1, .timelineRegressed, by decide, ?_⟩)
      simp only [observe, hgen, ne_eq, not_true_eq_false, if_false, if_pos hreg]
    · have hle : observation.sample.monotonic.millis.toNat ≤ observedAt.millis.toNat := Nat.le_of_not_lt hreg
      by_cases hdelay : observedAt.millis.toNat - observation.sample.monotonic.millis.toNat >
          m.config.maxSamplingDelayMillis
      · refine .inr (.inl ⟨hgen, fun ht => Nat.not_le.mpr hdelay ht.2,
          .samplingDelayed (observedAt.millis.toNat - observation.sample.monotonic.millis.toNat), by simp, ?_⟩)
        simp only [observe, hgen, ne_eq, not_true_eq_false, if_false, if_neg hreg, if_pos hdelay]
      · refine .inr (.inr ⟨hgen, ⟨hle, Nat.le_of_not_lt hdelay⟩, ?_⟩)
        have hsnapshot := snapshot_unhealthy hl.not_healthy observedAt
        obtain ⟨progress, required, hstate⟩ := hl
        simp only [observe, hgen, ne_eq, not_true_eq_false, if_false, if_neg hreg, if_neg hdelay, hstate,
          observeUnhealthy, if_true, hsnapshot]
  · refine .inl ⟨hgen, ?_⟩
    simp only [observe, ne_eq, hgen, not_false_eq_true, if_true]

theorem gate_unhealthy (event : ReceiveTimelineEvent) (h : m.state ≠ .healthy) :
    ¬(Answer.gated (m.gate event observedAt).1).Reopens ∧ (m.gate event observedAt).2 = m := by
  cases event with
  | incomplete incomplete => exact ⟨id, rfl⟩
  | window window =>
    obtain hstate | ⟨fault, progress, required, hstate⟩ :
        m.state = .healthy ∨ ∃ fault progress required, m.state = .unhealthy fault progress required := by
      cases m.state with
      | healthy => exact .inl rfl
      | unhealthy fault progress required => exact .inr ⟨fault, progress, required, rfl⟩
    · exact absurd hstate h
    · have hsnapshot : (m.snapshotUnchecked observedAt).state = .unhealthy fault progress required := hstate
      simp only [gate, snapshot_unhealthy h, hsnapshot]
      exact ⟨id, trivial⟩

/-- A latched monitor does not report that the mapping is usable. -/
theorem step_latched_answer (hl : Latched m) : ¬(m.step call).1.Reopens := by
  cases call with
  | observe observation observedAt =>
    rcases observe_latched hl observation observedAt with
      ⟨-, h⟩ | ⟨-, -, fault, -, h⟩ | ⟨-, -, h⟩
    · simpa only [step, h, Prod.map_fst] using latch_not_reopens _ _
    · simpa only [step, h, Prod.map_fst] using latch_not_reopens _ _
    · simp only [step, h]
      exact id
  | snapshot observedAt => exact id
  | gate event observedAt => exact (gate_unhealthy event hl.not_healthy).1

/-- A latched monitor stays latched exactly when the call is no untimely observation of its own generation. -/
theorem step_latched_iff (hl : Latched m) : Latched (m.step call).2 ↔ TimelyWhileLatched m call := by
  cases call with
  | observe observation observedAt =>
    rcases observe_latched hl observation observedAt with
      ⟨hgen, h⟩ | ⟨hgen, ht, fault, hf, h⟩ | ⟨hgen, ht, h⟩
    · simp [step, h, TimelyWhileLatched, hgen]
    · simp [step, h, TimelyWhileLatched, hgen, ht, hl, hf]
    · simp [step, h, TimelyWhileLatched, hl, ht]
  | snapshot observedAt => simpa [step, snapshot_unhealthy hl.not_healthy, TimelyWhileLatched] using hl
  | gate event observedAt => simpa [step, (gate_unhealthy event hl.not_healthy).2, TimelyWhileLatched] using hl

theorem step_foreign (h : Foreign m call) : Latched (m.step call).2 := by
  cases call with
  | observe observation observedAt =>
    have hgen : observation.generation ≠ m.generation := h
    simp [step, observe, hgen]
  | snapshot observedAt => exact h.elim
  | gate event observedAt => exact h.elim

/-! ## Runs -/

/-- After an observation of another generation the monitor is never healthy and no answer tells that the mapping is
usable again. -/
def MismatchTerminal (m : ReceiveClockMonitor) (run : List Call) : Prop :=
  ∀ before call after later, run = before ++ call :: (after ++ later) → Foreign (final step m before) call →
    (final step m (before ++ call :: after)).state ≠ .healthy ∧
      ∀ entry ∈ transcript step (final step m (before ++ [call])) after, ¬entry.2.Reopens

/-- **A generation mismatch is terminal** in every run whose observations of the monitor's own generation are timely
while it is latched. -/
theorem mismatch_terminal (run : List Call) (h : EveryStep step TimelyWhileLatched m run) : MismatchTerminal m run := by
  rintro before call after later rfl hforeign
  rw [everyStep_append, everyStep_cons, everyStep_append] at h
  obtain ⟨-, -, hafter, -⟩ := h
  have hlatched := step_foreign hforeign
  rw [final_append, final_append, final_cons, final_cons, final_nil]
  have hstep (m : ReceiveClockMonitor) (call : Call) (hl : Latched m) (ht : TimelyWhileLatched m call) :
      ¬(m.step call).1.Reopens ∧ Latched (m.step call).2 := ⟨step_latched_answer hl, (step_latched_iff hl).mpr ht⟩
  constructor
  · exact (final_inv (fun m call hl ht => (hstep m call hl ht).2) hlatched hafter).not_healthy
  · exact transcript_inv (P := fun _ answer => ¬Answer.Reopens answer) hstep hlatched hafter

/-! ## Fixed runs -/

def clockSample (generation : ClockProcessGeneration) (millis : UInt64) : GenerationClockSample where
  generation
  sample := { utc := ⟨0, UtcInstant.epoch_nonneg⟩, monotonic := ⟨millis⟩ }

def ownSample : GenerationClockSample := clockSample ⟨1, Audio.one_nonzero⟩ 0

def foreignSample : GenerationClockSample := clockSample ⟨2, by decide⟩ 0

/-- A new monitor with the default policy. -/
def startedMonitor : ReceiveClockMonitor := ⟨ownSample.generation, .default, .healthy, ownSample.sample, none⟩

/-- A timely observation of the monitor's own generation leaves the latch alone. -/
theorem mismatch_terminal_timely :
    MismatchTerminal startedMonitor [.observe foreignSample ⟨0⟩, .observe ownSample ⟨0⟩] :=
  mismatch_terminal _
    ⟨fun _ hgen => absurd hgen (by decide), fun _ _ => ⟨by decide, by decide⟩, trivial⟩

/-- The delayed observation replaces the latched fault, and the three timely ones recover. -/
theorem mismatch_terminal_fails :
    ¬∀ (initial : GenerationClockSample) (config : ReceiveClockConfig) (m : ReceiveClockMonitor),
      new initial config = .ok m → ∀ run, MismatchTerminal m run := by
  intro h
  have hnew : new ownSample .default = .ok startedMonitor := by decide
  have hforeign : Foreign startedMonitor (.observe foreignSample ⟨0⟩) := fun heq => absurd heq (by decide)
  -- a foreign observation, a delayed one of the monitor's own generation, and three timely ones
  have hterminal := h ownSample .default startedMonitor hnew
    [.observe foreignSample ⟨0⟩, .observe ownSample ⟨251⟩, .observe ownSample ⟨0⟩, .observe ownSample ⟨0⟩,
      .observe ownSample ⟨0⟩]
    [] _ [.observe ownSample ⟨251⟩, .observe ownSample ⟨0⟩, .observe ownSample ⟨0⟩, .observe ownSample ⟨0⟩] [] rfl
    hforeign
  exact hterminal.1 (by decide)

end Slotpilot.Operations.ReceiveClockMonitor
