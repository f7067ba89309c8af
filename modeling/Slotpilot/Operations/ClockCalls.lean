import Slotpilot.Operations.ClockLatch
import Mathlib

/-!
# The calls of a clock monitor

`Observed` lists everything an observation can do to a monitor, and `observe_observed` shows that there is nothing else;
`snapshot_cases` and `gate_cases` do the same for the other two calls. From these follow, for every call of a monitor
with a checked policy:

* the progress counter and the candidate sample agree (`Sound`), and a transition's tag agrees with its snapshot;
* a window is ready only on a fresh mapping that agrees with its own (`ReadyOnlyAligned`).
-/

set_option autoImplicit false

namespace Slotpilot.Operations.ReceiveClockMonitor

open Lib Audio

variable {m : ReceiveClockMonitor} {observation : GenerationClockSample} {observedAt : MonotonicInstant} {call : Call}
  {fault : ReceiveClockFault} {progress required : Nat}

/-! ## One observation -/

/-- An observation of the monitor's own generation, in time. -/
def Own (m : ReceiveClockMonitor) (observation : GenerationClockSample) (observedAt : MonotonicInstant) : Prop :=
  observation.generation = m.generation ∧ Timely m observation observedAt

/-- What an observation does. -/
inductive Observed (m : ReceiveClockMonitor) (observation : GenerationClockSample) (observedAt : MonotonicInstant) :
    ReceiveClockTransition × ReceiveClockMonitor → Prop
  | latched (fault : ReceiveClockFault) (hreason : ¬Own m observation observedAt ∨
      m.state = .healthy ∧ m.compare m.lastAccepted observation.sample = some fault) :
      Observed m observation observedAt (m.latch fault observedAt none)
  | accepted (hown : Own m observation observedAt) (hstate : m.state = .healthy)
      (hagrees : m.compare m.lastAccepted observation.sample = none) :
      Observed m observation observedAt
        (.healthy (snapshotUnchecked { m with lastAccepted := observation.sample } observedAt),
          { m with lastAccepted := observation.sample })
  | refused (progress required : Nat) (hstate : m.state = .unhealthy .processGenerationChanged progress required) :
      Observed m observation observedAt (.unhealthy (m.snapshotUnchecked observedAt), m)
  | disagreed (candidate : ClockSample) (fault : ReceiveClockFault) (hown : Own m observation observedAt)
      (hstate : m.state ≠ .healthy) (hlast : m.recoveryLast = some candidate)
      (hcompare : m.compare candidate observation.sample = some fault) :
      Observed m observation observedAt (m.latch fault observedAt (some observation.sample))
  | progressed (fault : ReceiveClockFault) (progress required : Nat) (hown : Own m observation observedAt)
      (hstate : m.state = .unhealthy fault progress required) (hfault : fault ≠ .processGenerationChanged)
      (hagrees : ∀ candidate, m.recoveryLast = some candidate → m.compare candidate observation.sample = none)
      (hless : min (progress + 1) 255 < required) :
      Observed m observation observedAt
        (.recovering (snapshotUnchecked { m with
          state := .unhealthy fault (min (progress + 1) 255) required, recoveryLast := some observation.sample }
            observedAt),
          { m with
            state := .unhealthy fault (min (progress + 1) 255) required, recoveryLast := some observation.sample })
  | recovered (fault : ReceiveClockFault) (progress required : Nat) (hown : Own m observation observedAt)
      (hstate : m.state = .unhealthy fault progress required)
      (hagrees : ∀ candidate, m.recoveryLast = some candidate → m.compare candidate observation.sample = none)
      (henough : required ≤ min (progress + 1) 255) :
      Observed m observation observedAt
        (.recovered (snapshotUnchecked { m with
          state := .healthy, lastAccepted := observation.sample, recoveryLast := none } observedAt),
          { m with state := .healthy, lastAccepted := observation.sample, recoveryLast := none })

theorem inBounds_delay {config : ReceiveClockConfig} (h : config.inBounds = true) :
    config.maxSamplingDelayMillis ≤ config.freshnessMillis := by
  simp only [ReceiveClockConfig.inBounds, Bool.not_eq_true', Bool.or_eq_false_iff, decide_eq_false_iff_not] at h
  omega

theorem inBounds_recovery {config : ReceiveClockConfig} (h : config.inBounds = true) :
    2 ≤ config.recoverySamples ∧ config.recoverySamples ≤ 10 := by
  simp only [ReceiveClockConfig.inBounds, Bool.not_eq_true', Bool.or_eq_false_iff, decide_eq_false_iff_not] at h
  omega

/-- A mapping that is as fresh as its sample was timely is not stale. -/
theorem snapshot_fresh (h : m.mappingAge observedAt ≤ m.config.freshnessMillis) :
    m.snapshot observedAt = (m.snapshotUnchecked observedAt, m) := by
  simp [snapshot, Nat.not_lt.mpr h]

/-- A comparison does not report another generation. -/
theorem compare_ne (previous current : ClockSample) :
    m.compare previous current ≠ some .processGenerationChanged := by
  unfold compare
  split
  · simp
  · split
    · simp
    · dsimp only
      split
      · simp
      · split
        · simp
        · split <;> simp

theorem observe_own_healthy (hown : Own m observation observedAt) (hstate : m.state = .healthy) :
    m.observe observation observedAt = m.observeHealthy observation.sample observedAt := by
  obtain ⟨hgen, hle, hdelay⟩ := hown
  have hreg : ¬observedAt.millis < observation.sample.monotonic.millis := Nat.not_lt.mpr hle
  simp only [observe, hgen, ne_eq, not_true_eq_false, if_false, if_neg hreg, gt_iff_lt, if_neg (Nat.not_lt.mpr hdelay),
    hstate]

theorem observe_own_unhealthy (hown : Own m observation observedAt)
    (hstate : m.state = .unhealthy fault progress required) :
    m.observe observation observedAt =
      m.observeUnhealthy fault progress required observation.sample observedAt := by
  obtain ⟨hgen, hle, hdelay⟩ := hown
  have hreg : ¬observedAt.millis < observation.sample.monotonic.millis := Nat.not_lt.mpr hle
  simp only [observe, hgen, ne_eq, not_true_eq_false, if_false, if_neg hreg, gt_iff_lt, if_neg (Nat.not_lt.mpr hdelay),
    hstate]

/-- A timely sample is a fresh mapping. -/
theorem snapshot_own (hconfig : m.config.inBounds = true) (hown : Own m observation observedAt)
    (state : ReceiveClockState) (recoveryLast : Option ClockSample) :
    let n := { m with state, lastAccepted := observation.sample, recoveryLast }
    n.snapshot observedAt = (n.snapshotUnchecked observedAt, n) :=
  snapshot_fresh (hown.2.2.trans (inBounds_delay hconfig))

/-- An observation of another generation, or one out of time, latches. -/
theorem observe_not_own (hown : ¬Own m observation observedAt) :
    ∃ fault, m.observe observation observedAt = m.latch fault observedAt none := by
  by_cases hgen : observation.generation = m.generation
  · by_cases hreg : observedAt.millis < observation.sample.monotonic.millis
    · exact ⟨.timelineRegressed, by simp only [observe, hgen, ne_eq, not_true_eq_false, if_false, if_pos hreg]⟩
    · have hle : observation.sample.monotonic.millis.toNat ≤ observedAt.millis.toNat := Nat.le_of_not_lt hreg
      have hdelay : observedAt.millis.toNat - observation.sample.monotonic.millis.toNat >
          m.config.maxSamplingDelayMillis := Nat.lt_of_not_le fun h => hown ⟨hgen, hle, h⟩
      refine ⟨.samplingDelayed (observedAt.millis.toNat - observation.sample.monotonic.millis.toNat), ?_⟩
      simp only [observe, hgen, ne_eq, not_true_eq_false, if_false, if_neg hreg, if_pos hdelay]
  · refine ⟨.processGenerationChanged, ?_⟩
    simp only [observe, ne_eq, hgen, not_false_eq_true, if_true]

/-- **Everything an observation can do.** -/
theorem observe_observed (hconfig : m.config.inBounds = true) (observation : GenerationClockSample)
    (observedAt : MonotonicInstant) : Observed m observation observedAt (m.observe observation observedAt) := by
  by_cases hown : Own m observation observedAt
  · cases hstate : m.state with
    | healthy =>
      rw [observe_own_healthy hown hstate]
      unfold observeHealthy
      cases hcompare : m.compare m.lastAccepted observation.sample with
      | some fault => exact .latched fault (.inr ⟨hstate, hcompare⟩)
      | none =>
        have hfresh := snapshot_own hconfig hown m.state m.recoveryLast
        simp only at hfresh ⊢
        rw [hfresh]
        exact .accepted hown hstate hcompare
    | unhealthy fault progress required =>
      rw [observe_own_unhealthy hown hstate]
      unfold observeUnhealthy
      by_cases hforeign : fault = .processGenerationChanged
      · subst hforeign
        rw [if_pos rfl, snapshot_unhealthy (by rw [hstate]; simp) observedAt]
        exact .refused progress required hstate
      · rw [if_neg hforeign]
        cases hbind : m.recoveryLast.bind (m.compare · observation.sample) with
        | some newFault =>
          obtain ⟨candidate, hlast, hcompare⟩ := Option.bind_eq_some_iff.mp hbind
          exact .disagreed candidate newFault hown (by rw [hstate]; simp) hlast hcompare
        | none =>
          have hagrees : ∀ candidate, m.recoveryLast = some candidate →
              m.compare candidate observation.sample = none := by
            intro candidate hlast
            simpa [hlast] using hbind
          by_cases henough : min (progress + 1) 255 ≥ required
          · have hfresh := snapshot_own hconfig hown .healthy none
            simp only [if_pos henough] at hfresh ⊢
            rw [hfresh]
            exact .recovered fault progress required hown hstate hagrees henough
          · have hsame := snapshot_unhealthy (m := { m with
              state := .unhealthy fault (min (progress + 1) 255) required, recoveryLast := some observation.sample })
              (by simp) observedAt
            simp only [if_neg henough, hsame]
            exact .progressed fault progress required hown hstate hforeign hagrees (Nat.lt_of_not_le henough)
  · obtain ⟨fault, h⟩ := observe_not_own hown
    rw [h]
    exact .latched fault (.inl hown)

/-! ## The other calls -/

/-- A snapshot changes a monitor only by latching a healthy one. -/
theorem snapshot_cases (m : ReceiveClockMonitor) (observedAt : MonotonicInstant) :
    (m.snapshot observedAt).2 = m ∨
      m.state = .healthy ∧ ∃ fault, (m.snapshot observedAt).2 = m.withFault fault none := by
  unfold snapshot
  dsimp only
  split
  · rename_i h
    exact .inr ⟨h.2, _, rfl⟩
  · exact .inl rfl

/-- A fresh mapping that agrees with a window's own. -/
structure Aligned (m : ReceiveClockMonitor) (window : Ft8ReceiveWindow) (observedAt : MonotonicInstant) : Prop where
  state : m.state = .healthy
  fresh : m.mappingAge observedAt ≤ m.config.freshnessMillis
  near : |(window.mapping.monotonicMillis.toNat : Int) - (m.lastAccepted.monotonic.millis.toNat +
    (window.slotStartUtcMillis.toInt - m.lastAccepted.utc.unixMillis.toInt))| ≤ m.config.jumpToleranceMillis

theorem alignWindow_ok {window : Ft8ReceiveWindow} {age : Nat} {alignment : ReceiveWindowAlignment}
    (h : m.alignWindow window window.slot age = .ok alignment) :
    |(window.mapping.monotonicMillis.toNat : Int) - (m.lastAccepted.monotonic.millis.toNat +
      (window.slotStartUtcMillis.toInt - m.lastAccepted.utc.unixMillis.toInt))| ≤ m.config.jumpToleranceMillis := by
  simp only [alignWindow, exceptBind_ok, okOr_ok, tryU64_eq_some, tryI64_eq_some] at h
  obtain ⟨predicted, hpredicted, divergence, hdivergence, h⟩ := h
  have hslot : window.slot.startUtcUnixMillis = window.slotStartUtcMillis := rfl
  rw [hslot] at hpredicted
  rw [← hpredicted, ← hdivergence, Int.abs_eq_natAbs]
  split at h
  · cases h
  · rename_i hle
    exact Int.ofNat_le.mpr (Nat.le_of_not_lt hle)

/-- **A gated window is ready** only when it is aligned; the gate changes a monitor only by latching a healthy one. -/
theorem gate_cases (m : ReceiveClockMonitor) (event : ReceiveTimelineEvent) (observedAt : MonotonicInstant) :
    (∀ window alignment, (m.gate event observedAt).1 = .windowReady window alignment →
      event = .window window ∧ Aligned m window observedAt) ∧
    ((m.gate event observedAt).2 = m ∨
      m.state = .healthy ∧ ∃ fault, (m.gate event observedAt).2 = m.withFault fault none) := by
  cases event with
  | incomplete incomplete => exact ⟨fun _ _ h => (by cases h), .inl rfl⟩
  | window window =>
    by_cases hstate : m.state = .healthy
    · by_cases hfresh : m.mappingAge observedAt ≤ m.config.freshnessMillis
      · have hsnapshot : (m.snapshotUnchecked observedAt).state = .healthy := hstate
        simp only [gate, snapshot_fresh hfresh, hsnapshot]
        cases halign : m.alignWindow window window.slot (m.snapshotUnchecked observedAt).mappingAgeMillis with
        | ok alignment =>
          refine ⟨?_, .inl rfl⟩
          rintro _ _ ⟨rfl⟩
          exact ⟨rfl, hstate, hfresh, alignWindow_ok halign⟩
        | error fault => exact ⟨fun _ _ h => (by cases h), .inr ⟨hstate, fault, rfl⟩⟩
      · have hstale : m.snapshot observedAt =
            ((m.withFault (.staleMapping (m.mappingAge observedAt)) none).snapshotUnchecked observedAt,
              m.withFault (.staleMapping (m.mappingAge observedAt)) none) := by
          simp [snapshot, Nat.lt_of_not_le hfresh, hstate]
        have hsnapshot : ((m.withFault (.staleMapping (m.mappingAge observedAt)) none).snapshotUnchecked
            observedAt).state = .unhealthy (.staleMapping (m.mappingAge observedAt)) 0 m.config.recoverySamples := rfl
        simp only [gate, hstale, hsnapshot]
        exact ⟨fun _ _ h => (by cases h), .inr ⟨hstate, _, rfl⟩⟩
    · obtain ⟨hready, hsame⟩ : ¬(Answer.gated (m.gate (.window window) observedAt).1).Reopens ∧
          (m.gate (.window window) observedAt).2 = m := gate_unhealthy (.window window) hstate
      refine ⟨fun _ _ h => ?_, .inl hsame⟩
      rw [h] at hready
      exact absurd trivial hready

/-! ## The counter and the candidate -/

/-- The progress counter and the candidate sample agree. -/
structure Sound (m : ReceiveClockMonitor) : Prop where
  config : m.config.inBounds = true
  healthy : m.state = .healthy → m.recoveryLast = none
  unhealthy : ∀ fault progress required, m.state = .unhealthy fault progress required →
    required = m.config.recoverySamples ∧ progress < required ∧ (m.recoveryLast.isSome ↔ 0 < progress)
  foreign : ∀ progress required, m.state = .unhealthy .processGenerationChanged progress required → progress = 0

theorem Sound.withFault (h : Sound m) (fault : ReceiveClockFault) (last : Option ClockSample)
    (hlast : fault = .processGenerationChanged → last = none) : Sound (m.withFault fault last) := by
  have hrecovery := inBounds_recovery h.config
  refine ⟨h.config, fun hstate => (by cases hstate), ?_, ?_⟩
  · rintro _ _ _ ⟨rfl⟩
    refine ⟨rfl, ?_, ?_⟩
    · split <;> omega
    · cases last <;> simp [ReceiveClockMonitor.withFault]
  · rintro _ _ ⟨rfl⟩
    rw [hlast rfl]
    rfl

theorem Sound.snapshot (h : Sound m) : Sound (m.snapshot observedAt).2 := by
  rcases snapshot_cases m observedAt with hsame | ⟨-, fault, hfault⟩
  · rwa [hsame]
  · rw [hfault]
    exact h.withFault fault none fun _ => rfl

theorem Sound.gate (h : Sound m) (event : ReceiveTimelineEvent) : Sound (m.gate event observedAt).2 := by
  rcases (gate_cases m event observedAt).2 with hsame | ⟨-, fault, hfault⟩
  · rwa [hsame]
  · rw [hfault]
    exact h.withFault fault none fun _ => rfl

/-- The next candidate is one more. -/
theorem Sound.progress_lt (h : Sound m) (hstate : m.state = .unhealthy fault progress required) :
    min (progress + 1) 255 = progress + 1 := by
  have hrecovery := inBounds_recovery h.config
  obtain ⟨rfl, hlt, -⟩ := h.unhealthy fault progress required hstate
  omega

theorem Sound.observe (h : Sound m) (observation : GenerationClockSample) :
    Sound (m.observe observation observedAt).2 := by
  generalize hresult : m.observe observation observedAt = result
  have hobserved := observe_observed h.config observation observedAt
  rw [hresult] at hobserved
  cases hobserved with
  | latched fault _ =>
    rw [latch_final]
    exact h.withFault fault none fun _ => rfl
  | accepted _ hstate _ => exact ⟨h.config, h.healthy, h.unhealthy, h.foreign⟩
  | refused _ _ _ => exact h
  | disagreed candidate fault _ _ _ hcompare =>
    rw [latch_final]
    refine h.withFault fault _ fun hfault => ?_
    rw [hfault] at hcompare
    exact absurd hcompare (compare_ne _ _)
  | progressed fault progress required _ hstate hfault _ hless =>
    rw [h.progress_lt hstate] at hless ⊢
    refine ⟨h.config, fun hhealthy => (by cases hhealthy), ?_, ?_⟩
    · rintro _ _ _ ⟨rfl⟩
      exact ⟨(h.unhealthy fault progress required hstate).1, hless, by simp⟩
    · rintro _ _ ⟨rfl⟩
      exact absurd rfl hfault
  | recovered _ _ _ _ _ _ _ =>
    exact ⟨h.config, fun _ => rfl, fun _ _ _ hstate => (by cases hstate), fun _ _ hstate => (by cases hstate)⟩

theorem Sound.step (h : Sound m) (call : Call) : Sound (m.step call).2 := by
  cases call with
  | observe observation observedAt => exact h.observe observation
  | snapshot observedAt => exact h.snapshot
  | gate event observedAt => exact h.gate event

theorem sound_new {initial : GenerationClockSample} {config : ReceiveClockConfig} (h : new initial config = .ok m) :
    Sound m := by
  cases hin : config.inBounds with
  | false =>
    rw [new_of_not_inBounds hin] at h
    cases h
  | true =>
    rw [new_of_inBounds hin] at h
    cases h
    exact ⟨hin, fun _ => rfl, fun _ _ _ hstate => (by cases hstate), fun _ _ hstate => (by cases hstate)⟩

/-! ## Tags -/

/-- A transition to a usable mapping carries a healthy snapshot, any other one an unhealthy snapshot. -/
def TransitionTagged : ReceiveClockTransition → Prop
  | .healthy snapshot | .recovered snapshot => snapshot.state = .healthy
  | .becameUnhealthy snapshot | .recovering snapshot | .unhealthy snapshot => snapshot.state ≠ .healthy

/-- The tags of an answer agree with the states it shows. -/
def Answer.Tagged : Answer → Prop
  | .transition reported => TransitionTagged reported
  | .snapshot _ | .gated _ => True

theorem latch_tagged (fault : ReceiveClockFault) (last : Option ClockSample) :
    TransitionTagged (m.latch fault observedAt last).1 := by
  unfold latch
  split <;> simp [TransitionTagged, snapshotUnchecked, withFault]

theorem Sound.tagged (h : Sound m) (call : Call) : (m.step call).1.Tagged := by
  cases call with
  | observe observation observedAt =>
    show TransitionTagged (m.observe observation observedAt).1
    generalize hresult : m.observe observation observedAt = result
    have hobserved := observe_observed h.config observation observedAt
    rw [hresult] at hobserved
    cases hobserved with
    | latched fault _ => exact latch_tagged fault none
    | accepted _ hstate _ => exact hstate
    | refused progress required hstate => simp [TransitionTagged, snapshotUnchecked, hstate]
    | disagreed _ fault _ _ _ _ => exact latch_tagged fault _
    | progressed _ _ _ _ _ _ _ _ => simp [TransitionTagged, snapshotUnchecked]
    | recovered _ _ _ _ _ _ _ => rfl
  | snapshot observedAt => trivial
  | gate event observedAt => trivial

/-- A window is ready only in a monitor aligned with it. -/
def ReadyOnlyAligned (m : ReceiveClockMonitor) (call : Call) : Prop :=
  ∀ window alignment, (m.step call).1 = .gated (.windowReady window alignment) →
    ∃ observedAt, call = .gate (.window window) observedAt ∧ Aligned m window observedAt

theorem readyOnlyAligned (m : ReceiveClockMonitor) (call : Call) : ReadyOnlyAligned m call := by
  intro window alignment h
  cases call with
  | observe observation observedAt => cases h
  | snapshot observedAt => cases h
  | gate event observedAt =>
    obtain ⟨rfl, haligned⟩ := (gate_cases m event observedAt).1 window alignment (Answer.gated.inj h)
    exact ⟨observedAt, rfl, haligned⟩

end Slotpilot.Operations.ReceiveClockMonitor
