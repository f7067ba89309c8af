import Slotpilot.Audio.AnchoredClocks
import Slotpilot.Operations.Recovery

/-!
# What the gate compares

The monitor predicts the slot start of a window from its own mapping, and the window carries the slot start of the
capture's. Both are extrapolated over the distance to the same slot start, so it cancels: a healthy and fresh monitor
lets a window through exactly when the predicted slot start is representable and the distances of the two pairs of
clocks differ by at most the jump tolerance.

* `alignWindow_iff`: one alignment as a comparison of two distances;
* `gate_decision`: the windows of any run of a timeline at any monitor that a run of calls leaves healthy.
-/

set_option autoImplicit false

namespace Slotpilot.Operations

open Lib Audio ReceiveClockMonitor

/-- The monotonic time that a sample predicts for a slot start. -/
def ClockSample.predicted (sample : ClockSample) (slot : Ft8ReceiveSlot) : Int :=
  sample.monotonic.millis.toNat + (slot.startUtcUnixMillis.toInt - sample.utc.unixMillis.toInt)

/-- The prediction is representable and the two distances are within the tolerance. -/
structure OffsetsAgree (sample : ClockSample) (slot : Ft8ReceiveSlot) (anchor : TimelineAnchor) (tolerance : Nat) : Prop where
  predicted : 0 ≤ sample.predicted slot ∧ sample.predicted slot < 2 ^ 64
  near : |(anchor.monotonicMillis.toNat - anchor.utcUnixMillis.toInt) -
    (sample.monotonic.millis.toNat - sample.utc.unixMillis.toInt)| ≤ tolerance

variable {monitor : ReceiveClockMonitor} {window : Ft8ReceiveWindow} {anchor : TimelineAnchor}
  {observedAt : MonotonicInstant}

/-! ## One alignment -/

/-- A window on the clocks of an anchor has the anchor's monotonic time moved to the slot start. -/
theorem mapped_monotonic (hmapped : window.Mapped anchor.clockOffset) :
    (window.mapping.monotonicMillis.toNat : Int) =
      anchor.monotonicMillis.toNat + (window.slot.startUtcUnixMillis.toInt - anchor.utcUnixMillis.toInt) := by
  obtain ⟨hslot, hclock⟩ := hmapped
  unfold CaptureTimeEvidence.OnClock TimelineAnchor.clockOffset at hclock
  rw [hslot] at hclock
  show _ = _ + (window.slotStartUtcMillis.toInt - _)
  omega

/-- The divergence of a window is the difference of the two distances. -/
theorem divergence_eq (sample : ClockSample) (hmapped : window.Mapped anchor.clockOffset) :
    (window.mapping.monotonicMillis.toNat : Int) - sample.predicted window.slot =
      (anchor.monotonicMillis.toNat - anchor.utcUnixMillis.toInt) -
        (sample.monotonic.millis.toNat - sample.utc.unixMillis.toInt) := by
  rw [mapped_monotonic hmapped]
  unfold ClockSample.predicted
  omega

/-- A policy tolerates a few seconds. -/
theorem inBounds_tolerance {config : ReceiveClockConfig} (h : config.inBounds = true) :
    config.jumpToleranceMillis ≤ 5000 := by
  simp only [ReceiveClockConfig.inBounds, Bool.not_eq_true', Bool.or_eq_false_iff, decide_eq_false_iff_not] at h
  omega

/-- A policy takes a mapping as fresh for a minute at most. -/
theorem inBounds_freshness {config : ReceiveClockConfig} (h : config.inBounds = true) :
    config.freshnessMillis ≤ 60000 := by
  simp only [ReceiveClockConfig.inBounds, Bool.not_eq_true', Bool.or_eq_false_iff, decide_eq_false_iff_not] at h
  omega

/-- A new monitor has the policy it was given. -/
theorem new_config {initial : GenerationClockSample} {config : ReceiveClockConfig}
    (h : ReceiveClockMonitor.new initial config = .ok monitor) : monitor.config = config := by
  cases hbounds : config.inBounds with
  | false =>
    rw [new_of_not_inBounds hbounds] at h
    cases h
  | true =>
    rw [new_of_inBounds hbounds] at h
    cases h
    rfl

/-- An alignment succeeds exactly when the offsets agree. -/
theorem alignWindow_iff (hconfig : monitor.config.inBounds = true) (hmapped : window.Mapped anchor.clockOffset)
    (age : Nat) :
    (∃ alignment, monitor.alignWindow window window.slot age = .ok alignment) ↔
      OffsetsAgree monitor.lastAccepted window.slot anchor monitor.config.jumpToleranceMillis := by
  have htolerance := inBounds_tolerance hconfig
  have hdivergence := divergence_eq monitor.lastAccepted hmapped
  constructor
  · intro haligned
    obtain ⟨alignment, halignment⟩ := haligned
    simp only [alignWindow, exceptBind_ok, okOr_ok, tryU64_eq_some, tryI64_eq_some] at halignment
    obtain ⟨predicted, hpredicted, divergence, hvalue, halignment⟩ := halignment
    have hlt := predicted.toNat_lt
    have hsame : (predicted.toNat : Int) = monitor.lastAccepted.predicted window.slot := hpredicted
    split at halignment
    · cases halignment
    · rename_i hnear
      refine ⟨⟨by omega, by omega⟩, ?_⟩
      rw [← hdivergence, ← hsame, ← hvalue, Int.abs_eq_natAbs]
      omega
  · intro hagree
    obtain ⟨⟨hnonneg, hlt⟩, hnear⟩ := hagree
    rw [← hdivergence] at hnear
    obtain ⟨predicted, hpredicted⟩ := tryU64_isSome hnonneg hlt
    have hsame := tryU64_eq_some.mp hpredicted
    have hbounds := abs_le.mp hnear
    obtain ⟨divergence, hvalue⟩ := tryI64_isSome
      (z := (window.mapping.monotonicMillis.toNat : Int) - predicted.toNat) (by omega) (by omega)
    have hdiv := tryI64_eq_some.mp hvalue
    have hinside : ¬divergence.toInt.natAbs > monitor.config.jumpToleranceMillis := by
      rw [hdiv, hsame]
      omega
    refine ⟨{ slot := window.slot, slotStartMonotonic := ⟨predicted⟩, mappingAgeMillis := age }, ?_⟩
    simp only [alignWindow, exceptBind_ok, okOr_ok]
    refine ⟨predicted, hpredicted, divergence, hvalue, ?_⟩
    rw [if_neg hinside]
    rfl

/-! ## The gate -/

/-- A healthy and fresh monitor answers a window by its alignment. -/
theorem gate_ready_iff (hhealthy : monitor.state = .healthy)
    (hfresh : monitor.mappingAge observedAt ≤ monitor.config.freshnessMillis) :
    (∃ alignment, (monitor.gate (.window window) observedAt).1 = .windowReady window alignment) ↔
      ∃ alignment, monitor.alignWindow window window.slot (monitor.mappingAge observedAt) = .ok alignment := by
  have hstate : (monitor.snapshotUnchecked observedAt).state = .healthy := hhealthy
  have hage : (monitor.snapshotUnchecked observedAt).mappingAgeMillis = monitor.mappingAge observedAt := rfl
  simp only [gate, snapshot_fresh hfresh, hstate, hage]
  cases monitor.alignWindow window window.slot (monitor.mappingAge observedAt) with
  | ok alignment => simp
  | error fault => simp

/-- A window that passes is the gated one, and the mapping it passes on is fresh. -/
theorem gate_ready_age {event : ReceiveTimelineEvent} {alignment : ReceiveWindowAlignment}
    (h : (monitor.gate event observedAt).1 = .windowReady window alignment) :
    event = .window window ∧ alignment.mappingAgeMillis ≤ monitor.config.freshnessMillis := by
  obtain ⟨rfl, haligned⟩ := (gate_cases monitor event observedAt).1 window alignment h
  refine ⟨rfl, ?_⟩
  have hstate : (monitor.snapshotUnchecked observedAt).state = .healthy := haligned.state
  simp only [gate, snapshot_fresh haligned.fresh, hstate] at h
  split at h
  · rename_i ready halignment
    cases h
    simp only [alignWindow, exceptBind_ok, okOr_ok] at halignment
    obtain ⟨predicted, -, divergence, -, hready⟩ := halignment
    split at hready
    · cases hready
    · cases hready
      exact haligned.fresh
  · cases h

/-- **The gate's decision**: a window that any run of a timeline emits has the UTC of its slot start and the monotonic
time of the timeline's anchor moved to it, and a monitor that any run of calls leaves healthy and fresh lets it through
exactly when the offsets of the two pairs of clocks agree. -/
theorem gate_decision (processGeneration : ProcessGeneration) (streamGeneration : StreamGeneration)
    (configuration : InputConfiguration) (run : List (CaptureBatch × UInt64)) (input : CaptureBatch × UInt64)
    {events : List ReceiveTimelineEvent} {initial : GenerationClockSample} {config : ReceiveClockConfig}
    {started : ReceiveClockMonitor} (calls : List Call) :
    let s := final Ft8ReceiveTimeline.step (.new processGeneration streamGeneration configuration) run
    let monitor := final ReceiveClockMonitor.step started calls
    (s.step input).1 = .ok events → .window window ∈ events → ReceiveClockMonitor.new initial config = .ok started →
      monitor.state = .healthy → monitor.mappingAge observedAt ≤ config.freshnessMillis →
        ∃ anchor, (s.step input).2.anchor = some anchor ∧ (∀ before, s.anchor = some before → before = anchor) ∧
          window.mapping.utcUnixMillis = window.slot.startUtcUnixMillis ∧
          (window.mapping.monotonicMillis.toNat : Int) =
            anchor.monotonicMillis.toNat + (window.slot.startUtcUnixMillis.toInt - anchor.utcUnixMillis.toInt) ∧
          ((∃ alignment, (monitor.gate (.window window) observedAt).1 = .windowReady window alignment) ↔
            OffsetsAgree monitor.lastAccepted window.slot anchor config.jumpToleranceMillis) := by
  intro s monitor hpush hwindow hnew hhealthy hfresh
  have hlinked := Ft8ReceiveTimeline.linked_run processGeneration streamGeneration configuration run
  obtain ⟨-, hanchor, anchor, hemitted, hmapped⟩ :=
    (Ft8ReceiveTimeline.push_linked hlinked).of_ok (outcome_eq_ok.mp hpush)
  have hsound := sound_final (sound_new hnew) calls
  have hpolicy : monitor.config = config := by
    rw [(final_samePolicy (sound_new hnew) calls).2]
    exact new_config hnew
  have hwindowMapped : window.Mapped anchor.clockOffset := hmapped _ hwindow
  refine ⟨anchor, hemitted, ?_, hwindowMapped.1, mapped_monotonic hwindowMapped, ?_⟩
  · intro before hbefore
    rw [hanchor] at hemitted
    have hkept : Ft8ReceiveTimeline.anchorAfter input.1 s = before := by
      rw [Ft8ReceiveTimeline.anchorAfter, hbefore]
      rfl
    exact hkept.symm.trans (Option.some.inj hemitted)
  · rw [gate_ready_iff hhealthy (hpolicy.symm ▸ hfresh), alignWindow_iff hsound.config hwindowMapped, hpolicy]

/-- The window of a slot of silence at a monitor of the default policy. -/
theorem gate_decision_silent :
    ∃ run input events window anchor,
      let s := final Ft8ReceiveTimeline.step (.new ⟨1, one_nonzero⟩ ⟨1, one_nonzero⟩ monoConfiguration) run
      (s.step input).1 = .ok events ∧ .window window ∈ events ∧ (s.step input).2.anchor = some anchor ∧
        ((∃ alignment, (startedMonitor.gate (.window window) ⟨0⟩).1 = .windowReady window alignment) ↔
          OffsetsAgree startedMonitor.lastAccepted window.slot anchor 100) := by
  obtain ⟨run, input, events, window, hpush, hwindow⟩ := Ft8ReceiveTimeline.silent_window
  have hnew : ReceiveClockMonitor.new ownSample .default = .ok startedMonitor := by decide
  have hfresh : startedMonitor.mappingAge ⟨0⟩ ≤ 2500 := by decide
  obtain ⟨anchor, hanchor, -, -, -, hready⟩ :=
    gate_decision ⟨1, one_nonzero⟩ ⟨1, one_nonzero⟩ monoConfiguration run input [] hpush hwindow hnew rfl hfresh
  exact ⟨run, input, events, window, anchor, hpush, hwindow, hanchor, hready⟩

end Slotpilot.Operations
