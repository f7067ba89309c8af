import Slotpilot.Audio.CallbackClock
import Slotpilot.Audio.Mapping
import Slotpilot.Operations.SystemClock

/-!
# Two monotonic origins

The process clock counts from the instant it was created, the capture clock from the instant capture was opened. With
ideal clocks (UTC is `epoch` milliseconds ahead of the instants, no callback delay) capture evidence is behind the
process clock by the distance of the two origins: batches seem later by it, and windows diverge by it
(`captured_reading`, `captured_lateness`, `captured_alignment`). The two agree exactly when the origins do.
-/

set_option autoImplicit false

namespace Slotpilot.Operations

open Lib Audio

/-! ## Ideal clocks -/

section Clocks

variable (generation : ClockProcessGeneration) (epoch p c : Nat)

/-- The process clock created at `p` reads `s` at the instant `t`. -/
def Reads (t : Nat) (s : GenerationClockSample) : Prop :=
  (SystemClock.new generation p).sample t (epoch + t : Nat) t = .ok s

/-- A capture opened at `c` delivers the batch whose first frame is captured at the instant `t`: a callback of it at an
earlier instant has the batch at the distance in between. -/
def CapturedAt (t : Nat) (batch : CaptureBatch) : Prop :=
  ∃ called frameOffset, c ≤ called ∧ t = called + offsetMillis frameOffset batch.configuration.sampleRateHz ∧
    firstFrameEvidence (processNative 0 ((SystemCallbackClock.new c).reading called (epoch + called : Nat)))
      batch.firstFrame.position (offsetMillis frameOffset batch.configuration.sampleRateHz) = .ok batch.firstFrame

/-- Capture and process clock share one monotonic timeline: batches carry the process clock's reading, their lateness is
the time since capture, and their windows do not diverge. -/
structure OneTimeline : Prop where
  reading : ∀ t s batch, CapturedAt epoch c t batch → Reads generation epoch p t s →
    batch.firstFrame.monotonicMillis = s.sample.monotonic.millis
  lateness : ∀ t t' s batch, t ≤ t' → CapturedAt epoch c t batch → Reads generation epoch p t' s →
    Ft8ReceiveTimeline.lateness batch s.sample.monotonic.millis = t' - t
  alignment : ∀ (pg : ProcessGeneration) (sg : StreamGeneration) (configuration : InputConfiguration)
      (run : List (CaptureBatch × UInt64)),
    (∀ input ∈ run, ∃ t s, CapturedAt epoch c t input.1 ∧ Reads generation epoch p t s) →
    ∀ entry ∈ transcript Ft8ReceiveTimeline.step (.new pg sg configuration) run,
      ∀ window, .window window ∈ Ft8ReceiveTimeline.eventsOf entry →
        ∀ (monitor : ReceiveClockMonitor) (t : Nat) (s : GenerationClockSample) (age : Nat), p ≤ t →
          Reads generation epoch p t s → monitor.lastAccepted = s.sample →
          ∃ alignment, monitor.alignWindow window window.slot age = .ok alignment ∧
            alignment.slotStartMonotonic.millis = window.mapping.monotonicMillis

end Clocks

variable {generation : ClockProcessGeneration} {epoch p c t t' : Nat} {s : GenerationClockSample}
  {batch : CaptureBatch}

theorem reads_iff : Reads generation epoch p t s ↔
    s.generation = generation ∧ s.sample.utc.unixMillis.toInt = (epoch + t : Nat) ∧
      s.sample.monotonic.millis.toNat = t - p := by
  obtain ⟨g, ⟨⟨utc, hutc⟩, ⟨monotonic⟩⟩⟩ := s
  have hneg : ¬((epoch + t : Nat) : Int) < 0 := by omega
  simp only [Reads, SystemClock.sample, SystemClock.new, durationMillis, if_neg hneg, exceptBind_ok, okOr_ok,
    tryU64_eq_some, tryI64_eq_some, exceptMapError_ok, UtcInstant.fromUnixMillis]
  constructor
  · rintro ⟨before, hb, after, ha, midpoint, hm, utc', hu, instant, hi, h⟩
    cases h
    split at hi
    · cases hi
      exact ⟨rfl, hu, by omega⟩
    · cases hi
  · rintro ⟨rfl, hu, hm⟩
    exact ⟨monotonic, by omega, monotonic, by omega, monotonic, by omega, utc, hu, ⟨utc, hutc⟩, dif_pos hutc, rfl⟩

/-- A clock that can be read can be read before. -/
theorem reads_earlier (h : Reads generation epoch p t' s) (hle : t ≤ t') : ∃ s, Reads generation epoch p t s := by
  obtain ⟨-, hutc, hmono⟩ := reads_iff.mp h
  have h1 := s.sample.utc.unixMillis.toInt_lt
  have h2 := s.sample.monotonic.millis.toNat_lt
  obtain ⟨utc, hu⟩ := tryI64_isSome (z := (epoch + t : Nat)) (by omega) (by omega)
  obtain ⟨monotonic, hm⟩ := tryU64_isSome (z := (t - p : Nat)) (by omega) (by omega)
  rw [tryI64_eq_some] at hu
  rw [tryU64_eq_some] at hm
  exact ⟨⟨generation, ⟨⟨utc, by omega⟩, ⟨monotonic⟩⟩⟩, reads_iff.mpr ⟨rfl, hu, Int.natCast_inj.mp hm⟩⟩

/-! ## The distance of the origins -/

/-- The evidence of a batch whose first frame is captured at `called + offset`. -/
theorem firstFrameEvidence_ok {called offset : Nat} {position : CapturePosition} {e : CaptureTimeEvidence}
    (hcalled : c ≤ called) (hreads : Reads generation epoch p (called + offset) s) :
    firstFrameEvidence (processNative 0 ((SystemCallbackClock.new c).reading called (epoch + called : Nat))) position
        offset = .ok e ↔
      e.position = position ∧ e.utcUnixMillis.toInt = (epoch + (called + offset) : Nat) ∧
        e.monotonicMillis.toNat + c = called + offset := by
  obtain ⟨-, hutc, hmono⟩ := reads_iff.mp hreads
  have h1 := s.sample.utc.unixMillis.toInt_lt
  have h2 := s.sample.monotonic.millis.toNat_lt
  have hneg : ¬((epoch + called : Nat) : Int) < 0 := by omega
  have hdelay : min ((tryU32 ((0 : Nat) : Int)).getD (2 ^ 32 - 1)) maxCallbackDelayMillis = 0 := by decide
  obtain ⟨utc, hu⟩ := tryI64_isSome (z := (epoch + called : Nat)) (by omega) (by omega)
  have hu' := tryI64_eq_some.mp hu
  simp only [firstFrameEvidence, processNative, SystemCallbackClock.reading, SystemCallbackClock.new, if_neg hneg, hu,
    Option.getD_some, CaptureTimeEvidence.new_ok, hdelay]
  -- no step saturates
  rw [saturateI64_of_fits (z := utc.toInt - (0 : Nat)) (by omega) (by omega),
    saturateI64_of_fits (z := (offset : Int)) (by omega) (by omega),
    saturateU64_of_fits (z := (called - c : Nat)) (by omega) (by omega),
    saturateU64_of_fits (z := (called - c : Nat) - (0 : Nat)) (by omega) (by omega)]
  have hI := saturateI64_of_fits (z := utc.toInt - (0 : Nat) + offset) (by omega) (by omega)
  have hU := saturateU64_of_fits (z := (called - c : Nat) - (0 : Nat) + offset) (by omega) (by omega)
  obtain ⟨position', utc', monotonic'⟩ := e
  rw [CaptureTimeEvidence.mk.injEq, ← Int64.toInt_inj, ← UInt64.toNat_inj]
  constructor
  · rintro ⟨-, hposition, hu, hm⟩
    exact ⟨hposition, by show utc'.toInt = _; omega, by show monotonic'.toNat + c = _; omega⟩
  · rintro ⟨hposition, hu, hm⟩
    have hu : utc'.toInt = _ := hu
    have hm : monotonic'.toNat + c = _ := hm
    exact ⟨by omega, hposition, by omega, by omega⟩

theorem captured_values (hcaptured : CapturedAt epoch c t batch) (hreads : Reads generation epoch p t s) :
    batch.firstFrame.utcUnixMillis.toInt = (epoch + t : Nat) ∧ batch.firstFrame.monotonicMillis.toNat + c = t := by
  obtain ⟨called, frameOffset, hcalled, rfl, hevidence⟩ := hcaptured
  exact ((firstFrameEvidence_ok hcalled hreads).mp hevidence).2

/-- Capture evidence is behind the process clock by the distance of the origins. -/
theorem captured_reading (hpc : p ≤ c) (hcaptured : CapturedAt epoch c t batch)
    (hreads : Reads generation epoch p t s) :
    batch.firstFrame.monotonicMillis.toNat + (c - p) = s.sample.monotonic.millis.toNat := by
  have hvalues := captured_values hcaptured hreads
  have hmono := (reads_iff.mp hreads).2.2
  omega

/-- A batch seems later than it is by the distance of the origins. -/
theorem captured_lateness (hpc : p ≤ c) (hcaptured : CapturedAt epoch c t batch) (hle : t ≤ t')
    (hreads : Reads generation epoch p t' s) :
    Ft8ReceiveTimeline.lateness batch s.sample.monotonic.millis = t' - t + (c - p) := by
  obtain ⟨s', hs'⟩ := reads_earlier hreads hle
  have hvalues := captured_values hcaptured hs'
  have hmono := (reads_iff.mp hreads).2.2
  unfold Ft8ReceiveTimeline.lateness
  omega

theorem captured_onClock (hcaptured : CapturedAt epoch c t batch) (hreads : Reads generation epoch p t s) :
    batch.firstFrame.OnClock (epoch + c : Nat) := by
  have hvalues := captured_values hcaptured hreads
  unfold CaptureTimeEvidence.OnClock
  omega

/-- A slot start on the process clock is ahead of the window's mapping by the distance of the origins. -/
theorem captured_alignment {window : Ft8ReceiveWindow} {sample : ClockSample} (hpc : p ≤ c) (ht : p ≤ t)
    (hwindow : window.Mapped (epoch + c : Nat)) (hreads : Reads generation epoch p t s) (hsample : sample = s.sample) :
    sample.monotonic.millis.toNat + (window.slot.startUtcUnixMillis.toInt - sample.utc.unixMillis.toInt) =
      window.mapping.monotonicMillis.toNat + (c - p : Nat) := by
  obtain ⟨-, hutc, hmono⟩ := reads_iff.mp hreads
  obtain ⟨hslot, hclock⟩ := hwindow
  unfold CaptureTimeEvidence.OnClock at hclock
  rw [hslot] at hclock
  show _ + (window.slotStartUtcMillis.toInt - _) = _
  rw [hsample]
  omega

/-- A monitor that predicts the mapping of a window finds no divergence. -/
theorem alignWindow_exact {monitor : ReceiveClockMonitor} {window : Ft8ReceiveWindow} (age : Nat)
    (h : monitor.lastAccepted.monotonic.millis.toNat +
      (window.slot.startUtcUnixMillis.toInt - monitor.lastAccepted.utc.unixMillis.toInt) =
        window.mapping.monotonicMillis.toNat) :
    monitor.alignWindow window window.slot age =
      .ok { slot := window.slot, slotStartMonotonic := ⟨window.mapping.monotonicMillis⟩, mappingAgeMillis := age } := by
  have hp : tryU64 (window.mapping.monotonicMillis.toNat : Int) = some window.mapping.monotonicMillis :=
    tryU64_eq_some.mpr rfl
  have hd : tryI64 0 = some 0 := tryI64_eq_some.mpr rfl
  have htolerance : ¬(Int64.toInt 0).natAbs > monitor.config.jumpToleranceMillis := Nat.not_lt_zero _
  simp only [ReceiveClockMonitor.alignWindow, h, hp, okOr, bind, Except.bind, sub_self, hd]
  rw [if_neg htolerance]
  rfl

/-! ## One timeline -/

/-- Equal origins give one timeline. -/
theorem oneTimeline_of_eq : OneTimeline generation epoch p p where
  reading t s batch hcaptured hreads := by
    have h := captured_reading (Nat.le_refl p) hcaptured hreads
    exact UInt64.toNat_inj.mp (by omega)
  lateness t t' s batch hle hcaptured hreads := by
    rw [captured_lateness (Nat.le_refl p) hcaptured hle hreads]
    omega
  alignment pg sg configuration run hrun entry hentry window hwindow monitor t s age ht hreads hmonitor := by
    have hclock : ∀ input ∈ run, input.1.firstFrame.OnClock (epoch + p : Nat) := by
      intro input hinput
      obtain ⟨t, s, hcaptured, hreads⟩ := hrun input hinput
      exact captured_onClock hcaptured hreads
    have hmapped := Ft8ReceiveTimeline.windows_mapped pg sg configuration run hclock entry hentry _ hwindow
    have halign := captured_alignment (Nat.le_refl p) ht hmapped hreads hmonitor
    rw [Nat.sub_self, Nat.cast_zero, add_zero] at halign
    exact ⟨_, alignWindow_exact age halign, rfl⟩

/-- A process clock that cannot be read any more is not contradicted. -/
theorem oneTimeline_of_never (hnever : ∀ t s, c ≤ t → ¬Reads generation epoch p t s) :
    OneTimeline generation epoch p c := by
  have hno {t t' : Nat} {s : GenerationClockSample} {batch : CaptureBatch} (hle : t ≤ t')
      (hcaptured : CapturedAt epoch c t batch) : ¬Reads generation epoch p t' s := by
    obtain ⟨called, frameOffset, hcalled, rfl, -⟩ := hcaptured
    exact hnever t' s (hcalled.trans ((Nat.le_add_right _ _).trans hle))
  refine ⟨fun t s batch hcaptured hreads => ?_, fun t t' s batch hle hcaptured hreads => ?_, ?_⟩
  · exact absurd hreads (hno (Nat.le_refl t) hcaptured)
  · exact absurd hreads (hno hle hcaptured)
  · intro pg sg configuration run hrun
    cases run with
    | nil => simp
    | cons input run =>
      obtain ⟨t, s, hcaptured, hreads⟩ := hrun input List.mem_cons_self
      exact absurd hreads (hno (Nat.le_refl t) hcaptured)

/-- A batch can be captured when capture is opened. -/
theorem exists_captured (hreads : Reads generation epoch p c s) : ∃ batch, CapturedAt epoch c c batch := by
  let evidence : CaptureTimeEvidence := ⟨⟨0⟩, s.sample.utc.unixMillis, 0⟩
  have hoffset (rate : Nat) : offsetMillis 0 rate = 0 := by simp [offsetMillis]
  have hevidence : firstFrameEvidence (processNative 0 ((SystemCallbackClock.new c).reading c (epoch + c : Nat))) ⟨0⟩ 0 =
      .ok evidence := by
    refine (firstFrameEvidence_ok (Nat.le_refl c) (by rw [Nat.add_zero]; exact hreads)).mpr ⟨rfl, ?_, ?_⟩
    · exact (reads_iff.mp hreads).2.1
    · simp [evidence]
  refine ⟨.silent ⟨1, by decide⟩ ⟨1, by decide⟩ monoConfiguration evidence 1 (by decide) (by decide),
    c, 0, Nat.le_refl c, ?_, ?_⟩
  · rw [hoffset, Nat.add_zero]
  · rw [hoffset]
    exact hevidence

theorem eq_of_oneTimeline (hpc : p ≤ c) (h : OneTimeline generation epoch p c) (hreads : Reads generation epoch p c s) :
    c = p := by
  obtain ⟨batch, hbatch⟩ := exists_captured hreads
  have hsame := h.reading c s batch hbatch hreads
  have hbehind := captured_reading hpc hbatch hreads
  rw [hsame] at hbehind
  omega

/-- **Capture and process clock share one timeline** exactly when their origins are the same instant, or when the
process clock cannot be read any more. -/
theorem one_timeline_iff (hpc : p ≤ c) :
    OneTimeline generation epoch p c ↔ c = p ∨ ∀ t s, c ≤ t → ¬Reads generation epoch p t s := by
  constructor
  · intro h
    by_cases hread : ∃ t s, c ≤ t ∧ Reads generation epoch p t s
    · obtain ⟨t, s, ht, hs⟩ := hread
      obtain ⟨s', hs'⟩ := reads_earlier hs ht
      exact .inl (eq_of_oneTimeline hpc h hs')
    · exact .inr fun t s ht hs => hread ⟨t, s, ht, hs⟩
  · rintro (rfl | hnever)
    · exact oneTimeline_of_eq
    · exact oneTimeline_of_never hnever

/-- A capture opened at the instant the process clock is created. -/
theorem one_timeline_iff_same : OneTimeline ⟨1, by decide⟩ 0 5 5 :=
  (one_timeline_iff (Nat.le_refl 5)).mpr (.inl rfl)

/-- Three seconds after the process clock, capture starts a timeline of its own. -/
theorem one_timeline_fails :
    ¬∀ (generation : ClockProcessGeneration) (epoch p c : Nat), p ≤ c → OneTimeline generation epoch p c := by
  intro h
  have hnever (s : GenerationClockSample) : ¬Reads ⟨1, by decide⟩ 0 0 3000 s := fun hreads =>
    absurd (eq_of_oneTimeline (Nat.zero_le 3000) (h _ 0 0 3000 (Nat.zero_le 3000)) hreads) (by decide)
  refine hnever ⟨⟨1, by decide⟩, ⟨3000, by decide⟩, ⟨3000⟩⟩ (reads_iff.mpr ⟨rfl, ?_, ?_⟩)
  · decide
  · decide

end Slotpilot.Operations
