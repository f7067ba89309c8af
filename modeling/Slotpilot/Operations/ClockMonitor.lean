import Slotpilot.Operations.Time
import Slotpilot.Lib.Machine

/-!
# The clock monitor

`observe` compares the progress of UTC with that of the monotonic time since the last accepted sample. Monotonic progress
that is not a signed 64-bit number is taken for the largest one, which can hide a divergence (`Masked`). The monitor is
exact in a run, and latched by the first sample that is not within its tolerance, when no such sample reaches it healthy
(`clock_monitor_exact`).
-/

set_option autoImplicit false

namespace Slotpilot.Operations

open Lib

/-! ## The monitor -/

/-- Why a clock mapping became unhealthy. -/
inductive ClockFault
  | wallClockJump (divergenceMillis : Int64)
  | timelineRegressed
  deriving DecidableEq

/-- Clock health. -/
inductive ClockHealth
  | healthy
  | unhealthy (fault : ClockFault)
  deriving DecidableEq

/-- Comparison of sampled mappings. -/
structure ClockMonitor where
  last : ClockSample
  toleranceMillis : UInt64
  health : ClockHealth
  deriving DecidableEq

namespace ClockMonitor

/-- A healthy monitor. -/
def new (initial : ClockSample) (toleranceMillis : UInt64) : ClockMonitor :=
  { last := initial, toleranceMillis, health := .healthy }

/-- Latches a fault. -/
def latch (self : ClockMonitor) (fault : ClockFault) : ClockHealth × ClockMonitor :=
  (.unhealthy fault, { self with health := .unhealthy fault })

/-- Observes a sample. -/
def observe (self : ClockMonitor) (sample : ClockSample) : ClockHealth × ClockMonitor :=
  if self.health ≠ .healthy then (self.health, self)
  else
    match tryI64 (sample.utc.unixMillis.toInt - self.last.utc.unixMillis.toInt) with
    | none => self.latch .timelineRegressed
    | some utcDelta =>
      match tryU64 (sample.monotonic.millis.toNat - self.last.monotonic.millis.toNat) with
      | none => self.latch .timelineRegressed
      | some monotonicDelta =>
        if utcDelta.toInt < 0 then self.latch .timelineRegressed
        else
          let monotonicDelta := (tryI64 monotonicDelta.toNat).getD (Int64.ofInt (2 ^ 63 - 1))
          let divergence := saturateI64 (utcDelta.toInt - monotonicDelta.toInt)
          if divergence.toInt.natAbs > self.toleranceMillis.toNat then self.latch (.wallClockJump divergence)
          else (self.health, { self with last := sample })

end ClockMonitor

/-! ## Exact comparison -/

/-- UTC and monotonic progress from one sample to another. -/
def utcProgress (last sample : ClockSample) : Int := sample.utc.unixMillis.toInt - last.utc.unixMillis.toInt

def monotonicProgress (last sample : ClockSample) : Int := sample.monotonic.millis.toNat - last.monotonic.millis.toNat

/-- Neither timeline regressed, and their progress differs by at most the tolerance. -/
def Within (toleranceMillis : UInt64) (last sample : ClockSample) : Prop :=
  0 ≤ utcProgress last sample ∧ 0 ≤ monotonicProgress last sample ∧
    |utcProgress last sample - monotonicProgress last sample| ≤ toleranceMillis.toNat

/-- Monotonic progress above the signed range hides a divergence beyond the tolerance. -/
def Masked (toleranceMillis : UInt64) (last sample : ClockSample) : Prop :=
  0 ≤ utcProgress last sample ∧ 2 ^ 63 ≤ monotonicProgress last sample ∧
    2 ^ 63 - 1 - utcProgress last sample ≤ toleranceMillis.toNat ∧
    toleranceMillis.toNat < monotonicProgress last sample - utcProgress last sample

/-- The sample that the next one is compared with: the last one found healthy. -/
def lastAccepted (initial : ClockSample) (observed : List (ClockSample × ClockHealth)) : ClockSample :=
  observed.foldl (fun last answer => if answer.2 = .healthy then answer.1 else last) initial

namespace ClockMonitor

variable {self : ClockMonitor} {sample : ClockSample}

/-- Progress that is not a signed 64-bit number counts as the largest one. -/
theorem toInt_clampI64 (delta : UInt64) :
    ((tryI64 delta.toNat).getD (Int64.ofInt (2 ^ 63 - 1))).toInt = min delta.toNat (2 ^ 63 - 1) := by
  cases hdelta : tryI64 (delta.toNat : Int) with
  | some value =>
    have hvalue := tryI64_eq_some.mp hdelta
    have hrange := value.toInt_lt
    rw [Option.getD_some]
    omega
  | none =>
    have hlarge : (2 ^ 63 : Int) ≤ delta.toNat := by
      by_contra hfits
      obtain ⟨value, hsome⟩ := tryI64_isSome (z := (delta.toNat : Int)) (by omega) (by omega)
      rw [hsome] at hdelta
      cases hdelta
    rw [Option.getD_none, Int64.toInt_ofInt_of_le (by decide) (by decide)]
    omega

/-- A latched monitor keeps its fault. -/
theorem observe_unhealthy (h : self.health ≠ .healthy) : self.observe sample = (self.health, self) := by
  unfold observe
  rw [if_pos h]

/-- What a healthy monitor does: it accepts a sample within its tolerance or a masked one, and latches otherwise. -/
theorem observe_healthy (h : self.health = .healthy) (sample : ClockSample) :
    (self.observe sample = (.healthy, { self with last := sample }) ∧
      (Within self.toleranceMillis self.last sample ∨ Masked self.toleranceMillis self.last sample)) ∨
    ∃ fault, self.observe sample = self.latch fault ∧ ¬Within self.toleranceMillis self.last sample ∧
      ¬Masked self.toleranceMillis self.last sample := by
  have hnonneg := sample.utc.nonneg
  have hnonneg' := self.last.utc.nonneg
  have hrange := sample.utc.unixMillis.toInt_lt
  have hrange' := self.last.utc.unixMillis.toInt_lt
  have hlarge := sample.monotonic.millis.toNat_lt
  unfold observe
  rw [if_neg (not_not.mpr h)]
  obtain ⟨utcDelta, hutc⟩ := tryI64_isSome
    (z := sample.utc.unixMillis.toInt - self.last.utc.unixMillis.toInt) (by omega) (by omega)
  have hutc' : utcDelta.toInt = utcProgress self.last sample := tryI64_eq_some.mp hutc
  rw [hutc]
  dsimp only
  cases hmonotonic : tryU64 ((sample.monotonic.millis.toNat : Int) - self.last.monotonic.millis.toNat) with
  | none =>
    have hregressed : ¬0 ≤ monotonicProgress self.last sample := by
      intro hforward
      unfold monotonicProgress at hforward
      obtain ⟨delta, hsome⟩ := tryU64_isSome hforward (by omega)
      rw [hsome] at hmonotonic
      cases hmonotonic
    exact .inr ⟨_, rfl, fun hwithin => hregressed hwithin.2.1, fun hmasked => hregressed (by have := hmasked.2.1; omega)⟩
  | some monotonicDelta =>
    have hmonotonic' : (monotonicDelta.toNat : Int) = monotonicProgress self.last sample :=
      tryU64_eq_some.mp hmonotonic
    have hpositive : 0 ≤ monotonicProgress self.last sample := by omega
    dsimp only
    split
    · rename_i hregressed
      exact .inr ⟨_, rfl, fun hwithin => by have := hwithin.1; omega, fun hmasked => by have := hmasked.1; omega⟩
    · rename_i hforward
      have hcompared := toInt_clampI64 monotonicDelta
      have hupper := utcDelta.toInt_lt
      rw [saturateI64_of_fits (by omega) (by omega)]
      split
      · rename_i hdiverged
        refine .inr ⟨_, rfl, fun hwithin => ?_, fun hmasked => ?_⟩
        · obtain ⟨-, -, hclose⟩ := hwithin
          rw [abs_le] at hclose
          omega
        · obtain ⟨-, hhuge, hhidden, -⟩ := hmasked
          omega
      · rename_i haccepted
        refine .inl ⟨by rw [h], ?_⟩
        by_cases hhuge : 2 ^ 63 ≤ monotonicProgress self.last sample
        · by_cases hclose :
              monotonicProgress self.last sample - utcProgress self.last sample ≤ self.toleranceMillis.toNat
          · refine .inl ⟨by omega, hpositive, ?_⟩
            rw [abs_le]
            omega
          · exact .inr ⟨by omega, hhuge, by omega, by omega⟩
        · refine .inl ⟨by omega, hpositive, ?_⟩
          rw [abs_le]
          omega

/-- The sample to compare with is replaced by an accepted one only. -/
theorem observe_last (self : ClockMonitor) (sample : ClockSample) :
    (self.observe sample).2.last = (if (self.observe sample).1 = .healthy then sample else self.last) ∧
      (self.observe sample).2.toleranceMillis = self.toleranceMillis := by
  by_cases h : self.health = .healthy
  · obtain ⟨haccepted, -⟩ | ⟨fault, hlatched, -⟩ := observe_healthy h sample
    · simp [haccepted]
    · simp [hlatched, latch]
  · rw [observe_unhealthy h]
    simp [h]

/-- A latched monitor stays so. -/
theorem unhealthy_forever (h : self.health ≠ .healthy) (samples : List ClockSample) :
    ∀ answer ∈ transcript observe self samples, answer.2 ≠ .healthy := by
  have hstep : ∀ monitor sample, monitor.health ≠ .healthy → True →
      (observe monitor sample).1 ≠ .healthy ∧ (observe monitor sample).2.health ≠ .healthy := by
    intro monitor sample hmonitor _
    rw [observe_unhealthy hmonitor]
    exact ⟨hmonitor, hmonitor⟩
  exact transcript_inv (P := fun _ answer => answer ≠ ClockHealth.healthy) hstep h
    (everyStep_of_forall (fun _ _ => trivial) self samples)

/-! ## Runs -/

/-- The monitor compares with the last accepted sample, and keeps its tolerance. -/
theorem last_final (self : ClockMonitor) (samples : List ClockSample) :
    (final observe self samples).last = lastAccepted self.last (transcript observe self samples) ∧
      (final observe self samples).toleranceMillis = self.toleranceMillis := by
  induction samples generalizing self with
  | nil => exact ⟨rfl, rfl⟩
  | cons sample samples ih =>
    obtain ⟨hlast, htolerance⟩ := observe_last self sample
    obtain ⟨hlast', htolerance'⟩ := ih (self.observe sample).2
    rw [final_cons, transcript_cons]
    refine ⟨?_, htolerance'.trans htolerance⟩
    rw [hlast', hlast]
    rfl

/-- Every sample of a run that is found healthy is within the tolerance of the last one accepted, and from the first that
is not within it the monitor is unhealthy for good. -/
def ExactRun (initial : ClockSample) (toleranceMillis : UInt64) (samples : List ClockSample) : Prop :=
  ∀ before sample later, samples = before ++ sample :: later →
    let self := final observe (new initial toleranceMillis) before
    let accepted := lastAccepted initial (transcript observe (new initial toleranceMillis) before)
    ((self.observe sample).1 = .healthy → Within toleranceMillis accepted sample) ∧
      (¬Within toleranceMillis accepted sample →
        ∀ answer ∈ transcript observe self (sample :: later), answer.2 ≠ .healthy)

/-- No masked sample reaches a healthy monitor. -/
def Unmasked (self : ClockMonitor) (sample : ClockSample) : Prop :=
  self.health = .healthy → ¬Masked self.toleranceMillis self.last sample

theorem Within.not_masked {toleranceMillis : UInt64} {last sample : ClockSample} (h : Within toleranceMillis last sample) :
    ¬Masked toleranceMillis last sample := by
  rintro ⟨-, -, -, hfar⟩
  have hclose := neg_le_of_abs_le h.2.2
  omega

/-- One sample is judged exactly unless it is masked. -/
theorem exact_step (self : ClockMonitor) (sample : ClockSample) (later : List ClockSample) :
    (((self.observe sample).1 = .healthy → Within self.toleranceMillis self.last sample) ∧
      (¬Within self.toleranceMillis self.last sample →
        ∀ answer ∈ transcript observe self (sample :: later), answer.2 ≠ .healthy)) ↔
      self.Unmasked sample := by
  constructor
  · rintro ⟨hexact, -⟩ hhealthy hmasked
    obtain ⟨haccepted, -⟩ | ⟨fault, -, -, hunmasked⟩ := observe_healthy hhealthy sample
    · exact Within.not_masked (hexact (by rw [haccepted])) hmasked
    · exact hunmasked hmasked
  · intro hunmasked
    by_cases hhealthy : self.health = .healthy
    · obtain ⟨haccepted, hwithin | hmasked⟩ | ⟨fault, hlatched, hoff, -⟩ := observe_healthy hhealthy sample
      · exact ⟨fun _ => hwithin, fun hoff => absurd hwithin hoff⟩
      · exact absurd hmasked (hunmasked hhealthy)
      · rw [transcript_cons, hlatched]
        refine ⟨fun hanswer => (nomatch hanswer), fun _ answer hmem => ?_⟩
        obtain rfl | hlater := List.mem_cons.mp hmem
        · simp [latch]
        · exact unhealthy_forever (by simp [latch]) later answer hlater
    · have hforever := unhealthy_forever hhealthy (sample :: later)
      refine ⟨fun hanswer => ?_, fun _ => hforever⟩
      exact absurd hanswer (hforever _ (by rw [transcript_cons]; exact List.mem_cons_self))

/-- **Exactness of the clock monitor**: a run is exact when no sample that reaches the monitor healthy has monotonic
progress above the signed range that hides a divergence, and only then. -/
theorem clock_monitor_exact (initial : ClockSample) (toleranceMillis : UInt64) (samples : List ClockSample) :
    ExactRun initial toleranceMillis samples ↔ EveryStep observe Unmasked (new initial toleranceMillis) samples := by
  rw [everyStep_iff]
  unfold ExactRun
  refine forall₄_congr fun before sample later hsplit => ?_
  obtain ⟨hlast, htolerance⟩ := last_final (new initial toleranceMillis) before
  have hstep := exact_step (final observe (new initial toleranceMillis) before) sample later
  rw [hlast, htolerance] at hstep
  exact hstep

/-- A sample at both origins. -/
def originSample : ClockSample :=
  { utc := ⟨0, UtcInstant.epoch_nonneg⟩, monotonic := ⟨0⟩ }

/-- The largest sample of both timelines. -/
def farthestSample : ClockSample :=
  { utc := ⟨9223372036854775807, by decide⟩, monotonic := ⟨18446744073709551615⟩ }

/-- A divergence of half of the monotonic range is accepted without any tolerance. -/
theorem hidden_divergence : ¬∀ initial toleranceMillis samples, ExactRun initial toleranceMillis samples := by
  intro h
  obtain ⟨hexact, -⟩ := h originSample 0 [farthestSample] [] farthestSample [] rfl
  have hwithin : Within 0 originSample farthestSample := hexact (by rfl)
  obtain ⟨-, -, hclose⟩ := hwithin
  revert hclose
  decide

end ClockMonitor

end Slotpilot.Operations
