import Slotpilot.Operations.Recovery

/-!
# The clock driver

`ReceiveClockDriver` samples a clock source on a cadence: `poll` reads the source and observes the reading once it is
due. It is a machine whose inputs are what the source returns.

* `CadenceKept`: two successive observations are a cadence apart;
* `Cadenced`: what a poll keeps of the readings before it;
* `cadence_kept_iff`: the runs of polls that keep the cadence.
-/

set_option autoImplicit false

namespace Slotpilot.Operations

open Lib

/-- Result of one poll. -/
inductive ReceiveClockPoll
  | notDue (nextSampleDue : MonotonicInstant)
  | observed (transition : ReceiveClockTransition)
  deriving DecidableEq

/-- Cadence driver of one monitor. -/
structure ReceiveClockDriver where
  monitor : ReceiveClockMonitor

namespace ReceiveClockDriver

def new (monitor : ReceiveClockMonitor) : ReceiveClockDriver := ⟨monitor⟩

/-- Polls once; `sampled` is what the source returns. -/
def poll (self : ReceiveClockDriver) (sampled : Except ReceiveClockError GenerationClockSample) :
    Except ReceiveClockError ReceiveClockPoll × ReceiveClockDriver :=
  match sampled with
  | .error error => (.error error, self)
  | .ok observation =>
    match self.monitor.nextSampleDue with
    | .error error => (.error error, self)
    | .ok due =>
      if observation.sample.monotonic.millis < due.millis then (.ok (.notDue due), self)
      else
        let (transition, monitor) := self.monitor.observe observation observation.sample.monotonic
        (.ok (.observed transition), ⟨monitor⟩)

/-! ## Readings -/

/-- What a source returns and what the poll makes of it. -/
abbrev Polled := Except ReceiveClockError GenerationClockSample × Except ReceiveClockError ReceiveClockPoll

/-- The monotonic reading of a sample that the source returned. -/
def readingOf : Except ReceiveClockError GenerationClockSample → Option Nat
  | .ok observation => some observation.sample.monotonic.millis.toNat
  | .error _ => none

/-- The reading that a poll observed. -/
def observedReading : Polled → Option Nat
  | (sampled, .ok (.observed _)) => readingOf sampled
  | _ => none

/-- The monotonic readings of a run of polls. -/
def readings (run : List (Except ReceiveClockError GenerationClockSample)) : List Nat := run.filterMap readingOf

/-- The readings that a run of polls observes. -/
def observedReadings (self : ReceiveClockDriver) (run : List (Except ReceiveClockError GenerationClockSample)) :
    List Nat :=
  (transcript poll self run).filterMap observedReading

/-- **The sampling cadence**: two successive observations are at least a cadence apart. -/
def CadenceKept (self : ReceiveClockDriver) (run : List (Except ReceiveClockError GenerationClockSample)) : Prop :=
  (observedReadings self run).IsChain fun earlier later => earlier + self.monitor.config.sampleCadenceMillis ≤ later

/-- A poll while the monitor is unhealthy reads the source a cadence after the reading before it. -/
def SpacedWhileUnhealthy (self : ReceiveClockDriver) (run : List (Except ReceiveClockError GenerationClockSample)) :
    Prop :=
  ∀ before sampled later, run = before ++ sampled :: later → (final poll self before).monitor.state ≠ .healthy →
    ∀ reading ∈ readingOf sampled, ∀ last ∈ (readings before).getLast?,
      last + self.monitor.config.sampleCadenceMillis ≤ reading

variable {self : ReceiveClockDriver} {run : List (Except ReceiveClockError GenerationClockSample)}
  {sampled : Except ReceiveClockError GenerationClockSample} {observation : GenerationClockSample}

@[simp] theorem readings_concat : readings (run ++ [sampled]) = readings run ++ (readingOf sampled).toList := by
  cases h : readingOf sampled <;> simp [readings, h]

theorem observedReadings_concat :
    observedReadings self (run ++ [sampled]) =
      observedReadings self run ++ (observedReading (sampled, (poll (final poll self run) sampled).1)).toList := by
  rw [observedReadings, transcript_append, List.filterMap_append]
  cases h : observedReading (sampled, (poll (final poll self run) sampled).1) <;>
    simp [observedReadings, h]

theorem spacedWhileUnhealthy_concat :
    SpacedWhileUnhealthy self (run ++ [sampled]) ↔ SpacedWhileUnhealthy self run ∧
      ((final poll self run).monitor.state ≠ .healthy → ∀ reading ∈ readingOf sampled,
        ∀ last ∈ (readings run).getLast?, last + self.monitor.config.sampleCadenceMillis ≤ reading) := by
  constructor
  · intro h
    refine ⟨fun before input later hsplit => h before input (later ++ [sampled]) (by simp [hsplit]), ?_⟩
    exact h run sampled [] rfl
  · rintro ⟨hrun, hlast⟩ before input later hsplit
    rcases List.eq_nil_or_concat later with rfl | ⟨later, final, rfl⟩
    · obtain ⟨rfl, hinput⟩ := List.append_inj' hsplit rfl
      cases hinput
      exact hlast
    · rw [List.concat_eq_append, ← List.cons_append, ← List.append_assoc] at hsplit
      exact hrun before input later (List.append_inj' hsplit rfl).1

/-! ## One poll -/

theorem nextSampleDue_ok {due : MonotonicInstant} (h : self.monitor.nextSampleDue = .ok due) :
    due.millis.toNat = self.monitor.lastAccepted.monotonic.millis.toNat + self.monitor.config.sampleCadenceMillis := by
  unfold ReceiveClockMonitor.nextSampleDue at h
  split at h
  · rename_i millis hmillis
    cases h
    exact Int.ofNat_inj.mp (tryU64_eq_some.mp hmillis)
  · cases h

/-- The driver accepted the sample, or it is unhealthy on the mapping it had. -/
theorem observe_accepts (h : self.monitor.config.inBounds = true) (observation : GenerationClockSample)
    (observedAt : MonotonicInstant) :
    let after := (self.monitor.observe observation observedAt).2
    after.state = .healthy ∧ after.lastAccepted = observation.sample ∨
      after.state ≠ .healthy ∧ after.lastAccepted = self.monitor.lastAccepted := by
  have hobserved := ReceiveClockMonitor.observe_observed h observation observedAt
  generalize self.monitor.observe observation observedAt = result at hobserved
  cases hobserved with
  | latched fault _ => exact .inr (by simp [ReceiveClockMonitor.withFault])
  | accepted _ hstate _ => exact .inl ⟨hstate, rfl⟩
  | refused _ _ hstate => exact .inr ⟨by simp [hstate], rfl⟩
  | disagreed _ _ _ _ _ _ => exact .inr (by simp [ReceiveClockMonitor.withFault])
  | progressed _ _ _ _ _ _ _ _ => exact .inr ⟨by simp, rfl⟩
  | recovered _ _ _ _ _ _ _ => exact .inl ⟨rfl, rfl⟩

/-- What the polls of a run leave: a healthy driver has accepted the reading it observed last, and an unhealthy one has
observed the last reading of all, when it was due. -/
structure Cadenced (cadence : Nat) (readings observed : List Nat) (driver : ReceiveClockDriver) : Prop where
  config : driver.monitor.config.inBounds = true
  policy : driver.monitor.config.sampleCadenceMillis = cadence
  healthy : driver.monitor.state = .healthy →
    ∀ last ∈ observed.getLast?, driver.monitor.lastAccepted.monotonic.millis.toNat = last
  unhealthy : driver.monitor.state ≠ .healthy →
    ∃ last, observed.getLast? = some last ∧ readings.getLast? = some last ∧
      driver.monitor.lastAccepted.monotonic.millis.toNat + cadence ≤ last

variable {cadence : Nat} {earlier observed : List Nat}

/-- A reading that is not observed keeps a healthy driver as it is. -/
theorem Cadenced.unobserved (h : Cadenced cadence earlier observed self) (hstate : self.monitor.state = .healthy)
    (later : List Nat) : Cadenced cadence later observed self :=
  ⟨h.config, h.policy, h.healthy, fun hunhealthy => absurd hstate hunhealthy⟩

/-- A due reading is observed, and is the last one. -/
theorem Cadenced.observe (h : Cadenced cadence earlier observed self)
    (hdue : self.monitor.lastAccepted.monotonic.millis.toNat + cadence ≤
      observation.sample.monotonic.millis.toNat) :
    Cadenced cadence (earlier ++ [observation.sample.monotonic.millis.toNat])
      (observed ++ [observation.sample.monotonic.millis.toNat])
      ⟨(self.monitor.observe observation observation.sample.monotonic).2⟩ := by
  have hpolicy : (self.monitor.observe observation observation.sample.monotonic).2.config = self.monitor.config :=
    (ReceiveClockMonitor.observe_samePolicy h.config).2
  refine ⟨hpolicy ▸ h.config, hpolicy ▸ h.policy, fun hhealthy => ?_, fun hunhealthy => ?_⟩
  · rcases observe_accepts h.config observation observation.sample.monotonic with ⟨-, haccepted⟩ | ⟨hunhealthy, -⟩
    · simp [haccepted]
    · exact absurd hhealthy hunhealthy
  · rcases observe_accepts h.config observation observation.sample.monotonic with ⟨hhealthy, -⟩ | ⟨-, hkept⟩
    · exact absurd hhealthy hunhealthy
    · exact ⟨_, List.getLast?_concat, List.getLast?_concat, by rw [hkept]; exact hdue⟩

/-- The poll of a due reading. -/
theorem poll_due {due : MonotonicInstant} (hdue : self.monitor.nextSampleDue = .ok due)
    (hle : due.millis.toNat ≤ observation.sample.monotonic.millis.toNat) :
    poll self (.ok observation) =
      (.ok (.observed (self.monitor.observe observation observation.sample.monotonic).1),
        ⟨(self.monitor.observe observation observation.sample.monotonic).2⟩) := by
  have hnot : ¬observation.sample.monotonic.millis < due.millis := Nat.not_lt.mpr hle
  simp only [poll, hdue, if_neg hnot]

/-- **One poll**: it keeps the readings accounted for, and it keeps the cadence exactly when the driver is healthy or
the source was left alone for a cadence. -/
theorem Cadenced.poll (h : Cadenced cadence earlier observed self)
    (hmonotone : ∀ last ∈ earlier.getLast?, ∀ reading ∈ readingOf sampled, last ≤ reading) :
    Cadenced cadence (earlier ++ (readingOf sampled).toList)
        (observed ++ (observedReading (sampled, (poll self sampled).1)).toList) (poll self sampled).2 ∧
      ((∀ reading ∈ observedReading (sampled, (poll self sampled).1), ∀ last ∈ observed.getLast?,
          last + cadence ≤ reading) ↔
        (self.monitor.state ≠ .healthy → ∀ reading ∈ readingOf sampled, ∀ last ∈ earlier.getLast?,
          last + cadence ≤ reading)) := by
  cases sampled with
  | error error => simpa [ReceiveClockDriver.poll, readingOf, observedReading] using h
  | ok observation =>
    by_cases hstate : self.monitor.state = .healthy
    · cases hdue : self.monitor.nextSampleDue with
      | error error =>
        simpa [ReceiveClockDriver.poll, hdue, readingOf, observedReading, hstate] using h.unobserved hstate _
      | ok due =>
        have hmillis := nextSampleDue_ok hdue
        rw [h.policy] at hmillis
        by_cases hbefore : observation.sample.monotonic.millis < due.millis
        · simpa [ReceiveClockDriver.poll, hdue, hbefore, readingOf, observedReading, hstate] using
            h.unobserved hstate _
        · have hle : due.millis.toNat ≤ observation.sample.monotonic.millis.toNat := Nat.le_of_not_lt hbefore
          rw [poll_due hdue hle]
          refine ⟨h.observe (hmillis ▸ hle), fun _ hunhealthy => absurd hstate hunhealthy, fun _ => ?_⟩
          rintro _ ⟨rfl⟩ last hlast
          rw [← h.healthy hstate last hlast]
          exact hmillis ▸ hle
    · -- the reading that was due before is due still
      obtain ⟨last, hobserved, hearlier, hkept⟩ := h.unhealthy hstate
      have hreading : last ≤ observation.sample.monotonic.millis.toNat := hmonotone last hearlier _ rfl
      have hfits := observation.sample.monotonic.millis.toNat_lt
      obtain ⟨due, hdue⟩ : ∃ due, self.monitor.nextSampleDue = .ok due := by
        obtain ⟨millis, hmillis⟩ : ∃ millis, tryU64 ((self.monitor.lastAccepted.monotonic.millis.toNat : Int) +
            self.monitor.config.sampleCadenceMillis) = some millis := tryU64_isSome (by omega) (by rw [h.policy]; omega)
        exact ⟨⟨millis⟩, by rw [ReceiveClockMonitor.nextSampleDue, hmillis]⟩
      have hmillis := nextSampleDue_ok hdue
      rw [h.policy] at hmillis
      rw [poll_due hdue (by omega)]
      refine ⟨h.observe (by omega), ?_⟩
      simp [observedReading, readingOf, hobserved, hearlier, hstate]

/-! ## Runs -/

theorem readings_sorted_concat (h : (readings (run ++ [sampled])).IsChain (· ≤ ·)) :
    (readings run).IsChain (· ≤ ·) ∧ ∀ last ∈ (readings run).getLast?, ∀ reading ∈ readingOf sampled, last ≤ reading := by
  rw [readings_concat, List.isChain_append] at h
  refine ⟨h.1, fun last hlast reading hreading => h.2.2 last hlast reading ?_⟩
  rw [Option.mem_def.mp hreading]
  rfl

theorem cadenced_new {initial : GenerationClockSample} {config : ReceiveClockConfig} {monitor : ReceiveClockMonitor}
    (h : ReceiveClockMonitor.new initial config = .ok monitor) :
    Cadenced monitor.config.sampleCadenceMillis [] [] (new monitor) := by
  have hhealthy : monitor.state = .healthy := by
    cases hin : config.inBounds with
    | false =>
      rw [ReceiveClockMonitor.new_of_not_inBounds hin] at h
      cases h
    | true =>
      rw [ReceiveClockMonitor.new_of_inBounds hin] at h
      cases h
      rfl
  exact ⟨(ReceiveClockMonitor.sound_new h).config, rfl, fun _ last hlast => (by cases hlast),
    fun hunhealthy => absurd hhealthy hunhealthy⟩

theorem cadenced_run (h : Cadenced self.monitor.config.sampleCadenceMillis [] [] self)
    (hmonotone : (readings run).IsChain (· ≤ ·)) :
    Cadenced self.monitor.config.sampleCadenceMillis (readings run) (observedReadings self run)
      (final poll self run) := by
  induction run using List.reverseRecOn with
  | nil => exact h
  | append_singleton run sampled ih =>
    obtain ⟨hrun, hnext⟩ := readings_sorted_concat hmonotone
    rw [final_append, readings_concat, observedReadings_concat]
    exact ((ih hrun).poll hnext).1

theorem cadenceKept_concat :
    CadenceKept self (run ++ [sampled]) ↔ CadenceKept self run ∧
      ∀ reading ∈ observedReading (sampled, (poll (final poll self run) sampled).1),
        ∀ last ∈ (observedReadings self run).getLast?, last + self.monitor.config.sampleCadenceMillis ≤ reading := by
  unfold CadenceKept
  rw [observedReadings_concat, List.isChain_append]
  cases observedReading (sampled, (poll (final poll self run) sampled).1) <;> simp

/-- **The cadence is kept** by a run of polls exactly when the source is left alone for a cadence before each poll of an
unhealthy driver. -/
theorem cadence_kept_iff {initial : GenerationClockSample} {config : ReceiveClockConfig}
    {monitor : ReceiveClockMonitor} (hnew : ReceiveClockMonitor.new initial config = .ok monitor)
    (hmonotone : (readings run).IsChain (· ≤ ·)) :
    CadenceKept (new monitor) run ↔ SpacedWhileUnhealthy (new monitor) run := by
  induction run using List.reverseRecOn with
  | nil => exact ⟨fun _ before _ _ hsplit => absurd hsplit (by simp), fun _ => List.isChain_nil⟩
  | append_singleton run sampled ih =>
    obtain ⟨hrun, hnext⟩ := readings_sorted_concat hmonotone
    rw [cadenceKept_concat, spacedWhileUnhealthy_concat, ih hrun]
    exact and_congr_right fun _ => ((cadenced_run (cadenced_new hnew) hrun).poll hnext).2

theorem utc_nonneg (utcMillis : UInt16) : 0 ≤ (Int64.ofNat utcMillis.toNat).toInt := by
  have hlt := utcMillis.toNat_lt
  rw [Int64.toInt_ofNat_of_lt (by omega)]
  exact Int.natCast_nonneg _

/-- A sample of the first generation at a UTC and a monotonic time. -/
def pairedSample (utcMillis : UInt16) (millis : UInt64) : GenerationClockSample where
  generation := ReceiveClockMonitor.ownSample.generation
  sample := { utc := ⟨Int64.ofNat utcMillis.toNat, utc_nonneg utcMillis⟩, monotonic := ⟨millis⟩ }

/-- A healthy reading, a jump of UTC that latches a fault, and two readings a cadence apart while it recovers. -/
def spacedRun : List (Except ReceiveClockError GenerationClockSample) :=
  [.ok (pairedSample 1000 1000), .ok (pairedSample 9000 2000),
    .ok (pairedSample 10000 3000), .ok (pairedSample 11000 4000)]

theorem cadence_kept_iff_spaced :
    CadenceKept (new ReceiveClockMonitor.startedMonitor) spacedRun ∧
      observedReadings (new ReceiveClockMonitor.startedMonitor) spacedRun = [1000, 2000, 3000, 4000] ∧
      (final poll (new ReceiveClockMonitor.startedMonitor) spacedRun).monitor.state ≠ .healthy := by
  have hnew : ReceiveClockMonitor.new ReceiveClockMonitor.ownSample .default =
      .ok ReceiveClockMonitor.startedMonitor := by decide
  have hspaced : SpacedWhileUnhealthy (new ReceiveClockMonitor.startedMonitor) spacedRun := by
    have hnil : SpacedWhileUnhealthy (new ReceiveClockMonitor.startedMonitor) [] :=
      fun before _ _ hsplit => absurd hsplit (by simp)
    refine spacedWhileUnhealthy_concat.mpr ⟨spacedWhileUnhealthy_concat.mpr ⟨spacedWhileUnhealthy_concat.mpr
      ⟨spacedWhileUnhealthy_concat.mpr ⟨hnil, ?_⟩, ?_⟩, ?_⟩, ?_⟩ <;> decide
  exact ⟨(cadence_kept_iff hnew (by decide)).mpr hspaced, by decide, by decide⟩

/-- After a jump of UTC the sample a millisecond later is observed too. -/
theorem cadence_not_kept :
    ¬∀ (initial : GenerationClockSample) (config : ReceiveClockConfig) (monitor : ReceiveClockMonitor),
      ReceiveClockMonitor.new initial config = .ok monitor → ∀ run, (readings run).IsChain (· ≤ ·) →
        CadenceKept (new monitor) run := by
  intro h
  have hkept := h ReceiveClockMonitor.ownSample .default ReceiveClockMonitor.startedMonitor (by decide)
    [.ok (pairedSample 9000 1000), .ok (pairedSample 9001 1001)] (by decide)
  revert hkept
  unfold CadenceKept
  decide

end ReceiveClockDriver

end Slotpilot.Operations
