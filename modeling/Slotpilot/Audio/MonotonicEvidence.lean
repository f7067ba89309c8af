import Slotpilot.Audio.FailClosed
import Mathlib

/-!
# Monotonic evidence of the accepted batches

While a timeline has an anchor it compares each batch with the last monotonic time and with the anchor's. A batch that
anchors the timeline anew is compared with neither, although the last monotonic time is kept. So the monotonic times of
the accepted batches never decrease in a run whose anchoring batches are not before the latest accepted one
(`accepted_monotonic`). The invariant is that an anchored timeline keeps evidence for that time (`Covers`).
-/

set_option autoImplicit false

namespace Slotpilot.Audio.Ft8ReceiveTimeline

open Lib RationalResampler

variable {batch : CaptureBatch} {s u : Ft8ReceiveTimeline} {observedAt : UInt64} {latest : Option Nat}
  {input : CaptureBatch × UInt64} {run : List (CaptureBatch × UInt64)}

/-- Monotonic milliseconds of a batch. -/
def monotonicOf (batch : CaptureBatch) : Nat := batch.firstFrame.monotonicMillis.toNat

/-- Monotonic milliseconds of an accepted batch. -/
def acceptedMonotonic (entry : (CaptureBatch × UInt64) × Outcome) : Option Nat :=
  match entry.2 with
  | .ok _ => some (monotonicOf entry.1.1)
  | .error _ => none

/-- Monotonic milliseconds of the accepted batches of a run, in the order of acceptance. -/
def acceptedMonotonics (s : Ft8ReceiveTimeline) (run : List (CaptureBatch × UInt64)) : List Nat :=
  (transcript step s run).filterMap acceptedMonotonic

/-- The latest accepted monotonic time after a push. -/
def latestAfter (latest : Option Nat) (s : Ft8ReceiveTimeline) (input : CaptureBatch × UInt64) : Option Nat :=
  (acceptedMonotonic (input, (step s input).1)).orElse fun _ => latest

/-- Each batch of the run that passes the checks of a timeline without an anchor is not before the latest accepted
one. -/
def AnchorsAhead : Option Nat → Ft8ReceiveTimeline → List (CaptureBatch × UInt64) → Prop
  | _, _, [] => True
  | latest, s, input :: run =>
    (s.anchor = none → Taken s input.1 input.2 → ∀ m, latest = some m → m ≤ monotonicOf input.1) ∧
      AnchorsAhead (latestAfter latest s input) (step s input).2 run

/-! ## One push -/

/-- An anchored timeline keeps a monotonic time that is not before the latest accepted one. -/
def Covers (latest : Option Nat) (s : Ft8ReceiveTimeline) : Prop :=
  ∀ m anchor, latest = some m → s.anchor = some anchor →
    m ≤ anchor.monotonicMillis.toNat ∨ ∃ last, s.lastMonotonicMillis = some last ∧ m ≤ last.toNat

/-- A batch that passes the checks is not before the latest accepted one. -/
theorem Covers.le_taken (h : Covers latest s)
    (hahead : s.anchor = none → Taken s batch observedAt → ∀ m, latest = some m → m ≤ monotonicOf batch)
    (ht : Taken s batch observedAt) {m : Nat} (hm : latest = some m) : m ≤ monotonicOf batch := by
  cases hanchor : s.anchor with
  | none => exact hahead hanchor ht m hm
  | some anchor =>
    have hagrees := ht.agrees anchor hanchor
    rcases h m anchor hm hanchor with hle | ⟨last, hlast, hle⟩
    · exact hle.trans hagrees.anchor_le
    · exact hle.trans (hagrees.last_le last hlast)

theorem Covers.of_discarded (h : Discarded s u) : Covers latest u := by
  intro m anchor _ hanchor
  rw [h.anchor] at hanchor
  cases hanchor

theorem Covers.of_accepted (h : u.lastMonotonicMillis = some batch.firstFrame.monotonicMillis) :
    Covers (some (monotonicOf batch)) u := by
  rintro _ anchor ⟨rfl⟩ -
  exact .inr ⟨_, h, Nat.le_refl _⟩

/-- A batch that stops half way leaves the evidence it was compared with, or its own. -/
theorem Covers.stoppedShort (h : Covers latest s)
    (hle : ∀ m, latest = some m → m ≤ monotonicOf batch) (hu : StoppedShort batch s u) : Covers latest u := by
  intro m anchor hm hanchor
  obtain rfl : anchorAfter batch s = anchor := Option.some.inj (hu.anchor.symm.trans hanchor)
  cases hs : s.anchor with
  | none =>
    rw [anchorAfter, hs]
    exact .inl (hle m hm)
  | some anchor =>
    rw [anchorAfter, hs, Option.getD_some]
    rcases h m anchor hm hs with hanchored | ⟨last, hlast, hkept⟩
    · exact .inl hanchored
    · rcases hu.last with hsame | hnew
      · exact .inr ⟨last, hsame.trans hlast, hkept⟩
      · exact .inr ⟨_, hnew, hle m hm⟩

/-! ## Runs -/

theorem latestAfter_ok {events : List ReceiveTimelineEvent} (h : (step s input).1 = .ok events) :
    latestAfter latest s input = some (monotonicOf input.1) := by
  rw [latestAfter, h]
  rfl

theorem latestAfter_error {error : ReceiveTimelineError} (h : (step s input).1 = .error error) :
    latestAfter latest s input = latest := by
  rw [latestAfter, h]
  rfl

/-- What a failed push leaves covers the latest accepted time. -/
theorem Covers.failed (h : Covers latest s) {error : ReceiveTimelineError} (herr : (step s input).1 = .error error)
    (hle : Taken s input.1 input.2 → ∀ m, latest = some m → m ≤ monotonicOf input.1) :
    Covers latest (step s input).2 := by
  rcases failed_step herr with ⟨-, hu⟩ | ⟨-, hd⟩ | ⟨ht, hshort⟩
  · rwa [hu]
  · exact .of_discarded hd
  · exact h.stoppedShort (hle ht) hshort

theorem acceptedMonotonics_ahead (h : Covers latest s) (hrun : AnchorsAhead latest s run) :
    (acceptedMonotonics s run).Pairwise (· ≤ ·) ∧ ∀ m, latest = some m → ∀ x ∈ acceptedMonotonics s run, m ≤ x := by
  induction run generalizing s latest with
  | nil => simp [acceptedMonotonics]
  | cons input run ih =>
    obtain ⟨hahead, hrest⟩ := hrun
    have hle (ht : Taken s input.1 input.2) (m : Nat) (hm : latest = some m) : m ≤ monotonicOf input.1 :=
      h.le_taken hahead ht hm
    cases hout : (step s input).1 with
    | error error =>
      have hsame : acceptedMonotonics s (input :: run) = acceptedMonotonics (step s input).2 run := by
        rw [acceptedMonotonics, transcript_cons, List.filterMap_cons, hout]
        rfl
      rw [hsame]
      rw [latestAfter_error hout] at hrest
      exact ih (h.failed hout hle) hrest
    | ok events =>
      have hcons : acceptedMonotonics s (input :: run) =
          monotonicOf input.1 :: acceptedMonotonics (step s input).2 run := by
        rw [acceptedMonotonics, transcript_cons, List.filterMap_cons, hout]
        rfl
      obtain ⟨ht, r, r', -, -, hu⟩ := push_ends.of_ok (outcome_eq_ok.mp hout)
      rw [latestAfter_ok hout] at hrest
      obtain ⟨hpair, hfirst⟩ := ih (.of_accepted hu.lastMonotonicMillis) hrest
      rw [hcons, List.pairwise_cons]
      refine ⟨⟨hfirst _ rfl, hpair⟩, fun m hm x hx => ?_⟩
      rcases List.mem_cons.mp hx with rfl | hx
      · exact hle ht m hm
      · exact (hle ht m hm).trans (hfirst _ rfl x hx)

/-- **The monotonic times of the accepted batches** never decrease in a run whose anchoring batches are not before the
latest accepted one. -/
theorem accepted_monotonic (processGeneration : ProcessGeneration) (streamGeneration : StreamGeneration)
    (configuration : InputConfiguration) (run : List (CaptureBatch × UInt64))
    (hrun : AnchorsAhead none (new processGeneration streamGeneration configuration) run) :
    (acceptedMonotonics (new processGeneration streamGeneration configuration) run).Pairwise (· ≤ ·) :=
  (acceptedMonotonics_ahead (fun _ _ hm => by cases hm) hrun).1

/-! ## Fixed runs -/

/-- Four frames at 12 kHz, four frames after a gap, and the next four frames at a monotonic time. -/
def gapRun (monotonic : UInt64) : List (CaptureBatch × UInt64) :=
  let batch (position monotonic : UInt64) :=
    CaptureBatch.silent ⟨1, one_nonzero⟩ ⟨1, one_nonzero⟩ monoConfiguration ⟨⟨position⟩, 0, monotonic⟩ 4
      (by decide) (by decide)
  [(batch 0 100, 100), (batch 8 200, 200), (batch 12 monotonic, monotonic)]

/-- After the gap a later batch anchors the timeline. -/
theorem accepted_monotonic_gapRun :
    (acceptedMonotonics (new ⟨1, one_nonzero⟩ ⟨1, one_nonzero⟩ monoConfiguration) (gapRun 300)).Pairwise (· ≤ ·) := by
  refine accepted_monotonic _ _ _ _ ⟨fun _ _ _ hm => (by cases hm), fun hnone => ?_, fun _ _ m hm => ?_, trivial⟩
  · exact absurd hnone (by decide +kernel)
  · obtain rfl : 100 = m := by
      refine Option.some.inj (Eq.trans ?_ hm)
      decide +kernel
    decide

/-- After the gap an earlier batch anchors the timeline just as well. -/
theorem accepted_monotonic_fails :
    ¬∀ (processGeneration : ProcessGeneration) (streamGeneration : StreamGeneration)
        (configuration : InputConfiguration) (run : List (CaptureBatch × UInt64)),
      (acceptedMonotonics (new processGeneration streamGeneration configuration) run).Pairwise (· ≤ ·) := by
  intro h
  have hpair := h ⟨1, one_nonzero⟩ ⟨1, one_nonzero⟩ monoConfiguration (gapRun 50)
  have hmonotonics : acceptedMonotonics (new ⟨1, one_nonzero⟩ ⟨1, one_nonzero⟩ monoConfiguration) (gapRun 50) =
      [100, 50] := by decide +kernel
  rw [hmonotonics] at hpair
  exact absurd hpair (by decide)

end Slotpilot.Audio.Ft8ReceiveTimeline
