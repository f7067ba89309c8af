import Slotpilot.Operations.ClockCalls
import Mathlib

/-!
# Recovery of the receive clock

Between a transition out of healthy and the next healthy state lie enough consecutive candidates that agree
(`recovery_disciplined`). The invariant of a run through unhealthy states is the list of candidates gathered so far
(`Gathered`): as many as the progress counts, the last of them the candidate sample. The sample whose disagreement
latches a fault is already the first of the next candidates.
-/

set_option autoImplicit false

namespace Slotpilot.Operations.ReceiveClockMonitor

open Lib Audio

variable {m : ReceiveClockMonitor} {observation : GenerationClockSample} {observedAt : MonotonicInstant} {call : Call}

/-! ## Candidates -/

/-- The observations of a stretch of calls. -/
def observations (calls : List Call) : List (GenerationClockSample × MonotonicInstant) :=
  calls.filterMap fun
    | .observe observation observedAt => some (observation, observedAt)
    | .snapshot _ | .gate _ _ => none

/-- The call latches a fault, or refuses a candidate after another generation. -/
def Latches (m : ReceiveClockMonitor) (call : Call) : Bool :=
  match (m.step call).1 with
  | .transition (.becameUnhealthy _) | .transition (.unhealthy _) => true
  | .transition (.healthy _) | .transition (.recovering _) | .transition (.recovered _) => false
  | .snapshot _ | .gated _ => (m.step call).2 ≠ m

/-- The observations of a stretch are the monitor's own, in time, and each agrees with the one before it. -/
structure Consistent (m : ReceiveClockMonitor) (calls : List Call) : Prop where
  own : ∀ o ∈ observations calls, Own m o.1 o.2
  agree : (observations calls).IsChain fun a b => m.compare a.1.sample b.1.sample = none

/-- No call of a stretch latches a fault. -/
def Undisturbed : ReceiveClockMonitor → List Call → Prop := EveryStep step fun m call => ¬Latches m call

/-- No call of a stretch latches a fault but its first, which may be an observation that disagrees with the candidate
before it. -/
def UndisturbedAfterFirst (m : ReceiveClockMonitor) : List Call → Prop
  | [] => True
  | first :: rest =>
    (Latches m first → ∃ observation observedAt candidate fault, first = .observe observation observedAt ∧
      m.recoveryLast = some candidate ∧ m.compare candidate observation.sample = some fault) ∧
    Undisturbed (m.step first).2 rest

/-- A stretch of calls contains as many consistent and undisturbed observations as recovery takes. -/
def EnoughCandidates (undisturbed : ReceiveClockMonitor → List Call → Prop) (m : ReceiveClockMonitor)
    (between : List Call) : Prop :=
  ∃ before block after, between = before ++ (block ++ after) ∧
    m.config.recoverySamples ≤ (observations block).length ∧ Consistent m block ∧
      undisturbed (final step m before) block

/-- Between each transition out of healthy and the next healthy state of a run lie enough candidates. -/
def RecoversByCandidates (undisturbed : ReceiveClockMonitor → List Call → Prop) (m : ReceiveClockMonitor)
    (run : List Call) : Prop :=
  ∀ before out between call after, run = before ++ out :: (between ++ call :: after) →
    (final step m before).state = .healthy →
    (∀ earlier later, between = earlier ++ later →
      (final step (final step m (before ++ [out])) earlier).state ≠ .healthy) →
    (final step (final step m (before ++ [out])) (between ++ [call])).state = .healthy →
    EnoughCandidates undisturbed (final step m (before ++ [out])) (between ++ [call])

/-- The monitor is for the same generation under the same policy. -/
def SamePolicy (m n : ReceiveClockMonitor) : Prop := n.generation = m.generation ∧ n.config = m.config

theorem observe_samePolicy (hconfig : m.config.inBounds = true) :
    SamePolicy m (m.observe observation observedAt).2 := by
  generalize hresult : m.observe observation observedAt = result
  have hobserved := observe_observed hconfig observation observedAt
  rw [hresult] at hobserved
  cases hobserved with
  | latched fault _ => rw [latch_final]; exact ⟨rfl, rfl⟩
  | disagreed _ fault _ _ _ _ => rw [latch_final]; exact ⟨rfl, rfl⟩
  | _ => exact ⟨rfl, rfl⟩

theorem step_samePolicy (hconfig : m.config.inBounds = true) (call : Call) : SamePolicy m (m.step call).2 := by
  cases call with
  | observe observation observedAt => exact observe_samePolicy hconfig
  | snapshot observedAt =>
    rcases snapshot_cases m observedAt with hsame | ⟨-, fault, hfault⟩
    · show SamePolicy m (m.snapshot observedAt).2
      rw [hsame]
      exact ⟨rfl, rfl⟩
    · show SamePolicy m (m.snapshot observedAt).2
      rw [hfault]
      exact ⟨rfl, rfl⟩
  | gate event observedAt =>
    rcases (gate_cases m event observedAt).2 with hsame | ⟨-, fault, hfault⟩
    · show SamePolicy m (m.gate event observedAt).2
      rw [hsame]
      exact ⟨rfl, rfl⟩
    · show SamePolicy m (m.gate event observedAt).2
      rw [hfault]
      exact ⟨rfl, rfl⟩

theorem compare_samePolicy {n : ReceiveClockMonitor} (h : SamePolicy m n) : n.compare = m.compare := by
  funext previous current
  unfold compare
  rw [h.2]

theorem own_samePolicy {n : ReceiveClockMonitor} (h : SamePolicy m n) :
    Own n observation observedAt ↔ Own m observation observedAt := by
  unfold Own Timely
  rw [h.1, h.2]

theorem undisturbedAfterFirst_append {block : List Call} (h : UndisturbedAfterFirst m block)
    (hcall : ¬Latches (final step m block) call) : UndisturbedAfterFirst m (block ++ [call]) := by
  cases block with
  | nil => exact ⟨fun hl => absurd hl hcall, trivial⟩
  | cons first rest => exact ⟨h.1, (everyStep_append step).mpr ⟨h.2, hcall, trivial⟩⟩

@[simp] theorem observations_append (a b : List Call) : observations (a ++ b) = observations a ++ observations b :=
  List.filterMap_append

@[simp] theorem observations_observe :
    observations [.observe observation observedAt] = [(observation, observedAt)] := rfl

/-- The candidates gathered by the calls since the monitor `m` left healthy: as many as the progress counts, the last of
them the candidate sample. -/
def Gathered (m : ReceiveClockMonitor) (calls : List Call) : Prop :=
  ∃ before block, calls = before ++ block ∧ Consistent m block ∧
    UndisturbedAfterFirst (final step m before) block ∧
    (∀ fault progress required, (final step m calls).state = .unhealthy fault progress required →
      (observations block).length = progress) ∧
    (observations block).getLast?.map (·.1.sample) = (final step m calls).recoveryLast

theorem gathered_nil (h : m.recoveryLast = none)
    (hprogress : ∀ fault progress required, m.state = .unhealthy fault progress required → progress = 0) :
    Gathered m [] :=
  ⟨[], [], rfl, ⟨by simp [observations], by simp [observations]⟩, trivial,
    fun fault progress required hstate => (hprogress fault progress required hstate).symm, h.symm⟩

section Step

variable {calls : List Call}

/-- Nothing is gathered once the counter is back to zero. -/
theorem gathered_restart (h : (final step m (calls ++ [call])).recoveryLast = none)
    (hprogress : ∀ fault progress required,
      (final step m (calls ++ [call])).state = .unhealthy fault progress required → progress = 0) :
    Gathered m (calls ++ [call]) :=
  ⟨calls ++ [call], [], by simp, ⟨by simp [observations], by simp [observations]⟩, trivial,
    fun fault progress required hstate => (hprogress fault progress required hstate).symm, h.symm⟩

variable (hpolicy : SamePolicy m (final step m calls))
include hpolicy

/-- An agreeing observation joins the candidates. -/
theorem consistent_append {block : List Call} (h : Consistent m block)
    (hlast : (observations block).getLast?.map (·.1.sample) = (final step m calls).recoveryLast)
    (hown : Own (final step m calls) observation observedAt)
    (hagrees : ∀ candidate, (final step m calls).recoveryLast = some candidate →
      (final step m calls).compare candidate observation.sample = none) :
    Consistent m (block ++ [.observe observation observedAt]) := by
  constructor
  · intro o ho
    rw [observations_append, List.mem_append, observations_observe, List.mem_singleton] at ho
    rcases ho with ho | rfl
    · exact h.own o ho
    · exact (own_samePolicy hpolicy).mp hown
  · rw [observations_append, observations_observe, List.isChain_append]
    refine ⟨h.agree, List.isChain_singleton _, ?_⟩
    intro a ha b hb
    obtain rfl : (observation, observedAt) = b := by simpa using hb
    rw [← compare_samePolicy hpolicy]
    refine hagrees a.1.sample ?_
    rw [← hlast, Option.mem_def.mp ha, Option.map_some]

/-- **One call of an unhealthy monitor**: it adds a candidate, starts a new sequence or has no part in it, and it makes
the monitor healthy only with enough candidates. -/
theorem gathered_step (hgathered : Gathered m calls) (hsound : Sound (final step m calls))
    (hstate : (final step m calls).state ≠ .healthy) (call : Call) :
    ((final step m (calls ++ [call])).state ≠ .healthy → Gathered m (calls ++ [call])) ∧
    ((final step m (calls ++ [call])).state = .healthy → EnoughCandidates UndisturbedAfterFirst m (calls ++ [call])) := by
  obtain ⟨before, block, hcalls, hconsistent, hundisturbed, hcount, hlast⟩ := hgathered
  have hfinal : final step m (calls ++ [call]) = (step (final step m calls) call).2 := by
    rw [final_append]
    rfl
  have hblock : final step (final step m before) block = final step m calls := by rw [hcalls, final_append]
  have happend : calls ++ [call] = before ++ (block ++ [call]) := by rw [hcalls, List.append_assoc]
  -- a call that changes nothing and latches nothing
  have hquiet (hsame : (step (final step m calls) call).2 = final step m calls)
      (hlatch : ¬Latches (final step m calls) call) (hnone : observations [call] = []) :
      Gathered m (calls ++ [call]) := by
    refine ⟨before, block ++ [call], happend, ⟨?_, ?_⟩, undisturbedAfterFirst_append hundisturbed ?_, ?_, ?_⟩
    · rw [observations_append, hnone, List.append_nil]
      exact hconsistent.own
    · rw [observations_append, hnone, List.append_nil]
      exact hconsistent.agree
    · rwa [hblock]
    · rw [hfinal, hsame, observations_append, hnone, List.append_nil]
      exact hcount
    · rw [hfinal, hsame, observations_append, hnone, List.append_nil]
      exact hlast
  cases call with
  | snapshot observedAt =>
    have hsame : (step (final step m calls) (.snapshot observedAt)).2 = final step m calls := by
      rcases snapshot_cases (final step m calls) observedAt with hsame | ⟨hhealthy, -⟩
      · exact hsame
      · exact absurd hhealthy hstate
    rw [hfinal, hsame]
    exact ⟨fun _ => hquiet hsame (fun hl => of_decide_eq_true hl hsame) rfl, fun hhealthy => absurd hhealthy hstate⟩
  | gate event observedAt =>
    have hsame : (step (final step m calls) (.gate event observedAt)).2 = final step m calls := by
      rcases (gate_cases (final step m calls) event observedAt).2 with hsame | ⟨hhealthy, -⟩
      · exact hsame
      · exact absurd hhealthy hstate
    rw [hfinal, hsame]
    exact ⟨fun _ => hquiet hsame (fun hl => of_decide_eq_true hl hsame) rfl, fun hhealthy => absurd hhealthy hstate⟩
  | observe observation observedAt =>
    have hstep : step (final step m calls) (.observe observation observedAt) =
        (.transition ((final step m calls).observe observation observedAt).1,
          ((final step m calls).observe observation observedAt).2) := rfl
    have hobserved := observe_observed hsound.config observation observedAt
    generalize hresult : (final step m calls).observe observation observedAt = result at hobserved hstep
    rw [hstep] at hfinal
    cases hobserved with
    | latched fault _ =>
      rw [latch_final] at hfinal
      refine ⟨fun _ => gathered_restart ?_ ?_, fun hhealthy => ?_⟩
      · rw [hfinal]
        rfl
      · rw [hfinal]
        rintro _ _ _ ⟨rfl⟩
        rfl
      · rw [hfinal] at hhealthy
        cases hhealthy
    | accepted _ hhealthy _ => exact absurd hhealthy hstate
    | refused progress required hforeign =>
      obtain rfl := hsound.foreign progress required hforeign
      obtain ⟨-, -, hsome⟩ := hsound.unhealthy _ _ _ hforeign
      have hnone : (final step m calls).recoveryLast = none := by simpa using hsome
      refine ⟨fun _ => gathered_restart (by rw [hfinal]; exact hnone) ?_, fun hhealthy => ?_⟩
      · rw [hfinal, hforeign]
        rintro _ _ _ ⟨rfl⟩
        rfl
      · rw [hfinal] at hhealthy
        exact absurd hhealthy hstate
    | disagreed candidate fault hown _ hcandidate hcompare =>
      rw [latch_final] at hfinal
      refine ⟨fun _ => ⟨calls, [.observe observation observedAt], rfl, ⟨?_, List.isChain_singleton _⟩, ?_, ?_, ?_⟩,
        fun hhealthy => ?_⟩
      · intro o ho
        obtain rfl : o = (observation, observedAt) := List.mem_singleton.mp ho
        exact (own_samePolicy hpolicy).mp hown
      · exact ⟨fun _ => ⟨observation, observedAt, candidate, fault, rfl, hcandidate, hcompare⟩, trivial⟩
      · rw [hfinal]
        rintro _ _ _ ⟨rfl⟩
        rfl
      · rw [hfinal]
        rfl
      · rw [hfinal] at hhealthy
        cases hhealthy
    | progressed fault progress required hown hunhealthy _ hagrees _ =>
      have hlatch : ¬Latches (final step m calls) (.observe observation observedAt) := by
        unfold Latches
        rw [hstep]
        exact Bool.false_ne_true
      refine ⟨fun _ => ⟨before, block ++ [.observe observation observedAt], happend,
        consistent_append hpolicy hconsistent hlast hown hagrees,
        undisturbedAfterFirst_append hundisturbed (by rwa [hblock]), ?_, ?_⟩, fun hhealthy => ?_⟩
      · rw [hfinal]
        rintro _ _ _ ⟨rfl⟩
        rw [observations_append, observations_observe, List.length_append, hcount _ _ _ hunhealthy,
          hsound.progress_lt hunhealthy]
        rfl
      · rw [hfinal, observations_append, observations_observe, List.getLast?_concat]
        rfl
      · rw [hfinal] at hhealthy
        cases hhealthy
    | recovered fault progress required hown hunhealthy hagrees henough =>
      have hlatch : ¬Latches (final step m calls) (.observe observation observedAt) := by
        unfold Latches
        rw [hstep]
        exact Bool.false_ne_true
      refine ⟨fun hno => ?_, fun _ => ⟨before, block ++ [.observe observation observedAt], [], by simpa using happend, ?_,
        consistent_append hpolicy hconsistent hlast hown hagrees,
        undisturbedAfterFirst_append hundisturbed (by rwa [hblock])⟩⟩
      · rw [hfinal] at hno
        exact absurd rfl hno
      · obtain ⟨hrequired, -, -⟩ := hsound.unhealthy _ _ _ hunhealthy
        rw [hsound.progress_lt hunhealthy, hrequired, hpolicy.2] at henough
        rw [observations_append, observations_observe, List.length_append, hcount _ _ _ hunhealthy]
        exact henough

end Step

/-! ## Runs -/

theorem sound_final (h : Sound m) (run : List Call) : Sound (final step m run) :=
  final_inv_all (fun _ call hm => hm.step call) h run

theorem final_samePolicy (h : Sound m) (run : List Call) : SamePolicy m (final step m run) := by
  induction run using List.reverseRecOn with
  | nil => exact ⟨rfl, rfl⟩
  | append_singleton run call ih =>
    have hstep := step_samePolicy (sound_final h run).config call
    rw [final_append]
    exact ⟨hstep.1.trans ih.1, hstep.2.trans ih.2⟩

/-- The candidates of a stretch of calls that the monitor stays unhealthy through. -/
theorem gathered_run (h : Sound m) (hstart : Gathered m []) (calls : List Call)
    (hunhealthy : ∀ earlier later, calls = earlier ++ later → (final step m earlier).state ≠ .healthy) :
    Gathered m calls := by
  induction calls using List.reverseRecOn with
  | nil => exact hstart
  | append_singleton calls call ih =>
    have hgathered := ih fun earlier later hsplit => hunhealthy earlier (later ++ [call]) (by simp [hsplit])
    refine (gathered_step (final_samePolicy h calls) hgathered (sound_final h calls) ?_ call).1 ?_
    · exact hunhealthy calls [call] rfl
    · exact hunhealthy (calls ++ [call]) [] (by simp)

/-- A healthy monitor is left unhealthy with an empty sequence. -/
theorem gathered_out (h : Sound m) (hstate : m.state = .healthy) (hout : (m.step call).2.state ≠ .healthy) :
    Gathered (m.step call).2 [] := by
  obtain ⟨fault, hfault⟩ : ∃ fault, (m.step call).2 = m.withFault fault none := by
    cases call with
    | snapshot observedAt =>
      rcases snapshot_cases m observedAt with hsame | ⟨-, hfault⟩
      · exact absurd ((congrArg state hsame).trans hstate) hout
      · exact hfault
    | gate event observedAt =>
      rcases (gate_cases m event observedAt).2 with hsame | ⟨-, hfault⟩
      · exact absurd ((congrArg state hsame).trans hstate) hout
      · exact hfault
    | observe observation observedAt =>
      have hobserved := observe_observed h.config observation observedAt
      have hstep : (m.step (.observe observation observedAt)).2 = (m.observe observation observedAt).2 := rfl
      generalize m.observe observation observedAt = result at hobserved hstep
      rw [hstep] at hout ⊢
      cases hobserved with
      | latched fault _ => exact ⟨fault, latch_final fault none⟩
      | accepted _ _ _ => exact absurd hstate hout
      | refused _ _ hunhealthy => rw [hstate] at hunhealthy; cases hunhealthy
      | disagreed _ _ _ hunhealthy _ _ => exact absurd hstate hunhealthy
      | progressed _ _ _ _ hunhealthy _ _ _ => rw [hstate] at hunhealthy; cases hunhealthy
      | recovered _ _ _ _ hunhealthy _ _ => rw [hstate] at hunhealthy; cases hunhealthy
  rw [hfault]
  refine gathered_nil rfl ?_
  rintro _ _ _ ⟨rfl⟩
  rfl

theorem recovers_byCandidates (h : Sound m) (run : List Call) : RecoversByCandidates UndisturbedAfterFirst m run := by
  intro before out between call after _ hhealthy hunhealthy hback
  have hsound := sound_final h (before ++ [out])
  have hout : (step (final step m before) out).2.state ≠ .healthy := by
    have := hunhealthy [] between rfl
    rwa [final_nil, final_append] at this
  have hgathered : Gathered (final step m (before ++ [out])) [] := by
    rw [final_append]
    exact gathered_out (sound_final h before) hhealthy hout
  refine (gathered_step (final_samePolicy hsound between) (gathered_run hsound hgathered between hunhealthy)
    (sound_final hsound between) ?_ call).2 hback
  exact hunhealthy between [] (by simp)

/-- What holds in every state of a run: the progress is below the requirement, and there is a candidate exactly when
there is progress. -/
def ProgressAgrees (m : ReceiveClockMonitor) : Prop :=
  match m.state with
  | .healthy => m.recoveryLast = none
  | .unhealthy _ progress required => progress < required ∧ (m.recoveryLast.isSome ↔ 0 < progress)

theorem Sound.progressAgrees (h : Sound m) : ProgressAgrees m := by
  unfold ProgressAgrees
  split
  · rename_i hstate
    exact h.healthy hstate
  · rename_i hstate
    exact (h.unhealthy _ _ _ hstate).2

/-- **The discipline of recovery**: over every run of a monitor with a checked policy, each recovery takes enough
consistent candidates with no fault latched after the first of them, the counter and the candidate agree, the tags of
transitions agree with their snapshots, and a window is ready only on a fresh mapping aligned with it. -/
theorem recovery_disciplined {initial : GenerationClockSample} {config : ReceiveClockConfig}
    (hnew : new initial config = .ok m) (run : List Call) :
    RecoversByCandidates UndisturbedAfterFirst m run ∧ ProgressAgrees (final step m run) ∧
      (∀ entry ∈ transcript step m run, entry.2.Tagged) ∧ EveryStep step ReadyOnlyAligned m run := by
  have h := sound_new hnew
  refine ⟨recovers_byCandidates h run, (sound_final h run).progressAgrees, ?_, everyStep_of_forall readyOnlyAligned m run⟩
  exact transcript_inv (I := Sound) (P := fun _ answer => Answer.Tagged answer)
    (fun m call hm _ => ⟨hm.tagged call, hm.step call⟩) h (everyStep_of_forall (fun _ _ => trivial) m run)

/-- A late observation of the default policy, and three timely ones in its own generation. -/
theorem recovery_disciplined_default :
    let run := [Call.observe ownSample ⟨251⟩, .observe ownSample ⟨0⟩, .observe ownSample ⟨0⟩, .observe ownSample ⟨0⟩]
    RecoversByCandidates UndisturbedAfterFirst startedMonitor run ∧ ProgressAgrees (final step startedMonitor run) ∧
      (∀ entry ∈ transcript step startedMonitor run, entry.2.Tagged) ∧
      EveryStep step ReadyOnlyAligned startedMonitor run := by
  have hnew : new ownSample .default = .ok startedMonitor := by decide
  exact recovery_disciplined hnew _

/-- A stretch stays unhealthy when the monitor is so after each number of its calls. -/
theorem unhealthy_of_take {calls : List Call}
    (h : ∀ count ≤ calls.length, (final step m (calls.take count)).state ≠ .healthy) (earlier later : List Call)
    (hsplit : calls = earlier ++ later) : (final step m earlier).state ≠ .healthy := by
  subst hsplit
  have hearlier := h earlier.length (by simp)
  rwa [List.take_left] at hearlier

/-- A sample of the monitor's own generation one second of UTC later at the same monotonic time. -/
def jumpedSample : GenerationClockSample where
  generation := ownSample.generation
  sample := { utc := ⟨1000, by decide⟩, monotonic := ⟨0⟩ }

/-- A stretch that is not disturbed after its first call and in which every two observations agree, not only those that
follow each other. -/
def AgreeingInPairs (m : ReceiveClockMonitor) (calls : List Call) : Prop :=
  UndisturbedAfterFirst m calls ∧
    (observations calls).Pairwise fun a b => m.compare a.1.sample b.1.sample = none

/-- A sample of the monitor's own generation a tenth of a second, or two, later in UTC at the same monotonic time. -/
def driftedSample (utcMillis : Int64) (hutc : 0 ≤ utcMillis.toInt) : GenerationClockSample where
  generation := ownSample.generation
  sample := { utc := ⟨utcMillis, hutc⟩, monotonic := ⟨0⟩ }

/-- The sample that jumps latches a fault and counts as the first of the three candidates, so no three undisturbed
ones precede the recovery. -/
theorem first_candidate_latches :
    ¬∀ (initial : GenerationClockSample) (config : ReceiveClockConfig) (m : ReceiveClockMonitor),
      new initial config = .ok m → ∀ run, RecoversByCandidates Undisturbed m run := by
  intro h
  have hrecovers := h ownSample .default startedMonitor (by decide) _ []
    (.observe ownSample ⟨251⟩) [.observe ownSample ⟨0⟩, .observe jumpedSample ⟨0⟩, .observe jumpedSample ⟨0⟩]
    (.observe jumpedSample ⟨0⟩) [] rfl rfl ?_ (by decide)
  · obtain ⟨before, block, after, hsplit, henough, -, hundisturbed⟩ := hrecovers
    have hthree : 3 ≤ (observations block).length := henough
    have hlength : 3 ≤ block.length := hthree.trans (List.length_filterMap_le _ _)
    have hlatches : Latches (step (final step startedMonitor [.observe ownSample ⟨251⟩]) (.observe ownSample ⟨0⟩)).2
        (.observe jumpedSample ⟨0⟩) := by decide
    have hlen := congrArg List.length hsplit
    simp only [List.length_append, List.length_cons, List.length_nil] at hlen
    obtain ⟨first, rest, rfl⟩ := List.exists_cons_of_length_pos (show 0 < block.length by omega)
    rcases before with - | ⟨skipped, before⟩
    · -- the stretch starts with the first candidate, so the second call in it latches
      obtain ⟨second, rest, rfl⟩ := List.exists_cons_of_length_pos (show 0 < rest.length by simp at hlength; omega)
      simp only [List.nil_append, List.cons_append, List.cons.injEq] at hsplit
      obtain ⟨rfl, rfl, -⟩ := hsplit
      exact hundisturbed.2.1 hlatches
    · obtain rfl : before = [] := List.length_eq_zero_iff.mp (by simp at hlen hlength; omega)
      simp only [List.nil_append, List.cons_append, List.cons.injEq] at hsplit
      obtain ⟨rfl, rfl, -⟩ := hsplit
      exact hundisturbed.1 hlatches
  · exact unhealthy_of_take (by decide)

/-- Each of three candidates agrees with the one before it, and the last does not with the first. -/
theorem candidates_disagree :
    ¬∀ (initial : GenerationClockSample) (config : ReceiveClockConfig) (m : ReceiveClockMonitor),
      new initial config = .ok m → ∀ run, RecoversByCandidates AgreeingInPairs m run := by
  intro h
  have hrecovers := h ownSample .default startedMonitor (by decide) _ []
    (.observe ownSample ⟨251⟩) [.observe ownSample ⟨0⟩, .observe (driftedSample 100 (by decide)) ⟨0⟩]
    (.observe (driftedSample 200 (by decide)) ⟨0⟩) [] rfl rfl ?_ (by decide)
  · obtain ⟨before, block, after, hsplit, henough, -, -, hpairs⟩ := hrecovers
    have hthree : 3 ≤ (observations block).length := henough
    have hlength : 3 ≤ block.length := hthree.trans (List.length_filterMap_le _ _)
    have hlen := congrArg List.length hsplit
    simp only [List.length_append, List.length_cons, List.length_nil] at hlen
    obtain rfl : before = [] := List.length_eq_zero_iff.mp (by omega)
    obtain rfl : after = [] := List.length_eq_zero_iff.mp (by omega)
    rw [List.nil_append, List.append_nil] at hsplit
    rw [← hsplit] at hpairs
    revert hpairs
    decide
  · exact unhealthy_of_take (by decide)

/-- The undisturbed candidates are not enough, and neither do they agree in pairs. -/
theorem recovery_disciplined_fails :
    (¬∀ (initial : GenerationClockSample) (config : ReceiveClockConfig) (m : ReceiveClockMonitor),
      new initial config = .ok m → ∀ run, RecoversByCandidates Undisturbed m run) ∧
    ¬∀ (initial : GenerationClockSample) (config : ReceiveClockConfig) (m : ReceiveClockMonitor),
      new initial config = .ok m → ∀ run, RecoversByCandidates AgreeingInPairs m run :=
  ⟨first_candidate_latches, candidates_disagree⟩

end Slotpilot.Operations.ReceiveClockMonitor
