import Mathlib

/-!
# Runs of a deterministic input/output machine

A machine is a function `step : σ → ι → ο × σ` from a state and an input to an output and the next state.

* `final` and `transcript`: the last state of a run and its inputs with their outputs, with the append laws;
* `EveryStep`: a condition on the state and the input of each step of a run;
* the induction rules: `final_inv` (an invariant holds at the end of a run), `everyStep_of_inv` (an invariant gives a
  property of every step), `transcript_inv` (an invariant gives a property of every input/output pair).
-/

set_option autoImplicit false

namespace Slotpilot.Lib

variable {σ ι ο : Type} (step : σ → ι → ο × σ)

/-- The state after a run. -/
def final : σ → List ι → σ
  | s, [] => s
  | s, i :: is => final (step s i).2 is

/-- The inputs of a run, each with its output. -/
def transcript : σ → List ι → List (ι × ο)
  | _, [] => []
  | s, i :: is => (i, (step s i).1) :: transcript (step s i).2 is

/-- Each step of the run from a state meets `C`. -/
def EveryStep (C : σ → ι → Prop) : σ → List ι → Prop
  | _, [] => True
  | s, i :: is => C s i ∧ EveryStep C (step s i).2 is

@[simp] theorem final_nil (s : σ) : final step s [] = s := rfl
@[simp] theorem final_cons (s : σ) (i : ι) (is : List ι) : final step s (i :: is) = final step (step s i).2 is := rfl
@[simp] theorem transcript_nil (s : σ) : transcript step s [] = [] := rfl
@[simp] theorem transcript_cons (s : σ) (i : ι) (is : List ι) :
    transcript step s (i :: is) = (i, (step s i).1) :: transcript step (step s i).2 is := rfl
@[simp] theorem everyStep_nil (C : σ → ι → Prop) (s : σ) : EveryStep step C s [] := trivial
@[simp] theorem everyStep_cons (C : σ → ι → Prop) (s : σ) (i : ι) (is : List ι) :
    EveryStep step C s (i :: is) ↔ C s i ∧ EveryStep step C (step s i).2 is := Iff.rfl

instance everyStepDecidable (C : σ → ι → Prop) [∀ s i, Decidable (C s i)] :
    ∀ (s : σ) (is : List ι), Decidable (EveryStep step C s is)
  | _, [] => inferInstanceAs (Decidable True)
  | s, i :: is =>
    haveI := everyStepDecidable C (step s i).2 is
    inferInstanceAs (Decidable (C s i ∧ EveryStep step C (step s i).2 is))

section Step

variable {step} {s t : σ} {i : ι} {o : ο}

/-- A run whose first step is known goes on from where that step leads. -/
theorem final_step (h : step s i = (o, t)) (is : List ι) : final step s (i :: is) = final step t is := by
  rw [final_cons, h]

theorem transcript_step (h : step s i = (o, t)) (is : List ι) :
    transcript step s (i :: is) = (i, o) :: transcript step t is := by
  rw [transcript_cons, h]

theorem everyStep_step {C : σ → ι → Prop} (h : step s i = (o, t)) (is : List ι) :
    EveryStep step C s (i :: is) ↔ C s i ∧ EveryStep step C t is := by
  rw [everyStep_cons, h]

end Step

theorem final_append (s : σ) (is js : List ι) : final step s (is ++ js) = final step (final step s is) js := by
  induction is generalizing s with
  | nil => rfl
  | cons i is ih => exact ih _

theorem transcript_append (s : σ) (is js : List ι) :
    transcript step s (is ++ js) = transcript step s is ++ transcript step (final step s is) js := by
  induction is generalizing s with
  | nil => rfl
  | cons i is ih => simp only [List.cons_append, transcript_cons, ih, final_cons]

theorem everyStep_append {C : σ → ι → Prop} {s : σ} {is js : List ι} :
    EveryStep step C s (is ++ js) ↔ EveryStep step C s is ∧ EveryStep step C (final step s is) js := by
  induction is generalizing s with
  | nil => simp
  | cons i is ih => simp only [List.cons_append, everyStep_cons, ih, final_cons, and_assoc]

/-- A condition on each step is one on each split of the run. -/
theorem everyStep_iff {C : σ → ι → Prop} {s : σ} {is : List ι} :
    EveryStep step C s is ↔ ∀ before i later, is = before ++ i :: later → C (final step s before) i := by
  constructor
  · rintro h before i later rfl
    exact ((everyStep_append step).mp h).2.1
  · intro h
    induction is generalizing s with
    | nil => trivial
    | cons i is ih =>
      refine ⟨h [] i is rfl, ih fun before j later hsplit => ?_⟩
      exact h (i :: before) j later (by rw [hsplit, List.cons_append])

variable {step}

/-- A pair of a transcript is the input and the output of a step of the run. -/
theorem exists_of_mem_transcript {s : σ} {is : List ι} {p : ι × ο} (h : p ∈ transcript step s is) :
    ∃ before later, is = before ++ p.1 :: later ∧ (step (final step s before) p.1).1 = p.2 := by
  induction is generalizing s with
  | nil => cases h
  | cons i is ih =>
    rcases List.mem_cons.mp h with rfl | h
    · exact ⟨[], is, rfl, rfl⟩
    · obtain ⟨before, later, rfl, hout⟩ := ih h
      exact ⟨i :: before, later, rfl, hout⟩

theorem EveryStep.imp {C D : σ → ι → Prop} (h : ∀ s i, C s i → D s i) {s : σ} {is : List ι}
    (hs : EveryStep step C s is) : EveryStep step D s is := by
  induction is generalizing s with
  | nil => trivial
  | cons i is ih => exact ⟨h s i hs.1, ih hs.2⟩

theorem everyStep_of_forall {C : σ → ι → Prop} (h : ∀ s i, C s i) (s : σ) (is : List ι) : EveryStep step C s is := by
  induction is generalizing s with
  | nil => trivial
  | cons i is ih => exact ⟨h s i, ih _⟩

/-- An invariant that every step meeting `C` keeps holds at the end of a run whose steps meet `C`. -/
theorem final_inv {I : σ → Prop} {C : σ → ι → Prop} (hstep : ∀ s i, I s → C s i → I (step s i).2) {s : σ}
    {is : List ι} (h0 : I s) (hs : EveryStep step C s is) : I (final step s is) := by
  induction is generalizing s with
  | nil => exact h0
  | cons i is ih => exact ih (hstep s i h0 hs.1) hs.2

/-- An invariant of all steps holds at the end of every run. -/
theorem final_inv_all {I : σ → Prop} (hstep : ∀ s i, I s → I (step s i).2) {s : σ} (h0 : I s) (is : List ι) :
    I (final step s is) := by
  induction is generalizing s with
  | nil => exact h0
  | cons i is ih => exact ih (hstep s i h0)

/-- What an invariant gives of one step holds of every step of a run. -/
theorem everyStep_of_inv {I : σ → Prop} {C P : σ → ι → Prop} (hstep : ∀ s i, I s → C s i → P s i ∧ I (step s i).2)
    {s : σ} {is : List ι} (h0 : I s) (hs : EveryStep step C s is) : EveryStep step P s is := by
  induction is generalizing s with
  | nil => trivial
  | cons i is ih =>
    obtain ⟨hp, hi⟩ := hstep s i h0 hs.1
    exact ⟨hp, ih hi hs.2⟩

/-- What an invariant gives of one step's input and output holds of every pair of a transcript. -/
theorem transcript_inv {I : σ → Prop} {C : σ → ι → Prop} {P : ι → ο → Prop}
    (hstep : ∀ s i, I s → C s i → P i (step s i).1 ∧ I (step s i).2) {s : σ} {is : List ι} (h0 : I s)
    (hs : EveryStep step C s is) : ∀ p ∈ transcript step s is, P p.1 p.2 := by
  induction is generalizing s with
  | nil => simp
  | cons i is ih =>
    obtain ⟨hp, hi⟩ := hstep s i h0 hs.1
    simp only [transcript_cons, List.mem_cons]
    rintro p (rfl | hm)
    · exact hp
    · exact ih hi hs.2 p hm

end Slotpilot.Lib
