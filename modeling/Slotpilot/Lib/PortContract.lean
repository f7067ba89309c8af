import Slotpilot.Lib.Machine

/-!
# Contracts of input/output machines

A contract says what a user of a component may rely on from the events at its boundary alone. It has a state that the
user can compute (`observe`) and the events that it allows in each state (`admits`).

* `PortContract.Follows`: events that are all admitted, with the append law;
* `PortContract.Implements`, `PortContract.Implements.run`: a machine whose visible steps are admitted follows its
  contract over whole runs, and its abstraction is what the user computes;
* `last_change`, `exists_last`: the last event that changed an observed state, and the last event of a kind.
-/

set_option autoImplicit false

namespace Slotpilot.Lib

/-- What is promised about a component, from the events at its boundary alone. -/
structure PortContract (α ε : Type) where
  observe : α → ε → α
  admits : α → ε → Prop

namespace PortContract

variable {α ε : Type} (contract : PortContract α ε)

/-- The state that some events lead to. -/
def observed (a : α) (events : List ε) : α := events.foldl contract.observe a

/-- Each event is admitted in the state that the events before it lead to. -/
def Follows : α → List ε → Prop
  | _, [] => True
  | a, event :: events => contract.admits a event ∧ Follows (contract.observe a event) events

@[simp] theorem observed_nil (a : α) : contract.observed a [] = a := rfl

@[simp] theorem observed_cons (a : α) (event : ε) (events : List ε) :
    contract.observed a (event :: events) = contract.observed (contract.observe a event) events := rfl

theorem observed_append (a : α) (events later : List ε) :
    contract.observed a (events ++ later) = contract.observed (contract.observed a events) later :=
  List.foldl_append

theorem follows_append {a : α} {events later : List ε} :
    contract.Follows a (events ++ later) ↔
      contract.Follows a events ∧ contract.Follows (contract.observed a events) later := by
  induction events generalizing a with
  | nil => simp [Follows]
  | cons event events ih => simp only [List.cons_append, Follows, observed_cons, ih, and_assoc]

/-! ## Machines -/

variable {σ ι ο : Type} {step : σ → ι → ο × σ} {event : ι → ο → Option ε}

/-- The visible events of a run. -/
def events (step : σ → ι → ο × σ) (event : ι → ο → Option ε) (s : σ) (is : List ι) : List ε :=
  (transcript step s is).filterMap fun pair => event pair.1 pair.2

variable {abs : σ → α} {I : σ → Prop}

/-- From states with `I`, a step of the machine is silent and keeps the abstraction, or it is an admitted event that
leads to the abstraction of the next state. -/
def Implements (abs : σ → α) (I : σ → Prop) (step : σ → ι → ο × σ) (event : ι → ο → Option ε) : Prop :=
  ∀ s i, I s → I (step s i).2 ∧
    match event i (step s i).1 with
    | none => abs (step s i).2 = abs s
    | some e => contract.admits (abs s) e ∧ abs (step s i).2 = contract.observe (abs s) e

variable {contract}

/-- A machine that implements a contract follows it in every run, and its abstraction is what a user computes. -/
theorem Implements.run (h : contract.Implements abs I step event) {s : σ} (hs : I s) (is : List ι) :
    contract.Follows (abs s) (events step event s is) ∧
      abs (final step s is) = contract.observed (abs s) (events step event s is) := by
  induction is generalizing s with
  | nil => exact ⟨trivial, rfl⟩
  | cons i is ih =>
    obtain ⟨hnext, hevent⟩ := h s i hs
    obtain ⟨hfollows, hobserved⟩ := ih hnext
    rw [final_cons, hobserved]
    have hevents : events step event s (i :: is) =
        (event i (step s i).1).toList ++ events step event (step s i).2 is := by
      rw [events, transcript_cons, List.filterMap_cons, events]
      cases event i (step s i).1 <;> rfl
    rw [hevents]
    cases he : event i (step s i).1 with
    | none =>
      rw [he] at hevent
      rw [show abs (step s i).2 = abs s from hevent] at hfollows ⊢
      exact ⟨hfollows, rfl⟩
    | some e =>
      rw [he] at hevent
      obtain ⟨hadmits, habs⟩ := hevent
      rw [habs] at hfollows ⊢
      exact ⟨⟨hadmits, hfollows⟩, rfl⟩

end PortContract

/-! ## Last events -/

variable {α ε : Type}

/-- The last event of a kind. -/
theorem exists_last {P : ε → Prop} {events : List ε} (h : ∃ event ∈ events, P event) :
    ∃ before event later, events = before ++ event :: later ∧ P event ∧ ∀ after ∈ later, ¬P after := by
  classical
  induction events with
  | nil =>
    obtain ⟨_, hmem, -⟩ := h
    cases hmem
  | cons first events ih =>
    by_cases hlater : ∃ event ∈ events, P event
    · obtain ⟨before, event, later, rfl, hevent, hafter⟩ := ih hlater
      exact ⟨first :: before, event, later, rfl, hevent, hafter⟩
    · obtain ⟨event, hmem, hevent⟩ := h
      rcases List.mem_cons.mp hmem with rfl | hmem
      · exact ⟨[], event, events, rfl, hevent, fun after hmem hafter => hlater ⟨after, hmem, hafter⟩⟩
      · exact absurd ⟨event, hmem, hevent⟩ hlater

/-- A state that differs from the first one was entered by a last event, and every later event keeps it. -/
theorem last_change {f : α → ε → α} {a b : α} {events : List ε} (h : events.foldl f a = b) (hne : a ≠ b) :
    ∃ before event later, events = before ++ event :: later ∧ before.foldl f a ≠ b ∧
      f (before.foldl f a) event = b ∧ ∀ after ∈ later, f b after = b := by
  induction events using List.reverseRecOn with
  | nil => exact absurd h hne
  | append_singleton events event ih =>
    rw [List.foldl_append, List.foldl_cons, List.foldl_nil] at h
    by_cases hbefore : events.foldl f a = b
    · obtain ⟨before, entered, later, rfl, hother, henters, hkept⟩ := ih hbefore
      refine ⟨before, entered, later ++ [event], by simp, hother, henters, fun after hmem => ?_⟩
      rcases List.mem_append.mp hmem with hmem | hmem
      · exact hkept after hmem
      · rw [List.mem_singleton.mp hmem, ← hbefore, h, hbefore]
    · exact ⟨events, event, [], rfl, hbefore, h, fun after hmem => nomatch hmem⟩

end Slotpilot.Lib
