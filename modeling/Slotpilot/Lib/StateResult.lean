import Mathlib

/-!
# Fallible updates of a state

An update is an `EStateM ε σ α`: it reads and writes a state `σ` and either returns a value or fails with an error, and
a failure keeps the state written so far. This is a method on a mutable receiver that returns a result.

* inversion of a successful run, one rule for each operation (`bind_ok`, `get_ok`, …, the simp set of this file);
* what holds at the end of a run, returned or failed (`Ends`), with a rule for each operation;
* updates that lead from one condition on the state to another (`Leads`);
* results and updates whose errors are all of one kind (`Errs`, `Raises`), with a rule for each operation;
* an update of one optional part of a larger state (`onPart`).
-/

set_option autoImplicit false

namespace Slotpilot.Lib

variable {ε σ τ α β : Type}

/-! ## Operations -/

/-- The value of an option, or the error `e`, as a result. -/
def okOr (e : ε) : Option α → Except ε α
  | some a => .ok a
  | none => .error e

/-- The value of an option, or the error `e`, as an update. -/
def orThrow (e : ε) : Option α → EStateM ε σ α
  | some a => pure a
  | none => throw e

/-- A result that does not touch the state. -/
def fromResult : Except ε α → EStateM ε σ α
  | .ok a => pure a
  | .error e => throw e

/-- An update of the part of a larger state that `part` reads and `put` writes back; `missing` when there is none. -/
def onPart (part : σ → Option τ) (put : τ → σ → σ) (missing : ε) (x : EStateM ε τ α) : EStateM ε σ α := fun s =>
  match part s with
  | none => .error missing s
  | some t =>
    match x t with
    | .ok a t' => .ok a (put t' s)
    | .error e t' => .error e (put t' s)

/-- The state a run ends in, also after a failure. -/
def finalState : EStateM.Result ε σ α → σ
  | .ok _ s => s
  | .error _ s => s

/-- The result of a run, without its state. -/
def outcome : EStateM.Result ε σ α → Except ε α
  | .ok a _ => .ok a
  | .error e _ => .error e

@[simp] theorem finalState_ok (a : α) (s : σ) : finalState (.ok a s : EStateM.Result ε σ α) = s := rfl
@[simp] theorem finalState_error (e : ε) (s : σ) : finalState (.error e s : EStateM.Result ε σ α) = s := rfl
@[simp] theorem outcome_ok (a : α) (s : σ) : outcome (.ok a s : EStateM.Result ε σ α) = .ok a := rfl
@[simp] theorem outcome_error (e : ε) (s : σ) : outcome (.error e s : EStateM.Result ε σ α) = .error e := rfl

theorem outcome_eq_ok {r : EStateM.Result ε σ α} {a : α} : outcome r = .ok a ↔ r = .ok a (finalState r) := by
  cases r <;> simp

/-! ## Inversion of a successful run -/

@[simp] theorem okOr_ok {e : ε} {o : Option α} {a : α} : okOr e o = .ok a ↔ o = some a := by
  cases o <;> simp [okOr]

@[simp] theorem exceptBind_ok {r : Except ε α} {f : α → Except ε β} {b : β} :
    (r >>= f) = .ok b ↔ ∃ a, r = .ok a ∧ f a = .ok b := by
  cases r with
  | ok a => show f a = _ ↔ _; simp
  | error e => show Except.error e = _ ↔ _; simp

@[simp] theorem exceptMap_ok {r : Except ε α} {f : α → β} {b : β} : r.map f = .ok b ↔ ∃ a, r = .ok a ∧ f a = b := by
  cases r <;> simp [Except.map]

@[simp] theorem exceptMapError_ok {δ : Type} {r : Except ε α} {f : ε → δ} {a : α} :
    r.mapError f = .ok a ↔ r = .ok a := by
  cases r <;> simp [Except.mapError]

/-- A list of results succeeds with the list of their values. -/
theorem mapM_ok {f : α → Except ε β} {l : List α} {r : List β} :
    l.mapM f = .ok r ↔ List.Forall₂ (fun a b => f a = .ok b) l r := by
  induction l generalizing r with
  | nil =>
    rw [List.forall₂_nil_left_iff]
    show Except.ok [] = _ ↔ _
    rw [Except.ok.injEq, eq_comm]
  | cons a l ih =>
    rw [List.mapM_cons]
    simp only [exceptBind_ok, ih]
    constructor
    · rintro ⟨b, hb, bs, hbs, h⟩
      cases h
      exact .cons hb hbs
    · rintro (- | ⟨hb, hbs⟩)
      exact ⟨_, hb, _, hbs, rfl⟩

/-- A list of results succeeds, or fails with the error of one of them. -/
theorem mapM_cases (f : α → Except ε β) (l : List α) :
    (∃ r, l.mapM f = .ok r) ∨ ∃ a ∈ l, ∃ e, f a = .error e ∧ l.mapM f = .error e := by
  induction l with
  | nil => exact .inl ⟨[], rfl⟩
  | cons a l ih =>
    rw [List.mapM_cons]
    cases ha : f a with
    | error e => exact .inr ⟨a, List.mem_cons_self, e, ha, rfl⟩
    | ok b =>
      rcases ih with ⟨r, hr⟩ | ⟨a', ha', e, he, hl⟩
      · rw [hr]
        exact .inl ⟨b :: r, rfl⟩
      · rw [hl]
        exact .inr ⟨a', List.mem_cons_of_mem a ha', e, he, rfl⟩

theorem forall₂_trans {γ : Type} {R : α → β → Prop} {S : β → γ → Prop} {T : α → γ → Prop}
    (h : ∀ a b c, R a b → S b c → T a c) {l : List α} {m : List β} {n : List γ} (hR : List.Forall₂ R l m)
    (hS : List.Forall₂ S m n) : List.Forall₂ T l n := by
  induction hR generalizing n with
  | nil =>
    cases hS
    exact .nil
  | cons hab _ ih =>
    cases hS with
    | cons hbc hS => exact .cons (h _ _ _ hab hbc) (ih hS)

theorem exists_of_forall₂_mem {R : α → β → Prop} {l : List α} {m : List β} (h : List.Forall₂ R l m) {b : β}
    (hb : b ∈ m) : ∃ a ∈ l, R a b := by
  induction h with
  | nil => cases hb
  | cons hab _ ih =>
    rcases List.mem_cons.mp hb with rfl | hb
    · exact ⟨_, List.mem_cons_self, hab⟩
    · obtain ⟨a, ha, hR⟩ := ih hb
      exact ⟨a, List.mem_cons_of_mem _ ha, hR⟩

section Success

variable {s t : σ} {a : α} {b : β} {x : EStateM ε σ α}

@[simp] theorem bind_ok {f : α → EStateM ε σ β} :
    (x >>= f) s = .ok b t ↔ ∃ a u, x s = .ok a u ∧ f a u = .ok b t := by
  show EStateM.bind x f s = _ ↔ _
  unfold EStateM.bind
  cases x s with
  | ok a u => simp [and_assoc]
  | error e u => simp

@[simp] theorem pure_ok {a' : α} : (pure a' : EStateM ε σ α) s = .ok a t ↔ a' = a ∧ s = t := by
  show EStateM.Result.ok a' s = _ ↔ _
  simp

@[simp] theorem get_ok {u : σ} : (get : EStateM ε σ σ) s = .ok u t ↔ s = u ∧ s = t := by
  show EStateM.Result.ok s s = _ ↔ _
  simp

@[simp] theorem modify_ok {f : σ → σ} {u : PUnit} : (modify f : EStateM ε σ PUnit) s = .ok u t ↔ f s = t := by
  show EStateM.Result.ok PUnit.unit (f s) = _ ↔ _
  simp

@[simp] theorem throw_ok {e : ε} : ¬(throw e : EStateM ε σ α) s = .ok a t := by
  show ¬EStateM.Result.error e s = _
  simp

@[simp] theorem orThrow_ok {e : ε} {o : Option α} :
    (orThrow e o : EStateM ε σ α) s = .ok a t ↔ o = some a ∧ s = t := by
  cases o <;> simp [orThrow]

@[simp] theorem fromResult_ok {r : Except ε α} : (fromResult r : EStateM ε σ α) s = .ok a t ↔ r = .ok a ∧ s = t := by
  cases r <;> simp [fromResult]

end Success

/-! ## What holds at the end of a run -/

/-- The run of `x` from `s` ends with `Q` when it returns and with `E` when it fails. -/
def Ends (x : EStateM ε σ α) (s : σ) (Q : α → σ → Prop) (E : ε → σ → Prop) : Prop :=
  match x s with
  | .ok a t => Q a t
  | .error e t => E e t

section Ends

variable {s : σ} {a : α} {e : ε} {x : EStateM ε σ α} {Q Q' : α → σ → Prop} {E E' : ε → σ → Prop}

theorem Ends.imp (h : Ends x s Q E) (hq : ∀ a t, Q a t → Q' a t) (he : ∀ e t, E e t → E' e t) : Ends x s Q' E' := by
  unfold Ends at *
  cases hx : x s with
  | ok a t => rw [hx] at h; exact hq a t h
  | error e t => rw [hx] at h; exact he e t h

theorem Ends.and (h : Ends x s Q E) (h' : Ends x s Q' E') :
    Ends x s (fun a t => Q a t ∧ Q' a t) (fun e t => E e t ∧ E' e t) := by
  unfold Ends at *
  cases hx : x s with
  | ok a t => rw [hx] at h h'; exact ⟨h, h'⟩
  | error e t => rw [hx] at h h'; exact ⟨h, h'⟩

theorem Ends.of_ok {t : σ} (h : Ends x s Q E) (hx : x s = .ok a t) : Q a t := by
  unfold Ends at h
  rwa [hx] at h

theorem Ends.of_error {t : σ} (h : Ends x s Q E) (hx : x s = .error e t) : E e t := by
  unfold Ends at h
  rwa [hx] at h

/-- A run that cannot fail returns. -/
theorem Ends.exists_ok (h : Ends x s Q fun _ _ => False) : ∃ a t, x s = .ok a t ∧ Q a t := by
  unfold Ends at h
  cases hx : x s with
  | ok a t =>
    rw [hx] at h
    exact ⟨a, t, rfl, h⟩
  | error e t =>
    rw [hx] at h
    exact h.elim

/-- A run ends with its own result. -/
theorem ends_run (x : EStateM ε σ α) (s : σ) : Ends x s (fun a t => x s = .ok a t) (fun e t => x s = .error e t) := by
  unfold Ends
  cases x s <;> rfl

/-- A condition on the last state alone. -/
theorem ends_final {P : σ → Prop} : Ends x s (fun _ t => P t) (fun _ t => P t) ↔ P (finalState (x s)) := by
  unfold Ends
  cases x s <;> rfl

@[simp] theorem ends_pure : Ends (pure a : EStateM ε σ α) s Q E ↔ Q a s := Iff.rfl

@[simp] theorem ends_throw : Ends (throw e : EStateM ε σ α) s Q E ↔ E e s := Iff.rfl

@[simp] theorem ends_get {Q : σ → σ → Prop} : Ends (get : EStateM ε σ σ) s Q E ↔ Q s s := Iff.rfl

@[simp] theorem ends_set {t : σ} {Q : PUnit → σ → Prop} :
    Ends (set t : EStateM ε σ PUnit) s Q E ↔ Q ⟨⟩ t := Iff.rfl

@[simp] theorem ends_modify {f : σ → σ} {Q : PUnit → σ → Prop} :
    Ends (modify f : EStateM ε σ PUnit) s Q E ↔ Q ⟨⟩ (f s) := Iff.rfl

@[simp] theorem ends_modifyGet {f : σ → α × σ} :
    Ends (modifyGet f : EStateM ε σ α) s Q E ↔ Q (f s).1 (f s).2 := Iff.rfl

@[simp] theorem ends_orThrow {o : Option α} :
    Ends (orThrow e o : EStateM ε σ α) s Q E ↔ (∀ a, o = some a → Q a s) ∧ (o = none → E e s) := by
  cases o <;> simp [orThrow]

@[simp] theorem ends_fromResult {r : Except ε α} :
    Ends (fromResult r : EStateM ε σ α) s Q E ↔ (∀ a, r = .ok a → Q a s) ∧ (∀ e, r = .error e → E e s) := by
  cases r <;> simp [fromResult]

@[simp] theorem ends_bind {f : α → EStateM ε σ β} {Q : β → σ → Prop} :
    Ends (x >>= f) s Q E ↔ Ends x s (fun a t => Ends (f a) t Q E) E := by
  show (match EStateM.bind x f s with | .ok b t => Q b t | .error e t => E e t) ↔ _
  unfold EStateM.bind Ends
  cases x s <;> rfl

@[simp] theorem ends_tryCatch {h : ε → EStateM ε σ α} :
    Ends (tryCatch x h) s Q E ↔ Ends x s Q (fun e t => Ends (h e) t Q E) := by
  show (match EStateM.tryCatch x h s with | .ok a t => Q a t | .error e t => E e t) ↔ _
  unfold EStateM.tryCatch Ends
  cases x s <;> rfl

@[simp] theorem ends_ite {c : Prop} [Decidable c] {y : EStateM ε σ α} :
    Ends (if c then x else y) s Q E ↔ (c → Ends x s Q E) ∧ (¬c → Ends y s Q E) := by
  split <;> simp [*]

@[simp] theorem ends_onPart {part : σ → Option τ} {put : τ → σ → σ} {missing : ε} {y : EStateM ε τ α} :
    Ends (onPart part put missing y) s Q E ↔
      (part s = none → E missing s) ∧
        ∀ u, part s = some u → Ends y u (fun a v => Q a (put v s)) (fun e v => E e (put v s)) := by
  unfold Ends onPart
  cases part s with
  | none => simp
  | some u =>
    simp only [reduceCtorEq, false_implies, Option.some.injEq, true_and, forall_eq']
    cases y u <;> rfl

/-- An update of a part satisfies what holds for every value of the part. -/
theorem Ends.onPart_of_all {part : σ → Option τ} {put : τ → σ → σ} {missing : ε} {y : EStateM ε τ α}
    (hm : E missing s) (hq : ∀ a v, Q a (put v s)) (he : ∀ e v, E e (put v s)) :
    Ends (onPart part put missing y) s Q E := by
  rw [ends_onPart]
  refine ⟨fun _ => hm, fun u _ => ?_⟩
  unfold Ends
  cases y u with
  | ok a v => exact hq a v
  | error e v => exact he e v

end Ends

/-! ## From one condition to another -/

/-- From each state with `P`, a run of `x` ends with `Q`, whether it returns or fails. -/
def Leads (P Q : σ → Prop) (x : EStateM ε σ α) : Prop := ∀ s, P s → Ends x s (fun _ t => Q t) (fun _ t => Q t)

section Leads

variable {P Q R : σ → Prop} {x : EStateM ε σ α}

theorem Leads.imp (h : Leads P Q x) (hi : ∀ s, Q s → R s) : Leads P R x := fun s hs =>
  (h s hs).imp (fun _ t => hi t) (fun _ t => hi t)

theorem leads_pure (h : ∀ s, P s → Q s) (a : α) : Leads P Q (pure a : EStateM ε σ α) := h

theorem leads_throw (h : ∀ s, P s → Q s) (e : ε) : Leads P Q (throw e : EStateM ε σ α) := h

theorem leads_get (h : ∀ s, P s → Q s) : Leads P Q (get : EStateM ε σ σ) := h

theorem leads_modify {f : σ → σ} (h : ∀ s, P s → Q (f s)) : Leads P Q (modify f : EStateM ε σ PUnit) := h

theorem leads_modifyGet {f : σ → α × σ} (h : ∀ s, P s → Q (f s).2) : Leads P Q (modifyGet f : EStateM ε σ α) := h

theorem leads_fromResult (h : ∀ s, P s → Q s) (r : Except ε α) : Leads P Q (fromResult r : EStateM ε σ α) :=
  fun s hs => by simp [h s hs]

theorem leads_orThrow (h : ∀ s, P s → Q s) (e : ε) (o : Option α) : Leads P Q (orThrow e o : EStateM ε σ α) :=
  fun s hs => by simp [h s hs]

/-- A run that may fail where it began is continued from there. -/
theorem Leads.bind {f : α → EStateM ε σ β} (hx : Leads P P x) (hi : ∀ s, P s → Q s) (hf : ∀ a, Leads P Q (f a)) :
    Leads P Q (x >>= f) := fun s hs => by
  rw [ends_bind]
  exact (hx s hs).imp (fun a t ht => hf a t ht) (fun _ t => hi t)

theorem Leads.map (f : α → β) (hx : Leads P Q x) : Leads P Q (f <$> x) := fun s hs => by
  rw [map_eq_pure_bind, ends_bind]
  exact hx s hs

end Leads

/-! ## Kinds of errors -/

/-- Every error of the result is of the kind `K`. -/
def Errs (K : ε → Prop) (r : Except ε α) : Prop := ∀ e, r = .error e → K e

/-- Every error of the update is of the kind `K`, from any state. -/
def Raises (K : ε → Prop) (x : EStateM ε σ α) : Prop := ∀ s, Ends x s (fun _ _ => True) (fun e _ => K e)

section Kinds

variable {K : ε → Prop} {r : Except ε α} {x : EStateM ε σ α}

theorem errs_ok (a : α) : Errs K (.ok a) := by
  intro e h
  cases h

theorem errs_error {e : ε} (h : K e) : Errs K (.error e : Except ε α) := by
  rintro _ ⟨⟩
  exact h

theorem errs_okOr {e : ε} (h : K e) (o : Option α) : Errs K (okOr e o) := by
  cases o with
  | none => exact errs_error h
  | some a => exact errs_ok a

theorem errs_mapError {e : ε} {ε' : Type} (h : K e) (r : Except ε' α) : Errs K (r.mapError fun _ => e) := by
  cases r with
  | error _ => exact errs_error h
  | ok a => exact errs_ok a

theorem Errs.map (h : Errs K r) (f : α → β) : Errs K (r.map f) := by
  cases r with
  | error e => exact errs_error (h e rfl)
  | ok a => exact errs_ok (f a)

theorem Errs.bind {f : α → Except ε β} (h : Errs K r) (hf : ∀ a, Errs K (f a)) : Errs K (r >>= f) := by
  cases r with
  | error e => exact errs_error (h e rfl)
  | ok a => exact hf a

theorem raises_pure (a : α) : Raises K (pure a : EStateM ε σ α) := fun _ => trivial

theorem raises_get : Raises K (get : EStateM ε σ σ) := fun _ => trivial

theorem raises_modify (f : σ → σ) : Raises K (modify f : EStateM ε σ PUnit) := fun _ => trivial

theorem raises_throw {e : ε} (h : K e) : Raises K (throw e : EStateM ε σ α) := fun _ => h

theorem raises_orThrow {e : ε} (h : K e) (o : Option α) : Raises K (orThrow e o : EStateM ε σ α) := by
  intro s
  rw [ends_orThrow]
  exact ⟨fun _ _ => trivial, fun _ => h⟩

theorem raises_fromResult (h : Errs K r) : Raises K (fromResult r : EStateM ε σ α) := by
  intro s
  rw [ends_fromResult]
  exact ⟨fun _ _ => trivial, h⟩

theorem Raises.bind {f : α → EStateM ε σ β} (h : Raises K x) (hf : ∀ a, Raises K (f a)) : Raises K (x >>= f) := by
  intro s
  rw [ends_bind]
  exact (h s).imp (fun a t _ => hf a t) (fun _ _ he => he)

theorem raises_ite {c : Prop} [Decidable c] {y : EStateM ε σ α} (hx : Raises K x) (hy : Raises K y) :
    Raises K (if c then x else y) := by
  split
  · exact hx
  · exact hy

end Kinds

end Slotpilot.Lib
