import Slotpilot.Lib.StateResult

/-!
# Updates that ignore a part of the state

An erasure `erase : σ → τ` forgets a part of a state. An update `y` of the erased state follows an update `x` of the
whole one (`Erases`) when it returns `f a` where `x` returns `a`, fails with the same error where `x` fails, and leaves
the erased state either way. The rules compose such pairs along `bind`; each also carries a condition on the state that
`x` leaves and one on its errors.
-/

set_option autoImplicit false

namespace Slotpilot.Lib

variable {ε σ τ α β γ δ : Type}

/-- On the erased state `y` does what `x` does on `s`; `x` leaves a state with `Q`, and its errors are of `E`. -/
def Erases (erase : σ → τ) (f : α → β) (x : EStateM ε σ α) (y : EStateM ε τ β) (s : σ) (Q : σ → Prop) (E : ε → Prop) :
    Prop :=
  Ends x s (fun a t => y (erase s) = .ok (f a) (erase t) ∧ Q t)
    (fun e t => y (erase s) = .error e (erase t) ∧ Q t ∧ E e)

variable {erase : σ → τ} {f : α → β} {g : γ → δ} {x : EStateM ε σ α} {y : EStateM ε τ β} {s : σ} {P Q : σ → Prop}
  {E : ε → Prop}

theorem Erases.imp (h : Erases erase f x y s P E) (hi : ∀ t, P t → Q t) : Erases erase f x y s Q E :=
  Ends.imp h (fun _ t ht => ⟨ht.1, hi t ht.2⟩) (fun _ t ht => ⟨ht.1, hi t ht.2.1, ht.2.2⟩)

/-- The updates end alike, and the states they leave differ in what is erased. -/
theorem Erases.ends (h : Erases erase f x y s Q E) :
    outcome (y (erase s)) = (outcome (x s)).map f ∧ finalState (y (erase s)) = erase (finalState (x s)) ∧
      Q (finalState (x s)) := by
  unfold Erases Ends at h
  cases hx : x s with
  | ok a t =>
    rw [hx] at h
    rw [h.1]
    exact ⟨rfl, rfl, h.2⟩
  | error e t =>
    rw [hx] at h
    rw [h.1]
    exact ⟨rfl, rfl, h.2.1⟩

theorem Erases.of_ok {a : α} {t : σ} (h : Erases erase f x y s Q E) (hx : x s = .ok a t) :
    y (erase s) = .ok (f a) (erase t) ∧ Q t := by
  unfold Erases at h
  exact h.of_ok hx

theorem Erases.of_error {e : ε} {t : σ} (h : Erases erase f x y s Q E) (hx : x s = .error e t) : E e := by
  unfold Erases at h
  exact (h.of_error hx).2.2

/-- A continuation follows from the value and the state that it continues from. -/
theorem Erases.bind {k : α → EStateM ε σ γ} {l : β → EStateM ε τ δ} (h : Erases erase f x y s P E)
    (hi : ∀ t, P t → Q t) (hk : ∀ a t, x s = .ok a t → P t → Erases erase g (k a) (l (f a)) t Q E) :
    Erases erase g (x >>= k) (y >>= l) s Q E := by
  unfold Erases at h hk ⊢
  rw [ends_bind]
  have hbind : (y >>= l) (erase s) = EStateM.bind y l (erase s) := rfl
  rw [hbind, EStateM.bind]
  unfold Ends at h ⊢
  cases hx : x s with
  | ok a t =>
    rw [hx] at h
    have hrest := hk a t hx h.2
    dsimp only
    rw [h.1]
    exact hrest
  | error e t =>
    rw [hx] at h
    dsimp only
    rw [h.1]
    exact ⟨rfl, hi t h.2.1, h.2.2⟩

/-- A value that is only mapped. -/
theorem Erases.map {η : Type} {u : α → γ} {v : β → η} {w : γ → η} (h : Erases erase f x y s Q E)
    (hw : ∀ a, w (u a) = v (f a)) : Erases erase w (u <$> x) (v <$> y) s Q E := by
  rw [map_eq_pure_bind, map_eq_pure_bind]
  refine h.bind (fun _ => id) ?_
  intro a t _ ht
  refine ⟨?_, ht⟩
  show EStateM.Result.ok (v (f a)) (erase t) = .ok (w (u a)) (erase t)
  rw [hw]

@[simp] theorem erases_pure {a : α} {b : β} :
    Erases erase f (pure a) (pure b : EStateM ε τ β) s Q E ↔ b = f a ∧ Q s := by
  show (EStateM.Result.ok b (erase s) = .ok (f a) (erase s) ∧ Q s) ↔ _
  rw [EStateM.Result.ok.injEq, eq_self_iff_true, and_true]

@[simp] theorem erases_throw {e : ε} :
    Erases erase f (throw e) (throw e : EStateM ε τ β) s Q E ↔ Q s ∧ E e := by
  show (EStateM.Result.error e (erase s) = .error e (erase s) ∧ Q s ∧ E e) ↔ _
  rw [eq_self_iff_true, true_and]

/-- What is read of the state is read of the erased one. -/
@[simp] theorem erases_get_bind {k : σ → EStateM ε σ γ} {l : τ → EStateM ε τ δ} :
    Erases erase g (get >>= k) (get >>= l) s Q E ↔ Erases erase g (k s) (l (erase s)) s Q E := Iff.rfl

theorem erases_modify {u : σ → σ} {v : τ → τ} (h : v (erase s) = erase (u s)) (hQ : Q (u s)) :
    Erases erase id (modify u) (modify v : EStateM ε τ PUnit) s Q E := by
  show EStateM.Result.ok PUnit.unit (v (erase s)) = .ok PUnit.unit (erase (u s)) ∧ Q (u s)
  rw [h]
  exact ⟨rfl, hQ⟩

theorem erases_modifyGet {u : σ → α × σ} {v : τ → β × τ} (h : v (erase s) = (f (u s).1, erase (u s).2))
    (hQ : Q (u s).2) : Erases erase f (modifyGet u) (modifyGet v : EStateM ε τ β) s Q E := by
  show EStateM.Result.ok (v (erase s)).1 (v (erase s)).2 = .ok (f (u s).1) (erase (u s).2) ∧ Q (u s).2
  rw [h]
  exact ⟨rfl, hQ⟩

theorem erases_fromResult {r : Except ε α} (hQ : Q s) (hE : ∀ e, r = .error e → E e) :
    Erases erase id (fromResult r) (fromResult r : EStateM ε τ α) s Q E := by
  cases r with
  | ok a => exact ⟨rfl, hQ⟩
  | error e => exact ⟨rfl, hQ, hE e rfl⟩

theorem erases_orThrow {e : ε} {o : Option α} (hQ : Q s) (hE : E e) :
    Erases erase id (orThrow e o) (orThrow e o : EStateM ε τ α) s Q E := by
  cases o with
  | some a => exact ⟨rfl, hQ⟩
  | none => exact ⟨rfl, hQ, hE⟩

end Slotpilot.Lib
