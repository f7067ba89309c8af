import Mathlib

/-!
# Parties that interleave atomic operations on a shared state

A *program* returns a value, or performs an atomic operation on the shared state and goes on with its answer, or calls a
procedure by name, which may call itself. A *system* has parties, each of which runs one program after the other, and a
run of the system interleaves the single operations of all parties in any order.

* `World.step`, `World.run`: one move of one party, and a run; `World.Reach P` are the worlds of the runs whose shared
  states all meet `P`;
* `Tracker`: what is recorded of a party's history by a fold (what it holds, what it has sent, …);
* `Contract` and `Keeps`: what a party promises of each operation, relying on the answers the contract allows, with a
  rule for each construct of a program;
* `Program.Alone`: what a program does when no other party moves, and `World.alone`, the run of these moves;
* `Upholds.invariant`: parties that keep their contracts, and an invariant of the shared state and the records that
  every promised operation keeps and that gives the allowed answers, hold in every world of every run.
-/

set_option autoImplicit false

namespace Slotpilot.Lib

/-! ## Programs -/

/-- The atomic operations on a shared state, the type of each one's answer, and the names of the procedures. -/
structure Interface where
  Op : Type
  Answer : Op → Type
  Proc : Type

/-- A program over the operations of an interface. -/
inductive Program (I : Interface) (α : Type) : Type
  | done (value : α)
  | act (op : I.Op) (next : I.Answer op → Program I α)
  | call (proc : I.Proc) (next : Program I α)

namespace Program

variable {I : Interface} {α β : Type}

def bind : Program I α → (α → Program I β) → Program I β
  | .done value, f => f value
  | .act op next, f => .act op fun answer => (next answer).bind f
  | .call proc next, f => .call proc (next.bind f)

instance : Monad (Program I) where
  pure := .done
  bind := bind

/-- The program of one procedure call. -/
def invoke (proc : I.Proc) : Program I Unit := .call proc (.done ())

/-- The program performs only operations with `P`, and calls nothing. -/
def Only (P : I.Op → Prop) : Program I α → Prop
  | .done _ => True
  | .act op next => P op ∧ ∀ answer, Only P (next answer)
  | .call _ _ => False

theorem only_pure {P : I.Op → Prop} (value : α) : (pure value : Program I α).Only P := trivial

theorem Only.bind {P : I.Op → Prop} {program : Program I α} {f : α → Program I β} (h : program.Only P)
    (hf : ∀ value, (f value).Only P) : (program >>= f).Only P := by
  induction program with
  | done value => exact hf value
  | act op next ih => exact ⟨h.1, fun answer => ih answer (h.2 answer)⟩
  | call proc next => exact h.elim

end Program

/-! ## Systems and their runs -/

/-- What a party does: it enters a call, performs an operation, or returns from the call. -/
inductive Event (I : Interface) (κ τ : Type)
  | begun (call : κ)
  | did (op : I.Op) (answer : I.Answer op)
  | returned (result : τ)

/-- A party between two calls, with its last result, or in the middle of one. -/
inductive Activity (I : Interface) (τ : Type)
  | idle (last : τ)
  | running (program : Program I τ)

structure Party (I : Interface) (κ τ : Type) where
  history : List (Event I κ τ)
  activity : Activity I τ

/-- The parties `ρ` of a system: their calls and results, the program of a call after the last result, the effect of an
operation on the shared state `σ`, and the bodies of the procedures. -/
structure System (I : Interface) (σ ρ : Type) where
  Call : ρ → Type
  Result : ρ → Type
  entry : (r : ρ) → Call r → Result r → Program I (Result r)
  exec : (op : I.Op) → σ → I.Answer op × σ
  body : I.Proc → Program I Unit

variable {I : Interface} {σ ρ : Type}

structure World (S : System I σ ρ) where
  shared : σ
  party : (r : ρ) → Party I (S.Call r) (S.Result r)

/-- A party enters a call, or goes one step further in the call it is in. -/
inductive Move (S : System I σ ρ)
  | enter (r : ρ) (call : S.Call r)
  | advance (r : ρ)

namespace World

variable {S : System I σ ρ} [DecidableEq ρ]

/-- The party has done `events` and goes on with `activity`; the shared state is `shared`. -/
def proceed (w : World S) (r : ρ) (shared : σ) (events : List (Event I (S.Call r) (S.Result r)))
    (activity : Activity I (S.Result r)) : World S where
  shared
  party := Function.update w.party r ⟨(w.party r).history ++ events, activity⟩

/-- A move; a call is entered only by an idle party. -/
def step (w : World S) : Move S → World S
  | .enter r call =>
    match (w.party r).activity with
    | .idle last => w.proceed r w.shared [.begun call] (.running (S.entry r call last))
    | .running _ => w
  | .advance r =>
    match (w.party r).activity with
    | .idle _ => w
    | .running (.done value) => w.proceed r w.shared [.returned value] (.idle value)
    | .running (.act op next) =>
      w.proceed r (S.exec op w.shared).2 [.did op (S.exec op w.shared).1] (.running (next (S.exec op w.shared).1))
    | .running (.call proc next) => w.proceed r w.shared [] (.running ((S.body proc).bind fun _ => next))

@[simp] theorem proceed_activity {w : World S} {r : ρ} {shared : σ} {events : List (Event I (S.Call r) (S.Result r))}
    {activity : Activity I (S.Result r)} : ((w.proceed r shared events activity).party r).activity = activity := by
  simp only [proceed, Function.update_self]

/-! What a move is, by where its party is. -/

theorem step_enter {w : World S} {r : ρ} {last : S.Result r} (h : (w.party r).activity = .idle last)
    (call : S.Call r) :
    w.step (.enter r call) = w.proceed r w.shared [.begun call] (.running (S.entry r call last)) := by
  simp only [step, h]

theorem step_done {w : World S} {r : ρ} {value : S.Result r} (h : (w.party r).activity = .running (.done value)) :
    w.step (.advance r) = w.proceed r w.shared [.returned value] (.idle value) := by
  simp only [step, h]

theorem step_act {w : World S} {r : ρ} {op : I.Op} {next : I.Answer op → Program I (S.Result r)}
    (h : (w.party r).activity = .running (.act op next)) :
    w.step (.advance r) = w.proceed r (S.exec op w.shared).2 [.did op (S.exec op w.shared).1]
      (.running (next (S.exec op w.shared).1)) := by
  simp only [step, h]

theorem step_call {w : World S} {r : ρ} {proc : I.Proc} {next : Program I (S.Result r)}
    (h : (w.party r).activity = .running (.call proc next)) :
    w.step (.advance r) = w.proceed r w.shared [] (.running ((S.body proc).bind fun _ => next)) := by
  simp only [step, h]

def run (w : World S) (moves : List (Move S)) : World S := moves.foldl step w

/-- The worlds of the runs from `w₀` whose shared states all meet `P`. -/
inductive Reach (P : σ → Prop) (w₀ : World S) : World S → Prop
  | start : Reach P w₀ w₀
  | step {w : World S} (move : Move S) : Reach P w₀ w → P (w.step move).shared → Reach P w₀ (w.step move)

theorem run_append (w : World S) (moves : List (Move S)) (move : Move S) :
    w.run (moves ++ [move]) = (w.run moves).step move := by
  simp only [run, List.foldl_append, List.foldl_cons, List.foldl_nil]

/-- A run whose last state meets a condition that no operation can establish meets it throughout. -/
theorem reach_run {P : σ → Prop} (hback : ∀ op s, P (S.exec op s).2 → P s) {w₀ : World S} (moves : List (Move S))
    (h : P (w₀.run moves).shared) : Reach P w₀ (w₀.run moves) := by
  induction moves using List.reverseRecOn with
  | nil => exact .start
  | append_singleton moves move ih =>
    rw [run_append] at h ⊢
    refine .step move (ih ?_) h
    generalize w₀.run moves = w at h ⊢
    unfold step at h
    cases move with
    | enter r call =>
      dsimp only at h
      split at h <;> exact h
    | advance r =>
      dsimp only at h
      split at h
      · exact h
      · exact h
      · exact hback _ _ h
      · exact h

theorem reach_run_all (w₀ : World S) (moves : List (Move S)) : Reach (fun _ => True) w₀ (w₀.run moves) :=
  reach_run (fun _ _ _ => trivial) moves trivial

/-- A weaker condition has more runs. -/
theorem Reach.imp {P Q : σ → Prop} (hpq : ∀ s, P s → Q s) {w₀ w : World S} (h : Reach P w₀ w) : Reach Q w₀ w := by
  induction h with
  | start => exact .start
  | step move _ hp ih => exact .step move ih (hpq _ hp)

end World

/-! ## A party that moves alone -/

section Alone

variable {α β : Type} (exec : (op : I.Op) → σ → I.Answer op × σ)

/-- From the state, the program calls no procedure and returns with `Q` of its value and of the state that it leaves. -/
def Program.Alone (Q : α → σ → Prop) : Program I α → σ → Prop
  | .done value, s => Q value s
  | .act op next, s => Alone Q (next (exec op s).1) (exec op s).2
  | .call _ _, _ => False

variable {exec} {Q Q' : α → σ → Prop} {s : σ}

theorem Program.Alone.imp {program : Program I α} (h : program.Alone exec Q s) (hq : ∀ value t, Q value t → Q' value t) :
    program.Alone exec Q' s := by
  induction program generalizing s with
  | done value => exact hq value s h
  | act op next ih => exact ih _ h
  | call proc next => exact h

@[simp] theorem alone_pure {value : α} : (pure value : Program I α).Alone exec Q s ↔ Q value s := Iff.rfl

@[simp] theorem alone_act {op : I.Op} {next : I.Answer op → Program I α} :
    (Program.act op next).Alone exec Q s ↔ (next (exec op s).1).Alone exec Q (exec op s).2 := Iff.rfl

@[simp] theorem alone_bind {program : Program I α} {f : α → Program I β} {Q : β → σ → Prop} :
    (program >>= f).Alone exec Q s ↔ program.Alone exec (fun value t => (f value).Alone exec Q t) s := by
  show (program.bind f).Alone exec Q s ↔ _
  induction program generalizing s with
  | done value => exact Iff.rfl
  | act op next ih => exact ih _
  | call proc next => exact Iff.rfl

/-- A party that is left alone goes where its program leads. -/
theorem World.alone [DecidableEq ρ] {S : System I σ ρ} {w : World S} {r : ρ} {program : Program I (S.Result r)}
    {Q : S.Result r → σ → Prop} (hrunning : (w.party r).activity = .running program)
    (h : program.Alone S.exec Q w.shared) :
    ∃ moves result, ((w.run (List.replicate moves (.advance r))).party r).activity = .idle result ∧
      Q result (w.run (List.replicate moves (.advance r))).shared := by
  induction program generalizing w with
  | done value =>
    refine ⟨1, value, ?_, ?_⟩
    · show ((w.step (.advance r)).party r).activity = _
      rw [World.step_done hrunning, World.proceed_activity]
    · show Q value (w.step (.advance r)).shared
      rw [World.step_done hrunning]
      exact h
  | act op next ih =>
    have hnext : ((w.step (.advance r)).party r).activity = .running (next (S.exec op w.shared).1) := by
      rw [World.step_act hrunning, World.proceed_activity]
    have hthen : (next (S.exec op w.shared).1).Alone S.exec Q (w.step (.advance r)).shared := by
      rw [World.step_act hrunning]
      exact h
    obtain ⟨moves, result, hrun⟩ := ih _ hnext hthen
    exact ⟨moves + 1, result, hrun⟩
  | call proc next => exact h.elim

end Alone

/-! ## Contracts -/

/-- A record `γ` of a party's history. -/
structure Tracker (I : Interface) (κ τ γ : Type) where
  begun : γ → κ → γ
  did : γ → (op : I.Op) → I.Answer op → γ
  returned : γ → τ → γ

section Contract

variable {κ τ γ α β : Type}

def Tracker.event (T : Tracker I κ τ γ) (g : γ) : Event I κ τ → γ
  | .begun call => T.begun g call
  | .did op answer => T.did g op answer
  | .returned result => T.returned g result

/-- The record after a history. -/
def Tracker.after (T : Tracker I κ τ γ) (g : γ) (history : List (Event I κ τ)) : γ := history.foldl T.event g

@[simp] theorem Tracker.after_append (T : Tracker I κ τ γ) (g : γ) (before later : List (Event I κ τ)) :
    T.after g (before ++ later) = T.after (T.after g before) later := List.foldl_append

@[simp] theorem Tracker.after_nil (T : Tracker I κ τ γ) (g : γ) : T.after g [] = g := rfl

@[simp] theorem Tracker.after_singleton (T : Tracker I κ τ γ) (g : γ) (event : Event I κ τ) :
    T.after g [event] = T.event g event := rfl

/-- What a party promises of its operations and results, and of its record between two calls, as long as the answers it
gets are the allowed ones. A procedure promises `post` of the records before and after it. -/
structure Contract (T : Tracker I κ τ γ) where
  requires : γ → I.Op → Prop
  allows : γ → (op : I.Op) → I.Answer op → Prop
  ends : γ → τ → Prop
  idle : γ → τ → Prop
  pre : I.Proc → γ → Prop
  post : I.Proc → γ → γ → Prop

variable {T : Tracker I κ τ γ} (C : Contract T) {Q Q' : γ → α → Prop} {g : γ}

/-- From the record `g`, the program keeps the contract and returns with `Q`. -/
def Keeps (Q : γ → α → Prop) : γ → Program I α → Prop
  | g, .done value => Q g value
  | g, .act op next => C.requires g op ∧ ∀ answer, C.allows g op answer → Keeps Q (T.did g op answer) (next answer)
  | g, .call proc next => C.pre proc g ∧ ∀ g', C.post proc g g' → Keeps Q g' next

variable {C}

theorem Keeps.imp {program : Program I α} (h : Keeps C Q g program) (hq : ∀ g value, Q g value → Q' g value) :
    Keeps C Q' g program := by
  induction program generalizing g with
  | done value => exact hq g value h
  | act op next ih => exact ⟨h.1, fun answer hallowed => ih answer (h.2 answer hallowed)⟩
  | call proc next ih => exact ⟨h.1, fun g' hpost => ih (h.2 g' hpost)⟩

@[simp] theorem keeps_pure {value : α} : Keeps C Q g (pure value : Program I α) ↔ Q g value := Iff.rfl

@[simp] theorem keeps_done {value : α} : Keeps C Q g (.done value) ↔ Q g value := Iff.rfl

@[simp] theorem keeps_act {op : I.Op} {next : I.Answer op → Program I α} :
    Keeps C Q g (.act op next) ↔
      C.requires g op ∧ ∀ answer, C.allows g op answer → Keeps C Q (T.did g op answer) (next answer) := Iff.rfl

@[simp] theorem keeps_call {proc : I.Proc} {next : Program I α} :
    Keeps C Q g (.call proc next) ↔ C.pre proc g ∧ ∀ g', C.post proc g g' → Keeps C Q g' next := Iff.rfl

theorem keeps_bind' {program : Program I α} {f : α → Program I β} {Q : γ → β → Prop} :
    Keeps C Q g (program.bind f) ↔ Keeps C (fun g' value => Keeps C Q g' (f value)) g program := by
  induction program generalizing g with
  | done value => exact Iff.rfl
  | act op next ih => exact and_congr_right fun _ => forall₂_congr fun answer _ => ih answer
  | call proc next ih => exact and_congr_right fun _ => forall₂_congr fun _ _ => ih

@[simp] theorem keeps_bind {program : Program I α} {f : α → Program I β} {Q : γ → β → Prop} :
    Keeps C Q g (program >>= f) ↔ Keeps C (fun g' value => Keeps C Q g' (f value)) g program := keeps_bind'

@[simp] theorem keeps_ite {c : Prop} [Decidable c] {x y : Program I α} :
    Keeps C Q g (if c then x else y) ↔ (c → Keeps C Q g x) ∧ (¬c → Keeps C Q g y) := by
  split <;> simp [*]

/-- A program of operations that are always promised and keep a condition on the record. -/
theorem Program.Only.keeps {P : I.Op → Prop} {K : γ → Prop} {program : Program I α} (h : program.Only P)
    (hrequires : ∀ g op, P op → C.requires g op) (hdid : ∀ g op answer, P op → K g → K (T.did g op answer))
    (hg : K g) : Keeps C (fun g' _ => K g') g program := by
  induction program generalizing g with
  | done value => exact hg
  | act op next ih => exact ⟨hrequires _ _ h.1, fun answer _ => ih answer (h.2 answer) (hdid _ _ _ h.1 hg)⟩
  | call proc next => exact h.elim

variable (C)

/-- At the end of a call the result is as promised and the record is as between two calls. -/
def Contract.Returns (g : γ) (result : τ) : Prop := C.ends g result ∧ C.idle (T.returned g result) result

/-- What the party promises of an event and what it relies on. -/
def Contract.Honours (g : γ) : Event I κ τ → Prop
  | .begun _ => True
  | .did op answer => C.requires g op ∧ C.allows g op answer
  | .returned result => C.ends g result

/-- Every event of a history was as the contract says. -/
def Contract.Honoured : γ → List (Event I κ τ) → Prop
  | _, [] => True
  | g, event :: history => C.Honours g event ∧ Honoured (T.event g event) history

variable {C} in
theorem Contract.Honoured.snoc {history : List (Event I κ τ)} {event : Event I κ τ} (h : C.Honoured g history)
    (hevent : C.Honours (T.after g history) event) : C.Honoured g (history ++ [event]) := by
  induction history generalizing g with
  | nil => exact ⟨hevent, trivial⟩
  | cons first history ih => exact ⟨h.1, ih h.2 hevent⟩

variable {C} in
theorem Contract.Honoured.of_mem {history : List (Event I κ τ)} {event : Event I κ τ} (h : C.Honoured g history)
    (hmem : event ∈ history) : ∃ g', C.Honours g' event := by
  induction history generalizing g with
  | nil => cases hmem
  | cons first history ih =>
    rcases List.mem_cons.mp hmem with rfl | hmem
    · exact ⟨g, h.1⟩
    · exact ih h.2 hmem

/-- The rest of what a party does keeps the contract. -/
def Contract.Meets (g : γ) : Activity I τ → Prop
  | .idle last => C.idle g last
  | .running program => Keeps C C.Returns g program

end Contract

/-! ## Invariants -/

section Invariant

variable [DecidableEq ρ] {S : System I σ ρ} {γ : ρ → Type}

/-- The records of all parties. -/
def records (T : (r : ρ) → Tracker I (S.Call r) (S.Result r) (γ r)) (g₀ : (r : ρ) → γ r) (w : World S) (r : ρ) : γ r :=
  (T r).after (g₀ r) (w.party r).history

/-- All parties have kept their contracts and go on keeping them. -/
def AllMeet {T : (r : ρ) → Tracker I (S.Call r) (S.Result r) (γ r)} (C : (r : ρ) → Contract (T r)) (g₀ : (r : ρ) → γ r)
    (w : World S) : Prop :=
  ∀ r, (C r).Honoured (g₀ r) (w.party r).history ∧ (C r).Meets (records T g₀ w r) (w.party r).activity

variable {T : (r : ρ) → Tracker I (S.Call r) (S.Result r) (γ r)} {C : (r : ρ) → Contract (T r)} {g₀ : (r : ρ) → γ r}

theorem records_proceed (w : World S) (r : ρ) (shared : σ) (events : List (Event I (S.Call r) (S.Result r)))
    (activity : Activity I (S.Result r)) :
    records T g₀ (w.proceed r shared events activity) =
      Function.update (records T g₀ w) r ((T r).after (records T g₀ w r) events) := by
  funext other
  by_cases hother : other = r
  · subst hother
    simp only [records, World.proceed, Function.update_self, Tracker.after_append]
  · simp only [records, World.proceed, Function.update_of_ne hother]

/-- A party that keeps its contract after its move, while the others wait. -/
theorem AllMeet.proceed {w : World S} (h : AllMeet C g₀ w) (r : ρ) (shared : σ)
    {events : List (Event I (S.Call r) (S.Result r))} {activity : Activity I (S.Result r)}
    (hevents : (C r).Honoured (g₀ r) ((w.party r).history ++ events))
    (hr : (C r).Meets ((T r).after (records T g₀ w r) events) activity) :
    AllMeet C g₀ (w.proceed r shared events activity) := by
  intro other
  rw [records_proceed]
  by_cases hother : other = r
  · subst hother
    simpa only [World.proceed, Function.update_self] using ⟨hevents, hr⟩
  · simpa only [World.proceed, Function.update_of_ne hother] using h other

/-- What makes `J` an invariant of the runs whose states meet `P`: every procedure and every call keeps its contract, and
`J` is kept by what the contracts promise and gives the answers they allow. -/
structure Upholds (C : (r : ρ) → Contract (T r)) (g₀ : (r : ρ) → γ r) (P : σ → Prop) (J : σ → ((r : ρ) → γ r) → Prop)
    (w₀ : World S) : Prop where
  body : ∀ r proc g, (C r).pre proc g → Keeps (C r) (fun g' _ => (C r).post proc g g') g (S.body proc)
  entry : ∀ r call last g, (C r).idle g last → Keeps (C r) (C r).Returns ((T r).begun g call) (S.entry r call last)
  begun : ∀ s g r call last, J s g → (C r).idle (g r) last → J s (Function.update g r ((T r).begun (g r) call))
  returned : ∀ s g r result, J s g → (C r).ends (g r) result → J s (Function.update g r ((T r).returned (g r) result))
  did : ∀ w r op next, World.Reach P w₀ w → (w.party r).activity = .running (.act op next) →
    P (S.exec op w.shared).2 → J w.shared (records T g₀ w) → (C r).requires (records T g₀ w r) op →
    (C r).allows (records T g₀ w r) op (S.exec op w.shared).1 ∧
      J (S.exec op w.shared).2
        (Function.update (records T g₀ w) r ((T r).did (records T g₀ w r) op (S.exec op w.shared).1))

/-- One move keeps the invariant and the contracts. -/
theorem Upholds.step {P : σ → Prop} {J : σ → ((r : ρ) → γ r) → Prop} {w₀ w : World S} (h : Upholds C g₀ P J w₀)
    (hw : World.Reach P w₀ w) (hJ : J w.shared (records T g₀ w)) (hmeet : AllMeet C g₀ w) (move : Move S)
    (hP : P (w.step move).shared) :
    J (w.step move).shared (records T g₀ (w.step move)) ∧ AllMeet C g₀ (w.step move) := by
  cases move with
  | enter r call =>
    cases hactivity : (w.party r).activity with
    | running program =>
      rw [show w.step (.enter r call) = w by simp only [World.step, hactivity]]
      exact ⟨hJ, hmeet⟩
    | idle last =>
      rw [World.step_enter hactivity]
      have hidle : (C r).idle (records T g₀ w r) last := by
        have hr := (hmeet r).2
        rwa [hactivity] at hr
      exact ⟨by rw [records_proceed]; exact h.begun _ _ r call last hJ hidle,
        hmeet.proceed r _ ((hmeet r).1.snoc trivial) (h.entry r call last _ hidle)⟩
  | advance r =>
    cases hactivity : (w.party r).activity with
    | idle last =>
      rw [show w.step (.advance r) = w by simp only [World.step, hactivity]]
      exact ⟨hJ, hmeet⟩
    | running program =>
      have hkeeps : Keeps (C r) (C r).Returns (records T g₀ w r) program := by
        have hr := (hmeet r).2
        rwa [hactivity] at hr
      cases program with
      | done value =>
        rw [World.step_done hactivity]
        exact ⟨by rw [records_proceed]; exact h.returned _ _ r value hJ hkeeps.1,
          hmeet.proceed r _ ((hmeet r).1.snoc hkeeps.1) hkeeps.2⟩
      | act op next =>
        rw [World.step_act hactivity] at hP ⊢
        obtain ⟨hallowed, hJ'⟩ := h.did w r op next hw hactivity hP hJ hkeeps.1
        exact ⟨by rw [records_proceed]; exact hJ',
          hmeet.proceed r _ ((hmeet r).1.snoc ⟨hkeeps.1, hallowed⟩) (hkeeps.2 _ hallowed)⟩
      | call proc next =>
        rw [World.step_call hactivity]
        have hnext : Keeps (C r) (C r).Returns (records T g₀ w r) ((S.body proc).bind fun _ => next) :=
          keeps_bind'.mpr ((h.body r proc _ hkeeps.1).imp fun g' _ hpost => hkeeps.2 g' hpost)
        refine ⟨?_, hmeet.proceed r _ (by rw [List.append_nil]; exact (hmeet r).1) hnext⟩
        rw [records_proceed, Tracker.after_nil, Function.update_eq_self]
        exact hJ

/-- **The invariant rule**: the invariant and the contracts hold in every world of the runs. -/
theorem Upholds.invariant {P : σ → Prop} {J : σ → ((r : ρ) → γ r) → Prop} {w₀ w : World S} (h : Upholds C g₀ P J w₀)
    (hJ : J w₀.shared (records T g₀ w₀)) (hmeet : AllMeet C g₀ w₀) (hw : World.Reach P w₀ w) :
    J w.shared (records T g₀ w) ∧ AllMeet C g₀ w := by
  induction hw with
  | start => exact ⟨hJ, hmeet⟩
  | step move hw hP ih => exact h.step hw ih.1 ih.2 move hP

end Invariant

end Slotpilot.Lib
