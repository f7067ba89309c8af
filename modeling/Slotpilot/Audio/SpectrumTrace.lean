import Slotpilot.Audio.SpectrumWork

/-!
# The record of a waterfall

`Observed` pairs a model with everything that happened to it, newest first. Its model is the one that the operations
leave (`final_model`), and a push that returns records its reset, its chunk and each row with its publication
(`step_push`, `rowsOf_push`).
-/

set_option autoImplicit false

namespace Slotpilot.Audio

open Lib

/-- What happens to a waterfall. -/
inductive SpectrumEvent
  | reset (reason : SpectrumDiscontinuity)
  | chunk (chunk : CanonicalSpectrumChunk)
  | row (row : SpectrumRow)
  | token (utcMicros : Int64)
  | taken
  deriving DecidableEq

/-- A publication is due at the time of a row. -/
def SpectrumModel.publicationDue (self : SpectrumModel) (rowUtcMicros : Int64) : Bool :=
  self.lastPublicationUtcMicros.all fun previous =>
    (saturateI64 (rowUtcMicros.toInt - previous.toInt)).toInt ≥ self.config.publicationMillis * 1000

theorem SpectrumModel.markPublication_eq (self : SpectrumModel) (rowUtcMicros : Int64) :
    self.markPublication rowUtcMicros =
      if self.publicationDue rowUtcMicros then
        { self with
          coalescedPublications :=
            if self.publicationPending then saturatingAdd self.coalescedPublications 1
            else self.coalescedPublications
          publicationPending := true
          lastPublicationUtcMicros := some rowUtcMicros }
      else self := rfl

/-- A model and what happened to it, newest first. -/
structure Observed where
  model : SpectrumModel
  events : List SpectrumEvent

namespace Observed

/-- The record of a reset by a chunk. -/
def breakEvents : ChunkEffect → List SpectrumEvent
  | .joins => []
  | .rolls => []
  | .breaks reason => [.reset reason]

/-- A chunk joins, behind the reset that it makes. -/
def join (self : Observed) (chunk : CanonicalSpectrumChunk) : Observed :=
  { model := self.model.joined chunk, events := .chunk chunk :: (breakEvents (self.model.effect chunk) ++ self.events) }

/-- The record of a row and of the publication that it makes due. -/
def rowEvents (model : SpectrumModel) (row : SpectrumRow) : List SpectrumEvent :=
  if model.publicationDue row.startUtcUnixMicros then [.token row.startUtcUnixMicros, .row row] else [.row row]

/-- One more row. -/
def advance (chunk : CanonicalSpectrumChunk) (self : Observed) : Observed :=
  { model := self.model.advance chunk, events := rowEvents self.model (self.model.nextRow chunk) ++ self.events }

/-- All rows that are due. -/
def drain (self : Observed) (chunk : CanonicalSpectrumChunk) : Observed :=
  (advance chunk)^[self.model.rowsDue] self

/-- A push that returns. -/
def push (self : Observed) (chunk : CanonicalSpectrumChunk) : Observed :=
  { model := self.model.pushed chunk, events := ((self.join chunk).drain chunk).events }

/-- One operation; of a push that fails nothing is recorded. -/
def step (self : Observed) : SpectrumOp → SpectrumAnswer × Observed
  | .push chunk =>
    match SpectrumModel.push chunk self.model with
    | .ok result next => (.pushed (.ok result), { model := next, events := (self.push chunk).events })
    | .error error next => (.pushed (.error error), { model := next, events := self.events })
  | .reset reason => (.reset, { model := self.model.reset reason, events := .reset reason :: self.events })
  | .takeSnapshot =>
    (.snapshot self.model.takeSnapshot.1,
      { model := self.model.takeSnapshot.2,
        events := if self.model.publicationPending then .taken :: self.events else self.events })

variable {self : Observed} {chunk : CanonicalSpectrumChunk} {op : SpectrumOp} {ops : List SpectrumOp}

/-! ## The record is of the model -/

/-- An operation does to the observed model what it does to the model. -/
theorem step_model (self : Observed) (op : SpectrumOp) :
    (self.step op).1 = (self.model.step op).1 ∧ (self.step op).2.model = (self.model.step op).2 := by
  cases op with
  | push chunk =>
    cases hpush : SpectrumModel.push chunk self.model with
    | ok result next => simp [step, SpectrumModel.step, hpush]
    | error error next => simp [step, SpectrumModel.step, hpush]
  | reset reason => exact ⟨rfl, rfl⟩
  | takeSnapshot => exact ⟨rfl, rfl⟩

/-- A run does to the observed model what it does to the model. -/
theorem final_model (self : Observed) (ops : List SpectrumOp) :
    (final step self ops).model = final SpectrumModel.step self.model ops := by
  induction ops generalizing self with
  | nil => rfl
  | cons op ops ih => rw [final_cons, final_cons, ih, (step_model self op).2]

/-- A condition on the models of a run. -/
theorem everyStep_model (C : SpectrumModel → SpectrumOp → Prop) (self : Observed) (ops : List SpectrumOp) :
    EveryStep step (fun self op => C self.model op) self ops ↔ EveryStep SpectrumModel.step C self.model ops := by
  induction ops generalizing self with
  | nil => exact Iff.rfl
  | cons op ops ih => rw [everyStep_cons, everyStep_cons, ih, (step_model self op).2]

/-- The model after the rows is the one after the recorded rows. -/
theorem iterate_model (self : Observed) (n : Nat) :
    ((advance chunk)^[n] self).model = (fun model => model.advance chunk)^[n] self.model := by
  induction n generalizing self with
  | zero => rfl
  | succ n ih => rw [Function.iterate_succ_apply, Function.iterate_succ_apply, ih, advance]

/-- An operation whose push returns records its steps. -/
theorem step_push {result : SpectrumPushResult}
    (h : SpectrumModel.push chunk self.model = .ok result (self.model.pushed chunk)) :
    self.step (.push chunk) = (.pushed (.ok result), self.push chunk) := by
  simp only [step, h]
  rfl

end Observed

/-! ## Rows of a record -/

/-- The rows of a record, oldest first. -/
def rowsOf : List SpectrumEvent → List SpectrumRow
  | [] => []
  | .row row :: earlier => rowsOf earlier ++ [row]
  | _ :: earlier => rowsOf earlier

@[simp] theorem rowsOf_rowEvents (model : SpectrumModel) (row : SpectrumRow) (events : List SpectrumEvent) :
    rowsOf (Observed.rowEvents model row ++ events) = rowsOf events ++ [row] := by
  unfold Observed.rowEvents
  split <;> rfl

theorem rowsOf_iterate (self : Observed) (chunk : CanonicalSpectrumChunk) (n : Nat) :
    rowsOf ((Observed.advance chunk)^[n] self).events =
      rowsOf self.events ++
        (List.range n).map fun i => ((fun model => model.advance chunk)^[i] self.model).nextRow chunk := by
  induction n with
  | zero => simp
  | succ n ih =>
    rw [Function.iterate_succ_apply', Observed.advance, rowsOf_rowEvents, ih, Observed.iterate_model, List.range_succ,
      List.map_append, List.append_assoc, List.map_singleton]

theorem rowsOf_join (self : Observed) (chunk : CanonicalSpectrumChunk) :
    rowsOf (self.join chunk).events = rowsOf self.events := by
  show rowsOf (Observed.breakEvents (self.model.effect chunk) ++ self.events) = _
  cases self.model.effect chunk <;> rfl

/-- A push records the rows that are due after its chunk has joined. -/
theorem rowsOf_push (self : Observed) (chunk : CanonicalSpectrumChunk) :
    rowsOf (self.push chunk).events =
      rowsOf self.events ++ (List.range (self.model.joined chunk).rowsDue).map fun i =>
        ((fun model => model.advance chunk)^[i] (self.model.joined chunk)).nextRow chunk := by
  show rowsOf ((Observed.advance chunk)^[(self.model.joined chunk).rowsDue] (self.join chunk)).events = _
  rw [rowsOf_iterate, rowsOf_join]
  rfl

end Slotpilot.Audio
