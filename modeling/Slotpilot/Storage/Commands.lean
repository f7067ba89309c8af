import Slotpilot.Storage.Events

/-!
# The accepted command table

The table `accepted_commands` of the store: one row for each request identity, with the canonical command and the original
result. `acceptOrExisting` is one transaction.
-/

set_option autoImplicit false

namespace Slotpilot.Storage

open Lib Domain

/-- Accepted command identity and original result. -/
structure AcceptedCommand where
  requestId : RequestId
  commandId : CommandId
  canonicalCommand : List UInt8
  originalResult : List UInt8
  acceptedUtcMillis : Int
  deriving DecidableEq

/-- Outcome of attempting to accept a request identity. -/
inductive AcceptOutcome
  | inserted (command : AcceptedCommand)
  | existing (command : AcceptedCommand)
  deriving DecidableEq

/-- Row of `accepted_commands`. -/
structure CommandRow where
  requestId : String
  commandId : String
  canonicalCommand : List UInt8
  originalResult : List UInt8
  acceptedUtcMillis : Int
  deriving DecidableEq

/-- The columns of a command. -/
def AcceptedCommand.toRow (self : AcceptedCommand) : CommandRow :=
  { requestId := self.requestId.text, commandId := self.commandId.text, canonicalCommand := self.canonicalCommand,
    originalResult := self.originalResult, acceptedUtcMillis := self.acceptedUtcMillis }

/-- A row as an owned command; its identities must parse. -/
def CommandRow.toAccepted (self : CommandRow) : Except StorageError AcceptedCommand := do
  let requestId ← (TypedId.fromStr "req_" self.requestId).mapError .invalidIdentity
  let commandId ← (TypedId.fromStr "cmd_" self.commandId).mapError .invalidIdentity
  pure { requestId, commandId, canonicalCommand := self.canonicalCommand, originalResult := self.originalResult,
         acceptedUtcMillis := self.acceptedUtcMillis }

@[simp] theorem AcceptedCommand.toAccepted_toRow (command : AcceptedCommand) :
    command.toRow.toAccepted = .ok command := by
  have hrequest : TypedId.fromStr "req_" command.toRow.requestId = .ok command.requestId := TypedId.fromStr_ok.mpr rfl
  have hcommand : TypedId.fromStr "cmd_" command.toRow.commandId = .ok command.commandId := TypedId.fromStr_ok.mpr rfl
  rw [CommandRow.toAccepted, hrequest, hcommand]
  rfl

/-- Two rows may stand together: the request and the command identities are unique. -/
def CommandRow.Distinct (a b : CommandRow) : Prop := a.requestId ≠ b.requestId ∧ a.commandId ≠ b.commandId

instance (a b : CommandRow) : Decidable (a.Distinct b) :=
  inferInstanceAs (Decidable (a.requestId ≠ b.requestId ∧ a.commandId ≠ b.commandId))

/-- The table with its constraints. -/
structure CommandTable where
  rows : List CommandRow
  unique : rows.Pairwise CommandRow.Distinct
  checked : ∀ row ∈ rows, 0 ≤ row.acceptedUtcMillis

namespace CommandTable

def empty : CommandTable where
  rows := []
  unique := .nil
  checked := by simp

/-- Recovers an accepted command by its request identity. -/
def acceptedCommand (self : CommandTable) (requestId : RequestId) : Except StorageError (Option AcceptedCommand) :=
  match self.rows.find? (·.requestId = requestId.text) with
  | none => .ok none
  | some row => row.toAccepted.map some

/-- A row that the constraints allow. -/
def Admits (self : CommandTable) (row : CommandRow) : Prop :=
  (∀ other ∈ self.rows, other.Distinct row) ∧ 0 ≤ row.acceptedUtcMillis

instance (self : CommandTable) (row : CommandRow) : Decidable (self.Admits row) :=
  inferInstanceAs (Decidable (_ ∧ _))

/-- The table with one more row. -/
def push (self : CommandTable) (row : CommandRow) (h : self.Admits row) : CommandTable where
  rows := self.rows ++ [row]
  unique := List.pairwise_append.mpr ⟨self.unique, List.pairwise_singleton _ _, fun a ha b hb => by
    rw [List.mem_singleton.mp hb]
    exact h.1 a ha⟩
  checked := fun other hother => (List.mem_append.mp hother).elim (self.checked other) fun hrow => by
    rw [List.mem_singleton.mp hrow]
    exact h.2

/-- Inserts a command, or returns the one that has its request identity. The insert is ignored on any violated constraint;
then a row of the identity must exist. -/
def acceptOrExisting (self : CommandTable) (command : AcceptedCommand) :
    Except StorageError (AcceptOutcome × CommandTable) :=
  if h : self.Admits command.toRow then .ok (.inserted command, self.push command.toRow h)
  else do
    match ← self.acceptedCommand command.requestId with
    | some existing => pure (.existing existing, self)
    | none => throw .identityCollision

/-! ## The row of a request -/

variable {table : CommandTable} {requestId : RequestId} {command entry : AcceptedCommand}

theorem acceptedCommand_push (h : table.Admits command.toRow) :
    (table.push command.toRow h).acceptedCommand command.requestId = .ok (some command) := by
  have hnone : table.rows.find? (·.requestId = command.requestId.text) = none := by
    refine List.find?_eq_none.mpr fun row hrow => ?_
    have hne : row.requestId ≠ command.requestId.text := (h.1 row hrow).1
    simpa using hne
  have hfind : (table.push command.toRow h).rows.find? (·.requestId = command.requestId.text) = some command.toRow := by
    show (table.rows ++ [command.toRow]).find? _ = _
    rw [List.find?_append, hnone, Option.none_or, List.find?_cons_of_pos]
    exact decide_eq_true rfl
  rw [acceptedCommand, hfind]
  show command.toRow.toAccepted.map some = _
  rw [AcceptedCommand.toAccepted_toRow]
  rfl

/-- Without a row of the request, the constraints on a command are its time and its own identity. -/
theorem admits_iff (hnone : table.acceptedCommand command.requestId = .ok none) :
    table.Admits command.toRow ↔
      0 ≤ command.acceptedUtcMillis ∧ ∀ row ∈ table.rows, row.commandId ≠ command.commandId.text := by
  have hfree : ∀ row ∈ table.rows, row.requestId ≠ command.requestId.text := by
    intro row hrow hsame
    unfold acceptedCommand at hnone
    split at hnone
    · rename_i hfind
      exact absurd hsame (by simpa using List.find?_eq_none.mp hfind row hrow)
    · obtain ⟨_, -, h⟩ := exceptMap_ok.mp hnone
      cases h
  constructor
  · intro h
    exact ⟨h.2, fun row hrow => (h.1 row hrow).2⟩
  · rintro ⟨htime, hcommand⟩
    exact ⟨fun row hrow => ⟨hfree row hrow, hcommand row hrow⟩, htime⟩

/-- A row, once it is in the table, is the one that is found. -/
theorem acceptedCommand_push_of_some {row : CommandRow} {h : table.Admits row}
    (hentry : table.acceptedCommand requestId = .ok (some entry)) :
    (table.push row h).acceptedCommand requestId = .ok (some entry) := by
  unfold acceptedCommand at hentry ⊢
  show (match (table.rows ++ [row]).find? _ with | none => _ | some row => _) = _
  rw [List.find?_append]
  cases hfind : table.rows.find? (·.requestId = requestId.text) with
  | none =>
    rw [hfind] at hentry
    cases hentry
  | some found =>
    rw [hfind] at hentry
    exact hentry

/-- **One winner**: after an accept the table holds a row for the request, and it is the one returned. -/
theorem acceptOrExisting_ok {outcome : AcceptOutcome} {after : CommandTable}
    (h : table.acceptOrExisting command = .ok (outcome, after)) :
    (outcome = .inserted command ∧ table.Admits command.toRow ∧
        after.acceptedCommand command.requestId = .ok (some command)) ∨
      ∃ existing, outcome = .existing existing ∧ after = table ∧
        table.acceptedCommand command.requestId = .ok (some existing) := by
  unfold acceptOrExisting at h
  split at h
  · rename_i hadmits
    cases h
    exact .inl ⟨rfl, hadmits, acceptedCommand_push hadmits⟩
  · obtain ⟨found, hfound, hrest⟩ := exceptBind_ok.mp h
    cases found with
    | none => cases hrest
    | some existing =>
      cases hrest
      exact .inr ⟨existing, rfl, rfl, hfound⟩

/-- An accept keeps the row of every request. -/
theorem acceptOrExisting_keeps {outcome : AcceptOutcome} {after : CommandTable}
    (h : table.acceptOrExisting command = .ok (outcome, after))
    (hentry : table.acceptedCommand requestId = .ok (some entry)) :
    after.acceptedCommand requestId = .ok (some entry) := by
  unfold acceptOrExisting at h
  split at h
  · cases h
    exact acceptedCommand_push_of_some hentry
  · obtain ⟨found, -, hrest⟩ := exceptBind_ok.mp h
    cases found with
    | none => cases hrest
    | some existing =>
      cases hrest
      exact hentry

end CommandTable

end Slotpilot.Storage
