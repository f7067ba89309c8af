import Slotpilot.Storage.ReceiveColumns

/-!
# The store of receive evidence

The tables of windows, diagnostics, decodes and events, and the operations on them. A statement is an update of the
tables; a transaction that fails leaves them as they were. The store is also a machine (`step`) whose inputs are the
calls of its mutating operations.

`Sqlite` is what the store takes from the database: `json_valid`, and the row that a query without an order returns
first.
-/

set_option autoImplicit false

namespace Slotpilot.Storage

open Lib Domain Audio Protocol

/-- Maximum records of one page. -/
def maxReceivePageSize : Nat := 100

/-- What the store takes from the database. -/
structure Sqlite where
  jsonValid : String → Bool
  firstRow : List WindowRow → Option WindowRow
  firstRow_mem : ∀ {rows row}, firstRow rows = some row → row ∈ rows
  firstRow_none : ∀ {rows}, firstRow rows = none → rows = []

/-- A database that returns rows in the order of their sequence. -/
def Sqlite.inOrder (jsonValid : String → Bool) : Sqlite where
  jsonValid
  firstRow := List.head?
  firstRow_mem := List.mem_of_head?
  firstRow_none := List.head?_eq_none_iff.mp

/-- The tables; `lastSequence` is the largest sequence of a window that was ever committed. -/
structure ReceiveStore where
  windows : List WindowRow
  lastSequence : Nat
  diagnostics : List DiagnosticsRow
  decodes : List DecodeRow
  events : EventTable

/-- Outcome of recording a window with its event. -/
structure ReceiveEventCommit where
  receive : ReceiveInsertOutcome
  eventSequence : Nat
  deriving DecidableEq

/-- Bounded page of the history. -/
structure ReceivePage where
  records : List SequencedReceiveRecord
  earliestSequence : Option Nat
  latestSequence : Option Nat
  hasMore : Bool
  deriving DecidableEq

/-- The sequence of a recorded window. -/
def ReceiveInsertOutcome.sequence : ReceiveInsertOutcome → Nat
  | .inserted sequence | .existing sequence => sequence

/-- An update of the tables. -/
abbrev Statement (α : Type) : Type := EStateM StorageError ReceiveStore α

/-- A transaction is rolled back when its body fails. -/
def transaction {α : Type} (body : Statement α) : Statement α := fun self =>
  match body self with
  | .ok value committed => .ok value committed
  | .error error _ => .error error self

namespace ReceiveStore

def empty : ReceiveStore := ⟨[], 0, [], [], .empty⟩

/-! ## Reading -/

/-- The decode rows of a window in the order of their index. -/
def decodesOf (self : ReceiveStore) (receiveWindowId : String) : List DecodeRow :=
  (self.decodes.filter (·.receiveWindowId = receiveWindowId)).mergeSort fun a b => a.decodeIndex ≤ b.decodeIndex

def readReceiveBySequence (self : ReceiveStore) (sequence : Nat) : Except StorageError (Option SequencedReceiveRecord) :=
  match self.windows.find? (·.sequence = sequence) with
  | none => .ok none
  | some window =>
    match self.diagnostics.find? (·.receiveWindowId = window.receiveWindowId) with
    | none => .ok none
    | some diagnostic => (reconstructReceive window diagnostic (self.decodesOf window.receiveWindowId)).map some

/-- The window with the identity or the whole context, if any. -/
def findExistingSequence (sqlite : Sqlite) (self : ReceiveStore) (context : ReceiveWindowContext) :
    Except StorageError (Option Nat) := do
  let columns ← contextColumns context
  let found := sqlite.firstRow (self.windows.filter fun row =>
    row.receiveWindowId = context.receiveWindowId.text ∨ row.context = columns)
  pure (found.map (·.sequence))

/-- Loads one exact identity. -/
def receiveRecord (self : ReceiveStore) (receiveWindowId : ReceiveWindowId) :
    Except StorageError (Option SequencedReceiveRecord) :=
  match self.windows.find? (·.receiveWindowId = receiveWindowId.text) with
  | none => .ok none
  | some window => do
    let record ← self.readReceiveBySequence window.sequence
    let record ← okOr (.invalidPersistedReceiveValue "receive diagnostics are missing") record
    pure (some record)

/-- Reads a bounded page in the order of insertion. -/
def receivePage (self : ReceiveStore) (afterSequence limit : Nat) : Except StorageError ReceivePage :=
  if ¬(1 ≤ limit ∧ limit ≤ maxReceivePageSize) then .error .invalidPageLimit
  else do
    let earliestSequence := (self.windows.map (·.sequence)).min?
    let latestSequence := (self.windows.map (·.sequence)).max?
    let afterSequence ← toSqlInteger afterSequence
    let fetchLimit ← toSqlInteger (limit + 1)
    let records ← (page WindowRow.sequence fetchLimit afterSequence self.windows).mapM fun window => do
      let record ← self.readReceiveBySequence window.sequence
      okOr (.invalidPersistedReceiveValue "receive sequence disappeared during query") record
    pure { records := records.take limit, earliestSequence, latestSequence, hasMore := records.length > limit }

/-! ## Recording -/

/-- Inserts a window and returns its sequence. -/
def insertWindow (record : ReceiveRecord) : Statement Nat := do
  let self ← get
  let row ← fromResult (windowRow (self.lastSequence + 1) record)
  if row.check = false ∨ (self.windows.any fun other =>
      other.receiveWindowId = row.receiveWindowId ∨ other.context = row.context) = true then
    throw .database
  else if self.lastSequence + 1 < 2 ^ 63 then do
    set { self with windows := self.windows ++ [row], lastSequence := self.lastSequence + 1 }
    pure (self.lastSequence + 1)
  else throw .database

def insertDiagnostics (record : ReceiveRecord) : Statement Unit := do
  let self ← get
  let row ← fromResult (diagnosticsRow record)
  if row.check = false ∨ (self.diagnostics.any (·.receiveWindowId = row.receiveWindowId)) = true ∨
      (self.windows.any (·.receiveWindowId = row.receiveWindowId)) = false then
    throw .database
  else set { self with diagnostics := self.diagnostics ++ [row] }

def insertDecode (receiveWindowId : ReceiveWindowId) (index : Nat) (decode : Ft8Decode) : Statement Unit := do
  let self ← get
  let row := decodeRow receiveWindowId index decode
  if row.check = false ∨
      (self.decodes.any fun other =>
        other.receiveWindowId = row.receiveWindowId ∧ other.decodeIndex = row.decodeIndex) = true ∨
      (self.windows.any (·.receiveWindowId = row.receiveWindowId)) = false then
    throw .database
  else set { self with decodes := self.decodes ++ [row] }

/-- Inserts a window with its diagnostics and its decodes. -/
def insertReceive (record : ReceiveRecord) : Statement ReceiveInsertOutcome := do
  let sequence ← insertWindow record
  insertDiagnostics record
  record.decodes.zipIdx.forM fun entry => insertDecode record.context.receiveWindowId entry.2 entry.1
  pure (.inserted sequence)

/-- The window of a sequence, which must hold the record. -/
def existingReceive (record : ReceiveRecord) (sequence : Nat) : Statement ReceiveInsertOutcome := do
  let self ← get
  let existing ← fromResult (self.readReceiveBySequence sequence)
  let existing ← orThrow (.invalidPersistedReceiveValue "missing collided receive record") existing
  if existing.record ≠ record then throw .identityCollision else pure (.existing existing.sequence)

/-- The receive half of a transaction: inserts a record or finds the exact one there is. -/
def storeReceive (sqlite : Sqlite) (record : ReceiveRecord) : Statement ReceiveInsertOutcome := do
  let self ← get
  let found ← fromResult (self.findExistingSequence sqlite record.context)
  match found with
  | some sequence => existingReceive record sequence
  | none => insertReceive record

/-- The event half of a transaction: inserts an event or finds the exact one there is. -/
def storeEvent (sqlite : Sqlite) (eventId : EventId) (serviceInstanceId : ServiceInstanceId) (eventJson : String)
    (occurredUtcMillis : Int) : Statement Nat := do
  let self ← get
  match self.events.rows.find? (·.eventId = eventId.text) with
  | some event =>
    if event.serviceInstanceId ≠ serviceInstanceId.text ∨ event.eventJson ≠ eventJson ∨
        event.occurredUtcMillis ≠ occurredUtcMillis then
      throw .identityCollision
    else pure event.sequence
  | none => do
    let appended ← fromResult
      (self.events.appendEvent sqlite.jsonValid eventId serviceInstanceId eventJson occurredUtcMillis)
    set { self with events := appended.2 }
    pure appended.1

/-- Atomically inserts a record or returns the exact existing retry. -/
def recordReceive (sqlite : Sqlite) (record : ReceiveRecord) : Statement ReceiveInsertOutcome :=
  transaction (storeReceive sqlite record)

/-- Atomically records a window and the event that is built from its sequence. -/
def recordReceiveWithEventBuilder (sqlite : Sqlite) (record : ReceiveRecord) (eventId : EventId)
    (occurredUtcMillis : Int) (eventJson : Nat → Except StorageError String) : Statement ReceiveEventCommit :=
  transaction do
    let receive ← storeReceive sqlite record
    let eventJson ← fromResult (eventJson receive.sequence)
    let eventSequence ← storeEvent sqlite eventId record.context.serviceInstanceId eventJson occurredUtcMillis
    pure { receive, eventSequence }

def recordReceiveWithEvent (sqlite : Sqlite) (record : ReceiveRecord) (eventId : EventId) (eventJson : String)
    (occurredUtcMillis : Int) : Statement ReceiveEventCommit :=
  recordReceiveWithEventBuilder sqlite record eventId occurredUtcMillis fun _ => .ok eventJson

/-! ## Retention -/

/-- Deletes the windows older than a sequence, with their diagnostics and decodes, and returns their number. -/
def pruneReceiveBefore (firstRetainedSequence : Nat) : Statement Nat := do
  let self ← get
  let firstRetainedSequence ← fromResult (toSqlInteger firstRetainedSequence)
  let kept := retained WindowRow.sequence firstRetainedSequence self.windows
  let deleted := self.windows.filter (·.sequence < firstRetainedSequence)
  let orphaned (receiveWindowId : String) : Bool := deleted.any (·.receiveWindowId = receiveWindowId)
  set
    { self with
      windows := kept
      diagnostics := self.diagnostics.filter (!orphaned ·.receiveWindowId)
      decodes := self.decodes.filter (!orphaned ·.receiveWindowId) }
  pure deleted.length

def pruneEventsBefore (firstRetainedSequence : Nat) : Statement Nat := do
  let self ← get
  let pruned ← fromResult (self.events.pruneEventsBefore firstRetainedSequence)
  set { self with events := pruned.2 }
  pure pruned.1

/-! ## Calls -/

/-- A call of a mutating operation. -/
inductive Call
  | recordReceive (record : ReceiveRecord)
  | recordReceiveWithEventBuilder (record : ReceiveRecord) (eventId : EventId) (occurredUtcMillis : Int)
    (eventJson : Nat → Except StorageError String)
  | pruneReceiveBefore (firstRetainedSequence : Nat)
  | pruneEventsBefore (firstRetainedSequence : Nat)

/-- What a call returns. -/
inductive Answer
  | received (outcome : Except StorageError ReceiveInsertOutcome)
  | committed (outcome : Except StorageError ReceiveEventCommit)
  | pruned (count : Except StorageError Nat)

/-- A statement as a step. -/
def run {α β : Type} (answer : Except StorageError α → β) (statement : Statement α) (self : ReceiveStore) :
    β × ReceiveStore :=
  (answer (outcome (statement self)), finalState (statement self))

/-- The store as a machine. -/
def step (sqlite : Sqlite) (self : ReceiveStore) : Call → Answer × ReceiveStore
  | .recordReceive record => run .received (ReceiveStore.recordReceive sqlite record) self
  | .recordReceiveWithEventBuilder record eventId occurredUtcMillis eventJson =>
    run .committed (ReceiveStore.recordReceiveWithEventBuilder sqlite record eventId occurredUtcMillis eventJson) self
  | .pruneReceiveBefore firstRetainedSequence =>
    run .pruned (ReceiveStore.pruneReceiveBefore firstRetainedSequence) self
  | .pruneEventsBefore firstRetainedSequence =>
    run .pruned (ReceiveStore.pruneEventsBefore firstRetainedSequence) self

end ReceiveStore

end Slotpilot.Storage
