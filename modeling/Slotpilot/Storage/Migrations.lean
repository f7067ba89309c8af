import Slotpilot.Lib.Machine
import Slotpilot.Lib.StateResult

/-!
# Schema migrations

A store is opened over a database file of any earlier state. Its migrations run in one transaction, which SQLite or the
end of the process may cut off before any statement; what is not committed is rolled back.

* `migrate_ends`: a migration of a file of this program commits the current schema with every row kept, and nothing but a
  fault stops it;
* `opens_safe`: over any order of openings, faults, writes and upgrades by later programs, the file has a schema of its
  version, an opening commits everything or nothing, and a file of a later version is never touched.
-/

set_option autoImplicit false

namespace Slotpilot.Storage

open Lib

/-! ## Schemas -/

/-- The tables of a database, and its indexes and triggers with the tables that they are on. -/
structure Schema where
  tables : List String
  indexes : List (String × String)
  triggers : List (String × String)
  deriving DecidableEq

def Schema.empty : Schema := ⟨[], [], []⟩

/-- A statement of a migration. -/
inductive SchemaStatement
  | createTable (name : String)
  | createIndex (name table : String)
  | createTrigger (name table : String)

/-- The schema after a statement, which fails on a name in use and on a missing table. -/
def SchemaStatement.define (schema : Schema) : SchemaStatement → Option Schema
  | .createTable name =>
    if name ∈ schema.tables ∨ name ∈ schema.indexes.map Prod.fst then none
    else some { schema with tables := schema.tables ++ [name] }
  | .createIndex name table =>
    if name ∈ schema.tables ∨ name ∈ schema.indexes.map Prod.fst ∨ table ∉ schema.tables then none
    else some { schema with indexes := schema.indexes ++ [(name, table)] }
  | .createTrigger name table =>
    if name ∈ schema.triggers.map Prod.fst ∨ table ∉ schema.tables then none
    else some { schema with triggers := schema.triggers ++ [(name, table)] }

/-- The schema after the statements of a migration. -/
def define (schema : Schema) (statements : List SchemaStatement) : Option Schema :=
  statements.foldlM SchemaStatement.define schema

def schemaVersion : Nat := 2

def migration1 : List SchemaStatement :=
  [.createTable "accepted_commands", .createTable "profile_revisions", .createTable "session_context_snapshots",
    .createTrigger "session_context_snapshots_no_update" "session_context_snapshots",
    .createTrigger "session_context_snapshots_no_delete" "session_context_snapshots",
    .createTable "operational_events", .createTable "outbox_work", .createTable "external_receipts"]

def migration2 : List SchemaStatement :=
  [.createTable "receive_windows", .createIndex "receive_windows_slot_order" "receive_windows",
    .createIndex "receive_windows_service_order" "receive_windows", .createTable "receive_diagnostics",
    .createTable "receive_decodes", .createIndex "receive_decodes_deterministic_order" "receive_decodes"]

/-! ## Databases -/

/-- A database file: SQLite's signed version number, the schema and the rows of each table. -/
structure Database (ρ : Type) where
  userVersion : Int
  schema : Schema
  rows : String → List ρ

/-- The file before its first opening. -/
def Database.empty (ρ : Type) : Database ρ := ⟨0, .empty, fun _ => []⟩

/-- Failure to open a store. -/
inductive OpenError
  | database
  | schemaTooNew (found supported : Nat)
  deriving DecidableEq

/-- An open transaction, with the faults at its next statements. -/
structure Transaction (ρ : Type) where
  database : Database ρ
  faults : List Bool

section Opening

variable {ρ : Type}

/-- A new table has no rows. -/
def Database.execute (self : Database ρ) (statement : SchemaStatement) : Option (Database ρ) :=
  (statement.define self.schema).map fun schema =>
    match statement with
    | .createTable name => { self with schema, rows := Function.update self.rows name [] }
    | _ => { self with schema }

/-- The next statement is reached, or the connection fails or the process ends before it. -/
def proceed : EStateM OpenError (Transaction ρ) Unit := do
  let transaction ← get
  set { transaction with faults := transaction.faults.tail }
  if transaction.faults.head? = some true then throw .database else pure ()

def executeBatch : List SchemaStatement → EStateM OpenError (Transaction ρ) Unit
  | [] => pure ()
  | statement :: statements => do
    proceed
    let transaction ← get
    let database ← orThrow .database (transaction.database.execute statement)
    set { transaction with database }
    executeBatch statements

/-- The version as an unsigned number. -/
def pragmaQueryUserVersion : EStateM OpenError (Transaction ρ) Nat := do
  proceed
  let transaction ← get
  if transaction.database.userVersion < 0 then throw .database else pure transaction.database.userVersion.toNat

def pragmaUpdateUserVersion (version : Nat) : EStateM OpenError (Transaction ρ) Unit := do
  proceed
  modify fun transaction => { transaction with database.userVersion := version }

/-- The statements of a migration that the file has not seen. -/
def applyFrom (found version : Nat) (statements : List SchemaStatement) : EStateM OpenError (Transaction ρ) Unit :=
  if found < version then do
    executeBatch statements
    pragmaUpdateUserVersion version
  else pure ()

/-- The transaction of a migration, from its first statement to its commit. -/
def migrate : EStateM OpenError (Transaction ρ) Unit := do
  proceed
  let found ← pragmaQueryUserVersion
  if found > schemaVersion then throw (.schemaTooNew found schemaVersion)
  else do
    applyFrom found 1 migration1
    applyFrom found 2 migration2
    proceed

/-- The connection is set up, and the file is migrated. -/
def fromConnection : EStateM OpenError (Transaction ρ) Unit := do
  -- the busy timeout and the foreign keys are settings of the connection
  proceed
  proceed
  migrate

/-- Opens a store over a file; a transaction that does not commit is rolled back. -/
def openStore (faults : List Bool) (database : Database ρ) : Except OpenError Unit × Database ρ :=
  match fromConnection ⟨database, faults⟩ with
  | .ok () transaction => (.ok (), transaction.database)
  | .error error _ => (.error error, database)

/-! ## Files of this program -/

def migrations : List (List SchemaStatement) := [migration1, migration2]

/-- The file is at a version of this program and has what the migrations up to it define. -/
structure Made (version : Nat) (file : Database ρ) : Prop where
  supported : version ≤ schemaVersion
  userVersion : file.userVersion = version
  schema : define .empty (migrations.take version).flatten = some file.schema

/-- No table and no row of the first database is lost, and the tables that the second has besides are empty. -/
structure Kept (before after : Database ρ) : Prop where
  tables : before.schema.tables ⊆ after.schema.tables
  rows : ∀ table ∈ before.schema.tables, after.rows table = before.rows table
  fresh : ∀ table ∈ after.schema.tables, table ∉ before.schema.tables → after.rows table = []

theorem Kept.refl (file : Database ρ) : Kept file file :=
  ⟨fun _ h => h, fun _ _ => rfl, fun _ h h' => absurd h h'⟩

theorem Kept.trans {first second third : Database ρ} (h : Kept first second) (h' : Kept second third) :
    Kept first third := by
  refine ⟨fun _ ht => h'.tables (h.tables ht), fun table ht => ?_, fun table ht hn => ?_⟩
  · rw [h'.rows table (h.tables ht), h.rows table ht]
  · by_cases hs : table ∈ second.schema.tables
    · rw [h'.rows table hs, h.fresh table hs hn]
    · exact h'.fresh table ht hs

theorem made_empty : Made 0 (Database.empty ρ) := ⟨Nat.zero_le _, rfl, rfl⟩

@[simp] theorem define_nil (schema : Schema) : define schema [] = some schema := rfl

theorem define_cons (schema : Schema) (statement : SchemaStatement) (statements : List SchemaStatement) :
    define schema (statement :: statements) = (statement.define schema).bind fun next => define next statements := rfl

theorem define_append (schema : Schema) (first second : List SchemaStatement) :
    define schema (first ++ second) = (define schema first).bind fun next => define next second :=
  List.foldlM_append

/-- The migrations apply one after the other from a new file. -/
theorem migrations_define : (define .empty migrations.flatten).isSome := by decide

/-- The next migration applies to a file, and leads to the schema of the next version. -/
theorem Made.next {version : Nat} {file : Database ρ} (h : Made version file) {statements : List SchemaStatement}
    (hs : migrations[version]? = some statements) :
    ∃ schema, define file.schema statements = some schema ∧
      define .empty (migrations.take (version + 1)).flatten = some schema := by
  have htake : (migrations.take (version + 1)).flatten = (migrations.take version).flatten ++ statements := by
    rw [List.take_add_one, hs]
    simp
  have hstep : define .empty (migrations.take (version + 1)).flatten = define file.schema statements := by
    rw [htake, define_append, h.schema]
    rfl
  -- all migrations apply, and so does each initial part of them
  have hall := migrations_define
  rw [← List.take_append_drop (version + 1) migrations, List.flatten_append, define_append] at hall
  obtain ⟨schema, hschema⟩ := Option.isSome_iff_exists.mp (Option.isSome_of_isSome_bind hall)
  exact ⟨schema, hstep ▸ hschema, hschema⟩

/-! ## What each part of an opening does -/

/-- The connection failed or the process ended at a statement of the transaction. -/
def Cut (t : Transaction ρ) (error : OpenError) : Prop := error = .database ∧ true ∈ t.faults

theorem Cut.of_suffix {t u : Transaction ρ} (h : u.faults <:+ t.faults) {error : OpenError} (hc : Cut u error) :
    Cut t error := ⟨hc.1, h.subset hc.2⟩

theorem proceed_ends (t : Transaction ρ) :
    Ends proceed t (fun _ u => u.database = t.database ∧ u.faults <:+ t.faults) (fun error _ => Cut t error) := by
  unfold proceed
  simp only [ends_bind, ends_get, ends_set, ends_ite, ends_throw, ends_pure]
  exact ⟨fun h => ⟨rfl, List.mem_of_mem_head? h⟩, fun _ => ⟨trivial, List.tail_suffix _⟩⟩

theorem execute_spec {file : Database ρ} {statement : SchemaStatement} {schema : Schema}
    (h : statement.define file.schema = some schema) :
    ∃ next, file.execute statement = some next ∧ next.schema = schema ∧ next.userVersion = file.userVersion ∧
      Kept file next := by
  cases statement with
  | createTable name =>
    refine ⟨{ file with schema, rows := Function.update file.rows name [] }, ?_, rfl, rfl, ?_⟩
    · simp [Database.execute, h]
    · simp only [SchemaStatement.define] at h
      split_ifs at h with hused
      cases h
      push Not at hused
      refine ⟨by simp, fun table ht => ?_, fun table ht hn => ?_⟩
      · apply Function.update_of_ne
        rintro rfl
        exact hused.1 ht
      · rcases List.mem_append.mp ht with ht | ht
        · exact absurd ht hn
        · rw [List.mem_singleton.mp ht]
          exact Function.update_self name [] file.rows
  | createIndex name table =>
    refine ⟨{ file with schema }, by simp [Database.execute, h], rfl, rfl, ?_⟩
    simp only [SchemaStatement.define] at h
    split_ifs at h
    cases h
    exact ⟨fun _ ht => ht, fun _ _ => rfl, fun _ ht hn => absurd ht hn⟩
  | createTrigger name table =>
    refine ⟨{ file with schema }, by simp [Database.execute, h], rfl, rfl, ?_⟩
    simp only [SchemaStatement.define] at h
    split_ifs at h
    cases h
    exact ⟨fun _ ht => ht, fun _ _ => rfl, fun _ ht hn => absurd ht hn⟩

/-- Statements that apply are executed, unless they are cut off. -/
theorem executeBatch_ends (statements : List SchemaStatement) (t : Transaction ρ) {schema : Schema}
    (h : define t.database.schema statements = some schema) :
    Ends (executeBatch statements) t
      (fun _ u => u.database.schema = schema ∧ u.database.userVersion = t.database.userVersion ∧
        Kept t.database u.database ∧ u.faults <:+ t.faults)
      (fun error _ => Cut t error) := by
  induction statements generalizing t with
  | nil =>
    rw [define_nil, Option.some_inj] at h
    exact ⟨h, rfl, .refl _, List.suffix_refl _⟩
  | cons statement statements ih =>
    rw [define_cons] at h
    obtain ⟨middle, hmiddle, hrest⟩ := Option.bind_eq_some_iff.mp h
    unfold executeBatch
    rw [ends_bind]
    refine (proceed_ends t).imp (fun _ u hu => ?_) (fun _ _ hc => hc)
    obtain ⟨next, hnext, hschema, hversion, hkept⟩ := execute_spec hmiddle
    rw [← hu.1] at hnext hkept hversion
    simp only [ends_bind, ends_get, ends_orThrow, ends_set, hnext]
    refine ⟨?_, fun h => absurd h (Option.some_ne_none next)⟩
    rintro _ ⟨⟩
    have htail := ih { u with database := next } (by rw [hschema]; exact hrest)
    refine htail.imp (fun _ w hw => ?_) (fun _ _ hc => Cut.of_suffix hu.2 ⟨hc.1, hc.2⟩)
    obtain ⟨hs, hv, hk, hf⟩ := hw
    rw [← hu.1]
    exact ⟨hs, hv.trans hversion, hkept.trans hk, hf.trans hu.2⟩

theorem pragmaQueryUserVersion_ends (t : Transaction ρ) :
    Ends pragmaQueryUserVersion t
      (fun found u => t.database.userVersion = found ∧ u.database = t.database ∧ u.faults <:+ t.faults)
      (fun error _ => Cut t error ∨ error = .database ∧ t.database.userVersion < 0) := by
  unfold pragmaQueryUserVersion
  rw [ends_bind]
  refine (proceed_ends t).imp (fun _ u hu => ?_) (fun _ _ hc => .inl hc)
  simp only [ends_bind, ends_get, ends_ite, ends_throw, ends_pure, hu.1]
  refine ⟨fun h => .inr ⟨trivial, h⟩, fun h => ⟨?_, trivial, hu.2⟩⟩
  exact (Int.toNat_of_nonneg (not_lt.mp h)).symm

/-- A migration that the file has not seen brings it to the next version. -/
theorem applyFrom_ends {found version current : Nat} {statements : List SchemaStatement} (t : Transaction ρ)
    (hm : Made current t.database) (hv : found < version → version = current + 1 ∧ version ≤ schemaVersion)
    (hs : found < version → migrations[current]? = some statements) :
    Ends (applyFrom found version statements) t
      (fun _ u => Made (if found < version then version else current) u.database ∧ Kept t.database u.database ∧
        u.faults <:+ t.faults ∧ (version ≤ found → u.database = t.database))
      (fun error _ => Cut t error) := by
  unfold applyFrom
  by_cases hlt : found < version
  · obtain ⟨rfl, hle⟩ := hv hlt
    obtain ⟨schema, hdefine, hschema⟩ := hm.next (hs hlt)
    rw [if_pos hlt, if_pos hlt, ends_bind]
    refine (executeBatch_ends statements t hdefine).imp (fun _ u hu => ?_) (fun _ _ hc => hc)
    obtain ⟨hus, -, huk, huf⟩ := hu
    unfold pragmaUpdateUserVersion
    rw [ends_bind]
    refine (proceed_ends u).imp (fun _ w hw => ?_) (fun _ _ hc => hc.of_suffix huf)
    rw [ends_modify, hw.1]
    refine ⟨⟨hle, rfl, hus ▸ hschema⟩, ⟨huk.tables, huk.rows, huk.fresh⟩, hw.2.trans huf, fun h => ?_⟩
    omega
  · rw [if_neg hlt, if_neg hlt]
    exact ⟨hm, .refl _, List.suffix_refl _, fun _ => rfl⟩

/-- A file of this program is brought to the current version with every row kept, unless the migration is cut off. -/
theorem migrate_ends {version : Nat} (t : Transaction ρ) (hm : Made version t.database) :
    Ends migrate t
      (fun _ u => Made schemaVersion u.database ∧ Kept t.database u.database ∧
        (version = schemaVersion → u.database = t.database))
      (fun error _ => Cut t error) := by
  have hle : version ≤ 2 := hm.supported
  unfold migrate
  rw [ends_bind]
  refine (proceed_ends t).imp (fun _ u hu => ?_) (fun _ _ hc => hc)
  rw [ends_bind]
  refine (pragmaQueryUserVersion_ends u).imp (fun found w hw => ?_) (fun _ _ hc => ?_)
  · obtain ⟨hfound, hw, hwf⟩ := hw
    rw [hu.1, hm.userVersion, Nat.cast_inj] at hfound
    subst hfound
    have hwt : w.database = t.database := hw.trans hu.1
    have hwft : w.faults <:+ t.faults := hwf.trans hu.2
    rw [if_neg (not_lt.mpr hm.supported), ends_bind]
    have hfirst : Ends (applyFrom version 1 migration1) w _ _ := applyFrom_ends w (hwt ▸ hm)
      (fun h => ⟨by omega, by decide⟩) (fun h => by rw [Nat.lt_one_iff.mp h]; rfl)
    refine hfirst.imp (fun _ x hx => ?_) (fun _ _ hc => hc.of_suffix hwft)
    obtain ⟨hxm, hxk, hxf, hxu⟩ := hx
    have hcurrent (h : version < 2) : (if version < 1 then 1 else version) = 1 := by split <;> omega
    rw [ends_bind]
    have hsecond : Ends (applyFrom version 2 migration2) x _ _ := applyFrom_ends x hxm
      (fun h => ⟨by rw [hcurrent h], by decide⟩) (fun h => by rw [hcurrent h]; rfl)
    refine hsecond.imp (fun _ y hy => ?_) (fun _ _ hc => hc.of_suffix (hxf.trans hwft))
    obtain ⟨hym, hyk, hyf, hyu⟩ := hy
    refine (proceed_ends y).imp (fun _ z hz => ?_) (fun _ _ hc => hc.of_suffix (hyf.trans (hxf.trans hwft)))
    rw [hz.1]
    refine ⟨?_, hwt ▸ hxk.trans hyk, fun h => ?_⟩
    · have hlast : (if version < 2 then 2 else if version < 1 then 1 else version) = schemaVersion := by
        show _ = 2
        split
        · rfl
        · split <;> omega
      exact hlast ▸ hym
    · have h2 : version = 2 := h
      rw [hyu (by omega), hxu (by omega), hwt]
  · rcases hc with hc | hc
    · exact hc.of_suffix hu.2
    · rw [hu.1, hm.userVersion] at hc
      omega

/-- A file of a later program is refused. -/
theorem migrate_later {found : Nat} (t : Transaction ρ) (hversion : t.database.userVersion = found)
    (hlater : schemaVersion < found) :
    Ends migrate t (fun _ _ => False) (fun error _ => Cut t error ∨ error = .schemaTooNew found schemaVersion) := by
  unfold migrate
  rw [ends_bind]
  refine (proceed_ends t).imp (fun _ u hu => ?_) (fun _ _ hc => .inl hc)
  rw [ends_bind]
  refine (pragmaQueryUserVersion_ends u).imp (fun read w hw => ?_) (fun _ _ hc => ?_)
  · have hread : found = read := by
      have hcast := hw.1
      rwa [hu.1, hversion, Nat.cast_inj] at hcast
    rw [← hread, if_pos hlater]
    exact .inr rfl
  · rcases hc with hc | hc
    · exact .inl (hc.of_suffix hu.2)
    · rw [hu.1, hversion] at hc
      omega

/-- The settings of the connection leave the transaction to the migrations. -/
theorem fromConnection_ends {Q : Transaction ρ → Prop} {E : OpenError → Prop} (t : Transaction ρ)
    (h : ∀ u, u.database = t.database → u.faults <:+ t.faults → Ends migrate u (fun _ w => Q w) (fun e _ => E e))
    (hc : ∀ e, Cut t e → E e) : Ends fromConnection t (fun _ w => Q w) (fun e _ => E e) := by
  unfold fromConnection
  rw [ends_bind]
  refine (proceed_ends t).imp (fun _ u hu => ?_) (fun e _ he => hc e he)
  rw [ends_bind]
  refine (proceed_ends u).imp (fun _ w hw => ?_) (fun e _ he => hc e (he.of_suffix hu.2))
  exact h w (hw.1.trans hu.1) (hw.2.trans hu.2)

/-! ## Openings of a file -/

/-- What an opening of a file does: it commits the whole of the current schema, or nothing. -/
structure Opened (faults : List Bool) (before : Database ρ) (result : Except OpenError Unit) (after : Database ρ) :
    Prop where
  commits : result = .ok () → before.userVersion ≤ schemaVersion ∧ Made schemaVersion after ∧ Kept before after ∧
    (Made schemaVersion before → after = before)
  rollsBack : ∀ error, result = .error error → after = before ∧
    (error = .database ∧ true ∈ faults ∨
      ∃ found, schemaVersion < found ∧ before.userVersion = found ∧ error = .schemaTooNew found schemaVersion)

/-- The file is of this program or of a later one. -/
def OfProgram (file : Database ρ) : Prop :=
  (∃ version, Made version file) ∨ (schemaVersion : Int) < file.userVersion

theorem openStore_opened (faults : List Bool) {file : Database ρ} (h : OfProgram file) :
    Opened faults file (openStore faults file).1 (openStore faults file).2 := by
  have hends : Ends fromConnection ⟨file, faults⟩
      (fun _ u => file.userVersion ≤ schemaVersion ∧ Made schemaVersion u.database ∧ Kept file u.database ∧
        (Made schemaVersion file → u.database = file))
      (fun error _ => error = .database ∧ true ∈ faults ∨
        ∃ found, schemaVersion < found ∧ file.userVersion = found ∧ error = .schemaTooNew found schemaVersion) := by
    apply fromConnection_ends
    · rintro u rfl hf
      rcases h with ⟨version, hm⟩ | hlater
      · refine (migrate_ends u hm).imp (fun _ w hw => ?_) (fun _ _ hc => .inl ⟨hc.1, hf.subset hc.2⟩)
        refine ⟨?_, hw.1, hw.2.1, fun hcurrent => hw.2.2 ?_⟩
        · rw [hm.userVersion, Nat.cast_le]
          exact hm.supported
        · rw [← @Nat.cast_inj Int, ← hm.userVersion, hcurrent.userVersion]
      · have hfound : u.database.userVersion = u.database.userVersion.toNat := by omega
        have hlt : schemaVersion < u.database.userVersion.toNat := by omega
        refine (migrate_later u hfound hlt).imp (fun _ _ hw => hw.elim) (fun _ _ hc => ?_)
        rcases hc with hc | hc
        · exact .inl ⟨hc.1, hf.subset hc.2⟩
        · exact .inr ⟨_, hlt, hfound, hc⟩
    · exact fun _ hc => .inl hc
  unfold openStore
  cases hrun : fromConnection (⟨file, faults⟩ : Transaction ρ) with
  | ok _ u => exact ⟨fun _ => hends.of_ok hrun, nofun⟩
  | error error u =>
    refine ⟨nofun, ?_⟩
    rintro _ ⟨⟩
    exact ⟨rfl, hends.of_error hrun⟩

/-! ## Runs -/

/-- What happens to a database file. -/
inductive FileEvent (ρ : Type)
  | opening (faults : List Bool)
  /-- A program changes the rows of a table. -/
  | write (table : String) (change : List ρ → List ρ)
  /-- A later program brings the file to a version of its own. -/
  | upgrade (later : Database ρ)

/-- The file after an event, with the result of an opening. -/
def fileStep (file : Database ρ) : FileEvent ρ → Option (Except OpenError Unit) × Database ρ
  | .opening faults =>
    let opened := openStore faults file
    (some opened.1, opened.2)
  | .write table change =>
    (none, if table ∈ file.schema.tables then
      { file with rows := Function.update file.rows table (change (file.rows table)) }
    else file)
  | .upgrade later => (none, if schemaVersion < later.userVersion then later else file)

theorem fileStep_ofProgram (file : Database ρ) (event : FileEvent ρ) (h : OfProgram file) :
    OfProgram (fileStep file event).2 := by
  cases event with
  | opening faults =>
    have hopened := openStore_opened faults h
    show OfProgram (openStore faults file).2
    cases hresult : (openStore faults file).1 with
    | ok _ => exact .inl ⟨schemaVersion, (hopened.commits hresult).2.1⟩
    | error error => rwa [(hopened.rollsBack error hresult).1]
  | write table change =>
    simp only [fileStep]
    split
    · rcases h with ⟨version, hm⟩ | hlater
      · exact .inl ⟨version, hm.supported, hm.userVersion, hm.schema⟩
      · exact .inr hlater
    · exact h
  | upgrade later =>
    simp only [fileStep]
    split
    · exact .inr ‹_›
    · exact h

/-- An opening is all or nothing at every point of a file's life. From a file of this program, over any order of
openings cut off anywhere, writes of rows and upgrades by later programs, the file has the schema of its version or is a
later program's. An opening that succeeds leaves the current schema with every row, and nothing new of a current file; one
that fails leaves the file as it was, and fails for a fault or because the file is later than the program. -/
theorem opens_safe {version : Nat} {file : Database ρ} (hm : Made version file) (events : List (FileEvent ρ)) :
    OfProgram (final fileStep file events) ∧
      EveryStep fileStep (fun before event => ∀ faults, event = .opening faults →
        ∃ result after, fileStep before event = (some result, after) ∧ Opened faults before result after)
        file events := by
  have h0 : OfProgram file := .inl ⟨version, hm⟩
  refine ⟨final_inv_all fileStep_ofProgram h0 events, ?_⟩
  refine everyStep_of_inv (C := fun _ _ => True) (fun before event h _ => ⟨?_, fileStep_ofProgram before event h⟩) h0
    (everyStep_of_forall (fun _ _ => trivial) file events)
  rintro faults rfl
  exact ⟨_, _, rfl, openStore_opened faults h⟩

/-- A new file whose first opening is cut off before the fifth table, then opened, written and opened again. -/
theorem opens_safe_cut :
    OfProgram (final fileStep (Database.empty Nat)
      [.opening [false, false, false, false, false, false, false, true], .opening [], .write "outbox_work" (7 :: ·),
        .opening []]) ∧
      (openStore [false, false, false, false, false, false, false, true] (Database.empty Nat)).1 = .error .database ∧
      (final fileStep (Database.empty Nat)
        [.opening [false, false, false, false, false, false, false, true], .opening [], .write "outbox_work" (7 :: ·),
          .opening []]).rows "outbox_work" = [7] :=
  ⟨(opens_safe made_empty _).1, by decide +kernel, by decide +kernel⟩

end Opening

end Slotpilot.Storage
