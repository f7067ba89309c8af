import Slotpilot.Storage.ReceiveStore
import Mathlib

/-!
# The log of stored records

The tables of a store hold a numbered log of storable records, no two of which share their identity (`Holds`): one row of
windows and one of diagnostics for each record, and its decode rows. Each operation on the tables is an operation on the
log:

* `readReceiveBySequence_entry`: reading a sequence gives the record of that number;
* `storeReceive_ends`: recording a record finds it in the log, collides with one there, or appends it;
* `pruneReceiveBefore_ends`: pruning keeps the records from a number on.
-/

set_option autoImplicit false

namespace Slotpilot.Storage

open Lib Domain Audio Protocol

/-! ## Identity -/

/-- The full context that is unique to a window. -/
structure ContextKey where
  serviceInstanceId : ServiceInstanceId
  processGeneration : ProcessGeneration
  streamGeneration : StreamGeneration
  slot : Ft8ReceiveSlot
  deviceIdentity : InputDeviceIdentity
  configuration : InputConfiguration
  deriving DecidableEq

def ReceiveWindowContext.key (context : ReceiveWindowContext) : ContextKey where
  serviceInstanceId := context.serviceInstanceId
  processGeneration := context.processGeneration
  streamGeneration := context.streamGeneration
  slot := context.slot
  deviceIdentity := context.deviceIdentity
  configuration := context.configuration

/-! ## Parts of a sample window -/

theorem sampleInstance_valid : validateId "svc_" "svc_00000001" = .ok () := by decide

def sampleInstance : ServiceInstanceId := ⟨"svc_00000001", sampleInstance_valid⟩

theorem sampleSlot_nonneg : 0 ≤ Int64.toInt 15000 := by decide

theorem sampleSlot_aligned : (Int64.toInt 15000).tmod ft8ReceiveSlotMillis = 0 := by decide

def sampleSlot : Ft8ReceiveSlot := ⟨15000, sampleSlot_nonneg, sampleSlot_aligned⟩
def sampleDevice : InputDeviceIdentity := ⟨.linuxAlsa, "hw:0", by decide⟩

/-- One channel at 48 kHz. -/
def sampleConfiguration : InputConfiguration :=
  { monoConfiguration with sampleRateHz := 48000, rate_ge := by decide, rate_le := by decide }

/-- The contexts have the same identity or the same full context. -/
def SharesIdentity (a b : ReceiveWindowContext) : Prop := a.receiveWindowId = b.receiveWindowId ∨ a.key = b.key

theorem SharesIdentity.symm {a b : ReceiveWindowContext} (h : SharesIdentity a b) : SharesIdentity b a :=
  h.imp Eq.symm Eq.symm

theorem platformToStr_inj {a b : InputPlatform} (h : platformToStr a = platformToStr b) : a = b := by
  have := congrArg strToPlatform h
  simpa using this

theorem sampleFormatToStr_inj {a b : InputSampleFormat} (h : sampleFormatToStr a = sampleFormatToStr b) : a = b := by
  have := congrArg strToSampleFormat h
  simpa using this

theorem deviceIdentity_eq {a b : InputDeviceIdentity} (hplatform : a.platform = b.platform)
    (hident : a.opaqueId = b.opaqueId) : a = b := by
  cases a
  cases b
  cases hplatform
  cases hident
  rfl

theorem configuration_eq {a b : InputConfiguration} (hrate : a.sampleRateHz = b.sampleRateHz)
    (hchannels : a.channels = b.channels) (hformat : a.sampleFormat = b.sampleFormat)
    (hselected : a.selectedChannel = b.selectedChannel) : a = b := by
  cases a
  cases b
  cases hrate
  cases hchannels
  cases hformat
  cases hselected
  rfl

theorem processGeneration_eq {a b : ProcessGeneration} (h : a.value = b.value) : a = b := by
  cases a
  cases b
  cases h
  rfl

theorem streamGeneration_eq {a b : StreamGeneration} (h : a.value = b.value) : a = b := by
  cases a
  cases b
  cases h
  rfl

/-- The columns of a full context. -/
def ContextKey.columns (key : ContextKey) : ContextColumns where
  serviceInstanceId := key.serviceInstanceId.text
  processGeneration := key.processGeneration.value.toNat
  streamGeneration := key.streamGeneration.value.toNat
  slotStartUtcMillis := key.slot.startUtcUnixMillis.toInt
  devicePlatform := platformToStr key.deviceIdentity.platform
  deviceOpaqueId := key.deviceIdentity.opaqueId
  sampleRateHz := key.configuration.sampleRateHz
  channels := key.configuration.channels
  sampleFormat := sampleFormatToStr key.configuration.sampleFormat
  selectedChannel := key.configuration.selectedChannel

theorem ContextKey.columns_inj {a b : ContextKey} : a.columns = b.columns ↔ a = b := by
  refine ⟨fun h => ?_, congrArg _⟩
  simp only [columns, ContextColumns.mk.injEq, Int.natCast_inj, UInt64.toNat_inj, Int64.toInt_inj] at h
  obtain ⟨hservice, hprocess, hstream, hslot, hplatform, hident, hrate, hchannels, hformat, hselected⟩ := h
  cases a
  cases b
  rw [ContextKey.mk.injEq]
  exact ⟨TypedId.ext hservice, processGeneration_eq hprocess, streamGeneration_eq hstream,
    Ft8ReceiveSlot.eq_iff.mp hslot, deviceIdentity_eq (platformToStr_inj hplatform) hident,
    configuration_eq hrate hchannels (sampleFormatToStr_inj hformat) hselected⟩

/-- A context has columns when its generations fit. -/
theorem contextColumns_key {context : ReceiveWindowContext} {columns : ContextColumns} :
    contextColumns context = .ok columns ↔ context.processGeneration.value.toNat < 2 ^ 63 ∧
      context.streamGeneration.value.toNat < 2 ^ 63 ∧ columns = context.key.columns := contextColumns_ok

/-! ## The log -/

/-- One stored record with its rows. -/
structure StoredReceive where
  sequence : Nat
  record : ReceiveRecord
  window : WindowRow
  diagnostics : DiagnosticsRow
  window_ok : windowRow sequence record = .ok window
  diagnostics_ok : diagnosticsRow record = .ok diagnostics
  storable : record.Storable

/-- The record with its number. -/
def StoredReceive.sequenced (entry : StoredReceive) : SequencedReceiveRecord := ⟨entry.sequence, entry.record⟩

/-- The tables hold the log. -/
structure Holds (store : ReceiveStore) (log : List StoredReceive) : Prop where
  windows : store.windows = log.map (·.window)
  diagnostics : store.diagnostics = log.map (·.diagnostics)
  decodes : store.decodes = log.flatMap fun entry => decodeRows entry.record
  numbered : Numbered StoredReceive.sequence log
  assigned : ∀ entry ∈ log, 0 < entry.sequence ∧ entry.sequence ≤ store.lastSequence
  fits : store.lastSequence < 2 ^ 63
  distinct : log.Pairwise fun a b => ¬SharesIdentity a.record.context b.record.context

variable {self : ReceiveStore} {log : List StoredReceive} {entry other : StoredReceive} {record : ReceiveRecord}

theorem StoredReceive.window_sequence (entry : StoredReceive) : entry.window.sequence = entry.sequence := by
  obtain ⟨columns, -, -, -, hrow⟩ := windowRow_ok.mp entry.window_ok
  rw [hrow]

theorem StoredReceive.window_id (entry : StoredReceive) :
    entry.window.receiveWindowId = entry.record.context.receiveWindowId.text := by
  obtain ⟨columns, -, -, -, hrow⟩ := windowRow_ok.mp entry.window_ok
  rw [hrow]

theorem StoredReceive.window_context (entry : StoredReceive) : entry.window.context = entry.record.context.key.columns := by
  obtain ⟨columns, hcolumns, -, -, hrow⟩ := windowRow_ok.mp entry.window_ok
  rw [hrow]
  exact (contextColumns_key.mp hcolumns).2.2

theorem StoredReceive.diagnostics_id (entry : StoredReceive) :
    entry.diagnostics.receiveWindowId = entry.record.context.receiveWindowId.text := by
  obtain ⟨columns, -, -, -, -, -, hrow⟩ := diagnosticsRow_ok.mp entry.diagnostics_ok
  rw [hrow]

theorem decodeRows_id {row : DecodeRow} (h : row ∈ decodeRows record) :
    row.receiveWindowId = record.context.receiveWindowId.text := by
  obtain ⟨entry, -, rfl⟩ := List.mem_map.mp h
  rfl

/-- Two entries of the log that share their identity are one. -/
theorem Holds.eq_of_shares (h : Holds self log) (ha : entry ∈ log) (hb : other ∈ log)
    (hshares : SharesIdentity entry.record.context other.record.context) : entry = other := by
  have hall : ∀ ⦃a⦄, a ∈ log → ∀ ⦃b⦄, b ∈ log → SharesIdentity a.record.context b.record.context → a = b :=
    List.Pairwise.forall_of_forall_of_flip (fun _ _ _ => rfl) (h.distinct.imp fun hne hs => absurd hs hne)
      (h.distinct.imp fun hne hs => absurd hs.symm hne)
  exact hall ha hb hshares

theorem Holds.eq_of_id (h : Holds self log) (ha : entry ∈ log) (hb : other ∈ log)
    (hid : entry.record.context.receiveWindowId.text = other.record.context.receiveWindowId.text) : entry = other :=
  h.eq_of_shares ha hb (.inl (TypedId.ext hid))

/-! ## Reading the log -/

/-- The only element of a list that meets a condition is found. -/
theorem find?_eq_some_of_unique {α : Type} {p : α → Bool} {l : List α} {a : α} (ha : a ∈ l) (hp : p a = true)
    (hunique : ∀ b ∈ l, p b = true → b = a) : l.find? p = some a := by
  cases hfind : l.find? p with
  | none => exact absurd hp (List.find?_eq_none.mp hfind a ha)
  | some b => rw [hunique b (List.mem_of_find?_eq_some hfind) (List.find?_some hfind)]

theorem Holds.find_window (h : Holds self log) (hentry : entry ∈ log) :
    self.windows.find? (·.sequence = entry.sequence) = some entry.window := by
  rw [h.windows, List.find?_map, Option.map_eq_some_iff]
  refine ⟨entry, find?_eq_some_of_unique hentry ?_ fun other hother hsame => ?_, rfl⟩
  · simp [entry.window_sequence]
  · refine h.numbered.eq_of_number hother hentry ?_
    simpa [other.window_sequence] using hsame

theorem Holds.find_diagnostics (h : Holds self log) (hentry : entry ∈ log) :
    self.diagnostics.find? (·.receiveWindowId = entry.window.receiveWindowId) = some entry.diagnostics := by
  rw [h.diagnostics, List.find?_map, Option.map_eq_some_iff]
  refine ⟨entry, find?_eq_some_of_unique hentry ?_ fun other hother hsame => ?_, rfl⟩
  · simp [entry.window_id, entry.diagnostics_id]
  · refine h.eq_of_id hother hentry ?_
    simpa [other.diagnostics_id, entry.window_id] using hsame

/-- The rows of one entry among those of all. -/
theorem filter_rows {α : Type} {rows : StoredReceive → List α} {id : α → String}
    (howned : ∀ other, ∀ row ∈ rows other, id row = other.record.context.receiveWindowId.text)
    (hdistinct : log.Pairwise fun a b => ¬SharesIdentity a.record.context b.record.context) (hentry : entry ∈ log) :
    (log.flatMap rows).filter (id · = entry.record.context.receiveWindowId.text) = rows entry := by
  have hown : (rows entry).filter (id · = entry.record.context.receiveWindowId.text) = rows entry :=
    List.filter_eq_self.mpr fun row hrow => by simp [howned entry row hrow]
  have hother (other : StoredReceive) (hne : ¬SharesIdentity other.record.context entry.record.context) :
      (rows other).filter (id · = entry.record.context.receiveWindowId.text) = [] := by
    refine List.filter_eq_nil_iff.mpr fun row hrow hsame => hne (.inl (TypedId.ext ?_))
    rw [← howned other row hrow]
    simpa using hsame
  induction log with
  | nil => cases hentry
  | cons first rest ih =>
    obtain ⟨hfirst, hrest⟩ := List.pairwise_cons.mp hdistinct
    rw [List.flatMap_cons, List.filter_append]
    rcases List.mem_cons.mp hentry with rfl | hmem
    · have hnone : (rest.flatMap rows).filter (id · = entry.record.context.receiveWindowId.text) = [] := by
        rw [List.filter_flatMap, List.flatMap_eq_nil_iff]
        exact fun other hmem => hother other fun hshares => hfirst other hmem hshares.symm
      rw [hown, hnone, List.append_nil]
    · rw [hother first (hfirst entry hmem), List.nil_append]
      exact ih hrest hmem

/-- The decode rows of one entry. -/
theorem Holds.filter_decodes (h : Holds self log) (hentry : entry ∈ log) :
    self.decodes.filter (·.receiveWindowId = entry.record.context.receiveWindowId.text) = decodeRows entry.record := by
  rw [h.decodes]
  exact filter_rows (fun _ _ hrow => decodeRows_id hrow) h.distinct hentry

/-- The window of one entry. -/
theorem Holds.filter_windows (h : Holds self log) (hentry : entry ∈ log) :
    self.windows.filter (·.receiveWindowId = entry.record.context.receiveWindowId.text) = [entry.window] := by
  rw [h.windows, List.map_eq_flatMap]
  refine filter_rows (fun other row hrow => ?_) h.distinct hentry
  rw [List.mem_singleton.mp hrow, other.window_id]

/-- The row of diagnostics of one entry. -/
theorem Holds.filter_diagnostics (h : Holds self log) (hentry : entry ∈ log) :
    self.diagnostics.filter (·.receiveWindowId = entry.record.context.receiveWindowId.text) = [entry.diagnostics] := by
  rw [h.diagnostics, List.map_eq_flatMap]
  refine filter_rows (fun other row hrow => ?_) h.distinct hentry
  rw [List.mem_singleton.mp hrow, other.diagnostics_id]

/-- The decode rows of a record are in the order of their index. -/
theorem decodeRows_ordered (record : ReceiveRecord) :
    (decodeRows record).Pairwise fun a b => decide (a.decodeIndex ≤ b.decodeIndex) = true := by
  have hindices : (record.decodes.zipIdx.map Prod.snd).Pairwise (· ≤ ·) := by
    rw [List.zipIdx_map_snd]
    exact List.pairwise_le_range'
  refine List.pairwise_map.mpr ((List.pairwise_map.mp hindices).imp fun hle => ?_)
  exact decide_eq_true (Int.ofNat_le.mpr hle)

theorem Holds.decodesOf (h : Holds self log) (hentry : entry ∈ log) :
    self.decodesOf entry.window.receiveWindowId = decodeRows entry.record := by
  rw [ReceiveStore.decodesOf, entry.window_id, h.filter_decodes hentry]
  exact List.mergeSort_of_pairwise (decodeRows_ordered entry.record)

/-- Reading a sequence gives the record of that number. -/
theorem Holds.read (h : Holds self log) (hentry : entry ∈ log) :
    self.readReceiveBySequence entry.sequence = .ok (some entry.sequenced) := by
  rw [ReceiveStore.readReceiveBySequence, h.find_window hentry]
  simp only [h.find_diagnostics hentry, h.decodesOf hentry,
    reconstructReceive_rows entry.storable entry.window_ok entry.diagnostics_ok]
  rfl

/-- A sequence that no entry has reads nothing. -/
theorem Holds.read_none (h : Holds self log) {sequence : Nat} (hnone : ∀ entry ∈ log, entry.sequence ≠ sequence) :
    self.readReceiveBySequence sequence = .ok none := by
  have hfind : self.windows.find? (·.sequence = sequence) = none := by
    rw [h.windows, List.find?_map, Option.map_eq_none_iff, List.find?_eq_none]
    intro entry hentry
    simpa [entry.window_sequence] using hnone entry hentry
  rw [ReceiveStore.readReceiveBySequence, hfind]

/-- The record of an identity of the log. -/
theorem Holds.receiveRecord (h : Holds self log) (hentry : entry ∈ log) :
    self.receiveRecord entry.record.context.receiveWindowId = .ok (some entry.sequenced) := by
  have hfind : self.windows.find? (·.receiveWindowId = entry.record.context.receiveWindowId.text) = some entry.window := by
    rw [h.windows, List.find?_map, Option.map_eq_some_iff]
    refine ⟨entry, find?_eq_some_of_unique hentry ?_ fun other hother hsame => ?_, rfl⟩
    · simp [entry.window_id]
    · refine h.eq_of_id hother hentry ?_
      simpa [other.window_id] using hsame
  rw [ReceiveStore.receiveRecord, hfind]
  show (self.readReceiveBySequence entry.window.sequence >>= _) = _
  rw [entry.window_sequence, h.read hentry]
  rfl

/-- The rows after a sequence are those of the entries after it. -/
theorem Holds.page_windows (h : Holds self log) (limit afterSequence : Nat) :
    page WindowRow.sequence limit afterSequence self.windows =
      (page StoredReceive.sequence limit afterSequence log).map (·.window) := by
  rw [page, page, Lib.after, Lib.after, h.windows, List.filter_map, List.map_take]
  refine congrArg (List.take limit) (congrArg _ (List.filter_congr fun entry _ => ?_))
  rw [Function.comp_apply, entry.window_sequence]

/-- **A page** has the records after a sequence, in the order of the log. -/
theorem Holds.receivePage (h : Holds self log) {afterSequence limit : Nat} (hlimit : 1 ≤ limit ∧ limit ≤ maxReceivePageSize)
    (hafter : afterSequence < 2 ^ 63) :
    self.receivePage afterSequence limit = .ok
      { records := (page StoredReceive.sequence limit afterSequence log).map StoredReceive.sequenced
        earliestSequence := (log.map (·.sequence)).min?
        latestSequence := (log.map (·.sequence)).max?
        hasMore := limit < (Lib.after StoredReceive.sequence afterSequence log).length } := by
  have hfetch : limit + 1 < 2 ^ 63 := by
    have := hlimit.2
    unfold maxReceivePageSize at this
    omega
  have hsequences : self.windows.map (·.sequence) = log.map (·.sequence) := by
    rw [h.windows, List.map_map]
    exact List.map_congr_left fun entry _ => entry.window_sequence
  have hread : (page WindowRow.sequence (limit + 1) afterSequence self.windows).mapM (fun window => do
      let record ← self.readReceiveBySequence window.sequence
      okOr (.invalidPersistedReceiveValue "receive sequence disappeared during query") record) =
        .ok ((page StoredReceive.sequence (limit + 1) afterSequence log).map StoredReceive.sequenced) := by
    rw [mapM_ok, h.page_windows, List.forall₂_map_left_iff, List.forall₂_map_right_iff, List.forall₂_same]
    intro entry hentry
    rw [entry.window_sequence, h.read (mem_after.mp (List.mem_of_mem_take hentry)).1]
    rfl
  unfold ReceiveStore.receivePage
  rw [if_neg (not_not.mpr hlimit), toSqlInteger_ok.mpr ⟨hafter, rfl⟩, toSqlInteger_ok.mpr ⟨hfetch, rfl⟩]
  refine exceptBind_ok.mpr ⟨_, rfl, exceptBind_ok.mpr ⟨_, rfl, exceptBind_ok.mpr ⟨_, hread, ?_⟩⟩⟩
  rw [hsequences, ← List.map_take, page, page, List.take_take, Nat.min_eq_left (Nat.le_succ limit), List.length_map,
    List.length_take]
  show Except.ok _ = Except.ok _
  congr 2
  rw [decide_eq_decide]
  omega

/-! ## Recording -/

/-- The window that a context finds is one of the log that shares its identity, if there is one. -/
theorem Holds.find_existing (h : Holds self log) (sqlite : Sqlite) {context : ReceiveWindowContext}
    {columns : ContextColumns} (hcolumns : contextColumns context = .ok columns) :
    self.findExistingSequence sqlite context = .ok none ∧ (∀ entry ∈ log, ¬SharesIdentity entry.record.context context) ∨
      ∃ entry ∈ log, self.findExistingSequence sqlite context = .ok (some entry.sequence) ∧
        SharesIdentity entry.record.context context := by
  obtain ⟨-, -, hkey⟩ := contextColumns_key.mp hcolumns
  have hmatch (entry : StoredReceive) : (entry.window.receiveWindowId = context.receiveWindowId.text ∨
      entry.window.context = columns) ↔ SharesIdentity entry.record.context context := by
    rw [entry.window_id, entry.window_context, hkey, ContextKey.columns_inj, SharesIdentity, TypedId.ext_iff]
  have hfound : self.findExistingSequence sqlite context = .ok ((sqlite.firstRow (self.windows.filter fun row =>
      row.receiveWindowId = context.receiveWindowId.text ∨ row.context = columns)).map (·.sequence)) := by
    unfold ReceiveStore.findExistingSequence
    rw [hcolumns]
    rfl
  rw [hfound]
  cases hfirst : sqlite.firstRow (self.windows.filter fun row =>
      row.receiveWindowId = context.receiveWindowId.text ∨ row.context = columns) with
  | none =>
    refine .inl ⟨rfl, fun entry hentry hshares => ?_⟩
    have hrow : entry.window ∈ self.windows := h.windows ▸ List.mem_map_of_mem hentry
    have := List.filter_eq_nil_iff.mp (sqlite.firstRow_none hfirst) entry.window hrow
    exact this (decide_eq_true ((hmatch entry).mpr hshares))
  | some row =>
    obtain ⟨hrow, hshares⟩ := List.mem_filter.mp (sqlite.firstRow_mem hfirst)
    rw [h.windows] at hrow
    obtain ⟨entry, hentry, rfl⟩ := List.mem_map.mp hrow
    refine .inr ⟨entry, hentry, ?_, (hmatch entry).mp (of_decide_eq_true hshares)⟩
    rw [Option.map_some, entry.window_sequence]

/-- An unsigned value is a column, or it has no room. -/
theorem toI64_cases (value : Nat) : toI64 value = .ok value ∨ toI64 value = .error .invalidSequence := by
  unfold toI64
  split
  · exact .inl rfl
  · exact .inr rfl

theorem exceptBind_error {ε α β : Type} {r : Except ε α} {f : α → Except ε β} {e : ε} :
    (r >>= f) = .error e ↔ r = .error e ∨ ∃ a, r = .ok a ∧ f a = .error e := by
  cases r with
  | ok a => show f a = _ ↔ _; simp
  | error e' => show Except.error e' = _ ↔ _; simp

theorem toI64_error {value : Nat} {error : StorageError} (h : toI64 value = .error error) : error = .invalidSequence := by
  rcases toI64_cases value with hok | herror
  · rw [hok] at h
    cases h
  · rw [herror] at h
    cases h
    rfl

theorem contextColumns_error {context : ReceiveWindowContext} {error : StorageError}
    (h : contextColumns context = .error error) : error = .invalidSequence := by
  simp only [contextColumns, exceptBind_error] at h
  rcases h with h | ⟨_, -, h | ⟨_, -, h⟩⟩
  · exact toI64_error h
  · exact toI64_error h
  · cases h

theorem windowRow_error {sequence : Nat} {error : StorageError} (h : windowRow sequence record = .error error) :
    error = .invalidSequence ∧ ¬record.Storable := by
  refine ⟨?_, fun hstorable => ?_⟩
  · simp only [windowRow, exceptBind_error] at h
    rcases h with h | ⟨_, -, h | ⟨_, -, h | ⟨_, -, h⟩⟩⟩
    · exact contextColumns_error h
    · exact toI64_error h
    · exact toI64_error h
    · cases h
  · obtain ⟨_, _, hwindow, -⟩ : record.RowsAccepted sequence := rowsAccepted_iff.mpr hstorable
    rw [hwindow] at h
    cases h

theorem faultColumns_error {fault : ReceiveClockFault} {error : StorageError} (h : faultColumns fault = .error error) :
    error = .invalidSequence := by
  cases fault with
  | staleMapping millis | samplingDelayed millis | sampleGap millis =>
    simp only [faultColumns, exceptBind_error] at h
    rcases h with h | ⟨_, -, h⟩
    · exact toI64_error h
    · cases h
  | _ => cases h

theorem durableClockColumns_error {clock : ReceiveClockHealth} {error : StorageError} (hvalid : clock.validate = .ok ())
    (h : durableClockColumns clock = .error error) : error = .invalidSequence := by
  cases clock with
  | healthy mappingAgeMillis =>
    simp only [durableClockColumns, hvalid, exceptBind_error] at h
    rcases h with h | ⟨_, -, h | ⟨_, -, h⟩⟩
    · cases h
    · exact toI64_error h
    · cases h
  | unhealthy fault recoveryProgress recoveryRequired mappingAgeMillis =>
    simp only [durableClockColumns, hvalid, exceptBind_error] at h
    rcases h with h | ⟨_, -, h | ⟨_, -, h | ⟨_, -, h⟩⟩⟩
    · cases h
    · exact faultColumns_error h
    · exact toI64_error h
    · cases h

theorem diagnosticsRow_error {error : StorageError} (h : diagnosticsRow record = .error error) :
    error = .invalidSequence ∧ ¬record.Storable := by
  refine ⟨?_, fun hstorable => ?_⟩
  · simp only [diagnosticsRow, exceptBind_error] at h
    rcases h with h | ⟨_, -, h | ⟨_, -, h | ⟨_, -, h | ⟨_, -, h | ⟨_, -, h⟩⟩⟩⟩⟩
    · exact durableClockColumns_error record.facts.clock h
    · exact toI64_error h
    · exact toI64_error h
    · exact toI64_error h
    · exact toI64_error h
    · cases h
  · obtain ⟨_, _, -, -, hdiagnostics, -⟩ : record.RowsAccepted 0 := rowsAccepted_iff.mpr hstorable
    rw [hdiagnostics] at h
    cases h

/-- A failure that is not a collision. -/
def NoRoom (self : ReceiveStore) (record : ReceiveRecord) (error : StorageError) : Prop :=
  (error = .invalidSequence ∨ error = .database) ∧ ¬(record.Storable ∧ self.lastSequence + 1 < 2 ^ 63)

/-- A window that shares its identity with none is inserted when it has columns and there is room. -/
theorem insertWindow_ends (h : Holds self log)
    (hnone : ∀ entry ∈ log, ¬SharesIdentity entry.record.context record.context) :
    Ends (ReceiveStore.insertWindow record) self
      (fun sequence after => sequence = self.lastSequence + 1 ∧ self.lastSequence + 1 < 2 ^ 63 ∧
        ∃ row, windowRow (self.lastSequence + 1) record = .ok row ∧
          after = { self with windows := self.windows ++ [row], lastSequence := self.lastSequence + 1 })
      (fun error _ => NoRoom self record error) := by
  unfold ReceiveStore.insertWindow
  simp only [ends_bind, ends_get, ends_fromResult, ends_ite, ends_throw, ends_set, ends_pure]
  refine ⟨fun row hrow => ⟨fun hrefused => ?_, fun _ => ⟨fun hroom => ⟨trivial, hroom, row, hrow, rfl⟩, fun hroom => ?_⟩⟩,
    fun error herror => ?_⟩
  · rcases hrefused with hcheck | hshares
    · rw [windowRow_check hrow] at hcheck
      cases hcheck
    · obtain ⟨other, hother, hsame⟩ := List.any_eq_true.mp hshares
      rw [h.windows] at hother
      obtain ⟨entry, hentry, rfl⟩ := List.mem_map.mp hother
      obtain ⟨columns, hcolumns, -, -, rfl⟩ := windowRow_ok.mp hrow
      rw [decide_eq_true_eq, entry.window_id, entry.window_context, (contextColumns_key.mp hcolumns).2.2,
        ContextKey.columns_inj] at hsame
      exact absurd (hsame.imp_left fun hid => TypedId.ext hid) (hnone entry hentry)
  · exact ⟨.inr rfl, fun hboth => hroom hboth.2⟩
  · obtain ⟨rfl, hstorable⟩ := windowRow_error herror
    exact ⟨.inl rfl, fun hboth => hstorable hboth.1⟩

theorem insertDiagnostics_ends {windows : List WindowRow} {window : WindowRow} (h : Holds self log)
    (hnone : ∀ entry ∈ log, ¬SharesIdentity entry.record.context record.context) {sequence : Nat}
    (hid : window.receiveWindowId = record.context.receiveWindowId.text) :
    Ends (ReceiveStore.insertDiagnostics record)
      { self with windows := windows ++ [window], lastSequence := sequence }
      (fun _ after => ∃ row, diagnosticsRow record = .ok row ∧ row.check = true ∧
        after = { self with
          windows := windows ++ [window], lastSequence := sequence, diagnostics := self.diagnostics ++ [row] })
      (fun error _ => NoRoom self record error) := by
  unfold ReceiveStore.insertDiagnostics
  simp only [ends_bind, ends_get, ends_fromResult, ends_ite, ends_throw, ends_set]
  refine ⟨fun row hrow => ⟨fun hrefused => ?_, fun haccepted => ?_⟩, fun error herror => ?_⟩
  · refine ⟨.inr rfl, fun hboth => ?_⟩
    obtain ⟨-, accepted, -, -, haccepted, hcheck⟩ : record.RowsAccepted 0 := rowsAccepted_iff.mpr hboth.1
    rw [hrow] at haccepted
    cases haccepted
    obtain ⟨columns, -, -, -, -, -, hcolumns⟩ := diagnosticsRow_ok.mp hrow
    rcases hrefused with hfalse | hshares | horphan
    · rw [hcheck] at hfalse
      cases hfalse
    · obtain ⟨other, hother, hsame⟩ := List.any_eq_true.mp hshares
      rw [h.diagnostics] at hother
      obtain ⟨entry, hentry, rfl⟩ := List.mem_map.mp hother
      rw [decide_eq_true_eq, entry.diagnostics_id, hcolumns] at hsame
      exact hnone entry hentry (.inl (TypedId.ext hsame))
    · rw [List.any_eq_false] at horphan
      exact horphan window (by simp) (by rw [hid, hcolumns]; exact decide_eq_true rfl)
  · refine ⟨row, hrow, ?_, rfl⟩
    rw [← Bool.not_eq_false]
    exact fun hfalse => haccepted (.inl hfalse)
  · obtain ⟨rfl, hstorable⟩ := diagnosticsRow_error herror
    exact ⟨.inl rfl, fun hboth => hstorable hboth.1⟩

/-- The decode of an index that its window does not have is inserted. -/
theorem insertDecode_ends {decode : Ft8Decode} {index : Nat} {store : ReceiveStore} (hdecode : decode ∈ record.decodes)
    (hindex : index < record.decodes.length)
    (hwindow : store.windows.any (·.receiveWindowId = record.context.receiveWindowId.text) = true)
    (hbefore : ∀ row ∈ store.decodes, row.receiveWindowId = record.context.receiveWindowId.text → row.decodeIndex < index) :
    Ends (ReceiveStore.insertDecode record.context.receiveWindowId index decode) store
      (fun _ after => after = { store with
        decodes := store.decodes ++ [decodeRow record.context.receiveWindowId index decode] })
      (fun _ _ => False) := by
  unfold ReceiveStore.insertDecode
  simp only [ends_bind, ends_get, ends_ite, ends_throw, ends_set]
  refine ⟨fun hrefused => ?_, fun _ => trivial⟩
  rcases hrefused with hfalse | htaken | horphan
  · rw [decodeRow_check hdecode hindex] at hfalse
    cases hfalse
  · obtain ⟨row, hrow, hsame⟩ := List.any_eq_true.mp htaken
    rw [decide_eq_true_eq] at hsame
    have hlt := hbefore row hrow hsame.1
    rw [hsame.2] at hlt
    exact absurd hlt (lt_irrefl _)
  · cases hwindow.symm.trans horphan

/-- The decodes of a window that has none from an index on are inserted from there. -/
theorem insertDecodes_ends {decodes : List Ft8Decode} (hsub : ∀ decode ∈ decodes, decode ∈ record.decodes) {start : Nat}
    (hlength : start + decodes.length ≤ record.decodes.length) (store : ReceiveStore)
    (hwindow : store.windows.any (·.receiveWindowId = record.context.receiveWindowId.text) = true)
    (hbefore : ∀ row ∈ store.decodes, row.receiveWindowId = record.context.receiveWindowId.text → row.decodeIndex < start) :
    Ends ((decodes.zipIdx start).forM fun entry =>
        ReceiveStore.insertDecode record.context.receiveWindowId entry.2 entry.1) store
      (fun _ after => after = { store with
        decodes := store.decodes ++ (decodes.zipIdx start).map fun entry =>
          decodeRow record.context.receiveWindowId entry.2 entry.1 })
      (fun _ _ => False) := by
  induction decodes generalizing start store with
  | nil => simp [Ends, pure, EStateM.pure]
  | cons decode decodes ih =>
    rw [List.length_cons] at hlength
    have hnext : (start + 1) + decodes.length ≤ record.decodes.length := by omega
    show Ends (ReceiveStore.insertDecode record.context.receiveWindowId start decode >>= fun _ =>
      (decodes.zipIdx (start + 1)).forM _) store _ _
    rw [ends_bind]
    refine (insertDecode_ends (hsub decode List.mem_cons_self) (by omega) hwindow hbefore).imp ?_
      fun _ _ hfalse => hfalse
    rintro _ _ rfl
    let next : ReceiveStore := { store with
      decodes := store.decodes ++ [decodeRow record.context.receiveWindowId start decode] }
    refine (ih (fun other hother => hsub other (List.mem_cons_of_mem _ hother)) hnext next hwindow ?_).imp ?_
      fun _ _ hfalse => hfalse
    · intro row hrow hid
      rcases List.mem_append.mp hrow with hold | hnew
      · have := hbefore row hold hid
        omega
      · rw [List.mem_singleton.mp hnew]
        show (start : Int) < ((start + 1 : Nat) : Int)
        omega
    · rintro _ _ rfl
      simp [next, List.zipIdx_cons]

/-- **Recording a new record** appends it to the log, or fails without a collision. -/
theorem insertReceive_ends (h : Holds self log)
    (hnone : ∀ entry ∈ log, ¬SharesIdentity entry.record.context record.context) :
    Ends (ReceiveStore.insertReceive record) self
      (fun recorded after => recorded = .inserted (self.lastSequence + 1) ∧ self.lastSequence + 1 < 2 ^ 63 ∧
        record.Storable ∧ after.lastSequence = self.lastSequence + 1 ∧ after.events = self.events ∧
        ∃ entry : StoredReceive, entry.sequenced = ⟨self.lastSequence + 1, record⟩ ∧ Holds after (log ++ [entry]))
      (fun error _ => NoRoom self record error) := by
  unfold ReceiveStore.insertReceive
  simp only [ends_bind, ends_pure]
  refine (insertWindow_ends h hnone).imp ?_ fun _ _ hno => hno
  rintro _ _ ⟨rfl, hroom, window, hwindow, rfl⟩
  obtain ⟨columns, -, -, -, hcolumns⟩ := windowRow_ok.mp hwindow
  have hid : window.receiveWindowId = record.context.receiveWindowId.text := by rw [hcolumns]
  refine (insertDiagnostics_ends h hnone hid).imp ?_ fun _ _ hno => hno
  rintro _ _ ⟨diagnostics, hdiagnostics, hcheck, rfl⟩
  have hstorable : record.Storable :=
    rowsAccepted_iff.mp ⟨window, diagnostics, hwindow, windowRow_check hwindow, hdiagnostics, hcheck⟩
  have hfresh : ∀ row ∈ self.decodes, row.receiveWindowId = record.context.receiveWindowId.text →
      row.decodeIndex < (0 : Nat) := by
    intro row hrow hsame
    rw [h.decodes] at hrow
    obtain ⟨entry, hentry, hrow⟩ := List.mem_flatMap.mp hrow
    exact absurd (.inl (TypedId.ext ((decodeRows_id hrow).symm.trans hsame))) (hnone entry hentry)
  let inserted : ReceiveStore := { self with
    windows := self.windows ++ [window], lastSequence := self.lastSequence + 1,
    diagnostics := self.diagnostics ++ [diagnostics] }
  have hwindows : inserted.windows.any (·.receiveWindowId = record.context.receiveWindowId.text) = true :=
    List.any_eq_true.mpr ⟨window, by simp [inserted], decide_eq_true hid⟩
  refine (insertDecodes_ends (fun _ hdecode => hdecode) (by omega) inserted hwindows hfresh).imp ?_
    fun _ _ hfalse => hfalse.elim
  rintro _ _ rfl
  let entry : StoredReceive := ⟨self.lastSequence + 1, record, window, diagnostics, hwindow, hdiagnostics, hstorable⟩
  refine ⟨rfl, hroom, hstorable, rfl, rfl, entry, rfl, ?_⟩
  refine ⟨?_, ?_, ?_, ?_, ?_, hroom, ?_⟩
  · simp [inserted, h.windows, entry]
  · simp [inserted, h.diagnostics, entry]
  · simp [inserted, h.decodes, entry, decodeRows]
  · exact h.numbered.append_singleton fun other hother => Nat.lt_succ_of_le (h.assigned other hother).2
  · intro other hother
    rcases List.mem_append.mp hother with hold | hnew
    · exact ⟨(h.assigned other hold).1, Nat.le_succ_of_le (h.assigned other hold).2⟩
    · rw [List.mem_singleton.mp hnew]
      exact ⟨Nat.succ_pos _, le_rfl⟩
  · refine List.pairwise_append.mpr ⟨h.distinct, List.pairwise_singleton _ _, fun other hother last hlast => ?_⟩
    rw [List.mem_singleton.mp hlast]
    exact hnone other hother

/-- Recording a record finds it in the log or appends it. -/
inductive Recorded (self : ReceiveStore) (log : List StoredReceive) (record : ReceiveRecord) :
    ReceiveInsertOutcome → ReceiveStore → List StoredReceive → Prop
  | existing (entry : StoredReceive) (hentry : entry ∈ log) (hsame : entry.record = record) :
      Recorded self log record (.existing entry.sequence) self log
  | inserted (hnone : ∀ entry ∈ log, ¬SharesIdentity entry.record.context record.context)
      (hroom : self.lastSequence + 1 < 2 ^ 63) (entry : StoredReceive)
      (hentry : entry.sequenced = ⟨self.lastSequence + 1, record⟩) (after : ReceiveStore)
      (hlast : after.lastSequence = self.lastSequence + 1) (hevents : after.events = self.events)
      (hholds : Holds after (log ++ [entry])) :
      Recorded self log record (.inserted (self.lastSequence + 1)) after (log ++ [entry])

/-- The generations of a context have columns. -/
def ReceiveWindowContext.GenerationsFit (context : ReceiveWindowContext) : Prop :=
  context.processGeneration.value.toNat < 2 ^ 63 ∧ context.streamGeneration.value.toNat < 2 ^ 63

/-- Why a record is not recorded. -/
inductive Unrecorded (self : ReceiveStore) (log : List StoredReceive) (record : ReceiveRecord) : StorageError → Prop
  | unfit (hunfit : ¬record.context.GenerationsFit) : Unrecorded self log record .invalidSequence
  | collision (hfit : record.context.GenerationsFit) (entry : StoredReceive) (hentry : entry ∈ log)
      (hdiffers : entry.record ≠ record) (hshares : SharesIdentity entry.record.context record.context) :
      Unrecorded self log record .identityCollision
  | refused (hnone : ∀ entry ∈ log, ¬SharesIdentity entry.record.context record.context) (error : StorageError)
      (hno : NoRoom self record error) : Unrecorded self log record error

/-- The window of a sequence in the log holds the record or collides with it. -/
theorem existingReceive_ends (h : Holds self log) (hentry : entry ∈ log) :
    Ends (ReceiveStore.existingReceive record entry.sequence) self
      (fun recorded after => entry.record = record ∧ recorded = .existing entry.sequence ∧ after = self)
      (fun error _ => entry.record ≠ record ∧ error = .identityCollision) := by
  unfold ReceiveStore.existingReceive
  simp only [ends_bind, ends_get, ends_fromResult, ends_orThrow, ends_ite, ends_throw, ends_pure, h.read hentry]
  refine ⟨fun found hfound => ⟨fun existing hexisting => ?_, fun hmissing => ?_⟩, fun error herror => ?_⟩
  · cases hfound
    cases hexisting
    exact ⟨fun hdiffers => ⟨hdiffers, trivial⟩, fun hsame => ⟨not_not.mp hsame, rfl, trivial⟩⟩
  · cases hfound
    cases hmissing
  · cases herror

/-- **Recording** finds the record in the log, appends it, or fails for a reason. -/
theorem storeReceive_ends (h : Holds self log) (sqlite : Sqlite) (record : ReceiveRecord) :
    Ends (ReceiveStore.storeReceive sqlite record) self
      (fun recorded after => ∃ next, Recorded self log record recorded after next)
      (fun error _ => Unrecorded self log record error) := by
  unfold ReceiveStore.storeReceive
  simp only [ends_bind, ends_get, ends_fromResult]
  refine ⟨fun found hfound => ?_, fun error herror => ?_⟩
  · obtain ⟨columns, hcolumns, -⟩ := exceptBind_ok.mp hfound
    have hfit : record.context.GenerationsFit :=
      ⟨(contextColumns_key.mp hcolumns).1, (contextColumns_key.mp hcolumns).2.1⟩
    rcases h.find_existing sqlite hcolumns with ⟨hmissing, hnone⟩ | ⟨entry, hentry, hexisting, hshares⟩
    · rw [hmissing] at hfound
      cases hfound
      refine (insertReceive_ends h hnone).imp ?_ fun error _ hno => .refused hnone error hno
      rintro _ after ⟨rfl, hroom, -, hlast, hevents, last, hsequenced, hholds⟩
      exact ⟨_, .inserted hnone hroom last hsequenced after hlast hevents hholds⟩
    · rw [hexisting] at hfound
      cases hfound
      refine (existingReceive_ends h hentry).imp ?_ ?_
      · rintro _ _ ⟨hsame, rfl, rfl⟩
        exact ⟨log, .existing entry hentry hsame⟩
      · rintro _ _ ⟨hdiffers, rfl⟩
        exact .collision hfit entry hentry hdiffers hshares
  · have hunfit : ¬record.context.GenerationsFit := by
      rintro ⟨hprocess, hstream⟩
      have hcolumns : contextColumns record.context = .ok record.context.key.columns :=
        contextColumns_key.mpr ⟨hprocess, hstream, rfl⟩
      rw [ReceiveStore.findExistingSequence, hcolumns] at herror
      cases herror
    rcases exceptBind_error.mp herror with hcolumns | ⟨_, -, hfound⟩
    · rw [contextColumns_error hcolumns]
      exact .unfit hunfit
    · cases hfound

/-- The recorded record is in the log under the sequence that is answered. -/
theorem Recorded.mem {recorded : ReceiveInsertOutcome} {after : ReceiveStore} {next : List StoredReceive}
    (hrecorded : Recorded self log record recorded after next) :
    ∃ entry ∈ next, entry.sequenced = ⟨recorded.sequence, record⟩ := by
  cases hrecorded with
  | existing entry hentry hsame => exact ⟨entry, hentry, by rw [← hsame]; rfl⟩
  | inserted _ _ entry hentry => exact ⟨entry, List.mem_append_right _ (List.mem_singleton.mpr rfl), hentry⟩

/-! ## Transactions -/

theorem ends_transaction {α : Type} {body : Statement α} {Q : α → ReceiveStore → Prop} {E : StorageError → Prop}
    (h : Ends body self Q fun error _ => E error) :
    Ends (transaction body) self Q fun error after => E error ∧ after = self := by
  unfold Ends transaction at *
  cases hbody : body self with
  | ok value committed =>
    rw [hbody] at h
    exact h
  | error error partial' =>
    rw [hbody] at h
    exact ⟨h, rfl⟩

theorem recordReceive_ends (h : Holds self log) (sqlite : Sqlite) (record : ReceiveRecord) :
    Ends (ReceiveStore.recordReceive sqlite record) self
      (fun recorded after => ∃ next, Recorded self log record recorded after next)
      (fun error after => Unrecorded self log record error ∧ after = self) :=
  ends_transaction (storeReceive_ends h sqlite record)

/-! ## Retention -/

theorem flatMap_filter {α β : Type} (p : α → Bool) (f : α → List β) (l : List α) :
    (l.filter p).flatMap f = l.flatMap fun a => if p a then f a else [] := by
  induction l with
  | nil => rfl
  | cons a l ih =>
    rw [List.filter_cons, List.flatMap_cons]
    split
    · rw [List.flatMap_cons, ih]
    · rw [ih, List.nil_append]

/-- Pruning keeps the records from a sequence on. -/
theorem pruneReceiveBefore_ends (h : Holds self log) (firstRetainedSequence : Nat) :
    Ends (ReceiveStore.pruneReceiveBefore firstRetainedSequence) self
      (fun _ after => after.lastSequence = self.lastSequence ∧ after.events = self.events ∧
        Holds after (retained StoredReceive.sequence firstRetainedSequence log))
      (fun error after => error = .invalidSequence ∧ ¬firstRetainedSequence < 2 ^ 63 ∧ after = self) := by
  unfold ReceiveStore.pruneReceiveBefore
  simp only [ends_bind, ends_get, ends_fromResult, ends_set, ends_pure, toSqlInteger_ok]
  refine ⟨?_, fun error herror => ?_⟩
  · rintro cut ⟨-, rfl⟩
    have hdeleted {entry : StoredReceive} (hentry : entry ∈ log) :
        ((self.windows.filter (·.sequence < cut)).any
          (·.receiveWindowId = entry.record.context.receiveWindowId.text)) =
            decide (entry.sequence < cut) := by
      rw [Bool.eq_iff_iff, List.any_eq_true, decide_eq_true_iff]
      constructor
      · rintro ⟨row, hrow, hid⟩
        obtain ⟨hrow, hlt⟩ := List.mem_filter.mp hrow
        rw [h.windows] at hrow
        obtain ⟨other, hother, rfl⟩ := List.mem_map.mp hrow
        rw [decide_eq_true_iff, other.window_id] at hid
        rw [decide_eq_true_iff, other.window_sequence] at hlt
        rwa [← h.eq_of_id hother hentry hid]
      · intro hlt
        refine ⟨entry.window, List.mem_filter.mpr ⟨h.windows ▸ List.mem_map_of_mem hentry, ?_⟩, ?_⟩
        · rw [decide_eq_true_iff, entry.window_sequence]
          exact hlt
        · rw [decide_eq_true_iff, entry.window_id]
    refine ⟨trivial, trivial, ?_, ?_, ?_, h.numbered.filter _, fun entry hentry => h.assigned entry (List.mem_filter.mp hentry).1,
      h.fits, h.distinct.filter _⟩
    · show retained WindowRow.sequence cut self.windows = _
      rw [h.windows, retained, retained, List.filter_map]
      refine congrArg _ (List.filter_congr fun entry _ => ?_)
      rw [Function.comp_apply, entry.window_sequence]
    · show self.diagnostics.filter _ = _
      rw [h.diagnostics, retained, List.filter_map]
      refine congrArg _ (List.filter_congr fun entry hentry => ?_)
      rw [Function.comp_apply, entry.diagnostics_id, hdeleted hentry, Bool.eq_iff_iff]
      simp
    · show self.decodes.filter _ = _
      rw [h.decodes, retained, List.filter_flatMap]
      have hrows (entry : StoredReceive) (hentry : entry ∈ log) :
          (decodeRows entry.record).filter (fun row => !(self.windows.filter (·.sequence < cut)).any
              (·.receiveWindowId = row.receiveWindowId)) =
            if cut ≤ entry.sequence then decodeRows entry.record else [] := by
        split
        · rename_i hkept
          refine List.filter_eq_self.mpr fun row hrow => ?_
          rw [decodeRows_id hrow, hdeleted hentry]
          simpa using hkept
        · rename_i hpruned
          refine List.filter_eq_nil_iff.mpr fun row hrow => ?_
          rw [decodeRows_id hrow, hdeleted hentry]
          simpa using hpruned
      rw [List.flatMap_congr hrows, flatMap_filter]
      exact List.flatMap_congr fun entry _ => by simp
  · rw [toSqlInteger] at herror
    split at herror
    · cases herror
    · rename_i hlarge
      cases herror
      exact ⟨rfl, hlarge, trivial⟩

end Slotpilot.Storage
