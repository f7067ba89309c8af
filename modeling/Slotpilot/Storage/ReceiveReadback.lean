import Slotpilot.Storage.ReceiveIdentity

/-!
# Reading a record back

A record that fits its columns and shares its identity with no window is inserted, as long as the store has a sequence
left, and every later read returns it until it is pruned.
-/

set_option autoImplicit false

namespace Slotpilot.Storage

open Lib Domain Audio Protocol

variable {self : ReceiveStore} {log : List StoredReceive} {record : ReceiveRecord}

/-- Recording a new storable record appends it. -/
theorem recordReceive_inserts (h : Holds self log) (sqlite : Sqlite) (hstorable : record.Storable)
    (hnone : ∀ entry ∈ log, ¬SharesIdentity entry.record.context record.context)
    (hroom : self.lastSequence + 1 < 2 ^ 63) :
    (ReceiveStore.step sqlite self (.recordReceive record)).1 = .received (.ok (.inserted (self.lastSequence + 1))) ∧
      (ReceiveStore.step sqlite self (.recordReceive record)).2.lastSequence = self.lastSequence + 1 ∧
      ∃ entry : StoredReceive, entry.sequenced = ⟨self.lastSequence + 1, record⟩ ∧
        Holds (ReceiveStore.step sqlite self (.recordReceive record)).2 (log ++ [entry]) := by
  refine run_ends (recordReceive_ends h sqlite record) ?_ ?_ (f := ReceiveStore.Answer.received)
    (P := fun answer after => answer = .received (.ok (.inserted (self.lastSequence + 1))) ∧
      after.lastSequence = self.lastSequence + 1 ∧
      ∃ entry : StoredReceive, entry.sequenced = ⟨self.lastSequence + 1, record⟩ ∧ Holds after (log ++ [entry]))
  · rintro recorded after ⟨next, hrecorded⟩
    cases hrecorded with
    | existing entry hentry hsame => exact absurd (.inl (by rw [hsame])) (hnone entry hentry)
    | inserted _ _ entry hentry _ hlast _ hholds => exact ⟨rfl, hlast, entry, hentry, hholds⟩
  · rintro error after ⟨hno, -⟩
    cases hno with
    | unfit hunfit => exact absurd ⟨hstorable.processGeneration, hstorable.streamGeneration⟩ hunfit
    | collision _ entry hentry _ hshares => exact absurd hshares (hnone entry hentry)
    | refused _ _ hno => exact absurd ⟨hstorable, hroom⟩ hno.2

/-- **A storable record is kept.** In every reachable store with no window of its identity and a sequence left, it is
inserted, and whatever follows, until a call prunes it, both reads return it. -/
theorem record_read_back (sqlite : Sqlite) (calls : List ReceiveStore.Call) (record : ReceiveRecord)
    (hstorable : record.Storable)
    (hnew : ∀ window ∈ (final (ReceiveStore.step sqlite) .empty calls).windows,
      window.receiveWindowId ≠ record.context.receiveWindowId.text ∧ window.context ≠ record.context.key.columns)
    (hroom : (final (ReceiveStore.step sqlite) .empty calls).lastSequence + 1 < 2 ^ 63) :
    let store := final (ReceiveStore.step sqlite) .empty calls
    let sequenced : SequencedReceiveRecord := ⟨store.lastSequence + 1, record⟩
    let recorded := ReceiveStore.step sqlite store (.recordReceive record)
    recorded.1 = .received (.ok (.inserted sequenced.sequence)) ∧
      ∀ later : List ReceiveStore.Call, (∀ call ∈ later, ¬call.Prunes sequenced.sequence) →
        let kept := final (ReceiveStore.step sqlite) recorded.2 later
        kept.receiveRecord record.context.receiveWindowId = .ok (some sequenced) ∧
          ∀ afterSequence limit, 1 ≤ limit ∧ limit ≤ maxReceivePageSize → afterSequence < sequenced.sequence →
            ∃ page, kept.receivePage afterSequence limit = .ok page ∧
              (sequenced ∈ page.records ∨ page.records.length = limit ∧
                ∀ other ∈ page.records, other.sequence < sequenced.sequence) := by
  intro store sequenced recorded
  obtain ⟨log, hrun⟩ := final_holds sqlite calls
  have hnone : ∀ entry ∈ log, ¬SharesIdentity entry.record.context record.context := by
    intro entry hentry hshares
    obtain ⟨hid, hcontext⟩ := hnew entry.window (hrun.holds.windows ▸ List.mem_map_of_mem hentry)
    rw [entry.window_id] at hid
    rw [entry.window_context] at hcontext
    rcases hshares with hsame | hsame
    · exact hid (congrArg TypedId.text hsame)
    · exact hcontext (congrArg ContextKey.columns hsame)
  obtain ⟨hanswer, -, entry, hsequenced, hholds⟩ := recordReceive_inserts hrun.holds sqlite hstorable hnone hroom
  have hsequence : entry.sequence = sequenced.sequence := congrArg SequencedReceiveRecord.sequence hsequenced
  have hrecord : entry.record = record := congrArg SequencedReceiveRecord.record hsequenced
  refine ⟨hanswer, ?_⟩
  intro later hlater kept
  obtain ⟨next, hlaterRun⟩ := run_holds hholds sqlite later
  have hentry : entry ∈ next := by
    refine hlaterRun.kept entry (List.mem_append_right _ (List.mem_singleton.mpr rfl)) fun call hcall => ?_
    rw [hsequence]
    exact hlater call hcall
  refine ⟨?_, fun afterSequence limit hlimit hbefore => ?_⟩
  · have hread := hlaterRun.holds.receiveRecord hentry
    rw [hrecord, hsequenced] at hread
    exact hread
  · have hfits : afterSequence < 2 ^ 63 := hbefore.trans hroom
    refine ⟨_, hlaterRun.holds.receivePage hlimit hfits, ?_⟩
    rw [← hsequence] at hbefore
    rcases hlaterRun.holds.numbered.mem_page limit hentry hbefore with hmem | ⟨hfull, hless⟩
    · exact .inl (List.mem_map.mpr ⟨entry, hmem, hsequenced⟩)
    · refine .inr ⟨by rw [List.length_map, hfull], fun other hother => ?_⟩
      obtain ⟨earlier, hearlier, rfl⟩ := List.mem_map.mp hother
      rw [← hsequence]
      exact hless earlier hearlier

/-- A record of the sampled device is storable when its process generation has a column. -/
theorem sampled_storable {receiveWindowId : ReceiveWindowId} {processGeneration : ProcessGeneration}
    (hcontext : record.context = sampleContext receiveWindowId processGeneration)
    (hdiagnostics : record.diagnostics = sampleDiagnostics) (hfits : processGeneration.value.toNat < 2 ^ 63) :
    record.Storable := by
  refine ⟨?_, ?_, ?_, ?_, ?_, ?_, ?_, ?_, ?_, ?_, ?_⟩ <;> simp only [hcontext, hdiagnostics]
  · rfl
  · decide
  · exact hfits
  · exact (by decide : (1 : UInt64).toNat < 2 ^ 63)
  · exact (by decide : (0 : UInt64).toNat < 2 ^ 63)
  · exact (by decide : (0 : UInt64).toNat < 2 ^ 63)
  · decide
  · decide
  · decide
  · decide
  · trivial

theorem quietRecord_storable (receiveWindowId : ReceiveWindowId) (processGeneration : ProcessGeneration)
    (hfits : processGeneration.value.toNat < 2 ^ 63) : (quietRecord receiveWindowId processGeneration).Storable :=
  sampled_storable rfl rfl hfits

theorem callText_bounded : validateText "CQ K1ABC FN42" 64 = true := by decide

theorem caller_parsed : baseOf "K1ABC" = .ok "K1ABC" := by decide

theorem call_addressed : Ft8MessageClass.generalCall.requiresRecipient = (none : Option FullCallsign).isSome := rfl

/-- A general call at an audio frequency. -/
def generalCall (audioFrequencyHz : Nat) : Ft8Decode where
  metadata := ⟨0, audioFrequencyHz, -10⟩
  message := .resolved ⟨"CQ K1ABC FN42", ⟨"K1ABC", "K1ABC", caller_parsed⟩, none, .generalCall, callText_bounded,
    call_addressed⟩

theorem calls_sorted : [generalCall 700, generalCall 1500].Pairwise fun left right =>
    (left.deterministicCmp right).isLE = true := by decide

/-- A window with two general calls. -/
def heardRecord : ReceiveRecord where
  context := sampleContext secondWindow ⟨2, two_nonzero⟩
  diagnostics := sampleDiagnostics
  decodes := [generalCall 700, generalCall 1500]
  recordedUtcMillis := 15000
  checked := ⟨_, rfl, (List.mergeSort_of_pairwise calls_sorted).symm⟩

/-- The window is recorded after another one, which is dropped once a third is recorded. -/
theorem record_read_back_heard :
    let store := final (ReceiveStore.step (Sqlite.inOrder fun _ => true)) .empty
      [.recordReceive (quietRecord firstWindow ⟨1, one_nonzero⟩)]
    let recorded := ReceiveStore.step (Sqlite.inOrder fun _ => true) store (.recordReceive heardRecord)
    let kept := final (ReceiveStore.step (Sqlite.inOrder fun _ => true)) recorded.2
      [.recordReceive (quietRecord thirdWindow ⟨3, three_nonzero⟩), .pruneReceiveBefore 2]
    recorded.1 = .received (.ok (.inserted 2)) ∧ kept.windows.length = 2 ∧
      kept.receiveRecord secondWindow = .ok (some ⟨2, heardRecord⟩) ∧
      ∃ page, kept.receivePage 1 1 = .ok page ∧ (⟨2, heardRecord⟩ ∈ page.records ∨ page.records.length = 1 ∧
        ∀ other ∈ page.records, other.sequence < 2) := by
  obtain ⟨hinserted, hkept⟩ := record_read_back (Sqlite.inOrder fun _ => true)
    [.recordReceive (quietRecord firstWindow ⟨1, one_nonzero⟩)] heardRecord (sampled_storable rfl rfl (by decide))
    (by decide +kernel) (by decide +kernel)
  have hcut : ¬(final (ReceiveStore.step (Sqlite.inOrder fun _ => true)) .empty
      [.recordReceive (quietRecord firstWindow ⟨1, one_nonzero⟩)]).lastSequence + 1 < 2 := by decide +kernel
  obtain ⟨hread, hpages⟩ := hkept [.recordReceive (quietRecord thirdWindow ⟨3, three_nonzero⟩), .pruneReceiveBefore 2] <| by
    intro call hcall
    rcases List.mem_pair.mp hcall with rfl | rfl
    · exact id
    · exact hcut
  exact ⟨hinserted, by decide +kernel, hread, hpages 1 1 (by decide) (by decide)⟩

/-! ## The last sequence -/

/-- Records one window and drops it. -/
def recordAndPrune (record : ReceiveRecord) : List ReceiveStore.Call :=
  [.recordReceive record, .pruneReceiveBefore (2 ^ 63 - 1)]

/-- Recording and dropping a window uses up a sequence each time. -/
theorem recordAndPrune_repeated (sqlite : Sqlite) (hstorable : record.Storable) (times : Nat)
    (htimes : times + 1 < 2 ^ 63) :
    (final (ReceiveStore.step sqlite) .empty (List.replicate times (recordAndPrune record)).flatten).lastSequence = times ∧
      Holds (final (ReceiveStore.step sqlite) .empty (List.replicate times (recordAndPrune record)).flatten) [] := by
  induction times with
  | zero => exact ⟨rfl, holds_empty⟩
  | succ times ih =>
    obtain ⟨hlast, hholds⟩ := ih (by omega)
    rw [List.replicate_succ', List.flatten_append, List.flatten_singleton, final_append]
    generalize final (ReceiveStore.step sqlite) .empty (List.replicate times (recordAndPrune record)).flatten = store at *
    obtain ⟨-, hrecorded, entry, hsequenced, hone⟩ :=
      recordReceive_inserts hholds sqlite hstorable (by simp) (by omega)
    have hsequence : entry.sequence = store.lastSequence + 1 := congrArg SequencedReceiveRecord.sequence hsequenced
    refine run_ends (pruneReceiveBefore_ends hone (2 ^ 63 - 1)) ?_ ?_ (f := ReceiveStore.Answer.pruned)
      (P := fun _ after => after.lastSequence = times + 1 ∧ Holds after [])
    · rintro deleted after ⟨hpruned, -, hrest⟩
      have hnone : retained StoredReceive.sequence (2 ^ 63 - 1) ([] ++ [entry]) = [] := by
        refine List.filter_eq_nil_iff.mpr fun other hother => ?_
        rw [List.mem_singleton.mp hother, hsequence, decide_eq_true_iff]
        omega
      rw [hnone] at hrest
      exact ⟨by omega, hrest⟩
    · rintro error after ⟨-, hlarge, -⟩
      exact absurd (by decide) hlarge

/-- A run that uses up all sequences and keeps its last window. -/
theorem exists_exhausted (sqlite : Sqlite) (hstorable : record.Storable) :
    ∃ calls : List ReceiveStore.Call, ∃ entry : StoredReceive, entry.record = record ∧
      (final (ReceiveStore.step sqlite) .empty calls).lastSequence + 1 = 2 ^ 63 ∧
      Holds (final (ReceiveStore.step sqlite) .empty calls) [entry] := by
  obtain ⟨times, htimes⟩ : ∃ times : Nat, times + 2 = 2 ^ 63 := ⟨2 ^ 63 - 2, by decide⟩
  obtain ⟨hlast, hholds⟩ := recordAndPrune_repeated sqlite hstorable times (by omega)
  obtain ⟨-, hused, entry, hsequenced, hone⟩ :=
    recordReceive_inserts hholds sqlite hstorable (by simp) (by omega)
  refine ⟨(List.replicate times (recordAndPrune record)).flatten ++ [.recordReceive record], entry,
    congrArg SequencedReceiveRecord.record hsequenced, ?_, ?_⟩
  · rw [final_append, final_cons, final_nil]
    omega
  · rw [final_append, final_cons, final_nil]
    exact hone

/-- A store that has given out its last sequence does not insert another storable record. -/
theorem exhausted_store_refuses : ∃ calls : List ReceiveStore.Call,
    let store := final (ReceiveStore.step (Sqlite.inOrder fun _ => true)) .empty calls
    let record := quietRecord secondWindow ⟨2, two_nonzero⟩
    record.Storable ∧
      (∀ window ∈ store.windows,
        window.receiveWindowId ≠ record.context.receiveWindowId.text ∧ window.context ≠ record.context.key.columns) ∧
      ∀ sequence, (ReceiveStore.step (Sqlite.inOrder fun _ => true) store (.recordReceive record)).1 ≠
        .received (.ok (.inserted sequence)) := by
  obtain ⟨calls, entry, hrecord, hlast, hone⟩ := exists_exhausted (Sqlite.inOrder fun _ => true)
    (quietRecord_storable firstWindow ⟨1, one_nonzero⟩ (by decide))
  refine ⟨calls, ?_⟩
  intro store record
  refine ⟨quietRecord_storable _ _ (by decide), fun window hmem => ?_, fun sequence hinserted => ?_⟩
  · rw [hone.windows] at hmem
    obtain rfl := List.mem_singleton.mp hmem
    rw [entry.window_id, entry.window_context, hrecord]
    refine ⟨fun hid => absurd hid (by decide), fun hcontext => ?_⟩
    have hgeneration := congrArg ContextKey.processGeneration (ContextKey.columns_inj.mp hcontext)
    exact absurd (congrArg ProcessGeneration.value hgeneration) (by decide)
  · have hlaw : CallLaw (Sqlite.inOrder fun _ => true) store (.recordReceive record)
        (ReceiveStore.step (Sqlite.inOrder fun _ => true) store (.recordReceive record)).1
        (ReceiveStore.step (Sqlite.inOrder fun _ => true) store (.recordReceive record)).2 := step_law hone _ _
    rw [hinserted] at hlaw
    obtain ⟨-, -, rfl, hroom⟩ := (hlaw.1.inserted sequence).mp rfl
    have hfull : store.lastSequence + 1 = 2 ^ 63 := hlast
    omega

end Slotpilot.Storage
