import Slotpilot.Storage.ReceiveReadback

/-!
# Retries with the decodes in another order

A record is built from its decodes in their deterministic order, so a retry finds the stored record when that order does
not depend on the order of the decoder. It does not exactly when the compared parts tell the decodes of the window apart
(`orderIndependent_iff`); two resolved messages with one text and different classes are not told apart.
-/

set_option autoImplicit false

namespace Slotpilot.Storage

open Lib Domain Audio Protocol

variable {context : ReceiveWindowContext} {diagnostics : ReceiveDiagnosticSummary} {decodes permuted : List Ft8Decode}
  {recordedUtcMillis : Int64}

/-- The only failure of the metadata of a decode. -/
theorem validateDecodeMetadata_cases (metadata : Ft8DecodeMetadata) :
    validateDecodeMetadata metadata = .ok () ∨
      validateDecodeMetadata metadata = .error (.invalidReceiveRecord "decode metadata is outside durable bounds") := by
  unfold validateDecodeMetadata
  split
  · exact .inr rfl
  · exact .inl rfl

/-- The check of a list of decodes does not depend on their order. -/
theorem forM_metadata_perm (hperm : permuted.Perm decodes) :
    (permuted.forM fun decode => validateDecodeMetadata decode.metadata) =
      decodes.forM fun decode => validateDecodeMetadata decode.metadata := by
  induction hperm with
  | nil => rfl
  | cons decode _ ih =>
    show (validateDecodeMetadata decode.metadata >>= fun _ => List.forM _ _) =
      (validateDecodeMetadata decode.metadata >>= fun _ => List.forM _ _)
    rw [ih]
  | swap first second rest =>
    show (validateDecodeMetadata second.metadata >>= fun _ => validateDecodeMetadata first.metadata >>= fun _ =>
        List.forM _ _) =
      (validateDecodeMetadata first.metadata >>= fun _ => validateDecodeMetadata second.metadata >>= fun _ =>
        List.forM _ _)
    rcases validateDecodeMetadata_cases first.metadata with hfirst | hfirst <;>
      rcases validateDecodeMetadata_cases second.metadata with hsecond | hsecond <;> rw [hfirst, hsecond] <;> rfl
  | trans _ _ ih₁ ih₂ => rw [ih₁, ih₂]

variable (context diagnostics recordedUtcMillis) in
theorem validateReceive_perm (hperm : permuted.Perm decodes) :
    validateReceive context diagnostics permuted recordedUtcMillis =
      validateReceive context diagnostics decodes recordedUtcMillis := by
  have hnil : permuted ≠ [] ↔ decodes ≠ [] := not_congr ⟨fun h => List.nil_perm.mp (h ▸ hperm), fun h => List.perm_nil.mp (h ▸ hperm)⟩
  unfold validateReceive
  simp only [hperm.length_eq, forM_metadata_perm hperm, hnil]

/-- A record is its checked parts with the decodes in order. -/
theorem ReceiveRecord.new_cases (context : ReceiveWindowContext) (diagnostics : ReceiveDiagnosticSummary)
    (decodes : List Ft8Decode) (recordedUtcMillis : Int64) :
    (∃ record, ReceiveRecord.new context diagnostics decodes recordedUtcMillis = .ok record ∧
        validateReceive context diagnostics decodes recordedUtcMillis = .ok () ∧ record.context = context ∧
        record.diagnostics = diagnostics ∧ record.decodes = Ft8Decode.sortDeterministically decodes ∧
        record.recordedUtcMillis = recordedUtcMillis) ∨
      ∃ error, ReceiveRecord.new context diagnostics decodes recordedUtcMillis = .error error ∧
        validateReceive context diagnostics decodes recordedUtcMillis = .error error := by
  unfold ReceiveRecord.new
  split
  · rename_i hvalid
    exact .inl ⟨_, rfl, hvalid, rfl, rfl, rfl, rfl⟩
  · rename_i error herror
    exact .inr ⟨error, rfl, herror⟩

theorem receiveRecord_eq {a b : ReceiveRecord} (hcontext : a.context = b.context) (hdiagnostics : a.diagnostics = b.diagnostics)
    (hdecodes : a.decodes = b.decodes) (hrecorded : a.recordedUtcMillis = b.recordedUtcMillis) : a = b := by
  cases a
  cases b
  cases hcontext
  cases hdiagnostics
  cases hdecodes
  cases hrecorded
  rfl

/-- Decodes that are sorted alike give one record. -/
theorem ReceiveRecord.new_perm (hperm : permuted.Perm decodes)
    (hsorted : Ft8Decode.sortDeterministically permuted = Ft8Decode.sortDeterministically decodes) :
    ReceiveRecord.new context diagnostics permuted recordedUtcMillis =
      ReceiveRecord.new context diagnostics decodes recordedUtcMillis := by
  have hvalid := validateReceive_perm context diagnostics recordedUtcMillis hperm
  rcases ReceiveRecord.new_cases context diagnostics permuted recordedUtcMillis with
    ⟨a, ha, hvalidA, hcontextA, hdiagnosticsA, hdecodesA, hrecordedA⟩ | ⟨errorA, ha, hvalidA⟩ <;>
    rcases ReceiveRecord.new_cases context diagnostics decodes recordedUtcMillis with
      ⟨b, hb, hvalidB, hcontextB, hdiagnosticsB, hdecodesB, hrecordedB⟩ | ⟨errorB, hb, hvalidB⟩
  · rw [ha, hb, receiveRecord_eq (hcontextA.trans hcontextB.symm) (hdiagnosticsA.trans hdiagnosticsB.symm)
      (hdecodesA.trans (hsorted.trans hdecodesB.symm)) (hrecordedA.trans hrecordedB.symm)]
  · rw [hvalidA, hvalidB] at hvalid
    cases hvalid
  · rw [hvalidA, hvalidB] at hvalid
    cases hvalid
  · rw [hvalidA, hvalidB] at hvalid
    rw [ha, hb, Except.error.inj hvalid]

/-- Neither the sort, nor the record, nor the answer to a retry depends on the order of the decodes. -/
structure OrderIndependent (decodes : List Ft8Decode) : Prop where
  sorted : Ft8Decode.SortsAlike decodes
  built : ∀ permuted : List Ft8Decode, permuted.Perm decodes → ∀ context diagnostics recordedUtcMillis,
    ReceiveRecord.new context diagnostics permuted recordedUtcMillis =
      ReceiveRecord.new context diagnostics decodes recordedUtcMillis
  retried : ∀ (sqlite : Sqlite) (calls : List ReceiveStore.Call) (sequence : Nat) (record retry : ReceiveRecord)
    (permuted : List Ft8Decode), permuted.Perm decodes → ∀ context diagnostics recordedUtcMillis,
    ReceiveRecord.new context diagnostics decodes recordedUtcMillis = .ok record →
    ReceiveRecord.new context diagnostics permuted recordedUtcMillis = .ok retry →
    (final (ReceiveStore.step sqlite) .empty calls).Stores ⟨sequence, record⟩ →
    (ReceiveStore.step sqlite (final (ReceiveStore.step sqlite) .empty calls) (.recordReceive retry)).1 =
      .received (.ok (.existing sequence))

/-- **The order of the decoder does not matter** exactly when the compared parts tell the decodes apart. -/
theorem orderIndependent_iff : OrderIndependent decodes ↔ Ft8Decode.KeysDistinguish decodes := by
  refine ⟨fun h => Ft8Decode.sortsAlike_iff.mp h.sorted, fun hkeys => ?_⟩
  have halike : Ft8Decode.SortsAlike decodes := Ft8Decode.sortsAlike_iff.mpr hkeys
  refine ⟨halike, fun permuted hperm _ _ _ => ReceiveRecord.new_perm hperm (halike permuted hperm), ?_⟩
  intro sqlite calls sequence record retry permuted hperm context diagnostics recordedUtcMillis hrecord hretry hstores
  rw [ReceiveRecord.new_perm hperm (halike permuted hperm), hrecord] at hretry
  cases hretry
  obtain ⟨log, hrun⟩ := final_holds sqlite calls
  obtain ⟨answered, hanswered, hlaw⟩ := recordReceive_law hrun.holds sqlite record
  rw [hanswered, (hlaw.existing sequence).mpr hstores]

/-! ## Two messages with one text -/

/-- A resolved message of two stations. -/
def rr73Message (messageClass : Ft8MessageClass) (h : messageClass.requiresRecipient = true) : Ft8Decode where
  metadata := ⟨0, 1000, 0⟩
  message := .resolved
    { canonicalText := "W1AW K1ABC RR73"
      sender := ⟨"K1ABC", "K1ABC", by decide⟩
      recipient := some ⟨"W1AW", "W1AW", by decide⟩
      messageClass
      bounded := by decide
      addressed := h }

/-- The grid RR73 and the ending RR73 of one time, frequency and signal have one key. -/
theorem rr73_sameKey : Ft8Decode.deterministicCmp (rr73Message .directedGrid rfl) (rr73Message .endingRr73 rfl) = .eq := by
  simp [Ft8Decode.deterministicCmp, rr73Message, ClassifiedFt8Message.canonicalText, ClassifiedFt8Message.kind,
    Std.ReflCmp.compare_self]

/-- Two decodes with one key stay in the order of the decoder. -/
theorem sort_sameKey {first second : Ft8Decode} (h : Ft8Decode.deterministicCmp first second = .eq) :
    Ft8Decode.sortDeterministically [first, second] = [first, second] := by
  refine List.mergeSort_of_pairwise ?_
  rw [List.pairwise_pair, h]
  rfl

/-- A retry with the two decodes in the other order is a collision. -/
theorem rr73_retry_collides : ∃ record retry : ReceiveRecord,
    ReceiveRecord.new (sampleContext firstWindow ⟨1, one_nonzero⟩) sampleDiagnostics
      [rr73Message .directedGrid rfl, rr73Message .endingRr73 rfl] 15000 = .ok record ∧
    ReceiveRecord.new (sampleContext firstWindow ⟨1, one_nonzero⟩) sampleDiagnostics
      [rr73Message .endingRr73 rfl, rr73Message .directedGrid rfl] 15000 = .ok retry ∧
    (ReceiveStore.step (Sqlite.inOrder fun _ => true)
      (final (ReceiveStore.step (Sqlite.inOrder fun _ => true)) .empty [.recordReceive record])
      (.recordReceive retry)).1 = .received (.error .identityCollision) := by
  have hkey := rr73_sameKey
  have hswapped := Std.OrientedCmp.eq_symm hkey
  rcases ReceiveRecord.new_cases (sampleContext firstWindow ⟨1, one_nonzero⟩) sampleDiagnostics
    [rr73Message .directedGrid rfl, rr73Message .endingRr73 rfl] 15000 with
    ⟨record, hrecord, -, hcontext, hdiagnostics, hdecodes, -⟩ | ⟨error, -, herror⟩
  swap
  · cases herror
  rcases ReceiveRecord.new_cases (sampleContext firstWindow ⟨1, one_nonzero⟩) sampleDiagnostics
    [rr73Message .endingRr73 rfl, rr73Message .directedGrid rfl] 15000 with
    ⟨retry, hretry, -, hcontext', -, hdecodes', -⟩ | ⟨error, -, herror⟩
  swap
  · cases herror
  refine ⟨record, retry, hrecord, hretry, ?_⟩
  have hstorable : record.Storable := sampled_storable hcontext hdiagnostics (by decide)
  obtain ⟨-, -, entry, hsequenced, hone⟩ := recordReceive_inserts holds_empty (Sqlite.inOrder fun _ => true) hstorable
    (by simp) (by decide)
  have hstored : entry.record = record := congrArg SequencedReceiveRecord.record hsequenced
  have hdiffers : record ≠ retry := by
    rintro rfl
    rw [sort_sameKey hkey] at hdecodes
    rw [sort_sameKey hswapped, hdecodes] at hdecodes'
    exact absurd hdecodes' (by decide)
  obtain ⟨answered, hanswered, hlaw⟩ := recordReceive_law hone (Sqlite.inOrder fun _ => true) retry
  have hcollision : answered = .error .identityCollision := by
    refine hlaw.collision.mpr ⟨⟨?_, ?_⟩, entry.sequenced, hone.stores (List.mem_singleton.mpr rfl), ?_, .inl ?_⟩
    · rw [hcontext']
      decide
    · rw [hcontext']
      decide
    · show entry.record ≠ retry
      rw [hstored]
      exact hdiffers
    · show entry.record.context.receiveWindowId = retry.context.receiveWindowId
      rw [hstored, hcontext, hcontext']
  rw [← hcollision]
  exact hanswered

end Slotpilot.Storage
