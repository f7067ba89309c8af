import Slotpilot.Audio.SpectrumWork
import Slotpilot.Daemon.EventFidelity

/-!
# Waterfall frames

A snapshot of the spectrum model is mapped to one frame of the event API. The model keeps one bin more than a frame may
have when its largest FFT covers the whole passband, and this is the only case:

* `wholeRows_step`: every row of a run has the bins of its policy, also after pushes that fail;
* `binCount_le_iff`: the policies whose rows fit a frame;
* `frame_publishable_iff`: the frames of a run are accepted, and published, exactly for these policies.
-/

set_option autoImplicit false

namespace Slotpilot.Audio

open Lib

/-! ## Rows of a run -/

namespace SpectrumModel

/-- Every row has the bins of a policy, which is the model's. -/
structure WholeRows (config : SpectrumConfig) (model : SpectrumModel) : Prop where
  policy : model.config = config
  rows : ∀ row ∈ model.rows, row.bins.length = config.binCount

variable {self : SpectrumModel} {config : SpectrumConfig}

@[simp] theorem length_binsOf (config : SpectrumConfig) (fft : FftPlan) (samples : List Int16) :
    (binsOf config fft samples).length = config.binCount := by
  simp [binsOf]

theorem wholeRows_appendRow {row : SpectrumRow} (h : self.WholeRows config) (hrow : row.bins.length = config.binCount) :
    (self.appendRow row).WholeRows config := by
  constructor
  · exact (appendRow_fields row).1.trans h.policy
  · intro other hother
    have hmember : other ∈ self.rows ∨ other = row := by
      unfold appendRow at hother
      split at hother
      · obtain hold | hnew := List.mem_append.mp hother
        · exact .inl (List.mem_of_mem_tail hold)
        · exact .inr (List.mem_singleton.mp hnew)
      · obtain hold | hnew := List.mem_append.mp hother
        · exact .inl hold
        · exact .inr (List.mem_singleton.mp hnew)
    obtain hold | hnew := hmember
    · exact h.rows other hold
    · rw [hnew, hrow]

theorem wholeRows_markPublication (h : self.WholeRows config) (utc : Int64) :
    (self.markPublication utc).WholeRows config := by
  constructor
  · rw [(markPublication_fields utc).1, h.policy]
  · intro row hrow
    simp only [markPublication_fields] at hrow
    exact h.rows row hrow

theorem wholeRows_reset (h : self.WholeRows config) (reason : SpectrumDiscontinuity) :
    (self.reset reason).WholeRows config :=
  ⟨h.policy, fun _ hrow => nomatch hrow⟩

theorem leads_produceRow (chunk : CanonicalSpectrumChunk) :
    Leads (WholeRows config) (WholeRows config)
      (produceRow chunk.processGeneration chunk.streamGeneration chunk.slot) := by
  intro model hmodel
  unfold produceRow
  rw [ends_bind, ends_get, ends_bind, bins_ok, ends_fromResult]
  refine ⟨fun bins hbins => ?_, fun _ herror => nomatch herror⟩
  cases hbins
  rw [ends_bind, ends_orThrow]
  refine ⟨fun nextSequence _ => ?_, fun _ => hmodel⟩
  rw [ends_bind, ends_modify, ends_bind, ends_fromResult]
  refine ⟨fun utc _ => ?_, fun _ _ => ⟨hmodel.policy, hmodel.rows⟩⟩
  rw [ends_bind, ends_modify]
  -- the rows change here only, and the steps that follow keep them
  have hrow : ({ model.nextRow chunk with startUtcUnixMicros := utc } : SpectrumRow).bins.length = config.binCount := by
    rw [nextRow, length_binsOf, hmodel.policy]
  have hquiet : ({ model with nextSequence, pendingDiscontinuity := none } : SpectrumModel).WholeRows config :=
    ⟨hmodel.policy, hmodel.rows⟩
  have hwhole := wholeRows_markPublication (wholeRows_appendRow hquiet hrow) utc
  rw [ends_bind, ends_modify, ends_bind, ends_orThrow]
  exact ⟨fun _ _ => ⟨hwhole.policy, hwhole.rows⟩, fun _ => ⟨hwhole.policy, hwhole.rows⟩⟩

theorem leads_produceRows (chunk : CanonicalSpectrumChunk) (budget produced : Nat) :
    Leads (WholeRows config) (WholeRows config) (produceRows chunk budget produced) := by
  induction budget generalizing produced with
  | zero =>
    intro model hmodel
    unfold produceRows
    simp only [ends_bind, ends_get, ends_ite, ends_throw, ends_pure]
    exact ⟨fun _ => hmodel, fun _ => hmodel⟩
  | succ budget ih =>
    intro model hmodel
    unfold produceRows
    rw [ends_bind, ends_get, ends_ite]
    refine ⟨fun _ => ?_, fun _ => hmodel⟩
    have hboth : Leads (WholeRows config) (WholeRows config) _ :=
      (leads_produceRow chunk).bind (fun _ h => h) fun _ => ih (produced + 1)
    exact hboth model hmodel

/-- A push keeps the rows whole, whether it returns or fails. -/
theorem leads_push (chunk : CanonicalSpectrumChunk) :
    Leads (WholeRows config) (WholeRows config) (push chunk) := by
  intro model hmodel
  unfold push
  rw [ends_bind]
  refine prepareChunk_ends.imp ?_ ?_
  · intro _ next hprepared
    obtain ⟨-, rfl⟩ := hprepared
    have hwhole : (model.prepared chunk).WholeRows config := by
      unfold prepared
      split
      · exact hmodel
      · exact ⟨hmodel.policy, hmodel.rows⟩
      · exact wholeRows_reset hmodel _
    have hjoined : (model.joined chunk).WholeRows config := ⟨hwhole.policy, hwhole.rows⟩
    rw [ends_bind, ends_modify, ends_bind]
    refine (leads_produceRows chunk maxSpectrumRowsPerPush 0 (model.joined chunk) hjoined).imp ?_ ?_
    · intro count next hnext
      rw [ends_bind, ends_orThrow]
      refine ⟨fun offset _ => ?_, fun _ => hnext⟩
      rw [ends_bind, ends_modify, ends_bind, ends_get]
      refine ends_ite.mpr ⟨fun _ => ?_, fun _ => ?_⟩
      · exact ⟨hnext.policy, hnext.rows⟩
      · exact ⟨hnext.policy, hnext.rows⟩
    · intro _ _ hnext
      exact hnext
  · intro _ next hrefused
    obtain ⟨-, -, rfl⟩ := hrefused
    exact hmodel

theorem wholeRows_step (h : self.WholeRows config) (op : SpectrumOp) : (self.step op).2.WholeRows config := by
  cases op with
  | push chunk => exact ends_final.mp (leads_push chunk self h)
  | reset reason => exact wholeRows_reset h reason
  | takeSnapshot =>
    show self.takeSnapshot.2.WholeRows config
    unfold takeSnapshot
    split
    · exact ⟨h.policy, h.rows⟩
    · exact h

/-- The rows of every snapshot of a run have the bins of the policy. -/
theorem snapshot_rows {plan : Nat → FftPlan} {model : SpectrumModel} (hnew : new plan config = .ok model)
    {ops : List SpectrumOp} {op : SpectrumOp} {snapshot : WaterfallSnapshot}
    (hsnapshot : (op, .snapshot (some snapshot)) ∈ transcript step model ops) :
    ∀ row ∈ snapshot.rows, row.bins.length = config.binCount := by
  have hinitial : model.WholeRows config := by
    obtain rfl := new_ok hnew
    exact ⟨rfl, fun _ hrow => nomatch hrow⟩
  obtain ⟨before, later, -, hanswer⟩ := exists_of_mem_transcript hsnapshot
  have hreached := final_inv_all (I := WholeRows config) (fun s op h => wholeRows_step h op) hinitial before
  generalize final step model before = reached at hanswer hreached
  cases op with
  | push chunk => cases hanswer
  | reset reason => cases hanswer
  | takeSnapshot =>
    have htaken : reached.takeSnapshot.1 = some snapshot := SpectrumAnswer.snapshot.inj hanswer
    unfold takeSnapshot at htaken
    split at htaken
    · cases htaken
      exact hreached.rows
    · cases htaken

end SpectrumModel

/-! ## Policies -/

/-- A policy keeps what its constructor was given. -/
theorem SpectrumConfig.accepted_of_new
    {fftSize overlapSamples minFrequencyHz maxFrequencyHz waterfallRows publicationMillis : Nat} {config : SpectrumConfig}
    (h : new fftSize overlapSamples minFrequencyHz maxFrequencyHz waterfallRows publicationMillis = .ok config) :
    SpectrumLayout.Accepted fftSize overlapSamples minFrequencyHz maxFrequencyHz waterfallRows publicationMillis
      config.layout := by
  unfold SpectrumConfig.new at h
  split at h
  · rename_i layout hlayout
    cases h
    exact SpectrumLayout.accepted_of_new hlayout
  · cases h

/-- The rows of a policy fit a frame unless its FFT is the largest and its passband is whole. -/
theorem binCount_le_iff
    {fftSize overlapSamples minFrequencyHz maxFrequencyHz waterfallRows publicationMillis : Nat} {config : SpectrumConfig}
    (h : SpectrumConfig.new fftSize overlapSamples minFrequencyHz maxFrequencyHz waterfallRows publicationMillis =
      .ok config) :
    config.binCount ≤ 2048 ↔ ¬(fftSize = 4096 ∧ minFrequencyHz = 0 ∧ maxFrequencyHz = 6000) := by
  have haccepted := SpectrumConfig.accepted_of_new h
  have hbins := haccepted.bins
  have hfirst := haccepted.firstBin
  have hlast := haccepted.lastBin
  obtain ⟨-, hfft⟩ := haccepted.fft
  obtain ⟨-, hband⟩ := haccepted.passband
  unfold SpectrumConfig.binCount
  constructor
  · intro hle hwhole
    obtain ⟨rfl, rfl, rfl⟩ := hwhole
    omega
  · intro hpart
    by_contra hmany
    -- the last bin is that of the upper end of the passband, and the first that of the lower end
    have hend : 2048 * 12000 ≤ maxFrequencyHz * fftSize := by omega
    have hlow : minFrequencyHz * fftSize < 1 := by
      have hmul : maxFrequencyHz * fftSize ≤ 6000 * 4096 := Nat.mul_le_mul hband hfft
      omega
    have hwide : maxFrequencyHz = 6000 := by
      have hmul : maxFrequencyHz * fftSize ≤ maxFrequencyHz * 4096 := Nat.mul_le_mul_left _ hfft
      omega
    subst hwide
    have hlarge : fftSize = 4096 := by omega
    subst hlarge
    exact hpart ⟨rfl, by omega, rfl⟩

end Slotpilot.Audio

namespace Slotpilot.Daemon

open Lib Domain Storage Api Audio

/-! ## Frames -/

/-- The frame of the newest row of a snapshot. -/
def mapWaterfallSnapshot (snapshot : WaterfallSnapshot) (frameSequence : UInt64) : Option WaterfallFrame :=
  snapshot.rows.getLast?.map fun row =>
    { streamGeneration := row.streamGeneration.value, utcUnixMillis := row.startUtcUnixMicros / 1000, frameSequence,
      coalesced := decide (snapshot.coalescedPublications > 0),
      bins := row.bins.map fun bin =>
        { frequencyMillihz := UInt64.ofNat bin.frequency, magnitudeMillidbfs := Int32.ofInt bin.magnitude } }

/-- A frame has the bins of a row. -/
theorem mapWaterfallSnapshot_bins {snapshot : WaterfallSnapshot} {frameSequence : UInt64} {frame : WaterfallFrame}
    (h : mapWaterfallSnapshot snapshot frameSequence = some frame) :
    ∃ row ∈ snapshot.rows, frame.bins.length = row.bins.length := by
  unfold mapWaterfallSnapshot at h
  rw [Option.map_eq_some_iff] at h
  obtain ⟨row, hrow, rfl⟩ := h
  exact ⟨row, List.mem_of_getLast? hrow, List.length_map _⟩

theorem validate_waterfallFrame {frame : WaterfallFrame} :
    (EventPayload.waterfallFrame frame).validate = .ok () ↔ frame.bins.length ≤ 2048 := by
  show frame.validate = .ok () ↔ _
  unfold WaterfallFrame.validate maxWaterfallBins
  split
  · rename_i hmany
    exact ⟨fun h => (nomatch h), fun hle => absurd hle (Nat.not_le.mpr hmany)⟩
  · rename_i hfew
    exact ⟨fun _ => Nat.le_of_not_gt hfew, fun _ => rfl⟩

/-- A payload is refused for its bounds exactly when it fails its check. -/
theorem publishEvent_payloadBound {Payload : Type} {codec : EventCodec Payload} {service : EventService}
    {eventId : EventId} {payload : Payload} {occurred : Int} :
    service.publishEvent codec eventId payload occurred = .error .payloadBound ↔ codec.validate payload = false := by
  unfold EventService.publishEvent
  cases codec.validate payload with
  | false => simp only [Bool.false_eq_true, if_false, iff_true]; rfl
  | true =>
    simp only [if_true, Bool.true_eq_false, iff_false]
    cases codec.toJson payload with
    | none => exact fun h => nomatch h
    | some json =>
      intro h
      change (service.store.appendEvent codec.jsonValid eventId service.serviceInstanceId json occurred).mapError
        EventProcessorError.storage >>= _ = _ at h
      cases happend : service.store.appendEvent codec.jsonValid eventId service.serviceInstanceId json occurred with
      | ok appended =>
        rw [happend] at h
        cases h
      | error error =>
        rw [happend] at h
        cases h

/-- **Frames of a run**: whatever was pushed, the frame of every snapshot passes the check of event payloads, and is not
refused for its bounds, exactly when the policy is not the largest FFT over the whole passband. -/
theorem frame_publishable_iff
    {fftSize overlapSamples minFrequencyHz maxFrequencyHz waterfallRows publicationMillis : Nat} {config : SpectrumConfig}
    (hconfig : SpectrumConfig.new fftSize overlapSamples minFrequencyHz maxFrequencyHz waterfallRows publicationMillis =
      .ok config)
    {plan : Nat → FftPlan} {model : SpectrumModel} (hnew : SpectrumModel.new plan config = .ok model)
    {ops : List SpectrumOp} {op : SpectrumOp} {snapshot : WaterfallSnapshot}
    (hsnapshot : (op, .snapshot (some snapshot)) ∈ transcript SpectrumModel.step model ops)
    {frameSequence : UInt64} {frame : WaterfallFrame} (hframe : mapWaterfallSnapshot snapshot frameSequence = some frame) :
    ((EventPayload.waterfallFrame frame).validate = .ok () ↔
        ¬(fftSize = 4096 ∧ minFrequencyHz = 0 ∧ maxFrequencyHz = 6000)) ∧
      ∀ (serde : Serde) (jsonValid : String → Bool) (service : EventService) (eventId : EventId) (occurred : Int),
        service.publishEvent (payloadCodec serde jsonValid) eventId (.waterfallFrame frame) occurred ≠
            .error .payloadBound ↔
          ¬(fftSize = 4096 ∧ minFrequencyHz = 0 ∧ maxFrequencyHz = 6000) := by
  obtain ⟨row, hrow, hlength⟩ := mapWaterfallSnapshot_bins hframe
  have hbins : frame.bins.length = config.binCount := by
    rw [hlength, SpectrumModel.snapshot_rows hnew hsnapshot row hrow]
  have hvalid : (EventPayload.waterfallFrame frame).validate = .ok () ↔
      ¬(fftSize = 4096 ∧ minFrequencyHz = 0 ∧ maxFrequencyHz = 6000) := by
    rw [validate_waterfallFrame, hbins, binCount_le_iff hconfig]
  refine ⟨hvalid, ?_⟩
  intro serde jsonValid service eventId occurred
  rw [ne_eq, publishEvent_payloadBound, ← hvalid]
  show ¬decide ((EventPayload.waterfallFrame frame).validate = .ok ()) = false ↔ _
  rw [decide_eq_false_iff_not, not_not]

/-! ## One row -/

section OneRow

variable {config : SpectrumConfig} {model : SpectrumModel}

/-- The largest FFT makes one row of the largest chunk, and a publication is due. -/
theorem push_once (hnew : SpectrumModel.new flatPlan config = .ok model) (hfft : config.fftSize = 4096) :
    ∃ result next row, SpectrumModel.push (silentChunk firstSlot) model = .ok result next ∧
      next.publicationPending = true ∧ next.rows.getLast? = some row := by
  have hmodel := SpectrumModel.new_ok hnew
  have hjoined : model.joined (silentChunk firstSlot) =
      { model with pendingSamples := (silentChunk firstSlot).samples } := by
    rw [hmodel]
    rfl
  have hdue : (model.joined (silentChunk firstSlot)).rowsDue = 1 := by
    rw [hjoined, SpectrumModel.rowsDue, length_silentChunk, hmodel]
    show config.rowsIn 4096 = 1
    rw [SpectrumConfig.rowsIn, hfft]
    simp
  have hleft : model.NumbersLeft (silentChunk firstSlot) := by
    constructor
    · rw [hdue, hmodel]
      show (0 : UInt64).toNat + 1 < 2 ^ 64
      decide
    · intro i hi
      rw [hdue] at hi
      obtain rfl : i = 0 := by omega
      rw [hjoined, hmodel, Nat.zero_mul]
      show rowMicros firstSlot 0 < 2 ^ 63
      decide
  obtain ⟨result, hpush, -⟩ | ⟨-, hrefused⟩ := SpectrumModel.push_settled (SpectrumModel.settled_new hnew)
    (legal_silentChunk firstSlot) fun _ => hleft
  · have hpushed : ∃ cursor, model.pushed (silentChunk firstSlot) =
        { (model.joined (silentChunk firstSlot)).advance (silentChunk firstSlot) with cursor } := by
      rw [SpectrumModel.pushed, SpectrumModel.drained, hdue]
      exact ⟨_, rfl⟩
    obtain ⟨cursor, hpushed⟩ := hpushed
    have hpending : (model.pushed (silentChunk firstSlot)).publicationPending = true := by
      rw [hpushed, hjoined, hmodel]
      show (SpectrumModel.markPublication _ _).publicationPending = true
      rw [SpectrumModel.markPublication, if_pos]
      unfold SpectrumModel.appendRow
      split <;> rfl
    have hrows : (model.pushed (silentChunk firstSlot)).rows.getLast? =
        some ((model.joined (silentChunk firstSlot)).nextRow (silentChunk firstSlot)) := by
      rw [hpushed]
      show ((model.joined (silentChunk firstSlot)).withRow _).rows.getLast? = _
      rw [SpectrumModel.withRow_rows]
      split <;> exact List.getLast?_concat
    exact ⟨result, _, _, hpush, hpending, hrows⟩
  · obtain ⟨-, cursor, hcursor, -⟩ := hrefused
    rw [hmodel] at hcursor
    cases hcursor

theorem snapshot_once (hnew : SpectrumModel.new flatPlan config = .ok model) (hfft : config.fftSize = 4096) :
    ∃ snapshot frame,
      (.takeSnapshot, .snapshot (some snapshot)) ∈
          transcript SpectrumModel.step model [.push (silentChunk firstSlot), .takeSnapshot] ∧
        mapWaterfallSnapshot snapshot 1 = some frame := by
  obtain ⟨result, next, row, hpush, hpending, hrow⟩ := push_once hnew hfft
  have hframe : ∃ frame, mapWaterfallSnapshot
      { config := next.config, rows := next.rows, coalescedPublications := next.coalescedPublications,
        evictedRows := next.evictedRows } 1 = some frame := by
    rw [mapWaterfallSnapshot, hrow]
    exact ⟨_, rfl⟩
  obtain ⟨frame, hframe⟩ := hframe
  refine ⟨_, frame, ?_, hframe⟩
  simp only [transcript_cons, transcript_nil, SpectrumModel.step, hpush, finalState_ok, SpectrumModel.takeSnapshot,
    hpending, if_true, List.mem_cons, Prod.mk.injEq, true_or, or_true]

end OneRow

/-- The largest FFT over all of the passband but its upper end. -/
def nearlyWideConfig : SpectrumConfig :=
  { fftSize := 4096, overlapSamples := 2048,
    layout := { firstBin := 0, lastBin := 2047, estimatedModelBytes := 295040 },
    waterfallRows := 1, publicationMillis := 250, checked := ⟨0, 5999, by decide⟩ }

/-- The largest FFT over the whole passband. -/
def wideConfig : SpectrumConfig :=
  { fftSize := 4096, overlapSamples := 2048,
    layout := { firstBin := 0, lastBin := 2048, estimatedModelBytes := 295056 },
    waterfallRows := 1, publicationMillis := 250, checked := ⟨0, 6000, by decide⟩ }

theorem frame_publishable_nearly_wide :
    ∃ model ops op snapshot frame,
      SpectrumModel.new flatPlan nearlyWideConfig = .ok model ∧
        (op, .snapshot (some snapshot)) ∈ transcript SpectrumModel.step model ops ∧
        mapWaterfallSnapshot snapshot 1 = some frame ∧ (EventPayload.waterfallFrame frame).validate = .ok () := by
  have hconfig : SpectrumConfig.new 4096 2048 0 5999 1 250 = .ok nearlyWideConfig := by decide
  obtain ⟨model, hnew⟩ : ∃ model, SpectrumModel.new flatPlan nearlyWideConfig = .ok model := ⟨_, rfl⟩
  obtain ⟨snapshot, frame, hsnapshot, hframe⟩ := snapshot_once hnew rfl
  exact ⟨model, _, _, snapshot, frame, hnew, hsnapshot, hframe,
    (frame_publishable_iff hconfig hnew hsnapshot hframe).1.mpr (by decide)⟩

/-- A snapshot of the largest FFT over the whole passband has a frame that is refused. -/
theorem wide_frame_refused :
    SpectrumConfig.new 4096 2048 0 6000 1 250 = .ok wideConfig ∧ (silentChunk firstSlot).Legal ∧
      ∃ model snapshot frame,
        SpectrumModel.new flatPlan wideConfig = .ok model ∧
          (.takeSnapshot, .snapshot (some snapshot)) ∈
            transcript SpectrumModel.step model [.push (silentChunk firstSlot), .takeSnapshot] ∧
          mapWaterfallSnapshot snapshot 1 = some frame ∧
          (EventPayload.waterfallFrame frame).validate ≠ .ok () ∧
          ∀ serde jsonValid (service : EventService) eventId occurred,
            service.publishEvent (payloadCodec serde jsonValid) eventId (.waterfallFrame frame) occurred =
              .error .payloadBound := by
  obtain ⟨model, hnew⟩ : ∃ model, SpectrumModel.new flatPlan wideConfig = .ok model := ⟨_, rfl⟩
  obtain ⟨snapshot, frame, hsnapshot, hframe⟩ := snapshot_once hnew rfl
  obtain ⟨row, hrow, hlength⟩ := mapWaterfallSnapshot_bins hframe
  have hbins : frame.bins.length = 2049 := hlength.trans (SpectrumModel.snapshot_rows hnew hsnapshot row hrow)
  have hrefused : (EventPayload.waterfallFrame frame).validate ≠ .ok () := by
    intro hvalid
    rw [validate_waterfallFrame] at hvalid
    omega
  refine ⟨by decide, legal_silentChunk firstSlot, model, snapshot, frame, hnew, hsnapshot, hframe, hrefused, ?_⟩
  intro serde jsonValid service eventId occurred
  exact publishEvent_payloadBound.mpr (decide_eq_false hrefused)

end Slotpilot.Daemon
