import Slotpilot.Audio.Spectrum
import Slotpilot.Lib.StateResult

/-!
# What a push does

The update of a push is a chain of pure steps: the chunk joins, rolls over or breaks the run of samples (`effect`), its
samples are appended (`joined`), and one row after another is made of the first pending samples (`advance`). `push_ends`
says that a push which returns has made exactly these steps, and how it fails otherwise.
-/

set_option autoImplicit false

namespace Slotpilot.Audio

open Lib

/-! ## Configurations -/

/-- The checks that a policy passed, and the bins that it retains. -/
structure SpectrumLayout.Accepted (fftSize overlapSamples minFrequencyHz maxFrequencyHz waterfallRows publicationMillis : Nat)
    (layout : SpectrumLayout) : Prop where
  fft : 256 ≤ fftSize ∧ fftSize ≤ 4096
  overlap : overlapSamples < fftSize
  passband : minFrequencyHz < maxFrequencyHz ∧ maxFrequencyHz ≤ 6000
  rows : 1 ≤ waterfallRows ∧ waterfallRows ≤ 120
  cadence : 50 ≤ publicationMillis ∧ publicationMillis ≤ 2000
  firstBin : layout.firstBin = (minFrequencyHz * fftSize + 11999) / 12000
  lastBin : layout.lastBin = maxFrequencyHz * fftSize / 12000
  bins : layout.firstBin ≤ layout.lastBin
  work : (4096 + (fftSize - overlapSamples - 1)) / (fftSize - overlapSamples) ≤ 64

theorem SpectrumLayout.accepted_of_new
    {fftSize overlapSamples minFrequencyHz maxFrequencyHz waterfallRows publicationMillis : Nat} {layout : SpectrumLayout}
    (h : new fftSize overlapSamples minFrequencyHz maxFrequencyHz waterfallRows publicationMillis = .ok layout) :
    Accepted fftSize overlapSamples minFrequencyHz maxFrequencyHz waterfallRows publicationMillis layout := by
  unfold SpectrumLayout.new at h
  split at h
  · cases h
  split at h
  · cases h
  split at h
  · cases h
  split at h
  · cases h
  split at h
  · cases h
  dsimp only at h
  split at h
  · cases h
  split at h
  · cases h
  split at h
  · cases h
  split at h
  · cases h
  rename_i hfft hoverlap hpassband hrows hcadence hbins hcount hwork hbytes
  cases h
  simp only [minSpectrumFftSize, maxSpectrumFftSize, maxWaterfallRows, minPublicationMillis, maxPublicationMillis,
    maxSpectrumChunkSamples, maxSpectrumRowsPerPush, ft8ReceiveSampleRateHz] at *
  exact
    { fft := by omega, overlap := by omega, passband := by omega, rows := by omega, cadence := by omega,
      firstBin := rfl, lastBin := rfl, bins := Nat.le_of_not_lt hbins, work := Nat.le_of_not_gt hwork }

/-- What the checks of a policy give. -/
structure SpectrumConfig.Sound (config : SpectrumConfig) : Prop where
  fft : 256 ≤ config.fftSize ∧ config.fftSize ≤ 4096
  overlap : config.overlapSamples < config.fftSize
  bins : config.layout.firstBin ≤ config.layout.lastBin ∧ config.layout.lastBin ≤ config.fftSize / 2
  rows : 1 ≤ config.waterfallRows ∧ config.waterfallRows ≤ 120
  cadence : 50 ≤ config.publicationMillis ∧ config.publicationMillis ≤ 2000
  work : (4096 + (config.hopSamples - 1)) / config.hopSamples ≤ 64

theorem SpectrumConfig.sound (config : SpectrumConfig) : config.Sound := by
  obtain ⟨minFrequencyHz, maxFrequencyHz, hchecked⟩ := config.checked
  have haccepted := SpectrumLayout.accepted_of_new hchecked
  have hlast : maxFrequencyHz * config.fftSize / 12000 ≤ config.fftSize / 2 := by
    have hmul : maxFrequencyHz * config.fftSize ≤ 6000 * config.fftSize :=
      Nat.mul_le_mul_right _ haccepted.passband.2
    omega
  exact
    { fft := haccepted.fft, overlap := haccepted.overlap, bins := ⟨haccepted.bins, haccepted.lastBin ▸ hlast⟩,
      rows := haccepted.rows, cadence := haccepted.cadence, work := haccepted.work }

namespace SpectrumConfig

variable (config : SpectrumConfig)

theorem hop_bounds : 64 ≤ config.hopSamples ∧ config.hopSamples ≤ config.fftSize := by
  have hsound := config.sound
  have hpos : 0 < config.hopSamples := Nat.sub_pos_of_lt hsound.overlap
  have hwork : 4096 + (config.hopSamples - 1) < 65 * config.hopSamples :=
    (Nat.div_lt_iff_lt_mul hpos).mp (Nat.lt_succ_of_le hsound.work)
  exact ⟨by omega, Nat.sub_le _ _⟩

/-- Rows that some pending samples have enough samples for. -/
def rowsIn (pending : Nat) : Nat :=
  if pending < config.fftSize then 0 else (pending - config.fftSize) / config.hopSamples + 1

variable {config} {pending : Nat}

theorem rowsIn_short (h : pending < config.fftSize) : config.rowsIn pending = 0 := if_pos h

/-- One row takes one hop off. -/
theorem rowsIn_hop (h : config.fftSize ≤ pending) :
    config.rowsIn pending = config.rowsIn (pending - config.hopSamples) + 1 := by
  obtain ⟨hpos, hle⟩ := config.hop_bounds
  unfold rowsIn
  rw [if_neg (Nat.not_lt.mpr h)]
  by_cases hnext : pending - config.hopSamples < config.fftSize
  · rw [if_pos hnext, Nat.div_eq_of_lt (by omega)]
  · have hsplit : pending - config.fftSize = pending - config.hopSamples - config.fftSize + config.hopSamples := by omega
    rw [if_neg hnext, hsplit, Nat.add_div_right _ (by omega)]

/-- After the rows fewer samples than one FFT are left. -/
theorem rowsIn_left (config : SpectrumConfig) (pending : Nat) :
    pending - config.rowsIn pending * config.hopSamples < config.fftSize := by
  obtain ⟨hpos, hle⟩ := config.hop_bounds
  unfold rowsIn
  split
  · omega
  · have hdiv : pending - config.fftSize <
        (pending - config.fftSize) / config.hopSamples * config.hopSamples + config.hopSamples :=
      Nat.lt_div_mul_add (by omega)
    rw [Nat.add_mul, Nat.one_mul]
    omega

/-- The samples of a row are there. -/
theorem rowsIn_inside {i : Nat} (h : i < config.rowsIn pending) : i * config.hopSamples + config.fftSize ≤ pending := by
  obtain ⟨hpos, -⟩ := config.hop_bounds
  unfold rowsIn at h
  split at h
  · omega
  · have hmul : i * config.hopSamples ≤ pending - config.fftSize := by
      rw [← Nat.le_div_iff_mul_le (by omega)]
      omega
    omega

/-- The hops of the rows are inside the samples. -/
theorem rowsIn_mul_le (config : SpectrumConfig) (pending : Nat) :
    config.rowsIn pending * config.hopSamples ≤ pending := by
  obtain ⟨-, hle⟩ := config.hop_bounds
  cases hrows : config.rowsIn pending with
  | zero => omega
  | succ n =>
    have hinside := rowsIn_inside (show n < config.rowsIn pending by omega)
    rw [Nat.succ_mul]
    omega

/-- The rows that are left after some of them. -/
theorem rowsIn_sub {made : Nat} (h : made ≤ config.rowsIn pending) :
    config.rowsIn (pending - made * config.hopSamples) = config.rowsIn pending - made := by
  induction made generalizing pending with
  | zero => simp
  | succ made ih =>
    by_cases hshort : pending < config.fftSize
    · rw [rowsIn_short hshort] at h
      omega
    · have hhop := rowsIn_hop (Nat.le_of_not_lt hshort)
      have hrest := ih (show made ≤ config.rowsIn (pending - config.hopSamples) by omega)
      rw [Nat.succ_mul, Nat.add_comm, ← Nat.sub_sub, hrest]
      omega

theorem rowsIn_mono (config : SpectrumConfig) {more : Nat} (h : pending ≤ more) :
    config.rowsIn pending ≤ config.rowsIn more := by
  unfold rowsIn
  split
  · exact Nat.zero_le _
  · rw [if_neg (by omega)]
    exact Nat.add_le_add_right (Nat.div_le_div_right (by omega)) 1

/-- A chunk onto fewer samples than one FFT stays within the work bound. -/
theorem rowsIn_le (h : pending < config.fftSize + 4096) : config.rowsIn pending ≤ 64 := by
  obtain ⟨hpos, hle⟩ := config.hop_bounds
  unfold rowsIn
  split
  · omega
  · have hdiv : (pending - config.fftSize) / config.hopSamples < 64 := by
      rw [Nat.div_lt_iff_lt_mul (by omega)]
      omega
    omega

end SpectrumConfig

/-! ## Steps -/

/-- How a chunk stands to the run of samples before it. -/
inductive ChunkEffect
  | joins
  | rolls
  | breaks (reason : SpectrumDiscontinuity)
  deriving DecidableEq

/-- Microseconds of the first sample of a row. -/
def rowMicros (slot : Ft8ReceiveSlot) (sampleOffset : Nat) : Int :=
  slot.startUtcUnixMillis.toInt * 1000 + (sampleOffset * 1000000 / ft8ReceiveSampleRateHz : Nat)

/-- The bins that a plan gives for some samples. -/
def binsOf (config : SpectrumConfig) (fft : FftPlan) (samples : List Int16) : List SpectrumBin :=
  (List.range' config.layout.firstBin config.binCount).map fun index =>
    { index, frequency := (index * ft8ReceiveSampleRateHz * 1000 + config.fftSize / 2) / config.fftSize,
      magnitude := fft.magnitude samples index }

/-- The chunk lies inside its slot, as its constructor checks. -/
def CanonicalSpectrumChunk.Legal (chunk : CanonicalSpectrumChunk) : Prop :=
  chunk.startSampleOffset + chunk.samples.length ≤ ft8ReceiveWindowSamples

instance (chunk : CanonicalSpectrumChunk) : Decidable chunk.Legal := inferInstanceAs (Decidable (_ ≤ _))

theorem CanonicalSpectrumChunk.legal_of_new {processGeneration : ProcessGeneration} {streamGeneration : StreamGeneration}
    {slot : Ft8ReceiveSlot} {startSampleOffset : Nat} {discontinuity : Option SpectrumDiscontinuity}
    {samples : List Int16} {chunk : CanonicalSpectrumChunk}
    (h : new processGeneration streamGeneration slot startSampleOffset discontinuity samples = .ok chunk) :
    chunk.Legal := by
  unfold new at h
  split at h
  · cases h
  split at h
  · cases h
  split at h
  · cases h
  · rename_i hinside
    cases h
    exact Nat.le_of_not_gt hinside

namespace SpectrumModel

variable (self : SpectrumModel) (chunk : CanonicalSpectrumChunk)

/-- What a chunk does to the run of samples. -/
def effect : ChunkEffect :=
  match chunk.discontinuity with
  | some reason => .breaks reason
  | none =>
    match self.cursor with
    | none => .joins
    | some cursor =>
      if cursor.processGeneration ≠ chunk.processGeneration then .breaks .processGenerationChanged
      else if cursor.streamGeneration ≠ chunk.streamGeneration then .breaks .streamGenerationChanged
      else if cursor.slot = chunk.slot ∧ cursor.nextSampleOffset = chunk.startSampleOffset then .joins
      else if cursor.nextSampleOffset = ft8ReceiveWindowSamples ∧ chunk.startSampleOffset = 0 ∧
          chunk.slot.startUtcUnixMillis.toInt = cursor.slot.startUtcUnixMillis.toInt + ft8ReceiveSlotMillis then .rolls
      else .breaks .timelineDiscontinuity

/-- The model that a chunk is appended to. -/
def prepared : SpectrumModel :=
  match self.effect chunk with
  | .joins => self
  | .rolls => { self with pendingSamples := [], pendingStartOffset := 0 }
  | .breaks reason => self.reset reason

/-- The model with the samples of a chunk. -/
def joined : SpectrumModel :=
  { self.prepared chunk with
    pendingStartOffset :=
      if (self.prepared chunk).pendingSamples = [] then chunk.startSampleOffset
      else (self.prepared chunk).pendingStartOffset
    pendingSamples := (self.prepared chunk).pendingSamples ++ chunk.samples }

/-- The row of the first pending samples. -/
def nextRow : SpectrumRow :=
  { sequence := self.nextSequence, processGeneration := chunk.processGeneration,
    streamGeneration := chunk.streamGeneration, slot := chunk.slot, startSampleOffset := self.pendingStartOffset,
    startUtcUnixMicros := Int64.ofInt (rowMicros chunk.slot self.pendingStartOffset),
    discontinuity := self.pendingDiscontinuity,
    bins := binsOf self.config self.fft (self.pendingSamples.take self.config.fftSize) }

/-- The model with one more row. -/
def withRow (row : SpectrumRow) : SpectrumModel :=
  (appendRow { self with nextSequence := self.nextSequence + 1, pendingDiscontinuity := none } row).markPublication
    row.startUtcUnixMicros

/-- The model after the row of the first pending samples. -/
def advance : SpectrumModel :=
  { self.withRow (self.nextRow chunk) with
    pendingSamples := self.pendingSamples.drop self.config.hopSamples
    pendingStartOffset := self.pendingStartOffset + self.config.hopSamples }

/-- The numbers of the next row have representations. -/
structure RowFits (model : SpectrumModel) (chunk : CanonicalSpectrumChunk) : Prop where
  sequence : model.nextSequence.toNat + 1 < 2 ^ 64
  utc : rowMicros chunk.slot model.pendingStartOffset < 2 ^ 63
  offset : model.pendingStartOffset + model.config.hopSamples < 2 ^ 32

/-- Rows that the pending samples are enough for. -/
def rowsDue : Nat := self.config.rowsIn self.pendingSamples.length

/-- The model after all rows that are due. -/
def drained : SpectrumModel := (fun model => model.advance chunk)^[self.rowsDue] self

/-- The model after a push. -/
def pushed : SpectrumModel :=
  { (self.joined chunk).drained chunk with
    cursor := some
      { processGeneration := chunk.processGeneration, streamGeneration := chunk.streamGeneration, slot := chunk.slot,
        nextSampleOffset := chunk.startSampleOffset + chunk.samples.length } }

variable {self chunk}

/-! ## One row -/

theorem appendRow_fields (row : SpectrumRow) :
    (self.appendRow row).config = self.config ∧ (self.appendRow row).fft = self.fft ∧
      (self.appendRow row).pendingSamples = self.pendingSamples ∧
      (self.appendRow row).pendingStartOffset = self.pendingStartOffset ∧
      (self.appendRow row).cursor = self.cursor ∧
      (self.appendRow row).pendingDiscontinuity = self.pendingDiscontinuity ∧
      (self.appendRow row).nextSequence = self.nextSequence := by
  unfold appendRow
  split <;> exact ⟨rfl, rfl, rfl, rfl, rfl, rfl, rfl⟩

theorem markPublication_fields (utc : Int64) :
    (self.markPublication utc).config = self.config ∧ (self.markPublication utc).fft = self.fft ∧
      (self.markPublication utc).pendingSamples = self.pendingSamples ∧
      (self.markPublication utc).pendingStartOffset = self.pendingStartOffset ∧
      (self.markPublication utc).cursor = self.cursor ∧
      (self.markPublication utc).pendingDiscontinuity = self.pendingDiscontinuity ∧
      (self.markPublication utc).nextSequence = self.nextSequence ∧ (self.markPublication utc).rows = self.rows := by
  unfold markPublication
  dsimp only
  split <;> exact ⟨rfl, rfl, rfl, rfl, rfl, rfl, rfl, rfl⟩

/-- The bins have representations. -/
theorem bins_ok (samples : List Int16) : self.bins samples = .ok (binsOf self.config self.fft samples) := by
  obtain ⟨⟨hmin, hmax⟩, -, ⟨hfirst, hlast⟩, -⟩ := self.config.sound
  unfold bins
  rw [mapM_ok, binsOf, List.forall₂_map_right_iff, List.forall₂_same]
  intro index hindex
  have hbin := List.mem_range'_1.mp hindex
  unfold SpectrumConfig.binCount at hbin
  have hle : index ≤ 2048 := by omega
  have hfrequency : (index * ft8ReceiveSampleRateHz * 1000 + self.config.fftSize / 2) / self.config.fftSize < 2 ^ 32 := by
    rw [Nat.div_lt_iff_lt_mul (by omega)]
    unfold ft8ReceiveSampleRateHz
    omega
  have hlt : index < 2 ^ 16 := by omega
  rw [if_pos hlt]
  simp only [exceptBind_ok, binFrequencyMillihertz, okOr_ok, tryU32_eq_some]
  exact ⟨index, rfl, _, ⟨rfl, hfrequency⟩, rfl⟩

theorem rowMicros_nonneg (slot : Ft8ReceiveSlot) (sampleOffset : Nat) : 0 ≤ rowMicros slot sampleOffset := by
  have hslot := slot.nonneg
  unfold rowMicros ft8ReceiveSampleRateHz
  omega

/-- A row is made when its numbers have representations, and only then. -/
theorem produceRow_ends :
    Ends (produceRow chunk.processGeneration chunk.streamGeneration chunk.slot) self
      (fun _ next => self.RowFits chunk ∧ next = self.advance chunk)
      (fun error _ => error = .arithmeticOverflow ∧ ¬self.RowFits chunk) := by
  have hmicros := rowMicros_nonneg chunk.slot self.pendingStartOffset
  unfold produceRow
  rw [ends_bind, ends_get, ends_bind, bins_ok, ends_fromResult]
  refine ⟨fun bins hbins => ?_, fun error herror => nomatch herror⟩
  cases hbins
  rw [ends_bind, ends_orThrow]
  refine ⟨fun nextSequence hsequence => ?_, fun hnone => ⟨rfl, fun hfits => ?_⟩⟩
  · rw [tryU64_eq_some] at hsequence
    have hlt := nextSequence.toNat_lt
    obtain rfl : nextSequence = self.nextSequence + 1 := by
      rw [← UInt64.toNat_inj, UInt64.toNat_add, UInt64.toNat_one]
      omega
    rw [ends_bind, ends_modify, ends_bind, ends_fromResult]
    refine ⟨fun utc hutc => ?_, fun error herror => ?_⟩
    · have hutc : utc.toInt = rowMicros chunk.slot self.pendingStartOffset := by
        rwa [rowStartUtcMicros, okOr_ok, tryI64_eq_some] at hutc
      have hrange := utc.toInt_lt
      obtain rfl : utc = Int64.ofInt (rowMicros chunk.slot self.pendingStartOffset) := by
        rw [← Int64.toInt_inj, Int64.toInt_ofInt_of_le (by omega) (by omega), hutc]
      rw [ends_bind, ends_modify, ends_bind, ends_modify, ends_bind, ends_orThrow]
      refine ⟨fun offset hoffset => ?_, fun hnone => ⟨rfl, fun hfits => ?_⟩⟩
      · rw [tryU32_eq_some] at hoffset
        obtain ⟨hoffset, hsmall⟩ := hoffset
        obtain rfl : offset = self.pendingStartOffset + self.config.hopSamples := by exact_mod_cast hoffset
        rw [ends_modify]
        refine ⟨⟨by omega, by omega, hsmall⟩, ?_⟩
        simp [advance, withRow, nextRow, appendRow_fields, markPublication_fields]
      · have hsome : tryU32 ((self.pendingStartOffset : Int) + self.config.hopSamples) =
            some (self.pendingStartOffset + self.config.hopSamples) :=
          tryU32_eq_some.mpr ⟨Int.natCast_add _ _, hfits.offset⟩
        rw [hsome] at hnone
        cases hnone
    · change okOr _ (tryI64 (rowMicros _ _)) = _ at herror
      cases hfit : tryI64 (rowMicros chunk.slot self.pendingStartOffset) with
      | some utc =>
        rw [hfit] at herror
        cases herror
      | none =>
        rw [hfit] at herror
        cases herror
        refine ⟨rfl, fun hfits => ?_⟩
        have hutc := hfits.utc
        obtain ⟨utc, hsome⟩ := tryI64_isSome (show -2 ^ 63 ≤ rowMicros chunk.slot self.pendingStartOffset by omega)
          (by omega)
        rw [hfit] at hsome
        cases hsome
  · have hsequence := hfits.sequence
    obtain ⟨u, hu⟩ := tryU64_isSome (show 0 ≤ (self.nextSequence.toNat : Int) + 1 by omega) (by omega)
    rw [hu] at hnone
    cases hnone

@[simp] theorem advance_pendingSamples :
    (self.advance chunk).pendingSamples = self.pendingSamples.drop self.config.hopSamples := rfl

@[simp] theorem advance_pendingStartOffset :
    (self.advance chunk).pendingStartOffset = self.pendingStartOffset + self.config.hopSamples := rfl

@[simp] theorem advance_config : (self.advance chunk).config = self.config := by
  simp [advance, withRow, appendRow_fields, markPublication_fields]

@[simp] theorem advance_fft : (self.advance chunk).fft = self.fft := by
  simp [advance, withRow, appendRow_fields, markPublication_fields]

@[simp] theorem advance_cursor : (self.advance chunk).cursor = self.cursor := by
  simp [advance, withRow, appendRow_fields, markPublication_fields]

@[simp] theorem advance_nextSequence : (self.advance chunk).nextSequence = self.nextSequence + 1 := by
  simp [advance, withRow, appendRow_fields, markPublication_fields]

@[simp] theorem advance_pendingDiscontinuity : (self.advance chunk).pendingDiscontinuity = none := by
  simp [advance, withRow, appendRow_fields, markPublication_fields]

/-! ## All rows of a push -/

/-- A row is due or the pending samples are too few. -/
theorem rowsDue_eq_zero (h : self.pendingSamples.length < self.config.fftSize) : self.rowsDue = 0 :=
  SpectrumConfig.rowsIn_short h

variable (chunk) in
theorem rowsDue_advance (h : self.config.fftSize ≤ self.pendingSamples.length) :
    self.rowsDue = (self.advance chunk).rowsDue + 1 := by
  rw [rowsDue, rowsDue, SpectrumConfig.rowsIn_hop h, advance_config, advance_pendingSamples, List.length_drop]

/-- The numbers of all rows that are due have representations. -/
def RowsFit (self : SpectrumModel) (chunk : CanonicalSpectrumChunk) : Prop :=
  ∀ i < self.rowsDue, ((fun model => model.advance chunk)^[i] self).RowFits chunk

theorem rowsFit_advance (h : self.config.fftSize ≤ self.pendingSamples.length) :
    self.RowsFit chunk ↔ self.RowFits chunk ∧ (self.advance chunk).RowsFit chunk := by
  unfold RowsFit
  rw [rowsDue_advance chunk h]
  constructor
  · intro hfits
    exact ⟨hfits 0 (Nat.succ_pos _), fun i hi => hfits (i + 1) (Nat.succ_lt_succ hi)⟩
  · intro hfits i hi
    cases i with
    | zero => exact hfits.1
    | succ i => exact hfits.2 i (Nat.lt_of_succ_lt_succ hi)

theorem drained_advance (h : self.config.fftSize ≤ self.pendingSamples.length) :
    self.drained chunk = (self.advance chunk).drained chunk := by
  rw [drained, rowsDue_advance chunk h]
  rfl

variable (self chunk) in
/-- The loop makes all rows that are due, or fails at one without a representation or at the work bound. -/
theorem produceRows_ends (budget produced : Nat) :
    Ends (produceRows chunk budget produced) self
      (fun count next => self.RowsFit chunk ∧ self.rowsDue ≤ budget ∧ next = self.drained chunk ∧
        count = produced + self.rowsDue)
      (fun error _ => error = .arithmeticOverflow ∧ ¬self.RowsFit chunk ∨
        error = .cpuBoundExceeded ∧ budget < self.rowsDue) := by
  induction budget generalizing self produced with
  | zero =>
    unfold produceRows
    simp only [ends_bind, ends_get, ends_ite, ends_throw, ends_pure]
    refine ⟨fun hdue => .inr ⟨trivial, ?_⟩, fun hshort => ?_⟩
    · rw [rowsDue_advance chunk hdue]
      exact Nat.succ_pos _
    · have hzero := rowsDue_eq_zero (Nat.lt_of_not_ge hshort)
      refine ⟨fun i hi => by omega, by omega, by rw [drained, hzero]; rfl, by omega⟩
  | succ budget ih =>
    unfold produceRows
    simp only [ends_bind, ends_get, ends_ite, ends_pure]
    refine ⟨fun hdue => ?_, fun hshort => ?_⟩
    · refine produceRow_ends.imp ?_ ?_
      · intro _ next hrow
        obtain ⟨hfits, rfl⟩ := hrow
        refine (ih (self.advance chunk) (produced + 1)).imp ?_ ?_
        · intro count next hrows
          obtain ⟨hall, hle, hnext, hcount⟩ := hrows
          have hdues := rowsDue_advance chunk hdue
          exact ⟨(rowsFit_advance hdue).mpr ⟨hfits, hall⟩, by omega, hnext.trans (drained_advance hdue).symm, by omega⟩
        · intro error next herror
          have hdues := rowsDue_advance chunk hdue
          obtain ⟨rfl, hnot⟩ | ⟨rfl, hlt⟩ := herror
          · exact .inl ⟨rfl, fun hall => hnot ((rowsFit_advance hdue).mp hall).2⟩
          · exact .inr ⟨rfl, by omega⟩
      · intro error next herror
        obtain ⟨rfl, hnot⟩ := herror
        exact .inl ⟨rfl, fun hall => hnot ((rowsFit_advance hdue).mp hall).1⟩
    · have hzero := rowsDue_eq_zero (Nat.lt_of_not_ge hshort)
      refine ⟨fun i hi => by omega, by omega, by rw [drained, hzero]; rfl, by omega⟩

/-! ## A push -/

/-- The chunk does not continue a run whose slot has no next one. -/
def Refused (self : SpectrumModel) (chunk : CanonicalSpectrumChunk) : Prop :=
  chunk.discontinuity = none ∧
    ∃ cursor, self.cursor = some cursor ∧ cursor.processGeneration = chunk.processGeneration ∧
      cursor.streamGeneration = chunk.streamGeneration ∧
      ¬(cursor.slot = chunk.slot ∧ cursor.nextSampleOffset = chunk.startSampleOffset) ∧
      2 ^ 63 ≤ cursor.slot.startUtcUnixMillis.toInt + ft8ReceiveSlotMillis

instance (self : SpectrumModel) (chunk : CanonicalSpectrumChunk) : Decidable (self.Refused chunk) :=
  decidable_of_iff (chunk.discontinuity = none ∧ ∃ cursor ∈ self.cursor,
    cursor.processGeneration = chunk.processGeneration ∧ cursor.streamGeneration = chunk.streamGeneration ∧
      ¬(cursor.slot = chunk.slot ∧ cursor.nextSampleOffset = chunk.startSampleOffset) ∧
      2 ^ 63 ≤ cursor.slot.startUtcUnixMillis.toInt + ft8ReceiveSlotMillis) Iff.rfl

/-- A chunk prepares the model as it stands to the run, or is refused and changes nothing. -/
theorem prepareChunk_ends :
    Ends (prepareChunk chunk) self (fun _ next => ¬self.Refused chunk ∧ next = self.prepared chunk)
      (fun error next => self.Refused chunk ∧ error = .arithmeticOverflow ∧ next = self) := by
  unfold prepareChunk Refused prepared effect
  cases hmark : chunk.discontinuity with
  | some reason =>
    simp [ends_bind, reset]
  | none =>
    rw [ends_bind, ends_get]
    cases hcursor : self.cursor with
    | none => simp
    | some cursor =>
      simp only [true_and, Option.some.injEq, exists_eq_left']
      by_cases hprocess : cursor.processGeneration = chunk.processGeneration
      · by_cases hstream : cursor.streamGeneration = chunk.streamGeneration
        · by_cases hjoins : cursor.slot = chunk.slot ∧ cursor.nextSampleOffset = chunk.startSampleOffset
          · simp [hprocess, hstream, hjoins]
          · rw [if_neg (not_not.mpr hprocess), if_neg (not_not.mpr hstream), if_neg hjoins,
              if_neg (not_not.mpr hprocess), if_neg (not_not.mpr hstream), if_neg hjoins, ends_bind, ends_orThrow]
            refine ⟨fun next hnext => ?_, fun hnone => ?_⟩
            · rw [tryI64_eq_some] at hnext
              have hlt := next.toInt_lt
              have hslot : chunk.slot.startUtcUnixMillis = next ↔
                  chunk.slot.startUtcUnixMillis.toInt = cursor.slot.startUtcUnixMillis.toInt + ft8ReceiveSlotMillis := by
                rw [← Int64.toInt_inj, hnext]
              have hinside : ¬2 ^ 63 ≤ cursor.slot.startUtcUnixMillis.toInt + ft8ReceiveSlotMillis := by omega
              simp only [hprocess, hstream, hjoins, hinside, hslot, and_false, not_false_eq_true, true_and]
              split <;> simp [hcursor]
            · have hrefused : 2 ^ 63 ≤ cursor.slot.startUtcUnixMillis.toInt + ft8ReceiveSlotMillis := by
                by_contra hinside
                have hslot := cursor.slot.nonneg
                obtain ⟨next, hsome⟩ := tryI64_isSome
                  (show -2 ^ 63 ≤ cursor.slot.startUtcUnixMillis.toInt + (ft8ReceiveSlotMillis : Int) by omega) (by omega)
                rw [hsome] at hnone
                cases hnone
              exact ⟨⟨hprocess, hstream, hjoins, hrefused⟩, rfl, rfl⟩
        · simp [hprocess, hstream]
      · simp [hprocess]

@[simp] theorem prepared_config : (self.prepared chunk).config = self.config := by
  unfold prepared
  split <;> rfl

theorem withRow_rows (row : SpectrumRow) :
    (self.withRow row).rows =
      if self.rows.length = self.config.waterfallRows then self.rows.tail ++ [row] else self.rows ++ [row] := by
  unfold withRow
  simp only [markPublication_fields]
  unfold appendRow
  dsimp only
  split <;> rfl

/-- The waterfall is within its capacity. -/
def Bounded (self : SpectrumModel) : Prop := self.rows.length ≤ self.config.waterfallRows

theorem bounded_prepared (h : self.Bounded) : (self.prepared chunk).Bounded := by
  unfold prepared
  split
  · exact h
  · exact h
  · exact Nat.zero_le _

theorem bounded_advance (h : self.Bounded) : (self.advance chunk).Bounded := by
  have hrows := self.config.sound.rows
  unfold Bounded at *
  rw [advance_config]
  show (self.withRow (self.nextRow chunk)).rows.length ≤ _
  rw [withRow_rows]
  split
  · rw [List.length_append, List.length_tail, List.length_singleton]
    omega
  · rw [List.length_append, List.length_singleton]
    omega

theorem bounded_iterate (h : self.Bounded) (n : Nat) :
    ((fun model => model.advance chunk)^[n] self).Bounded := by
  induction n generalizing self with
  | zero => exact h
  | succ n ih => exact ih (bounded_advance h)

theorem bounded_pushed (h : self.Bounded) : (self.pushed chunk).Bounded := by
  have hjoined : (self.joined chunk).Bounded := bounded_prepared h
  exact bounded_iterate hjoined _

/-- A push makes its rows, or fails without changing anything, at a row without a representation, or at the work
bound. -/
theorem push_ends (hlegal : chunk.Legal) (hbounded : self.Bounded) :
    Ends (push chunk) self
      (fun result next => ¬self.Refused chunk ∧ (self.joined chunk).RowsFit chunk ∧
        (self.joined chunk).rowsDue ≤ maxSpectrumRowsPerPush ∧ next = self.pushed chunk ∧
        result.producedRows = (self.joined chunk).rowsDue)
      (fun error next => self.Refused chunk ∧ error = .arithmeticOverflow ∧ next = self ∨
        ¬self.Refused chunk ∧ (error = .arithmeticOverflow ∧ ¬(self.joined chunk).RowsFit chunk ∨
          error = .cpuBoundExceeded ∧ maxSpectrumRowsPerPush < (self.joined chunk).rowsDue)) := by
  have hrows := self.config.sound.rows
  unfold push
  rw [ends_bind]
  refine prepareChunk_ends.imp ?_ ?_
  · intro _ next hprepared
    obtain ⟨hopen, rfl⟩ := hprepared
    rw [ends_bind, ends_modify, ends_bind]
    refine (produceRows_ends (self.joined chunk) chunk maxSpectrumRowsPerPush 0).imp ?_ ?_
    · intro count next hdrained
      obtain ⟨hfits, hle, rfl, rfl⟩ := hdrained
      have hend : tryU32 ((chunk.startSampleOffset + chunk.samples.length : Nat) : Int) =
          some (chunk.startSampleOffset + chunk.samples.length) := by
        unfold CanonicalSpectrumChunk.Legal ft8ReceiveWindowSamples at hlegal
        exact tryU32_eq_some.mpr ⟨rfl, by omega⟩
      have hfew : ((self.joined chunk).drained chunk).rows.length < 2 ^ 16 := by
        have hle : ((self.joined chunk).drained chunk).rows.length ≤ (self.pushed chunk).config.waterfallRows :=
          bounded_pushed hbounded
        have hcapacity := (self.pushed chunk).config.sound.rows
        omega
      rw [ends_bind, ends_orThrow, hend]
      refine ⟨fun next hnext => ?_, fun hnone => nomatch hnone⟩
      cases hnext
      rw [ends_bind, ends_modify, ends_bind, ends_get]
      simp only [if_pos hfew, ends_bind, ends_pure]
      exact ⟨hopen, hfits, hle, rfl, Nat.zero_add _⟩
    · intro error next herror
      exact .inr ⟨hopen, herror⟩
  · intro error next herror
    exact .inl herror

end SpectrumModel

end Slotpilot.Audio
