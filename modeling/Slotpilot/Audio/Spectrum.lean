import Slotpilot.Audio.Resampler

/-!
# The spectrum and waterfall model

`SpectrumModel.push` joins canonical chunks into a run of samples and produces one row for each hop of the FFT. A chunk
that does not continue the run resets the model and leaves its reason for the next row. The FFT with its window and the
conversion of its output to magnitudes is a plan (`FftPlan`) that the model is constructed with.
-/

set_option autoImplicit false

namespace Slotpilot.Audio

open Lib

def minSpectrumFftSize : Nat := 256
def maxSpectrumFftSize : Nat := 4096
def maxWaterfallRows : Nat := 120
/-- Maximum positive-frequency bins of a row. -/
def maxSpectrumBins : Nat := maxSpectrumFftSize / 2 + 1
/-- Maximum samples of one chunk. -/
def maxSpectrumChunkSamples : Nat := 4096
/-- Maximum rows computed by one push. -/
def maxSpectrumRowsPerPush : Nat := 64
def minPublicationMillis : Nat := 50
def maxPublicationMillis : Nat := 2000
def maxModelBytes : Nat := 2 * 1024 * 1024
def maxFftScratchComplex : Nat := maxSpectrumFftSize * 4

/-- Failure of the spectrum model. -/
inductive SpectrumModelError
  | invalidFftSize
  | invalidOverlap
  | invalidPassband
  | invalidRowCapacity
  | invalidPublicationCadence
  | cpuBoundExceeded
  | memoryBoundExceeded
  | dependencyScratchExceeded
  | emptyChunk
  | chunkTooLarge
  | chunkOutsideSlot
  | arithmeticOverflow
  deriving DecidableEq

/-! ## Configuration -/

/-- What the constructor derives from a policy: the retained bins and the allocation estimate. -/
structure SpectrumLayout where
  firstBin : Nat
  lastBin : Nat
  estimatedModelBytes : Nat
  deriving DecidableEq

/-- The checks of a policy; its sizes are small enough for every product to fit. -/
def SpectrumLayout.new (fftSize overlapSamples minFrequencyHz maxFrequencyHz waterfallRows publicationMillis : Nat) :
    Except SpectrumModelError SpectrumLayout :=
  if ¬(minSpectrumFftSize ≤ fftSize ∧ fftSize ≤ maxSpectrumFftSize) ∨ fftSize ≠ 2 ^ fftSize.log2 then
    .error .invalidFftSize
  else if overlapSamples ≥ fftSize ∨ overlapSamples > fftSize * 3 / 4 then .error .invalidOverlap
  else if minFrequencyHz ≥ maxFrequencyHz ∨ maxFrequencyHz > ft8ReceiveSampleRateHz / 2 then .error .invalidPassband
  else if ¬(1 ≤ waterfallRows ∧ waterfallRows ≤ maxWaterfallRows) then .error .invalidRowCapacity
  else if ¬(minPublicationMillis ≤ publicationMillis ∧ publicationMillis ≤ maxPublicationMillis) then
    .error .invalidPublicationCadence
  else
    let firstBin := (minFrequencyHz * fftSize + (ft8ReceiveSampleRateHz - 1)) / ft8ReceiveSampleRateHz
    let lastBin := maxFrequencyHz * fftSize / ft8ReceiveSampleRateHz
    if lastBin < firstBin then .error .invalidPassband
    else
      let binCount := lastBin - firstBin + 1
      if binCount > maxSpectrumBins then .error .invalidPassband
      else
        let hop := fftSize - overlapSamples
        if (maxSpectrumChunkSamples + (hop - 1)) / hop > maxSpectrumRowsPerPush then .error .cpuBoundExceeded
        else
          let estimatedModelBytes := waterfallRows * (binCount * 16 + 128) + fftSize * 64
          if estimatedModelBytes > maxModelBytes then .error .memoryBoundExceeded
          else .ok { firstBin, lastBin, estimatedModelBytes }

/-- Checked spectrum and waterfall policy. -/
structure SpectrumConfig where
  fftSize : Nat
  overlapSamples : Nat
  layout : SpectrumLayout
  waterfallRows : Nat
  publicationMillis : Nat
  checked : ∃ minFrequencyHz maxFrequencyHz,
    SpectrumLayout.new fftSize overlapSamples minFrequencyHz maxFrequencyHz waterfallRows publicationMillis = .ok layout
  deriving DecidableEq

namespace SpectrumConfig

def new (fftSize overlapSamples minFrequencyHz maxFrequencyHz waterfallRows publicationMillis : Nat) :
    Except SpectrumModelError SpectrumConfig :=
  match h : SpectrumLayout.new fftSize overlapSamples minFrequencyHz maxFrequencyHz waterfallRows publicationMillis with
  | .ok layout =>
    .ok { fftSize, overlapSamples, layout, waterfallRows, publicationMillis,
          checked := ⟨minFrequencyHz, maxFrequencyHz, h⟩ }
  | .error error => .error error

/-- Samples from one row to the next. -/
def hopSamples (self : SpectrumConfig) : Nat := self.fftSize - self.overlapSamples

/-- Retained bins. -/
def binCount (self : SpectrumConfig) : Nat := self.layout.lastBin - self.layout.firstBin + 1

end SpectrumConfig

/-! ## Chunks -/

/-- Why the run of samples was interrupted. -/
inductive SpectrumDiscontinuity
  | processGenerationChanged
  | streamGenerationChanged
  | timelineDiscontinuity
  | clockHealthLost
  deriving DecidableEq

/-- One bounded chunk of canonical samples of a slot. -/
structure CanonicalSpectrumChunk where
  processGeneration : ProcessGeneration
  streamGeneration : StreamGeneration
  slot : Ft8ReceiveSlot
  startSampleOffset : Nat
  discontinuity : Option SpectrumDiscontinuity
  samples : List Int16
  samples_ne : samples ≠ []
  samples_le : samples.length ≤ maxSpectrumChunkSamples

theorem CanonicalSpectrumChunk.eq_iff {a b : CanonicalSpectrumChunk} :
    (a.processGeneration = b.processGeneration ∧ a.streamGeneration = b.streamGeneration ∧ a.slot = b.slot ∧
      a.startSampleOffset = b.startSampleOffset ∧ a.discontinuity = b.discontinuity ∧ a.samples = b.samples) ↔
    a = b := by
  cases a
  cases b
  simp

instance : DecidableEq CanonicalSpectrumChunk := fun _ _ => decidable_of_iff _ CanonicalSpectrumChunk.eq_iff

namespace CanonicalSpectrumChunk

def new (processGeneration : ProcessGeneration) (streamGeneration : StreamGeneration) (slot : Ft8ReceiveSlot)
    (startSampleOffset : Nat) (discontinuity : Option SpectrumDiscontinuity) (samples : List Int16) :
    Except SpectrumModelError CanonicalSpectrumChunk :=
  if hne : samples = [] then .error .emptyChunk
  else if hle : samples.length > maxSpectrumChunkSamples then .error .chunkTooLarge
  else if startSampleOffset + samples.length > ft8ReceiveWindowSamples then .error .chunkOutsideSlot
  else .ok
    { processGeneration, streamGeneration, slot, startSampleOffset, discontinuity, samples,
      samples_ne := hne, samples_le := Nat.le_of_not_gt hle }

/-- A range of a window's samples. -/
def fromWindow (window : Ft8ReceiveWindow) (startSampleOffset sampleCount : Nat)
    (discontinuity : Option SpectrumDiscontinuity) : Except SpectrumModelError CanonicalSpectrumChunk :=
  if startSampleOffset + sampleCount > window.samples.length then .error .chunkOutsideSlot
  else
    new window.processGeneration window.streamGeneration window.slot startSampleOffset discontinuity
      ((window.samples.drop startSampleOffset).take sampleCount)

end CanonicalSpectrumChunk

/-! ## The model -/

/-- One bin of a row: its index, its centre frequency in millihertz and its magnitude in millidecibels. -/
structure SpectrumBin where
  index : Nat
  frequency : Nat
  magnitude : Int
  deriving DecidableEq

/-- One waterfall row. -/
structure SpectrumRow where
  sequence : UInt64
  processGeneration : ProcessGeneration
  streamGeneration : StreamGeneration
  slot : Ft8ReceiveSlot
  startSampleOffset : Nat
  startUtcUnixMicros : Int64
  discontinuity : Option SpectrumDiscontinuity
  bins : List SpectrumBin
  deriving DecidableEq

/-- What a push reports. -/
structure SpectrumPushResult where
  producedRows : Nat
  retainedRows : Nat
  publicationPending : Bool
  coalescedPublications : Nat
  evictedRows : Nat
  deriving DecidableEq

/-- The rows a consumer takes. -/
structure WaterfallSnapshot where
  config : SpectrumConfig
  rows : List SpectrumRow
  coalescedPublications : Nat
  evictedRows : Nat
  deriving DecidableEq

/-- Where the last chunk ended. -/
structure ChunkCursor where
  processGeneration : ProcessGeneration
  streamGeneration : StreamGeneration
  slot : Ft8ReceiveSlot
  nextSampleOffset : Nat
  deriving DecidableEq

/-- An FFT plan: its scratch size, and the magnitude of each bin of some samples in millidecibels. -/
structure FftPlan where
  scratchLen : Nat
  magnitude : List Int16 → Nat → Int

/-- Spectrum and waterfall producer. -/
structure SpectrumModel where
  config : SpectrumConfig
  fft : FftPlan
  pendingSamples : List Int16
  pendingStartOffset : Nat
  cursor : Option ChunkCursor
  rows : List SpectrumRow
  pendingDiscontinuity : Option SpectrumDiscontinuity
  nextSequence : UInt64
  lastPublicationUtcMicros : Option Int64
  publicationPending : Bool
  coalescedPublications : Nat
  evictedRows : Nat

/-- Centre frequency of a bin, rounded to millihertz. -/
def binFrequencyMillihertz (index fftSize : Nat) : Except SpectrumModelError Nat :=
  okOr .arithmeticOverflow (tryU32 ((index * ft8ReceiveSampleRateHz * 1000 + fftSize / 2) / fftSize : Nat))

def rowStartUtcMicros (slot : Ft8ReceiveSlot) (sampleOffset : Nat) : Except SpectrumModelError Int64 :=
  okOr .arithmeticOverflow
    (tryI64 (slot.startUtcUnixMillis.toInt * 1000 + (sampleOffset * 1000000 / ft8ReceiveSampleRateHz : Nat)))

namespace SpectrumModel

/-- An update of a model. -/
abbrev Update (α : Type) : Type := EStateM SpectrumModelError SpectrumModel α

def new (plan : Nat → FftPlan) (config : SpectrumConfig) : Except SpectrumModelError SpectrumModel :=
  let fft := plan config.fftSize
  if fft.scratchLen > maxFftScratchComplex then .error .dependencyScratchExceeded
  else .ok
    { config, fft, pendingSamples := [], pendingStartOffset := 0, cursor := none, rows := [],
      pendingDiscontinuity := none, nextSequence := 0, lastPublicationUtcMicros := none, publicationPending := false,
      coalescedPublications := 0, evictedRows := 0 }

/-- Drops the run of samples and the rows, and keeps the reason for the next row. -/
def reset (self : SpectrumModel) (reason : SpectrumDiscontinuity) : SpectrumModel :=
  { self with
    pendingSamples := []
    cursor := none
    rows := []
    pendingDiscontinuity := some reason
    lastPublicationUtcMicros := none
    publicationPending := false }

/-- Makes the run of samples one that a chunk continues. -/
def prepareChunk (chunk : CanonicalSpectrumChunk) : Update Unit := do
  match chunk.discontinuity with
  | some reason => modify (reset · reason)
  | none => pure ()
  let self ← get
  match self.cursor with
  | none => pure ()
  | some cursor =>
    if cursor.processGeneration ≠ chunk.processGeneration then modify (reset · .processGenerationChanged)
    else if cursor.streamGeneration ≠ chunk.streamGeneration then modify (reset · .streamGenerationChanged)
    else if cursor.slot = chunk.slot ∧ cursor.nextSampleOffset = chunk.startSampleOffset then pure ()
    else do
      let nextSlot ← orThrow .arithmeticOverflow (tryI64 (cursor.slot.startUtcUnixMillis.toInt + ft8ReceiveSlotMillis))
      if cursor.nextSampleOffset = ft8ReceiveWindowSamples ∧ chunk.startSampleOffset = 0 ∧
          chunk.slot.startUtcUnixMillis = nextSlot then
        modify fun self => { self with pendingSamples := [], pendingStartOffset := 0 }
      else modify (reset · .timelineDiscontinuity)

/-- The retained bins of the FFT of some samples. -/
def bins (self : SpectrumModel) (samples : List Int16) : Except SpectrumModelError (List SpectrumBin) :=
  (List.range' self.config.layout.firstBin self.config.binCount).mapM fun index => do
    let index16 ← if index < 2 ^ 16 then .ok index else .error .arithmeticOverflow
    let frequency ← binFrequencyMillihertz index self.config.fftSize
    pure { index := index16, frequency, magnitude := self.fft.magnitude samples index }

/-- Makes a publication due when the cadence has passed since the last one. -/
def markPublication (self : SpectrumModel) (rowUtcMicros : Int64) : SpectrumModel :=
  let due := self.lastPublicationUtcMicros.all fun previous =>
    (saturateI64 (rowUtcMicros.toInt - previous.toInt)).toInt ≥ self.config.publicationMillis * 1000
  if due then
    { self with
      coalescedPublications :=
        if self.publicationPending then saturatingAdd self.coalescedPublications 1 else self.coalescedPublications
      publicationPending := true
      lastPublicationUtcMicros := some rowUtcMicros }
  else self

/-- Appends a row; a full waterfall loses its oldest one. -/
def appendRow (self : SpectrumModel) (row : SpectrumRow) : SpectrumModel :=
  if self.rows.length = self.config.waterfallRows then
    { self with rows := self.rows.tail ++ [row], evictedRows := saturatingAdd self.evictedRows 1 }
  else { self with rows := self.rows ++ [row] }

/-- Produces the row of the first pending samples and advances by one hop. -/
def produceRow (processGeneration : ProcessGeneration) (streamGeneration : StreamGeneration) (slot : Ft8ReceiveSlot) :
    Update Unit := do
  let self ← get
  let bins ← fromResult (self.bins (self.pendingSamples.take self.config.fftSize))
  let nextSequence ← orThrow .arithmeticOverflow (tryU64 (self.nextSequence.toNat + 1))
  modify fun self => { self with nextSequence }
  let startUtcUnixMicros ← fromResult (rowStartUtcMicros slot self.pendingStartOffset)
  let row : SpectrumRow :=
    { sequence := self.nextSequence, processGeneration, streamGeneration, slot,
      startSampleOffset := self.pendingStartOffset, startUtcUnixMicros,
      discontinuity := self.pendingDiscontinuity, bins }
  modify fun self => (appendRow { self with pendingDiscontinuity := none } row).markPublication startUtcUnixMicros
  modify fun self => { self with pendingSamples := self.pendingSamples.drop self.config.hopSamples }
  let pendingStartOffset ← orThrow .arithmeticOverflow (tryU32 (self.pendingStartOffset + self.config.hopSamples))
  modify fun self => { self with pendingStartOffset }

/-- Produces rows while enough samples are pending, at most `budget` of them; the result adds to `produced`. -/
def produceRows (chunk : CanonicalSpectrumChunk) : (budget produced : Nat) → Update Nat
  | budget, produced => do
    let self ← get
    if self.pendingSamples.length ≥ self.config.fftSize then
      match budget with
      | 0 => throw .cpuBoundExceeded
      | budget + 1 => do
        produceRow chunk.processGeneration chunk.streamGeneration chunk.slot
        produceRows chunk budget (produced + 1)
    else pure produced

/-- Processes one chunk. -/
def push (chunk : CanonicalSpectrumChunk) : Update SpectrumPushResult := do
  prepareChunk chunk
  modify fun self =>
    { self with
      pendingStartOffset := if self.pendingSamples = [] then chunk.startSampleOffset else self.pendingStartOffset
      pendingSamples := self.pendingSamples ++ chunk.samples }
  let producedRows ← produceRows chunk maxSpectrumRowsPerPush 0
  let nextSampleOffset ← orThrow .arithmeticOverflow (tryU32 (chunk.startSampleOffset + chunk.samples.length : Nat))
  modify fun self =>
    { self with
      cursor := some
        { processGeneration := chunk.processGeneration, streamGeneration := chunk.streamGeneration, slot := chunk.slot,
          nextSampleOffset } }
  let self ← get
  let retainedRows ← if self.rows.length < 2 ^ 16 then pure self.rows.length else throw .arithmeticOverflow
  pure
    { producedRows, retainedRows, publicationPending := self.publicationPending,
      coalescedPublications := self.coalescedPublications, evictedRows := self.evictedRows }

/-- Takes the rows when a publication is due. -/
def takeSnapshot (self : SpectrumModel) : Option WaterfallSnapshot × SpectrumModel :=
  if self.publicationPending then
    (some { config := self.config, rows := self.rows, coalescedPublications := self.coalescedPublications,
            evictedRows := self.evictedRows },
      { self with publicationPending := false })
  else (none, self)

end SpectrumModel

end Slotpilot.Audio
