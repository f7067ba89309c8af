import Slotpilot.Audio.SpectrumTrace

/-!
# Rows do not depend on the chunks

A contiguous run of samples inside a slot is pushed in chunks (`Cuts`). The rows that are made are those of the samples
(`runRows`), whatever the chunks are: between two pushes the model is `Loaded` with the samples so far, less the hops of
the rows made from them (`segments`). Every recorded row is of the samples of consecutive chunks of its own slot
(`OfOneSlot`).
-/

set_option autoImplicit false

namespace Slotpilot.Audio

open Lib

/-! ## Runs of samples -/

/-- Where a contiguous run of samples begins, with its mark. -/
structure RunStart where
  processGeneration : ProcessGeneration
  streamGeneration : StreamGeneration
  slot : Ft8ReceiveSlot
  startSampleOffset : Nat
  discontinuity : Option SpectrumDiscontinuity
  deriving DecidableEq

namespace RunStart

/-- The start of the rest of a run. -/
def next (self : RunStart) (count : Nat) : RunStart :=
  { self with startSampleOffset := self.startSampleOffset + count, discontinuity := none }

/-- A chunk with which the run begins. -/
structure Heads (start : RunStart) (chunk : CanonicalSpectrumChunk) : Prop where
  process : chunk.processGeneration = start.processGeneration
  stream : chunk.streamGeneration = start.streamGeneration
  slot : chunk.slot = start.slot
  offset : chunk.startSampleOffset = start.startSampleOffset
  mark : chunk.discontinuity = start.discontinuity

@[simp] theorem next_next (self : RunStart) (a b : Nat) : (self.next a).next b = self.next (a + b) := by
  simp [next, Nat.add_assoc]

end RunStart

/-- Chunks that a run of samples is cut into. -/
inductive Cuts : RunStart → List Int16 → List CanonicalSpectrumChunk → Prop
  | nil (start : RunStart) : Cuts start [] []
  | cons {start : RunStart} {chunk : CanonicalSpectrumChunk} {samples : List Int16}
      {chunks : List CanonicalSpectrumChunk} (heads : start.Heads chunk)
      (rest : Cuts (start.next chunk.samples.length) samples chunks) :
      Cuts start (chunk.samples ++ samples) (chunk :: chunks)

section Rows

variable (config : SpectrumConfig) (fft : FftPlan) (start : RunStart) (mark : Option SpectrumDiscontinuity)
  (sequence : UInt64) (samples : List Int16)

/-- One row of a run of samples: it starts a number of hops into the run, and its bins are of the samples from there. -/
def rowAt (i : Nat) : SpectrumRow :=
  { sequence := sequence + UInt64.ofNat i, processGeneration := start.processGeneration,
    streamGeneration := start.streamGeneration, slot := start.slot,
    startSampleOffset := start.startSampleOffset + i * config.hopSamples,
    startUtcUnixMicros := Int64.ofInt (rowMicros start.slot (start.startSampleOffset + i * config.hopSamples)),
    discontinuity := if i = 0 then mark else none,
    bins := binsOf config fft ((samples.drop (i * config.hopSamples)).take config.fftSize) }

/-- The rows of a run of samples. -/
def runRows : List SpectrumRow :=
  (List.range (config.rowsIn samples.length)).map (rowAt config fft start mark sequence samples)

end Rows

/-- The times and sequence numbers of the rows of a run have representations. -/
structure RunFits (config : SpectrumConfig) (start : RunStart) (sequence : UInt64) (count : Nat) : Prop where
  inside : start.startSampleOffset + count ≤ ft8ReceiveWindowSamples
  sequences : sequence.toNat + config.rowsIn count < 2 ^ 64
  utc : ∀ i < config.rowsIn count, rowMicros start.slot (start.startSampleOffset + i * config.hopSamples) < 2 ^ 63

namespace SpectrumModel

variable {self base : SpectrumModel} {chunk : CanonicalSpectrumChunk} {start : RunStart}
  {mark : Option SpectrumDiscontinuity} {samples more : List Int16} {made : Nat}

/-- A run begins with the chunks that have its start: they are not refused, nothing pending joins them, and the mark of
their first row is known. -/
def Begins (self : SpectrumModel) (start : RunStart) (mark : Option SpectrumDiscontinuity) : Prop :=
  ∀ chunk, start.Heads chunk → ¬self.Refused chunk ∧ (self.prepared chunk).pendingSamples = [] ∧
    (self.prepared chunk).pendingDiscontinuity = mark

/-- The model holds some samples of a run, less the hops of the rows made. -/
structure Loaded (base : SpectrumModel) (start : RunStart) (mark : Option SpectrumDiscontinuity) (samples : List Int16)
    (made : Nat) (model : SpectrumModel) : Prop where
  config : model.config = base.config
  fft : model.fft = base.fft
  pending : model.pendingSamples = samples.drop (made * base.config.hopSamples)
  offset : model.pendingStartOffset = start.startSampleOffset + made * base.config.hopSamples
  mark : model.pendingDiscontinuity = if made = 0 then mark else none
  sequence : model.nextSequence = base.nextSequence + UInt64.ofNat made

theorem Loaded.advance (h : Loaded base start mark samples made self) (chunk : CanonicalSpectrumChunk) :
    Loaded base start mark samples (made + 1) (self.advance chunk) where
  config := by rw [advance_config, h.config]
  fft := by rw [advance_fft, h.fft]
  pending := by rw [advance_pendingSamples, h.pending, h.config, List.drop_drop, Nat.succ_mul]
  offset := by
    rw [advance_pendingStartOffset, h.offset, h.config, Nat.succ_mul]
    omega
  mark := by
    rw [advance_pendingDiscontinuity, if_neg (Nat.succ_ne_zero made)]
  sequence := by
    rw [advance_nextSequence, h.sequence, UInt64.ofNat_add, UInt64.add_assoc]
    rfl

theorem Loaded.iterate (h : Loaded base start mark samples made self) (chunk : CanonicalSpectrumChunk) (n : Nat) :
    Loaded base start mark samples (made + n) ((fun model => model.advance chunk)^[n] self) := by
  induction n generalizing self made with
  | zero => exact h
  | succ n ih =>
    rw [Function.iterate_succ_apply, show made + (n + 1) = made + 1 + n by omega]
    exact ih (h.advance chunk)

/-- The next row is the one of the run after those made. -/
theorem Loaded.nextRow (h : Loaded base start mark samples made self)
    (hprocess : chunk.processGeneration = start.processGeneration)
    (hstream : chunk.streamGeneration = start.streamGeneration) (hslot : chunk.slot = start.slot) :
    self.nextRow chunk = rowAt base.config base.fft start mark base.nextSequence samples made := by
  simp only [SpectrumModel.nextRow, rowAt, h.config, h.fft, h.pending, h.offset, h.mark, h.sequence, hprocess, hstream,
    hslot]

theorem Loaded.rowsDue (h : Loaded base start mark samples made self)
    (hmade : made ≤ base.config.rowsIn samples.length) :
    self.rowsDue = base.config.rowsIn samples.length - made := by
  rw [SpectrumModel.rowsDue, h.config, h.pending, List.length_drop, SpectrumConfig.rowsIn_sub hmade]

/-- All rows of the samples are made by draining. -/
theorem Loaded.drained (h : Loaded base start mark samples made self)
    (hmade : made ≤ base.config.rowsIn samples.length) (chunk : CanonicalSpectrumChunk) :
    Loaded base start mark samples (base.config.rowsIn samples.length) (self.drained chunk) := by
  have hall := h.iterate chunk self.rowsDue
  rwa [h.rowsDue hmade, Nat.add_sub_of_le hmade, ← h.rowsDue hmade] at hall

/-- A row is of its own samples only. -/
theorem rowAt_append {i : Nat} (hi : i < base.config.rowsIn samples.length) :
    rowAt base.config base.fft start mark base.nextSequence (samples ++ more) i =
      rowAt base.config base.fft start mark base.nextSequence samples i := by
  have hinside := SpectrumConfig.rowsIn_inside hi
  rw [rowAt, rowAt, List.drop_append_of_le_length (by omega), List.take_append_of_le_length]
  rw [List.length_drop]
  omega

/-- The first chunk of a run is loaded by itself. -/
theorem loaded_first (hbegins : self.Begins start mark) (hheads : start.Heads chunk) :
    Loaded self start mark chunk.samples 0 (self.joined chunk) := by
  obtain ⟨-, hpending, hmark⟩ := hbegins chunk hheads
  refine ⟨joined_config, ?_, ?_, ?_, hmark, ?_⟩
  · show (self.prepared chunk).fft = self.fft
    unfold prepared
    split <;> rfl
  · simp [joined, hpending]
  · simp [joined, hpending, hheads.offset]
  · rw [joined_nextSequence]
    exact (UInt64.add_zero _).symm

/-- A chunk that continues the cursor joins and is not refused. -/
theorem joins_of_cursor {cursor : ChunkCursor} (hcursor : self.cursor = some cursor)
    (hprocess : cursor.processGeneration = chunk.processGeneration)
    (hstream : cursor.streamGeneration = chunk.streamGeneration)
    (hnext : cursor.slot = chunk.slot ∧ cursor.nextSampleOffset = chunk.startSampleOffset)
    (hmark : chunk.discontinuity = none) : ¬self.Refused chunk ∧ self.prepared chunk = self := by
  constructor
  · intro hrefused
    obtain ⟨-, cursor', hcursor', -, -, hnot, -⟩ := hrefused
    rw [hcursor] at hcursor'
    cases hcursor'
    exact hnot hnext
  · have heffect : self.effect chunk = .joins := by
      simp [effect, hmark, hcursor, hprocess, hstream, hnext]
    unfold prepared
    rw [heffect]

/-- A later chunk of a run is not refused and is loaded behind the samples so far. -/
theorem loaded_next (hload : Loaded base start mark samples (base.config.rowsIn samples.length) self)
    (hcursor : self.cursor = some
      { processGeneration := start.processGeneration, streamGeneration := start.streamGeneration, slot := start.slot,
        nextSampleOffset := start.startSampleOffset + samples.length })
    (hheads : (start.next samples.length).Heads chunk) :
    ¬self.Refused chunk ∧
      Loaded base start mark (samples ++ chunk.samples) (base.config.rowsIn samples.length) (self.joined chunk) := by
  obtain ⟨hopen, hprepared⟩ := joins_of_cursor hcursor hheads.process.symm hheads.stream.symm
    ⟨hheads.slot.symm, hheads.offset.symm⟩ hheads.mark
  have hmul := SpectrumConfig.rowsIn_mul_le base.config samples.length
  refine ⟨hopen, ?_, ?_, ?_, ?_, ?_, ?_⟩
  · rw [joined_config, hload.config]
  · simp only [joined, hprepared, hload.fft]
  · simp only [joined, hprepared, hload.pending]
    rw [List.drop_append_of_le_length hmul]
  · simp only [joined, hprepared]
    split
    · rename_i hempty
      rw [hload.pending, List.drop_eq_nil_iff] at hempty
      have hoffset := hheads.offset
      simp only [RunStart.next] at hoffset
      omega
    · exact hload.offset
  · simp only [joined, hprepared, hload.mark]
  · rw [joined_nextSequence, hload.sequence]

end SpectrumModel

/-- Between two pushes of a run: some of its samples are pushed, and the rows of these are recorded. -/
structure Midway (base : SpectrumModel) (start : RunStart) (mark : Option SpectrumDiscontinuity)
    (log : List SpectrumRow) (samples : List Int16) (observed : Observed) : Prop where
  settled : observed.model.Settled
  loaded : SpectrumModel.Loaded base start mark samples (base.config.rowsIn samples.length) observed.model
  cursor : observed.model.cursor = some
    { processGeneration := start.processGeneration, streamGeneration := start.streamGeneration, slot := start.slot,
      nextSampleOffset := start.startSampleOffset + samples.length }
  rows : rowsOf observed.events = log ++ runRows base.config base.fft start mark base.nextSequence samples

section Push

variable {base : SpectrumModel} {start : RunStart} {mark : Option SpectrumDiscontinuity} {log : List SpectrumRow}
  {samples : List Int16} {self : Observed} {chunk : CanonicalSpectrumChunk} {made : Nat}

/-- A push onto a loaded model returns and records the rows of the run that are not made yet. -/
theorem push_loaded (hsettled : self.model.Settled) (hopen : ¬self.model.Refused chunk)
    (hloaded : SpectrumModel.Loaded base start mark samples made (self.model.joined chunk))
    (hmade : made ≤ base.config.rowsIn samples.length)
    (hprocess : chunk.processGeneration = start.processGeneration)
    (hstream : chunk.streamGeneration = start.streamGeneration) (hslot : chunk.slot = start.slot)
    (hend : chunk.startSampleOffset + chunk.samples.length = start.startSampleOffset + samples.length)
    (hfits : RunFits base.config start base.nextSequence samples.length)
    (hrows : rowsOf self.events =
      log ++ (List.range made).map (rowAt base.config base.fft start mark base.nextSequence samples)) :
    (∃ result, (self.step (.push chunk)).1 = .pushed (.ok result)) ∧
      Midway base start mark log samples (self.step (.push chunk)).2 := by
  have hdue := hloaded.rowsDue hmade
  have hconfig : self.model.config = base.config := SpectrumModel.joined_config.symm.trans hloaded.config
  have hlegal : chunk.Legal := by
    have hinside := hfits.inside
    unfold CanonicalSpectrumChunk.Legal
    omega
  have hsequence : self.model.nextSequence.toNat = base.nextSequence.toNat + made := by
    have hall := hfits.sequences
    have hjoined : (self.model.joined chunk).nextSequence = self.model.nextSequence := SpectrumModel.joined_nextSequence
    rw [← hjoined, hloaded.sequence, UInt64.toNat_add,
      UInt64.toNat_ofNat_of_lt' (by unfold UInt64.size; omega)]
    omega
  have hleft : self.model.NumbersLeft chunk := by
    have hall := hfits.sequences
    refine ⟨by omega, fun i hi => ?_⟩
    have hutc := hfits.utc (made + i) (by omega)
    rw [hslot, hloaded.offset, hconfig]
    rwa [Nat.add_mul, ← Nat.add_assoc] at hutc
  obtain ⟨result, hpush, -⟩ | ⟨-, hrefused⟩ := SpectrumModel.push_settled hsettled hlegal fun _ => hleft
  · rw [Observed.step_push hpush]
    refine ⟨⟨result, rfl⟩, SpectrumModel.settled_pushed hsettled chunk, ?_, ?_, ?_⟩
    · have hdrained := hloaded.drained hmade chunk
      exact ⟨hdrained.config, hdrained.fft, hdrained.pending, hdrained.offset, hdrained.mark, hdrained.sequence⟩
    · show some _ = some _
      rw [hprocess, hstream, hslot, hend]
    · have hnew (i : Nat) : ((fun model => model.advance chunk)^[i] (self.model.joined chunk)).nextRow chunk =
          rowAt base.config base.fft start mark base.nextSequence samples (made + i) :=
        (hloaded.iterate chunk i).nextRow hprocess hstream hslot
      have hsplit : List.range (base.config.rowsIn samples.length) =
          List.range made ++ (List.range (base.config.rowsIn samples.length - made)).map (made + ·) := by
        rw [← List.range_add, Nat.add_sub_of_le hmade]
      rw [rowsOf_push, hrows, hdue, List.append_assoc, runRows, hsplit, List.map_append, List.map_map]
      simp only [hnew]
      rfl
  · exact absurd hrefused hopen

/-- Fewer samples of a run that fits fit, too. -/
theorem RunFits.take {config : SpectrumConfig} {sequence : UInt64} {count all : Nat}
    (h : RunFits config start sequence all) (hle : count ≤ all) : RunFits config start sequence count := by
  have hmono := SpectrumConfig.rowsIn_mono config hle
  have hinside := h.inside
  have hsequences := h.sequences
  exact ⟨by omega, by omega, fun i hi => h.utc i (by omega)⟩

/-- The first push of a run. -/
theorem push_first_chunk (hsettled : self.model.Settled) (hbegins : self.model.Begins start mark)
    (hheads : start.Heads chunk) (hfits : RunFits self.model.config start self.model.nextSequence chunk.samples.length) :
    (∃ result, (self.step (.push chunk)).1 = .pushed (.ok result)) ∧
      Midway self.model start mark (rowsOf self.events) chunk.samples (self.step (.push chunk)).2 := by
  have hloaded := SpectrumModel.loaded_first hbegins hheads
  obtain ⟨hopen, -, -⟩ := hbegins chunk hheads
  refine push_loaded hsettled hopen hloaded (Nat.zero_le _) hheads.process hheads.stream hheads.slot ?_ hfits ?_
  · rw [hheads.offset]
  · simp

/-- A later push of a run. -/
theorem push_next_chunk (hmidway : Midway base start mark log samples self)
    (hheads : (start.next samples.length).Heads chunk)
    (hfits : RunFits base.config start base.nextSequence (samples ++ chunk.samples).length) :
    (∃ result, (self.step (.push chunk)).1 = .pushed (.ok result)) ∧
      Midway base start mark log (samples ++ chunk.samples) (self.step (.push chunk)).2 := by
  obtain ⟨hopen, hloaded⟩ := SpectrumModel.loaded_next hmidway.loaded hmidway.cursor hheads
  have hmade : base.config.rowsIn samples.length ≤ base.config.rowsIn (samples ++ chunk.samples).length :=
    SpectrumConfig.rowsIn_mono base.config (by simp)
  refine push_loaded hmidway.settled hopen hloaded hmade hheads.process hheads.stream hheads.slot ?_ hfits ?_
  · have hoffset : chunk.startSampleOffset = start.startSampleOffset + samples.length := hheads.offset
    rw [hoffset, List.length_append]
    omega
  · rw [hmidway.rows, runRows]
    refine congrArg (log ++ ·) (List.map_congr_left fun i hi => ?_)
    exact (SpectrumModel.rowAt_append (List.mem_range.mp hi)).symm

/-- What each push of a run does: it returns, and leaves fewer samples than one FFT. -/
def PushReturns (config : SpectrumConfig) (self : Observed) (op : SpectrumOp) : Prop :=
  (∃ result, (self.step op).1 = .pushed (.ok result)) ∧ (self.step op).2.model.pendingSamples.length < config.fftSize

theorem Midway.few (h : Midway base start mark log samples self) :
    self.model.pendingSamples.length < base.config.fftSize := by
  have hfew := h.settled.few
  rwa [h.loaded.config] at hfew

/-- The rest of a run, in any chunks. -/
theorem midway_final {rest : List Int16} {chunks : List CanonicalSpectrumChunk} (h : Midway base start mark log samples self)
    (hcuts : Cuts (start.next samples.length) rest chunks)
    (hfits : RunFits base.config start base.nextSequence (samples ++ rest).length) :
    EveryStep Observed.step (PushReturns base.config) self (chunks.map .push) ∧
      Midway base start mark log (samples ++ rest) (final Observed.step self (chunks.map .push)) := by
  induction chunks generalizing self samples rest with
  | nil =>
    cases hcuts
    rw [List.append_nil]
    exact ⟨trivial, h⟩
  | cons chunk chunks ih =>
    obtain - | ⟨hheads, hrest⟩ := hcuts
    rename_i rest
    have hle : (samples ++ chunk.samples).length ≤ (samples ++ (chunk.samples ++ rest)).length := by
      rw [← List.append_assoc]
      simp
    obtain ⟨hok, hmidway⟩ := push_next_chunk h hheads (hfits.take hle)
    rw [RunStart.next_next, ← List.length_append] at hrest
    rw [← List.append_assoc] at hfits ⊢
    obtain ⟨hevery, hfinal⟩ := ih hmidway hrest hfits
    exact ⟨⟨⟨hok, hmidway.few⟩, hevery⟩, hfinal⟩

/-- A run that begins, in any chunks. -/
theorem segments {chunks : List CanonicalSpectrumChunk} (hsettled : self.model.Settled)
    (hbegins : self.model.Begins start mark) (hcuts : Cuts start samples chunks)
    (hfits : RunFits self.model.config start self.model.nextSequence samples.length) :
    EveryStep Observed.step (PushReturns self.model.config) self (chunks.map .push) ∧
      rowsOf (final Observed.step self (chunks.map .push)).events =
        rowsOf self.events ++ runRows self.model.config self.model.fft start mark self.model.nextSequence samples := by
  have hpos := self.model.config.sound.fft
  cases hcuts with
  | nil =>
    refine ⟨trivial, ?_⟩
    rw [runRows, List.length_nil, SpectrumConfig.rowsIn_short (by omega)]
    simp
  | cons hheads hrest =>
    rename_i chunk rest chunks
    have hle : chunk.samples.length ≤ (chunk.samples ++ rest).length := by simp
    obtain ⟨hok, hmidway⟩ := push_first_chunk hsettled hbegins hheads (hfits.take hle)
    obtain ⟨hevery, hfinal⟩ := midway_final hmidway hrest hfits
    exact ⟨⟨⟨hok, hmidway.few⟩, hevery⟩, hfinal.rows⟩

end Push

/-! ## Rows of one slot -/

/-- The chunks of a record, oldest first. -/
def chunksOf : List SpectrumEvent → List CanonicalSpectrumChunk
  | [] => []
  | .chunk chunk :: earlier => chunksOf earlier ++ [chunk]
  | _ :: earlier => chunksOf earlier

/-- A row is of the samples of a contiguous run inside its own slot, some consecutive chunks. -/
def OfOneSlot (config : SpectrumConfig) (fft : FftPlan) (chunks : List CanonicalSpectrumChunk) (row : SpectrumRow) :
    Prop :=
  ∃ start samples run skipped, run <:+: chunks ∧ Cuts start samples run ∧
    row.processGeneration = start.processGeneration ∧ row.streamGeneration = start.streamGeneration ∧
    row.slot = start.slot ∧ row.startSampleOffset = start.startSampleOffset + skipped ∧
    skipped + config.fftSize ≤ samples.length ∧
    row.bins = binsOf config fft ((samples.drop skipped).take config.fftSize)

/-- The pending samples are the end of a contiguous run of the last chunks. -/
def EndsRun (self : SpectrumModel) (chunks : List CanonicalSpectrumChunk) (cursor : ChunkCursor) : Prop :=
  ∃ start samples run skipped, run <:+ chunks ∧ Cuts start samples run ∧
    cursor.processGeneration = start.processGeneration ∧ cursor.streamGeneration = start.streamGeneration ∧
    cursor.slot = start.slot ∧ cursor.nextSampleOffset = start.startSampleOffset + samples.length ∧
    self.pendingSamples = samples.drop skipped ∧ self.pendingStartOffset = start.startSampleOffset + skipped

section OneSlot

variable {start : RunStart} {samples : List Int16} {chunks : List CanonicalSpectrumChunk}
  {chunk : CanonicalSpectrumChunk} {self : Observed}

/-- One more chunk of the rest of a run. -/
theorem Cuts.snoc_unmarked (h : Cuts start samples chunks) (hmark : start.discontinuity = none)
    (hheads : (start.next samples.length).Heads chunk) :
    Cuts start (samples ++ chunk.samples) (chunks ++ [chunk]) := by
  induction h with
  | nil start =>
    have hsame : start.next 0 = start := by
      cases start
      cases hmark
      rfl
    rw [List.length_nil, hsame] at hheads
    have hone := Cuts.cons hheads (.nil _)
    rwa [List.append_nil] at hone
  | cons hfirst hrest ih =>
    rw [List.append_assoc]
    refine .cons hfirst (ih rfl ?_)
    rwa [RunStart.next_next, ← List.length_append]

/-- One more chunk of a run. -/
theorem Cuts.snoc (h : Cuts start samples chunks) (hne : samples ≠ [])
    (hheads : (start.next samples.length).Heads chunk) :
    Cuts start (samples ++ chunk.samples) (chunks ++ [chunk]) := by
  cases h with
  | nil => exact absurd rfl hne
  | cons hfirst hrest =>
    rw [List.append_assoc]
    refine .cons hfirst (hrest.snoc_unmarked rfl ?_)
    rwa [RunStart.next_next, ← List.length_append]

/-- A chunk is a run by itself. -/
theorem cuts_one (chunk : CanonicalSpectrumChunk) :
    Cuts ⟨chunk.processGeneration, chunk.streamGeneration, chunk.slot, chunk.startSampleOffset, chunk.discontinuity⟩
      chunk.samples [chunk] := by
  have hone : Cuts ⟨chunk.processGeneration, chunk.streamGeneration, chunk.slot, chunk.startSampleOffset,
      chunk.discontinuity⟩ (chunk.samples ++ []) [chunk] := .cons ⟨rfl, rfl, rfl, rfl, rfl⟩ (.nil _)
  rwa [List.append_nil] at hone

theorem chunksOf_join (self : Observed) (chunk : CanonicalSpectrumChunk) :
    chunksOf (self.join chunk).events = chunksOf self.events ++ [chunk] := by
  show chunksOf (Observed.breakEvents (self.model.effect chunk) ++ self.events) ++ [chunk] = _
  cases self.model.effect chunk <;> rfl

theorem chunksOf_iterate (self : Observed) (chunk : CanonicalSpectrumChunk) (n : Nat) :
    chunksOf ((Observed.advance chunk)^[n] self).events = chunksOf self.events := by
  induction n generalizing self with
  | zero => rfl
  | succ n ih =>
    rw [Function.iterate_succ_apply, ih]
    unfold Observed.advance Observed.rowEvents
    dsimp only
    split <;> rfl

theorem chunksOf_push (self : Observed) (chunk : CanonicalSpectrumChunk) :
    chunksOf (self.push chunk).events = chunksOf self.events ++ [chunk] := by
  show chunksOf ((Observed.advance chunk)^[(self.model.joined chunk).rowsDue] (self.join chunk)).events = _
  rw [chunksOf_iterate, chunksOf_join]

/-- Between two operations every row is of one slot, and so is what is pending. -/
structure Unmixed (observed : Observed) : Prop where
  settled : observed.model.Settled
  rows : ∀ row ∈ rowsOf observed.events,
    OfOneSlot observed.model.config observed.model.fft (chunksOf observed.events) row
  pending : observed.model.pendingSamples ≠ [] →
    ∃ cursor, observed.model.cursor = some cursor ∧ EndsRun observed.model (chunksOf observed.events) cursor

/-- With its chunk, what is pending is the end of a run of the chunk's slot. -/
theorem Unmixed.joined (h : Unmixed self) (chunk : CanonicalSpectrumChunk) :
    EndsRun (self.model.joined chunk) (chunksOf self.events ++ [chunk])
      { processGeneration := chunk.processGeneration, streamGeneration := chunk.streamGeneration, slot := chunk.slot,
        nextSampleOffset := chunk.startSampleOffset + chunk.samples.length } := by
  by_cases hempty : (self.model.prepared chunk).pendingSamples = []
  · refine ⟨_, chunk.samples, [chunk], 0, List.suffix_append _ _, cuts_one chunk, rfl, rfl, rfl, rfl, ?_, ?_⟩
    · simp [SpectrumModel.joined, hempty]
    · simp [SpectrumModel.joined, hempty]
  · obtain ⟨hjoins, hprepared⟩ := SpectrumModel.joins_of_pending hempty
    rw [hprepared] at hempty
    obtain ⟨cursor, hcursor, start, samples, run, skipped, hsuffix, hcuts, hprocess, hstream, hslot, hnext, hpending,
      hoffset⟩ := h.pending hempty
    obtain ⟨hprocess', hstream', hslot', hnext'⟩ := SpectrumModel.joins_cursor hjoins hcursor
    have hskipped : skipped ≤ samples.length := by
      rw [hpending, List.drop_eq_nil_iff] at hempty
      omega
    have hne : samples ≠ [] := by
      intro hnil
      rw [hpending, hnil, List.drop_nil] at hempty
      exact hempty rfl
    have hheads : (start.next samples.length).Heads chunk :=
      ⟨hprocess'.symm.trans hprocess, hstream'.symm.trans hstream, hslot'.symm.trans hslot, hnext'.symm.trans hnext,
        SpectrumModel.joins_unmarked hjoins⟩
    refine ⟨start, samples ++ chunk.samples, run ++ [chunk], skipped, ?_, hcuts.snoc hne hheads, hheads.process,
      hheads.stream, hheads.slot, ?_, ?_, ?_⟩
    · obtain ⟨before, hbefore⟩ := hsuffix
      exact ⟨before, by rw [← hbefore, List.append_assoc]⟩
    · have hchunk : chunk.startSampleOffset = start.startSampleOffset + samples.length := hheads.offset
      show chunk.startSampleOffset + chunk.samples.length = _
      rw [hchunk, List.length_append]
      omega
    · simp only [SpectrumModel.joined, hprepared, hpending]
      rw [List.drop_append_of_le_length hskipped]
    · simp only [SpectrumModel.joined, hprepared, if_neg hempty, hoffset]

/-- More chunks do not change what a row is of. -/
theorem OfOneSlot.later {config : SpectrumConfig} {fft : FftPlan} {row : SpectrumRow} (h : OfOneSlot config fft chunks row)
    (more : List CanonicalSpectrumChunk) : OfOneSlot config fft (chunks ++ more) row := by
  obtain ⟨start, samples, run, skipped, hinfix, hrest⟩ := h
  exact ⟨start, samples, run, skipped, hinfix.trans (List.prefix_append _ _).isInfix, hrest⟩

/-- A push that returns makes rows of one slot. -/
theorem Unmixed.push (h : Unmixed self) (chunk : CanonicalSpectrumChunk) : Unmixed (self.push chunk) := by
  obtain ⟨start, samples, run, skipped, hsuffix, hcuts, hprocess, hstream, hslot, hnext, hpending, hoffset⟩ :=
    h.joined chunk
  have hconfig : (self.push chunk).model.config = self.model.config := SpectrumModel.pushed_config
  have hjoinedFft : (self.model.joined chunk).fft = self.model.fft := by
    show (self.model.prepared chunk).fft = self.model.fft
    unfold SpectrumModel.prepared
    split <;> rfl
  have hfft : (self.push chunk).model.fft = self.model.fft := by
    show ((self.model.joined chunk).drained chunk).fft = _
    rw [SpectrumModel.drained, SpectrumModel.iterate_fft, hjoinedFft]
  refine ⟨SpectrumModel.settled_pushed h.settled chunk, ?_, ?_⟩
  · intro row hrow
    rw [rowsOf_push, List.mem_append] at hrow
    rw [hconfig, hfft, chunksOf_push]
    obtain hrow | hrow := hrow
    · exact (h.rows row hrow).later _
    · obtain ⟨i, hi, rfl⟩ := List.mem_map.mp hrow
      have hinside := SpectrumConfig.rowsIn_inside (List.mem_range.mp hi)
      rw [SpectrumModel.joined_config, hpending, List.length_drop] at hinside
      have hpos := self.model.config.sound.fft
      refine ⟨start, samples, run, skipped + i * self.model.config.hopSamples, hsuffix.isInfix, hcuts, hprocess, hstream,
        hslot, ?_, by omega, ?_⟩
      · show ((fun model : SpectrumModel => model.advance chunk)^[i] (self.model.joined chunk)).pendingStartOffset = _
        rw [SpectrumModel.iterate_pendingStartOffset, hoffset, SpectrumModel.joined_config, Nat.add_assoc]
      · simp only [SpectrumModel.nextRow, SpectrumModel.iterate_config, SpectrumModel.iterate_fft,
          SpectrumModel.joined_config, hjoinedFft, SpectrumModel.iterate_pendingSamples, hpending, List.drop_drop]
  · intro _
    refine ⟨_, rfl, start, samples, run, skipped + (self.model.joined chunk).rowsDue * self.model.config.hopSamples, ?_,
      hcuts, hprocess, hstream, hslot, hnext, ?_, ?_⟩
    · rwa [chunksOf_push]
    · show ((self.model.joined chunk).drained chunk).pendingSamples = _
      rw [SpectrumModel.drained, SpectrumModel.iterate_pendingSamples, hpending, List.drop_drop,
        SpectrumModel.joined_config]
    · show ((self.model.joined chunk).drained chunk).pendingStartOffset = _
      rw [SpectrumModel.drained, SpectrumModel.iterate_pendingStartOffset, hoffset, SpectrumModel.joined_config,
        Nat.add_assoc]

/-- An operation that meets the condition of its push keeps slots apart. -/
theorem Unmixed.step (h : Unmixed self) {op : SpectrumOp} (hlegal : op.Legal) (hfits : self.model.OpFits op) :
    Unmixed (self.step op).2 := by
  cases op with
  | push chunk =>
    obtain ⟨result, hpush, -⟩ | ⟨hpush, -⟩ := SpectrumModel.push_settled h.settled hlegal hfits
    · rw [Observed.step_push hpush]
      exact h.push chunk
    · simp only [Observed.step, hpush]
      exact h
  | reset reason => exact ⟨SpectrumModel.settled_reset reason, h.rows, fun hne => absurd rfl hne⟩
  | takeSnapshot =>
    simp only [Observed.step, SpectrumModel.takeSnapshot]
    split
    · exact ⟨⟨h.settled.bounded, h.settled.few, h.settled.ended⟩, h.rows, h.pending⟩
    · exact h

variable {plan : Nat → FftPlan} {config : SpectrumConfig} {model : SpectrumModel}

theorem unmixed_new (hnew : SpectrumModel.new plan config = .ok model) : Unmixed { model, events := [] } where
  settled := SpectrumModel.settled_new hnew
  rows row hrow := nomatch hrow
  pending hne := by
    rw [SpectrumModel.new_ok hnew] at hne
    exact absurd rfl hne

/-- The plan of a model stays. -/
theorem step_fft {self : SpectrumModel} {op : SpectrumOp} (h : self.Settled) (hlegal : op.Legal)
    (hfits : self.OpFits op) : (self.step op).2.fft = self.fft := by
  cases op with
  | push chunk =>
    obtain ⟨result, hpush, -⟩ | ⟨hpush, -⟩ := SpectrumModel.push_settled h hlegal hfits
    · simp only [SpectrumModel.step, hpush, finalState_ok]
      show ((self.joined chunk).drained chunk).fft = _
      rw [SpectrumModel.drained, SpectrumModel.iterate_fft]
      show (self.prepared chunk).fft = _
      unfold SpectrumModel.prepared
      split <;> rfl
    · simp only [SpectrumModel.step, hpush, finalState_error]
  | reset reason => rfl
  | takeSnapshot =>
    show self.takeSnapshot.2.fft = _
    unfold SpectrumModel.takeSnapshot
    split <;> rfl

/-- **Segmentation**: after every run whose rows have representations, all chunks that a run of samples is cut into give
its rows, each push returns and leaves fewer samples than one FFT, and every row made is of samples of its own slot. -/
theorem spectrum_segmentation (hnew : SpectrumModel.new plan config = .ok model) (ops : List SpectrumOp)
    (hops : EveryStep SpectrumModel.step (fun model op => op.Legal ∧ model.OpFits op) model ops) :
    let self := final Observed.step { model, events := [] } ops
    (∀ start mark samples, self.model.Begins start mark →
        RunFits config start self.model.nextSequence samples.length → ∀ chunks, Cuts start samples chunks →
        EveryStep Observed.step (PushReturns config) self (chunks.map .push) ∧
          rowsOf (final Observed.step self (chunks.map .push)).events =
            rowsOf self.events ++
              runRows config (plan config.fftSize) start mark self.model.nextSequence samples) ∧
      ∀ row ∈ rowsOf self.events, OfOneSlot config (plan config.fftSize) (chunksOf self.events) row := by
  intro self
  have hstep (self : Observed) (op : SpectrumOp)
      (h : Unmixed self ∧ self.model.config = config ∧ self.model.fft = plan config.fftSize)
      (hop : op.Legal ∧ self.model.OpFits op) :
      Unmixed (self.step op).2 ∧ (self.step op).2.model.config = config ∧
        (self.step op).2.model.fft = plan config.fftSize := by
    refine ⟨h.1.step hop.1 hop.2, ?_, ?_⟩
    · rw [(Observed.step_model self op).2, SpectrumModel.step_config h.1.settled hop.1 hop.2, h.2.1]
    · rw [(Observed.step_model self op).2, step_fft h.1.settled hop.1 hop.2, h.2.2]
  have hstart : Unmixed { model, events := [] } ∧ model.config = config ∧ model.fft = plan config.fftSize :=
    ⟨unmixed_new hnew, by rw [SpectrumModel.new_ok hnew], by rw [SpectrumModel.new_ok hnew]⟩
  obtain ⟨hunmixed, hconfig, hfft⟩ : Unmixed self ∧ self.model.config = config ∧ self.model.fft = plan config.fftSize :=
    final_inv hstep hstart ((Observed.everyStep_model (fun model op => op.Legal ∧ model.OpFits op) _ ops).mpr hops)
  have hrows := hunmixed.rows
  rw [hconfig, hfft] at hrows
  refine ⟨fun start mark samples hbegins hfits chunks hcuts => ?_, hrows⟩
  have hsegments := segments hunmixed.settled hbegins hcuts (by rwa [hconfig])
  rwa [hconfig, hfft] at hsegments

end OneSlot

/-- Where the silence of a slot begins. -/
def silentStart (slot : Ft8ReceiveSlot) : RunStart :=
  ⟨⟨1, one_nonzero⟩, ⟨1, one_nonzero⟩, slot, 0, none⟩

theorem cuts_silent (slot : Ft8ReceiveSlot) :
    Cuts (silentStart slot) (silentChunk slot).samples [silentChunk slot] := cuts_one (silentChunk slot)

/-- A run begins with any chunk after a reset. -/
theorem SpectrumModel.begins_reset {model : SpectrumModel} {start : RunStart} (hcursor : model.cursor = none)
    (hpending : model.pendingSamples = []) (hunmarked : start.discontinuity = none) :
    model.Begins start model.pendingDiscontinuity := by
  intro chunk hheads
  have hprepared : model.prepared chunk = model := by
    unfold prepared effect
    rw [hheads.mark, hunmarked, hcursor]
  refine ⟨?_, by rw [hprepared, hpending], by rw [hprepared]⟩
  intro hrefused
  obtain ⟨-, cursor, hsome, -⟩ := hrefused
  rw [hcursor] at hsome
  cases hsome

/-- A plan that adds the samples up. -/
def meterPlan (_ : Nat) : FftPlan := { scratchLen := 0, magnitude := fun samples index => (samples.map (·.toInt)).sum + index }

/-- A push of one row and a reset. -/
def meteredReset : List SpectrumOp := [.push (levelChunk firstSlot 0 none 1 299), .reset .clockHealthLost]

/-- A run of samples of three levels, and its start. -/
def meteredChunks : List CanonicalSpectrumChunk :=
  [levelChunk firstSlot 600 none 2 299, levelChunk firstSlot 900 none 3 49, levelChunk firstSlot 950 none 4 349]

def meteredStart : RunStart := ⟨⟨1, one_nonzero⟩, ⟨1, one_nonzero⟩, firstSlot, 600, none⟩

def meteredSamples : List Int16 := meteredChunks.flatMap (·.samples)

theorem cuts_metered : Cuts meteredStart meteredSamples meteredChunks := by
  unfold meteredSamples meteredChunks
  rw [List.flatMap_cons, List.flatMap_cons, List.flatMap_cons, List.flatMap_nil]
  refine .cons ⟨rfl, rfl, rfl, rfl, rfl⟩ (.cons ⟨rfl, rfl, rfl, ?_, rfl⟩ (.cons ⟨rfl, rfl, rfl, ?_, rfl⟩ (.nil _)))
  · decide +kernel
  · decide +kernel

/-- After a row and a reset, the three chunks give the seven rows of their samples. -/
theorem spectrum_segmentation_metered :
    let model : SpectrumModel := { freshModel with fft := meterPlan 256 }
    let self := final Observed.step { model, events := [] } meteredReset
    (rowsOf self.events).length = 1 ∧ smallConfig.rowsIn meteredSamples.length = 7 ∧
      EveryStep Observed.step (PushReturns smallConfig) self (meteredChunks.map .push) ∧
      rowsOf (final Observed.step self (meteredChunks.map .push)).events =
        rowsOf self.events ++
          runRows smallConfig (meterPlan 256) meteredStart (some .clockHealthLost) 1 meteredSamples ∧
      ∀ row ∈ rowsOf self.events, OfOneSlot smallConfig (meterPlan 256) (chunksOf self.events) row := by
  intro model self
  have hnew : SpectrumModel.new meterPlan smallConfig = .ok model := rfl
  obtain ⟨hsegments, hslots⟩ := spectrum_segmentation hnew meteredReset (by decide +kernel)
  have hsequence : self.model.nextSequence = 1 := by decide +kernel
  have hbegins : self.model.Begins meteredStart (some .clockHealthLost) := SpectrumModel.begins_reset rfl rfl rfl
  have hfits : RunFits smallConfig meteredStart self.model.nextSequence meteredSamples.length := by
    rw [hsequence]
    exact ⟨by decide +kernel, by decide +kernel, by decide +kernel⟩
  obtain ⟨hreturns, hrows⟩ := hsegments meteredStart _ meteredSamples hbegins hfits meteredChunks cuts_metered
  refine ⟨by decide +kernel, by decide +kernel, hreturns, ?_, hslots⟩
  rw [← hsequence]
  exact hrows

/-- A chunk long enough for 61 rows whose slot is too late for their times gives none. -/
theorem far_slot_without_rows :
    SpectrumModel.new flatPlan smallConfig = .ok freshModel ∧ (silentChunk farSlot).Legal ∧
      Cuts (silentStart farSlot) (silentChunk farSlot).samples [silentChunk farSlot] ∧
      smallConfig.rowsIn (silentChunk farSlot).samples.length = 61 ∧
      (final SpectrumModel.step freshModel [.push (silentChunk farSlot)]).rows = [] := by
  refine ⟨rfl, legal_silentChunk farSlot, cuts_silent farSlot, ?_, ?_⟩
  · rw [length_silentChunk]
    decide
  · simp only [final_cons, final_nil, SpectrumModel.step, push_far, finalState_error]
    rfl

end Slotpilot.Audio
