import Slotpilot.Audio.SpectrumTrace

/-!
# The account of a waterfall

What the model keeps is what its record says: the mark of the next row, the rows since the last reset, the rows that the
capacity cost, and the publications (`Tally`). Rows follow each other by one hop or into the next slot unless a reset came
between them (`Adjacent`). `waterfall_accounting` states this for every run without arithmetic overflow.
-/

set_option autoImplicit false

namespace Slotpilot.Audio

open Lib

/-! ## Reading a record -/

/-- The reason of the last reset since the last row. -/
def pendingReset : List SpectrumEvent → Option SpectrumDiscontinuity
  | [] => none
  | .reset reason :: _ => some reason
  | .row _ :: _ => none
  | _ :: earlier => pendingReset earlier

/-- The last row. -/
def lastRow : List SpectrumEvent → Option SpectrumRow
  | [] => none
  | .row row :: _ => some row
  | _ :: earlier => lastRow earlier

/-- The rows since the last reset, newest first. -/
def rowsSince : List SpectrumEvent → List SpectrumRow
  | [] => []
  | .reset _ :: _ => []
  | .row row :: earlier => row :: rowsSince earlier
  | _ :: earlier => rowsSince earlier

/-- Rows that found the waterfall full. -/
def droppedRows (capacity : Nat) : List SpectrumEvent → Nat
  | [] => 0
  | .row _ :: earlier => droppedRows capacity earlier + if capacity ≤ (rowsSince earlier).length then 1 else 0
  | _ :: earlier => droppedRows capacity earlier

/-- The last publication since the last reset. -/
def lastToken : List SpectrumEvent → Option Int64
  | [] => none
  | .reset _ :: _ => none
  | .token utc :: _ => some utc
  | _ :: earlier => lastToken earlier

/-- A publication was neither taken nor reset. -/
def tokenPending : List SpectrumEvent → Bool
  | [] => false
  | .reset _ :: _ => false
  | .taken :: _ => false
  | .token _ :: _ => true
  | _ :: earlier => tokenPending earlier

/-- Publications that replaced one before it was taken. -/
def replacedTokens : List SpectrumEvent → Nat
  | [] => 0
  | .token _ :: earlier => replacedTokens earlier + if tokenPending earlier then 1 else 0
  | _ :: earlier => replacedTokens earlier

/-- A row is one hop after another in its slot, or the first of the slot directly after. -/
def Follows (config : SpectrumConfig) (previous row : SpectrumRow) : Prop :=
  row.processGeneration = previous.processGeneration ∧ row.streamGeneration = previous.streamGeneration ∧
    (row.slot = previous.slot ∧ row.startSampleOffset = previous.startSampleOffset + config.hopSamples ∨
      row.slot.startUtcUnixMillis.toInt = previous.slot.startUtcUnixMillis.toInt + ft8ReceiveSlotMillis ∧
        row.startSampleOffset = 0)

/-- Each row has the mark of the resets since the row before it and follows this one without a mark, and each publication
is late enough after the one before it. -/
def WellMarked (config : SpectrumConfig) : List SpectrumEvent → Prop
  | [] => True
  | .row row :: earlier =>
    row.discontinuity = pendingReset earlier ∧
      (∀ previous, lastRow earlier = some previous → row.discontinuity = none → Follows config previous row) ∧
      WellMarked config earlier
  | .token utc :: earlier =>
    (∀ previous, lastToken earlier = some previous →
      previous.toInt + (config.publicationMillis * 1000 : Nat) ≤ utc.toInt) ∧ WellMarked config earlier
  | _ :: earlier => WellMarked config earlier

/-- What came before an event is well marked. -/
theorem WellMarked.earlier {config : SpectrumConfig} {later earlier : List SpectrumEvent}
    (h : WellMarked config (later ++ earlier)) : WellMarked config earlier := by
  induction later with
  | nil => exact h
  | cons event later ih =>
    cases event with
    | reset reason => exact ih h
    | chunk chunk => exact ih h
    | row row => exact ih h.2.2
    | token utc => exact ih h.2
    | taken => exact ih h

/-! ## The account of a model -/

/-- The model keeps what the record says. -/
structure Tally (observed : Observed) : Prop where
  mark : observed.model.pendingDiscontinuity = pendingReset observed.events
  rows : observed.model.rows = ((rowsSince observed.events).take observed.model.config.waterfallRows).reverse
  increasing : (rowsSince observed.events).Pairwise fun newer older => older.sequence.toNat < newer.sequence.toNat
  below : ∀ row ∈ rowsSince observed.events, row.sequence.toNat < observed.model.nextSequence.toNat
  evicted : observed.model.evictedRows = droppedRows observed.model.config.waterfallRows observed.events
  dropped_le : droppedRows observed.model.config.waterfallRows observed.events ≤ observed.model.nextSequence.toNat
  token : observed.model.lastPublicationUtcMicros = lastToken observed.events
  token_nonneg : ∀ utc, lastToken observed.events = some utc → 0 ≤ utc.toInt
  pending : observed.model.publicationPending = tokenPending observed.events
  coalesced : observed.model.coalescedPublications = replacedTokens observed.events
  replaced_le : replacedTokens observed.events ≤ observed.model.nextSequence.toNat
  marked : WellMarked observed.model.config observed.events

/-- The part of a model that a tally is about. -/
structure SameTally (a b : SpectrumModel) : Prop where
  config : a.config = b.config
  pendingDiscontinuity : a.pendingDiscontinuity = b.pendingDiscontinuity
  rows : a.rows = b.rows
  nextSequence : a.nextSequence = b.nextSequence
  evictedRows : a.evictedRows = b.evictedRows
  lastPublicationUtcMicros : a.lastPublicationUtcMicros = b.lastPublicationUtcMicros
  publicationPending : a.publicationPending = b.publicationPending
  coalescedPublications : a.coalescedPublications = b.coalescedPublications

section Tally

variable {self : Observed} {chunk : CanonicalSpectrumChunk} {model : SpectrumModel}

theorem Tally.same (h : Tally self) (hsame : SameTally model self.model) : Tally { self with model } := by
  obtain ⟨h1, h2, h3, h4, h5, h6, h7, h8⟩ := hsame
  constructor
  all_goals simp only [h1, h2, h3, h4, h5, h6, h7, h8]
  · exact h.mark
  · exact h.rows
  · exact h.increasing
  · exact h.below
  · exact h.evicted
  · exact h.dropped_le
  · exact h.token
  · exact h.token_nonneg
  · exact h.pending
  · exact h.coalesced
  · exact h.replaced_le
  · exact h.marked

/-- A reset leaves no rows and no publication. -/
theorem Tally.reset (h : Tally self) (reason : SpectrumDiscontinuity) :
    Tally { model := self.model.reset reason, events := .reset reason :: self.events } where
  mark := rfl
  rows := by simp [SpectrumModel.reset, rowsSince]
  increasing := .nil
  below row hrow := nomatch hrow
  evicted := h.evicted
  dropped_le := h.dropped_le
  token := rfl
  token_nonneg utc hutc := nomatch hutc
  pending := rfl
  coalesced := h.coalesced
  replaced_le := h.replaced_le
  marked := h.marked

/-- A snapshot takes the publication. -/
theorem Tally.taken (h : Tally self) :
    Tally { model := { self.model with publicationPending := false }, events := .taken :: self.events } where
  mark := h.mark
  rows := h.rows
  increasing := h.increasing
  below := h.below
  evicted := h.evicted
  dropped_le := h.dropped_le
  token := h.token
  token_nonneg := h.token_nonneg
  pending := rfl
  coalesced := h.coalesced
  replaced_le := h.replaced_le
  marked := h.marked

/-- A chunk joins. -/
theorem Tally.joining (h : Tally self) (chunk : CanonicalSpectrumChunk) :
    Tally { self with events := .chunk chunk :: self.events } where
  mark := h.mark
  rows := h.rows
  increasing := h.increasing
  below := h.below
  evicted := h.evicted
  dropped_le := h.dropped_le
  token := h.token
  token_nonneg := h.token_nonneg
  pending := h.pending
  coalesced := h.coalesced
  replaced_le := h.replaced_le
  marked := h.marked

/-- The newest rows and one more. -/
theorem take_cons_reverse {α : Type} {capacity : Nat} (hpos : 1 ≤ capacity) (row : α) (rows : List α) :
    ((row :: rows).take capacity).reverse =
      if (rows.take capacity).reverse.length = capacity then (rows.take capacity).reverse.tail ++ [row]
      else (rows.take capacity).reverse ++ [row] := by
  obtain ⟨count, rfl⟩ := Nat.exists_eq_add_of_le' hpos
  rw [List.take_succ_cons, List.reverse_cons, List.length_reverse, List.length_take]
  by_cases hfull : count + 1 ≤ rows.length
  · have hlast : rows.take (count + 1) = rows.take count ++ [rows[count]] :=
      List.take_succ_eq_append_getElem (by omega)
    rw [if_pos (Nat.min_eq_left hfull), hlast, List.reverse_append]
    rfl
  · have hall : rows.take count = rows := List.take_of_length_le (by omega)
    rw [if_neg (by omega), hall, List.take_of_length_le (by omega)]

/-- A row is kept, and the oldest one lost when the waterfall is full. -/
theorem Tally.row (h : Tally self) (row : SpectrumRow) (hsequence : row.sequence = self.model.nextSequence)
    (hmark : row.discontinuity = self.model.pendingDiscontinuity) (hfits : self.model.nextSequence.toNat + 1 < 2 ^ 64)
    (hfollows : ∀ previous, lastRow self.events = some previous → row.discontinuity = none →
      Follows self.model.config previous row) :
    Tally
      { model :=
          SpectrumModel.appendRow
            { self.model with nextSequence := self.model.nextSequence + 1, pendingDiscontinuity := none } row
        events := .row row :: self.events } := by
  have hcapacity := self.model.config.sound.rows
  have hnext : (self.model.nextSequence + 1).toNat = self.model.nextSequence.toNat + 1 := by
    rw [UInt64.toNat_add, UInt64.toNat_one]
    omega
  have hdropped := h.dropped_le
  have hreplaced := h.replaced_le
  have hrows := take_cons_reverse hcapacity.1 row (rowsSince self.events)
  have hlen : self.model.rows.length = self.model.config.waterfallRows ↔
      self.model.config.waterfallRows ≤ (rowsSince self.events).length := by
    rw [h.rows, List.length_reverse, List.length_take]
    omega
  rw [← h.rows] at hrows
  have hincreasing : (row :: rowsSince self.events).Pairwise fun newer older =>
      older.sequence.toNat < newer.sequence.toNat := by
    refine .cons (fun older holder => ?_) h.increasing
    rw [hsequence]
    exact h.below older holder
  have hbelow : ∀ older ∈ row :: rowsSince self.events, older.sequence.toNat < (self.model.nextSequence + 1).toNat := by
    intro older holder
    rw [hnext]
    obtain rfl | holder := List.mem_cons.mp holder
    · rw [hsequence]
      omega
    · exact Nat.lt_succ_of_lt (h.below older holder)
  have hmarked : WellMarked self.model.config (.row row :: self.events) :=
    ⟨hmark.trans h.mark, hfollows, h.marked⟩
  unfold SpectrumModel.appendRow
  dsimp only
  split
  · rename_i hfull
    rw [if_pos hfull] at hrows
    have hdrop : droppedRows self.model.config.waterfallRows (.row row :: self.events) =
        droppedRows self.model.config.waterfallRows self.events + 1 := by
      rw [droppedRows, if_pos (hlen.mp hfull)]
    refine ⟨rfl, hrows.symm, hincreasing, hbelow, ?_, ?_, h.token, h.token_nonneg, h.pending, h.coalesced, ?_, hmarked⟩
    · show saturatingAdd self.model.evictedRows 1 = _
      rw [hdrop, h.evicted, saturatingAdd]
      omega
    · show droppedRows self.model.config.waterfallRows (.row row :: self.events) ≤ (self.model.nextSequence + 1).toNat
      omega
    · show replacedTokens self.events ≤ (self.model.nextSequence + 1).toNat
      omega
  · rename_i hroom
    rw [if_neg hroom] at hrows
    have hdrop : droppedRows self.model.config.waterfallRows (.row row :: self.events) =
        droppedRows self.model.config.waterfallRows self.events := by
      rw [droppedRows, if_neg (fun hle => hroom (hlen.mpr hle)), Nat.add_zero]
    refine ⟨rfl, hrows.symm, hincreasing, hbelow, ?_, ?_, h.token, h.token_nonneg, h.pending, h.coalesced, ?_, hmarked⟩
    · show self.model.evictedRows = _
      rw [hdrop, h.evicted]
    · show droppedRows self.model.config.waterfallRows (.row row :: self.events) ≤ (self.model.nextSequence + 1).toNat
      omega
    · show replacedTokens self.events ≤ (self.model.nextSequence + 1).toNat
      omega

/-- A publication is late enough after the last one, and replaces it unless it was taken. -/
theorem Tally.publication (h : Tally self) (utc : Int64) (hutc : 0 ≤ utc.toInt)
    (hslack : replacedTokens self.events < self.model.nextSequence.toNat) :
    Tally
      { model := self.model.markPublication utc
        events := if self.model.publicationDue utc then .token utc :: self.events else self.events } := by
  have hlt := self.model.nextSequence.toNat_lt
  rw [SpectrumModel.markPublication_eq]
  by_cases hdue : self.model.publicationDue utc = true
  · rw [if_pos hdue, if_pos hdue]
    refine ⟨h.mark, h.rows, h.increasing, h.below, h.evicted, h.dropped_le, rfl, ?_, rfl, ?_, ?_, ?_, h.marked⟩
    · intro last hlast
      cases hlast
      exact hutc
    · show (if self.model.publicationPending then _ else _) = replacedTokens (.token utc :: self.events)
      rw [replacedTokens, h.pending, h.coalesced]
      split
      · rw [saturatingAdd]
        omega
      · rfl
    · show replacedTokens (.token utc :: self.events) ≤ self.model.nextSequence.toNat
      rw [replacedTokens]
      split <;> omega
    · intro previous hprevious
      have hnonneg := h.token_nonneg previous hprevious
      have hrange := utc.toInt_lt
      have hrange' := previous.toInt_lt
      have hcadence := self.model.config.sound.cadence
      unfold SpectrumModel.publicationDue at hdue
      rw [h.token, hprevious, Option.all_some, decide_eq_true_eq, ge_iff_le,
        saturateI64_of_fits (by omega) (by omega)] at hdue
      show previous.toInt + (self.model.config.publicationMillis * 1000 : Nat) ≤ utc.toInt
      omega
  · rw [if_neg hdue, if_neg hdue]
    exact h

/-! ## Rows that follow each other -/

/-- The next row follows the last one unless a reset came between. -/
def NextFollows (self : Observed) (chunk : CanonicalSpectrumChunk) : Prop :=
  ∀ previous, lastRow self.events = some previous → self.model.pendingDiscontinuity = none →
    Follows self.model.config previous (self.model.nextRow chunk)

/-- Between two operations: the pending samples end at the cursor, and begin where the next row follows the last one. -/
structure Adjacent (observed : Observed) : Prop where
  ended : ∀ cursor, observed.model.cursor = some cursor →
    cursor.nextSampleOffset = observed.model.pendingStartOffset + observed.model.pendingSamples.length
  attached : ∀ previous, lastRow observed.events = some previous → observed.model.pendingDiscontinuity = none →
    ∃ cursor, observed.model.cursor = some cursor ∧ cursor.processGeneration = previous.processGeneration ∧
      cursor.streamGeneration = previous.streamGeneration ∧
      (cursor.slot = previous.slot ∧
          observed.model.pendingStartOffset = previous.startSampleOffset + observed.model.config.hopSamples ∨
        cursor.slot.startUtcUnixMillis.toInt = previous.slot.startUtcUnixMillis.toInt + ft8ReceiveSlotMillis ∧
          observed.model.pendingStartOffset = 0)

theorem lastRow_rowEvents (model : SpectrumModel) (row : SpectrumRow) (events : List SpectrumEvent) :
    lastRow (Observed.rowEvents model row ++ events) = some row := by
  unfold Observed.rowEvents
  split <;> rfl

/-- A chunk rolls over from a complete slot into the next one. -/
theorem rolls_cursor {self : SpectrumModel} (h : self.effect chunk = .rolls) :
    ∃ cursor, self.cursor = some cursor ∧ cursor.processGeneration = chunk.processGeneration ∧
      cursor.streamGeneration = chunk.streamGeneration ∧ cursor.nextSampleOffset = ft8ReceiveWindowSamples ∧
      chunk.startSampleOffset = 0 ∧
      chunk.slot.startUtcUnixMillis.toInt = cursor.slot.startUtcUnixMillis.toInt + ft8ReceiveSlotMillis := by
  unfold SpectrumModel.effect at h
  cases hmark : chunk.discontinuity with
  | some reason =>
    rw [hmark] at h
    cases h
  | none =>
    cases hcursor : self.cursor with
    | none =>
      rw [hmark, hcursor] at h
      cases h
    | some cursor =>
      rw [hmark, hcursor] at h
      dsimp only at h
      split at h
      · cases h
      split at h
      · cases h
      rename_i hprocess hstream
      split at h
      · cases h
      split at h
      · rename_i hrolls
        exact ⟨cursor, rfl, not_not.mp hprocess, not_not.mp hstream, hrolls⟩
      · cases h

/-- When a chunk has joined, the next row follows. -/
theorem Adjacent.join (h : Adjacent self) (hsettled : self.model.Settled) (chunk : CanonicalSpectrumChunk) :
    NextFollows (self.join chunk) chunk := by
  have hfft := self.model.config.sound.fft
  have hfew := hsettled.few
  intro previous hprevious hmark
  cases heffect : self.model.effect chunk with
  | joins =>
    have hprepared : self.model.prepared chunk = self.model := by
      unfold SpectrumModel.prepared
      rw [heffect]
    have hlast : lastRow self.events = some previous := by
      simpa [Observed.join, Observed.breakEvents, heffect, lastRow] using hprevious
    have hnone : self.model.pendingDiscontinuity = none := by
      simpa [Observed.join, SpectrumModel.joined, hprepared] using hmark
    obtain ⟨cursor, hcursor, hprocess, hstream, hplace⟩ := h.attached previous hlast hnone
    obtain ⟨hprocess', hstream', hslot', hnext'⟩ := SpectrumModel.joins_cursor heffect hcursor
    have hend := h.ended cursor hcursor
    have hstart : (self.model.joined chunk).pendingStartOffset = self.model.pendingStartOffset := by
      simp only [SpectrumModel.joined, hprepared]
      split
      · rename_i hempty
        rw [hempty, List.length_nil] at hend
        omega
      · rfl
    refine ⟨hprocess'.symm.trans hprocess, hstream'.symm.trans hstream, ?_⟩
    show chunk.slot = previous.slot ∧ (self.model.joined chunk).pendingStartOffset = _ ∨
      chunk.slot.startUtcUnixMillis.toInt = _ ∧ (self.model.joined chunk).pendingStartOffset = 0
    rw [hstart, ← hslot']
    show _ ∧ _ = _ + (self.model.joined chunk).config.hopSamples ∨ _
    rw [SpectrumModel.joined_config]
    exact hplace
  | rolls =>
    have hlast : lastRow self.events = some previous := by
      simpa [Observed.join, Observed.breakEvents, heffect, lastRow] using hprevious
    have hnone : self.model.pendingDiscontinuity = none := by
      simpa [Observed.join, SpectrumModel.joined, SpectrumModel.prepared, heffect] using hmark
    obtain ⟨cursor, hcursor, hprocess, hstream, hplace⟩ := h.attached previous hlast hnone
    obtain ⟨cursor', hcursor', hprocess', hstream', hcomplete, hzero, hslot⟩ := rolls_cursor heffect
    rw [hcursor] at hcursor'
    cases hcursor'
    have hend := h.ended cursor hcursor
    have hstart : (self.model.joined chunk).pendingStartOffset = 0 := by
      simp [SpectrumModel.joined, SpectrumModel.prepared, heffect, hzero]
    refine ⟨hprocess'.symm.trans hprocess, hstream'.symm.trans hstream, .inr ⟨?_, hstart⟩⟩
    obtain ⟨hsame, -⟩ | ⟨-, hfirst⟩ := hplace
    · show chunk.slot.startUtcUnixMillis.toInt = _
      rw [hslot, hsame]
    · -- A slot of which no row is made yet is not complete.
      unfold ft8ReceiveWindowSamples at hcomplete
      omega
  | breaks reason =>
    have hsome : (self.join chunk).model.pendingDiscontinuity = some reason := by
      simp [Observed.join, SpectrumModel.joined, SpectrumModel.prepared, heffect, SpectrumModel.reset]
    rw [hsome] at hmark
    cases hmark

/-- The row after a row follows it. -/
theorem nextFollows_advance (self : Observed) (chunk : CanonicalSpectrumChunk) :
    NextFollows (self.advance chunk) chunk := by
  intro previous hprevious _
  have hrow : self.model.nextRow chunk = previous :=
    Option.some.inj ((lastRow_rowEvents self.model (self.model.nextRow chunk) self.events).symm.trans hprevious)
  subst hrow
  refine ⟨rfl, rfl, .inl ⟨rfl, ?_⟩⟩
  show (self.model.advance chunk).pendingStartOffset = _
  rw [SpectrumModel.advance_pendingStartOffset]
  show _ = _ + (self.model.advance chunk).config.hopSamples
  rw [SpectrumModel.advance_config]
  rfl

/-! ## One operation -/

/-- A chunk joins, behind the reset that it makes. -/
theorem Tally.join (h : Tally self) (chunk : CanonicalSpectrumChunk) : Tally (self.join chunk) := by
  have hjoined (model : SpectrumModel) (hprepared : self.model.prepared chunk = model) :
      SameTally (self.model.joined chunk) model := by
    subst hprepared
    exact ⟨rfl, rfl, rfl, rfl, rfl, rfl, rfl, rfl⟩
  unfold Observed.join
  cases heffect : self.model.effect chunk with
  | joins =>
    have hprepared : self.model.prepared chunk = self.model := by
      unfold SpectrumModel.prepared
      rw [heffect]
    exact (h.same (hjoined _ hprepared)).joining chunk
  | rolls =>
    have hsame : SameTally (self.model.joined chunk) self.model := by
      have hprepared : self.model.prepared chunk =
          { self.model with pendingSamples := [], pendingStartOffset := 0 } := by
        unfold SpectrumModel.prepared
        rw [heffect]
      obtain ⟨h1, h2, h3, h4, h5, h6, h7, h8⟩ := hjoined _ hprepared
      exact ⟨h1, h2, h3, h4, h5, h6, h7, h8⟩
    exact (h.same hsame).joining chunk
  | breaks reason =>
    have hprepared : self.model.prepared chunk = self.model.reset reason := by
      unfold SpectrumModel.prepared
      rw [heffect]
    exact ((h.reset reason).same (hjoined _ hprepared)).joining chunk

/-- One more row, and the publication that it makes due. -/
theorem Tally.advance (h : Tally self) (hfollows : NextFollows self chunk) (hfits : self.model.RowFits chunk) :
    Tally (self.advance chunk) := by
  have hutc : (self.model.nextRow chunk).startUtcUnixMicros.toInt = rowMicros chunk.slot self.model.pendingStartOffset := by
    have hnonneg := SpectrumModel.rowMicros_nonneg chunk.slot self.model.pendingStartOffset
    have hlt := hfits.utc
    exact Int64.toInt_ofInt_of_le (by omega) (by omega)
  have hrow := h.row (self.model.nextRow chunk) rfl rfl hfits.sequence hfollows
  have hnext : (SpectrumModel.appendRow
      { self.model with nextSequence := self.model.nextSequence + 1, pendingDiscontinuity := none }
      (self.model.nextRow chunk)).nextSequence = self.model.nextSequence + 1 := by
    rw [(SpectrumModel.appendRow_fields _).2.2.2.2.2.2]
  have hdue : (SpectrumModel.appendRow
      { self.model with nextSequence := self.model.nextSequence + 1, pendingDiscontinuity := none }
      (self.model.nextRow chunk)).publicationDue (self.model.nextRow chunk).startUtcUnixMicros =
        self.model.publicationDue (self.model.nextRow chunk).startUtcUnixMicros := by
    unfold SpectrumModel.appendRow
    split <;> rfl
  have hpublication := hrow.publication (self.model.nextRow chunk).startUtcUnixMicros ?_ ?_
  · have hevents : (if self.model.publicationDue (self.model.nextRow chunk).startUtcUnixMicros then
        SpectrumEvent.token (self.model.nextRow chunk).startUtcUnixMicros :: .row (self.model.nextRow chunk) :: self.events
        else .row (self.model.nextRow chunk) :: self.events) = (self.advance chunk).events := by
      unfold Observed.advance Observed.rowEvents
      split <;> rfl
    dsimp only at hpublication
    rw [hdue, hevents] at hpublication
    exact hpublication.same ⟨rfl, rfl, rfl, rfl, rfl, rfl, rfl, rfl⟩
  · rw [hutc]
    exact SpectrumModel.rowMicros_nonneg _ _
  · have hreplaced := h.replaced_le
    have hsequence := hfits.sequence
    show replacedTokens self.events < _
    rw [hnext, UInt64.toNat_add, UInt64.toNat_one]
    omega

/-- All rows of a push. -/
theorem Tally.iterate (h : Tally self) (hfollows : NextFollows self chunk) {n : Nat}
    (hfits : ∀ i < n, ((fun model => model.advance chunk)^[i] self.model).RowFits chunk) :
    Tally ((Observed.advance chunk)^[n] self) ∧ NextFollows ((Observed.advance chunk)^[n] self) chunk := by
  induction n generalizing self with
  | zero => exact ⟨h, hfollows⟩
  | succ n ih =>
    rw [Function.iterate_succ_apply]
    refine ih (h.advance hfollows (hfits 0 (Nat.succ_pos n))) (nextFollows_advance self chunk) ?_
    intro i hi
    exact hfits (i + 1) (Nat.succ_lt_succ hi)

/-- What holds between two operations. -/
structure Balanced (observed : Observed) : Prop where
  settled : observed.model.Settled
  tally : Tally observed
  adjacent : Adjacent observed

/-- A push that returns keeps the account. -/
theorem Balanced.push (h : Balanced self) (hfits : (self.model.joined chunk).RowsFit chunk) : Balanced (self.push chunk) := by
  obtain ⟨htally, hfollows⟩ := (h.tally.join chunk).iterate (h.adjacent.join h.settled chunk) hfits
  rw [NextFollows, Observed.iterate_model] at hfollows
  refine ⟨SpectrumModel.settled_pushed h.settled chunk, htally.same ?_, ?_, ?_⟩
  · rw [Observed.iterate_model]
    exact ⟨rfl, rfl, rfl, rfl, rfl, rfl, rfl, rfl⟩
  · intro cursor hcursor
    obtain rfl := Option.some.inj hcursor
    obtain ⟨hend, -⟩ := SpectrumModel.settled_joined h.settled chunk
    have hmul := SpectrumConfig.rowsIn_mul_le self.model.config (self.model.joined chunk).pendingSamples.length
    show chunk.startSampleOffset + chunk.samples.length =
      ((self.model.joined chunk).drained chunk).pendingStartOffset +
        ((self.model.joined chunk).drained chunk).pendingSamples.length
    rw [SpectrumModel.drained, SpectrumModel.iterate_pendingStartOffset, SpectrumModel.iterate_pendingSamples,
      List.length_drop, SpectrumModel.rowsDue, SpectrumModel.joined_config]
    omega
  · intro previous hprevious hnone
    obtain ⟨hprocess, hstream, hplace⟩ := hfollows previous hprevious hnone
    exact ⟨_, rfl, hprocess, hstream, hplace⟩

/-- A push that does not fail by an overflow returns. -/
theorem push_of_no_overflow {self : SpectrumModel} (h : self.Settled) (hlegal : chunk.Legal)
    (hfits : (self.step (.push chunk)).1 ≠ .pushed (.error .arithmeticOverflow)) :
    ∃ result, SpectrumModel.push chunk self = .ok result (self.pushed chunk) ∧ (self.joined chunk).RowsFit chunk := by
  have hends := SpectrumModel.push_ends hlegal h.bounded
  have hle := SpectrumModel.rowsDue_joined_le h chunk
  unfold Ends at hends
  cases hpush : SpectrumModel.push chunk self with
  | ok result next =>
    rw [hpush] at hends
    obtain ⟨-, hrows, -, rfl, -⟩ := hends
    exact ⟨result, rfl, hrows⟩
  | error error next =>
    rw [hpush] at hends
    simp only [SpectrumModel.step, hpush, outcome_error] at hfits
    obtain ⟨-, rfl, -⟩ | ⟨-, ⟨rfl, -⟩ | ⟨-, hlt⟩⟩ := hends
    · exact absurd rfl hfits
    · exact absurd rfl hfits
    · omega

/-- The condition of a run: its chunks lie inside their slots, and no push fails by an overflow. -/
def NoOverflow (self : SpectrumModel) (op : SpectrumOp) : Prop :=
  op.Legal ∧ (self.step op).1 ≠ .pushed (.error .arithmeticOverflow)

instance (self : SpectrumModel) : ∀ op : SpectrumOp, Decidable (NoOverflow self op)
  | .push chunk =>
    decidable_of_iff (chunk.Legal ∧ outcome (SpectrumModel.push chunk self) ≠ .error .arithmeticOverflow)
      (and_congr Iff.rfl (not_congr ⟨congrArg _, SpectrumAnswer.pushed.inj⟩))
  | .reset _ => isTrue ⟨trivial, fun h => SpectrumAnswer.noConfusion h⟩
  | .takeSnapshot => isTrue ⟨trivial, fun h => SpectrumAnswer.noConfusion h⟩

/-- One operation keeps the account and the configuration. -/
theorem Balanced.step (h : Balanced self) {op : SpectrumOp} (hop : NoOverflow self.model op) :
    Balanced (self.step op).2 ∧ (self.step op).2.model.config = self.model.config := by
  cases op with
  | push chunk =>
    obtain ⟨result, hpush, hfits⟩ := push_of_no_overflow h.settled hop.1 hop.2
    rw [Observed.step_push hpush]
    exact ⟨h.push hfits, SpectrumModel.pushed_config⟩
  | reset reason =>
    refine ⟨⟨SpectrumModel.settled_reset reason, h.tally.reset reason, ?_, ?_⟩, rfl⟩
    · intro cursor hcursor
      cases hcursor
    · intro previous _ hnone
      cases hnone
  | takeSnapshot =>
    have hsettled := SpectrumModel.settled_takeSnapshot h.settled
    simp only [Observed.step, SpectrumModel.takeSnapshot] at hsettled ⊢
    split
    · rename_i hpending
      rw [if_pos hpending] at hsettled
      exact ⟨⟨hsettled, h.tally.taken, h.adjacent.ended, h.adjacent.attached⟩, rfl⟩
    · exact ⟨h, rfl⟩

variable {plan : Nat → FftPlan} {config : SpectrumConfig}

theorem balanced_new (hnew : SpectrumModel.new plan config = .ok model) : Balanced { model, events := [] } := by
  have hsettled := SpectrumModel.settled_new hnew
  rw [SpectrumModel.new_ok hnew] at hsettled ⊢
  refine ⟨hsettled, ?_, ?_, ?_⟩
  · constructor <;> simp [pendingReset, rowsSince, droppedRows, lastToken, tokenPending, replacedTokens, WellMarked]
  · intro cursor hcursor
    cases hcursor
  · intro previous hprevious
    cases hprevious

/-- **Waterfall accounting**: in every run without arithmetic overflow a row has a mark exactly when a reset came since
the row before it, with its last reason; without a mark it follows that row; the retained rows are the newest since the
last reset, by increasing sequence; the evicted rows are those that found the waterfall full; and publications are apart
and counted when one replaces another that was not taken. -/
theorem waterfall_accounting (hnew : SpectrumModel.new plan config = .ok model) (ops : List SpectrumOp)
    (hops : EveryStep SpectrumModel.step NoOverflow model ops) :
    let self := final Observed.step { model, events := [] } ops
    self.model = final SpectrumModel.step model ops ∧
      (∀ later row earlier, self.events = later ++ .row row :: earlier →
        row.discontinuity = pendingReset earlier ∧
          ∀ previous, lastRow earlier = some previous → row.discontinuity = none → Follows config previous row) ∧
      self.model.rows = ((rowsSince self.events).take config.waterfallRows).reverse ∧
      (self.model.rows.Pairwise fun older newer => older.sequence.toNat < newer.sequence.toNat) ∧
      self.model.evictedRows = droppedRows config.waterfallRows self.events ∧
      (∀ later utc earlier, self.events = later ++ .token utc :: earlier → ∀ previous, lastToken earlier = some previous →
        previous.toInt + (config.publicationMillis * 1000 : Nat) ≤ utc.toInt) ∧
      self.model.coalescedPublications = replacedTokens self.events := by
  intro self
  have hstep (self : Observed) (op : SpectrumOp) (h : Balanced self ∧ self.model.config = config)
      (hop : NoOverflow self.model op) : Balanced (self.step op).2 ∧ (self.step op).2.model.config = config := by
    obtain ⟨hbalanced, hconfig⟩ := h.1.step hop
    exact ⟨hbalanced, hconfig.trans h.2⟩
  have hstart : Balanced { model, events := [] } ∧ model.config = config :=
    ⟨balanced_new hnew, by rw [SpectrumModel.new_ok hnew]⟩
  obtain ⟨hbalanced, hconfig⟩ : Balanced self ∧ self.model.config = config :=
    final_inv hstep hstart ((Observed.everyStep_model NoOverflow _ ops).mpr hops)
  have htally := hbalanced.tally
  have hrows := htally.rows
  have hevicted := htally.evicted
  have hmarked := htally.marked
  rw [hconfig] at hrows hevicted hmarked
  refine ⟨Observed.final_model _ ops, ?_, hrows, ?_, hevicted, ?_, htally.coalesced⟩
  · intro later row earlier hevents
    rw [hevents] at hmarked
    obtain ⟨hmark, hfollows, -⟩ := hmarked.earlier
    exact ⟨hmark, hfollows⟩
  · rw [hrows, List.pairwise_reverse]
    exact htally.increasing.sublist (List.take_sublist _ _)
  · intro later utc earlier hevents
    rw [hevents] at hmarked
    exact hmarked.earlier.1

end Tally

/-- The slot after the first one. -/
def secondSlot : Ft8ReceiveSlot := ⟨15000, by decide, by decide⟩

/-- Two rows without an overlap, published every 50 milliseconds. -/
def watchedConfig : SpectrumConfig :=
  { fftSize := 256, overlapSamples := 0, layout := { firstBin := 0, lastBin := 2, estimatedModelBytes := 16736 },
    waterfallRows := 2, publicationMillis := 50, checked := ⟨0, 100, by decide⟩ }

/-- A row, a snapshot and a reset, and then the end of a slot and the beginning of the next one. -/
def watchedOps : List SpectrumOp :=
  [.push (levelChunk firstSlot 0 none 1 299), .takeSnapshot, .reset .clockHealthLost,
    .push (levelChunk firstSlot 179000 none 2 999), .push (levelChunk secondSlot 0 none 3 599)]

/-- Of the five rows after the reset the first one has its mark and three are evicted, and the publication of the next
slot replaces one that was not taken. -/
theorem waterfall_accounting_watched :
    let self := final Observed.step { model := { freshModel with config := watchedConfig }, events := [] } watchedOps
    (∀ later row earlier, self.events = later ++ .row row :: earlier →
        row.discontinuity = pendingReset earlier ∧
          ∀ previous, lastRow earlier = some previous → row.discontinuity = none → Follows watchedConfig previous row) ∧
      (rowsOf self.events).map (fun row => (row.sequence, row.discontinuity)) =
        [(0, none), (1, some .clockHealthLost), (2, none), (3, none), (4, none), (5, none)] ∧
      self.model.rows = ((rowsSince self.events).take 2).reverse ∧
      self.model.evictedRows = droppedRows 2 self.events ∧ self.model.evictedRows = 3 ∧
      (∀ later utc earlier, self.events = later ++ .token utc :: earlier → ∀ previous, lastToken earlier = some previous →
        previous.toInt + 50000 ≤ utc.toInt) ∧
      self.model.coalescedPublications = replacedTokens self.events ∧ self.model.coalescedPublications = 1 := by
  have hnew : SpectrumModel.new flatPlan watchedConfig = .ok { freshModel with config := watchedConfig } := rfl
  obtain ⟨-, hmarks, hrows, -, hevicted, hapart, hcoalesced⟩ := waterfall_accounting hnew watchedOps (by decide +kernel)
  exact ⟨hmarks, by decide +kernel, hrows, hevicted, by decide +kernel, hapart, hcoalesced, by decide +kernel⟩

end Slotpilot.Audio
