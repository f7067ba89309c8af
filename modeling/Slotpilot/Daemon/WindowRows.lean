import Slotpilot.Audio.SpectrumSegments
import Slotpilot.Daemon.Receive

/-!
# The rows of a window

A poll pushes a whole window on to the spectrum model, chunk by chunk. Between two windows the model is settled and its
last slot is an early one (`AtWindow`). From there the pushes return exactly when the rows of the window have
representations (`pushWindow_ends`), which is a condition on its slot and on the sequence numbers left (`Drawable`).
-/

set_option autoImplicit false

namespace Slotpilot.Audio

open Lib

/-- Start of the first slot with a row whose microseconds do not fit. -/
def lateSlotMillis : Int := 9223372036845000

/-- Where the samples of a window begin. -/
def Ft8ReceiveWindow.start (window : Ft8ReceiveWindow) : RunStart where
  processGeneration := window.processGeneration
  streamGeneration := window.streamGeneration
  slot := window.slot
  startSampleOffset := 0
  discontinuity := none

/-- The rows of a window have representations after those of the model. -/
structure Drawable (model : SpectrumModel) (window : Ft8ReceiveWindow) : Prop where
  utc : window.slotStartUtcMillis.toInt < lateSlotMillis
  sequence : model.nextSequence.toNat + model.config.rowsIn ft8ReceiveWindowSamples < 2 ^ 64

/-- A window has a row in the last third of its slot. -/
theorem SpectrumConfig.rowsIn_window (config : SpectrumConfig) :
    ∃ i, i < config.rowsIn ft8ReceiveWindowSamples ∧ 120000 ≤ i * config.hopSamples ∧
      ∀ j < config.rowsIn ft8ReceiveWindowSamples, j * config.hopSamples < ft8ReceiveWindowSamples := by
  obtain ⟨hpos, hle⟩ := config.hop_bounds
  obtain ⟨-, hfft⟩ := config.sound.fft
  have hleft := SpectrumConfig.rowsIn_left config ft8ReceiveWindowSamples
  have hinside (j : Nat) (hj : j < config.rowsIn ft8ReceiveWindowSamples) :
      j * config.hopSamples < ft8ReceiveWindowSamples := by
    have := SpectrumConfig.rowsIn_inside hj
    omega
  unfold ft8ReceiveWindowSamples at hleft hinside ⊢
  cases hrows : config.rowsIn 180000 with
  | zero =>
    rw [hrows] at hleft
    omega
  | succ n =>
    rw [hrows, Nat.succ_mul] at hleft
    rw [hrows] at hinside
    exact ⟨n, Nat.lt_succ_self n, by omega, hinside⟩

/-- The rows of a window fit exactly when it is drawable. -/
theorem drawable_iff {model : SpectrumModel} {window : Ft8ReceiveWindow} :
    Drawable model window ↔ RunFits model.config window.start model.nextSequence ft8ReceiveWindowSamples := by
  obtain ⟨last, hlast, hlate, hinside⟩ := model.config.rowsIn_window
  have hslot : window.start.slot.startUtcUnixMillis.toInt = window.slotStartUtcMillis.toInt := rfl
  have hstart : window.start.startSampleOffset = 0 := rfl
  constructor
  · intro h
    refine ⟨by rw [hstart]; omega, h.sequence, ?_⟩
    intro i hi
    have hoffset := hinside i hi
    have hutc := h.utc
    have haligned := window.aligned
    have hnonneg := window.nonneg
    rw [Int.tmod_eq_emod_of_nonneg hnonneg] at haligned
    unfold ft8ReceiveWindowSamples at hoffset
    unfold lateSlotMillis at hutc
    unfold ft8ReceiveSlotMillis at haligned
    rw [rowMicros, hslot, hstart, ft8ReceiveSampleRateHz, Nat.zero_add]
    omega
  · intro h
    refine ⟨?_, h.sequences⟩
    have hutc := h.utc last hlast
    rw [rowMicros, hslot, hstart, ft8ReceiveSampleRateHz, Nat.zero_add] at hutc
    unfold lateSlotMillis
    omega

namespace SpectrumModel

variable {self base : SpectrumModel} {chunk other : CanonicalSpectrumChunk} {start : RunStart}
  {mark : Option SpectrumDiscontinuity} {samples : List Int16} {made : Nat}

/-! ## One push of a run -/

/-- The numbers of the rows so far fit. -/
def MadeFit (base : SpectrumModel) (start : RunStart) (made : Nat) : Prop :=
  base.nextSequence.toNat + made < 2 ^ 64 ∧
    ∀ i < made, rowMicros start.slot (start.startSampleOffset + i * base.config.hopSamples) < 2 ^ 63

/-- Rows that fit one after the other are rows whose numbers fit. -/
theorem madeFit_iff (hloaded : Loaded base start mark samples made self) (hslot : chunk.slot = start.slot)
    (hmade : base.MadeFit start made) {due : Nat}
    (hinside : start.startSampleOffset + (made + due) * base.config.hopSamples < 2 ^ 32) :
    (∀ i < due, ((fun model => model.advance chunk)^[i] self).RowFits chunk) ↔ base.MadeFit start (made + due) := by
  induction due with
  | zero => simp [hmade]
  | succ due ih =>
    have hmul : (made + due) * base.config.hopSamples + base.config.hopSamples =
        (made + (due + 1)) * base.config.hopSamples := (Nat.succ_mul _ _).symm
    have hbefore := ih (by omega)
    have hiterate := hloaded.iterate chunk due
    constructor
    · intro hall
      obtain ⟨hsequences, hutcs⟩ := hbefore.mp fun i hi => hall i (Nat.lt_succ_of_lt hi)
      obtain ⟨hsequence, hutc, -⟩ := hall due (Nat.lt_succ_self due)
      rw [hiterate.sequence, UInt64.toNat_add, UInt64.toNat_ofNat_of_lt' (by unfold UInt64.size; omega),
        Nat.mod_eq_of_lt hsequences] at hsequence
      rw [hiterate.offset, hslot] at hutc
      refine ⟨by omega, ?_⟩
      intro i hi
      obtain hlt | rfl := Nat.lt_succ_iff_lt_or_eq.mp hi
      · exact hutcs i hlt
      · exact hutc
    · intro hfits i hi
      obtain hlt | rfl := Nat.lt_succ_iff_lt_or_eq.mp hi
      · exact hbefore.mpr ⟨by have := hfits.1; omega, fun j hj => hfits.2 j (by omega)⟩ i hlt
      · refine ⟨?_, ?_, ?_⟩
        · rw [hiterate.sequence, UInt64.toNat_add, UInt64.toNat_ofNat_of_lt' (by have := hfits.1; unfold UInt64.size; omega),
            Nat.mod_eq_of_lt (by have := hfits.1; omega)]
          have := hfits.1
          omega
        · rw [hiterate.offset, hslot]
          exact hfits.2 _ (by omega)
        · rw [hiterate.offset, hiterate.config]
          omega

theorem MadeFit.take {more : Nat} (h : base.MadeFit start more) (hle : made ≤ more) : base.MadeFit start made := by
  obtain ⟨hsequences, hutcs⟩ := h
  exact ⟨by omega, fun i hi => hutcs i (by omega)⟩

/-- A push returns exactly when the rows of the samples so far fit. -/
theorem push_run (hsettled : self.Settled) (hopen : ¬self.Refused chunk)
    (hloaded : Loaded base start mark samples made (self.joined chunk)) (hmade : made ≤ base.config.rowsIn samples.length)
    (hslot : chunk.slot = start.slot)
    (hend : chunk.startSampleOffset + chunk.samples.length = start.startSampleOffset + samples.length)
    (hinside : start.startSampleOffset + samples.length ≤ ft8ReceiveWindowSamples) (hfits : base.MadeFit start made) :
    Ends (push chunk) self
      (fun _ next => next = self.pushed chunk ∧ base.MadeFit start (base.config.rowsIn samples.length))
      (fun _ _ => ¬base.MadeFit start (base.config.rowsIn samples.length)) := by
  have hlegal : chunk.Legal := by
    unfold CanonicalSpectrumChunk.Legal
    omega
  have hrows : (self.joined chunk).RowsFit chunk ↔ base.MadeFit start (base.config.rowsIn samples.length) := by
    have hhops := SpectrumConfig.rowsIn_mul_le base.config samples.length
    have hdue := Nat.add_sub_of_le hmade
    rw [← hloaded.rowsDue hmade] at hdue
    rw [← hdue]
    refine madeFit_iff hloaded hslot hfits ?_
    rw [hdue]
    unfold ft8ReceiveWindowSamples at hinside
    omega
  refine (push_ends hlegal hsettled.bounded).imp ?_ ?_
  · rintro result next ⟨-, hfit, -, rfl, -⟩
    exact ⟨rfl, hrows.mp hfit⟩
  · rintro error next (⟨hrefused, -⟩ | ⟨-, ⟨-, hunfit⟩ | ⟨-, hmany⟩⟩)
    · exact absurd hrefused hopen
    · exact fun hfit => hunfit (hrows.mpr hfit)
    · have hfew := rowsDue_joined_le hsettled chunk
      omega

/-- Some samples of a run are pushed, and the rows made of them fit. -/
structure Drawing (base : SpectrumModel) (start : RunStart) (mark : Option SpectrumDiscontinuity)
    (samples : List Int16) (model : SpectrumModel) : Prop where
  settled : model.Settled
  loaded : Loaded base start mark samples (base.config.rowsIn samples.length) model
  cursor : model.cursor = some
    { processGeneration := start.processGeneration, streamGeneration := start.streamGeneration, slot := start.slot,
      nextSampleOffset := start.startSampleOffset + samples.length }
  fits : base.MadeFit start (base.config.rowsIn samples.length)

/-- A push of a run goes on with the run, or the rows so far do not fit. -/
theorem push_drawing (hsettled : self.Settled) (hopen : ¬self.Refused chunk)
    (hloaded : Loaded base start mark samples made (self.joined chunk)) (hmade : made ≤ base.config.rowsIn samples.length)
    (hprocess : chunk.processGeneration = start.processGeneration)
    (hstream : chunk.streamGeneration = start.streamGeneration) (hslot : chunk.slot = start.slot)
    (hend : chunk.startSampleOffset + chunk.samples.length = start.startSampleOffset + samples.length)
    (hinside : start.startSampleOffset + samples.length ≤ ft8ReceiveWindowSamples) (hfits : base.MadeFit start made) :
    Ends (push chunk) self (fun _ next => Drawing base start mark samples next)
      (fun _ _ => ¬base.MadeFit start (base.config.rowsIn samples.length)) := by
  refine (push_run hsettled hopen hloaded hmade hslot hend hinside hfits).imp ?_ (fun _ _ h => h)
  rintro result next ⟨rfl, hall⟩
  have hdrained := hloaded.drained hmade chunk
  refine ⟨settled_pushed hsettled chunk, ?_, ?_, hall⟩
  · exact ⟨hdrained.config, hdrained.fft, hdrained.pending, hdrained.offset, hdrained.mark, hdrained.sequence⟩
  · show some _ = some _
    rw [hprocess, hstream, hslot, hend]

/-! ## Between two windows -/

/-- Settled, and the last chunk has ended inside an early slot. -/
structure AtWindow (model : SpectrumModel) : Prop where
  settled : model.Settled
  cursor : ∀ cursor, model.cursor = some cursor →
    0 < cursor.nextSampleOffset ∧ cursor.slot.startUtcUnixMillis.toInt < lateSlotMillis

theorem atWindow_new {plan : Nat → FftPlan} {config : SpectrumConfig} {model : SpectrumModel}
    (hnew : SpectrumModel.new plan config = .ok model) : model.AtWindow := by
  refine ⟨settled_new hnew, ?_⟩
  intro cursor hcursor
  rw [new_ok hnew] at hcursor
  cases hcursor

theorem atWindow_reset (reason : SpectrumDiscontinuity) : (self.reset reason).AtWindow := by
  refine ⟨settled_reset reason, ?_⟩
  intro cursor hcursor
  cases hcursor

theorem AtWindow.takeSnapshot (h : self.AtWindow) : self.takeSnapshot.2.AtWindow := by
  refine ⟨settled_takeSnapshot h.settled, ?_⟩
  unfold SpectrumModel.takeSnapshot
  split
  · exact h.cursor
  · exact h.cursor

/-- Chunks with one start have one effect. -/
theorem effect_of_heads (h : start.Heads chunk) (hother : start.Heads other) : self.effect chunk = self.effect other := by
  unfold effect
  rw [h.process, h.stream, h.slot, h.offset, h.mark, hother.process, hother.stream, hother.slot, hother.offset,
    hother.mark]

/-- A window begins with nothing pending. -/
theorem AtWindow.begins (h : self.AtWindow) (window : Ft8ReceiveWindow) : ∃ mark, self.Begins window.start mark := by
  by_cases hnone : ∃ first, window.start.Heads first
  swap
  · exact ⟨none, fun chunk hheads => absurd ⟨chunk, hheads⟩ hnone⟩
  obtain ⟨first, hfirst⟩ := hnone
  refine ⟨(self.prepared first).pendingDiscontinuity, ?_⟩
  intro chunk hheads
  have hprepared : self.prepared chunk = self.prepared first := by
    unfold prepared
    rw [effect_of_heads hheads hfirst]
  refine ⟨?_, ?_, by rw [hprepared]⟩
  · rintro ⟨-, cursor, hcursor, -, -, -, hlate⟩
    obtain ⟨-, hearly⟩ := h.cursor cursor hcursor
    unfold lateSlotMillis at hearly
    unfold ft8ReceiveSlotMillis at hlate
    omega
  · by_contra hpending
    obtain ⟨hjoins, hsame⟩ := joins_of_pending hpending
    rw [hsame] at hpending
    obtain ⟨cursor, hcursor, -⟩ := h.settled.ended hpending
    obtain ⟨-, -, -, hnext⟩ := joins_cursor hjoins hcursor
    obtain ⟨hpos, -⟩ := h.cursor cursor hcursor
    rw [hnext, hheads.offset] at hpos
    exact absurd hpos (Nat.lt_irrefl 0)

end SpectrumModel

end Slotpilot.Audio

namespace Slotpilot.Daemon.LiveReceiveCoordinator

open Lib Audio

/-! ## The pushes of a window -/

variable {window : Ft8ReceiveWindow} {model base : SpectrumModel} {mark : Option SpectrumDiscontinuity} {offset : Nat}

/-- The next chunk of a window. -/
structure NextChunk (window : Ft8ReceiveWindow) (offset : Nat) (chunk : CanonicalSpectrumChunk) : Prop where
  heads : (window.start.next offset).Heads chunk
  samples : window.samples.take offset ++ chunk.samples =
    window.samples.take (offset + min (window.samples.length - offset) maxSpectrumChunkSamples)

theorem nextChunk_ok (window : Ft8ReceiveWindow) (h : offset < window.samples.length) :
    ∃ chunk, CanonicalSpectrumChunk.fromWindow window offset
        (min (window.samples.length - offset) maxSpectrumChunkSamples) none = .ok chunk ∧
      NextChunk window offset chunk := by
  have hsize := window.size
  have hcount : ((window.samples.drop offset).take (min (window.samples.length - offset) maxSpectrumChunkSamples)).length =
      min (window.samples.length - offset) maxSpectrumChunkSamples := by
    rw [List.length_take, List.length_drop]
    omega
  have hpos : 0 < min (window.samples.length - offset) maxSpectrumChunkSamples := by
    unfold maxSpectrumChunkSamples
    omega
  unfold CanonicalSpectrumChunk.fromWindow CanonicalSpectrumChunk.new
  rw [if_neg (by omega), dif_neg, dif_neg, if_neg]
  · refine ⟨_, rfl, ⟨rfl, rfl, rfl, (Nat.zero_add offset).symm, rfl⟩, ?_⟩
    exact (List.take_add ..).symm
  · rw [hcount]
    omega
  · rw [hcount]
    omega
  · intro hempty
    rw [hempty, List.length_nil] at hcount
    omega

/-- One round of pushing a window. -/
theorem pushWindow_round {Q : Unit → SpectrumModel → Prop} {E : SpectrumModelError → SpectrumModel → Prop}
    (h : offset < window.samples.length)
    (hpush : ∀ chunk, NextChunk window offset chunk → Ends (SpectrumModel.push chunk) model
      (fun _ next => Ends
        (pushWindow window (offset + min (window.samples.length - offset) maxSpectrumChunkSamples)) next Q E) E) :
    Ends (pushWindow window offset) model Q E := by
  have hsize := window.size
  obtain ⟨chunk, hchunk, hnext⟩ := nextChunk_ok window h
  have hoffset : tryU32 (offset : Int) = some offset := by
    rw [hsize, ft8ReceiveWindowSamples] at h
    exact tryU32_eq_some.mpr ⟨rfl, by omega⟩
  have hcount : tryU32 ((min (window.samples.length - offset) maxSpectrumChunkSamples : Nat) : Int) =
      some (min (window.samples.length - offset) maxSpectrumChunkSamples) := by
    refine tryU32_eq_some.mpr ⟨rfl, ?_⟩
    unfold maxSpectrumChunkSamples
    omega
  unfold pushWindow
  rw [if_pos h]
  dsimp only
  rw [hoffset, hcount, orThrow, orThrow, pure_bind, pure_bind, hchunk, fromResult, pure_bind, ends_bind]
  refine (hpush chunk hnext).imp ?_ (fun _ _ hfailed => hfailed)
  intro _ next hrest
  exact hrest

/-- The rest of a window. -/
theorem pushWindow_drawing
    (h : SpectrumModel.Drawing base window.start mark (window.samples.take offset) model)
    (hle : offset ≤ window.samples.length) :
    Ends (pushWindow window offset) model
      (fun _ next => SpectrumModel.Drawing base window.start mark window.samples next)
      (fun _ _ => ¬base.MadeFit window.start (base.config.rowsIn window.samples.length)) := by
  induction hrest : window.samples.length - offset using Nat.strong_induction_on generalizing offset model with
  | _ rest ih =>
    obtain hlt | rfl := Nat.lt_or_eq_of_le hle
    · refine pushWindow_round hlt ?_
      intro chunk hchunk
      have hsize := window.size
      have htaken : (window.samples.take offset).length = offset := List.length_take_of_le hle
      have hmore : (window.samples.take (offset + min (window.samples.length - offset) maxSpectrumChunkSamples)).length =
          offset + min (window.samples.length - offset) maxSpectrumChunkSamples :=
        List.length_take_of_le (by omega)
      have hheads : (window.start.next (window.samples.take offset).length).Heads chunk := by
        rw [htaken]
        exact hchunk.heads
      have hcursor := h.cursor
      obtain ⟨hopen, hloaded⟩ := SpectrumModel.loaded_next h.loaded hcursor hheads
      have hlength := congrArg List.length hchunk.samples
      rw [List.length_append, htaken, hmore] at hlength
      rw [hchunk.samples] at hloaded
      have hmono : base.config.rowsIn (window.samples.take offset).length ≤ base.config.rowsIn
          (window.samples.take (offset + min (window.samples.length - offset) maxSpectrumChunkSamples)).length :=
        SpectrumConfig.rowsIn_mono base.config (by omega)
      have hstart : window.start.startSampleOffset = 0 := rfl
      have hoffset : chunk.startSampleOffset = 0 + offset := hchunk.heads.offset
      refine (SpectrumModel.push_drawing h.settled hopen hloaded hmono hchunk.heads.process hchunk.heads.stream
        hchunk.heads.slot (by omega) (by omega) h.fits).imp ?_ ?_
      · intro _ next hnext
        refine ih _ ?_ hnext (by omega) rfl
        unfold maxSpectrumChunkSamples
        omega
      · intro _ _ hunfit hall
        refine hunfit (hall.take (SpectrumConfig.rowsIn_mono base.config ?_))
        rw [hmore]
        omega
    · unfold pushWindow
      rw [if_neg (Nat.lt_irrefl _)]
      rw [List.take_length] at h
      exact h

/-- **Pushing a window** returns exactly when it is drawable, and leaves the model for the next one. -/
theorem pushWindow_ends (h : model.AtWindow) (window : Ft8ReceiveWindow) :
    Ends (pushWindow window 0) model (fun _ next => Drawable model window ∧ next.AtWindow)
      (fun _ _ => ¬Drawable model window) := by
  obtain ⟨mark, hbegins⟩ := h.begins window
  have hsize := window.size
  have hfits : model.MadeFit window.start (model.config.rowsIn window.samples.length) ↔ Drawable model window := by
    rw [drawable_iff, hsize]
    constructor
    · intro hall
      exact ⟨Nat.le_of_eq (Nat.zero_add _), hall.1, hall.2⟩
    · intro hall
      exact ⟨hall.sequences, hall.utc⟩
  have hpos : 0 < window.samples.length := by
    rw [hsize]
    decide
  refine pushWindow_round hpos ?_
  intro chunk hchunk
  have hheads : window.start.Heads chunk := hchunk.heads
  have hsamples : chunk.samples =
      window.samples.take (0 + min (window.samples.length - 0) maxSpectrumChunkSamples) := hchunk.samples
  have hlength := congrArg List.length hsamples
  rw [List.length_take] at hlength
  have hstart : window.start.startSampleOffset = 0 := rfl
  have hoffset : chunk.startSampleOffset = 0 := hheads.offset
  have hnone : model.MadeFit window.start 0 := ⟨model.nextSequence.toNat_lt, fun i hi => absurd hi (Nat.not_lt_zero i)⟩
  obtain ⟨hopen, -, -⟩ := hbegins chunk hheads
  refine (SpectrumModel.push_drawing h.settled hopen (SpectrumModel.loaded_first hbegins hheads) (Nat.zero_le _)
    hheads.process hheads.stream hheads.slot (by omega) (by omega) hnone).imp ?_ ?_
  · intro _ next hnext
    rw [hsamples] at hnext
    refine (pushWindow_drawing hnext (by omega)).imp ?_ ?_
    · intro _ last hlast
      have hdrawable := hfits.mp hlast.fits
      refine ⟨hdrawable, hlast.settled, ?_⟩
      intro cursor hcursor
      rw [hlast.cursor] at hcursor
      cases hcursor
      exact ⟨by rw [hstart]; show 0 < 0 + window.samples.length; omega, hdrawable.utc⟩
    · intro _ _ hunfit hdrawable
      exact hunfit (hfits.mpr hdrawable)
  · intro _ _ hunfit hdrawable
    refine hunfit ((hfits.mpr hdrawable).take (SpectrumConfig.rowsIn_mono model.config ?_))
    omega

end Slotpilot.Daemon.LiveReceiveCoordinator
