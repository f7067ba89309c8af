import Slotpilot.Audio.SpectrumWork

/-!
# The passband of a spectrum

A policy names its passband in hertz and keeps a range of bin indices. The range is exactly the bins whose centre
frequency lies in the passband (`retained_iff`), and the frequency of a bin is its centre rounded to millihertz
(`binFrequency_nearest`). The bins of every row of a run are these (`Shows`), so `passband_selection` reads the rows of a
waterfall as the passband that the policy was made with.
-/

set_option autoImplicit false

namespace Slotpilot.Audio

open Lib

/-! ## Frequencies -/

/-- The centre of a bin in hertz. -/
def centreHz (index fftSize : Nat) : ℚ := ft8ReceiveSampleRateHz * index / fftSize

/-- The centre of a bin lies between two edges in hertz. -/
def InPassband (minFrequencyHz maxFrequencyHz fftSize index : Nat) : Prop :=
  minFrequencyHz ≤ centreHz index fftSize ∧ centreHz index fftSize ≤ maxFrequencyHz

/-- Bins that are those of a passband, in order, with their centres to the nearest millihertz. -/
structure OfPassband (minFrequencyHz maxFrequencyHz fftSize : Nat) (bins : List SpectrumBin) : Prop where
  retained : ∀ index, index ∈ bins.map SpectrumBin.index ↔ InPassband minFrequencyHz maxFrequencyHz fftSize index
  positive : ∀ bin ∈ bins, bin.index ≤ fftSize / 2
  nearest : ∀ bin ∈ bins, (bin.frequency : Int) = round (1000 * centreHz bin.index fftSize)
  increasing : bins.Pairwise fun a b => a.index < b.index ∧ a.frequency < b.frequency

/-- The edges in whole numbers. -/
theorem inPassband_iff {minFrequencyHz maxFrequencyHz fftSize index : Nat} (hpos : 0 < fftSize) :
    InPassband minFrequencyHz maxFrequencyHz fftSize index ↔
      minFrequencyHz * fftSize ≤ 12000 * index ∧ 12000 * index ≤ maxFrequencyHz * fftSize := by
  have hfft : (0 : ℚ) < fftSize := Nat.cast_pos.mpr hpos
  unfold InPassband centreHz ft8ReceiveSampleRateHz
  rw [le_div_iff₀ hfft, div_le_iff₀ hfft]
  norm_cast

/-- Adding half of the divisor rounds a quotient to the nearest integer. -/
theorem round_natCast_div (n : Nat) {d : Nat} (hpos : 0 < d) :
    round ((n : ℚ) / d) = (((n + d / 2) / d : Nat) : Int) := by
  have hd : (d : ℚ) ≠ 0 := Nat.cast_ne_zero.mpr (Nat.ne_of_gt hpos)
  have hhalf : (n : ℚ) / d + 1 / 2 = ((2 * n + d : Nat) : ℚ) / ((2 * d : Nat) : ℚ) := by
    push_cast
    field_simp
  have hsplit : (2 * n + d) / (2 * d) = (n + d / 2) / d := by
    rw [← Nat.div_div_eq_div_mul]
    congr 1
    omega
  rw [round_eq, hhalf, Rat.floor_natCast_div_natCast, ← hsplit]
  rfl

/-- The frequency of a bin is its centre, to the nearest millihertz. -/
theorem frequency_nearest (index : Nat) {fftSize : Nat} (hpos : 0 < fftSize) :
    (((index * ft8ReceiveSampleRateHz * 1000 + fftSize / 2) / fftSize : Nat) : Int) =
      round (1000 * centreHz index fftSize) := by
  have hcentre : 1000 * centreHz index fftSize = ((index * ft8ReceiveSampleRateHz * 1000 : Nat) : ℚ) / fftSize := by
    unfold centreHz
    push_cast
    ring
  rw [hcentre, round_natCast_div _ hpos]

/-- Bins of at most 4096 samples are more than a millihertz apart. -/
theorem frequency_lt {index next fftSize : Nat} (hfft : 0 < fftSize ∧ fftSize ≤ 4096) (h : index < next) :
    (index * ft8ReceiveSampleRateHz * 1000 + fftSize / 2) / fftSize <
      (next * ft8ReceiveSampleRateHz * 1000 + fftSize / 2) / fftSize := by
  have hstep : index * ft8ReceiveSampleRateHz * 1000 + fftSize / 2 + fftSize ≤
      next * ft8ReceiveSampleRateHz * 1000 + fftSize / 2 := by
    unfold ft8ReceiveSampleRateHz
    omega
  calc (index * ft8ReceiveSampleRateHz * 1000 + fftSize / 2) / fftSize
      < (index * ft8ReceiveSampleRateHz * 1000 + fftSize / 2) / fftSize + 1 := Nat.lt_succ_self _
    _ = (index * ft8ReceiveSampleRateHz * 1000 + fftSize / 2 + fftSize) / fftSize :=
        (Nat.add_div_right _ hfft.1).symm
    _ ≤ (next * ft8ReceiveSampleRateHz * 1000 + fftSize / 2) / fftSize := Nat.div_le_div_right hstep

/-- Rounding the lower edge up and the upper edge down keeps the bins of the passband. -/
theorem retained_iff {minFrequencyHz maxFrequencyHz fftSize index : Nat} (hpos : 0 < fftSize) :
    ((minFrequencyHz * fftSize + (ft8ReceiveSampleRateHz - 1)) / ft8ReceiveSampleRateHz ≤ index ∧
        index ≤ maxFrequencyHz * fftSize / ft8ReceiveSampleRateHz) ↔
      InPassband minFrequencyHz maxFrequencyHz fftSize index := by
  rw [inPassband_iff hpos]
  unfold ft8ReceiveSampleRateHz
  omega

/-! ## Policies -/

/-- The bounds of a policy other than that its passband has a bin. -/
structure PolicyInBounds (fftSize overlapSamples minFrequencyHz maxFrequencyHz waterfallRows publicationMillis : Nat) :
    Prop where
  size : minSpectrumFftSize ≤ fftSize ∧ fftSize ≤ maxSpectrumFftSize
  power : ∃ exponent, fftSize = 2 ^ exponent
  overlap : overlapSamples < fftSize ∧ overlapSamples ≤ fftSize * 3 / 4
  edges : minFrequencyHz < maxFrequencyHz ∧ maxFrequencyHz ≤ ft8ReceiveSampleRateHz / 2
  rows : 1 ≤ waterfallRows ∧ waterfallRows ≤ maxWaterfallRows
  cadence : minPublicationMillis ≤ publicationMillis ∧ publicationMillis ≤ maxPublicationMillis

section Policy

variable {fftSize overlapSamples minFrequencyHz maxFrequencyHz waterfallRows publicationMillis : Nat}

/-- A policy has the size it was made with and the layout of its checks. -/
theorem SpectrumConfig.new_ok {config : SpectrumConfig}
    (h : new fftSize overlapSamples minFrequencyHz maxFrequencyHz waterfallRows publicationMillis = .ok config) :
    config.fftSize = fftSize ∧
      SpectrumLayout.Accepted fftSize overlapSamples minFrequencyHz maxFrequencyHz waterfallRows publicationMillis
        config.layout := by
  unfold new at h
  split at h
  · rename_i layout hlayout
    cases h
    exact ⟨rfl, SpectrumLayout.accepted_of_new hlayout⟩
  · cases h

/-- A policy in bounds has at least one bin unless its passband has none. -/
theorem SpectrumLayout.new_inBounds
    (h : PolicyInBounds fftSize overlapSamples minFrequencyHz maxFrequencyHz waterfallRows publicationMillis) :
    SpectrumLayout.new fftSize overlapSamples minFrequencyHz maxFrequencyHz waterfallRows publicationMillis =
        .error .invalidPassband ↔
      maxFrequencyHz * fftSize / ft8ReceiveSampleRateHz <
        (minFrequencyHz * fftSize + (ft8ReceiveSampleRateHz - 1)) / ft8ReceiveSampleRateHz := by
  obtain ⟨hsize, ⟨exponent, rfl⟩, hoverlap, hedges, hrows, hcadence⟩ := h
  have hpower : 2 ^ exponent = 2 ^ (2 ^ exponent).log2 := by rw [Nat.log2_two_pow]
  have hlast : maxFrequencyHz * 2 ^ exponent / ft8ReceiveSampleRateHz ≤ 2048 := by
    have hmul : maxFrequencyHz * 2 ^ exponent ≤ 6000 * 4096 := Nat.mul_le_mul hedges.2 hsize.2
    unfold ft8ReceiveSampleRateHz
    omega
  unfold SpectrumLayout.new
  rw [if_neg (by omega), if_neg (by omega), if_neg (by omega), if_neg (by omega), if_neg (by omega)]
  dsimp only
  split
  · rename_i hempty
    exact iff_of_true rfl hempty
  · rename_i hbins
    have hcount : ¬maxFrequencyHz * 2 ^ exponent / ft8ReceiveSampleRateHz -
        (minFrequencyHz * 2 ^ exponent + (ft8ReceiveSampleRateHz - 1)) / ft8ReceiveSampleRateHz + 1 >
          maxSpectrumBins := by
      apply Nat.not_lt.mpr
      exact Nat.succ_le_succ ((Nat.sub_le _ _).trans hlast)
    rw [if_neg hcount]
    -- what else may fail is not about the passband
    split
    · exact iff_of_false (by simp) hbins
    · split
      · exact iff_of_false (by simp) hbins
      · exact iff_of_false (by simp) hbins

/-- A policy in bounds is refused for its passband when no bin lies in it. -/
theorem SpectrumConfig.new_invalidPassband
    (h : PolicyInBounds fftSize overlapSamples minFrequencyHz maxFrequencyHz waterfallRows publicationMillis) :
    new fftSize overlapSamples minFrequencyHz maxFrequencyHz waterfallRows publicationMillis = .error .invalidPassband ↔
      ∀ index, ¬InPassband minFrequencyHz maxFrequencyHz fftSize index := by
  have hpos : 0 < fftSize := Nat.lt_of_lt_of_le (by decide) h.size.1
  have hlayout : new fftSize overlapSamples minFrequencyHz maxFrequencyHz waterfallRows publicationMillis =
        .error .invalidPassband ↔
      SpectrumLayout.new fftSize overlapSamples minFrequencyHz maxFrequencyHz waterfallRows publicationMillis =
        .error .invalidPassband := by
    unfold new
    split
    · rename_i layout hlayout
      simp [hlayout]
    · rename_i error herror
      simp [herror]
  rw [hlayout, SpectrumLayout.new_inBounds h]
  simp only [← retained_iff hpos]
  constructor
  · intro hempty index hindex
    omega
  · intro hnone
    by_contra hbins
    exact hnone _ ⟨Nat.le_refl _, Nat.le_of_not_lt hbins⟩

end Policy

/-! ## Rows -/

/-- The indices and frequencies of the rows of a policy. -/
def SpectrumConfig.retained (config : SpectrumConfig) : List (Nat × Nat) :=
  (List.range' config.layout.firstBin config.binCount).map fun index =>
    (index, (index * ft8ReceiveSampleRateHz * 1000 + config.fftSize / 2) / config.fftSize)

/-- A model keeps its policy, and each of its rows has the bins of the policy. -/
def Shows (config : SpectrumConfig) (model : SpectrumModel) : Prop :=
  model.config = config ∧ ∀ row ∈ model.rows, row.bins.map (fun bin => (bin.index, bin.frequency)) = config.retained

namespace SpectrumModel

variable {config : SpectrumConfig} {self : SpectrumModel}

theorem map_binsOf (config : SpectrumConfig) (fft : FftPlan) (samples : List Int16) :
    (binsOf config fft samples).map (fun bin => (bin.index, bin.frequency)) = config.retained := by
  unfold binsOf SpectrumConfig.retained
  rw [List.map_map]
  rfl

theorem shows_reset (reason : SpectrumDiscontinuity) (h : Shows config self) : Shows config (self.reset reason) := by
  refine ⟨h.1, fun row hrow => ?_⟩
  cases hrow

/-- One more row with the bins of the policy. -/
theorem shows_appendRow (row : SpectrumRow) (h : Shows config self)
    (hrow : row.bins.map (fun bin => (bin.index, bin.frequency)) = config.retained) :
    Shows config (self.appendRow row) := by
  have happend : ∀ rows : List SpectrumRow, (∀ kept ∈ rows, kept ∈ self.rows) → ∀ kept ∈ rows ++ [row],
      kept.bins.map (fun bin => (bin.index, bin.frequency)) = config.retained := by
    intro rows hrows kept hkept
    obtain hold | hnew := List.mem_append.mp hkept
    · exact h.2 kept (hrows kept hold)
    · rw [List.mem_singleton.mp hnew]
      exact hrow
  unfold appendRow
  split
  · exact ⟨h.1, happend _ fun kept => List.mem_of_mem_tail⟩
  · exact ⟨h.1, happend _ fun kept => id⟩

theorem shows_markPublication (utc : Int64) (h : Shows config self) : Shows config (self.markPublication utc) := by
  obtain ⟨hconfig, -, -, -, -, -, -, hrows⟩ := @markPublication_fields self utc
  unfold Shows
  rw [hconfig, hrows]
  exact h

theorem prepareChunk_shows (chunk : CanonicalSpectrumChunk) :
    Leads (Shows config) (Shows config) (prepareChunk chunk) := by
  intro self h
  have hprepared : Shows config (self.prepared chunk) := by
    unfold prepared
    split
    · exact h
    · exact h
    · exact shows_reset _ h
  apply prepareChunk_ends.imp
  · rintro _ next ⟨-, rfl⟩
    exact hprepared
  · rintro error next ⟨-, -, rfl⟩
    exact h

/-- A row has the bins of the policy, and what fails after them leaves the rows. -/
theorem produceRow_shows (processGeneration : ProcessGeneration) (streamGeneration : StreamGeneration)
    (slot : Ft8ReceiveSlot) :
    Leads (Shows config) (Shows config) (produceRow processGeneration streamGeneration slot) := by
  intro self h
  unfold produceRow
  rw [ends_bind, ends_get, ends_bind, bins_ok, ends_fromResult]
  refine ⟨fun bins hbins => ?_, fun error herror => nomatch herror⟩
  obtain rfl : binsOf self.config self.fft (self.pendingSamples.take self.config.fftSize) = bins := by
    simpa using hbins
  have hbins := map_binsOf self.config self.fft (self.pendingSamples.take self.config.fftSize)
  simp only [ends_bind, ends_modify, ends_orThrow, ends_fromResult]
  refine ⟨fun nextSequence _ => ⟨fun utc _ => ?_, fun _ _ => h⟩, fun _ => h⟩
  have hnumbered : Shows config { self with nextSequence, pendingDiscontinuity := none } := h
  have hrow := shows_markPublication utc (shows_appendRow
    { sequence := self.nextSequence, processGeneration, streamGeneration, slot,
      startSampleOffset := self.pendingStartOffset, startUtcUnixMicros := utc,
      discontinuity := self.pendingDiscontinuity,
      bins := binsOf self.config self.fft (self.pendingSamples.take self.config.fftSize) } hnumbered (h.1 ▸ hbins))
  exact ⟨fun pendingStartOffset _ => hrow, fun _ => hrow⟩

theorem produceRows_shows (chunk : CanonicalSpectrumChunk) (budget produced : Nat) :
    Leads (Shows config) (Shows config) (produceRows chunk budget produced) := by
  induction budget generalizing produced with
  | zero =>
    unfold produceRows
    refine Leads.bind (leads_get fun _ => id) (fun _ => id) fun self => ?_
    split
    · exact leads_throw (fun _ => id) _
    · exact leads_pure (fun _ => id) _
  | succ budget ih =>
    unfold produceRows
    refine Leads.bind (leads_get fun _ => id) (fun _ => id) fun self => ?_
    split
    · exact Leads.bind (produceRow_shows _ _ _) (fun _ => id) fun _ => ih _
    · exact leads_pure (fun _ => id) _

theorem push_shows (chunk : CanonicalSpectrumChunk) : Leads (Shows config) (Shows config) (push chunk) := by
  unfold push
  refine Leads.bind (prepareChunk_shows chunk) (fun _ => id) fun _ => ?_
  refine Leads.bind (leads_modify fun _ => id) (fun _ => id) fun _ => ?_
  refine Leads.bind (produceRows_shows chunk _ _) (fun _ => id) fun producedRows => ?_
  refine Leads.bind (leads_orThrow (fun _ => id) _ _) (fun _ => id) fun nextSampleOffset => ?_
  refine Leads.bind (leads_modify fun _ => id) (fun _ => id) fun _ => ?_
  refine Leads.bind (leads_get fun _ => id) (fun _ => id) fun self => ?_
  dsimp only
  split
  · exact leads_pure (fun _ => id) _
  · exact leads_throw (fun _ => id) _

/-- Every operation keeps the bins of the rows, also one that fails. -/
theorem step_shows (op : SpectrumOp) (h : Shows config self) : Shows config (self.step op).2 := by
  cases op with
  | push chunk => exact ends_final.mp (push_shows chunk self h)
  | reset reason => exact shows_reset reason h
  | takeSnapshot =>
    show Shows config self.takeSnapshot.2
    unfold takeSnapshot
    split <;> exact h

end SpectrumModel

/-- The bins of a policy are those of its passband. -/
theorem SpectrumConfig.ofPassband
    {fftSize overlapSamples minFrequencyHz maxFrequencyHz waterfallRows publicationMillis : Nat} {config : SpectrumConfig}
    (h : new fftSize overlapSamples minFrequencyHz maxFrequencyHz waterfallRows publicationMillis = .ok config)
    {bins : List SpectrumBin} (hbins : bins.map (fun bin => (bin.index, bin.frequency)) = config.retained) :
    OfPassband minFrequencyHz maxFrequencyHz fftSize bins := by
  obtain ⟨hsize, haccepted⟩ := new_ok h
  have hpos : 0 < fftSize := Nat.lt_of_lt_of_le (by decide) haccepted.fft.1
  have hindices : bins.map SpectrumBin.index = List.range' config.layout.firstBin config.binCount := by
    have hfst := congrArg (List.map Prod.fst) hbins
    simpa [retained, Function.comp_def] using hfst
  have hmem (index : Nat) : index ∈ bins.map SpectrumBin.index ↔ InPassband minFrequencyHz maxFrequencyHz fftSize index := by
    have hordered := haccepted.bins
    rw [hindices, List.mem_range'_1, ← retained_iff hpos]
    have hfirst := haccepted.firstBin
    have hlast := haccepted.lastBin
    unfold binCount ft8ReceiveSampleRateHz
    omega
  have hfrequency : ∀ bin ∈ bins,
      bin.frequency = (bin.index * ft8ReceiveSampleRateHz * 1000 + fftSize / 2) / fftSize := by
    intro bin hbin
    have hpair : (bin.index, bin.frequency) ∈ config.retained := hbins ▸ List.mem_map_of_mem hbin
    obtain ⟨index, -, heq⟩ := List.mem_map.mp hpair
    obtain ⟨hindex, hfrequency⟩ := Prod.mk.inj heq
    rw [← hindex, ← hfrequency, hsize]
  have hordered : bins.Pairwise fun a b => a.index < b.index := by
    rw [← List.pairwise_map, hindices]
    exact List.pairwise_lt_range'
  refine ⟨hmem, fun bin hbin => ?_, fun bin hbin => ?_, ?_⟩
  · have hupper := ((inPassband_iff hpos).mp ((hmem bin.index).mp (List.mem_map_of_mem hbin))).2
    have hedge : maxFrequencyHz * fftSize ≤ 6000 * fftSize := Nat.mul_le_mul_right _ haccepted.passband.2
    omega
  · rw [hfrequency bin hbin]
    exact frequency_nearest bin.index hpos
  · refine hordered.imp_of_mem fun {a b} ha hb hlt => ⟨hlt, ?_⟩
    rw [hfrequency a ha, hfrequency b hb]
    exact frequency_lt ⟨hpos, haccepted.fft.2⟩ hlt

/-! ## The passband -/

/-- A policy keeps exactly the bins of its passband, all of them of positive frequency; each has a frequency to publish,
and every row of every run publishes exactly these bins. A policy in bounds is refused for its passband when no bin lies
in it. -/
theorem passband_selection
    (fftSize overlapSamples minFrequencyHz maxFrequencyHz waterfallRows publicationMillis : Nat) :
    (∀ config,
      SpectrumConfig.new fftSize overlapSamples minFrequencyHz maxFrequencyHz waterfallRows publicationMillis =
          .ok config →
        (∀ index, (config.layout.firstBin ≤ index ∧ index ≤ config.layout.lastBin) ↔
          InPassband minFrequencyHz maxFrequencyHz fftSize index) ∧
        config.layout.lastBin ≤ fftSize / 2 ∧
        (∀ index, InPassband minFrequencyHz maxFrequencyHz fftSize index →
          ∃ frequency, binFrequencyMillihertz index fftSize = .ok frequency ∧
            (frequency : Int) = round (1000 * centreHz index fftSize)) ∧
        ∀ plan model, SpectrumModel.new plan config = .ok model → ∀ ops : List SpectrumOp,
          ∀ row ∈ (final SpectrumModel.step model ops).rows,
            OfPassband minFrequencyHz maxFrequencyHz fftSize row.bins) ∧
      (PolicyInBounds fftSize overlapSamples minFrequencyHz maxFrequencyHz waterfallRows publicationMillis →
        (SpectrumConfig.new fftSize overlapSamples minFrequencyHz maxFrequencyHz waterfallRows publicationMillis =
            .error .invalidPassband ↔
          ∀ index, ¬InPassband minFrequencyHz maxFrequencyHz fftSize index)) := by
  refine ⟨fun config hnew => ?_, SpectrumConfig.new_invalidPassband⟩
  obtain ⟨hsize, haccepted⟩ := SpectrumConfig.new_ok hnew
  have hpos : 0 < fftSize := Nat.lt_of_lt_of_le (by decide) haccepted.fft.1
  have hlast : config.layout.lastBin ≤ fftSize / 2 := hsize ▸ config.sound.bins.2
  have hretained (index : Nat) : (config.layout.firstBin ≤ index ∧ index ≤ config.layout.lastBin) ↔
      InPassband minFrequencyHz maxFrequencyHz fftSize index := by
    rw [haccepted.firstBin, haccepted.lastBin]
    exact retained_iff hpos
  refine ⟨hretained, hlast, fun index hindex => ?_, fun plan model hmodel ops row hrow => ?_⟩
  · have hle : index ≤ fftSize / 2 := ((hretained index).mpr hindex).2.trans hlast
    have hfft := haccepted.fft.2
    have hfits : (index * ft8ReceiveSampleRateHz * 1000 + fftSize / 2) / fftSize < 2 ^ 32 := by
      rw [Nat.div_lt_iff_lt_mul hpos]
      unfold ft8ReceiveSampleRateHz
      omega
    refine ⟨_, okOr_ok.mpr (tryU32_eq_some.mpr ⟨rfl, hfits⟩), frequency_nearest index hpos⟩
  · have hstart : Shows config model := by
      rw [SpectrumModel.new_ok hmodel]
      exact ⟨rfl, fun row hrow => nomatch hrow⟩
    have hshows : Shows config (final SpectrumModel.step model ops) :=
      final_inv_all (fun self op => SpectrumModel.step_shows op) hstart ops
    exact SpectrumConfig.ofPassband hnew (hshows.2 row hrow)

/-- Three of the bins of 256 samples are not above 100 Hz, and none lies between 1 Hz and 2 Hz. -/
theorem passband_selection_small :
    (∀ index, index ≤ 2 ↔ InPassband 0 100 256 index) ∧
      (∀ row ∈ (final SpectrumModel.step freshModel [.push (silentChunk firstSlot)]).rows,
        OfPassband 0 100 256 row.bins) ∧
      SpectrumConfig.new 256 192 1 2 1 250 = .error .invalidPassband := by
  have hnew : SpectrumConfig.new 256 192 0 100 1 250 = .ok smallConfig := by rfl
  obtain ⟨hretained, -, -, hrows⟩ := (passband_selection 256 192 0 100 1 250).1 smallConfig hnew
  refine ⟨fun index => ?_, hrows flatPlan freshModel rfl _, ?_⟩
  · rw [← hretained index]
    simp [smallConfig]
  · have hbounds : PolicyInBounds 256 192 1 2 1 250 :=
      { size := by decide, power := ⟨8, rfl⟩, overlap := by decide, edges := by decide, rows := by decide,
        cadence := by decide }
    apply ((passband_selection 256 192 1 2 1 250).2 hbounds).mpr
    intro index hindex
    have hedges := (inPassband_iff (by decide)).mp hindex
    omega

end Slotpilot.Audio
