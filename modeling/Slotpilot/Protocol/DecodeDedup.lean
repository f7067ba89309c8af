import Slotpilot.Protocol.OfflineAdapter
import Slotpilot.Protocol.DecodeOrder
import Slotpilot.Lib.KeyedMax

/-!
# The reports of a decoder

The dependency may find one report several times. `retain` is the absorption of candidates by start offset, frequency and
message with the signal-to-noise ratio as score, so the decoder returns the strongest candidate of each report, each once,
in the deterministic order (`decode_deduplicates`).
-/

set_option autoImplicit false

namespace Slotpilot.Protocol

open Lib Domain

/-- What tells one report from another. -/
def reportKey (decode : Ft8Decode) : Int × Nat × ClassifiedFt8Message :=
  (decode.metadata.startOffsetMillis, decode.metadata.audioFrequencyHz, decode.message)

def signalToNoise (decode : Ft8Decode) : Int := decode.metadata.signalToNoiseDb

/-- The strongest candidate of each report, each once and no others, in the deterministic order. -/
structure Deduplicated (candidates owned : List Ft8Decode) : Prop where
  covers : ∀ candidate ∈ candidates, ∃ decode ∈ owned, reportKey decode = reportKey candidate
  once : (owned.map reportKey).Nodup
  offered : ∀ decode ∈ owned, decode ∈ candidates
  strongest : ∀ decode ∈ owned, ∀ candidate ∈ candidates, reportKey candidate = reportKey decode →
    candidate.metadata.signalToNoiseDb ≤ decode.metadata.signalToNoiseDb
  ordered : owned.Pairwise fun a b => (Ft8Decode.deterministicCmp a b).isLE = true

namespace OfflineFt8Decoder

/-- Retaining is absorbing by the key of a report. -/
theorem retain_eq_absorb (candidate : Ft8Decode) (owned : List Ft8Decode) :
    retain candidate owned = absorb reportKey signalToNoise candidate owned := by
  induction owned with
  | nil => rfl
  | cons existing rest ih =>
    have hkey : reportKey existing = reportKey candidate ↔
        existing.metadata.startOffsetMillis = candidate.metadata.startOffsetMillis ∧
          existing.metadata.audioFrequencyHz = candidate.metadata.audioFrequencyHz ∧
          existing.message = candidate.message := by
      unfold reportKey
      rw [Prod.mk.injEq, Prod.mk.injEq]
    rw [retain, absorb, ih]
    by_cases hsame : reportKey existing = reportKey candidate
    · rw [if_pos hsame, if_pos (hkey.mp hsame)]
      rfl
    · rw [if_neg hsame, if_neg (fun h => hsame (hkey.mpr h))]

/-- When every candidate converts, the loop retains one after another. -/
theorem foldlM_retain {ε α : Type} (convert : α → Except ε Ft8Decode) {results : List α} {candidates : List Ft8Decode}
    (h : results.mapM convert = .ok candidates) (owned : List Ft8Decode) :
    results.foldlM (fun owned result => do
      let candidate ← convert result
      pure (retain candidate owned)) owned =
        (.ok (candidates.foldl (fun owned candidate => retain candidate owned) owned) : Except ε (List Ft8Decode)) := by
  rw [mapM_ok] at h
  induction h generalizing owned with
  | nil => rfl
  | cons hresult _ ih =>
    rw [List.foldlM_cons, hresult]
    exact ih _

variable {Hashes : Type} (core : MfskCore Hashes)

/-- The raw candidates of the dependency for a buffer. -/
def rawCandidates (pcm : PcmBuffer) (config : Ft8DecodeConfig) : List DecodeResult :=
  core.decodeBlock pcm.samples (Float32.ofNat config.minimumAudioFrequency.hz)
    (Float32.ofNat config.maximumAudioFrequency.hz) (Float32.ofNat config.syncThresholdMilli / 1000)
    (match config.depth with
      | .normal => .bpAll
      | .deep => .bpAllOsd)
    config.maximumCandidates

/-- **Deduplication**: when the window and the environment are accepted and every raw candidate converts, the decoder
returns the strongest candidate of each report, each report once. -/
theorem decode_deduplicates (environment : String → Bool) (decoder : OfflineFt8Decoder Hashes) {pcm : PcmBuffer}
    (config : Ft8DecodeConfig) {candidates : List Ft8Decode}
    (hwindow : pcm.format.sampleRateHz = ft8PcmSampleRateHz ∧ pcm.format.channels = 1 ∧
      pcm.duration.frames = ft8SlotSamples)
    (hunset : ∀ name ∈ tuningVariables, environment name = false)
    (hconvert : (rawCandidates core pcm config).mapM (decoder.convert core) = .ok candidates) :
    ∃ owned, decoder.decode core environment pcm config = .ok owned ∧ Deduplicated candidates owned := by
  obtain ⟨hrate, hchannels, hframes⟩ := hwindow
  have htuned : ¬tuningVariables.any environment = true := by simpa using hunset
  have hkept : KeyedMax reportKey signalToNoise candidates
      (candidates.foldl (fun owned candidate => retain candidate owned) []) := by
    simp only [retain_eq_absorb]
    exact fold_keyedMax candidates
  have hsorted := hkept.perm (Ft8Decode.sortDeterministically_perm _)
  refine ⟨_, ?_, hsorted.covers, hsorted.once, hsorted.offered, hsorted.best,
    Ft8Decode.sortDeterministically_pairwise _⟩
  unfold decode
  rw [if_neg (by simp [hrate, hchannels, hframes]), if_neg htuned]
  show ((rawCandidates core pcm config).foldlM _ [] >>= _) = _
  rw [foldlM_retain (decoder.convert core) hconvert]
  rfl

/-! ## A repeated report -/

/-- A raw candidate of the empty payload at 1500 Hz. -/
def rawSample (snrDb : Float32) : DecodeResult :=
  { freqHz := 1500, dtSec := 0.5, snrDb, message77 := Vector.replicate 77 0 }

/-- A dependency that finds one report three times. -/
def repeatingCore : MfskCore Unit where
  unpack77WithHash _ _ := some "HELLO"
  decodeBlock _ _ _ _ _ _ := [rawSample (-10), rawSample (-5), rawSample (-7)]

/-- The report with a signal-to-noise ratio. -/
def sampleReport (signalToNoiseDb : Int) : Ft8Decode :=
  { metadata := { startOffsetMillis := 500, audioFrequencyHz := 1500, signalToNoiseDb }
    message := .freeText ⟨"HELLO", by decide⟩ }

theorem one_channel : 1 ≤ 1 ∧ 1 ≤ 8 := by simp

/-- A buffer of one slot. -/
def slotBuffer (samples : List Int16) (h : samples.length = ft8SlotSamples) : PcmBuffer :=
  { format := ⟨12000, 1, by decide, one_channel⟩, samples
    bounded := by rw [h]; decide
    complete := Nat.mod_one _ }

theorem slotBuffer_window (samples : List Int16) (h : samples.length = ft8SlotSamples) :
    (slotBuffer samples h).format.sampleRateHz = ft8PcmSampleRateHz ∧ (slotBuffer samples h).format.channels = 1 ∧
      (slotBuffer samples h).duration.frames = ft8SlotSamples := by
  refine ⟨rfl, rfl, ?_⟩
  show samples.length / 1 = _
  rw [Nat.div_one, h]

/-- One slot of silence. -/
def silentSlot : PcmBuffer := slotBuffer (List.replicate ft8SlotSamples 0) List.length_replicate

/-- A search up to 3000 Hz. -/
def sampleSearch : Ft8DecodeConfig :=
  { minimumAudioFrequency := ⟨200, by decide⟩, maximumAudioFrequency := ⟨3000, by decide⟩, syncThresholdMilli := 1200
    depth := .normal, maximumCandidates := 100, frequencies := by decide, threshold := by decide, candidates := by decide }

theorem decodeBits_sample :
    OfflineFt8Codec.decodeBits repeatingCore ⟨()⟩ ((Vector.replicate 77 (0 : UInt8)).map fun bit => bit ≠ 0) =
      .ok (sampleReport 0).message := by
  have hbits : ((Vector.replicate 77 (0 : UInt8)).map fun bit => decide (bit ≠ 0)).map
      (fun bit => if bit then (1 : UInt8) else 0) = Vector.replicate 77 0 := by
    rw [Vector.map_replicate, Vector.map_replicate]
    rfl
  unfold OfflineFt8Codec.decodeBits
  rw [hbits]
  unfold classifyBits readBits
  rw [Vector.toList_replicate]
  rfl

theorem convert_sample {snrDb : Float32} {signalToNoiseDb : Int}
    (h : roundedI16 (snrDb + phase1SnrCalibrationDb) = .ok signalToNoiseDb) :
    convert repeatingCore ⟨⟨()⟩⟩ (rawSample snrDb) = .ok (sampleReport signalToNoiseDb) := by
  have hfrequency : roundedU32 1500 = .ok 1500 := by decide
  have hoffset : roundedI32 (0.5 * 1000) = .ok 500 := by decide
  unfold convert rawSample
  rw [hfrequency, hoffset, h, decodeBits_sample]
  rfl

/-- The strongest of three candidates is kept. -/
theorem decode_deduplicates_repeated :
    ∃ owned, decode repeatingCore (fun _ => false) ⟨⟨()⟩⟩ silentSlot sampleSearch = .ok owned ∧
      Deduplicated [sampleReport (-2), sampleReport 3, sampleReport 1] owned := by
  have hconvert : (rawCandidates repeatingCore silentSlot sampleSearch).mapM (convert repeatingCore ⟨⟨()⟩⟩) =
      .ok [sampleReport (-2), sampleReport 3, sampleReport 1] := by
    rw [mapM_ok]
    have hweak : roundedI16 (-10 + phase1SnrCalibrationDb) = .ok (-2) := by decide
    have hstrong : roundedI16 (-5 + phase1SnrCalibrationDb) = .ok 3 := by decide
    have hmiddle : roundedI16 (-7 + phase1SnrCalibrationDb) = .ok 1 := by decide
    exact .cons (convert_sample hweak) (.cons (convert_sample hstrong) (.cons (convert_sample hmiddle) .nil))
  apply decode_deduplicates repeatingCore (fun _ => false) ⟨⟨()⟩⟩ sampleSearch (slotBuffer_window _ _)
  · exact fun _ _ => rfl
  · exact hconvert

end OfflineFt8Decoder

end Slotpilot.Protocol
