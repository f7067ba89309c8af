import Slotpilot.Protocol.OfflineEncoder
import Slotpilot.Protocol.PayloadClasses

/-!
# Waveform synthesis

The synthesizer of one message into samples: the frame that the dependency makes of the message's bits, alone or inside a
slot of silence.

* `synthesize_ok`: the buffers that are returned, and `synthesize_error`: the failures that are left. The checks on the
  amplitude and on the buffer never fire, and the copy of the frame into the slot never leaves it;
* `synthesize_exact`: both.
-/

set_option autoImplicit false

namespace Slotpilot.Protocol

open Lib Domain

/-! ## Requests -/

/-- Where the frame stands. -/
inductive Ft8WaveformPlacement
  | frameOnly
  | fullSlot (startFrame : UInt32)
  deriving DecidableEq

/-- Failure of a synthesis. -/
inductive Ft8WaveformError
  | invalidAmplitude
  | invalidConfiguration (detail : String)
  | codec (error : Ft8CodecError)
  | pcm (error : PcmError)
  deriving DecidableEq

/-- A relative amplitude of full scale, in parts per thousand. -/
structure PcmAmplitudePermille where
  value : Nat
  range : 1 ≤ value ∧ value ≤ 1000

def PcmAmplitudePermille.new (value : Nat) : Except Ft8WaveformError PcmAmplitudePermille :=
  if h : 1 ≤ value ∧ value ≤ 1000 then .ok ⟨value, h⟩ else .error .invalidAmplitude

structure Ft8WaveformRequest where
  message : ResolvedFt8Message
  format : PcmFormat
  audioFrequency : AudioFrequency
  amplitude : PcmAmplitudePermille
  placement : Ft8WaveformPlacement

/-- What the synthesizer uses of the dependency besides the codec: the tones of a payload, and the samples of some tones
above a frequency. -/
structure MfskSynthesizer (Hashes : Type) extends MfskPacker Hashes where
  messageToTones : Vector UInt8 77 → Vector UInt8 79
  tonesToI16 : Vector UInt8 79 → (baseFrequency : Float32) → (amplitude : Int16) → List Int16

/-! ## Synthesis -/

def ft8FrameSamples : Nat := 151680

/-- The failure of a synthesis, or a copy outside a slice. -/
inductive SynthesisFailure
  | error (error : Ft8WaveformError)
  | outOfRange
  deriving DecidableEq

def invalidWaveform (detail : String) : SynthesisFailure := .error (.invalidConfiguration detail)

/-- Overwrites a range of a list with a list of its length. -/
def copyFromSlice {α : Type} (slot : List α) (start stop : Nat) (source : List α) : Option (List α) :=
  if start ≤ stop ∧ stop ≤ slot.length ∧ source.length = stop - start then
    some (slot.take start ++ source ++ slot.drop stop)
  else none

/-- The samples of a frame at its place. -/
def placedSamples (frame : List Int16) : Ft8WaveformPlacement → Except SynthesisFailure (List Int16)
  | .frameOnly => pure frame
  | .fullSlot startFrame => do
    let endFrame ← okOr (invalidWaveform "full-slot frame placement overflowed")
      (tryU32 (startFrame.toNat + ft8FrameSamples : Nat))
    if endFrame > ft8SlotSamples then
      throw (invalidWaveform "full-slot placement cannot contain the complete FT8 frame")
    else okOr .outOfRange (copyFromSlice (List.replicate ft8SlotSamples 0) startFrame.toNat endFrame frame)

/-- A synthesizer with its codec. -/
structure OfflineFt8Synthesizer (Hashes : Type) where
  codec : OfflineFt8Codec Hashes

section Synthesis

variable {Hashes : Type} (core : MfskSynthesizer Hashes)

/-- The amplitude as a sample. -/
def scaledAmplitude (amplitude : PcmAmplitudePermille) : Except SynthesisFailure Int16 := do
  let scaled ← okOr (invalidWaveform "PCM amplitude calculation overflowed") (tryU32 (32767 * amplitude.value : Nat))
  okOr (invalidWaveform "PCM amplitude exceeded signed 16-bit range") (tryI16 (scaled / 1000 : Nat))

/-- The frame of the dependency, if it has the length of a frame and stays within the amplitude. -/
def checkedFrame (frame : List Int16) (amplitude : Int16) : Except SynthesisFailure (List Int16) :=
  if frame.length ≠ ft8FrameSamples ∨
      frame.any (fun sample => decide (sample.toInt.natAbs > amplitude.toUInt16.toNat)) then
    throw (invalidWaveform "private FT8 synthesis violated the owned PCM bounds")
  else pure frame

def OfflineFt8Synthesizer.synthesize (self : OfflineFt8Synthesizer Hashes) (request : Ft8WaveformRequest) :
    Except SynthesisFailure PcmBuffer :=
  if request.format.sampleRateHz ≠ ft8PcmSampleRateHz ∨ request.format.channels ≠ 1 then
    throw (invalidWaveform "FT8 synthesis requires mono signed 16-bit PCM at 12,000 Hz")
  else if request.audioFrequency.hz > 5956 then
    throw (invalidWaveform "FT8 tone 7 must remain below the 6,000 Hz Nyquist frequency")
  else do
    let bits ← (self.codec.encode core.toMfskPacker request.message).mapError fun error => .error (.codec error)
    let tones := core.messageToTones (bits.map fun bit => if bit then 1 else 0)
    let amplitude ← scaledAmplitude request.amplitude
    let frame ← checkedFrame (core.tonesToI16 tones (Float32.ofNat request.audioFrequency.hz) amplitude) amplitude
    let samples ← placedSamples frame request.placement
    (PcmBuffer.new request.format samples).mapError fun error => .error (.pcm error)

/-! ## What is returned -/

/-- The largest sample of a request. -/
def peakOf (amplitude : PcmAmplitudePermille) : Nat := 32767 * amplitude.value / 1000

/-- The frame of some bits for a request. -/
def frameOf (request : Ft8WaveformRequest) (bits : Vector Bool 77) : List Int16 :=
  core.tonesToI16 (core.messageToTones (bits.map fun bit => if bit then 1 else 0))
    (Float32.ofNat request.audioFrequency.hz) (Int16.ofNat (peakOf request.amplitude))

/-- The samples are the frame, or a slot with the frame in it and silence around. -/
def Placed (frame samples : List Int16) : Ft8WaveformPlacement → Prop
  | .frameOnly => samples = frame
  | .fullSlot startFrame =>
    startFrame.toNat + ft8FrameSamples ≤ ft8SlotSamples ∧
      samples = List.replicate startFrame.toNat 0 ++ frame ++
        List.replicate (ft8SlotSamples - ft8FrameSamples - startFrame.toNat) 0

/-- The request is one for mono samples at the canonical rate, with every tone below half of it. -/
structure Audible (request : Ft8WaveformRequest) : Prop where
  rate : request.format.sampleRateHz = ft8PcmSampleRateHz
  mono : request.format.channels = 1
  frequency : request.audioFrequency.hz ≤ 5956

/-- The frame has the length and the range that the request asks for. -/
structure InBounds (request : Ft8WaveformRequest) (frame : List Int16) : Prop where
  length : frame.length = ft8FrameSamples
  range : ∀ sample ∈ frame, sample.toInt.natAbs ≤ peakOf request.amplitude

theorem peakOf_le (amplitude : PcmAmplitudePermille) : peakOf amplitude ≤ 32767 := by
  have hle := amplitude.range.2
  unfold peakOf
  omega

/-- The amplitude neither overflows nor leaves the range of a sample. -/
theorem scaledAmplitude_eq (amplitude : PcmAmplitudePermille) :
    scaledAmplitude amplitude = .ok (Int16.ofNat (peakOf amplitude)) := by
  have hle := peakOf_le amplitude
  have hvalue := amplitude.range.2
  have hscaled : tryU32 (32767 * amplitude.value : Nat) = some (32767 * amplitude.value) := by
    apply tryU32_eq_some.mpr
    exact ⟨rfl, by omega⟩
  have hfits : tryI16 (32767 * amplitude.value / 1000 : Nat) = some (Int16.ofNat (peakOf amplitude)) := by
    apply tryI16_eq_some.mpr
    exact Int16.toInt_ofNat_of_lt (by omega)
  unfold scaledAmplitude
  rw [exceptBind_ok]
  exact ⟨_, okOr_ok.mpr hscaled, okOr_ok.mpr hfits⟩

theorem toUInt16_peak (amplitude : PcmAmplitudePermille) :
    (Int16.ofNat (peakOf amplitude)).toUInt16.toNat = peakOf amplitude := by
  have hle := peakOf_le amplitude
  have hnat : (Int16.ofNat (peakOf amplitude)).toUInt16 = UInt16.ofNat (peakOf amplitude) := rfl
  rw [hnat]
  exact UInt16.toNat_ofNat_of_lt (by simp only [UInt16.size]; omega)

theorem checkedFrame_cases (request : Ft8WaveformRequest) (frame : List Int16) :
    (InBounds request frame ∧ checkedFrame frame (Int16.ofNat (peakOf request.amplitude)) = .ok frame) ∨
      ¬InBounds request frame ∧ checkedFrame frame (Int16.ofNat (peakOf request.amplitude)) =
        .error (invalidWaveform "private FT8 synthesis violated the owned PCM bounds") := by
  have hbounds : (frame.length ≠ ft8FrameSamples ∨ frame.any (fun sample => decide (sample.toInt.natAbs >
      (Int16.ofNat (peakOf request.amplitude)).toUInt16.toNat))) ↔ ¬InBounds request frame := by
    simp only [toUInt16_peak, List.any_eq_true, decide_eq_true_eq]
    constructor
    · rintro (hlength | ⟨sample, hmem, hloud⟩) hin
      · exact hlength hin.length
      · exact absurd (hin.range sample hmem) (not_le.mpr hloud)
    · intro hout
      by_contra hnone
      push Not at hnone
      exact hout ⟨hnone.1, hnone.2⟩
  unfold checkedFrame
  by_cases hin : InBounds request frame
  · exact .inl ⟨hin, if_neg fun h => hbounds.mp h hin⟩
  · exact .inr ⟨hin, if_pos (hbounds.mpr hin)⟩

/-! ## The copy into the slot -/

/-- The frame is copied to its place, or does not fit the slot. -/
theorem placedSamples_cases {frame : List Int16} (h : frame.length = ft8FrameSamples)
    (placement : Ft8WaveformPlacement) :
    (∃ samples, placedSamples frame placement = .ok samples ∧
        ∀ other, Placed frame other placement ↔ other = samples) ∨
      (∀ samples, ¬Placed frame samples placement) ∧
        ∃ detail ∈ ["full-slot frame placement overflowed", "full-slot placement cannot contain the complete FT8 frame"],
          placedSamples frame placement = .error (invalidWaveform detail) := by
  cases placement with
  | frameOnly => exact .inl ⟨frame, rfl, fun _ => Iff.rfl⟩
  | fullSlot startFrame =>
    simp only [placedSamples]
    by_cases hfits : startFrame.toNat + ft8FrameSamples ≤ ft8SlotSamples
    · left
      have hend : tryU32 (startFrame.toNat + ft8FrameSamples : Nat) = some (startFrame.toNat + ft8FrameSamples) := by
        apply tryU32_eq_some.mpr
        exact ⟨rfl, lt_of_le_of_lt hfits (by decide)⟩
      have hcopy : copyFromSlice (List.replicate ft8SlotSamples (0 : Int16)) startFrame.toNat
          (startFrame.toNat + ft8FrameSamples) frame = some (List.replicate startFrame.toNat 0 ++ frame ++
            List.replicate (ft8SlotSamples - ft8FrameSamples - startFrame.toNat) 0) := by
        have hroom : ft8SlotSamples - (startFrame.toNat + ft8FrameSamples) =
          ft8SlotSamples - ft8FrameSamples - startFrame.toNat := by omega
        have hstart : min startFrame.toNat ft8SlotSamples = startFrame.toNat := by omega
        unfold copyFromSlice
        rw [if_pos (by rw [List.length_replicate]; omega), List.take_replicate, List.drop_replicate, hstart, hroom]
      refine ⟨_, ?_, fun other => and_iff_right hfits⟩
      rw [exceptBind_ok]
      refine ⟨_, okOr_ok.mpr hend, ?_⟩
      rw [if_neg (not_lt.mpr hfits)]
      exact okOr_ok.mpr hcopy
    · right
      refine ⟨fun samples hplaced => hfits hplaced.1, ?_⟩
      cases hend : tryU32 (startFrame.toNat + ft8FrameSamples : Nat) with
      | none => exact ⟨_, List.mem_cons_self, rfl⟩
      | some endFrame =>
        obtain ⟨hvalue, -⟩ := tryU32_eq_some.mp hend
        have hlater : endFrame > ft8SlotSamples := by omega
        refine ⟨_, List.mem_cons_of_mem _ List.mem_cons_self, ?_⟩
        show (if _ then throw _ else _) = _
        exact if_pos hlater

theorem length_placed {frame samples : List Int16} (h : frame.length = ft8FrameSamples)
    {placement : Ft8WaveformPlacement} (hplaced : Placed frame samples placement) :
    samples.length = if placement = .frameOnly then ft8FrameSamples else ft8SlotSamples := by
  cases placement with
  | frameOnly => rw [hplaced, h, if_pos rfl]
  | fullSlot startFrame =>
    obtain ⟨hfits, rfl⟩ := hplaced
    rw [if_neg (by simp)]
    simp only [List.length_append, List.length_replicate, h]
    omega

/-- A slot has room for the frame at its place. -/
def Fits : Ft8WaveformPlacement → Prop
  | .frameOnly => True
  | .fullSlot startFrame => startFrame.toNat + ft8FrameSamples ≤ ft8SlotSamples

theorem placed_fits {frame : List Int16} {placement : Ft8WaveformPlacement} :
    (∃ samples, Placed frame samples placement) ↔ Fits placement := by
  cases placement with
  | frameOnly => exact iff_of_true ⟨frame, rfl⟩ trivial
  | fullSlot startFrame => exact ⟨fun ⟨_, hfits, _⟩ => hfits, fun hfits => ⟨_, hfits, rfl⟩⟩

theorem PcmBuffer.ext_of_held {first second : PcmBuffer} (hformat : first.format = second.format)
    (hsamples : first.samples = second.samples) : first = second := by
  cases first
  cases second
  cases hformat
  cases hsamples
  rfl

/-- Samples at their place are a buffer of mono samples. -/
theorem new_placed {format : PcmFormat} (hmono : format.channels = 1) {frame samples : List Int16}
    (h : frame.length = ft8FrameSamples) {placement : Ft8WaveformPlacement} (hplaced : Placed frame samples placement) :
    ∃ buffer, PcmBuffer.new format samples = .ok buffer ∧ buffer.format = format ∧ buffer.samples = samples := by
  have hlength := length_placed h hplaced
  have hbounded : ¬samples.length > maxOfflinePcmSamples := by
    rw [hlength]
    split <;> decide
  have hcomplete : samples.length % format.channels = 0 := by rw [hmono, Nat.mod_one]
  refine ⟨⟨format, samples, Nat.le_of_not_gt hbounded, hcomplete⟩, ?_, rfl, rfl⟩
  unfold PcmBuffer.new
  rw [dif_neg hbounded, dif_pos hcomplete]

/-! ## Exactness -/

/-- Texts of the configurations that the synthesizer refuses. -/
def refusals : List String :=
  ["FT8 synthesis requires mono signed 16-bit PCM at 12,000 Hz",
    "FT8 tone 7 must remain below the 6,000 Hz Nyquist frequency",
    "private FT8 synthesis violated the owned PCM bounds",
    "full-slot frame placement overflowed",
    "full-slot placement cannot contain the complete FT8 frame"]

/-- The buffer holds what the request asks for, made of the bits of its message. -/
structure Synthesized (synthesizer : OfflineFt8Synthesizer Hashes) (request : Ft8WaveformRequest) (bits : Vector Bool 77)
    (buffer : PcmBuffer) : Prop where
  audible : Audible request
  encoded : synthesizer.codec.encode core.toMfskPacker request.message = .ok bits
  inBounds : InBounds request (frameOf core request bits)
  format : buffer.format = request.format
  placed : Placed (frameOf core request bits) buffer.samples request.placement

/-- A synthesis of encoded bits returns the one buffer of the request, or refuses it. -/
theorem synthesize_encoded {self : OfflineFt8Synthesizer Hashes} {request : Ft8WaveformRequest} {bits : Vector Bool 77}
    (h : Audible request) (hbits : self.codec.encode core.toMfskPacker request.message = .ok bits) :
    (∃ buffer, self.synthesize core request = .ok buffer ∧
        ∀ other, Synthesized core self request bits other ↔ other = buffer) ∨
      (∀ other, ¬Synthesized core self request bits other) ∧
        ∃ detail ∈ refusals, self.synthesize core request = .error (invalidWaveform detail) := by
  have heq : self.synthesize core request = (do
      let frame ← checkedFrame (frameOf core request bits) (Int16.ofNat (peakOf request.amplitude))
      let samples ← placedSamples frame request.placement
      (PcmBuffer.new request.format samples).mapError fun error => .error (.pcm error)) := by
    unfold OfflineFt8Synthesizer.synthesize
    rw [if_neg (by simp [h.rate, h.mono]), if_neg (not_lt.mpr h.frequency), hbits, scaledAmplitude_eq]
    rfl
  rw [heq]
  rcases checkedFrame_cases request (frameOf core request bits) with ⟨hin, hframe⟩ | ⟨hout, hframe⟩
  swap
  · right
    rw [hframe]
    exact ⟨fun other hother => hout hother.inBounds, _, by simp [refusals], rfl⟩
  rw [hframe]
  rcases placedSamples_cases hin.length request.placement with ⟨samples, hsamples, hplaced⟩ | ⟨hnone, detail, hmem, hfails⟩
  · left
    obtain ⟨buffer, hbuffer, hformat, hheld⟩ := new_placed h.mono hin.length ((hplaced samples).mpr rfl)
    refine ⟨buffer, ?_, fun other => ⟨fun hother => ?_, ?_⟩⟩
    · simp only [exceptBind_ok, exceptMapError_ok]
      exact ⟨_, rfl, samples, hsamples, hbuffer⟩
    · apply PcmBuffer.ext_of_held
      · rw [hother.format, hformat]
      · rw [(hplaced _).mp hother.placed, hheld]
    · rintro rfl
      exact ⟨h, hbits, hin, hformat, (hplaced _).mpr hheld⟩
  · right
    refine ⟨fun other hother => hnone _ hother.placed, detail, ?_, ?_⟩
    · simp only [refusals, List.mem_cons, List.not_mem_nil, or_false] at hmem ⊢
      tauto
    · show (placedSamples _ _ >>= _) = _
      rw [hfails]
      rfl

/-- A synthesis that does not come to its frame fails with the codec's error or refuses the request. -/
theorem synthesize_refused {self : OfflineFt8Synthesizer Hashes} {request : Ft8WaveformRequest}
    (h : ∀ bits, Audible request → self.codec.encode core.toMfskPacker request.message ≠ .ok bits) :
    ∃ failure, self.synthesize core request = .error failure ∧
      ((∃ error, self.codec.encode core.toMfskPacker request.message = .error error ∧
        failure = .error (.codec error)) ∨ ∃ detail ∈ refusals, failure = invalidWaveform detail) := by
  unfold OfflineFt8Synthesizer.synthesize
  split_ifs with hformat hfrequency
  · exact ⟨_, rfl, .inr ⟨_, by simp [refusals], rfl⟩⟩
  · exact ⟨_, rfl, .inr ⟨_, by simp [refusals], rfl⟩⟩
  · push Not at hformat
    cases hbits : self.codec.encode core.toMfskPacker request.message with
    | ok bits => exact absurd hbits (h bits ⟨hformat.1, hformat.2, not_lt.mp hfrequency⟩)
    | error error => exact ⟨_, rfl, .inl ⟨error, rfl, rfl⟩⟩

/-- There is a buffer for the bits of a message when their frame is as asked for and the slot has room for it. -/
theorem synthesized_iff {self : OfflineFt8Synthesizer Hashes} {request : Ft8WaveformRequest} {bits : Vector Bool 77} :
    (∃ buffer, Synthesized core self request bits buffer) ↔
      Audible request ∧ self.codec.encode core.toMfskPacker request.message = .ok bits ∧
        InBounds request (frameOf core request bits) ∧ Fits request.placement := by
  constructor
  · rintro ⟨buffer, h⟩
    exact ⟨h.audible, h.encoded, h.inBounds, placed_fits.mp ⟨_, h.placed⟩⟩
  · rintro ⟨haudible, hencoded, hin, hfits⟩
    obtain ⟨samples, hplaced⟩ := placed_fits.mpr hfits
    obtain ⟨buffer, -, hformat, hheld⟩ := new_placed haudible.mono hin.length hplaced
    exact ⟨buffer, haudible, hencoded, hin, hformat, hheld ▸ hplaced⟩

/-- A synthesis returns the buffers that hold what was asked for, and otherwise fails with the codec's error or a refusal. -/
theorem synthesize_cases (self : OfflineFt8Synthesizer Hashes) (request : Ft8WaveformRequest) :
    (∀ buffer, self.synthesize core request = .ok buffer ↔ ∃ bits, Synthesized core self request bits buffer) ∧
      ∀ failure, self.synthesize core request = .error failure →
        (∃ error, self.codec.encode core.toMfskPacker request.message = .error error ∧ failure = .error (.codec error)) ∨
          ∃ detail ∈ refusals, failure = invalidWaveform detail := by
  by_cases hencoded : ∃ bits, Audible request ∧ self.codec.encode core.toMfskPacker request.message = .ok bits
  · obtain ⟨bits, haudible, hbits⟩ := hencoded
    have hsame (buffer : PcmBuffer) : (∃ bits', Synthesized core self request bits' buffer) ↔
        Synthesized core self request bits buffer := by
      refine ⟨?_, fun h => ⟨bits, h⟩⟩
      rintro ⟨bits', h⟩
      cases Except.ok.inj (h.encoded.symm.trans hbits)
      exact h
    simp only [hsame]
    rcases synthesize_encoded core haudible hbits with ⟨buffer, hok, hone⟩ | ⟨hnone, detail, hmem, hfails⟩
    · rw [hok]
      refine ⟨fun other => ?_, nofun⟩
      rw [hone, Except.ok.injEq, eq_comm]
    · rw [hfails]
      refine ⟨fun other => iff_of_false nofun (hnone other), ?_⟩
      rintro _ ⟨⟩
      exact .inr ⟨detail, hmem, rfl⟩
  · push Not at hencoded
    obtain ⟨failure, hfails, hkind⟩ := synthesize_refused core hencoded
    rw [hfails]
    refine ⟨fun buffer => iff_of_false nofun ?_, ?_⟩
    · rintro ⟨bits, h⟩
      exact hencoded bits h.audible h.encoded
    · rintro _ ⟨⟩
      exact hkind

/-- **Synthesis**. A buffer is returned exactly for a mono request at the canonical rate below the Nyquist frequency whose
message encodes to bits that the dependency turns into a frame of the right length and amplitude, with room for it in the
slot; the buffer holds that frame, in silence. Any other request fails with the codec's error or with one of five texts:
the remaining checks of the amplitude, of the copy and of the buffer do not fire. -/
theorem synthesize_exact (self : OfflineFt8Synthesizer Hashes) (request : Ft8WaveformRequest) :
    (∀ buffer, self.synthesize core request = .ok buffer ↔ ∃ bits, Synthesized core self request bits buffer) ∧
      ((∃ buffer, self.synthesize core request = .ok buffer) ↔ ∃ bits, Audible request ∧
        self.codec.encode core.toMfskPacker request.message = .ok bits ∧ InBounds request (frameOf core request bits) ∧
          Fits request.placement) ∧
      ∀ failure, self.synthesize core request = .error failure →
        (∃ error, self.codec.encode core.toMfskPacker request.message = .error error ∧ failure = .error (.codec error)) ∨
          ∃ detail ∈ refusals, failure = invalidWaveform detail := by
  have hexact := synthesize_cases core self request
  refine ⟨hexact.1, ?_, hexact.2⟩
  simp only [hexact.1, ← synthesized_iff]
  exact exists_comm

end Synthesis

end Slotpilot.Protocol
