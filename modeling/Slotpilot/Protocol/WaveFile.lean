import Slotpilot.Lib.StateResult
import Slotpilot.Lib.TaggedChunks
import Slotpilot.Protocol.Decode

/-!
# RIFF/WAVE files

`encodePcmWave` writes a PCM buffer as the bytes of a WAVE file, `decodePcmWave` reads one back: it walks the chunks
inside the declared RIFF size and keeps the one format and the one data chunk. A checked read that fails is an error of
the source; an unchecked slice that leaves the bytes is the failure `outOfRange`, which the source would panic with. A
`usize` has 64 bits.
-/

set_option autoImplicit false

namespace Slotpilot.Protocol

open Lib

/-- Failure of WAVE serialization or parsing. -/
inductive PcmWaveError
  | fileTooLarge
  | invalidStructure
  | truncated
  | unsupportedFormat
  | missingOrDuplicateChunk
  | pcm (error : PcmError)
  deriving DecidableEq

/-- How parsing ends without a buffer: with an error, or with an access outside the bytes. -/
inductive WaveFailure
  | error (error : PcmWaveError)
  | outOfRange
  deriving DecidableEq

def headerBytes : Nat := 12
def chunkHeaderBytes : Nat := 8

/-- The bytes `RIFF`. -/
def riffTag : List UInt8 := [0x52, 0x49, 0x46, 0x46]
/-- The bytes `WAVE`. -/
def waveTag : List UInt8 := [0x57, 0x41, 0x56, 0x45]
/-- The bytes `fmt ` with the space. -/
def fmtTag : List UInt8 := [0x66, 0x6d, 0x74, 0x20]
/-- The bytes `data`. -/
def dataTag : List UInt8 := [0x64, 0x61, 0x74, 0x61]

/-! ## Reading bytes -/

/-- A checked sum of two sizes. -/
def checkedAdd (a b : Nat) : Option Nat := if a + b < 2 ^ 64 then some (a + b) else none

/-- The bytes of a range, if it lies inside them. -/
def getRange (bytes : List UInt8) (start stop : Nat) : Option (List UInt8) :=
  if start ≤ stop ∧ stop ≤ bytes.length then some ((bytes.drop start).take (stop - start)) else none

/-- The bytes of a range that the source indexes without a check. -/
def slice (bytes : List UInt8) (start stop : Nat) : Except WaveFailure (List UInt8) :=
  okOr .outOfRange (getRange bytes start stop)

/-- The little-endian field of some width at an offset. -/
def readField (width : Nat) (bytes : List UInt8) (offset : Nat) : Except PcmWaveError Nat := do
  let stop ← okOr .truncated (checkedAdd offset width)
  let value ← okOr .truncated (getRange bytes offset stop)
  pure (ofLeBytes value)

def readU16 : (bytes : List UInt8) → (offset : Nat) → Except PcmWaveError Nat := readField 2
def readU32 : (bytes : List UInt8) → (offset : Nat) → Except PcmWaveError Nat := readField 4

/-- Bytes of one sample. -/
def sampleBytes (sample : Int16) : List UInt8 := leBytes 2 sample.toUInt16.toNat

/-- The samples of complete pairs of bytes. -/
def samplesOf : List UInt8 → List Int16
  | low :: high :: bytes => (UInt16.ofNat (ofLeBytes [low, high])).toInt16 :: samplesOf bytes
  | _ => []

/-! ## Writing -/

/-- Encodes a checked buffer. -/
def encodePcmWave (buffer : PcmBuffer) : Except PcmWaveError (List UInt8) := do
  let dataSize ← okOr .fileTooLarge (tryU32 (buffer.samples.length * 2 : Nat))
  let riffSize ← okOr .fileTooLarge (tryU32 (36 + dataSize : Nat))
  let blockAlign ← okOr .fileTooLarge (tryU16 (buffer.format.channels * 2 : Nat))
  let byteRate ← okOr .fileTooLarge (tryU32 (buffer.format.sampleRateHz * blockAlign : Nat))
  let _ ← okOr .fileTooLarge (checkedAdd riffSize 8)
  pure (riffTag ++ leBytes 4 riffSize ++ (waveTag ++ fmtTag) ++ leBytes 4 16 ++ leBytes 2 1 ++
    leBytes 2 buffer.format.channels ++ leBytes 4 buffer.format.sampleRateHz ++ leBytes 4 byteRate ++
    leBytes 2 blockAlign ++ leBytes 2 16 ++ dataTag ++ leBytes 4 dataSize ++ buffer.samples.flatMap sampleBytes)

/-! ## Parsing -/

/-- The format of a `fmt ` chunk; bytes after the first 16 are ignored. -/
def parseFormat (bytes : List UInt8) : Except PcmWaveError PcmFormat :=
  if bytes.length < 16 then .error .truncated
  else do
    let encoding ← readU16 bytes 0
    let channels ← readU16 bytes 2
    let sampleRate ← readU32 bytes 4
    let byteRate ← readU32 bytes 8
    let blockAlign ← readU16 bytes 12
    let bitsPerSample ← readU16 bytes 14
    let expectedAlign ← okOr .unsupportedFormat (tryU16 (channels * 2 : Nat))
    let expectedRate ← okOr .unsupportedFormat (tryU32 (sampleRate * expectedAlign : Nat))
    if encoding ≠ 1 ∨ bitsPerSample ≠ 16 ∨ blockAlign ≠ expectedAlign ∨ byteRate ≠ expectedRate then
      throw .unsupportedFormat
    else (PcmFormat.new sampleRate channels).mapError .pcm

/-- What the chunks so far gave. -/
structure WaveChunks where
  format : Option PcmFormat
  data : Option (List UInt8)
  deriving DecidableEq

/-- Keeps what a chunk gives. -/
def takeChunk (parsed : WaveChunks) (id body : List UInt8) : Except PcmWaveError WaveChunks :=
  if id = fmtTag then
    if parsed.format.isSome then .error .missingOrDuplicateChunk
    else do
      let format ← parseFormat body
      pure { parsed with format := some format }
  else if id = dataTag then
    if parsed.data.isSome then .error .missingOrDuplicateChunk else .ok { parsed with data := some body }
  else .ok parsed

/-- One pass of the loop: reads the chunk at an offset and returns the offset after it. -/
def readChunk (bytes : List UInt8) (riffSize offset : Nat) (parsed : WaveChunks) :
    Except WaveFailure (Nat × WaveChunks) := do
  let headerEnd ← okOr (.error .invalidStructure) (checkedAdd offset chunkHeaderBytes)
  if headerEnd > riffSize then throw (.error .truncated)
  else do
    let id ← slice bytes offset (offset + 4)
    let chunkSize ← (readU32 bytes (offset + 4)).mapError .error
    let chunkStart := headerEnd
    let chunkEnd ← okOr (.error .fileTooLarge) (checkedAdd chunkStart chunkSize)
    if chunkEnd > riffSize then throw (.error .truncated)
    else do
      let body ← slice bytes chunkStart chunkEnd
      let parsed ← (takeChunk parsed id body).mapError .error
      let next ← okOr (.error .fileTooLarge) (checkedAdd chunkEnd (chunkSize % 2))
      if next > riffSize then throw (.error .truncated) else pure (next, parsed)

/-- Each pass ends past its header, inside the RIFF size. -/
theorem readChunk_advances {bytes : List UInt8} {riffSize offset next : Nat} {parsed later : WaveChunks}
    (h : readChunk bytes riffSize offset parsed = .ok (next, later)) : offset + 8 ≤ next ∧ next ≤ riffSize := by
  have hadd {a b c : Nat} (h : checkedAdd a b = some c) : c = a + b := by
    unfold checkedAdd at h
    split at h
    · exact (Option.some.inj h).symm
    · cases h
  simp only [readChunk, exceptBind_ok, okOr_ok] at h
  obtain ⟨headerEnd, hheader, h⟩ := h
  split at h
  · cases h
  simp only [exceptBind_ok, okOr_ok] at h
  obtain ⟨id, -, chunkSize, -, chunkEnd, hend, h⟩ := h
  split at h
  · cases h
  simp only [exceptBind_ok, okOr_ok] at h
  obtain ⟨body, -, kept, -, after, hafter, h⟩ := h
  split at h
  · cases h
  · cases h
    have h1 := hadd hheader
    have h2 := hadd hend
    have h3 := hadd hafter
    unfold chunkHeaderBytes at h1
    omega

/-- The loop over the chunks, from an offset to the RIFF size. -/
def readChunks (bytes : List UInt8) (riffSize offset : Nat) (parsed : WaveChunks) : Except WaveFailure WaveChunks :=
  if offset < riffSize then
    match h : readChunk bytes riffSize offset parsed with
    | .ok (next, later) => readChunks bytes riffSize next later
    | .error failure => .error failure
  else .ok parsed
termination_by riffSize - offset
decreasing_by
  have hadvances := readChunk_advances h
  omega

/-- Parses bounded signed 16-bit PCM from the bytes of a WAVE file. -/
def decodePcmWave (bytes : List UInt8) : Except WaveFailure PcmBuffer :=
  if bytes.length < headerBytes then .error (.error .truncated)
  else do
    let riff ← slice bytes 0 4
    let wave ← slice bytes 8 12
    if riff ≠ riffTag ∨ wave ≠ waveTag then throw (.error .invalidStructure)
    else do
      let declared ← (readU32 bytes 4).mapError .error
      let riffSize ← okOr (.error .fileTooLarge) (checkedAdd declared 8)
      if riffSize > bytes.length then throw (.error .truncated)
      else if riffSize < headerBytes then throw (.error .invalidStructure)
      else do
        let parsed ← readChunks bytes riffSize headerBytes { format := none, data := none }
        let format ← okOr (.error .missingOrDuplicateChunk) parsed.format
        let data ← okOr (.error .missingOrDuplicateChunk) parsed.data
        if data.length % 2 ≠ 0 ∨ data.length / 2 > maxOfflinePcmSamples then throw (.error .fileTooLarge)
        else (PcmBuffer.new format (samplesOf data)).mapError fun error => .error (.pcm error)

end Slotpilot.Protocol
