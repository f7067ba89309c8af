import Slotpilot.Protocol.Decode
import Slotpilot.Lib.StateResult
import Slotpilot.Lib.Text

/-!
# The offline adapter

The conversion of the results of the message dependency into owned values: the classification of a payload by its text and
its bits, and the decoder of one slot. The dependency is a parameter (`MfskCore`): it unpacks payloads to text and finds
candidates in samples.
-/

set_option autoImplicit false

namespace Slotpilot.Protocol

open Lib Domain

/-! ## The dependency -/

/-- Search depth of the dependency. -/
inductive DecodeDepth
  | bpAll
  | bpAllOsd
  deriving DecidableEq

/-- One raw candidate. -/
structure DecodeResult where
  freqHz : Float32
  dtSec : Float32
  snrDb : Float32
  message77 : Vector UInt8 77

/-- What the adapter uses of the dependency: the text of a payload with some known callsigns, and the candidates of some
samples between two frequencies. -/
structure MfskCore (Hashes : Type) where
  unpack77WithHash : Vector UInt8 77 → Hashes → Option String
  decodeBlock : (samples : List Int16) → (minimum maximum syncThreshold : Float32) → DecodeDepth →
    (maximumCandidates : Nat) → List DecodeResult

/-! ## Text -/

def isGrid (value : String) : Bool :=
  match value.toList with
  | [a, b, c, d] =>
    decide ('A' ≤ a ∧ a ≤ 'R') && decide ('A' ≤ b ∧ b ≤ 'R') && c.isDigit && d.isDigit
  | _ => false

def isReport (value : String) : Bool :=
  match value.toList with
  | [sign, tens, ones] => (sign == '+' || sign == '-') && tens.isDigit && ones.isDigit
  | _ => false

/-- The text without a leading `R`. -/
def stripRoger (value : String) : Option String :=
  match value.toList with
  | 'R' :: rest => some (String.ofList rest)
  | _ => none

def classifyPayload (payload : String) : Option Ft8MessageClass :=
  if payload = "RRR" then some .roger
  else if payload = "73" then some .ending73
  else if payload = "RR73" then some .endingRr73
  else if isGrid payload then some .directedGrid
  else if isReport payload then some .signalReport
  else if (stripRoger payload).any isReport then some .rogerSignalReport
  else none

/-- The first byte of a text, when a character ends there. -/
def splitFirst : List Char → Option (Char × List Char)
  | [] => none
  | c :: rest => if c.utf8Size = 1 then some (c, rest) else none

/-- The two digits of a report that has one, with its optional roger; none when the text stays as it is. -/
def normalizedPayload (payload : String) : Option String := do
  let (roger, numeric) := match payload.toList with
    | 'R' :: numeric => (['R'], numeric)
    | numeric => ([], numeric)
  let (sign, digits) ← splitFirst numeric
  if ¬(sign = '+' ∨ sign = '-') ∨ byteLength digits ≥ 2 then none
  else
    let value ← parseUnsigned 255 digits
    some (String.ofList (roger ++ [sign] ++ (Nat.toDigits 10 value).leftpad 2 '0'))

/-- Pads a report of one digit with a zero. -/
def normalizeStandardReport (text : String) : String :=
  match splitWhitespace text with
  | first :: second :: payload :: _ =>
    match normalizedPayload payload with
    | some report => first ++ " " ++ second ++ " " ++ report
    | none => text
  | _ => text

/-- The text between angle brackets, or the token itself. -/
def unbracketed (token : String) : String :=
  match token.toList with
  | '<' :: inner => if inner.getLast? = some '>' then String.ofList inner.dropLast else token
  | _ => token

/-! ## Classification -/

/-- A resolved message, if the tokens are callsigns. -/
def resolvedMessage (text sender : String) (recipient : Option String) (messageClass : Ft8MessageClass) :
    Option ResolvedFt8Message := do
  let sender ← (FullCallsign.fromStr (unbracketed sender)).toOption
  let recipient ← match recipient with
    | none => some none
    | some recipient => (FullCallsign.fromStr (unbracketed recipient)).toOption.map some
  (ResolvedFt8Message.new text sender recipient messageClass).toOption

/-- A classified message whose construction failed. -/
def adapted {α : Type} (classified : α → ClassifiedFt8Message) (detail : String) :
    Except Ft8MessageError α → Except Ft8CodecError ClassifiedFt8Message
  | .ok message => .ok (classified message)
  | .error _ => .error (.adapter detail)

def unsupported (text detail : String) : Except Ft8CodecError ClassifiedFt8Message :=
  adapted .unsupported "unsupported FT8 message exceeded the owned boundary" (ExplainedFt8Message.new text detail)

def ambiguous (text : String) : Except Ft8CodecError ClassifiedFt8Message :=
  adapted .ambiguous "ambiguous FT8 message exceeded the owned boundary"
    (ExplainedFt8Message.new text "decoded FT8 identity cannot be mapped unambiguously to owned full callsigns")

/-- A resolved message, or an ambiguous one when its tokens are no callsigns. -/
def resolvedOrAmbiguous (text sender : String) (recipient : Option String) (messageClass : Ft8MessageClass) :
    Except Ft8CodecError ClassifiedFt8Message :=
  match resolvedMessage text sender recipient messageClass with
  | some message => .ok (.resolved message)
  | none => ambiguous text

/-- A message with a sender, a recipient and a payload. -/
def classifyDirected (text sender recipient payload : String) (bitClass : Option Ft8MessageClass) :
    Except Ft8CodecError ClassifiedFt8Message :=
  match bitClass.or (classifyPayload payload) with
  | some messageClass => resolvedOrAmbiguous text sender (some recipient) messageClass
  | none => unsupported text "directed FT8 payload is outside the reviewed Phase 1 message classes"

def classifySupported (text : String) (bitClass : Option Ft8MessageClass) :
    Except Ft8CodecError ClassifiedFt8Message :=
  match splitWhitespace text with
  | ["CQ", sender] => resolvedOrAmbiguous text sender none .generalCall
  | [first, second, third] =>
    if first = "CQ" ∧ isGrid third then resolvedOrAmbiguous text second none .generalCall
    else classifyDirected text first second third bitClass
  | _ => unsupported text "FT8 message shape is outside the reviewed Phase 1 message matrix"

/-- The number in some bits, most significant first. -/
def readBits (bits : Vector UInt8 77) (start length : Nat) : Nat :=
  ((bits.toList.drop start).take length).foldl (fun value bit => value <<< 1 ||| bit.toNat) 0

def directedClassFromBits (bits : Vector UInt8 77) (i3 : Nat) : Option Ft8MessageClass :=
  if i3 = 1 ∨ i3 = 2 then
    let gridOrReport := readBits bits 59 15
    if gridOrReport ≤ 32400 then some .directedGrid
    else
      let reportCode := gridOrReport - 32400
      if bits[58] = 0 ∧ reportCode = 2 then some .roger
      else if bits[58] = 0 ∧ reportCode = 3 then some .endingRr73
      else if bits[58] = 0 ∧ reportCode = 4 then some .ending73
      else if bits[58] = 0 ∧ reportCode ≥ 5 then some .signalReport
      else if bits[58] = 1 ∧ reportCode ≥ 5 then some .rogerSignalReport
      else none
  else if i3 = 4 ∧ bits[73] = 0 then
    match readBits bits 71 2 with
    | 1 => some .roger
    | 2 => some .endingRr73
    | 3 => some .ending73
    | _ => none
  else none

section Codec

variable {Hashes : Type} (core : MfskCore Hashes)

/-- Classifies a payload by its type bits and its text. -/
def classifyBits (bits : Vector UInt8 77) (hashes : Hashes) : Except Ft8CodecError ClassifiedFt8Message :=
  let n3 := readBits bits 71 3
  let i3 := readBits bits 74 3
  let decoded := core.unpack77WithHash bits hashes
  if i3 = 0 ∧ n3 = 0 then
    match decoded with
    | none => .error (.invalidPackedMessage "empty FT8 free-text payload")
    | some text => adapted .freeText "decoded FT8 free text exceeded the owned boundary" (FreeTextFt8Message.new text)
  else if ¬(i3 = 1 ∨ i3 = 2 ∨ i3 = 4) then
    let kind := toString i3 ++ "/" ++ toString n3
    unsupported (decoded.getD ("UNSUPPORTED FT8 TYPE " ++ kind))
      ("FT8 type " ++ kind ++ " is outside the reviewed Phase 1 message matrix")
  else
    match decoded with
    | none => .error (.invalidPackedMessage "FT8 payload could not be unpacked")
    | some decoded =>
      let text := normalizeStandardReport decoded
      if "<...>".toList <:+: text.toList then
        adapted .unresolvedHash "unresolved FT8 message exceeded the owned boundary"
          (ExplainedFt8Message.new text
            "at least one FT8 callsign hash is not present in the supplied resolution context")
      else classifySupported text (directedClassFromBits bits i3)

/-- The codec with its known callsigns. -/
structure OfflineFt8Codec (Hashes : Type) where
  hashes : Hashes

/-- Decodes the bits of a payload. -/
def OfflineFt8Codec.decodeBits (self : OfflineFt8Codec Hashes) (bits : Vector Bool 77) :
    Except Ft8CodecError ClassifiedFt8Message :=
  classifyBits core (bits.map fun bit => if bit then 1 else 0) self.hashes

end Codec

/-! ## The decoder -/

/-- The nearest integer, halves away from zero, of a finite number. -/
def roundHalfAway (value : Float32) : Int :=
  match value.toModel.unpack with
  | .finite sign mantissa exponent _ =>
    let magnitude : Nat :=
      if 0 ≤ exponent then mantissa * 2 ^ exponent.toNat
      else (mantissa + 2 ^ ((-exponent).toNat - 1)) / 2 ^ (-exponent).toNat
    match sign with
    | .positive => magnitude
    | .negative => -magnitude
  | _ => 0

/-- A finite number between two bounds, rounded; the conversion to an integer type saturates. -/
def rounded (minimum maximum : Float32) (lowest highest : Int) (value : Float32) : Except Ft8DecodeError Int :=
  if !value.isFinite || value < minimum || value > maximum then .error .invalidResultMetadata
  else .ok (max lowest (min (roundHalfAway value) highest))

def roundedU32 (value : Float32) : Except Ft8DecodeError Nat :=
  (rounded 0 4294967295 0 4294967295 value).map Int.toNat

def roundedI32 (value : Float32) : Except Ft8DecodeError Int :=
  rounded (-2147483648) 2147483647 (-2147483648) 2147483647 value

def roundedI16 (value : Float32) : Except Ft8DecodeError Int := rounded (-32768) 32767 (-32768) 32767 value

def ft8PcmSampleRateHz : Nat := 12000
def ft8SlotSamples : Nat := 180000

def phase1SnrCalibrationDb : Float32 := 8

/-- Variables of the environment that would tune the dependency. -/
def tuningVariables : List String :=
  ["MFSK_RATIO_EPS", "MFSK_SYNC_LAG_S", "MFSK_TRACE_PHANTOM", "MFSK_PASS1_LIMIT", "MFSK_BP_KIND"]

/-- The decoder with its codec. -/
structure OfflineFt8Decoder (Hashes : Type) where
  codec : OfflineFt8Codec Hashes

namespace OfflineFt8Decoder

variable {Hashes : Type} (core : MfskCore Hashes)

/-- The owned value of a raw candidate. -/
def convert (self : OfflineFt8Decoder Hashes) (result : DecodeResult) : Except Ft8DecodeError Ft8Decode := do
  let audioFrequencyHz ← roundedU32 result.freqHz
  let startOffsetMillis ← roundedI32 (result.dtSec * 1000)
  let signalToNoiseDb ← roundedI16 (result.snrDb + phase1SnrCalibrationDb)
  let message ← (self.codec.decodeBits core (result.message77.map fun bit => bit ≠ 0)).mapError .codec
  pure { metadata := { startOffsetMillis, audioFrequencyHz, signalToNoiseDb }, message }

/-- Replaces the same report with a weaker signal, or adds a new report. -/
def retain (candidate : Ft8Decode) : List Ft8Decode → List Ft8Decode
  | [] => [candidate]
  | existing :: rest =>
    if existing.metadata.startOffsetMillis = candidate.metadata.startOffsetMillis ∧
        existing.metadata.audioFrequencyHz = candidate.metadata.audioFrequencyHz ∧
        existing.message = candidate.message then
      (if candidate.metadata.signalToNoiseDb > existing.metadata.signalToNoiseDb then candidate else existing) :: rest
    else existing :: retain candidate rest

/-- Decodes the samples of one slot; `environment` tells which variables are set. -/
def decode (environment : String → Bool) (self : OfflineFt8Decoder Hashes) (pcm : PcmBuffer)
    (config : Ft8DecodeConfig) : Except Ft8DecodeError (List Ft8Decode) :=
  if pcm.format.sampleRateHz ≠ ft8PcmSampleRateHz ∨ pcm.format.channels ≠ 1 ∨ pcm.duration.frames ≠ ft8SlotSamples then
    .error .unsupportedPcmWindow
  else if tuningVariables.any environment then
    .error (.invalidConfiguration "private decoder tuning environment must be unset")
  else do
    let depth := match config.depth with
      | .normal => DecodeDepth.bpAll
      | .deep => DecodeDepth.bpAllOsd
    let decoded := core.decodeBlock pcm.samples (Float32.ofNat config.minimumAudioFrequency.hz)
      (Float32.ofNat config.maximumAudioFrequency.hz) (Float32.ofNat config.syncThresholdMilli / 1000) depth
      config.maximumCandidates
    let owned ← decoded.foldlM (fun owned result => do
      let candidate ← self.convert core result
      pure (retain candidate owned)) []
    pure (Ft8Decode.sortDeterministically owned)

end OfflineFt8Decoder

end Slotpilot.Protocol
