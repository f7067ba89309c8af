import Slotpilot.Domain.Callsign
import Slotpilot.Domain.Radio
import Slotpilot.Lib.Checked

/-!
# Offline FT8 decoding contract

The classified messages, the decodes with their deterministic order, the search configuration, the PCM buffer that a
decoder receives, and the decoder itself.
-/

set_option autoImplicit false

namespace Slotpilot.Protocol

open Lib Domain

/-- Maximum samples of an offline buffer. -/
def maxOfflinePcmSamples : Nat := 24000000

/-! ## Messages -/

/-- A supported, resolved message class. -/
inductive Ft8MessageClass
  | generalCall
  | directedGrid
  | signalReport
  | rogerSignalReport
  | roger
  | ending73
  | endingRr73
  deriving DecidableEq

def Ft8MessageClass.requiresRecipient : Ft8MessageClass → Bool
  | .generalCall => false
  | _ => true

/-- Nonempty printable ASCII text of at most `maximum` bytes. -/
def validateText (value : String) (maximum : Nat) : Bool :=
  !(value.isEmpty || value.utf8ByteSize > maximum ||
    !value.toList.all fun c => decide (0x20 ≤ c.toNat) && decide (c.toNat < 0x7f))

/-- Failure constructing a message. -/
inductive Ft8MessageError
  | invalidCanonicalText
  | invalidAddressing
  | invalidDetail
  deriving DecidableEq

/-- A supported message whose callsigns are resolved. -/
structure ResolvedFt8Message where
  canonicalText : String
  sender : FullCallsign
  recipient : Option FullCallsign
  messageClass : Ft8MessageClass
  bounded : validateText canonicalText 64 = true
  addressed : messageClass.requiresRecipient = recipient.isSome
  deriving DecidableEq

def ResolvedFt8Message.new (canonicalText : String) (sender : FullCallsign) (recipient : Option FullCallsign)
    (messageClass : Ft8MessageClass) : Except Ft8MessageError ResolvedFt8Message :=
  if ht : validateText canonicalText 64 = true then
    if ha : messageClass.requiresRecipient = recipient.isSome then
      .ok ⟨canonicalText, sender, recipient, messageClass, ht, ha⟩
    else .error .invalidAddressing
  else .error .invalidCanonicalText

theorem ResolvedFt8Message.new_ok {canonicalText : String} {sender : FullCallsign} {recipient : Option FullCallsign}
    {messageClass : Ft8MessageClass} {message : ResolvedFt8Message} :
    ResolvedFt8Message.new canonicalText sender recipient messageClass = .ok message ↔
      message.canonicalText = canonicalText ∧ message.sender = sender ∧ message.recipient = recipient ∧
        message.messageClass = messageClass := by
  unfold ResolvedFt8Message.new
  constructor
  · intro h
    split_ifs at h
    cases h
    exact ⟨rfl, rfl, rfl, rfl⟩
  · rintro ⟨rfl, rfl, rfl, rfl⟩
    rw [dif_pos message.bounded, dif_pos message.addressed]

/-- Canonical text with an explanation of what was not resolved, not supported or ambiguous. -/
structure ExplainedFt8Message where
  canonicalText : String
  detail : String
  bounded : validateText canonicalText 64 = true
  explained : validateText detail 128 = true
  deriving DecidableEq

def ExplainedFt8Message.new (canonicalText detail : String) : Except Ft8MessageError ExplainedFt8Message :=
  if ht : validateText canonicalText 64 = true then
    if hd : validateText detail 128 = true then .ok ⟨canonicalText, detail, ht, hd⟩ else .error .invalidDetail
  else .error .invalidCanonicalText

abbrev UnresolvedHashFt8Message : Type := ExplainedFt8Message
abbrev UnsupportedFt8Message : Type := ExplainedFt8Message
abbrev AmbiguousFt8Message : Type := ExplainedFt8Message

/-- Free text of the payload. -/
structure FreeTextFt8Message where
  text : String
  bounded : validateText text 64 = true
  deriving DecidableEq

def FreeTextFt8Message.new (text : String) : Except Ft8MessageError FreeTextFt8Message :=
  if ht : validateText text 64 = true then .ok ⟨text, ht⟩ else .error .invalidCanonicalText

/-- Discriminant of a classification. -/
inductive Ft8OutcomeKind
  | resolved
  | unresolvedHash
  | unsupported
  | ambiguous
  | freeText
  deriving DecidableEq

/-- Mutually exclusive classifications. -/
inductive ClassifiedFt8Message
  | resolved (message : ResolvedFt8Message)
  | unresolvedHash (message : UnresolvedHashFt8Message)
  | unsupported (message : UnsupportedFt8Message)
  | ambiguous (message : AmbiguousFt8Message)
  | freeText (message : FreeTextFt8Message)
  deriving DecidableEq

namespace ClassifiedFt8Message

def kind : ClassifiedFt8Message → Ft8OutcomeKind
  | .resolved _ => .resolved
  | .unresolvedHash _ => .unresolvedHash
  | .unsupported _ => .unsupported
  | .ambiguous _ => .ambiguous
  | .freeText _ => .freeText

def canonicalText : ClassifiedFt8Message → String
  | .resolved message => message.canonicalText
  | .unresolvedHash message | .unsupported message | .ambiguous message => message.canonicalText
  | .freeText message => message.text

end ClassifiedFt8Message

/-! ## Decodes -/

/-- Signal metadata of one decode. -/
structure Ft8DecodeMetadata where
  startOffsetMillis : Int
  audioFrequencyHz : Nat
  signalToNoiseDb : Int
  deriving DecidableEq

/-- One decode result. -/
structure Ft8Decode where
  metadata : Ft8DecodeMetadata
  message : ClassifiedFt8Message
  deriving DecidableEq

namespace Ft8Decode

/-- By time, frequency, text, classification, then signal-to-noise ratio. -/
def deterministicCmp (left right : Ft8Decode) : Ordering :=
  ((compare left.metadata.startOffsetMillis right.metadata.startOffsetMillis).then
    (compare left.metadata.audioFrequencyHz right.metadata.audioFrequencyHz)).then
    (((compare left.message.canonicalText right.message.canonicalText).then
      (compare left.message.kind.ctorIdx right.message.kind.ctorIdx)).then
      (compare left.metadata.signalToNoiseDb right.metadata.signalToNoiseDb))

/-- The stable sort by `deterministicCmp`. -/
def sortDeterministically (results : List Ft8Decode) : List Ft8Decode :=
  results.mergeSort fun left right => (deterministicCmp left right).isLE

end Ft8Decode

/-- Search depth. -/
inductive Ft8DecodeDepth
  | normal
  | deep
  deriving DecidableEq

/-- A failure of the message codec with its explanation. -/
inductive Ft8CodecError
  | notRepresentable (detail : String)
  | invalidPackedMessage (detail : String)
  | adapter (detail : String)
  deriving DecidableEq

/-- Failure of an offline decode. -/
inductive Ft8DecodeError
  | invalidConfiguration (detail : String)
  | unsupportedPcmWindow
  | codec (error : Ft8CodecError)
  | invalidResultMetadata
  deriving DecidableEq

/-- Search configuration of one window. -/
structure Ft8DecodeConfig where
  minimumAudioFrequency : AudioFrequency
  maximumAudioFrequency : AudioFrequency
  syncThresholdMilli : Nat
  depth : Ft8DecodeDepth
  maximumCandidates : Nat
  frequencies : minimumAudioFrequency.hz ≤ maximumAudioFrequency.hz ∧ maximumAudioFrequency.hz ≤ 5956
  threshold : 1 ≤ syncThresholdMilli ∧ syncThresholdMilli ≤ 5000
  candidates : 1 ≤ maximumCandidates ∧ maximumCandidates ≤ 1000
  deriving DecidableEq

def Ft8DecodeConfig.new (minimumAudioFrequency maximumAudioFrequency : AudioFrequency) (syncThresholdMilli : Nat)
    (depth : Ft8DecodeDepth) (maximumCandidates : Nat) : Except Ft8DecodeError Ft8DecodeConfig :=
  if hf : minimumAudioFrequency.hz ≤ maximumAudioFrequency.hz ∧ maximumAudioFrequency.hz ≤ 5956 then
    if ht : 1 ≤ syncThresholdMilli ∧ syncThresholdMilli ≤ 5000 then
      if hc : 1 ≤ maximumCandidates ∧ maximumCandidates ≤ 1000 then
        .ok ⟨minimumAudioFrequency, maximumAudioFrequency, syncThresholdMilli, depth, maximumCandidates, hf, ht, hc⟩
      else .error (.invalidConfiguration "FT8 maximum candidates must be between 1 and 1,000")
    else .error (.invalidConfiguration "FT8 sync threshold must be between 1 and 5,000 milli-units")
  else .error (.invalidConfiguration "FT8 search frequencies must be ordered below the canonical Nyquist bound")

/-! ## PCM -/

/-- Failure of PCM metadata or contents. -/
inductive PcmError
  | invalidSampleRate
  | invalidChannelCount
  | incompleteFrame
  | bufferTooLarge
  deriving DecidableEq

/-- Format of signed 16-bit little-endian interleaved PCM. -/
structure PcmFormat where
  sampleRateHz : Nat
  channels : Nat
  rate : 1 ≤ sampleRateHz ∧ sampleRateHz ≤ 384000
  channel : 1 ≤ channels ∧ channels ≤ 8
  deriving DecidableEq

def PcmFormat.new (sampleRateHz channels : Nat) : Except PcmError PcmFormat :=
  if hr : 1 ≤ sampleRateHz ∧ sampleRateHz ≤ 384000 then
    if hc : 1 ≤ channels ∧ channels ≤ 8 then .ok ⟨sampleRateHz, channels, hr, hc⟩ else .error .invalidChannelCount
  else .error .invalidSampleRate

/-- Complete frames of a buffer and their truncated duration. -/
structure PcmDuration where
  frames : Nat
  microseconds : Nat
  deriving DecidableEq

def PcmFormat.duration (self : PcmFormat) (frames : Nat) : PcmDuration :=
  { frames, microseconds := min (frames * 1000000) (2 ^ 64 - 1) / self.sampleRateHz }

/-- Bounded offline samples in complete frames, with their format. -/
structure PcmBuffer where
  format : PcmFormat
  samples : List Int16
  bounded : samples.length ≤ maxOfflinePcmSamples
  complete : samples.length % format.channels = 0
  deriving DecidableEq

/-- The number of frames fits 32 bits because the number of samples is bounded. -/
def PcmBuffer.new (format : PcmFormat) (samples : List Int16) : Except PcmError PcmBuffer :=
  if hb : samples.length > maxOfflinePcmSamples then .error .bufferTooLarge
  else if hc : samples.length % format.channels = 0 then .ok ⟨format, samples, Nat.le_of_not_gt hb, hc⟩
  else .error .incompleteFrame

def PcmBuffer.duration (self : PcmBuffer) : PcmDuration :=
  self.format.duration (self.samples.length / self.format.channels)

/-- An offline decoder, whose results may depend on a state of its own. -/
class Ft8OfflineDecoder (D : Type) where
  decode : D → PcmBuffer → Ft8DecodeConfig → Except Ft8DecodeError (List Ft8Decode) × D

end Slotpilot.Protocol
