import Slotpilot.Protocol.OfflineAdapter

/-!
# The offline encoder

The encoder of resolved messages. Its guard compares the words of the canonical text with the message's class and
callsigns, and what the dependency packs must unpack to the canonical text.
-/

set_option autoImplicit false

namespace Slotpilot.Protocol

open Lib Domain

/-- What the encoder uses of the dependency besides: the packings of words, the hash of a callsign and a table with one
more callsign. -/
structure MfskPacker (Hashes : Type) extends MfskCore Hashes where
  pack77 : (call1 call2 report : String) → Option (Vector UInt8 77)
  pack77Type1 : (call1 call2 grid : String) → Option (Vector UInt8 77)
  pack77Type4 : (call1 call2 report : String) → (isCq : Bool) → Option (Vector UInt8 77)
  ihashcall : (call : String) → (bits : Nat) → Nat
  insert : Hashes → String → Hashes

/-! ## The guard -/

/-- Whether the token is the callsign, in angle brackets or not. -/
def sameIdentity (token : String) (expected : FullCallsign) : Bool := unbracketed token == expected.original

def payloadMatches (messageClass : Ft8MessageClass) (payload : String) : Bool :=
  match messageClass with
  | .directedGrid => isGrid payload
  | .signalReport => isReport payload
  | .rogerSignalReport => (stripRoger payload).any isReport
  | .roger => payload == "RRR"
  | .ending73 => payload == "73"
  | .endingRr73 => payload == "RR73"
  | .generalCall => false

/-- Writes a number to some bits, most significant first. -/
def writeBits (bits : Vector UInt8 77) (start length value : Nat) : Vector UInt8 77 :=
  (List.range length).foldl
    (fun bits index => bits.setIfInBounds (start + index) (UInt8.ofNat (value >>> (length - 1 - index) &&& 1))) bits

section Codec

variable {Hashes : Type} (core : MfskPacker Hashes)

/-- What the dependency packs; nothing when the words do not match the class and the callsigns of the message. -/
def packedWords (message : ResolvedFt8Message) : Option (Option (Vector UInt8 77)) :=
  match splitWhitespace message.canonicalText with
  | ["CQ", sender] =>
    if message.messageClass = .generalCall ∧ sameIdentity sender message.sender ∧ '/' ∈ sender.toList then
      some ((core.pack77Type4 sender "" "" true).map fun bits => writeBits bits 0 12 (core.ihashcall sender 12))
    else none
  | [first, second, third] =>
    if message.messageClass = .generalCall ∧ first = "CQ" ∧ sameIdentity second message.sender ∧ isGrid third then
      some (core.pack77 "CQ" second third)
    else if message.messageClass ≠ .generalCall ∧ sameIdentity first message.sender ∧
        message.recipient.any (sameIdentity second) ∧ payloadMatches message.messageClass third then
      some (if message.messageClass = .directedGrid then core.pack77Type1 first second third
        else core.pack77 first second third)
    else none
  | _ => none

/-- The known callsigns with those of a message. -/
def verificationHashes (hashes : Hashes) (message : ResolvedFt8Message) : Hashes :=
  let withSender := core.insert hashes message.sender.original
  match message.recipient with
  | some recipient => core.insert withSender recipient.original
  | none => withSender

def OfflineFt8Codec.encodeOwned (self : OfflineFt8Codec Hashes) (message : ResolvedFt8Message) :
    Except Ft8CodecError (Vector UInt8 77) := do
  let packed ← okOr
    (.notRepresentable "canonical text does not exactly match its owned FT8 class and identities")
    (packedWords core message)
  let encoded ← okOr
    (.notRepresentable "the reviewed FT8 message encoder cannot represent this message") packed
  let unpacked ← okOr (.adapter "the reviewed FT8 encoder produced a payload it could not unpack")
    (core.unpack77WithHash encoded (verificationHashes core self.hashes message))
  if normalizeStandardReport unpacked ≠ message.canonicalText then
    .error (.notRepresentable "encoding would normalize or discard part of the owned message identity")
  else pure encoded

/-- The bits of a message. -/
def OfflineFt8Codec.encode (self : OfflineFt8Codec Hashes) (message : ResolvedFt8Message) :
    Except Ft8CodecError (Vector Bool 77) :=
  (self.encodeOwned core message).map fun encoded => encoded.map fun bit => bit ≠ 0

end Codec

end Slotpilot.Protocol
