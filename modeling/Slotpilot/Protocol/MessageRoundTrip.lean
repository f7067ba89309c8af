import Slotpilot.Protocol.DecodeDedup
import Slotpilot.Protocol.Waveform
import Slotpilot.Protocol.WaveGrammar

/-!
# Messages through bits and samples

The encoder and the synthesizer take a message one way, the decoders the other way. A decoder that knows the callsigns of
an encoded message reads its text and its callsigns again; its class is read off the bits, and off the text where the bits
say nothing.

* `classifySupported_packed`: the text of a message that passes the encoder's guard, whatever class the bits give;
* `encoded_decodes`: the bits of a message;
* `synthesized_decodes`: the samples of a message in a slot, through a file and a search that finds the frame.
-/

set_option autoImplicit false

namespace Slotpilot.Protocol

open Lib Domain

/-! ## Classes -/

/-- The class that the text of a message gives: `RR73` is an ending before it is a grid. -/
def textClass (message : ResolvedFt8Message) : Ft8MessageClass :=
  if message.messageClass = .directedGrid ∧ (splitWhitespace message.canonicalText)[2]? = some "RR73" then .endingRr73
  else message.messageClass

/-- The class that a decoder reads, given what the bits say. -/
def readClass (message : ResolvedFt8Message) (bitClass : Option Ft8MessageClass) : Ft8MessageClass :=
  if message.messageClass = .generalCall then .generalCall else bitClass.getD (textClass message)

/-- The text and the callsigns of a message with a class. -/
structure ReadAs (message : ResolvedFt8Message) (messageClass : Ft8MessageClass) (read : ResolvedFt8Message) : Prop where
  canonicalText : read.canonicalText = message.canonicalText
  sender : read.sender = message.sender
  recipient : read.recipient = message.recipient
  messageClass : read.messageClass = messageClass

/-- The bits never say that a message is a general call. -/
theorem directedClassFromBits_directed {bits : Vector UInt8 77} {i3 : Nat} {messageClass : Ft8MessageClass}
    (h : directedClassFromBits bits i3 = some messageClass) : messageClass.requiresRecipient = true := by
  unfold directedClassFromBits at h
  simp only at h
  split at h
  · split_ifs at h <;> cases h <;> rfl
  · split at h
    · split at h <;> cases h <;> rfl
    · cases h

section Words

variable {message : ResolvedFt8Message} {first second third : String}

theorem textClass_of_payload (hwords : splitWhitespace message.canonicalText = [first, second, third])
    (h : payloadMatches message.messageClass third = true) : classifyPayload third = some (textClass message) := by
  unfold textClass
  rw [hwords]
  by_cases hthird : third = "RR73"
  · subst hthird
    have hending : (if message.messageClass = .directedGrid ∧ [first, second, "RR73"][2]? = some "RR73" then .endingRr73
        else message.messageClass) = Ft8MessageClass.endingRr73 := by
      by_cases hgrid : message.messageClass = .directedGrid
      · exact if_pos ⟨hgrid, rfl⟩
      · rw [if_neg fun hboth => hgrid hboth.1]
        cases hclass : message.messageClass <;> rw [hclass] at h hgrid <;> simp_all [payloadMatches, isReport, stripRoger]
    rw [hending]
    rfl
  · rw [if_neg (by simp [hthird])]
    exact classify_of_payloadMatches h hthird

theorem requiresRecipient_of_directed {messageClass : Ft8MessageClass} (h : messageClass ≠ .generalCall) :
    messageClass.requiresRecipient = true := by
  cases messageClass with
  | generalCall => exact absurd rfl h
  | _ => rfl

theorem requiresRecipient_textClass (h : message.messageClass ≠ .generalCall) :
    (textClass message).requiresRecipient = true := by
  unfold textClass
  split
  · rfl
  · exact requiresRecipient_of_directed h

/-- What passes the encoder's guard: a general call of two or three words, or a directed message. -/
theorem packedWords_shape {Hashes : Type} {core : MfskPacker Hashes} (h : (packedWords core message).isSome = true) :
    (∃ sender, splitWhitespace message.canonicalText = ["CQ", sender] ∧ message.messageClass = .generalCall ∧
        sameIdentity sender message.sender = true) ∨
      ∃ first second third, splitWhitespace message.canonicalText = [first, second, third] ∧
        (message.messageClass = .generalCall ∧ first = "CQ" ∧ sameIdentity second message.sender = true ∧
            isGrid third = true ∨
          message.messageClass ≠ .generalCall ∧ sameIdentity first message.sender = true ∧
            message.recipient.any (sameIdentity second) = true ∧ payloadMatches message.messageClass third = true) := by
  have hpacked := h
  unfold packedWords at h
  split at h
  · rename_i sender hwords
    left
    split at h
    · rename_i hcall
      exact ⟨sender, hwords, hcall.1, hcall.2.1⟩
    · cases h
  · rename_i first second third hwords
    exact .inr ⟨first, second, third, hwords, (packedWords_three core hwords).mp hpacked⟩
  · cases h

/-- The text of a message that passes the guard is read as the message, in the class that the bits give or else in that of
the text. -/
theorem classifySupported_packed {Hashes : Type} {core : MfskPacker Hashes}
    (h : (packedWords core message).isSome = true) {bitClass : Option Ft8MessageClass}
    (hbits : ∀ messageClass, bitClass = some messageClass → messageClass.requiresRecipient = true) :
    ∃ read, classifySupported message.canonicalText bitClass = .ok (.resolved read) ∧
      ReadAs message (readClass message bitClass) read := by
  have hcall {sender : String} (hclass : message.messageClass = .generalCall)
      (hsender : sameIdentity sender message.sender = true) :
      resolvedOrAmbiguous message.canonicalText sender none .generalCall = .ok (.resolved message) := by
    rw [resolvedOrAmbiguous_resolved, resolved_call]
    exact ⟨rfl, hsender, recipient_of_generalCall hclass, hclass⟩
  have hself (hclass : message.messageClass = .generalCall) : ReadAs message (readClass message bitClass) message :=
    ⟨rfl, rfl, rfl, by rw [readClass, if_pos hclass, hclass]⟩
  unfold classifySupported
  rcases packedWords_shape h with ⟨sender, hwords, hclass, hsender⟩ | ⟨first, second, third, hwords, hshape⟩
  · rw [hwords]
    exact ⟨message, hcall hclass hsender, hself hclass⟩
  rw [hwords]
  split
  · rename_i hother
    cases hother
  · rename_i hthree
    cases hthree
    rcases hshape with ⟨hclass, hcq, hsender, hgrid⟩ | ⟨hdirected, hfirst, hsecond, hpayload⟩
    · rw [if_pos ⟨hcq, hgrid⟩]
      exact ⟨message, hcall hclass hsender, hself hclass⟩
    · have hnocall : ¬(first = "CQ" ∧ isGrid third = true) := by
        rintro ⟨rfl, -⟩
        rw [not_sameIdentity_cq] at hfirst
        cases hfirst
      have hread : bitClass.or (classifyPayload third) = some (readClass message bitClass) := by
        rw [readClass, if_neg hdirected, textClass_of_payload hwords hpayload]
        cases bitClass <;> rfl
      have haddressed : (readClass message bitClass).requiresRecipient = message.recipient.isSome := by
        rw [← message.addressed, requiresRecipient_of_directed hdirected, readClass, if_neg hdirected]
        cases hbit : bitClass with
        | some messageClass => exact hbits messageClass hbit
        | none => exact requiresRecipient_textClass hdirected
      rw [if_neg hnocall, classifyDirected, hread]
      refine ⟨⟨message.canonicalText, message.sender, message.recipient, readClass message bitClass, message.bounded,
        haddressed⟩, ?_, rfl, rfl, rfl, rfl⟩
      dsimp only
      rw [resolvedOrAmbiguous_resolved, resolved_directed]
      exact ⟨rfl, hfirst, hsecond, rfl⟩
  · rename_i hother
    exact absurd rfl (hother first second third)

/-! ## Callsigns that are not known -/

theorem dot_notMem_original (callsign : FullCallsign) : '.' ∉ callsign.original.toList := by
  intro hdot
  have hparsed := callsign.parsed
  simp only [baseOf, exceptBind_ok] at hparsed
  obtain ⟨_, hshape, -⟩ := hparsed
  unfold validateShape at hshape
  split_ifs at hshape with _ hcharacters
  simp only [Bool.not_eq_true', Bool.not_eq_false, List.all_eq_true] at hcharacters
  exact absurd (hcharacters '.' hdot) (by decide)

/-- The characters of a token are those of its callsign, and its angle brackets. -/
theorem mem_unbracketed {token : String} {c : Char} (h : c ∈ token.toList) :
    c ∈ (unbracketed token).toList ∨ c = '<' ∨ c = '>' := by
  unfold unbracketed
  split
  · rename_i inner hinner
    split
    · rename_i hlast
      rw [hinner] at h
      rcases List.mem_cons.mp h with rfl | h
      · exact .inr (.inl rfl)
      · rw [← List.dropLast_append_getLast? _ hlast] at h
        rcases List.mem_append.mp h with h | h
        · exact .inl (by simpa using h)
        · exact .inr (.inr (List.mem_singleton.mp h))
    · exact .inl h
  · exact .inl h

theorem dot_notMem_token {token : String} {callsign : FullCallsign} (h : sameIdentity token callsign = true) :
    '.' ∉ token.toList := by
  intro hdot
  rcases mem_unbracketed hdot with hdot | hdot | hdot
  · rw [← sameIdentity_iff.mp h] at hdot
    exact dot_notMem_original callsign hdot
  · cases hdot
  · cases hdot

theorem dot_notMem_grid {payload : String} (h : isGrid payload = true) : '.' ∉ payload.toList := by
  unfold isGrid at h
  split at h
  · rename_i hchars
    rw [hchars]
    simp only [Bool.and_eq_true, decide_eq_true_eq] at h
    simp only [List.mem_cons, List.not_mem_nil, or_false]
    rintro (rfl | rfl | rfl | rfl)
    · exact absurd h.1.1.1 (by decide)
    · exact absurd h.1.1.2 (by decide)
    · exact absurd h.1.2 (by decide)
    · exact absurd h.2 (by decide)
  · cases h

theorem dot_notMem_report {payload : String} (h : isReport payload = true) : '.' ∉ payload.toList := by
  unfold isReport at h
  split at h
  · rename_i hchars
    rw [hchars]
    simp only [Bool.and_eq_true, Bool.or_eq_true, beq_iff_eq] at h
    simp only [List.mem_cons, List.not_mem_nil, or_false]
    rintro (rfl | rfl | rfl)
    · rcases h.1.1 with h | h <;> cases h
    · exact absurd h.1.2 (by decide)
    · exact absurd h.2 (by decide)
  · cases h

theorem dot_notMem_payload {messageClass : Ft8MessageClass} {payload : String}
    (h : payloadMatches messageClass payload = true) : '.' ∉ payload.toList := by
  cases messageClass with
  | generalCall => cases h
  | directedGrid => exact dot_notMem_grid h
  | signalReport => exact dot_notMem_report h
  | rogerSignalReport =>
    simp only [payloadMatches, Option.any_eq_true] at h
    obtain ⟨report, hroger, hreport⟩ := h
    unfold stripRoger at hroger
    split at hroger
    · rename_i rest hchars
      cases hroger
      have hrest := dot_notMem_report hreport
      rw [hchars, List.mem_cons]
      rintro (hdot | hdot)
      · cases hdot
      · exact hrest (by simpa using hdot)
    · cases hroger
  | roger | ending73 | endingRr73 =>
    simp only [payloadMatches, beq_iff_eq] at h
    rw [h]
    decide

/-- A message that passes the guard has no unresolved callsign. -/
theorem resolved_text_of_packed {Hashes : Type} {core : MfskPacker Hashes}
    (h : (packedWords core message).isSome = true) : ¬"<...>".toList <:+: message.canonicalText.toList := by
  intro hunresolved
  have hdot : '.' ∈ message.canonicalText.toList := hunresolved.subset (by decide)
  have hplain : isWhitespace '.' = false := by decide
  obtain ⟨chars, hword, hin⟩ := exists_word_of_mem hdot hplain
  have hmem : String.ofList chars ∈ splitWhitespace message.canonicalText := List.mem_map_of_mem hword
  have hno {word : String} (h : '.' ∉ word.toList) : String.ofList chars ≠ word := by
    rintro rfl
    exact h (by simpa using hin)
  rcases packedWords_shape h with ⟨sender, hwords, -, hsender⟩ | ⟨first, second, third, hwords, hshape⟩
  · rw [hwords] at hmem
    simp only [List.mem_cons, List.not_mem_nil, or_false] at hmem
    rcases hmem with hmem | hmem
    · exact hno (by decide) hmem
    · exact hno (dot_notMem_token hsender) hmem
  · rw [hwords] at hmem
    simp only [List.mem_cons, List.not_mem_nil, or_false] at hmem
    rcases hshape with ⟨-, rfl, hsender, hgrid⟩ | ⟨-, hfirst, hsecond, hpayload⟩
    · rcases hmem with hmem | hmem | hmem
      · exact hno (by decide) hmem
      · exact hno (dot_notMem_token hsender) hmem
      · exact hno (dot_notMem_grid hgrid) hmem
    · obtain ⟨recipient, -, hsecond⟩ := (Option.any_eq_true _ _).mp hsecond
      rcases hmem with hmem | hmem | hmem
      · exact hno (dot_notMem_token hfirst) hmem
      · exact hno (dot_notMem_token hsecond) hmem
      · exact hno (dot_notMem_payload hpayload) hmem

end Words

/-! ## Bits -/

/-- The bytes are bits. -/
def IsBits (bits : Vector UInt8 77) : Prop := ∀ (index : Nat) (h : index < 77), bits[index] = 0 ∨ bits[index] = 1

/-- The dependency packs bits. -/
structure PacksBits {Hashes : Type} (core : MfskPacker Hashes) : Prop where
  pack77 : ∀ call1 call2 report bits, core.pack77 call1 call2 report = some bits → IsBits bits
  pack77Type1 : ∀ call1 call2 grid bits, core.pack77Type1 call1 call2 grid = some bits → IsBits bits
  pack77Type4 : ∀ call1 call2 report isCq bits, core.pack77Type4 call1 call2 report isCq = some bits → IsBits bits

/-- Bits as bytes. -/
def bytesOfBits (bits : Vector Bool 77) : Vector UInt8 77 := bits.map fun bit => if bit then 1 else 0

theorem bytesOfBits_of_isBits {bits : Vector UInt8 77} (h : IsBits bits) :
    bytesOfBits (bits.map fun bit => decide (bit ≠ 0)) = bits := by
  unfold bytesOfBits
  ext index hindex
  rw [Vector.getElem_map, Vector.getElem_map]
  rcases h index hindex with hbit | hbit
  · rw [hbit]
    rfl
  · rw [hbit]
    rfl

theorem isBits_setIfInBounds {bits : Vector UInt8 77} (h : IsBits bits) (place value : Nat) :
    IsBits (bits.setIfInBounds place (UInt8.ofNat (value &&& 1))) := by
  intro index hindex
  rw [Vector.getElem_setIfInBounds]
  split
  · rw [Nat.and_one_is_mod]
    rcases Nat.mod_two_eq_zero_or_one value with hvalue | hvalue
    · rw [hvalue]
      exact .inl rfl
    · rw [hvalue]
      exact .inr rfl
  · exact h index hindex

theorem isBits_writeBits {bits : Vector UInt8 77} (h : IsBits bits) (start length value : Nat) :
    IsBits (writeBits bits start length value) := by
  unfold writeBits
  induction List.range length generalizing bits with
  | nil => exact h
  | cons index rest ih => exact ih (isBits_setIfInBounds h _ _)

theorem packedWords_isBits {Hashes : Type} {core : MfskPacker Hashes} (hpacks : PacksBits core)
    {message : ResolvedFt8Message} {encoded : Vector UInt8 77} (h : packedWords core message = some (some encoded)) :
    IsBits encoded := by
  unfold packedWords at h
  split at h
  · split at h
    · obtain ⟨bits, hbits, rfl⟩ := Option.map_eq_some_iff.mp (Option.some.inj h)
      exact isBits_writeBits (hpacks.pack77Type4 _ _ _ _ _ hbits) 0 12 _
    · cases h
  · split_ifs at h with _ _ hgrid
    · exact hpacks.pack77 _ _ _ _ (Option.some.inj h)
    · exact hpacks.pack77Type1 _ _ _ _ (Option.some.inj h)
    · exact hpacks.pack77 _ _ _ _ (Option.some.inj h)
  · cases h

section Codec

variable {Hashes : Type} {core : MfskPacker Hashes}

/-- The codec that knows the callsigns of a message besides. -/
def OfflineFt8Codec.knowing (self : OfflineFt8Codec Hashes) (core : MfskPacker Hashes) (message : ResolvedFt8Message) :
    OfflineFt8Codec Hashes :=
  ⟨verificationHashes core self.hashes message⟩

/-- What the encoder has checked of the bits that it returns. -/
theorem encode_checked (hpacks : PacksBits core) {codec : OfflineFt8Codec Hashes} {message : ResolvedFt8Message}
    {bits : Vector Bool 77} (h : codec.encode core message = .ok bits) :
    (packedWords core message).isSome = true ∧
      ∃ unpacked, core.unpack77WithHash (bytesOfBits bits) (codec.knowing core message).hashes = some unpacked ∧
        normalizeStandardReport unpacked = message.canonicalText := by
  simp only [OfflineFt8Codec.encode, exceptMap_ok] at h
  obtain ⟨encoded, hencoded, rfl⟩ := h
  simp only [OfflineFt8Codec.encodeOwned, exceptBind_ok, okOr_ok] at hencoded
  obtain ⟨packed, hpacked, made, rfl, unpacked, hunpacked, hsame⟩ := hencoded
  split_ifs at hsame with htext
  cases hsame
  rw [bytesOfBits_of_isBits (packedWords_isBits hpacks hpacked)]
  exact ⟨Option.isSome_of_mem hpacked, unpacked, hunpacked, not_not.mp htext⟩

/-- The type of a payload, which says how its other bits are read. -/
def messageType (bits : Vector Bool 77) : Nat := readBits (bytesOfBits bits) 74 3

theorem adapted_ne_resolved {α : Type} {classified : α → ClassifiedFt8Message}
    (h : ∀ a read, classified a ≠ .resolved read) {detail : String} {result : Except Ft8MessageError α}
    {read : ResolvedFt8Message} : adapted classified detail result ≠ .ok (.resolved read) := by
  unfold adapted
  split
  · intro hok
    exact h _ _ (Except.ok.inj hok)
  · nofun

/-- A payload of a supported type whose callsigns are known is read from its text. -/
theorem classifyBits_supported {bits : Vector UInt8 77} {hashes : Hashes} {unpacked : String}
    (hunpacked : core.unpack77WithHash bits hashes = some unpacked)
    (htype : readBits bits 74 3 = 1 ∨ readBits bits 74 3 = 2 ∨ readBits bits 74 3 = 4)
    (hknown : ¬"<...>".toList <:+: (normalizeStandardReport unpacked).toList) :
    classifyBits core.toMfskCore bits hashes =
      classifySupported (normalizeStandardReport unpacked) (directedClassFromBits bits (readBits bits 74 3)) := by
  have hfree : ¬(readBits bits 74 3 = 0 ∧ readBits bits 71 3 = 0) := by
    rintro ⟨hzero, -⟩
    omega
  unfold classifyBits
  simp only [if_neg hfree, if_neg (not_not.mpr htype), hunpacked, if_neg hknown]

theorem classifyBits_other {bits : Vector UInt8 77} {hashes : Hashes} {read : ResolvedFt8Message}
    (htype : ¬(readBits bits 74 3 = 1 ∨ readBits bits 74 3 = 2 ∨ readBits bits 74 3 = 4)) :
    classifyBits core.toMfskCore bits hashes ≠ .ok (.resolved read) := by
  unfold classifyBits
  simp only [if_pos htype]
  split
  · split
    · nofun
    · exact adapted_ne_resolved (by simp)
  · exact unsupported_ne_resolved

/-- The bits of a message, of a supported type, are read as the message, in the class that they give or else in that of
the text. -/
theorem decodeBits_encoded (hpacks : PacksBits core) {codec : OfflineFt8Codec Hashes} {message : ResolvedFt8Message}
    {bits : Vector Bool 77} (h : codec.encode core message = .ok bits)
    (htype : messageType bits = 1 ∨ messageType bits = 2 ∨ messageType bits = 4) :
    ∃ read, (codec.knowing core message).decodeBits core.toMfskCore bits = .ok (.resolved read) ∧
      ReadAs message (readClass message (directedClassFromBits (bytesOfBits bits) (messageType bits))) read := by
  obtain ⟨hpacked, unpacked, hunpacked, htext⟩ := encode_checked hpacks h
  have hdecode : (codec.knowing core message).decodeBits core.toMfskCore bits =
      classifyBits core.toMfskCore (bytesOfBits bits) (codec.knowing core message).hashes := rfl
  rw [hdecode, classifyBits_supported hunpacked htype (htext ▸ resolved_text_of_packed hpacked), htext]
  exact classifySupported_packed hpacked fun messageClass => directedClassFromBits_directed

/-- **Encoded messages are read again**. The bits of a message, decoded with its callsigns known, are a resolved message
exactly when they are of one of the types of standard and of compound calls; it has the text and the callsigns of the
message, and the class that the bits give or else the text. -/
theorem encoded_decodes (hpacks : PacksBits core) {codec : OfflineFt8Codec Hashes} {message : ResolvedFt8Message}
    {bits : Vector Bool 77} (h : codec.encode core message = .ok bits) :
    (messageType bits = 1 ∨ messageType bits = 2 ∨ messageType bits = 4 → ∃ read,
      (codec.knowing core message).decodeBits core.toMfskCore bits = .ok (.resolved read) ∧
        ReadAs message (readClass message (directedClassFromBits (bytesOfBits bits) (messageType bits))) read) ∧
    (¬(messageType bits = 1 ∨ messageType bits = 2 ∨ messageType bits = 4) → ∀ read,
      (codec.knowing core message).decodeBits core.toMfskCore bits ≠ .ok (.resolved read)) :=
  ⟨decodeBits_encoded hpacks h, fun htype _ => classifyBits_other htype⟩

end Codec

/-! ## One message -/

theorem parsed_k1abc : baseOf "K1ABC" = .ok "K1ABC" := by decide

theorem parsed_w1aw : baseOf "W1AW" = .ok "W1AW" := by decide

theorem rogerText_bounded : validateText "K1ABC W1AW RRR" 64 = true := by decide

def rogerMessage : ResolvedFt8Message :=
  ⟨"K1ABC W1AW RRR", ⟨"K1ABC", "K1ABC", parsed_k1abc⟩, some ⟨"W1AW", "W1AW", parsed_w1aw⟩, .roger, rogerText_bounded, rfl⟩

/-- The payload of the message. -/
def rogerPayload : Vector UInt8 77 :=
  writeBits (Vector.replicate 77 0) 0 77
    0b00001001101111011110001101010000010111111111010101101000100111111010010010001

theorem isBits_rogerPayload : IsBits rogerPayload :=
  isBits_writeBits (fun index hindex => .inl (by rw [Vector.getElem_replicate])) 0 77 _

theorem callText_bounded : validateText "CQ K1ABC FN42" 64 = true := by decide

def callMessage : ResolvedFt8Message :=
  ⟨"CQ K1ABC FN42", ⟨"K1ABC", "K1ABC", parsed_k1abc⟩, none, .generalCall, callText_bounded, rfl⟩

/-- The payload of the general call. -/
def callPayload : Vector UInt8 77 :=
  writeBits (Vector.replicate 77 0) 0 77
    0b00000000000000000000000000100000010011011110111100011010100010100001100110001

theorem isBits_callPayload : IsBits callPayload :=
  isBits_writeBits (fun index hindex => .inl (by rw [Vector.getElem_replicate])) 0 77 _

/-- The tones of the general call: its payload and the check bits between three synchronization patterns. -/
def callTones : Vector UInt8 79 :=
  #v[3, 1, 4, 0, 6, 5, 2, 0, 0, 0, 0, 0, 0, 0, 0, 1, 0, 0, 5, 4, 7, 6, 7, 0, 4, 6, 0, 6, 0, 2, 1, 5, 3, 3, 4, 3, 3, 1, 4, 0,
    6, 5, 2, 7, 3, 6, 0, 1, 1, 0, 4, 7, 5, 1, 7, 0, 0, 7, 3, 3, 4, 7, 4, 5, 4, 5, 5, 1, 3, 3, 5, 4, 3, 1, 4, 0, 6, 5, 2]

/-- The samples of some tones above 1000 Hz, each 1920 long and 6.25 Hz above the next lower one. Of the carrier only the
sign is kept. -/
def keyedSamples (tones : Vector UInt8 79) (amplitude : Int16) : List Int16 :=
  tones.toList.flatMap fun tone => (List.range 1920).map fun sample =>
    if 2 * sample * (160 + tone.toNat) / 1920 % 2 = 0 then amplitude else -amplitude

def signsOf (samples : List Int16) : List Bool := samples.map fun sample => decide (0 < sample)

/-- The half seconds of a slot, counted from the nominal start of a frame. -/
def halfSeconds : List (Nat × Float32) := [(0, -0.5), (6000, 0), (12000, 0.5), (18000, 1), (24000, 1.5)]

/-- A dependency that knows two messages. It keys the general call above 1000 Hz, and finds its frame by the signs of the
samples at the half seconds of a slot. -/
def sampleCore : MfskSynthesizer Unit where
  unpack77WithHash payload _ :=
    if payload = rogerPayload then some "K1ABC W1AW RRR" else if payload = callPayload then some "CQ K1ABC FN42" else none
  decodeBlock samples _ _ _ _ _ :=
    halfSeconds.filterMap fun (start, dtSec) =>
      if signsOf ((samples.drop start).take ft8FrameSamples) = signsOf (keyedSamples callTones 1) then
        some { freqHz := 1000, dtSec, snrDb := 10, message77 := callPayload }
      else none
  pack77 call1 call2 report :=
    if (call1, call2, report) = ("K1ABC", "W1AW", "RRR") then some rogerPayload
    else if (call1, call2, report) = ("CQ", "K1ABC", "FN42") then some callPayload
    else none
  pack77Type1 _ _ _ := none
  pack77Type4 _ _ _ _ := none
  ihashcall _ _ := 0
  insert hashes _ := hashes
  messageToTones payload := if payload = callPayload then callTones else Vector.replicate 79 0
  tonesToI16 tones _ amplitude := keyedSamples tones amplitude

theorem packsBits_sampleCore : PacksBits sampleCore.toMfskPacker where
  pack77 call1 call2 report bits h := by
    simp only [sampleCore] at h
    split_ifs at h
    · exact Option.some.inj h ▸ isBits_rogerPayload
    · exact Option.some.inj h ▸ isBits_callPayload
  pack77Type1 _ _ _ _ h := by cases h
  pack77Type4 _ _ _ _ _ h := by cases h

def rogerBits : Vector Bool 77 := rogerPayload.map fun bit => decide (bit ≠ 0)

theorem encode_roger : OfflineFt8Codec.encode sampleCore.toMfskPacker ⟨()⟩ rogerMessage = .ok rogerBits := by
  decide +kernel

theorem messageType_roger : messageType rogerBits = 1 := by decide +kernel

/-- The message is read in its class. -/
theorem encoded_decodes_roger :
    ∃ read, (OfflineFt8Codec.knowing ⟨()⟩ sampleCore.toMfskPacker rogerMessage).decodeBits sampleCore.toMfskCore rogerBits =
      .ok (.resolved read) ∧ ReadAs rogerMessage .roger read := by
  have hclass : readClass rogerMessage (directedClassFromBits (bytesOfBits rogerBits) (messageType rogerBits)) =
      .roger := by decide +kernel
  rw [← hclass]
  exact (encoded_decodes packsBits_sampleCore encode_roger).1 (.inl messageType_roger)

/-! ## Samples -/

section Samples

variable {Hashes : Type} {core : MfskSynthesizer Hashes}

theorem synthesize_ok {self : OfflineFt8Synthesizer Hashes} {request : Ft8WaveformRequest} {buffer : PcmBuffer}
    (h : self.synthesize core request = .ok buffer) : ∃ bits, Synthesized core self request bits buffer := by
  by_cases hencoded : ∃ bits, Audible request ∧ self.codec.encode core.toMfskPacker request.message = .ok bits
  · obtain ⟨bits, haudible, hbits⟩ := hencoded
    rcases synthesize_encoded core haudible hbits with ⟨other, hok, hone⟩ | ⟨-, detail, -, hfails⟩
    · cases Except.ok.inj (hok.symm.trans h)
      exact ⟨bits, (hone buffer).mpr rfl⟩
    · rw [hfails] at h
      cases h
  · push Not at hencoded
    obtain ⟨failure, hfails, -⟩ := synthesize_refused core hencoded
    rw [hfails] at h
    cases h

/-- A full slot, and nothing else, is a window for the decoder. -/
theorem synthesized_window {synthesizer : OfflineFt8Synthesizer Hashes} {request : Ft8WaveformRequest}
    {bits : Vector Bool 77} {buffer : PcmBuffer} (h : Synthesized core synthesizer request bits buffer) :
    buffer.format.sampleRateHz = ft8PcmSampleRateHz ∧ buffer.format.channels = 1 ∧
      (buffer.duration.frames = ft8SlotSamples ↔ request.placement ≠ .frameOnly) := by
  have hframes : buffer.duration.frames = if request.placement = .frameOnly then ft8FrameSamples else ft8SlotSamples := by
    show buffer.samples.length / buffer.format.channels = _
    rw [h.format, h.audible.mono, Nat.div_one, length_placed h.inBounds.length h.placed]
  rw [hframes]
  refine ⟨h.format ▸ h.audible.rate, h.format ▸ h.audible.mono, ?_⟩
  split
  · rename_i hframe
    exact iff_of_false (by decide) (not_not.mpr hframe)
  · rename_i hslot
    exact iff_of_true rfl hslot

/-- A search whose candidates all convert returns every message that they hold. -/
theorem decode_holds {core : MfskCore Hashes} (environment : String → Bool) (decoder : OfflineFt8Decoder Hashes)
    {pcm : PcmBuffer} (config : Ft8DecodeConfig)
    (hwindow : pcm.format.sampleRateHz = ft8PcmSampleRateHz ∧ pcm.format.channels = 1 ∧
      pcm.duration.frames = ft8SlotSamples)
    (hunset : ∀ name ∈ tuningVariables, environment name = false)
    (hconverts : ∀ result ∈ OfflineFt8Decoder.rawCandidates core pcm config,
      ∃ candidate, decoder.convert core result = .ok candidate) :
    ∃ owned, decoder.decode core environment pcm config = .ok owned ∧
      ∀ result ∈ OfflineFt8Decoder.rawCandidates core pcm config, ∀ message,
        decoder.codec.decodeBits core (result.message77.map fun bit => decide (bit ≠ 0)) = .ok message →
          ∃ decode ∈ owned, decode.message = message := by
  obtain ⟨hrate, hchannels, hframes⟩ := hwindow
  have htuned : ¬tuningVariables.any environment = true := by simpa using hunset
  have hmapped : ∃ candidates, (OfflineFt8Decoder.rawCandidates core pcm config).mapM (decoder.convert core) =
      .ok candidates := by
    rcases mapM_cases (decoder.convert core) (OfflineFt8Decoder.rawCandidates core pcm config) with
      hok | ⟨result, hresult, error, herror, -⟩
    · exact hok
    · obtain ⟨candidate, hcandidate⟩ := hconverts result hresult
      rw [hcandidate] at herror
      cases herror
  obtain ⟨candidates, hcandidates⟩ := hmapped
  have hkept : KeyedMax reportKey signalToNoise candidates
      (candidates.foldl (fun owned candidate => OfflineFt8Decoder.retain candidate owned) []) := by
    simp only [OfflineFt8Decoder.retain_eq_absorb]
    exact fold_keyedMax candidates
  have hsorted := hkept.perm (Ft8Decode.sortDeterministically_perm _)
  refine ⟨Ft8Decode.sortDeterministically
    (candidates.foldl (fun owned candidate => OfflineFt8Decoder.retain candidate owned) []), ?_, ?_⟩
  · unfold OfflineFt8Decoder.decode
    rw [if_neg (by simp [hrate, hchannels, hframes]), if_neg htuned]
    show ((OfflineFt8Decoder.rawCandidates core pcm config).foldlM _ [] >>= _) = _
    rw [OfflineFt8Decoder.foldlM_retain (decoder.convert core) hcandidates]
    rfl
  · intro result hresult message hmessage
    obtain ⟨candidate, hin, hconvert⟩ := exists_of_forall₂_mem (mapM_ok.mp hcandidates).flip hresult
    obtain ⟨decode, howned, hkey⟩ := hsorted.covers candidate hin
    refine ⟨decode, howned, ?_⟩
    simp only [OfflineFt8Decoder.convert, exceptBind_ok, exceptMapError_ok] at hconvert
    obtain ⟨_, -, _, -, _, -, found, hfound, hcandidate⟩ := hconvert
    cases hcandidate
    cases Except.ok.inj (hfound.symm.trans hmessage)
    exact congrArg (fun key : Int × Nat × ClassifiedFt8Message => key.2.2) hkey

/-- **Through samples and a file**. A message synthesized into a slot survives the file. A search of what is read back that
finds its frame, in candidates that convert, returns the message: with its callsigns known, its text and its callsigns,
and the class that the bits give or else the text. -/
theorem synthesized_decodes (hpacks : PacksBits core.toMfskPacker) {self : OfflineFt8Synthesizer Hashes}
    {request : Ft8WaveformRequest} {buffer : PcmBuffer} {bits : Vector Bool 77}
    (hsynth : self.synthesize core request = .ok buffer) (hslot : request.placement ≠ .frameOnly)
    (hbits : self.codec.encode core.toMfskPacker request.message = .ok bits)
    (htype : messageType bits = 1 ∨ messageType bits = 2 ∨ messageType bits = 4)
    (environment : String → Bool) (hunset : ∀ name ∈ tuningVariables, environment name = false)
    (config : Ft8DecodeConfig)
    (hfound : ∃ result ∈ OfflineFt8Decoder.rawCandidates core.toMfskCore buffer config,
      result.message77.map (fun bit => decide (bit ≠ 0)) = bits)
    (hconverts : ∀ result ∈ OfflineFt8Decoder.rawCandidates core.toMfskCore buffer config, ∃ candidate,
      OfflineFt8Decoder.convert core.toMfskCore ⟨self.codec.knowing core.toMfskPacker request.message⟩ result =
        .ok candidate) :
    ∃ bytes read owned, encodePcmWave buffer = .ok bytes ∧ decodePcmWave bytes = .ok read ∧
      OfflineFt8Decoder.decode core.toMfskCore environment
        ⟨self.codec.knowing core.toMfskPacker request.message⟩ read config = .ok owned ∧
      ∃ decode ∈ owned, ∃ message, decode.message = .resolved message ∧
        ReadAs request.message
          (readClass request.message (directedClassFromBits (bytesOfBits bits) (messageType bits))) message := by
  obtain ⟨bits', hsynth⟩ := synthesize_ok hsynth
  cases Except.ok.inj (hsynth.encoded.symm.trans hbits)
  obtain ⟨hrate, hmono, hframes⟩ := synthesized_window hsynth
  obtain ⟨owned, howned, hholds⟩ := decode_holds environment
    ⟨self.codec.knowing core.toMfskPacker request.message⟩ config ⟨hrate, hmono, hframes.mpr hslot⟩ hunset hconverts
  obtain ⟨message, hdecoded, hread⟩ := decodeBits_encoded hpacks hbits htype
  obtain ⟨result, hresult, hsame⟩ := hfound
  obtain ⟨decode, hdecode, hmessage⟩ := hholds result hresult (.resolved message) (by rw [hsame]; exact hdecoded)
  exact ⟨_, buffer, owned, encodePcmWave_eq buffer, decodePcmWave_encoded buffer, howned, decode, hdecode, message,
    hmessage, hread⟩

end Samples

/-! ## A general call in a slot -/

def callBits : Vector Bool 77 := callPayload.map fun bit => decide (bit ≠ 0)

theorem encode_call : OfflineFt8Codec.encode sampleCore.toMfskPacker ⟨()⟩ callMessage = .ok callBits := by
  decide +kernel

theorem messageType_call : messageType callBits = 1 := by decide +kernel

theorem audio1000 : 1 ≤ 1000 ∧ 1000 ≤ 50000 := by simp

theorem permille500 : 1 ≤ 500 ∧ 500 ≤ 1000 := by simp

/-- The call at 1000 Hz from the nominal start of a frame, half a second into the slot. -/
def callRequest : Ft8WaveformRequest :=
  { message := callMessage, format := OfflineFt8Decoder.silentSlot.format, audioFrequency := ⟨1000, audio1000⟩
    amplitude := ⟨500, permille500⟩, placement := .fullSlot 6000 }

theorem length_keyedSamples (tones : Vector UInt8 79) (amplitude : Int16) :
    (keyedSamples tones amplitude).length = ft8FrameSamples := by
  simp only [keyedSamples, List.length_flatMap, List.length_map, List.length_range, List.map_const', List.sum_replicate,
    Vector.length_toList]
  rfl

theorem mem_keyedSamples {tones : Vector UInt8 79} {amplitude sample : Int16} (h : sample ∈ keyedSamples tones amplitude) :
    sample = amplitude ∨ sample = -amplitude := by
  simp only [keyedSamples, List.mem_flatMap, List.mem_map] at h
  obtain ⟨tone, -, index, -, rfl⟩ := h
  split
  · exact .inl rfl
  · exact .inr rfl

/-- The signs of the samples do not depend on the amplitude. -/
theorem signsOf_keyedSamples (tones : Vector UInt8 79) {amplitude : Int16} (hpos : 0 < amplitude) (hneg : ¬0 < -amplitude) :
    signsOf (keyedSamples tones amplitude) = signsOf (keyedSamples tones 1) := by
  simp only [signsOf, keyedSamples, List.map_flatMap, List.map_map]
  refine List.flatMap_congr fun tone _ => List.map_congr_left fun sample _ => ?_
  simp only [Function.comp]
  split
  · simp [hpos]
  · simp [hneg]

theorem frameOf_call : frameOf sampleCore callRequest callBits = keyedSamples callTones 16383 := by
  have htones : sampleCore.messageToTones (callBits.map fun bit => if bit then 1 else 0) = callTones := by decide +kernel
  show keyedSamples (sampleCore.messageToTones _) _ = _
  rw [htones]
  rfl

/-- The slot of the call. -/
theorem exists_callSlot : ∃ buffer, Synthesized sampleCore ⟨⟨()⟩⟩ callRequest callBits buffer := by
  refine (synthesized_iff sampleCore).mpr ⟨⟨rfl, rfl, by decide⟩, encode_call, ?_,
    (by decide : (6000 : UInt32).toNat + ft8FrameSamples ≤ ft8SlotSamples)⟩
  rw [frameOf_call]
  refine ⟨length_keyedSamples _ _, fun sample hsample => ?_⟩
  rcases mem_keyedSamples hsample with rfl | rfl
  · decide
  · decide

/-- The search finds the frame of the call. -/
theorem call_found {buffer : PcmBuffer} (h : Synthesized sampleCore ⟨⟨()⟩⟩ callRequest callBits buffer) :
    { freqHz := 1000, dtSec := 0, snrDb := 10, message77 := callPayload } ∈
      OfflineFt8Decoder.rawCandidates sampleCore.toMfskCore buffer OfflineFt8Decoder.sampleSearch := by
  obtain ⟨-, hsamples⟩ := h.placed
  rw [frameOf_call] at hsamples
  have hframe : (buffer.samples.drop 6000).take ft8FrameSamples = keyedSamples callTones 16383 := by
    have hstart : (List.replicate (6000 : UInt32).toNat (0 : Int16)).length = 6000 := List.length_replicate
    rw [hsamples, List.append_assoc, List.drop_left' hstart, List.take_left' (length_keyedSamples callTones 16383)]
  refine List.mem_filterMap.mpr ⟨(6000, 0), by simp [halfSeconds], ?_⟩
  dsimp only
  rw [hframe, if_pos (signsOf_keyedSamples callTones (by decide) (by decide))]

/-- Whatever the search finds converts. -/
theorem call_converts {buffer : PcmBuffer} {result : DecodeResult}
    (h : result ∈ OfflineFt8Decoder.rawCandidates sampleCore.toMfskCore buffer OfflineFt8Decoder.sampleSearch) :
    ∃ candidate, OfflineFt8Decoder.convert sampleCore.toMfskCore
      ⟨OfflineFt8Codec.knowing ⟨()⟩ sampleCore.toMfskPacker callMessage⟩ result = .ok candidate := by
  obtain ⟨⟨start, dtSec⟩, hstep, hfound⟩ := List.mem_filterMap.mp h
  dsimp only at hfound
  split at hfound
  swap
  · cases hfound
  cases Option.some.inj hfound
  obtain ⟨message, hmessage, -⟩ := decodeBits_encoded packsBits_sampleCore encode_call (.inl messageType_call)
  have hfrequency : roundedU32 1000 = .ok 1000 := by decide
  have hsignal : roundedI16 (10 + phase1SnrCalibrationDb) = .ok 18 := by decide
  have hoffset : ∃ millis, roundedI32 (dtSec * 1000) = .ok millis := by
    simp only [halfSeconds, List.mem_cons, Prod.mk.injEq, List.not_mem_nil, or_false] at hstep
    rcases hstep with ⟨-, rfl⟩ | ⟨-, rfl⟩ | ⟨-, rfl⟩ | ⟨-, rfl⟩ | ⟨-, rfl⟩
    · exact ⟨-500, by decide⟩
    · exact ⟨0, by decide⟩
    · exact ⟨500, by decide⟩
    · exact ⟨1000, by decide⟩
    · exact ⟨1500, by decide⟩
  obtain ⟨millis, hmillis⟩ := hoffset
  simp only [OfflineFt8Decoder.convert, exceptBind_ok, exceptMapError_ok]
  exact ⟨_, _, hfrequency, millis, hmillis, _, hsignal, _, hmessage, rfl⟩

/-- The general call is read back from its slot. -/
theorem synthesized_decodes_call :
    ∃ buffer bytes read owned, OfflineFt8Synthesizer.synthesize sampleCore ⟨⟨()⟩⟩ callRequest = .ok buffer ∧
      encodePcmWave buffer = .ok bytes ∧ decodePcmWave bytes = .ok read ∧
      OfflineFt8Decoder.decode sampleCore.toMfskCore (fun _ => false)
        ⟨OfflineFt8Codec.knowing ⟨()⟩ sampleCore.toMfskPacker callMessage⟩ read OfflineFt8Decoder.sampleSearch =
          .ok owned ∧
      ∃ decode ∈ owned, ∃ message, decode.message = .resolved message ∧ ReadAs callMessage .generalCall message := by
  obtain ⟨buffer, hslot⟩ := exists_callSlot
  have hsynth : OfflineFt8Synthesizer.synthesize sampleCore ⟨⟨()⟩⟩ callRequest = .ok buffer :=
    ((synthesize_cases sampleCore _ _).1 buffer).mpr ⟨callBits, hslot⟩
  obtain ⟨bytes, read, owned, hread⟩ := synthesized_decodes packsBits_sampleCore hsynth (by simp [callRequest])
    encode_call (.inl messageType_call) (fun _ => false) (fun _ _ => rfl) OfflineFt8Decoder.sampleSearch
    ⟨_, call_found hslot, rfl⟩ fun _ => call_converts
  exact ⟨buffer, bytes, read, owned, hsynth, hread⟩

end Slotpilot.Protocol
