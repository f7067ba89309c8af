import Slotpilot.Protocol.OfflineEncoder

/-!
# Payload classes

The decoder's classification of a payload (`classifyPayload`) and the encoder's guard (`payloadMatches`) describe the same
classes of texts, except that `RR73` has the form of a grid. A message of three words passes the guard exactly when the
decoder reads the same message from its text (`packed_iff_resolved`), and so every encoded message is read back
(`encodeOwned_reads_back`).
-/

set_option autoImplicit false

namespace Slotpilot.Protocol

open Lib Domain

variable {payload : String} {messageClass other : Ft8MessageClass}

/-! ## Forms of payloads -/

/-- A grid starts with a letter and a report with a sign. -/
theorem isReport_of_isGrid (h : isGrid payload = true) : isReport payload = false := by
  unfold isGrid at h
  unfold isReport
  split at h
  · rename_i hchars
    rw [hchars]
  · cases h

/-- After the roger of a report there is a sign, which is no letter of a grid. -/
theorem not_roger_of_isGrid (h : isGrid payload = true) : (stripRoger payload).any isReport = false := by
  unfold isGrid at h
  split at h
  · rename_i a b c d hchars
    simp only [Bool.and_eq_true, decide_eq_true_eq] at h
    unfold stripRoger
    split
    · rename_i rest hroger
      rw [hroger] at hchars
      cases hchars
      obtain ⟨⟨⟨-, hletter⟩, -⟩, -⟩ := h
      have hsign : ∀ sign : Char, sign < 'A' → (b == sign) = false := by
        intro sign hsign
        rw [beq_eq_false_iff_ne]
        rintro rfl
        exact not_le.mpr hsign hletter.1
      simp [isReport, hsign '+' (by decide), hsign '-' (by decide)]
    · rfl
  · cases h

/-- A report has no roger. -/
theorem not_roger_of_isReport (h : isReport payload = true) : (stripRoger payload).any isReport = false := by
  unfold isReport at h
  split at h
  · rename_i sign tens ones hchars
    unfold stripRoger
    split
    · rename_i rest hroger
      rw [hroger] at hchars
      cases hchars
      simp at h
    · rfl
  · cases h

/-! ## Classification and guard -/

theorem payloadMatches_of_classify (h : classifyPayload payload = some messageClass) :
    payloadMatches messageClass payload = true := by
  unfold classifyPayload at h
  split_ifs at h with hroger hending hending' hgrid hreport hrogerReport
  all_goals
    cases h
    unfold payloadMatches
    first | assumption | (subst payload; rfl)

theorem classify_of_payloadMatches (h : payloadMatches messageClass payload = true) (hne : payload ≠ "RR73") :
    classifyPayload payload = some messageClass := by
  have hword : ∀ text, isGrid text = true ∨ isReport text = true ∨ (stripRoger text).any isReport = true →
      text ≠ "RRR" ∧ text ≠ "73" := by
    intro text hform
    constructor
    all_goals
      rintro rfl
      revert hform
      decide
  unfold payloadMatches at h
  unfold classifyPayload
  cases messageClass with
  | generalCall => cases h
  | directedGrid =>
    obtain ⟨hrrr, h73⟩ := hword payload (.inl h)
    rw [if_neg hrrr, if_neg h73, if_neg hne, if_pos h]
  | signalReport =>
    obtain ⟨hrrr, h73⟩ := hword payload (.inr (.inl h))
    have hgrid : ¬isGrid payload = true := by
      intro hgrid
      rw [isReport_of_isGrid hgrid] at h
      cases h
    rw [if_neg hrrr, if_neg h73, if_neg hne, if_neg hgrid, if_pos h]
  | rogerSignalReport =>
    obtain ⟨hrrr, h73⟩ := hword payload (.inr (.inr h))
    have hgrid : ¬isGrid payload = true := by
      intro hgrid
      rw [not_roger_of_isGrid hgrid] at h
      cases h
    have hreport : ¬isReport payload = true := by
      intro hreport
      rw [not_roger_of_isReport hreport] at h
      cases h
    rw [if_neg hrrr, if_neg h73, if_neg hne, if_neg hgrid, if_neg hreport, if_pos h]
  | roger =>
    rw [beq_iff_eq] at h
    rw [if_pos h]
  | ending73 =>
    rw [beq_iff_eq] at h
    subst h
    rfl
  | endingRr73 =>
    rw [beq_iff_eq] at h
    exact absurd h hne

/-- A payload of two classes is `RR73`, a grid and an ending. -/
theorem classes_of_payload (h : payloadMatches messageClass payload = true) (hother : payloadMatches other payload = true) :
    messageClass = other ∨ payload = "RR73" ∧
      (messageClass = .directedGrid ∧ other = .endingRr73 ∨ messageClass = .endingRr73 ∧ other = .directedGrid) := by
  by_cases hne : payload = "RR73"
  · subst hne
    have htwo : ∀ a, payloadMatches a "RR73" = true → a = .directedGrid ∨ a = .endingRr73 := by
      intro a ha
      cases a
      case directedGrid => exact .inl rfl
      case endingRr73 => exact .inr rfl
      all_goals exact absurd ha (by decide)
    rcases htwo _ h with rfl | rfl
    · rcases htwo _ hother with rfl | rfl
      · exact .inl rfl
      · exact .inr ⟨rfl, .inl ⟨rfl, rfl⟩⟩
    · rcases htwo _ hother with rfl | rfl
      · exact .inr ⟨rfl, .inr ⟨rfl, rfl⟩⟩
      · exact .inl rfl
  · have hclass := classify_of_payloadMatches h hne
    rw [classify_of_payloadMatches hother hne] at hclass
    exact .inl (Option.some.inj hclass).symm

/-- The same payloads have a class for the decoder and for the encoder. -/
theorem classify_isSome : (classifyPayload payload).isSome = true ↔ ∃ messageClass, payloadMatches messageClass payload = true := by
  constructor
  · intro h
    obtain ⟨messageClass, hclass⟩ := Option.isSome_iff_exists.mp h
    exact ⟨messageClass, payloadMatches_of_classify hclass⟩
  · rintro ⟨messageClass, hmatches⟩
    by_cases hne : payload = "RR73"
    · subst hne
      rfl
    · rw [classify_of_payloadMatches hmatches hne]
      rfl

/-! ## Messages of three words -/

section Messages

variable {message : ResolvedFt8Message} {text first second third : String}

@[simp] theorem sameIdentity_iff {token : String} {expected : FullCallsign} :
    sameIdentity token expected = true ↔ expected.original = unbracketed token := by
  rw [sameIdentity, beq_iff_eq, eq_comm]

/-- No callsign is `CQ`. -/
theorem not_sameIdentity_cq (expected : FullCallsign) : sameIdentity "CQ" expected = false := by
  rw [Bool.eq_false_iff, ne_eq, sameIdentity_iff]
  intro hcq
  have hparsed := expected.parsed
  rw [hcq] at hparsed
  exact absurd hparsed (by intro h; cases h)

/-- A general call has no recipient. -/
theorem recipient_of_generalCall (h : message.messageClass = .generalCall) : message.recipient = none := by
  have haddressed := message.addressed
  rw [h] at haddressed
  exact Option.isNone_iff_eq_none.mp (Option.isSome_eq_false_iff.mp haddressed.symm)

theorem toOption_eq_some {ε α : Type} {result : Except ε α} {value : α} :
    result.toOption = some value ↔ result = .ok value := by
  cases result <;> simp [Except.toOption]

theorem resolved_call : resolvedMessage text first none messageClass = some message ↔
    message.canonicalText = text ∧ sameIdentity first message.sender = true ∧ message.recipient = none ∧
      message.messageClass = messageClass := by
  simp only [resolvedMessage, Option.bind_eq_bind, Option.bind_eq_some_iff, toOption_eq_some, FullCallsign.fromStr_ok,
    ResolvedFt8Message.new_ok, sameIdentity_iff, Option.some.injEq]
  constructor
  · rintro ⟨sender, hsender, _, rfl, htext, rfl, hrecipient, hclass⟩
    exact ⟨htext, hsender, hrecipient, hclass⟩
  · rintro ⟨htext, hsender, hrecipient, hclass⟩
    exact ⟨_, hsender, none, rfl, htext, rfl, hrecipient, hclass⟩

theorem resolved_directed : resolvedMessage text first (some second) messageClass = some message ↔
    message.canonicalText = text ∧ sameIdentity first message.sender = true ∧
      message.recipient.any (sameIdentity second) = true ∧ message.messageClass = messageClass := by
  simp only [resolvedMessage, Option.bind_eq_bind, Option.bind_eq_some_iff, Option.map_eq_some_iff, toOption_eq_some,
    FullCallsign.fromStr_ok, ResolvedFt8Message.new_ok, Option.any_eq_true_iff_get, sameIdentity_iff]
  constructor
  · rintro ⟨sender, hsender, _, ⟨recipient, hsecond, rfl⟩, htext, rfl, hrecipient, hclass⟩
    refine ⟨htext, hsender, ?_, hclass⟩
    simp [hrecipient, hsecond]
  · rintro ⟨htext, hsender, ⟨hsome, hsecond⟩, hclass⟩
    obtain ⟨recipient, hrecipient⟩ := Option.isSome_iff_exists.mp hsome
    refine ⟨_, hsender, some recipient, ⟨recipient, ?_, rfl⟩, htext, rfl, hrecipient, hclass⟩
    simpa [hrecipient] using hsecond

theorem ambiguous_ne_resolved : ambiguous text ≠ .ok (.resolved message) := by
  unfold ambiguous adapted
  split <;> simp

theorem resolvedOrAmbiguous_resolved {recipient : Option String} :
    resolvedOrAmbiguous text first recipient messageClass = .ok (.resolved message) ↔
      resolvedMessage text first recipient messageClass = some message := by
  unfold resolvedOrAmbiguous
  cases resolvedMessage text first recipient messageClass with
  | some resolved => simp
  | none => simp [ambiguous_ne_resolved]

theorem unsupported_ne_resolved {detail : String} : unsupported text detail ≠ .ok (.resolved message) := by
  unfold unsupported adapted
  split <;> simp

theorem classifyDirected_resolved : classifyDirected text first second third none = .ok (.resolved message) ↔
    classifyPayload third = some message.messageClass ∧ message.canonicalText = text ∧
      sameIdentity first message.sender = true ∧ message.recipient.any (sameIdentity second) = true := by
  unfold classifyDirected
  rw [Option.none_or]
  cases hclass : classifyPayload third with
  | some messageClass =>
    dsimp only
    rw [resolvedOrAmbiguous_resolved, resolved_directed, Option.some.injEq, eq_comm (a := messageClass)]
    tauto
  | none =>
    dsimp only
    simp [unsupported_ne_resolved]

theorem packedWords_three {Hashes : Type} (core : MfskPacker Hashes)
    (hwords : splitWhitespace message.canonicalText = [first, second, third]) :
    (packedWords core message).isSome = true ↔
      (message.messageClass = .generalCall ∧ first = "CQ" ∧ sameIdentity second message.sender = true ∧
          isGrid third = true) ∨
        message.messageClass ≠ .generalCall ∧ sameIdentity first message.sender = true ∧
          message.recipient.any (sameIdentity second) = true ∧ payloadMatches message.messageClass third = true := by
  unfold packedWords
  rw [hwords]
  split
  · rename_i hcall
    cases hcall
  · rename_i hthree
    cases hthree
    split
    · rename_i hcall
      exact iff_of_true rfl (.inl hcall)
    · rename_i hcall
      split
      · rename_i hdirected
        exact iff_of_true rfl (.inr hdirected)
      · rename_i hdirected
        refine iff_of_false (by simp) ?_
        rintro (hcall' | hdirected')
        · exact hcall hcall'
        · exact hdirected hdirected'
  · rename_i hother
    exact absurd rfl (hother first second third)

/-- The guard and the decoder agree on a message of three words. -/
theorem packed_iff_resolved {Hashes : Type} (core : MfskPacker Hashes)
    (hwords : splitWhitespace message.canonicalText = [first, second, third]) (hne : third ≠ "RR73") :
    (packedWords core message).isSome = true ↔
      classifySupported message.canonicalText none = .ok (.resolved message) := by
  have hclass : payloadMatches message.messageClass third = true ↔
      classifyPayload third = some message.messageClass :=
    ⟨fun h => classify_of_payloadMatches h hne, payloadMatches_of_classify⟩
  have hthree : classifySupported message.canonicalText none =
      if first = "CQ" ∧ isGrid third = true then
        resolvedOrAmbiguous message.canonicalText second none .generalCall
      else classifyDirected message.canonicalText first second third none := by
    unfold classifySupported
    rw [hwords]
    split
    · rename_i hcall
      cases hcall
    · rename_i hthree
      cases hthree
      rfl
    · rename_i hother
      exact absurd rfl (hother first second third)
  rw [packedWords_three core hwords, hthree]
  split_ifs with hcall
  · -- the first word is no callsign, so the message is a general call
    obtain ⟨rfl, hgrid⟩ := hcall
    rw [resolvedOrAmbiguous_resolved, resolved_call]
    constructor
    · rintro (⟨hgeneral, -, hsecond, -⟩ | ⟨-, hfirst, -⟩)
      · exact ⟨rfl, hsecond, recipient_of_generalCall hgeneral, hgeneral⟩
      · rw [not_sameIdentity_cq] at hfirst
        cases hfirst
    · rintro ⟨-, hsecond, -, hgeneral⟩
      exact .inl ⟨hgeneral, rfl, hsecond, hgrid⟩
  · rw [classifyDirected_resolved, ← hclass]
    constructor
    · rintro (⟨-, hfirst, -, hgrid⟩ | ⟨-, hfirst, hsecond, hmatches⟩)
      · exact absurd ⟨hfirst, hgrid⟩ hcall
      · exact ⟨hmatches, rfl, hfirst, hsecond⟩
    · rintro ⟨hmatches, -, hfirst, hsecond⟩
      refine .inr ⟨?_, hfirst, hsecond, hmatches⟩
      intro hgeneral
      rw [hgeneral] at hmatches
      cases hmatches

/-- A general call of two words that passes the guard is read back. -/
theorem resolved_of_packed_two {Hashes : Type} {core : MfskPacker Hashes} {sender : String}
    (hwords : splitWhitespace message.canonicalText = ["CQ", sender]) (h : (packedWords core message).isSome = true) :
    classifySupported message.canonicalText none = .ok (.resolved message) := by
  have htwo : classifySupported message.canonicalText none =
      resolvedOrAmbiguous message.canonicalText sender none .generalCall := by
    unfold classifySupported
    rw [hwords]
    rfl
  unfold packedWords at h
  rw [hwords] at h
  split at h
  · rename_i hcall
    cases hcall
    split at h
    · rename_i hcall
      obtain ⟨hgeneral, hsender, -⟩ := hcall
      rw [htwo, resolvedOrAmbiguous_resolved, resolved_call]
      exact ⟨rfl, hsender, recipient_of_generalCall hgeneral, hgeneral⟩
    · cases h
  · rename_i hthree
    cases hthree
  · cases h

/-- A message that passes the guard is read back from its text unless its payload is `RR73`. -/
theorem resolved_of_packed {Hashes : Type} {core : MfskPacker Hashes} (h : (packedWords core message).isSome = true)
    (hne : ∀ first second, splitWhitespace message.canonicalText ≠ [first, second, "RR73"]) :
    classifySupported message.canonicalText none = .ok (.resolved message) := by
  have hpacked := h
  unfold packedWords at h
  split at h
  · rename_i hwords
    exact resolved_of_packed_two hwords hpacked
  · rename_i first second third hwords
    refine (packed_iff_resolved core hwords ?_).mp hpacked
    rintro rfl
    exact hne first second hwords
  · cases h

/-- **What the codec encodes** unpacks to a text that is read as the message. -/
theorem encodeOwned_reads_back {Hashes : Type} {core : MfskPacker Hashes} {codec : OfflineFt8Codec Hashes}
    {encoded : Vector UInt8 77} (h : codec.encodeOwned core message = .ok encoded)
    (hne : ∀ first second, splitWhitespace message.canonicalText ≠ [first, second, "RR73"]) :
    ∃ unpacked, core.unpack77WithHash encoded (verificationHashes core codec.hashes message) = some unpacked ∧
      classifySupported (normalizeStandardReport unpacked) none = .ok (.resolved message) := by
  simp only [OfflineFt8Codec.encodeOwned, exceptBind_ok, okOr_ok] at h
  obtain ⟨packed, hpacked, _, -, unpacked, hunpacked, h⟩ := h
  split_ifs at h with hsame
  cases h
  refine ⟨unpacked, hunpacked, ?_⟩
  rw [ne_eq, not_not] at hsame
  rw [hsame]
  exact resolved_of_packed (Option.isSome_of_mem hpacked) hne

end Messages

/-- **The classes of a payload** are the same for the decoder and for the encoder, except that `RR73` is a grid and an
ending. -/
theorem payload_classes (payload : String) :
    (∀ messageClass, classifyPayload payload = some messageClass → payloadMatches messageClass payload = true) ∧
    (∀ messageClass, payloadMatches messageClass payload = true → payload ≠ "RR73" →
      classifyPayload payload = some messageClass) ∧
    (∀ messageClass other, payloadMatches messageClass payload = true → payloadMatches other payload = true →
      messageClass = other ∨ payload = "RR73" ∧
        (messageClass = .directedGrid ∧ other = .endingRr73 ∨ messageClass = .endingRr73 ∧ other = .directedGrid)) ∧
    ((classifyPayload payload).isSome = true ↔ ∃ messageClass, payloadMatches messageClass payload = true) ∧
    ∀ {Hashes : Type} (core : MfskPacker Hashes) (message : ResolvedFt8Message) (first second : String),
      splitWhitespace message.canonicalText = [first, second, payload] → payload ≠ "RR73" →
        ((packedWords core message).isSome = true ↔
          classifySupported message.canonicalText none = .ok (.resolved message)) := by
  refine ⟨?_, ?_, ?_, classify_isSome, ?_⟩
  · intro messageClass
    exact payloadMatches_of_classify
  · intro messageClass
    exact classify_of_payloadMatches
  · intro messageClass other
    exact classes_of_payload
  · intro Hashes core message first second hwords hne
    exact packed_iff_resolved core hwords hne

end Slotpilot.Protocol
