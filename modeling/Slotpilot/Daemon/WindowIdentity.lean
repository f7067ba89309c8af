import Slotpilot.Daemon.Receive
import Slotpilot.Lib.Framing
import Slotpilot.Storage.ReceiveLog

/-!
# The identity of a window

The identity of a window is the digest of its full context. Its bytes have no lengths, but the platform code that
follows the generations is a control character, which the device identity cannot have.

* `windowBytes_inj`: the bytes tell full contexts apart;
* `window_identity_iff`: windows share an identity exactly when they share the columns of the full context.
-/

set_option autoImplicit false

namespace Slotpilot.Daemon

open Lib Domain Audio Storage

/-- The bytes of a full context. -/
def windowBytes (key : ContextKey) : List UInt8 :=
  receiveWindowBytes key.serviceInstanceId { deviceIdentity := key.deviceIdentity, configuration := key.configuration }
    key.processGeneration key.streamGeneration key.slot.startUtcUnixMillis

/-- The identity of a full context. -/
def windowId (crates : ReceiveCrates) (key : ContextKey) : Except IdError ReceiveWindowId :=
  receiveWindowId crates key.serviceInstanceId { deviceIdentity := key.deviceIdentity, configuration := key.configuration }
    key.processGeneration key.streamGeneration key.slot.startUtcUnixMillis

/-! ## The bytes -/

@[simp] theorem length_beBytes (width value : Nat) : (beBytes width value).length = width := by simp [beBytes]

theorem beBytes_inj {width a b : Nat} (ha : a < 256 ^ width) (hb : b < 256 ^ width) (h : beBytes width a = beBytes width b) :
    a = b := bigEndian_inj ha hb h

theorem platformCode_inj {a b : InputPlatform} (h : platformCode a = platformCode b) : a = b := by
  revert h
  cases a <;> cases b <;> decide

theorem sampleFormatCode_inj {a b : InputSampleFormat} (h : sampleFormatCode a = sampleFormatCode b) : a = b := by
  revert h
  cases a <;> cases b <;> decide

theorem platformCode_control (platform : InputPlatform) : (platformCode platform).toNat < 0x20 := by
  cases platform <;> decide

/-- A platform code is not a byte of a device identity. -/
theorem platformCode_not_mem (platform : InputPlatform) (identity : InputDeviceIdentity) :
    platformCode platform ∉ identity.opaqueId.toUTF8.toList := by
  intro hmem
  have hcontrol := platformCode_control platform
  obtain ⟨c, hc, hcode⟩ := mem_utf8 hmem (by omega)
  have hbounded := identity.bounded
  simp only [validateBoundedText, Bool.not_eq_true', Bool.or_eq_false_iff, List.any_eq_false] at hbounded
  refine hbounded.2 c hc ?_
  rw [isControl, Bool.or_eq_true, decide_eq_true_iff]
  exact .inl (by omega)

/-- The bytes of a full context as a frame around its device identity. -/
theorem windowBytes_eq (key : ContextKey) :
    windowBytes key = key.serviceInstanceId.text.toUTF8.toList ++
      ((beBytes 8 key.processGeneration.value.toNat ++ (beBytes 8 key.streamGeneration.value.toNat ++
          beBytes 8 key.slot.startUtcUnixMillis.toUInt64.toNat)) ++
        platformCode key.deviceIdentity.platform :: (key.deviceIdentity.opaqueId.toUTF8.toList ++
          (beBytes 4 key.configuration.sampleRateHz ++ (beBytes 2 key.configuration.channels ++
            ([sampleFormatCode key.configuration.sampleFormat] ++ beBytes 2 key.configuration.selectedChannel))))) := by
  simp only [windowBytes, receiveWindowBytes, List.append_assoc, List.cons_append, List.nil_append]

theorem configuration_inj {a b : InputConfiguration}
    (h : beBytes 4 a.sampleRateHz ++ (beBytes 2 a.channels ++
        ([sampleFormatCode a.sampleFormat] ++ beBytes 2 a.selectedChannel)) =
      beBytes 4 b.sampleRateHz ++ (beBytes 2 b.channels ++
        ([sampleFormatCode b.sampleFormat] ++ beBytes 2 b.selectedChannel))) : a = b := by
  obtain ⟨hrate, h⟩ := List.append_inj h (by simp)
  obtain ⟨hchannels, h⟩ := List.append_inj h (by simp)
  obtain ⟨hformat, hselected⟩ := List.append_inj h (by simp)
  have ha := a.rate_le
  have hb := b.rate_le
  have hac := a.channels_le
  have hbc := b.channels_le
  have has := a.selected_lt
  have hbs := b.selected_lt
  simp only [maxSampleRateHz, maxInputChannels] at ha hb hac hbc
  refine configuration_eq (beBytes_inj ?_ ?_ hrate) (beBytes_inj ?_ ?_ hchannels)
    (sampleFormatCode_inj (List.singleton_inj.mp hformat)) (beBytes_inj ?_ ?_ hselected) <;> omega

/-- **The bytes of a window are unambiguous.** -/
theorem windowBytes_inj {a b : ContextKey} : windowBytes a = windowBytes b ↔ a = b := by
  refine ⟨fun h => ?_, congrArg _⟩
  rw [windowBytes_eq, windowBytes_eq] at h
  obtain ⟨hservice, hfixed, hplatform, hident, hconfiguration⟩ := delimited_inj (by simp) (by simp)
    (platformCode_not_mem _ _) (platformCode_not_mem _ _) h
  obtain ⟨hprocess, hfixed⟩ := List.append_inj hfixed (by simp)
  obtain ⟨hstream, hslot⟩ := List.append_inj hfixed (by simp)
  have hslot := beBytes_inj (UInt64.toNat_lt _) (UInt64.toNat_lt _) hslot
  cases a
  cases b
  rw [ContextKey.mk.injEq]
  exact ⟨TypedId.ext (utf8_inj hservice),
    processGeneration_eq (UInt64.toNat_inj.mp (beBytes_inj (UInt64.toNat_lt _) (UInt64.toNat_lt _) hprocess)),
    streamGeneration_eq (UInt64.toNat_inj.mp (beBytes_inj (UInt64.toNat_lt _) (UInt64.toNat_lt _) hstream)),
    Ft8ReceiveSlot.eq_iff.mp (congrArg Int64.ofUInt64 (UInt64.toNat_inj.mp hslot)),
    deviceIdentity_eq (platformCode_inj hplatform) (utf8_inj hident), configuration_inj hconfiguration⟩

/-! ## The identity -/

/-- A digest of 32 bytes is the payload of an identity. -/
theorem windowId_ok {crates : ReceiveCrates} (hdigest : ∀ bytes, (crates.sha256 bytes).length = 32) (key : ContextKey) :
    ∃ id, windowId crates key = .ok id ∧ id.text = "rxw_" ++ lowerHex (crates.sha256 (windowBytes key)) := by
  have hdigits : ∀ digit : Fin 16, isIdCharacter (Nat.digitChar digit) = true ∧ (Nat.digitChar digit).utf8Size = 1 := by
    decide
  have hvalid : validateId "rxw_" ("rxw_" ++ lowerHex (crates.sha256 (windowBytes key))) = .ok () := by
    refine validateId_ok.mpr ⟨hexDigits (crates.sha256 (windowBytes key)), ?_, ?_, ?_⟩
    · rw [String.toList_append, lowerHex, ← hexDigits,
        String.toList_ofList (l := hexDigits _)]
    · have hsizes : (hexDigits (crates.sha256 (windowBytes key))).map Char.utf8Size =
          List.replicate (2 * (crates.sha256 (windowBytes key)).length) 1 := by
        refine List.eq_replicate_iff.mpr ⟨by rw [List.length_map, length_hexDigits], fun size hsize => ?_⟩
        obtain ⟨c, hc, rfl⟩ := List.mem_map.mp hsize
        obtain ⟨digit, rfl⟩ := mem_hexDigits hc
        exact (hdigits digit).2
      rw [hsizes, hdigest, List.sum_replicate]
      decide
    · refine List.all_eq_true.mpr fun c hc => ?_
      obtain ⟨digit, rfl⟩ := mem_hexDigits hc
      exact (hdigits digit).1
  exact ⟨⟨_, hvalid⟩, TypedId.fromStr_ok.mpr rfl, rfl⟩

theorem lowerHex_inj {a b : List UInt8} (h : lowerHex a = lowerHex b) : a = b := by
  have hlists := congrArg String.toList h
  rw [lowerHex, lowerHex, ← hexDigits, ← hexDigits, String.toList_ofList, String.toList_ofList] at hlists
  exact hexDigits_inj hlists

/-- **The identity of a window is unambiguous**: without a collision of the digest on the two contexts, two windows share
an identity exactly when they share the columns of the full context, which are unique in the table of windows. -/
theorem window_identity_iff (crates : ReceiveCrates) (hdigest : ∀ bytes, (crates.sha256 bytes).length = 32)
    (a b : ContextKey)
    (hcollision : crates.sha256 (windowBytes a) = crates.sha256 (windowBytes b) → windowBytes a = windowBytes b) :
    (windowBytes a = windowBytes b ↔ a = b) ∧
      ∃ idA idB, windowId crates a = .ok idA ∧ windowId crates b = .ok idB ∧ (idA = idB ↔ a.columns = b.columns) := by
  obtain ⟨idA, hidA, htextA⟩ := windowId_ok hdigest a
  obtain ⟨idB, hidB, htextB⟩ := windowId_ok hdigest b
  refine ⟨windowBytes_inj, idA, idB, hidA, hidB, ?_⟩
  rw [ContextKey.columns_inj]
  constructor
  · rintro rfl
    have hhex : lowerHex (crates.sha256 (windowBytes a)) = lowerHex (crates.sha256 (windowBytes b)) := by
      have htexts := congrArg String.toList (htextA.symm.trans htextB)
      rw [String.toList_append, String.toList_append, List.append_cancel_left_eq] at htexts
      exact String.toList_inj.mp htexts
    exact windowBytes_inj.mp (hcollision (lowerHex_inj hhex))
  · rintro rfl
    rw [hidA, Except.ok.injEq] at hidB
    exact hidB

/-- A window of the process generation. -/
def sampleKey (processGeneration : ProcessGeneration) : ContextKey where
  serviceInstanceId := sampleInstance
  processGeneration
  streamGeneration := ⟨1, one_nonzero⟩
  slot := sampleSlot
  deviceIdentity := sampleDevice
  configuration := sampleConfiguration

def firstKey : ContextKey := sampleKey ⟨1, one_nonzero⟩
def secondKey : ContextKey := sampleKey ⟨2, two_nonzero⟩

/-- The SHA-256 digest of the first window's bytes. -/
def firstDigest : List UInt8 :=
  [139, 191, 25, 28, 193, 201, 40, 255, 63, 183, 113, 53, 44, 143, 99, 217, 39, 22, 9, 241, 13, 113,
    175, 184, 59, 137, 228, 115, 60, 112, 255, 245]

/-- The SHA-256 digest of the second window's bytes. -/
def secondDigest : List UInt8 :=
  [244, 109, 41, 234, 252, 181, 248, 42, 183, 122, 244, 4, 54, 247, 73, 77, 236, 41, 12, 224, 5, 2, 19,
    34, 212, 47, 183, 70, 128, 194, 195, 6]

/-- SHA-256 on the bytes of the two windows. -/
def sampleCrates : ReceiveCrates where
  sha256 bytes := if bytes = windowBytes firstKey then firstDigest else secondDigest
  planFft _ := { scratchLen := 0, magnitude := fun _ _ => 0 }

theorem window_identity_iff_sample :
    (windowBytes firstKey = windowBytes secondKey ↔ firstKey = secondKey) ∧
      ∃ idA idB, windowId sampleCrates firstKey = .ok idA ∧ windowId sampleCrates secondKey = .ok idB ∧
        (idA = idB ↔ firstKey.columns = secondKey.columns) := by
  refine window_identity_iff sampleCrates (fun bytes => ?_) firstKey secondKey fun hsame => ?_
  · show (if bytes = windowBytes firstKey then firstDigest else secondDigest).length = 32
    split <;> rfl
  · by_contra hdiffers
    simp only [sampleCrates, if_true, if_neg (Ne.symm hdiffers)] at hsame
    exact absurd hsame (by decide)

end Slotpilot.Daemon
