import Slotpilot.Daemon.Commands
import Slotpilot.Daemon.Receive

/-!
# Selections between the wire and the audio crate

The same selection is checked twice: its bytes when a start is canonicalized, its characters when it is converted to the
audio crate's values.

* `converts_iff`: a selection that is in the wire bounds converts unless its identity has a control character above ASCII;
* `validators_agree_iff`: the two checks agree on a selection exactly when it is not such a one, and every audio selection
  survives the way to the wire and back.
-/

set_option autoImplicit false

namespace Slotpilot.Daemon

open Lib

/-! ## Conversions -/

def mapPlatform : Audio.InputPlatform → Api.InputPlatform
  | .macOsCoreAudio => .macOsCoreAudio
  | .windowsWasapi => .windowsWasapi
  | .linuxAlsa => .linuxAlsa
  | .linuxJack => .linuxJack

def mapPlatformFromApi : Api.InputPlatform → Audio.InputPlatform
  | .macOsCoreAudio => .macOsCoreAudio
  | .windowsWasapi => .windowsWasapi
  | .linuxAlsa => .linuxAlsa
  | .linuxJack => .linuxJack

def mapSampleFormat : Audio.InputSampleFormat → Api.InputSampleFormat
  | .signed8 => .signed8
  | .signed16 => .signed16
  | .signed24 => .signed24
  | .signed32 => .signed32
  | .signed64 => .signed64
  | .unsigned8 => .unsigned8
  | .unsigned16 => .unsigned16
  | .unsigned24 => .unsigned24
  | .unsigned32 => .unsigned32
  | .unsigned64 => .unsigned64
  | .float32 => .float32
  | .float64 => .float64

def mapSampleFormatFromApi : Api.InputSampleFormat → Audio.InputSampleFormat
  | .signed8 => .signed8
  | .signed16 => .signed16
  | .signed24 => .signed24
  | .signed32 => .signed32
  | .signed64 => .signed64
  | .unsigned8 => .unsigned8
  | .unsigned16 => .unsigned16
  | .unsigned24 => .unsigned24
  | .unsigned32 => .unsigned32
  | .unsigned64 => .unsigned64
  | .float32 => .float32
  | .float64 => .float64

def mapDeviceIdentity (value : Audio.InputDeviceIdentity) : Api.InputDeviceIdentity where
  platform := mapPlatform value.platform
  opaqueId := value.opaqueId

/-- The wire form of a configuration; a checked configuration fits its machine integers. -/
def mapConfiguration (value : Audio.InputConfiguration) : Api.InputConfiguration where
  sampleRateHz := UInt32.ofNat value.sampleRateHz
  channels := UInt16.ofNat value.channels
  sampleFormat := mapSampleFormat value.sampleFormat
  selectedChannel := UInt16.ofNat value.selectedChannel

/-- The wire form of a selection, as records and statuses carry it. -/
def mapSelection (value : ReceiveSelection) : Api.ReceiveSelection where
  deviceIdentity := mapDeviceIdentity value.deviceIdentity
  configuration := mapConfiguration value.configuration

/-- Converts a wire selection to the audio selection. -/
def mapReceiveSelection (selection : Api.ReceiveSelection) : Except ReceiveApiFault ReceiveSelection := do
  let deviceIdentity ← (Audio.InputDeviceIdentity.new (mapPlatformFromApi selection.deviceIdentity.platform)
    selection.deviceIdentity.opaqueId).mapError fun _ => ReceiveApiFault.invalidRequest
  let configuration ← (Audio.InputConfiguration.new selection.configuration.sampleRateHz.toNat
    selection.configuration.channels.toNat (mapSampleFormatFromApi selection.configuration.sampleFormat)
    selection.configuration.selectedChannel.toNat).mapError fun _ => ReceiveApiFault.invalidRequest
  pure { deviceIdentity, configuration }

/-! ## The two checks -/

section Checks

variable {toVec : Api.Command → Option (List UInt8)} {selection : Api.ReceiveSelection}

/-- A start with the selection has canonical bytes. -/
def Accepts (toVec : Api.Command → Option (List UInt8)) (selection : Api.ReceiveSelection) : Prop :=
  ∃ bytes, (Api.Command.receiveStart selection).canonicalBytes toVec = .ok bytes

/-- The selection converts to an audio selection. -/
def Converts (selection : Api.ReceiveSelection) : Prop :=
  ∃ audio, mapReceiveSelection selection = .ok audio

/-- A text has a control character above ASCII, U+0080 to U+009F. -/
def HasWideControl (text : String) : Prop := ∃ c ∈ text.toList, 0x80 ≤ c.toNat ∧ c.toNat ≤ 0x9f

theorem accepts_iff (htotal : ∀ command, (toVec command).isSome) : Accepts toVec selection ↔ selection.inBounds = true := by
  obtain ⟨bytes, hbytes⟩ := Option.isSome_iff_exists.mp (htotal (.receiveStart selection))
  have hcanonical : (Api.Command.receiveStart selection).canonicalBytes toVec =
      (if selection.inBounds = true then .ok () else .error .invalidReceiveCommand) >>= fun _ => .ok bytes := by
    show (_ >>= fun _ => okOr _ (toVec _)) = _
    rw [hbytes]
    rfl
  unfold Accepts
  rw [hcanonical]
  constructor
  · rintro ⟨_, h⟩
    by_contra hbounds
    rw [if_neg hbounds] at h
    cases h
  · intro hbounds
    rw [if_pos hbounds]
    exact ⟨bytes, rfl⟩

theorem identity_new_ok {platform : Audio.InputPlatform} {text : String} :
    (∃ identity, Audio.InputDeviceIdentity.new platform text = .ok identity) ↔
      Audio.validateBoundedText text Audio.maxIdentityBytes = true := by
  unfold Audio.InputDeviceIdentity.new
  split <;> simp_all

theorem configuration_new_ok {rate channels selected : Nat} {format : Audio.InputSampleFormat} :
    (∃ configuration, Audio.InputConfiguration.new rate channels format selected = .ok configuration) ↔
      (Audio.minSampleRateHz ≤ rate ∧ rate ≤ Audio.maxSampleRateHz) ∧
        (0 < channels ∧ channels ≤ Audio.maxInputChannels) ∧ selected < channels := by
  unfold Audio.InputConfiguration.new
  split
  · split
    · split <;> simp_all
    · simp_all
  · simp_all

/-- The audio crate's check of a text is the wire's without the control characters above ASCII. -/
theorem bounded_iff {text : String} : Audio.validateBoundedText text Audio.maxIdentityBytes = true ↔
    (text.isEmpty = false ∧ text.utf8ByteSize ≤ 256 ∧
      text.toList.any (fun c => c.toNat < 0x20 || c.toNat = 0x7f) = false) ∧ ¬HasWideControl text := by
  have hcontrols : text.toList.any Audio.isControl = false ↔
      text.toList.any (fun c => c.toNat < 0x20 || c.toNat = 0x7f) = false ∧ ¬HasWideControl text := by
    simp only [List.any_eq_false, HasWideControl, not_exists, not_and, ← forall₂_and]
    refine forall₂_congr fun c _ => ?_
    simp only [Audio.isControl, Bool.or_eq_true, Bool.and_eq_true, decide_eq_true_eq]
    omega
  simp only [Audio.validateBoundedText, Audio.maxIdentityBytes, Bool.not_eq_true', Bool.or_eq_false_iff,
    hcontrols]
  constructor
  · rintro ⟨⟨hempty, hsize⟩, hascii, hwide⟩
    exact ⟨⟨hempty, Nat.not_lt.mp (of_decide_eq_false hsize), hascii⟩, hwide⟩
  · rintro ⟨⟨hempty, hsize, hascii⟩, hwide⟩
    exact ⟨⟨hempty, decide_eq_false (Nat.not_lt.mpr hsize)⟩, hascii, hwide⟩

theorem inBounds_iff : selection.inBounds = true ↔
    (selection.deviceIdentity.opaqueId.isEmpty = false ∧ selection.deviceIdentity.opaqueId.utf8ByteSize ≤ 256 ∧
      selection.deviceIdentity.opaqueId.toList.any (fun c => c.toNat < 0x20 || c.toNat = 0x7f) = false) ∧
    (Audio.minSampleRateHz ≤ selection.configuration.sampleRateHz.toNat ∧
      selection.configuration.sampleRateHz.toNat ≤ Audio.maxSampleRateHz) ∧
    (0 < selection.configuration.channels.toNat ∧
      selection.configuration.channels.toNat ≤ Audio.maxInputChannels) ∧
    selection.configuration.selectedChannel.toNat < selection.configuration.channels.toNat := by
  have hzero : selection.configuration.channels = 0 ↔ selection.configuration.channels.toNat = 0 := UInt16.toNat_inj.symm
  simp only [Api.ReceiveSelection.inBounds, Bool.not_eq_true', Bool.or_eq_false_iff, decide_eq_false_iff_not,
    beq_eq_false_iff_ne, ne_eq, hzero, Bool.not_eq_false', Bool.and_eq_true, decide_eq_true_eq, UInt32.le_iff_toNat_le,
    UInt16.lt_iff_toNat_lt, UInt16.le_iff_toNat_le, Audio.minSampleRateHz, Audio.maxSampleRateHz, Audio.maxInputChannels]
  constructor
  · rintro ⟨⟨⟨⟨⟨⟨hempty, hsize⟩, hascii⟩, hrate⟩, hpos⟩, hle⟩, hlt⟩
    exact ⟨⟨hempty, Nat.not_lt.mp hsize, hascii⟩, hrate, ⟨Nat.pos_of_ne_zero hpos, Nat.not_lt.mp hle⟩, Nat.not_le.mp hlt⟩
  · rintro ⟨⟨hempty, hsize, hascii⟩, hrate, ⟨hpos, hle⟩, hlt⟩
    exact ⟨⟨⟨⟨⟨⟨hempty, Nat.not_lt.mpr hsize⟩, hascii⟩, hrate⟩, Nat.pos_iff_ne_zero.mp hpos⟩, Nat.not_lt.mpr hle⟩,
      Nat.not_le.mpr hlt⟩

/-- The wire bounds, without a control character above ASCII, are what the conversion checks. -/
theorem converts_iff : Converts selection ↔
    selection.inBounds = true ∧ ¬HasWideControl selection.deviceIdentity.opaqueId := by
  have hsplit : Converts selection ↔
      (∃ identity, Audio.InputDeviceIdentity.new (mapPlatformFromApi selection.deviceIdentity.platform)
        selection.deviceIdentity.opaqueId = .ok identity) ∧
      ∃ configuration, Audio.InputConfiguration.new selection.configuration.sampleRateHz.toNat
        selection.configuration.channels.toNat (mapSampleFormatFromApi selection.configuration.sampleFormat)
        selection.configuration.selectedChannel.toNat = .ok configuration := by
    simp only [Converts, mapReceiveSelection, exceptBind_ok, exceptMapError_ok]
    constructor
    · rintro ⟨_, identity, hidentity, configuration, hconfiguration, -⟩
      exact ⟨⟨identity, hidentity⟩, configuration, hconfiguration⟩
    · rintro ⟨⟨identity, hidentity⟩, configuration, hconfiguration⟩
      exact ⟨⟨identity, configuration⟩, identity, hidentity, configuration, hconfiguration, rfl⟩
  rw [hsplit, identity_new_ok, configuration_new_ok, bounded_iff, inBounds_iff]
  constructor
  · rintro ⟨⟨htext, hwide⟩, hconfiguration⟩
    exact ⟨⟨htext, hconfiguration⟩, hwide⟩
  · rintro ⟨⟨htext, hconfiguration⟩, hwide⟩
    exact ⟨⟨htext, hwide⟩, hconfiguration⟩

/-! ## Agreement -/

theorem mapReceiveSelection_mapSelection (audio : ReceiveSelection) :
    mapReceiveSelection (mapSelection audio) = .ok audio := by
  obtain ⟨⟨platform, opaqueId, hbounded⟩, ⟨rate, channels, format, selected, hge, hle, hpos, hmax, hlt⟩⟩ := audio
  have hrate : (UInt32.ofNat rate).toNat = rate := UInt32.toNat_ofNat_of_lt' (by
    show rate < 2 ^ 32
    have : rate ≤ 384000 := hle
    omega)
  have hchannels : (UInt16.ofNat channels).toNat = channels := UInt16.toNat_ofNat_of_lt' (by
    show channels < 2 ^ 16
    have : channels ≤ 32 := hmax
    omega)
  have hselected : (UInt16.ofNat selected).toNat = selected := UInt16.toNat_ofNat_of_lt' (by
    show selected < 2 ^ 16
    have : channels ≤ 32 := hmax
    omega)
  have hplatform : mapPlatformFromApi (mapPlatform platform) = platform := by cases platform <;> rfl
  have hformat : mapSampleFormatFromApi (mapSampleFormat format) = format := by cases format <;> rfl
  have hidentity : Audio.InputDeviceIdentity.new platform opaqueId = .ok ⟨platform, opaqueId, hbounded⟩ := dif_pos hbounded
  have hconfiguration : Audio.InputConfiguration.new rate channels format selected =
      .ok ⟨rate, channels, format, selected, hge, hle, hpos, hmax, hlt⟩ := by
    rw [Audio.InputConfiguration.new, dif_pos ⟨hge, hle⟩, dif_pos ⟨hpos, hmax⟩, dif_pos hlt]
  simp only [mapReceiveSelection, mapSelection, mapDeviceIdentity, mapConfiguration, hrate, hchannels, hselected,
    hplatform, hformat, hidentity, hconfiguration]
  rfl

/-- **Wire and audio validators agree**: on the selections without a control character above ASCII, and on those that the
wire rejects; every audio selection comes back from the wire. -/
theorem validators_agree_iff (htotal : ∀ command, (toVec command).isSome) :
    ((Accepts toVec selection ↔ Converts selection) ↔
      ¬(selection.inBounds = true ∧ HasWideControl selection.deviceIdentity.opaqueId)) ∧
    ∀ audio : ReceiveSelection, mapReceiveSelection (mapSelection audio) = .ok audio := by
  refine ⟨?_, mapReceiveSelection_mapSelection⟩
  rw [accepts_iff htotal, converts_iff]
  constructor
  · rintro hagree ⟨hbounds, hwide⟩
    exact (hagree.mp hbounds).2 hwide
  · intro hnone
    exact ⟨fun hbounds => ⟨hbounds, fun hwide => hnone ⟨hbounds, hwide⟩⟩, fun h => h.1⟩

end Checks

/-! ## An identity with a wide control character -/

/-- A selection of the first channel of a mono input. -/
def monoSelection (opaqueId : String) : Api.ReceiveSelection where
  deviceIdentity := { platform := .linuxAlsa, opaqueId }
  configuration := { sampleRateHz := 48000, channels := 1, sampleFormat := .signed16, selectedChannel := 0 }

/-- The bytes that a start of a mono selection has on the wire. -/
def monoToVec : Api.Command → Option (List UInt8)
  | .receiveStart selection => some
    (("\x7b\"kind\":\"receive_start\",\"selection\":\x7b\"device_identity\":\x7b\"platform\":\"linux_alsa\"," ++
      "\"opaque_id\":\"" ++ selection.deviceIdentity.opaqueId ++ "\"\x7d,\"configuration\":\x7b\"sample_rate_hz\":48000," ++
      "\"channels\":1,\"sample_format\":\"signed16\",\"selected_channel\":0\x7d\x7d\x7d").toUTF8.data.toList)
  | _ => some []

theorem monoToVec_total (command : Api.Command) : (monoToVec command).isSome := by
  cases command <;> rfl

theorem validators_agree_iff_mono :
    ((Accepts monoToVec (monoSelection "hw:0") ↔ Converts (monoSelection "hw:0")) ↔
      ¬((monoSelection "hw:0").inBounds = true ∧ HasWideControl (monoSelection "hw:0").deviceIdentity.opaqueId)) ∧
    ∀ audio : ReceiveSelection, mapReceiveSelection (mapSelection audio) = .ok audio :=
  validators_agree_iff monoToVec_total

/-- A next-line character passes the wire's check and not the conversion. -/
theorem wide_control_disagrees :
    ¬∀ (toVec : Api.Command → Option (List UInt8)) selection, (∀ command, (toVec command).isSome) →
      (Accepts toVec selection ↔ Converts selection) := by
  intro hagree
  have haccepts : Accepts monoToVec (monoSelection "hw:\u0085") := (accepts_iff monoToVec_total).mpr (by decide)
  have hconverts := (hagree monoToVec (monoSelection "hw:\u0085") monoToVec_total).mp haccepts
  exact (converts_iff.mp hconverts).2 ⟨Char.ofNat 0x85, by decide, by decide, by decide⟩

end Slotpilot.Daemon
