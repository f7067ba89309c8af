import Slotpilot.Audio.CaptureBuffers
import Slotpilot.Audio.Discovery
import Slotpilot.Daemon.Selections

/-!
# Listed inputs

A client learns the inputs from a page of devices, and starts the receiver with a selection that it makes from the page.

* `page_valid_iff`: the page of a discovery is within the wire bounds unless it has too many devices;
* `converts_listed`, `offered_iff`: what a selection of a listed device converts to, and when a range of the page offers
  its configuration;
* `start_comes`, `start_refuses`: such a selection comes to the opening of the stream, and any other is refused before.
-/

set_option autoImplicit false

namespace Slotpilot.Daemon

open Lib Audio.Discovery

/-! ## Pages -/

/-- The wire form of a range; a checked range fits its machine integers. -/
def mapConfigurationRange (value : Audio.InputConfigurationRange) : Api.InputConfigurationRange where
  minSampleRateHz := UInt32.ofNat value.minSampleRateHz
  maxSampleRateHz := UInt32.ofNat value.maxSampleRateHz
  channels := UInt16.ofNat value.channels
  sampleFormat := mapSampleFormat value.sampleFormat

def mapInputDevice (device : Audio.InputDeviceDescriptor) : Api.InputDevice where
  identity := mapDeviceIdentity device.identity
  displayName := device.display.name
  manufacturer := device.display.manufacturer
  configurationRanges := device.configurationRanges.map mapConfigurationRange

/-- The page of some descriptors. -/
def pageOf (descriptors : List Audio.InputDeviceDescriptor) : Api.InputDevicePage := ⟨descriptors.map mapInputDevice⟩

/-- The configuration is one that the range offers. -/
def Offers (range : Api.InputConfigurationRange) (configuration : Api.InputConfiguration) : Prop :=
  range.minSampleRateHz ≤ configuration.sampleRateHz ∧ configuration.sampleRateHz ≤ range.maxSampleRateHz ∧
    configuration.channels = range.channels ∧ configuration.sampleFormat = range.sampleFormat ∧
    configuration.selectedChannel < range.channels

/-! ## The production input -/

/-- The owner of at most one stream. -/
structure SystemReceiveInput (Q : Type → Type) where
  capture : Option (SystemInputCapture Q)
  callbackQueueBatches : Nat

section Input

variable {DeviceId : Type} (host : Host DeviceId) {Q : Type → Type} [Audio.ArrayQueue Q]

def SystemReceiveInput.new (callbackQueueBatches : Nat) : SystemReceiveInput Q := ⟨none, callbackQueueBatches⟩

def SystemReceiveInput.start (self : SystemReceiveInput Q) (selection : ReceiveSelection)
    (processGeneration : Audio.ProcessGeneration) (streamGeneration : Audio.StreamGeneration) :
    Except Audio.InputCaptureError Unit × SystemReceiveInput Q :=
  if self.capture.isSome then (.error .backendFailure, self)
  else
    match SystemInputCapture.start host Q selection.deviceIdentity selection.configuration processGeneration
      streamGeneration self.callbackQueueBatches with
    | .ok capture => (.ok (), { self with capture := some capture })
    | .error error => (.error error, self)

/-- An input that owns no stream and makes a queue. -/
structure SystemReceiveInput.Inactive (input : SystemReceiveInput Q) : Prop where
  capture : input.capture = none
  queue_ge : 2 ≤ input.callbackQueueBatches
  queue_le : input.callbackQueueBatches ≤ Audio.maxCaptureQueueBatches

variable (device : Device DeviceId) (input : SystemReceiveInput Q) (selection : Api.ReceiveSelection)
  (processGeneration : Audio.ProcessGeneration) (streamGeneration : Audio.StreamGeneration)

/-- The selection passes the wire check and converts, and its start answers what the backend answers to the opening of a
stream of the device; a stream that plays is kept. -/
def ComesToOpening : Prop :=
  selection.inBounds = true ∧ ∃ audio shared, mapReceiveSelection selection = .ok audio ∧
    Audio.SharedCapture.new Q input.callbackQueueBatches = .ok shared ∧
    input.start host audio processGeneration streamGeneration =
      match opening device audio.configuration with
      | .ok stream =>
        (.ok (), { input with capture := some ⟨stream, ⟨audio.configuration, processGeneration, streamGeneration⟩, shared⟩ })
      | .error error => (.error (mapOpenError error), input)

/-- Where the selection converts, its start is refused, whatever the backend would answer to an opening. -/
def RefusedUnopened : Prop :=
  ∀ audio, mapReceiveSelection selection = .ok audio →
    input.start host audio processGeneration streamGeneration = (.error .unsupportedConfiguration, input)

end Input

/-! ## Bounds -/

theorem bounded_text {text : String} (h : Audio.validateBoundedText text Audio.maxDisplayNameBytes = true) :
    text.isEmpty = false ∧ ¬text.utf8ByteSize > 256 := by
  simp only [Audio.validateBoundedText, Audio.maxDisplayNameBytes, Bool.not_eq_true', Bool.or_eq_false_iff] at h
  exact ⟨h.1.1, of_decide_eq_false h.1.2⟩

/-- A descriptor is within the bounds of a device of the wire. -/
theorem mapInputDevice_bounded (device : Audio.InputDeviceDescriptor) : (mapInputDevice device).exceeds = false := by
  obtain ⟨hidentity, hsize⟩ := bounded_text device.identity.bounded
  obtain ⟨hname, hnameSize⟩ := bounded_text device.display.named
  have hmade : device.display.manufacturer.any (fun value => decide (value.utf8ByteSize > 256)) = false := by
    cases hmanufacturer : device.display.manufacturer with
    | none => rfl
    | some value => exact decide_eq_false (bounded_text (device.display.made value hmanufacturer)).2
  have hranges : (device.configurationRanges.map mapConfigurationRange).isEmpty = false := by
    simpa using device.ranges_ne
  have hcount : ¬(device.configurationRanges.map mapConfigurationRange).length > Api.maxInputConfigurations := by
    rw [List.length_map]
    exact not_lt.mpr device.ranges_le
  simp only [Api.InputDevice.exceeds, mapInputDevice, mapDeviceIdentity, Bool.or_eq_false_iff]
  exact ⟨⟨⟨⟨⟨⟨hidentity, decide_eq_false hsize⟩, hname⟩, decide_eq_false hnameSize⟩, hmade⟩, hranges⟩,
    decide_eq_false hcount⟩

/-- The page of a discovery is within the wire bounds unless it has too many devices. -/
theorem page_valid_iff (descriptors : List Audio.InputDeviceDescriptor) :
    (pageOf descriptors).validate = .ok () ↔ descriptors.length ≤ Api.maxInputDevices := by
  have hbounded : ¬(descriptors.map mapInputDevice).any Api.InputDevice.exceeds = true := by
    simp [mapInputDevice_bounded]
  unfold Api.InputDevicePage.validate pageOf
  simp only [List.length_map]
  split
  · rename_i hexceeds
    refine iff_of_false nofun (not_le.mpr ?_)
    exact hexceeds.resolve_right hbounded
  · rename_i hwithin
    exact iff_of_true rfl (not_lt.mp fun hmany => hwithin (.inl hmany))

/-! ## Selections of listed devices -/

theorem identity_new_eq {platform : Audio.InputPlatform} {text : String} {identity : Audio.InputDeviceIdentity} :
    Audio.InputDeviceIdentity.new platform text = .ok identity ↔ identity.platform = platform ∧ identity.opaqueId = text := by
  unfold Audio.InputDeviceIdentity.new
  constructor
  · intro h
    split_ifs at h
    cases h
    exact ⟨rfl, rfl⟩
  · rintro ⟨rfl, rfl⟩
    exact dif_pos identity.bounded

theorem configuration_new_eq {rate channels selected : Nat} {format : Audio.InputSampleFormat}
    {configuration : Audio.InputConfiguration} :
    Audio.InputConfiguration.new rate channels format selected = .ok configuration ↔
      configuration.sampleRateHz = rate ∧ configuration.channels = channels ∧ configuration.sampleFormat = format ∧
        configuration.selectedChannel = selected := by
  unfold Audio.InputConfiguration.new
  constructor
  · intro h
    split_ifs at h
    cases h
    exact ⟨rfl, rfl, rfl, rfl⟩
  · rintro ⟨rfl, rfl, rfl, rfl⟩
    rw [dif_pos ⟨configuration.rate_ge, configuration.rate_le⟩,
      dif_pos ⟨configuration.channels_pos, configuration.channels_le⟩, dif_pos configuration.selected_lt]

theorem mapPlatformFromApi_mapPlatform (platform : Audio.InputPlatform) :
    mapPlatformFromApi (mapPlatform platform) = platform := by
  cases platform <;> rfl

theorem mapSampleFormatFromApi_eq {wire : Api.InputSampleFormat} {owned : Audio.InputSampleFormat} :
    owned = mapSampleFormatFromApi wire ↔ wire = mapSampleFormat owned := by
  constructor
  · rintro rfl
    cases wire <;> rfl
  · rintro rfl
    cases owned <;> rfl

/-- The wire numbers of a range are its numbers. -/
theorem mapConfigurationRange_toNat (range : Audio.InputConfigurationRange) :
    (mapConfigurationRange range).minSampleRateHz.toNat = range.minSampleRateHz ∧
      (mapConfigurationRange range).maxSampleRateHz.toNat = range.maxSampleRateHz ∧
      (mapConfigurationRange range).channels.toNat = range.channels := by
  have hmax : range.maxSampleRateHz ≤ 384000 := range.rate_le
  have hmin : range.minSampleRateHz ≤ 384000 := range.ordered.trans hmax
  have hchannels : range.channels ≤ 32 := range.channels_le
  refine ⟨UInt32.toNat_ofNat_of_lt' ?_, UInt32.toNat_ofNat_of_lt' ?_, UInt16.toNat_ofNat_of_lt' ?_⟩
  · show range.minSampleRateHz < 2 ^ 32
    omega
  · show range.maxSampleRateHz < 2 ^ 32
    omega
  · show range.channels < 2 ^ 16
    omega

/-- A range of the wire offers a configuration when it is one of the range's and has the selected channel. -/
theorem offers_iff {range : Audio.InputConfigurationRange} {configuration : Api.InputConfiguration} :
    Offers (mapConfigurationRange range) configuration ↔
      range.minSampleRateHz ≤ configuration.sampleRateHz.toNat ∧
        configuration.sampleRateHz.toNat ≤ range.maxSampleRateHz ∧ configuration.channels.toNat = range.channels ∧
        range.sampleFormat = mapSampleFormatFromApi configuration.sampleFormat ∧
        configuration.selectedChannel.toNat < range.channels := by
  obtain ⟨hmin, hmax, hchannels⟩ := mapConfigurationRange_toNat range
  unfold Offers
  rw [UInt32.le_iff_toNat_le, UInt32.le_iff_toNat_le, ← UInt16.toNat_inj, UInt16.lt_iff_toNat_lt, hmin, hmax, hchannels,
    mapSampleFormatFromApi_eq]
  rfl

/-- The configuration has the fields of the selected one. -/
def SelectedFields (wire : Api.InputConfiguration) (configuration : Audio.InputConfiguration) : Prop :=
  configuration.sampleRateHz = wire.sampleRateHz.toNat ∧ configuration.channels = wire.channels.toNat ∧
    configuration.sampleFormat = mapSampleFormatFromApi wire.sampleFormat ∧
    configuration.selectedChannel = wire.selectedChannel.toNat

/-- A selection of a listed device converts to its identity and the selected fields. -/
theorem converts_listed {descriptor : Audio.InputDeviceDescriptor} {selection : Api.ReceiveSelection}
    (hselected : selection.deviceIdentity = (mapInputDevice descriptor).identity) {audio : ReceiveSelection} :
    mapReceiveSelection selection = .ok audio ↔
      audio.deviceIdentity = descriptor.identity ∧ SelectedFields selection.configuration audio.configuration := by
  have hidentity {identity : Audio.InputDeviceIdentity} :
      Audio.InputDeviceIdentity.new (mapPlatformFromApi selection.deviceIdentity.platform)
        selection.deviceIdentity.opaqueId = .ok identity ↔ identity = descriptor.identity := by
    have hsame : Audio.InputDeviceIdentity.new (mapPlatformFromApi selection.deviceIdentity.platform)
        selection.deviceIdentity.opaqueId = .ok descriptor.identity := by
      rw [identity_new_eq, hselected]
      exact ⟨(mapPlatformFromApi_mapPlatform _).symm, rfl⟩
    rw [hsame, Except.ok.injEq, eq_comm]
  simp only [mapReceiveSelection, exceptBind_ok, exceptMapError_ok, hidentity, configuration_new_eq]
  constructor
  · rintro ⟨_, rfl, configuration, hfields, hpure⟩
    cases hpure
    exact ⟨rfl, hfields⟩
  · rintro ⟨hsame, hfields⟩
    exact ⟨_, rfl, audio.configuration, hfields, by rw [← hsame]; rfl⟩

/-- A range of the page offers a configuration that converts to one in a range of the descriptor. -/
theorem offered_iff {descriptor : Audio.InputDeviceDescriptor} {wire : Api.InputConfiguration} :
    (∃ range ∈ (mapInputDevice descriptor).configurationRanges, Offers range wire) ↔
      ∃ configuration, SelectedFields wire configuration ∧
        ∃ range ∈ descriptor.configurationRanges, InRange configuration range := by
  simp only [mapInputDevice, List.mem_map, exists_exists_and_eq_and, offers_iff]
  constructor
  · rintro ⟨range, hrange, hmin, hmax, hchannels, hformat, hchannel⟩
    refine ⟨⟨wire.sampleRateHz.toNat, wire.channels.toNat, mapSampleFormatFromApi wire.sampleFormat,
      wire.selectedChannel.toNat, range.rate_ge.trans hmin, hmax.trans range.rate_le, hchannels ▸ range.channels_pos,
      hchannels ▸ range.channels_le, hchannels ▸ hchannel⟩, ⟨rfl, rfl, rfl, rfl⟩, range, hrange, hmin, hmax, hchannels,
      hformat.symm⟩
  · rintro ⟨configuration, ⟨hrate, hchannels, hformat, hchannel⟩, range, hrange, hmin, hmax, hsame, hkind⟩
    have hlt := configuration.selected_lt
    exact ⟨range, hrange, by omega, by omega, by omega, hkind.symm.trans hformat, by omega⟩

/-! ## Starts of listed devices -/

section Starts

variable {DeviceId : Type} {host : Host DeviceId} {Q : Type → Type} [Audio.ArrayQueue Q] [Audio.LawfulArrayQueue Q]
  {device : Device DeviceId} {descriptor : Audio.InputDeviceDescriptor} {input : SystemReceiveInput Q}
  {selection : Api.ReceiveSelection}

theorem start_comes (hdevice : deviceForIdentity host descriptor.identity = .ok device) {platform : Audio.InputPlatform}
    (hdescribes : Describes host device platform descriptor) (hinactive : input.Inactive)
    (hselected : selection.deviceIdentity = (mapInputDevice descriptor).identity)
    (processGeneration : Audio.ProcessGeneration) (streamGeneration : Audio.StreamGeneration)
    (hoffered : ∃ range ∈ (mapInputDevice descriptor).configurationRanges, Offers range selection.configuration) :
    ComesToOpening host device input selection processGeneration streamGeneration := by
  obtain ⟨configuration, hfields, hrange⟩ := offered_iff.mp hoffered
  have hconverts : mapReceiveSelection selection = .ok ⟨descriptor.identity, configuration⟩ :=
    (converts_listed hselected).mpr ⟨rfl, hfields⟩
  obtain ⟨shared, hshared⟩ := Audio.sharedCapture_new (Q := Q) hinactive.queue_ge hinactive.queue_le
  refine ⟨(converts_iff.mp ⟨_, hconverts⟩).1, _, shared, hconverts, hshared, ?_⟩
  simp only [SystemReceiveInput.start, hinactive.capture, Option.isSome_none, Bool.false_eq_true, if_false,
    start_offered hshared hdevice hdescribes hrange]
  cases opening device configuration <;> rfl

theorem start_refuses (hdevice : deviceForIdentity host descriptor.identity = .ok device)
    {platform : Audio.InputPlatform} (hdescribes : Describes host device platform descriptor)
    (hinactive : input.Inactive) (hselected : selection.deviceIdentity = (mapInputDevice descriptor).identity)
    (processGeneration : Audio.ProcessGeneration) (streamGeneration : Audio.StreamGeneration)
    (hnone : ¬∃ range ∈ (mapInputDevice descriptor).configurationRanges, Offers range selection.configuration) :
    RefusedUnopened host input selection processGeneration streamGeneration := by
  intro audio hconverts
  obtain ⟨hidentity, hfields⟩ := (converts_listed hselected).mp hconverts
  have hrange : ¬∃ range ∈ descriptor.configurationRanges, InRange audio.configuration range :=
    fun hrange => hnone (offered_iff.mpr ⟨audio.configuration, hfields, hrange⟩)
  obtain ⟨shared, hshared⟩ := Audio.sharedCapture_new (Q := Q) hinactive.queue_ge hinactive.queue_le
  simp only [SystemReceiveInput.start, hinactive.capture, Option.isSome_none, Bool.false_eq_true, if_false, hidentity,
    start_refused hshared hdevice hdescribes hrange]

end Starts

/-- **What is listed can be started**. On a host where the text of a device's id leads back to the device, discovery lists
devices in the order of their identities, and each device is found again by its identity. The page of the listing is
valid up to the number of its devices. A selection of a listed device comes to the opening of a stream of this device
when a range of the page offers its configuration, and is otherwise refused before. -/
theorem listed_startable {DeviceId : Type} {host : Host DeviceId} (hstable : host.Stable)
    {descriptors : List Audio.InputDeviceDescriptor} (h : enumerate host = .ok descriptors) (Q : Type → Type)
    [Audio.ArrayQueue Q] [Audio.LawfulArrayQueue Q] :
    (descriptors.Pairwise fun a b => (a.identity.cmp b.identity).isLE = true) ∧
    ((pageOf descriptors).validate = .ok () ↔ descriptors.length ≤ Api.maxInputDevices) ∧
    ∀ descriptor ∈ descriptors, find host descriptor.identity = .ok descriptor ∧
      (descriptor.configurationRanges.Pairwise fun a b => a.cmp b = .lt) ∧
      ∃ device, deviceForIdentity host descriptor.identity = .ok device ∧
        ∀ (input : SystemReceiveInput Q) (selection : Api.ReceiveSelection) (processGeneration : Audio.ProcessGeneration)
          (streamGeneration : Audio.StreamGeneration),
          input.Inactive → selection.deviceIdentity = (mapInputDevice descriptor).identity →
            let offered := ∃ range ∈ (mapInputDevice descriptor).configurationRanges,
              Offers range selection.configuration
            (offered → ComesToOpening host device input selection processGeneration streamGeneration) ∧
              (¬offered → RefusedUnopened host input selection processGeneration streamGeneration) := by
  have hlisting := enumerate_listing h
  refine ⟨hlisting.ordered, page_valid_iff descriptors, fun descriptor hin => ?_⟩
  obtain ⟨device, hdevice, hdescriptor⟩ := deviceForIdentity_listed hstable hlisting hin
  have hdescribes := descriptorForDevice_some hdescriptor
  refine ⟨find_listed hstable hlisting hin, hdescribes.ascends, device, hdevice, ?_⟩
  intro input selection processGeneration streamGeneration hinactive hselected
  exact ⟨start_comes hdevice hdescribes hinactive hselected processGeneration streamGeneration,
    start_refuses hdevice hdescribes hinactive hselected processGeneration streamGeneration⟩

/-! ## A host with one input -/

/-- A stereo input between 44.1 and 48 kHz, which the backend reports twice. Another program holds it at 44.1 kHz. -/
def stereoDevice : Device String where
  supportedInputConfigs := .ok [⟨2, 44100, 48000, .f32⟩, ⟨2, 44100, 48000, .f32⟩]
  id := .ok "alsa:hw:0"
  description := .ok ⟨"USB Audio", some "Example"⟩
  buildInputStream configuration _ _ := if configuration.sampleRate = 44100 then .error .deviceBusy else .ok ⟨.ok ()⟩

def stereoHost : Host String where
  id := "alsa"
  devices := .ok [stereoDevice]
  deviceById id := if id = "alsa:hw:0" then some stereoDevice else none
  idText := id
  idFromStr := some

theorem stable_stereoHost : stereoHost.Stable := by
  refine ⟨fun _ => rfl, ?_⟩
  rintro _ ⟨⟩ device hdevice id hid
  rw [List.mem_singleton.mp hdevice] at hid
  cases hid
  rw [List.mem_singleton.mp hdevice]
  rfl

theorem bounded_hw : Audio.validateBoundedText "alsa:hw:0" Audio.maxIdentityBytes = true := by decide

theorem bounded_usb : Audio.validateBoundedText "USB Audio" Audio.maxDisplayNameBytes = true := by decide

theorem bounded_example : ∀ value ∈ some "Example", Audio.validateBoundedText value Audio.maxDisplayNameBytes = true := by
  rintro _ ⟨⟩
  decide

theorem stereo_rates : 44100 ≤ 48000 ∧ (Audio.minSampleRateHz ≤ 44100 ∧ 44100 ≤ Audio.maxSampleRateHz) ∧
    Audio.minSampleRateHz ≤ 48000 ∧ 48000 ≤ Audio.maxSampleRateHz := by decide

theorem stereo_counts : 0 < 2 ∧ 2 ≤ Audio.maxInputChannels := by decide

def stereoRange : Audio.InputConfigurationRange :=
  ⟨44100, 48000, 2, .float32, stereo_rates, stereo_counts⟩

def stereoDescriptor : Audio.InputDeviceDescriptor :=
  ⟨⟨.linuxAlsa, "alsa:hw:0", bounded_hw⟩, ⟨"USB Audio", some "Example", bounded_usb, bounded_example⟩, [stereoRange],
    List.cons_ne_nil _ _, Nat.one_le_ofNat⟩

theorem sortedRanges_stereo : sortedRanges [stereoRange, stereoRange] = [stereoRange] := by
  have hsorted : [stereoRange, stereoRange].Pairwise fun a b => (a.cmp b).isLE = true := by decide
  rw [sortedRanges, List.mergeSort_of_pairwise hsorted]
  rfl

theorem enumerate_stereo : enumerate stereoHost = .ok [stereoDescriptor] := by
  have hdescriptor : descriptorForDevice stereoHost stereoDevice .linuxAlsa = .ok (some stereoDescriptor) := by
    simp only [descriptorForDevice, stereoDevice, exceptBind_ok]
    refine ⟨[stereoRange, stereoRange], rfl, ?_⟩
    rw [sortedRanges_stereo]
    rfl
  have hfound : [stereoDevice].mapM (fun device => descriptorForDevice stereoHost device .linuxAlsa) =
      .ok [some stereoDescriptor] := mapM_ok.mpr (.cons hdescriptor .nil)
  simp only [enumerate, exceptBind_ok, exceptMapError_ok]
  refine ⟨.linuxAlsa, rfl, [stereoDevice], rfl, _, hfound, ?_⟩
  show Except.ok ([stereoDescriptor].mergeSort _) = _
  rw [List.mergeSort_singleton]

/-- The first channel of the input at a rate. -/
def stereoSelection (sampleRateHz : UInt32) : Api.ReceiveSelection :=
  ⟨(mapInputDevice stereoDescriptor).identity, ⟨sampleRateHz, 2, .float32, 0⟩⟩

/-- An input with the default queue. -/
def idleInput : SystemReceiveInput Audio.ListQueue := .new 8

/-- What the start of a selection answers. -/
def answersTo (selection : Api.ReceiveSelection) : Option (Except Audio.InputCaptureError Unit) :=
  (mapReceiveSelection selection).toOption.map fun audio =>
    (idleInput.start stereoHost audio ⟨1, Audio.one_nonzero⟩ ⟨1, Audio.one_nonzero⟩).1

/-- The range is listed once. A start at 48 kHz plays, at 44.1 kHz the device is busy, and 96 kHz is refused. -/
theorem listed_startable_stereo :
    enumerate stereoHost = .ok [stereoDescriptor] ∧ (pageOf [stereoDescriptor]).validate = .ok () ∧
      (∃ device, deviceForIdentity stereoHost stereoDescriptor.identity = .ok device ∧
        ComesToOpening stereoHost device idleInput (stereoSelection 48000) ⟨1, Audio.one_nonzero⟩ ⟨1, Audio.one_nonzero⟩ ∧
        ComesToOpening stereoHost device idleInput (stereoSelection 44100) ⟨1, Audio.one_nonzero⟩ ⟨1, Audio.one_nonzero⟩ ∧
        RefusedUnopened stereoHost idleInput (stereoSelection 96000) ⟨1, Audio.one_nonzero⟩ ⟨1, Audio.one_nonzero⟩) ∧
      answersTo (stereoSelection 48000) = some (.ok ()) ∧
      answersTo (stereoSelection 44100) = some (.error .backendFailure) ∧
      answersTo (stereoSelection 96000) = some (.error .unsupportedConfiguration) := by
  obtain ⟨-, hpage, hlisted⟩ := listed_startable stable_stereoHost enumerate_stereo Audio.ListQueue
  obtain ⟨-, -, device, hdevice, hstarts⟩ := hlisted stereoDescriptor (List.mem_singleton_self _)
  have hidle : idleInput.Inactive := ⟨rfl, by decide, by decide⟩
  have hoffered (sampleRateHz : UInt32) (hmin : 44100 ≤ sampleRateHz) (hmax : sampleRateHz ≤ 48000) :
      ∃ range ∈ (mapInputDevice stereoDescriptor).configurationRanges,
        Offers range (stereoSelection sampleRateHz).configuration :=
    ⟨_, List.mem_singleton_self _, hmin, hmax, rfl, rfl, (by decide : (0 : UInt16) < 2)⟩
  have hnone : ¬∃ range ∈ (mapInputDevice stereoDescriptor).configurationRanges,
      Offers range (stereoSelection 96000).configuration := by
    rintro ⟨range, hrange, -, hmax, -⟩
    obtain rfl := List.mem_singleton.mp hrange
    exact absurd hmax (by decide)
  refine ⟨enumerate_stereo, hpage.mpr (by decide), ⟨device, hdevice, ?_, ?_, ?_⟩, by decide +kernel, by decide +kernel,
    by decide +kernel⟩
  · exact (hstarts _ (stereoSelection 48000) _ _ hidle rfl).1 (hoffered 48000 (by decide) (by decide))
  · exact (hstarts _ (stereoSelection 44100) _ _ hidle rfl).1 (hoffered 44100 (by decide) (by decide))
  · exact (hstarts _ (stereoSelection 96000) _ _ hidle rfl).2 hnone

end Slotpilot.Daemon
