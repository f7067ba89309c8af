import Slotpilot.Audio.Capture
import Slotpilot.Lib.StateResult
import Mathlib

/-!
# Input discovery

Devices of the audio host become descriptors with a stable identity and checked configuration ranges; a stream is opened
for an identity and a configuration that the device supports.

* `descriptorForDevice_some`: the descriptor of a device has every range that the device supports, once and in order;
* `ensureConfigurationSupported_iff`: the configurations that a device supports are those of the descriptor's ranges;
* `start_offered`, `start_refused`: a start comes to the opening of the stream for just these configurations, and the
  backend then decides what it answers.

The host is a parameter, with the one law that the text of a device's id leads back to the device (`Host.Stable`).
-/

set_option autoImplicit false

namespace Slotpilot.Audio

open Lib

/-! ## Descriptors -/

/-- Maximum configurations of one device. -/
def maxDeviceConfigurations : Nat := 64
def maxDisplayNameBytes : Nat := 256

/-- The failures of receive-audio values that only descriptors have. -/
inductive DescriptorError
  | invalidDisplayMetadata
  | invalidConfigurationCount
  deriving DecidableEq

/-- Human-facing metadata, which selects nothing. -/
structure InputDeviceDisplay where
  name : String
  manufacturer : Option String
  named : validateBoundedText name maxDisplayNameBytes = true
  made : ∀ value ∈ manufacturer, validateBoundedText value maxDisplayNameBytes = true

def InputDeviceDisplay.new (name : String) (manufacturer : Option String) :
    Except DescriptorError InputDeviceDisplay :=
  if hn : validateBoundedText name maxDisplayNameBytes = true then
    if hm : ∀ value ∈ manufacturer, validateBoundedText value maxDisplayNameBytes = true then
      .ok ⟨name, manufacturer, hn, hm⟩
    else .error .invalidDisplayMetadata
  else .error .invalidDisplayMetadata

/-- A checked range of sample rates with one format. -/
structure InputConfigurationRange where
  minSampleRateHz : Nat
  maxSampleRateHz : Nat
  channels : Nat
  sampleFormat : InputSampleFormat
  rates : minSampleRateHz ≤ maxSampleRateHz ∧
    (Audio.minSampleRateHz ≤ minSampleRateHz ∧ minSampleRateHz ≤ Audio.maxSampleRateHz) ∧
    Audio.minSampleRateHz ≤ maxSampleRateHz ∧ maxSampleRateHz ≤ Audio.maxSampleRateHz
  counts : 0 < channels ∧ channels ≤ maxInputChannels

namespace InputConfigurationRange

theorem ordered (range : InputConfigurationRange) : range.minSampleRateHz ≤ range.maxSampleRateHz := range.rates.1

theorem rate_ge (range : InputConfigurationRange) : Audio.minSampleRateHz ≤ range.minSampleRateHz := range.rates.2.1.1

theorem rate_le (range : InputConfigurationRange) : range.maxSampleRateHz ≤ Audio.maxSampleRateHz := range.rates.2.2.2

theorem channels_pos (range : InputConfigurationRange) : 0 < range.channels := range.counts.1

theorem channels_le (range : InputConfigurationRange) : range.channels ≤ maxInputChannels := range.counts.2

theorem eq_iff {a b : InputConfigurationRange} :
    (a.minSampleRateHz, a.maxSampleRateHz, a.channels, a.sampleFormat) =
      (b.minSampleRateHz, b.maxSampleRateHz, b.channels, b.sampleFormat) ↔ a = b := by
  cases a
  cases b
  simp

instance : DecidableEq InputConfigurationRange := fun _ _ => decidable_of_iff _ eq_iff

def new (minSampleRateHz maxSampleRateHz channels : Nat) (sampleFormat : InputSampleFormat) :
    Except ReceiveAudioError InputConfigurationRange :=
  if hr : minSampleRateHz ≤ maxSampleRateHz ∧
      (Audio.minSampleRateHz ≤ minSampleRateHz ∧ minSampleRateHz ≤ Audio.maxSampleRateHz) ∧
      Audio.minSampleRateHz ≤ maxSampleRateHz ∧ maxSampleRateHz ≤ Audio.maxSampleRateHz then
    if hc : 0 < channels ∧ channels ≤ maxInputChannels then
      .ok ⟨minSampleRateHz, maxSampleRateHz, channels, sampleFormat, hr, hc⟩
    else .error .invalidChannelCount
  else .error .invalidSampleRate

/-- One exact rate and one channel of a range. -/
def select (self : InputConfigurationRange) (sampleRateHz selectedChannel : Nat) :
    Except ReceiveAudioError InputConfiguration :=
  if self.minSampleRateHz ≤ sampleRateHz ∧ sampleRateHz ≤ self.maxSampleRateHz then
    InputConfiguration.new sampleRateHz self.channels self.sampleFormat selectedChannel
  else .error .invalidSampleRate

/-- By the lowest rate, the highest rate, the channels and the format. -/
def cmp : InputConfigurationRange → InputConfigurationRange → Ordering :=
  compareLex (compareOn minSampleRateHz) (compareLex (compareOn maxSampleRateHz)
    (compareLex (compareOn channels) (compareOn fun range => range.sampleFormat.ctorIdx)))

end InputConfigurationRange

/-- A discovered device with its ranges. -/
structure InputDeviceDescriptor where
  identity : InputDeviceIdentity
  display : InputDeviceDisplay
  configurationRanges : List InputConfigurationRange
  ranges_ne : configurationRanges ≠ []
  ranges_le : configurationRanges.length ≤ maxDeviceConfigurations

def InputDeviceDescriptor.new (identity : InputDeviceIdentity) (display : InputDeviceDisplay)
    (configurationRanges : List InputConfigurationRange) : Except DescriptorError InputDeviceDescriptor :=
  if h : configurationRanges ≠ [] ∧ configurationRanges.length ≤ maxDeviceConfigurations then
    .ok ⟨identity, display, configurationRanges, h.1, h.2⟩
  else .error .invalidConfigurationCount

/-- By the platform and the bytes of the opaque identity. -/
def InputDeviceIdentity.cmp : InputDeviceIdentity → InputDeviceIdentity → Ordering :=
  compareLex (compareOn fun identity => identity.platform.ctorIdx) (compareOn InputDeviceIdentity.opaqueId)

namespace Discovery

/-! ## The host -/

/-- Kinds of failures of the backend, all of which a discovery tells apart. -/
inductive ErrorKind
  | hostUnavailable
  | permissionDenied
  | deviceNotAvailable
  | deviceChanged
  | streamInvalidated
  | unsupportedConfig
  | unsupportedOperation
  | invalidInput
  | deviceBusy
  | realtimeDenied
  | resourceExhausted
  | xrun
  | backendError
  | other
  deriving DecidableEq

/-- Sample formats of the backend. -/
inductive SampleFormat
  | i8 | i16 | i24 | i32 | i64
  | u8 | u16 | u24 | u32 | u64
  | f32 | f64
  | dsdU8 | dsdU16 | dsdU32
  deriving DecidableEq

structure SupportedStreamConfigRange where
  channels : UInt16
  minSampleRate : UInt32
  maxSampleRate : UInt32
  sampleFormat : SampleFormat
  deriving DecidableEq

structure DeviceDescription where
  name : String
  manufacturer : Option String

inductive BufferSize
  | default
  | fixed (frames : UInt32)

/-- What a stream is asked for, besides its format. -/
structure StreamConfig where
  channels : Nat
  sampleRate : Nat
  bufferSize : BufferSize

/-- A stream that the backend has built, and what it answers when the stream is played. -/
structure Stream where
  play : Except ErrorKind Unit

/-- What the backend says of a device and builds on it, each time that it is asked. -/
structure Device (DeviceId : Type) where
  supportedInputConfigs : Except ErrorKind (List SupportedStreamConfigRange)
  id : Except ErrorKind DeviceId
  description : Except ErrorKind DeviceDescription
  buildInputStream : StreamConfig → SampleFormat → Option Nat → Except ErrorKind Stream

/-- The system's default host. -/
structure Host (DeviceId : Type) where
  id : String
  devices : Except ErrorKind (List (Device DeviceId))
  deviceById : DeviceId → Option (Device DeviceId)
  idText : DeviceId → String
  idFromStr : String → Option DeviceId

/-- The text of a device's id leads back to the device. -/
structure Host.Stable {DeviceId : Type} (host : Host DeviceId) : Prop where
  parses : ∀ id, host.idFromStr (host.idText id) = some id
  finds : ∀ devices, host.devices = .ok devices → ∀ device ∈ devices, ∀ id, device.id = .ok id →
    host.deviceById id = some device

/-! ## Discovery -/

/-- Failure of a discovery. -/
inductive InputDiscoveryError
  | hostUnavailable
  | permissionDenied
  | deviceDisappeared
  | unsupportedConfiguration
  | identityUnavailable
  | noInputDevices
  | backendFailure
  deriving DecidableEq

def mapDiscoveryError : ErrorKind → InputDiscoveryError
  | .hostUnavailable => .hostUnavailable
  | .permissionDenied => .permissionDenied
  | .deviceNotAvailable | .deviceChanged | .streamInvalidated => .deviceDisappeared
  | .unsupportedConfig | .unsupportedOperation | .invalidInput => .unsupportedConfiguration
  | .deviceBusy | .realtimeDenied | .resourceExhausted | .xrun | .backendError | .other => .backendFailure

def ownedSampleFormat : SampleFormat → Option InputSampleFormat
  | .i8 => some .signed8
  | .i16 => some .signed16
  | .i24 => some .signed24
  | .i32 => some .signed32
  | .i64 => some .signed64
  | .u8 => some .unsigned8
  | .u16 => some .unsigned16
  | .u24 => some .unsigned24
  | .u32 => some .unsigned32
  | .u64 => some .unsigned64
  | .f32 => some .float32
  | .f64 => some .float64
  | .dsdU8 | .dsdU16 | .dsdU32 => none

def nativeSampleFormat : InputSampleFormat → SampleFormat
  | .signed8 => .i8
  | .signed16 => .i16
  | .signed24 => .i24
  | .signed32 => .i32
  | .signed64 => .i64
  | .unsigned8 => .u8
  | .unsigned16 => .u16
  | .unsigned24 => .u24
  | .unsigned32 => .u32
  | .unsigned64 => .u64
  | .float32 => .f32
  | .float64 => .f64

def platformForHost (id : String) : Except InputDiscoveryError InputPlatform :=
  if id = "coreaudio" then .ok .macOsCoreAudio
  else if id = "wasapi" then .ok .windowsWasapi
  else if id = "alsa" then .ok .linuxAlsa
  else if id = "jack" then .ok .linuxJack
  else .error .identityUnavailable

def ownedIdentity (platform : InputPlatform) (value : String) : Except InputDiscoveryError InputDeviceIdentity :=
  (InputDeviceIdentity.new platform value).mapError fun _ => .identityUnavailable

def configurationRange (range : SupportedStreamConfigRange) : Except InputDiscoveryError InputConfigurationRange := do
  let sampleFormat ← okOr .unsupportedConfiguration (ownedSampleFormat range.sampleFormat)
  (InputConfigurationRange.new range.minSampleRate.toNat range.maxSampleRate.toNat range.channels.toNat
    sampleFormat).mapError fun _ => .unsupportedConfiguration

/-- The ranges in order, each once. -/
def sortedRanges (ranges : List InputConfigurationRange) : List InputConfigurationRange :=
  (ranges.mergeSort fun a b => (a.cmp b).isLE).destutter (· ≠ ·)

section Host

variable {DeviceId : Type} (host : Host DeviceId)

/-- A device without input is none; one with a range that is not of the owned values is a failure. -/
def descriptorForDevice (device : Device DeviceId) (platform : InputPlatform) :
    Except InputDiscoveryError (Option InputDeviceDescriptor) :=
  match device.supportedInputConfigs with
  | .error .unsupportedOperation => pure none
  | .error error => throw (mapDiscoveryError error)
  | .ok supported => do
    let ranges := sortedRanges (← supported.mapM configurationRange)
    if ranges = [] then pure none
    else do
      let id ← device.id.mapError fun _ => InputDiscoveryError.identityUnavailable
      let description ← device.description.mapError mapDiscoveryError
      let identity ← ownedIdentity platform (host.idText id)
      let display ← (InputDeviceDisplay.new description.name description.manufacturer).mapError fun _ =>
        InputDiscoveryError.backendFailure
      ((InputDeviceDescriptor.new identity display ranges).map some).mapError fun _ =>
        InputDiscoveryError.unsupportedConfiguration

def finishDescriptors (descriptors : List InputDeviceDescriptor) :
    Except InputDiscoveryError (List InputDeviceDescriptor) :=
  if descriptors = [] then throw .noInputDevices
  else pure (descriptors.mergeSort fun left right => (left.identity.cmp right.identity).isLE)

def enumerate : Except InputDiscoveryError (List InputDeviceDescriptor) := do
  let platform ← platformForHost host.id
  let devices ← host.devices.mapError mapDiscoveryError
  let descriptors ← devices.mapM fun device => descriptorForDevice host device platform
  finishDescriptors (descriptors.filterMap id)

/-- The device of an identity, with no other to fall back to. -/
def deviceForIdentity (identity : InputDeviceIdentity) : Except InputDiscoveryError (Device DeviceId) := do
  let platform ← platformForHost host.id
  if identity.platform ≠ platform then throw .deviceDisappeared
  else do
    let deviceId ← okOr .identityUnavailable (host.idFromStr identity.opaqueId)
    okOr .deviceDisappeared (host.deviceById deviceId)

def find (identity : InputDeviceIdentity) : Except InputDiscoveryError InputDeviceDescriptor := do
  let device ← deviceForIdentity host identity
  let descriptor ← descriptorForDevice host device identity.platform
  okOr .unsupportedConfiguration descriptor

/-! ## Opening -/

def mapOpenError : ErrorKind → InputCaptureError
  | .permissionDenied => .permissionDenied
  | .deviceNotAvailable | .deviceChanged | .streamInvalidated => .deviceLost
  | .unsupportedConfig | .unsupportedOperation | .invalidInput => .unsupportedConfiguration
  | _ => .backendFailure

/-- A failed discovery as a failure to open. -/
def mapDiscoveryFailure : InputDiscoveryError → InputCaptureError
  | .permissionDenied => .permissionDenied
  | .deviceDisappeared => .deviceLost
  | .unsupportedConfiguration | .identityUnavailable => .unsupportedConfiguration
  | .hostUnavailable | .noInputDevices | .backendFailure => .backendFailure

def ensureConfigurationSupported (device : Device DeviceId) (configuration : InputConfiguration) :
    Except InputCaptureError Unit := do
  let supported ← device.supportedInputConfigs.mapError mapOpenError
  if supported.any fun range => range.channels.toNat == configuration.channels &&
      range.sampleFormat == nativeSampleFormat configuration.sampleFormat &&
      decide (range.minSampleRate.toNat ≤ configuration.sampleRateHz ∧
        configuration.sampleRateHz ≤ range.maxSampleRate.toNat) then pure ()
  else throw .unsupportedConfiguration

/-- The stream of a device in the format of its samples; the backend gives up after five seconds. -/
def buildInputStream (device : Device DeviceId) (configuration : StreamConfig) (sampleFormat : InputSampleFormat) :
    Except ErrorKind Stream :=
  device.buildInputStream configuration (nativeSampleFormat sampleFormat) (some 5)

/-- A stream that is playing, with what it shares with its callback. -/
structure SystemInputCapture (Q : Type → Type) where
  stream : Stream
  captured : CaptureStream
  shared : SharedCapture Q

variable (Q : Type → Type) [ArrayQueue Q]

def SystemInputCapture.start (identity : InputDeviceIdentity) (configuration : InputConfiguration)
    (processGeneration : ProcessGeneration) (streamGeneration : StreamGeneration) (queueBatches : Nat) :
    Except InputCaptureError (SystemInputCapture Q) := do
  let shared ← SharedCapture.new Q queueBatches
  let device ← (deviceForIdentity host identity).mapError mapDiscoveryFailure
  ensureConfigurationSupported device configuration
  let nativeConfig : StreamConfig := ⟨configuration.channels, configuration.sampleRateHz, .default⟩
  let stream ← (buildInputStream device nativeConfig configuration.sampleFormat).mapError mapOpenError
  stream.play.mapError mapOpenError
  pure ⟨stream, ⟨configuration, processGeneration, streamGeneration⟩, shared⟩

end Host

/-- The last steps of a start on their own: the backend builds a stream of a device and plays it. -/
def opening {DeviceId : Type} (device : Device DeviceId) (configuration : InputConfiguration) :
    Except ErrorKind Stream := do
  let stream ← buildInputStream device ⟨configuration.channels, configuration.sampleRateHz, .default⟩
    configuration.sampleFormat
  stream.play
  pure stream

/-! ## Ranges in order -/

instance : Std.TransCmp InputConfigurationRange.cmp :=
  inferInstanceAs (Std.TransCmp (compareLex (compareOn InputConfigurationRange.minSampleRateHz)
    (compareLex (compareOn InputConfigurationRange.maxSampleRateHz)
      (compareLex (compareOn InputConfigurationRange.channels)
        (compareOn fun range : InputConfigurationRange => range.sampleFormat.ctorIdx)))))

theorem sampleFormat_eq_of_ctorIdx {a b : InputSampleFormat} (h : a.ctorIdx = b.ctorIdx) : a = b := by
  cases a <;> cases b <;> first | rfl | cases h

/-- Ranges that compare equal are one range. -/
theorem range_eq_of_cmp {a b : InputConfigurationRange} (h : a.cmp b = .eq) : a = b := by
  simp only [InputConfigurationRange.cmp, compareLex, compareOn, Ordering.then_eq_eq, compare_eq_iff_eq] at h
  obtain ⟨hmin, hmax, hchannels, hformat⟩ := h
  cases a
  cases b
  cases hmin
  cases hmax
  cases hchannels
  cases sampleFormat_eq_of_ctorIdx hformat
  rfl

theorem range_isLE_trans (a b c : InputConfigurationRange) (hab : (a.cmp b).isLE = true) (hbc : (b.cmp c).isLE = true) :
    (a.cmp c).isLE = true := Std.TransCmp.isLE_trans hab hbc

theorem range_isLE_total (a b : InputConfigurationRange) : ((a.cmp b).isLE || (b.cmp a).isLE) = true := by
  rw [@Std.OrientedCmp.eq_swap _ InputConfigurationRange.cmp _ a]
  cases b.cmp a <;> rfl

theorem mem_destutter' {α : Type} [DecidableEq α] {a : α} {l : List α} {x : α} :
    x ∈ l.destutter' (· ≠ ·) a ↔ x = a ∨ x ∈ l := by
  induction l generalizing a with
  | nil => rw [List.destutter'_nil, List.mem_singleton, List.mem_nil_iff, or_false]
  | cons b l ih =>
    rw [List.destutter'_cons]
    split
    · rw [List.mem_cons, ih, List.mem_cons]
    · rename_i hsame
      rw [ih, List.mem_cons, not_not.mp hsame]
      tauto

/-- Taking repetitions out takes no element out. -/
theorem mem_destutter {α : Type} [DecidableEq α] {l : List α} {x : α} : x ∈ l.destutter (· ≠ ·) ↔ x ∈ l := by
  cases l with
  | nil => rfl
  | cons a l => rw [List.destutter_cons', mem_destutter', List.mem_cons]

@[simp] theorem mem_sortedRanges {ranges : List InputConfigurationRange} {range : InputConfigurationRange} :
    range ∈ sortedRanges ranges ↔ range ∈ ranges := by
  rw [sortedRanges, mem_destutter, List.mem_mergeSort]

theorem isChain_and {α : Type} {R S : α → α → Prop} {l : List α} (hr : l.IsChain R) (hs : l.IsChain S) :
    l.IsChain fun a b => R a b ∧ S a b := by
  induction hr with
  | nil => exact .nil
  | singleton a => exact .singleton a
  | cons_cons hab _ ih =>
    rw [List.isChain_cons_cons] at hs
    exact .cons_cons ⟨hab, hs.1⟩ (ih hs.2)

instance : Trans (fun a b : InputConfigurationRange => a.cmp b = .lt) (fun a b => a.cmp b = .lt)
    (fun a b => a.cmp b = .lt) := ⟨fun hab hbc => Std.TransCmp.lt_trans hab hbc⟩

/-- The ranges ascend, so that none is there twice. -/
theorem sortedRanges_ascends (ranges : List InputConfigurationRange) :
    (sortedRanges ranges).Pairwise fun a b => a.cmp b = .lt := by
  have hle : (sortedRanges ranges).Pairwise fun a b => (a.cmp b).isLE = true :=
    (List.pairwise_mergeSort range_isLE_trans range_isLE_total ranges).sublist (List.destutter_sublist _ _)
  have hne : (sortedRanges ranges).IsChain (· ≠ ·) := List.isChain_destutter _ _
  apply List.isChain_iff_pairwise.mp
  refine (isChain_and hle.isChain hne).imp fun a b hab => ?_
  cases hcmp : a.cmp b with
  | lt => rfl
  | eq => exact absurd (range_eq_of_cmp hcmp) hab.2
  | gt =>
    rw [hcmp] at hab
    exact absurd hab.1 (by decide)

/-! ## Descriptors of devices -/

theorem owned_iff_native {native : SampleFormat} {owned : InputSampleFormat} :
    ownedSampleFormat native = some owned ↔ nativeSampleFormat owned = native := by
  constructor
  · intro h
    cases native <;> cases h <;> rfl
  · rintro rfl
    cases owned <;> rfl

theorem range_new_ok {minimum maximum channels : Nat} {format : InputSampleFormat} {range : InputConfigurationRange} :
    InputConfigurationRange.new minimum maximum channels format = .ok range ↔
      range.minSampleRateHz = minimum ∧ range.maxSampleRateHz = maximum ∧ range.channels = channels ∧
        range.sampleFormat = format := by
  unfold InputConfigurationRange.new
  constructor
  · intro h
    split_ifs at h
    cases h
    exact ⟨rfl, rfl, rfl, rfl⟩
  · rintro ⟨rfl, rfl, rfl, rfl⟩
    rw [dif_pos range.rates, dif_pos range.counts]

theorem configurationRange_ok {supported : SupportedStreamConfigRange} {range : InputConfigurationRange} :
    configurationRange supported = .ok range ↔
      range.minSampleRateHz = supported.minSampleRate.toNat ∧ range.maxSampleRateHz = supported.maxSampleRate.toNat ∧
        range.channels = supported.channels.toNat ∧ nativeSampleFormat range.sampleFormat = supported.sampleFormat := by
  simp only [configurationRange, exceptBind_ok, exceptMapError_ok, okOr_ok, range_new_ok, owned_iff_native]
  constructor
  · rintro ⟨format, hformat, hmin, hmax, hchannels, rfl⟩
    exact ⟨hmin, hmax, hchannels, hformat⟩
  · rintro ⟨hmin, hmax, hchannels, hformat⟩
    exact ⟨_, hformat, hmin, hmax, hchannels, rfl⟩

section Devices

variable {DeviceId : Type} {host : Host DeviceId} {device : Device DeviceId} {platform : InputPlatform}
  {descriptor : InputDeviceDescriptor}

/-- The descriptor is of the device: its identity is the id's text, and its ranges are those that the device supports,
each once and in order. -/
structure Describes (host : Host DeviceId) (device : Device DeviceId) (platform : InputPlatform)
    (descriptor : InputDeviceDescriptor) : Prop where
  platform : descriptor.identity.platform = platform
  id : ∃ id, device.id = .ok id ∧ descriptor.identity.opaqueId = host.idText id
  supported : ∃ supported, device.supportedInputConfigs = .ok supported ∧
    (∀ native ∈ supported, ∃ range ∈ descriptor.configurationRanges, configurationRange native = .ok range) ∧
    ∀ range ∈ descriptor.configurationRanges, ∃ native ∈ supported, configurationRange native = .ok range
  ascends : descriptor.configurationRanges.Pairwise fun a b => a.cmp b = .lt

theorem descriptorForDevice_some (h : descriptorForDevice host device platform = .ok (some descriptor)) :
    Describes host device platform descriptor := by
  unfold descriptorForDevice at h
  split at h
  · cases h
  · cases h
  · rename_i supported hsupported
    simp only [exceptBind_ok] at h
    obtain ⟨ranges, hranges, h⟩ := h
    split at h
    · cases h
    · simp only [exceptBind_ok, exceptMapError_ok, exceptMap_ok, Option.some.injEq, exists_eq_right] at h
      obtain ⟨id, hid, description, -, identity, hidentity, display, -, h⟩ := h
      simp only [ownedIdentity, exceptMapError_ok, InputDeviceIdentity.new] at hidentity
      simp only [InputDeviceDescriptor.new] at h
      split_ifs at hidentity h
      cases hidentity
      cases h
      rw [mapM_ok] at hranges
      refine ⟨rfl, ⟨id, hid, rfl⟩, ⟨supported, hsupported, fun native hnative => ?_, fun range hrange => ?_⟩,
        sortedRanges_ascends ranges⟩
      · obtain ⟨range, hrange, hmapped⟩ := exists_of_forall₂_mem hranges.flip hnative
        exact ⟨range, mem_sortedRanges.mpr hrange, hmapped⟩
      · exact exists_of_forall₂_mem hranges (mem_sortedRanges.mp hrange)

/-- The configuration has a rate, the channels and the format of the range. -/
def InRange (configuration : InputConfiguration) (range : InputConfigurationRange) : Prop :=
  range.minSampleRateHz ≤ configuration.sampleRateHz ∧ configuration.sampleRateHz ≤ range.maxSampleRateHz ∧
    configuration.channels = range.channels ∧ configuration.sampleFormat = range.sampleFormat

/-- A device opens exactly the configurations in the ranges of its descriptor. -/
theorem ensureConfigurationSupported_iff (h : Describes host device platform descriptor)
    {configuration : InputConfiguration} :
    ensureConfigurationSupported device configuration = .ok () ↔
      ∃ range ∈ descriptor.configurationRanges, InRange configuration range := by
  obtain ⟨supported, hsupported, hlisted, hheld⟩ := h.supported
  have hany : ensureConfigurationSupported device configuration = .ok () ↔
      ∃ native ∈ supported, (native.channels.toNat = configuration.channels ∧
        native.sampleFormat = nativeSampleFormat configuration.sampleFormat) ∧
        native.minSampleRate.toNat ≤ configuration.sampleRateHz ∧
          configuration.sampleRateHz ≤ native.maxSampleRate.toNat := by
    unfold ensureConfigurationSupported
    rw [hsupported]
    show (if _ then _ else _) = _ ↔ _
    simp only [List.any_eq_true, Bool.and_eq_true, beq_iff_eq, decide_eq_true_eq]
    split
    · rename_i hsome
      exact iff_of_true rfl hsome
    · rename_i hnone
      exact iff_of_false nofun hnone
  rw [hany]
  constructor
  · rintro ⟨native, hnative, ⟨hchannels, hformat⟩, hmin, hmax⟩
    obtain ⟨range, hrange, hmapped⟩ := hlisted native hnative
    obtain ⟨hrmin, hrmax, hrchannels, hrformat⟩ := configurationRange_ok.mp hmapped
    refine ⟨range, hrange, by omega, by omega, by omega, ?_⟩
    have howned := owned_iff_native.mpr (hformat.symm)
    rw [owned_iff_native.mpr hrformat, Option.some.injEq] at howned
    exact howned.symm
  · rintro ⟨range, hrange, hmin, hmax, hchannels, hformat⟩
    obtain ⟨native, hnative, hmapped⟩ := hheld range hrange
    obtain ⟨hrmin, hrmax, hrchannels, hrformat⟩ := configurationRange_ok.mp hmapped
    refine ⟨native, hnative, ⟨by omega, ?_⟩, by omega, by omega⟩
    rw [hformat, hrformat]

/-! ## The listing -/

instance : Std.TransCmp InputDeviceIdentity.cmp :=
  inferInstanceAs (Std.TransCmp (compareLex (compareOn fun identity : InputDeviceIdentity => identity.platform.ctorIdx)
    (compareOn InputDeviceIdentity.opaqueId)))

/-- The descriptors of a listing, in the order of their identities. -/
structure Listing (host : Host DeviceId) (descriptors : List InputDeviceDescriptor) : Prop where
  nonempty : descriptors ≠ []
  ordered : descriptors.Pairwise fun a b => (a.identity.cmp b.identity).isLE = true
  described : ∃ platform devices, platformForHost host.id = .ok platform ∧ host.devices = .ok devices ∧
    (∀ descriptor ∈ descriptors, ∃ device ∈ devices,
      descriptorForDevice host device platform = .ok (some descriptor)) ∧
    ∀ device ∈ devices, ∃ found, descriptorForDevice host device platform = .ok found ∧
      ∀ descriptor ∈ found, descriptor ∈ descriptors

theorem identity_isLE_trans (a b c : InputDeviceIdentity) (hab : (a.cmp b).isLE = true) (hbc : (b.cmp c).isLE = true) :
    (a.cmp c).isLE = true := Std.TransCmp.isLE_trans hab hbc

theorem identity_isLE_total (a b : InputDeviceIdentity) : ((a.cmp b).isLE || (b.cmp a).isLE) = true := by
  rw [@Std.OrientedCmp.eq_swap _ InputDeviceIdentity.cmp _ a]
  cases b.cmp a <;> rfl

theorem enumerate_listing {descriptors : List InputDeviceDescriptor} (h : enumerate host = .ok descriptors) :
    Listing host descriptors := by
  simp only [enumerate, exceptBind_ok, exceptMapError_ok] at h
  obtain ⟨platform, hplatform, devices, hdevices, found, hfound, h⟩ := h
  unfold finishDescriptors at h
  split at h
  · cases h
  · rename_i hne
    cases h
    rw [mapM_ok] at hfound
    refine ⟨fun hnil => hne ?_, ?_, platform, devices, hplatform, hdevices, fun descriptor hin => ?_,
      fun device hdevice => ?_⟩
    · rw [← List.length_eq_zero_iff, List.length_mergeSort] at hnil
      exact List.length_eq_zero_iff.mp hnil
    · exact List.pairwise_mergeSort (fun a b c => identity_isLE_trans a.identity b.identity c.identity)
        (fun a b => identity_isLE_total a.identity b.identity) _
    · rw [List.mem_mergeSort, List.mem_filterMap] at hin
      obtain ⟨_, hsome, rfl⟩ := hin
      exact exists_of_forall₂_mem hfound hsome
    · obtain ⟨result, hresult, hdescribed⟩ := exists_of_forall₂_mem hfound.flip hdevice
      refine ⟨result, hdescribed, ?_⟩
      rintro descriptor rfl
      rw [List.mem_mergeSort, List.mem_filterMap]
      exact ⟨_, hresult, rfl⟩

/-- A listed identity is looked up as what was listed, on the device that it was listed for. -/
theorem deviceForIdentity_listed (hstable : host.Stable) {descriptors : List InputDeviceDescriptor}
    (h : Listing host descriptors) (hin : descriptor ∈ descriptors) :
    ∃ device, deviceForIdentity host descriptor.identity = .ok device ∧
      descriptorForDevice host device descriptor.identity.platform = .ok (some descriptor) := by
  obtain ⟨platform, devices, hplatform, hdevices, hlisted, -⟩ := h.described
  obtain ⟨device, hdevice, hdescriptor⟩ := hlisted descriptor hin
  have hdescribes := descriptorForDevice_some hdescriptor
  obtain ⟨id, hid, htext⟩ := hdescribes.id
  refine ⟨device, ?_, ?_⟩
  · unfold deviceForIdentity
    rw [hplatform, htext, hstable.parses]
    show (if _ then _ else _) = _
    rw [if_neg (not_not.mpr hdescribes.platform)]
    show okOr _ (host.deviceById id) = _
    rw [hstable.finds devices hdevices device hdevice id hid]
    rfl
  · rw [hdescribes.platform]
    exact hdescriptor

theorem find_listed (hstable : host.Stable) {descriptors : List InputDeviceDescriptor} (h : Listing host descriptors)
    (hin : descriptor ∈ descriptors) : find host descriptor.identity = .ok descriptor := by
  obtain ⟨device, hdevice, hdescriptor⟩ := deviceForIdentity_listed hstable h hin
  simp only [find, exceptBind_ok, okOr_ok]
  exact ⟨device, hdevice, some descriptor, hdescriptor, rfl⟩

/-! ## Starts of listed devices -/

/-- A configuration in no range of the descriptor is refused before anything is opened. -/
theorem ensureConfigurationSupported_refuses (h : Describes host device platform descriptor)
    {configuration : InputConfiguration}
    (hnone : ¬∃ range ∈ descriptor.configurationRanges, InRange configuration range) :
    ensureConfigurationSupported device configuration = .error .unsupportedConfiguration := by
  obtain ⟨supported, hsupported, -⟩ := h.supported
  rw [← ensureConfigurationSupported_iff h] at hnone
  unfold ensureConfigurationSupported at hnone ⊢
  rw [hsupported] at hnone ⊢
  change ¬(if _ then _ else _) = _ at hnone
  change (if _ then _ else _) = _
  split at hnone
  · exact absurd rfl hnone
  · rename_i hunsupported
    exact if_neg hunsupported

section Starts

variable {Q : Type → Type} [ArrayQueue Q] {queueBatches : Nat} {shared : SharedCapture Q}
  {configuration : InputConfiguration} {processGeneration : ProcessGeneration} {streamGeneration : StreamGeneration}

/-- A start in a supported configuration answers what the backend answers to the opening. -/
theorem start_offered (hshared : SharedCapture.new Q queueBatches = .ok shared)
    (hdevice : deviceForIdentity host descriptor.identity = .ok device)
    (hdescribes : Describes host device platform descriptor)
    (hoffered : ∃ range ∈ descriptor.configurationRanges, InRange configuration range) :
    SystemInputCapture.start host Q descriptor.identity configuration processGeneration streamGeneration queueBatches =
      ((opening device configuration).map fun stream =>
        ⟨stream, ⟨configuration, processGeneration, streamGeneration⟩, shared⟩).mapError mapOpenError := by
  have hsupported := (ensureConfigurationSupported_iff hdescribes).mpr hoffered
  unfold SystemInputCapture.start
  rw [hshared, hdevice]
  show (ensureConfigurationSupported device configuration >>= _) = _
  rw [hsupported, opening]
  show ((buildInputStream device _ _).mapError mapOpenError >>= _) = _
  cases buildInputStream device _ _ with
  | error error => rfl
  | ok stream =>
    show (stream.play.mapError mapOpenError >>= _) = ((stream.play >>= _).map _).mapError _
    cases stream.play <;> rfl

theorem start_refused (hshared : SharedCapture.new Q queueBatches = .ok shared)
    (hdevice : deviceForIdentity host descriptor.identity = .ok device)
    (hdescribes : Describes host device platform descriptor)
    (hnone : ¬∃ range ∈ descriptor.configurationRanges, InRange configuration range) :
    SystemInputCapture.start host Q descriptor.identity configuration processGeneration streamGeneration queueBatches =
      .error .unsupportedConfiguration := by
  unfold SystemInputCapture.start
  rw [hshared, hdevice]
  show (ensureConfigurationSupported device configuration >>= _) = _
  rw [ensureConfigurationSupported_refuses hdescribes hnone]
  rfl

end Starts

end Devices

end Discovery

end Slotpilot.Audio
