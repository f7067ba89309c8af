import Slotpilot.Domain.Ids

/-!
# Receive wire vocabulary

The values that a client sends to and reads from the receive service, with their bounds. Machine integers have the width
of the wire contract.
-/

set_option autoImplicit false

namespace Slotpilot.Api

open Domain

/-- A public payload exceeded its collection or text bound. -/
inductive WireBoundError
  | exceeded
  deriving DecidableEq

def maxInputDevices : Nat := 64
def maxInputConfigurations : Nat := 64
/-- Maximum receive records in one history response. -/
def maxReceiveHistoryPage : Nat := 100
/-- Maximum decodes in one public record. -/
def maxReceiveDecodes : Nat := 128
/-- Maximum bins in one public waterfall frame. -/
def maxWaterfallBins : Nat := 2048

/-! ## Selection -/

inductive InputPlatform
  | macOsCoreAudio
  | windowsWasapi
  | linuxAlsa
  | linuxJack
  deriving DecidableEq

/-- Stable device identity. -/
structure InputDeviceIdentity where
  platform : InputPlatform
  opaqueId : String
  deriving DecidableEq

inductive InputSampleFormat
  | signed8
  | signed16
  | signed24
  | signed32
  | signed64
  | unsigned8
  | unsigned16
  | unsigned24
  | unsigned32
  | unsigned64
  | float32
  | float64
  deriving DecidableEq

/-- Exact selected format and channel. -/
structure InputConfiguration where
  sampleRateHz : UInt32
  channels : UInt16
  sampleFormat : InputSampleFormat
  selectedChannel : UInt16
  deriving DecidableEq

/-- Explicit receive selection. -/
structure ReceiveSelection where
  deviceIdentity : InputDeviceIdentity
  configuration : InputConfiguration
  deriving DecidableEq

/-- The bounds of a selection; the control characters are the ASCII ones. -/
def ReceiveSelection.inBounds (self : ReceiveSelection) : Bool :=
  let id := self.deviceIdentity.opaqueId
  !(id.isEmpty || decide (id.utf8ByteSize > 256) || id.toList.any (fun c => c.toNat < 0x20 || c.toNat = 0x7f)
    || !(decide (8000 ≤ self.configuration.sampleRateHz) && decide (self.configuration.sampleRateHz ≤ 384000))
    || self.configuration.channels == 0 || decide (self.configuration.channels > 32)
    || decide (self.configuration.selectedChannel ≥ self.configuration.channels))

/-- One selectable range of a device. -/
structure InputConfigurationRange where
  minSampleRateHz : UInt32
  maxSampleRateHz : UInt32
  channels : UInt16
  sampleFormat : InputSampleFormat
  deriving DecidableEq

/-- One discovered device. -/
structure InputDevice where
  identity : InputDeviceIdentity
  displayName : String
  manufacturer : Option String
  configurationRanges : List InputConfigurationRange
  deriving DecidableEq

/-- Bounded discovery result. -/
structure InputDevicePage where
  devices : List InputDevice
  deriving DecidableEq

def InputDevice.exceeds (device : InputDevice) : Bool :=
  device.identity.opaqueId.isEmpty || decide (device.identity.opaqueId.utf8ByteSize > 256)
    || device.displayName.isEmpty || decide (device.displayName.utf8ByteSize > 256)
    || device.manufacturer.any (fun value => decide (value.utf8ByteSize > 256))
    || device.configurationRanges.isEmpty || decide (device.configurationRanges.length > maxInputConfigurations)

def InputDevicePage.validate (self : InputDevicePage) : Except WireBoundError Unit :=
  if self.devices.length > maxInputDevices ∨ self.devices.any InputDevice.exceeds = true then .error .exceeded
  else .ok ()

/-! ## State and health -/

/-- Stable inhibition category. -/
inductive ReceiveInhibitionKind
  | serviceUnavailable
  | deviceUnavailable
  | overflow
  | discontinuity
  | clockUnhealthy
  | timelineInvalid
  | decoderFailed
  | storageFailed
  | cancelled
  deriving DecidableEq

/-- Public receive lifecycle. -/
inductive ReceiveLifecycleSnapshot
  | stopped (lastStreamGeneration : UInt64)
  | starting (streamGeneration : UInt64)
  | receiving (streamGeneration : UInt64)
  | inhibited (streamGeneration : UInt64) (reason : ReceiveInhibitionKind)
  | stopping (streamGeneration : UInt64)
  deriving DecidableEq

structure ReceiveAudioHealth where
  latencyMillis : UInt32
  driftPartsPerMillion : Int32
  overflowCount : UInt64
  clippedSampleCount : UInt64
  maxCallbackDelayMillis : UInt32
  deriving DecidableEq

inductive ReceiveClockHealth
  | healthy (mappingAgeMillis : UInt64)
  | unhealthy (reason : ReceiveInhibitionKind) (recoveryProgress recoveryRequired : UInt8) (mappingAgeMillis : UInt64)
  deriving DecidableEq

/-- Current receive state and optional live health. -/
structure ReceiveStatus where
  lifecycle : ReceiveLifecycleSnapshot
  selection : Option ReceiveSelection
  audio : Option ReceiveAudioHealth
  clock : Option ReceiveClockHealth
  deriving DecidableEq

/-- Inactive restart-safe status. -/
def ReceiveStatus.stopped : ReceiveStatus where
  lifecycle := .stopped 0
  selection := none
  audio := none
  clock := none

/-! ## Records -/

inductive Ft8MessageClass
  | generalCall
  | directedGrid
  | signalReport
  | rogerSignalReport
  | roger
  | ending73
  | endingRr73
  deriving DecidableEq

/-- Exact owned classification. -/
inductive Ft8Classification
  | resolved (canonicalText sender : String) (recipient : Option String) (messageClass : Ft8MessageClass)
  | unresolvedHash (canonicalText detail : String)
  | unsupported (canonicalText detail : String)
  | ambiguous (canonicalText detail : String)
  | freeText (text : String)
  deriving DecidableEq

structure Ft8Decode where
  startOffsetMillis : Int32
  audioFrequencyHz : UInt32
  signalToNoiseDb : Int16
  classification : Ft8Classification
  deriving DecidableEq

/-- Public summary of one durable receive record. -/
structure ReceiveRecordSummary where
  sequence : UInt64
  receiveWindowId : TypedId "rxw_"
  slotStartUtcMillis : Int64
  selection : ReceiveSelection
  audio : ReceiveAudioHealth
  clock : ReceiveClockHealth
  decodes : List Ft8Decode
  deriving DecidableEq

def ReceiveRecordSummary.validate (self : ReceiveRecordSummary) : Except WireBoundError Unit :=
  if self.decodes.length > maxReceiveDecodes then .error .exceeded else .ok ()

/-- Bounded durable history response. -/
structure ReceiveHistoryPage where
  records : List ReceiveRecordSummary
  nextSequence : UInt64
  hasMore : Bool
  deriving DecidableEq

def ReceiveHistoryPage.validate (self : ReceiveHistoryPage) : Except WireBoundError Unit :=
  if self.records.length > maxReceiveHistoryPage then .error .exceeded
  else self.records.forM ReceiveRecordSummary.validate

/-! ## Events -/

structure ReceiveHealthSnapshot where
  lifecycle : ReceiveLifecycleSnapshot
  audio : Option ReceiveAudioHealth
  clock : Option ReceiveClockHealth
  deriving DecidableEq

/-- Explicit discontinuity event. -/
structure ReceiveDiscontinuity where
  streamGeneration : UInt64
  reason : ReceiveInhibitionKind
  droppedFrames : UInt64
  deriving DecidableEq

structure WaterfallBin where
  frequencyMillihz : UInt64
  magnitudeMillidbfs : Int32
  deriving DecidableEq

/-- One bounded coalesced waterfall frame. -/
structure WaterfallFrame where
  streamGeneration : UInt64
  utcUnixMillis : Int64
  frameSequence : UInt64
  coalesced : Bool
  bins : List WaterfallBin
  deriving DecidableEq

def WaterfallFrame.validate (self : WaterfallFrame) : Except WireBoundError Unit :=
  if self.bins.length > maxWaterfallBins then .error .exceeded else .ok ()

end Slotpilot.Api
