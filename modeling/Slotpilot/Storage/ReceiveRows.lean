import Slotpilot.Storage.Receive

/-!
# The rows of receive evidence

The columns of the tables `receive_windows`, `receive_diagnostics` and `receive_decodes` with their checks, the columns
of a record, and the record of its columns. A nullable column is an option. SQLite's text functions see the characters
before the first NUL (`sqlText`); a check fails when it is false, and passes when it is unknown.
-/

set_option autoImplicit false

namespace Slotpilot.Storage

open Lib Domain Audio Protocol

/-! ## Columns -/

/-- The columns of a window's context, unique together. -/
structure ContextColumns where
  serviceInstanceId : String
  processGeneration : Int
  streamGeneration : Int
  slotStartUtcMillis : Int
  devicePlatform : String
  deviceOpaqueId : String
  sampleRateHz : Int
  channels : Int
  sampleFormat : String
  selectedChannel : Int
  deriving DecidableEq

/-- Row of `receive_windows`. -/
structure WindowRow where
  sequence : Nat
  receiveWindowId : String
  context : ContextColumns
  capturePositionFrames : Int
  captureUtcMillis : Int
  captureMonotonicMillis : Int
  recordedUtcMillis : Int
  deriving DecidableEq

/-- The columns of a clock summary. -/
structure ClockColumns where
  state : String
  faultKind : Option String
  faultValue : Option Int
  recoveryProgress : Int
  recoveryRequired : Int
  mappingAgeMillis : Int
  deriving DecidableEq

/-- Row of `receive_diagnostics`. -/
structure DiagnosticsRow where
  receiveWindowId : String
  audioLatencyMillis : Int
  audioDriftPartsPerMillion : Int
  audioOverflowCount : Int
  audioClippedSampleCount : Int
  audioMaxCallbackDelayMillis : Int
  timelineMaxJitterMillis : Int
  timelineDriftPartsPerMillion : Int
  timelineIncompleteSlotCount : Int
  timelineLateBatchCount : Int
  clock : ClockColumns
  deriving DecidableEq

/-- The columns of a classified message. -/
structure MessageColumns where
  outcomeKind : String
  canonicalText : String
  detail : Option String
  messageClass : Option String
  sender : Option String
  recipient : Option String
  deriving DecidableEq

/-- Row of `receive_decodes`. -/
structure DecodeRow where
  receiveWindowId : String
  decodeIndex : Int
  startOffsetMillis : Int
  audioFrequencyHz : Int
  signalToNoiseDb : Int
  message : MessageColumns
  deriving DecidableEq

/-! ## Checks -/

/-- The characters that SQLite's text functions see. -/
def sqlText (text : String) : List Char := text.toList.takeWhile (· ≠ Char.ofNat 0)

/-- `length(text) BETWEEN low AND high`. -/
def lengthBetween (low high : Nat) (text : String) : Bool := low ≤ (sqlText text).length && (sqlText text).length ≤ high

/-- `instr(text, char(0)) = 0`. -/
def withoutNul (text : String) : Bool := text.toList.all (· ≠ Char.ofNat 0)

/-- `value BETWEEN low AND high`. -/
def between (low high value : Int) : Bool := low ≤ value && value ≤ high

@[simp] theorem between_iff {low high value : Int} : between low high value = true ↔ low ≤ value ∧ value ≤ high := by
  rw [between, Bool.and_eq_true, decide_eq_true_eq, decide_eq_true_eq]

/-- The check of an identity column with the prefix `tag`. -/
def identityCheck (tag text : String) : Bool :=
  lengthBetween 12 68 text && (sqlText text).take 4 == tag.toList && ((sqlText text).drop 4).all isIdCharacter

def ContextColumns.check (self : ContextColumns) : Bool :=
  identityCheck "svc_" self.serviceInstanceId && self.processGeneration > 0 && self.streamGeneration > 0 &&
    (self.slotStartUtcMillis ≥ 0 && self.slotStartUtcMillis.tmod 15000 == 0) &&
    ["macos_core_audio", "windows_wasapi", "linux_alsa", "linux_jack"].contains self.devicePlatform &&
    (lengthBetween 1 256 self.deviceOpaqueId && withoutNul self.deviceOpaqueId) &&
    between 8000 384000 self.sampleRateHz && between 1 32 self.channels &&
    ["signed_8", "signed_16", "signed_24", "signed_32", "signed_64", "unsigned_8", "unsigned_16", "unsigned_24",
      "unsigned_32", "unsigned_64", "float_32", "float_64"].contains self.sampleFormat &&
    (self.selectedChannel ≥ 0 && self.selectedChannel < self.channels)

def WindowRow.check (self : WindowRow) : Bool :=
  identityCheck "rxw_" self.receiveWindowId && self.context.check && self.capturePositionFrames ≥ 0 &&
    self.captureUtcMillis ≥ 0 && self.captureMonotonicMillis ≥ 0 && self.recordedUtcMillis ≥ 0

/-- The faults that have a value. -/
def valuedFaults : List String := ["utc_jump", "stale_mapping", "sampling_delayed", "sample_gap", "window_misaligned"]

/-- The faults without a value. -/
def bareFaults : List String := ["process_generation_changed", "timeline_regressed", "arithmetic_overflow"]

def ClockColumns.check (self : ClockColumns) : Bool :=
  ["healthy", "unhealthy"].contains self.state &&
    self.faultKind.all (fun kind => bareFaults.contains kind || valuedFaults.contains kind) &&
    between 0 10 self.recoveryProgress && between 0 10 self.recoveryRequired &&
    between 0 86400000 self.mappingAgeMillis &&
    ((self.state == "healthy" && self.faultKind.isNone && self.faultValue.isNone && self.recoveryProgress == 0 &&
        self.recoveryRequired == 0) ||
      (self.state == "unhealthy" && self.faultKind.isSome && between 2 10 self.recoveryRequired &&
        self.recoveryProgress < self.recoveryRequired)) &&
    self.faultKind.all fun kind =>
      (valuedFaults.contains kind && self.faultValue.isSome) || (bareFaults.contains kind && self.faultValue.isNone)

def DiagnosticsRow.check (self : DiagnosticsRow) : Bool :=
  between 0 60000 self.audioLatencyMillis && between (-100000) 100000 self.audioDriftPartsPerMillion &&
    self.audioOverflowCount ≥ 0 && self.audioClippedSampleCount ≥ 0 &&
    between 0 60000 self.audioMaxCallbackDelayMillis && between 0 4294967295 self.timelineMaxJitterMillis &&
    between (-100000) 100000 self.timelineDriftPartsPerMillion && self.timelineIncompleteSlotCount ≥ 0 &&
    self.timelineLateBatchCount ≥ 0 && self.clock.check

def MessageColumns.check (self : MessageColumns) : Bool :=
  ["resolved", "unresolved_hash", "unsupported", "ambiguous", "free_text"].contains self.outcomeKind &&
    (lengthBetween 1 64 self.canonicalText && withoutNul self.canonicalText) &&
    self.detail.all (fun detail => lengthBetween 1 128 detail && withoutNul detail) &&
    self.messageClass.all (["general_call", "directed_grid", "signal_report", "roger_signal_report", "roger",
      "ending_73", "ending_rr73"].contains ·) &&
    self.sender.all (lengthBetween 1 32) && self.recipient.all (lengthBetween 1 32) &&
    ((self.outcomeKind == "resolved" && self.detail.isNone && self.messageClass.isSome && self.sender.isSome) ||
      (["unresolved_hash", "unsupported", "ambiguous"].contains self.outcomeKind && self.detail.isSome &&
        self.messageClass.isNone && self.sender.isNone && self.recipient.isNone) ||
      (self.outcomeKind == "free_text" && self.detail.isNone && self.messageClass.isNone && self.sender.isNone &&
        self.recipient.isNone)) &&
    self.messageClass.all fun value =>
      (value == "general_call" && self.recipient.isNone) || (value != "general_call" && self.recipient.isSome)

def DecodeRow.check (self : DecodeRow) : Bool :=
  between 0 127 self.decodeIndex && between (-60000) 60000 self.startOffsetMillis &&
    between 0 6000 self.audioFrequencyHz && between (-100) 100 self.signalToNoiseDb && self.message.check

/-! ## The texts of enumerations -/

def platformToStr : InputPlatform → String
  | .macOsCoreAudio => "macos_core_audio"
  | .windowsWasapi => "windows_wasapi"
  | .linuxAlsa => "linux_alsa"
  | .linuxJack => "linux_jack"

def strToPlatform (value : String) : Except StorageError InputPlatform :=
  if value = "macos_core_audio" then .ok .macOsCoreAudio
  else if value = "windows_wasapi" then .ok .windowsWasapi
  else if value = "linux_alsa" then .ok .linuxAlsa
  else if value = "linux_jack" then .ok .linuxJack
  else .error (.invalidPersistedReceiveValue "input platform")

def sampleFormatToStr : InputSampleFormat → String
  | .signed8 => "signed_8"
  | .signed16 => "signed_16"
  | .signed24 => "signed_24"
  | .signed32 => "signed_32"
  | .signed64 => "signed_64"
  | .unsigned8 => "unsigned_8"
  | .unsigned16 => "unsigned_16"
  | .unsigned24 => "unsigned_24"
  | .unsigned32 => "unsigned_32"
  | .unsigned64 => "unsigned_64"
  | .float32 => "float_32"
  | .float64 => "float_64"

def strToSampleFormat (value : String) : Except StorageError InputSampleFormat :=
  if value = "signed_8" then .ok .signed8
  else if value = "signed_16" then .ok .signed16
  else if value = "signed_24" then .ok .signed24
  else if value = "signed_32" then .ok .signed32
  else if value = "signed_64" then .ok .signed64
  else if value = "unsigned_8" then .ok .unsigned8
  else if value = "unsigned_16" then .ok .unsigned16
  else if value = "unsigned_24" then .ok .unsigned24
  else if value = "unsigned_32" then .ok .unsigned32
  else if value = "unsigned_64" then .ok .unsigned64
  else if value = "float_32" then .ok .float32
  else if value = "float_64" then .ok .float64
  else .error (.invalidPersistedReceiveValue "input sample format")

def messageClassToStr : Ft8MessageClass → String
  | .generalCall => "general_call"
  | .directedGrid => "directed_grid"
  | .signalReport => "signal_report"
  | .rogerSignalReport => "roger_signal_report"
  | .roger => "roger"
  | .ending73 => "ending_73"
  | .endingRr73 => "ending_rr73"

def strToMessageClass (value : String) : Except StorageError Ft8MessageClass :=
  if value = "general_call" then .ok .generalCall
  else if value = "directed_grid" then .ok .directedGrid
  else if value = "signal_report" then .ok .signalReport
  else if value = "roger_signal_report" then .ok .rogerSignalReport
  else if value = "roger" then .ok .roger
  else if value = "ending_73" then .ok .ending73
  else if value = "ending_rr73" then .ok .endingRr73
  else .error (.invalidPersistedReceiveValue "FT8 message class")

@[simp] theorem strToPlatform_toStr (platform : InputPlatform) : strToPlatform (platformToStr platform) = .ok platform := by
  cases platform <;> simp [strToPlatform, platformToStr]

@[simp] theorem strToSampleFormat_toStr (format : InputSampleFormat) :
    strToSampleFormat (sampleFormatToStr format) = .ok format := by
  cases format <;> simp [strToSampleFormat, sampleFormatToStr]

@[simp] theorem strToMessageClass_toStr (value : Ft8MessageClass) :
    strToMessageClass (messageClassToStr value) = .ok value := by
  cases value <;> simp [strToMessageClass, messageClassToStr]

end Slotpilot.Storage
