import Slotpilot.Api.Receive
import Slotpilot.Lib.JsonCodec

/-!
# JSON forms of the receive vocabulary

The forms that the serializers of the wire types derive: names in snake case, records by field, variants with a tag.
-/

set_option autoImplicit false

namespace Slotpilot.Api

open Lib Domain Json

/-! ## Enumerations -/

instance : Enumeration InputPlatform where
  all := [.macOsCoreAudio, .windowsWasapi, .linuxAlsa, .linuxJack]
  name
    | .macOsCoreAudio => "mac_os_core_audio"
    | .windowsWasapi => "windows_wasapi"
    | .linuxAlsa => "linux_alsa"
    | .linuxJack => "linux_jack"
  mem_all a := by cases a <;> decide
  name_injective a b h := by cases a <;> cases b <;> first | rfl | (exact absurd h (by decide))

instance : Enumeration InputSampleFormat where
  all := [.signed8, .signed16, .signed24, .signed32, .signed64, .unsigned8, .unsigned16, .unsigned24, .unsigned32,
    .unsigned64, .float32, .float64]
  name
    | .signed8 => "signed8"
    | .signed16 => "signed16"
    | .signed24 => "signed24"
    | .signed32 => "signed32"
    | .signed64 => "signed64"
    | .unsigned8 => "unsigned8"
    | .unsigned16 => "unsigned16"
    | .unsigned24 => "unsigned24"
    | .unsigned32 => "unsigned32"
    | .unsigned64 => "unsigned64"
    | .float32 => "float32"
    | .float64 => "float64"
  mem_all a := by cases a <;> decide
  name_injective a b h := by cases a <;> cases b <;> first | rfl | (exact absurd h (by decide))

instance : Enumeration ReceiveInhibitionKind where
  all := [.serviceUnavailable, .deviceUnavailable, .overflow, .discontinuity, .clockUnhealthy, .timelineInvalid,
    .decoderFailed, .storageFailed, .cancelled]
  name
    | .serviceUnavailable => "service_unavailable"
    | .deviceUnavailable => "device_unavailable"
    | .overflow => "overflow"
    | .discontinuity => "discontinuity"
    | .clockUnhealthy => "clock_unhealthy"
    | .timelineInvalid => "timeline_invalid"
    | .decoderFailed => "decoder_failed"
    | .storageFailed => "storage_failed"
    | .cancelled => "cancelled"
  mem_all a := by cases a <;> decide
  name_injective a b h := by cases a <;> cases b <;> first | rfl | (exact absurd h (by decide))

instance : Enumeration Ft8MessageClass where
  all := [.generalCall, .directedGrid, .signalReport, .rogerSignalReport, .roger, .ending73, .endingRr73]
  name
    | .generalCall => "general_call"
    | .directedGrid => "directed_grid"
    | .signalReport => "signal_report"
    | .rogerSignalReport => "roger_signal_report"
    | .roger => "roger"
    | .ending73 => "ending73"
    | .endingRr73 => "ending_rr73"
  mem_all a := by cases a <;> decide
  name_injective a b h := by cases a <;> cases b <;> first | rfl | (exact absurd h (by decide))

/-! ## Selections and health -/

instance : JsonCodec InputDeviceIdentity where
  toJson self := .object
    [("platform", toJson self.platform), ("opaque_id", toJson self.opaqueId)]
  fromJson value := do
    let fields ← record ["platform", "opaque_id"] value
    let platform ← required fields "platform"
    let opaqueId ← required fields "opaque_id"
    pure { platform, opaqueId }
  fromJson_toJson self := by simp [-Option.bind_eq_bind]
  toJson_ne_null _ := by simp

instance : JsonCodec InputConfiguration where
  toJson self := .object
    [("sample_rate_hz", toJson self.sampleRateHz), ("channels", toJson self.channels),
      ("sample_format", toJson self.sampleFormat), ("selected_channel", toJson self.selectedChannel)]
  fromJson value := do
    let fields ← record ["sample_rate_hz", "channels", "sample_format", "selected_channel"] value
    let sampleRateHz ← required fields "sample_rate_hz"
    let channels ← required fields "channels"
    let sampleFormat ← required fields "sample_format"
    let selectedChannel ← required fields "selected_channel"
    pure { sampleRateHz, channels, sampleFormat, selectedChannel }
  fromJson_toJson self := by simp [-Option.bind_eq_bind]
  toJson_ne_null _ := by simp

instance : JsonCodec ReceiveSelection where
  toJson self := .object
    [("device_identity", toJson self.deviceIdentity), ("configuration", toJson self.configuration)]
  fromJson value := do
    let fields ← record ["device_identity", "configuration"] value
    let deviceIdentity ← required fields "device_identity"
    let configuration ← required fields "configuration"
    pure { deviceIdentity, configuration }
  fromJson_toJson self := by simp [-Option.bind_eq_bind]
  toJson_ne_null _ := by simp

instance : JsonCodec ReceiveLifecycleSnapshot where
  toJson
    | .stopped lastStreamGeneration => .object
      [("state", .string "stopped"), ("last_stream_generation", toJson lastStreamGeneration)]
    | .starting streamGeneration => .object
      [("state", .string "starting"), ("stream_generation", toJson streamGeneration)]
    | .receiving streamGeneration => .object
      [("state", .string "receiving"), ("stream_generation", toJson streamGeneration)]
    | .inhibited streamGeneration reason => .object
      [("state", .string "inhibited"), ("stream_generation", toJson streamGeneration),
        ("reason", toJson reason)]
    | .stopping streamGeneration => .object
      [("state", .string "stopping"), ("stream_generation", toJson streamGeneration)]
  fromJson value := do
    let (variant, content) ← tagged "state" value
    if variant = "stopped" then do
      let fields ← record ["last_stream_generation"] content
      let lastStreamGeneration ← required fields "last_stream_generation"
      pure (.stopped lastStreamGeneration)
    else if variant = "starting" then do
      let fields ← record ["stream_generation"] content
      let streamGeneration ← required fields "stream_generation"
      pure (.starting streamGeneration)
    else if variant = "receiving" then do
      let fields ← record ["stream_generation"] content
      let streamGeneration ← required fields "stream_generation"
      pure (.receiving streamGeneration)
    else if variant = "inhibited" then do
      let fields ← record ["stream_generation", "reason"] content
      let streamGeneration ← required fields "stream_generation"
      let reason ← required fields "reason"
      pure (.inhibited streamGeneration reason)
    else if variant = "stopping" then do
      let fields ← record ["stream_generation"] content
      let streamGeneration ← required fields "stream_generation"
      pure (.stopping streamGeneration)
    else none
  fromJson_toJson self := by cases self <;> simp [-Option.bind_eq_bind]
  toJson_ne_null self := by cases self <;> simp

instance : JsonCodec ReceiveAudioHealth where
  toJson self := .object
    [("latency_millis", toJson self.latencyMillis),
      ("drift_parts_per_million", toJson self.driftPartsPerMillion),
      ("overflow_count", toJson self.overflowCount),
      ("clipped_sample_count", toJson self.clippedSampleCount),
      ("max_callback_delay_millis", toJson self.maxCallbackDelayMillis)]
  fromJson value := do
    let fields ← record
      ["latency_millis", "drift_parts_per_million", "overflow_count", "clipped_sample_count",
        "max_callback_delay_millis"] value
    let latencyMillis ← required fields "latency_millis"
    let driftPartsPerMillion ← required fields "drift_parts_per_million"
    let overflowCount ← required fields "overflow_count"
    let clippedSampleCount ← required fields "clipped_sample_count"
    let maxCallbackDelayMillis ← required fields "max_callback_delay_millis"
    pure { latencyMillis, driftPartsPerMillion, overflowCount, clippedSampleCount, maxCallbackDelayMillis }
  fromJson_toJson self := by simp [-Option.bind_eq_bind]
  toJson_ne_null _ := by simp

instance : JsonCodec ReceiveClockHealth where
  toJson
    | .healthy mappingAgeMillis => .object
      [("state", .string "healthy"), ("mapping_age_millis", toJson mappingAgeMillis)]
    | .unhealthy reason recoveryProgress recoveryRequired mappingAgeMillis => .object
      [("state", .string "unhealthy"), ("reason", toJson reason),
        ("recovery_progress", toJson recoveryProgress), ("recovery_required", toJson recoveryRequired),
        ("mapping_age_millis", toJson mappingAgeMillis)]
  fromJson value := do
    let (variant, content) ← tagged "state" value
    if variant = "healthy" then do
      let fields ← record ["mapping_age_millis"] content
      let mappingAgeMillis ← required fields "mapping_age_millis"
      pure (.healthy mappingAgeMillis)
    else if variant = "unhealthy" then do
      let fields ← record ["reason", "recovery_progress", "recovery_required", "mapping_age_millis"] content
      let reason ← required fields "reason"
      let recoveryProgress ← required fields "recovery_progress"
      let recoveryRequired ← required fields "recovery_required"
      let mappingAgeMillis ← required fields "mapping_age_millis"
      pure (.unhealthy reason recoveryProgress recoveryRequired mappingAgeMillis)
    else none
  fromJson_toJson self := by cases self <;> simp [-Option.bind_eq_bind]
  toJson_ne_null self := by cases self <;> simp

/-! ## Records -/

instance {tag : String} : JsonCodec (TypedId tag) where
  toJson self := .string self.text
  fromJson
    | .string value => (TypedId.fromStr tag value).toOption
    | _ => none
  fromJson_toJson self := by
    have hparse : TypedId.fromStr tag self.text = .ok self := TypedId.fromStr_ok.mpr rfl
    show (TypedId.fromStr tag self.text).toOption = some self
    rw [hparse]
    rfl
  toJson_ne_null _ := by simp

instance : JsonCodec Ft8Classification where
  toJson
    | .resolved canonicalText sender recipient messageClass => .object
      [("kind", .string "resolved"), ("canonical_text", toJson canonicalText), ("sender", toJson sender),
        ("recipient", optionToJson recipient), ("message_class", toJson messageClass)]
    | .unresolvedHash canonicalText detail => .object
      [("kind", .string "unresolved_hash"), ("canonical_text", toJson canonicalText),
        ("detail", toJson detail)]
    | .unsupported canonicalText detail => .object
      [("kind", .string "unsupported"), ("canonical_text", toJson canonicalText), ("detail", toJson detail)]
    | .ambiguous canonicalText detail => .object
      [("kind", .string "ambiguous"), ("canonical_text", toJson canonicalText), ("detail", toJson detail)]
    | .freeText text => .object
      [("kind", .string "free_text"), ("text", toJson text)]
  fromJson value := do
    let (variant, content) ← tagged "kind" value
    if variant = "resolved" then do
      let fields ← record ["canonical_text", "sender", "recipient", "message_class"] content
      let canonicalText ← required fields "canonical_text"
      let sender ← required fields "sender"
      let recipient ← optional fields "recipient"
      let messageClass ← required fields "message_class"
      pure (.resolved canonicalText sender recipient messageClass)
    else if variant = "unresolved_hash" then do
      let fields ← record ["canonical_text", "detail"] content
      let canonicalText ← required fields "canonical_text"
      let detail ← required fields "detail"
      pure (.unresolvedHash canonicalText detail)
    else if variant = "unsupported" then do
      let fields ← record ["canonical_text", "detail"] content
      let canonicalText ← required fields "canonical_text"
      let detail ← required fields "detail"
      pure (.unsupported canonicalText detail)
    else if variant = "ambiguous" then do
      let fields ← record ["canonical_text", "detail"] content
      let canonicalText ← required fields "canonical_text"
      let detail ← required fields "detail"
      pure (.ambiguous canonicalText detail)
    else if variant = "free_text" then do
      let fields ← record ["text"] content
      let text ← required fields "text"
      pure (.freeText text)
    else none
  fromJson_toJson self := by cases self <;> simp [-Option.bind_eq_bind]
  toJson_ne_null self := by cases self <;> simp

instance : JsonCodec Ft8Decode where
  toJson self := .object
    [("start_offset_millis", toJson self.startOffsetMillis),
      ("audio_frequency_hz", toJson self.audioFrequencyHz),
      ("signal_to_noise_db", toJson self.signalToNoiseDb), ("classification", toJson self.classification)]
  fromJson value := do
    let fields ← record ["start_offset_millis", "audio_frequency_hz", "signal_to_noise_db", "classification"] value
    let startOffsetMillis ← required fields "start_offset_millis"
    let audioFrequencyHz ← required fields "audio_frequency_hz"
    let signalToNoiseDb ← required fields "signal_to_noise_db"
    let classification ← required fields "classification"
    pure { startOffsetMillis, audioFrequencyHz, signalToNoiseDb, classification }
  fromJson_toJson self := by simp [-Option.bind_eq_bind]
  toJson_ne_null _ := by simp

instance : JsonCodec ReceiveRecordSummary where
  toJson self := .object
    [("sequence", toJson self.sequence), ("receive_window_id", toJson self.receiveWindowId),
      ("slot_start_utc_millis", toJson self.slotStartUtcMillis), ("selection", toJson self.selection),
      ("audio", toJson self.audio), ("clock", toJson self.clock), ("decodes", toJson self.decodes)]
  fromJson value := do
    let fields ← record
      ["sequence", "receive_window_id", "slot_start_utc_millis", "selection", "audio", "clock",
        "decodes"] value
    let sequence ← required fields "sequence"
    let receiveWindowId ← required fields "receive_window_id"
    let slotStartUtcMillis ← required fields "slot_start_utc_millis"
    let selection ← required fields "selection"
    let audio ← required fields "audio"
    let clock ← required fields "clock"
    let decodes ← required fields "decodes"
    pure { sequence, receiveWindowId, slotStartUtcMillis, selection, audio, clock, decodes }
  fromJson_toJson self := by simp [-Option.bind_eq_bind]
  toJson_ne_null _ := by simp

/-! ## Events -/

instance : JsonCodec ReceiveHealthSnapshot where
  toJson self := .object
    [("lifecycle", toJson self.lifecycle), ("audio", optionToJson self.audio),
      ("clock", optionToJson self.clock)]
  fromJson value := do
    let fields ← record ["lifecycle", "audio", "clock"] value
    let lifecycle ← required fields "lifecycle"
    let audio ← optional fields "audio"
    let clock ← optional fields "clock"
    pure { lifecycle, audio, clock }
  fromJson_toJson self := by simp [-Option.bind_eq_bind]
  toJson_ne_null _ := by simp

instance : JsonCodec ReceiveDiscontinuity where
  toJson self := .object
    [("stream_generation", toJson self.streamGeneration), ("reason", toJson self.reason),
      ("dropped_frames", toJson self.droppedFrames)]
  fromJson value := do
    let fields ← record ["stream_generation", "reason", "dropped_frames"] value
    let streamGeneration ← required fields "stream_generation"
    let reason ← required fields "reason"
    let droppedFrames ← required fields "dropped_frames"
    pure { streamGeneration, reason, droppedFrames }
  fromJson_toJson self := by simp [-Option.bind_eq_bind]
  toJson_ne_null _ := by simp

instance : JsonCodec WaterfallBin where
  toJson self := .object
    [("frequency_millihz", toJson self.frequencyMillihz),
      ("magnitude_millidbfs", toJson self.magnitudeMillidbfs)]
  fromJson value := do
    let fields ← record ["frequency_millihz", "magnitude_millidbfs"] value
    let frequencyMillihz ← required fields "frequency_millihz"
    let magnitudeMillidbfs ← required fields "magnitude_millidbfs"
    pure { frequencyMillihz, magnitudeMillidbfs }
  fromJson_toJson self := by simp [-Option.bind_eq_bind]
  toJson_ne_null _ := by simp

instance : JsonCodec WaterfallFrame where
  toJson self := .object
    [("stream_generation", toJson self.streamGeneration), ("utc_unix_millis", toJson self.utcUnixMillis),
      ("frame_sequence", toJson self.frameSequence), ("coalesced", toJson self.coalesced),
      ("bins", toJson self.bins)]
  fromJson value := do
    let fields ← record ["stream_generation", "utc_unix_millis", "frame_sequence", "coalesced", "bins"] value
    let streamGeneration ← required fields "stream_generation"
    let utcUnixMillis ← required fields "utc_unix_millis"
    let frameSequence ← required fields "frame_sequence"
    let coalesced ← required fields "coalesced"
    let bins ← required fields "bins"
    pure { streamGeneration, utcUnixMillis, frameSequence, coalesced, bins }
  fromJson_toJson self := by simp [-Option.bind_eq_bind]
  toJson_ne_null _ := by simp

end Slotpilot.Api
