import Slotpilot.Lib.StateResult
import Slotpilot.Lib.Machine
import Slotpilot.Lib.Checked
import Slotpilot.Lib.Interpolation
import Slotpilot.Lib.Blocks
import Slotpilot.Lib.RetainedLog
import Slotpilot.Lib.Json
import Slotpilot.Lib.JsonParser
import Slotpilot.Lib.JsonCodec
import Slotpilot.Lib.JsonSize
import Slotpilot.Lib.Framing
import Slotpilot.Lib.Concurrent
import Slotpilot.Audio.Contracts
import Slotpilot.Audio.Capture
import Slotpilot.Audio.CaptureBuffers
import Slotpilot.Audio.CaptureFrames
import Slotpilot.Audio.Resampler
import Slotpilot.Audio.Timeline
import Slotpilot.Audio.TimeEvidence
import Slotpilot.Audio.Continuity
import Slotpilot.Audio.Assembly
import Slotpilot.Audio.Reconstruct
import Slotpilot.Audio.InterpolationBounds
import Slotpilot.Audio.FailClosed
import Slotpilot.Audio.MonotonicEvidence
import Slotpilot.Audio.Drift
import Slotpilot.Audio.Mapping
import Slotpilot.Audio.CallbackClock
import Slotpilot.Operations.Time
import Slotpilot.Operations.ReceiveClock
import Slotpilot.Operations.ClockLatch
import Slotpilot.Operations.ClockCalls
import Slotpilot.Operations.Recovery
import Slotpilot.Operations.ClockDriver
import Slotpilot.Operations.SystemClock
import Slotpilot.Operations.OneTimeline
import Slotpilot.Audio.Spectrum
import Slotpilot.Domain.Ids
import Slotpilot.Domain.Callsign
import Slotpilot.Domain.Radio
import Slotpilot.Protocol.Decode
import Slotpilot.Protocol.DecodeOrder
import Slotpilot.Storage.Events
import Slotpilot.Storage.Receive
import Slotpilot.Storage.ReceiveRows
import Slotpilot.Storage.ReceiveColumns
import Slotpilot.Storage.ReceiveStore
import Slotpilot.Storage.ReceiveLog
import Slotpilot.Storage.ReceiveRuns
import Slotpilot.Storage.ReceiveIdentity
import Slotpilot.Storage.ReceiveReadback
import Slotpilot.Storage.RetryOrder
import Slotpilot.Storage.Commands
import Slotpilot.Api.Receive
import Slotpilot.Api.Subscription
import Slotpilot.Api.Commands
import Slotpilot.Api.Encoding
import Slotpilot.Api.EventPayload
import Slotpilot.Daemon.EventService
import Slotpilot.Daemon.EventHistory
import Slotpilot.Daemon.EventReplay
import Slotpilot.Daemon.ReplayLaws
import Slotpilot.Daemon.EventFidelity
import Slotpilot.Daemon.Receive
import Slotpilot.Daemon.ReceiveLifecycle
import Slotpilot.Daemon.Commands
import Slotpilot.Daemon.CommandRetries
import Slotpilot.Daemon.CommandRuns
import Slotpilot.Daemon.Selections
import Slotpilot.Daemon.LegacyVersion
import Slotpilot.Daemon.PublicStore
import Slotpilot.Daemon.PublicRetries
import Slotpilot.Daemon.HistoryWalk
import Slotpilot.Daemon.WindowIdentity
import Slotpilot.Lib.LittleEndian
import Slotpilot.Lib.TaggedChunks
import Slotpilot.Protocol.WaveFile
import Slotpilot.Protocol.WaveGrammar
import Slotpilot.Audio.SpectrumSteps
import Slotpilot.Audio.SpectrumWork
import Slotpilot.Audio.SpectrumTrace
import Slotpilot.Audio.SpectrumSegments
import Slotpilot.Audio.WaterfallAccounting
import Slotpilot.Daemon.WaterfallFrames
import Slotpilot.Daemon.SubscriptionTotality
import Slotpilot.Audio.Reanchor
import Slotpilot.Audio.AnchoredClocks
import Slotpilot.Operations.GateDecision
import Slotpilot.Audio.Provenance
import Slotpilot.Daemon.StorableWindows
import Slotpilot.Audio.SampleScaling
import Slotpilot.Audio.Passband
import Slotpilot.Operations.SlotTime
import Slotpilot.Operations.VirtualClock
import Slotpilot.Operations.ClockMonitor
import Slotpilot.Lib.Text
import Slotpilot.Lib.KeyedMax
import Slotpilot.Protocol.OfflineAdapter
import Slotpilot.Protocol.DecodeDedup
import Slotpilot.Protocol.ReportText
import Slotpilot.Protocol.PayloadClasses
import Slotpilot.Lib.ByteStream
import Slotpilot.Ipc.Frames
import Slotpilot.Ipc.ResponseFrames
import Slotpilot.Domain.Rig
import Slotpilot.Domain.RigRoles
import Slotpilot.Lib.IpAddress
import Slotpilot.Daemon.GatedRecords
import Slotpilot.Daemon.ReceiveSafety
import Slotpilot.Daemon.Visualization
import Slotpilot.Testkit.FakeRig
import Slotpilot.Daemon.LocalService
import Slotpilot.Daemon.LiveHistory
import Slotpilot.Audio.TimelineHealth
import Slotpilot.Storage.Migrations
import Slotpilot.Protocol.Waveform
import Slotpilot.Protocol.MessageRoundTrip
import Slotpilot.Audio.Discovery
import Slotpilot.Daemon.InputListing
import Slotpilot.Ipc.Ownership
