import EzvizHp7.Library.Occurrence
import EzvizHp7.Library.Timers
import EzvizHp7.Library.Transition
import EzvizHp7.Library.Settle
import EzvizHp7.Library.Journal
import EzvizHp7.Library.Segments
import EzvizHp7.Library.BigEndian
import EzvizHp7.Library.Slices
import EzvizHp7.Library.Mealy
import EzvizHp7.Library.Changes
import EzvizHp7.Library.Raising
import EzvizHp7.Library.Scanner
import EzvizHp7.Library.Json
import EzvizHp7.Library.Base64
import EzvizHp7.Library.LastWrite
import EzvizHp7.Library.TagSearch
import EzvizHp7.Library.Utf8
import EzvizHp7.Library.Printable
import EzvizHp7.Cpd7.KeyframeGate
import EzvizHp7.Cpd7.Crypto
import EzvizHp7.Cpd7.Decoder
import EzvizHp7.Cpd7.Segmentation
import EzvizHp7.Cpd7.Wire
import EzvizHp7.Cpd7.EcdhPacket
import EzvizHp7.Cpd7.EcdhLayout
import EzvizHp7.Cpd7.Robustness
import EzvizHp7.Control.Layout
import EzvizHp7.Control.LanClient
import EzvizHp7.Control.Cas
import EzvizHp7.Control.JwtSign
import EzvizHp7.Relay.Buffer
import EzvizHp7.Relay.StartCodes
import EzvizHp7.Relay.State
import EzvizHp7.Relay.Step
import EzvizHp7.Relay.Frames
import EzvizHp7.Relay.Outcome
import EzvizHp7.Relay.Coherence
import EzvizHp7.Relay.Sessions
import EzvizHp7.Relay.CloseTimer
import EzvizHp7.Relay.Recorded
import EzvizHp7.Relay.Delivery
import EzvizHp7.Relay.Handover
import EzvizHp7.Relay.Listener
import EzvizHp7.Relay.PumpLog
import EzvizHp7.Relay.Accounting
import EzvizHp7.Relay.Upstream
import EzvizHp7.Relay.Pipeline
import EzvizHp7.Coordinator.Polling
import EzvizHp7.Cloud.AesKeys
import EzvizHp7.Cloud.AesCache
import EzvizHp7.Cloud.WarmUp
import EzvizHp7.Cloud.KeyRotation
import EzvizHp7.Control.LanStart
import EzvizHp7.Control.LanLife
import EzvizHp7.Control.PermanentPassword
import EzvizHp7.Control.CasLayout
import EzvizHp7.Control.DirectConnect
import EzvizHp7.Cloud.Authentication
import EzvizHp7.Cloud.KeyErrors
import EzvizHp7.Cloud.KeyAnswers
import EzvizHp7.Control.KeyFetch
import EzvizHp7.Cloud.FeatureCode
import EzvizHp7.Config.UserStep
import EzvizHp7.Config.Flow
import EzvizHp7.Setup.DeviceInfos
import EzvizHp7.Setup.Entry
import EzvizHp7.Setup.Lifecycle
import EzvizHp7.Setup.Reload
import EzvizHp7.Setup.Prewarm
import EzvizHp7.Events.AlarmPulse
import EzvizHp7.Events.PulseTimer
import EzvizHp7.Events.Unlock
import EzvizHp7.Coordinator.Ledger
import EzvizHp7.Coordinator.CloudPolls
import EzvizHp7.Coordinator.Feed
import EzvizHp7.Coordinator.Encryption
import EzvizHp7.Mjpeg.Serve
import EzvizHp7.Mjpeg.Forward
