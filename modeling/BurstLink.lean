import BurstLink.Bench.Command
import BurstLink.Proofs.Moves
import BurstLink.Proofs.Custody
import BurstLink.Proofs.Custody.Flight
import BurstLink.Proofs.Custody.Sending
import BurstLink.Proofs.Custody.Modes
import BurstLink.Proofs.Custody.Requests
import BurstLink.Proofs.Custody.Pump
import BurstLink.Proofs.Custody.Bench
import BurstLink.Proofs.Quiescence
import BurstLink.Proofs.ModeSwitch
import BurstLink.Proofs.Alone
import BurstLink.Proofs.Retry.Forecast
import BurstLink.Proofs.Retry.Exchange
import BurstLink.Proofs.Retry.Attempt
import BurstLink.Proofs.Retry.Send
import BurstLink.Proofs.Radio.Unread
import BurstLink.Proofs.Radio.Pointer
import BurstLink.Proofs.Radio.Timer
import BurstLink.Proofs.Congruence.Basic
import BurstLink.Proofs.Congruence.Modes
import BurstLink.Proofs.Congruence.Sends
import BurstLink.Proofs.Congruence.Operations
import BurstLink.Proofs.Congruence.Bench
import BurstLink.Proofs.Tandem.Basic
import BurstLink.Proofs.Tandem.Rounds
import BurstLink.Proofs.Serial.Crowd
import BurstLink.Proofs.Serial.Turn
import BurstLink.Proofs.Serial.Ledger
import BurstLink.Proofs.Serial.Standing
import BurstLink.Proofs.Serializability
import BurstLink.Proofs.Packets.Spares
import BurstLink.Proofs.Packets.Looks
import BurstLink.Proofs.Packets.Access
import BurstLink.Proofs.Packets.Buffers
import BurstLink.Proofs.Packets.Bench
import BurstLink.Proofs.Handshake
import BurstLink.Proofs.BufferSafety
import BurstLink.Proofs.Identifiers
import BurstLink.Proofs.Mirror.Reflection
import BurstLink.Proofs.Mirror.Requests
import BurstLink.Proofs.Mirror
import BurstLink.Proofs.Footprint
import BurstLink.Proofs.Guard
import BurstLink.Proofs.SendRule
import BurstLink.Proofs.Configuration.Bounds
import BurstLink.Proofs.Configuration
import BurstLink.Proofs.Ownership.Tenure
import BurstLink.Proofs.Ownership
import BurstLink.Proofs.Imprint
import BurstLink.Proofs.Rejection.Scan
import BurstLink.Proofs.Rejection
import BurstLink.Proofs.CarrierOnAir
import BurstLink.Proofs.SwitchedOff
import BurstLink.Proofs.Pacing.Course
import BurstLink.Proofs.Pacing
import BurstLink.Proofs.Exclusion.Alongside
import BurstLink.Proofs.Exclusion.Shadow
import BurstLink.Proofs.Exclusion
import BurstLink.Proofs.ForcedIdle
import BurstLink.Proofs.Ongoing
import BurstLink.Proofs.StuckDetection
import BurstLink.Proofs.AckWindow.Launch
import BurstLink.Proofs.AckWindow.Unison
import BurstLink.Proofs.AckWindow
import BurstLink.Proofs.ChannelScan.Trial
import BurstLink.Proofs.ChannelScan.Sweep
import BurstLink.Proofs.Released
import BurstLink.Proofs.ChannelScan
import BurstLink.Proofs.Reconfiguration
import BurstLink.Proofs.Holder
import BurstLink.Proofs.Sampling.Looks
import BurstLink.Proofs.Sampling.Pumped
import BurstLink.Proofs.Sampling
import BurstLink.Proofs.PresenceScan.Table
import BurstLink.Proofs.PresenceScan.Reports
import BurstLink.Proofs.PresenceScan.Scanners
import BurstLink.Proofs.PresenceScan
import BurstLink.Proofs.Draws
import BurstLink.Proofs.PacketContents
import BurstLink.Proofs.RegisterTraffic
