import BurstLink.Address
import BurstLink.Failure

/-! # Link configuration

What can be set on the link, within which bounds, and the fixed times and limits of the protocol.

Main definitions:

* **`LinkConfig`** — the whole configuration; `LinkConfig.standard` is the one at start-up.
* **`LinkConfig.validate`** — the bounds, checked in the order channel, retry count, packet loss,
  acknowledgement loss; the first violated one is reported.
* **`ConfigChange`** — one setting to change, with its own check and its effect. -/

namespace BurstLink

/-! ## Limits and times -/

/-- Highest channel; channel `n` is at `2400 + n` MHz. -/
def maxChannel : UInt8 := 100

/-- Highest automatic retry count. -/
def maxArc : UInt8 := 15

/-- Highest percentage. -/
def maxPercent : UInt8 := 100

/-- Most channels that one channel scan reports. -/
def maxScanResults : Nat := 63

/-- Most reports that wait for a presence scan. -/
def scanQueueDepth : Nat := 10

/-- Most devices that one presence scan reports. -/
def maxPresenceDevices : Nat := 16

/-- Timer ticks from the end of a transmission to the acknowledgement timeout. -/
def ackGuardTicks : UInt32 := 500

/-- Microseconds after which one exchange counts as stuck. -/
def exchangeTimeout : Nat := 200000

/-- Microseconds that the radio is given to switch off when the link is taken down. -/
def teardownTime : Nat := 200

/-- Reads of the radio state after which a forced disable gives up. -/
def disableMaxPolls : Nat := 10000

/-- Microseconds between two looks at a measurement event. -/
def measurementInterval : Nat := 20

/-- Looks at a measurement event before the measurement gives up. -/
def measurementMaxPolls : Nat := 50

/-- Microseconds an amplifier is given to settle in the front-end test. -/
def amplifierSettleTime : Nat := 10000

/-! ## Bounds -/

/-- Channels go up to the highest one. -/
def checkChannel (channel : UInt8) : Except BadRequest Unit :=
  if maxChannel < channel then .error (.channelOutOfRange channel) else .ok ()

/-- Retry counts go up to the highest one. -/
def checkArc (arc : UInt8) : Except BadRequest Unit :=
  if maxArc < arc then .error (.arcOutOfRange arc) else .ok ()

/-- Percentages go up to 100. -/
def checkPercent (percent : UInt8) : Except BadRequest Unit :=
  if maxPercent < percent then .error (.percentOutOfRange percent) else .ok ()

/-- The channels that pass are those up to the highest one. -/
@[simp] theorem checkChannel_eq_ok_iff {channel : UInt8} :
    checkChannel channel = .ok () ↔ channel ≤ maxChannel := by
  unfold checkChannel
  split <;> simp_all [UInt8.not_lt, UInt8.not_le]

/-- The numbers of retries that pass are those that the counter of the protocol can hold. -/
@[simp] theorem checkArc_eq_ok_iff {arc : UInt8} : checkArc arc = .ok () ↔ arc ≤ maxArc := by
  unfold checkArc
  split <;> simp_all [UInt8.not_lt, UInt8.not_le]

/-- The percentages that pass are those up to 100. -/
@[simp] theorem checkPercent_eq_ok_iff {percent : UInt8} :
    checkPercent percent = .ok () ↔ percent ≤ maxPercent := by
  unfold checkPercent
  split <;> simp_all [UInt8.not_lt, UInt8.not_le]

/-! ## The configuration -/

/-- Data rate on air. -/
inductive Bitrate
  /-- One megabit per second. -/
  | mbps1
  /-- Two megabits per second. -/
  | mbps2
  deriving DecidableEq

/-- The data rate in reports. -/
def Bitrate.text : Bitrate → String
  | .mbps1 => "Mbps1"
  | .mbps2 => "Mbps2"

/-- The link configuration. -/
structure LinkConfig where
  /-- Channel of the link. -/
  channel : UInt8
  /-- Address of both ends. -/
  address : Address
  /-- Data rate on air. -/
  bitrate : Bitrate
  /-- Retransmissions after the first attempt when no acknowledgement is accepted. -/
  arc : UInt8
  /-- When off, packets are sent once and nothing is waited for. -/
  ackEnabled : Bool
  /-- Only acknowledgements that echo the identifier of the packet are accepted. -/
  ackPidCheck : Bool
  /-- Percentage of packets dropped before transmission. -/
  packetLossPercent : UInt8
  /-- Percentage of acknowledgements discarded after reception. -/
  ackLossPercent : UInt8
  deriving DecidableEq

namespace LinkConfig

/-- The configuration at start-up. -/
def standard : LinkConfig where
  channel := 47
  address := .standard
  bitrate := .mbps2
  arc := 3
  ackEnabled := true
  ackPidCheck := false
  packetLossPercent := 0
  ackLossPercent := 0

instance : Inhabited LinkConfig := ⟨standard⟩

/-- Accepts a configuration whose four bounded settings are in range. -/
def validate (c : LinkConfig) : Except BadRequest Unit := do
  checkChannel c.channel
  checkArc c.arc
  checkPercent c.packetLossPercent
  checkPercent c.ackLossPercent

/-- Transmissions of one send at most: one without acknowledgements, else the retry count more. -/
def attempts (c : LinkConfig) : Nat := if c.ackEnabled then c.arc.toNat + 1 else 1

/-- A configuration in reports. -/
def text (c : LinkConfig) : String :=
  showRecord "LinkConfig"
    [("channel", showByte c.channel), ("address", c.address.text), ("bitrate", c.bitrate.text),
      ("arc", showByte c.arc), ("ack_enabled", showFlag c.ackEnabled),
      ("ack_pid_check", showFlag c.ackPidCheck),
      ("packet_loss_percent", showByte c.packetLossPercent),
      ("ack_loss_percent", showByte c.ackLossPercent)]

/-- The standard configuration passes its own check. -/
@[simp] theorem validate_standard : validate standard = .ok () := rfl

end LinkConfig

/-! ## Changing one setting -/

/-- One setting, or the pair of loss percentages, to change. -/
inductive ConfigChange
  /-- Another channel. -/
  | channel (channel : UInt8)
  /-- Another address. -/
  | address (address : Address)
  /-- Another data rate. -/
  | bitrate (bitrate : Bitrate)
  /-- Another retry count. -/
  | arc (arc : UInt8)
  /-- Acknowledgements on or off. -/
  | ackEnabled (on : Bool)
  /-- Identifier check on or off. -/
  | ackPidCheck (on : Bool)
  /-- Other loss percentages. -/
  | loss (packetPercent ackPercent : UInt8)
  deriving DecidableEq

namespace ConfigChange

/-- The bounds of the new value. -/
def check : ConfigChange → Except BadRequest Unit
  | .channel value => checkChannel value
  | .arc value => checkArc value
  | .loss packetPercent ackPercent => do
    checkPercent packetPercent
    checkPercent ackPercent
  | _ => .ok ()

/-- The configuration with the new value. -/
def apply (c : LinkConfig) : ConfigChange → LinkConfig
  | .channel value => { c with channel := value }
  | .address value => { c with address := value }
  | .bitrate value => { c with bitrate := value }
  | .arc value => { c with arc := value }
  | .ackEnabled on => { c with ackEnabled := on }
  | .ackPidCheck on => { c with ackPidCheck := on }
  | .loss packetPercent ackPercent =>
    { c with packetLossPercent := packetPercent, ackLossPercent := ackPercent }

end ConfigChange

end BurstLink
