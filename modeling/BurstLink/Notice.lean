import BurstLink.Mode
import BurstLink.Presence
import BurstLink.Radio.Basic

/-! # Notices

What the link tells its log: one constructor for each thing worth telling, its level, and its
wording.

Main definitions: **`Notice`**, **`Notice.level`**, **`Notice.text`**. -/

namespace BurstLink

/-- How important a notice is. -/
inductive Level
  /-- Details of the work. -/
  | trace
  /-- Progress of the work. -/
  | debug
  /-- Changes of state. -/
  | info
  /-- Something did not go well. -/
  | warn
  /-- Something went wrong. -/
  | error
  deriving DecidableEq

/-- The level in the log. -/
def Level.name : Level → String
  | .trace => "TRACE"
  | .debug => "DEBUG"
  | .info => "INFO"
  | .warn => "WARN"
  | .error => "ERROR"

/-- One thing told to the log. -/
inductive Notice
  /-- A packet is sent again. -/
  | retry (attempt : Nat) (pid : Pid)
  /-- A signal strength was measured. -/
  | measured (channel rssi : UInt8)
  /-- The whole configuration was replaced. -/
  | configured (config : LinkConfig)
  /-- A setting was changed. -/
  | reconfigured (config : LinkConfig)
  /-- The power level was set. -/
  | powerLevel (level gain : UInt8)
  /-- The loss simulation dropped a packet. -/
  | packetLost
  /-- The loss simulation dropped an acknowledgement. -/
  | ackLost
  /-- A channel scan is over. -/
  | scanned (first last : UInt8) (hits : Nat)
  /-- The table of a presence scan has no room for a device. -/
  | tableFull (detection : Detection)
  /-- The link protocol took the radio. -/
  | linkUp (channel : UInt8)
  /-- The link protocol gave the radio up. -/
  | linkDown
  /-- The mode changes. -/
  | modeChange (source target : Mode)
  /-- A carrier is on air. -/
  | carrierOn (channel : UInt8)
  /-- The carrier is off. -/
  | carrierOff
  /-- Both amplifiers passed the test. -/
  | frontEndPassed
  /-- An amplifier failed the test. -/
  | frontEndFailed (pa lna : Bool)
  /-- The radio did not switch off in time. -/
  | notDisabled
  /-- An event did not come in time. -/
  | eventMissing (event : RadioEvent)
  /-- A presence scan heard nothing for too long. -/
  | scanStalled (channel : UInt8)
  /-- The radio is power cycled. -/
  | powerCycle
  /-- An exchange did not come to its end. -/
  | exchangeStuck
  /-- A presence report was lost. -/
  | reportLost (report : PresenceReport)
  deriving DecidableEq

namespace Notice

/-- The level of a notice. -/
def level : Notice → Level
  | .retry .. | .measured .. => .trace
  | .configured _ | .reconfigured _ | .powerLevel .. | .packetLost | .ackLost | .scanned ..
  | .tableFull _ => .debug
  | .linkUp _ | .linkDown | .modeChange .. | .carrierOn _ | .carrierOff | .frontEndPassed => .info
  | .frontEndFailed .. | .notDisabled | .eventMissing _ | .scanStalled _ => .warn
  | .powerCycle | .exchangeStuck | .reportLost _ => .error

/-- The wording of a notice. -/
def text : Notice → String
  | .retry attempt pid => "retry " ++ toString attempt ++ " (pid " ++ toString pid.value.val ++ ")"
  | .measured channel rssi =>
    "rssi on channel " ++ showByte channel ++ ": -" ++ showByte rssi ++ " dBm"
  | .configured config => "link configured: " ++ config.text
  | .reconfigured config => "link configuration updated: " ++ config.text
  | .powerLevel level gain =>
    "power level " ++ showByte level ++ " (gain " ++ showByte gain ++ ")"
  | .packetLost => "simulated packet loss"
  | .ackLost => "simulated ack loss"
  | .scanned first last hits =>
    "channel scan " ++ showByte first ++ "..=" ++ showByte last ++ ": " ++ toString hits ++ " hits"
  | .tableFull detection => "presence table full, dropping " ++ detection.macText
  | .linkUp channel => "link protocol up on channel " ++ showByte channel
  | .linkDown => "link protocol down"
  | .modeChange source target => "radio mode " ++ source.name ++ " -> " ++ target.name
  | .carrierOn channel => "carrier on, channel " ++ showByte channel
  | .carrierOff => "carrier off"
  | .frontEndPassed => "front end ok"
  | .frontEndFailed pa lna =>
    "front end test failed (pa: " ++ showFlag pa ++ ", lna: " ++ showFlag lna ++ ")"
  | .notDisabled => "radio did not disable"
  | .eventMissing event => "radio did not report " ++ event.text
  | .scanStalled channel => "presence scan stalled on channel " ++ showByte channel
  | .powerCycle => "radio stuck, power cycling"
  | .exchangeStuck => "radio did not complete the transfer, forcing disable"
  | .reportLost report => "scan queue full, " ++ report.text ++ " lost"

end Notice

end BurstLink
