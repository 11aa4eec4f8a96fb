import BurstLink.Station

/-! # Access by hand

Besides asking for operations one can reach into the station directly: write the registers of the
radio, switch the front end, and set up the surroundings of the simulated radio.

Main definitions: **`RadioAccess`**, **`FrontEndAccess`**, **`AirSetting`**, each with `apply`. -/

namespace BurstLink

/-- One access to the radio, its timer or its routes. -/
inductive RadioAccess
  /-- Give the radio a task. -/
  | trigger (task : RadioTask)
  /-- Clear an event. -/
  | clearEvent (event : RadioEvent)
  /-- Switch the power. -/
  | setPower (on : Bool)
  /-- Set the packet format. -/
  | configurePacket
  /-- Tune to a channel. -/
  | setChannel (channel : UInt8)
  /-- Set the data rate. -/
  | setBitrate (bitrate : Bitrate)
  /-- Set the transmission power. -/
  | setTxPower (power : TxPower)
  /-- Write the base register. -/
  | setBase0 (value : UInt32)
  /-- Write the prefix register. -/
  | setPrefix0 (value : UInt32)
  /-- Point the radio at a packet, or at none. -/
  | setBuffer (buffer : Option Buffer)
  /-- Enable or disable the interrupt. -/
  | setInterrupt (on : Bool)
  /-- Replace the shortcuts. -/
  | setShorts (shorts : Shorts)
  /-- Add shortcuts. -/
  | enableShorts (shorts : Shorts)
  /-- Take shortcuts away. -/
  | disableShorts (shorts : Shorts)
  /-- Clear and start the timer. -/
  | startTimer
  /-- Stop the timer. -/
  | stopTimer
  /-- Arm the timeout. -/
  | armTimeout (deadline : UInt32)
  /-- Forget that the timeout fired. -/
  | clearTimeout
  /-- Connect or disconnect a route. -/
  | setRoute (route : Route) (connected : Bool)
  /-- Disconnect every route. -/
  | clearRoutes
  deriving DecidableEq

/-- The radio after an access. -/
def RadioAccess.apply : RadioAccess → Radio → Radio
  | .trigger task => Radio.trigger task
  | .clearEvent event => Radio.clearEvent event
  | .setPower on => Radio.setPower on
  | .configurePacket => Radio.configurePacket
  | .setChannel channel => Radio.setChannel channel
  | .setBitrate bitrate => Radio.setBitrate bitrate
  | .setTxPower power => Radio.setTxPower power
  | .setBase0 value => Radio.setBase0 value
  | .setPrefix0 value => Radio.setPrefix0 value
  | .setBuffer buffer => Radio.setBuffer buffer
  | .setInterrupt on => Radio.setInterrupt on
  | .setShorts shorts => Radio.setShorts shorts
  | .enableShorts shorts => Radio.enableShorts shorts
  | .disableShorts shorts => Radio.disableShorts shorts
  | .startTimer => Radio.startTimer
  | .stopTimer => Radio.stopTimer
  | .armTimeout deadline => Radio.armTimeout deadline
  | .clearTimeout => Radio.clearTimeout
  | .setRoute route connected => Radio.setRoute route connected
  | .clearRoutes => Radio.clearRoutes

/-- One access to the front end. -/
inductive FrontEndAccess
  /-- Prepare the module. -/
  | prepare
  /-- Switch the power amplifier. -/
  | setPa (on : Bool)
  /-- Switch the low-noise amplifier. -/
  | setLna (on : Bool)
  /-- Set the output gain. -/
  | setGain (gain : UInt8)
  /-- Select an antenna. -/
  | setAntenna (index : UInt8)
  deriving DecidableEq

/-- The front end after an access. -/
def FrontEndAccess.apply : FrontEndAccess → FrontEnd → FrontEnd
  | .prepare => FrontEnd.prepare
  | .setPa on => FrontEnd.setPa on
  | .setLna on => FrontEnd.setLna on
  | .setGain gain => FrontEnd.setGain gain
  | .setAntenna index => FrontEnd.setAntenna index

/-- One setting of what surrounds the radio. -/
inductive AirSetting
  /-- The response once the script is used up. -/
  | fallback (response : AirResponse)
  /-- Signal strength without a frame. -/
  | ambientRssi (rssi : UInt8)
  /-- Looks that the radio takes to switch off. -/
  | disableLatency (reads : Nat)
  /-- The receiver never comes up. -/
  | unresponsive (on : Bool)
  deriving DecidableEq

/-- The surroundings with another setting. -/
def AirSetting.apply (air : Air) : AirSetting → Air
  | .fallback response => { air with fallback := response }
  | .ambientRssi rssi => { air with ambientRssi := rssi }
  | .disableLatency reads => { air with disableLatency := reads }
  | .unresponsive on => { air with unresponsive := on }

namespace Station

/-- Changes a setting of the surroundings. -/
def setAir (setting : AirSetting) : Station → Station :=
  onRadio fun r => { r with air := setting.apply r.air }

/-- Queues responses as far as there is room. -/
def schedule (responses : List AirResponse) (s : Station) : Station × Option Overflow :=
  let (air, fits) := s.radio.air.schedule responses
  (s.onRadio fun r => { r with air := air }, if fits then none else some .responses)

/-- A number of steps of the radio without the interrupt handler: after each one, whether the
interrupt is pending. -/
def serviceTimes : Nat → Station → Station × Except Overflow (List Bool)
  | 0, s => (s, .ok [])
  | n + 1, s =>
    let s := s.serviceRadio
    if s.overflowed then (s, .error .transmissions)
    else
      let (s', later) := serviceTimes n s
      (s', later.map fun flags => s.radio.interruptPending :: flags)

/-- A number of looks at the state of the radio: after each one, whether it is off. -/
def pollDisabledTimes : Nat → Station → Station × List Bool
  | 0, s => (s, [])
  | n + 1, s =>
    let (radio, off) := s.radio.pollDisabled
    let (s, later) := pollDisabledTimes n { s with radio := radio }
    (s, off :: later)

/-- Puts up a scanner; it is the current one from now on. -/
def putUpScanner (scanner : Scanner) (s : Station) : Station :=
  { s with scanners := (s.scanners.add scanner).1 }

/-- The current scanner. Before the first one is put up there is one that hears nothing. -/
def currentScanner (s : Station) : Station × Handle Scanner :=
  match s.scanners.last? with
  | some scanner => (s, scanner)
  | none =>
    let (scanners, scanner) := s.scanners.add {}
    ({ s with scanners := scanners }, scanner)

end Station

end BurstLink
