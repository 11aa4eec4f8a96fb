import BurstLink.Radio.Air
import BurstLink.Radio.Basic

/-! # State of the radio

The state has two parts. The registers and everything else that a power-off wipes form one record,
whose defaults are the values after power-on. The rest survives: the timer, the routes, the number
of power-ups, and the surroundings.

Main definitions:

* **`Registers`** — what a power-off wipes.
* **`Radio`** — the whole radio, with one function per register access.

A task, an event or a register access takes no time; time passes in `Radio.step` only. -/

namespace BurstLink

/-- What a power-off wipes. -/
structure Registers where
  /-- The radio has power. -/
  powered : Bool := false
  /-- The packet format is set. -/
  packetConfigured : Bool := false
  /-- Channel. -/
  channel : UInt8 := 2
  /-- Data rate. -/
  bitrate : Bitrate := .mbps1
  /-- Transmission power. -/
  txPower : TxPower := .zeroDbm
  /-- Base register of the address. -/
  base0 : UInt32 := 0
  /-- Prefix register of the addresses. -/
  prefix0 : UInt32 := 0
  /-- The packet that the radio reads from or writes to. -/
  buffer : Option Buffer := none
  /-- Active shortcuts. -/
  shorts : Shorts := .none
  /-- The interrupt on switching off is enabled. -/
  interruptEnabled : Bool := false
  /-- Raised events. -/
  events : EventFlags := {}
  /-- The checksum of the last frame received was right. -/
  crcOk : Bool := false
  /-- The last signal strength sampled, in -dBm. -/
  rssi : UInt8 := 0
  /-- A sample of the ambient signal strength is asked for. -/
  rssiRequested : Bool := false
  /-- Timer count at the end of the last frame. -/
  endCapture : UInt32 := 0
  /-- The compare channel of the timer. -/
  compare : UInt32 := 0
  /-- The timer reached the compare channel. -/
  compareFired : Bool := false
  /-- The deadline that was armed last. -/
  armedDeadline : Option UInt32 := none
  /-- What the radio is doing. -/
  phase : Phase := .disabled
  /-- How the transmission in progress will be answered. -/
  pending : Option AirResponse := none
  deriving DecidableEq

/-- The radio with its timer and routes, and what surrounds it. -/
structure Radio extends Registers where
  /-- Times the radio was powered on. -/
  powerUps : Nat := 0
  /-- The timer counts. -/
  timerRunning : Bool := false
  /-- Timer count. -/
  now : UInt32 := 0
  /-- Connected routes. -/
  routes : RouteFlags := {}
  /-- The surroundings. -/
  air : Air := {}
  deriving DecidableEq

namespace Radio

instance : Inhabited Radio := ⟨{}⟩

/-! ## Registers -/

/-- Switches the power. Off wipes the registers; on counts a power-up unless it is on already. -/
def setPower (on : Bool) (r : Radio) : Radio :=
  if on then
    { r with powered := true, powerUps := if r.powered then r.powerUps else r.powerUps + 1 }
  else { r with toRegisters := {} }

/-- Sets the packet format. -/
def configurePacket (r : Radio) : Radio := { r with packetConfigured := true }

/-- Tunes to a channel. -/
def setChannel (channel : UInt8) (r : Radio) : Radio := { r with channel := channel }

/-- Sets the data rate. -/
def setBitrate (bitrate : Bitrate) (r : Radio) : Radio := { r with bitrate := bitrate }

/-- Sets the transmission power. -/
def setTxPower (power : TxPower) (r : Radio) : Radio := { r with txPower := power }

/-- Writes the base register. -/
def setBase0 (value : UInt32) (r : Radio) : Radio := { r with base0 := value }

/-- Writes the prefix register. -/
def setPrefix0 (value : UInt32) (r : Radio) : Radio := { r with prefix0 := value }

/-- Points the radio at a packet, or at none. -/
def setBuffer (buffer : Option Buffer) (r : Radio) : Radio := { r with buffer := buffer }

/-- Replaces the shortcuts. -/
def setShorts (shorts : Shorts) (r : Radio) : Radio := { r with shorts := shorts }

/-- Adds shortcuts. -/
def enableShorts (shorts : Shorts) (r : Radio) : Radio := r.setShorts (r.shorts.union shorts)

/-- Takes shortcuts away. -/
def disableShorts (shorts : Shorts) (r : Radio) : Radio := r.setShorts (r.shorts.difference shorts)

/-- Enables or disables the interrupt on switching off. -/
def setInterrupt (on : Bool) (r : Radio) : Radio := { r with interruptEnabled := on }

/-- Raises an event. -/
def raise (event : RadioEvent) (r : Radio) : Radio := { r with events := r.events.set event true }

/-- Clears an event. -/
def clearEvent (event : RadioEvent) (r : Radio) : Radio :=
  { r with events := r.events.set event false }

/-- The interrupt is enabled and its event is raised. -/
def interruptPending (r : Radio) : Bool := r.interruptEnabled && r.events.disabled

/-- The address in the address registers. -/
def address (r : Radio) : Address := .ofRegisters r.base0 r.prefix0

/-- Number of packets put on air. -/
def transmissions (r : Radio) : Nat := r.air.history.length

/-! ## Timer and routes -/

/-- Clears and starts the timer. -/
def startTimer (r : Radio) : Radio := { r with timerRunning := true, now := 0 }

/-- Stops the timer. -/
def stopTimer (r : Radio) : Radio := { r with timerRunning := false }

/-- Arms the timeout at a deadline. -/
def armTimeout (deadline : UInt32) (r : Radio) : Radio :=
  { r with compare := deadline, armedDeadline := some deadline, compareFired := false }

/-- Forgets that the timeout fired. -/
def clearTimeout (r : Radio) : Radio := { r with compareFired := false }

/-- Connects or disconnects a route. -/
def setRoute (route : Route) (connected : Bool) (r : Radio) : Radio :=
  { r with routes := r.routes.set route connected }

/-- Disconnects every route. -/
def clearRoutes (r : Radio) : Radio :=
  Route.all.foldl (fun r route => r.setRoute route false) r

/-! ## Switching off -/

/-- Off at once; raises the event unless the radio is off already. -/
def switchOff (r : Radio) : Radio :=
  if r.phase = .disabled then r
  else { r with phase := .disabled, pending := none }.raise .disabled

/-- Told to switch off: at once without a latency, otherwise after that many looks. -/
def requestDisable (r : Radio) : Radio :=
  match r.phase with
  | .disabled => r
  | .disabling _ => r
  | _ =>
    if r.air.disableLatency = 0 then r.switchOff
    else { r with pending := none, phase := .disabling r.air.disableLatency }

/-- One look brings a radio that is switching off one look closer to being off. -/
def settle (r : Radio) : Radio :=
  match r.phase with
  | .disabling reads =>
    if reads ≤ 1 then r.switchOff else { r with phase := .disabling (reads - 1) }
  | _ => r

/-- Looks whether the radio is off; the look itself counts. -/
def pollDisabled (r : Radio) : Radio × Bool :=
  let r := r.settle
  (r, r.phase = .disabled)

/-- Looks up to `n` times until the radio is off, and says whether it is. -/
def pollDisabledUpTo : Nat → Radio → Radio × Bool
  | 0, r => (r, false)
  | n + 1, r =>
    match r.pollDisabled with
    | (r, true) => (r, true)
    | (r, false) => pollDisabledUpTo n r

/-! ## Tasks -/

/-- Ramps up the transmitter. With the start shortcut a transmission begins, and the next response
decides how it will go; without it the carrier stays on air. -/
def enableTx (r : Radio) : Radio :=
  if r.shorts.contains .readyStart then
    let (response, air) := r.air.nextResponse
    if response = .wedged then { r with air := air, phase := .wedged }.clearEvent .ready
    else { r with air := air, phase := .tx, pending := some response }.raise .ready
  else { r with phase := .txIdle }.raise .ready

/-- Gives the radio a task; without power it does nothing. -/
def trigger (task : RadioTask) (r : Radio) : Radio :=
  if r.powered then
    match task with
    | .txEnable => r.enableTx
    | .rxEnable => { r with phase := .rxRampUp }
    | .start =>
      match r.phase with
      | .txIdle => { r with phase := .tx }
      | .rxIdle => { r with phase := .rx }
      | _ => r
    | .disable => r.requestDisable
    | .rssiStart => { r with rssiRequested := true }
    | .rssiStop => { r with rssiRequested := false }
  else r

end Radio

end BurstLink
