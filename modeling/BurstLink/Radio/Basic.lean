import BurstLink.Config
import BurstLink.Packet
import BurstLink.Pool
import BurstLink.Radio.Shorts

/-! # What the radio is made of

The vocabulary of the radio peripheral: the tasks it is given, the events it raises, the routes
that connect it with its timer, the phases it goes through, and the sets of raised events and
connected routes.

Main definitions: **`RadioTask`**, **`RadioEvent`**, **`Route`**, **`Phase`**, **`EventFlags`**,
**`RouteFlags`**, and **`Buffer`**, a packet that the radio reads from or writes to.

Main statements: reading a set of flags after changing one of them (`get_set`). -/

namespace BurstLink

/-- A packet buffer that the radio and the link share. -/
abbrev Buffer := Handle Packet

/-- Transmission power. -/
inductive TxPower
  /-- Zero dBm. -/
  | zeroDbm
  /-- Four dBm. -/
  | pos4Dbm
  deriving DecidableEq

/-- What the radio can be told to do. -/
inductive RadioTask
  /-- Ramp up the transmitter. -/
  | txEnable
  /-- Ramp up the receiver. -/
  | rxEnable
  /-- Start the transmission or reception. -/
  | start
  /-- Switch off. -/
  | disable
  /-- Start sampling the signal strength. -/
  | rssiStart
  /-- Stop sampling the signal strength. -/
  | rssiStop
  deriving DecidableEq

/-- What the radio reports. -/
inductive RadioEvent
  /-- Ramped up. -/
  | ready
  /-- The address of a frame went by. -/
  | address
  /-- A frame is over. -/
  | frameEnd
  /-- Switched off. -/
  | disabled
  /-- The signal strength is sampled. -/
  | rssiEnd
  deriving DecidableEq

/-- The event in reports. -/
def RadioEvent.text : RadioEvent → String
  | .ready => "Ready"
  | .address => "Address"
  | .frameEnd => "End"
  | .disabled => "Disabled"
  | .rssiEnd => "RssiEnd"

/-- A connection between the radio and its timer that works without the processor. -/
inductive Route
  /-- The end of a frame latches the timer. -/
  | endToCapture
  /-- An address match latches the timer into the compare channel, which disarms the timeout. -/
  | addressToCapture
  /-- The compare channel switches the radio off: the acknowledgement timeout. -/
  | compareToDisable
  deriving DecidableEq

/-- All routes. -/
def Route.all : List Route := [.endToCapture, .addressToCapture, .compareToDisable]

/-- The fixed interconnect channel of a route. -/
def Route.channel : Route → Nat
  | .endToCapture => 27
  | .addressToCapture => 26
  | .compareToDisable => 22

/-- What the radio is doing. -/
inductive Phase
  /-- Off. -/
  | disabled
  /-- Sending a packet. -/
  | tx
  /-- Transmitter on without a packet: a carrier. -/
  | txIdle
  /-- The receiver is coming up. -/
  | rxRampUp
  /-- Receiving, waiting for a frame. -/
  | rx
  /-- Receiver on, not waiting for a frame. -/
  | rxIdle
  /-- Told to switch off; this many looks at the state before it is off. -/
  | disabling (reads : Nat)
  /-- Stopped responding. -/
  | wedged
  deriving DecidableEq

/-- The phase in reports. -/
def Phase.text : Phase → String
  | .disabled => "Disabled"
  | .tx => "Tx"
  | .txIdle => "TxIdle"
  | .rxRampUp => "RxRampUp"
  | .rx => "Rx"
  | .rxIdle => "RxIdle"
  | .disabling reads => showApplied "Disabling" [toString reads]
  | .wedged => "Wedged"

/-! ## Sets of events -/

/-- Which events are raised. -/
structure EventFlags where
  /-- Ramped up. -/
  ready : Bool := false
  /-- Address went by. -/
  address : Bool := false
  /-- Frame over. -/
  frameEnd : Bool := false
  /-- Switched off. -/
  disabled : Bool := false
  /-- Signal strength sampled. -/
  rssiEnd : Bool := false
  deriving DecidableEq

namespace EventFlags

/-- Whether an event is raised. -/
def get (flags : EventFlags) : RadioEvent → Bool
  | .ready => flags.ready
  | .address => flags.address
  | .frameEnd => flags.frameEnd
  | .disabled => flags.disabled
  | .rssiEnd => flags.rssiEnd

/-- Raises or clears one event. -/
def set (event : RadioEvent) (raised : Bool) (flags : EventFlags) : EventFlags :=
  match event with
  | .ready => { flags with ready := raised }
  | .address => { flags with address := raised }
  | .frameEnd => { flags with frameEnd := raised }
  | .disabled => { flags with disabled := raised }
  | .rssiEnd => { flags with rssiEnd := raised }

/-- The raised events after a change of one of them. -/
theorem get_set (flags : EventFlags) (event other : RadioEvent) (raised : Bool) :
    (flags.set event raised).get other = if other = event then raised else flags.get other := by
  cases event <;> cases other <;> rfl

end EventFlags

/-! ## Sets of routes -/

/-- Which routes are connected. -/
structure RouteFlags where
  /-- End of frame to capture. -/
  endToCapture : Bool := false
  /-- Address match to capture. -/
  addressToCapture : Bool := false
  /-- Compare to disable. -/
  compareToDisable : Bool := false
  deriving DecidableEq

namespace RouteFlags

/-- Whether a route is connected. -/
def get (flags : RouteFlags) : Route → Bool
  | .endToCapture => flags.endToCapture
  | .addressToCapture => flags.addressToCapture
  | .compareToDisable => flags.compareToDisable

/-- Connects or disconnects one route. -/
def set (route : Route) (connected : Bool) (flags : RouteFlags) : RouteFlags :=
  match route with
  | .endToCapture => { flags with endToCapture := connected }
  | .addressToCapture => { flags with addressToCapture := connected }
  | .compareToDisable => { flags with compareToDisable := connected }

/-- The connected routes after a change of one of them. -/
theorem get_set (flags : RouteFlags) (route other : Route) (connected : Bool) :
    (flags.set route connected).get other =
      if other = route then connected else flags.get other := by
  cases route <;> cases other <;> rfl

end RouteFlags

end BurstLink
