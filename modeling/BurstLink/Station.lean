import BurstLink.Draws
import BurstLink.FrontEnd
import BurstLink.Look
import BurstLink.Notice
import BurstLink.Radio.Step

/-! # The station

A station is one radio with its front end, the link that uses them, and everything that operations
share: the packet buffers, the presence scanners, the lock under which one operation at a time
uses the radio, the transfer that the interrupt handler advances, the clock, and the log.

Main definitions:

* **`Link`** — configuration and state of the link protocol.
* **`Transfer`** — the exchange in progress, as the interrupt handler sees it.
* **`Station`** — all of it, with the small changes that every operation is made of. -/

namespace BurstLink

/-- State of the link protocol. -/
structure Link where
  /-- The configuration in use, or to be used once the link is up. -/
  config : LinkConfig := .standard
  /-- The identifier of the next send. -/
  pid : Pid := .zero
  /-- The link protocol owns the radio. -/
  initialized : Bool := false
  /-- An unmodulated carrier is on air. -/
  carrier : Bool := false
  /-- Random words of the loss simulation. -/
  draws : Draws := .zeros
  deriving DecidableEq

/-- How far an exchange has come. -/
inductive TransferState
  /-- No exchange, or it is complete. -/
  | idle
  /-- The packet is on air. -/
  | txInFlight
  /-- The radio listens for the acknowledgement. -/
  | awaitingAck
  deriving DecidableEq

/-- What the interrupt handler knows of the exchange in progress. -/
structure Transfer where
  /-- How far it has come. -/
  state : TransferState := .idle
  /-- An acknowledgement is to be received. -/
  ackRequired : Bool := false
  /-- The acknowledgement timeout fired. -/
  timeout : Bool := false
  /-- Where the acknowledgement goes. -/
  ack : Option Buffer := none
  deriving DecidableEq

/-- A radio, its front end, and what uses them. -/
structure Station where
  /-- The radio. -/
  radio : Radio := {}
  /-- The front-end module, if there is one. -/
  frontEnd : Option FrontEnd := none
  /-- The link protocol. -/
  link : Link := {}
  /-- An operation holds the radio. -/
  locked : Bool := false
  /-- What the radio is used for. -/
  mode : Mode := .disabled
  /-- The exchange in progress. -/
  transfer : Transfer := {}
  /-- The interrupt handler has completed the exchange, and nobody took notice yet. -/
  completed : Bool := false
  /-- Packets that the radio and the operations share. -/
  buffers : Pool Packet := .empty
  /-- Presence scanners; the one added last is the current one. -/
  scanners : Pool Scanner := .empty
  /-- Microseconds since the start. A natural number stands for the 64 bits of a real clock, which
  last for half a million years. -/
  clock : Nat := 0
  /-- What was told to the log, latest first. -/
  journal : List Notice := []

namespace Station

instance : Inhabited Station := ⟨{}⟩

/-- A station with a front-end module at start-up, its losses drawn from `draws`. -/
def withFrontEnd (draws : Draws) : Station := { frontEnd := some {}, link := { draws := draws } }

/-- A station without a front-end module at start-up. -/
def withoutFrontEnd (draws : Draws) : Station := { link := { draws := draws } }

/-! ## Small changes -/

/-- Tells the log. -/
def note (notice : Notice) (s : Station) : Station := { s with journal := notice :: s.journal }

/-- Changes the radio. -/
def onRadio (f : Radio → Radio) (s : Station) : Station := { s with radio := f s.radio }

/-- Changes the front end, if there is one. -/
def onFrontEnd (f : FrontEnd → FrontEnd) (s : Station) : Station :=
  { s with frontEnd := s.frontEnd.map f }

/-- Switches the power amplifier. -/
def setPa (on : Bool) (s : Station) : Station := s.onFrontEnd (FrontEnd.setPa on)

/-- Switches the low-noise amplifier. -/
def setLna (on : Bool) (s : Station) : Station := s.onFrontEnd (FrontEnd.setLna on)

/-- The power amplifier is on. -/
def paOn (s : Station) : Bool := s.frontEnd.any FrontEnd.pa

/-- The low-noise amplifier is on. -/
def lnaOn (s : Station) : Bool := s.frontEnd.any FrontEnd.lna

/-- Changes the link. -/
def onLink (f : Link → Link) (s : Station) : Station := { s with link := f s.link }

/-- Changes the packet in a buffer. -/
def onBuffer (b : Buffer) (f : Packet → Packet) (s : Station) : Station :=
  { s with buffers := s.buffers.modify b f }

/-- Changes a scanner. -/
def onScanner (sc : Handle Scanner) (f : Scanner → Scanner) (s : Station) : Station :=
  { s with scanners := s.scanners.modify sc f }

/-- Changes what the interrupt handler knows of the exchange in progress. -/
def onTransfer (f : Transfer → Transfer) (s : Station) : Station :=
  { s with transfer := f s.transfer }

/-- Sets or takes back the sign that the exchange is complete. -/
def setCompleted (completed : Bool) (s : Station) : Station := { s with completed := completed }

/-- Forgets the exchange and its completion. -/
def resetTransfer (s : Station) : Station := (s.onTransfer fun _ => {}).setCompleted false

/-- Gives the lock to an operation or takes it back. -/
def setLocked (locked : Bool) (s : Station) : Station := { s with locked := locked }

/-- Draws whether a loss of the given percentage happens. -/
def drawLoss (percent : UInt8) (s : Station) : Bool × Station :=
  let (lost, draws) := s.link.draws.loses percent
  (lost, s.onLink fun link => { link with draws := draws })

/-- Queues a report for a scanner, or tells the log that it is lost. -/
def report (sc : Handle Scanner) (report : PresenceReport) (s : Station) : Station :=
  if (s.scanners.get sc).isFull then s.note (.reportLost report)
  else s.onScanner sc (Scanner.report report)

/-- The radio points at no packet any more, unless an exchange is in progress. No operation does
this: it is the bench that takes the buffers of an operation back when that is over, so that the
radio keeps no pointer to them. The station's own code takes the pointer back only with the power.
-/
def releaseBuffers (s : Station) : Station :=
  if s.transfer.state = .idle then s.onRadio (Radio.setBuffer none) else s

/-! ## The radio in time -/

/-- The packet in the buffer that the radio points at. -/
def loaded (s : Station) : Option Packet := s.radio.buffer.map s.buffers.get

/-- Stores a frame into the buffer that the radio points at. -/
def store (frame : Option Packet) (s : Station) : Station :=
  match frame, s.radio.buffer with
  | some p, some b => { s with buffers := s.buffers.set b p }
  | _, _ => s

/-- One step of the radio. -/
def serviceRadio (s : Station) : Station :=
  let (radio, frame) := s.radio.service s.loaded
  { s with radio := radio }.store frame

/-- The transmission history did not hold everything sent. -/
def overflowed (s : Station) : Bool := s.radio.air.historyFull

end Station

end BurstLink
