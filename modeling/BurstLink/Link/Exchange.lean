import BurstLink.Link.Setup

/-! # Sending

A send stamps its packet, puts it on air, and repeats it until an acknowledgement is accepted or
the attempts are used up. Each attempt is one exchange: the packet and, if acknowledgements are on,
the wait for one. Between two looks at it a send is a **`Flight`**.

Main definitions:

* **`Outcome`** — how a send ended.
* **`Station.launch`** — what happens before the first exchange: the link is ready, the length is
  right, the loss simulation spares the packet, and the packet gets its identifier.
* **`Station.checkFlight`** — one look at a flight: the exchange is complete, stuck, or still going.

A send that is given up at any look is brought to rest by `Station.forceIdle` with the
configuration it started with. -/

namespace BurstLink

/-- How a send ended. -/
structure Outcome where
  /-- An acknowledgement was accepted, or none is asked for. -/
  acked : Bool
  /-- Signal strength at the last address match, in -dBm. -/
  rssi : UInt8
  /-- Retransmissions after the first attempt. -/
  retries : Nat
  deriving DecidableEq

/-- The outcome of a packet that was never sent. -/
def Outcome.lost : Outcome := ⟨false, 0, 0⟩

/-- A send between two looks. -/
structure Flight where
  /-- The packet being sent. -/
  packet : Buffer
  /-- Where the acknowledgement goes. -/
  ack : Buffer
  /-- The identifier stamped on the packet. -/
  pid : Pid
  /-- The configuration when the send started. -/
  config : LinkConfig
  /-- Retransmissions so far. -/
  retries : Nat
  /-- The exchange in progress counts as stuck from this time on. -/
  deadline : Nat
  deriving DecidableEq

/-- How the start of a send turns out. -/
inductive Launch
  /-- The send is refused. -/
  | refused (failure : Failure)
  /-- The loss simulation dropped the packet. -/
  | lost
  /-- The first exchange is in progress. -/
  | flying (flight : Flight)

/-- What a look at a flight finds. -/
abbrev FlightLook := Look Flight (Except Failure Outcome)

namespace Station

/-! ## One exchange -/

/-- The link protocol owns the radio and no carrier is on air. -/
def ready (s : Station) : Except Failure Unit :=
  if !s.link.initialized then .error .notInitialized
  else if s.link.carrier then .error .notAvailable
  else .ok ()

/-- Starts one exchange: clears the acknowledgement, arms the interrupt, the shortcuts and the
routes, and ramps up the transmitter. -/
def startExchange (packet ack : Buffer) (ackRequired : Bool) (s : Station) : Station :=
  (s.onBuffer ack Packet.clear).onTransfer (fun _ =>
    { state := .txInFlight, ackRequired := ackRequired, ack := some ack })
  |>.setCompleted false
  |>.onRadio (fun r =>
    ((r.clearEvent .disabled).clearEvent .frameEnd).setInterrupt true
      |>.enableShorts (if ackRequired then .txThenRx else .txOnce)
      |>.setRoute .endToCapture true
      |>.setRoute .addressToCapture true
      |>.setBuffer (some packet))
  |>.setPa true
  |>.onRadio (Radio.trigger .txEnable)

/-- Takes notice of a completed exchange. -/
def finishExchange (s : Station) : Station :=
  (s.setCompleted false).onRadio fun r => (r.setInterrupt false).disableShorts .txThenRx

/-- What was received counts as the acknowledgement of the flight. -/
def accepts (f : Flight) (s : Station) : Bool :=
  !s.transfer.timeout && s.radio.crcOk &&
    (!f.config.ackPidCheck || decide ((s.buffers.get f.ack).pid = f.pid))

/-! ## A whole send -/

/-- Starts the exchange of a flight; it counts as stuck after the timeout. -/
def fly (f : Flight) (s : Station) : Station × Flight :=
  (s.startExchange f.packet f.ack f.config.ackEnabled,
    { f with deadline := s.clock + exchangeTimeout })

/-- Stamps the packet, moves the link on to the next identifier, and starts the first exchange. -/
def takeOff (packet ack : Buffer) (s : Station) : Station × Flight :=
  let f : Flight :=
    { packet := packet, ack := ack, pid := s.link.pid, config := s.link.config, retries := 0
      deadline := 0 }
  (s.onBuffer packet (Packet.setPid f.pid)).onLink (fun link => { link with pid := link.pid.next })
    |>.fly f

/-- Starts a send, unless it is refused or the packet gets lost. -/
def launch (packet ack : Buffer) (s : Station) : Station × Launch :=
  match s.ready with
  | .error failure => (s, .refused failure)
  | .ok () =>
    let length := (s.buffers.get packet).length.toNat
    if maxPayload < length then (s, .refused (.badRequest (.payloadTooLong length)))
    else
      match s.drawLoss s.link.config.packetLossPercent with
      | (true, s) => (s.note .packetLost, .lost)
      | (false, s) =>
        let (s, f) := s.takeOff packet ack
        (s, .flying f)

/-- Ends a send. An accepted acknowledgement may still fall to the loss simulation. -/
def land (f : Flight) (acked : Bool) (s : Station) : Station × Except Failure Outcome :=
  let outcome : Outcome := ⟨acked, s.radio.rssi, f.retries⟩
  if acked && f.config.ackEnabled then
    match s.drawLoss s.link.config.ackLossPercent with
    | (true, s) => (s.note .ackLost, .ok { outcome with acked := false })
    | (false, s) => (s, .ok outcome)
  else (s, .ok outcome)

/-- Looks at a flight. -/
def checkFlight (f : Flight) (s : Station) : Station × FlightLook :=
  if s.completed then
    let s := s.finishExchange
    if !f.config.ackEnabled || s.accepts f then
      let (s, result) := s.land f true
      (s, .finished result)
    else if f.retries + 1 < f.config.attempts then
      let f := { f with retries := f.retries + 1 }
      let (s, f) := (s.note (.retry f.retries f.pid)).fly f
      (s, .waiting f)
    else
      let (s, result) := s.land f false
      (s, .finished result)
  else if f.deadline ≤ s.clock then
    ((s.note .exchangeStuck).forceIdle f.config, .finished (.error .hardwareStuck))
  else (s, .waiting f)

end Station

end BurstLink
