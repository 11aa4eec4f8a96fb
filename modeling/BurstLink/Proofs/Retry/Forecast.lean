import BurstLink.Link.Exchange

/-! # Forecast of a send

How a send with nobody else around will end can be told from the configuration, the random words
and the responses to come: no radio, interrupt or timer is needed.

Main definitions:

* **`Air.response`** — the responses to come: the script, then the fallback forever.
* **`AirResponse.Decides`** — after such a response there is no further attempt.
* **`Air.decisive?`** — the first attempt, if any, that gets such a response.
* **`Station.forecast`** — how a send will end, and what it will leave behind.
* **`Station.rssiForecast`** — the signal strength that it will leave in the register. -/

namespace BurstLink

/-! ## Losses -/

/-- The next loss of the given percentage happens: the percentage is not zero, and the next word is
below it modulo 100. -/
def Draws.loss (percent : UInt8) (d : Draws) : Bool :=
  decide (percent ≠ 0 ∧ d.word.1 % 100 < percent.toUInt32)

/-- The words left after that: one less, unless the percentage is zero. -/
def Draws.afterLoss (percent : UInt8) (d : Draws) : Draws := if percent = 0 then d else d.word.2

/-- A draw for a loss gives its result, and the source after it. -/
theorem Draws.loses_eq (percent : UInt8) (d : Draws) :
    d.loses percent = (d.loss percent, d.afterLoss percent) := by
  unfold loses loss afterLoss
  split <;> rename_i h <;> simp [h]

/-! ## Responses to come -/

/-- The response to the transmission with a number, counted from 0: first the script, then the
fallback forever. -/
def Air.response (air : Air) (i : Nat) : AirResponse := air.script.getD i air.fallback

/-- The response counts as the acknowledgement of a packet with the given identifier. -/
def AirResponse.acceptedFor (c : LinkConfig) (pid : Pid) : AirResponse → Bool
  | .ack .. => true
  | .staleAck bits => !c.ackPidCheck || decide (Pid.ofBits bits = pid)
  | .corruptAck => false
  | .silence => false
  | .wedged => false

/-- After this response there is no further attempt: the radio hangs, no acknowledgement is asked
for, or this is one. -/
def AirResponse.Decides (c : LinkConfig) (pid : Pid) (response : AirResponse) : Prop :=
  response = .wedged ∨ c.ackEnabled = false ∨ response.acceptedFor c pid = true

instance (c : LinkConfig) (pid : Pid) : DecidablePred (AirResponse.Decides c pid) := fun _ => by
  unfold AirResponse.Decides
  infer_instance

/-- The first attempt whose response decides the send, if one of the attempts gets such a
response. -/
def Air.decisive? (c : LinkConfig) (pid : Pid) (air : Air) : Option Nat :=
  (List.range c.attempts).find? fun i => (air.response i).Decides c pid

/-- What the link hears of a response to a packet with the given identifier. -/
def AirResponse.heard (c : LinkConfig) (pid : Pid) (response : AirResponse) : Option Answer :=
  if c.ackEnabled then response.answer pid else none

/-- What the acknowledgement buffer holds after some attempts: each one clears it and, if something
is heard, overwrites it. -/
def Air.ackAfter (c : LinkConfig) (pid : Pid) (air : Air) (ack : Packet) : Nat → Packet
  | 0 => ack
  | i + 1 =>
    match (air.response i).heard c pid with
    | some answer => answer.packet
    | none => (air.ackAfter c pid ack i).clear

/-- The signal strength in the register after some attempts: that of the answer heard last. -/
def Air.rssiAfter (c : LinkConfig) (pid : Pid) (air : Air) (rssi : UInt8) : Nat → UInt8
  | 0 => rssi
  | i + 1 =>
    match (air.response i).heard c pid with
    | some answer => answer.rssi
    | none => air.rssiAfter c pid rssi i

/-- The signal strength in the register once a radio that hangs was brought to rest. It is lost if
the radio was too slow and had to be power cycled. -/
def Air.rssiIdled (air : Air) (rssi : UInt8) : UInt8 :=
  if air.disableLatency ≤ disableMaxPolls then rssi else 0

/-- The surroundings after a number of responses were used up and a frame was put on air a number of
times. -/
def Air.afterSending (responses frames : Nat) (frame : Frame) (air : Air) : Air :=
  { air with
    script := air.script.drop responses
    history := air.history ++ List.replicate frames frame }

/-! ## The forecast -/

/-- How a send ends, and what it leaves behind. -/
structure Forecast where
  /-- How it ends. -/
  result : Except Failure Outcome
  /-- The link afterwards. -/
  link : Link
  /-- The surroundings of the radio afterwards. -/
  air : Air
  /-- What the packet buffer holds afterwards. -/
  packet : Packet
  /-- What the acknowledgement buffer holds afterwards. -/
  ack : Packet

/-- How a send of a packet with the next identifier will end once the loss simulation has spared
it, if the words left are `draws`. -/
def Station.forecastOnAir (packet ack : Packet) (draws : Draws) (s : Station) : Forecast :=
  let c := s.link.config
  let pid := s.link.pid
  let air := s.radio.air
  let link := { s.link with pid := pid.next, draws := draws }
  let stamped := packet.setPid pid
  let frame : Frame := ⟨c.channel, stamped⟩
  match air.decisive? c pid with
  | none =>
    { result := .ok ⟨false, air.rssiAfter c pid s.radio.rssi c.attempts, c.attempts - 1⟩
      link := link
      air := air.afterSending c.attempts c.attempts frame
      packet := stamped
      ack := air.ackAfter c pid ack c.attempts }
  | some k =>
    if air.response k = .wedged then
      { result := .error .hardwareStuck
        link := link
        air := air.afterSending (k + 1) k frame
        packet := stamped
        ack := (air.ackAfter c pid ack k).clear }
    else
      { result := .ok ⟨!(c.ackEnabled && draws.loss c.ackLossPercent),
          air.rssiAfter c pid s.radio.rssi (k + 1), k⟩
        link := if c.ackEnabled then
            { link with draws := draws.afterLoss c.ackLossPercent } else link
        air := air.afterSending (k + 1) (k + 1) frame
        packet := stamped
        ack := air.ackAfter c pid ack (k + 1) }

/-- The loss simulation drops the next packet. -/
def Station.losesPacket (s : Station) : Bool := s.link.draws.loss s.link.config.packetLossPercent

/-- How a send of a packet will end, and what it will leave behind. -/
def Station.forecast (packet ack : Packet) (s : Station) : Forecast :=
  let draws := s.link.draws.afterLoss s.link.config.packetLossPercent
  if s.losesPacket then
    { result := .ok .lost
      link := { s.link with draws := draws }
      air := s.radio.air
      packet := packet
      ack := ack }
  else s.forecastOnAir packet ack draws

/-- The signal strength that a send will leave in the register, once the loss simulation has spared
its packet. -/
def Station.rssiOnAir (s : Station) : UInt8 :=
  let c := s.link.config
  let pid := s.link.pid
  let air := s.radio.air
  match air.decisive? c pid with
  | none => air.rssiAfter c pid s.radio.rssi c.attempts
  | some k =>
    if air.response k = .wedged then air.rssiIdled (air.rssiAfter c pid s.radio.rssi k)
    else air.rssiAfter c pid s.radio.rssi (k + 1)

/-- The signal strength that a send will leave in the register. -/
def Station.rssiForecast (s : Station) : UInt8 :=
  if s.losesPacket then s.radio.rssi else s.rssiOnAir

end BurstLink
