import BurstLink.Radio.State

/-! # The radio in time

One step of the radio: a transmission runs to its end, an acknowledgement arrives or the timeout
fires, the receiver comes up, a sample is taken, or a radio that is switching off comes closer to
being off. A step neither reads nor writes packet buffers itself: it is given the packet in the
buffer the radio points at, and hands back the frame to be written there.

Main definitions:

* **`Radio.step`** — one step.
* **`Radio.service`** — one step, unless an interrupt waits to be handled. -/

namespace BurstLink

/-- Timer ticks of a frame without its data bytes. -/
def airtimeBase : UInt32 := 40

/-- Timer ticks of one data byte. -/
def airtimePerByte : UInt32 := 4

/-- Timer ticks from the end of a packet to the address of its acknowledgement. -/
def turnaroundTicks : UInt32 := 130

namespace Radio

/-- Timer ticks of the data bytes that the length field announces. -/
def dataTicks (p : Packet) : UInt32 := airtimePerByte * p.length.toUInt32

/-- Lets the timer count on. -/
def elapse (ticks : UInt32) (r : Radio) : Radio := { r with now := r.now + ticks }

/-- The address of a frame goes by; a connected route latches the timer. -/
def addressMatch (r : Radio) : Radio :=
  { r with compare := if r.routes.addressToCapture then r.now else r.compare }.raise .address

/-- A frame is over: the radio chains into what the shortcuts say, or stays in the phase `idle`. -/
def endFrame (idle : Phase) (r : Radio) : Radio :=
  let r :=
    { r with endCapture := if r.routes.endToCapture then r.now else r.endCapture }.raise .frameEnd
  if r.shorts.contains .endDisable then
    let next : Phase := if r.shorts.contains .disabledRxEnable then .rxRampUp else .disabled
    { r with phase := next }.raise .disabled
  else { r with phase := idle }

/-- Sends the packet, if there is one, and ends the frame. -/
def transmit (packet : Option Packet) (r : Radio) : Radio :=
  match packet with
  | none => r.endFrame .txIdle
  | some p =>
    ({ r with air := r.air.record ⟨r.channel, p⟩ }.elapse airtimeBase).addressMatch
      |>.elapse (dataTicks p) |>.endFrame .txIdle

/-- Receives a frame. -/
def receive (answer : Answer) (r : Radio) : Radio :=
  ({ (r.elapse turnaroundTicks).addressMatch with
      rssi := answer.rssi, crcOk := answer.crcOk }.elapse
    (airtimeBase + dataTicks answer.packet)).endFrame .rxIdle

/-- Nothing is heard. The timer runs up to the compare channel, which stops the radio only if the
timer counts and the route is connected; otherwise the radio goes on listening. -/
def ackTimeout (r : Radio) : Radio :=
  if r.timerRunning && r.routes.compareToDisable then
    { r with now := r.compare, compareFired := true, crcOk := false }.switchOff
  else { r with phase := .rx }

/-- Samples the ambient signal strength, if that is asked for. -/
def sampleAmbient (r : Radio) : Radio :=
  if r.rssiRequested then
    { r with rssiRequested := false, rssi := r.air.ambientRssi }.raise .rssiEnd
  else r

/-- The receiver comes up, unless it does not respond. -/
def rampUp (r : Radio) : Radio :=
  if r.air.unresponsive then r
  else
    { r with phase := if r.shorts.contains .readyStart then .rx else .rxIdle }.raise .ready

/-- One step, given the packet in the buffer; the second part is the frame received. -/
def step (packet : Option Packet) (r : Radio) : Radio × Option Packet :=
  match r.phase with
  | .disabling _ => (r.settle, none)
  | .tx => (r.transmit packet, none)
  | .rxRampUp => (r.rampUp, none)
  | .rx =>
    match r.pending with
    | none => (r.sampleAmbient, none)
    | some response =>
      match response.answer r.air.lastPid with
      | none => ({ r with pending := none }.ackTimeout, none)
      | some answer => ({ r with pending := none }.receive answer, some answer.packet)
  | .rxIdle => (r.sampleAmbient, none)
  | .disabled => (r, none)
  | .txIdle => (r, none)
  | .wedged => (r, none)

/-- One step, unless an interrupt is pending: it is handled long before the radio gets further. -/
def service (packet : Option Packet) (r : Radio) : Radio × Option Packet :=
  if r.interruptPending then (r, none) else r.step packet

/-- Nothing moves while an interrupt waits to be handled. -/
@[simp] theorem service_of_pending {r : Radio} (waiting : r.interruptPending = true)
    (packet : Option Packet) : r.service packet = (r, none) := by
  simp [service, waiting]

end Radio

end BurstLink
