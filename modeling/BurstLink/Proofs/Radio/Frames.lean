import BurstLink.Radio.Step

/-! # Frames, step by step

What a step does to a radio whose shortcuts make it switch off at the end of a frame: one record
update for each kind of step. Nothing but the fields that are written there changes.

Main statements: `Radio.transmit_some` for the packet, `Radio.receive_eq` for the frame that answers
it, `Radio.ackTimeout_eq` for its absence, and `Radio.rampUp_eq` for the receiver coming up. -/

namespace BurstLink

namespace Shorts

/-- The shortcuts of an exchange: those of the link, and those that start and end the packet. -/
def exchange (ack : Bool) : Shorts := rssi.union (if ack then txThenRx else txOnce)

/-- The shortcuts while an acknowledgement is received, and after an exchange. -/
def closing : Shorts := rssi.union txOnce

/-- The shortcuts of an exchange start the packet as soon as the transmitter is up. -/
@[simp] theorem readyStart_exchange (ack : Bool) : (exchange ack).contains readyStart = true := by
  cases ack <;> decide

/-- They switch the radio off at the end of it. -/
@[simp] theorem endDisable_exchange (ack : Bool) : (exchange ack).contains endDisable = true := by
  cases ack <;> decide

/-- They chain into the receiver if an acknowledgement is asked for. -/
@[simp] theorem disabledRxEnable_exchange (ack : Bool) :
    (exchange ack).contains disabledRxEnable = ack := by
  cases ack <;> decide

/-- The closing shortcuts start the reception as soon as the receiver is up. -/
@[simp] theorem readyStart_closing : closing.contains readyStart = true := by decide

/-- They switch the radio off at the end of it. -/
@[simp] theorem endDisable_closing : closing.contains endDisable = true := by decide

/-- They chain into nothing. -/
@[simp] theorem disabledRxEnable_closing : closing.contains disabledRxEnable = false := by decide

/-- Without the shortcut that chains into the receiver, the exchange closes. -/
@[simp] theorem exchange_difference_disabledRxEnable (ack : Bool) :
    (exchange ack).difference disabledRxEnable = closing := by
  cases ack <;> decide

/-- Without the shortcuts of the exchange, those of the link remain. -/
@[simp] theorem exchange_difference_txThenRx (ack : Bool) :
    (exchange ack).difference txThenRx = rssi := by
  cases ack <;> decide

/-- The same holds while an acknowledgement is received. -/
@[simp] theorem closing_difference_txThenRx : closing.difference txThenRx = rssi := by decide

/-- Without an acknowledgement, the exchange has the closing shortcuts from the start. -/
theorem exchange_false : exchange false = closing := rfl

/-- It does not matter in which order shortcuts are taken away. -/
theorem difference_right_comm (a b c : Shorts) :
    (a.difference b).difference c = (a.difference c).difference b := by
  unfold difference
  rw [UInt32.and_assoc, UInt32.and_comm (~~~b.bits), ← UInt32.and_assoc]

/-- The power measurement mode starts the receiver without further ado. -/
@[simp] theorem readyStart_txOnce : txOnce.contains readyStart = true := by decide

end Shorts

namespace Radio

variable {r : Radio}

/-! ## Frames -/

/-- Timer count when the address of the packet goes by. -/
def addressTime (r : Radio) : UInt32 := r.now + airtimeBase

/-- Timer count at the end of a packet. -/
def packetEnd (r : Radio) (p : Packet) : UInt32 := r.now + airtimeBase + dataTicks p

/-- Timer count when the address of an answer goes by. -/
def answerTime (r : Radio) : UInt32 := r.now + turnaroundTicks

/-- Timer count at the end of an answer. -/
def answerEnd (r : Radio) (p : Packet) : UInt32 :=
  r.now + turnaroundTicks + (airtimeBase + dataTicks p)

/-- The packet goes out, and the radio is off or chains into the receiver. -/
theorem transmit_some (ends : r.shorts.contains .endDisable = true) (p : Packet) :
    r.transmit (some p) = { r with
      air := r.air.record ⟨r.channel, p⟩
      now := r.packetEnd p
      compare := if r.routes.addressToCapture then r.addressTime else r.compare
      endCapture := if r.routes.endToCapture then r.packetEnd p else r.endCapture
      events := { r.events with address := true, frameEnd := true, disabled := true }
      phase := if r.shorts.contains .disabledRxEnable then .rxRampUp else .disabled } := by
  unfold transmit endFrame
  exact if_pos ends

/-- A frame comes in, and the radio is off or chains into the receiver. -/
theorem receive_eq (ends : r.shorts.contains .endDisable = true) (answer : Answer) :
    r.receive answer = { r with
      now := r.answerEnd answer.packet
      compare := if r.routes.addressToCapture then r.answerTime else r.compare
      endCapture := if r.routes.endToCapture then r.answerEnd answer.packet else r.endCapture
      rssi := answer.rssi
      crcOk := answer.crcOk
      events := { r.events with address := true, frameEnd := true, disabled := true }
      phase := if r.shorts.contains .disabledRxEnable then .rxRampUp else .disabled } := by
  unfold receive endFrame
  exact if_pos ends

/-- The timeout fires and switches the receiver off. -/
theorem ackTimeout_eq (timer : r.timerRunning = true)
    (route : r.routes.compareToDisable = true) (busy : r.phase ≠ .disabled) :
    r.ackTimeout = { r with
      now := r.compare
      compareFired := true
      crcOk := false
      phase := .disabled
      pending := none
      events := { r.events with disabled := true } } := by
  simp [ackTimeout, switchOff, raise, EventFlags.set, timer, route, busy]

/-- The receiver comes up and starts to listen, unless it does not respond. -/
theorem rampUp_eq (starts : r.shorts.contains .readyStart = true) :
    r.rampUp = if r.air.unresponsive then r
      else { r with phase := .rx, events := { r.events with ready := true } } := by
  simp [rampUp, raise, EventFlags.set, starts]

/-! ## Steps -/

/-- Without the event of a radio that is off, there is no interrupt to be handled. -/
theorem interruptPending_of_unhandled (h : r.events.disabled = false) :
    r.interruptPending = false := by
  simp [interruptPending, h]

/-- A radio that hangs stays as it is. -/
theorem service_wedged (hangs : r.phase = .wedged) (packet : Option Packet) :
    r.service packet = (r, none) := by
  simp [service, step, hangs]

/-- A radio that is off stays as it is. -/
theorem service_disabled (off : r.phase = .disabled) (packet : Option Packet) :
    r.service packet = (r, none) := by
  simp [service, step, off]

/-- A radio with the carrier on air stays as it is. -/
theorem service_txIdle (tone : r.phase = .txIdle) (packet : Option Packet) :
    r.service packet = (r, none) := by
  simp [service, step, tone]

/-- A step while the packet is on air. -/
theorem service_tx (h : r.events.disabled = false) (sending : r.phase = .tx)
    (ends : r.shorts.contains .endDisable = true) (p : Packet) :
    r.service (some p) = ({ r with
      air := r.air.record ⟨r.channel, p⟩
      now := r.packetEnd p
      compare := if r.routes.addressToCapture then r.addressTime else r.compare
      endCapture := if r.routes.endToCapture then r.packetEnd p else r.endCapture
      events := { r.events with address := true, frameEnd := true, disabled := true }
      phase := if r.shorts.contains .disabledRxEnable then .rxRampUp else .disabled }, none) := by
  rw [← transmit_some ends]
  simp [service, interruptPending_of_unhandled h, step, sending]

/-- A step while the receiver comes up. -/
theorem service_rxRampUp (h : r.events.disabled = false) (rising : r.phase = .rxRampUp)
    (starts : r.shorts.contains .readyStart = true) (responsive : r.air.unresponsive = false)
    (packet : Option Packet) :
    r.service packet =
      ({ r with phase := .rx, events := { r.events with ready := true } }, none) := by
  simp [service, interruptPending_of_unhandled h, step, rising, rampUp_eq starts, responsive]

/-- A receiver that does not respond does not come up. -/
theorem service_unresponsive (rising : r.phase = .rxRampUp)
    (deaf : r.air.unresponsive = true) (packet : Option Packet) :
    r.service packet = (r, none) := by
  simp [service, step, rising, rampUp, deaf]

variable {response : AirResponse}

/-- A step while the radio listens and nothing comes. -/
theorem service_rx_unanswered (h : r.events.disabled = false) (listening : r.phase = .rx)
    (pending : r.pending = some response) (timer : r.timerRunning = true)
    (route : r.routes.compareToDisable = true)
    (heard : response.answer r.air.lastPid = none) (packet : Option Packet) :
    r.service packet = ({ r with
      now := r.compare
      compareFired := true
      crcOk := false
      phase := .disabled
      pending := none
      events := { r.events with disabled := true } }, none) := by
  have stepped : r.step packet = (({ r with pending := none } : Radio).ackTimeout, none) := by
    simp [step, listening, pending, heard]
  rw [service, interruptPending_of_unhandled h, if_neg (by simp), stepped,
    ackTimeout_eq (r := { r with pending := none }) timer route (by simp [listening])]

/-- A step while the radio listens and an answer comes. -/
theorem service_rx_answered (h : r.events.disabled = false) (listening : r.phase = .rx)
    (pending : r.pending = some response) (ends : r.shorts.contains .endDisable = true)
    (closes : r.shorts.contains .disabledRxEnable = false) {answer : Answer}
    (heard : response.answer r.air.lastPid = some answer) (packet : Option Packet) :
    r.service packet = ({ r with
      now := r.answerEnd answer.packet
      compare := if r.routes.addressToCapture then r.answerTime else r.compare
      endCapture := if r.routes.endToCapture then r.answerEnd answer.packet else r.endCapture
      rssi := answer.rssi
      crcOk := answer.crcOk
      pending := none
      events := { r.events with address := true, frameEnd := true, disabled := true }
      phase := .disabled }, some answer.packet) := by
  have stepped : r.step packet =
      (({ r with pending := none } : Radio).receive answer, some answer.packet) := by
    simp [step, listening, pending, heard]
  rw [service, interruptPending_of_unhandled h, if_neg (by simp), stepped,
    receive_eq (r := { r with pending := none }) ends answer]
  simp only [closes, Bool.false_eq_true, if_false]
  rfl

/-! ## Starting a transmission -/

/-- The transmitter comes up and the packet goes on air, or the radio hangs. -/
theorem enableTx_eq (starts : r.shorts.contains .readyStart = true) :
    r.enableTx =
      if r.air.nextResponse.1 = .wedged then { r with
        air := r.air.nextResponse.2
        phase := .wedged
        events := { r.events with ready := false } }
      else { r with
        air := r.air.nextResponse.2
        phase := .tx
        pending := some r.air.nextResponse.1
        events := { r.events with ready := true } } := by
  unfold enableTx
  rw [if_pos starts]
  rfl

/-- Told to transmit, a powered radio does so. -/
theorem trigger_txEnable (powered : r.powered = true) : r.trigger .txEnable = r.enableTx := by
  simp [trigger, powered]

end Radio

end BurstLink
