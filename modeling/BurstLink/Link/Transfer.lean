import BurstLink.Station

/-! # The interrupt handler

Each time the radio switches off with the interrupt enabled, the exchange in progress goes one
step further: from the packet to its acknowledgement, and from there to completion. The end of the
packet decides when the acknowledgement counts as missing.

Main definitions: **`Station.handleInterrupt`**, and **`Station.pump`**, one step of the radio with
the interrupt handled if it is pending. -/

namespace BurstLink.Station

/-- The packet is out and the radio is about to receive. The timeout is armed from the end of the
packet; an address match moves it away. Without the chaining shortcut the radio stays off the next
time. -/
def awaitAck (s : Station) : Station :=
  ((s.setPa false).setLna true).onRadio (fun r =>
    ((r.setBuffer s.transfer.ack).armTimeout (r.endCapture + ackGuardTicks)).setRoute
        .endToCapture false
      |>.setRoute .addressToCapture true
      |>.setRoute .compareToDisable true
      |>.disableShorts .disabledRxEnable)
  |>.onTransfer fun t => { t with timeout := false, state := .awaitingAck }

/-- The packet is out and nothing is waited for. -/
def completePacket (s : Station) : Station :=
  (s.setPa false).onRadio (fun r =>
    (r.setRoute .endToCapture false).setRoute .addressToCapture false)
  |>.onTransfer (fun t => { t with timeout := false, state := .idle })
  |>.setCompleted true

/-- The acknowledgement is in, or its timeout fired. -/
def completeAck (s : Station) : Station :=
  (s.setLna false).onRadio (fun r =>
    (r.clearTimeout.setRoute .addressToCapture false).setRoute .compareToDisable false)
  |>.onTransfer (fun t => { t with timeout := s.radio.compareFired, state := .idle })
  |>.setCompleted true

/-- Advances the exchange in progress and clears what raised the interrupt. -/
def handleInterrupt (s : Station) : Station :=
  let s := match s.transfer.state with
    | .txInFlight => if s.transfer.ackRequired then s.awaitAck else s.completePacket
    | .awaitingAck => s.completeAck
    | .idle => s
  s.onRadio fun r => (r.clearEvent .disabled).clearEvent .frameEnd

/-- One step of the radio and, if it leaves the interrupt pending, one run of the handler. A full
transmission history stops the simulation before the handler runs. -/
def pump (s : Station) : Station × Option Overflow :=
  let s := s.serviceRadio
  if s.overflowed then (s, some .transmissions)
  else (if s.radio.interruptPending then s.handleInterrupt else s, none)

end BurstLink.Station
