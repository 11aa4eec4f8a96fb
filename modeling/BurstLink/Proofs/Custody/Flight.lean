import BurstLink.Link.Transfer
import BurstLink.Proofs.Custody

/-! # A send in progress

The radio and the interrupt handler carry an exchange from one stage to the next, whatever the
surroundings do; a send that takes notice of a complete exchange, or is given up at any stage,
leaves the link on standby with the radio off.

Main statements: `Station.InFlight.pump`, `Station.InFlight.forceIdle`,
`Station.Complete.finishExchange`, and `Station.Standby.startExchange`. -/

namespace BurstLink

namespace Station

variable {delays tears : Prop} {s t : Station} {f : Flight}

/-! ## The radio during an exchange -/

@[simp] theorem store_none (s : Station) : s.store none = s := rfl

/-- Storing a frame changes buffers only. -/
theorem store_eq (s : Station) (frame : Option Packet) :
    ∃ buffers, s.store frame = { s with buffers := buffers } := by
  unfold store
  split
  · exact ⟨_, rfl⟩
  · exact ⟨s.buffers, rfl⟩

/-- A step of the radio that is known changes the radio accordingly, and the buffers. -/
theorem serviceRadio_of_service {radio : Radio} {frame : Option Packet}
    (step : s.radio.service s.loaded = (radio, frame)) :
    s.serviceRadio = { s with radio := radio }.store frame := by
  unfold serviceRadio
  rw [step]

/-- A step of the radio changes the radio and the buffers. -/
theorem serviceRadio_eq (s : Station) :
    ∃ buffers, s.serviceRadio =
      { s with radio := (s.radio.service s.loaded).1, buffers := buffers } :=
  store_eq { s with radio := (s.radio.service s.loaded).1 } (s.radio.service s.loaded).2

/-- A step that leaves the radio as it is and receives nothing leaves the station as it is. -/
theorem serviceRadio_of_still (still : s.radio.service s.loaded = (s.radio, none)) :
    s.serviceRadio = s := by
  rw [serviceRadio_of_service still, store_none]

/-- The radio waits until its interrupt is handled. -/
theorem serviceRadio_of_pending (waiting : s.radio.interruptPending = true) :
    s.serviceRadio = s :=
  serviceRadio_of_still (Radio.service_of_pending waiting _)

/-- A station whose radio keeps its program, in some stage of the same send. -/
theorem InFlight.at (h : s.InFlight delays f) (mode : t.mode = s.mode) (link : t.link = s.link)
    (kept : s.radio.Keeps t.radio) (stage : t.Stage f) : t.InFlight delays f where
  mode := mode.trans h.mode
  initialized := by rw [link]; exact h.initialized
  noCarrier := by rw [link]; exact h.noCarrier
  config := by rw [link]; exact h.config
  programmed := h.programmed.kept kept
  prompt := h.prompt.imp_right kept.latency.trans
  apart := h.apart
  stage := stage

/-- The packet leaves, and the interrupt waits. -/
theorem OnAir.sent (h : s.OnAir f) (sending : s.radio.phase = .tx)
    (response : s.radio.pending.isSome) (unhandled : s.radio.events.disabled = false) :
    s.serviceRadio.OnAir f := by
  have loaded : s.loaded = some (s.buffers.get f.packet) := by simp [loaded, h.buffer]
  have ends : s.radio.shorts.contains .endDisable = true := by rw [h.shorts]; simp
  have step := Radio.service_tx unhandled sending ends (s.buffers.get f.packet)
  rw [← loaded, h.shorts, Shorts.disabledRxEnable_exchange] at step
  rw [serviceRadio_of_service step, store_none]
  exact ⟨h.transfer, h.completed, h.interrupt, rfl, h.routes, h.buffer, h.amplifiers,
    .inr ⟨rfl, response, rfl⟩⟩

/-- The receiver comes up, unless it does not respond. -/
theorem Awaiting.rampedUp (h : s.Awaiting f) (rising : s.radio.phase = .rxRampUp)
    (response : s.radio.pending.isSome) (unhandled : s.radio.events.disabled = false) :
    s.serviceRadio.Awaiting f := by
  have starts : s.radio.shorts.contains .readyStart = true := by rw [h.shorts]; simp
  by_cases deaf : s.radio.air.unresponsive = true
  · rw [serviceRadio_of_still (Radio.service_unresponsive rising deaf _)]
    exact h
  · have step := Radio.service_rxRampUp unhandled rising starts (Bool.not_eq_true _ ▸ deaf) s.loaded
    rw [serviceRadio_of_service step, store_none]
    exact ⟨h.acks, h.transfer, h.completed, h.interrupt, h.shorts, h.routes, h.buffer,
      h.amplifiers, .inl ⟨unhandled, response, .inr rfl⟩⟩

/-- The acknowledgement comes in or times out, and the interrupt waits. -/
theorem Awaiting.received (h : s.Awaiting f) (timer : s.radio.timerRunning = true)
    (listening : s.radio.phase = .rx) (response : s.radio.pending.isSome)
    (unhandled : s.radio.events.disabled = false) : s.serviceRadio.Awaiting f := by
  have ends : s.radio.shorts.contains .endDisable = true := by rw [h.shorts]; simp
  have closes : s.radio.shorts.contains .disabledRxEnable = false := by rw [h.shorts]; simp
  have route : s.radio.routes.compareToDisable = true := by rw [h.routes]
  obtain ⟨response, pending⟩ := Option.isSome_iff_exists.mp response
  cases heard : response.answer s.radio.air.lastPid with
  | none =>
    have step :=
      Radio.service_rx_unanswered unhandled listening pending timer route heard s.loaded
    rw [serviceRadio_of_service step, store_none]
    exact ⟨h.acks, h.transfer, h.completed, h.interrupt, h.shorts, h.routes, h.buffer,
      h.amplifiers, .inr ⟨rfl, rfl⟩⟩
  | some answer =>
    have step := Radio.service_rx_answered unhandled listening pending ends closes heard s.loaded
    rw [serviceRadio_of_service step]
    simp only [store, h.buffer]
    exact ⟨h.acks, h.transfer, h.completed, h.interrupt, h.shorts, h.routes, rfl, h.amplifiers,
      .inr ⟨rfl, rfl⟩⟩

/-- **A step of the radio keeps an exchange in one of its stages.** -/
theorem InFlight.serviceRadio (h : s.InFlight delays f) : s.serviceRadio.InFlight delays f := by
  obtain ⟨buffers, same⟩ := s.serviceRadio_eq
  have mode : s.serviceRadio.mode = s.mode := by rw [same]
  have link : s.serviceRadio.link = s.link := by rw [same]
  have keeps : s.radio.Keeps s.serviceRadio.radio := by
    rw [same]
    exact Radio.service_keeps ..
  cases h.stage with
  | onAir air =>
    rcases air.progress with ⟨unhandled, hangs | ⟨sending, response⟩⟩ | ⟨handled, -, -⟩
    · rw [serviceRadio_of_still (Radio.service_wedged hangs _)]
      exact h
    · exact h.at mode link keeps (.onAir (air.sent sending response unhandled))
    · rw [serviceRadio_of_pending (by simp [Radio.interruptPending, air.interrupt, handled])]
      exact h
  | awaiting wait =>
    rcases wait.progress with ⟨unhandled, response, rising | listening⟩ | ⟨handled, -⟩
    · exact h.at mode link keeps (.awaiting (wait.rampedUp rising response unhandled))
    · exact h.at mode link keeps
        (.awaiting (wait.received h.programmed.timer listening response unhandled))
    · rw [serviceRadio_of_pending (by simp [Radio.interruptPending, wait.interrupt, handled])]
      exact h
  | complete done =>
    rw [serviceRadio_of_still (Radio.service_disabled done.phase _)]
    exact h

/-! ## The interrupt handler during an exchange -/

/-- The transmit amplifier is switched and the receive amplifier left as it is. -/
theorem Amplifiers.setPa {pa lna : Bool} (h : s.Amplifiers pa lna) (on : Bool) :
    (s.setPa on).Amplifiers on lna := by
  intro f found
  obtain ⟨f, before, rfl⟩ := Option.map_eq_some_iff.mp found
  exact ⟨rfl, (h f before).2⟩

/-- The receive amplifier is switched and the transmit amplifier left as it is. -/
theorem Amplifiers.setLna {pa lna : Bool} (h : s.Amplifiers pa lna) (on : Bool) :
    (s.setLna on).Amplifiers pa on := by
  intro f found
  obtain ⟨f, before, rfl⟩ := Option.map_eq_some_iff.mp found
  exact ⟨(h f before).1, rfl⟩

/-- What the interrupt handler does at the end: it clears what raised the interrupt. -/
def acknowledge : Station → Station :=
  onRadio fun r => (r.clearEvent .disabled).clearEvent .frameEnd

/-- The interrupt after a transmission turns to the acknowledgement, or completes the send if none
is required. -/
theorem handleInterrupt_txInFlight (sending : s.transfer.state = .txInFlight) :
    s.handleInterrupt =
      (if s.transfer.ackRequired then s.awaitAck else s.completePacket).acknowledge := by
  unfold handleInterrupt
  rw [sending]
  rfl

/-- The interrupt while an acknowledgement is awaited completes the exchange. -/
theorem handleInterrupt_awaitingAck (awaiting : s.transfer.state = .awaitingAck) :
    s.handleInterrupt = s.completeAck.acknowledge := by
  unfold handleInterrupt
  rw [awaiting]
  rfl

/-- The station when the handler has gone on to the acknowledgement. -/
theorem awaitAck_eq (s : Station) :
    s.awaitAck.acknowledge = { s with
      frontEnd := (s.frontEnd.map (FrontEnd.setPa false)).map (FrontEnd.setLna true)
      transfer := { s.transfer with timeout := false, state := .awaitingAck }
      radio := { s.radio with
        buffer := s.transfer.ack
        compare := s.radio.endCapture + ackGuardTicks
        armedDeadline := some (s.radio.endCapture + ackGuardTicks)
        compareFired := false
        routes :=
          { s.radio.routes with
            endToCapture := false, addressToCapture := true, compareToDisable := true }
        shorts := s.radio.shorts.difference .disabledRxEnable
        events := { s.radio.events with disabled := false, frameEnd := false } } } := by
  unfold acknowledge awaitAck
  rfl

/-- The station when the handler has completed an exchange without an acknowledgement. -/
theorem completePacket_eq (s : Station) :
    s.completePacket.acknowledge = { s with
      frontEnd := s.frontEnd.map (FrontEnd.setPa false)
      transfer := { s.transfer with timeout := false, state := .idle }
      completed := true
      radio := { s.radio with
        routes := { s.radio.routes with endToCapture := false, addressToCapture := false }
        events := { s.radio.events with disabled := false, frameEnd := false } } } := rfl

/-- The station when the handler has completed an exchange with an acknowledgement. -/
theorem completeAck_eq (s : Station) :
    s.completeAck.acknowledge = { s with
      frontEnd := s.frontEnd.map (FrontEnd.setLna false)
      transfer := { s.transfer with timeout := s.radio.compareFired, state := .idle }
      completed := true
      radio := { s.radio with
        compareFired := false
        routes := { s.radio.routes with addressToCapture := false, compareToDisable := false }
        events := { s.radio.events with disabled := false, frameEnd := false } } } := rfl

/-- The packet is out: the handler goes on to the acknowledgement, or completes the exchange. -/
theorem OnAir.handled (h : s.OnAir f) (waiting : s.radio.events.disabled = true) :
    s.handleInterrupt.Stage f := by
  rcases h.progress with ⟨unhandled, -⟩ | ⟨-, response, phase⟩
  · exact absurd (waiting.symm.trans unhandled) (by simp)
  have sending : s.transfer.state = .txInFlight := by rw [h.transfer]
  have required : s.transfer.ackRequired = f.config.ackEnabled := by rw [h.transfer]
  rw [handleInterrupt_txInFlight sending, required]
  cases acks : f.config.ackEnabled with
  | true =>
    rw [if_pos rfl, awaitAck_eq, h.routes, h.shorts, h.transfer,
      Shorts.exchange_difference_disabledRxEnable]
    rw [acks] at phase
    exact .awaiting ⟨acks, by rw [acks], h.completed, h.interrupt, rfl, rfl, rfl,
      (h.amplifiers.setPa false).setLna true, .inl ⟨rfl, response, .inl phase⟩⟩
  | false =>
    rw [if_neg (by simp), completePacket_eq, h.routes]
    rw [acks] at phase
    refine .complete ⟨rfl, rfl, h.interrupt, rfl, ?_, rfl, h.amplifiers.setPa false, phase⟩
    rw [h.shorts, acks, Shorts.exchange_false]

/-- The acknowledgement is in or has timed out: the handler completes the exchange. -/
theorem Awaiting.handled (h : s.Awaiting f) (waiting : s.radio.events.disabled = true) :
    s.handleInterrupt.Complete := by
  rcases h.progress with ⟨unhandled, -⟩ | ⟨-, phase⟩
  · exact absurd (waiting.symm.trans unhandled) (by simp)
  have awaiting : s.transfer.state = .awaitingAck := by rw [h.transfer]
  rw [handleInterrupt_awaitingAck awaiting, completeAck_eq, h.routes]
  exact ⟨rfl, rfl, h.interrupt, rfl, h.shorts, rfl, h.amplifiers.setLna false, phase⟩

/-- What the handler changes in any state of the exchange: the amplifiers, the exchange and the sign
of its completion, and of the radio where it points, its timeout, its routes, its events, and at
most the shortcut that chains into the receiver. -/
theorem handleInterrupt_eq (s : Station) :
    ∃ frontEnd transfer completed buffer compare armedDeadline compareFired routes shorts,
      (shorts = s.radio.shorts ∨ shorts = s.radio.shorts.difference .disabledRxEnable) ∧
      s.handleInterrupt = { s with
        frontEnd := frontEnd
        transfer := transfer
        completed := completed
        radio := { s.radio with
          buffer := buffer
          compare := compare
          armedDeadline := armedDeadline
          compareFired := compareFired
          routes := routes
          shorts := shorts
          events := { s.radio.events with disabled := false, frameEnd := false } } } := by
  -- one case for each state of the transfer
  cases state : s.transfer.state with
  | txInFlight =>
    rw [handleInterrupt_txInFlight state]
    split
    · rw [awaitAck_eq]
      exact ⟨_, _, _, _, _, _, _, _, _, .inr rfl, rfl⟩
    · rw [completePacket_eq]
      exact ⟨_, _, _, _, _, _, _, _, _, .inl rfl, rfl⟩
  | awaitingAck =>
    rw [handleInterrupt_awaitingAck state, completeAck_eq]
    exact ⟨_, _, _, _, _, _, _, _, _, .inl rfl, rfl⟩
  | idle =>
    unfold handleInterrupt
    rw [state]
    exact ⟨_, _, _, _, _, _, _, _, _, .inl rfl, rfl⟩

/-- What the handler does keeps the program of the radio and leaves mode and link alone. -/
theorem handleInterrupt_leaves (s : Station) : s.radio.Keeps s.handleInterrupt.radio ∧
    s.handleInterrupt.mode = s.mode ∧ s.handleInterrupt.link = s.link := by
  obtain ⟨_, _, _, _, _, _, _, _, _, -, same⟩ := s.handleInterrupt_eq
  rw [same]
  exact ⟨⟨rfl, rfl, rfl, rfl, rfl, rfl, rfl, rfl, rfl⟩, rfl, rfl⟩

/-- **The interrupt handler keeps an exchange in one of its stages.** -/
theorem InFlight.handleInterrupt (h : s.InFlight delays f)
    (waiting : s.radio.interruptPending = true) : s.handleInterrupt.InFlight delays f := by
  have raised : s.radio.events.disabled = true := by
    simp only [Radio.interruptPending, Bool.and_eq_true] at waiting
    exact waiting.2
  obtain ⟨keeps, mode, link⟩ := s.handleInterrupt_leaves
  refine h.at mode link keeps ?_
  cases h.stage with
  | onAir air => exact air.handled raised
  | awaiting wait => exact .complete (wait.handled raised)
  | complete done => exact absurd (raised.symm.trans done.handled) (by simp)

/-- **A step of the radio and its interrupt keep an exchange in one of its stages.** -/
theorem InFlight.pump (h : s.InFlight delays f) : s.pump.1.InFlight delays f := by
  unfold Station.pump
  dsimp only
  split
  · exact h.serviceRadio
  · split
    · rename_i waiting
      exact h.serviceRadio.handleInterrupt waiting
    · exact h.serviceRadio

/-! ## Bringing an exchange to rest -/

/-- The link is on standby, and the radio is off. -/
structure Landed (delays : Prop) (s : Station) : Prop extends s.Standby delays where
  phase : s.radio.phase = .disabled

/-- At every stage, dropping the chain into the receiver leaves the shortcuts of the link. -/
theorem Stage.difference_txThenRx (h : s.Stage f) :
    s.radio.shorts.difference .txThenRx = .rssi := by
  cases h with
  | onAir h => rw [h.shorts]; simp
  | awaiting h => rw [h.shorts]; simp
  | complete h => rw [h.shorts]; simp

/-- At every stage, the amplifiers go off when they are switched off. -/
theorem amplifiers_off (s : Station) : ((s.setPa false).setLna false).Amplifiers false false := by
  intro f found
  obtain ⟨f', found', rfl⟩ := Option.map_eq_some_iff.mp found
  obtain ⟨f, before, rfl⟩ := Option.map_eq_some_iff.mp found'
  exact ⟨rfl, rfl⟩

/-- A radio that was programmed from scratch. -/
theorem programRadio_eq (config : LinkConfig) (s : Station) :
    s.programRadio config = { s with
      radio := { s.radio with
        powered := true
        powerUps := if s.radio.powered then s.radio.powerUps else s.radio.powerUps + 1
        packetConfigured := true
        txPower := .zeroDbm
        channel := config.channel
        bitrate := config.bitrate
        base0 := config.address.base
        prefix0 := config.address.pipePrefix s.radio.prefix0
        shorts := .rssi
        routes := {}
        events := { s.radio.events with disabled := false, frameEnd := false } } } := rfl

/-- Nothing is armed for an exchange any more; the radio still does what it did. -/
def disarm (s : Station) : Station :=
  s.onRadio fun r => ((r.setInterrupt false).disableShorts .txThenRx).clearRoutes

/-- What is left to do after the radio was told to switch off. -/
def recover (config : LinkConfig) (found : Station × Bool) : Station :=
  let s := if found.2 then found.1
    else (found.1.note .powerCycle).onRadio (Radio.setPower false) |>.programRadio config
  ((s.setPa false).setLna false).resetTransfer

/-- To force the link idle is to disarm it, to disable the radio, and to recover from what was
found. -/
theorem forceIdle_eq_recover (config : LinkConfig) (s : Station) :
    s.forceIdle config = recover config s.disarm.disableRadio := by
  rcases found : s.disarm.disableRadio with ⟨s', off⟩
  unfold disarm at found
  simp only [forceIdle, found, recover]

/-- **Brought to rest at any stage, the link is on standby and the radio is off**, whether it
switched off in time or had to be power cycled. -/
theorem InFlight.forceIdle (h : s.InFlight delays f) : (s.forceIdle f.config).Landed delays := by
  obtain ⟨phase, pending, events, -, settled⟩ := s.disarm.radio.forceOff_settles
  have keeps : s.radio.Keeps s.disarm.radio.forceOff := by
    rw [settled]
    exact ⟨rfl, rfl, rfl, rfl, rfl, rfl, rfl, rfl, rfl⟩
  have latency := h.prompt.imp_right keeps.latency.trans
  rw [forceIdle_eq_recover, s.disarm.disableRadio_eq]
  unfold recover
  dsimp only
  -- the radio is off in time, or its power is cycled
  split
  · rename_i inTime
    have off : s.disarm.radio.forceOff.phase = .disabled := Radio.phase_forceOff inTime
    have interrupt : s.disarm.radio.forceOff.interruptEnabled = false := by rw [settled]; rfl
    have routes : s.disarm.radio.forceOff.routes = {} := by rw [settled]; rfl
    have shorts : s.disarm.radio.forceOff.shorts = .rssi := by
      rw [settled]
      exact h.stage.difference_txThenRx
    have programmed : s.disarm.radio.forceOff.Programmed s.link.config := by
      rw [h.config]
      exact h.programmed.kept keeps
    exact ⟨⟨⟨interrupt, routes, rfl, rfl, latency⟩, h.mode, h.initialized, h.noCarrier, programmed,
      shorts, Radio.off_of_disabled off, amplifiers_off _⟩, off⟩
  · have timer : s.disarm.radio.forceOff.timerRunning = true :=
      keeps.timer.trans h.programmed.timer
    rw [programRadio_eq]
    refine ⟨⟨⟨rfl, rfl, rfl, rfl, latency⟩, h.mode, h.initialized, h.noCarrier, ?_, rfl,
      Radio.off_of_disabled rfl, amplifiers_off _⟩, rfl⟩
    show Radio.Programmed s.link.config _
    rw [h.config]
    exact ⟨rfl, rfl, rfl, rfl, rfl, Address.ofRegisters_base_pipePrefix .., timer⟩

/-- **A send that takes notice of a complete exchange leaves the link on standby.** -/
theorem InFlight.finishExchange (h : s.InFlight delays f) (done : s.completed = true) :
    s.finishExchange.Landed delays := by
  cases h.stage with
  | onAir air => exact absurd (done.symm.trans air.completed) (by simp)
  | awaiting wait => exact absurd (done.symm.trans wait.completed) (by simp)
  | complete complete =>
    have shorts : s.radio.shorts.difference .txThenRx = .rssi := h.stage.difference_txThenRx
    have keeps : s.radio.Keeps s.finishExchange.radio :=
      ⟨rfl, rfl, rfl, rfl, rfl, rfl, rfl, rfl, rfl⟩
    refine ⟨⟨⟨rfl, complete.routes, complete.transfer, rfl, h.prompt⟩, h.mode, h.initialized,
      h.noCarrier, ?_, shorts, Radio.off_of_disabled complete.phase, complete.amplifiers⟩,
      complete.phase⟩
    show Radio.Programmed s.link.config _
    rw [h.config]
    exact h.programmed.kept keeps

/-! ## Starting an exchange -/

/-- The radio as a station arms it for an exchange. -/
def armed (packet : Buffer) (ackRequired : Bool) (s : Station) : Radio :=
  ((s.radio.clearEvent .disabled).clearEvent .frameEnd).setInterrupt true
    |>.enableShorts (if ackRequired then .txThenRx else .txOnce)
    |>.setRoute .endToCapture true
    |>.setRoute .addressToCapture true
    |>.setBuffer (some packet)

/-- The radio of an armed exchange, field by field. -/
theorem armed_eq (packet : Buffer) (ackRequired : Bool) (s : Station) :
    s.armed packet ackRequired = { s.radio with
      interruptEnabled := true
      shorts := s.radio.shorts.union (if ackRequired then .txThenRx else .txOnce)
      routes := { s.radio.routes with endToCapture := true, addressToCapture := true }
      buffer := some packet
      events := { s.radio.events with disabled := false, frameEnd := false } } := by
  simp only [armed, Radio.clearEvent, Radio.setInterrupt, Radio.enableShorts, Radio.setShorts,
    Radio.setRoute, Radio.setBuffer, EventFlags.set, RouteFlags.set]

/-- The station at the start of an exchange. -/
theorem startExchange_eq (packet ack : Buffer) (ackRequired : Bool) (s : Station) :
    s.startExchange packet ack ackRequired = { s with
      buffers := s.buffers.modify ack Packet.clear
      transfer := { state := .txInFlight, ackRequired := ackRequired, ack := some ack }
      completed := false
      frontEnd := s.frontEnd.map (FrontEnd.setPa true)
      radio := (s.armed packet ackRequired).trigger .txEnable } := by
  unfold startExchange armed
  simp only [onBuffer, onTransfer, setCompleted, onRadio, setPa, onFrontEnd]

/-- **A send from standby is in progress as soon as its first exchange has started.** -/
theorem Standby.startExchange (h : s.Standby delays) (apart : f.packet ≠ f.ack)
    (config : s.link.config = f.config) :
    (s.startExchange f.packet f.ack f.config.ackEnabled).InFlight delays f := by
  have keeps : s.radio.Keeps (s.armed f.packet f.config.ackEnabled) := by
    rw [armed_eq]
    exact ⟨rfl, rfl, rfl, rfl, rfl, rfl, rfl, rfl, rfl⟩
  have programmed := h.programmed.kept keeps
  have latency := h.calm.prompt.imp_right keeps.latency.trans
  have shorts : (s.armed f.packet f.config.ackEnabled).shorts = .exchange f.config.ackEnabled := by
    rw [armed_eq, h.shorts]
    rfl
  have routes : (s.armed f.packet f.config.ackEnabled).routes =
      { endToCapture := true, addressToCapture := true } := by
    rw [armed_eq, h.calm.routes]
  have buffer : (s.armed f.packet f.config.ackEnabled).buffer = some f.packet := by rw [armed_eq]
  have interrupt : (s.armed f.packet f.config.ackEnabled).interruptEnabled = true := by
    rw [armed_eq]
  have unhandled : (s.armed f.packet f.config.ackEnabled).events.disabled = false := by
    rw [armed_eq]
  rw [startExchange_eq]
  rw [config] at programmed
  generalize s.armed f.packet f.config.ackEnabled = r at *
  have starts : r.shorts.contains .readyStart = true := by rw [shorts, Shorts.readyStart_exchange]
  -- taking a response leaves the latency alone
  have settled : delays ∨ r.air.nextResponse.2.disableLatency = 0 :=
    latency.imp_right (Radio.disableLatency_nextResponse _).trans
  rw [Radio.trigger_txEnable programmed.powered, Radio.enableTx_eq starts]
  split
  · exact ⟨h.mode, h.initialized, h.noCarrier, config,
      programmed.kept ⟨rfl, rfl, rfl, rfl, rfl, rfl, rfl, rfl,
        Radio.disableLatency_nextResponse _⟩,
      settled, apart,
      .onAir ⟨rfl, rfl, interrupt, shorts, routes, buffer, h.amplifiers.setPa true,
        .inl ⟨unhandled, .inl rfl⟩⟩⟩
  · exact ⟨h.mode, h.initialized, h.noCarrier, config,
      programmed.kept ⟨rfl, rfl, rfl, rfl, rfl, rfl, rfl, rfl,
        Radio.disableLatency_nextResponse _⟩,
      settled, apart,
      .onAir ⟨rfl, rfl, interrupt, shorts, routes, buffer, h.amplifiers.setPa true,
        .inl ⟨unhandled, .inr ⟨rfl, rfl⟩⟩⟩⟩

end Station

end BurstLink
