import BurstLink.Proofs.Retry.Exchange

/-! # One attempt of a send

How an attempt starts, and what a look makes of an exchange that is complete or late.

Main statements: `Station.Standby.fly` for the start of an exchange, `Station.Heard.accepts` for the
acknowledgement, one equation for each way in which a look at a flight can turn out, and when it
finds the radio stuck (`Station.checkFlight_stuck_iff`). -/

namespace BurstLink

/-- The radio sends, with the given response on its way, or it hangs. -/
def Radio.Sends (response : AirResponse) (r : Radio) : Prop :=
  if response = .wedged then r.phase = .wedged else r.phase = .tx ∧ r.pending = some response

/-- Told to transmit, the radio takes the next response. -/
theorem Radio.enableTx_sends {r : Radio} (starts : r.shorts.contains .readyStart = true) :
    r.enableTx.Sends r.air.nextResponse.1 ∧ r.enableTx.air = r.air.nextResponse.2 ∧
      r.enableTx.rssi = r.rssi := by
  rw [enableTx_eq starts]
  unfold Sends
  split
  · exact ⟨rfl, rfl, rfl⟩
  · exact ⟨⟨rfl, rfl⟩, rfl, rfl⟩

namespace Station

variable {s t : Station} {f : Flight} {v : View} {response : AirResponse}

/-! ## Starting and ending an attempt -/

/-- **An exchange that starts from standby** clears the acknowledgement and takes the next
response. -/
theorem Standby.fly (h : s.Standby True) (apart : f.packet ≠ f.ack)
    (config : s.link.config = f.config) (seen : s.view f = v) :
    ((s.fly f).1.setLocked true).Exchanging (s.fly f).2
        { v with air := v.air.nextResponse.2, ack := v.ack.clear } ∧
      (s.fly f).1.radio.Sends v.air.nextResponse.1 ∧
      (s.fly f).2.deadline = (s.fly f).1.clock + exchangeTimeout := by
  have flying : (s.fly f).1.InFlight True (s.fly f).2 :=
    h.startExchange (f := (s.fly f).2) apart config
  have powered : (s.armed f.packet f.config.ackEnabled).powered = true := by
    rw [armed_eq]
    exact h.programmed.powered
  have starts : (s.armed f.packet f.config.ackEnabled).shorts.contains .readyStart = true := by
    rw [armed_eq, h.shorts]
    exact Shorts.readyStart_exchange _
  have air : (s.armed f.packet f.config.ackEnabled).air = s.radio.air := by rw [armed_eq]
  have rssi : (s.armed f.packet f.config.ackEnabled).rssi = s.radio.rssi := by rw [armed_eq]
  -- the radio is armed first and triggered last, so it is the armed radio that takes the response
  obtain ⟨sends, air', rssi'⟩ := Radio.enableTx_sends starts
  rw [← Radio.trigger_txEnable powered, air] at sends air'
  rw [← Radio.trigger_txEnable powered, rssi] at rssi'
  have packet : (s.buffers.modify f.ack Packet.clear).get f.packet = s.buffers.get f.packet :=
    Pool.get_set_of_ne _ apart _
  have cleared : (s.buffers.modify f.ack Packet.clear).get f.ack = (s.buffers.get f.ack).clear :=
    Pool.get_set_self ..
  have started := s.startExchange_eq f.packet f.ack f.config.ackEnabled
  refine ⟨⟨rfl, (setLocked_agree true _).inFlight flying, ?_⟩, ?_, ?_⟩
  · show (s.startExchange f.packet f.ack f.config.ackEnabled).view f = _
    rw [started, ← seen]
    unfold view
    rw [air', rssi', packet, cleared]
  · show (s.startExchange f.packet f.ack f.config.ackEnabled).radio.Sends _
    rw [started, ← seen]
    exact sends
  · show s.clock + exchangeTimeout =
      (s.startExchange f.packet f.ack f.config.ackEnabled).clock + exchangeTimeout
    rw [started]

/-- Ending a send that counts as acknowledged or not: the acknowledgement may get lost. -/
theorem land_eq (f : Flight) (acked : Bool) (s : Station) :
    (s.land f acked).2 = .ok ⟨acked && !(f.config.ackEnabled &&
        s.link.draws.loss s.link.config.ackLossPercent), s.radio.rssi, f.retries⟩ ∧
      (s.land f acked).1.view f = { s.view f with
        link := if acked && f.config.ackEnabled then
            { s.link with draws := s.link.draws.afterLoss s.link.config.ackLossPercent }
          else s.link } := by
  unfold land drawLoss
  rw [Draws.loses_eq]
  dsimp only
  cases acked with
  | false => exact ⟨rfl, rfl⟩
  | true =>
    cases f.config.ackEnabled with
    | false => exact ⟨rfl, rfl⟩
    | true =>
      cases s.link.draws.loss s.link.config.ackLossPercent with
      | false => exact ⟨rfl, rfl⟩
      | true => exact ⟨rfl, rfl⟩

/-- An exchange that is brought to rest leaves alone what is in view, but for the register with the
signal strength. -/
theorem forceIdle_view (config : LinkConfig) (f : Flight) (s : Station) :
    ∃ rssi, (s.forceIdle config).view f = { s.view f with rssi := rssi } := by
  obtain ⟨phase, pending, events, -, settled⟩ := s.disarm.radio.forceOff_settles
  rw [forceIdle_eq_recover, s.disarm.disableRadio_eq, settled]
  unfold recover
  dsimp only
  split
  · exact ⟨_, rfl⟩
  · exact ⟨_, rfl⟩

/-- An acknowledgement is accepted exactly when the response counts as one. -/
theorem Heard.accepts (h : s.Heard f (v.hearing (response.answer f.pid)) (response.answer f.pid)) :
    s.finishExchange.accepts f = response.acceptedFor f.config f.pid := by
  -- timeout, checksum and identifier are known from the response that was heard
  have ack : s.buffers.get f.ack = (v.hearing (response.answer f.pid)).ack :=
    congrArg View.ack h.view
  show (!s.transfer.timeout && s.radio.crcOk &&
    (!f.config.ackPidCheck || decide ((s.buffers.get f.ack).pid = f.pid))) = _
  rw [h.timeout, h.crcOk, ack]
  cases response with
  | ack payload rssi =>
    simp [AirResponse.answer, AirResponse.acceptedFor, View.hearing, Packet.sentWith]
  | staleAck bits =>
    simp [AirResponse.answer, AirResponse.acceptedFor, View.hearing, Packet.sentWith]
  | corruptAck => simp [AirResponse.answer, AirResponse.acceptedFor]
  | silence => simp [AirResponse.answer, AirResponse.acceptedFor]
  | wedged => simp [AirResponse.answer, AirResponse.acceptedFor]

/-! ## Looks at a complete exchange -/

/-- A look that ends a send. -/
theorem poll_sending_of_finished (withAck : Bool) {s' : Station}
    {result : Except Failure Outcome} (checked : s.checkFlight f = (s', .finished result)) :
    (Activity.sending f (.single withAck)).poll s = (s'.setLocked false,
      .finished (result.map fun outcome => s'.replyToSend f.ack withAck outcome)) := by
  simp only [Activity.poll, checkSend, checked, withLock, Progress.holdsLock]

/-- A look that starts the next attempt. -/
theorem poll_sending_of_waiting (purpose : Purpose) {s' : Station} {f' : Flight}
    (checked : s.checkFlight f = (s', .waiting f')) :
    (Activity.sending f purpose).poll s =
      (s'.setLocked true, .waiting (.sending f' purpose)) := by
  simp only [Activity.poll, checkSend, checked, withLock, Progress.holdsLock, Activity.holdsLock]

/-- The look at a complete exchange that decides the send. -/
theorem checkFlight_of_decided (done : s.completed = true)
    (decided : (!f.config.ackEnabled || s.finishExchange.accepts f) = true) :
    s.checkFlight f =
      ((s.finishExchange.land f true).1, .finished (s.finishExchange.land f true).2) := by
  simp only [Station.checkFlight, done, decided, if_true]

/-- The look at a complete exchange after the last attempt. -/
theorem checkFlight_of_exhausted (done : s.completed = true)
    (undecided : (!f.config.ackEnabled || s.finishExchange.accepts f) = false)
    (last : f.config.attempts ≤ f.retries + 1) :
    s.checkFlight f =
      ((s.finishExchange.land f false).1, .finished (s.finishExchange.land f false).2) := by
  simp only [Station.checkFlight, done, undecided, Nat.not_lt.mpr last, if_true, if_false,
    Bool.false_eq_true]

/-- The next attempt of a flight. -/
def nextAttempt (f : Flight) (s : Station) : Station × Flight :=
  (s.finishExchange.note (.retry (f.retries + 1) f.pid)).fly { f with retries := f.retries + 1 }

/-- The look at a complete exchange that starts the next attempt. -/
theorem checkFlight_of_undecided (done : s.completed = true)
    (undecided : (!f.config.ackEnabled || s.finishExchange.accepts f) = false)
    (more : f.retries + 1 < f.config.attempts) :
    s.checkFlight f = ((s.nextAttempt f).1, .waiting (s.nextAttempt f).2) := by
  simp only [Station.checkFlight, done, undecided, more, if_true, if_false, Bool.false_eq_true]
  rfl

/-- The look at an exchange that is late. -/
theorem checkFlight_of_late (unfinished : s.completed = false) (late : f.deadline ≤ s.clock) :
    s.checkFlight f =
      ((s.note .exchangeStuck).forceIdle f.config, .finished (.error .hardwareStuck)) := by
  simp only [Station.checkFlight, unfinished, late, if_true, if_false, Bool.false_eq_true]

/-- The look at an exchange in progress that is not late. -/
theorem checkFlight_of_early (unfinished : s.completed = false) (early : s.clock < f.deadline) :
    s.checkFlight f = (s, .waiting f) := by
  simp only [Station.checkFlight, unfinished, Nat.not_le.mpr early, if_false, Bool.false_eq_true]

/-- **A look at a complete exchange** ends the send with an outcome, or starts the next attempt. -/
theorem checkFlight_of_completed (f : Flight) (done : s.completed = true) :
    (∃ acked outcome,
      s.checkFlight f = ((s.finishExchange.land f acked).1, .finished (.ok outcome))) ∨
    f.retries + 1 < f.config.attempts ∧
      s.checkFlight f = ((s.nextAttempt f).1, .waiting (s.nextAttempt f).2) := by
  have lands : ∀ acked, ∃ outcome, (s.finishExchange.land f acked).2 = .ok outcome :=
    fun acked => ⟨_, (land_eq f acked s.finishExchange).1⟩
  cases decided : !f.config.ackEnabled || s.finishExchange.accepts f with
  | true =>
    obtain ⟨outcome, ended⟩ := lands true
    exact .inl ⟨true, outcome, by rw [checkFlight_of_decided done decided, ended]⟩
  | false =>
    by_cases more : f.retries + 1 < f.config.attempts
    · exact .inr ⟨more, checkFlight_of_undecided done decided more⟩
    · obtain ⟨outcome, ended⟩ := lands false
      exact .inl ⟨false, outcome, by
        rw [checkFlight_of_exhausted done decided (Nat.not_lt.mp more), ended]⟩

/-- **A look finds the radio stuck exactly if the exchange is late and not complete.** -/
theorem checkFlight_stuck_iff (f : Flight) (s : Station) :
    (s.checkFlight f).2 = .finished (.error .hardwareStuck) ↔
      s.completed = false ∧ f.deadline ≤ s.clock := by
  cases done : s.completed with
  | true =>
    rcases checkFlight_of_completed f done with ⟨acked, outcome, found⟩ | ⟨-, found⟩
    · simp [found]
    · simp [found]
  | false =>
    by_cases late : f.deadline ≤ s.clock
    · simp [checkFlight_of_late done late, late]
    · simp [checkFlight_of_early done (Nat.not_le.mp late), late]

end Station

end BurstLink
