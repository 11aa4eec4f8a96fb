import BurstLink.Proofs.Alone
import BurstLink.Proofs.Custody.Pump
import BurstLink.Proofs.Custody.Sending
import BurstLink.Proofs.Retry.Forecast

/-! # One exchange, round by round

A packet is on air for one round; with acknowledgements the receiver comes up in the second round,
and in the third one an answer comes in or the timeout fires. An exchange that hangs stays as it is.

Main definitions:

* **`View`** — what an exchange reads and changes besides the machinery that custody is about.
* **`Station.Exchanging`** — an exchange is in progress, with so much in view.

Main statements: `Station.Exchanging.heard` for an exchange with an acknowledgement,
`Station.Exchanging.sent` for one without, `Station.Exchanging.hangs` for one that hangs. -/

namespace BurstLink

/-- What the exchanges of a flight work with. -/
structure View where
  /-- The link. -/
  link : Link
  /-- The surroundings of the radio. -/
  air : Air
  /-- The signal strength in the register. -/
  rssi : UInt8
  /-- The packet. -/
  packet : Packet
  /-- The acknowledgement. -/
  ack : Packet

/-- An answer that is heard is in the register and in the acknowledgement buffer afterwards. -/
def View.hearing (v : View) : Option Answer → View
  | none => v
  | some answer => { v with rssi := answer.rssi, ack := answer.packet }

namespace Station

variable {s t u : Station} {f : Flight} {v : View} {response : AirResponse}

/-- What the exchanges of a flight read and change. -/
def view (f : Flight) (s : Station) : View :=
  ⟨s.link, s.radio.air, s.radio.rssi, s.buffers.get f.packet, s.buffers.get f.ack⟩

/-- An exchange of a flight is in progress, with so much in view. -/
structure Exchanging (f : Flight) (v : View) (s : Station) : Prop where
  locked : s.locked = true
  flying : s.InFlight True f
  view : s.view f = v

/-! ## A round with an interrupt -/

/-- The handler leaves alone what is in view, and what the radio is doing. -/
theorem handleInterrupt_view (f : Flight) (s : Station) : s.handleInterrupt.view f = s.view f ∧
    s.handleInterrupt.clock = s.clock ∧ s.handleInterrupt.radio.phase = s.radio.phase ∧
    s.handleInterrupt.radio.pending = s.radio.pending ∧
    s.handleInterrupt.radio.crcOk = s.radio.crcOk := by
  obtain ⟨_, _, _, _, _, _, _, _, _, -, same⟩ := s.handleInterrupt_eq
  rw [same]
  exact ⟨rfl, rfl, rfl, rfl, rfl⟩

/-- The station when the clock of a round has advanced. -/
def later (s : Station) : Station := { s with clock := s.clock + roundTime }

/-- Only the clock shows that it is later. -/
theorem later_agree (s : Station) : Agree True s s.later := clock_agree _ s

/-- A round in which the radio comes to `u` and leaves the interrupt pending. -/
theorem Exchanging.interrupted (h : s.Exchanging f v) (step : s.later.serviceRadio = u)
    (room : u.radio.air.historyFull = false) (waiting : u.radio.interruptPending = true) :
    s.round = (u.handleInterrupt, none) ∧ u.handleInterrupt.Exchanging f (u.view f) := by
  have pumped : s.later.pump = (u.handleInterrupt, none) := by
    simp [Station.pump, step, overflowed, room, waiting]
  -- custody of the round is custody of the pump: the clock is nothing that a flight depends on
  have flying := (s.later_agree.inFlight h.flying).pump
  have locked := s.later.pump_locked.trans h.locked
  rw [pumped] at flying locked
  exact ⟨pumped, locked, flying, (u.handleInterrupt_view f).1⟩

/-- A round in which the radio comes to `u` and raises no interrupt. -/
theorem Exchanging.uninterrupted (h : s.Exchanging f v) (step : s.later.serviceRadio = u)
    (room : u.radio.air.historyFull = false) (quiet : u.radio.interruptPending = false) :
    s.round = (u, none) ∧ u.Exchanging f (u.view f) := by
  have pumped : s.later.pump = (u, none) := by
    simp [Station.pump, step, overflowed, room, quiet]
  have flying := (s.later_agree.inFlight h.flying).pump
  have locked := s.later.pump_locked.trans h.locked
  rw [pumped] at flying locked
  exact ⟨pumped, locked, flying, rfl⟩

/-! ## The packet -/

/-- While the packet is on air its interrupt has not been raised. -/
theorem InFlight.onAir_of_tx {delays : Prop} (h : s.InFlight delays f)
    (phase : s.radio.phase = .tx) : s.OnAir f ∧ s.radio.events.disabled = false := by
  cases h.stage with
  | onAir air =>
    rcases air.progress with ⟨unhandled, -⟩ | ⟨-, -, other⟩
    · exact ⟨air, unhandled⟩
    · rw [phase] at other
      split at other <;> simp at other
  -- a radio that waits for an acknowledgement listens or is off, and so it does not transmit
  | awaiting wait =>
    rcases wait.progress with ⟨-, -, other | other⟩ | ⟨-, other⟩ <;>
      exact absurd (phase.symm.trans other) (by simp)
  | complete done => exact absurd (phase.symm.trans done.phase) (by simp)

/-- A round in which the packet is on air: it is recorded, and the handler runs. -/
theorem Exchanging.transmitted (h : s.Exchanging f v) (phase : s.radio.phase = .tx)
    (room : v.air.history.length < Overflow.transmissions.limit)
    (fits : v.air.historyFull = false) :
    ∃ u : Station, s.round = (u.handleInterrupt, none) ∧
      u.handleInterrupt.Exchanging f
        { v with air := v.air.afterSending 0 1 ⟨f.config.channel, v.packet⟩ } ∧
      u.transfer = s.transfer ∧ u.radio.pending = s.radio.pending ∧
      u.radio.phase = (if f.config.ackEnabled then .rxRampUp else .disabled) ∧
      u.clock = s.clock + roundTime := by
  obtain ⟨air, unhandled⟩ := h.flying.onAir_of_tx phase
  have packet : s.buffers.get f.packet = v.packet := congrArg View.packet h.view
  have surroundings : s.radio.air = v.air := congrArg View.air h.view
  have loaded : s.later.loaded = some v.packet := by
    simp [later, Station.loaded, air.buffer, packet]
  have ends : s.radio.shorts.contains .endDisable = true := by rw [air.shorts]; simp
  have step := Radio.service_tx unhandled phase ends v.packet
  have recorded : s.radio.air.record ⟨s.radio.channel, v.packet⟩ =
      v.air.afterSending 0 1 ⟨f.config.channel, v.packet⟩ := by
    rw [surroundings, h.flying.programmed.channel, Air.record, if_pos room]
    rfl
  -- the shortcuts of the exchange decide whether the radio goes on to the receiver
  rw [← loaded, recorded, air.shorts, Shorts.disabledRxEnable_exchange] at step
  have served := serviceRadio_of_service (s := s.later) step
  rw [store_none] at served
  obtain ⟨passed, exchanging⟩ := h.interrupted served fits
    (by simp only [Radio.interruptPending, air.interrupt, Bool.and_self])
  refine ⟨_, passed, ?_, rfl, rfl, rfl, rfl⟩
  have seen : v = s.view f := h.view.symm
  rw [seen] at exchanging ⊢
  exact exchanging

/-- A round after which the exchange of a packet without acknowledgement is complete. -/
theorem Exchanging.sent (h : s.Exchanging f v) (phase : s.radio.phase = .tx)
    (noAcks : f.config.ackEnabled = false)
    (room : v.air.history.length < Overflow.transmissions.limit)
    (fits : v.air.historyFull = false) :
    ∃ t, s.round = (t, none) ∧
      t.Exchanging f { v with air := v.air.afterSending 0 1 ⟨f.config.channel, v.packet⟩ } ∧
      t.completed = true := by
  obtain ⟨air, -⟩ := h.flying.onAir_of_tx phase
  obtain ⟨u, passed, exchanging, transfer, -⟩ := h.transmitted phase room fits
  refine ⟨_, passed, exchanging, ?_⟩
  rw [handleInterrupt_txInFlight (by rw [transfer, air.transfer]), transfer, air.transfer, noAcks,
    if_neg (by simp), completePacket_eq]

/-! ## The acknowledgement -/

/-- The acknowledgement of a flight is waited for, with so much in view; the given response to the
packet is on its way, and the timeout has not fired. -/
structure Listening (f : Flight) (v : View) (response : AirResponse) (s : Station) : Prop
    extends s.Exchanging f v where
  awaits : s.transfer.state = .awaitingAck
  response : s.radio.pending = some response
  inTime : s.radio.compareFired = false

/-- A send that has just turned to listening awaits its acknowledgement. -/
theorem Listening.awaiting (h : s.Listening f v response) : s.Awaiting f := by
  cases h.flying.stage with
  | onAir air => exact absurd h.awaits (by simp [air.transfer])
  | awaiting wait => exact wait
  | complete done => exact absurd (h.awaits.symm.trans done.transfer) (by simp)

/-- While the receiver is on, its interrupt has not been raised. -/
theorem Awaiting.unhandled (h : s.Awaiting f) (on : s.radio.phase ≠ .disabled) :
    s.radio.events.disabled = false := by
  rcases h.progress with ⟨unhandled, -⟩ | ⟨-, off⟩
  · exact unhandled
  · exact absurd off on

/-- A round after which the acknowledgement of the packet is waited for. -/
theorem Exchanging.sentForAck (h : s.Exchanging f v) (phase : s.radio.phase = .tx)
    (acks : f.config.ackEnabled = true) (pending : s.radio.pending = some response)
    (room : v.air.history.length < Overflow.transmissions.limit)
    (fits : v.air.historyFull = false) :
    ∃ t, s.round = (t, none) ∧
      t.Listening f { v with air := v.air.afterSending 0 1 ⟨f.config.channel, v.packet⟩ }
        response ∧
      t.radio.phase = .rxRampUp ∧ t.clock = s.clock + roundTime := by
  obtain ⟨air, -⟩ := h.flying.onAir_of_tx phase
  obtain ⟨u, passed, exchanging, transfer, pending', phase', clock⟩ := h.transmitted phase room fits
  -- clock, phase and pending response are those that the radio has left to the handler
  obtain ⟨-, sameClock, samePhase, samePending, -⟩ := u.handleInterrupt_view f
  have handled : u.handleInterrupt = u.awaitAck.acknowledge := by
    rw [handleInterrupt_txInFlight (by rw [transfer, air.transfer]), transfer, air.transfer, acks,
      if_pos rfl]
  refine ⟨_, passed, ⟨exchanging, ?_, samePending.trans (pending'.trans pending), ?_⟩, ?_,
    sameClock.trans clock⟩
  · rw [handled, awaitAck_eq]
  · rw [handled, awaitAck_eq]
  · rw [samePhase, phase', acks, if_pos rfl]

/-- A round in which the receiver comes up. -/
theorem Listening.rampedUp (h : s.Listening f v response) (phase : s.radio.phase = .rxRampUp)
    (responsive : v.air.unresponsive = false) (fits : v.air.historyFull = false) :
    ∃ t, s.round = (t, none) ∧ t.Listening f v response ∧ t.radio.phase = .rx ∧
      t.clock = s.clock + roundTime := by
  have wait := h.awaiting
  have unhandled := wait.unhandled (by simp [phase])
  have surroundings : s.radio.air = v.air := congrArg View.air h.view
  have starts : s.radio.shorts.contains .readyStart = true := by rw [wait.shorts]; simp
  have step := Radio.service_rxRampUp unhandled phase starts (surroundings ▸ responsive)
    s.later.loaded
  have served := serviceRadio_of_service (s := s.later) step
  rw [store_none] at served
  obtain ⟨passed, exchanging⟩ := h.uninterrupted served (surroundings ▸ fits)
    (Radio.interruptPending_of_unhandled unhandled)
  refine ⟨_, passed, ⟨?_, h.awaits, h.response, h.inTime⟩, rfl, rfl⟩
  have seen : v = s.view f := h.view.symm
  rw [seen]
  exact exchanging

/-- What the exchange of a flight has come to: what was heard, if anything. -/
structure Heard (f : Flight) (v : View) (heard : Option Answer) (s : Station) : Prop
    extends s.Exchanging f v where
  completed : s.completed = true
  timeout : s.transfer.timeout = heard.isNone
  crcOk : s.radio.crcOk = heard.any Answer.crcOk

/-- A round after which the wait for the acknowledgement is over. -/
theorem Exchanging.acknowledged (h : s.Exchanging f v) (heard : Option Answer)
    (step : s.later.serviceRadio = u) (room : u.radio.air.historyFull = false)
    (waiting : u.radio.interruptPending = true) (awaits : u.transfer.state = .awaitingAck)
    (timeout : u.radio.compareFired = heard.isNone)
    (crcOk : u.radio.crcOk = heard.any Answer.crcOk) :
    s.round = (u.handleInterrupt, none) ∧ u.handleInterrupt.Heard f (u.view f) heard := by
  obtain ⟨passed, exchanging⟩ := h.interrupted step room waiting
  obtain ⟨-, -, -, -, sameCrc⟩ := u.handleInterrupt_view f
  have handled : u.handleInterrupt = u.completeAck.acknowledge := handleInterrupt_awaitingAck awaits
  refine ⟨passed, exchanging, ?_, ?_, sameCrc.trans crcOk⟩
  · rw [handled, completeAck_eq]
  · rw [handled, completeAck_eq]
    exact timeout

/-- A round in which nothing is heard until the timeout. -/
theorem Listening.timedOut (h : s.Listening f v response) (phase : s.radio.phase = .rx)
    (fits : v.air.historyFull = false) (silent : response.answer v.air.lastPid = none) :
    ∃ t, s.round = (t, none) ∧ t.Heard f v none := by
  have wait := h.awaiting
  have unhandled := wait.unhandled (by simp [phase])
  have surroundings : s.radio.air = v.air := congrArg View.air h.view
  have route : s.radio.routes.compareToDisable = true := by rw [wait.routes]
  have step := Radio.service_rx_unanswered unhandled phase h.response h.flying.programmed.timer
    route (surroundings ▸ silent) s.later.loaded
  have served := serviceRadio_of_service (s := s.later) step
  rw [store_none] at served
  obtain ⟨passed, heard⟩ := h.acknowledged none served (surroundings ▸ fits)
    (by simp only [Radio.interruptPending, wait.interrupt, Bool.and_self]) h.awaits rfl rfl
  have seen : v = s.view f := h.view.symm
  rw [seen]
  exact ⟨_, passed, heard⟩

/-- A round in which an answer comes in. -/
theorem Listening.answered (h : s.Listening f v response) (phase : s.radio.phase = .rx)
    (fits : v.air.historyFull = false) {answer : Answer}
    (heard : response.answer v.air.lastPid = some answer) :
    ∃ t, s.round = (t, none) ∧ t.Heard f (v.hearing (some answer)) (some answer) := by
  have wait := h.awaiting
  have unhandled := wait.unhandled (by simp [phase])
  have surroundings : s.radio.air = v.air := congrArg View.air h.view
  have ends : s.radio.shorts.contains .endDisable = true := by rw [wait.shorts]; simp
  have closes : s.radio.shorts.contains .disabledRxEnable = false := by rw [wait.shorts]; simp
  have step := Radio.service_rx_answered unhandled phase h.response ends closes
    (surroundings ▸ heard) s.later.loaded
  have served := serviceRadio_of_service (s := s.later) step
  simp only [store, later, wait.buffer] at served
  obtain ⟨passed, heard⟩ := h.acknowledged (some answer) served (surroundings ▸ fits)
    (by simp only [Radio.interruptPending, wait.interrupt, Bool.and_self]) h.awaits h.inTime rfl
  have seen : v = s.view f := h.view.symm
  rw [seen]
  simp only [view, Pool.get_set_self, Pool.get_set_of_ne _ h.flying.apart] at heard
  exact ⟨_, passed, heard⟩

/-! ## Whole exchanges -/

/-- While an exchange is neither complete nor late, a look at the flight changes nothing. -/
theorem Exchanging.still (h : s.Exchanging f v) (unfinished : s.completed = false)
    (early : s.clock < f.deadline) (purpose : Purpose) :
    (Activity.sending f purpose).poll s = (s, .waiting (.sending f purpose)) := by
  have checked : s.checkFlight f = (s, .waiting f) := by
    simp [Station.checkFlight, unfinished, early]
  have kept : s.setLocked true = s := by
    rw [← h.locked]
    rfl
  simp only [Activity.poll, checkSend, checked, withLock, Progress.holdsLock, Activity.holdsLock,
    kept]

/-- **An exchange with an acknowledgement takes three rounds.** The packet is recorded; the answer,
if there is one, is in the acknowledgement buffer. -/
theorem Exchanging.heard (h : s.Exchanging f v) (phase : s.radio.phase = .tx)
    (acks : f.config.ackEnabled = true) (pending : s.radio.pending = some response)
    (responsive : v.air.unresponsive = false)
    (room : v.air.history.length < Overflow.transmissions.limit)
    (fits : v.air.historyFull = false) (stamped : v.packet.pid = f.pid)
    (early : s.clock + 2 * roundTime < f.deadline) :
    ∃ t, t.Heard f
        (View.hearing { v with air := v.air.afterSending 0 1 ⟨f.config.channel, v.packet⟩ }
          (response.answer f.pid)) (response.answer f.pid) ∧
      ∀ purpose, (Activity.sending f purpose).Reaches 2 s (.sending f purpose) t := by
  obtain ⟨s₁, passed₁, listening₁, phase₁, clock₁⟩ := h.sentForAck phase acks pending room fits
  obtain ⟨s₂, passed₂, listening₂, phase₂, clock₂⟩ := listening₁.rampedUp phase₁ responsive fits
  -- the two looks in between find the exchange unfinished and not late
  have still₁ := listening₁.still listening₁.awaiting.completed (by omega)
  have still₂ := listening₂.still listening₂.awaiting.completed (by omega)
  have last : (v.air.afterSending 0 1 ⟨f.config.channel, v.packet⟩).lastPid = f.pid := by
    simp [Air.lastPid, Air.afterSending, stamped]
  -- the third round has two outcomes, and both are what `View.hearing` makes of the response
  have third : ∃ t, s₂.round = (t, none) ∧ t.Heard f
      (View.hearing { v with air := v.air.afterSending 0 1 ⟨f.config.channel, v.packet⟩ }
        (response.answer f.pid)) (response.answer f.pid) := by
    rcases answered : response.answer f.pid with - | answer
    · exact listening₂.timedOut phase₂ fits (last ▸ answered)
    · exact listening₂.answered phase₂ fits (last ▸ answered)
  obtain ⟨t, passed₃, heard⟩ := third
  exact ⟨t, heard, fun purpose =>
    .onward passed₁ (still₁ purpose) (.onward passed₂ (still₂ purpose) (.first passed₃))⟩

/-- A round in which the radio hangs. -/
theorem Exchanging.stuck (h : s.Exchanging f v) (phase : s.radio.phase = .wedged)
    (fits : v.air.historyFull = false) :
    s.round = (s.later, none) ∧ s.later.Exchanging f v ∧ s.later.completed = false := by
  have surroundings : s.radio.air = v.air := congrArg View.air h.view
  have served : s.later.serviceRadio = s.later :=
    serviceRadio_of_still (Radio.service_wedged phase _)
  -- only a packet on air can hang
  have hanging : s.radio.events.disabled = false ∧ s.completed = false := by
    cases h.flying.stage with
    | onAir air =>
      rcases air.progress with ⟨unhandled, -⟩ | ⟨-, -, other⟩
      · exact ⟨unhandled, air.completed⟩
      · rw [phase] at other
        split at other <;> simp at other
    | awaiting wait =>
      rcases wait.progress with ⟨-, -, other | other⟩ | ⟨-, other⟩ <;>
        exact absurd (phase.symm.trans other) (by simp)
    | complete done => exact absurd (phase.symm.trans done.phase) (by simp)
  obtain ⟨passed, exchanging⟩ := h.uninterrupted served (surroundings ▸ fits)
    (Radio.interruptPending_of_unhandled hanging.1)
  exact ⟨passed, h.view ▸ exchanging, hanging.2⟩

/-- **An exchange that hangs stays as it is until it is late.** The induction is on the rounds that
are left until then. -/
theorem Exchanging.hangs (h : s.Exchanging f v) (phase : s.radio.phase = .wedged)
    (fits : v.air.historyFull = false) (m : Nat)
    (late : f.deadline ≤ s.clock + (m + 1) * roundTime) :
    ∃ t, t.Exchanging f v ∧ t.radio.phase = .wedged ∧ t.completed = false ∧
      f.deadline ≤ t.clock ∧
      ∃ k ≤ m, ∀ purpose, (Activity.sending f purpose).Reaches k s (.sending f purpose) t := by
  induction m generalizing s with
  | zero =>
    obtain ⟨passed, exchanging, unfinished⟩ := h.stuck phase fits
    exact ⟨s.later, exchanging, phase, unfinished, by simpa [later] using late, 0, Nat.le_refl 0,
      fun _ => .first passed⟩
  | succ m ih =>
    obtain ⟨passed, exchanging, unfinished⟩ := h.stuck phase fits
    -- not late yet: the look after this round changes nothing, and one round less is left
    by_cases early : s.later.clock < f.deadline
    · have left : f.deadline ≤ s.later.clock + (m + 1) * roundTime := by
        simp only [later, Nat.add_mul] at late ⊢
        omega
      obtain ⟨t, exchanging', phase', unfinished', overdue, k, short, reached⟩ :=
        ih exchanging phase left
      exact ⟨t, exchanging', phase', unfinished', overdue, k + 1, by omega, fun purpose =>
        .onward passed (exchanging.still unfinished early purpose) (reached purpose)⟩
    · exact ⟨s.later, exchanging, phase, unfinished, by omega, 0, Nat.zero_le _,
        fun _ => .first passed⟩

end Station

end BurstLink
