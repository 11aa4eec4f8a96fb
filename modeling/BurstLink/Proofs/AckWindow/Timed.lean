import BurstLink.Proofs.AckWindow.Launch
import BurstLink.Proofs.Retry.Attempt

/-! # The timing of an attempt

The timer counts while a frame is on air and while an acknowledgement is waited for, and at no other
time. So the timer count at each stage of an attempt is known from the one at its start, from the
length of its packet, and from the response to it. All counts are modulo 2³².

Main definitions:

* **`Attempt`** — what decides the timing: `Attempt.packetEnd`, `Attempt.deadline`,
  `Attempt.finish`.
* **`Station.Timed`** — the stages of an attempt with what the timer shows at each.

Main statements: an attempt starts on time (`Station.timed_fly`), and a step of the radio and its
interrupt handler keep it so (`Station.Timed.serviceRadio`, `Station.Timed.pump`). -/

namespace BurstLink

/-! ## Attempts -/

/-- What decides the timing of an attempt that asks for an acknowledgement. -/
structure Attempt where
  /-- The timer count at its start. -/
  start : UInt32
  /-- The data bytes of its packet. -/
  length : UInt8
  /-- The response to the packet. -/
  response : AirResponse

namespace Attempt

/-- The timer count at the end of the packet. -/
def packetEnd (a : Attempt) : UInt32 := a.start + 40 + 4 * a.length.toUInt32

/-- The timer count from which the acknowledgement counts as missing. -/
def deadline (a : Attempt) : UInt32 := a.packetEnd + 500

/-- The frame that answers the packet. Neither length nor checksum depend on the identifier. -/
def answer? (a : Attempt) : Option Answer := a.response.answer .zero

/-- The timer count at the end of the attempt. -/
def finish (a : Attempt) : UInt32 :=
  match a.answer? with
  | some answer => a.packetEnd + 170 + 4 * answer.packet.length.toUInt32
  | none => a.deadline

variable {a : Attempt} {echo : Pid}

/-- A frame comes back whatever the identifier of the packet is, or for none. -/
theorem answer?_of_none (silent : a.response.answer echo = none) : a.answer? = none := by
  unfold answer?
  cases response : a.response with
  | silence | wedged => rfl
  | _ => simp [response, AirResponse.answer] at silent

/-- It has the same length and checksum whatever the identifier is. -/
theorem answer?_of_some {answer : Answer} (heard : a.response.answer echo = some answer) :
    ∃ answer', a.answer? = some answer' ∧ answer'.packet.length = answer.packet.length ∧
      answer'.crcOk = answer.crcOk := by
  unfold answer?
  cases response : a.response with
  | silence | wedged => simp [response, AirResponse.answer] at heard
  | _ =>
    rw [response] at heard
    obtain rfl := Option.some.inj heard
    exact ⟨_, rfl, rfl, rfl⟩

end Attempt

namespace Station

variable {s t : Station} {f : Flight} {a : Attempt}

/-! ## Stages -/

/-- An attempt has ended. The timeout flag is there to be read, and is set if nothing was heard. -/
structure Ended (a : Attempt) (s : Station) : Prop where
  state : s.transfer.state = .idle
  completed : s.completed = true
  now : s.radio.now = a.finish
  latched : s.radio.endCapture = a.packetEnd
  armed : s.radio.armedDeadline = some a.deadline
  timeout : s.transfer.timeout = a.answer?.isNone
  crcOk : s.radio.crcOk = a.answer?.any Answer.crcOk

/-- The stages of an attempt that asks for an acknowledgement, with what the timer shows at each. -/
inductive Timed (a : Attempt) (f : Flight) (s : Station) : Prop
  /-- The packet is on air, or the radio hangs. -/
  | sending (state : s.transfer.state = .txInFlight)
      (unhandled : s.radio.events.disabled = false)
      (now : s.radio.now = a.start) (length : (s.buffers.get f.packet).length = a.length)
      (response : s.radio.Sends a.response)
  /-- The packet is out, and its interrupt waits to be handled. -/
  | sent (state : s.transfer.state = .txInFlight) (raised : s.radio.events.disabled = true)
      (now : s.radio.now = a.packetEnd) (latched : s.radio.endCapture = a.packetEnd)
      (response : s.radio.pending = some a.response)
  /-- The acknowledgement is waited for. No timeout has fired, and the compare channel holds the
  deadline, not the count at which the address of some frame went by. -/
  | listening (state : s.transfer.state = .awaitingAck)
      (unhandled : s.radio.events.disabled = false)
      (now : s.radio.now = a.packetEnd) (latched : s.radio.endCapture = a.packetEnd)
      (armed : s.radio.armedDeadline = some a.deadline) (compare : s.radio.compare = a.deadline)
      (unfired : s.radio.compareFired = false) (response : s.radio.pending = some a.response)
  /-- The acknowledgement is in or has timed out, and its interrupt waits to be handled. -/
  | heard (state : s.transfer.state = .awaitingAck) (raised : s.radio.events.disabled = true)
      (now : s.radio.now = a.finish) (latched : s.radio.endCapture = a.packetEnd)
      (armed : s.radio.armedDeadline = some a.deadline)
      (fired : s.radio.compareFired = a.answer?.isNone)
      (crcOk : s.radio.crcOk = a.answer?.any Answer.crcOk)
  /-- The exchange is complete. -/
  | complete (h : s.Ended a)

/-- The stage at which the exchange is complete. -/
theorem Timed.ended (h : s.Timed a f) (flying : s.InFlight True f)
    (completed : s.completed = true) : s.Ended a := by
  have idle : s.transfer.state = .idle := by
    cases flying.stage with
    | onAir air => exact absurd (completed.symm.trans air.completed) (by simp)
    | awaiting wait => exact absurd (completed.symm.trans wait.completed) (by simp)
    | complete done => exact done.transfer
  cases h with
  | sending other | sent other | listening other | heard other =>
    exact absurd (idle.symm.trans other) (by simp)
  | complete h => exact h

/-- The same stage on a station that differs in nothing that an exchange is about. -/
theorem Timed.agree (h : s.Timed a f) (agree : Agree True s t) (now : t.radio.now = s.radio.now)
    (packet : t.buffers.get f.packet = s.buffers.get f.packet) : t.Timed a f := by
  have registers := agree.registers
  have same : ∀ {α : Type} (field : Registers → α),
      (∀ r buffer, field { r with buffer := buffer } = field r) →
        field t.radio.toRegisters = field s.radio.toRegisters := by
    intro α field blind
    rw [← registers, blind]
  have events := same (fun r => r.events.disabled) fun _ _ => rfl
  have phase := same Registers.phase fun _ _ => rfl
  have pending := same Registers.pending fun _ _ => rfl
  have latched := same Registers.endCapture fun _ _ => rfl
  have armed := same Registers.armedDeadline fun _ _ => rfl
  have compare := same Registers.compare fun _ _ => rfl
  have fired := same Registers.compareFired fun _ _ => rfl
  have crcOk := same Registers.crcOk fun _ _ => rfl
  have transfer : t.transfer = s.transfer := agree.transfer.symm
  cases h with
  | sending state unhandled now' length response =>
    refine .sending (transfer ▸ state) (events.trans unhandled) (now.trans now')
      (packet ▸ length) ?_
    unfold Radio.Sends at response ⊢
    rw [phase, pending]
    exact response
  | sent state raised now' latched' response =>
    exact .sent (transfer ▸ state) (events.trans raised) (now.trans now') (latched.trans latched')
      (pending.trans response)
  | listening state unhandled now' latched' armed' compare' unfired response =>
    exact .listening (transfer ▸ state) (events.trans unhandled) (now.trans now')
      (latched.trans latched') (armed.trans armed') (compare.trans compare') (fired.trans unfired)
      (pending.trans response)
  | heard state raised now' latched' armed' fired' crcOk' =>
    exact .heard (transfer ▸ state) (events.trans raised) (now.trans now')
      (latched.trans latched') (armed.trans armed') (fired.trans fired') (crcOk.trans crcOk')
  | complete h =>
    exact .complete ⟨transfer ▸ h.state, agree.completed.symm.trans h.completed, now.trans h.now,
      latched.trans h.latched, armed.trans h.armed, transfer ▸ h.timeout, crcOk.trans h.crcOk⟩

/-! ## The start -/

/-- Told to transmit, the radio lets no time pass. -/
theorem now_trigger_txEnable (r : Radio) : (r.trigger .txEnable).now = r.now := by
  unfold Radio.trigger Radio.enableTx
  split
  · dsimp only
    split
    · split <;> rfl
    · rfl
  · rfl

/-- **An attempt starts on time**, and is answered by the response that is next. -/
theorem timed_fly {g : Flight} {u : Station} {now : UInt32} {air : Air} (shows : u.Shows now air)
    (flying : ((u.fly g).1.setLocked true).InFlight True (u.fly g).2) :
    ((u.fly g).1.setLocked true).Timed
      ⟨now, ((u.fly g).1.buffers.get g.packet).length, air.nextResponse.1⟩ (u.fly g).2 := by
  obtain ⟨begun, -, unhandled, -⟩ := begun_fly g u true
  have radio : (u.fly g).1.radio = (u.armed g.packet g.config.ackEnabled).trigger .txEnable := by
    rw [fly_eq]
  have count : (u.fly g).1.radio.now = now := by
    rw [radio, now_trigger_txEnable, armed_eq]
    exact shows.1
  -- the radio has its power and its shortcuts, and so it takes the response
  have air' : (u.armed g.packet g.config.ackEnabled).air = air := by
    rw [armed_eq]
    exact shows.2
  have kept : (u.fly g).1.radio.powered = (u.armed g.packet g.config.ackEnabled).powered ∧
      (u.fly g).1.radio.shorts = (u.armed g.packet g.config.ackEnabled).shorts := by
    have runs := Radio.runs_trigger .txEnable (u.armed g.packet g.config.ackEnabled)
    rw [radio, runs]
    exact ⟨rfl, rfl⟩
  have air : ((u.fly g).1.setLocked true).OnAir (u.fly g).2 := flying.onAir begun
  have starts : (u.armed g.packet g.config.ackEnabled).shorts.contains .readyStart = true := by
    rw [← kept.2, show (u.fly g).1.radio.shorts = _ from air.shorts]
    simp
  have sends := (Radio.enableTx_sends starts).1
  rw [← Radio.trigger_txEnable (kept.1.symm.trans flying.programmed.powered), ← radio, air']
    at sends
  exact .sending begun unhandled count rfl sends

/-! ## Steps of the radio -/

/-- A step while the packet is on air. -/
theorem Timed.serviced_of_sending (flying : s.InFlight True f)
    (state : s.transfer.state = .txInFlight) (unhandled : s.radio.events.disabled = false)
    (now : s.radio.now = a.start) (length : (s.buffers.get f.packet).length = a.length)
    (response : s.radio.Sends a.response) : s.serviceRadio.Timed a f := by
  have air : s.OnAir f := flying.onAir state
  by_cases hangs : a.response = .wedged
  · have phase : s.radio.phase = .wedged := by
      have sends := response
      unfold Radio.Sends at sends
      rwa [if_pos hangs] at sends
    rw [serviceRadio_of_still (Radio.service_wedged phase _)]
    exact .sending state unhandled now length response
  · unfold Radio.Sends at response
    rw [if_neg hangs] at response
    have loaded : s.loaded = some (s.buffers.get f.packet) := by simp [loaded, air.buffer]
    have ends : s.radio.shorts.contains .endDisable = true := by rw [air.shorts]; simp
    have step := Radio.service_tx unhandled response.1 ends (s.buffers.get f.packet)
    rw [← loaded, air.routes] at step
    have out : s.radio.packetEnd (s.buffers.get f.packet) = a.packetEnd := by
      unfold Radio.packetEnd Radio.dataTicks
      rw [now, length]
      rfl
    rw [serviceRadio_of_service step, store_none]
    exact .sent state rfl out out response.2

/-- A step while the acknowledgement is waited for. -/
theorem Timed.serviced_of_listening (flying : s.InFlight True f)
    (state : s.transfer.state = .awaitingAck) (unhandled : s.radio.events.disabled = false)
    (now : s.radio.now = a.packetEnd) (latched : s.radio.endCapture = a.packetEnd)
    (armed : s.radio.armedDeadline = some a.deadline) (compare : s.radio.compare = a.deadline)
    (unfired : s.radio.compareFired = false) (response : s.radio.pending = some a.response) :
    s.serviceRadio.Timed a f := by
  have wait : s.Awaiting f := flying.awaiting state
  have ends : s.radio.shorts.contains .endDisable = true := by rw [wait.shorts]; simp
  have starts : s.radio.shorts.contains .readyStart = true := by rw [wait.shorts]; simp
  have closes : s.radio.shorts.contains .disabledRxEnable = false := by rw [wait.shorts]; simp
  have route : s.radio.routes.compareToDisable = true := by rw [wait.routes]
  rcases wait.progress with ⟨-, -, rising | on⟩ | ⟨raised, -⟩
  · by_cases deaf : s.radio.air.unresponsive = true
    · rw [serviceRadio_of_still (Radio.service_unresponsive rising deaf _)]
      exact .listening state unhandled now latched armed compare unfired response
    · have step :=
        Radio.service_rxRampUp unhandled rising starts (Bool.not_eq_true _ ▸ deaf) s.loaded
      rw [serviceRadio_of_service step, store_none]
      exact .listening state unhandled now latched armed compare unfired response
  · cases heard : a.response.answer s.radio.air.lastPid with
    | none =>
      -- the timer runs up to the deadline
      have none' := Attempt.answer?_of_none heard
      have step := Radio.service_rx_unanswered unhandled on response flying.programmed.timer route
        heard s.loaded
      rw [serviceRadio_of_service step, store_none]
      refine .heard state rfl ?_ latched armed ?_ ?_
      · unfold Attempt.finish
        rw [none']
        exact compare
      · rw [none']
        rfl
      · rw [none']
        rfl
    | some answer =>
      obtain ⟨answer', some', length, crcOk⟩ := Attempt.answer?_of_some heard
      have step := Radio.service_rx_answered unhandled on response ends closes heard s.loaded
      obtain ⟨buffers, same⟩ := s.serviceRadio_eq
      rw [step, wait.routes] at same
      rw [same]
      refine .heard state rfl ?_ latched armed ?_ ?_
      · unfold Attempt.finish
        rw [some']
        calc s.radio.answerEnd answer.packet
          _ = a.packetEnd + 130 + (40 + 4 * answer.packet.length.toUInt32) := by rw [← now]; rfl
          _ = a.packetEnd + (130 + 40) + 4 * answer.packet.length.toUInt32 := by
            rw [← UInt32.add_assoc, UInt32.add_assoc a.packetEnd]
          _ = a.packetEnd + 170 + 4 * answer'.packet.length.toUInt32 := by rw [length]; rfl
      · rw [some']
        exact unfired
      · rw [some']
        exact crcOk.symm
  · exact absurd (unhandled.symm.trans raised) (by simp)

/-- **A step of the radio** keeps an attempt on time. -/
theorem Timed.serviceRadio (h : s.Timed a f) (flying : s.InFlight True f) :
    s.serviceRadio.Timed a f := by
  -- a radio whose interrupt waits, or whose exchange is complete, stays as it is
  have waits : s.radio.events.disabled = true → s.serviceRadio = s := by
    intro raised
    refine serviceRadio_of_pending ?_
    cases flying.stage with
    | onAir air => simp [Radio.interruptPending, air.interrupt, raised]
    | awaiting wait => simp [Radio.interruptPending, wait.interrupt, raised]
    | complete done => simp [Radio.interruptPending, done.interrupt, raised]
  cases h with
  | sending state unhandled now length response =>
    exact serviced_of_sending flying state unhandled now length response
  | sent state raised now latched response =>
    rw [waits raised]
    exact .sent state raised now latched response
  | listening state unhandled now latched armed compare unfired response =>
    exact serviced_of_listening flying state unhandled now latched armed compare unfired response
  | heard state raised now latched armed fired crcOk =>
    rw [waits raised]
    exact .heard state raised now latched armed fired crcOk
  | complete h =>
    rw [serviceRadio_of_still (Radio.service_disabled (flying.complete h.state).phase _)]
    exact .complete h

/-! ## The interrupt handler -/

/-- **The interrupt handler** keeps an attempt on time: it arms the deadline, and reads the
timeout. -/
theorem Timed.handleInterrupt (h : s.Timed a f) (flying : s.InFlight True f)
    (acks : f.config.ackEnabled = true) (waiting : s.radio.interruptPending = true) :
    s.handleInterrupt.Timed a f := by
  have raised : s.radio.events.disabled = true := by
    simp only [Radio.interruptPending, Bool.and_eq_true] at waiting
    exact waiting.2
  cases h with
  | sending state unhandled => exact absurd (raised.symm.trans unhandled) (by simp)
  | sent state raised now latched response =>
    have required : s.transfer.ackRequired = true := by
      rw [(flying.onAir state).transfer, acks]
    have deadline : s.radio.endCapture + ackGuardTicks = a.deadline := by
      rw [latched]
      rfl
    rw [handleInterrupt_txInFlight state, required, if_pos rfl, awaitAck_eq, deadline]
    exact .listening rfl rfl now latched rfl rfl rfl response
  | listening state unhandled => exact absurd (raised.symm.trans unhandled) (by simp)
  | heard state raised now latched armed fired crcOk =>
    rw [handleInterrupt_awaitingAck state, completeAck_eq]
    exact .complete ⟨rfl, rfl, now, latched, armed, fired, crcOk⟩
  | complete h =>
    have done := flying.complete h.state
    exact absurd (raised.symm.trans done.handled) (by simp)

/-- **A step of the radio and its interrupt** keep an attempt on time. -/
theorem Timed.pump (h : s.Timed a f) (flying : s.InFlight True f)
    (acks : f.config.ackEnabled = true) : s.pump.1.Timed a f := by
  have served := h.serviceRadio flying
  unfold Station.pump
  dsimp only
  split
  · exact served
  · split
    · rename_i waiting
      exact served.handleInterrupt flying.serviceRadio acks waiting
    · exact served

end Station

end BurstLink
