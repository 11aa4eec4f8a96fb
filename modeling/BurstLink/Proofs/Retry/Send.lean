import BurstLink.Proofs.Retry.Landing

/-! # A send ends as forecast

A send whose packet is lost is over at once; one whose packet is spared goes through its attempts.

Main definition: **`Forecast.reply`** — the answer to a send that ends as forecast.

Main statement: every send that has the bench to itself ends as forecast
(`Bench.Reachable.perform_send_eq_forecast`). -/

namespace BurstLink

/-- What a send answers that goes as forecast. -/
def Forecast.reply (withAck : Bool) (forecast : Forecast) : Result :=
  forecast.result.map fun outcome =>
    if withAck then .exchanged outcome forecast.ack else .sent outcome

namespace Station

variable {s₀ s t : Station} {f : Flight} {packet ack : Packet} {draws : Draws}

/-- The first attempt starts from standby. -/
theorem Standby.attempting {p a : Buffer} (h : s.Standby True) (apart : p ≠ a)
    (link : s.link = { s₀.link with draws := draws }) (radio : s.radio = s₀.radio)
    (loaded : s.buffers.get p = packet) (empty : s.buffers.get a = ack) :
    s₀.Attempting packet ack draws (s.takeOff p a).2 ((s.takeOff p a).1.setLocked true) := by
  have standby : (s.stamped p).Standby True := (stamp_agree p s).standby h
  -- the stamp goes into the packet, not into the buffer for its acknowledgement
  have untouched : (s.buffers.modify p (Packet.setPid s.link.pid)).get a = s.buffers.get a :=
    Pool.get_set_of_ne _ apart.symm _
  have stamp : (s.buffers.modify p (Packet.setPid s.link.pid)).get p =
      (s.buffers.get p).setPid s.link.pid := Pool.get_set_self ..
  have unsent : s₀.radio.air.afterSending 0 0
      ⟨s₀.link.config.channel, packet.setPid s₀.link.pid⟩ = s₀.radio.air := by
    simp [Air.afterSending]
  have view : (s.stamped p).view ⟨p, a, s.link.pid, s.link.config, 0, 0⟩ =
      s₀.viewAfter packet ack draws 0 := by
    show (⟨{ s.link with pid := s.link.pid.next }, s.radio.air, s.radio.rssi,
      (s.buffers.modify p (Packet.setPid s.link.pid)).get p,
      (s.buffers.modify p (Packet.setPid s.link.pid)).get a⟩ : View) = _
    unfold viewAfter
    rw [stamp, untouched, loaded, empty, link, radio, unsent]
    rfl
  obtain ⟨exchanging, sends, deadline⟩ :=
    standby.fly (f := ⟨p, a, s.link.pid, s.link.config, 0, 0⟩) apart rfl view
  have next : (s₀.viewAfter packet ack draws 0).air.nextResponse =
      (s₀.radio.air.response 0, s₀.radio.air.afterSending (0 + 1) 0
        ⟨s₀.link.config.channel, packet.setPid s₀.link.pid⟩) :=
    Air.nextResponse_afterSending ..
  rw [next] at exchanging sends
  have config : s.link.config = s₀.link.config := by rw [link]
  have pid : s.link.pid = s₀.link.pid := by rw [link]
  exact ⟨config, pid, exchanging, sends, deadline⟩

/-- The station with other words to draw. -/
def withDraws (draws : Draws) (s : Station) : Station :=
  s.onLink fun link => { link with draws := draws }

/-- The start of a send whose packet has a length that fits and is not lost. -/
theorem launch_of_spared {p a : Buffer} (ready : s.ready = .ok ())
    (short : (s.buffers.get p).length.toNat ≤ maxPayload) (spared : s.losesPacket = false) :
    s.launch p a =
      let t := s.withDraws (s.link.draws.afterLoss s.link.config.packetLossPercent)
      ((t.takeOff p a).1, .flying (t.takeOff p a).2) := by
  unfold losesPacket at spared
  simp only [Station.launch, ready, Nat.not_lt.mpr short, if_false, drawLoss, Draws.loses_eq,
    spared]
  rfl

/-- The start of a send whose packet is lost. -/
theorem launch_of_lost {p a : Buffer} (ready : s.ready = .ok ())
    (short : (s.buffers.get p).length.toNat ≤ maxPayload) (lost : s.losesPacket = true) :
    s.launch p a =
      let t := s.withDraws (s.link.draws.afterLoss s.link.config.packetLossPercent)
      (t.note .packetLost, .lost) := by
  unfold losesPacket at lost
  simp only [Station.launch, ready, Nat.not_lt.mpr short, if_false, drawLoss, Draws.loses_eq, lost]
  rfl

/-- The start of a send whose packet is lost. -/
theorem startSend_of_lost {p a : Buffer} (ready : s.ready = .ok ())
    (loaded : s.buffers.get p = packet) (empty : s.buffers.get a = ack)
    (short : packet.length.toNat ≤ maxPayload) (lost : s.losesPacket = true) (withAck : Bool) :
    s.startSend p a withAck =
      ((s.withDraws (s.link.draws.afterLoss s.link.config.packetLossPercent)).note .packetLost,
        .finished ((s.forecast packet ack).reply withAck)) ∧
    s.forecast packet ack =
      { result := .ok .lost
        link := { s.link with draws := s.link.draws.afterLoss s.link.config.packetLossPercent }
        air := s.radio.air
        packet := packet
        ack := ack } := by
  subst loaded empty
  have forecast : s.forecast (s.buffers.get p) (s.buffers.get a) = _ := if_pos lost
  refine ⟨?_, forecast⟩
  rw [Station.startSend, launch_of_lost ready short lost, forecast]
  rfl

/-- A send whose packet is lost is over with the first look. -/
theorem alone_of_lost {p a : Buffer} (free : s.locked = false) (ready : s.ready = .ok ())
    (loaded : s.buffers.get p = packet) (empty : s.buffers.get a = ack)
    (short : packet.length.toNat ≤ maxPayload) (lost : s.losesPacket = true) :
    ∃ s', (Activity.queued (.send p a)).Alone 0 s ((s.forecast packet ack).result.map .sent) s' ∧
      s'.link = (s.forecast packet ack).link ∧ s'.radio = s.radio ∧
      s'.transfer = s.transfer ∧ s'.buffers.get p = (s.forecast packet ack).packet ∧
      s'.buffers.get a = (s.forecast packet ack).ack := by
  obtain ⟨started, forecast⟩ := startSend_of_lost ready loaded empty short lost false
  have looked : (Activity.queued (.send p a)).poll s =
      (((s.withDraws (s.link.draws.afterLoss s.link.config.packetLossPercent)).note
        .packetLost).setLocked false, .finished ((s.forecast packet ack).result.map .sent)) := by
    rw [Activity.poll_queued_of_free free rfl rfl, Station.start, started]
    rfl
  refine ⟨_, .ends looked, ?_⟩
  rw [forecast]
  exact ⟨rfl, rfl, rfl, loaded, empty⟩

/-- The start of a send whose packet is spared: it is in progress, and goes through as forecast. -/
theorem Standby.launch_goesThrough {p a : Buffer} (h : s.Standby True) (apart : p ≠ a)
    (loaded : s.buffers.get p = packet) (empty : s.buffers.get a = ack)
    (short : packet.length.toNat ≤ maxPayload) (spared : s.losesPacket = false)
    (responsive : s.radio.air.unresponsive = false) :
    ∃ s₁ f, s.launch p a = (s₁, .flying f) ∧ f.packet = p ∧ f.ack = a ∧
      s.GoesThrough (s.forecast packet ack) s.rssiForecast s.link.config.attempts f
        (s₁.setLocked true) := by
  have ready : s.ready = .ok () := (ready_eq_ok_iff s).mpr ⟨h.initialized, h.noCarrier⟩
  have forecast : s.forecast packet ack = s.forecastOnAir packet ack
      (s.link.draws.afterLoss s.link.config.packetLossPercent) := by
    unfold Station.forecast
    simp only [spared, Bool.false_eq_true, if_false]
  have rssi : s.rssiForecast = s.rssiOnAir := by
    unfold Station.rssiForecast
    simp only [spared, Bool.false_eq_true, if_false]
  rw [forecast, rssi]
  have launched := launch_of_spared ready (loaded ▸ short) spared (a := a)
  generalize s.link.draws.afterLoss s.link.config.packetLossPercent = draws at launched ⊢
  have attempting : s.Attempting packet ack draws ((s.withDraws draws).takeOff p a).2
      (((s.withDraws draws).takeOff p a).1.setLocked true) :=
    ((draws_agree draws s).standby h).attempting apart rfl rfl loaded empty
  -- there is an attempt, and none before it
  have positive : 0 < s.link.config.attempts := by
    unfold LinkConfig.attempts
    split <;> omega
  have ends := attempting.goesThrough (fun j earlier => absurd earlier (Nat.not_lt_zero j))
    positive responsive (Nat.le_max_right ..)
  exact ⟨_, _, launched, rfl, rfl, ends⟩

/-- A look at a send of its own that finds it over. -/
theorem Landing.endsAfter {forecast : Forecast} {rssi : UInt8} {rounds : Nat} {g : Flight}
    {s' : Station} (h : s.Landing forecast rssi rounds f g t s') (withAck : Bool) :
    EndsAfter (rounds + 1) (s, .waiting (.sending f (.single withAck))) (forecast.reply withAck)
      (s'.setLocked false) := by
  have looked := poll_sending_of_finished withAck h.looked
  have reply : (forecast.result.map fun outcome => s'.replyToSend g.ack withAck outcome) =
      forecast.reply withAck := by
    have heard : s'.buffers.get g.ack = forecast.ack := h.ack ▸ h.fulfils.ack
    unfold Station.replyToSend Forecast.reply
    rw [heard]
  rw [reply] at looked
  have after := (h.reached (.single withAck)).alone (.ends looked)
  rw [Nat.zero_add] at after
  exact .later after

/-- A send whose packet is spared goes through its attempts. -/
theorem AtRest.alone_of_spared {p a : Buffer} (h : s.AtRest True True) (apart : p ≠ a)
    (free : s.locked = false) (ready : s.ready = .ok ())
    (loaded : s.buffers.get p = packet) (empty : s.buffers.get a = ack)
    (short : packet.length.toNat ≤ maxPayload) (spared : s.losesPacket = false)
    (responsive : s.radio.air.unresponsive = false) (fits : s.radio.air.historyFull = false)
    (room : (s.forecast packet ack).air.history.length ≤ Overflow.transmissions.limit) :
    ∃ n ≤ 3 * s.link.config.attempts + exchangeTimeout + 1, ∃ s',
      (Activity.queued (.send p a)).Alone n s ((s.forecast packet ack).result.map .sent) s' ∧
      s'.link = (s.forecast packet ack).link ∧ s'.radio.air = (s.forecast packet ack).air ∧
      s'.buffers.get p = (s.forecast packet ack).packet ∧
      s'.buffers.get a = (s.forecast packet ack).ack := by
  obtain ⟨s₁, f, launched, rfl, rfl, ends⟩ :=
    (h.standby_of_ready ready).launch_goesThrough apart loaded empty short spared responsive
  have fitting : s.HasRoomFor (s.forecast packet ack) :=
    ⟨fits, Nat.le_trans room (Nat.le_max_left ..)⟩
  obtain ⟨-, n, patient, g, t, s', landing⟩ :=
    ends.resolve_right fun overflows => overflows.1 fitting
  have looked : (Activity.queued (.send f.packet f.ack)).poll s =
      (s₁.setLocked true, .waiting (.sending f (.single false))) := by
    rw [Activity.poll_queued_of_free free rfl rfl, Station.start, Station.startSend, launched]
    rfl
  have ends := landing.endsAfter false
  rw [← looked] at ends
  obtain ⟨link, air, sent, answer⟩ := landing.fulfils
  exact ⟨n + 1, by omega, _, ends.alone, link, air, sent, answer⟩

/-- Handing buffers back leaves link, surroundings and buffers alone. -/
theorem releaseBuffers_leaves (s : Station) : s.releaseBuffers.link = s.link ∧
    s.releaseBuffers.radio.air = s.radio.air ∧ s.releaseBuffers.buffers = s.buffers := by
  unfold releaseBuffers
  split <;> exact ⟨rfl, rfl, rfl⟩

end Station

/-- There are at most as many attempts as an eight-bit count of retries admits. -/
theorem LinkConfig.attempts_le (c : LinkConfig) : c.attempts ≤ 256 := by
  have small := c.arc.toNat_lt
  unfold attempts
  split <;> omega

/-- No send takes more rounds than there is patience for it. -/
theorem Bench.patience_send (c : LinkConfig) (p a : Buffer) :
    3 * c.attempts + exchangeTimeout + 1 ≤ patience (.queued (.send p a)) := by
  have few := c.attempts_le
  show _ ≤ 256 * sendPatience
  unfold sendPatience exchangeTimeout roundTime
  omega

/-- The station with two more buffers, as a send of its own leaves it when it is asked for. -/
def Station.withBuffers (packet ack : Packet) (s : Station) : Station :=
  { s with buffers := ((s.buffers.add packet).1.add ack).1 }

/-- Asking for a send on a bench without jobs, when it is known how the send ends on its own. -/
theorem Bench.execute_send_of_alone {s s' : Station} {packet ack : Packet} {n : Nat}
    {result : Result} {p a : Buffer} (first : p = (s.buffers.add packet).2)
    (second : a = ((s.buffers.add packet).1.add ack).2)
    (alone : (Activity.queued (.send p a)).Alone n (s.withBuffers packet ack) result s')
    (patient : n ≤ patience (.queued (.send p a))) :
    (Bench.ofStation s).execute (.perform none (.send packet ack) true) =
      ({ station := s'.releaseBuffers
         ended := [⟨none, result, some (s'.buffers.get p, s'.buffers.get a)⟩] },
        .finished ⟨none, result, some (s'.buffers.get p, s'.buffers.get a)⟩) := by
  have single : ((Bench.ofStation s).enlist none (.send packet ack)).jobs =
      [⟨none, some (p, a), .queued (.send p a)⟩] := by
    rw [first, second]
    rfl
  exact execute_perform_of_alone (.send packet ack) single rfl alone patient

/-- **A send that has the bench to itself ends as forecast.** The station is that of any reachable
bench whose lock is free and whose link is up without a carrier; the receiver responds, and the
transmission history has room for the frames. -/
theorem Bench.Reachable.perform_send_eq_forecast {b : Bench} (h : b.Reachable)
    (free : b.station.locked = false) (up : b.station.link.initialized = true)
    (noCarrier : b.station.link.carrier = false) (packet ack : Packet)
    (short : packet.length.toNat ≤ maxPayload)
    (responsive : b.station.radio.air.unresponsive = false)
    (fits : b.station.radio.air.historyFull = false)
    (room : (b.station.forecast packet ack).air.history.length ≤ Overflow.transmissions.limit) :
    let forecast := b.station.forecast packet ack
    ∃ b', (Bench.ofStation b.station).execute (.perform none (.send packet ack) true) =
        (b', .finished ⟨none, forecast.result.map .sent, some (forecast.packet, forecast.ack)⟩) ∧
      b'.jobs = [] ∧ b'.station.link = forecast.link ∧ b'.station.radio.air = forecast.air ∧
      (b.station.losesPacket = true → b'.station.radio = b.station.radio.setBuffer none) := by
  intro forecast
  have rest : (b.station.withBuffers packet ack).AtRest True True := by
    obtain ⟨holder, -, custody⟩ := h.sound.custody
    cases holder with
    | none => exact (Station.buffers_agree ..).atRest custody.2
    | some activity => exact absurd (free.symm.trans custody.1) (by simp)
  have ready : (b.station.withBuffers packet ack).ready = .ok () :=
    (Station.ready_eq_ok_iff _).mpr ⟨up, noCarrier⟩
  have loaded := b.station.buffers.get_add_add packet ack
  have empty := (b.station.buffers.add packet).1.get_add_self ack
  -- a packet that is lost by simulation never gets to the radio, so the send is over at its first
  -- look
  cases lost : b.station.losesPacket with
  | true =>
    obtain ⟨s', alone, link, radio, transfer, packet', ack'⟩ :=
      Station.alone_of_lost (s := b.station.withBuffers packet ack) free ready loaded empty short
        lost
    have run := execute_send_of_alone rfl rfl alone (Nat.zero_le _)
    obtain ⟨link', air', -⟩ := s'.releaseBuffers_leaves
    rw [packet', ack'] at run
    refine ⟨_, run, rfl, link'.trans link, ?_, fun _ => ?_⟩
    · have same : forecast.air = b.station.radio.air := by
        show (b.station.forecast packet ack).air = _
        unfold Station.forecast
        rw [lost]
        rfl
      rw [same]
      exact air'.trans (congrArg Radio.air radio)
    · have idle : s'.transfer.state = .idle := by
        rw [transfer]
        exact rest.calm.transfer
      show s'.releaseBuffers.radio = _
      unfold Station.releaseBuffers
      rw [if_pos idle]
      show s'.radio.setBuffer none = _
      rw [radio]
      rfl
  | false =>
    -- otherwise the rounds are as many as the attempts need, for which the bench has the patience
    obtain ⟨n, patient, s', alone, link, air, packet', ack'⟩ :=
      rest.alone_of_spared (Station.added_apart b.station.buffers packet ack) free ready loaded
        empty short lost responsive fits room
    have run := execute_send_of_alone rfl rfl alone
      (Nat.le_trans patient (patience_send b.station.link.config ..))
    obtain ⟨link', air', -⟩ := s'.releaseBuffers_leaves
    rw [packet', ack'] at run
    exact ⟨_, run, rfl, link'.trans link, air'.trans air, fun never => absurd never (by simp)⟩

/-- A send right after one that was given up while its acknowledgement was on its way. Only the
third answer counts: the first one has a bad checksum, the second one the identifier of the send
before. -/
theorem Bench.send_after_abandoned_send :
    let b := (Bench.ofStation (.withFrontEnd .zeros)).after
      [.ask none (.request (.switchMode .link)), .look 0,
        .ask none (.request (.change (.ackPidCheck true))), .look 0,
        .ask none (.request (.sendPayload [7])), .look 0, .pump, .pump, .giveUp 0,
        .arrange (.schedule [.corruptAck, .staleAck 4, .staleAck 5])]
    ∃ b', (Bench.ofStation b.station).execute (.perform none (.send .empty .empty) true) =
        (b', .finished ⟨none, .ok (.sent ⟨true, 60, 2⟩),
          some (Packet.empty.setPid ⟨1⟩, .sentWith ⟨1⟩ .empty)⟩) ∧
      b'.station.link.pid = ⟨2⟩ ∧ b'.station.radio.air.script = [] ∧
      b'.station.radio.air.history.length = 4 := by
  intro b
  have reachable : b.Reachable := (Bench.Reachable.startUp ⟨.zeros, .inl rfl⟩).after _ (by decide)
  obtain ⟨b', run, -, link, air, -⟩ := reachable.perform_send_eq_forecast (by decide +kernel)
    (by decide +kernel) (by decide +kernel) .empty .empty (by decide) (by decide +kernel)
    (by decide +kernel) (by decide +kernel)
  have result : (b.station.forecast .empty .empty).result = .ok ⟨true, 60, 2⟩ := rfl
  have packet : (b.station.forecast .empty .empty).packet = Packet.empty.setPid ⟨1⟩ := by
    decide +kernel
  have ack : (b.station.forecast .empty .empty).ack = .sentWith ⟨1⟩ .empty := by decide +kernel
  rw [result, packet, ack] at run
  refine ⟨b', run, ?_⟩
  rw [link, air]
  exact ⟨by decide +kernel, by decide +kernel, by decide +kernel⟩

end BurstLink
