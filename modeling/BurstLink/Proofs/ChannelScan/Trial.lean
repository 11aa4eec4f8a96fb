import BurstLink.Proofs.Packets.Buffers
import BurstLink.Proofs.Retry.Send

/-! # Channels tried by hand

What a channel scan does can be done by hand: one moves the link to a channel, sends the payload,
and goes on with the next channel until enough of them have acknowledged.

Main definitions:

* **`Trial`**, **`Station.tryOn`** — one channel tried by hand.
* **`Station.trials`** — one channel after the other.
* **`Station.Outlook`** — what the end of a send depends on, besides its packet.

Main statements: two sends of the same payload with the same outlook end alike
(`Station.forecast_of_outlook`), and a trial ends as forecast unless it overflows the transmission
history (`Station.Standby.tryOn`). -/

namespace BurstLink

/-- The packet with as much of a payload as one packet can carry. -/
def Packet.carrying (bytes : List UInt8) : Packet := .ofPayload (.truncate bytes)

/-- What a packet carries announces no more bytes than one packet can. -/
theorem Packet.length_carrying (bytes : List UInt8) :
    (Packet.carrying bytes).length.toNat ≤ maxPayload := by
  have fits : (bytes.take maxPayload).length ≤ maxPayload := List.length_take_le ..
  show (UInt8.ofNat (bytes.take maxPayload).length).toNat ≤ maxPayload
  rw [UInt8.toNat_ofNat']
  exact Nat.le_trans (Nat.mod_le ..) fits

/-! ## Trials -/

/-- One channel tried by hand. -/
structure Trial where
  /-- The channel. -/
  channel : UInt8
  /-- The station once its link has moved to the channel. -/
  before : Station
  /-- How the send was answered. -/
  reaction : Reaction
  /-- The station after the send. -/
  after : Station

namespace Trial

/-- The send was acknowledged. One that ended with a failure was not. -/
def acked (trial : Trial) : Bool :=
  match trial.reaction with
  | .finished ⟨_, .ok (.exchanged outcome _), _⟩ => outcome.acked
  | _ => false

/-- The transmission history had room for the frames of the send. -/
def fits (trial : Trial) : Bool :=
  match trial.reaction with
  | .overflow _ => false
  | _ => true

/-- A send that fits does not end in an overflow. -/
theorem not_overflow_of_fits {trial : Trial} (h : trial.fits = true) {overflow : Overflow} :
    trial.reaction ≠ .overflow overflow := by
  intro overflows
  rw [fits, overflows] at h
  exact absurd h (by simp)

/-- The channels that acknowledged, in the order in which they were tried. -/
def hits (trials : List Trial) : List UInt8 := (trials.filter acked).map channel

end Trial

/-- Moves the link to a channel. -/
def Station.moveTo (channel : UInt8) (s : Station) : Bench :=
  ((Bench.ofStation s).execute (.perform none (.request (.change (.channel channel))) true)).1

/-- Moves the link to a channel, and sends as much of a payload as one packet can carry. -/
def Station.tryOn (bytes : List UInt8) (channel : UInt8) (s : Station) : Trial :=
  let moved := s.moveTo channel
  let sent := moved.execute (.perform none (.request (.sendPayload (bytes.take maxPayload))) true)
  ⟨channel, moved.station, sent.2, sent.1.station⟩

/-- Tries one channel after the other, each with the station that the one before left, until so many
of them were acknowledged. -/
def Station.trials (bytes : List UInt8) : Nat → List UInt8 → Station → List Trial
  | 0, _, _ => []
  | _ + 1, [], _ => []
  | wanted + 1, channel :: left, s =>
    let trial := s.tryOn bytes channel
    trial :: trial.after.trials bytes (if trial.acked then wanted else wanted + 1) left

namespace Station

variable {s t : Station} {packet packet' ack ack' : Packet} {channel : UInt8} {bytes : List UInt8}

/-! ## What the end of a send depends on -/

/-- What the end of a send depends on, besides its packet. -/
structure Outlook where
  /-- The link. -/
  link : Link
  /-- The surroundings of the radio. -/
  air : Air
  /-- The signal strength in the register. -/
  rssi : UInt8

/-- The outlook of a station. -/
def outlook (s : Station) : Outlook := ⟨s.link, s.radio.air, s.radio.rssi⟩

/-- The outlook after a send. -/
def outlookAfterSend (packet ack : Packet) (s : Station) : Outlook :=
  ⟨(s.forecast packet ack).link, (s.forecast packet ack).air, s.rssiForecast⟩

/-- **Sends of the same payload with the same outlook end alike.** Neither what is left in the
acknowledgement buffer from before nor an earlier identifier of the packet makes a difference. -/
theorem forecast_of_outlook (same : s.outlook = t.outlook) (alike : packet.Alike packet')
    (ack ack' : Packet) :
    (s.forecast packet ack).result = (t.forecast packet' ack').result ∧
      s.outlookAfterSend packet ack = t.outlookAfterSend packet' ack' := by
  have link : s.link = t.link := congrArg Outlook.link same
  have air : s.radio.air = t.radio.air := congrArg Outlook.air same
  have rssi : s.radio.rssi = t.radio.rssi := congrArg Outlook.rssi same
  unfold outlookAfterSend forecast rssiForecast losesPacket
  rw [link, air, rssi]
  cases t.link.draws.loss t.link.config.packetLossPercent with
  | true => exact ⟨rfl, rfl⟩
  | false =>
    unfold forecastOnAir rssiOnAir
    rw [link, air, rssi]
    dsimp only
    rw [alike.setPid_eq]
    cases t.radio.air.decisive? t.link.config t.link.pid with
    | none => exact ⟨rfl, rfl⟩
    | some k =>
      by_cases hangs : t.radio.air.response k = .wedged
      · simp [hangs]
      · simp [hangs]

/-- What every forecast has in common, for a packet sent from a station: an outcome or a radio that
got stuck; configuration and payload as they are; and some responses used up for some frames on the
channel. -/
structure Forecasts (packet : Packet) (forecast : Forecast) (s : Station) : Prop where
  result : (∃ outcome, forecast.result = .ok outcome) ∨ forecast.result = .error .hardwareStuck
  config : forecast.link.config = s.link.config
  payload : forecast.packet.Alike packet
  air : ∃ responses frames, forecast.air = s.radio.air.afterSending responses frames
    ⟨s.link.config.channel, packet.setPid s.link.pid⟩

/-- A lost packet, a decided send and an exhausted one have this in common. -/
theorem forecasts (packet ack : Packet) (s : Station) :
    s.Forecasts packet (s.forecast packet ack) := by
  unfold forecast
  dsimp only
  split
  · exact ⟨.inl ⟨_, rfl⟩, rfl, .refl _, 0, 0, by simp [Air.afterSending]⟩
  · have stamped : (packet.setPid s.link.pid).Alike packet := Packet.alike_setPid ..
    unfold forecastOnAir
    dsimp only
    split
    · exact ⟨.inl ⟨_, rfl⟩, rfl, stamped, _, _, rfl⟩
    · split
      · exact ⟨.inr rfl, rfl, stamped, _, _, rfl⟩
      · refine ⟨.inl ⟨_, rfl⟩, ?_, stamped, _, _, rfl⟩
        dsimp only
        split <;> rfl

/-- The outlook of a send that is over as forecast. -/
theorem Landing.outlook {rounds : Nat} {f g : Flight} {s' u : Station}
    (h : s.Landing (u.forecast packet ack) u.rssiForecast rounds f g t s') :
    s'.outlook = u.outlookAfterSend packet ack := by
  unfold Station.outlook
  rw [h.fulfils.link, h.fulfils.air, h.rssi]
  rfl

/-- A send that is over leaves the link on standby. -/
theorem Landing.standby {forecast : Forecast} {rssi : UInt8} {rounds : Nat} {f g : Flight}
    {s' : Station} (h : s.Landing forecast rssi rounds f g t s') : s'.Standby True := by
  have checked := h.flying.checkFlight
  rw [h.looked] at checked
  exact Landed.toStandby checked

/-- Handing buffers back leaves the outlook alone. -/
theorem outlook_releaseBuffers (s : Station) : s.releaseBuffers.outlook = s.outlook := by
  unfold releaseBuffers
  split <;> rfl

/-! ## A trial -/

/-- The first step of a trial moves the link to the channel. -/
theorem Standby.moveTo (h : s.Standby True) (free : s.locked = false)
    (inRange : channel ≤ maxChannel) :
    (s.moveTo channel).jobs = [] ∧ (s.moveTo channel).station.Standby True ∧
      (s.moveTo channel).station.locked = false ∧
      (s.moveTo channel).station.outlook = (s.tune channel).outlook := by
  have answer : (Request.change (.channel channel)).answer? = none := by
    show Request.refusal? (checkChannel channel) = none
    rw [checkChannel, if_neg (UInt8.not_lt.mpr inRange)]
    rfl
  -- the change is over at its first look, as the lock is free
  have looked : (Activity.queued (.change (.channel channel))).poll s =
      ((s.changeConfig (.channel channel)).setLocked false, .finished (.ok .done)) := by
    rw [Activity.poll_queued_of_free free answer rfl]
    rfl
  have moved := Bench.execute_perform_of_alone (b := .ofStation s)
    (.request (.change (.channel channel))) rfl rfl (.ends looked) (Nat.zero_le _)
  have jobs : (s.moveTo channel).jobs = [] :=
    congrArg (fun found : Bench × Reaction => found.1.jobs) moved
  have station : (s.moveTo channel).station =
      ((s.changeConfig (.channel channel)).setLocked false).releaseBuffers :=
    congrArg (fun found : Bench × Reaction => found.1.station) moved
  have link : (s.changeConfig (.channel channel)).link = (s.tune channel).link :=
    link_storeConfig ..
  have ready : (s.changeConfig (.channel channel)).ready = .ok () := by
    rw [ready_eq_ok_iff, link]
    exact ⟨h.initialized, h.noCarrier⟩
  -- a station at rest whose link is ready can only be on standby
  have rest : s.AtRest True True := .standby h
  have standby : (s.changeConfig (.channel channel)).Standby True :=
    (rest.changeConfig _).standby_of_ready ready
  rw [station]
  refine ⟨jobs, ?_, releaseBuffers_locked _, ?_⟩
  · exact (releaseBuffers_agree _).standby ((setLocked_agree ..).standby standby)
  · rw [outlook_releaseBuffers]
    show (s.changeConfig (.channel channel)).outlook = _
    unfold changeConfig storeConfig
    dsimp only
    split <;> rfl

/-- A send from standby with buffers of its own goes as forecast unless the history has no room for
its frames. -/
theorem Standby.send_endsAfter (h : s.Standby True) {p a : Buffer} (apart : p ≠ a)
    (loaded : s.buffers.get p = packet) (empty : s.buffers.get a = ack)
    (short : packet.length.toNat ≤ maxPayload)
    (responsive : s.radio.air.unresponsive = false) (withAck : Bool) :
    (∃ n ≤ 3 * s.link.config.attempts + exchangeTimeout + 1, ∃ s',
      EndsAfter n (withLock (s.startSend p a withAck)) ((s.forecast packet ack).reply withAck) s' ∧
      s'.Standby True ∧ s'.locked = false ∧ s'.outlook = s.outlookAfterSend packet ack ∧
      (s.losesPacket = false → s.HasRoomFor (s.forecast packet ack))) ∨
    ∃ n ≤ 3 * s.link.config.attempts, ∃ s₁ activity,
      withLock (s.startSend p a withAck) = (s₁, .waiting activity) ∧
      activity.Overflows n s₁ .transmissions := by
  have ready : s.ready = .ok () := (ready_eq_ok_iff s).mpr ⟨h.initialized, h.noCarrier⟩
  cases lost : s.losesPacket with
  | true =>
    obtain ⟨started, forecast⟩ := startSend_of_lost ready loaded empty short lost withAck
    have rssi : s.rssiForecast = s.radio.rssi := by simp [rssiForecast, lost]
    have looked : withLock (s.startSend p a withAck) =
        (((s.withDraws (s.link.draws.afterLoss s.link.config.packetLossPercent)).note
          .packetLost).setLocked false, .finished ((s.forecast packet ack).reply withAck)) := by
      rw [started]
      rfl
    rw [looked]
    refine .inl ⟨0, Nat.zero_le _, _, .now, ?_, rfl, ?_, fun spared => absurd spared (by simp)⟩
    · exact (setLocked_agree ..).standby ((note_agree ..).standby ((draws_agree ..).standby h))
    · unfold outlookAfterSend
      rw [forecast, rssi]
      rfl
  | false =>
    obtain ⟨s₁, f, launched, -, -, ends⟩ :=
      h.launch_goesThrough apart loaded empty short lost responsive
    have looked : withLock (s.startSend p a withAck) =
        (s₁.setLocked true, .waiting (.sending f (.single withAck))) := by
      rw [Station.startSend, launched]
      rfl
    rw [looked]
    rcases ends with ⟨room, n, patient, g, t, s', landing⟩ | ⟨-, n, patient, overflows⟩
    · exact .inl ⟨n + 1, by omega, _, landing.endsAfter withAck,
        (setLocked_agree ..).standby landing.standby, rfl, landing.outlook, fun _ => room⟩
    · exact .inr ⟨n, patient, _, _, rfl, overflows _⟩

/-- A send of as much of a payload as one packet can carry starts with that packet. -/
theorem poll_sendPayload_take (free : s.locked = false) (bytes : List UInt8) :
    (Activity.queued (.sendPayload (bytes.take maxPayload))).poll s =
      withLock ((s.withBuffers (.carrying bytes) .empty).startSend
        (s.buffers.add (.carrying bytes)).2
        ((s.buffers.add (.carrying bytes)).1.add .empty).2 true) := by
  have short : (bytes.take maxPayload).length ≤ maxPayload := List.length_take_le ..
  have answer : (Request.sendPayload (bytes.take maxPayload)).answer? = none := by
    show Request.refusal? ((Payload.ofBytes (bytes.take maxPayload)).map fun _ => ()) = none
    rw [Payload.ofBytes, dif_pos short]
    rfl
  have carried : Packet.ofPayload (.truncate (bytes.take maxPayload)) = .carrying bytes := by
    have same : Payload.truncate (bytes.take maxPayload) = .truncate bytes := by
      simp [Payload.truncate, List.take_take]
    rw [same]
    rfl
  rw [Activity.poll_queued_of_free free answer rfl, ← carried]
  rfl

/-- A payload sent on a bench without jobs. -/
theorem Standby.execute_sendPayload {b : Bench} (h : b.station.Standby True) (idle : b.jobs = [])
    (free : b.station.locked = false) (responsive : b.station.radio.air.unresponsive = false)
    (bytes : List UInt8) :
    let found := b.execute (.perform none (.request (.sendPayload (bytes.take maxPayload))) true)
    found.2 = .overflow .transmissions ∨
      found.2 =
        .finished ⟨none, (b.station.forecast (.carrying bytes) .empty).reply true, none⟩ ∧
      found.1.station.Standby True ∧ found.1.station.locked = false ∧
      found.1.station.outlook = b.station.outlookAfterSend (.carrying bytes) .empty ∧
      (b.station.losesPacket = false →
        b.station.HasRoomFor (b.station.forecast (.carrying bytes) .empty)) := by
  have single : (b.enlist none (.request (.sendPayload (bytes.take maxPayload)))).jobs =
      [⟨none, none, .queued (.sendPayload (bytes.take maxPayload))⟩] := by
    show b.jobs ++ _ = _
    rw [idle]
    rfl
  -- the two buffers that the request brings are the last ones
  have ends := Standby.send_endsAfter (s := b.station.withBuffers (.carrying bytes) .empty)
    ((buffers_agree ..).standby h)
    (added_apart b.station.buffers (.carrying bytes) .empty)
    (b.station.buffers.get_add_add (.carrying bytes) .empty)
    ((b.station.buffers.add (.carrying bytes)).1.get_add_self .empty)
    (Packet.length_carrying bytes) responsive true
  have patient : 3 * b.station.link.config.attempts + exchangeTimeout + 1 ≤
      Bench.patience (.queued (.sendPayload (bytes.take maxPayload))) :=
    Bench.patience_send b.station.link.config ⟨0⟩ ⟨0⟩
  rw [← poll_sendPayload_take free bytes] at ends
  intro found
  rcases ends with ⟨n, few, s', ends, standby, free', outlook, room⟩ |
    ⟨n, few, s₁, rest, goesOn, overflows⟩
  · have enough : n ≤ Bench.patience (.queued (.sendPayload (bytes.take maxPayload))) :=
      Nat.le_trans few patient
    have ran := Bench.execute_perform_of_alone _ single rfl ends.alone enough
    have reaction : found.2 = _ := congrArg Prod.snd ran
    have station : found.1.station = s'.releaseBuffers :=
      congrArg (fun found : Bench × Reaction => found.1.station) ran
    refine .inr ⟨reaction, ?_⟩
    rw [station, releaseBuffers_locked, outlook_releaseBuffers]
    exact ⟨(releaseBuffers_agree _).standby standby, free', outlook, room⟩
  -- the limit of the history is met while an attempt is on air, before any deadline
  · have fewer : n ≤ 3 * b.station.link.config.attempts := few
    have enough : n ≤ Bench.patience (.queued (.sendPayload (bytes.take maxPayload))) := by omega
    exact .inl (Bench.execute_perform_of_overflows _ single goesOn overflows enough)

/-- **A trial ends as forecast, unless it overflows the transmission history.** -/
theorem Standby.tryOn (h : s.Standby True) (free : s.locked = false)
    (inRange : channel ≤ maxChannel) (responsive : s.radio.air.unresponsive = false)
    (bytes : List UInt8) :
    let trial := s.tryOn bytes channel
    trial.before.Standby True ∧ trial.before.outlook = (s.tune channel).outlook ∧
      (trial.reaction ≠ .overflow .transmissions →
        trial.reaction =
          .finished ⟨none, (trial.before.forecast (.carrying bytes) .empty).reply true, none⟩ ∧
        trial.after.Standby True ∧ trial.after.locked = false ∧
        trial.after.outlook = trial.before.outlookAfterSend (.carrying bytes) .empty ∧
        (trial.before.losesPacket = false →
          trial.before.HasRoomFor (trial.before.forecast (.carrying bytes) .empty))) := by
  obtain ⟨idle, standby, free', outlook⟩ := h.moveTo free inRange
  unfold Station.tryOn
  generalize s.moveTo channel = moved at idle standby free' outlook ⊢
  have air : moved.station.radio.air = s.radio.air := congrArg Outlook.air outlook
  have sent := standby.execute_sendPayload idle free' (air ▸ responsive) bytes
  exact ⟨standby, outlook, fun fits => sent.resolve_left fits⟩

end Station

end BurstLink
