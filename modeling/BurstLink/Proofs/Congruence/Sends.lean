import BurstLink.Proofs.Congruence.Modes

/-! # Sends under a congruence

Two sends with buffers that belong together go the same way: the same draw decides about a loss, the
same acknowledgement is accepted, and the same reply is given. So do two channel scans.

Main statements: `Station.Congruence.launch`, `Station.Congruence.checkFlight`,
`Station.Congruence.scanOn` and `Station.Congruence.checkSend`. -/

namespace BurstLink.Station.Congruence

variable {pair : Buffer → Buffer → Prop} {far : Nat → Nat → Prop} {R : Station → Station → Prop}
  (c : Congruence pair far R) {s t : Station} {packet packet' ack ack' : Buffer} {f f' : Flight}
include c

/-! ## One exchange -/

/-- **An exchange starts alike**: the radios point at packets that belong together, and so do the
places for the acknowledgement. -/
theorem startExchange (h : R s t) (sent : pair packet packet') (answered : pair ack ack')
    (ackRequired : Bool) :
    R (s.startExchange packet ack ackRequired) (t.startExchange packet' ack' ackRequired) := by
  have begun := c.onTransfer (c.onBuffer h answered Packet.clear) (f := fun _ =>
    { state := .txInFlight, ackRequired := ackRequired }) fun _ _ => rfl
  have placed := c.setAck begun answered
  rw [onTransfer_onTransfer, onTransfer_onTransfer] at placed
  have armed := c.write (c.setCompleted placed false) (f := fun r =>
    ((r.clearEvent .disabled).clearEvent .frameEnd).setInterrupt true
      |>.enableShorts (if ackRequired then .txThenRx else .txOnce)
      |>.setRoute .endToCapture true
      |>.setRoute .addressToCapture true) fun _ _ _ => rfl
  have pointed := c.setBuffer armed sent
  rw [onRadio_onRadio, onRadio_onRadio] at pointed
  exact c.trigger (c.setPa pointed true) .txEnable

/-- A completed exchange is taken notice of. -/
theorem finishExchange (h : R s t) : R s.finishExchange t.finishExchange :=
  c.write (c.setCompleted h false) fun _ _ _ => rfl

/-- What was received counts as the acknowledgement on both stations, or on neither. -/
theorem accepts (h : R s t) (alike : f.Alike pair far f') : s.accepts f = t.accepts f' := by
  have timeout := (c.shares h).transfers (f := fun transfer => transfer.timeout) fun _ _ => rfl
  have crcOk := (c.shares h).reads (f := fun r => r.crcOk) fun _ _ _ => rfl
  have heard := c.packets h alike.ack
  unfold Station.accepts
  rw [timeout, crcOk, alike.config, alike.pid, heard]

/-! ## A whole send -/

/-- An exchange of a send starts alike, and counts as stuck after the same time. -/
theorem fly (h : R s t) (alike : f.Alike pair far f') :
    Concur R (Flight.Alike pair far) (s.fly f) (t.fly f') := by
  unfold Station.fly
  rw [← alike.config]
  exact ⟨c.startExchange h alike.packet alike.ack _,
    { alike with config := rfl, deadline := c.after h exchangeTimeout }⟩

/-- The first exchange of a send starts alike, with the same identifier. -/
theorem takeOff (h : R s t) (sent : pair packet packet') (answered : pair ack ack') :
    Concur R (Flight.Alike pair far) (s.takeOff packet ack) (t.takeOff packet' ack') := by
  have stamped := c.onLink (c.onBuffer h sent (Packet.setPid s.link.pid))
    fun link => { link with pid := link.pid.next }
  -- the take-off writes a placeholder for the deadline, which `fly` replaces
  have alike : Flight.Alike pair far ⟨packet, ack, s.link.pid, s.link.config, 0, s.clock⟩
      ⟨packet', ack', s.link.pid, s.link.config, 0, t.clock⟩ :=
    ⟨sent, answered, rfl, rfl, rfl, c.after h 0⟩
  unfold Station.takeOff
  rw [← (c.shares h).link]
  have flown := c.fly stamped alike
  exact flown

/-- The same draw decides about a loss. -/
theorem drawLoss (h : R s t) (percent : UInt8) :
    (s.drawLoss percent).1 = (t.drawLoss percent).1 ∧
      R (s.drawLoss percent).2 (t.drawLoss percent).2 := by
  unfold Station.drawLoss
  rw [← (c.shares h).link]
  exact ⟨rfl, c.onLink h fun link => { link with draws := (s.link.draws.loses percent).2 }⟩

/-- **Two sends with buffers that belong together start alike.** -/
theorem launch (h : R s t) (sent : pair packet packet') (answered : pair ack ack') :
    Concur R (Launch.Agree pair far) (s.launch packet ack) (t.launch packet' ack') := by
  unfold Station.launch
  rw [← (c.shares h).ready]
  rcases s.ready with failure | _
  · exact ⟨h, .refused failure⟩
  dsimp only
  rw [← c.packets h sent, ← (c.shares h).link]
  refine rel_ite .rfl ⟨h, .refused _⟩ ?_
  obtain ⟨same, drawn⟩ := c.drawLoss h s.link.config.packetLossPercent
  generalize s.drawLoss s.link.config.packetLossPercent = draw at same drawn ⊢
  generalize t.drawLoss s.link.config.packetLossPercent = draw' at same drawn ⊢
  obtain ⟨lost, s₁⟩ := draw
  obtain ⟨lost', t₁⟩ := draw'
  obtain rfl : lost = lost' := same
  cases lost with
  | true => exact ⟨c.note drawn _, .lost⟩
  | false =>
    obtain ⟨flown, alike⟩ := c.takeOff drawn sent answered
    exact ⟨flown, .flying alike⟩

/-- A send ends with the same outcome. -/
theorem land (h : R s t) (alike : f.Alike pair far f') (acked : Bool) :
    Concur R Eq (s.land f acked) (t.land f' acked) := by
  have rssi := (c.shares h).reads (f := fun r => r.rssi) fun _ _ _ => rfl
  unfold Station.land
  dsimp only
  rw [← alike.config, ← alike.retries, ← (c.shares h).link, ← rssi]
  refine rel_ite .rfl ?_ ⟨h, rfl⟩
  obtain ⟨same, drawn⟩ := c.drawLoss h s.link.config.ackLossPercent
  generalize s.drawLoss s.link.config.ackLossPercent = draw at same drawn ⊢
  generalize t.drawLoss s.link.config.ackLossPercent = draw' at same drawn ⊢
  obtain ⟨lost, s₁⟩ := draw
  obtain ⟨lost', t₁⟩ := draw'
  obtain rfl : lost = lost' := same
  cases lost with
  | true => exact ⟨c.note drawn _, rfl⟩
  | false => exact ⟨drawn, rfl⟩

/-- **A send goes on alike.** The branches of a look depend on nothing but what is read on both
stations. -/
theorem checkFlight (h : R s t) (alike : f.Alike pair far f') :
    Concur R (Look.Agree (Flight.Alike pair far)) (s.checkFlight f) (t.checkFlight f') := by
  have finished := c.finishExchange h
  have accepted := c.accepts finished alike
  have acked := c.land finished alike true
  have exhausted := c.land finished alike false
  have stuck := c.forceIdle (c.note h .exchangeStuck) f.config
  have counted : Flight.Alike pair far { f with retries := f.retries + 1 }
      { f' with pid := f.pid, config := f.config, retries := f.retries + 1 } :=
    ⟨alike.packet, alike.ack, rfl, rfl, rfl, alike.deadline⟩
  have again := c.fly (c.note finished (.retry (f.retries + 1) f.pid)) counted
  unfold Station.checkFlight
  rw [← alike.config, ← alike.retries, ← alike.pid]
  refine rel_ite (by rw [(c.shares h).completed]) ?_
    (rel_ite (c.due h alike.deadline) ⟨stuck, rfl⟩ ⟨h, alike⟩)
  refine rel_ite (by rw [accepted]) ⟨acked.stations, acked.found⟩ ?_
  exact rel_ite .rfl ⟨again.stations, again.found⟩ ⟨exhausted.stations, exhausted.found⟩

/-! ## Channel scans -/

/-- The link moves to a channel. -/
theorem tune (h : R s t) (channel : UInt8) : R (s.tune channel) (t.tune channel) :=
  c.write (c.onLink h _) fun _ _ _ => rfl

/-- **The same channels are tried.** The induction is on the channels that are left; a packet on air
ends it. -/
theorem scanOn (h : R s t) (sent : pair packet packet') (answered : pair ack ack')
    (first last : UInt8) (hits left : List UInt8) :
    Concur R (Look.Agree (ChannelScan.Alike pair far)) (s.scanOn packet ack first last hits left)
      (t.scanOn packet' ack' first last hits left) := by
  induction left generalizing s t with
  | nil => exact ⟨c.note h _, rfl⟩
  | cons channel left ih =>
    obtain ⟨launched, agree⟩ := c.launch (c.tune h channel) sent answered
    unfold Station.scanOn
    generalize (s.tune channel).launch packet ack = found at launched agree ⊢
    generalize (t.tune channel).launch packet' ack' = found' at launched agree ⊢
    obtain ⟨s₁, start⟩ := found
    obtain ⟨t₁, start'⟩ := found'
    cases agree with
    | refused failure => exact ⟨launched, rfl⟩
    | lost => exact ih launched
    | flying alike => exact ⟨launched, alike, rfl⟩

/-- What follows the end of a channel agrees. -/
theorem scoreScan (h : R s t) (alike : f.Alike pair far f') (scan : ChannelScan)
    (result : Except Failure Outcome) :
    Concur R (Look.Agree (ChannelScan.Alike pair far)) (s.scoreScan f scan result)
      (t.scoreScan f' scan result) := by
  have goesOn := fun hits =>
    c.scanOn h alike.packet alike.ack scan.first scan.last hits scan.left
  rcases result with failure | outcome
  · cases failure with
    | hardwareStuck => exact goesOn scan.hits
    | _ => exact ⟨h, rfl⟩
  · exact rel_ite .rfl (rel_ite .rfl ⟨c.note h _, rfl⟩ (goesOn _)) (goesOn scan.hits)

/-! ## Sends as operations -/

/-- The same reply, whichever buffers are used. -/
theorem replyToSend (h : R s t) (answered : pair ack ack') (withAck : Bool) (outcome : Outcome) :
    s.replyToSend ack withAck outcome = t.replyToSend ack' withAck outcome := by
  unfold Station.replyToSend
  rw [c.packets h answered]

/-- A send of its own starts alike. -/
theorem startSend (h : R s t) (sent : pair packet packet') (answered : pair ack ack')
    (withAck : Bool) :
    Concur R (Look.Agree (Activity.Alike pair far)) (s.startSend packet ack withAck)
      (t.startSend packet' ack' withAck) := by
  obtain ⟨launched, agree⟩ := c.launch h sent answered
  unfold Station.startSend
  generalize s.launch packet ack = found at launched agree ⊢
  generalize t.launch packet' ack' = found' at launched agree ⊢
  obtain ⟨s₁, start⟩ := found
  obtain ⟨t₁, start'⟩ := found'
  cases agree with
  | refused failure => exact ⟨launched, rfl⟩
  | lost => exact ⟨launched, congrArg Except.ok (c.replyToSend launched answered withAck .lost)⟩
  | flying alike => exact ⟨launched, .sending alike _⟩

/-- **A look at a send, or at a channel scan, finds the same on both stations.** -/
theorem checkSend (h : R s t) (alike : f.Alike pair far f') (purpose : Purpose) :
    Concur R (Look.Agree (Activity.Alike pair far)) (s.checkSend f purpose)
      (t.checkSend f' purpose) := by
  obtain ⟨looked, agree⟩ := c.checkFlight h alike
  unfold Station.checkSend
  generalize s.checkFlight f = found at looked agree ⊢
  generalize t.checkFlight f' = found' at looked agree ⊢
  -- looks that agree do not turn out in different ways
  obtain ⟨s₁, rest | result⟩ := found <;> obtain ⟨t₁, rest' | result'⟩ := found'
  · exact ⟨looked, .sending agree purpose⟩
  · exact absurd agree id
  · exact absurd agree id
  · obtain rfl : result = result' := agree
    cases purpose with
    | single withAck =>
      refine ⟨looked, ?_⟩
      rcases result with failure | outcome
      · rfl
      · exact congrArg Except.ok (c.replyToSend looked alike.ack withAck outcome)
    | scan scan =>
      obtain ⟨scored, agree⟩ := c.scoreScan looked alike scan result
      exact ⟨scored, agree.map _ fun _ _ same => same.scan ▸ .sending same.flight _⟩

end BurstLink.Station.Congruence
