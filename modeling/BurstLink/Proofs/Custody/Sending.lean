import BurstLink.Operation
import BurstLink.Proofs.Custody.Flight

/-! # Sends and channel scans under custody

A send that starts from a station at rest is refused, loses its packet, or puts it on air; looked
at while it is in progress it stays in progress or ends with the link on standby and the radio off.
A channel scan is a row of such sends.

Main statements: `Station.InFlight.checkFlight`, `Station.InFlight.checkSend`, and
`Station.AtRest.startSend`, `Station.AtRest.startSendPayload`, `Station.AtRest.startScan`. -/

namespace BurstLink

namespace Station

variable {delays tears : Prop} {s t : Station} {f : Flight} {packet ack : Buffer}

/-! ## One send -/

/-- A send that has landed has landed for all stations that agree. -/
theorem Landed.agree (h : s.Landed delays) (agree : Agree delays s t) : t.Landed delays where
  toStandby := agree.standby h.toStandby
  phase := by rw [← agree.registers]; exact h.phase

/-- A draw of the loss simulation changes nothing that custody is about. -/
theorem drawLoss_agree (percent : UInt8) (s : Station) :
    Agree delays s (s.drawLoss percent).2 :=
  draws_agree _ s

/-- Ending a send changes nothing that custody is about. -/
theorem land_agree (f : Flight) (acked : Bool) (s : Station) :
    Agree delays s (s.land f acked).1 := by
  unfold land
  dsimp only
  split
  · have drawn : Agree delays s (s.drawLoss s.link.config.ackLossPercent).2 := s.drawLoss_agree _
    split
    · rename_i s' draw
      rw [draw] at drawn
      exact drawn.trans (note_agree ..)
    · rename_i s' draw
      rw [draw] at drawn
      exact drawn
  · exact .refl s

/-- A send that is looked at stays in progress, or ends with the radio off. -/
theorem InFlight.checkFlight (h : s.InFlight delays f) :
    (s.checkFlight f).2.Meets ((s.checkFlight f).1.InFlight delays)
      fun _ => (s.checkFlight f).1.Landed delays := by
  unfold Station.checkFlight
  split
  · rename_i done
    have landed := h.finishExchange done
    have config : s.finishExchange.link.config = f.config := h.config
    generalize s.finishExchange = s' at landed config
    dsimp only
    split
    · exact landed.agree (land_agree ..)
    · split
      -- after a complete exchange the radio is off: the next attempt starts as the first one did
      · refine Standby.startExchange (f := { f with retries := f.retries + 1, deadline := _ })
          ?_ h.apart config
        exact (note_agree ..).standby landed.toStandby
      · exact landed.agree (land_agree ..)
  · split
    · exact ((note_agree ..).inFlight h).forceIdle
    · exact h

/-- What is left of a station after the start of a send: it is refused or loses its packet and
changes nothing that custody is about, or it is in progress. -/
def Launched (delays : Prop) (s : Station) (packet ack : Buffer) : Station × Launch → Prop
  | (t, .refused _) => Agree delays s t
  | (t, .lost) => Agree delays s t
  | (t, .flying f) => t.InFlight delays f ∧ f.packet = packet ∧ f.ack = ack

/-- The station with a stamped packet, and the link at the next identifier. -/
def stamped (packet : Buffer) (s : Station) : Station :=
  (s.onBuffer packet (Packet.setPid s.link.pid)).onLink fun link =>
    { link with pid := link.pid.next }

/-- A send is in progress once its packet has got its identifier and is on air. -/
theorem Standby.takeOff (h : s.Standby delays) (apart : packet ≠ ack) :
    (s.takeOff packet ack).1.InFlight delays (s.takeOff packet ack).2 :=
  ((stamp_agree packet s).standby h).startExchange (f := (s.takeOff packet ack).2) apart rfl

/-- A send from standby. -/
theorem Standby.launch (h : s.Standby delays) (apart : packet ≠ ack) :
    Launched delays s packet ack (s.launch packet ack) := by
  unfold Station.launch
  split
  · exact .refl s
  · dsimp only
    split
    · exact .refl s
    · have drawn : Agree delays s (s.drawLoss s.link.config.packetLossPercent).2 :=
        s.drawLoss_agree _
      split
      · rename_i s' draw
        rw [draw] at drawn
        exact drawn.trans (note_agree ..)
      · rename_i s' draw
        rw [draw] at drawn
        exact ⟨(drawn.standby h).takeOff apart, rfl, rfl⟩

/-- The link is ready if it is up and no carrier is on air. -/
theorem ready_eq_ok_iff (s : Station) :
    s.ready = .ok () ↔ s.link.initialized = true ∧ s.link.carrier = false := by
  unfold ready
  split <;> rename_i up
  · simp_all
  · split <;> simp_all

/-- At rest, the link is ready only on standby. -/
theorem AtRest.standby_of_ready (h : s.AtRest delays tears) (ready : s.ready = .ok ()) :
    s.Standby delays := by
  obtain ⟨initialized, noCarrier⟩ := s.ready_eq_ok_iff.mp ready
  cases h with
  | dark mode h => exact absurd (initialized.symm.trans h.uninitialized) (by simp)
  | standby h => exact h
  | toning h => exact absurd (noCarrier.symm.trans h.carrier) (by simp)
  | torn may h => exact absurd (initialized.symm.trans h.uninitialized) (by simp)
  | carrier h tuned => exact absurd (initialized.symm.trans h.uninitialized) (by simp)
  | gauge h off amplifiers => exact absurd (initialized.symm.trans h.uninitialized) (by simp)

/-- A send from a station at rest. -/
theorem AtRest.launch (h : s.AtRest delays tears) (apart : packet ≠ ack) :
    Launched delays s packet ack (s.launch packet ack) := by
  rcases ready : s.ready with failure | ⟨⟩
  · unfold Station.launch
    rw [ready]
    exact .refl s
  · exact (h.standby_of_ready ready).launch apart

/-! ## Channel scans -/

/-- The link on standby moves to a channel; the phase of the radio stays. -/
theorem Standby.tune (h : s.Standby delays) (channel : UInt8) :
    (s.tune channel).Standby delays ∧ (s.tune channel).radio.phase = s.radio.phase := by
  obtain ⟨powered, formatted, txPower, -, bitrate, address, timer⟩ := h.programmed
  exact ⟨⟨⟨h.calm.interrupt, h.calm.routes, h.calm.transfer, h.calm.completed, h.calm.prompt⟩,
    h.mode, h.initialized, h.noCarrier,
    ⟨powered, formatted, txPower, rfl, bitrate, address, timer⟩, h.shorts, h.off, h.amplifiers⟩,
    rfl⟩

/-- What is left after a part of a scan: one of its sends is in progress, or the link is on standby
with the radio in the given phase. -/
def Scanned (delays : Prop) (phase : Phase) (found : Station × ScanLook) : Prop :=
  found.2.Meets (fun rest => found.1.InFlight delays rest.1)
    fun _ => found.1.Standby delays ∧ found.1.radio.phase = phase

/-- A scan that goes on from standby. The induction is on the channels that are left. -/
theorem Standby.scanOn (h : s.Standby delays) (apart : packet ≠ ack) (first last : UInt8)
    (hits left : List UInt8) :
    Scanned delays s.radio.phase (s.scanOn packet ack first last hits left) := by
  induction left generalizing s with
  | nil => exact ⟨(note_agree ..).standby h, rfl⟩
  | cons channel left ih =>
    obtain ⟨tuned, phase⟩ := h.tune channel
    have launched := tuned.launch apart
    unfold Station.scanOn
    split
    · rename_i s' failure found
      rw [found] at launched
      refine ⟨Agree.standby launched tuned, ?_⟩
      rw [← Agree.registers launched]
      exact phase
    -- a lost packet changes nothing, and the scan goes on with the next channel
    · rename_i s' found
      rw [found] at launched
      have same : s'.radio.phase = s.radio.phase := by
        rw [← Agree.registers launched]
        exact phase
      rw [← same]
      exact ih (Agree.standby launched tuned)
    · rename_i s' f found
      rw [found] at launched
      exact launched.1

/-- A scan that scores a channel. -/
theorem Landed.scoreScan (h : s.Landed delays) (apart : f.packet ≠ f.ack) (scan : ChannelScan)
    (result : Except Failure Outcome) :
    Scanned delays .disabled (s.scoreScan f scan result) := by
  have goOn : ∀ hits, Scanned delays .disabled
      (s.scanOn f.packet f.ack scan.first scan.last hits scan.left) := fun hits => by
    rw [← h.phase]
    exact h.toStandby.scanOn apart ..
  unfold Station.scoreScan
  split
  · split
    · dsimp only
      split
      · exact ⟨(note_agree ..).standby h.toStandby, h.phase⟩
      · exact goOn _
    · exact goOn _
  · exact goOn _
  · exact ⟨h.toStandby, h.phase⟩

/-! ## Operations that send -/

/-- What is left after a look at an operation that sends: it is sending, or over with the radio
off. -/
def Sent (delays : Prop) (found : Station × Progress) : Prop :=
  found.2.Meets (fun activity => ∃ f purpose, activity = .sending f purpose ∧
    found.1.InFlight delays f) fun _ => found.1.Landed delays

/-- **An operation that sends goes on sending, or is over with the link on standby and the radio
off.** -/
theorem InFlight.checkSend (h : s.InFlight delays f) (purpose : Purpose) :
    Sent delays (s.checkSend f purpose) := by
  have checked := h.checkFlight
  unfold Station.checkSend
  split
  · rename_i s' f' found
    rw [found] at checked
    exact ⟨f', purpose, rfl, checked⟩
  · rename_i s' result found
    rw [found] at checked
    have landed : s'.Landed delays := checked
    cases purpose with
    | single withAck => exact landed
    | scan scan =>
      have scored := landed.scoreScan h.apart scan result
      unfold Sent ofScan asProgress
      rw [Look.meets_map]
      exact Look.Meets.imp scored (fun rest flying => ⟨rest.1, _, rfl, flying⟩)
        fun _ ended => ⟨ended.1, ended.2⟩

/-- A send of its own, from a station at rest. -/
theorem AtRest.startSend (h : s.AtRest delays tears) (apart : packet ≠ ack) (withAck : Bool) :
    Leaves delays tears (s.startSend packet ack withAck) := by
  have launched := h.launch apart
  unfold Station.startSend
  split
  · rename_i found
    rw [found] at launched
    exact Agree.atRest launched h
  · rename_i found
    rw [found] at launched
    exact Agree.atRest launched h
  · rename_i found
    rw [found] at launched
    exact launched.1

/-- Two buffers that are added one after the other are not the same. -/
theorem added_apart (pool : Pool Packet) (p a : Packet) :
    (pool.add p).2 ≠ ((pool.add p).1.add a).2 :=
  (Pool.add_fresh _ a (by simp [Pool.add])).symm

/-- A send with buffers of its own, from a station at rest. -/
theorem AtRest.startSendPayload (h : s.AtRest delays tears) (bytes : List UInt8) :
    Leaves delays tears (s.startSendPayload bytes) :=
  AtRest.startSend ((buffers_agree _ s).atRest h)
    (added_apart s.buffers (.ofPayload (.truncate bytes)) .empty) true

/-- A channel scan, from a station at rest. -/
theorem AtRest.startScan (h : s.AtRest delays tears) (first last : UInt8) (payload : List UInt8) :
    Leaves delays tears (ofScan (s.startScan first last payload)) := by
  unfold Station.startScan Leaves ofScan asProgress
  rw [Look.meets_map]
  split
  · exact h
  · rename_i ready
    have scanned := Standby.scanOn
      ((buffers_agree ((s.buffers.add (.ofPayload (.truncate payload))).1.add .empty).1 s).standby
        (h.standby_of_ready ready))
      (added_apart s.buffers (.ofPayload (.truncate payload)) .empty) first last []
      (channelRange first last)
    exact Look.Meets.imp scanned (fun _ flying => flying) fun _ ended => .standby ended.1

end Station

end BurstLink
