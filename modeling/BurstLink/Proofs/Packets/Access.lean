import BurstLink.Proofs.Custody.Pump
import BurstLink.Proofs.Custody.Sending
import BurstLink.Proofs.Packets.Spares
import BurstLink.Proofs.Radio.Pointer

/-! # Access to packets

Two parties touch packets: the radio, which reads the packet it sends and writes the frame it
receives, and the start of a send, which stamps its packet and empties its acknowledgement.

Main definitions:

* **`Radio.reads`**, **`Radio.writes`** — the next step reads or writes the packet that the radio
  points at. Neither depends on which packet that is.
* **`Station.emits`** — the frame that the next step puts on air.

Main statements: what is read makes all the difference to a step (`Radio.service_of_not_reads`),
what is written is all that it changes (`Station.buffers_serviceRadio`), and under custody the radio
reads the packet of a send on air and writes the acknowledgement that a send awaits, and nothing
else (`Station.InFlight.reads`, `Station.InFlight.writes`, `Station.Custody.silent`). -/

namespace BurstLink

/-! ## Steps of the radio -/

namespace Radio

variable {r : Radio} {packet : Option Packet}

/-- The next step reads the packet that the radio points at. -/
def reads (r : Radio) : Bool := !r.interruptPending && decide (r.phase = .tx)

/-- The next step writes a frame where the radio points. -/
def writes (r : Radio) : Bool := (r.service none).2.isSome

/-- A radio reads its packet in the one phase in which it sends. -/
theorem reads_iff : r.reads = true ↔ r.interruptPending = false ∧ r.phase = .tx := by
  simp [reads]

/-- Whether a frame comes in, and which one, does not depend on the packet that the radio points
at. -/
theorem frame_service (packet : Option Packet) (r : Radio) :
    (r.service packet).2 = (r.service none).2 := by
  unfold service
  split
  · rfl
  · unfold step
    split <;> rfl

/-- A step that does not read is the same with any packet. -/
theorem service_of_not_reads (unread : r.reads = false) (packet : Option Packet) :
    r.service packet = r.service none := by
  unfold service
  split
  · rfl
  · rename_i ready
    have other : r.phase ≠ .tx := fun sending =>
      absurd unread (by simp [reads_iff.mpr ⟨by simpa using ready, sending⟩])
    unfold step
    split <;> first | rfl | exact absurd ‹_› other

/-- The frame that comes in is there exactly if the step writes. -/
theorem isSome_frame_service (packet : Option Packet) (r : Radio) :
    (r.service packet).2.isSome = r.writes := by
  rw [frame_service]
  rfl

/-! ### The history -/

/-- The end of a frame changes nothing on air. -/
theorem air_endFrame (idle : Phase) (r : Radio) : (r.endFrame idle).air = r.air := by
  unfold endFrame
  exact (apply_ite air _ _ _).trans (ite_self r.air)

/-- Only a packet that is sent is recorded. -/
theorem air_transmit (packet : Option Packet) (r : Radio) : (r.transmit packet).air =
    (packet.map fun p => (⟨r.channel, p⟩ : Frame)).elim r.air (r.air.record ·) := by
  cases packet with
  | none => exact air_endFrame ..
  | some p => exact air_endFrame ..

/-- Nor does the acknowledgement timeout. -/
theorem air_ackTimeout (r : Radio) : r.ackTimeout.air = r.air := by
  unfold ackTimeout
  split
  · exact (switchOff_settles _).air
  · rfl

/-- Nor does a receiver that comes up. -/
theorem air_rampUp (r : Radio) : r.rampUp.air = r.air := by
  unfold rampUp
  split <;> rfl

/-- Nor does a sample of the ambient signal. -/
theorem air_sampleAmbient (r : Radio) : r.sampleAmbient.air = r.air := by
  unfold sampleAmbient
  split <;> rfl

/-- A step that does not read leaves the surroundings alone. -/
theorem air_service_of_not_reads (unread : r.reads = false) (packet : Option Packet) :
    (r.service packet).1.air = r.air := by
  rw [service_of_not_reads unread]
  unfold service
  split
  · rfl
  · rename_i ready
    have other : r.phase ≠ .tx := fun sending =>
      absurd unread (by simp [reads_iff.mpr ⟨by simpa using ready, sending⟩])
    unfold step
    split
    · exact r.settle_settles.air
    · exact absurd ‹_› other
    · exact air_rampUp r
    · split
      · exact air_sampleAmbient r
      · split
        · exact air_ackTimeout _
        · exact air_endFrame ..
    · exact air_sampleAmbient r
    all_goals rfl

/-- A step that reads puts its packet on air. -/
theorem air_service_of_reads (h : r.reads = true) (packet : Option Packet) :
    (r.service packet).1.air =
      (packet.map fun p => (⟨r.channel, p⟩ : Frame)).elim r.air (r.air.record ·) := by
  obtain ⟨unhandled, sending⟩ := reads_iff.mp h
  have step : r.service packet = (r.transmit packet, none) := by
    simp [service, unhandled, step, sending]
  rw [step]
  exact air_transmit ..

/-- While an exchange is not armed, a radio that is off, switching off or bare of a packet to send
touches none. -/
theorem silent_of_phase (still : r.phase ≠ .tx) (deaf : r.phase = .rx → r.pending = none) :
    r.reads = false ∧ r.writes = false := by
  refine ⟨by simp [reads, still], ?_⟩
  unfold writes service
  split
  · rfl
  · unfold step
    split <;> try rfl
    rename_i listening
    rw [deaf listening]
    rfl

end Radio

namespace Station

variable {delays tears : Prop} {s t : Station} {f : Flight} {b : Buffer}

/-! ## Steps of the station -/

/-- The frame that the next step puts on air. -/
def emits (s : Station) : Option Frame :=
  if s.radio.reads then s.loaded.map fun p => ⟨s.radio.channel, p⟩ else none

/-- A step of the radio gets the packet that the radio points at. -/
theorem radio_serviceRadio (s : Station) :
    s.serviceRadio.radio = (s.radio.service s.loaded).1 := by
  obtain ⟨buffers, same⟩ := s.serviceRadio_eq
  rw [same]

/-- A step of the radio has nothing to do with the link. -/
theorem link_serviceRadio (s : Station) : s.serviceRadio.link = s.link := by
  obtain ⟨buffers, same⟩ := s.serviceRadio_eq
  rw [same]

/-- What a step puts on air is recorded, and nothing else is. -/
theorem air_serviceRadio (s : Station) :
    s.serviceRadio.radio.air = s.emits.elim s.radio.air (s.radio.air.record ·) := by
  rw [radio_serviceRadio]
  unfold emits
  cases h : s.radio.reads with
  | true => exact Radio.air_service_of_reads h s.loaded
  | false => exact Radio.air_service_of_not_reads h s.loaded

/-- What a step changes is the packet that it writes. -/
theorem buffers_serviceRadio (s : Station) : s.serviceRadio.buffers = s.buffers ∨
    s.radio.writes = true ∧ ∃ b p, s.radio.buffer = some b ∧
      s.serviceRadio.buffers = s.buffers.set b p := by
  have pointed := Radio.buffer_service s.loaded s.radio
  have frame := s.radio.isSome_frame_service s.loaded
  unfold serviceRadio
  generalize s.radio.service s.loaded = found at pointed frame ⊢
  obtain ⟨radio, _ | p⟩ := found
  · exact .inl rfl
  · have points : radio.buffer = s.radio.buffer := pointed
    unfold store
    dsimp only
    rw [points]
    cases s.radio.buffer with
    | none => exact .inl rfl
    | some b => exact .inr ⟨frame.symm, b, p, rfl, rfl⟩

/-- A packet that is not written stays. -/
theorem get_serviceRadio (other : s.radio.writes = true → s.radio.buffer ≠ some b) :
    s.serviceRadio.buffers.get b = s.buffers.get b := by
  rcases s.buffers_serviceRadio with same | ⟨writes, b', p, points, same⟩
  · rw [same]
  · have apart : b ≠ b' := fun eq => other writes (eq ▸ points)
    rw [same, Pool.get_set_of_ne _ apart]

/-- A step of the radio adds no buffer. -/
theorem count_serviceRadio (s : Station) : s.serviceRadio.buffers.count = s.buffers.count := by
  rcases s.buffers_serviceRadio with same | ⟨-, b', p, -, same⟩
  · rw [same]
  · rw [same, Pool.count_set]

/-- A step that touches no packet sends nothing. -/
theorem spares_serviceRadio (unread : s.radio.reads = false) (unwritten : s.radio.writes = false) :
    s.Spares s.serviceRadio where
  packets b _ := get_serviceRadio fun writes => absurd (writes.symm.trans unwritten) (by simp)
  count := Nat.le_of_eq s.count_serviceRadio.symm
  pid := congrArg Link.pid s.link_serviceRadio
  history := by simp [air_serviceRadio, emits, unread]
  completed done := by
    obtain ⟨buffers, same⟩ := s.serviceRadio_eq
    rwa [same] at done

/-- The interrupt handler leaves packets, surroundings and link alone. -/
theorem handleInterrupt_spares (s : Station) : s.handleInterrupt.buffers = s.buffers ∧
    s.handleInterrupt.radio.air = s.radio.air ∧ s.handleInterrupt.link = s.link := by
  obtain ⟨_, _, _, _, _, _, _, _, _, -, same⟩ := s.handleInterrupt_eq
  rw [same]
  exact ⟨rfl, rfl, rfl⟩

/-- With the interrupt handled after it, a step does to packets, surroundings and link what it does
without. -/
theorem pump_spares (s : Station) : s.pump.1.buffers = s.serviceRadio.buffers ∧
    s.pump.1.radio.air = s.serviceRadio.radio.air ∧ s.pump.1.link = s.serviceRadio.link := by
  unfold pump
  dsimp only
  split
  · exact ⟨rfl, rfl, rfl⟩
  · split
    · exact s.serviceRadio.handleInterrupt_spares
    · exact ⟨rfl, rfl, rfl⟩

/-! ## Under custody -/

/-- The radio reads the packet of the send on air. -/
theorem InFlight.reads (h : s.InFlight delays f) (reads : s.radio.reads = true) :
    s.transfer.state = .txInFlight ∧ s.radio.buffer = some f.packet := by
  obtain ⟨-, sending⟩ := Radio.reads_iff.mp reads
  cases h.stage with
  | onAir air => exact ⟨by rw [air.transfer], air.buffer⟩
  | awaiting wait =>
    rcases wait.progress with ⟨-, -, phase | phase⟩ | ⟨-, phase⟩ <;>
      exact absurd (sending.symm.trans phase) (by simp)
  | complete done => exact absurd (sending.symm.trans done.phase) (by simp)

/-- The radio writes the acknowledgement that the send awaits. -/
theorem InFlight.writes (h : s.InFlight delays f) (writes : s.radio.writes = true) :
    s.transfer.state = .awaitingAck ∧ s.radio.buffer = some f.ack := by
  have idle : ∀ phase, s.radio.phase = phase → phase ≠ .rx → False := by
    intro phase same other
    have silent : (s.radio.service none).2 = none := by
      unfold Radio.service
      split
      · rfl
      · unfold Radio.step
        rw [same]
        cases phase with
        | rx => exact absurd rfl other
        | _ => rfl
    exact absurd writes (by simp [Radio.writes, silent])
  cases h.stage with
  | onAir air =>
    rcases air.progress with ⟨-, phase | ⟨phase, -⟩⟩ | ⟨-, -, phase⟩
    · exact (idle _ phase (by simp)).elim
    · exact (idle _ phase (by simp)).elim
    · exact (idle _ phase (by split <;> simp)).elim
  | awaiting wait => exact ⟨by rw [wait.transfer], wait.buffer⟩
  | complete done => exact (idle _ done.phase (by simp)).elim

/-- A radio that is off or on its way there touches no packet. -/
theorem silent_of_off (off : s.radio.Off delays) :
    s.radio.reads = false ∧ s.radio.writes = false := by
  rcases off with off | ⟨-, reads, phase⟩
  · exact Radio.silent_of_phase (by simp [off]) (by simp [off])
  · exact Radio.silent_of_phase (by simp [phase]) (by simp [phase])

/-- **Outside a send the radio touches no packet**, wherever it points: it is off or on its way
there, has a carrier on air, or measures. -/
theorem Custody.silent {holder : Option Activity} (h : s.Custody delays tears holder)
    (unsent : ∀ f purpose, holder ≠ some (.sending f purpose)) :
    s.radio.reads = false ∧ s.radio.writes = false := by
  cases holder with
  | none =>
    rcases h.2.phase with off | tone
    · exact silent_of_off off
    · exact Radio.silent_of_phase (by simp [tone]) (by simp [tone])
  | some activity =>
    cases activity with
    | queued request => exact h.2.elim
    | testing t => exact h.2.elim
    | sending f purpose => exact absurd rfl (unsent f purpose)
    | switching t => exact silent_of_off (Torn.off h.2)
    | listening l =>
      have off : s.radio.phase = .disabled := by rw [h.2.1.wiped]
      exact Radio.silent_of_phase (by simp [off]) (by simp [off])
    | measuring m =>
      have gauging : s.Gauging delays := h.2
      rcases gauging.phase with phase | phase
      · exact Radio.silent_of_phase (by simp [phase]) (by simp [phase])
      · exact Radio.silent_of_phase (by simp [phase]) fun _ => gauging.gauge.pending

/-! ## The start of an exchange -/

variable {packet ack : Buffer}

/-- The station when a send starts an exchange: the acknowledgement is empty, and nothing is on air
yet. -/
theorem fly_eq (f : Flight) (s : Station) : (s.fly f).1 = { s with
    buffers := s.buffers.modify f.ack Packet.clear
    transfer := { state := .txInFlight, ackRequired := f.config.ackEnabled, ack := some f.ack }
    completed := false
    frontEnd := s.frontEnd.map (FrontEnd.setPa true)
    radio := (s.armed f.packet f.config.ackEnabled).trigger .txEnable } :=
  s.startExchange_eq f.packet f.ack f.config.ackEnabled

/-- The start of an exchange has nothing to do with the link. -/
theorem link_fly (f : Flight) (s : Station) : (s.fly f).1.link = s.link := by rw [fly_eq]

/-- It takes back the sign of completion. -/
theorem completed_fly (f : Flight) (s : Station) : (s.fly f).1.completed = false := by rw [fly_eq]

/-- It adds no buffer. -/
theorem count_fly (f : Flight) (s : Station) :
    (s.fly f).1.buffers.count = s.buffers.count := by
  rw [fly_eq]
  rfl

/-- It records nothing: what is sent is recorded when it leaves. -/
theorem history_fly (f : Flight) (s : Station) :
    (s.fly f).1.radio.air.history = s.radio.air.history := by
  rw [fly_eq, armed_eq]
  exact Radio.history_trigger .txEnable _

/-- It clears the acknowledgement, and no other packet. -/
theorem get_fly (apart : b ≠ f.ack) : (s.fly f).1.buffers.get b = s.buffers.get b := by
  rw [fly_eq]
  exact Pool.get_set_of_ne _ apart _

/-- The flight of a send that takes off. -/
def takingOff (packet ack : Buffer) (s : Station) : Flight :=
  { packet := packet, ack := ack, pid := s.link.pid, config := s.link.config, retries := 0
    deadline := 0 }

/-- A send that takes off stamps its packet and starts its first exchange. -/
theorem takeOff_eq (packet ack : Buffer) (s : Station) :
    s.takeOff packet ack = (s.stamped packet).fly (s.takingOff packet ack) := rfl

/-- The take-off records nothing. -/
theorem history_takeOff (packet ack : Buffer) (s : Station) :
    (s.takeOff packet ack).1.radio.air.history = s.radio.air.history := by
  rw [takeOff_eq, history_fly]
  rfl

/-- The take-off moves the link on to the next identifier. -/
theorem pid_takeOff (packet ack : Buffer) (s : Station) :
    (s.takeOff packet ack).1.link.pid = s.link.pid.next := by
  rw [takeOff_eq, link_fly]
  rfl

/-- It takes back the sign of completion. -/
theorem completed_takeOff (packet ack : Buffer) (s : Station) :
    (s.takeOff packet ack).1.completed = false := by
  rw [takeOff_eq, completed_fly]

/-- It adds no buffer. -/
theorem count_takeOff (packet ack : Buffer) (s : Station) :
    (s.takeOff packet ack).1.buffers.count = s.buffers.count := by
  rw [takeOff_eq, count_fly]
  rfl

/-- It writes to the buffers of the send alone. -/
theorem get_takeOff_of_ne (other : b ≠ packet) (noAck : b ≠ ack) :
    (s.takeOff packet ack).1.buffers.get b = s.buffers.get b := by
  have unstamped : (s.stamped packet).buffers.get b = s.buffers.get b :=
    Pool.get_set_of_ne _ other _
  rw [takeOff_eq, get_fly noAck, unstamped]

/-- A send that takes off has its packet stamped with the identifier of the link. -/
theorem get_takeOff (apart : packet ≠ ack) :
    (s.takeOff packet ack).1.buffers.get packet = (s.buffers.get packet).setPid s.link.pid := by
  have isStamped : (s.stamped packet).buffers.get packet =
      (s.buffers.get packet).setPid s.link.pid := Pool.get_set_self ..
  rw [takeOff_eq, get_fly apart, isStamped]

end Station

end BurstLink
