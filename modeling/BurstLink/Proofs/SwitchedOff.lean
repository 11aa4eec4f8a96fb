import BurstLink.Proofs.CarrierOnAir

/-! # Switched off in the end

A measurement switches the receiver on, a carrier the transmitter; in the end each is switched off
again. The amplifier is off in any case. The radio is told to switch off and looked at a bounded
number of times, and nobody asks whether that was enough: it is off if it switches off within that
many looks, and goes on switching off otherwise.

Main definitions:

* **`Activity.Measures`**, **`Activity.StopsCarrier`** — the operations in question.
* **`Station.OffInTime`** — the radio is off exactly if it is quick enough.
* **`Bench.SwitchesOff`** — what holds at the end of a measurement and of a carrier.

Main statements: `Radio.phase_forceOff_iff` and `Bench.Reachable.switchesOff`. -/

namespace BurstLink

/-! ## How long switching off takes -/

namespace Radio

variable {r : Radio}

/-- The radio is off exactly if it is quick: it switches off within the looks that it is given. -/
def OffIfQuick (r : Radio) : Prop := r.phase = .disabled ↔ r.air.disableLatency ≤ disableMaxPolls

/-- **Switched off by force, a radio that was on is off exactly if it is quick.** -/
theorem offIfQuick_forceOff (powered : r.powered = true) (on : r.phase ≠ .disabled)
    (never : ∀ reads, r.phase ≠ .disabling reads) : r.forceOff.OffIfQuick := by
  unfold OffIfQuick
  rw [r.forceOff_settles.air, forceOff, pollDisabledUpTo_trigger_disable powered on (by decide),
    looksLeft_of_fresh on never]
  split
  · rename_i enough
    simp [enough, switchOff_phase]
  · rename_i short
    simp [short, switchingOff]

end Radio

/-! ## What is to be switched off -/

/-- The operation measures the signal strength. -/
def Activity.Measures : Activity → Prop
  | .measuring _ => True
  | .queued (.measureRssi _) => True
  | _ => False

/-- The operation takes the carrier off air. -/
def Activity.StopsCarrier : Activity → Prop
  | .queued .stopCarrier => True
  | .queued (.toggleCarrier false) => True
  | _ => False

/-- The measurement has switched the receiver on: there is a sample, or it did not come in time. -/
def Completion.Measured (completion : Completion) : Prop :=
  completion.result = .error .measurementTimeout ∨ ∃ rssi, completion.result = .ok (.rssi rssi)

namespace Station

/-- The receiver is off: its amplifier is, and so is the radio if it is quick. -/
structure ReceiverOff (s : Station) : Prop where
  amplifier : s.lnaOn = false
  radio : s.radio.OffIfQuick

/-- The transmitter is off: its amplifier is, and so is the radio if it is quick. -/
structure TransmitterOff (s : Station) : Prop where
  amplifier : s.paOn = false
  radio : s.radio.OffIfQuick

end Station

/-- **What was switched on is switched off**: the receiver when a measurement has ended or is given
up, and the transmitter when the flag of the carrier has been taken down. -/
structure Bench.SwitchesOff (b : Bench) : Prop where
  measured : ∀ job ∈ b.jobs, job.activity.Measures → ∀ t completion,
    job.poll b.station = (t, .finished completion) → completion.Measured → t.ReceiverOff
  abandoned : ∀ job ∈ b.jobs, ∀ m, job.activity = .measuring m →
    (job.drop b.station).ReceiverOff
  silenced : ∀ job ∈ b.jobs, job.activity.StopsCarrier → ∀ t completion,
    job.poll b.station = (t, .finished completion) →
      b.station.link.carrier = true → t.link.carrier = false → t.TransmitterOff

namespace Station

variable {delays tears : Prop} {s t : Station} {result : Result}

/-! ## Measurements -/

/-- **At the end of a measurement the receiver is switched off.** -/
theorem Gauging.receiverOff_endMeasurement (h : s.Gauging delays) :
    s.endMeasurement.ReceiverOff := by
  -- the receiver is coming up or on, so switching it off begins now
  have on : s.radio.phase ≠ .disabled ∧ ∀ reads, s.radio.phase ≠ .disabling reads := by
    rcases h.phase with phase | phase <;> simp [phase]
  unfold Station.endMeasurement
  rw [s.disableRadio_eq]
  refine ⟨?_, Radio.offIfQuick_forceOff h.gauge.powered on.1 on.2⟩
  show (s.frontEnd.map (FrontEnd.setLna false)).any FrontEnd.lna = false
  cases s.frontEnd <;> rfl

/-- A measurement that is over has switched the receiver off. -/
theorem Gauged.receiverOff {found : Station × MeasurementLook} (h : Gauged delays found)
    (ended : ofMeasurement found = (t, .finished result)) : t.ReceiverOff := by
  obtain ⟨u, rest | answer⟩ := found
  · exact absurd (Prod.mk.inj ended).2 (by simp [Look.map])
  · obtain ⟨v, gauging, rfl⟩ := h
    obtain rfl := (Prod.mk.inj ended).1
    exact gauging.receiverOff_endMeasurement

/-- Ending a measurement leaves the surroundings alone. -/
theorem air_endMeasurement (s : Station) : s.endMeasurement.radio.air = s.radio.air := by
  unfold endMeasurement
  rw [s.disableRadio_eq]
  exact s.radio.forceOff_settles.air

/-- Handing back buffers and lock leaves the link alone. -/
theorem link_released (locked : Bool) (s : Station) :
    (s.setLocked locked).releaseBuffers.link = s.link := by
  obtain ⟨pointer, released⟩ := (s.setLocked locked).releaseBuffers_pointed
  rw [released]
  rfl

/-- The buffers of a job do not matter to the receiver, nor does the lock. -/
theorem ReceiverOff.released (h : s.ReceiverOff) (locked : Bool) :
    (s.setLocked locked).releaseBuffers.ReceiverOff := by
  obtain ⟨pointer, released⟩ := (s.setLocked locked).releaseBuffers_pointed
  rw [released]
  exact ⟨h.amplifier, h.radio⟩

/-! ## Carriers -/

/-- **When a carrier has gone off air the transmitter is off.** -/
theorem AtRest.transmitterOff_stopTone (h : s.AtRest delays tears) (up : s.link.carrier = true) :
    s.stopTone.TransmitterOff := by
  have tone : s.radio.phase = .txIdle := h.carrier_iff.mp up
  have powered : s.radio.powered = true := by
    rcases h.of_carrier up with toning | ⟨mode, -⟩
    · exact toning.programmed.powered
    · exact mode.powered
  obtain ⟨journal, same⟩ := s.stopTone_eq
  rw [same]
  refine ⟨?_, Radio.offIfQuick_forceOff powered (by simp [tone]) (by simp [tone])⟩
  show (s.frontEnd.map (FrontEnd.setPa false)).any FrontEnd.pa = false
  cases s.frontEnd <;> rfl

/-- The transmitter is off whether or not the lock and the buffers are handed back. -/
theorem TransmitterOff.released (h : s.TransmitterOff) (locked : Bool) :
    (s.setLocked locked).releaseBuffers.TransmitterOff := by
  obtain ⟨pointer, released⟩ := (s.setLocked locked).releaseBuffers_pointed
  rw [released]
  exact ⟨h.amplifier, h.radio⟩

/-- The carrier of the link has been taken off air. -/
theorem AtRest.transmitterOff_toggleCarrier (h : s.AtRest delays tears)
    (up : s.link.carrier = true) (down : (s.toggleCarrier false).1.link.carrier = false) :
    (s.toggleCarrier false).1.TransmitterOff := by
  have stopped := h.transmitterOff_stopTone up
  have kept : s.link.carrier = false → False := fun same => by simp [up] at same
  unfold Station.toggleCarrier at down ⊢
  rw [if_neg (show ¬s.link.carrier = false by simp [up])] at down ⊢
  split at down
  · exact (kept down).elim
  · rw [if_neg ‹_›]
    exact ⟨stopped.amplifier, stopped.radio⟩

/-- The carrier of the carrier mode has been taken off air. -/
theorem AtRest.transmitterOff_stopCarrier (h : s.AtRest delays tears)
    (up : s.link.carrier = true) (down : s.stopCarrier.1.link.carrier = false) :
    s.stopCarrier.1.TransmitterOff := by
  have stopped := h.transmitterOff_stopTone up
  unfold Station.stopCarrier at down ⊢
  split at down
  · rw [if_pos ‹_›, if_pos up]
    exact ⟨stopped.amplifier, stopped.radio⟩
  · exact absurd (up.symm.trans down) (by simp)

end Station

/-- The last look at a measurement that waits in vain for its receiver. -/
theorem Job.poll_of_missed {job : Job} {m : Measurement} {s : Station}
    (measuring : job.activity = .measuring m) (receiver : m.awaited = .receiver)
    (last : m.looks = 0) (due : m.deadline ≤ s.clock) :
    ∃ t packets,
      job.poll s = (t, .finished ⟨job.label, .error .measurementTimeout, packets⟩) ∧
        t.radio.air = s.radio.air := by
  have missed : s.checkMeasurement m = s.missEvent .receiver := by
    unfold Station.checkMeasurement
    rw [if_pos due, receiver, last]
    rfl
  let u := (s.note (.eventMissing .ready)).endMeasurement.setLocked false
  obtain ⟨pointer, released⟩ := u.releaseBuffers_pointed
  have looked : (Activity.measuring m).poll s = (u, .finished (.error .measurementTimeout)) := by
    show Station.withLock (Station.ofMeasurement (s.checkMeasurement m)) = _
    rw [missed]
    rfl
  refine ⟨u.releaseBuffers, job.packets u, ?_, ?_⟩
  · rw [Job.poll_eq, measuring, looked]
  · rw [released]
    exact Station.air_endMeasurement _

namespace Bench

variable {b : Bench} {job : Job} {t : Station} {completion : Completion}

/-- A measurement that is refused for its channel has measured nothing. -/
theorem not_measured_of_answer? {channel : UInt8}
    (decided : (Request.measureRssi channel).answer? = some completion.result) :
    ¬completion.Measured := by
  have refused : Request.refusal? (checkChannel channel) = some completion.result := decided
  unfold Request.refusal? at refused
  intro measured
  split at refused
  · exact absurd refused (by simp)
  · rcases measured with timeout | ⟨rssi, sample⟩
    · exact absurd ((Option.some.inj refused).trans timeout) (by simp)
    · exact absurd ((Option.some.inj refused).trans sample) (by simp)

/-- A look at a request that ends it after its start: the lock was free, and the station is that
after the start, up to the buffers of the job. -/
theorem start_of_poll_queued {request : Request} (queued : job.activity = .queued request)
    (undecided : request.answer? = none) (needs : request.needsLock = true)
    (polled : job.poll b.station = (t, .finished completion)) :
    b.station.locked = false ∧
      (b.station.start request).2 = .finished completion.result ∧
      t = ((b.station.start request).1.setLocked false).releaseBuffers := by
  obtain ⟨u, looked, rfl, -, -⟩ := Job.poll_finished polled
  rw [queued] at looked
  cases locked : b.station.locked with
  | true =>
    rw [Activity.poll_queued_of_locked locked undecided needs] at looked
    exact absurd (Prod.mk.inj looked).2 (by simp)
  | false =>
    rw [Activity.poll_queued_of_free locked undecided needs] at looked
    obtain ⟨station, ended⟩ := Prod.mk.inj looked
    have done : (b.station.start request).2 = .finished completion.result := ended
    rw [done] at station
    exact ⟨rfl, done, by rw [← station]; rfl⟩

/-- A measurement that ends with its first look has switched the receiver off, unless it was
refused. -/
theorem Sound.receiverOff_of_start (h : b.Sound True True) {channel : UInt8}
    (free : b.station.locked = false) (measured : completion.Measured)
    (ended : (b.station.start (.measureRssi channel)).2 = .finished completion.result) :
    (b.station.start (.measureRssi channel)).1.ReceiverOff := by
  by_cases mode : b.station.mode = .powerMeasurement
  · have gauged := (h.atRest_of_free free).gauged_startMeasurement mode channel
    exact gauged.receiverOff (Prod.ext rfl ended)
  · have refused : (b.station.start (.measureRssi channel)).2 =
        .finished (.error .notAvailable) := by
      rw [Station.start_of_other_mode rfl mode]
    have answer := Look.finished.inj (refused.symm.trans ended)
    simp [Completion.Measured, ← answer] at measured

/-- **When a measurement has ended, the receiver is off.** -/
theorem Sound.receiverOff_of_measured (h : b.Sound True True) (member : job ∈ b.jobs)
    (measures : job.activity.Measures) (polled : job.poll b.station = (t, .finished completion))
    (measured : completion.Measured) : t.ReceiverOff := by
  obtain ⟨u, looked, released, -, -⟩ := Job.poll_finished polled
  cases activity : job.activity with
  | measuring m =>
    have held := (h.held member (by rw [activity]; rfl)).2
    rw [activity] at held looked
    have gauging : b.station.Gauging True := held
    obtain ⟨station, ended⟩ := Prod.mk.inj looked
    rcases found : Station.ofMeasurement (b.station.checkMeasurement m) with ⟨v, look⟩
    rw [found] at station ended
    obtain rfl : look = .finished completion.result := ended
    rw [released, ← station]
    exact ((gauging.gauged_checkMeasurement m).receiverOff found).released _
  | queued request =>
    cases request with
    | measureRssi channel =>
      -- one that is refused for its channel has not measured anything
      cases decided : (Request.measureRssi channel).answer? with
      | some result =>
        rw [activity, Activity.poll_queued_of_answer? decided] at looked
        obtain rfl := Look.finished.inj (Prod.mk.inj looked).2
        exact (not_measured_of_answer? decided measured).elim
      | none =>
        obtain ⟨free, ended, started⟩ := start_of_poll_queued activity decided rfl polled
        rw [started]
        exact (h.receiverOff_of_start free measured ended).released _
    | _ => rw [activity] at measures; exact measures.elim
  | _ => rw [activity] at measures; exact measures.elim

/-- **When a measurement is given up, the receiver is off.** -/
theorem Sound.receiverOff_of_abandoned (h : b.Sound True True) (member : job ∈ b.jobs)
    {m : Measurement} (activity : job.activity = .measuring m) :
    (job.drop b.station).ReceiverOff := by
  have held := (h.held member (by rw [activity]; rfl)).2
  rw [activity] at held
  have gauging : b.station.Gauging True := held
  unfold Job.drop
  rw [activity]
  exact gauging.receiverOff_endMeasurement.released false

/-- **When the flag of the carrier has been taken down, the transmitter is off.** -/
theorem Sound.transmitterOff_of_silenced (h : b.Sound True True)
    (stops : job.activity.StopsCarrier) (polled : job.poll b.station = (t, .finished completion))
    (up : b.station.link.carrier = true) (down : t.link.carrier = false) : t.TransmitterOff := by
  -- both requests start under a free lock, and end with their start
  have silenced : ∀ request : Request, job.activity = .queued request → request.answer? = none →
      request.needsLock = true → (b.station.AtRest True True →
        (b.station.start request).1.link.carrier = false →
          (b.station.start request).1.TransmitterOff) → t.TransmitterOff := by
    intro request queued undecided needs off
    obtain ⟨free, -, rfl⟩ := start_of_poll_queued queued undecided needs polled
    rw [Station.link_released] at down
    exact (off (h.atRest_of_free free) down).released false
  cases activity : job.activity with
  | queued request =>
    rw [activity] at stops
    cases request with
    | stopCarrier =>
      exact silenced _ activity rfl rfl fun atRest => atRest.transmitterOff_stopCarrier up
    | toggleCarrier on =>
      cases on with
      | true => exact stops.elim
      | false =>
        exact silenced _ activity rfl rfl fun atRest => atRest.transmitterOff_toggleCarrier up
    | _ => exact stops.elim
  | _ => rw [activity] at stops; exact stops.elim

/-- **On every reachable bench, what was switched on is switched off.** -/
theorem Reachable.switchesOff (h : b.Reachable) : b.SwitchesOff where
  measured _ member measures _ _ polled measured :=
    h.sound.receiverOff_of_measured member measures polled measured
  abandoned _ member _ activity := h.sound.receiverOff_of_abandoned member activity
  silenced _ _ stops _ _ polled up down := h.sound.transmitterOff_of_silenced stops polled up down

/-- A measurement whose receiver never comes up, when its last look is due, on a radio that takes
some looks to switch off. -/
def unheard (latency : Nat) : Bench :=
  (ofStation (.withFrontEnd .zeros)).after <|
    [.ask none (.request (.switchMode .powerMeasurement)), .look 0,
      .arrange (.setAir (.disableLatency latency)), .arrange (.setAir (.unresponsive true)),
      .ask none (.request (.measureRssi 5)), .look 0] ++
    (List.replicate 49 [.wait 20, .look 0]).flatten ++ [.wait 20]

/-- Both stations can be reached, with a receiver that does not answer. -/
theorem reachable_unheard : (unheard 20000).Reachable ∧ (unheard 10000).Reachable :=
  ⟨(Reachable.startUp ⟨.zeros, .inl rfl⟩).after _ (by decide),
    (Reachable.startUp ⟨.zeros, .inl rfl⟩).after _ (by decide)⟩

/-- The job that measures, when its last look is due. -/
def unheardJob : Job := ⟨none, none, .measuring ⟨5, .receiver, 0, 1000⟩⟩

/-- A radio that takes twice as many looks as it is given is still switching off after a
measurement that has failed, with its receiver never up. -/
theorem not_disabled_after_unheard :
    (unheard 20000).Reachable ∧ (unheard 20000).jobs = [unheardJob] ∧
      ∃ t completion, unheardJob.poll (unheard 20000).station = (t, .finished completion) ∧
        completion.result = .error .measurementTimeout ∧ t.radio.phase ≠ .disabled := by
  have reachable := reachable_unheard.1
  have jobs : (unheard 20000).jobs = [unheardJob] := by decide +kernel
  have due : 1000 ≤ (unheard 20000).station.clock := by decide +kernel
  have slow : (unheard 20000).station.radio.air.disableLatency = 20000 := by decide +kernel
  have member : unheardJob ∈ (unheard 20000).jobs := by simp [jobs]
  have measuring : unheardJob.activity = .measuring ⟨5, .receiver, 0, 1000⟩ := rfl
  obtain ⟨t, packets, polled, air⟩ := Job.poll_of_missed measuring rfl rfl due
  have quick := (reachable.sound.receiverOff_of_measured member trivial polled (.inl rfl)).radio
  refine ⟨reachable, jobs, t, _, polled, rfl, fun off => ?_⟩
  have enough := quick.mp off
  rw [air, slow] at enough
  exact absurd enough (by decide)

/-- A radio that takes exactly as many looks as it is given is off after the same measurement. -/
theorem switchesOff_of_unheard : (unheard 10000).Reachable ∧
    (unheard 10000).jobs = [unheardJob] ∧
      (unheard 10000).station.radio.air.disableLatency ≤ disableMaxPolls ∧
        (unheard 10000).SwitchesOff :=
  ⟨reachable_unheard.2, by decide +kernel, by decide +kernel, reachable_unheard.2.switchesOff⟩

end Bench

end BurstLink
