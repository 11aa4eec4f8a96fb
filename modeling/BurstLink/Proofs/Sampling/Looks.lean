import BurstLink.Proofs.Custody.Pump

/-! # Looks at a measurement

A measurement looks for two events, one after the other: the receiver comes up, and a sample is
taken. A look that is due finds the event or uses up one of its looks; when they are used up the
measurement gives up. Between two looks the radio makes steps: it brings the receiver up, or takes
the sample that is asked for.

Main definitions:

* **`Station.Checks`** — how a look that is due turns out.
* **`Station.Receives`** — how a step of the radio turns out while a measurement waits.

Main statements: there are no other ways (`Station.checks_checkMeasurement`,
`Station.Gauging.receives_serviceRadio`), and the start of a measurement
(`Station.startMeasurement_of_mode`). -/

namespace BurstLink

namespace Station

variable {s : Station} {m : Measurement} {channel : UInt8} {looks : Nat}

/-! ## Single looks -/

/-- The sample is there: it is read, and the measurement is over. -/
theorem awaitSample_of_raised (raised : s.radio.events.rssiEnd = true) (channel : UInt8)
    (looks : Nat) :
    ∃ t : Station, s.awaitSample channel (looks + 1) = (t, .finished (.ok s.radio.rssi)) :=
  ⟨_, if_pos raised⟩

/-- The sample is not there yet. -/
theorem awaitSample_of_down (down : s.radio.events.rssiEnd = false) (channel : UInt8)
    (looks : Nat) : s.awaitSample channel (looks + 1) =
      (s, .waiting ⟨channel, .sample, looks, s.clock + measurementInterval⟩) :=
  if_neg (by simp [down])

/-- The receiver is up, and a sample is asked for. -/
def askForSample (s : Station) : Station :=
  s.onRadio fun r => (r.clearEvent .ready).trigger .rssiStart

/-- Asking for a sample reads and tunes nothing. -/
theorem askForSample_reads (s : Station) :
    s.askForSample.radio.channel = s.radio.channel ∧ s.askForSample.radio.air = s.radio.air ∧
      s.askForSample.radio.rssi = s.radio.rssi ∧
      s.askForSample.radio.events.rssiEnd = s.radio.events.rssiEnd ∧
      s.askForSample.clock = s.clock := by
  have asked : s.askForSample.radio = (s.radio.clearEvent .ready).trigger .rssiStart := rfl
  rw [asked]
  unfold Radio.trigger
  split <;> exact ⟨rfl, rfl, rfl, rfl, rfl⟩

/-- With power the request is there then, and the radio goes on as before. -/
theorem askForSample_requests (powered : s.radio.powered = true) :
    s.askForSample.radio.rssiRequested = true ∧
      s.askForSample.radio.phase = s.radio.phase := by
  have asked : s.askForSample.radio =
      { s.radio.clearEvent .ready with rssiRequested := true } := if_pos powered
  rw [asked]
  exact ⟨rfl, rfl⟩

/-- How a look that is due turns out. -/
inductive Checks (m : Measurement) (s : Station) : Station × MeasurementLook → Prop
  /-- All looks for the event are used up. -/
  | missed (used : m.looks = 0) : Checks m s (s.missEvent m.awaited)
  /-- The event has not come. -/
  | paused {looks : Nat} (left : m.looks = looks + 1)
      (down : s.radio.events.get m.awaited.event = false) :
    Checks m s (s, .waiting ⟨m.channel, m.awaited, looks, s.clock + measurementInterval⟩)
  /-- The receiver is up, and a sample is asked for. -/
  | asked {looks : Nat} (left : m.looks = looks + 1) (awaited : m.awaited = .receiver)
      (up : s.radio.events.ready = true) (down : s.radio.events.rssiEnd = false) :
    Checks m s (s.askForSample,
      .waiting ⟨m.channel, .sample, measurementMaxPolls - 1, s.clock + measurementInterval⟩)
  /-- The sample is there, if the receiver is up. -/
  | read {looks : Nat} {t : Station} (left : m.looks = looks + 1)
      (up : m.awaited = .receiver → s.radio.events.ready = true)
      (raised : s.radio.events.rssiEnd = true) : Checks m s (t, .finished (.ok s.radio.rssi))

/-- **A look that is due turns out in one of these ways.** -/
theorem checks_checkMeasurement (due : m.deadline ≤ s.clock) :
    Checks m s (s.checkMeasurement m) := by
  obtain ⟨channel, awaited, looks, deadline⟩ := m
  unfold checkMeasurement
  rw [if_pos due]
  rcases looks with - | looks
  · cases awaited with
    | receiver => exact .missed rfl
    | sample => exact .missed rfl
  · cases awaited with
    | receiver =>
      by_cases up : s.radio.events.ready = true
      -- the receiver is up, and its sample is looked at without a pause
      · have asks : s.awaitReceiver channel (looks + 1) =
            s.askForSample.awaitSample channel measurementMaxPolls := if_pos up
        obtain ⟨-, -, rssi, same, clock⟩ := s.askForSample_reads
        show Checks _ s (s.awaitReceiver channel (looks + 1))
        rw [asks]
        cases raised : s.radio.events.rssiEnd with
        | true =>
          obtain ⟨t, read⟩ := awaitSample_of_raised (same.trans raised) channel 49
          rw [rssi] at read
          rw [show measurementMaxPolls = 49 + 1 from rfl, read]
          exact .read rfl (fun _ => up) raised
        | false =>
          have paused := awaitSample_of_down (same.trans raised) channel 49
          rw [clock] at paused
          rw [show measurementMaxPolls = 49 + 1 from rfl, paused]
          exact .asked rfl rfl up raised
      · have pauses : s.awaitReceiver channel (looks + 1) =
            (s, .waiting ⟨channel, .receiver, looks, s.clock + measurementInterval⟩) := if_neg up
        show Checks _ s (s.awaitReceiver channel (looks + 1))
        rw [pauses]
        exact .paused rfl (Bool.not_eq_true _ ▸ up)
    | sample =>
      show Checks _ s (s.awaitSample channel (looks + 1))
      cases raised : s.radio.events.rssiEnd with
      | true =>
        obtain ⟨t, read⟩ := awaitSample_of_raised raised channel looks
        rw [read]
        exact .read rfl (by simp) raised
      | false =>
        rw [awaitSample_of_down raised channel looks]
        exact .paused rfl raised

/-- A look that is not due changes nothing. -/
theorem checkMeasurement_of_early (early : s.clock < m.deadline) :
    s.checkMeasurement m = (s, .waiting m) := if_neg (Nat.not_le.mpr early)

/-- The station with the receiver told to come up on a channel, and nothing noticed yet. -/
def tunedIn (channel : UInt8) (s : Station) : Station :=
  ((s.onRadio fun r =>
    ((r.setChannel channel).clearEvent .ready).clearEvent .rssiEnd).setLna true).onRadio
      (Radio.trigger .rxEnable)

/-- Where the radio listens, and what it has noticed, when it has just been told to. -/
theorem tunedIn_reads (channel : UInt8) (s : Station) :
    (s.tunedIn channel).radio.channel = channel ∧
      (s.tunedIn channel).radio.air = s.radio.air ∧
      (s.tunedIn channel).radio.events.ready = false ∧
      (s.tunedIn channel).radio.events.rssiEnd = false ∧ (s.tunedIn channel).clock = s.clock := by
  have told : (s.tunedIn channel).radio =
      (((s.radio.setChannel channel).clearEvent .ready).clearEvent .rssiEnd).trigger .rxEnable :=
    rfl
  rw [told]
  unfold Radio.trigger
  split <;> exact ⟨rfl, rfl, rfl, rfl, rfl⟩

/-- With power the receiver is on its way up then. -/
theorem phase_tunedIn (powered : s.radio.powered = true) (channel : UInt8) :
    (s.tunedIn channel).radio.phase = .rxRampUp := by
  have told : (s.tunedIn channel).radio =
      { ((s.radio.setChannel channel).clearEvent .ready).clearEvent .rssiEnd with
        phase := .rxRampUp } := if_pos powered
  rw [told]

/-- **A measurement that starts in its mode waits for the receiver.** -/
theorem startMeasurement_of_mode (mode : s.mode = .powerMeasurement) (channel : UInt8) :
    s.startMeasurement channel = (s.tunedIn channel,
      .waiting ⟨channel, .receiver, measurementMaxPolls - 1, s.clock + measurementInterval⟩) := by
  have started : s.startMeasurement channel =
      (s.tunedIn channel).awaitReceiver channel measurementMaxPolls := if_pos mode
  obtain ⟨-, -, down, -, clock⟩ := s.tunedIn_reads channel
  rw [started, ← clock]
  exact if_neg (by simp [down])

/-! ## Steps of the radio -/

/-- How a step of the radio turns out while a measurement waits. -/
inductive Receives (s : Station) : Station → Prop
  /-- The receiver does not respond, or no sample is asked for. -/
  | still (idle : s.radio.phase = .rxRampUp ∧ s.radio.air.unresponsive = true ∨
      s.radio.phase = .rx ∧ s.radio.rssiRequested = false) : Receives s s
  /-- The receiver comes up. -/
  | risen (rising : s.radio.phase = .rxRampUp) (responsive : s.radio.air.unresponsive = false) :
    Receives s { s with radio := { s.radio with
      phase := .rx, events := { s.radio.events with ready := true } } }
  /-- The ambient level is sampled. -/
  | sampled (up : s.radio.phase = .rx) (requested : s.radio.rssiRequested = true) :
    Receives s { s with radio := { s.radio with
      rssiRequested := false
      rssi := s.radio.air.ambientRssi
      events := { s.radio.events with rssiEnd := true } } }

/-- **A step of the radio turns out in one of these ways while a measurement waits.** -/
theorem Gauging.receives_serviceRadio {delays : Prop} (h : s.Gauging delays) :
    s.Receives s.serviceRadio := by
  have quiet : s.radio.interruptPending = false := by
    simp [Radio.interruptPending, h.gauge.calm.interrupt]
  have starts : s.radio.shorts.contains .readyStart = true := by rw [h.gauge.shorts]; simp
  rcases h.phase with rising | receiving
  · have step : s.radio.service s.loaded = (s.radio.rampUp, none) := by
      simp [Radio.service, quiet, Radio.step, rising]
    rw [serviceRadio_of_service step, store_none, Radio.rampUp_eq starts]
    cases mute : s.radio.air.unresponsive with
    | true => exact .still (.inl ⟨rising, mute⟩)
    | false => exact .risen rising mute
  · have step : s.radio.service s.loaded = (s.radio.sampleAmbient, none) := by
      simp [Radio.service, quiet, Radio.step, receiving, h.gauge.pending]
    rw [serviceRadio_of_service step, store_none]
    unfold Radio.sampleAmbient
    cases requested : s.radio.rssiRequested with
    | true => exact .sampled receiving requested
    | false => exact .still (.inr ⟨receiving, requested⟩)

end Station

end BurstLink
