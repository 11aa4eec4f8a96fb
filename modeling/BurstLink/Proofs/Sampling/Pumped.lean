import BurstLink.Proofs.Alone
import BurstLink.Proofs.Footprint
import BurstLink.Proofs.Packets.Bench
import BurstLink.Proofs.Retry.Exchange
import BurstLink.Proofs.Sampling.Looks

/-! # A measurement under the pump

With the bench to itself a measurement is looked at in every round, and in every round the radio
makes a step. Two rounds make a pause. In the first pause the receiver comes up; if somebody has
asked for a sample before, it is taken then, on the new channel. Otherwise it is asked for, and
taken in the second pause. A receiver that does not respond uses up all looks.

Main definitions:

* **`Station.Attuned`** — a measurement holds the lock, on a channel and in given surroundings.
* **`Bench.Measures`** — how a measurement is answered.

Main statements: a receiver that responds is read (`Station.Attuned.level`), one that does not is
given up (`Station.Attuned.timeout`), whatever was left behind before
(`Bench.Reachable.measures`). -/

namespace BurstLink

namespace Station

variable {s t : Station} {m : Measurement} {channel : UInt8} {air : Air}

/-- A measurement holds the lock, on a channel and in given surroundings. -/
structure Attuned (channel : UInt8) (air : Air) (s : Station) : Prop where
  gauging : s.Gauging True
  locked : s.locked = true
  tuned : s.radio.channel = channel
  around : s.radio.air = air

/-! ## Single rounds -/

/-- A step of the radio tunes nothing, and takes no time. -/
theorem Receives.keeps (h : s.Receives t) : t.radio.channel = s.radio.channel ∧
    t.radio.air = s.radio.air ∧ t.locked = s.locked ∧ t.clock = s.clock := by
  cases h with
  | still idle => exact ⟨rfl, rfl, rfl, rfl⟩
  | risen rising responsive => exact ⟨rfl, rfl, rfl, rfl⟩
  | sampled up requested => exact ⟨rfl, rfl, rfl, rfl⟩

/-- **A round of a measurement** is a step of the radio, and stops the simulation if the history is
full. -/
theorem Attuned.round (h : s.Attuned channel air) :
    ∃ t, s.round = (t, if air.historyFull then some .transmissions else none) ∧
      s.later.Receives t ∧ t.Attuned channel air ∧ t.clock = s.clock + roundTime := by
  have gauging : s.later.Gauging True :=
    ⟨s.later_agree.gaugeMode h.gauging.gauge, h.gauging.phase, h.gauging.amplifiers⟩
  have received := gauging.receives_serviceRadio
  obtain ⟨tuned, around, locked, clock⟩ := received.keeps
  have still := gauging.serviceRadio
  have attuned : s.later.serviceRadio.Attuned channel air :=
    ⟨still, locked.trans h.locked, tuned.trans h.tuned, around.trans h.around⟩
  refine ⟨s.later.serviceRadio, ?_, received, attuned, clock⟩
  have quiet : s.later.serviceRadio.radio.interruptPending = false := by
    simp [Radio.interruptPending, still.gauge.calm.interrupt]
  have full : s.later.serviceRadio.overflowed = air.historyFull := by
    rw [overflowed, attuned.around]
  show s.later.pump = _
  unfold pump
  dsimp only
  rw [full, quiet]
  cases air.historyFull <;> rfl

/-- A look at a measurement that goes on. -/
theorem poll_measuring_of_waiting {m' : Measurement}
    (found : s.checkMeasurement m = (t, .waiting m')) :
    (Activity.measuring m).poll s = (t.setLocked true, .waiting (.measuring m')) := by
  show withLock (ofMeasurement (s.checkMeasurement m)) = _
  rw [found]
  rfl

/-- A look at a measurement that is over. -/
theorem poll_measuring_of_finished {result : Except Failure UInt8}
    (found : s.checkMeasurement m = (t, .finished result)) :
    (Activity.measuring m).poll s = (t.setLocked false, .finished (result.map .rssi)) := by
  show withLock (ofMeasurement (s.checkMeasurement m)) = _
  rw [found]
  rfl

/-! ## A pause -/

/-- **A pause takes two rounds**, and the look between them is early. -/
theorem Attuned.pause (h : s.Attuned channel air) (fits : air.historyFull = false)
    (begins : m.deadline = s.clock + measurementInterval) :
    ∃ t₁ t, s.later.Receives t₁ ∧ t₁.later.Receives t ∧
      (Activity.measuring m).Reaches 1 s (.measuring m) t ∧ t.Attuned channel air ∧
      t.clock = m.deadline := by
  obtain ⟨t₁, first, received₁, attuned₁, clock₁⟩ := h.round
  obtain ⟨t, second, received, attuned, clock⟩ := attuned₁.round
  rw [fits] at first second
  have early : t₁.clock < m.deadline := by
    rw [clock₁, begins]
    exact Nat.add_lt_add_left (by decide) _
  have looked := poll_measuring_of_waiting (checkMeasurement_of_early early)
  rw [setLocked_of_locked attuned₁.locked] at looked
  refine ⟨t₁, t, received₁, received, .onward first looked (.first second), attuned, ?_⟩
  rw [clock, clock₁, begins]
  rfl

/-- In a pause a receiver that responds comes up. If a sample was asked for before, it is taken. -/
theorem Attuned.rises (h : s.Attuned channel air) (fits : air.historyFull = false)
    (begins : m.deadline = s.clock + measurementInterval) (rising : s.radio.phase = .rxRampUp)
    (responsive : air.unresponsive = false) (down : s.radio.events.rssiEnd = false) :
    ∃ t, (Activity.measuring m).Reaches 1 s (.measuring m) t ∧ t.Attuned channel air ∧
      t.clock = m.deadline ∧ t.radio.phase = .rx ∧ t.radio.events.ready = true ∧
      (t.radio.events.rssiEnd = true → t.radio.rssi = air.ambientRssi) := by
  obtain ⟨t₁, t, received₁, received, reaches, attuned, clock⟩ := h.pause fits begins
  have around := attuned.around
  refine ⟨t, reaches, attuned, clock, ?_⟩
  cases received₁ with
  | still idle =>
    rcases idle with ⟨-, mute⟩ | ⟨up, -⟩
    · exact absurd ((congrArg Air.unresponsive h.around).symm.trans mute) (by simp [responsive])
    · exact absurd (rising.symm.trans up) (by simp)
  | sampled up requested => exact absurd (rising.symm.trans up) (by simp)
  | risen =>
    cases received with
    | still idle => exact ⟨rfl, rfl, fun raised => absurd (down.symm.trans raised) (by simp)⟩
    | risen rising' => exact absurd rising' (by simp [later])
    | sampled up requested => exact ⟨up, rfl, fun _ => congrArg Air.ambientRssi around⟩

/-- In a pause a sample that was asked for is taken. -/
theorem Attuned.samples (h : s.Attuned channel air) (fits : air.historyFull = false)
    (begins : m.deadline = s.clock + measurementInterval) (up : s.radio.phase = .rx)
    (requested : s.radio.rssiRequested = true) :
    ∃ t, (Activity.measuring m).Reaches 1 s (.measuring m) t ∧ t.Attuned channel air ∧
      t.clock = m.deadline ∧ t.radio.events.rssiEnd = true ∧ t.radio.rssi = air.ambientRssi := by
  obtain ⟨t₁, t, received₁, received, reaches, attuned, clock⟩ := h.pause fits begins
  have around := attuned.around
  refine ⟨t, reaches, attuned, clock, ?_⟩
  cases received₁ with
  | still idle =>
    rcases idle with ⟨rising, -⟩ | ⟨-, unasked⟩
    · exact absurd (up.symm.trans rising) (by simp)
    · exact absurd (requested.symm.trans unasked) (by simp)
  | risen rising => exact absurd (up.symm.trans rising) (by simp)
  | sampled =>
    cases received with
    | still idle => exact ⟨rfl, congrArg Air.ambientRssi around⟩
    | risen rising => exact absurd (up.symm.trans rising) (by simp)
    | sampled up' requested' => exact absurd requested' (by simp [later])

/-- In a pause a receiver that does not respond stays down. -/
theorem Attuned.stays (h : s.Attuned channel air) (fits : air.historyFull = false)
    (begins : m.deadline = s.clock + measurementInterval) (rising : s.radio.phase = .rxRampUp)
    (mute : air.unresponsive = true) (down : s.radio.events.ready = false) :
    ∃ t, (Activity.measuring m).Reaches 1 s (.measuring m) t ∧ t.Attuned channel air ∧
      t.clock = m.deadline ∧ t.radio.phase = .rxRampUp ∧ t.radio.events.ready = false := by
  obtain ⟨t₁, t, received₁, received, reaches, attuned, clock⟩ := h.pause fits begins
  have muted : s.radio.air.unresponsive = true := (congrArg Air.unresponsive h.around).trans mute
  refine ⟨t, reaches, attuned, clock, ?_⟩
  cases received₁ with
  | risen _ responsive => exact absurd (muted.symm.trans responsive) (by simp)
  | sampled up => exact absurd (rising.symm.trans up) (by simp)
  | still =>
    cases received with
    | still => exact ⟨rising, down⟩
    | risen _ responsive => exact absurd (muted.symm.trans responsive) (by simp)
    | sampled up => exact absurd (rising.symm.trans up) (by simp)

/-! ## Looks at the end of a pause -/

/-- A sample that is there is read, and the radio stays on its channel. -/
theorem Attuned.reads (h : s.Attuned channel air) (due : m.deadline ≤ s.clock)
    (left : m.looks ≠ 0) (up : m.awaited = .receiver → s.radio.events.ready = true)
    (raised : s.radio.events.rssiEnd = true) :
    ∃ s', (Activity.measuring m).Alone 0 s (.ok (.rssi s.radio.rssi)) s' ∧
      s'.radio.channel = channel := by
  have checked := checks_checkMeasurement due
  have runs := (s.gauges_checkMeasurement m).radio
  generalize found : s.checkMeasurement m = looked at checked runs
  cases checked with
  | missed used => exact absurd used left
  | paused _ down =>
    cases awaited : m.awaited with
    | receiver =>
      rw [awaited] at down
      exact absurd (down.symm.trans (up awaited)) (by simp)
    | sample =>
      rw [awaited] at down
      exact absurd (down.symm.trans raised) (by simp)
  | asked _ _ _ down => exact absurd (down.symm.trans raised) (by simp)
  | @read looks t =>
    refine ⟨t.setLocked false, .ends (poll_measuring_of_finished found), ?_⟩
    have same : t.radio.channel = s.radio.channel := by rw [runs]
    exact same.trans h.tuned

/-- A receiver that is up is asked for a sample, if there is none. -/
theorem Attuned.asks (h : s.Attuned channel air) (due : m.deadline ≤ s.clock)
    (left : m.looks ≠ 0) (awaited : m.awaited = .receiver) (phase : s.radio.phase = .rx)
    (up : s.radio.events.ready = true) (down : s.radio.events.rssiEnd = false) :
    ∃ t, (Activity.measuring m).poll s = (t, .waiting (.measuring
        ⟨m.channel, .sample, measurementMaxPolls - 1, t.clock + measurementInterval⟩)) ∧
      t.Attuned channel air ∧ t.radio.phase = .rx ∧ t.radio.rssiRequested = true := by
  have checked := checks_checkMeasurement due
  have gauged := h.gauging.gauged_checkMeasurement m
  generalize found : s.checkMeasurement m = looked at checked gauged
  cases checked with
  | missed used => exact absurd used left
  | paused _ missing =>
    rw [awaited] at missing
    exact absurd (missing.symm.trans up) (by simp)
  | read _ _ raised => exact absurd (down.symm.trans raised) (by simp)
  | asked =>
    obtain ⟨tuned, around, -, -, clock⟩ := s.askForSample_reads
    obtain ⟨requested, on⟩ := askForSample_requests h.gauging.gauge.powered
    have looked := poll_measuring_of_waiting found
    rw [setLocked_of_locked (show s.askForSample.locked = true from h.locked)] at looked
    exact ⟨s.askForSample, by rw [looked, clock],
      ⟨gauged, h.locked, tuned.trans h.tuned, around.trans h.around⟩, on.trans phase, requested⟩

/-! ## Whole measurements -/

/-- **A receiver that responds is read**, within two pauses. -/
theorem Attuned.level (h : s.Attuned channel air) (fits : air.historyFull = false)
    (responsive : air.unresponsive = false) (awaited : m.awaited = .receiver)
    (left : m.looks ≠ 0) (begins : m.deadline = s.clock + measurementInterval)
    (rising : s.radio.phase = .rxRampUp) (down : s.radio.events.rssiEnd = false) :
    ∃ n ≤ 3, ∃ s', (Activity.measuring m).AfterRound n s (.ok (.rssi air.ambientRssi)) s' ∧
      s'.radio.channel = channel := by
  obtain ⟨t, reaches, attuned, clock, phase, up, level⟩ :=
    h.rises fits begins rising responsive down
  have due : m.deadline ≤ t.clock := Nat.le_of_eq clock.symm
  cases raised : t.radio.events.rssiEnd with
  | true =>
    obtain ⟨s', read, tuned⟩ := attuned.reads due left (fun _ => up) raised
    rw [level raised] at read
    exact ⟨_, by decide, s', reaches.alone read, tuned⟩
  | false =>
    obtain ⟨u, looked, attuned', phase', requested⟩ := attuned.asks due left awaited phase up raised
    obtain ⟨v, reaches', attuned'', clock', raised', level'⟩ :=
      attuned'.samples (m := ⟨m.channel, .sample, measurementMaxPolls - 1, _⟩) fits rfl phase'
        requested
    obtain ⟨s', read, tuned⟩ :=
      attuned''.reads (Nat.le_of_eq clock'.symm) (show 49 ≠ 0 by decide) (by simp) raised'
    rw [level'] at read
    exact ⟨_, by decide, s', (reaches.trans looked reaches').alone read, tuned⟩

/-- **A receiver that does not respond is given up** when all looks are used up. The induction is on
the looks that are left. -/
theorem Attuned.timeout (h : s.Attuned channel air) (fits : air.historyFull = false)
    (mute : air.unresponsive = true) (awaited : m.awaited = .receiver)
    (begins : m.deadline = s.clock + measurementInterval) (rising : s.radio.phase = .rxRampUp)
    (down : s.radio.events.ready = false) :
    ∃ s', (Activity.measuring m).AfterRound (2 * m.looks + 1) s (.error .measurementTimeout)
      s' := by
  generalize left : m.looks = looks
  -- on the looks that are left: each one finds the receiver down and waits for the next one
  induction looks generalizing s m with
  | zero =>
    obtain ⟨t, reaches, attuned, clock, -⟩ := h.stays fits begins rising mute down
    have checked := checks_checkMeasurement (m := m) (Nat.le_of_eq clock.symm)
    generalize found : t.checkMeasurement m = looked at checked
    cases checked with
    | missed => exact ⟨_, reaches.alone (.ends (poll_measuring_of_finished found))⟩
    | paused some => exact absurd (left.symm.trans some) (by simp)
    | asked some => exact absurd (left.symm.trans some) (by simp)
    | read some => exact absurd (left.symm.trans some) (by simp)
  | succ looks ih =>
    obtain ⟨t, reaches, attuned, clock, rising', down'⟩ := h.stays fits begins rising mute down
    have checked := checks_checkMeasurement (m := m) (Nat.le_of_eq clock.symm)
    generalize found : t.checkMeasurement m = looked at checked
    cases checked with
    | missed used => exact absurd (left.symm.trans used) (by simp)
    | asked _ _ up => exact absurd (down'.symm.trans up) (by simp)
    | read _ up => exact absurd (down'.symm.trans (up awaited)) (by simp)
    | @paused looks' some =>
      obtain rfl : looks = looks' := Nat.succ.inj (left.symm.trans some)
      have looked := poll_measuring_of_waiting found
      rw [setLocked_of_locked attuned.locked] at looked
      obtain ⟨s', rest⟩ := ih (m := ⟨m.channel, m.awaited, looks, _⟩) attuned awaited rfl rising'
        down' rfl
      exact ⟨s', reaches.alone (rest.looked looked)⟩

/-- The first look at a measurement, in its mode and with a free lock. -/
theorem AtRest.poll_measureRssi {tears : Prop} (h : s.AtRest True tears)
    (free : s.locked = false) (mode : s.mode = .powerMeasurement) (inRange : channel ≤ maxChannel) :
    ∃ t, (Activity.queued (.measureRssi channel)).poll s = (t, .waiting (.measuring
        ⟨channel, .receiver, measurementMaxPolls - 1, t.clock + measurementInterval⟩)) ∧
      t.Attuned channel s.radio.air ∧ t.radio.phase = .rxRampUp ∧
      t.radio.events.ready = false ∧ t.radio.events.rssiEnd = false := by
  have answer : (Request.measureRssi channel).answer? = none := by
    show Request.refusal? (checkChannel channel) = none
    rw [checkChannel, if_neg (UInt8.not_lt.mpr inRange)]
    rfl
  have started := startMeasurement_of_mode mode channel
  have gauged := h.gauged_startMeasurement mode channel
  rw [started] at gauged
  have gauging : (s.tunedIn channel).Gauging True := gauged
  obtain ⟨gauge, -, -⟩ := h.gauge_of_mode mode
  obtain ⟨tuned, around, ready, rssiEnd, clock⟩ := s.tunedIn_reads channel
  refine ⟨(s.tunedIn channel).setLocked true, ?_,
    ⟨⟨(setLocked_agree ..).gaugeMode gauging.gauge, gauging.phase, gauging.amplifiers⟩, rfl, tuned,
      around⟩, phase_tunedIn gauge.powered channel, ready, rssiEnd⟩
  rw [Activity.poll_queued_of_free free answer rfl]
  show withLock (ofMeasurement (s.startMeasurement channel)) = _
  rw [started]
  rfl

end Station

namespace Bench

variable {b : Bench}

/-- How a measurement that has the bench to itself is answered under the pump. -/
structure Measures (channel : UInt8) (s : Station) (found : Bench × Reaction) : Prop where
  /-- With a receiver that responds, the answer is the ambient level, and the radio is tuned to the
  channel. -/
  level : s.overflowed = false → s.radio.air.unresponsive = false →
    found.2 = .finished ⟨none, .ok (.rssi s.radio.air.ambientRssi), none⟩ ∧
      found.1.station.radio.channel = channel
  /-- With one that does not, the measurement times out. -/
  timeout : s.overflowed = false → s.radio.air.unresponsive = true →
    found.2 = .finished ⟨none, .error .measurementTimeout, none⟩
  /-- If a frame did not fit into the history before, the simulation stops. -/
  stops : s.overflowed = true → found.2 = .overflow .transmissions

/-- A measurement has an answer within the rounds that there is patience for. -/
theorem execute_measureRssi {channel : UInt8} {activity : Activity} {s s' : Station} {n : Nat}
    {result : Result} (looked : (Activity.queued (.measureRssi channel)).poll b.station =
      (s, .waiting activity)) (rest : activity.AfterRound n s result s') (few : n ≤ 200) :
    let found := (ofStation b.station).execute
      (.perform none (.request (.measureRssi channel)) true)
    found.2 = .finished ⟨none, result, none⟩ ∧ found.1.station = s'.releaseBuffers := by
  have enough : n + 1 ≤ patience (.queued (.measureRssi channel)) :=
    Nat.le_trans (Nat.succ_le_succ few) (show 201 ≤ 256 * sendPatience by decide)
  have ran := execute_perform_of_alone (b := .ofStation b.station)
    (.request (.measureRssi channel)) rfl rfl (rest.looked looked) enough
  exact ⟨congrArg Prod.snd ran, congrArg (fun found : Bench × Reaction => found.1.station) ran⟩

/-- **A measurement that has the bench to itself is answered with the ambient level**, if the
receiver responds, and times out otherwise. The station is that of any reachable bench whose lock is
free, in the power measurement mode, whatever events and requests are left in its radio. -/
theorem Reachable.measures (h : b.Reachable) (free : b.station.locked = false)
    (mode : b.station.mode = .powerMeasurement) {channel : UInt8}
    (inRange : channel ≤ maxChannel) :
    Measures channel b.station ((ofStation b.station).execute
      (.perform none (.request (.measureRssi channel)) true)) := by
  obtain ⟨s, looked, attuned, rising, ready, rssiEnd⟩ :=
    (h.sound.atRest_of_free free).poll_measureRssi free mode inRange
  refine ⟨fun fits responsive => ?_, fun fits mute => ?_, fun full => ?_⟩
  · obtain ⟨n, few, s', after, tuned⟩ :=
      attuned.level (m := ⟨channel, .receiver, measurementMaxPolls - 1, _⟩) fits responsive rfl
        (show 49 ≠ 0 by decide) rfl rising rssiEnd
    obtain ⟨answer, station⟩ :=
      execute_measureRssi looked after (Nat.le_trans few (by decide))
    refine ⟨answer, ?_⟩
    obtain ⟨pointer, released⟩ := s'.releaseBuffers_pointed
    rw [station, released]
    exact tuned
  · obtain ⟨s', after⟩ :=
      attuned.timeout (m := ⟨channel, .receiver, measurementMaxPolls - 1, _⟩) fits mute rfl rfl
        rising ready
    exact (execute_measureRssi looked after (show 2 * 49 + 1 ≤ 200 by decide)).1
  · obtain ⟨t, passed, -⟩ := attuned.round
    rw [show b.station.radio.air.historyFull = true from full] at passed
    exact execute_perform_of_overflows (b := .ofStation b.station)
      (.request (.measureRssi channel)) rfl looked (.now passed) (Nat.zero_le _)

end Bench

end BurstLink
