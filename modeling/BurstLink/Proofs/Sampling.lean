import BurstLink.Proofs.Holder
import BurstLink.Proofs.Sampling.Pumped

/-! # Measurements are fresh and bounded

A measurement can leave events, a request for a sample and an old signal strength behind, and be
given up at any moment. The next one clears the events before it switches the receiver on, so what
it finds was sampled since then, on its own channel. Each of its two events is looked for fifty
times at most. This holds in every run, however looks, steps of the radio and changes of the
surroundings follow each other.

Main definitions:

* **`Probe`**, **`Bench.probeBy`** — what is remembered of the measurement in progress along a run.
* **`Station.Probed`** — how station and measurement go with what is remembered.
* **`Bench.Sampled`** — how a look at a measurement in progress turns out.

Main statements: one move and a run (`Bench.ProbedBy.make`, `Bench.ProbedBy.after`), and
`Station.AtStartUp.sampled_of_run`. -/

namespace BurstLink

/-! ## What is remembered -/

/-- What is remembered of the measurement in progress, since it switched the receiver on. -/
structure Probe where
  /-- How often it has looked whether the receiver is up. -/
  receiver : Nat := 0
  /-- How often it has looked for the sample. -/
  sample : Nat := 0
  /-- The samples that the radio has taken, with the channel of each, latest first. -/
  samples : List (UInt8 × UInt8) := []
  deriving DecidableEq

/-- A look at the measurement looks for an event: the pause is over, and there are looks left. When
the receiver is found up, the same look goes on to look for the sample. -/
def Measurement.looksFor (m : Measurement) (s : Station) (awaited : Awaited) : Bool :=
  decide (m.deadline ≤ s.clock) && decide (m.looks ≠ 0) &&
    (decide (m.awaited = awaited) || decide (awaited = .sample) && s.radio.events.ready)

namespace Probe

/-- A look at a measurement in progress. -/
def look (m : Measurement) (s : Station) (probe : Probe) : Probe :=
  { probe with
    receiver := probe.receiver + (m.looksFor s .receiver).toNat
    sample := probe.sample + (m.looksFor s .sample).toNat }

/-- A step of the radio takes a sample if it answers the request for one. -/
def step (s t : Station) (probe : Probe) : Probe :=
  if s.radio.rssiRequested && !t.radio.rssiRequested then
    { probe with samples := (s.radio.channel, s.radio.air.ambientRssi) :: probe.samples }
  else probe

end Probe

/-- What is remembered after a move. A measurement that starts forgets everything; its first look
for the receiver comes at once. -/
def Bench.probeBy (b : Bench) (probe : Probe) : Move → Probe
  | .look position =>
    match b.jobs[position]? with
    | none => probe
    | some job =>
      match job.activity, (job.activity.poll b.station).2 with
      | .measuring m, _ => probe.look m b.station
      | .queued _, .waiting (.measuring _) => { receiver := 1 }
      | _, _ => probe
  | .service => probe.step b.station b.station.serviceRadio
  | .pump => probe.step b.station b.station.pump.1
  | _ => probe

/-- What is remembered after some moves. -/
def Bench.probeAfter (b : Bench) (probe : Probe) : List Move → Probe
  | [] => probe
  | move :: moves => (b.make move).probeAfter (b.probeBy probe move) moves

/-! ## The invariant -/

namespace Station

variable {s t : Station} {m m' : Measurement} {probe : Probe}

/-- How station and measurement go with what is remembered. -/
structure Probed (m : Measurement) (probe : Probe) (s : Station) : Prop where
  /-- The radio is tuned to the channel of the measurement. -/
  tuned : s.radio.channel = m.channel
  /-- A sample that can be read is the last one taken, on that channel. -/
  sampled : s.radio.events.rssiEnd = true →
    probe.samples.head? = some (m.channel, s.radio.rssi)
  /-- Looks for the receiver, while it is awaited. -/
  receiver : m.awaited = .receiver →
    probe.receiver + m.looks = measurementMaxPolls ∧ probe.sample = 0
  /-- Looks for the sample, while it is awaited. -/
  sample : m.awaited = .sample →
    probe.receiver ≤ measurementMaxPolls ∧ probe.sample + m.looks = measurementMaxPolls

/-- It is about channel and sample only. -/
theorem Probed.transfer (h : s.Probed m probe) (channel : t.radio.channel = s.radio.channel)
    (rssi : t.radio.rssi = s.radio.rssi)
    (rssiEnd : t.radio.events.rssiEnd = s.radio.events.rssiEnd) : t.Probed m probe where
  tuned := channel.trans h.tuned
  sampled raised := by
    rw [rssi]
    exact h.sampled (rssiEnd.symm.trans raised)
  receiver := h.receiver
  sample := h.sample

/-- **A look that is due and goes on.** -/
theorem Probed.checked (h : s.Probed m probe) (due : m.deadline ≤ s.clock)
    (found : s.checkMeasurement m = (t, .waiting m')) : t.Probed m' (probe.look m s) := by
  have checks := checks_checkMeasurement due
  generalize looked : s.checkMeasurement m = outcome at checks found
  -- only a look that goes on is to be counted
  cases checks with
  | missed => exact absurd (congrArg Prod.snd found) (by simp [missEvent])
  | read => exact absurd (Prod.mk.inj found).2 (by simp)
  | @paused looks left down =>
    obtain ⟨rfl, goesOn⟩ := Prod.mk.inj found
    obtain rfl := Look.waiting.inj goesOn
    refine ⟨h.tuned, h.sampled, fun awaited => ?_, fun awaited => ?_⟩
    · have awaited : m.awaited = .receiver := awaited
      have low : s.radio.events.ready = false := by
        rw [awaited] at down
        exact down
      obtain ⟨count, unlooked⟩ := h.receiver awaited
      simp [Probe.look, Measurement.looksFor, due, left, awaited, low]
      omega
    · have awaited : m.awaited = .sample := awaited
      obtain ⟨few, count⟩ := h.sample awaited
      simp [Probe.look, Measurement.looksFor, due, left, awaited]
      omega
  | @asked looks left awaited up down =>
    obtain ⟨rfl, goesOn⟩ := Prod.mk.inj found
    obtain rfl := Look.waiting.inj goesOn
    obtain ⟨channel, -, -, rssiEnd, -⟩ := s.askForSample_reads
    obtain ⟨count, unlooked⟩ := h.receiver awaited
    refine ⟨channel.trans h.tuned, fun raised => ?_, by simp, fun _ => ?_⟩
    · exact absurd ((rssiEnd.trans down).symm.trans raised) (by simp)
    · simp [Probe.look, Measurement.looksFor, due, left, awaited, up]
      omega

/-- **A step of the radio.** What it samples is remembered. -/
theorem Probed.received (h : s.Probed m probe) (received : s.Receives t) :
    t.Probed m (probe.step s t) := by
  cases received with
  | still idle =>
    have same : probe.step s s = probe := by simp [Probe.step]
    rw [same]
    exact h
  | risen rising responsive =>
    have same : ∀ events phase, probe.step s { s with radio := { s.radio with
        phase := phase, events := events } } = probe := by simp [Probe.step]
    rw [same]
    exact h.transfer rfl rfl rfl
  | sampled up requested =>
    refine ⟨h.tuned, fun _ => ?_, ?_, ?_⟩
    · simp [Probe.step, requested, h.tuned]
    · simpa [Probe.step, requested] using h.receiver
    · simpa [Probe.step, requested] using h.sample

/-- A measurement that has just told the receiver to come up. -/
theorem probed_tunedIn (channel : UInt8) (deadline : Nat) (s : Station) :
    (s.tunedIn channel).Probed ⟨channel, .receiver, measurementMaxPolls - 1, deadline⟩
      { receiver := 1 } := by
  obtain ⟨tuned, -, -, rssiEnd, -⟩ := s.tunedIn_reads channel
  exact ⟨tuned, fun raised => absurd (rssiEnd.symm.trans raised) (by simp), fun _ => ⟨rfl, rfl⟩,
    by simp⟩

/-- **No event is looked for more often than allowed.** -/
theorem Probed.bounded (h : s.Probed m probe) :
    (probe.look m s).receiver ≤ measurementMaxPolls ∧
      (probe.look m s).sample ≤ measurementMaxPolls := by
  have once : ∀ awaited, (m.looksFor s awaited).toNat ≤ 1 := fun _ => Bool.toNat_le _
  -- a look that is counted is one of those that are left
  have left : ∀ awaited, (m.looksFor s awaited).toNat ≤ m.looks := by
    intro awaited
    by_cases used : m.looks = 0
    · simp [Measurement.looksFor, used]
    · exact Nat.le_trans (once awaited) (Nat.pos_of_ne_zero used)
  show probe.receiver + _ ≤ _ ∧ probe.sample + _ ≤ _
  cases awaited : m.awaited with
  | receiver =>
    obtain ⟨count, unlooked⟩ := h.receiver awaited
    rw [unlooked, Nat.zero_add]
    refine ⟨?_, Nat.le_trans (once .sample) (by decide)⟩
    rw [← count]
    exact Nat.add_le_add_left (left .receiver) _
  | sample =>
    obtain ⟨few, count⟩ := h.sample awaited
    have passed : m.looksFor s .receiver = false := by simp [Measurement.looksFor, awaited]
    refine ⟨by rw [passed]; exact few, ?_⟩
    rw [← count]
    exact Nat.add_le_add_left (left .sample) _

/-- A look that is due and goes on looks for an event, and begins the next pause. -/
theorem looks_of_waiting (due : m.deadline ≤ s.clock) (probe : Probe)
    (found : s.checkMeasurement m = (t, .waiting m')) :
    m'.channel = m.channel ∧ m'.deadline = s.clock + measurementInterval ∧
      probe.receiver + probe.sample < (probe.look m s).receiver + (probe.look m s).sample := by
  have checks := checks_checkMeasurement due
  generalize looked : s.checkMeasurement m = outcome at checks found
  cases checks with
  | missed => exact absurd (congrArg Prod.snd found) (by simp [missEvent])
  | read => exact absurd (Prod.mk.inj found).2 (by simp)
  | @paused looks left down =>
    obtain rfl := Look.waiting.inj (Prod.mk.inj found).2
    refine ⟨rfl, rfl, ?_⟩
    cases awaited : m.awaited with
    | receiver => simp [Probe.look, Measurement.looksFor, due, left, awaited]; omega
    | sample => simp [Probe.look, Measurement.looksFor, due, left, awaited]
  | @asked looks left awaited up down =>
    obtain rfl := Look.waiting.inj (Prod.mk.inj found).2
    refine ⟨rfl, rfl, ?_⟩
    simp [Probe.look, Measurement.looksFor, due, left, awaited, up]
    omega

/-- **A look that ends the measurement** reads the last sample, or all looks for an event are used
up. -/
theorem Probed.result (h : s.Probed m probe) {result : Except Failure UInt8}
    (found : s.checkMeasurement m = (t, .finished result)) :
    (∃ level, result = .ok level ∧ probe.samples.head? = some (m.channel, level)) ∨
      result = .error .measurementTimeout ∧
        (probe.receiver = measurementMaxPolls ∨ probe.sample = measurementMaxPolls) := by
  rcases Nat.lt_or_ge s.clock m.deadline with early | due
  · rw [checkMeasurement_of_early early] at found
    exact absurd (Prod.mk.inj found).2 (by simp)
  have checks := checks_checkMeasurement due
  generalize looked : s.checkMeasurement m = outcome at checks found
  -- of the looks that are due, two end the measurement
  cases checks with
  | paused => exact absurd (Prod.mk.inj found).2 (by simp)
  | asked => exact absurd (Prod.mk.inj found).2 (by simp)
  | read _ _ raised =>
    obtain rfl := Look.finished.inj (Prod.mk.inj found).2
    exact .inl ⟨_, rfl, h.sampled raised⟩
  | missed used =>
    obtain rfl := Look.finished.inj (Prod.mk.inj found).2
    refine .inr ⟨rfl, ?_⟩
    cases awaited : m.awaited with
    | receiver =>
      have count := (h.receiver awaited).1
      rw [used] at count
      exact .inl count
    | sample =>
      have count := (h.sample awaited).2
      rw [used] at count
      exact .inr count

end Station

/-! ## Along a run -/

namespace Activity

/-- A look at a measurement that has not started refuses it, lets it wait for the lock, or tells the
receiver to come up. -/
theorem poll_measureRssi (channel : UInt8) (s : Station) :
    (∃ t failure, (queued (.measureRssi channel)).poll s = (t, .finished (.error failure))) ∨
    (queued (.measureRssi channel)).poll s = (s, .waiting (.queued (.measureRssi channel))) ∨
    (queued (.measureRssi channel)).poll s = ((s.tunedIn channel).setLocked true,
      .waiting (.measuring
        ⟨channel, .receiver, measurementMaxPolls - 1, s.clock + measurementInterval⟩)) := by
  have fares := fares_poll (.measureRssi channel) s
  generalize (queued (.measureRssi channel)).poll s = found at fares ⊢
  cases fares with
  | decided decided =>
    obtain ⟨reason, rfl⟩ := Request.exists_of_refusal? decided
    exact .inl ⟨_, _, rfl⟩
  | waits => exact .inr (.inl rfl)
  | starts =>
    by_cases mode : s.mode = .powerMeasurement
    · refine .inr (.inr ?_)
      show Station.withLock (Station.ofMeasurement (s.startMeasurement channel)) = _
      rw [Station.startMeasurement_of_mode mode]
      rfl
    · refine .inl ⟨s.setLocked false, .notAvailable, ?_⟩
      rw [Station.start_of_other_mode rfl mode]
      rfl
  | tests other => cases other

/-- What goes on as a measurement was one, or starts. -/
theorem measuring_of_poll {activity : Activity} {s t : Station} {m' : Measurement}
    (polled : activity.poll s = (t, .waiting (.measuring m'))) :
    (∃ m u, activity = .measuring m ∧ s.checkMeasurement m = (u, .waiting m') ∧
        t = u.setLocked true) ∨
      ∃ channel, activity = .queued (.measureRssi channel) ∧
        m' = ⟨channel, .receiver, measurementMaxPolls - 1, s.clock + measurementInterval⟩ ∧
        t = (s.tunedIn channel).setLocked true := by
  have measures := routine_poll (congrArg Prod.snd polled)
  cases activity with
  | measuring m =>
    obtain ⟨u, m'', found, named, locked⟩ := Station.exists_of_withLock polled
    obtain rfl := Activity.measuring.inj named
    exact .inl ⟨m, u, rfl, found, locked⟩
  | queued request =>
    cases request with
    | measureRssi channel =>
      rcases poll_measureRssi channel s with ⟨u, failure, refused⟩ | waits | starts
      · exact absurd (congrArg Prod.snd (refused.symm.trans polled)) (by simp)
      · exact absurd (congrArg Prod.snd (waits.symm.trans polled)) (by simp)
      · obtain ⟨station, goesOn⟩ := Prod.mk.inj (polled.symm.trans starts)
        exact .inr ⟨channel, rfl, Activity.measuring.inj (Look.waiting.inj goesOn), station⟩
    | _ => cases measures
  | _ => cases measures

end Activity

namespace Bench

variable {b : Bench} {probe : Probe} {move : Move}

/-- The measurement in progress goes with what is remembered. -/
def ProbedBy (b : Bench) (probe : Probe) : Prop :=
  ∀ job ∈ b.jobs, ∀ m, job.activity = .measuring m → b.station.Probed m probe

/-- A look that a measurement goes on after. -/
theorem probed_of_looked (h : b.ProbedBy probe) {position : Nat} {job : Job} {t : Station}
    {m : Measurement} (found : b.jobs[position]? = some job)
    (polled : job.activity.poll b.station = (t, .waiting (.measuring m))) :
    t.Probed m (b.probeBy probe (.look position)) := by
  rcases Activity.measuring_of_poll polled with ⟨m₀, u, was, checked, rfl⟩ |
      ⟨channel, was, rfl, rfl⟩
  · have before := h job (List.mem_of_getElem? found) m₀ was
    have remembered : b.probeBy probe (.look position) = probe.look m₀ b.station := by
      simp [probeBy, found, was]
    rw [remembered]
    -- a look before the deadline is not counted
    have after : u.Probed m (probe.look m₀ b.station) := by
      by_cases due : m₀.deadline ≤ b.station.clock
      · exact before.checked due checked
      · rw [Station.checkMeasurement_of_early (Nat.lt_of_not_le due)] at checked
        obtain ⟨rfl, goesOn⟩ := Prod.mk.inj checked
        obtain rfl := Look.waiting.inj goesOn
        have unlooked : probe.look m₀ b.station = probe := by
          simp [Probe.look, Measurement.looksFor, due]
        rw [unlooked]
        exact before
    exact after.transfer rfl rfl rfl
  · have remembered : b.probeBy probe (.look position) = { receiver := 1 } := by
      rw [was] at polled
      simp [probeBy, found, was, polled]
    rw [remembered]
    exact (Station.probed_tunedIn channel _ b.station).transfer rfl rfl rfl

/-- A look at a job that waits for the lock leaves everything as it is remembered. -/
theorem probeBy_of_idle {position : Nat} (idle : ∀ job, b.jobs[position]? = some job →
    (∃ request, job.activity = .queued request) ∧
      Progress.holder (job.activity.poll b.station).2 = none) :
    b.probeBy probe (.look position) = probe := by
  cases found : b.jobs[position]? with
  | none => simp only [probeBy, found]
  | some job =>
    obtain ⟨⟨request, queued⟩, free⟩ := idle job found
    rw [queued] at free
    simp only [probeBy, found, queued]
    generalize (Activity.queued request).poll b.station = looked at free ⊢
    obtain ⟨t, rest | result⟩ := looked
    · cases rest with
      | measuring m => exact absurd free (by simp [Progress.holder, Activity.holdsLock])
      | _ => rfl
    · rfl

/-- **What one move preserves.** -/
theorem ProbedBy.make (h : b.ProbedBy probe) (sound : b.Sound True True)
    (regular : move.Regular) : (b.make move).ProbedBy (b.probeBy probe move) := by
  intro job member m measures
  have tends := sound.tends_make regular member (by rw [measures]; rfl)
  rw [measures] at tends
  generalize (b.make move).station = t at tends
  -- a measurement that is not looked at depends on what happens to the radio meanwhile
  cases tends with
  | looked found polled => exact probed_of_looked h found polled
  | @beside move t job' member' same beside =>
    have before := h job' member' m same
    have gauging : b.station.Gauging True := by
      have held := (sound.held member' (by rw [same]; rfl)).2
      rw [same] at held
      exact held
    cases beside with
    | asked unchanged =>
      rw [unchanged.rest]
      exact before.transfer rfl rfl rfl
    | gaveUp unchanged =>
      rw [unchanged.rest]
      exact before.transfer rfl rfl rfl
    | @overlooked position _ idle unchanged =>
      rw [probeBy_of_idle idle, unchanged.rest]
      exact before.transfer rfl rfl rfl
    | waited time => exact before.transfer rfl rfl rfl
    | served => exact before.received gauging.receives_serviceRadio
    | pumped =>
      have served : b.station.pump.1 = b.station.serviceRadio :=
        Station.pump_of_quiet (by
          simp [Radio.interruptPending, gauging.serviceRadio.gauge.calm.interrupt])
      rw [served]
      show b.station.serviceRadio.Probed m (probe.step b.station b.station.pump.1)
      rw [served]
      exact before.received gauging.receives_serviceRadio
    | @arranged command arranges =>
      obtain ⟨⟨air, radio⟩, -⟩ := radio_of_arranges (b := b) arranges
      refine before.transfer ?_ ?_ ?_ <;> rw [radio]
    | turned => exact before.transfer rfl rfl rfl

/-- **What a run preserves.** The induction is on the moves. -/
theorem ProbedBy.after (h : b.ProbedBy probe) (reachable : b.Reachable) (moves : List Move)
    (regular : ∀ move ∈ moves, move.Regular) :
    (b.after moves).ProbedBy (b.probeAfter probe moves) := by
  induction moves generalizing b probe with
  | nil => exact h
  | cons move moves ih =>
    have first : move.Regular := regular move (by simp)
    exact ih (h.make reachable.sound first) (reachable.make move first)
      fun m member => regular m (by simp [member])

/-! ## How a look turns out -/

/-- How a look at a measurement in progress turns out, in terms of what is remembered of the run. -/
structure Sampled (probe : Probe) (b : Bench) (job : Job) (m : Measurement) : Prop where
  /-- The radio is tuned to the channel of the measurement. -/
  tuned : b.station.radio.channel = m.channel
  /-- With the looks of this look, too, neither event is looked for more than fifty times. -/
  bounded : (probe.look m b.station).receiver ≤ measurementMaxPolls ∧
    (probe.look m b.station).sample ≤ measurementMaxPolls
  /-- During a pause a look changes nothing. -/
  waits : b.station.clock < m.deadline → job.poll b.station = (b.station, .waiting job)
  /-- After the pause the look ends the measurement, or it looks for an event and begins the next
  pause. -/
  goesOn : m.deadline ≤ b.station.clock →
    (∃ t completion, job.poll b.station = (t, .finished completion) ∧ t.locked = false) ∨
    ∃ t m', job.poll b.station = (t, .waiting { job with activity := .measuring m' }) ∧
      m'.channel = m.channel ∧ m'.deadline = b.station.clock + measurementInterval ∧
      probe.receiver + probe.sample <
        (probe.look m b.station).receiver + (probe.look m b.station).sample
  /-- It answers with the level that the radio sampled last, which it did on this channel and after
  the measurement had switched the receiver on; or all looks for one event are used up. -/
  answers : ∀ t completion, job.poll b.station = (t, .finished completion) →
    (∃ level, completion.result = .ok (.rssi level) ∧
        probe.samples.head? = some (m.channel, level)) ∨
      completion.result = .error .measurementTimeout ∧
        (probe.receiver = measurementMaxPolls ∨ probe.sample = measurementMaxPolls)

/-- How a look at a measurement that has not started turns out. -/
structure Begins (b : Bench) (job : Job) (channel : UInt8) : Prop where
  /-- If it ends with this look, it is refused. -/
  refused : ∀ t completion, job.poll b.station = (t, .finished completion) →
    ∃ failure, completion.result = .error failure
  /-- If it goes on, it waits for the lock, or it is a measurement on the channel that was asked
  for, and nothing from before is remembered. -/
  goesOn : ∀ t job', job.poll b.station = (t, .waiting job') →
    job' = job ∨ (∃ m, job'.activity = .measuring m ∧ m.channel = channel) ∧
      ∀ probe position, b.jobs[position]? = some job →
        b.probeBy probe (.look position) = { receiver := 1 }

/-- **A look at a measurement that goes with what is remembered** turns out as that says. -/
theorem ProbedBy.sampled (h : b.ProbedBy probe) (sound : b.Sound True True) {job : Job}
    (member : job ∈ b.jobs) {m : Measurement} (measures : job.activity = .measuring m) :
    b.Sampled probe job m := by
  have probed := h job member m measures
  have locked := (sound.held member (by rw [measures]; rfl)).1
  -- the look at the job is the look at its measurement, with the lock kept or given back
  have goesOn : ∀ t m', b.station.checkMeasurement m = (t, .waiting m') → job.poll b.station =
      (t.setLocked true, .waiting { job with activity := .measuring m' }) := by
    intro t m' found
    refine Job.poll_of_waiting ?_
    rw [measures]
    exact Station.poll_measuring_of_waiting found
  have ends : ∀ t result, b.station.checkMeasurement m = (t, .finished result) →
      job.poll b.station = ((t.setLocked false).releaseBuffers,
        .finished ⟨job.label, result.map .rssi, job.packets (t.setLocked false)⟩) := by
    intro t result found
    refine Job.poll_of_finished ?_
    rw [measures]
    exact Station.poll_measuring_of_finished found
  have early : b.station.clock < m.deadline →
      job.poll b.station = (b.station, .waiting job) := by
    intro early
    rw [goesOn _ _ (Station.checkMeasurement_of_early early),
      Station.setLocked_of_locked locked, ← measures]
  refine ⟨probed.tuned, probed.bounded, early, ?_, ?_⟩
  · intro due
    rcases looked : b.station.checkMeasurement m with ⟨t, m' | result⟩
    · have looks := Station.looks_of_waiting due probe looked
      exact .inr ⟨_, m', goesOn _ _ looked, looks⟩
    · exact .inl ⟨_, _, ends _ _ looked, Station.releaseBuffers_locked _⟩
  · intro t completion polled
    rcases looked : b.station.checkMeasurement m with ⟨u, m' | result⟩
    · exact absurd (Prod.mk.inj ((goesOn _ _ looked).symm.trans polled)).2 (by simp)
    · obtain rfl := Look.finished.inj (Prod.mk.inj ((ends _ _ looked).symm.trans polled)).2
      rcases probed.result looked with ⟨level, rfl, sampled⟩ | ⟨rfl, used⟩
      · exact .inl ⟨level, rfl, sampled⟩
      · exact .inr ⟨rfl, used⟩

/-- A look at a measurement that has not started. -/
theorem begins_of_queued {job : Job} {channel : UInt8}
    (queued : job.activity = .queued (.measureRssi channel)) : b.Begins job channel := by
  have looks := Activity.poll_measureRssi channel b.station
  rw [← queued] at looks
  refine ⟨?_, ?_⟩
  · intro t completion polled
    obtain ⟨u, looked, -⟩ := Job.poll_finished polled
    rcases looks with ⟨v, failure, refused⟩ | waits | starts
    · have same := congrArg Prod.snd (looked.symm.trans refused)
      exact ⟨failure, Look.finished.inj same⟩
    · exact absurd (congrArg Prod.snd (waits.symm.trans looked)) (by simp)
    · exact absurd (congrArg Prod.snd (starts.symm.trans looked)) (by simp)
  · intro t job' polled
    obtain ⟨rest, looked, rfl⟩ := Job.poll_waiting polled
    rcases looks with ⟨v, failure, refused⟩ | waits | starts
    · exact absurd (congrArg Prod.snd (refused.symm.trans looked)) (by simp)
    · have same := congrArg Prod.snd (looked.symm.trans waits)
      exact .inl (by rw [Look.waiting.inj same])
    · have same := congrArg Prod.snd (looked.symm.trans starts)
      refine .inr ⟨⟨_, Look.waiting.inj same, rfl⟩, ?_⟩
      intro probe position found
      rw [queued] at starts
      simp only [probeBy, found, queued, starts]

end Bench

/-- **A measurement is fresh and bounded.** In every run, whatever was measured, sent or given up
before: with the lock free and in its mode a measurement that has the bench to itself is answered
with the ambient level, or times out if the receiver does not respond. Whatever the radio and the
other jobs do meanwhile, each event is looked for fifty times at most, and the only level that can
be answered is the one that was sampled last, since the measurement switched the receiver on and on
its channel. -/
theorem Station.AtStartUp.sampled_of_run {s : Station} (start : s.AtStartUp) (moves : List Move)
    (regular : ∀ move ∈ moves, move.Regular) :
    let b := (Bench.ofStation s).after moves
    let probe := (Bench.ofStation s).probeAfter {} moves
    (b.station.locked = false → b.station.mode = .powerMeasurement →
      ∀ channel ≤ maxChannel, Bench.Measures channel b.station ((Bench.ofStation b.station).execute
        (.perform none (.request (.measureRssi channel)) true))) ∧
    (∀ job ∈ b.jobs, ∀ channel, job.activity = .queued (.measureRssi channel) →
      b.Begins job channel) ∧
    ∀ job ∈ b.jobs, ∀ m, job.activity = .measuring m → b.Sampled probe job m := by
  intro b probe
  have reachable : b.Reachable := (Bench.Reachable.startUp start).after moves regular
  have nobody : (Bench.ofStation s).ProbedBy {} := by simp [Bench.ProbedBy, Bench.ofStation]
  have probed : b.ProbedBy probe := nobody.after (.startUp start) moves regular
  exact ⟨fun free mode channel inRange => reachable.measures free mode inRange,
    fun job member channel queued => Bench.begins_of_queued queued,
    fun job member m measures => probed.sampled reachable.sound member measures⟩

/-- A measurement on channel 5 is given up after it has asked for a sample. Later the ambient level
is another one, and a measurement on channel 6 has come to the end of its first pause. -/
def Bench.retunedMoves : List Move :=
  [.ask none (.request (.switchMode .powerMeasurement)), .look 0,
    .arrange (.setAir (.ambientRssi 72)), .ask none (.request (.measureRssi 5)), .look 0, .pump,
    .wait 20, .look 0, .giveUp 0, .arrange (.setAir (.ambientRssi 40)),
    .ask none (.request (.measureRssi 6)), .look 0, .pump, .pump, .wait 20]

/-- The request that was left behind is answered on channel 6, and the next look reads the level
that was sampled there. Before the second measurement any other channel could be measured as
well. -/
theorem Bench.sampled_of_retuned :
    let start := Bench.ofStation (.withFrontEnd .zeros)
    let b := start.after retunedMoves
    let probe := start.probeAfter {} retunedMoves
    let between := start.after (retunedMoves.take 10)
    let job : Job := ⟨none, none, .measuring ⟨6, .receiver, 49, 40⟩⟩
    (∀ move ∈ retunedMoves, move.Regular) ∧
      (between.station.radio.rssiRequested = true ∧ ((ofStation between.station).execute
        (.perform none (.request (.measureRssi 7)) true)).2 =
          .finished ⟨none, .ok (.rssi 40), none⟩) ∧
      job ∈ b.jobs ∧ probe = ⟨1, 0, [(6, 40)]⟩ ∧
      ∃ t completion, job.poll b.station = (t, .finished completion) ∧
        completion.result = .ok (.rssi 40) := by
  intro start b probe between job
  have regular : ∀ move ∈ retunedMoves, move.Regular := by decide
  obtain ⟨level, -, -⟩ := Station.AtStartUp.sampled_of_run ⟨.zeros, .inl rfl⟩
    (retunedMoves.take 10) (by decide)
  obtain ⟨-, -, sampled⟩ := Station.AtStartUp.sampled_of_run ⟨.zeros, .inl rfl⟩ retunedMoves regular
  have member : job ∈ b.jobs := by decide +kernel
  have remembered : probe = ⟨1, 0, [(6, 40)]⟩ := by decide +kernel
  have measured := (level (by decide +kernel) (by decide +kernel) 7 (by decide)).level
    (by decide +kernel) (by decide +kernel)
  have fresh : b.Sampled probe job ⟨6, .receiver, 49, 40⟩ := sampled job member _ rfl
  have ends : (job.poll b.station).2.isWaiting = false := by decide +kernel
  refine ⟨regular, ⟨by decide +kernel, measured.1⟩, member, remembered, ?_⟩
  rcases polled : job.poll b.station with ⟨t, job' | completion⟩
  · rw [polled] at ends
    exact absurd ends (by simp [Look.isWaiting])
  · refine ⟨t, completion, rfl, ?_⟩
    have answers := fresh.answers t completion polled
    rw [remembered] at answers
    rcases answers with ⟨level, answer, last⟩ | ⟨-, used⟩
    · obtain rfl : (40 : UInt8) = level := (Prod.mk.inj (Option.some.inj last)).2
      exact answer
    · exact absurd used (by decide)

end BurstLink
