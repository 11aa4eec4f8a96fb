import BurstLink.Proofs.Custody.Bench

/-! # Quiescence after a send

However a send ends, everything that its exchanges switched on is off again and the link is as ready
as before.

Main definitions: **`Job.Sending`** and **`Station.Quiescent`**.

Main statement: `Bench.Reachable.quiescent_of_send_ended`, for every single step that leaves no send
in progress where there was one. -/

namespace BurstLink

/-- The job is a send or a scan that has put a packet on air. -/
def Job.Sending (job : Job) : Prop :=
  match job.activity with
  | .sending .. => True
  | _ => False

instance : DecidablePred Job.Sending := fun job => by
  unfold Job.Sending
  split <;> infer_instance

/-- A job that sends has a flight, and a purpose for it. -/
theorem Job.Sending.exists_flight {job : Job} (h : job.Sending) :
    ∃ f purpose, job.activity = .sending f purpose := by
  unfold Job.Sending at h
  split at h
  · exact ⟨_, _, ‹_›⟩
  · exact absurd h id

/-- A job with a flight sends. -/
theorem Job.sending_of_activity {job : Job} {f : Flight} {purpose : Purpose}
    (activity : job.activity = .sending f purpose) : job.Sending := by
  unfold Job.Sending
  rw [activity]
  trivial

/-- Whoever does the same as a job that sends does send. -/
theorem Job.Sending.congr {job other : Job} (h : other.Sending)
    (same : job.activity = other.activity) : job.Sending := by
  obtain ⟨f, purpose, activity⟩ := h.exists_flight
  exact sending_of_activity (same.trans activity)

/-- Nothing is left of an exchange, and the link is up. -/
structure Station.Quiescent (s : Station) : Prop where
  transfer : s.transfer.state = .idle
  phase : s.radio.phase = .disabled
  interrupt : s.radio.interruptEnabled = false
  routes : ∀ route, s.radio.routes.get route = false
  shorts : s.radio.shorts = .rssi
  powerAmplifier : s.paOn = false
  lowNoiseAmplifier : s.lnaOn = false
  completed : s.completed = false
  unlocked : s.locked = false
  powered : s.radio.powered = true
  formatted : s.radio.packetConfigured = true
  initialized : s.link.initialized = true

namespace Station

variable {delays tears : Prop} {s : Station}

/-- With the link on standby, the radio off and the lock free, the station is quiescent. -/
theorem Landed.quiescent (h : s.Landed delays) (free : s.locked = false) : s.Quiescent where
  transfer := h.calm.transfer
  phase := h.phase
  interrupt := h.calm.interrupt
  routes route := by
    rw [h.calm.routes]
    cases route <;> rfl
  shorts := h.shorts
  powerAmplifier := by
    unfold paOn
    cases found : s.frontEnd with
    | none => rfl
    | some f => exact (h.amplifiers f found).1
  lowNoiseAmplifier := by
    unfold lnaOn
    cases found : s.frontEnd with
    | none => rfl
    | some f => exact (h.amplifiers f found).2
  completed := h.calm.completed
  unlocked := free
  powered := h.programmed.powered
  formatted := h.programmed.formatted
  initialized := h.initialized

end Station

namespace Job

variable {delays tears : Prop} {s : Station} {job : Job} {f : Flight} {purpose : Purpose}

/-- A send that is looked at goes on, or its end leaves the station quiescent. -/
theorem quiescent_of_poll (h : s.InFlight delays f) (sending : job.activity = .sending f purpose) :
    (∃ job' ∈ remaining (job.poll s).2, job'.Sending) ∨ (job.poll s).1.Quiescent := by
  have sent := h.checkSend purpose
  have polled : job.activity.poll s = Station.withLock (s.checkSend f purpose) := by
    rw [sending]
    rfl
  rcases found : s.checkSend f purpose with ⟨s', activity | result⟩
  · rw [found] at sent polled
    obtain ⟨f', purpose', rfl, -⟩ := sent
    left
    rw [poll_eq, polled]
    exact ⟨{ job with activity := .sending f' purpose' }, List.mem_singleton.mpr rfl, trivial⟩
  · rw [found] at sent polled
    have landed : s'.Landed delays := sent
    have unlocked := landed.agree (Station.setLocked_agree false s')
    right
    rw [poll_eq, polled]
    exact (unlocked.agree (Station.releaseBuffers_agree _)).quiescent
      (Station.releaseBuffers_locked _)

/-- A send that is given up leaves the station quiescent. -/
theorem quiescent_of_drop (h : s.InFlight delays f) (sending : job.activity = .sending f purpose) :
    (job.drop s).Quiescent := by
  have landed := h.forceIdle.agree (Station.setLocked_agree false _)
  unfold drop
  rw [sending]
  exact (landed.agree (Station.releaseBuffers_agree _)).quiescent (Station.releaseBuffers_locked _)

end Job

/-- The one job that is sending has the flight that the station is in. -/
theorem Bench.Sound.inFlight {delays tears : Prop} {b : Bench} (h : b.Sound delays tears)
    {job : Job} (member : job ∈ b.jobs) {f : Flight} {purpose : Purpose}
    (sending : job.activity = .sending f purpose) : b.station.InFlight delays f := by
  have held := (h.held member (by rw [sending]; rfl)).2
  rw [sending] at held
  exact held

/-- A look at the one job that is sending. -/
theorem Bench.Sound.quiescent_of_look {delays tears : Prop} {b : Bench} (h : b.Sound delays tears)
    {position : Nat} (sending : ∃ job ∈ b.jobs, job.Sending)
    (ended : ¬∃ job ∈ (b.lookAt position).jobs, job.Sending) :
    (b.lookAt position).station.Quiescent := by
  obtain ⟨job, member, isSending⟩ := sending
  obtain ⟨f, purpose, activity⟩ := isSending.exists_flight
  cases found : b.jobs[position]? with
  | none =>
    unfold Bench.lookAt at ended
    rw [found] at ended
    exact absurd ⟨job, member, isSending⟩ ended
  | some looked =>
    obtain ⟨before, later, jobs, rfl⟩ := exists_split found
    obtain ⟨station', jobs'⟩ := lookAt_split jobs
    rw [jobs'] at ended
    rw [station']
    rw [jobs] at member
    rcases List.mem_append.mp member with old | member
    · exact absurd ⟨job, by simp [old], isSending⟩ ended
    rcases List.mem_cons.mp member with rfl | old
    · rcases Job.quiescent_of_poll (h.inFlight (by rw [jobs]; simp) activity) activity with
        ⟨job', still, isSending'⟩ | quiescent
      · exact absurd ⟨job', by simp [still], isSending'⟩ ended
      · exact quiescent
    · exact absurd ⟨job, by simp [old], isSending⟩ ended

/-- The one job that is sending is given up. -/
theorem Bench.Sound.quiescent_of_giveUp {delays tears : Prop} {b : Bench} (h : b.Sound delays tears)
    {position : Nat} (sending : ∃ job ∈ b.jobs, job.Sending)
    (ended : ¬∃ job ∈ (b.giveUp position).jobs, job.Sending) :
    (b.giveUp position).station.Quiescent := by
  obtain ⟨job, member, isSending⟩ := sending
  obtain ⟨f, purpose, activity⟩ := isSending.exists_flight
  cases found : b.jobs[position]? with
  | none =>
    unfold Bench.giveUp at ended
    rw [found] at ended
    exact absurd ⟨job, member, isSending⟩ ended
  | some dropped =>
    obtain ⟨before, later, jobs, rfl⟩ := exists_split found
    obtain ⟨station', jobs'⟩ := giveUp_split jobs
    rw [jobs'] at ended
    rw [station']
    rw [jobs] at member
    rcases List.mem_append.mp member with old | member
    · exact absurd ⟨job, by simp [old], isSending⟩ ended
    rcases List.mem_cons.mp member with rfl | old
    · exact Job.quiescent_of_drop (h.inFlight (by rw [jobs]; simp) activity) activity
    · exact absurd ⟨job, by simp [old], isSending⟩ ended

/-- **However a send ends, it leaves the station quiescent.** Whatever the move is after which no
job is sending any more, where one was before: the radio is off, nothing of the exchange is armed,
the lock is free, and the link is still up. -/
theorem Bench.Reachable.quiescent_of_send_ended {b : Bench} (h : b.Reachable) {move : Move}
    (regular : move.Regular) (sending : ∃ job ∈ b.jobs, job.Sending)
    (ended : ¬∃ job ∈ (b.make move).jobs, job.Sending) : (b.make move).station.Quiescent := by
  -- Only a look and giving a job up take a job from the list.
  have kept : (∀ job ∈ b.jobs, job ∈ (b.make move).jobs) → False := fun stay => by
    obtain ⟨job, member, isSending⟩ := sending
    exact ended ⟨job, stay job member, isSending⟩
  cases move with
  | look position => exact h.sound.quiescent_of_look sending ended
  | giveUp position => exact h.sound.quiescent_of_giveUp sending ended
  | ask label work =>
    refine absurd (fun job member => ?_) kept
    cases work <;> exact List.mem_append_left _ member
  | wait time => exact absurd (fun job member => member) kept
  | service => exact absurd (fun job member => member) kept
  | pump => exact absurd (fun job member => member) kept
  | turnPage => exact absurd (fun job member => member) kept
  | arrange command =>
    refine absurd (fun job member => ?_) kept
    show job ∈ (b.execute command).1.jobs
    rw [(Bench.execute_of_arranges regular).2.2]
    exact member

/-- A send that is given up while the receiver hangs and switching off takes longer than anybody
waits: the radio is power cycled, and the station is quiescent. -/
theorem Bench.quiescent_of_hanging_send_given_up :
    let b := (Bench.ofStation (.withFrontEnd .zeros)).after
      [.ask none (.request (.switchMode .link)), .look 0, .arrange (.setAir (.unresponsive true)),
        .arrange (.setAir (.disableLatency 20000)), .ask none (.request (.sendPayload [1, 2])),
        .look 0, .pump]
    (∃ job ∈ b.jobs, job.Sending) ∧ (b.make (.giveUp 0)).station.radio.powerUps = 2 ∧
      (b.make (.giveUp 0)).station.Quiescent := by
  have reachable := (Bench.Reachable.startUp ⟨.zeros, .inl rfl⟩).after
    [.ask none (.request (.switchMode .link)), .look 0, .arrange (.setAir (.unresponsive true)),
      .arrange (.setAir (.disableLatency 20000)), .ask none (.request (.sendPayload [1, 2])),
      .look 0, .pump] (by decide)
  exact ⟨by decide +kernel, by decide +kernel,
    reachable.quiescent_of_send_ended trivial (by decide +kernel) (by decide +kernel)⟩

end BurstLink
