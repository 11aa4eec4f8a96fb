import BurstLink.Proofs.Packets.Bench
import BurstLink.Proofs.Quiescence
import Mathlib.Data.List.Induction

/-! # The handshake of a send and the interrupt handler

The interrupt handler carries an exchange from the packet to its acknowledgement and then raises the
sign of completion; the send in the foreground waits for that sign. This module says what each state
of the transfer stands for, and whose sign it is.

Main definitions:

* **`Bench.Sends`** — the one job that sends, and its flight.
* **`Bench.Handshake`** — what each state of the transfer stands for.
* **`Bench.Raised`** — the exchange of a job has raised the sign of completion, and the job has been
  waiting with the sign up ever since.

Main statement: `Station.AtStartUp.handshake_of_run`, for every run of regular moves. -/

namespace BurstLink

/-! ## States of the transfer -/

/-- While the sign is down, the exchange of a send is in progress. -/
theorem Station.state_of_uncompleted {delays : Prop} {s : Station} {f : Flight}
    (h : s.InFlight delays f) (down : s.completed = false) : s.transfer.state ≠ .idle := by
  cases h.stage with
  | onAir air => rw [air.transfer]; simp
  | awaiting wait => rw [wait.transfer]; simp
  | complete done => exact absurd (done.completed.symm.trans down) (by simp)

namespace Bench

/-- The one job that sends, with its flight: it holds the lock, and sends from the buffers that it
was given. -/
structure Sends (b : Bench) (job : Job) (f : Flight) : Prop where
  only : b.jobs.filter (fun job => job.Sending) = [job]
  flight : ∃ purpose, job.activity = .sending f purpose
  own : ∀ own, job.buffers = some own → own = (f.packet, f.ack)
  locked : b.station.locked = true

/-- The packet of a send is on air. -/
structure Transmits (b : Bench) (job : Job) (f : Flight) : Prop extends b.Sends job f where
  interrupt : b.station.radio.interruptEnabled = true
  amplifiers : b.station.Amplifiers true false
  endToCapture : b.station.radio.routes.endToCapture = true
  addressToCapture : b.station.radio.routes.addressToCapture = true
  compareToDisable : b.station.radio.routes.compareToDisable = false
  packet : b.station.radio.buffer = some f.packet

/-- A send waits for its acknowledgement. -/
structure AwaitsAck (b : Bench) (job : Job) (f : Flight) : Prop extends b.Sends job f where
  asked : f.config.ackEnabled = true
  required : b.station.transfer.ackRequired = true
  interrupt : b.station.radio.interruptEnabled = true
  amplifiers : b.station.Amplifiers false true
  ack : b.station.radio.buffer = some f.ack
  addressToCapture : b.station.radio.routes.addressToCapture = true
  compareToDisable : b.station.radio.routes.compareToDisable = true
  endToCapture : b.station.radio.routes.endToCapture = false
  unchained : b.station.radio.shorts.contains .disabledRxEnable = false

/-- What the states of the transfer stand for. -/
structure Handshake (b : Bench) : Prop where
  transmits : b.station.transfer.state = .txInFlight → ∃ job f, b.Transmits job f
  awaitsAck : b.station.transfer.state = .awaitingAck → ∃ job f, b.AwaitsAck job f
  idle : b.station.transfer.state = .idle → ∀ route, b.station.radio.routes.get route = false
  completed : b.station.completed = true → b.station.transfer.state = .idle

/-- The job whose exchange has raised the sign of completion: with a step of the radio, before which
the exchange was in progress and the sign down. Ever since the sign has been up, and the job has
been the one that sends, with the same flight. -/
def Raised (s : Station) (moves : List Move) (job : Job) (f : Flight) : Prop :=
  ∃ earlier later, moves = earlier ++ .pump :: later ∧
    let before := (ofStation s).after earlier
    (before.Sends job f ∧ before.station.transfer.state ≠ .idle ∧
      before.station.completed = false) ∧
    ∀ since, since <+: later → ((before.make .pump).after since).Sends job f ∧
      ((before.make .pump).after since).station.completed = true

/-! ## The job that sends -/

variable {b : Bench} {job other : Job} {f : Flight} {move : Move}

namespace Sends

/-- The job that sends is one of the jobs. -/
theorem member (h : b.Sends job f) : job ∈ b.jobs := by
  have mem : job ∈ b.jobs.filter (fun job => job.Sending) := by simp [h.only]
  exact (List.mem_filter.mp mem).1

/-- It is a job that sends. -/
theorem sending (h : b.Sends job f) : job.Sending := by
  obtain ⟨purpose, activity⟩ := h.flight
  exact Job.sending_of_activity activity

/-- There is no other job that sends. -/
theorem eq (h : b.Sends job f) (member : other ∈ b.jobs) (sending : other.Sending) :
    other = job := by
  have mem : other ∈ b.jobs.filter (fun job => job.Sending) :=
    List.mem_filter.mpr ⟨member, decide_eq_true sending⟩
  rw [h.only] at mem
  exact List.mem_singleton.mp mem

/-- A job has one flight. -/
theorem flight_eq {g : Flight} (h : b.Sends job f) {bench : Bench} (h' : bench.Sends job g) :
    f = g := by
  obtain ⟨purpose, activity⟩ := h.flight
  obtain ⟨purpose', activity'⟩ := h'.flight
  exact (Activity.sending.inj (activity.symm.trans activity')).1

/-- It has a flight. -/
theorem flying (h : b.Sends job f) : job.activity.flight?.isSome = true := by
  obtain ⟨purpose, activity⟩ := h.flight
  rw [activity]
  rfl

end Sends

/-- A job that sends holds the lock. -/
theorem holdsLock_of_sending (sending : job.Sending) : job.activity.holdsLock = true := by
  obtain ⟨f, purpose, activity⟩ := sending.exists_flight
  rw [activity]
  rfl

/-- The only holder of the lock sends: then there is one job that sends. -/
theorem exists_sends_of_holders {purpose : Purpose}
    (holders : Job.holders b.jobs = [.sending f purpose]) :
    ∃ job ∈ b.jobs, b.jobs.filter (fun job => job.Sending) = [job] ∧
      job.activity = .sending f purpose := by
  unfold Job.holders at holders
  rw [List.filter_map] at holders
  obtain ⟨job, single, activity⟩ := List.map_eq_singleton_iff.mp holders
  have isSending : job.Sending := Job.sending_of_activity activity
  have among : ∀ job : Job, (decide job.Sending &&
      (Activity.holdsLock ∘ Job.activity) job) = decide job.Sending := by
    intro job
    by_cases sending : job.Sending
    · simp [sending, holdsLock_of_sending sending]
    · simp [sending]
  have only : b.jobs.filter (fun job => job.Sending) = [job] := by
    rw [← funext among, ← List.filter_filter, single]
    simp [isSending]
  refine ⟨job, ?_, only, activity⟩
  have mem : job ∈ b.jobs.filter (fun job => job.Sending) := by simp [only]
  exact (List.mem_filter.mp mem).1

/-- **A job sends, or no exchange is in progress and the sign is down.** -/
theorem Sound.sends (h : b.Sound True True) (tidy : b.Tidy) :
    b.station.Calm True ∨ ∃ job f, b.Sends job f ∧ b.station.InFlight True f := by
  obtain ⟨holder, all, custody⟩ := h.custody
  cases holder with
  | none => exact .inl custody.2.calm
  | some activity =>
    cases activity with
    | queued request => exact custody.2.elim
    | testing t => exact custody.2.elim
    | switching t => exact .inl (Station.Torn.calm custody.2)
    | measuring m => exact .inl (Station.GaugeMode.calm (Station.Gauging.gauge custody.2))
    | listening l => exact .inl (Station.Vacant.calm custody.2.1)
    | sending f purpose =>
      obtain ⟨job, member, only, activity⟩ := exists_sends_of_holders all
      refine .inr ⟨job, f, ⟨only, ⟨purpose, activity⟩, ?_, custody.1⟩, custody.2⟩
      intro own has
      have buffers := tidy.own job member own has
      rw [activity] at buffers
      exact (Option.some.inj buffers).symm

/-- If an exchange is in progress or the sign is up, a job sends. -/
theorem Sound.sends_of_busy (h : b.Sound True True) (tidy : b.Tidy)
    (busy : b.station.transfer.state ≠ .idle ∨ b.station.completed = true) :
    ∃ job f, b.Sends job f ∧ b.station.InFlight True f := by
  rcases h.sends tidy with calm | sends
  · rcases busy with state | done
    · exact absurd calm.transfer state
    · exact absurd (calm.completed.symm.trans done) (by simp)
  · exact sends

/-- **Each state of the transfer stands for what it says.** -/
theorem Sound.handshake (h : b.Sound True True) (tidy : b.Tidy) : b.Handshake := by
  have unconnected : ∀ route, RouteFlags.get {} route = false := by
    intro route
    cases route <;> rfl
  rcases h.sends tidy with calm | ⟨job, f, sends, flight⟩
  · refine ⟨?_, ?_, ?_, ?_⟩
    · intro state
      exact absurd (calm.transfer.symm.trans state) (by simp)
    · intro state
      exact absurd (calm.transfer.symm.trans state) (by simp)
    · intro _ route
      rw [calm.routes]
      exact unconnected route
    · intro done
      exact absurd (calm.completed.symm.trans done) (by simp)
  -- a flight in each of its stages has one part of the handshake to show, and is in no other state
  · cases flight.stage with
    | onAir air =>
      have state : b.station.transfer.state = .txInFlight := by rw [air.transfer]
      refine ⟨?_, ?_, ?_, ?_⟩
      · intro _
        exact ⟨job, f, sends, air.interrupt, air.amplifiers, by rw [air.routes],
          by rw [air.routes], by rw [air.routes], air.buffer⟩
      · intro awaiting
        exact absurd (state.symm.trans awaiting) (by simp)
      · intro idle
        exact absurd (state.symm.trans idle) (by simp)
      · intro done
        exact absurd (air.completed.symm.trans done) (by simp)
    | awaiting wait =>
      have state : b.station.transfer.state = .awaitingAck := by rw [wait.transfer]
      refine ⟨?_, ?_, ?_, ?_⟩
      · intro transmitting
        exact absurd (state.symm.trans transmitting) (by simp)
      · intro _
        exact ⟨job, f, sends, wait.acks, by rw [wait.transfer], wait.interrupt, wait.amplifiers,
          wait.buffer, by rw [wait.routes], by rw [wait.routes], by rw [wait.routes],
          by rw [wait.shorts]; exact Shorts.disabledRxEnable_closing⟩
      · intro idle
        exact absurd (state.symm.trans idle) (by simp)
      · intro done
        exact absurd (wait.completed.symm.trans done) (by simp)
    | complete done =>
      refine ⟨?_, ?_, ?_, fun _ => done.transfer⟩
      · intro transmitting
        exact absurd (done.transfer.symm.trans transmitting) (by simp)
      · intro awaiting
        exact absurd (done.transfer.symm.trans awaiting) (by simp)
      · intro _ route
        rw [done.routes]
        exact unconnected route

/-! ## Whose sign it is -/

/-- Giving up a job that sends takes the sign down. -/
theorem completed_drop (flying : job.activity.flight?.isSome = true) (s : Station) :
    (job.drop s).completed = false := by
  cases activity : job.activity with
  | sending f purpose =>
    have rested : ((s.forceIdle f.config).setLocked false).completed = false := by
      rw [Station.forceIdle_eq_recover]
      rfl
    unfold Job.drop
    rw [activity]
    exact (Station.spares_releaseBuffers _).down rested
  | _ => simp [activity, Activity.flight?] at flying

/-- **While the sign stays up, the job that sends goes on waiting.** -/
theorem Sends.stays (sends : b.Sends job f) (h : b.Sound True True) (tidy : b.Tidy)
    (regular : move.Regular) (up : (b.make move).station.completed = true) :
    job ∈ (b.make move).jobs := by
  have arranges : ∀ command, move = .arrange command → command.Arranges := by
    rintro command rfl
    exact regular
  rcases mem_make arranges sends.member with stays | ⟨position, found, rfl | rfl⟩
  · exact stays
  · -- a look at the job itself takes the sign down
    obtain ⟨before, later, jobs, rfl⟩ := exists_split found
    obtain ⟨pointer, pointed⟩ := job.poll_pointed b.station
    have up : (b.lookAt before.length).station.completed = true := up
    rw [(lookAt_job jobs).1, pointed] at up
    have unlooked := ((h.traffic tidy sends.member).completed up).2
    exact absurd (sends.flying.symm.trans unlooked) (by simp)
  · obtain ⟨before, later, jobs, rfl⟩ := exists_split found
    have up : (b.giveUp before.length).station.completed = true := up
    rw [(giveUp_split jobs).1] at up
    exact absurd (up.symm.trans (completed_drop sends.flying b.station)) (by simp)

/-- Only a step of the radio with its interrupt raises the sign. -/
theorem eq_pump_of_completed (h : b.Sound True True) (tidy : b.Tidy) (regular : move.Regular)
    (down : b.station.completed = false) (up : (b.make move).station.completed = true) :
    move = .pump := by
  -- whatever spares the sign of completion cannot raise it
  have stays : b.station.Spares (b.make move).station → move = .pump := fun kept =>
    absurd ((kept.down down).symm.trans up) (by simp)
  cases move with
  | pump => rfl
  | ask label work => exact stays (spares_enlist label work b)
  | giveUp position => exact stays (b.spares_giveUp position)
  | wait time => exact absurd (down.symm.trans up) (by simp)
  | turnPage => exact absurd (down.symm.trans up) (by simp)
  | arrange command => exact stays (spares_arrange regular)
  | service =>
    obtain ⟨buffers, same⟩ := b.station.serviceRadio_eq
    have up : b.station.serviceRadio.completed = true := up
    rw [same] at up
    exact absurd (down.symm.trans up) (by simp)
  | look position =>
    rcases b.lookAt_cases position with same | ⟨before, looked, later, jobs, -, station', -⟩
    · have up : (b.lookAt position).station.completed = true := up
      rw [same] at up
      exact absurd (down.symm.trans up) (by simp)
    · obtain ⟨pointer, pointed⟩ := looked.poll_pointed b.station
      have up : (b.lookAt position).station.completed = true := up
      rw [station', pointed] at up
      have before := ((h.traffic tidy (by simp [jobs])).completed up).1
      exact absurd (down.symm.trans before) (by simp)

/-- At most one job holds the lock. -/
theorem Sound.activity_eq (h : b.Sound True True) (member : job ∈ b.jobs) (member' : other ∈ b.jobs)
    (holds : job.activity.holdsLock = true) (holds' : other.activity.holdsLock = true) :
    job.activity = other.activity := by
  obtain ⟨holder, all, -⟩ := h.custody
  exact Option.some.inj
    ((Job.holder_eq all member holds).symm.trans (Job.holder_eq all member' holds'))

/-- **Only the job that sends takes the sign down** when it is looked at. -/
theorem Sends.taken (sends : b.Sends job f) (h : b.Sound True True)
    (up : b.station.completed = true) {position : Nat}
    (down : (b.lookAt position).station.completed = false) : b.jobs[position]? = some job := by
  rcases b.lookAt_cases position with same | ⟨before, looked, later, jobs, rfl, station', -⟩
  · rw [same] at down
    exact absurd (up.symm.trans down) (by simp)
  · have member : looked ∈ b.jobs := by simp [jobs]
    have isSending : looked.Sending := by
      cases holds : looked.activity.holdsLock with
      | true =>
        exact sends.sending.congr
          (h.activity_eq member sends.member holds (holdsLock_of_sending sends.sending))
      | false =>
        -- a job that waits for the lock changes nothing
        have unchanged := Job.unchanged_of_locked sends.locked (h.regular looked member) holds
        obtain ⟨pointer, pointed⟩ := looked.poll_pointed b.station
        rw [station', pointed, unchanged] at down
        exact absurd (up.symm.trans down) (by simp)
    rw [jobs]
    simpa using sends.eq member isSending

/-- A step of the radio leaves the jobs and the lock alone. -/
theorem Sends.of_pump (sends : (b.make .pump).Sends job f) : b.Sends job f :=
  ⟨sends.only, sends.flight, sends.own, (Station.pump_locked _).symm.trans sends.locked⟩

/-- The sign goes up with the move after the run. -/
theorem raised_of_raise {s : Station} {moves : List Move}
    (down : ((ofStation s).after moves).station.completed = false)
    (sends : (((ofStation s).after moves).make .pump).Sends job f)
    (flight : ((ofStation s).after moves).station.InFlight True f)
    (up : (((ofStation s).after moves).make .pump).station.completed = true) :
    Raised s (moves ++ [.pump]) job f := by
  refine ⟨moves, [], rfl, ⟨sends.of_pump, Station.state_of_uncompleted flight down, down⟩, ?_⟩
  intro since isPrefix
  obtain rfl := List.prefix_nil.mp isPrefix
  exact ⟨sends, up⟩

/-- The sign stays up with the move after the run. -/
theorem Raised.snoc {s : Station} {moves : List Move} (raised : Raised s moves job f)
    (sends : (((ofStation s).after moves).make move).Sends job f)
    (up : (((ofStation s).after moves).make move).station.completed = true) :
    Raised s (moves ++ [move]) job f := by
  obtain ⟨earlier, later, rfl, before, since⟩ := raised
  refine ⟨earlier, later ++ [move], by simp, before, ?_⟩
  intro part isPrefix
  rcases List.prefix_concat_iff.mp isPrefix with rfl | shorter
  · rw [after_append, after_cons] at sends up
    rw [after_append]
    exact ⟨sends, up⟩
  · exact since part shorter

/-- **The sign of completion belongs to the job that sends.** The induction is on the end of the
run: the sign is up because it has just been raised, or because it was up before. -/
theorem exists_raised {s : Station} (start : s.AtStartUp) (moves : List Move)
    (regular : ∀ move ∈ moves, move.Regular)
    (up : ((ofStation s).after moves).station.completed = true) :
    ∃ job f, Raised s moves job f ∧ ((ofStation s).after moves).Sends job f := by
  -- on the moves from the last one: either the exchange was complete before, or it is the last move
  -- that completes it
  induction moves using List.reverseRecOn with
  | nil =>
    obtain ⟨draws, rfl | rfl⟩ := start
    · exact absurd up (by simp [ofStation, Station.withFrontEnd])
    · exact absurd up (by simp [ofStation, Station.withoutFrontEnd])
  | append_singleton moves move ih =>
    have regular' : ∀ move ∈ moves, move.Regular := fun m member => regular m (by simp [member])
    have last : move.Regular := regular move (by simp)
    have reachable := (Reachable.startUp start).after moves regular'
    have next := reachable.make move last
    rw [after_append] at up ⊢
    generalize bench : (ofStation s).after moves = b at *
    obtain ⟨job', f', sends', flight'⟩ := next.sound.sends_of_busy next.tidy (.inr up)
    by_cases before : b.station.completed = true
    · obtain ⟨job, f, raised, sends⟩ := ih regular' before
      have member := sends.stays reachable.sound reachable.tidy last up
      obtain rfl := sends'.eq member sends.sending
      obtain rfl := sends.flight_eq sends'
      exact ⟨job, f, raised.snoc (bench ▸ sends') (bench ▸ up), sends'⟩
    · have down : b.station.completed = false := by simpa using before
      obtain rfl := eq_pump_of_completed reachable.sound reachable.tidy last down up
      obtain ⟨purpose, activity⟩ := sends'.flight
      have flight := reachable.sound.inFlight sends'.of_pump.member activity
      subst bench
      exact ⟨job', f', raised_of_raise down sends' flight up, sends'⟩

end Bench

/-- **The handshake of sends and the interrupt handler.** In every run, each state of the transfer
stands for what it says: the packet of the job that sends is on air, or that job waits for its
acknowledgement, or nothing is connected. The sign of completion is up only in the idle state, only
while the job whose exchange has raised it is still waiting for it, and only that job takes it down
by a look. -/
theorem Station.AtStartUp.handshake_of_run {s : Station} (start : s.AtStartUp) (moves : List Move)
    (regular : ∀ move ∈ moves, move.Regular) :
    let b := (Bench.ofStation s).after moves
    b.Handshake ∧ (b.station.completed = true → ∃ job f, Bench.Raised s moves job f ∧
      ∀ position, (b.lookAt position).station.completed = false →
        b.jobs[position]? = some job) := by
  have reachable := (Bench.Reachable.startUp start).after moves regular
  refine ⟨reachable.sound.handshake reachable.tidy, ?_⟩
  intro up
  obtain ⟨job, f, raised, sends⟩ := Bench.exists_raised start moves regular up
  exact ⟨job, f, raised, fun position down => sends.taken reachable.sound up down⟩

/-- A send that is never answered: after its packet is out and its acknowledgement has timed out,
the sign of completion is up and belongs to it. -/
theorem Bench.handshake_of_unanswered_send :
    let moves : List Move := [.ask none (.request (.switchMode .link)), .look 0,
      .ask none (.request (.sendPayload [1, 2])), .look 0, .pump, .pump, .pump, .wait 10]
    let b := (Bench.ofStation (.withFrontEnd .zeros)).after moves
    (∀ move ∈ moves, move.Regular) ∧ b.station.completed = true ∧ b.Handshake ∧
      ∃ job f, Bench.Raised (.withFrontEnd .zeros) moves job f ∧
        ∀ position, (b.lookAt position).station.completed = false →
          b.jobs[position]? = some job := by
  intro moves b
  have regular : ∀ move ∈ moves, move.Regular := by decide
  have up : b.station.completed = true := by decide +kernel
  obtain ⟨handshake, raised⟩ :=
    Station.AtStartUp.handshake_of_run ⟨.zeros, .inl rfl⟩ moves regular
  exact ⟨regular, up, handshake, raised up⟩

end BurstLink
