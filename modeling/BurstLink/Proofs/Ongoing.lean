import BurstLink.Proofs.Exclusion

/-! # A send among other moves

While a send goes on, a move of the bench does little to the station. It starts an exchange of that
send, it is a look that finds nothing new, time passes, the radio makes a step with or without its
interrupt, or it has to do with other jobs and leaves the exchange alone.

Main definitions:

* **`Station.Begun`** — an exchange has just been started.
* **`Station.Undisturbed`** — another station at the same point of the same exchange.
* **`Bench.attends`** — the move is a look at the send in progress.
* **`Bench.Bears`** — what a move makes of the station while a send goes on.

Main statement: `Bench.Sound.bears_make`. -/

namespace BurstLink

/-- Telling the radio to transmit does not raise the event of switching off. -/
theorem Radio.disabled_trigger_txEnable (r : Radio) :
    (r.trigger .txEnable).events.disabled = r.events.disabled := by
  unfold Radio.trigger Radio.enableTx
  split
  · dsimp only
    split
    · split <;> rfl
    · rfl
  · rfl

namespace Station

variable {s t u : Station} {f : Flight}

/-- An exchange of the flight has just been started: its packet is on air, nothing has happened to
it yet, and the time until it counts as stuck has just begun. -/
structure Begun (f : Flight) (s : Station) : Prop where
  state : s.transfer.state = .txInFlight
  completed : s.completed = false
  unhandled : s.radio.events.disabled = false
  deadline : f.deadline = s.clock + exchangeTimeout

/-- The start of an exchange begins it. -/
theorem begun_fly (g : Flight) (u : Station) (locked : Bool) :
    ((u.fly g).1.setLocked locked).Begun (u.fly g).2 := by
  have unhandled : (u.fly g).1.radio.events.disabled = false := by
    rw [fly_eq]
    show ((u.armed g.packet g.config.ackEnabled).trigger .txEnable).events.disabled = false
    rw [Radio.disabled_trigger_txEnable, armed_eq]
  have state : (u.fly g).1.transfer.state = .txInFlight := by rw [fly_eq]
  have clock : (u.fly g).1.clock = u.clock := by rw [fly_eq]
  exact ⟨state, completed_fly g u, unhandled, congrArg (· + exchangeTimeout) clock.symm⟩

/-- A look that repeats a send makes its next attempt. -/
theorem checkFlight_of_repeats {purpose : Purpose}
    (repeated : (Activity.sending f purpose).repeats s = true) : s.completed = true ∧
      s.checkFlight f = ((s.nextAttempt f).1, .waiting (s.nextAttempt f).2) := by
  obtain ⟨done, goesOn⟩ : s.completed = true ∧ (s.checkFlight f).2.isWaiting = true := by
    simpa [Activity.repeats] using repeated
  refine ⟨done, ?_⟩
  rcases checkFlight_of_completed f done with ⟨acked, outcome, ended⟩ | ⟨-, tried⟩
  · exact absurd goesOn (by simp [ended, Look.isWaiting])
  · exact tried

/-- The next attempt begins an exchange. -/
theorem begun_nextAttempt (s : Station) (f : Flight) (locked : Bool) :
    ((s.nextAttempt f).1.setLocked locked).Begun (s.nextAttempt f).2 :=
  begun_fly _ _ locked

/-- The same point of the same exchange: nothing has happened that custody is about, the timer has
not counted on, and nothing was sent. -/
structure Undisturbed (s t : Station) : Prop where
  agree : Agree True s t
  now : t.radio.now = s.radio.now
  spares : s.Spares t
  clock : t.clock = s.clock

@[refl] theorem Undisturbed.refl (s : Station) : s.Undisturbed s := ⟨.refl s, rfl, .refl s, rfl⟩

/-- Handing back buffers disturbs no exchange. -/
theorem undisturbed_releaseBuffers (s : Station) : s.Undisturbed s.releaseBuffers := by
  obtain ⟨pointer, released⟩ := s.releaseBuffers_pointed
  refine ⟨s.releaseBuffers_agree, ?_, s.spares_releaseBuffers, ?_⟩
  · rw [released]
    rfl
  · rw [released]
    rfl

end Station

namespace Bench

variable {b : Bench} {job : Job} {f : Flight} {purpose : Purpose} {move : Move}

/-- The move is a look at the send in progress. -/
def attends (b : Bench) : Move → Bool
  | .look position => b.jobs[position]?.any fun job => job.activity.flight?.isSome
  | _ => false

/-- The move is a look that lets a send pass, and starts its first exchange. -/
def takesOff (b : Bench) : Move → Bool
  | .look position => b.jobs[position]?.any fun job => job.activity.admits b.station
  | _ => false

/-- What a move makes of the station while the send with a flight goes on. -/
inductive Bears (b : Bench) (f : Flight) : Move → Station → Prop
  /-- It starts the first exchange of the send. -/
  | tookOff {position : Nat} {t : Station} (launches : b.launches (.look position) = true)
      (passed : b.takesOff (.look position) = true) (begun : t.Begun f) (fresh : f.retries = 0) :
    Bears b f (.look position) t
  /-- It starts the next exchange of the send. -/
  | repeated {position : Nat} {job : Job} {g : Flight} {purpose : Purpose}
      (launches : b.launches (.look position) = true)
      (refused : b.takesOff (.look position) = false) (member : job ∈ b.jobs)
      (was : job.activity = .sending g purpose) (done : b.station.completed = true)
      (next : f = (b.station.nextAttempt g).2) :
    Bears b f (.look position) ((b.station.nextAttempt g).1.setLocked true)
  /-- It is a look that finds nothing new. -/
  | looked {position : Nat} (unlaunched : b.launches (.look position) = false)
      (attends : b.attends (.look position) = true) (down : b.station.completed = false)
      (early : b.station.clock < f.deadline) :
    Bears b f (.look position) (b.station.setLocked true)
  /-- Time passes. -/
  | waited (time : Nat) : Bears b f (.wait time) { b.station with clock := b.station.clock + time }
  /-- The radio makes a step. -/
  | served : Bears b f .service b.station.serviceRadio
  /-- The radio makes a step, and its interrupt is handled. -/
  | pumped : Bears b f .pump b.station.pump.1
  /-- It has to do with something else. -/
  | aside {move : Move} {t : Station} (unlaunched : b.launches move = false)
      (unattended : b.attends move = false) (unpumped : move ≠ .pump)
      (unwaited : ∀ time, move ≠ .wait time) (undisturbed : b.station.Undisturbed t) :
      Bears b f move t

/-- While a job sends, another one that is looked at or given up disturbs nothing. -/
theorem Sound.undisturbed_of_other (h : b.Sound True True) {before later : List Job}
    (jobs : b.jobs = before ++ job :: later) {sender : Job} (other : sender ∈ before ++ later)
    (sends : sender.activity = .sending f purpose) :
    job.activity.flight? = none ∧ b.station.Undisturbed (job.poll b.station).1 ∧
      b.station.Undisturbed (job.drop b.station) ∧
      job.activity.admits b.station = false ∧ job.activity.repeats b.station = false := by
  have member : job ∈ b.jobs := by simp [jobs]
  have member' : sender ∈ b.jobs := jobs ▸ mem_of_others other
  have isSending : sender.Sending := Job.sending_of_activity sends
  have busy := (h.held member' (holdsLock_of_sending isSending)).1
  -- there is one lock, so whoever is not the sender waits for it
  have waits : job.activity.holdsLock = false := by
    cases holds : job.activity.holdsLock with
    | false => rfl
    | true =>
      have activity := h.activity_eq member member' holds (holdsLock_of_sending isSending)
      have alone : ¬({ b with jobs := before ++ later } : Bench).Busy :=
        h.not_busy_of_others jobs (isSending.congr activity) rfl
      exact absurd ⟨sender, other, isSending⟩ alone
  have regular := h.regular job member
  have unchanged := Job.unchanged_of_locked busy regular waits
  obtain ⟨request, queued⟩ := Job.queued_of_not_holdsLock regular waits
  refine ⟨by rw [queued]; rfl, ?_, ?_, ?_, by rw [queued]; rfl⟩
  · rw [Job.poll_eq]
    rcases looked : job.activity.poll b.station with ⟨t, rest | result⟩
    · rw [looked] at unchanged
      obtain rfl : t = b.station := unchanged
      exact .refl _
    · rw [looked] at unchanged
      obtain rfl : t = b.station := unchanged
      exact Station.undisturbed_releaseBuffers _
  · unfold Job.drop
    rw [queued]
    exact b.station.undisturbed_releaseBuffers
  · rw [queued]
    simp [Activity.admits, busy]

/-- Arranging the surroundings disturbs no exchange. -/
theorem undisturbed_arrange {command : Command} (arranges : command.Arranges) :
    b.station.Undisturbed (b.execute command).1.station := by
  obtain ⟨⟨air, radio⟩, clock⟩ := radio_of_arranges (b := b) arranges
  have now : (b.execute command).1.station.radio.now = b.station.radio.now := by rw [radio]
  exact ⟨(execute_of_arranges arranges).1, now, spares_arrange arranges, clock⟩

/-- Asking for an operation disturbs no exchange. -/
theorem undisturbed_enlist (label : Option String) (work : Work) :
    b.station.Undisturbed (b.enlist label work).station := by
  have same : (b.enlist label work).station.radio = b.station.radio ∧
      (b.enlist label work).station.clock = b.station.clock := by
    cases work with
    | request request => exact ⟨rfl, rfl⟩
    | send packet ack => exact ⟨rfl, rfl⟩
    | scanPresence channel window =>
      obtain ⟨scanners, found⟩ := b.station.currentScanner_fst
      show b.station.currentScanner.1.radio = _ ∧ b.station.currentScanner.1.clock = _
      rw [found]
      exact ⟨rfl, rfl⟩
  exact ⟨b.enlist_agree label work, congrArg Radio.now same.1, spares_enlist label work b, same.2⟩

/-- A look that starts an exchange, and the job that sends after it. -/
theorem Sound.bears_look_of_starts (h : b.Sound True True) (tidy : b.Tidy)
    {before later : List Job} {looked : Job} (jobs : b.jobs = before ++ looked :: later)
    (starts : looked.activity.admits b.station = true ∨ looked.activity.repeats b.station = true)
    (member : job ∈ (b.lookAt before.length).jobs) (sends : job.activity = .sending f purpose) :
    b.launches (.look before.length) = true ∧
      b.Bears f (.look before.length) (b.lookAt before.length).station := by
  have next : (b.lookAt before.length).Sound True True := h.lookAt before.length
  have found : b.jobs[before.length]? = some looked := by simp [jobs]
  obtain ⟨station', after⟩ := lookAt_job jobs
  have looked_mem : looked ∈ b.jobs := by simp [jobs]
  have launched : b.launches (.look before.length) = true := by
    simpa [launches, found] using starts
  obtain ⟨g, u, purpose', flies⟩ :=
    Activity.exists_fly_of_attempt (h.traffic tidy looked_mem) starts
  have polled : (looked.poll b.station).1 = (u.fly g).1.setLocked true := by
    rw [Job.poll_eq, flies]
  rcases after with ⟨ended, -⟩ | ⟨rest, goesOn, stayed⟩
  · exact absurd (congrArg Prod.snd flies) (ended _)
  have flies' := Look.waiting.inj (goesOn.symm.trans (congrArg Prod.snd flies))
  -- there is one lock, so the job that the look leaves is the one that sends
  have stayed_mem : { looked with activity := rest } ∈ (b.lookAt before.length).jobs := by
    simp [stayed]
  have same := next.activity_eq member stayed_mem (by rw [sends]; rfl) (by rw [flies']; rfl)
  obtain rfl : .sending f purpose = rest := sends.symm.trans same
  refine ⟨launched, ?_⟩
  have attempts := looked.activity.poll_attempts b.station
  rw [goesOn] at attempts
  cases attempts with
  | first passed fresh =>
    have took : b.takesOff (.look before.length) = true := by simp [takesOff, found, passed]
    obtain ⟨rfl, -⟩ := Activity.sending.inj flies'
    rw [station', polled]
    exact .tookOff launched took (Station.begun_fly ..) fresh
  | @again g _ _ was refused repeated next =>
    have again : b.takesOff (.look before.length) = false := by simp [takesOff, found, refused]
    rw [was] at repeated
    obtain ⟨done, checked⟩ := Station.checkFlight_of_repeats repeated
    have tried := Station.poll_sending_of_waiting purpose checked
    rw [was, tried] at goesOn
    obtain ⟨rfl, -⟩ := Activity.sending.inj (Look.waiting.inj goesOn)
    rw [station', Job.poll_eq, was, tried]
    exact .repeated launched again looked_mem was done rfl
  | none refused unrepeated stays =>
    rcases starts with passed | repeated
    · exact absurd (passed.symm.trans refused) (by simp)
    · exact absurd (repeated.symm.trans unrepeated) (by simp)

/-- A look that starts no exchange, and a job that sends after it: it is the one that was looked at,
or another one, which the look does not disturb. -/
theorem Sound.bears_look_of_silent (h : b.Sound True True) {before later : List Job}
    {looked : Job} (jobs : b.jobs = before ++ looked :: later)
    (refused : looked.activity.admits b.station = false)
    (unrepeated : looked.activity.repeats b.station = false)
    (member : job ∈ (b.lookAt before.length).jobs) (sends : job.activity = .sending f purpose) :
    b.Bears f (.look before.length) (b.lookAt before.length).station ∧
      ∃ job' ∈ b.jobs, job'.activity = job.activity := by
  have found : b.jobs[before.length]? = some looked := by simp [jobs]
  obtain ⟨station', after⟩ := lookAt_job jobs
  have unlaunched : b.launches (.look before.length) = false := by
    simp [launches, found, refused, unrepeated]
  -- another job than the one that was looked at is in the exchange
  have others : job ∈ before ++ later →
      b.Bears f (.look before.length) (b.lookAt before.length).station ∧
        ∃ job' ∈ b.jobs, job'.activity = job.activity := by
    intro other
    obtain ⟨silent, undisturbed, -⟩ := h.undisturbed_of_other jobs other sends
    have unattended : b.attends (.look before.length) = false := by simp [attends, found, silent]
    rw [← station'] at undisturbed
    exact ⟨.aside unlaunched unattended (by simp) (by simp) undisturbed,
      job, jobs ▸ mem_of_others other, rfl⟩
  rcases after with ⟨-, left⟩ | ⟨rest, goesOn, stayed⟩
  · exact others (left ▸ member)
  · rw [stayed] at member
    rcases mem_exchange member with rfl | other
    · obtain rfl : rest = .sending f purpose := sends
      obtain ⟨was, down, early, polled⟩ := Activity.poll_of_unattempted refused unrepeated goesOn
      have attended : b.attends (.look before.length) = true := by
        simp [attends, found, was, Activity.flight?]
      have unmoved : (b.lookAt before.length).station = b.station.setLocked true := by
        rw [station', Job.poll_eq, polled]
      rw [unmoved]
      exact ⟨.looked unlaunched attended down early, looked, by simp [jobs], was⟩
    · exact others other

/-- A look at one of the jobs that leaves a send in progress. -/
theorem Sound.bears_look (h : b.Sound True True) (tidy : b.Tidy) {position : Nat}
    (member : job ∈ (b.lookAt position).jobs) (sends : job.activity = .sending f purpose) :
    b.Bears f (.look position) (b.lookAt position).station ∧
      (b.launches (.look position) = false → ∃ job' ∈ b.jobs, job'.activity = job.activity) := by
  cases found : b.jobs[position]? with
  | none =>
    have unlaunched : b.launches (.look position) = false := by simp [launches, found]
    have unattended : b.attends (.look position) = false := by simp [attends, found]
    rw [lookAt_of_none found] at member ⊢
    exact ⟨.aside unlaunched unattended (by simp) (by simp) (.refl _), fun _ => ⟨job, member, rfl⟩⟩
  | some looked =>
    obtain ⟨before, later, jobs, rfl⟩ := exists_split found
    by_cases starts : looked.activity.admits b.station = true ∨
        looked.activity.repeats b.station = true
    · obtain ⟨launched, bears⟩ := h.bears_look_of_starts tidy jobs starts member sends
      exact ⟨bears, fun unlaunched => absurd (launched.symm.trans unlaunched) (by simp)⟩
    · obtain ⟨refused, unrepeated⟩ : looked.activity.admits b.station = false ∧
          looked.activity.repeats b.station = false := by simpa using starts
      obtain ⟨bears, kept⟩ := h.bears_look_of_silent jobs refused unrepeated member sends
      exact ⟨bears, fun _ => kept⟩

/-- **While a send goes on, a move starts an exchange of it or leaves that in progress**, and does
to the station only what it has to do with the radio and its interrupts. -/
theorem Sound.bears_make (h : b.Sound True True) (tidy : b.Tidy) (regular : move.Regular)
    (member : job ∈ (b.make move).jobs) (sends : job.activity = .sending f purpose) :
    b.Bears f move (b.make move).station ∧
      (b.launches move = false → ∃ job' ∈ b.jobs, job'.activity = job.activity) := by
  have stays : job ∈ b.jobs → b.launches move = false → ∃ job' ∈ b.jobs,
      job'.activity = job.activity := fun old _ => ⟨job, old, rfl⟩
  cases move with
  | look position => exact h.bears_look tidy member sends
  | wait time => exact ⟨.waited time, stays member⟩
  | service => exact ⟨.served, stays member⟩
  | pump => exact ⟨.pumped, stays member⟩
  | turnPage =>
    exact ⟨.aside rfl rfl (by simp) (by simp)
      ⟨Station.journal_agree .., rfl, .of_eq rfl rfl rfl (.inl rfl), rfl⟩, stays member⟩
  | arrange command =>
    have jobs : (b.execute command).1.jobs = b.jobs := (execute_of_arranges regular).2.2
    exact ⟨.aside rfl rfl (by simp) (by simp) (undisturbed_arrange regular), stays (jobs ▸ member)⟩
  | ask label work =>
    -- a job that has just come does not send yet
    obtain ⟨newcomer, jobs, new⟩ := b.enlist_newcomer label regular
    refine ⟨.aside rfl rfl (by simp) (by simp) (undisturbed_enlist label work), stays ?_⟩
    have among : job ∈ b.jobs ++ [newcomer] := jobs ▸ member
    rcases List.mem_append.mp among with old | is
    · exact old
    · obtain rfl := List.mem_singleton.mp is
      exact absurd new.waits (by simp [sends, Activity.flight?])
  | giveUp position =>
    have member : job ∈ (b.giveUp position).jobs := member
    show b.Bears f (.giveUp position) (b.giveUp position).station ∧ _
    rcases b.giveUp_cases position with same | ⟨before, given, later, jobs, -, station', left⟩
    · rw [same] at member ⊢
      exact ⟨.aside rfl rfl (by simp) (by simp) (.refl _), stays member⟩
    · rw [left] at member
      obtain ⟨-, -, undisturbed, -⟩ := h.undisturbed_of_other jobs member sends
      rw [station']
      exact ⟨.aside rfl rfl (by simp) (by simp) undisturbed, stays (jobs ▸ mem_of_others member)⟩

end Bench

end BurstLink
