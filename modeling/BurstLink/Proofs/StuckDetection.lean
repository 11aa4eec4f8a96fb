import BurstLink.Proofs.Ongoing
import BurstLink.Proofs.Pacing.Course

/-! # When an exchange counts as stuck

An exchange counts as stuck at the first look at it for which it is due and its completion has not
been signalled, and at no other look. That bounds every send, whatever radio and interrupts do: a
send that is looked at whenever the clock has advanced is over when each of its attempts could have
taken its full time.

The clock counts microseconds. How far it advances at once is left open: a step of one is a tick of
the time base, a step of `roundTime` is a round of the bench. Steps that divide the time of an
attempt meet its deadline exactly; if the clock advances further at once, every attempt can be found
stuck that much later.

Main definitions:

* **`Watch`**, **`Bench.watchAfter`** — what whoever watches a run remembers: when the last send
  took off, when its last exchange was started, and whether the completion of that was signalled.
* **`Station.WatchedBy`** — how that describes a send in progress.
* **`Bench.Timely`** — how a look at a send turns out, and when the send is over.

Main statement: `Station.AtStartUp.timely_of_run`. -/

namespace BurstLink

/-! ## Watching a run -/

/-- What whoever watches a run remembers of the last send and its last exchange. -/
structure Watch where
  /-- When the send took off. -/
  taken : Nat := 0
  /-- When the exchange was started. -/
  started : Nat := 0
  /-- The completion of the exchange was signalled since. -/
  signalled : Bool := false
  /-- The send was looked at since the clock advanced last. -/
  seen : Bool := false
  /-- Since the send took off, the clock advanced in steps of the given size, such as ticks or
  rounds, and the send was looked at before each of them. -/
  attended : Bool := false
  /-- Since the send took off, the clock advanced at most by the given size at once, and the send
  was looked at before each advance. -/
  followed : Bool := false
  deriving DecidableEq

/-- The time that passes with a move, if that lets time pass. -/
def Move.time? : Move → Option Nat
  | .wait time => some time
  | _ => none

namespace Bench

/-- With the move the completion of an exchange is signalled. -/
def signals (b : Bench) (move : Move) : Bool :=
  !b.station.completed && (b.make move).station.completed

/-- What is remembered after a move. Steps of the clock have the given size, in microseconds. -/
def watchBy (step : Nat) (b : Bench) (watch : Watch) (move : Move) : Watch :=
  let clock := (b.make move).station.clock
  if b.launches move then
    { taken := if b.takesOff move then clock else watch.taken
      started := clock
      signalled := false
      seen := true
      attended := b.takesOff move || watch.attended
      followed := b.takesOff move || watch.followed }
  else
    { watch with
      signalled := watch.signalled || b.signals move
      seen := (watch.seen || b.attends move) && move.time?.isNone
      attended := watch.attended && move.time?.all fun time => watch.seen && time == step
      followed := watch.followed && move.time?.all fun time => watch.seen && decide (time ≤ step) }

/-- What is remembered after some moves. -/
def watchAfter (step : Nat) (b : Bench) (watch : Watch) : List Move → Watch
  | [] => watch
  | move :: moves => (b.make move).watchAfter step (b.watchBy step watch move) moves

end Bench

namespace Station

/-- What is remembered describes the send in progress. -/
structure WatchedBy (step : Nat) (watch : Watch) (f : Flight) (s : Station) : Prop where
  deadline : f.deadline = watch.started + exchangeTimeout
  signalled : s.completed = watch.signalled
  seen : watch.seen = true → s.clock < f.deadline
  due : step ∣ exchangeTimeout → watch.attended = true → s.clock ≤ f.deadline
  steps : watch.attended = true → ∃ n, s.clock = watch.started + n * step
  begun : step ∣ exchangeTimeout → watch.attended = true →
    watch.started ≤ watch.taken + f.retries * exchangeTimeout
  overdue : watch.followed = true → s.clock < f.deadline + step
  delayed : watch.followed = true →
    watch.started ≤ watch.taken + f.retries * (exchangeTimeout + step)

/-- A step of the radio with its interrupt takes no time. -/
theorem clock_pump (s : Station) : s.pump.1.clock = s.clock := by
  obtain ⟨buffers, same⟩ := s.serviceRadio_eq
  have served : s.serviceRadio.clock = s.clock := by rw [same]
  obtain ⟨_, _, _, _, _, _, _, _, _, -, handled⟩ := s.serviceRadio.handleInterrupt_eq
  unfold pump
  dsimp only
  split
  · exact served
  · split
    · rw [handled]
      exact served
    · exact served

/-- A complete exchange stays complete until the send takes notice. -/
theorem InFlight.completed_pump {s : Station} {f : Flight} (h : s.InFlight True f)
    (done : s.completed = true) : s.pump.1.completed = true := by
  cases h.stage with
  | onAir air => exact absurd (air.completed.symm.trans done) (by simp)
  | awaiting wait => exact absurd (wait.completed.symm.trans done) (by simp)
  | complete complete => rw [complete.pump, done]

end Station

namespace Bench

variable {b : Bench} {watch : Watch} {step : Nat} {move : Move}

/-- What is remembered describes whatever send is in progress. -/
def WatchedBy (step : Nat) (watch : Watch) (b : Bench) : Prop :=
  ∀ job ∈ b.jobs, ∀ f purpose, job.activity = .sending f purpose → b.station.WatchedBy step watch f

/-- A move that starts no exchange, lets no time pass, and at most signals a completion. -/
theorem watchedBy_of_unlaunched {f : Flight} (h : b.station.WatchedBy step watch f)
    (unlaunched : b.launches move = false) (untimed : move.time? = none)
    (clock : (b.make move).station.clock = b.station.clock)
    (completed : b.station.completed = true → (b.make move).station.completed = true)
    (early : b.attends move = true → b.station.clock < f.deadline) :
    (b.make move).station.WatchedBy step (b.watchBy step watch move) f := by
  have same : b.watchBy step watch move = { watch with
      signalled := watch.signalled || b.signals move
      seen := watch.seen || b.attends move } := by
    simp [watchBy, unlaunched, untimed]
  rw [same]
  -- the exchange is the same, at the same time: what was noted goes on to hold, and a sign or a
  -- look is added to it
  refine ⟨h.deadline, ?_, ?_, ?_, ?_, h.begun, ?_, h.delayed⟩
  · show (b.make move).station.completed = (watch.signalled || b.signals move)
    rw [← h.signalled, signals]
    cases done : b.station.completed with
    | true => simp [completed done]
    | false => simp
  · intro seen
    rw [clock]
    rcases Bool.or_eq_true_iff.mp seen with before | now
    · exact h.seen before
    · exact early now
  · rw [clock]
    exact h.due
  · rw [clock]
    exact h.steps
  · rw [clock]
    exact h.overdue

/-- A look that starts the first exchange of a send. -/
theorem watchedBy_of_tookOff {f : Flight} (launches : b.launches move = true)
    (passed : b.takesOff move = true) (begun : (b.make move).station.Begun f) :
    (b.make move).station.WatchedBy step (b.watchBy step watch move) f := by
  have same : b.watchBy step watch move =
      ⟨(b.make move).station.clock, (b.make move).station.clock, false, true, true, true⟩ := by
    simp [watchBy, launches, passed]
  have later : (b.make move).station.clock < f.deadline := by
    rw [begun.deadline]
    exact Nat.lt_add_of_pos_right (by decide)
  rw [same]
  exact ⟨begun.deadline, begun.completed, fun _ => later, fun _ _ => Nat.le_of_lt later,
    fun _ => ⟨0, by simp⟩, fun _ _ => Nat.le_add_right .., fun _ => Nat.lt_add_right step later,
    fun _ => Nat.le_add_right ..⟩

/-- A look that starts the next exchange of a send. -/
theorem watchedBy_of_repeated {f g : Flight} (h : b.station.WatchedBy step watch g)
    (launches : b.launches move = true) (refused : b.takesOff move = false)
    (begun : (b.make move).station.Begun f) (retries : f.retries = g.retries + 1)
    (clock : (b.make move).station.clock = b.station.clock) :
    (b.make move).station.WatchedBy step (b.watchBy step watch move) f := by
  have same : b.watchBy step watch move =
      ⟨watch.taken, (b.make move).station.clock, false, true, watch.attended,
        watch.followed⟩ := by
    simp [watchBy, launches, refused]
  -- the next attempt has its full time before it
  have later : (b.make move).station.clock < f.deadline := by
    rw [begun.deadline]
    exact Nat.lt_add_of_pos_right (by decide)
  rw [same]
  refine ⟨begun.deadline, begun.completed, fun _ => later, fun _ _ => Nat.le_of_lt later,
    fun _ => ⟨0, by simp⟩, ?_, fun _ => Nat.lt_add_right step later, ?_⟩
  · -- the attempt before this one has taken its full time at most
    intro divides attended
    have due := h.due divides attended
    have begun := h.begun divides attended
    show (b.make move).station.clock ≤ watch.taken + f.retries * exchangeTimeout
    rw [h.deadline] at due
    rw [clock, retries, Nat.add_one_mul]
    omega
  · -- the attempt before this one was overdue for less than a step
    intro followed
    have overdue := h.overdue followed
    have delayed := h.delayed followed
    show (b.make move).station.clock ≤ watch.taken + f.retries * (exchangeTimeout + step)
    rw [h.deadline] at overdue
    rw [clock, retries, Nat.add_one_mul]
    omega

/-- A step of the clock. -/
theorem watchedBy_of_wait {f : Flight} (h : b.station.WatchedBy step watch f) (time : Nat) :
    (b.make (.wait time)).station.WatchedBy step (b.watchBy step watch (.wait time)) f := by
  obtain ⟨deadline, signalled, seen, due, steps, begun, overdue, delayed⟩ := h
  -- no exchange starts while time passes, so the watch goes on and only notes the advance
  have quiet : b.signals (.wait time) = false := by simp [signals, make, onStation]
  have same : b.watchBy step watch (.wait time) = { watch with
      seen := false
      attended := watch.attended && (watch.seen && time == step)
      followed := watch.followed && (watch.seen && decide (time ≤ step)) } := by
    simp [watchBy, launches, quiet, Move.time?]
  have attentive : (watch.attended && (watch.seen && time == step)) = true →
      watch.attended = true ∧ watch.seen = true ∧ time = step := by simp
  have following : (watch.followed && (watch.seen && decide (time ≤ step))) = true →
      watch.followed = true ∧ watch.seen = true ∧ time ≤ step := by simp
  rw [same]
  refine ⟨deadline, signalled, by simp, ?_, ?_,
    fun divides attended => begun divides (attentive attended).1, ?_,
    fun followed => delayed (following followed).1⟩
  · -- the exchange is not due before the step, so the step does not go past its deadline
    intro divides attended
    obtain ⟨kept, looked, rfl⟩ := attentive attended
    obtain ⟨n, now⟩ := steps kept
    have early := seen looked
    rw [deadline, now] at early
    have inside : n * time + time ≤ exchangeTimeout :=
      Nat.le_of_lt_add_of_dvd (Nat.add_lt_add_right (Nat.lt_of_add_lt_add_left early) time)
        (Nat.dvd_add (Nat.dvd_mul_left time n) (Nat.dvd_refl time)) divides
    show b.station.clock + time ≤ f.deadline
    omega
  · intro attended
    obtain ⟨kept, -, rfl⟩ := attentive attended
    obtain ⟨n, now⟩ := steps kept
    refine ⟨n + 1, ?_⟩
    show b.station.clock + time = watch.started + (n + 1) * time
    rw [now, Nat.add_one_mul]
    omega
  · -- nor is it due before an advance, which goes past its deadline by less than a step
    intro followed
    obtain ⟨-, looked, short⟩ := following followed
    exact Nat.add_lt_add_of_lt_of_le (seen looked) short

/-- **What one move preserves.** -/
theorem WatchedBy.make (h : b.WatchedBy step watch) (reachable : b.Reachable)
    (regular : move.Regular) : (b.make move).WatchedBy step (b.watchBy step watch move) := by
  intro job member f purpose sends
  obtain ⟨bears, was⟩ := reachable.sound.bears_make reachable.tidy regular member sends
  -- as long as no exchange is started, the send is the one that was watched
  have before : b.launches move = false → b.station.WatchedBy step watch f := by
    intro unlaunched
    obtain ⟨job', old, same⟩ := was unlaunched
    exact h job' old f purpose (same.trans sends)
  generalize after : (b.make move).station = t at bears
  cases bears with
  | tookOff launches passed begun fresh =>
    subst after
    exact watchedBy_of_tookOff launches passed begun
  | @repeated position sender g purpose' launches refused sender' was' done next =>
    have begun := b.station.begun_nextAttempt g true
    have clock : ((b.station.nextAttempt g).1.setLocked true).clock = b.station.clock := by
      unfold Station.nextAttempt
      rw [Station.fly_eq]
      rfl
    rw [← next, ← after] at begun
    rw [← after]
    exact watchedBy_of_repeated (h sender sender' g purpose' was') launches refused begun
      (by rw [next]; rfl) (after ▸ clock)
  | looked unlaunched attends down early =>
    rw [← after]
    refine watchedBy_of_unlaunched (before unlaunched) unlaunched rfl ?_ ?_ fun _ => early
    · rw [after]
      rfl
    · intro done
      exact absurd (down.symm.trans done) (by simp)
  | waited time => exact watchedBy_of_wait (before rfl) time
  | served =>
    obtain ⟨buffers, same⟩ := b.station.serviceRadio_eq
    refine watchedBy_of_unlaunched (before rfl) rfl rfl ?_ ?_ (by simp [attends])
    · rw [after, same]
    · rw [after, same]
      exact id
  | pumped =>
    have flight : b.station.InFlight True f := by
      obtain ⟨job', old, same⟩ := was rfl
      exact reachable.sound.inFlight old (same.trans sends)
    refine watchedBy_of_unlaunched (before rfl) rfl rfl ?_ ?_ (by simp [attends])
    · rw [after]
      exact b.station.clock_pump
    · rw [after]
      exact flight.completed_pump
  | aside unlaunched unattended unpumped unwaited undisturbed =>
    rw [← after]
    refine watchedBy_of_unlaunched (before unlaunched) unlaunched ?_ ?_ ?_ ?_
    · cases move with
      | wait time => exact absurd rfl (unwaited time)
      | _ => rfl
    · rw [after]
      exact undisturbed.clock
    · rw [after, undisturbed.agree.completed]
      exact id
    · simp [unattended]

/-- **What a run preserves.** The induction is on the moves. -/
theorem WatchedBy.after (h : b.WatchedBy step watch) (reachable : b.Reachable) (moves : List Move)
    (regular : ∀ move ∈ moves, move.Regular) :
    (b.after moves).WatchedBy step (b.watchAfter step watch moves) := by
  induction moves generalizing b watch with
  | nil => exact h
  | cons move moves ih =>
    have first : move.Regular := regular move (by simp)
    exact ih (h.make reachable first) (reachable.make move first)
      fun m member => regular m (by simp [member])

/-- At start-up no send is in progress. -/
theorem watchedBy_startUp {s : Station} (start : s.AtStartUp) :
    (ofStation s).WatchedBy step {} := by
  obtain ⟨draws, rfl | rfl⟩ := start
  · simp [WatchedBy, ofStation]
  · simp [WatchedBy, ofStation]

/-! ## How a look turns out -/

/-- How a look at a send in progress turns out, and when the send is over, in terms of what is
remembered of the run. -/
structure Timely (step : Nat) (watch : Watch) (b : Bench) (job : Job) (f : Flight) : Prop where
  /-- The exchange is found stuck exactly if it is due and its completion was not signalled. -/
  stuck_iff : (b.station.checkFlight f).2 = .finished (.error .hardwareStuck) ↔
    watch.signalled = false ∧ watch.started + exchangeTimeout ≤ b.station.clock
  /-- Before it is due, a look changes nothing unless the completion was signalled. -/
  waits : watch.signalled = false → b.station.clock < watch.started + exchangeTimeout →
    job.poll b.station = (b.station, .waiting job)
  /-- After the signal the send has an outcome, or the next attempt is started. -/
  goesOn : watch.signalled = true →
    (∃ t outcome, b.station.checkFlight f = (t, .finished (.ok outcome))) ∨
    f.retries + 1 < f.config.attempts ∧ ∃ t, b.station.checkFlight f = (t, .waiting
      { f with retries := f.retries + 1, deadline := b.station.clock + exchangeTimeout })
  /-- A send of its own that is over answers with what was found, and the lock is free. -/
  answers : ∀ withAck, job.activity = .sending f (.single withAck) →
    ∀ t result, b.station.checkFlight f = (t, .finished result) →
      ∃ u completion reply, job.poll b.station = (u, .finished completion) ∧
        completion.result = result.map reply ∧ u.locked = false
  /-- If the send was looked at before each step of the clock, and the steps divide the time of an
  attempt as ticks and rounds do, it cannot have lasted longer than all of its attempts together,
  and if it has lasted that long the look ends it. -/
  bounded : step ∣ exchangeTimeout → watch.attended = true →
    b.station.clock ≤ watch.taken + (f.config.arc.toNat + 1) * exchangeTimeout ∧
    (watch.taken + (f.config.arc.toNat + 1) * exchangeTimeout ≤ b.station.clock →
      ∃ t result, b.station.checkFlight f = (t, .finished result))
  /-- If it was looked at before each advance of the clock, however far the clock advances at once,
  each of its attempts has lasted less than its full time and the longest advance together. -/
  overshoot : watch.followed = true →
    b.station.clock < watch.taken + (f.config.arc.toNat + 1) * (exchangeTimeout + step)

/-- A send makes one attempt more than there are retries at most. -/
theorem attempts_le (config : LinkConfig) : config.attempts ≤ config.arc.toNat + 1 := by
  unfold LinkConfig.attempts
  split
  · exact Nat.le_refl _
  · exact Nat.le_add_left 1 _

/-- A send that is watched is over when all of its attempts could have taken their full time. -/
theorem bounded_of_watchedBy {s : Station} {f : Flight} (h : s.WatchedBy step watch f)
    (divides : step ∣ exchangeTimeout) (attended : watch.attended = true)
    (left : f.retries < f.config.attempts) :
    s.clock ≤ watch.taken + (f.config.arc.toNat + 1) * exchangeTimeout ∧
    (watch.taken + (f.config.arc.toNat + 1) * exchangeTimeout ≤ s.clock →
      ∃ t result, s.checkFlight f = (t, .finished result)) := by
  have due := h.due divides attended
  have begun := h.begun divides attended
  rw [h.deadline] at due
  have full : (f.retries + 1) * exchangeTimeout ≤
      (f.config.arc.toNat + 1) * exchangeTimeout :=
    Nat.mul_le_mul_right _ (Nat.le_trans left (attempts_le f.config))
  -- the attempts before this one took their time at most, and this one is not past its own
  have here : s.clock ≤ watch.taken + (f.retries + 1) * exchangeTimeout := by
    rw [Nat.add_one_mul]
    omega
  refine ⟨Nat.le_trans here (Nat.add_le_add_left full _), ?_⟩
  intro lasted
  -- with the last attempt used up, a look ends the send whether or not the exchange is complete
  cases done : s.completed with
  | true =>
    rcases Station.checkFlight_of_completed f done with ⟨acked, outcome, ended⟩ | ⟨more, -⟩
    · exact ⟨_, _, ended⟩
    · -- only the last attempt can have lasted that long
      have longer : (f.retries + 1 + 1) * exchangeTimeout ≤
          (f.config.arc.toNat + 1) * exchangeTimeout :=
        Nat.mul_le_mul_right _ (Nat.le_trans more (attempts_le f.config))
      have positive : 0 < exchangeTimeout := by decide
      rw [Nat.add_one_mul (f.retries + 1)] at longer
      omega
  | false =>
    have late : f.deadline ≤ s.clock := by
      rw [h.deadline]
      rw [Nat.add_one_mul] at here full
      omega
    exact ⟨_, _, Station.checkFlight_of_late done late⟩

/-- A send that is followed is over before each of its attempts could have been overdue for as long
as the clock advances at once. -/
theorem overshoot_of_watchedBy {s : Station} {f : Flight} (h : s.WatchedBy step watch f)
    (followed : watch.followed = true) (left : f.retries < f.config.attempts) :
    s.clock < watch.taken + (f.config.arc.toNat + 1) * (exchangeTimeout + step) := by
  have overdue := h.overdue followed
  have delayed := h.delayed followed
  rw [h.deadline] at overdue
  have full : (f.retries + 1) * (exchangeTimeout + step) ≤
      (f.config.arc.toNat + 1) * (exchangeTimeout + step) :=
    Nat.mul_le_mul_right _ (Nat.le_trans left (attempts_le f.config))
  rw [Nat.add_one_mul f.retries] at full
  omega

/-- **A look at a send that is watched** turns out as what is remembered says. -/
theorem WatchedBy.timely (h : b.WatchedBy step watch) (sound : b.Sound True True) {job : Job}
    (member : job ∈ b.jobs) {f : Flight} {purpose : Purpose}
    (sends : job.activity = .sending f purpose) (left : f.retries < f.config.attempts) :
    b.Timely step watch job f := by
  have watched := h job member f purpose sends
  refine ⟨?_, ?_, ?_, ?_, fun divides attended => bounded_of_watchedBy watched divides attended left,
    fun followed => overshoot_of_watchedBy watched followed left⟩
  · rw [Station.checkFlight_stuck_iff, watched.signalled, watched.deadline]
  -- before the deadline a look finds nothing, and the lock is held anyway
  · intro unsignalled early
    have down : b.station.completed = false := watched.signalled.trans unsignalled
    have locked := (sound.held member (by rw [sends]; rfl)).1
    have found := Station.checkFlight_of_early down (watched.deadline ▸ early)
    have same : b.station.setLocked true = b.station := by
      rw [← locked]
      rfl
    rw [Job.poll_eq, sends, Station.poll_sending_of_waiting purpose found, same]
    exact congrArg (fun activity => (b.station, Look.waiting { job with activity := activity }))
      sends.symm
  · intro signalled
    rcases Station.checkFlight_of_completed f (watched.signalled.trans signalled) with
      ⟨acked, outcome, ended⟩ | ⟨more, again⟩
    · exact .inl ⟨_, outcome, ended⟩
    · exact .inr ⟨more, _, again⟩
  · intro withAck single t result ended
    let reply := fun outcome => t.replyToSend f.ack withAck outcome
    refine ⟨(t.setLocked false).releaseBuffers,
      ⟨job.label, result.map reply, job.packets (t.setLocked false)⟩, reply, ?_, rfl, ?_⟩
    · rw [Job.poll_eq, single, Station.poll_sending_of_finished withAck ended]
    · exact Station.releaseBuffers_locked _

end Bench

/-- **Stuck detection is exact and bounds every send.** In every run, whatever radio and interrupts
do and whatever else is asked for, an exchange counts as stuck at the first look for which it is due
and its completion has not been signalled since its start, and at no other look. A send that is
looked at before each step of the clock is over when each of its attempts could have taken its full
time, and the lock is free then, for steps of any size that divides that time: ticks of a
microsecond, or rounds. If the clock advances by other amounts, the send is over within one more
advance for each of its attempts. -/
theorem Station.AtStartUp.timely_of_run {s : Station} (start : s.AtStartUp) (moves : List Move)
    (regular : ∀ move ∈ moves, move.Regular) (step : Nat) :
    let b := (Bench.ofStation s).after moves
    let watch := (Bench.ofStation s).watchAfter step {} moves
    ∀ job ∈ b.jobs, ∀ f purpose, job.activity = .sending f purpose → b.Timely step watch job f := by
  intro b watch job member f purpose sends
  have reachable : b.Reachable := (Bench.Reachable.startUp start).after moves regular
  have watched : b.WatchedBy step watch :=
    (Bench.watchedBy_startUp start).after (.startUp start) moves regular
  have tallied := (Bench.Tallied.startUp start).after moves fun move listed =>
    (regular move listed).handsOff.simple
  have bounded : f.Bounded := by
    have held := tallied.guarded.held member (by rw [sends]; rfl)
    rw [sends] at held
    exact held.2.1
  exact watched.timely reachable.sound member sends bounded.2

/-- A send whose first packet is not answered and whose second one is never finished. It is looked
at every 50 milliseconds, until its second exchange is due. -/
def Bench.overdueMoves : List Move :=
  [.ask none (.request (.switchMode .link)), .look 0, .arrange (.schedule [.silence, .wedged]),
    .ask none (.request (.sendPayload [1])), .look 0, .pump, .wait 50000, .look 0, .pump, .pump,
    .wait 50000, .look 0, .wait 50000, .look 0, .pump, .wait 50000, .look 0, .wait 50000, .look 0,
    .wait 50000]

/-- Its flight. -/
def Bench.overdueFlight : Flight :=
  { packet := ⟨0⟩, ack := ⟨1⟩, pid := .zero, config := .standard, retries := 1, deadline := 300000 }

/-- The look that is due finds the radio stuck, 300 milliseconds after the send took off, and the
lock is free then. -/
theorem Bench.timely_of_overdue :
    let b := (Bench.ofStation (.withFrontEnd .zeros)).after overdueMoves
    let watch := (Bench.ofStation (.withFrontEnd .zeros)).watchAfter 50000 {} overdueMoves
    let job : Job := ⟨none, none, .sending overdueFlight (.single true)⟩
    (∀ move ∈ overdueMoves, move.Regular) ∧ 50000 ∣ exchangeTimeout ∧ job ∈ b.jobs ∧
      watch = ⟨0, 100000, false, false, true, true⟩ ∧ b.Timely 50000 watch job overdueFlight ∧
      ∃ t completion, job.poll b.station = (t, .finished completion) ∧
        completion.result = .error .hardwareStuck ∧ t.locked = false := by
  intro b watch job
  have regular : ∀ move ∈ overdueMoves, move.Regular := by decide
  have divides : 50000 ∣ exchangeTimeout := by decide
  have member : job ∈ b.jobs := by decide +kernel
  have remembered : watch = ⟨0, 100000, false, false, true, true⟩ := by decide +kernel
  have due : watch.started + exchangeTimeout ≤ b.station.clock := by decide +kernel
  have timely : b.Timely 50000 watch job overdueFlight :=
    Station.AtStartUp.timely_of_run ⟨.zeros, .inl rfl⟩ overdueMoves regular 50000 job member
      overdueFlight (.single true) rfl
  have stuck := timely.stuck_iff.mpr ⟨by rw [remembered], due⟩
  obtain ⟨t, completion, reply, polled, result, free⟩ :=
    timely.answers true rfl _ _ (Prod.ext rfl stuck)
  exact ⟨regular, divides, member, remembered, timely, t, completion, polled, result, free⟩

end BurstLink
