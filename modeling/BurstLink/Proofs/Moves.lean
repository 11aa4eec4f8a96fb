import BurstLink.Bench.Command

/-! # Moves

What happens at a bench, in the smallest steps that leave the operations whole: a job is looked at
or given up, time passes, the radio makes a step. Rounds, waiting and whole sessions are made of
such moves, so a fact about every reachable bench holds at every point of every session.

Main definitions:

* **`Station.engage`** — the station and the job when an operation is asked for.
* **`Move`**, **`Bench.make`** — one step, and the bench after it.
* **`Move.Regular`** — the step reaches into the station by nothing but operations and by the
  settings of what surrounds the radio.
* **`Bench.Reachable`** — the bench is what regular moves make of a station at start-up.

Main statements: what holds at start-up and is kept by every regular move holds of every reachable
bench (`Reachable.induct`), and a session of regular commands reaches nothing else
(`Reachable.run`). -/

namespace BurstLink

/-! ## Regular requests -/

/-- The operation uses the radio, and a send has a buffer for each of its two packets. -/
def Request.Regular : Request → Prop
  | .send packet ack => packet ≠ ack
  | .testAmplifiers => False
  | _ => True

/-- The operation between two looks is a regular one. -/
def Activity.Regular : Activity → Prop
  | .queued request => request.Regular
  | .testing _ => False
  | _ => True

/-- The operation brings its own buffers along and is not the front-end test. -/
def Work.Regular : Work → Prop
  | .request (.send ..) => False
  | .request (.scanPresence ..) => False
  | .request .testAmplifiers => False
  | _ => True

instance : DecidablePred Work.Regular := fun work => by
  unfold Work.Regular
  split <;> infer_instance

/-- The command arranges the surroundings of the radio or what the scanners hear. -/
def Command.Arranges : Command → Prop
  | .schedule _ => True
  | .setAir _ => True
  | .putUpScanner _ => True
  | .setSilent _ => True
  | .report _ => True
  | _ => False

instance : DecidablePred Command.Arranges := fun command => by
  unfold Command.Arranges
  split <;> infer_instance

/-! ## Asking for an operation -/

/-- The station and the job when an operation is asked for. -/
def Station.engage (label : Option String) (work : Work) (s : Station) : Station × Job :=
  match work with
  | .request request => (s, ⟨label, none, .queued request⟩)
  | .send packet ack =>
    let (buffers, p) := s.buffers.add packet
    let (buffers, a) := buffers.add ack
    ({ s with buffers := buffers }, ⟨label, some (p, a), .queued (.send p a)⟩)
  | .scanPresence channel window =>
    let (s, scanner) := s.currentScanner
    (s, ⟨label, none, .queued (.scanPresence scanner channel window)⟩)

/-- To enlist is to engage the station and to put the new operation at the end of the queue. -/
theorem Bench.enlist_eq (label : Option String) (work : Work) (b : Bench) :
    b.enlist label work = { b with
      station := (b.station.engage label work).1
      jobs := b.jobs ++ [(b.station.engage label work).2] } := by
  cases work <;> rfl

/-- Arranging the surroundings changes the station alone. -/
theorem Bench.execute_eq_of_arranges {command : Command} (arranges : command.Arranges)
    (b : Bench) :
    (b.execute command).1 = { b with station := (b.execute command).1.station } := by
  cases command with
  | schedule responses => rfl
  | setAir setting => rfl
  | putUpScanner heard =>
    unfold execute
    dsimp only
    split <;> rfl
  | setSilent on => rfl
  | report report => rfl
  | _ => exact absurd arranges id

/-! ## One move -/

/-- One step of what happens at a bench. -/
inductive Move
  /-- An operation is asked for. -/
  | ask (label : Option String) (work : Work)
  /-- The job at a position of the list is looked at. -/
  | look (position : Nat)
  /-- The job at a position of the list is given up. -/
  | giveUp (position : Nat)
  /-- Time passes, in microseconds. -/
  | wait (time : Nat)
  /-- The radio makes a step; its interrupt is left pending. -/
  | service
  /-- The radio makes a step, and its interrupt is handled. -/
  | pump
  /-- The surroundings are arranged. -/
  | arrange (command : Command)
  /-- The list of ended jobs and the log start anew. -/
  | turnPage

/-- The move leaves registers, interrupt handler and front end to the operations. -/
def Move.Regular : Move → Prop
  | .ask _ work => work.Regular
  | .arrange command => command.Arranges
  | _ => True

instance : DecidablePred Move.Regular := fun move => by
  unfold Move.Regular
  split <;> infer_instance

namespace Bench

/-- Looks at the job at a position; one that is over leaves. -/
def lookAt (position : Nat) (b : Bench) : Bench :=
  match b.jobs[position]? with
  | none => b
  | some job =>
    match job.poll b.station with
    | (s, .waiting job) => { b with station := s, jobs := b.jobs.set position job }
    | (s, .finished completion) =>
      { b with
        station := s
        jobs := b.jobs.eraseIdx position
        ended := completion :: b.ended }

/-- Gives up the job at a position. -/
def giveUp (position : Nat) (b : Bench) : Bench :=
  match b.jobs[position]? with
  | none => b
  | some job => { b with station := job.drop b.station, jobs := b.jobs.eraseIdx position }

/-- The bench after a move. -/
def make (b : Bench) : Move → Bench
  | .ask label work => b.enlist label work
  | .look position => b.lookAt position
  | .giveUp position => b.giveUp position
  | .wait time => b.onStation fun s => { s with clock := s.clock + time }
  | .service => b.onStation Station.serviceRadio
  | .pump => b.onStation fun s => s.pump.1
  | .arrange command => (b.execute command).1
  | .turnPage => b.turnPage

/-- The bench after some moves. -/
def after (b : Bench) (moves : List Move) : Bench := moves.foldl make b

@[simp] theorem after_nil (b : Bench) : b.after [] = b := rfl

@[simp] theorem after_cons (b : Bench) (move : Move) (moves : List Move) :
    b.after (move :: moves) = (b.make move).after moves := rfl

/-- Moves can be made in two parts. -/
theorem after_append (b : Bench) (first then' : List Move) :
    b.after (first ++ then') = (b.after first).after then' :=
  List.foldl_append

end Bench

/-! ## One job among others -/

/-- The jobs that a look at one job leaves in its place. -/
def Job.remaining : Look Job Completion → List Job
  | .waiting job => [job]
  | .finished _ => []

namespace Bench

variable {b : Bench}

/-- A list splits at a position that is filled. -/
theorem exists_split {α : Type} {l : List α} {i : Nat} {a : α} (found : l[i]? = some a) :
    ∃ before later, l = before ++ a :: later ∧ before.length = i := by
  obtain ⟨inside, rfl⟩ := List.getElem?_eq_some_iff.mp found
  refine ⟨l.take i, l.drop (i + 1), ?_, by simp; omega⟩
  rw [List.getElem_cons_drop, List.take_append_drop]

/-- A look at a position that is not filled. -/
theorem lookAt_of_none {position : Nat} (unfilled : b.jobs[position]? = none) :
    b.lookAt position = b := by
  unfold lookAt
  rw [unfilled]

/-- Giving up at a position that is not filled. -/
theorem giveUp_of_none {position : Nat} (unfilled : b.jobs[position]? = none) :
    b.giveUp position = b := by
  unfold giveUp
  rw [unfilled]

/-- The station and the jobs after a look at one of the jobs. -/
theorem lookAt_split {before later : List Job} {job : Job}
    (jobs : b.jobs = before ++ job :: later) :
    (b.lookAt before.length).station = (job.poll b.station).1 ∧
      (b.lookAt before.length).jobs =
        before ++ (Job.remaining (job.poll b.station).2 ++ later) := by
  have found : b.jobs[before.length]? = some job := by rw [jobs]; simp
  unfold lookAt
  rw [found]
  dsimp only
  rcases job.poll b.station with ⟨s, job' | completion⟩
  · refine ⟨rfl, ?_⟩
    rw [jobs]
    simp [Job.remaining]
  · refine ⟨rfl, ?_⟩
    rw [jobs]
    simp [Job.remaining, List.eraseIdx_append_of_length_le]

/-- A look at one job leaves the others in the list. -/
theorem mem_lookAt_of_others {before later : List Job} {job other : Job}
    (jobs : b.jobs = before ++ job :: later) (member : other ∈ before ++ later) :
    other ∈ (b.lookAt before.length).jobs := by
  rw [(lookAt_split jobs).2]
  rcases List.mem_append.mp member with first | last
  · simp [first]
  · simp [last]

/-- The station and the jobs after one of the jobs was given up. -/
theorem giveUp_split {before later : List Job} {job : Job}
    (jobs : b.jobs = before ++ job :: later) :
    (b.giveUp before.length).station = job.drop b.station ∧
      (b.giveUp before.length).jobs = before ++ later := by
  have found : b.jobs[before.length]? = some job := by rw [jobs]; simp
  unfold giveUp
  rw [found]
  refine ⟨rfl, ?_⟩
  rw [jobs]
  simp [List.eraseIdx_append_of_length_le]

end Bench

/-! ## Reachable benches -/

/-- The station at start-up, with or without a front end. -/
def Station.AtStartUp (s : Station) : Prop :=
  ∃ draws, s = .withFrontEnd draws ∨ s = .withoutFrontEnd draws

/-- What regular moves make of a station at start-up. -/
def Bench.Reachable (b : Bench) : Prop :=
  ∃ s : Station, s.AtStartUp ∧ ∃ moves : List Move,
    (∀ move ∈ moves, move.Regular) ∧ (Bench.ofStation s).after moves = b

namespace Bench.Reachable

variable {b : Bench}

/-- A station at start-up without jobs is reachable. -/
theorem startUp {s : Station} (h : s.AtStartUp) : (Bench.ofStation s).Reachable :=
  ⟨s, h, [], by simp, rfl⟩

/-- A regular move leads from a reachable bench to a reachable one. -/
theorem make (h : b.Reachable) (move : Move) (regular : move.Regular) :
    (b.make move).Reachable := by
  obtain ⟨s, start, moves, allRegular, rfl⟩ := h
  refine ⟨s, start, moves ++ [move], ?_, by rw [after_append]; rfl⟩
  intro m hm
  rcases List.mem_append.mp hm with old | new
  · exact allRegular m old
  · rw [List.mem_singleton] at new
    exact new ▸ regular

/-- Regular moves lead from a reachable bench to a reachable one. -/
theorem after (h : b.Reachable) (moves : List Move) (regular : ∀ move ∈ moves, move.Regular) :
    (b.after moves).Reachable := by
  induction moves generalizing b with
  | nil => exact h
  | cons move moves ih =>
    rw [after_cons]
    exact ih (h.make move (regular move (by simp))) fun m hm => regular m (by simp [hm])

/-- **What holds at start-up and is kept by every regular move holds of every reachable bench.** -/
theorem induct {P : Bench → Prop} (atStartUp : ∀ s : Station, s.AtStartUp → P (Bench.ofStation s))
    (kept : ∀ b : Bench, P b → ∀ move : Move, move.Regular → P (b.make move))
    (h : b.Reachable) : P b := by
  obtain ⟨s, start, moves, regular, rfl⟩ := h
  -- the induction needs an arbitrary first bench
  have general : ∀ b, P b → P (b.after moves) := by
    intro b hb
    induction moves generalizing b with
    | nil => exact hb
    | cons move moves ih =>
      rw [after_cons]
      exact ih (fun m hm => regular m (by simp [hm])) _
        (kept b hb move (regular move (by simp)))
  exact general _ (atStartUp s start)

end Bench.Reachable

/-! ## Sessions are made of moves -/

/-- The looks of one round are looks at one job after the other. -/
theorem Bench.Reachable.pollAll {b : Bench} (h : b.Reachable) (seen later : List Job)
    (jobs : b.jobs = seen ++ later) :
    ({ b with
        station := (Job.pollAll later b.station).1
        jobs := seen ++ (Job.pollAll later b.station).2.1
        ended := (Job.pollAll later b.station).2.2.reverse ++ b.ended } : Bench).Reachable := by
  -- on the jobs still to be looked at; each look is a move
  induction later generalizing b seen with
  | nil =>
    obtain ⟨station, jobs', ended, slot⟩ := b
    simp only [List.append_nil] at jobs
    subst jobs
    simpa [Job.pollAll] using h
  | cons job later ih =>
    have found : b.jobs[seen.length]? = some job := by rw [jobs]; simp
    have step := h.make (.look seen.length) trivial
    rcases hp : job.poll b.station with ⟨s, job' | completion⟩
    · -- The job goes on: it is among the jobs seen from now on.
      have looked : b.make (.look seen.length) =
          { b with station := s, jobs := (seen ++ [job']) ++ later } := by
        simp only [Bench.make, Bench.lookAt, found, hp]
        rw [jobs]
        simp
      rw [looked] at step
      simpa [Job.pollAll, hp] using ih step (seen ++ [job']) rfl
    · have looked : b.make (.look seen.length) =
          { b with station := s, jobs := seen ++ later, ended := completion :: b.ended } := by
        simp only [Bench.make, Bench.lookAt, found, hp]
        rw [jobs]
        simp [List.eraseIdx_append_of_length_le]
      rw [looked] at step
      simpa [Job.pollAll, hp] using ih step seen rfl

namespace Bench.Reachable

variable {b : Bench}

/-- The looks of one round keep a bench reachable. -/
theorem poll (h : b.Reachable) : b.poll.1.Reachable := by
  simpa [Bench.poll] using h.pollAll [] b.jobs rfl

/-- The clock and the radio keep a bench reachable. -/
theorem advance (h : b.Reachable) (pumped : Bool) : (b.advance pumped).1.Reachable := by
  have waited := h.make (.wait roundTime) trivial
  cases pumped with
  | false => exact waited
  | true => exact waited.make .pump trivial

/-- Rounds keep a bench reachable. -/
theorem rounds (h : b.Reachable) (pumped : Bool) (n : Nat) :
    (b.rounds pumped n).1.Reachable := by
  induction n generalizing b with
  | zero => exact h
  | succ n ih =>
    have next := h.poll.advance pumped
    rw [Bench.rounds]
    rcases hb : b.poll.1.advance pumped with ⟨b', _ | overflow⟩
    · rw [hb] at next
      exact ih next
    · rw [hb] at next
      exact next

/-- Giving up the oldest job with a label keeps a bench reachable. -/
theorem dropJob (h : b.Reachable) (label : Option String) : (b.dropJob label).1.Reachable := by
  unfold Bench.dropJob
  split
  · exact h
  · rename_i job found
    obtain ⟨labelled, before, later, split, others⟩ := List.find?_eq_some_iff_append.mp found
    have position : b.jobs[before.length]? = some job := by rw [split]; simp
    have step := h.make (.giveUp before.length) trivial
    have dropped : b.make (.giveUp before.length) =
        { b with
          station := job.drop b.station
          jobs := b.jobs.eraseP fun job => job.label == label } := by
      simp only [Bench.make, Bench.giveUp, position]
      -- the oldest job with the label is the first of its kind, so both ways of removing it agree
      rw [split, List.eraseIdx_append_of_length_le (Nat.le_refl _),
        List.eraseP_append_right _ (by simpa using others)]
      simp [labelled]
    rw [dropped] at step
    exact step

/-- Waiting for a job keeps a bench reachable. -/
theorem awaitWithin (h : b.Reachable) (pumped : Bool) (n : Nat) :
    (b.awaitWithin pumped n).1.Reachable := by
  induction n generalizing b with
  | zero => exact h
  | succ n ih =>
    have polled := h.poll
    rw [Bench.awaitWithin]
    rcases hp : b.poll with ⟨b', ended⟩
    rw [hp] at polled
    dsimp only
    split
    · exact polled
    · have next := polled.advance pumped
      split
      · rename_i b'' overflow hb
        rw [hb] at next
        exact next.dropJob none
      · rename_i b'' hb
        rw [hb] at next
        exact ih next

end Bench.Reachable

/-- Steps of the radio keep a bench reachable. -/
theorem Bench.Reachable.serviceTimes {b : Bench} (h : b.Reachable) (n : Nat) :
    ({ b with station := (b.station.serviceTimes n).1 } : Bench).Reachable := by
  induction n generalizing b with
  | zero => exact h
  | succ n ih =>
    have step := h.make .service trivial
    rw [Station.serviceTimes]
    dsimp only
    split
    · exact step
    · exact ih step

/-- The command asks for regular operations, lets rounds go by, gives jobs up, lets the radio make
steps, arranges the surroundings, or reads. -/
def Command.Regular : Command → Prop
  | .perform _ work _ => work.Regular
  | .handleInterrupt => False
  | .pollDisabled _ => False
  | .accessRadio _ => False
  | .setPacket _ => False
  | .accessFrontEnd _ => False
  | _ => True

/-- **A regular command leads from a reachable bench to a reachable one.** -/
theorem Bench.Reachable.run {b : Bench} (h : b.Reachable) {command : Command}
    (regular : command.Regular) : (b.run command).1.Reachable := by
  have page : b.turnPage.Reachable := h.make .turnPage trivial
  unfold Bench.run
  cases command with
  | perform label work pumped =>
    -- only an operation without a name is waited for
    have asked := page.make (.ask label work) regular
    cases label with
    | none => exact asked.awaitWithin pumped _
    | some label => exact asked
  | rounds n pumped => exact page.rounds pumped n
  | cancel label =>
    have dropped := page.dropJob (some label)
    unfold Bench.execute
    rcases hd : b.turnPage.dropJob (some label) with ⟨b', _ | job⟩ <;>
      simpa [hd] using dropped
  | listModes => exact page
  | readHistory => exact page
  | readPacket => exact page
  | schedule responses => exact page.make (.arrange (.schedule responses)) trivial
  | setAir setting => exact page.make (.arrange (.setAir setting)) trivial
  | putUpScanner heard => exact page.make (.arrange (.putUpScanner heard)) trivial
  | setSilent on => exact page.make (.arrange (.setSilent on)) trivial
  | report report => exact page.make (.arrange (.report report)) trivial
  | handleInterrupt => exact absurd regular id
  | service n =>
    have served := page.serviceTimes n
    unfold Bench.execute
    rcases hs : b.turnPage.station.serviceTimes n with ⟨s, flags | overflow⟩ <;>
      simpa [hs] using served
  | pollDisabled n => exact absurd regular id
  | accessRadio access => exact absurd regular id
  | setPacket packet => exact absurd regular id
  | accessFrontEnd access => exact absurd regular id

end BurstLink
