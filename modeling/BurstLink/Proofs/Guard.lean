import BurstLink.Proofs.Mirror

/-! # What the lock guards

Much of what can be said about a station is of one kind: something holds while nobody has the lock,
and something that depends on the operation holds while one has it. Such a guard lasts along every
run if the start of an operation, a look at the operation that has the lock, giving that operation
up, and whatever happens beside the operations all keep it. The induction is done here once.

Main definitions:

* **`Station.Aside`** — one change of the station beside the operations.
* **`Guard`** — what holds while the lock is free, and while an activity has it.
* **`Guard.Kept`** — the guard survives each of the changes above.
* **`Move.Simple`** — the move is not made of other moves.
* **`Bench.GuardedBy`** — at most one job has the lock, and the guard holds.

Main statement: a guard that is kept lasts along every run of simple moves (`Guard.Kept.after`). -/

namespace BurstLink

/-! ## Simple moves -/

/-- The command is not made of looks, drops and steps of the radio. -/
def Command.Simple : Command → Prop
  | .perform .. => False
  | .rounds .. => False
  | .cancel _ => False
  | .service _ => False
  | _ => True

instance : DecidablePred Command.Simple := fun command => by
  unfold Command.Simple
  split <;> infer_instance

/-- The move is not made of other moves. It may reach into the station in any way. -/
def Move.Simple : Move → Prop
  | .arrange command => command.Simple
  | _ => True

instance : DecidablePred Move.Simple
  | .arrange command => inferInstanceAs (Decidable command.Simple)
  | .ask .. | .look _ | .giveUp _ | .wait _ | .service | .pump | .turnPage =>
    inferInstanceAs (Decidable True)

/-- A move that leaves the registers to the operations is simple. -/
theorem Move.HandsOff.simple {move : Move} (h : move.HandsOff) : move.Simple := by
  cases move with
  | arrange command =>
    cases command with
    | perform => exact absurd h id
    | rounds => exact absurd h id
    | cancel => exact absurd h id
    | service => exact absurd h id
    | _ => trivial
  | _ => trivial

/-- A regular move leaves the registers to the operations. -/
theorem Move.Regular.handsOff {move : Move} (h : move.Regular) : move.HandsOff := by
  cases move with
  | arrange command =>
    cases command with
    | schedule => trivial
    | setAir => trivial
    | putUpScanner => trivial
    | setSilent => trivial
    | report => trivial
    | _ => exact absurd h id
  | _ => trivial

/-! ## Beside the operations -/

/-- One change of the station that no operation makes while it has the lock. The last kind needs
permission: it reaches into the registers. -/
inductive Station.Aside (permitted : Prop) (s : Station) : Station → Prop
  /-- Time, the log, the lock, the scanners, the front end, and what surrounds the radio. -/
  | surroundings (clock : Nat) (journal : List Notice) (locked : Bool) (scanners : Pool Scanner)
      (frontEnd : Option FrontEnd) (air : Air) :
      Aside permitted s { s with
        clock := clock
        journal := journal
        locked := locked
        scanners := scanners
        frontEnd := frontEnd
        radio := { s.radio with air := air } }
  /-- One more packet. -/
  | addBuffer (packet : Packet) : Aside permitted s { s with buffers := (s.buffers.add packet).1 }
  /-- The buffers of a job that is over are handed back. -/
  | releaseBuffers : Aside permitted s s.releaseBuffers
  /-- A look whether the radio is off. -/
  | settle : Aside permitted s (s.onRadio Radio.settle)
  /-- A step of the radio. -/
  | serviceRadio : Aside permitted s s.serviceRadio
  /-- A run of the interrupt handler. -/
  | handleInterrupt : Aside permitted s s.handleInterrupt
  /-- Any other change of the radio. -/
  | access (f : Radio → Radio) (may : permitted) : Aside permitted s (s.onRadio f)

/-- What happens beside the operations leaves the link alone. -/
theorem Station.Aside.link {permitted : Prop} {s t : Station} (beside : s.Aside permitted t) :
    t.link = s.link := by
  cases beside with
  | surroundings => rfl
  | addBuffer packet => rfl
  | releaseBuffers =>
    unfold Station.releaseBuffers
    split <;> rfl
  | settle => rfl
  | serviceRadio => exact s.link_serviceRadio
  | handleInterrupt => exact s.handleInterrupt_spares.2.2
  | access f may => rfl

/-! ## Guards -/

/-- What holds of a station while its lock is free, and while an activity has it. -/
structure Guard where
  /-- Nobody has the lock. -/
  free : Station → Prop
  /-- The activity has the lock. -/
  held : Activity → Station → Prop

namespace Guard

variable {g : Guard} {permitted : Prop} {s t : Station} {holder : Option Activity}
  {activity : Activity} {b bench : Bench} {move : Move}

/-- What holds while the given activity has the lock, or nobody does. -/
def Holds (g : Guard) (holder : Option Activity) (s : Station) : Prop :=
  match holder with
  | none => s.locked = false ∧ g.free s
  | some activity => s.locked = true ∧ activity.holdsLock = true ∧ g.held activity s

/-- What a look leaves: the operation keeps the lock, or gives it back. -/
def Leaves (g : Guard) (found : Station × Progress) : Prop :=
  found.2.Meets (fun activity => activity.holdsLock = true ∧ g.held activity found.1)
    fun _ => g.free found.1

/-- **The guard is kept** by every operation, from its start to its end, and by what happens beside
the operations. -/
structure Kept (permitted : Prop) (g : Guard) : Prop where
  start : ∀ {s request}, g.free s → request.answer? = none → request.needsLock = true →
    g.Leaves (s.start request)
  checkSend : ∀ {s f purpose}, g.held (.sending f purpose) s → g.Leaves (s.checkSend f purpose)
  checkSwitch : ∀ {s t}, g.held (.switching t) s → g.Leaves (Station.ofSwitch (s.checkSwitch t))
  checkMeasurement : ∀ {s m}, g.held (.measuring m) s →
    g.Leaves (Station.ofMeasurement (s.checkMeasurement m))
  checkListening : ∀ {s l}, g.held (.listening l) s →
    g.Leaves (Station.ofListening (s.checkListening l))
  drop : ∀ {s activity}, activity.holdsLock = true → g.held activity s → g.free (activity.drop s)
  free_aside : ∀ {s t}, s.Aside permitted t → g.free s → g.free t
  held_aside : ∀ {s t activity}, s.Aside permitted t → g.held activity s → g.held activity t

/-! ### One station -/

/-- What happens beside the operations keeps the guard, as long as it leaves the lock alone. -/
theorem Kept.aside (kept : g.Kept permitted) (beside : s.Aside permitted t)
    (locked : t.locked = s.locked) (h : g.Holds holder s) : g.Holds holder t := by
  cases holder with
  | none => exact ⟨locked.trans h.1, kept.free_aside beside h.2⟩
  | some activity => exact ⟨locked.trans h.1, h.2.1, kept.held_aside beside h.2.2⟩

/-- Time, the log, the scanners, the front end and what surrounds the radio. -/
theorem Kept.surroundings (kept : g.Kept permitted) (h : g.Holds holder s) (clock : Nat)
    (journal : List Notice) (scanners : Pool Scanner) (frontEnd : Option FrontEnd) (air : Air) :
    g.Holds holder { s with
      clock := clock
      journal := journal
      scanners := scanners
      frontEnd := frontEnd
      radio := { s.radio with air := air } } :=
  kept.aside (.surroundings clock journal s.locked scanners frontEnd air) rfl h

/-- An activity of any kind leaves the guard if the guard holds however its look went. -/
theorem leaves_asProgress {ω α : Type} {name : ω → Activity} (result : α → Result)
    {found : Station × Look ω α} (free : g.free found.1)
    (waits : ∀ w, (name w).holdsLock = true ∧ g.held (name w) found.1) :
    g.Leaves (Station.asProgress name result found) := by
  obtain ⟨t, w | a⟩ := found
  · exact waits w
  · exact free

/-- What a look leaves decides who has the lock. -/
theorem Kept.withLock (kept : g.Kept permitted) {found : Station × Progress}
    (h : g.Leaves found) :
    g.Holds (Progress.holder (Station.withLock found).2) (Station.withLock found).1 := by
  obtain ⟨t, activity | result⟩ := found
  · obtain ⟨holds, held⟩ := h
    simp only [Station.withLock, Progress.holder, Progress.holdsLock, holds, if_true]
    exact ⟨rfl, holds, kept.held_aside (.surroundings t.clock t.journal true t.scanners t.frontEnd
      t.radio.air) held⟩
  · exact ⟨rfl, kept.free_aside (.surroundings t.clock t.journal false t.scanners t.frontEnd
      t.radio.air) h⟩

/-- **A look at the activity that has the lock.** -/
theorem Kept.poll_holding (kept : g.Kept permitted) (h : g.Holds (some activity) s) :
    g.Holds (Progress.holder (activity.poll s).2) (activity.poll s).1 := by
  obtain ⟨-, holds, held⟩ := h
  cases activity with
  | queued request => exact absurd holds (by simp [Activity.holdsLock])
  | testing t => exact absurd holds (by simp [Activity.holdsLock])
  | sending f purpose => exact kept.withLock (kept.checkSend held)
  | switching t => exact kept.withLock (kept.checkSwitch held)
  | measuring m => exact kept.withLock (kept.checkMeasurement held)
  | listening l => exact kept.withLock (kept.checkListening held)

/-- **A look at an activity that does not have the lock** keeps the guard, unless the lock is free
and the activity takes it. -/
theorem Kept.poll_other (kept : g.Kept permitted) (h : g.Holds holder s)
    (other : activity.holdsLock = false) :
    (Progress.holder (activity.poll s).2 = none ∧ g.Holds holder (activity.poll s).1) ∨
      holder = none ∧ g.Holds (Progress.holder (activity.poll s).2) (activity.poll s).1 := by
  cases activity with
  | queued request =>
    cases decided : request.answer? with
    | some result =>
      rw [Activity.poll_queued_of_answer? decided]
      exact .inl ⟨rfl, h⟩
    | none =>
      cases needs : request.needsLock with
      | true =>
        cases holder with
        | none =>
          -- the only look that may take the lock
          rw [Activity.poll_queued_of_free h.1 decided needs]
          exact .inr ⟨rfl, kept.withLock (kept.start h.2 decided needs)⟩
        | some activity =>
          rw [Activity.poll_queued_of_locked h.1 decided needs]
          exact .inl ⟨rfl, h⟩
      | false =>
        cases request with
        | testAmplifiers => exact .inl ⟨rfl, kept.surroundings h _ _ _ _ _⟩
        | _ => exact absurd needs (by simp [Request.needsLock])
  | testing test =>
    cases test with
    | power deadline =>
      show Progress.holder (Station.ofAmplifierTest (ite _ _ _)).2 = none ∧
        g.Holds holder (Station.ofAmplifierTest (ite _ _ _)).1 ∨ _
      split
      · exact .inl ⟨rfl, kept.surroundings h _ _ _ _ _⟩
      · exact .inl ⟨rfl, h⟩
    | lowNoise pa deadline =>
      show Progress.holder (Station.ofAmplifierTest (ite _ _ _)).2 = none ∧
        g.Holds holder (Station.ofAmplifierTest (ite _ _ _)).1 ∨ _
      split
      · exact .inl ⟨rfl, kept.surroundings h _ _ _ _ _⟩
      · exact .inl ⟨rfl, h⟩
  | _ => exact absurd other (by simp [Activity.holdsLock])

/-- Buffers are handed back. -/
theorem Kept.releaseBuffers (kept : g.Kept permitted) (h : g.Holds holder s) :
    g.Holds holder s.releaseBuffers :=
  kept.aside .releaseBuffers s.releaseBuffers_locked h

/-- The guard passes from an activity to its job. -/
theorem Kept.poll_job (kept : g.Kept permitted) {job : Job}
    (h : g.Holds holder (job.activity.poll s).1) : g.Holds holder (job.poll s).1 := by
  rw [Job.poll_eq]
  rcases found : job.activity.poll s with ⟨t, activity | result⟩
  · rw [found] at h
    exact h
  · rw [found] at h
    exact kept.releaseBuffers h

end Guard

/-! ## All jobs -/

/-- At most one job has the lock, and the guard holds. -/
def Bench.GuardedBy (g : Guard) (b : Bench) : Prop :=
  ∃ holder, Job.holders b.jobs = holder.toList ∧ g.Holds holder b.station

/-- A command that is not made of other moves has no job. -/
theorem Bench.execute_jobs_of_simple {b : Bench} {command : Command} (simple : command.Simple) :
    (b.execute command).1.jobs = b.jobs := by
  cases command with
  | perform => exact absurd simple id
  | rounds => exact absurd simple id
  | cancel => exact absurd simple id
  | service => exact absurd simple id
  | putUpScanner heard =>
    unfold Bench.execute
    dsimp only
    split <;> rfl
  | _ => rfl

namespace Bench.GuardedBy

variable {g : Guard} {b : Bench} {job other : Job}

/-- The guard holds for a job that has the lock. -/
theorem held (h : b.GuardedBy g) (member : job ∈ b.jobs) (holds : job.activity.holdsLock = true) :
    g.held job.activity b.station := by
  obtain ⟨holder, all, guard⟩ := h
  obtain rfl := Job.holder_eq all member holds
  exact guard.2.2

/-- What follows from the guard whoever has the lock. -/
theorem elim {p : Station → Prop} (h : b.GuardedBy g) (free : ∀ {s}, g.free s → p s)
    (held : ∀ {activity s}, g.held activity s → p s) : p b.station := by
  obtain ⟨holder, -, holds⟩ := h
  cases holder with
  | none => exact free holds.2
  | some activity => exact held holds.2.2

/-- Two jobs that have the lock are doing the same. -/
theorem activity_eq (h : b.GuardedBy g) (member : job ∈ b.jobs) (member' : other ∈ b.jobs)
    (holds : job.activity.holdsLock = true) (holds' : other.activity.holdsLock = true) :
    job.activity = other.activity := by
  obtain ⟨holder, all, -⟩ := h
  exact Option.some.inj
    ((Job.holder_eq all member holds).symm.trans (Job.holder_eq all member' holds'))

end Bench.GuardedBy

namespace Guard.Kept

open Bench

variable {g : Guard} {permitted : Prop} {b bench : Bench} {move : Move}

/-- The same jobs on another station. -/
theorem replace (h : b.GuardedBy g) (jobs : bench.jobs = b.jobs)
    (still : ∀ holder, g.Holds holder b.station → g.Holds holder bench.station) :
    bench.GuardedBy g := by
  obtain ⟨holder, all, holds⟩ := h
  exact ⟨holder, by rw [jobs]; exact all, still holder holds⟩

/-- What is guarded stays so when an operation is looked at. -/
theorem lookAt (kept : g.Kept permitted) (h : b.GuardedBy g) (position : Nat) :
    (b.lookAt position).GuardedBy g := by
  cases found : b.jobs[position]? with
  | none =>
    rw [lookAt_of_none found]
    exact h
  | some job =>
    -- the holder is the job, and the look decides who has the lock next, or it is somebody else
    obtain ⟨before, later, jobs, rfl⟩ := exists_split found
    obtain ⟨station', jobs'⟩ := lookAt_split jobs
    obtain ⟨holder, all, holds⟩ := h
    rw [jobs, Job.holders_append, ← List.singleton_append, Job.holders_append] at all
    unfold Bench.GuardedBy
    rw [jobs', station', Job.holders_append, Job.holders_append]
    refine Job.exists_holder_poll all ?_ ?_
    · rintro rfl
      exact kept.poll_job (kept.poll_holding holds)
    · intro other
      exact (kept.poll_other holds other).imp (fun waits => ⟨waits.1, kept.poll_job waits.2⟩)
        fun takes => ⟨takes.1, kept.poll_job takes.2⟩

/-- It stays so when an operation is given up. -/
theorem giveUp (kept : g.Kept permitted) (h : b.GuardedBy g) (position : Nat) :
    (b.giveUp position).GuardedBy g := by
  cases found : b.jobs[position]? with
  | none =>
    rw [giveUp_of_none found]
    exact h
  | some job =>
    obtain ⟨before, later, jobs, rfl⟩ := exists_split found
    obtain ⟨station', jobs'⟩ := giveUp_split jobs
    obtain ⟨holder, all, holds⟩ := h
    rw [jobs, Job.holders_append, ← List.singleton_append, Job.holders_append] at all
    unfold Bench.GuardedBy
    rw [jobs', station', Job.holders_append]
    refine Job.exists_holder_drop all ?_ ?_
    · rintro rfl
      obtain ⟨-, holds, held⟩ := holds
      -- whoever has the lock gives it back when it is given up
      have unlocked : (job.activity.drop b.station).locked = false := by
        cases activity : job.activity with
        | queued => rw [activity] at holds; exact absurd holds (by simp [Activity.holdsLock])
        | testing => rw [activity] at holds; exact absurd holds (by simp [Activity.holdsLock])
        | _ => rfl
      have given : g.Holds none (job.activity.drop b.station) := ⟨unlocked, kept.drop holds held⟩
      exact kept.releaseBuffers given
    · intro other
      have unchanged : job.activity.drop b.station = b.station := by
        cases activity : job.activity with
        | queued => rfl
        | testing => rfl
        | _ => rw [activity] at other; exact absurd other (by simp [Activity.holdsLock])
      unfold Job.drop
      rw [unchanged]
      exact kept.releaseBuffers holds

/-- An operation that is asked for waits. -/
theorem enlist (kept : g.Kept permitted) (h : b.GuardedBy g) (label : Option String) (work : Work) :
    (b.enlist label work).GuardedBy g := by
  have waits : Job.holders (b.enlist label work).jobs = Job.holders b.jobs := by
    cases work <;> simp [Bench.enlist, Job.holders, Activity.holdsLock]
  obtain ⟨holder, all, holds⟩ := h
  refine ⟨holder, waits.trans all, ?_⟩
  cases work with
  | request request => exact holds
  | send packet ack =>
    have first := kept.aside (.addBuffer packet) rfl holds
    have both := kept.aside (.addBuffer ack) rfl first
    exact both
  | scanPresence channel window =>
    obtain ⟨scanners, found⟩ := b.station.currentScanner_fst
    show g.Holds holder b.station.currentScanner.1
    rw [found]
    exact kept.surroundings holds _ _ scanners _ _

/-- Looks whether the radio is off. The induction is on the number of looks. -/
theorem pollDisabledTimes (kept : g.Kept permitted) {s : Station} {holder : Option Activity}
    (h : g.Holds holder s) (n : Nat) : g.Holds holder (s.pollDisabledTimes n).1 := by
  induction n generalizing s with
  | zero => exact h
  | succ n ih => exact ih (kept.aside .settle rfl h)

/-- A step of the radio with the interrupt handled after it. -/
theorem pump (kept : g.Kept permitted) {s : Station} {holder : Option Activity}
    (h : g.Holds holder s) : g.Holds holder s.pump.1 := by
  have served : g.Holds holder s.serviceRadio := kept.aside .serviceRadio s.serviceRadio_locked h
  unfold Station.pump
  dsimp only
  split
  · exact served
  · split
    · exact kept.aside .handleInterrupt (Station.handleInterrupt_locked _) served
    · exact served

/-- The clock and the radio of one round. -/
theorem advance (kept : g.Kept permitted) (h : b.GuardedBy g) (pumped : Bool) :
    (b.advance pumped).1.GuardedBy g := by
  cases pumped with
  | false => exact replace h rfl fun _ holds => kept.surroundings holds _ _ _ _ _
  | true =>
    exact replace h rfl fun _ holds => kept.pump (kept.surroundings holds _ _ _ _ _)

/-- A scanner is looked for or put up. -/
theorem currentScanner (kept : g.Kept permitted) {s : Station} {holder : Option Activity}
    (h : g.Holds holder s) : g.Holds holder s.currentScanner.1 := by
  obtain ⟨scanners, found⟩ := s.currentScanner_fst
  rw [found]
  exact kept.surroundings h _ _ scanners _ _

/-- A command that is not made of other moves. -/
theorem execute (kept : g.Kept permitted) (h : b.GuardedBy g) {command : Command}
    (simple : command.Simple) (allowed : permitted ∨ command.HandsOff) :
    (b.execute command).1.GuardedBy g := by
  cases command with
  | perform => exact absurd simple id
  | rounds => exact absurd simple id
  | cancel => exact absurd simple id
  | service => exact absurd simple id
  | listModes => exact h
  | readHistory => exact h
  | readPacket => exact h
  | schedule responses => exact replace h rfl fun _ holds => kept.surroundings holds _ _ _ _ _
  | setAir setting => exact replace h rfl fun _ holds => kept.surroundings holds _ _ _ _ _
  | putUpScanner heard =>
    unfold Bench.execute
    dsimp only
    split
    · exact replace h rfl fun _ holds => kept.surroundings holds _ _ _ _ _
    · exact h
  | setSilent on =>
    exact replace h rfl fun _ holds => kept.surroundings (kept.currentScanner holds) _ _ _ _ _
  | report report =>
    refine replace h rfl fun holder holds => ?_
    have current := kept.currentScanner holds
    show g.Holds holder (b.station.currentScanner.1.report b.station.currentScanner.2 report)
    unfold Station.report
    split
    · exact kept.surroundings current _ _ _ _ _
    · exact kept.surroundings current _ _ _ _ _
  | handleInterrupt =>
    exact replace h rfl fun _ holds =>
      kept.aside .handleInterrupt (Station.handleInterrupt_locked _) holds
  | pollDisabled n => exact replace h rfl fun _ holds => kept.pollDisabledTimes holds n
  | accessFrontEnd access =>
    exact replace h rfl fun _ holds => kept.surroundings holds _ _ _ _ _
  | accessRadio access =>
    -- to reach into the registers by hand is the one thing that needs permission
    have may : permitted := allowed.resolve_right id
    exact replace h rfl fun _ holds => kept.aside (.access _ may) rfl holds
  | setPacket packet =>
    have may : permitted := allowed.resolve_right id
    exact replace h rfl fun _ holds =>
      kept.aside (.access _ may) rfl (kept.aside (.addBuffer packet) rfl holds)

/-- **What one move preserves.** -/
theorem make (kept : g.Kept permitted) (h : b.GuardedBy g) (simple : move.Simple)
    (allowed : permitted ∨ move.HandsOff) : (b.make move).GuardedBy g := by
  cases move with
  | ask label work => exact kept.enlist h label work
  | look position => exact kept.lookAt h position
  | giveUp position => exact kept.giveUp h position
  | wait time => exact replace h rfl fun _ holds => kept.surroundings holds _ _ _ _ _
  | service =>
    exact replace h rfl fun _ holds =>
      kept.aside .serviceRadio (Station.serviceRadio_locked _) holds
  | pump => exact replace h rfl fun _ holds => kept.pump holds
  | turnPage => exact replace h rfl fun _ holds => kept.surroundings holds _ _ _ _ _
  | arrange command => exact kept.execute h simple allowed

/-- **What a run preserves.** The induction is on the moves. -/
theorem after (kept : g.Kept permitted) (h : b.GuardedBy g) (moves : List Move)
    (simple : ∀ move ∈ moves, move.Simple) (allowed : ∀ move ∈ moves, permitted ∨ move.HandsOff) :
    (b.after moves).GuardedBy g := by
  induction moves generalizing b with
  | nil => exact h
  | cons move moves ih =>
    rw [after_cons]
    exact ih (kept.make h (simple move (by simp)) (allowed move (by simp)))
      (fun m member => simple m (by simp [member])) fun m member => allowed m (by simp [member])

end Guard.Kept

end BurstLink
