import BurstLink.Proofs.Packets.Bench
import BurstLink.Proofs.Rejection

/-! # The holder of the lock among other moves

One job at a time holds the lock. A move is a look at that job, or it has nothing to do with it: the
job is as it was before, and the station has changed by no more than the move does on its own. So
what holds of the holder needs an argument for its own looks, and one for each kind of move beside
it.

Main definitions:

* **`Activity.routine`** — what an operation is about, from the first look to the last.
* **`Request.Fares`** — how a look at a request that has not started turns out.
* **`Bench.Beside`** — the moves that are not about the holder, with the station they leave.
* **`Bench.Tends`** — what a move is to the activity that holds the lock after it.

Main statements: an operation that goes on does what it did (`Activity.routine_poll`), and
`Bench.Sound.tends_make`. -/

namespace BurstLink

/-! ## Operations stay what they are -/

/-- What an operation does once it holds the lock. -/
inductive Routine
  /-- It is answered at once. -/
  | answer
  /-- It sends. -/
  | send
  /-- It takes the link down. -/
  | switch
  /-- It measures the signal strength. -/
  | measure
  /-- It listens for devices. -/
  | listen
  /-- It tests the front end, without the lock. -/
  | test
  deriving DecidableEq

/-- What a request asks for. -/
def Request.routine : Request → Routine
  | .switchMode _ => .switch
  | .switchModeNamed _ => .switch
  | .send .. => .send
  | .sendPayload _ => .send
  | .scanChannels .. => .send
  | .measureRssi _ => .measure
  | .scanPresence .. => .listen
  | .testAmplifiers => .test
  | _ => .answer

/-- What an operation does between two looks, or is going to do. -/
def Activity.routine : Activity → Routine
  | .queued request => request.routine
  | .sending .. => .send
  | .switching _ => .switch
  | .measuring _ => .measure
  | .listening _ => .listen
  | .testing _ => .test

namespace Station

/-- What goes on under the name of an operation. -/
theorem exists_of_asProgress {ω α : Type} {activity : ω → Activity} {result : α → Result}
    {found : Station × Look ω α} {rest : Activity}
    (goesOn : (asProgress activity result found).2 = .waiting rest) :
    ∃ w, found.2 = .waiting w ∧ rest = activity w := by
  obtain ⟨t, w | a⟩ := found
  · exact ⟨w, rfl, (Look.waiting.inj goesOn).symm⟩
  · exact absurd goesOn (by simp [asProgress, Look.map])

/-- What goes on with the lock taken or given back. -/
theorem exists_of_withLock {ω α : Type} {activity : ω → Activity} {result : α → Result}
    {found : Station × Look ω α} {t : Station} {rest : Activity}
    (polled : withLock (asProgress activity result found) = (t, .waiting rest)) :
    ∃ u w, found = (u, .waiting w) ∧ rest = activity w ∧ t = u.setLocked rest.holdsLock := by
  obtain ⟨station, goesOn⟩ := Prod.mk.inj polled
  obtain ⟨w, waits, named⟩ := exists_of_asProgress goesOn
  rw [goesOn] at station
  exact ⟨found.1, w, Prod.ext rfl waits, named, station.symm⟩

/-- A routine under its own name. -/
theorem routine_of_asProgress {ω α : Type} {activity : ω → Activity} {result : α → Result}
    {found : Station × Look ω α} {rest : Activity} {routine : Routine}
    (goesOn : (asProgress activity result found).2 = .waiting rest)
    (named : ∀ w, (activity w).routine = routine) : rest.routine = routine := by
  obtain ⟨w, -, rfl⟩ := exists_of_asProgress goesOn
  exact named w

/-- A request that starts does what it was to do. -/
theorem routine_start {request : Request} {s : Station} {rest : Activity}
    (goesOn : (s.start request).2 = .waiting rest) : rest.routine = request.routine := by
  have sends : ∀ {t : Station} {packet ack : Buffer} {withAck : Bool},
      (t.startSend packet ack withAck).2 = .waiting rest → rest.routine = .send := by
    intro t packet ack withAck goesOn
    unfold startSend at goesOn
    split at goesOn
    · cases goesOn
    · cases goesOn
    · rw [← Look.waiting.inj goesOn]
      rfl
  cases request with
  | switchMode mode => exact routine_of_asProgress goesOn fun _ => rfl
  | switchModeNamed name =>
    unfold start at goesOn
    dsimp only at goesOn
    split at goesOn
    · exact routine_of_asProgress goesOn fun _ => rfl
    · cases goesOn
  | send packet ack => exact sends goesOn
  | sendPayload bytes => exact sends goesOn
  | scanChannels first last bytes => exact routine_of_asProgress goesOn fun _ => rfl
  | measureRssi channel => exact routine_of_asProgress goesOn fun _ => rfl
  | scanPresence scanner channel window => exact routine_of_asProgress goesOn fun _ => rfl
  | testAmplifiers => exact routine_of_asProgress goesOn fun _ => rfl
  | _ => cases goesOn

end Station

/-- A check that decides a request refuses it. -/
theorem Request.exists_of_refusal? {check : Except BadRequest Unit} {result : Result}
    (decided : refusal? check = some result) : ∃ reason, result = .error (.badRequest reason) := by
  unfold refusal? at decided
  split at decided
  · cases decided
  · exact ⟨_, (Option.some.inj decided).symm⟩

/-- How a look at a request that has not started turns out. -/
inductive Request.Fares (request : Request) (s : Station) : Station × Progress → Prop
  /-- Its arguments decide it. -/
  | decided {result : Result} (decided : request.answer? = some result) :
    Fares request s (s, .finished result)
  /-- It waits for the lock. -/
  | waits (busy : s.locked = true) : Fares request s (s, .waiting (.queued request))
  /-- It starts, and takes the lock unless it is over at once. -/
  | starts (free : s.locked = false) (undecided : request.answer? = none) :
    Fares request s (Station.withLock (s.start request))
  /-- The front-end test starts without the lock. -/
  | tests (unlocked : request = .testAmplifiers) : Fares request s (s.start request)

/-- **A look at a request that has not started turns out in one of these ways.** -/
theorem Activity.fares_poll (request : Request) (s : Station) :
    request.Fares s ((queued request).poll s) := by
  cases decided : request.answer? with
  | some result =>
    rw [poll_queued_of_answer? decided]
    exact .decided decided
  | none =>
    cases needs : request.needsLock with
    | false =>
      cases request with
      | testAmplifiers => exact .tests rfl
      | _ => exact absurd needs (by simp [Request.needsLock])
    | true =>
      cases busy : s.locked with
      | true =>
        rw [poll_queued_of_locked busy decided needs]
        exact .waits busy
      | false =>
        rw [poll_queued_of_free busy decided needs]
        exact .starts busy decided

/-- **An operation that goes on does what it did.** -/
theorem Activity.routine_poll {activity rest : Activity} {s : Station}
    (goesOn : (activity.poll s).2 = .waiting rest) : rest.routine = activity.routine := by
  cases activity with
  | queued request =>
    have fares := fares_poll request s
    generalize (queued request).poll s = found at fares goesOn
    cases fares with
    | decided => cases goesOn
    | waits => rw [← Look.waiting.inj goesOn]
    | starts => exact Station.routine_start goesOn
    | tests => exact Station.routine_start goesOn
  | sending f purpose =>
    have goesOn : (s.checkSend f purpose).2 = .waiting rest := goesOn
    unfold Station.checkSend at goesOn
    split at goesOn
    · rw [← Look.waiting.inj goesOn]
      rfl
    · split at goesOn
      · cases goesOn
      · exact Station.routine_of_asProgress goesOn fun _ => rfl
  | switching t => exact Station.routine_of_asProgress goesOn fun _ => rfl
  | measuring m => exact Station.routine_of_asProgress goesOn fun _ => rfl
  | listening l => exact Station.routine_of_asProgress goesOn fun _ => rfl
  | testing t => exact Station.routine_of_asProgress goesOn fun _ => rfl

/-! ## The holder and the others -/

namespace Bench

variable {b : Bench} {job other : Job} {before later : List Job} {move : Move}

/-- A move that is not about the holder of the lock, and the station after it. -/
inductive Beside (b : Bench) : Move → Station → Prop
  /-- Somebody else asks for an operation. -/
  | asked {label : Option String} {work : Work} {t : Station} (unchanged : b.station.Unchanged t) :
    Beside b (.ask label work) t
  /-- A look at a job that waits for the lock, or at none. -/
  | overlooked {position : Nat} {t : Station}
      (idle : ∀ job, b.jobs[position]? = some job → (∃ request, job.activity = .queued request) ∧
        Progress.holder (job.activity.poll b.station).2 = none)
      (unchanged : b.station.Unchanged t) : Beside b (.look position) t
  /-- A job that waits for the lock is given up, or none. -/
  | gaveUp {position : Nat} {t : Station} (unchanged : b.station.Unchanged t) :
    Beside b (.giveUp position) t
  /-- Time passes. -/
  | waited (time : Nat) :
    Beside b (.wait time) { b.station with clock := b.station.clock + time }
  /-- The radio makes a step. -/
  | served : Beside b .service b.station.serviceRadio
  /-- The radio makes a step, and its interrupt is handled. -/
  | pumped : Beside b .pump b.station.pump.1
  /-- The surroundings are arranged. -/
  | arranged {command : Command} (arranges : command.Arranges) :
    Beside b (.arrange command) (b.execute command).1.station
  /-- The log starts anew. -/
  | turned : Beside b .turnPage { b.station with journal := [] }

/-- What a move is to the activity that holds the lock after it. -/
inductive Tends (b : Bench) (activity : Activity) : Move → Station → Prop
  /-- It is a look at the job, which goes on with the activity. -/
  | looked {position : Nat} {job : Job} {t : Station} (found : b.jobs[position]? = some job)
      (polled : job.activity.poll b.station = (t, .waiting activity)) :
    Tends b activity (.look position) t
  /-- It is not about the job, which has had the activity before. -/
  | beside {move : Move} {t : Station} {job : Job} (member : job ∈ b.jobs)
      (same : job.activity = activity) (beside : b.Beside move t) : Tends b activity move t

/-- While a job holds the lock, every other one waits for it. -/
theorem Sound.queued_of_other (h : b.Sound True True) (jobs : b.jobs = before ++ job :: later)
    (among : other ∈ before ++ later) (holds : other.activity.holdsLock = true) :
    ∃ request, job.activity = .queued request := by
  have member : job ∈ b.jobs := by simp [jobs]
  refine Job.queued_of_not_holdsLock (h.regular job member) ?_
  cases mine : job.activity.holdsLock with
  | false => rfl
  | true =>
    -- the list of holders would have two entries
    obtain ⟨holder, all, -⟩ := h.custody
    rw [jobs, Job.holders_append, ← List.singleton_append, Job.holders_append] at all
    have single : Job.holders [job] = [job.activity] := by simp [Job.holders, mine]
    rw [single] at all
    obtain ⟨first, last, -⟩ := Job.eq_of_split all
    have listed : other.activity ∈ Job.holders (before ++ later) :=
      List.mem_filter.mpr ⟨List.mem_map_of_mem among, holds⟩
    rw [Job.holders_append, first, last] at listed
    exact absurd listed List.not_mem_nil

/-- A look at a job that waits for a lock that somebody holds changes nothing. -/
theorem Sound.unchanged_of_other (h : b.Sound True True) (jobs : b.jobs = before ++ job :: later)
    (among : other ∈ before ++ later) (holds : other.activity.holdsLock = true) :
    Progress.holder (job.activity.poll b.station).2 = none ∧
      b.station.Unchanged (job.poll b.station).1 ∧ b.station.Unchanged (job.drop b.station) := by
  obtain ⟨request, queued⟩ := h.queued_of_other jobs among holds
  have busy := (h.held (jobs ▸ mem_of_others among) holds).1
  have regular := h.regular job (by simp [jobs])
  rw [queued] at regular
  obtain ⟨same, free, -⟩ := Activity.poll_queued_busy busy regular
  refine ⟨by rw [queued]; exact free, ?_, ?_⟩
  · rw [Job.poll_eq, queued]
    rcases looked : (Activity.queued request).poll b.station with ⟨t, rest | result⟩
    · rw [looked] at same
      obtain rfl : t = b.station := same
      exact .refl _
    · rw [looked] at same
      obtain rfl : t = b.station := same
      exact Station.unchanged_releaseBuffers _
  · unfold Job.drop
    rw [queued]
    exact b.station.unchanged_releaseBuffers

/-- A look, and the job that holds the lock after it. -/
theorem Sound.tends_lookAt (h : b.Sound True True) {position : Nat}
    (member : job ∈ (b.lookAt position).jobs) (holds : job.activity.holdsLock = true) :
    b.Tends job.activity (.look position) (b.lookAt position).station := by
  cases found : b.jobs[position]? with
  | none =>
    rw [lookAt_of_none found] at member ⊢
    exact .beside member rfl (.overlooked (by simp [found]) (.refl _))
  | some looked =>
    obtain ⟨before, later, jobs, rfl⟩ := exists_split found
    obtain ⟨station, after⟩ := lookAt_job jobs
    -- a holder that is not the one that was looked at
    have others : job ∈ before ++ later →
        b.Tends job.activity (.look before.length) (b.lookAt before.length).station := by
      intro among
      obtain ⟨free, unchanged, -⟩ := h.unchanged_of_other jobs among holds
      have queued := h.queued_of_other jobs among holds
      rw [station]
      refine .beside (jobs ▸ mem_of_others among) rfl (.overlooked ?_ unchanged)
      intro job' found'
      obtain rfl : looked = job' := Option.some.inj (found.symm.trans found')
      exact ⟨queued, free⟩
    rcases after with ⟨-, left⟩ | ⟨rest, goesOn, stayed⟩
    · exact others (left ▸ member)
    · rw [stayed] at member
      rcases mem_exchange member with rfl | among
      · refine .looked found (Prod.ext ?_ goesOn)
        rw [station, Job.poll_eq]
        rcases polled : looked.activity.poll b.station with ⟨t, rest' | result⟩
        · rfl
        · rw [polled] at goesOn
          exact absurd goesOn (by simp)
      · exact others among

/-- Whoever asks for an operation does not hold the lock yet. -/
theorem mem_enlist {label : Option String} {work : Work}
    (member : job ∈ (b.enlist label work).jobs) (holds : job.activity.holdsLock = true) :
    job ∈ b.jobs := by
  have newcomer : ∃ request new, (b.enlist label work).jobs = b.jobs ++ [new] ∧
      new.activity = .queued request := by
    cases work with
    | request request => exact ⟨_, _, rfl, rfl⟩
    | send packet ack => exact ⟨_, _, rfl, rfl⟩
    | scanPresence channel window => exact ⟨_, _, rfl, rfl⟩
  obtain ⟨request, new, jobs, queued⟩ := newcomer
  rw [jobs] at member
  rcases List.mem_append.mp member with old | is
  · exact old
  · obtain rfl := List.mem_singleton.mp is
    rw [queued] at holds
    exact absurd holds (by simp [Activity.holdsLock])

/-- **A move is a look at the job that holds the lock after it, or it has nothing to do with that
job.** -/
theorem Sound.tends_make (h : b.Sound True True) (regular : move.Regular)
    (member : job ∈ (b.make move).jobs) (holds : job.activity.holdsLock = true) :
    b.Tends job.activity move (b.make move).station := by
  cases move with
  | look position => exact h.tends_lookAt member holds
  | wait time => exact .beside member rfl (.waited time)
  | service => exact .beside member rfl .served
  | pump => exact .beside member rfl .pumped
  | turnPage => exact .beside member rfl .turned
  | arrange command =>
    have jobs : (b.execute command).1.jobs = b.jobs := (execute_of_arranges regular).2.2
    exact .beside (jobs ▸ member) rfl (.arranged regular)
  | ask label work =>
    exact .beside (mem_enlist member holds) rfl (.asked (unchanged_enlist label work b))
  | giveUp position =>
    have member : job ∈ (b.giveUp position).jobs := member
    show b.Tends job.activity (.giveUp position) (b.giveUp position).station
    rcases b.giveUp_cases position with same | ⟨before, given, later, jobs, -, station, left⟩
    · rw [same] at member ⊢
      exact .beside member rfl (.gaveUp (.refl _))
    · rw [left] at member
      obtain ⟨-, -, unchanged⟩ := h.unchanged_of_other jobs member holds
      rw [station]
      exact .beside (jobs ▸ mem_of_others member) rfl (.gaveUp unchanged)

end Bench

end BurstLink
