import BurstLink.Proofs.Configuration.Bounds
import BurstLink.Proofs.Packets.Bench

/-! # The configuration stays in range

Whatever operations are asked for, with whatever arguments, and wherever they are given up, the
stored configuration is in range. So the number of attempts of a send is, too: whoever counts the
exchanges of each send along a run never counts more than sixteen.

Main definitions:

* **`Activity.repeats`** — a look starts the exchange of a send once more.
* **`Bench.tally`** — the exchanges of each send, counted along a run.
* **`Station.Configures`** — what becomes of a request for another configuration.

Main statement: `Station.AtStartUp.inRange_of_run`. -/

namespace BurstLink

/-! ## Exchanges of one send -/

/-- A look starts the exchange of the send in progress once more: it finds that one complete, and
the send is not over. -/
def Activity.repeats (activity : Activity) (s : Station) : Bool :=
  match activity with
  | .sending f _ => s.completed && (s.checkFlight f).2.isWaiting
  | _ => false

namespace Activity

open Station

variable {activity : Activity} {s t : Station}

/-- What a look at an activity does to the number of its exchanges. -/
inductive Attempts (activity : Activity) (s : Station) : Progress → Prop
  /-- A send starts its first exchange. -/
  | first {f : Flight} {purpose : Purpose} (passed : activity.admits s = true)
      (fresh : f.retries = 0) : Attempts activity s (.waiting (.sending f purpose))
  /-- The send in progress starts one more. -/
  | again {f f' : Flight} {purpose : Purpose} (was : activity = .sending f purpose)
      (refused : activity.admits s = false) (repeated : activity.repeats s = true)
      (next : f'.retries = f.retries + 1) : Attempts activity s (.waiting (.sending f' purpose))
  /-- None is started. -/
  | none {progress : Progress} (refused : activity.admits s = false)
      (unrepeated : activity.repeats s = false)
      (goesOn : ∀ f purpose, progress = .waiting (.sending f purpose) →
        activity = .sending f purpose) : Attempts activity s progress

/-- A request that is no send does not go on as one. -/
theorem sends_of_start {request : Request} (silent : (queued request).sends = false)
    {rest : Activity} (goesOn : (s.start request).2 = .waiting rest) : rest.sends = false := by
  cases request with
  | testAmplifiers => exact sends_of_asProgress _ _ _ (fun _ => rfl) rest goesOn
  | send => exact absurd silent (by simp [sends])
  | _ => exact (spares_start (by exact trivial) silent s).2 rest goesOn

/-- Something that goes on without a packet to send starts no exchange. -/
theorem attempts_of_silent {progress : Progress} (refused : activity.admits s = false)
    (unrepeated : activity.repeats s = false)
    (goesOn : ∀ rest, progress = .waiting rest → rest.sends = false) :
    activity.Attempts s progress :=
  .none refused unrepeated fun _ _ same => absurd (goesOn _ same) (by simp [sends])

/-- A send that starts, on a station that has its buffers. -/
theorem attempts_startSend {packet ack : Buffer} (unrepeated : activity.repeats s = false)
    (checked : activity.admits s = t.admits packet) (withAck : Bool) :
    activity.Attempts s (t.startSend packet ack withAck).2 := by
  unfold startSend
  rcases t.launch_cases packet ack with
    ⟨failure, launched, refused⟩ | ⟨u, launched, -, refused⟩ | ⟨u, launched, -, passed⟩
  · rw [launched]
    exact attempts_of_silent (checked.trans refused) unrepeated fun rest goesOn => by cases goesOn
  · rw [launched]
    exact attempts_of_silent (checked.trans refused) unrepeated fun rest goesOn => by cases goesOn
  · rw [launched]
    exact .first (checked.trans passed) rfl

/-- A scan that tries the channels that are left. -/
theorem attempts_scan {found : Station × ScanLook} {packet ack : Buffer} {left : List UInt8}
    (unrepeated : activity.repeats s = false)
    (checked : activity.admits s = t.scanAdmits packet ack left)
    (cases : (∃ u result, found = (u, .finished result) ∧ t.Spares u ∧
        t.scanAdmits packet ack left = false) ∨
      ∃ u scan, found = ((u.takeOff packet ack).1, .waiting ((u.takeOff packet ack).2, scan)) ∧
        t.Spares u ∧ t.scanAdmits packet ack left = true) :
    activity.Attempts s (ofScan found).2 := by
  rcases cases with ⟨u, result, rfl, -, refused⟩ | ⟨u, scan, rfl, -, passed⟩
  · exact attempts_of_silent (checked.trans refused) unrepeated fun rest goesOn => by cases goesOn
  · exact .first (checked.trans passed) rfl

/-- A request that starts. -/
theorem attempts_start {request : Request} (undecided : request.answer? = Option.none)
    (free : s.locked = false) : (queued request).Attempts s (s.start request).2 := by
  have checked : (queued request).admits s = s.startAdmits request := by
    simp [admits, undecided, free]
  by_cases silent : (queued request).sends = false
  · refine attempts_of_silent (checked.trans ?_) rfl fun rest goesOn => sends_of_start silent goesOn
    cases request with
    | send => exact absurd silent (by simp [sends])
    | sendPayload => exact absurd silent (by simp [sends])
    | scanChannels => exact absurd silent (by simp [sends])
    | _ => rfl
  · cases request with
    | send packet ack => exact attempts_startSend rfl checked false
    | sendPayload bytes => exact attempts_startSend (t := s.withBytes bytes) rfl checked true
    | scanChannels first last bytes =>
      show (queued _).Attempts s (ofScan (s.startScan first last bytes)).2
      unfold startScan
      cases ready : s.ready with
      | error failure =>
        refine attempts_of_silent (checked.trans ?_) rfl fun rest goesOn => by cases goesOn
        simp [startAdmits, ready, Except.isOk, Except.toBool]
      | ok =>
        refine attempts_scan (t := s.withBytes bytes) rfl (checked.trans ?_) (scanOn_cases ..)
        simp [startAdmits, ready, Except.isOk, Except.toBool]
    | _ => exact absurd rfl silent

/-- A look at a send that finds its exchange complete starts the next one, or finds the result. -/
theorem retries_checkFlight {f f' : Flight} (done : s.completed = true)
    (goesOn : (s.checkFlight f).2 = .waiting f') : f'.retries = f.retries + 1 := by
  unfold checkFlight at goesOn
  rw [if_pos done] at goesOn
  dsimp only at goesOn
  split at goesOn
  · cases goesOn
  · split at goesOn
    · rw [← Look.waiting.inj goesOn]
      rfl
    · cases goesOn

/-- A send in progress. -/
theorem attempts_checkSend (f : Flight) (purpose : Purpose) :
    (sending f purpose).Attempts s (s.checkSend f purpose).2 := by
  have checked : (sending f purpose).admits s = s.checkAdmits f purpose := rfl
  have repeated : (sending f purpose).repeats s =
      (s.completed && (s.checkFlight f).2.isWaiting) := rfl
  unfold checkSend
  unfold checkAdmits at checked
  rcases found : s.checkFlight f with ⟨t, f' | result⟩
  · rw [found] at checked repeated
    cases done : s.completed with
    | true =>
      rw [done] at repeated
      have next : f'.retries = f.retries + 1 := retries_checkFlight done (by rw [found])
      exact .again rfl checked repeated next
    | false =>
      rw [done] at repeated
      refine .none checked repeated fun g purpose' same => ?_
      -- nothing has happened: the send is the one that it was
      have unchanged : f' = f := by
        unfold checkFlight at found
        rw [if_neg (by simp [done])] at found
        split at found
        · exact absurd (Prod.mk.inj found).2 (by simp)
        · exact (Look.waiting.inj (Prod.mk.inj found).2).symm
      rw [← unchanged]
      exact Look.waiting.inj same
  · rw [found] at checked repeated
    have over' : (sending f purpose).repeats s = false := by simp [repeated, Look.isWaiting]
    cases purpose with
    | single withAck =>
      exact attempts_of_silent checked over' fun rest goesOn => by cases goesOn
    | scan scan => exact attempts_scan over' checked (scoreScan_cases ..)

/-- **A look starts the first exchange of a send, one more of the send in progress, or none.** -/
theorem poll_attempts (activity : Activity) (s : Station) :
    activity.Attempts s (activity.poll s).2 := by
  cases activity with
  | queued request =>
    -- a request is answered without the radio, waits for the lock, or starts
    cases decided : request.answer? with
    | some result =>
      rw [poll_queued_of_answer? decided]
      exact attempts_of_silent (by simp [admits, decided]) rfl fun rest goesOn => by cases goesOn
    | none =>
      cases busy : s.locked with
      | true =>
        cases needs : request.needsLock with
        | true =>
          rw [poll_queued_of_locked busy decided needs]
          refine .none (by simp [admits, busy]) rfl fun f purpose goesOn => ?_
          exact Look.waiting.inj goesOn
        | false =>
          cases request with
          | testAmplifiers =>
            exact attempts_of_silent (by simp [admits, busy]) rfl
              (sends_of_asProgress _ _ _ fun _ => rfl)
          | _ => exact absurd needs (by simp [Request.needsLock])
      | false =>
        rw [poll_queued_snd_of_free busy decided]
        exact attempts_start decided busy
  | sending f purpose => exact attempts_checkSend f purpose
  | switching t => exact attempts_of_silent rfl rfl (sends_of_asProgress _ _ _ fun _ => rfl)
  | measuring m => exact attempts_of_silent rfl rfl (sends_of_asProgress _ _ _ fun _ => rfl)
  | listening l => exact attempts_of_silent rfl rfl (sends_of_asProgress _ _ _ fun _ => rfl)
  | testing t => exact attempts_of_silent rfl rfl (sends_of_asProgress _ _ _ fun _ => rfl)

end Activity

/-! ## Exchanges along a run -/

namespace Bench

/-- Counts one more exchange of the last send. -/
def countAgain : List Nat → List Nat
  | [] => []
  | n :: earlier => (n + 1) :: earlier

/-- The exchanges of each send, latest send first, counted on when a move is made. -/
def count (b : Bench) (move : Move) (counts : List Nat) : List Nat :=
  match move with
  | .look position =>
    match b.jobs[position]? with
    | none => counts
    | some job =>
      if job.activity.admits b.station then 1 :: counts
      else if job.activity.repeats b.station then countAgain counts
      else counts
  | _ => counts

/-- The exchanges of each send, counted along a run that starts on a bench. -/
def tally (b : Bench) (counts : List Nat) : List Move → List Nat
  | [] => counts
  | move :: moves => (b.make move).tally (b.count move counts) moves

/-- Every send that was counted has made between one and sixteen attempts, and the count of the send
in progress is the last one. -/
structure Tallied (b : Bench) (counts : List Nat) : Prop where
  guarded : b.GuardedBy .bounds
  within : ∀ n ∈ counts, 1 ≤ n ∧ n ≤ 16
  current : ∀ job ∈ b.jobs, ∀ f purpose, job.activity = .sending f purpose →
    counts.head? = some (f.retries + 1)

namespace Tallied

variable {b bench : Bench} {counts : List Nat} {move : Move}

/-- No send but those there were. -/
theorem fewer (h : b.Tallied counts) (guarded : bench.GuardedBy .bounds)
    (jobs : ∀ job ∈ bench.jobs, job ∈ b.jobs ∨ ∃ request, job.activity = .queued request) :
    bench.Tallied counts := by
  refine ⟨guarded, h.within, ?_⟩
  intro job member f purpose activity
  rcases jobs job member with old | ⟨request, waits⟩
  · exact h.current job old f purpose activity
  · exact absurd (waits.symm.trans activity) (by simp)

/-- After a look that leaves a job sending, that job is the only one that does, and the count of its
exchanges comes first. -/
theorem of_sending {before later : List Job} {job : Job} {f : Flight} {purpose : Purpose}
    (guarded : (b.lookAt before.length).GuardedBy .bounds)
    (jobs : (b.lookAt before.length).jobs =
      before ++ { job with activity := .sending f purpose } :: later)
    (within : ∀ n ∈ counts, 1 ≤ n ∧ n ≤ 16) :
    (b.lookAt before.length).Tallied ((f.retries + 1) :: counts) := by
  have looked : ({ job with activity := .sending f purpose } : Job) ∈
      (b.lookAt before.length).jobs := by simp [jobs]
  have bounded : f.Bounded := (guarded.held looked rfl).2.1
  refine ⟨guarded, ?_, ?_⟩
  · intro n member
    rcases List.mem_cons.mp member with rfl | old
    · exact ⟨Nat.le_add_left 1 _, Nat.le_trans bounded.2 bounded.1.attempts.2⟩
    · exact within n old
  · intro other member g purpose' activity
    have same := guarded.activity_eq member looked (by rw [activity]; rfl) rfl
    obtain ⟨rfl, -⟩ := Activity.sending.inj (activity.symm.trans same)
    rfl

/-- A look after which a job is over has started no exchange. -/
theorem of_ended (h : b.Tallied counts) {before later : List Job} {job : Job}
    (guarded : (b.lookAt before.length).GuardedBy .bounds) (jobs : b.jobs = before ++ job :: later)
    (ended : ∀ rest, (job.activity.poll b.station).2 ≠ .waiting rest)
    (left : (b.lookAt before.length).jobs = before ++ later) :
    (b.lookAt before.length).Tallied (b.count (.look before.length) counts) := by
  have found : b.jobs[before.length]? = some job := by simp [jobs]
  have attempts := job.activity.poll_attempts b.station
  -- a send that starts or is repeated would go on
  have uncounted : b.count (.look before.length) counts = counts := by
    simp only [count, found]
    generalize looked : (job.activity.poll b.station).2 = progress at attempts
    cases attempts with
    | first passed fresh => exact absurd looked (ended _)
    | again was refused repeated next => exact absurd looked (ended _)
    | none refused unrepeated goesOn => simp [refused, unrepeated]
  rw [uncounted]
  refine h.fewer guarded fun other member => .inl ?_
  rw [left] at member
  rw [jobs]
  exact mem_of_others member

/-- A look at a job. -/
theorem look (h : b.Tallied counts) (position : Nat) :
    (b.lookAt position).Tallied (b.count (.look position) counts) := by
  have guarded := Guard.bounds_kept.lookAt h.guarded position
  cases found : b.jobs[position]? with
  | none =>
    rw [lookAt_of_none found]
    have uncounted : b.count (.look position) counts = counts := by simp [count, found]
    rw [uncounted]
    exact h
  | some job =>
    obtain ⟨before, later, jobs, rfl⟩ := exists_split found
    obtain ⟨-, ⟨ended, left⟩ | ⟨rest, goesOn, stayed⟩⟩ := lookAt_job jobs
    · exact h.of_ended guarded jobs ended left
    · have attempts := job.activity.poll_attempts b.station
      rw [goesOn] at attempts
      cases attempts with
      | first passed fresh =>
        have counted : b.count (.look before.length) counts = 1 :: counts := by
          simp [count, found, passed]
        have tallied := of_sending guarded stayed h.within
        rw [fresh] at tallied
        rw [counted]
        exact tallied
      -- the attempt that is over is the last one counted; another one adds to it
      | @again f f' purpose was refused repeated next =>
        have last := h.current job (by simp [jobs]) f purpose was
        obtain ⟨n, earlier, rfl⟩ : ∃ n earlier, counts = n :: earlier :=
          List.ne_nil_iff_exists_cons.mp fun empty => by simp [empty] at last
        obtain rfl : n = f.retries + 1 := Option.some.inj last
        have counted : b.count (.look before.length) ((f.retries + 1) :: earlier) =
            (f'.retries + 1) :: earlier := by
          simp [count, found, refused, repeated, countAgain, next]
        rw [counted]
        exact of_sending guarded stayed fun n old => h.within n (by simp [old])
      | none refused unrepeated stays =>
        have uncounted : b.count (.look before.length) counts = counts := by
          simp [count, found, refused, unrepeated]
        rw [uncounted]
        refine ⟨guarded, h.within, ?_⟩
        intro other member g purpose' activity
        rw [stayed] at member
        rcases mem_exchange member with rfl | old
        · have was := stays g purpose' (congrArg Look.waiting activity)
          exact h.current job (by simp [jobs]) g purpose' was
        · exact h.current other (jobs ▸ mem_of_others old) g purpose' activity

/-- **What one move preserves.** -/
theorem make (h : b.Tallied counts) (simple : move.Simple) :
    (b.make move).Tallied (b.count move counts) := by
  have guarded := Guard.bounds_kept.make h.guarded simple (.inl trivial)
  cases move with
  | look position => exact h.look position
  -- what has been asked for has not tried to send yet
  | ask label work =>
    refine h.fewer guarded fun job member => ?_
    cases work with
    | request request =>
      exact (List.mem_append.mp member).imp id fun new => ⟨_, by rw [List.mem_singleton.mp new]⟩
    | send packet ack =>
      exact (List.mem_append.mp member).imp id fun new => ⟨_, by rw [List.mem_singleton.mp new]⟩
    | scanPresence channel window =>
      exact (List.mem_append.mp member).imp id fun new => ⟨_, by rw [List.mem_singleton.mp new]⟩
  | giveUp position =>
    refine h.fewer guarded fun job member => .inl ?_
    cases found : b.jobs[position]? with
    | none => exact giveUp_of_none found ▸ member
    | some given =>
      obtain ⟨before, later, jobs, rfl⟩ := exists_split found
      have left : job ∈ before ++ later := (giveUp_split jobs).2 ▸ member
      rw [jobs]
      exact mem_of_others left
  | arrange command =>
    have jobs : (b.execute command).1.jobs = b.jobs := execute_jobs_of_simple simple
    exact h.fewer guarded fun job member => .inl (jobs ▸ member)
  | _ => exact h.fewer guarded fun job member => .inl member

/-- **What a run preserves.** The induction is on the moves. -/
theorem after (h : b.Tallied counts) (moves : List Move) (simple : ∀ move ∈ moves, move.Simple) :
    (b.after moves).Tallied (b.tally counts moves) := by
  induction moves generalizing b counts with
  | nil => exact h
  | cons move moves ih =>
    exact ih (h.make (simple move (by simp))) fun m member => simple m (by simp [member])

/-- At start-up nothing has been sent. -/
theorem startUp {s : Station} (start : s.AtStartUp) : (ofStation s).Tallied [] := by
  have standard : LinkConfig.standard.InRange :=
    LinkConfig.validate_eq_ok_iff.mp LinkConfig.validate_standard
  obtain ⟨draws, rfl | rfl⟩ := start
  · exact ⟨⟨none, rfl, rfl, standard⟩, by simp, by simp [ofStation]⟩
  · exact ⟨⟨none, rfl, rfl, standard⟩, by simp, by simp [ofStation]⟩

end Tallied

end Bench

/-! ## The result -/

/-- What becomes of a request for a configuration: if that is out of range, the request is refused
at once, for the first bound that is violated; else it waits for the lock, and stores it. -/
structure Station.Configures (request : Request) (c : LinkConfig) (s : Station) : Prop where
  refused : ∀ reason later, c.violations = reason :: later →
    (Activity.queued request).poll s = (s, .finished (.error (.badRequest reason)))
  waits : c.InRange → s.locked = true →
    (Activity.queued request).poll s = (s, .waiting (.queued request))
  stored : c.InRange → s.locked = false → ∃ t,
    (Activity.queued request).poll s = (t, .finished (.ok .done)) ∧
      t.link = { s.link with config := c }

/-- **A request for a configuration is accepted exactly if the result is in range.** -/
theorem Station.configures {s : Station} (range : s.link.config.InRange) {request : Request}
    {c : LinkConfig} (asked : request.configured? s.link.config = some c) :
    s.Configures request c := by
  have decided := request.answer?_of_configured? range asked
  -- the request is refused exactly for a bound that the result violates
  have undecided : c.InRange → request.answer? = none := fun inRange => by
    rw [decided, LinkConfig.violations_eq_nil_iff.mpr inRange]
    rfl
  have needs : request.needsLock = true := by
    cases request with
    | configure => rfl
    | change => rfl
    | _ => exact absurd asked (by simp [Request.configured?])
  refine ⟨?_, ?_, ?_⟩
  · intro reason later violated
    rw [violated] at decided
    exact Activity.poll_queued_of_answer? decided s
  · intro inRange busy
    exact Activity.poll_queued_of_locked busy (undecided inRange) needs
  · intro inRange free
    rw [Activity.poll_queued_of_free free (undecided inRange) needs]
    cases request with
    | configure config =>
      obtain rfl : config = c := Option.some.inj asked
      exact ⟨_, rfl, link_storeConfig config s⟩
    | change change =>
      obtain rfl : change.apply s.link.config = c := Option.some.inj asked
      exact ⟨_, rfl, link_storeConfig _ s⟩
    | _ => exact absurd asked (by simp [Request.configured?])

/-- **The configuration stays in range.** After every run of operations with whatever arguments,
looked at and given up wherever, the stored configuration and that of the send in progress are in
range, so that one more than the retry count fits into a byte; every send makes between one and
sixteen attempts; and a request for another configuration is accepted exactly if the result is in
range, else refused for the first bound that it violates. -/
theorem Station.AtStartUp.inRange_of_run {s : Station} (start : s.AtStartUp) (moves : List Move)
    (simple : ∀ move ∈ moves, move.Simple) :
    let b := (Bench.ofStation s).after moves
    let c := b.station.link.config
    let counts := (Bench.ofStation s).tally [] moves
    (c.validate = .ok () ∧ c.InRange ∧ (c.arc + 1).toNat = c.arc.toNat + 1) ∧
      (∀ job ∈ b.jobs, ∀ f purpose, job.activity = .sending f purpose → f.config.InRange ∧
        (f.config.arc + 1).toNat = f.config.arc.toNat + 1 ∧
        counts.head? = some (f.retries + 1) ∧ f.retries + 1 ≤ f.config.attempts) ∧
      (∀ n ∈ counts, 1 ≤ n ∧ n ≤ 16) ∧
      ∀ request c', Request.configured? c request = some c' → b.station.Configures request c' := by
  intro b c counts
  have tallied : b.Tallied counts := (Bench.Tallied.startUp start).after moves simple
  have range : c.InRange :=
    tallied.guarded.elim (p := fun t => t.link.config.InRange) (fun free => free)
      fun held => held.1
  refine ⟨⟨LinkConfig.validate_eq_ok_iff.mpr range, range, range.arc_succ⟩, ?_, tallied.within,
    fun request c' asked => Station.configures range asked⟩
  intro job member f purpose activity
  have held := tallied.guarded.held member (by rw [activity]; rfl)
  rw [activity] at held
  obtain ⟨-, bounded, -⟩ := held
  exact ⟨bounded.1, bounded.1.arc_succ, tallied.current job member f purpose activity, bounded.2⟩

/-- A scan that is given up on its first channel leaves that channel configured; a send after it has
made two attempts when the run ends. -/
theorem Bench.inRange_of_scan_given_up :
    let moves : List Move := [.ask none (.request (.switchMode .link)), .look 0,
      .ask none (.request (.scanChannels 99 100 [1])), .look 0, .giveUp 0,
      .ask none (.request (.sendPayload [2])), .look 0, .pump, .pump, .pump, .wait 2000, .look 0]
    let b := (Bench.ofStation (.withFrontEnd .zeros)).after moves
    (∀ move ∈ moves, move.Simple) ∧ b.station.link.config.channel = 99 ∧
      (Bench.ofStation (.withFrontEnd .zeros)).tally [] moves = [2, 1] ∧
      b.station.link.config.InRange := by
  intro moves b
  have simple : ∀ move ∈ moves, move.Simple := by decide
  exact ⟨simple, by decide +kernel, by decide +kernel,
    (Station.AtStartUp.inRange_of_run ⟨.zeros, .inl rfl⟩ moves simple).1.2.1⟩

end BurstLink
