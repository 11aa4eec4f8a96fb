import BurstLink.Proofs.Pacing.Course

/-! # The pacing of a send

While a send is in progress its driver lets time pass, lets the radio make steps, handles its
interrupts, and looks at the jobs, in any order and as often as it likes. None of this makes a
difference to the send: unless an exchange gets stuck, it ends with the same result and leaves the
same station behind, and only the clock tells how long it took.

Main definitions:

* **`Move.Drives`**, **`Bench.FreedBy`** — what the driver does, up to the move that ends a send.
* **`Bench.Underway`**, **`Bench.Ashore`** — a job on the course of its send, and at the end of it.
* **`Bench.leftAfter`** — the station as the last look leaves it, with all that the operation has
  pointed the radio at.
* **`Bench.EndAlike`** — two drivers have brought a job to the same end.

Main statement: `Bench.Reachable.endAlike_of_send`. -/

namespace BurstLink

/-- The request is a send of its own. -/
def Request.IsSend : Request → Prop
  | .send .. => True
  | .sendPayload _ => True
  | _ => False

/-- The move is one of the driver. -/
def Move.Drives : Move → Prop
  | .look _ => True
  | .wait _ => True
  | .service => True
  | .pump => True
  | _ => False

instance : DecidablePred Move.Drives := fun move => by
  unfold Move.Drives
  split <;> infer_instance

/-- What drives a send is a regular move. -/
theorem Move.Drives.regular {move : Move} (h : move.Drives) : move.Regular := by
  cases move with
  | look | wait | service | pump => trivial
  | _ => exact absurd h id

namespace Bench

/-- The driver makes the moves while the lock is taken, and frees it with the last one. -/
def FreedBy : List Move → Bench → Prop
  | [], b => b.station.locked = false
  | move :: moves, b => b.station.locked = true ∧ move.Drives ∧ FreedBy moves (b.make move)

instance decidableFreedBy : (moves : List Move) → (b : Bench) → Decidable (FreedBy moves b)
  | [], b => inferInstanceAs (Decidable (b.station.locked = false))
  | move :: moves, b =>
    have := decidableFreedBy moves (b.make move)
    inferInstanceAs (Decidable (_ ∧ _ ∧ _))

/-- So are all moves of a run that frees the link. -/
theorem FreedBy.regular {moves : List Move} {b : Bench} (run : b.FreedBy moves) :
    ∀ move ∈ moves, move.Regular := by
  induction moves generalizing b with
  | nil => simp
  | cons first moves ih =>
    intro move member
    rcases List.mem_cons.mp member with rfl | later
    · exact run.2.1.regular
    · exact ih run.2.2 move later

/-- The station as the operations leave it in a move: a look that ends one has not taken its buffers
back yet. -/
def leftBy (b : Bench) : Move → Station
  | .look position =>
    match b.jobs[position]? with
    | some job => (job.activity.poll b.station).1
    | none => b.station
  | move => (b.make move).station

/-- The station as the operations leave it in the last of some moves. -/
def leftAfter : List Move → Bench → Station
  | [], b => b.station
  | [move], b => b.leftBy move
  | move :: next :: moves, b => leftAfter (next :: moves) (b.make move)

/-- The last jobs that ended under the two runs have the given label. Unless one of them got stuck,
they ended with the same result and the same packets, and the stations differ in the clock alone. If
no other operation ended meanwhile, the stations differ in the clock alone even before the bench
takes the buffers back: the radio still points at the same packet. -/
def EndAlike (label : Option String) (b : Bench) (moves moves' : List Move) : Prop :=
  let c := b.after moves
  let c' := b.after moves'
  let left := b.leftAfter moves
  let left' := b.leftAfter moves'
  ∃ completion completion', c.ended.head? = some completion ∧
    c'.ended.head? = some completion' ∧ completion.label = label ∧ completion'.label = label ∧
    (completion.result ≠ .error .hardwareStuck → completion'.result ≠ .error .hardwareStuck →
      completion' = completion ∧ c'.station = { c.station with clock := c'.station.clock } ∧
      (c.ended.length = b.ended.length + 1 → c'.ended.length = b.ended.length + 1 →
        left' = { left with clock := left'.clock }))

variable {b c c' : Bench} {job other : Job} {withAck : Bool} {s u left left' : Station}
  {f g : Flight} {n : Nat} {result : Except Failure Outcome}

/-! ## A job on its course -/

/-- What a send of its own is answered with when it has come to its conclusion. -/
def conclusion (job : Job) (withAck : Bool) (ack : Buffer) (result : Except Failure Outcome)
    (u : Station) : Completion :=
  ⟨job.label, result.map fun outcome => u.replyToSend ack withAck outcome, job.packets u⟩

/-- The job sends, and its send has only moved on from the station `s` and the flight `f`. Only an
operation that ends can have the radio point elsewhere; `n` of them had ended before. -/
def Underway (job : Job) (withAck : Bool) (s : Station) (f : Flight) (n : Nat) (b : Bench) : Prop :=
  ∃ g, { job with activity := .sending g (.single withAck) } ∈ b.jobs ∧ g.ack = f.ack ∧
    n ≤ b.ended.length ∧ Station.MovesOn (n < b.ended.length) s f b.station g

/-- The job is over, and its last look left the station `left` behind: it got stuck, or its send has
come to the conclusion to which it was on course from the station `s` and the flight `f`, when `n`
operations had ended. -/
def Ashore (job : Job) (withAck : Bool) (s : Station) (f : Flight) (n : Nat) (left : Station)
    (b : Bench) : Prop :=
  b.station.locked = false ∧ ∃ completion, b.ended.head? = some completion ∧
    completion.label = job.label ∧ (completion.result ≠ .error .hardwareStuck →
      ∃ result u u', s.Concludes f result u ∧ Station.Even (n + 1 < b.ended.length) u u' ∧
        completion = conclusion job withAck f.ack result u' ∧ left = u'.setLocked false ∧
          b.station = left.releaseBuffers)

/-- The only holder of the lock is the job that sends. -/
theorem Sound.eq_of_sending (h : b.Sound True True) (tidy : b.Tidy) {purpose : Purpose}
    (member : job ∈ b.jobs) (activity : job.activity = .sending g purpose)
    (member' : other ∈ b.jobs) (holds : other.activity.holdsLock = true) : other = job := by
  have holds' : job.activity.holdsLock = true := by rw [activity]; rfl
  have same := h.activity_eq member' member holds holds'
  have flight : b.station.InFlight True g := by
    have held := (h.held member holds').2
    rw [activity] at held
    exact held
  have busy : b.station.transfer.state ≠ .idle ∨ b.station.completed = true := by
    cases done : b.station.completed with
    | true => exact .inr rfl
    | false => exact .inl (Station.state_of_uncompleted flight done)
  obtain ⟨sender, _, sends, -⟩ := h.sends_of_busy tidy busy
  rw [sends.eq member (Job.sending_of_activity activity),
    sends.eq member' (Job.sending_of_activity (same.trans activity))]

/-- A job that is over is the last one that ended. -/
theorem lookAt_of_finished {position : Nat} {completion : Completion}
    (found : b.jobs[position]? = some job)
    (polled : job.poll b.station = (s, .finished completion)) :
    (b.lookAt position).station = s ∧ (b.lookAt position).ended = completion :: b.ended := by
  unfold lookAt
  rw [found]
  dsimp only
  rw [polled]
  exact ⟨rfl, rfl⟩

/-- A job that goes on stays where it is. -/
theorem lookAt_of_waiting {position : Nat} {rest : Job}
    (found : b.jobs[position]? = some job) (polled : job.poll b.station = (s, .waiting rest)) :
    (b.lookAt position).station = s ∧ (b.lookAt position).ended = b.ended ∧
      rest ∈ (b.lookAt position).jobs := by
  obtain ⟨inside, -⟩ := List.getElem?_eq_some_iff.mp found
  unfold lookAt
  rw [found]
  dsimp only
  rw [polled]
  exact ⟨rfl, rfl, List.mem_set inside rest⟩

/-- A look at the job that sends: it stays on its course, or comes to its conclusion. -/
theorem Underway.lookAt_own (known : n ≤ b.ended.length)
    (moved : Station.MovesOn (n < b.ended.length) s f b.station g) (ack : g.ack = f.ack)
    {position : Nat}
    (found : b.jobs[position]? = some { job with activity := .sending g (.single withAck) }) :
    (b.lookAt position).Underway job withAck s f n ∨
      (b.lookAt position).Ashore job withAck s f n (b.leftBy (.look position)) := by
  rcases looked : b.station.checkFlight g with ⟨t, g' | result⟩
  · -- the send goes on
    have polled : Job.poll { job with activity := .sending g (.single withAck) } b.station =
        (t.setLocked true, .waiting { job with activity := .sending g' (.single withAck) }) := by
      rw [Job.poll_eq, Station.poll_sending_of_waiting (.single withAck) looked]
    obtain ⟨station', ended, member'⟩ := lookAt_of_waiting found polled
    refine .inl ⟨g', member', (Station.ack_of_waiting looked).trans ack, ?_, ?_⟩
    · rw [ended]
      exact known
    · rw [station', ended]
      have locked : Station.Level (n < b.ended.length) t (t.setLocked true) :=
        (Station.Level.refl t).redated t.clock true
      exact (moved.trans (.of_waiting looked)).trans (.of_level locked g')
  · -- the send is over
    have polled := Station.poll_sending_of_finished withAck looked
    have polled' : Job.poll { job with activity := .sending g (.single withAck) } b.station =
        ((t.setLocked false).releaseBuffers, .finished (conclusion job withAck f.ack result t)) := by
      rw [Job.poll_eq, polled, ack]
      rfl
    obtain ⟨station', ended⟩ := lookAt_of_finished found polled'
    have left : b.leftBy (.look position) = t.setLocked false := by
      unfold leftBy
      dsimp only
      rw [found]
      dsimp only
      rw [polled]
    refine .inr ⟨by rw [station', Station.releaseBuffers_locked]; rfl, _, by rw [ended]; rfl, rfl, ?_⟩
    intro onTime
    have onTime' : result ≠ .error .hardwareStuck := by
      rintro rfl
      exact onTime rfl
    obtain ⟨u, concludes, even⟩ := moved result t (Station.concludes_of_finished looked onTime')
    refine ⟨result, u, t, concludes, even.mono ?_, rfl, left, station'.trans (by rw [left])⟩
    intro more
    rw [ended]
    exact Nat.succ_lt_succ more

/-- A look at a job that waits for the lock: it goes on waiting, or it is over and its buffers are
handed back. -/
theorem Underway.lookAt_other (flight : b.station.InFlight True g)
    (member : { job with activity := .sending g (.single withAck) } ∈ b.jobs)
    (known : n ≤ b.ended.length)
    (moved : Station.MovesOn (n < b.ended.length) s f b.station g) (ack : g.ack = f.ack)
    {before later : List Job} (jobs : b.jobs = before ++ other :: later)
    (found : b.jobs[before.length]? = some other) (regular : other.activity.Regular)
    (locked : b.station.locked = true) (free : other.activity.holdsLock = false) :
    (b.lookAt before.length).Underway job withAck s f n := by
  have unchanged := Job.unchanged_of_locked locked regular free
  -- the job that sends is another one, so it stays in the list
  have stays : { job with activity := .sending g (.single withAck) } ∈
      (b.lookAt before.length).jobs := by
    rcases mem_exchange (jobs ▸ member) with same | others
    · rw [← same] at free
      exact absurd free (by simp [Activity.holdsLock])
    · exact mem_lookAt_of_others jobs others
  rcases polled : other.activity.poll b.station with ⟨t, rest | result⟩
  · rw [polled] at unchanged
    obtain rfl : t = b.station := unchanged
    obtain ⟨station', ended, -⟩ := lookAt_of_waiting found (by rw [Job.poll_eq, polled])
    refine ⟨g, stays, ack, by rw [ended]; exact known, ?_⟩
    rw [station', ended]
    exact moved
  · rw [polled] at unchanged
    obtain rfl : t = b.station := unchanged
    obtain ⟨station', ended⟩ := lookAt_of_finished found (by rw [Job.poll_eq, polled])
    have more : n < (b.lookAt before.length).ended.length := by
      rw [ended]
      exact Nat.lt_succ_of_le known
    refine ⟨g, stays, ack, Nat.le_of_lt more, ?_⟩
    rw [station']
    exact (moved.mono fun _ => more).trans (.releaseBuffers flight more)

/-- **A look keeps a send on its course**, or brings it to its conclusion. -/
theorem Underway.lookAt (way : b.Underway job withAck s f n) (h : b.Sound True True)
    (tidy : b.Tidy) (position : Nat) :
    (b.lookAt position).Underway job withAck s f n ∨
      (b.lookAt position).Ashore job withAck s f n (b.leftBy (.look position)) := by
  obtain ⟨g, member, ack, known, moved⟩ := way
  obtain ⟨locked, flight⟩ := h.held member rfl
  cases found : b.jobs[position]? with
  | none =>
    rw [lookAt_of_none found]
    exact .inl ⟨g, member, ack, known, moved⟩
  | some other =>
    obtain ⟨before, later, jobs, rfl⟩ := exists_split found
    have listed : other ∈ b.jobs := by simp [jobs]
    cases holds : other.activity.holdsLock with
    | true =>
      rw [h.eq_of_sending tidy member rfl listed holds] at found
      exact lookAt_own known moved ack found
    | false =>
      exact .inl (lookAt_other flight member known moved ack jobs found (h.regular other listed)
        locked holds)

/-- **Whatever the driver does keeps a send on its course**, or brings it to its conclusion. -/
theorem Underway.make (way : b.Underway job withAck s f n) (h : b.Sound True True) (tidy : b.Tidy)
    {move : Move} (drives : move.Drives) :
    (b.make move).Underway job withAck s f n ∨
      (b.make move).Ashore job withAck s f n (b.leftBy move) := by
  cases move with
  | look position => exact way.lookAt h tidy position
  | wait time =>
    obtain ⟨g, member, ack, known, moved⟩ := way
    have later : Station.Level (n < b.ended.length) b.station
        { b.station with clock := b.station.clock + time } :=
      (Station.Level.refl _).redated _ b.station.locked
    exact .inl ⟨g, member, ack, known, moved.trans (.of_level later g)⟩
  | service =>
    obtain ⟨g, member, ack, known, moved⟩ := way
    exact .inl ⟨g, member, ack, known, moved.trans (.serviceRadio (h.held member rfl).2)⟩
  | pump =>
    obtain ⟨g, member, ack, known, moved⟩ := way
    exact .inl ⟨g, member, ack, known, moved.trans (.pump (h.held member rfl).2)⟩
  | ask | giveUp | arrange | turnPage => exact absurd drives id

/-- **A driver that frees the lock has brought the send to its conclusion.** The induction is on
the moves; the lock is free only when the send is over, and then the driver stops. -/
theorem Underway.ashore (way : b.Underway job withAck s f n) (h : b.Reachable) {moves : List Move}
    (run : b.FreedBy moves) : (b.after moves).Ashore job withAck s f n (b.leftAfter moves) := by
  induction moves generalizing b with
  | nil =>
    obtain ⟨g, member, -⟩ := way
    exact absurd ((h.sound.held member rfl).1.symm.trans run) (by simp)
  | cons move moves ih =>
    obtain ⟨-, drives, rest⟩ := run
    rcases way.make h.sound h.tidy drives with goesOn | over'
    · have ended := ih goesOn (h.make move drives.regular) rest
      cases moves with
      | nil =>
        obtain ⟨g, member, -⟩ := goesOn
        have locked := ((h.make move drives.regular).sound.held member rfl).1
        exact absurd (locked.symm.trans rest) (by simp)
      | cons next moves => exact ended
    · cases moves with
      | nil => exact over'
      | cons next moves => exact absurd (over'.1.symm.trans rest.1) (by simp)

/-! ## Two drivers -/

/-- A station at rest points its radio at no packet when the buffers have been handed back. -/
theorem Sound.released_of_free (h : b.Sound True True) (free : b.station.locked = false)
    (station : b.station = (u.setLocked false).releaseBuffers) :
    b.station = (u.setLocked false).onRadio (Radio.setBuffer none) := by
  obtain ⟨pointer, pointed⟩ := (u.setLocked false).releaseBuffers_pointed
  have idle : b.station.transfer.state = .idle := (h.atRest_of_free free).calm.transfer
  rw [station, pointed] at idle
  rw [station]
  exact if_pos idle

/-- **There is one conclusion** to which a send is on course. -/
theorem Ashore.unique (ended : c.Ashore job withAck s f n left)
    (ended' : c'.Ashore job withAck s f n left') (h : c.Sound True True)
    (h' : c'.Sound True True) :
    ∃ completion completion', c.ended.head? = some completion ∧
      c'.ended.head? = some completion' ∧ completion.label = job.label ∧
      completion'.label = job.label ∧
      (completion.result ≠ .error .hardwareStuck → completion'.result ≠ .error .hardwareStuck →
        completion' = completion ∧ c'.station = { c.station with clock := c'.station.clock } ∧
        (c.ended.length = n + 1 → c'.ended.length = n + 1 →
          left' = { left with clock := left'.clock })) := by
  obtain ⟨free, completion, last, label, concluded⟩ := ended
  obtain ⟨free', completion', last', label', concluded'⟩ := ended'
  refine ⟨completion, completion', last, last', label, label', ?_⟩
  intro onTime onTime'
  obtain ⟨result, u, v, concludes, even, rfl, rfl, station⟩ := concluded onTime
  obtain ⟨result', u', v', concludes', even', rfl, rfl, station'⟩ := concluded' onTime'
  -- both conclusions are that of one course
  obtain ⟨rfl, rfl⟩ := concludes.unique concludes'
  have alike : Station.Even (n + 1 < c.ended.length ∨ n + 1 < c'.ended.length) v v' :=
    (even.symm.mono .inl).trans (even'.mono .inr)
  rw [h.released_of_free free station, h'.released_of_free free' station']
  obtain ⟨clock, locked, pointer, rfl, same⟩ := alike
  refine ⟨rfl, rfl, ?_⟩
  intro alone alone'
  -- no other operation ended, so neither pointer went astray
  have kept : pointer = v.radio.buffer := by
    rcases same with kept | more | more
    · exact kept
    · exact absurd more (Nat.not_lt.mpr (Nat.le_of_eq alone))
    · exact absurd more (Nat.not_lt.mpr (Nat.le_of_eq alone'))
  rw [kept]
  rfl

/-- A send of its own that starts is over at once, or in progress. -/
theorem start_of_isSend {request : Request} (send : request.IsSend) (s : Station) :
    (∃ result, (s.start request).2 = .finished result) ∨
      ∃ f withAck, (s.start request).2 = .waiting (.sending f (.single withAck)) := by
  have started : ∀ packet ack withAck (s : Station),
      (∃ result, (s.startSend packet ack withAck).2 = .finished result) ∨
        ∃ f withAck', (s.startSend packet ack withAck).2 =
          .waiting (.sending f (.single withAck')) := by
    intro packet ack withAck s
    unfold Station.startSend
    rcases s.launch packet ack with ⟨t, _ | _ | f⟩
    · exact .inl ⟨_, rfl⟩
    · exact .inl ⟨_, rfl⟩
    · exact .inr ⟨f, withAck, rfl⟩
  cases request with
  | send packet ack => exact started packet ack false s
  | sendPayload bytes => exact started _ _ true _
  | _ => exact absurd send id

/-- A look at a send of its own while the lock is free: it is over at once, or in progress. -/
theorem poll_of_isSend {request : Request} (queued : job.activity = .queued request)
    (send : request.IsSend) (free : s.locked = false) :
    (∃ t completion, job.poll s = (t, .finished completion) ∧ t.locked = false ∧
        completion.label = job.label) ∨
      ∃ t f withAck,
        job.poll s = (t, .waiting { job with activity := .sending f (.single withAck) }) := by
  rw [Job.poll_eq, queued]
  cases decided : request.answer? with
  | some result =>
    rw [Activity.poll_queued_of_answer? decided]
    exact .inl ⟨_, _, rfl, s.releaseBuffers_locked.trans free, rfl⟩
  | none =>
    have needs : request.needsLock = true := by
      cases request with
      | send | sendPayload => rfl
      | _ => exact absurd send id
    rw [Activity.poll_queued_of_free free decided needs]
    rcases started : s.start request with ⟨t, progress⟩
    rcases start_of_isSend send s with ⟨result, ended⟩ | ⟨f, withAck, goesOn⟩
    · rw [started] at ended
      obtain rfl := ended
      exact .inl ⟨_, _, rfl, Station.releaseBuffers_locked _, rfl⟩
    · rw [started] at goesOn
      obtain rfl := goesOn
      exact .inr ⟨_, f, withAck, rfl⟩

end Bench

/-- **The pacing of a send does not matter.** Two drivers look at a send for the first time while
the lock is free, and then look, wait, let the radio make steps and handle its interrupts as they
like until the send is over. Unless an exchange counts as stuck under one of them, the send ends
with the same result and the same packets, and the stations differ in the clock alone. If the send
is the only operation that ends, that is so even of the stations as the last looks leave them,
where the radio still points at a packet of the send. -/
theorem Bench.Reachable.endAlike_of_send {b : Bench} (h : b.Reachable) {position : Nat} {job : Job}
    {request : Request} (found : b.jobs[position]? = some job)
    (queued : job.activity = .queued request) (send : request.IsSend)
    (free : b.station.locked = false) {moves moves' : List Move}
    (run : (b.lookAt position).FreedBy moves) (run' : (b.lookAt position).FreedBy moves') :
    EndAlike job.label b (.look position :: moves) (.look position :: moves') := by
  have next : (b.lookAt position).Reachable := h.make (.look position) trivial
  rcases poll_of_isSend queued send free with
    ⟨t, completion, polled, unlocked, label⟩ | ⟨t, f, withAck, polled⟩
  · -- the send is over at once, so neither driver does anything
    obtain ⟨station, ended⟩ := lookAt_of_finished found polled
    have last : (b.lookAt position).ended.head? = some completion := by rw [ended]; rfl
    have over' : (b.lookAt position).station.locked = false := by rw [station, unlocked]
    have idle : ∀ moves, (b.lookAt position).FreedBy moves → moves = [] := by
      intro moves run
      cases moves with
      | nil => rfl
      | cons move moves => exact absurd (over'.symm.trans run.1) (by simp)
    rw [idle moves run, idle moves' run']
    exact ⟨completion, completion, last, last, label, label, fun _ _ => ⟨rfl, rfl, fun _ _ => rfl⟩⟩
  · -- both drivers bring it to the conclusion to which it is on course from its first look
    obtain ⟨station, ended, member⟩ := lookAt_of_waiting found polled
    have way : (b.lookAt position).Underway job withAck (b.lookAt position).station f
        b.ended.length := ⟨f, member, rfl, Nat.le_of_eq (congrArg List.length ended.symm), .refl _ f⟩
    have locked : (b.lookAt position).station.locked = true := (next.sound.held member rfl).1
    have later : ∀ moves, (b.lookAt position).FreedBy moves →
        (b.lookAt position).leftAfter moves = b.leftAfter (.look position :: moves) := by
      intro moves run
      cases moves with
      | nil => exact absurd (locked.symm.trans run) (by simp)
      | cons move moves => rfl
    have ashore := way.ashore next run
    have ashore' := way.ashore next run'
    rw [later moves run] at ashore
    rw [later moves' run'] at ashore'
    exact ashore.unique ashore' (next.after moves run.regular).sound
      (next.after moves' run'.regular).sound

/-- A send whose first packet is not answered, before its first look. -/
def Bench.unanswered : Bench :=
  (ofStation (.withFrontEnd .zeros)).after
    [.ask none (.request (.switchMode .link)), .look 0,
      .arrange (.schedule [.silence, .ack (.truncate [7]) 40]), .turnPage,
      .ask (some "send") (.send (.ofPayload (.truncate [1, 2])) .empty)]

/-- One driver handles every interrupt at once and looks after every step of the radio; the other
one leaves interrupts and the send waiting. Under both the second packet is acknowledged, and both
leave the same station behind, 4680 microseconds apart, with the radio pointing at the buffer of the
acknowledgement. -/
theorem Bench.endAlike_of_unanswered :
    let swift : List Move := .look 0 :: (List.replicate 6 [.wait 10, .pump, .look 0]).flatten
    let slow : List Move := [.look 0, .service, .service, .wait 700, .look 0, .pump, .wait 3000,
      .service, .service, .pump, .look 0, .wait 40, .pump, .service, .service, .pump, .pump,
      .service, .wait 1000, .look 0]
    unanswered.Reachable ∧ (unanswered.lookAt 0).FreedBy swift.tail ∧
      (unanswered.lookAt 0).FreedBy slow.tail ∧
      (unanswered.after swift).ended.map Completion.result = [.ok (.sent ⟨true, 40, 1⟩)] ∧
      (unanswered.after slow).ended.map Completion.result = [.ok (.sent ⟨true, 40, 1⟩)] ∧
      (unanswered.leftAfter swift).radio.buffer = some ⟨1⟩ ∧
      EndAlike (some "send") unanswered swift slow := by
  intro swift slow
  have reachable : unanswered.Reachable :=
    (Reachable.startUp ⟨.zeros, .inl rfl⟩).after _ (by decide)
  have found : unanswered.jobs[0]? =
      some ⟨some "send", some (⟨0⟩, ⟨1⟩), .queued (.send ⟨0⟩ ⟨1⟩)⟩ := by decide +kernel
  have run : (unanswered.lookAt 0).FreedBy swift.tail := by decide +kernel
  have run' : (unanswered.lookAt 0).FreedBy slow.tail := by decide +kernel
  exact ⟨reachable, run, run', by decide +kernel, by decide +kernel, by decide +kernel,
    reachable.endAlike_of_send found rfl trivial (by decide +kernel) run run'⟩

end BurstLink
