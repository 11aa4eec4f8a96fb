import BurstLink.Proofs.Serial.Ledger

/-! # A crowd, look by look

At every moment of a crowd, the operations that have had their turn would have left a station behind
that is alike, if they had been carried out in turn. If an operation holds the lock, a second
station carries it out on its own, in tandem with the station of the crowd: what the other jobs
do meanwhile changes nothing, because a job that is looked at in vain changes nothing and a job that
is rejected only hands its buffers back.

Main definitions:

* **`Running`** — the operation that holds the lock, and the station that carries it out on its own.
* **`Idle`**, **`Busy`**, **`Standing`** — the crowd while the lock is free, while it is held, and
  in either case.

Main statements: `Busy.looks`, `Idle.looks`, and `Standing.looks` — the looks of a round. -/

namespace BurstLink

/-! ## The operation that holds the lock -/

/-- An operation that is looked at next: however it ends on its own from here, it ends so from the
start. -/
def Spawn.Ready (spawn : Spawn) (t₀ : Station) (activity : Activity) (t : Station) : Prop :=
  ∀ rounds result t', activity.Alone rounds t result t' → spawn.Ends t₀ result t'

/-- The same for an operation that has been looked at in this round. -/
def Spawn.Looked (spawn : Spawn) (t₀ : Station) (activity : Activity) (t : Station) : Prop :=
  ∀ rounds result t', activity.AfterRound rounds t result t' → spawn.Ends t₀ result t'

/-- The holder of the lock on station `s` is in tandem with an operation that was asked for on a
station `t₀` and has it to itself. Its buffers are none of those that wait. -/
inductive Running (stage : Spawn → Station → Activity → Station → Prop) (spawn : Spawn)
    (t₀ : Station) (holder : Job) (s : Station) (waiting : List (Spawn × Job)) : Prop
  /-- With the operation in tandem and its station. -/
  | intro (ρ : List (Buffer × Buffer)) (activity : Activity) (t : Station)
      (label : holder.label = some spawn.name)
      (matched : holder.Matched ρ (t₀.engage none spawn.work).2)
      (tandem : Station.Tandem ρ s.buffers s.clock t.clock s t)
      (alike : holder.activity.Alike (PairIn ρ) (AsFar s.clock t.clock) activity)
      (custody : s.Custody False True (some holder.activity))
      (custody' : t.Custody False True (some activity))
      (apart : ∀ x ∈ ρ, ∀ y ∈ waiting, x.1 ∉ y.2.handles)
      (staged : stage spawn t₀ activity t)

/-! ## The crowd -/

/-- The crowd while nobody holds the lock. -/
inductive Idle (s₀ : Station) (before : List Completion) (spawned : List Spawn)
    (takers : List String) (s : Station) (jobs : List Job) (ended : List Completion) : Prop
  /-- With the station that the turns would have left behind. -/
  | intro (t₀ : Station) (waiting : List (Spawn × Job))
      (ledger : Ledger s₀ t₀ [] (waiting.map Prod.fst) spawned takers ended before)
      (waits : Waits s waiting) (jobs : jobs.Perm (waiting.map Prod.snd)) (alike : s.Alike t₀)
      (custody : s.Custody False True none) (custody' : t₀.Custody False True none)

/-- The crowd while a job holds the lock. -/
inductive Busy (stage : Spawn → Station → Activity → Station → Prop) (s₀ : Station)
    (before : List Completion) (spawned : List Spawn) (takers : List String) (holder : Job)
    (s : Station) (others : List Job) (ended : List Completion) : Prop
  /-- With the station on which the operation of the job was asked for. -/
  | intro (t₀ : Station) (spawn : Spawn) (waiting : List (Spawn × Job))
      (ledger : Ledger s₀ t₀ [spawn] (waiting.map Prod.fst) spawned takers ended before)
      (waits : Waits s waiting) (others : others.Perm (waiting.map Prod.snd))
      (running : Running stage spawn t₀ holder s waiting)

/-- The crowd, whoever holds the lock. -/
inductive Standing (stage : Spawn → Station → Activity → Station → Prop) (s₀ : Station)
    (before : List Completion) (spawned : List Spawn) (takers : List String) (s : Station)
    (jobs : List Job) (ended : List Completion) : Prop
  /-- Nobody does. -/
  | idle (h : Idle s₀ before spawned takers s jobs ended)
  /-- One of the jobs does. -/
  | busy (holder : Job) (others : List Job) (all : jobs.Perm (holder :: others))
      (h : Busy stage s₀ before spawned takers holder s others ended)

/-- The completion that a look finds, if there is one. -/
def Job.completed : Look Job Completion → List Completion
  | .waiting _ => []
  | .finished completion => [completion]

/-- The crowd after a look that may have given the lock to a job or taken it back. -/
inductive AfterLook (s₀ : Station) (before : List Completion) (spawned : List Spawn)
    (takers : List String) (found : Station × Look Job Completion) (others : List Job)
    (ended : List Completion) : Prop
  /-- Nobody holds the lock. -/
  | idle (h : Idle s₀ before spawned takers found.1 (Job.remaining found.2 ++ others)
      (Job.completed found.2 ++ ended))
  /-- The job that was looked at holds it. -/
  | busy (holder : Job) (goesOn : found.2 = .waiting holder)
      (h : Busy Spawn.Looked s₀ before spawned takers holder found.1 others ended)

/-! ## A job that waits -/

/-- A job that asks for the lock takes it if it is free. -/
theorem Job.takesLock_eq {s : Station} {job : Job} {request : Request}
    (queued : job.activity = .queued request) (undecided : request.answer? = none)
    (needs : request.needsLock = true) : job.takesLock s = !s.locked := by
  simp [takesLock, queued, undecided, needs]

namespace Job.Awaits

variable {s : Station} {spawn : Spawn} {job : Job}

/-- A job that is rejected hands its buffers back. -/
theorem poll_of_rejection {completion : Completion} (h : job.Awaits s spawn.work)
    (label : job.label = some spawn.name) (rejected : spawn.rejection? = some completion)
    (t : Station) : job.poll t = (t.releaseBuffers, .finished completion) := by
  obtain ⟨name, work⟩ := spawn
  cases h with
  | request plain =>
    obtain ⟨result, decided, rfl⟩ := Option.map_eq_some_iff.mp rejected
    obtain rfl := label
    rw [Job.poll_eq]
    dsimp only
    rw [Activity.poll_queued_of_answer? decided]
    rfl
  | send apart known => cases rejected

/-- A job that is not rejected asks for the lock. -/
theorem request_of_accepted (h : job.Awaits s spawn.work) (accepted : spawn.rejection? = none) :
    ∃ request, job.activity = .queued request ∧ request.answer? = none ∧
      request.needsLock = true := by
  obtain ⟨name, work⟩ := spawn
  cases h with
  | @request label request plain =>
    exact ⟨request, rfl, Option.map_eq_none_iff.mp accepted, plain.needsLock⟩
  | send apart known => exact ⟨_, rfl, rfl, rfl⟩

/-- A job that is rejected takes no lock. -/
theorem takesLock_of_rejection {completion : Completion} (h : job.Awaits s spawn.work)
    (rejected : spawn.rejection? = some completion) (t : Station) : job.takesLock t = false := by
  obtain ⟨name, work⟩ := spawn
  cases h with
  | request plain =>
    obtain ⟨result, decided, -⟩ := Option.map_eq_some_iff.mp rejected
    simp [takesLock, decided]
  | send apart known => cases rejected

end Job.Awaits

namespace Station

variable {s t : Station} {ρ : List (Buffer × Buffer)} {kept : Pool Packet} {now now' : Nat}

/-- The pointer of the radio is none of the buffers. -/
theorem releaseBuffers_buffers (s : Station) : s.releaseBuffers.buffers = s.buffers := by
  unfold releaseBuffers
  split <;> rfl

/-- From now on, the rest of the buffers are to stay as they are now. -/
theorem Tandem.rebase (h : Tandem ρ kept now now' s t) :
    Tandem ρ s.buffers s.clock t.clock s t :=
  { h with others := fun _ _ _ => rfl, count := Nat.le_refl _, clock := rfl, clock' := rfl }

/-- Buffers that are handed back leave stations in tandem. -/
theorem Tandem.releaseBuffers (h : Tandem ρ kept now now' s t) :
    Tandem ρ kept now now' s.releaseBuffers t := by
  unfold Station.releaseBuffers
  split
  · exact { h with radio := (Radio.alike_setBuffer none _).trans h.radio }
  · exact h

end Station

/-- Jobs go on waiting when buffers are handed back. -/
theorem Waits.releaseBuffers {s : Station} {waiting : List (Spawn × Job)} (h : Waits s waiting) :
    Waits s.releaseBuffers waiting :=
  h.kept (fun _ _ _ _ => by rw [s.releaseBuffers_buffers])
    (Nat.le_of_eq (by rw [s.releaseBuffers_buffers]))

/-- Jobs go on waiting when the holder of the lock is looked at or the radio makes a step. -/
theorem Waits.afterLook {s s₁ t : Station} {waiting : List (Spawn × Job)}
    {ρ : List (Buffer × Buffer)} {now now' : Nat} (h : Waits s waiting)
    (same : Station.Tandem ρ s.buffers now now' s₁ t)
    (apart : ∀ x ∈ ρ, ∀ y ∈ waiting, x.1 ∉ y.2.handles) : Waits s₁ waiting := by
  refine h.kept (fun y member b own => ?_) same.count
  -- the buffers of a job that waits are none of the paired ones, so nobody writes to them
  have known := (h.awaits y member).1.known b own
  refine same.others b known fun x paired shared => ?_
  rw [shared] at own
  exact apart x paired y member own

/-- Of those that wait, the one with a given job, and the others. -/
theorem Waits.split {s : Station} {waiting : List (Spawn × Job)} {job : Job} {others : List Job}
    (h : Waits s waiting) (all : (job :: others).Perm (waiting.map Prod.snd)) :
    ∃ spawn rest, Waits s ((spawn, job) :: rest) ∧ waiting.Perm ((spawn, job) :: rest) ∧
      others.Perm (rest.map Prod.snd) := by
  obtain ⟨⟨spawn, job'⟩, member, rfl⟩ := List.mem_map.mp (all.mem_iff.mp (List.mem_cons_self ..))
  obtain ⟨front, back, rfl⟩ := List.append_of_mem member
  have shuffle : (front ++ (spawn, job') :: back).Perm ((spawn, job') :: (front ++ back)) :=
    List.perm_middle
  exact ⟨spawn, front ++ back, h.perm shuffle, shuffle,
    List.Perm.cons_inv (all.trans (shuffle.map Prod.snd))⟩

/-- **A look at the job that holds the lock or takes it**, in step with a look at its operation on
its own: the job keeps the lock, or it has had its turn. -/
theorem AfterLook.of_inStep {s₀ s t₀ t : Station} {before ended : List Completion}
    {spawned : List Spawn} {takers : List String} {spawn : Spawn} {job : Job} {others : List Job}
    {waiting : List (Spawn × Job)} {ρ : List (Buffer × Buffer)} {now now' : Nat}
    {activity : Activity}
    (ledger : Ledger s₀ t₀ [spawn] (waiting.map Prod.fst) spawned takers ended before)
    (waits : Waits s waiting) (all : others.Perm (waiting.map Prod.snd))
    (label : job.label = some spawn.name) (matched : job.Matched ρ (t₀.engage none spawn.work).2)
    (apart : ∀ x ∈ ρ, ∀ y ∈ waiting, x.1 ∉ y.2.handles)
    (looks : Station.InStep ρ s.buffers now now' (job.activity.poll s) (activity.poll t))
    (orderly : Station.Orderly False True (job.activity.poll s))
    (orderly' : Station.Orderly False True (activity.poll t))
    (ready : spawn.Ready t₀ activity t) :
    AfterLook s₀ before spawned takers (job.poll s) others ended := by
  rw [Job.poll_eq]
  rcases looked : job.activity.poll s with ⟨s₁, rest | result⟩
  · obtain ⟨t₁, rest', looked', same, alike⟩ := looks.waiting looked
    refine .busy { job with activity := rest } rfl ⟨t₀, spawn, waiting, ledger,
      waits.afterLook same apart, all, ρ, rest', t₁, label, matched.of_buffers rfl, same.rebase, ?_,
      Activity.custody_of_waiting orderly looked alike.holdsLock.1,
      Activity.custody_of_waiting orderly' looked' alike.holdsLock.2, apart, ?_⟩
    · rw [same.clock, same.clock']
      exact alike
    · intro rounds result t' after
      exact ready _ result t' (after.looked looked')
  · obtain ⟨t₁, looked', same⟩ := looks.finished looked
    -- The turn ends with the buffers handed back, and so does the look at the job.
    have turn : spawn.Turn t₀ ⟨job.label, result, job.packets s₁⟩ t₁.releaseBuffers := by
      refine ⟨result, t₁, ready 0 result t₁ (.ends looked'), rfl, ?_⟩
      rw [label, same.packets matched]
    exact .idle ⟨t₁.releaseBuffers, waiting, ledger.finish turn,
      (waits.afterLook same apart).releaseBuffers, all,
      same.releaseBuffers.toAlike.trans t₁.releaseBuffers_alike.symm,
      (Activity.custody_of_finished orderly looked).releaseBuffers,
      (Activity.custody_of_finished orderly' looked').releaseBuffers⟩

/-! ## Looks while the lock is held -/

namespace Busy

variable {stage : Spawn → Station → Activity → Station → Prop} {s₀ s : Station}
  {before ended ended' : List Completion} {spawned : List Spawn} {takers : List String}
  {holder job : Job} {others rest : List Job}

/-- The order of the jobs and of the completions does not matter. -/
theorem perm (h : Busy stage s₀ before spawned takers holder s others ended)
    (same : others.Perm rest) (same' : ended.Perm ended') :
    Busy stage s₀ before spawned takers holder s rest ended' := by
  obtain ⟨t₀, spawn, waiting, ledger, waits, all, running⟩ := h
  exact ⟨t₀, spawn, waiting, ledger.perm (.refl _) same', waits, same.symm.trans all, running⟩

/-- **A look at another job changes nothing that matters**: the job is rejected, or it finds the
lock taken. -/
theorem look (h : Busy stage s₀ before spawned takers holder s (job :: others) ended) :
    Busy stage s₀ before spawned takers holder (job.poll s).1
        (Job.remaining (job.poll s).2 ++ others) (Job.completed (job.poll s).2 ++ ended) ∧
      job.takesLock s = false := by
  obtain ⟨t₀, spawn, waiting, ledger, waits, all, running⟩ := h
  obtain ⟨ρ, activity, t, named, matched, tandem, alike, custody, custody', apart, staged⟩ :=
    running
  obtain ⟨spawn', rest, waits', shuffle, others'⟩ := waits.split all
  obtain ⟨awaits, label⟩ : job.Awaits s spawn'.work ∧ job.label = some spawn'.name :=
    waits'.awaits _ (List.mem_cons_self ..)
  have ledger' := ledger.perm (shuffle.map Prod.fst) (.refl _)
  have apart' : ∀ z ∈ ρ, ∀ y ∈ (spawn', job) :: rest, z.1 ∉ y.2.handles := fun z paired y member =>
    apart z paired y (shuffle.mem_iff.mpr member)
  -- a rejected job hands its buffers back, which the holder does not notice;
  -- any other job finds the lock taken and is left as it is
  cases rejected : spawn'.rejection? with
  | some completion =>
    rw [awaits.poll_of_rejection label rejected]
    refine ⟨⟨t₀, spawn, rest, ledger'.reject rejected, waits'.tail.releaseBuffers, others',
      ρ, activity, t, named, matched, tandem.releaseBuffers.rebase, ?_, custody.releaseBuffers,
      custody', fun z paired y member => apart' z paired y (List.mem_cons_of_mem _ member), staged⟩,
      awaits.takesLock_of_rejection rejected s⟩
    rw [tandem.releaseBuffers.clock]
    exact alike
  | none =>
    obtain ⟨request, queued, undecided, needs⟩ := awaits.request_of_accepted rejected
    have blocked : job.poll s = (s, .waiting job) := by
      rw [Job.poll_eq, queued, Activity.poll_queued_of_locked custody.1 undecided needs]
      dsimp only
      rw [← queued]
    rw [blocked]
    exact ⟨⟨t₀, spawn, (spawn', job) :: rest, ledger', waits', others'.cons job, ρ, activity, t,
      named, matched, tandem, alike, custody, custody', apart', staged⟩,
      by simp [Job.takesLock_eq queued undecided needs, custody.1]⟩

/-- **A look at the holder of the lock**: it keeps the lock, or it has had its turn. -/
theorem lookHolder (h : Busy Spawn.Ready s₀ before spawned takers holder s others ended) :
    AfterLook s₀ before spawned takers (holder.poll s) others ended ∧
      holder.takesLock s = false := by
  obtain ⟨t₀, spawn, waiting, ledger, waits, all, running⟩ := h
  obtain ⟨ρ, activity, t, named, matched, tandem, alike, custody, custody', apart, staged⟩ :=
    running
  refine ⟨?_, ?_⟩
  · exact .of_inStep ledger waits all named matched apart (tandem.poll alike)
      (Activity.orderly_poll_holding custody) (Activity.orderly_poll_holding custody') staged
  · have holds := alike.holdsLock.1
    unfold Job.takesLock
    split
    · rename_i request queued
      rw [queued] at holds
      cases holds
    · rfl

end Busy

/-! ## Looks while the lock is free -/

namespace Idle

variable {s₀ s : Station} {before ended ended' : List Completion} {spawned : List Spawn}
  {takers : List String} {job : Job} {jobs rest : List Job}

/-- The order of the jobs and of the completions does not matter. -/
theorem perm (h : Idle s₀ before spawned takers s jobs ended) (same : jobs.Perm rest)
    (same' : ended.Perm ended') : Idle s₀ before spawned takers s rest ended' := by
  obtain ⟨t₀, waiting, ledger, waits, all, alike, custody, custody'⟩ := h
  exact ⟨t₀, waiting, ledger.perm (.refl _) same', waits, same.symm.trans all, alike, custody,
    custody'⟩

/-- **A look at a job while the lock is free**: the job is rejected, or it takes the lock; then it
keeps it, or has had its turn at once. -/
theorem look (h : Idle s₀ before spawned takers s (job :: jobs) ended) :
    AfterLook s₀ before spawned (takers ++ if job.takesLock s then job.label.toList else [])
      (job.poll s) jobs ended := by
  obtain ⟨t₀, waiting, ledger, waits, all, alike, custody, custody'⟩ := h
  obtain ⟨spawn, rest, waits', shuffle, jobs'⟩ := waits.split all
  obtain ⟨awaits, label⟩ : job.Awaits s spawn.work ∧ job.label = some spawn.name :=
    waits'.awaits _ (List.mem_cons_self ..)
  have ledger' := ledger.perm (shuffle.map Prod.fst) (.refl _)
  cases rejected : spawn.rejection? with
  | some completion =>
    rw [awaits.poll_of_rejection label rejected, awaits.takesLock_of_rejection rejected]
    refine .idle ⟨t₀, rest, ?_, waits'.tail.releaseBuffers, jobs',
      s.releaseBuffers_alike.trans alike, custody.releaseBuffers, custody'⟩
    simpa [Job.completed] using ledger'.reject rejected
  | none =>
    obtain ⟨request, queued, undecided, needs⟩ := awaits.request_of_accepted rejected
    have takes : job.takesLock s = true := by
      simp [Job.takesLock_eq queued undecided needs, custody.1]
    have taken := ledger'.take rejected
    -- The same operation is asked for on the other station, and both are looked at once.
    have plain := awaits.plain
    have awaits' := t₀.engage_awaits none plain
    obtain ⟨ρ, request₁, request', queued₁, queued', paired, matched, own, tandem⟩ :=
      (alike.trans (t₀.engage_alike none plain)).awaiting awaits awaits'
    obtain ⟨new, fresh, looks⟩ := tandem.pollQueued paired custody.1
    have regular := awaits.regular
    have regular' := awaits'.regular
    rw [queued₁] at regular
    rw [queued'] at regular'
    have orderly := Activity.orderly_poll_queued custody regular
    have orderly' := Activity.orderly_poll_queued (custody'.engage none plain) regular'
    have matched' := matched.mono fun z member => List.mem_append_right new member
    -- buffers that have just been added are too new for any job, and those of the job are its own
    have apart : ∀ z ∈ new ++ ρ, ∀ y ∈ rest, z.1 ∉ y.2.handles := by
      intro z member y waitsToo other
      rcases List.mem_append.mp member with born | old
      · have known := (waits'.tail.awaits y waitsToo).1.known z.1 other
        have unknown := fresh z born
        omega
      · exact waits'.disjoint (own z old) y waitsToo other
    have ready : spawn.Ready t₀ (.queued request') (t₀.engage none spawn.work).1 := by
      intro rounds result t' alone
      refine ⟨rounds, ?_⟩
      rw [queued']
      exact alone
    rw [takes, if_pos rfl, label]
    rw [← queued₁] at looks orderly
    exact .of_inStep taken waits'.tail jobs' label matched' apart looks orderly orderly' ready

end Idle

/-- The order of the jobs and of the completions does not matter. -/
theorem Standing.perm {stage : Spawn → Station → Activity → Station → Prop} {s₀ s : Station}
    {before ended ended' : List Completion} {spawned : List Spawn} {takers : List String}
    {jobs jobs' : List Job} (h : Standing stage s₀ before spawned takers s jobs ended)
    (same : jobs.Perm jobs') (same' : ended.Perm ended') :
    Standing stage s₀ before spawned takers s jobs' ended' := by
  cases h with
  | idle h => exact .idle (h.perm same same')
  | busy holder others all h =>
    exact .busy holder others (same.symm.trans all) (h.perm (.refl _) same')

/-! ## The looks of a round -/

/-- The first two of three lists change places. -/
theorem perm_append_swap {α : Type} (a b c : List α) : (a ++ (b ++ c)).Perm ((b ++ a) ++ c) := by
  rw [← List.append_assoc]
  exact List.perm_append_comm.append_right c

/-- Three lists come in the opposite order. -/
theorem perm_append_reverse {α : Type} (a b c : List α) :
    (a ++ (b ++ c)).Perm (c ++ (b ++ a)) := by
  have turned : (a ++ (b ++ c)).Perm ((b ++ c) ++ a) := List.perm_append_comm
  have swapped : ((b ++ c) ++ a).Perm ((c ++ b) ++ a) := List.perm_append_comm.append_right a
  rw [List.append_assoc c] at swapped
  exact turned.trans swapped

namespace Job

/-- The first job is looked at, and then the later ones at the station that it leaves. -/
theorem pollAll_cons (job : Job) (later : List Job) (s : Station) :
    pollAll (job :: later) s =
      ((pollAll later (job.poll s).1).1,
        remaining (job.poll s).2 ++ (pollAll later (job.poll s).1).2.1,
        completed (job.poll s).2 ++ (pollAll later (job.poll s).1).2.2) := by
  rcases looked : job.poll s with ⟨s₁, job' | completion⟩ <;>
    simp [pollAll, looked, remaining, completed]

/-- Looks at two lists in turn are looks at the one and then at the other. -/
theorem pollAll_append (first later : List Job) (s : Station) :
    pollAll (first ++ later) s =
      ((pollAll later (pollAll first s).1).1,
        (pollAll first s).2.1 ++ (pollAll later (pollAll first s).1).2.1,
        (pollAll first s).2.2 ++ (pollAll later (pollAll first s).1).2.2) := by
  -- on the jobs of the first list, each of which hands its station on
  induction first generalizing s with
  | nil => rfl
  | cons job first ih =>
    rw [List.cons_append, pollAll_cons, pollAll_cons, ih]
    simp

/-- Those who take the lock among two lists do so in turn. -/
theorem lockOrder_append (first later : List Job) (s : Station) :
    lockOrder (first ++ later) s = lockOrder first s ++ lockOrder later (pollAll first s).1 := by
  induction first generalizing s with
  | nil => rfl
  | cons job first ih =>
    rw [List.cons_append, lockOrder, lockOrder, ih, pollAll_cons, List.append_assoc]

end Job

/-- Looks at other jobs while the lock is held. -/
theorem Busy.looks {stage : Spawn → Station → Activity → Station → Prop} {s₀ s : Station}
    {before ended : List Completion} {spawned : List Spawn} {takers : List String} {holder : Job}
    {todo rest : List Job}
    (h : Busy stage s₀ before spawned takers holder s (todo ++ rest) ended) :
    Busy stage s₀ before spawned takers holder (Job.pollAll todo s).1
        ((Job.pollAll todo s).2.1 ++ rest) ((Job.pollAll todo s).2.2 ++ ended) ∧
      Job.lockOrder todo s = [] := by
  induction todo generalizing s rest ended with
  | nil => exact ⟨h, rfl⟩
  | cons job todo ih =>
    obtain ⟨looked, passes⟩ := h.look
    -- the job that was looked at moves behind those that are still to be looked at
    have next := looked.perm (List.perm_append_comm_assoc _ todo rest) (.refl _)
    obtain ⟨later, nobody⟩ := ih next
    rw [Job.pollAll_cons, Job.lockOrder, passes, nobody]
    exact ⟨later.perm (perm_append_swap ..) (perm_append_swap ..), rfl⟩

/-- Looks at jobs while the lock is free, as long as it is. -/
theorem Idle.looks {s₀ s : Station} {before ended : List Completion} {spawned : List Spawn}
    {takers : List String} {todo rest : List Job}
    (h : Idle s₀ before spawned takers s (todo ++ rest) ended) :
    Standing Spawn.Looked s₀ before spawned (takers ++ Job.lockOrder todo s)
      (Job.pollAll todo s).1 ((Job.pollAll todo s).2.1 ++ rest)
      ((Job.pollAll todo s).2.2 ++ ended) := by
  induction todo generalizing s rest ended takers with
  | nil =>
    rw [Job.lockOrder, List.append_nil]
    exact .idle h
  | cons job todo ih =>
    rw [Job.pollAll_cons, Job.lockOrder, ← List.append_assoc takers]
    cases h.look with
    | idle looked =>
      have next := looked.perm (List.perm_append_comm_assoc _ todo rest) (.refl _)
      exact (ih next).perm (perm_append_swap ..) (perm_append_swap ..)
    | busy holder goesOn looked =>
      obtain ⟨later, nobody⟩ := looked.looks
      rw [goesOn, nobody, List.append_nil]
      exact .busy holder _ (.refl _) later

/-- **The looks of a round**, at all jobs in any order. -/
theorem Standing.looks {s₀ s : Station} {before ended : List Completion} {spawned : List Spawn}
    {takers : List String} {jobs : List Job}
    (h : Standing Spawn.Ready s₀ before spawned takers s jobs ended) :
    Standing Spawn.Looked s₀ before spawned (takers ++ Job.lockOrder jobs s) (Job.pollAll jobs s).1
      (Job.pollAll jobs s).2.1 ((Job.pollAll jobs s).2.2 ++ ended) := by
  cases h with
  | idle h =>
    rw [← List.append_nil jobs] at h
    have looked := h.looks
    rwa [List.append_nil] at looked
  | busy holder others all h =>
    -- The jobs before the holder find the lock taken; the others find what the holder leaves.
    obtain ⟨front, back, rfl⟩ :=
      List.append_of_mem (all.mem_iff.mpr (List.mem_cons_self (a := holder) ..))
    have others' : others.Perm (front ++ back) :=
      (List.Perm.cons_inv (List.perm_middle.symm.trans all)).symm
    obtain ⟨ahead, nobody⟩ := (h.perm others' (.refl _)).looks
    rw [Job.pollAll_append, Job.lockOrder_append, nobody, List.nil_append, Job.pollAll_cons,
      Job.lockOrder]
    generalize (Job.pollAll front s).1 = s₁ at ahead ⊢
    generalize (Job.pollAll front s).2.1 = front' at ahead ⊢
    generalize (Job.pollAll front s).2.2 = ended' at ahead ⊢
    obtain ⟨looked, keeps⟩ := ahead.lookHolder
    rw [keeps, if_neg (by simp), List.nil_append]
    cases looked with
    | idle looked =>
      have shuffle : (Job.remaining (holder.poll s₁).2 ++ (front' ++ back)).Perm
          (back ++ (Job.remaining (holder.poll s₁).2 ++ front')) := by
        rw [← List.append_assoc]
        exact List.perm_append_comm
      refine (looked.perm shuffle (.refl _)).looks.perm (perm_append_reverse ..) ?_
      rw [← List.append_assoc (Job.completed _) ended', ← List.append_assoc _ _ ended]
      exact (perm_append_reverse ..).append_right ended
    | busy holder' goesOn looked =>
      obtain ⟨later, nobody'⟩ := (looked.perm List.perm_append_comm (.refl _)).looks
      rw [goesOn, nobody', List.append_nil]
      refine .busy holder' ((Job.pollAll back (holder.poll s₁).1).2.1 ++ front') ?_ ?_
      · exact List.perm_middle.trans (List.perm_append_comm.cons _)
      · refine later.perm (.refl _) ?_
        exact perm_append_swap ..

end BurstLink
