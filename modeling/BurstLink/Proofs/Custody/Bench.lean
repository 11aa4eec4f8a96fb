import BurstLink.Proofs.Custody.Pump

/-! # Custody on a bench

At most one job of a reachable bench holds the lock, and the station looks as custody says. What one
move of the bench preserves, every run of moves preserves.

Main definitions: **`Bench.holders`** and **`Bench.Sound`**.

Main statements: `Bench.Sound.make`, and `Bench.Reachable.sound`. -/

namespace BurstLink

namespace Station

variable {delays tears : Prop} {s : Station}

/-! ## Buffers that a job leaves behind -/

/-- Buffers that are taken back are nothing that custody is about. -/
theorem releaseBuffers_agree (s : Station) : Agree delays s s.releaseBuffers := by
  unfold releaseBuffers
  split
  · rename_i idle
    exact setBuffer_agree idle none
  · exact .refl s

/-- The lock is not among the buffers. -/
theorem releaseBuffers_locked (s : Station) : s.releaseBuffers.locked = s.locked := by
  unfold releaseBuffers
  split <;> rfl

/-- Buffers are handed back without a change of custody. -/
theorem Custody.releaseBuffers {holder : Option Activity} (h : s.Custody delays tears holder) :
    s.releaseBuffers.Custody delays tears holder :=
  h.transfer s.releaseBuffers_agree s.releaseBuffers_locked.symm

end Station

/-! ## One job -/

/-- The activities of a list of jobs that hold the lock. -/
def Job.holders (jobs : List Job) : List Activity :=
  (jobs.map Job.activity).filter Activity.holdsLock

namespace Job

variable {delays tears : Prop} {s : Station} {job : Job}

/-- The holders of two lists of jobs are those of the one and those of the other. -/
@[simp] theorem holders_append (before later : List Job) :
    holders (before ++ later) = holders before ++ holders later := by
  simp [holders]

/-- A job that holds the lock is the holder. -/
theorem holder_eq {jobs : List Job} {holder : Option Activity}
    (all : holders jobs = holder.toList) (member : job ∈ jobs)
    (holds : job.activity.holdsLock = true) : holder = some job.activity := by
  have mine : job.activity ∈ holders jobs :=
    List.mem_filter.mpr ⟨List.mem_map_of_mem member, holds⟩
  rw [all] at mine
  exact Option.mem_toList.mp mine

/-- A look at a job is a look at its activity, and the buffers of a job that is over are handed
back. -/
theorem poll_eq (job : Job) (s : Station) :
    job.poll s = match job.activity.poll s with
      | (s, .waiting activity) => (s, .waiting { job with activity := activity })
      | (s, .finished result) =>
        (s.releaseBuffers, .finished ⟨job.label, result, job.packets s⟩) := rfl

/-- A look that finds the activity going on. -/
theorem poll_of_waiting {job : Job} {s t : Station} {rest : Activity}
    (polled : job.activity.poll s = (t, .waiting rest)) :
    job.poll s = (t, .waiting { job with activity := rest }) := by
  rw [poll_eq, polled]

/-- A look that finds the activity over. -/
theorem poll_of_finished {job : Job} {s t : Station} {result : Result}
    (polled : job.activity.poll s = (t, .finished result)) :
    job.poll s = (t.releaseBuffers, .finished ⟨job.label, result, job.packets t⟩) := by
  rw [poll_eq, polled]

/-- A job goes on if its activity does. -/
theorem poll_waiting {job job' : Job} {s t : Station} (polled : job.poll s = (t, .waiting job')) :
    ∃ activity, job.activity.poll s = (t, .waiting activity) ∧
      job' = { job with activity := activity } := by
  rw [poll_eq] at polled
  rcases found : job.activity.poll s with ⟨u, activity | result⟩
  · rw [found] at polled
    obtain ⟨rfl, goesOn⟩ := Prod.mk.inj polled
    exact ⟨activity, rfl, (Look.waiting.inj goesOn).symm⟩
  · rw [found] at polled
    exact absurd (Prod.mk.inj polled).2 (by simp)

/-- A job is over if its activity is. -/
theorem poll_finished {job : Job} {s t : Station} {completion : Completion}
    (polled : job.poll s = (t, .finished completion)) :
    ∃ u, job.activity.poll s = (u, .finished completion.result) ∧ t = u.releaseBuffers ∧
      completion.label = job.label ∧ completion.packets = job.packets u := by
  rw [poll_eq] at polled
  rcases found : job.activity.poll s with ⟨u, activity | result⟩
  · rw [found] at polled
    exact absurd (Prod.mk.inj polled).2 (by simp)
  · rw [found] at polled
    obtain ⟨rfl, ended⟩ := Prod.mk.inj polled
    obtain rfl := Look.finished.inj ended
    exact ⟨u, rfl, rfl, rfl, rfl⟩

/-- The holders that a look at a job leaves in its place. -/
theorem holders_remaining (job : Job) (s : Station) :
    holders (remaining (job.poll s).2) = (Progress.holder (job.activity.poll s).2).toList := by
  rw [poll_eq]
  rcases job.activity.poll s with ⟨s', activity | result⟩
  · cases holds : activity.holdsLock with
    | true => simp [remaining, holders, Progress.holder, holds]
    | false => simp [remaining, holders, Progress.holder, holds]
  · rfl

/-- Custody passes from an activity to its job. -/
theorem custody_poll {holder : Option Activity}
    (h : (job.activity.poll s).1.Custody delays tears holder) :
    (job.poll s).1.Custody delays tears holder := by
  rw [poll_eq]
  rcases found : job.activity.poll s with ⟨s', activity | result⟩
  · rw [found] at h
    exact h
  · rw [found] at h
    exact h.releaseBuffers

/-- A job goes on as a regular operation if what is left of its activity is regular. -/
theorem regular_remaining
    (h : (job.activity.poll s).2.Meets Activity.Regular fun _ => True) :
    ∀ job' ∈ remaining (job.poll s).2, job'.activity.Regular := by
  rw [poll_eq]
  rcases found : job.activity.poll s with ⟨s', activity | result⟩
  · rw [found] at h
    intro job' member
    obtain rfl := List.mem_singleton.mp member
    exact h
  · intro job' member
    exact absurd member List.not_mem_nil

/-- A regular activity that does not hold the lock is a request. -/
theorem queued_of_not_holdsLock {activity : Activity} (regular : activity.Regular)
    (holds : activity.holdsLock = false) : ∃ request, activity = .queued request := by
  cases activity with
  | queued request => exact ⟨request, rfl⟩
  | testing t => exact absurd regular id
  | _ => simp [Activity.holdsLock] at holds

/-- **A look at an activity that waits for the lock changes nothing.** -/
theorem unchanged_of_locked {activity : Activity} (busy : s.locked = true)
    (regular : activity.Regular) (holds : activity.holdsLock = false) :
    (activity.poll s).1 = s := by
  obtain ⟨request, rfl⟩ := queued_of_not_holdsLock regular holds
  exact (Activity.poll_queued_busy busy regular).1

/-- If one of the activities that hold the lock is known, it is the only one. -/
theorem eq_of_split {before later : List Activity} {holder : Option Activity}
    {activity : Activity} (all : before ++ ([activity] ++ later) = holder.toList) :
    before = [] ∧ later = [] ∧ holder = some activity := by
  cases holder with
  | none => simp at all
  | some holder =>
    rcases before with - | ⟨first, before⟩
    · simpa [and_comm, eq_comm] using all
    · simp at all

/-- **After a look at one job among others at most one job holds the lock**: the one that held it
may have changed or given it back, and a job that did not hold it may have taken a free one. -/
theorem exists_holder_poll {before later : List Activity} {holder : Option Activity}
    {P : Option Activity → Prop} (all : before ++ (holders [job] ++ later) = holder.toList)
    (holding : holder = some job.activity → P (Progress.holder (job.activity.poll s).2))
    (other : job.activity.holdsLock = false →
      (Progress.holder (job.activity.poll s).2 = none ∧ P holder) ∨
        holder = none ∧ P (Progress.holder (job.activity.poll s).2)) :
    ∃ holder', before ++ (holders (remaining (job.poll s).2) ++ later) = holder'.toList ∧
      P holder' := by
  rw [holders_remaining]
  cases holds : job.activity.holdsLock with
  | true =>
    -- The job is the holder, so there is no other one.
    have single : before ++ ([job.activity] ++ later) = holder.toList := by
      simpa [holders, holds] using all
    obtain ⟨rfl, rfl, rfl⟩ := eq_of_split single
    exact ⟨_, by simp, holding rfl⟩
  | false =>
    have others : before ++ later = holder.toList := by
      simpa [holders, holds] using all
    rcases other holds with ⟨waits, kept⟩ | ⟨rfl, took⟩
    · exact ⟨holder, by rw [waits]; simpa using others, kept⟩
    · obtain ⟨rfl, rfl⟩ : before = [] ∧ later = [] := by simpa using others
      exact ⟨_, by simp, took⟩

/-- When one job among others is given up, the lock is free if that job held it. -/
theorem exists_holder_drop {before later : List Activity} {holder : Option Activity}
    {P : Option Activity → Prop} (all : before ++ (holders [job] ++ later) = holder.toList)
    (holding : holder = some job.activity → P none)
    (other : job.activity.holdsLock = false → P holder) :
    ∃ holder', before ++ later = holder'.toList ∧ P holder' := by
  cases holds : job.activity.holdsLock with
  | true =>
    have single : before ++ ([job.activity] ++ later) = holder.toList := by
      simpa [holders, holds] using all
    obtain ⟨rfl, rfl, rfl⟩ := eq_of_split single
    exact ⟨none, rfl, holding rfl⟩
  | false => exact ⟨holder, by simpa [holders, holds] using all, other holds⟩

/-- **A look at one job among others keeps custody**: whoever held the lock before, at most one of
the jobs holds it afterwards, and the station looks as that one demands. -/
theorem sound_poll {before later : List Activity} {holder : Option Activity}
    (h : s.Custody delays tears holder) (all : before ++ (holders [job] ++ later) = holder.toList)
    (regular : job.activity.Regular) :
    (∃ holder', before ++ (holders (remaining (job.poll s).2) ++ later) = holder'.toList ∧
      (job.poll s).1.Custody delays tears holder') ∧
    ∀ job' ∈ remaining (job.poll s).2, job'.activity.Regular := by
  have found : ∃ holder', before ++ (holders (remaining (job.poll s).2) ++ later) =
      holder'.toList ∧ (job.poll s).1.Custody delays tears holder' ∧
        ∀ job' ∈ remaining (job.poll s).2, job'.activity.Regular := by
    -- the job has the lock, or it is asked for
    refine exists_holder_poll all ?_ ?_
    · rintro rfl
      have polled := Activity.orderly_poll_holding h
      exact ⟨custody_poll polled.custody, regular_remaining polled.regular⟩
    · intro holds
      obtain ⟨request, queued⟩ := queued_of_not_holdsLock regular holds
      rw [queued] at regular
      cases holder with
      | none =>
        have polled := Activity.orderly_poll_queued h regular
        rw [← queued] at polled
        exact .inr ⟨rfl, custody_poll polled.custody, regular_remaining polled.regular⟩
      | some activity =>
        obtain ⟨same, free, goesOn⟩ := Activity.poll_queued_busy h.1 regular
        rw [← queued] at same free goesOn
        refine .inl ⟨free, custody_poll ?_, regular_remaining goesOn⟩
        rw [same]
        exact h
  obtain ⟨holder', all', custody, regular'⟩ := found
  exact ⟨⟨holder', all', custody⟩, regular'⟩

/-- **Giving up one job among others keeps custody.** -/
theorem sound_drop {before later : List Activity} {holder : Option Activity}
    (h : s.Custody delays tears holder) (all : before ++ (holders [job] ++ later) = holder.toList)
    (regular : job.activity.Regular) (may : job.activity.isSwitching = true → tears) :
    ∃ holder', before ++ later = holder'.toList ∧ (job.drop s).Custody delays tears holder' := by
  refine exists_holder_drop all ?_ ?_
  · rintro rfl
    exact (Activity.custody_drop h may).releaseBuffers
  · intro holds
    obtain ⟨request, queued⟩ := queued_of_not_holdsLock regular holds
    unfold drop
    rw [queued]
    exact h.releaseBuffers

end Job

/-! ## All jobs -/

/-- At most one job holds the lock, the station looks as that one demands, and every job is
regular. -/
structure Bench.Sound (delays tears : Prop) (b : Bench) : Prop where
  custody : ∃ holder, Job.holders b.jobs = holder.toList ∧ b.station.Custody delays tears holder
  regular : ∀ job ∈ b.jobs, job.activity.Regular

/-- Looking for a scanner changes nothing but the scanners. -/
theorem Station.currentScanner_fst (s : Station) :
    ∃ scanners, s.currentScanner.1 = { s with scanners := scanners } := by
  unfold currentScanner
  split
  · exact ⟨s.scanners, rfl⟩
  · exact ⟨_, rfl⟩

/-- Arranging the surroundings changes nothing that custody is about, and no job. -/
theorem Bench.execute_of_arranges {b : Bench} {command : Command} (arranges : command.Arranges) :
    Station.Agree True b.station (b.execute command).1.station ∧
      b.station.locked = (b.execute command).1.station.locked ∧
      (b.execute command).1.jobs = b.jobs := by
  have surrounded : ∀ air, Station.Agree True b.station
      { b.station with radio := { b.station.radio with air := air } } := fun air =>
    ⟨rfl, fun _ => rfl, rfl, rfl, Or.inl trivial, rfl, rfl, rfl, rfl, rfl, rfl, rfl⟩
  have current : Station.Agree True b.station b.station.currentScanner.1 ∧
      b.station.locked = b.station.currentScanner.1.locked := by
    obtain ⟨scanners, found⟩ := b.station.currentScanner_fst
    rw [found]
    exact ⟨Station.scanners_agree .., rfl⟩
  cases command with
  | schedule responses => exact ⟨surrounded _, rfl, rfl⟩
  | setAir setting => exact ⟨surrounded _, rfl, rfl⟩
  | putUpScanner heard =>
    unfold execute
    dsimp only
    split
    · exact ⟨Station.scanners_agree .., rfl, rfl⟩
    · exact ⟨.refl _, rfl, rfl⟩
  | setSilent on => exact ⟨current.1.trans (Station.scanners_agree ..), current.2, rfl⟩
  | report report =>
    exact ⟨current.1.trans (Station.report_agree ..),
      current.2.trans (Station.report_locked ..).symm, rfl⟩
  | _ => exact absurd arranges id

/-- Of the radio, arranging the surroundings changes nothing else; and it takes no time. -/
theorem Bench.radio_of_arranges {b : Bench} {command : Command} (arranges : command.Arranges) :
    (∃ air, (b.execute command).1.station.radio = { b.station.radio with air := air }) ∧
      (b.execute command).1.station.clock = b.station.clock := by
  have current : b.station.currentScanner.1.radio = b.station.radio ∧
      b.station.currentScanner.1.clock = b.station.clock := by
    obtain ⟨scanners, found⟩ := b.station.currentScanner_fst
    rw [found]
    exact ⟨rfl, rfl⟩
  cases command with
  | schedule responses => exact ⟨⟨_, rfl⟩, rfl⟩
  | setAir setting => exact ⟨⟨_, rfl⟩, rfl⟩
  | putUpScanner heard =>
    unfold execute
    dsimp only
    split
    · exact ⟨⟨_, rfl⟩, rfl⟩
    · exact ⟨⟨_, rfl⟩, rfl⟩
  | setSilent on => exact ⟨⟨_, current.1⟩, current.2⟩
  | report report =>
    unfold execute
    dsimp only
    unfold Station.report
    split
    · exact ⟨⟨_, current.1⟩, current.2⟩
    · exact ⟨⟨_, current.1⟩, current.2⟩
  | _ => exact absurd arranges id

/-- Asking for an operation changes nothing that custody is about. -/
theorem Bench.enlist_agree {delays : Prop} (b : Bench) (label : Option String) (work : Work) :
    Station.Agree delays b.station (b.enlist label work).station := by
  cases work with
  | request request => exact .refl _
  | send packet ack => exact Station.buffers_agree ..
  | scanPresence channel window =>
    obtain ⟨scanners, found⟩ := b.station.currentScanner_fst
    show Station.Agree delays b.station b.station.currentScanner.1
    rw [found]
    exact Station.scanners_agree ..

/-- The station looks as the one job that holds the lock demands. -/
theorem Bench.Sound.held {delays tears : Prop} {b : Bench} (h : b.Sound delays tears) {job : Job}
    (member : job ∈ b.jobs) (holds : job.activity.holdsLock = true) :
    b.station.locked = true ∧ b.station.Held delays job.activity := by
  obtain ⟨holder, all, custody⟩ := h.custody
  obtain rfl := Job.holder_eq all member holds
  exact custody

/-- With the lock free the station is at rest. -/
theorem Bench.Sound.atRest_of_free {delays tears : Prop} {b : Bench} (h : b.Sound delays tears)
    (free : b.station.locked = false) : b.station.AtRest delays tears := by
  obtain ⟨holder, -, custody⟩ := h.custody
  cases holder with
  | none => exact custody.2
  | some activity => exact absurd (free.symm.trans custody.1) (by simp)

/-- The move gives up a switch that waits for the link to stop. -/
def Bench.tearsBy (b : Bench) : Move → Bool
  | .giveUp position => b.jobs[position]?.any fun job => job.activity.isSwitching
  | _ => false

namespace Bench.Sound

variable {delays tears : Prop} {b : Bench}

/-- A look at one job. -/
theorem lookAt (h : b.Sound delays tears) (position : Nat) :
    (b.lookAt position).Sound delays tears := by
  cases found : b.jobs[position]? with
  | none =>
    rw [lookAt_of_none found]
    exact h
  | some job =>
    -- the holders of the whole list are those before, the job itself, and those after it
    obtain ⟨before, later, jobs, rfl⟩ := exists_split found
    obtain ⟨station', jobs'⟩ := lookAt_split jobs
    obtain ⟨holder, all, custody⟩ := h.custody
    have regular : job.activity.Regular := h.regular job (by rw [jobs]; simp)
    rw [jobs, Job.holders_append, ← List.singleton_append, Job.holders_append] at all
    obtain ⟨⟨holder', all', custody'⟩, regular'⟩ := Job.sound_poll custody all regular
    refine ⟨⟨holder', ?_, ?_⟩, ?_⟩
    · rw [jobs', Job.holders_append, Job.holders_append]
      exact all'
    · rw [station']
      exact custody'
    · intro job' member
      rw [jobs'] at member
      rcases List.mem_append.mp member with old | new
      · exact h.regular job' (by rw [jobs]; simp [old])
      rcases List.mem_append.mp new with new | old
      · exact regular' job' new
      · exact h.regular job' (by rw [jobs]; simp [old])

/-- A job given up. -/
theorem giveUp (h : b.Sound delays tears) {position : Nat}
    (may : b.tearsBy (.giveUp position) = true → tears) :
    (b.giveUp position).Sound delays tears := by
  cases found : b.jobs[position]? with
  | none =>
    rw [giveUp_of_none found]
    exact h
  | some job =>
    obtain ⟨before, later, jobs, rfl⟩ := exists_split found
    obtain ⟨station', jobs'⟩ := giveUp_split jobs
    obtain ⟨holder, all, custody⟩ := h.custody
    have regular : job.activity.Regular := h.regular job (by rw [jobs]; simp)
    rw [jobs, Job.holders_append, ← List.singleton_append, Job.holders_append] at all
    have may' : job.activity.isSwitching = true → tears := fun switching =>
      may (by simp [tearsBy, found, switching])
    obtain ⟨holder', all', custody'⟩ := Job.sound_drop custody all regular may'
    refine ⟨⟨holder', ?_, ?_⟩, ?_⟩
    · rw [jobs', Job.holders_append]
      exact all'
    · rw [station']
      exact custody'
    · intro job' member
      rw [jobs'] at member
      rcases List.mem_append.mp member with old | old
      · exact h.regular job' (by rw [jobs]; simp [old])
      · exact h.regular job' (by rw [jobs]; simp [old])

/-- A change of the station that custody does not notice. -/
theorem onStation (h : b.Sound delays tears) {f : Station → Station}
    (kept : ∀ holder,
      b.station.Custody delays tears holder → (f b.station).Custody delays tears holder) :
    (b.onStation f).Sound delays tears := by
  obtain ⟨holder, all, custody⟩ := h.custody
  exact ⟨⟨holder, all, kept holder custody⟩, h.regular⟩

/-- A job that has not started. -/
theorem add (h : b.Sound delays tears) {station : Station} {job : Job} {request : Request}
    (agree : Station.Agree delays b.station station) (locked : b.station.locked = station.locked)
    (queued : job.activity = .queued request) (regular : request.Regular) :
    ({ b with station := station, jobs := b.jobs ++ [job] } : Bench).Sound delays tears := by
  obtain ⟨holder, all, custody⟩ := h.custody
  refine ⟨⟨holder, ?_, custody.transfer agree locked⟩, ?_⟩
  · rw [Job.holders_append, all]
    simp [Job.holders, queued, Activity.holdsLock]
  · intro job' member
    rcases List.mem_append.mp member with old | new
    · exact h.regular job' old
    · obtain rfl := List.mem_singleton.mp new
      rw [queued]
      exact regular

/-- An operation that is asked for. -/
theorem enlist (h : b.Sound delays tears) (label : Option String) {work : Work}
    (regular : work.Regular) : (b.enlist label work).Sound delays tears := by
  cases work with
  | request request =>
    refine h.add (.refl _) rfl (by rfl) ?_
    cases request with
    | send packet ack => exact absurd regular id
    | testAmplifiers => exact absurd regular id
    | _ => trivial
  | send packet ack =>
    exact h.add (Station.buffers_agree ..) rfl rfl
      (Station.added_apart b.station.buffers packet ack)
  | scanPresence channel window =>
    unfold Bench.enlist Station.currentScanner
    dsimp only
    split
    · exact h.add (.refl _) rfl rfl trivial
    · exact h.add (Station.scanners_agree ..) rfl rfl trivial

/-- Another station that custody cannot tell from the one before. -/
theorem replace (h : b.Sound delays tears) {station : Station}
    (agree : Station.Agree delays b.station station) (locked : b.station.locked = station.locked) :
    ({ b with station := station } : Bench).Sound delays tears := by
  obtain ⟨holder, all, custody⟩ := h.custody
  exact ⟨⟨holder, all, custody.transfer agree locked⟩, h.regular⟩

/-- What surrounds the radio is arranged; that may change the latency. -/
theorem arrange (h : b.Sound True tears) {command : Command} (arranges : command.Arranges) :
    (b.execute command).1.Sound True tears := by
  obtain ⟨agree, locked, jobs⟩ := execute_of_arranges arranges
  obtain ⟨holder, all, custody⟩ := h.custody
  refine ⟨⟨holder, ?_, custody.transfer agree locked⟩, ?_⟩
  · rw [jobs]
    exact all
  · rw [jobs]
    exact h.regular

/-- **Custody of the radio is kept by every regular move.** -/
theorem make (h : b.Sound True tears) {move : Move} (regular : move.Regular)
    (may : b.tearsBy move = true → tears) : (b.make move).Sound True tears := by
  cases move with
  | ask label work => exact h.enlist label regular
  | look position => exact h.lookAt position
  | giveUp position => exact h.giveUp may
  | wait time =>
    exact h.replace (Station.clock_agree ..) rfl
  | service => exact h.onStation fun _ custody => custody.serviceRadio
  | pump => exact h.onStation (f := fun s => s.pump.1) fun _ custody => custody.pump
  | arrange command => exact h.arrange regular
  | turnPage =>
    have cleared :
        ({ b with station := { b.station with journal := [] } } : Bench).Sound True tears :=
      h.replace (Station.journal_agree ..) rfl
    exact ⟨cleared.custody, cleared.regular⟩

/-- At start-up nobody owns the radio. -/
theorem startUp {s : Station} (h : s.AtStartUp) : (Bench.ofStation s).Sound delays tears := by
  obtain ⟨draws, rfl | rfl⟩ := h
  · refine ⟨⟨none, rfl, rfl, .dark (.inl rfl)
      ⟨⟨rfl, rfl, rfl, rfl, .inr rfl⟩, rfl, rfl, rfl, rfl, ?_⟩⟩, by simp [Bench.ofStation]⟩
    rintro _ ⟨⟩
    exact ⟨rfl, rfl⟩
  · refine ⟨⟨none, rfl, rfl, .dark (.inl rfl)
      ⟨⟨rfl, rfl, rfl, rfl, .inr rfl⟩, rfl, rfl, rfl, rfl, ?_⟩⟩, by simp [Bench.ofStation]⟩
    rintro _ ⟨⟩

end Bench.Sound

/-- **On every reachable bench at most one job holds the lock, and the station looks as custody
says.** -/
theorem Bench.Reachable.sound {b : Bench} (h : b.Reachable) : b.Sound True True :=
  h.induct (fun _ start => .startUp start) fun _ sound _ regular =>
    sound.make regular fun _ => trivial

end BurstLink
