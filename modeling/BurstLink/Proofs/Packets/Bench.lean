import BurstLink.Proofs.Packets.Buffers

/-! # Packets on a bench

Different jobs have different buffers, so whatever happens to one job leaves the packets of the
others alone. Looks and steps of the radio apart, no move of a bench touches a packet at all.

Main definition: **`Bench.Tidy`**.

Main statements: `Bench.Reachable.tidy`, `Bench.Sound.traffic` for looks, and
`Bench.spares_enlist`, `Job.spares_drop`, `Bench.spares_arrange` for moves that touch no packet. -/

namespace BurstLink

/-! ## One job -/

/-- Buffers are handed back by pointing the radio elsewhere, if at all. -/
theorem Station.releaseBuffers_pointed (s : Station) :
    ∃ pointer, s.releaseBuffers = s.onRadio (Radio.setBuffer pointer) := by
  unfold Station.releaseBuffers
  split
  · exact ⟨none, rfl⟩
  · exact ⟨s.radio.buffer, rfl⟩

namespace Activity

variable {s : Station} {activity rest : Activity} {found : Station × Progress} {b : Buffer}

/-- The buffers of two operations are different ones. -/
def Apart (activity other : Activity) : Prop := ∀ b ∈ activity.handles, b ∉ other.handles

/-- Of two operations without a common buffer, either may come first. -/
theorem Apart.symm {other : Activity} (h : activity.Apart other) : other.Apart activity :=
  fun b mem mem' => h b mem' mem

/-- The buffers of an activity that fits are there. -/
theorem Fits.known (h : activity.Fits s) (mem : b ∈ activity.handles) :
    b.index < s.buffers.count := by
  obtain ⟨⟨packet, ack⟩, has, rfl | rfl⟩ := mem_handles.mp mem
  · exact (h _ _ has).2.1
  · exact (h _ _ has).2.2

/-- Buffers that exist go on existing when more are added. -/
theorem Fits.mono {t : Station} (h : activity.Fits s) (count : s.buffers.count ≤ t.buffers.count) :
    activity.Fits t := by
  intro packet ack has
  obtain ⟨apart, known, known'⟩ := h packet ack has
  exact ⟨apart, Nat.lt_of_lt_of_le known count, Nat.lt_of_lt_of_le known' count⟩

/-- What goes on has two buffers of the station again. -/
theorem Traffic.fits (h : activity.Traffic s found) (fits : activity.Fits s)
    (goesOn : found.2 = .waiting rest) : rest.Fits found.1 := by
  intro packet ack has
  rcases h.buffers goesOn with same | ⟨-, none' | ⟨packet', ack', new, apart, known, known'⟩⟩
  · exact fits.mono h.count packet ack (same.symm.trans has)
  · exact absurd (none'.symm.trans has) (by simp)
  · obtain ⟨rfl, rfl⟩ := Prod.mk.inj (Option.some.inj (new.symm.trans has))
    exact ⟨apart, known.2, known'.2⟩

/-- The buffers of what goes on are those it had, or new ones. -/
theorem Traffic.mem_handles (h : activity.Traffic s found) (goesOn : found.2 = .waiting rest)
    (mem : b ∈ rest.handles) : b ∈ activity.handles ∨ s.buffers.count ≤ b.index := by
  obtain ⟨⟨packet, ack⟩, has, eq⟩ := Activity.mem_handles.mp mem
  rcases h.buffers goesOn with same | ⟨-, none' | ⟨packet', ack', new, apart, known, known'⟩⟩
  · exact .inl (Activity.mem_handles.mpr ⟨_, same.symm.trans has, eq⟩)
  · exact absurd (none'.symm.trans has) (by simp)
  · obtain ⟨rfl, rfl⟩ := Prod.mk.inj (Option.some.inj (new.symm.trans has))
    rcases eq with rfl | rfl
    · exact .inr known.1
    · exact .inr known'.1

/-- The buffers that an operation was given stay its buffers. -/
theorem Traffic.own (h : activity.Traffic s found) (goesOn : found.2 = .waiting rest)
    {own : Buffer × Buffer} (has : activity.buffers? = some own) : rest.buffers? = some own := by
  rcases h.buffers goesOn with same | ⟨none', -⟩
  · exact same.trans has
  · exact absurd (none'.symm.trans has) (by simp)

end Activity

namespace Job

open Station

variable {s : Station}

/-- After a look at a job the station is the one after a look at its activity, up to the packet that
the radio points at. -/
theorem poll_pointed (job : Job) (s : Station) : ∃ pointer,
    (job.poll s).1 = (job.activity.poll s).1.onRadio (Radio.setBuffer pointer) := by
  rw [poll_eq]
  rcases job.activity.poll s with ⟨t, rest | result⟩
  · exact ⟨t.radio.buffer, rfl⟩
  · exact t.releaseBuffers_pointed

/-- **Giving a job up sends nothing.** -/
theorem spares_drop (job : Job) (s : Station) : s.Spares (job.drop s) := by
  have dropped : s.Spares (job.activity.drop s) := by
    cases job.activity with
    | sending f purpose => exact (s.spares_forceIdle _).trans (spares_setLocked ..)
    | switching t => exact s.spares_setLocked false
    | measuring m => exact s.spares_endMeasurement.trans (spares_setLocked ..)
    | listening l => exact s.spares_setLocked false
    | _ => exact .refl s
  exact dropped.trans (spares_releaseBuffers _)

end Job

/-! ## Different jobs -/

/-- Every job has buffers of its own, and those that it was given. -/
structure Bench.Tidy (b : Bench) : Prop where
  fits : ∀ job ∈ b.jobs, job.activity.Fits b.station
  apart : b.jobs.Pairwise fun job other => job.activity.Apart other.activity
  own : ∀ job ∈ b.jobs, ∀ own, job.buffers = some own → job.activity.buffers? = some own

/-- Of the members of a list with one member exchanged, each is the new one or an old one. -/
theorem Bench.mem_exchange {α : Type} {before later : List α} {a x : α}
    (member : x ∈ before ++ a :: later) : x = a ∨ x ∈ before ++ later := by
  rcases List.mem_append.mp member with old | new
  · exact .inr (by simp [old])
  · rcases List.mem_cons.mp new with rfl | old
    · exact .inl rfl
    · exact .inr (by simp [old])

/-- The others of a list are members of the whole. -/
theorem Bench.mem_of_others {α : Type} {before later : List α} {a x : α}
    (member : x ∈ before ++ later) : x ∈ before ++ a :: later := by
  rcases List.mem_append.mp member with first | last
  · simp [first]
  · simp [last]

namespace Bench.Tidy

variable {b : Bench} {job rest : Job} {before later : List Job} {t : Station}

/-- One job is apart from each of the others. -/
theorem apart_of_split (h : b.Tidy) (jobs : b.jobs = before ++ job :: later) {other : Job}
    (member : other ∈ before ++ later) : job.activity.Apart other.activity := by
  have apart := h.apart
  rw [jobs, List.pairwise_append, List.pairwise_cons] at apart
  rcases List.mem_append.mp member with first | last
  · exact (apart.2.2 other first job (by simp)).symm
  · exact apart.2.1.1 other last

/-- Fewer jobs on a station with at least as many buffers. -/
theorem sublist (h : b.Tidy) {bench : Bench} (jobs : bench.jobs.Sublist b.jobs)
    (count : b.station.buffers.count ≤ bench.station.buffers.count) : bench.Tidy where
  fits job member := (h.fits job (jobs.subset member)).mono count
  apart := h.apart.sublist jobs
  own job member := h.own job (jobs.subset member)

/-- One more job, with no buffers that there were. -/
theorem add (h : b.Tidy) {bench : Bench} (jobs : bench.jobs = b.jobs ++ [job])
    (count : b.station.buffers.count ≤ bench.station.buffers.count)
    (fits : job.activity.Fits bench.station)
    (new : ∀ buffer ∈ job.activity.handles, b.station.buffers.count ≤ buffer.index)
    (own : ∀ own, job.buffers = some own → job.activity.buffers? = some own) : bench.Tidy where
  fits other member := by
    rw [jobs] at member
    rcases List.mem_append.mp member with old | is
    · exact (h.fits other old).mono count
    · exact List.mem_singleton.mp is ▸ fits
  apart := by
    rw [jobs, List.pairwise_append]
    refine ⟨h.apart, List.pairwise_singleton .., ?_⟩
    intro other member job' is buffer mem mem'
    rw [List.mem_singleton.mp is] at mem'
    exact absurd ((h.fits other member).known mem) (Nat.not_lt.mpr (new buffer mem'))
  own other member := by
    rw [jobs] at member
    rcases List.mem_append.mp member with old | is
    · exact h.own other old
    · exact List.mem_singleton.mp is ▸ own

/-- One job that goes on with its buffers or with new ones. -/
theorem exchange (h : b.Tidy) {bench : Bench} (was : b.jobs = before ++ job :: later)
    (jobs : bench.jobs = before ++ rest :: later)
    (count : b.station.buffers.count ≤ bench.station.buffers.count)
    (fits : rest.activity.Fits bench.station)
    (handles : ∀ buffer ∈ rest.activity.handles,
      buffer ∈ job.activity.handles ∨ b.station.buffers.count ≤ buffer.index)
    (own : ∀ own, rest.buffers = some own → rest.activity.buffers? = some own) : bench.Tidy := by
  have others : ∀ other ∈ before ++ later, other ∈ b.jobs :=
    fun other member => was ▸ mem_of_others member
  -- a buffer of the job was its own before, or nobody had it
  have apart : ∀ other ∈ before ++ later, rest.activity.Apart other.activity := by
    intro other member buffer mem mem'
    rcases handles buffer mem with old | new
    · exact h.apart_of_split was member buffer old mem'
    · exact absurd ((h.fits other (others other member)).known mem') (Nat.not_lt.mpr new)
  refine ⟨?_, ?_, ?_⟩
  · intro other member
    rw [jobs] at member
    rcases mem_exchange member with rfl | old
    · exact fits
    · exact (h.fits other (others other old)).mono count
  · have pairs := h.apart
    rw [was, List.pairwise_append, List.pairwise_cons] at pairs
    rw [jobs, List.pairwise_append, List.pairwise_cons]
    refine ⟨pairs.1, ⟨fun other last => apart other (by simp [last]), pairs.2.1.2⟩, ?_⟩
    intro other first job' member
    rcases List.mem_cons.mp member with rfl | last
    · exact (apart other (by simp [first])).symm
    · exact pairs.2.2 other first job' (by simp [last])
  · intro other member
    rw [jobs] at member
    rcases mem_exchange member with rfl | old
    · exact own
    · exact h.own other (others other old)

end Bench.Tidy

/-! ## Moves -/

/-- The packet that an operation is asked to send. -/
def Work.packet? : Work → Option Packet
  | .send packet _ => some packet
  | .request (.sendPayload bytes) => some (.ofPayload (.truncate bytes))
  | .request (.scanChannels _ _ bytes) => some (.ofPayload (.truncate bytes))
  | _ => none

namespace Bench

open Station

variable {b : Bench} {job : Job}

/-- A look at a regular job. -/
theorem Sound.traffic (h : b.Sound True True) (tidy : b.Tidy) (member : job ∈ b.jobs) :
    job.activity.Traffic b.station (job.activity.poll b.station) :=
  Activity.poll_traffic (h.regular job member) (tidy.fits job member)

/-- Putting a scanner up sends nothing. -/
theorem spares_currentScanner (s : Station) : s.Spares s.currentScanner.1 := by
  obtain ⟨scanners, found⟩ := s.currentScanner_fst
  rw [found]
  exact .of_eq rfl rfl rfl (.inl rfl)

/-- **Asking for an operation sends nothing.** -/
theorem spares_enlist (label : Option String) (work : Work) (b : Bench) :
    b.station.Spares (b.enlist label work).station := by
  cases work with
  | request request => exact .refl _
  | send packet ack => exact (b.station.spares_addBuffer packet).trans (spares_addBuffer ack _)
  | scanPresence channel window => exact spares_currentScanner b.station

/-- **Arranging the surroundings sends nothing.** -/
theorem spares_arrange {command : Command} (arranges : command.Arranges) :
    b.station.Spares (b.execute command).1.station := by
  have current : b.station.Spares b.station.currentScanner.1 := spares_currentScanner b.station
  cases command with
  | schedule responses => exact .of_eq rfl rfl rfl (.inl rfl)
  | setAir setting =>
    have same : (setting.apply b.station.radio.air).history = b.station.radio.air.history := by
      cases setting <;> rfl
    exact .of_eq rfl rfl same (.inl rfl)
  | putUpScanner heard =>
    unfold execute
    dsimp only
    split
    · exact .of_eq rfl rfl rfl (.inl rfl)
    · exact .refl _
  | setSilent on => exact current.trans (spares_onScanner ..)
  | report report => exact current.trans (spares_report ..)
  | _ => exact absurd arranges id

/-- A job that has just been asked for: it has new buffers, if any, and sends what was asked for. -/
structure Newcomer (count : Nat) (work : Work) (s : Station) (job : Job) : Prop where
  fits : job.activity.Fits s
  fresh : ∀ buffer ∈ job.activity.handles, count ≤ buffer.index
  own : ∀ own, job.buffers = some own → job.activity.buffers? = some own
  outgoing : job.activity.outgoing? s = work.packet?
  waits : job.activity.flight? = none

/-- Asking for an operation adds a job at the end of the list. -/
theorem enlist_newcomer (label : Option String) {work : Work} (regular : work.Regular)
    (b : Bench) : ∃ job, (b.enlist label work).jobs = b.jobs ++ [job] ∧
      Newcomer b.station.buffers.count work (b.enlist label work).station job := by
  -- what brings no buffers along has none
  have bare : ∀ request : Request, (Activity.queued request).buffers? = none →
      (Activity.queued request).Fits (b.enlist label work).station ∧
        ∀ buffer ∈ (Activity.queued request).handles, b.station.buffers.count ≤ buffer.index := by
    intro request none'
    constructor
    · intro packet ack has
      exact absurd (none'.symm.trans has) (by simp)
    · simp [Activity.handles, none']
  cases work with
  | request request =>
    have none' : (Activity.queued request).buffers? = none := by
      cases request with
      | send packet ack => exact absurd regular id
      | _ => rfl
    obtain ⟨fits, fresh⟩ := bare request none'
    refine ⟨_, rfl, fits, fresh, (by rintro _ ⟨⟩), ?_, rfl⟩
    cases request with
    | send packet ack => exact absurd regular id
    | _ => rfl
  | send packet ack =>
    refine ⟨_, rfl, ?_, ?_, fun own has => has, ?_, rfl⟩
    · intro p a has
      obtain ⟨rfl, rfl⟩ := Prod.mk.inj (Option.some.inj has)
      exact ⟨added_apart b.station.buffers packet ack, Nat.lt_succ_of_lt (Nat.lt_succ_self _),
        Nat.lt_succ_self _⟩
    · intro buffer member
      obtain ⟨own, has, eq⟩ := Activity.mem_handles.mp member
      obtain rfl := Option.some.inj has
      rcases eq with rfl | rfl
      · exact Nat.le_refl _
      · exact Nat.le_succ _
    · exact congrArg some (Pool.get_add_add b.station.buffers packet ack)
  | scanPresence channel window =>
    refine ⟨_, rfl, ?_, ?_, (by rintro _ ⟨⟩), rfl, rfl⟩
    · exact (bare _ rfl).1
    · exact (bare (.scanPresence b.station.currentScanner.2 channel window) rfl).2

/-- A look at one job among others: it is over, or goes on in its place. -/
theorem lookAt_job {before later : List Job} (jobs : b.jobs = before ++ job :: later) :
    (b.lookAt before.length).station = (job.poll b.station).1 ∧
      (((∀ rest, (job.activity.poll b.station).2 ≠ .waiting rest) ∧
          (b.lookAt before.length).jobs = before ++ later) ∨
        ∃ rest, (job.activity.poll b.station).2 = .waiting rest ∧
          (b.lookAt before.length).jobs = before ++ { job with activity := rest } :: later) := by
  obtain ⟨station', jobs'⟩ := lookAt_split jobs
  refine ⟨station', ?_⟩
  rw [jobs', Job.poll_eq]
  rcases job.activity.poll b.station with ⟨t, rest | result⟩
  · exact .inr ⟨rest, rfl, rfl⟩
  · exact .inl ⟨fun rest goesOn => (by cases goesOn), rfl⟩

/-- A look finds no job, or one among others. -/
theorem lookAt_cases (b : Bench) (position : Nat) : b.lookAt position = b ∨
    ∃ before job later, b.jobs = before ++ job :: later ∧ position = before.length ∧
      (b.lookAt position).station = (job.poll b.station).1 ∧
      (((∀ rest, (job.activity.poll b.station).2 ≠ .waiting rest) ∧
          (b.lookAt position).jobs = before ++ later) ∨
        ∃ rest, (job.activity.poll b.station).2 = .waiting rest ∧
          (b.lookAt position).jobs = before ++ { job with activity := rest } :: later) := by
  cases found : b.jobs[position]? with
  | none => exact .inl (lookAt_of_none found)
  | some job =>
    obtain ⟨before, later, jobs, rfl⟩ := exists_split found
    exact .inr ⟨before, job, later, jobs, rfl, lookAt_job jobs⟩

/-- A job among others that is given up. -/
theorem giveUp_cases (b : Bench) (position : Nat) : b.giveUp position = b ∨
    ∃ before job later, b.jobs = before ++ job :: later ∧ position = before.length ∧
      (b.giveUp position).station = job.drop b.station ∧
      (b.giveUp position).jobs = before ++ later := by
  cases found : b.jobs[position]? with
  | none => exact .inl (giveUp_of_none found)
  | some job =>
    obtain ⟨before, later, jobs, rfl⟩ := exists_split found
    obtain ⟨station', jobs'⟩ := giveUp_split jobs
    exact .inr ⟨before, job, later, jobs, rfl, station', jobs'⟩

/-- A job stays in the list until it is looked at or given up. -/
theorem mem_make {move : Move} (arranges : ∀ command, move = .arrange command → command.Arranges)
    (member : job ∈ b.jobs) : job ∈ (b.make move).jobs ∨
      ∃ position, b.jobs[position]? = some job ∧
        (move = .look position ∨ move = .giveUp position) := by
  cases move with
  -- only a look at the job itself or giving it up takes it away
  | look position =>
    cases found : b.jobs[position]? with
    | none => exact .inl (by rwa [make, lookAt_of_none found])
    | some looked =>
      obtain ⟨before, later, jobs, rfl⟩ := exists_split found
      rcases mem_exchange (jobs ▸ member) with rfl | others
      · exact .inr ⟨_, found, .inl rfl⟩
      · exact .inl (mem_lookAt_of_others jobs others)
  | giveUp position =>
    cases found : b.jobs[position]? with
    | none => exact .inl (by rwa [make, giveUp_of_none found])
    | some dropped =>
      obtain ⟨before, later, jobs, rfl⟩ := exists_split found
      rcases mem_exchange (jobs ▸ member) with rfl | others
      · exact .inr ⟨_, found, .inr rfl⟩
      · exact .inl (by rwa [make, (giveUp_split jobs).2])
  | ask label work =>
    refine .inl ?_
    cases work <;> exact List.mem_append_left _ member
  | arrange command =>
    refine .inl ?_
    rwa [make, (execute_of_arranges (arranges command rfl)).2.2]
  | _ => exact .inl member

/-- Giving a job up sends nothing. -/
theorem spares_giveUp (b : Bench) (position : Nat) :
    b.station.Spares (b.giveUp position).station := by
  rcases b.giveUp_cases position with same | ⟨before, job, later, jobs, -, station', -⟩
  · rw [same]
  · rw [station']
    exact job.spares_drop b.station

/-- A look removes no buffer. -/
theorem count_lookAt (h : b.Sound True True) (tidy : b.Tidy) (position : Nat) :
    b.station.buffers.count ≤ (b.lookAt position).station.buffers.count := by
  rcases b.lookAt_cases position with same | ⟨before, job, later, jobs, -, station', -⟩
  · exact Nat.le_of_eq (congrArg (fun b => b.station.buffers.count) same.symm)
  · obtain ⟨pointer, pointed⟩ := job.poll_pointed b.station
    rw [station', pointed]
    exact (h.traffic tidy (by simp [jobs])).count

/-- A look at one job leaves the packets of the others alone. -/
theorem get_lookAt (h : b.Sound True True) (tidy : b.Tidy) {before later : List Job} {other : Job}
    (jobs : b.jobs = before ++ job :: later) (others : other ∈ before ++ later)
    {own : Buffer × Buffer} (has : other.activity.buffers? = some own) :
    (b.lookAt before.length).station.buffers.get own.1 = b.station.buffers.get own.1 := by
  have mine : own.1 ∈ other.activity.handles := Activity.mem_handles.mpr ⟨own, has, .inl rfl⟩
  have known : other ∈ b.jobs := jobs ▸ mem_of_others others
  obtain ⟨pointer, pointed⟩ := job.poll_pointed b.station
  rw [(lookAt_job jobs).1, pointed]
  exact (h.traffic tidy (by simp [jobs])).get_of_not_mem ((tidy.fits other known).known mine)
    ((tidy.apart_of_split jobs others).symm _ mine)

namespace Tidy

/-- A look at an operation leaves the bench tidy. -/
theorem lookAt (tidy : b.Tidy) (h : b.Sound True True) (position : Nat) :
    (b.lookAt position).Tidy := by
  have count := count_lookAt h tidy position
  rcases b.lookAt_cases position with same | ⟨before, job, later, jobs, -, station', after⟩
  · rw [same]
    exact tidy
  · have member : job ∈ b.jobs := by simp [jobs]
    have traffic := h.traffic tidy member
    rcases after with ⟨-, jobs'⟩ | ⟨rest, goesOn, jobs'⟩
    · refine tidy.sublist ?_ count
      rw [jobs', jobs]
      exact (List.Sublist.refl before).append (List.sublist_cons_self job later)
    · obtain ⟨pointer, pointed⟩ := job.poll_pointed b.station
      refine tidy.exchange jobs jobs' count ?_ (fun buffer => traffic.mem_handles goesOn) ?_
      · rw [station', pointed]
        exact traffic.fits (tidy.fits job member) goesOn
      · intro own has
        exact traffic.own goesOn (tidy.own job member own has)

/-- So does giving one up. -/
theorem giveUp (tidy : b.Tidy) (position : Nat) : (b.giveUp position).Tidy := by
  have count := (b.spares_giveUp position).count
  rcases b.giveUp_cases position with same | ⟨before, job, later, jobs, -, -, jobs'⟩
  · rw [same]
    exact tidy
  · refine tidy.sublist ?_ count
    rw [jobs', jobs]
    exact (List.Sublist.refl before).append (List.sublist_cons_self job later)

/-- A new operation comes with new buffers, or with none. -/
theorem enlist (tidy : b.Tidy) (label : Option String) {work : Work} (regular : work.Regular) :
    (b.enlist label work).Tidy := by
  obtain ⟨job, jobs, new⟩ := b.enlist_newcomer label regular
  exact tidy.add jobs (spares_enlist label work b).count new.fits new.fresh new.own

/-- The same jobs on another station with at least as many buffers. -/
theorem station (tidy : b.Tidy) {bench : Bench} (jobs : bench.jobs = b.jobs)
    (count : b.station.buffers.count ≤ bench.station.buffers.count) : bench.Tidy :=
  tidy.sublist (jobs ▸ List.Sublist.refl _) count

/-- **Different jobs keep different buffers** under every regular move. -/
theorem make (tidy : b.Tidy) (h : b.Sound True True) {move : Move} (regular : move.Regular) :
    (b.make move).Tidy := by
  cases move with
  | ask label work => exact tidy.enlist label regular
  | look position => exact tidy.lookAt h position
  | giveUp position => exact tidy.giveUp position
  | wait time => exact tidy.station rfl (Nat.le_refl _)
  | service => exact tidy.station rfl (Nat.le_of_eq (count_serviceRadio _).symm)
  | pump =>
    refine tidy.station rfl (Nat.le_of_eq ?_)
    show _ = b.station.pump.1.buffers.count
    rw [(pump_spares _).1, count_serviceRadio]
  | arrange command =>
    exact tidy.station (execute_of_arranges regular).2.2 (spares_arrange regular).count
  | turnPage => exact tidy.station rfl (Nat.le_refl _)

end Tidy

/-- **On every reachable bench different jobs have different buffers.** -/
theorem Reachable.tidy (h : b.Reachable) : b.Tidy := by
  have both : b.Sound True True ∧ b.Tidy := by
    refine h.induct (P := fun b => b.Sound True True ∧ b.Tidy) ?_ ?_
    · intro s start
      exact ⟨.startUp start, by simp [ofStation], .nil, by simp [ofStation]⟩
    · rintro b ⟨sound, tidy⟩ move regular
      exact ⟨sound.make regular fun _ => trivial, tidy.make sound regular⟩
  exact both.2

end Bench

end BurstLink
