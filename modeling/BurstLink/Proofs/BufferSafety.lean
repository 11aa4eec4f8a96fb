import BurstLink.Proofs.Handshake

/-! # Safety of packet buffers

The radio reads and writes packets on its own, wherever it points. This module says that it touches
only those of the send in progress, each at its time: it reads the packet while it is on air, and
writes the acknowledgement while it is awaited. When the send is over, or given up, the radio
touches nothing until the next exchange starts, even if it should still point at a packet.

Main definitions:

* **`Bench.Guarded`** — what the next step of the radio may touch.
* **`Station.Inert`** — no step touches a packet, wherever the radio points.
* **`Bench.Keeps`** — a buffer keeps its packet, up to the identifier.
* **`Bench.BuffersSafe`** — all of it together.

Main statement: `Bench.Reachable.buffersSafe`. -/

namespace BurstLink

/-! ## What is safe -/

/-- The next step of the radio reads the packet on air, and a packet that it does not read makes no
difference to it; it writes the acknowledgement that is awaited, and what it does not write stays.
-/
structure Bench.Guarded (b : Bench) : Prop where
  reads : b.station.radio.reads = true → b.station.transfer.state = .txInFlight ∧
    ∃ job f, b.Sends job f ∧ b.station.radio.buffer = some f.packet
  writes : b.station.radio.writes = true → b.station.transfer.state = .awaitingAck ∧
    ∃ job f, b.Sends job f ∧ b.station.radio.buffer = some f.ack
  unread : b.station.radio.reads = false →
    ∀ packet, b.station.radio.service packet = b.station.radio.service none
  changes : ∀ buffer, b.station.serviceRadio.buffers.get buffer ≠ b.station.buffers.get buffer →
    b.station.radio.writes = true ∧ b.station.radio.buffer = some buffer

/-- However many steps the radio makes, and wherever it points, it touches no packet and puts
nothing on air. -/
def Station.Inert (s : Station) : Prop :=
  ∀ pointer n, let t := ((s.onRadio (Radio.setBuffer pointer)).serviceTimes n).1
    t.radio.reads = false ∧ t.radio.writes = false ∧
      (∀ buffer, t.buffers.get buffer = s.buffers.get buffer) ∧
      t.radio.air.history = s.radio.air.history

/-- A job is sending. -/
def Bench.Busy (b : Bench) : Prop := ∃ job ∈ b.jobs, job.Sending

/-- Nothing was put on air, and the packets that there were are the same. -/
structure Station.Untouched (s t : Station) : Prop where
  packets : ∀ buffer : Buffer, buffer.index < s.buffers.count →
    t.buffers.get buffer = s.buffers.get buffer
  count : s.buffers.count ≤ t.buffers.count
  history : t.radio.air.history = s.radio.air.history

/-- A buffer keeps its packet up to the identifier, and no job receives into it. -/
structure Bench.Keeps (buffer : Buffer) (packet : Packet) (b : Bench) : Prop where
  known : buffer.index < b.station.buffers.count
  alike : (b.station.buffers.get buffer).Alike packet
  noAck : ∀ job ∈ b.jobs, ∀ own, job.activity.buffers? = some own → buffer ≠ own.2

/-- What is safe about packets: the radio touches what it may; the packet of a send keeps everything
but the byte of its identifier, during the send and ever after; when a send has ended or was given
up, no job sends; while no job sends, the radio is inert; and as long as no job sends, nothing is
put on air and no packet that is there is touched. -/
structure Bench.BuffersSafe (b : Bench) : Prop where
  guarded : b.Guarded
  packet : ∀ label packet ack moves, (∀ move ∈ moves, move.Regular) →
    ∃ s1, ((b.make (.ask label (.send packet ack))).after moves).station.buffers.get
      (b.station.buffers.add packet).2 = { packet with s1 := s1 }
  ended : ∀ position job, b.jobs[position]? = some job → job.Sending →
    ((b.lookAt position).jobs.length < b.jobs.length → ¬(b.lookAt position).Busy) ∧
      ¬(b.giveUp position).Busy
  inert : ¬b.Busy → b.station.Inert
  untouched : ∀ moves, (∀ move ∈ moves, move.Regular) →
    (∀ since, since <+: moves → ¬(b.after since).Busy) →
    b.station.Untouched (b.after moves).station

/-! ## One step -/

namespace Bench

variable {b : Bench} {buffer : Buffer} {packet : Packet}

/-- If a job sends, the station is in its flight. -/
theorem Sends.inFlight {job : Job} {f : Flight} (sends : b.Sends job f) (h : b.Sound True True) :
    b.station.InFlight True f := by
  obtain ⟨purpose, activity⟩ := sends.flight
  exact h.inFlight sends.member activity

/-- If no job sends, the holder of the lock, if any, does not. -/
theorem Sound.unsent (h : b.Sound True True) (idle : ¬b.Busy) :
    ∃ holder, b.station.Custody True True holder ∧
      ∀ f purpose, holder ≠ some (.sending f purpose) := by
  obtain ⟨holder, all, custody⟩ := h.custody
  refine ⟨holder, custody, ?_⟩
  rintro f purpose rfl
  obtain ⟨job, member, -, activity⟩ := exists_sends_of_holders all
  exact idle ⟨job, member, Job.sending_of_activity activity⟩

/-- If no job sends, no exchange is in progress. -/
theorem Sound.calm (h : b.Sound True True) (tidy : b.Tidy) (idle : ¬b.Busy) :
    b.station.Calm True := by
  rcases h.sends tidy with calm | ⟨job, f, sends, -⟩
  · exact calm
  · exact absurd ⟨job, sends.member, sends.sending⟩ idle

/-- If no job sends, the radio touches nothing. -/
theorem Sound.silent (h : b.Sound True True) (idle : ¬b.Busy) :
    b.station.radio.reads = false ∧ b.station.radio.writes = false := by
  obtain ⟨holder, custody, unsent⟩ := h.unsent idle
  exact custody.silent unsent

/-- **A step of the radio touches what it may.** -/
theorem Sound.guarded (h : b.Sound True True) (tidy : b.Tidy) : b.Guarded := by
  have sends : b.station.radio.reads = true ∨ b.station.radio.writes = true →
      ∃ job f, b.Sends job f ∧ b.station.InFlight True f := by
    intro touches
    rcases h.sends tidy with calm | sends
    · have idle : ¬b.Busy := by
        rintro ⟨job, member, sending⟩
        obtain ⟨f, purpose, activity⟩ := sending.exists_flight
        have flight := h.inFlight member activity
        exact Station.state_of_uncompleted flight calm.completed calm.transfer
      obtain ⟨unread, unwritten⟩ := h.silent idle
      simp [unread, unwritten] at touches
    · exact sends
  refine ⟨?_, ?_, Radio.service_of_not_reads, ?_⟩
  · intro reads
    obtain ⟨job, f, sends, flight⟩ := sends (.inl reads)
    obtain ⟨state, points⟩ := flight.reads reads
    exact ⟨state, job, f, sends, points⟩
  · intro writes
    obtain ⟨job, f, sends, flight⟩ := sends (.inr writes)
    obtain ⟨state, points⟩ := flight.writes writes
    exact ⟨state, job, f, sends, points⟩
  · intro buffer changed
    by_cases touched : b.station.radio.writes = true ∧ b.station.radio.buffer = some buffer
    · exact touched
    · exact absurd (Station.get_serviceRadio fun writes points => touched ⟨writes, points⟩) changed

/-! ## Without a send -/

/-- There is one lock, so a job that sends is the only one. -/
theorem Sound.not_busy_of_others (h : b.Sound True True) {before later : List Job} {job : Job}
    (jobs : b.jobs = before ++ job :: later) (sending : job.Sending) {bench : Bench}
    (others : bench.jobs = before ++ later) : ¬bench.Busy := by
  obtain ⟨holder, all, -⟩ := h.custody
  have holds := holdsLock_of_sending sending
  have single : Job.holders before ++ ([job.activity] ++ Job.holders later) = holder.toList := by
    rw [← all, jobs]
    simp [Job.holders, holds]
  obtain ⟨first, last, -⟩ := Job.eq_of_split single
  have free : Job.holders bench.jobs = [] := by rw [others, Job.holders_append, first, last]; rfl
  rintro ⟨other, member, sends⟩
  have held : other.activity ∈ Job.holders bench.jobs :=
    List.mem_filter.mpr ⟨List.mem_map_of_mem member, holdsLock_of_sending sends⟩
  rw [free] at held
  exact absurd held List.not_mem_nil

/-- **When a send has ended or was given up, no job sends.** -/
theorem Sound.not_busy_of_ended (h : b.Sound True True) {position : Nat} {job : Job}
    (found : b.jobs[position]? = some job) (sending : job.Sending) :
    ((b.lookAt position).jobs.length < b.jobs.length → ¬(b.lookAt position).Busy) ∧
      ¬(b.giveUp position).Busy := by
  obtain ⟨before, later, jobs, rfl⟩ := exists_split found
  constructor
  · intro fewer
    rcases (lookAt_job jobs).2 with ⟨-, left⟩ | ⟨rest, -, stayed⟩
    · exact h.not_busy_of_others jobs sending left
    · rw [stayed, jobs] at fewer
      simp at fewer
  · exact h.not_busy_of_others jobs sending (giveUp_split jobs).2

end Bench

namespace Station

variable {s t u : Station}

namespace Untouched

@[refl] theorem refl (s : Station) : s.Untouched s := ⟨fun _ _ => rfl, Nat.le_refl _, rfl⟩

/-- What two steps in turn do not touch is not touched by both of them. -/
theorem trans (h : s.Untouched t) (h' : t.Untouched u) : s.Untouched u where
  packets buffer known :=
    (h'.packets buffer (Nat.lt_of_lt_of_le known h.count)).trans (h.packets buffer known)
  count := Nat.le_trans h.count h'.count
  history := h'.history.trans h.history

end Untouched

/-- A step that spares the packets and the record of frames touches neither. -/
theorem Spares.untouched (h : s.Spares t) : s.Untouched t := ⟨h.packets, h.count, h.history⟩

/-- Steps of the radio outside a send. The induction is on the number of steps; custody carries it
from one step to the next. -/
theorem Custody.serviceTimes {holder : Option Activity} (h : s.Custody True True holder)
    (unsent : ∀ f purpose, holder ≠ some (.sending f purpose)) (n : Nat) :
    (s.serviceTimes n).1.Custody True True holder ∧
      (∀ buffer, (s.serviceTimes n).1.buffers.get buffer = s.buffers.get buffer) ∧
      (s.serviceTimes n).1.radio.air.history = s.radio.air.history := by
  induction n generalizing s with
  | zero => exact ⟨h, fun _ => rfl, rfl⟩
  | succ n ih =>
    obtain ⟨unread, unwritten⟩ := h.silent unsent
    have next := h.serviceRadio
    have kept : ∀ buffer, s.serviceRadio.buffers.get buffer = s.buffers.get buffer := by
      intro buffer
      exact get_serviceRadio fun writes => absurd (writes.symm.trans unwritten) (by simp)
    have history := (spares_serviceRadio unread unwritten).history
    rw [Station.serviceTimes]
    dsimp only
    split
    · exact ⟨next, kept, history⟩
    · obtain ⟨custody, same, recorded⟩ := ih next
      exact ⟨custody, fun buffer => (same buffer).trans (kept buffer), recorded.trans history⟩

/-- **Outside a send the radio is inert.** -/
theorem Custody.inert {holder : Option Activity} (h : s.Custody True True holder)
    (unsent : ∀ f purpose, holder ≠ some (.sending f purpose))
    (idle : s.transfer.state = .idle) : s.Inert := by
  intro pointer n
  -- between exchanges it does not matter where the radio points
  have pointed : (s.onRadio (Radio.setBuffer pointer)).Custody True True holder :=
    h.transfer (setBuffer_agree idle pointer) rfl
  obtain ⟨custody, kept, history⟩ := pointed.serviceTimes unsent n
  obtain ⟨unread, unwritten⟩ := custody.silent unsent
  exact ⟨unread, unwritten, kept, history⟩

end Station

namespace Bench

variable {b : Bench} {buffer : Buffer} {packet : Packet} {move : Move}

/-- **A move before and after which no job sends touches no packet** and puts nothing on air. -/
theorem Reachable.untouched_make (h : b.Reachable) (regular : move.Regular) (idle : ¬b.Busy)
    (idle' : ¬(b.make move).Busy) : b.station.Untouched (b.make move).station := by
  obtain ⟨unread, unwritten⟩ := h.sound.silent idle
  have stepped : b.station.Untouched b.station.serviceRadio :=
    (Station.spares_serviceRadio unread unwritten).untouched
  cases move with
  | ask label work => exact (spares_enlist label work b).untouched
  | giveUp position => exact (b.spares_giveUp position).untouched
  | wait time => exact ⟨fun _ _ => rfl, Nat.le_refl _, rfl⟩
  | turnPage => exact ⟨fun _ _ => rfl, Nat.le_refl _, rfl⟩
  | arrange command => exact (spares_arrange regular).untouched
  | service => exact stepped
  | pump =>
    obtain ⟨buffers, air, -⟩ := b.station.pump_spares
    refine ⟨?_, ?_, ?_⟩
    · intro buffer known
      show b.station.pump.1.buffers.get buffer = _
      rw [buffers]
      exact stepped.packets buffer known
    · show _ ≤ b.station.pump.1.buffers.count
      rw [buffers]
      exact stepped.count
    · show b.station.pump.1.radio.air.history = _
      rw [air]
      exact stepped.history
  | look position =>
    show b.station.Untouched (b.lookAt position).station
    rcases b.lookAt_cases position with same | ⟨before, job, later, jobs, -, station', after⟩
    · rw [same]
    · have member : job ∈ b.jobs := by simp [jobs]
      have traffic := h.sound.traffic h.tidy member
      obtain ⟨pointer, pointed⟩ := job.poll_pointed b.station
      -- a look that sends leaves a job that is sending
      have silent : ∀ f purpose, (job.activity.poll b.station).2 ≠ .waiting (.sending f purpose) := by
        intro f purpose goesOn
        rcases after with ⟨ended, -⟩ | ⟨rest, goesOn', jobs'⟩
        · exact ended _ goesOn
        · obtain rfl := Look.waiting.inj (goesOn'.symm.trans goesOn)
          refine idle' ⟨{ job with activity := .sending f purpose }, ?_, trivial⟩
          show _ ∈ (b.lookAt position).jobs
          simp [jobs']
      rw [station', pointed]
      exact (traffic.spares silent).untouched.trans ⟨fun _ _ => rfl, Nat.le_refl _, rfl⟩

/-- **As long as no job sends, no packet is touched and nothing is put on air.** The induction is on
the moves of the run. -/
theorem Reachable.untouched_after (h : b.Reachable) (moves : List Move)
    (regular : ∀ move ∈ moves, move.Regular)
    (idle : ∀ since, since <+: moves → ¬(b.after since).Busy) :
    b.station.Untouched (b.after moves).station := by
  induction moves generalizing b with
  | nil => rfl
  | cons move moves ih =>
    have first : move.Regular := regular move (by simp)
    have now : ¬b.Busy := idle [] (List.nil_prefix ..)
    have next : ¬(b.make move).Busy := idle [move] (by simp)
    have step := h.untouched_make first now next
    rw [after_cons]
    refine step.trans (ih (h.make move first) (fun m member => regular m (by simp [member])) ?_)
    intro since isPrefix
    exact idle (move :: since) (by simpa using isPrefix)

/-! ## The packet of a send -/

namespace Keeps

/-- Some of the jobs on a station that stamps the packet at most. -/
theorem sublist (h : b.Keeps buffer packet) {bench : Bench} (jobs : bench.jobs.Sublist b.jobs)
    (count : b.station.buffers.count ≤ bench.station.buffers.count)
    (alike : (bench.station.buffers.get buffer).Alike (b.station.buffers.get buffer)) :
    bench.Keeps buffer packet where
  known := Nat.lt_of_lt_of_le h.known count
  alike := alike.trans h.alike
  noAck job member := h.noAck job (jobs.subset member)

/-- The same jobs on a station to which nothing was sent. -/
theorem of_spares (h : b.Keeps buffer packet) {bench : Bench} (jobs : bench.jobs.Sublist b.jobs)
    (kept : b.station.Spares bench.station) : bench.Keeps buffer packet :=
  h.sublist jobs kept.count (congrArg (Packet.setPid .zero) (kept.packets buffer h.known))

/-- Asking for an operation keeps the buffer. -/
theorem enlist (h : b.Keeps buffer packet) (label : Option String) {work : Work}
    (regular : work.Regular) : (b.enlist label work).Keeps buffer packet := by
  obtain ⟨job, jobs, new⟩ := b.enlist_newcomer label regular
  have kept := spares_enlist label work b
  refine ⟨Nat.lt_of_lt_of_le h.known kept.count, ?_, ?_⟩
  · exact (congrArg (Packet.setPid .zero) (kept.packets buffer h.known)).trans h.alike
  · intro other member own has
    rw [jobs] at member
    rcases List.mem_append.mp member with old | is
    · exact h.noAck other old own has
    · obtain rfl := List.mem_singleton.mp is
      rintro rfl
      have fresh := new.fresh own.2 (Activity.mem_handles.mpr ⟨own, has, .inr rfl⟩)
      exact absurd h.known (Nat.not_lt.mpr fresh)

/-- A look at an operation stamps the packet at most, as none has the buffer for its
acknowledgement. -/
theorem lookAt (h : b.Keeps buffer packet) (sound : b.Sound True True) (tidy : b.Tidy)
    (position : Nat) : (b.lookAt position).Keeps buffer packet := by
  rcases b.lookAt_cases position with same | ⟨before, job, later, jobs, -, station', after⟩
  · rw [same]
    exact h
  · have member : job ∈ b.jobs := by simp [jobs]
    have traffic := sound.traffic tidy member
    have alike : ((b.lookAt position).station.buffers.get buffer).Alike
        (b.station.buffers.get buffer) := by
      obtain ⟨pointer, pointed⟩ := job.poll_pointed b.station
      rw [station', pointed]
      exact traffic.alike h.known (h.noAck job member)
    have count := count_lookAt sound tidy position
    rcases after with ⟨-, jobs'⟩ | ⟨rest, goesOn, jobs'⟩
    · refine h.sublist ?_ count alike
      rw [jobs', jobs]
      exact (List.Sublist.refl before).append (List.sublist_cons_self job later)
    · refine ⟨Nat.lt_of_lt_of_le h.known count, alike.trans h.alike, ?_⟩
      intro other member' own has
      rw [jobs'] at member'
      rcases mem_exchange member' with rfl | old
      -- the job that goes on has the buffers it had, or two that are new
      · rcases traffic.buffers goesOn with same | ⟨-, none' | ⟨p, a, new, -, -, fresh, -⟩⟩
        · exact h.noAck job member own (same.symm.trans has)
        · exact absurd (none'.symm.trans has) (by simp)
        · obtain rfl := Option.some.inj (new.symm.trans has)
          rintro rfl
          exact absurd h.known (Nat.not_lt.mpr fresh)
      · refine h.noAck other ?_ own has
        rw [jobs]
        exact mem_of_others old

/-- A step of the radio writes into no packet that is to be sent. -/
theorem get_serviceRadio (h : b.Keeps buffer packet) (sound : b.Sound True True) (tidy : b.Tidy) :
    b.station.serviceRadio.buffers.get buffer = b.station.buffers.get buffer := by
  refine Station.get_serviceRadio ?_
  intro writes points
  obtain ⟨-, job, f, sends, points'⟩ := (sound.guarded tidy).writes writes
  obtain ⟨purpose, activity⟩ := sends.flight
  have own : job.activity.buffers? = some (f.packet, f.ack) := by rw [activity]; rfl
  exact h.noAck job sends.member _ own (Option.some.inj (points.symm.trans points'))

/-- **A buffer keeps its packet**, up to the identifier, under every regular move. -/
theorem make (h : b.Keeps buffer packet) (sound : b.Sound True True) (tidy : b.Tidy)
    (regular : move.Regular) : (b.make move).Keeps buffer packet := by
  have served := h.get_serviceRadio sound tidy
  cases move with
  | ask label work => exact h.enlist label regular
  | look position => exact h.lookAt sound tidy position
  | giveUp position =>
    -- an operation that is given up sends nothing and writes nothing
    have kept := b.spares_giveUp position
    rcases b.giveUp_cases position with same | ⟨before, job, later, jobs, -, -, jobs'⟩
    · show (b.giveUp position).Keeps buffer packet
      rw [same]
      exact h
    · refine h.of_spares ?_ kept
      show (b.giveUp position).jobs.Sublist b.jobs
      rw [jobs', jobs]
      exact (List.Sublist.refl before).append (List.sublist_cons_self job later)
  | wait time => exact h.sublist (List.Sublist.refl _) (Nat.le_refl _) (.refl _)
  | turnPage => exact h.sublist (List.Sublist.refl _) (Nat.le_refl _) (.refl _)
  | arrange command =>
    have jobs : (b.execute command).1.jobs = b.jobs := (execute_of_arranges regular).2.2
    exact h.of_spares (jobs ▸ List.Sublist.refl _) (spares_arrange regular)
  | service =>
    exact h.sublist (List.Sublist.refl _) (Nat.le_of_eq (Station.count_serviceRadio _).symm)
      (congrArg (Packet.setPid .zero) served)
  | pump =>
    have buffers := b.station.pump_spares.1
    refine h.sublist (List.Sublist.refl _) (Nat.le_of_eq ?_) ?_
    · show _ = b.station.pump.1.buffers.count
      rw [buffers, Station.count_serviceRadio]
    · show (b.station.pump.1.buffers.get buffer).Alike _
      rw [buffers]
      exact congrArg (Packet.setPid .zero) served

/-- The buffer is kept over a whole run. -/
theorem after (h : b.Keeps buffer packet) (reachable : b.Reachable) (moves : List Move)
    (regular : ∀ move ∈ moves, move.Regular) : (b.after moves).Keeps buffer packet := by
  induction moves generalizing b with
  | nil => exact h
  | cons move moves ih =>
    have first : move.Regular := regular move (by simp)
    rw [after_cons]
    exact ih (h.make reachable.sound reachable.tidy first) (reachable.make move first)
      fun m member => regular m (by simp [member])

/-- The packet of a send that has been asked for is in its first buffer, and no job receives into
it. -/
theorem of_ask (tidy : b.Tidy) (label : Option String) (packet ack : Packet) :
    (b.enlist label (.send packet ack)).Keeps (b.station.buffers.add packet).2 packet := by
  have index : (b.station.buffers.add packet).2.index = b.station.buffers.count := rfl
  refine ⟨?_, ?_, ?_⟩
  · exact Nat.lt_succ_of_lt (Nat.lt_succ_self _)
  · exact congrArg (Packet.setPid .zero) (Pool.get_add_add b.station.buffers packet ack)
  · intro job member own has
    rcases List.mem_append.mp member with old | is
    · rintro eq
      have known := (tidy.fits job old own.1 own.2 has).2.2
      rw [← eq, index] at known
      exact absurd known (Nat.lt_irrefl _)
    · obtain rfl := List.mem_singleton.mp is
      obtain rfl := Option.some.inj has
      exact Station.added_apart b.station.buffers packet ack

end Keeps

end Bench

/-- **Packet buffers are safe** on every reachable bench. -/
theorem Bench.Reachable.buffersSafe {b : Bench} (h : b.Reachable) : b.BuffersSafe where
  guarded := h.sound.guarded h.tidy
  packet label packet ack moves regular := by
    have asked := h.make (.ask label (.send packet ack)) trivial
    have kept := (Bench.Keeps.of_ask h.tidy label packet ack).after asked moves regular
    exact ⟨_, kept.alike.eq_with⟩
  ended position job found sending := h.sound.not_busy_of_ended found sending
  inert idle := by
    obtain ⟨holder, custody, unsent⟩ := h.sound.unsent idle
    exact custody.inert unsent (h.sound.calm h.tidy idle).transfer
  untouched moves regular idle := h.untouched_after moves regular idle

/-- While its packet is on air, the radio reads the packet of a send. -/
theorem Bench.buffersSafe_of_packet_on_air :
    let b := (Bench.ofStation (.withFrontEnd .zeros)).after
      [.ask none (.request (.switchMode .link)), .look 0,
        .ask none (.send (.ofPayload (.truncate [1, 2])) .empty), .look 0]
    b.Reachable ∧ b.station.radio.reads = true ∧ b.BuffersSafe := by
  have reachable := (Bench.Reachable.startUp ⟨.zeros, .inl rfl⟩).after
    [.ask none (.request (.switchMode .link)), .look 0,
      .ask none (.send (.ofPayload (.truncate [1, 2])) .empty), .look 0] (by decide)
  exact ⟨reachable, by decide +kernel, reachable.buffersSafe⟩

end BurstLink
