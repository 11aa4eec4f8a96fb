import BurstLink.Proofs.Mirror.Requests

/-! # The registers mirror the configuration

Whatever operations do, and wherever they are given up, a link that is up has its configuration in
the registers: before, during and after a channel scan, after a radio that would not switch off was
power cycled, and after any other mode. As long as nobody writes the registers by hand this holds
between any two looks, even when the interrupt handler runs at odd times, somebody else switches the
amplifiers, or the front end is tested.

Main definitions:

* **`Move.HandsOff`** — the move leaves the registers to the operations.
* **`Station.Mirrors`** — the registers hold the configuration.
* **`Bench.Mirrored`** — the invariant.

Main statement: `Station.AtStartUp.mirrors_of_run`. -/

namespace BurstLink

/-! ## What is allowed and what holds -/

/-- The command leaves the registers of the radio to the operations: it arranges the surroundings,
runs the interrupt handler, looks whether the radio is off, or accesses the front end. -/
def Command.HandsOff : Command → Prop
  | .handleInterrupt => True
  | .pollDisabled _ => True
  | .accessFrontEnd _ => True
  | command => command.Arranges

instance : DecidablePred Command.HandsOff := fun command => by
  unfold Command.HandsOff
  split <;> infer_instance

/-- The move leaves the registers of the radio to the operations. Any operation may be asked for. -/
def Move.HandsOff : Move → Prop
  | .arrange command => command.HandsOff
  | _ => True

instance : DecidablePred Move.HandsOff
  | .arrange command => inferInstanceAs (Decidable command.HandsOff)
  | .ask .. | .look _ | .giveUp _ | .wait _ | .service | .pump | .turnPage =>
    inferInstanceAs (Decidable True)

/-- The registers hold the configuration of the link. -/
structure Station.Mirrors (s : Station) : Prop where
  powered : s.radio.powered = true
  formatted : s.radio.packetConfigured = true
  txPower : s.radio.txPower = .zeroDbm
  channel : s.radio.channel = s.link.config.channel
  bitrate : s.radio.bitrate = s.link.config.bitrate
  address : Address.ofRegisters s.radio.base0 s.radio.prefix0 = s.link.config.address
  shorts : s.locked = false → s.link.carrier = false → s.radio.shorts = .rssi

/-- The operation changes the configuration of the link. -/
def Request.Configures : Request → Prop
  | .configure _ => True
  | .change _ => True
  | _ => False

/-- At most one job holds the lock, and the registers show the link as that one demands. -/
def Bench.Mirrored (b : Bench) : Prop :=
  ∃ holder, Job.holders b.jobs = holder.toList ∧ b.station.Mirrored holder

/-! ## One station -/

namespace Station

variable {s : Station} {holder : Option Activity}

/-- A link that is up has its configuration in the registers, whoever holds the lock. -/
theorem Mirrored.mirrors (h : s.Mirrored holder) (up : s.link.initialized = true) : s.Mirrors := by
  have down : s.reflection.initialized = false → s.Mirrors := fun down =>
    absurd (up.symm.trans down) (by simp)
  cases holder with
  | none =>
    have holds := h.2.holds up
    exact ⟨holds.powered, holds.formatted, holds.txPower, holds.channel, holds.bitrate,
      holds.address, fun _ => h.2.shorts up⟩
  | some activity =>
    have locked : s.locked = true := h.1
    have shown : s.Reflects activity := h.2
    cases activity with
    | sending f purpose =>
      have sending : s.reflection.Sending f.config := shown
      have config : s.link.config = f.config := sending.config
      have holds := sending.holds
      rw [← config] at holds
      exact ⟨holds.powered, holds.formatted, holds.txPower, holds.channel, holds.bitrate,
        holds.address, fun free => absurd (locked.symm.trans free) (by simp)⟩
    | queued => exact absurd shown id
    | testing => exact absurd shown id
    | _ => exact down shown

/-- The interrupt handler at any time: the shortcut that it may take away is one that only a send
has. -/
theorem Mirrored.handleInterrupt (h : s.Mirrored holder) : s.handleInterrupt.Mirrored holder := by
  rcases s.reflection_handleInterrupt with same | less
  · exact h.of_eq same s.handleInterrupt_locked
  -- the handler takes away the shortcut to the receiver, which belongs to a send
  · have locked := s.handleInterrupt_locked
    cases holder with
    | none =>
      refine ⟨locked.trans h.1, ?_⟩
      rw [less]
      refine ⟨h.2.mode, fun up => (h.2.holds up).withShorts _, ?_⟩
      intro up noCarrier
      have shorts : s.radio.shorts = .rssi := h.2.shorts up noCarrier
      show s.radio.shorts.difference _ = _
      rw [shorts]
      decide
    | some activity =>
      refine ⟨locked.trans h.1, ?_⟩
      have shown : s.Reflects activity := h.2
      cases activity with
      | sending f purpose =>
        have sending : s.reflection.Sending f.config := shown
        show s.handleInterrupt.reflection.Sending f.config
        rw [less]
        refine ⟨⟨sending.mode, sending.initialized, sending.noCarrier, sending.config,
          sending.holds.withShorts _⟩, ?_⟩
        have shorts : s.radio.shorts.difference .txThenRx = .rssi := sending.shorts
        show (s.radio.shorts.difference _).difference _ = _
        rw [Shorts.difference_right_comm, shorts]
        decide
      | queued => exact shown
      | testing => exact shown
      | _ => exact (congrArg Reflection.initialized less).trans shown

/-- A step of the radio changes nothing of what shows. -/
theorem Mirrored.serviceRadio (h : s.Mirrored holder) : s.serviceRadio.Mirrored holder :=
  h.of_eq s.reflection_serviceRadio s.serviceRadio_locked

/-- With the interrupt handled after it, a step leaves what shows in order. -/
theorem Mirrored.pump (h : s.Mirrored holder) : s.pump.1.Mirrored holder := by
  unfold Station.pump
  dsimp only
  split
  · exact h.serviceRadio
  · split
    · exact h.serviceRadio.handleInterrupt
    · exact h.serviceRadio

/-- The registers are mirrored whether or not a buffer is still pointed at. -/
theorem Mirrored.releaseBuffers (h : s.Mirrored holder) : s.releaseBuffers.Mirrored holder :=
  h.of_eq s.releaseBuffers_agree.reflection s.releaseBuffers_locked

/-- The wait for the disabled event does not touch the lock. -/
theorem pollDisabledTimes_locked (n : Nat) (s : Station) :
    (s.pollDisabledTimes n).1.locked = s.locked := by
  induction n generalizing s with
  | zero => rfl
  | succ n ih => exact ih { s with radio := s.radio.settle }

end Station

/-! ## All jobs -/

namespace Job

open Station

variable {s : Station} {job : Job} {holder : Option Activity}

/-- An operation that leaves the configuration in step does so with the bench's release of buffers
as well. -/
theorem mirrored_poll (h : (job.activity.poll s).1.Mirrored holder) :
    (job.poll s).1.Mirrored holder := by
  rw [poll_eq]
  rcases found : job.activity.poll s with ⟨t, activity | result⟩
  · rw [found] at h
    exact h
  · rw [found] at h
    exact h.releaseBuffers

/-- An activity that does not hold the lock is given up without a change. -/
theorem mirrored_drop_other (h : s.Mirrored holder) (other : job.activity.holdsLock = false) :
    (job.drop s).Mirrored holder := by
  have unchanged : job.activity.drop s = s := by
    cases activity : job.activity with
    | queued => rfl
    | testing => rfl
    | _ => rw [activity] at other; exact absurd other (by simp [Activity.holdsLock])
  unfold Job.drop
  rw [unchanged]
  exact h.releaseBuffers

end Job

namespace Bench.Mirrored

variable {b bench : Bench} {move : Move}

/-- The same jobs on another station. -/
theorem replace (h : b.Mirrored) (jobs : bench.jobs = b.jobs)
    (kept : ∀ holder, b.station.Mirrored holder → bench.station.Mirrored holder) :
    bench.Mirrored := by
  obtain ⟨holder, all, shown⟩ := h
  exact ⟨holder, by rw [jobs]; exact all, kept holder shown⟩

/-- A look at an operation leaves the bench in step. -/
theorem lookAt (h : b.Mirrored) (position : Nat) : (b.lookAt position).Mirrored := by
  cases found : b.jobs[position]? with
  | none =>
    rw [lookAt_of_none found]
    exact h
  | some job =>
    obtain ⟨before, later, jobs, rfl⟩ := exists_split found
    obtain ⟨station', jobs'⟩ := lookAt_split jobs
    obtain ⟨holder, all, shown⟩ := h
    rw [jobs, Job.holders_append, ← List.singleton_append, Job.holders_append] at all
    unfold Bench.Mirrored
    rw [jobs', station', Job.holders_append, Job.holders_append]
    refine Job.exists_holder_poll all ?_ ?_
    · rintro rfl
      exact Job.mirrored_poll (Activity.mirrored_poll_holding shown)
    · intro other
      exact (Activity.mirrored_poll_other shown other).imp
        (fun waits => ⟨waits.1, Job.mirrored_poll waits.2⟩)
        fun takes => ⟨takes.1, Job.mirrored_poll takes.2⟩

/-- So does giving one up. -/
theorem giveUp (h : b.Mirrored) (position : Nat) : (b.giveUp position).Mirrored := by
  cases found : b.jobs[position]? with
  | none =>
    rw [giveUp_of_none found]
    exact h
  | some job =>
    obtain ⟨before, later, jobs, rfl⟩ := exists_split found
    obtain ⟨station', jobs'⟩ := giveUp_split jobs
    obtain ⟨holder, all, shown⟩ := h
    rw [jobs, Job.holders_append, ← List.singleton_append, Job.holders_append] at all
    unfold Bench.Mirrored
    rw [jobs', station', Job.holders_append]
    refine Job.exists_holder_drop all ?_ ?_
    · rintro rfl
      exact (Activity.mirrored_drop shown).releaseBuffers
    · exact Job.mirrored_drop_other shown

/-- An operation that is asked for waits. -/
theorem enlist (h : b.Mirrored) (label : Option String) (work : Work) :
    (b.enlist label work).Mirrored := by
  have waits : Job.holders (b.enlist label work).jobs = Job.holders b.jobs := by
    cases work <;> simp [Bench.enlist, Job.holders, Activity.holdsLock]
  have locked : (b.enlist label work).station.locked = b.station.locked := by
    cases work with
    | scanPresence channel window =>
      obtain ⟨scanners, found⟩ := b.station.currentScanner_fst
      show b.station.currentScanner.1.locked = b.station.locked
      rw [found]
    | _ => rfl
  obtain ⟨holder, all, shown⟩ := h
  exact ⟨holder, waits.trans all,
    shown.of_eq (Station.Agree.reflection (b.enlist_agree label work)) locked⟩

/-- **What one move preserves**, as long as nobody writes the registers by hand. -/
theorem make (h : b.Mirrored) (handsOff : move.HandsOff) : (b.make move).Mirrored := by
  cases move with
  | ask label work => exact h.enlist label work
  | look position => exact h.lookAt position
  | giveUp position => exact h.giveUp position
  | wait time => exact h.replace rfl fun _ shown => shown.of_eq rfl rfl
  | service => exact h.replace rfl fun _ shown => shown.serviceRadio
  | pump => exact h.replace rfl fun _ shown => shown.pump
  | turnPage => exact h.replace rfl fun _ shown => shown.of_eq rfl rfl
  | arrange command =>
    have arranged : command.Arranges → (b.execute command).1.Mirrored := by
      intro arranges
      obtain ⟨agree, locked, jobs⟩ := execute_of_arranges arranges
      exact h.replace jobs fun _ shown => shown.of_eq agree.reflection locked.symm
    cases command with
    | handleInterrupt => exact h.replace rfl fun _ shown => shown.handleInterrupt
    | accessFrontEnd access => exact h.replace rfl fun _ shown => shown.of_eq rfl rfl
    | pollDisabled n =>
      exact h.replace rfl fun _ shown => shown.of_eq (Station.reflection_pollDisabledTimes n _)
        (Station.pollDisabledTimes_locked n _)
    | _ => exact arranged handsOff

/-- **What a run preserves.** The induction is on the moves. -/
theorem after (h : b.Mirrored) (moves : List Move) (handsOff : ∀ move ∈ moves, move.HandsOff) :
    (b.after moves).Mirrored := by
  induction moves generalizing b with
  | nil => exact h
  | cons move moves ih =>
    rw [after_cons]
    exact ih (h.make (handsOff move (by simp))) fun m member => handsOff m (by simp [member])

/-- At start-up the link is not up. -/
theorem startUp {s : Station} (start : s.AtStartUp) : (Bench.ofStation s).Mirrored := by
  obtain ⟨draws, rfl | rfl⟩ := start
  · exact ⟨none, rfl, rfl, Reflection.faithful_of_down rfl⟩
  · exact ⟨none, rfl, rfl, Reflection.faithful_of_down rfl⟩

end Bench.Mirrored

/-- A configuration that is stored while the link is not up leaves the radio alone. -/
theorem Station.radio_storeConfig {s : Station} (down : s.link.initialized = false)
    (config : LinkConfig) : (s.storeConfig config).radio = s.radio := by
  unfold storeConfig
  dsimp only
  split
  · rename_i up
    exact absurd (up.symm.trans down) (by simp)
  · rfl

/-- While the link is not up, an operation that changes its configuration leaves the radio alone. -/
theorem Activity.radio_poll_of_configures {s : Station} {request : Request}
    (configures : request.Configures) (down : s.link.initialized = false) :
    ((Activity.queued request).poll s).1.radio = s.radio := by
  have started : request.needsLock = true ∧ (s.start request).1.radio = s.radio := by
    cases request with
    | configure config => exact ⟨rfl, Station.radio_storeConfig down config⟩
    | change change => exact ⟨rfl, Station.radio_storeConfig down _⟩
    | _ => exact absurd configures id
  cases decided : request.answer? with
  | some result => rw [poll_queued_of_answer? decided]
  | none =>
    cases busy : s.locked with
    | true => rw [poll_queued_of_locked busy decided started.1]
    | false =>
      rw [poll_queued_of_free busy decided started.1]
      exact started.2

/-- **The registers mirror the configuration.** After every run in which nobody writes the registers
by hand, a link that is up has its configuration in the registers; and while it is not up, no
operation that changes the configuration changes the radio. -/
theorem Station.AtStartUp.mirrors_of_run {s : Station} (start : s.AtStartUp) (moves : List Move)
    (handsOff : ∀ move ∈ moves, move.HandsOff) :
    let t := ((Bench.ofStation s).after moves).station
    (t.link.initialized = true → t.Mirrors) ∧
      (t.link.initialized = false → ∀ request : Request, request.Configures →
        ((Activity.queued request).poll t).1.radio = t.radio) := by
  obtain ⟨holder, -, shown⟩ := (Bench.Mirrored.startUp start).after moves handsOff
  exact ⟨shown.mirrors, fun down _ configures => Activity.radio_poll_of_configures configures down⟩

/-- In the middle of a channel scan the registers hold the channel being tried. -/
theorem Bench.mirrors_of_channel_scan :
    let moves : List Move := [.ask none (.request (.switchMode .link)), .look 0,
      .ask none (.request (.scanChannels 10 12 [1])), .look 0]
    let t := ((Bench.ofStation (.withFrontEnd .zeros)).after moves).station
    (∀ move ∈ moves, move.HandsOff) ∧ t.link.initialized = true ∧ t.radio.channel = 10 ∧
      t.Mirrors := by
  intro moves t
  have handsOff : ∀ move ∈ moves, move.HandsOff := by decide
  have up : t.link.initialized = true := by decide +kernel
  exact ⟨handsOff, up, by decide +kernel,
    (Station.AtStartUp.mirrors_of_run ⟨.zeros, .inl rfl⟩ moves handsOff).1 up⟩

end BurstLink
