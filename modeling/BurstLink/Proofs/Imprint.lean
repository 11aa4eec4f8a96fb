import BurstLink.Proofs.Configuration.Bounds
import BurstLink.Proofs.ModeSwitch
import BurstLink.Proofs.Ownership
import BurstLink.Proofs.Packets.Bench

/-! # What a mode switch leaves

A mode switch forgets the past. Whatever the old mode did with the radio, and whatever was given up
half-way, once the new mode has the radio, all that could still tell of it is a function of the mode
and the stored configuration: the registers, the routes, whether the timer counts, the amplifiers,
the exchange and the flags of the link. Only the timer count, the number of power-ups and the
surroundings of the radio go on. That holds of the station as the operation itself leaves it, and
wherever the radio pointed before: that no packet is pointed at is the doing of the switch, which
takes the power away, and not of the bench, which takes the buffers of an operation back.

Main definitions:

* **`Imprint`**, **`Station.imprint`** — everything that a mode could leave behind.
* **`Mode.imprint`** — what it is once the mode has been switched to.
* **`Job.Switched`**, **`Job.AwaitsTeardown`** — a look at a switch ends it, or has it wait for the
  link to stop, wherever the radio points.
* **`Bench.SwitchesDuring`** — a switch that waits for the link to stop goes on waiting along a run.

Main statement: `Bench.Reachable.imprint_of_switch`, for every interleaving with other
operations. -/

namespace BurstLink

/-! ## Imprints -/

/-- Everything that a mode could leave behind for the next one. -/
structure Imprint where
  /-- What the radio is used for. -/
  mode : Mode
  /-- The registers of the radio, with all that a power-off wipes. -/
  registers : Registers
  /-- The timer counts. -/
  timer : Bool
  /-- Connected routes. -/
  routes : RouteFlags
  /-- The power amplifier is on. -/
  pa : Bool
  /-- The low-noise amplifier is on. -/
  lna : Bool
  /-- How far an exchange has come. -/
  transfer : TransferState
  /-- An exchange is complete, and nobody took notice yet. -/
  completed : Bool
  /-- A carrier is on air. -/
  carrier : Bool
  /-- The link protocol is up. -/
  initialized : Bool
  deriving DecidableEq

/-- What a mode could leave behind right now. -/
def Station.imprint (s : Station) : Imprint where
  mode := s.mode
  registers := s.radio.toRegisters
  timer := s.radio.timerRunning
  routes := s.radio.routes
  pa := s.paOn
  lna := s.lnaOn
  transfer := s.transfer.state
  completed := s.completed
  carrier := s.link.carrier
  initialized := s.link.initialized

/-- The registers of a mode that has just been switched to; what it does not set is as after a
power-off. -/
def Mode.registers (config : LinkConfig) : Mode → Registers
  | .disabled => {}
  | .link =>
    { powered := true
      packetConfigured := true
      channel := config.channel
      bitrate := config.bitrate
      base0 := config.address.base
      prefix0 := config.address.pipePrefix 0
      shorts := .rssi }
  | .presenceScan => {}
  | .carrier => { powered := true, bitrate := .mbps2, txPower := .pos4Dbm }
  | .powerMeasurement => { powered := true, shorts := .txOnce }

/-- The imprint of a mode that has just been switched to: the link is up exactly in its own mode,
which alone has the timer; no exchange is in progress, nothing is on air, and both amplifiers are
off. -/
def Mode.imprint (config : LinkConfig) (mode : Mode) : Imprint where
  mode := mode
  registers := mode.registers config
  timer := decide (mode = .link)
  routes := {}
  pa := false
  lna := false
  transfer := .idle
  completed := false
  carrier := false
  initialized := decide (mode = .link)

/-! ## One switch -/

namespace Station

variable {s t : Station}

/-- The receive amplifier that is said to be off is off. -/
theorem Amplifiers.lnaOn_eq {pa : Bool} (h : s.Amplifiers pa false) : s.lnaOn = false := by
  unfold lnaOn
  cases found : s.frontEnd with
  | none => rfl
  | some f => exact (h f found).2

/-- **A mode that takes a vacated radio leaves no trace of the one before.** -/
theorem Vacant.imprint_enterMode (h : s.Vacant True) (pointless : s.radio.buffer = none)
    (target : Mode) : (s.enterMode target).imprint = target.imprint s.link.config := by
  have registers : s.radio.toRegisters = {} := by rw [h.wiped, pointless]
  have pa : s.paOn = false := h.amplifiers.paOn_eq
  have lna : s.lnaOn = false := h.amplifiers.lnaOn_eq
  obtain ⟨⟨-, routes, transfer, completed, -⟩, uninitialized, noCarrier, -, timer, -⟩ := h
  -- what the new mode does not write is as it was vacated
  have dark : ∀ mode, ({ s with mode := mode } : Station).imprint =
      { mode := mode, registers := {}, timer := false, routes := {}, pa := false, lna := false
        transfer := .idle, completed := false, carrier := false, initialized := false } := by
    intro mode
    simp only [imprint, Imprint.mk.injEq]
    exact ⟨trivial, registers, timer, routes, pa, lna, transfer, completed, noCarrier,
      uninitialized⟩
  cases target with
  | disabled => exact dark .disabled
  | presenceScan => exact dark .presenceScan
  | carrier =>
    have entered : (s.enterMode .carrier).imprint =
        { ({ s with mode := .carrier } : Station).imprint with
          registers := { s.radio.toRegisters with
            powered := true
            bitrate := .mbps2
            txPower := .pos4Dbm } } := rfl
    rw [entered, dark, registers]
    rfl
  | powerMeasurement =>
    have entered : (s.enterMode .powerMeasurement).imprint =
        { ({ s with mode := .powerMeasurement } : Station).imprint with
          registers := { s.radio.toRegisters with powered := true, shorts := .txOnce } } := rfl
    rw [entered, dark, registers]
    rfl
  | link =>
    have prepared : (s.onFrontEnd FrontEnd.prepare).paOn = s.paOn ∧
        (s.onFrontEnd FrontEnd.prepare).lnaOn = s.lnaOn := by
      unfold paOn lnaOn onFrontEnd
      cases s.frontEnd <;> exact ⟨rfl, rfl⟩
    have entered : (s.enterMode .link).imprint =
        { ({ s with mode := .link } : Station).imprint with
          registers := { s.radio.toRegisters with
            powered := true
            packetConfigured := true
            txPower := .zeroDbm
            channel := s.link.config.channel
            bitrate := s.link.config.bitrate
            base0 := s.link.config.address.base
            prefix0 := s.link.config.address.pipePrefix s.radio.prefix0
            shorts := .rssi
            events := { s.radio.events with disabled := false, frameEnd := false } }
          timer := true
          routes := {}
          pa := (s.onFrontEnd FrontEnd.prepare).paOn
          lna := (s.onFrontEnd FrontEnd.prepare).lnaOn
          transfer := .idle
          completed := false
          initialized := true } := rfl
    rw [entered, dark, registers, prepared.1, prepared.2, pa, lna]
    rfl

/-- **A switch that does not start from the link ends at once**, without a trace of the old mode. A
radio that has power may point anywhere before. -/
theorem AtRest.imprint_startSwitch (h : s.AtRest True True)
    (dark : s.radio.powered = false → s.radio.buffer = none) {target : Mode}
    (other : s.mode ≠ target) (unlinked : s.mode ≠ .link) :
    ∃ t, s.startSwitch target = (t, .finished ()) ∧ t.imprint = target.imprint s.link.config ∧
      t.link.config = s.link.config := by
  have noted := (note_agree (.modeChange s.mode target) s).atRest h
  -- without power the radio points at nothing; with it, the way out of the mode takes the pointer
  -- away
  have pointless : s.mode = .disabled ∨ s.mode = .presenceScan → s.radio.buffer = none := by
    intro mode
    have vacant := h.vacant_of_mode mode
    exact dark (by rw [vacant.wiped])
  have steers := (s.steers_startSwitch target).config
  unfold Station.startSwitch at steers ⊢
  rw [if_neg other] at steers ⊢
  dsimp only at steers ⊢
  split at steers
  · rename_i mode
    have vacant := noted.vacant_of_mode (.inl mode)
    exact ⟨_, rfl, vacant.imprint_enterMode (pointless (.inl mode)) target, steers⟩
  · rename_i mode
    exact absurd mode unlinked
  · rename_i mode
    have vacant := noted.vacant_of_mode (.inr mode)
    exact ⟨_, rfl, vacant.imprint_enterMode (pointless (.inr mode)) target, steers⟩
  · rename_i mode
    have imprint := (noted.exitCarrierMode mode).imprint_enterMode rfl target
    rw [(steers_exitCarrierMode _).config] at imprint
    exact ⟨_, rfl, imprint, steers⟩
  · rename_i mode
    obtain ⟨gauge, -, amplifiers⟩ := noted.gauge_of_mode mode
    exact ⟨_, rfl, (gauge.exit amplifiers).imprint_enterMode rfl target, steers⟩

/-- A switch that starts from the link waits for it to stop. -/
theorem startSwitch_of_link (linked : s.mode = .link) {target : Mode} (other : s.mode ≠ target) :
    s.startSwitch target = ((s.note (.modeChange s.mode target)).beginTeardown,
      .waiting ⟨target, s.clock + teardownTime⟩) := by
  have noted : (s.note (.modeChange s.mode target)).mode = .link := linked
  unfold startSwitch
  rw [if_neg other]
  dsimp only
  rw [noted]
  rfl

/-- **A switch that waited for the link to stop ends without a trace of it.** -/
theorem Torn.imprint_checkSwitch (h : s.Torn True) {t : Teardown} (late : t.deadline ≤ s.clock) :
    ∃ s', s.checkSwitch t = (s', .finished ()) ∧ s'.imprint = t.target.imprint s.link.config ∧
      s'.link.config = s.link.config := by
  unfold Station.checkSwitch
  rw [if_pos late]
  have steers : s.Steers s.finishTeardown := ⟨rfl, rfl⟩
  exact ⟨_, rfl, h.exit.imprint_enterMode rfl t.target, (steers.enterMode t.target).config⟩

end Station

/-! ## Switches as jobs -/

/-- The mode that a request switches to. -/
def Request.target? : Request → Option Mode
  | .switchMode mode => some mode
  | .switchModeNamed name => Mode.ofName? name
  | _ => none

/-- A look at the job ends a mode switch, and leaves this mode and its imprint. That holds wherever
the radio points while it has power; without power it points where the old mode left it. The imprint
is what the operation itself leaves, before the bench takes any buffer back. -/
def Job.Switched (job : Job) (s : Station) (config : LinkConfig) (target : Mode) : Prop :=
  ∀ pointer, s.radio.powered = true ∨ pointer = s.radio.buffer →
    ∃ t, job.activity.poll (s.onRadio (Radio.setBuffer pointer)) = (t, .finished (.ok .done)) ∧
      t.imprint = target.imprint config ∧ t.link.config = config

/-- A look at the job has it wait for the link to stop, wherever the radio points. -/
def Job.AwaitsTeardown (job : Job) (s : Station) (t : Teardown) : Prop :=
  ∀ pointer, (job.activity.poll (s.onRadio (Radio.setBuffer pointer))).2 = .waiting (.switching t)

namespace Job

open Station

variable {job : Job} {s : Station}

/-- A request to switch modes waits for nothing but the lock. -/
theorem poll_of_target? {request : Request} {target : Mode} (asks : request.target? = some target)
    (free : s.locked = false) :
    (Activity.queued request).poll s = withLock (ofSwitch (s.startSwitch target)) := by
  cases request with
  | switchMode mode =>
    obtain rfl := Option.some.inj asks
    exact Activity.poll_queued_of_free free rfl rfl
  | switchModeNamed name =>
    have named : Mode.ofName? name = some target := asks
    have undecided : (Request.switchModeNamed name).answer? = none := by
      simp [Request.answer?, named]
    rw [Activity.poll_queued_of_free free undecided rfl]
    unfold start
    dsimp only
    rw [named]
  | _ => exact absurd asks (by simp [Request.target?])

/-- **Outside the link's mode a request to switch is over with its first look.** -/
theorem switched_of_unlinked (h : s.AtRest True True) (sole : s.tenure.Sole)
    (free : s.locked = false) {request : Request} (queued : job.activity = .queued request)
    {target : Mode} (asks : request.target? = some target) (other : s.mode ≠ target)
    (unlinked : s.mode ≠ .link) : job.Switched s s.link.config target := by
  intro pointer allowed
  have pointed : (s.onRadio (Radio.setBuffer pointer)).AtRest True True :=
    (setBuffer_agree h.calm.transfer pointer).atRest h
  have dark : s.radio.powered = false → pointer = none := by
    intro off
    rcases allowed with on | rfl
    · exact absurd (off.symm.trans on) (by simp)
    · exact sole.buffer_of_unpowered off
  have free' : (s.onRadio (Radio.setBuffer pointer)).locked = false := free
  obtain ⟨t, ended, imprint, same⟩ := pointed.imprint_startSwitch dark other unlinked
  refine ⟨t.setLocked false, ?_, imprint, same⟩
  rw [queued, poll_of_target? asks free', ended]
  rfl

/-- In the link's mode it waits for the link to stop. -/
theorem awaitsTeardown_of_link (linked : s.mode = .link) (free : s.locked = false)
    {request : Request} (queued : job.activity = .queued request) {target : Mode}
    (asks : request.target? = some target) (other : s.mode ≠ target) :
    job.AwaitsTeardown s ⟨target, s.clock + teardownTime⟩ := by
  intro pointer
  have linked' : (s.onRadio (Radio.setBuffer pointer)).mode = .link := linked
  have free' : (s.onRadio (Radio.setBuffer pointer)).locked = false := free
  rw [queued, poll_of_target? asks free', startSwitch_of_link linked' other]
  rfl

/-- A switch that waits looks whether the link has stopped. -/
theorem poll_of_switching {t : Teardown} (switching : job.activity = .switching t) (s : Station) :
    job.activity.poll s = withLock (ofSwitch (s.checkSwitch t)) := by
  rw [switching]
  rfl

/-- **A switch that waited is over with the first look after the link has had its time.** -/
theorem switched_of_late {t : Teardown} (h : s.Torn True) (switching : job.activity = .switching t)
    (late : t.deadline ≤ s.clock) : job.Switched s s.link.config t.target := by
  intro pointer _
  have pointed : (s.onRadio (Radio.setBuffer pointer)).Torn True :=
    (setBuffer_agree h.calm.transfer pointer).torn h
  obtain ⟨s', ended, imprint, same⟩ := pointed.imprint_checkSwitch late
  refine ⟨s'.setLocked false, ?_, imprint, same⟩
  rw [poll_of_switching switching, ended]
  rfl

/-- It is not over before. -/
theorem awaitsTeardown_of_early {t : Teardown} (switching : job.activity = .switching t)
    (early : s.clock < t.deadline) : job.AwaitsTeardown s t := by
  intro pointer
  have waits : ¬t.deadline ≤ (s.onRadio (Radio.setBuffer pointer)).clock := Nat.not_le.mpr early
  rw [poll_of_switching switching]
  unfold checkSwitch
  rw [if_neg waits]
  rfl

end Job

/-! ## Switches among other operations -/

namespace Bench

variable {b : Bench} {t : Teardown}

/-- A switch waits for the link to stop. -/
def Switches (t : Teardown) (b : Bench) : Prop := ∃ job ∈ b.jobs, job.activity = .switching t

/-- A switch waits for the link to stop, and goes on waiting along a run. -/
def SwitchesDuring (t : Teardown) : List Move → Bench → Prop
  | [], b => b.Switches t
  | move :: moves, b => b.Switches t ∧ SwitchesDuring t moves (b.make move)

instance (t : Teardown) (b : Bench) : Decidable (b.Switches t) :=
  inferInstanceAs (Decidable (∃ job ∈ b.jobs, job.activity = .switching t))

instance SwitchesDuring.decidable (t : Teardown) :
    ∀ (moves : List Move) (b : Bench), Decidable (b.SwitchesDuring t moves)
  | [], b => inferInstanceAs (Decidable (b.Switches t))
  | move :: moves, b =>
    have _later := SwitchesDuring.decidable t moves (b.make move)
    inferInstanceAs (Decidable (b.Switches t ∧ (b.make move).SwitchesDuring t moves))

/-- **While a switch waits for the link to stop, no move changes the configuration**: the lock keeps
everybody from it who could. -/
theorem Switches.config_make (switches : b.Switches t) (sound : b.Sound True True) {move : Move}
    (regular : move.Regular) : (b.make move).station.link.config = b.station.link.config := by
  obtain ⟨holder, all, custody⟩ := sound.custody
  obtain ⟨waiting, member, switching⟩ := switches
  obtain rfl : holder = some (.switching t) := by
    rw [← switching]
    exact Job.holder_eq all member (by rw [switching]; rfl)
  have released : ∀ s : Station, s.releaseBuffers.link.config = s.link.config := fun s =>
    have agree : Station.Agree True s s.releaseBuffers := s.releaseBuffers_agree
    agree.config.symm
  cases move with
  | ask label work =>
    have agree : Station.Agree True b.station (b.enlist label work).station := b.enlist_agree ..
    exact agree.config.symm
  | look position =>
    obtain same | ⟨before, job, later, jobs, rfl, station, -⟩ := b.lookAt_cases position
    · exact congrArg (fun b : Bench => b.station.link.config) same
    have member : job ∈ b.jobs := by simp [jobs]
    have polled : (job.activity.poll b.station).1.link.config = b.station.link.config := by
      cases holds : job.activity.holdsLock with
      | true =>
        -- whoever has the lock is the switch
        have same : Activity.switching t = job.activity :=
          Option.some.inj (Job.holder_eq all member holds)
        rw [← same]
        exact (Station.steers_checkSwitch t b.station).config
      | false =>
        rw [Job.unchanged_of_locked custody.1 (sound.regular job member) holds]
    show (b.lookAt before.length).station.link.config = _
    rw [station, Job.poll_eq]
    rcases found : job.activity.poll b.station with ⟨s, activity | result⟩
    · rw [found] at polled
      exact polled
    · rw [found] at polled
      exact (released s).trans polled
  | giveUp position =>
    cases found : b.jobs[position]? with
    | none =>
      exact congrArg (fun b : Bench => b.station.link.config) (giveUp_of_none found)
    | some job =>
      obtain ⟨before, later, jobs, rfl⟩ := exists_split found
      show (b.giveUp before.length).station.link.config = _
      rw [(giveUp_split jobs).1]
      exact (released _).trans (Station.steers_drop ..).config
  | wait time => rfl
  | service => exact congrArg Link.config b.station.link_serviceRadio
  | pump =>
    exact congrArg Link.config (b.station.pump_spares.2.2.trans b.station.link_serviceRadio)
  | arrange command => exact (execute_of_arranges regular).1.config.symm
  | turnPage => rfl

/-- **What a run does while the switch waits.** The induction is on the moves. -/
theorem SwitchesDuring.config_after {moves : List Move} (during : b.SwitchesDuring t moves)
    (reachable : b.Reachable) (regular : ∀ move ∈ moves, move.Regular) :
    (b.after moves).station.link.config = b.station.link.config := by
  induction moves generalizing b with
  | nil => rfl
  | cons move moves ih =>
    obtain ⟨switches, later⟩ := during
    have allowed : move.Regular := regular move (by simp)
    have rest : ∀ m ∈ moves, m.Regular := fun m member => regular m (by simp [member])
    rw [after_cons, ih later (reachable.make move allowed) rest]
    exact switches.config_make reachable.sound allowed

/-- With the lock free, a look at a switch in the mode of the link has it wait for that to stop. -/
theorem switches_of_link {before later : List Job} {job : Job}
    (jobs : b.jobs = before ++ job :: later) (linked : b.station.mode = .link) {target : Mode}
    (other : b.station.mode ≠ target)
    (polled : job.activity.poll b.station =
      Station.withLock (Station.ofSwitch (b.station.startSwitch target))) :
    (b.lookAt before.length).Switches ⟨target, b.station.clock + teardownTime⟩ ∧
      (b.lookAt before.length).station.link.config = b.station.link.config := by
  obtain ⟨station, jobs'⟩ := lookAt_split jobs
  rw [Station.startSwitch_of_link linked other] at polled
  have goesOn : (job.poll b.station).2 =
      .waiting { job with activity := .switching ⟨target, b.station.clock + teardownTime⟩ } := by
    rw [Job.poll_eq, polled]
    rfl
  rw [goesOn] at jobs'
  refine ⟨⟨{ job with activity := .switching ⟨target, b.station.clock + teardownTime⟩ }, ?_, rfl⟩,
    ?_⟩
  · rw [jobs']
    simp [Job.remaining]
  · rw [station, Job.poll_eq, polled]
    rfl

/-- A switch that waits has the station of a link that has stopped. -/
theorem Reachable.torn_of_switching (h : b.Reachable) {job : Job} (member : job ∈ b.jobs)
    (switching : job.activity = .switching t) : b.station.Torn True := by
  have alone : b.Sound True True ∧ b.station.Held True job.activity :=
    h.sound.of_holder member (by rw [switching]; rfl)
  rw [switching] at alone
  exact alone.2

end Bench

/-! ## The result -/

/-- **A mode switch forgets the past.** On every reachable bench with a free lock, let a job ask for
another mode than the current one. Outside the link's mode, a look at it ends the switch. In the
link's mode the look leaves a switch that waits for the link to stop; whatever is done to the bench
while it waits, a look at it ends the switch as soon as the link has had its time, and not before.
When the switch ends, it succeeds, the configuration is the one that was stored when it started, and
everything that the old mode could have left behind is a function of the new mode and of that
configuration. All of it holds wherever the radio points at that look, and of the station as the
switch leaves it. -/
theorem Bench.Reachable.imprint_of_switch {b : Bench} (h : b.Reachable)
    (free : b.station.locked = false) {position : Nat} {job : Job}
    (found : b.jobs[position]? = some job) {request : Request}
    (queued : job.activity = .queued request) {target : Mode}
    (asks : request.target? = some target) (other : b.station.mode ≠ target) :
    let config := b.station.link.config
    let t : Teardown := ⟨target, b.station.clock + teardownTime⟩
    (b.station.mode ≠ .link → job.Switched b.station config target) ∧
    (b.station.mode = .link → job.AwaitsTeardown b.station t ∧ (b.lookAt position).Switches t ∧
      ∀ moves : List Move, (∀ move ∈ moves, move.Regular) →
        (b.lookAt position).SwitchesDuring t moves →
        let c := (b.lookAt position).after moves
        ∀ waiting ∈ c.jobs, waiting.activity = .switching t →
          (t.deadline ≤ c.station.clock → waiting.Switched c.station config target) ∧
          (c.station.clock < t.deadline → waiting.AwaitsTeardown c.station t)) := by
  intro config t
  have sole : b.station.tenure.Sole :=
    h.guarded_tenure.elim (p := fun t => t.tenure.Sole) (fun free => free.1) fun held => held.1
  refine ⟨?_, ?_⟩
  · exact Job.switched_of_unlinked (h.sound.atRest_of_free free) sole free queued asks other
  · intro linked
    -- out of link mode the switch waits; whatever happens meanwhile, the link stays torn and its
    -- configuration as it is
    have polled : job.activity.poll b.station =
        Station.withLock (Station.ofSwitch (b.station.startSwitch target)) := by
      rw [queued]
      exact Job.poll_of_target? asks free
    obtain ⟨before, later, jobs, rfl⟩ := exists_split found
    obtain ⟨switches, same⟩ := switches_of_link jobs linked other polled
    refine ⟨Job.awaitsTeardown_of_link linked free queued asks other, switches, ?_⟩
    intro moves regular during c waiting member switching
    have looked : (b.lookAt before.length).Reachable := h.make (.look before.length) trivial
    have torn := (looked.after moves regular).torn_of_switching member switching
    have kept : c.station.link.config = config :=
      (during.config_after looked regular).trans same
    rw [← kept]
    exact ⟨Job.switched_of_late torn switching, Job.awaitsTeardown_of_early switching⟩

/-- A switch with a carrier on air is given up while it waits for the link to stop, which leaves the
amplifier on. The next switch waits as long as the link needs, with another operation asking for the
radio meanwhile, and leaves nothing of that behind, even if the radio has pointed at some packet all
the time. -/
theorem Bench.imprint_of_switch_after_torn_link :
    let b := (Bench.ofStation (.withFrontEnd .zeros)).after
      [.ask none (.request (.switchMode .link)), .look 0,
        .ask none (.request (.toggleCarrier true)), .look 0,
        .ask none (.request (.switchMode .disabled)), .look 0, .wait 10, .giveUp 0,
        .ask none (.request (.switchModeNamed "powerMeasurement"))]
    let t : Teardown := ⟨.powerMeasurement, 210⟩
    let moves : List Move :=
      [.wait 150, .pump, .ask none (.request (.configure .standard)), .look 1, .wait 50]
    let c := (b.lookAt 0).after moves
    b.Reachable ∧ b.station.locked = false ∧ b.station.paOn = true ∧
      (b.lookAt 0).SwitchesDuring t moves ∧ t.deadline ≤ c.station.clock ∧
      c.station.radio.powered = true ∧
      ∃ job ∈ c.jobs, job.activity = .switching t ∧
        job.Switched c.station b.station.link.config .powerMeasurement ∧
        ∃ s, job.activity.poll (c.station.onRadio (Radio.setBuffer (some ⟨0⟩))) =
            (s, .finished (.ok .done)) ∧ s.radio.buffer = none := by
  intro b t moves c
  have reachable : b.Reachable := (Bench.Reachable.startUp ⟨.zeros, .inl rfl⟩).after _ (by decide)
  have free : b.station.locked = false := by decide +kernel
  have found : b.jobs[0]? =
      some ⟨none, none, .queued (.switchModeNamed "powerMeasurement")⟩ := by decide +kernel
  have asks : Request.target? (.switchModeNamed "powerMeasurement") = some .powerMeasurement := by
    decide +kernel
  have linked : b.station.mode = .link := by decide +kernel
  have other : b.station.mode ≠ .powerMeasurement := by
    rw [linked]
    decide
  have during : (b.lookAt 0).SwitchesDuring t moves := by decide +kernel
  have late : t.deadline ≤ c.station.clock := by decide +kernel
  have waits : c.Switches t := by decide +kernel
  have powered : c.station.radio.powered = true := by decide +kernel
  obtain ⟨-, waiting⟩ := Bench.Reachable.imprint_of_switch reachable free found rfl asks other
  obtain ⟨job, member, switching⟩ := waits
  have switched : job.Switched c.station b.station.link.config .powerMeasurement :=
    ((waiting linked).2.2 moves (by decide) during job member switching).1 late
  obtain ⟨s, ended, imprint, -⟩ := switched (some ⟨0⟩) (.inl powered)
  have wiped : s.radio.toRegisters.buffer = none :=
    congrArg (fun i => i.registers.buffer) imprint
  exact ⟨reachable, free, by decide +kernel, during, late, powered, job, member, switching,
    switched, s, ended, wiped⟩

end BurstLink
