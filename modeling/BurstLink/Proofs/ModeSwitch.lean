import BurstLink.Proofs.Custody.Bench

/-! # Mode switches that are given up

A switch away from the link tells the link to stop, waits, and then gives the radio up. Given up
while it waits, it leaves the mode on the link and the link down. This module says exactly when a
station is in that state: from the moment such a switch is given up until the next one runs to its
end.

Main definitions:

* **`Station.Whole`** — the mode is the link's exactly if the link is up, and the power amplifier is
  on only with a carrier.
* **`Bench.tornAfter`** — whether the last switch that waited for the link to stop was given up.

Main statement: `Bench.whole_iff_not_torn`, with the reachable bench on which a send after a
successful start is refused (`Bench.start_without_effect`). -/

namespace BurstLink

/-- The mode is the link's exactly if the link is up, and the power amplifier is on only with a
carrier. -/
structure Station.Whole (s : Station) : Prop where
  link : s.mode = .link ↔ s.link.initialized = true
  amplifier : s.paOn = true → s.link.carrier = true

namespace Bench

/-- The move finishes a switch that waited for the link to stop. -/
def mendsBy (b : Bench) : Move → Bool
  | .look position => b.jobs[position]?.any fun job =>
    job.activity.isSwitching && !(job.poll b.station).2.isWaiting
  | _ => false

/-- Whether the link is torn after a move, given whether it was before. -/
def tornBy (b : Bench) (torn : Bool) (move : Move) : Bool :=
  (torn || b.tearsBy move) && !b.mendsBy move

/-- Whether the last switch that waited for the link to stop was given up, after some moves. -/
def tornAfter (b : Bench) (torn : Bool) : List Move → Bool
  | [] => torn
  | move :: moves => (b.make move).tornAfter (b.tornBy torn move) moves

end Bench

namespace Station

variable {delays tears : Prop} {s : Station}

/-! ## Whole and torn -/

/-- The transmit amplifier that is said to be off is off. -/
theorem Amplifiers.paOn_eq {lna : Bool} (h : s.Amplifiers false lna) : s.paOn = false := by
  unfold paOn
  cases found : s.frontEnd with
  | none => rfl
  | some f => exact (h f found).1

/-- A station at rest is whole, unless the link was left torn. -/
theorem AtRest.whole (h : s.AtRest delays False) : s.Whole := by
  cases h with
  | dark mode h =>
    refine ⟨⟨fun same => ?_, fun up => ?_⟩, fun on => ?_⟩
    · rw [same] at mode
      exact absurd mode (by simp)
    · exact absurd (up.symm.trans h.uninitialized) (by simp)
    · exact absurd (on.symm.trans h.amplifiers.paOn_eq) (by simp)
  | standby h =>
    refine ⟨⟨fun _ => h.initialized, fun _ => h.mode⟩, fun on => ?_⟩
    exact absurd (on.symm.trans h.amplifiers.paOn_eq) (by simp)
  | toning h => exact ⟨⟨fun _ => h.initialized, fun _ => h.mode⟩, fun _ => h.carrier⟩
  | torn may h => exact absurd may id
  | carrier h tuned =>
    refine ⟨⟨fun same => ?_, fun up => ?_⟩, fun on => ?_⟩
    · exact absurd (same.symm.trans h.mode) (by simp)
    · exact absurd (up.symm.trans h.uninitialized) (by simp)
    · rcases tuned with ⟨carrier, -⟩ | ⟨-, -, amplifiers⟩
      · exact carrier
      · exact absurd (on.symm.trans amplifiers.paOn_eq) (by simp)
  | gauge h off amplifiers =>
    refine ⟨⟨fun same => ?_, fun up => ?_⟩, fun on => ?_⟩
    · exact absurd (same.symm.trans h.mode) (by simp)
    · exact absurd (up.symm.trans h.uninitialized) (by simp)
    · exact absurd (on.symm.trans amplifiers.paOn_eq) (by simp)

/-- A station with the link torn down half-way is not whole. -/
theorem Torn.not_whole (h : s.Torn delays) : ¬s.Whole := fun whole =>
  absurd ((whole.link.mp h.mode).symm.trans h.uninitialized) (by simp)

/-- A torn link refuses as one that was never initialized. -/
theorem Torn.ready_eq (h : s.Torn delays) : s.ready = .error .notInitialized := by
  simp [ready, h.uninitialized]

/-- With the link torn, a configuration is stored and does not reach the radio. -/
theorem Torn.storeConfig (h : s.Torn delays) (config : LinkConfig) :
    (s.storeConfig config).Torn delays := by
  have stored : s.storeConfig config = s.onLink fun link => { link with config := config } :=
    if_neg (by simp [h.uninitialized, onLink])
  rw [stored]
  exact ⟨⟨h.calm.1, h.calm.2, h.calm.3, h.calm.4, h.calm.5⟩, h.mode, h.uninitialized, h.noCarrier,
    h.powered, h.formatted, h.txPower, h.timer, h.off, h.receiverOff⟩

/-- A torn link stays torn when a switch starts: the check fails before anything is touched. -/
theorem Torn.startSwitch (h : s.Torn delays) (target : Mode) :
    (s.startSwitch target).1.Torn delays := by
  unfold Station.startSwitch
  split
  · exact h
  · have noted := (note_agree (.modeChange s.mode target) s).torn h
    simp only [noted.mode]
    exact noted.beginTeardown

/-- With the link torn, what would send is refused. -/
theorem Torn.start_of_transmits (h : s.Torn delays) {request : Request}
    (transmits : request.Transmits) : (s.start request).1.Torn delays := by
  obtain ⟨buffers, refused⟩ := start_of_not_ready transmits h.ready_eq
  rw [refused]
  exact (buffers_agree buffers s).torn h

/-- With the link torn, what is for another mode than the link's is not available. -/
theorem Torn.start_of_mode? (h : s.Torn delays) {request : Request} {mode : Mode}
    (wants : request.mode? = some mode) (other : mode ≠ .link) :
    (s.start request).1.Torn delays := by
  rw [start_of_other_mode wants fun same => other (same.symm.trans h.mode)]
  exact h

/-- With the link torn, its carrier cannot be switched. -/
theorem Torn.toggleCarrier_eq (h : s.Torn delays) (on : Bool) :
    s.toggleCarrier on = (s, .error .notInitialized) :=
  if_pos (by simp [h.uninitialized])

/-- **With the link torn, no operation mends it at once.** -/
theorem Torn.start (h : s.Torn delays) (request : Request) (regular : request.Regular) :
    (s.start request).1.Torn delays := by
  cases request with
  | switchMode mode => exact h.startSwitch mode
  | switchModeNamed name =>
    unfold Station.start
    dsimp only
    split
    · exact h.startSwitch _
    · exact h
  | readConfig => exact h
  | configure config => exact (note_agree ..).torn (h.storeConfig config)
  | change change => exact (note_agree ..).torn (h.storeConfig _)
  | setPowerLevel level => exact (setPowerLevel_agree ..).torn h
  | send => exact h.start_of_transmits trivial
  | sendPayload => exact h.start_of_transmits trivial
  | scanChannels => exact h.start_of_transmits trivial
  | toggleCarrier on =>
    show (asAnswer .changed (s.toggleCarrier on)).1.Torn delays
    rw [h.toggleCarrier_eq]
    exact h
  | startCarrier => exact h.start_of_mode? rfl (by decide)
  | stopCarrier => exact h.start_of_mode? rfl (by decide)
  | measureRssi => exact h.start_of_mode? rfl (by decide)
  | scanPresence => exact h.start_of_mode? rfl (by decide)
  | testAmplifiers => exact absurd regular id

/-- With the link torn, only a switch that waits for it to stop can hold the lock. -/
theorem Torn.switching_of_held (h : s.Torn delays) {activity : Activity}
    (held : s.Held delays activity) : activity.isSwitching = true := by
  cases activity with
  | queued request => exact absurd held id
  | sending f purpose =>
    exact absurd ((InFlight.initialized held).symm.trans h.uninitialized) (by simp)
  | switching t => rfl
  | measuring m =>
    exact absurd (h.mode.symm.trans (GaugeMode.mode (Gauging.gauge held))) (by simp)
  | listening l => exact absurd (h.mode.symm.trans held.2) (by simp)
  | testing t => exact absurd held id

/-- With the link torn, a look at a request leaves it torn. -/
theorem Torn.poll_queued (h : s.Torn delays) {request : Request} (regular : request.Regular) :
    ((Activity.queued request).poll s).1.Torn delays := by
  show (s.checkQueued request).1.Torn delays
  unfold checkQueued
  split
  · exact h
  · split
    · split
      · exact h
      · exact (setLocked_agree ..).torn (h.start request regular)
    · exact h.start request regular

/-- A switch that goes on waiting for the link to stop leaves it torn. -/
theorem Torn.poll_switching (h : s.Torn delays) {t : Teardown}
    (goesOn : ((Activity.switching t).poll s).2.isWaiting = true) :
    ((Activity.switching t).poll s).1.Torn delays := by
  have polled : (Activity.switching t).poll s = withLock (ofSwitch (s.checkSwitch t)) := rfl
  rw [polled] at goesOn ⊢
  by_cases late : t.deadline ≤ s.clock
  · have checked : s.checkSwitch t = (s.finishTeardown.enterMode t.target, .finished ()) :=
      if_pos late
    rw [checked] at goesOn
    exact absurd goesOn (by simp [withLock, ofSwitch, asProgress, Look.map, Look.isWaiting])
  · have checked : s.checkSwitch t = (s, .waiting t) := if_neg late
    rw [checked]
    exact (setLocked_agree ..).torn h

/-- Rest that admits a torn link under a condition admits it under a weaker one. -/
theorem AtRest.mono {tears' : Prop} (h : s.AtRest delays tears) (weaker : tears → tears') :
    s.AtRest delays tears' := by
  cases h with
  | dark mode h => exact .dark mode h
  | standby h => exact .standby h
  | toning h => exact .toning h
  | torn may h => exact .torn (weaker may) h
  | carrier h tuned => exact .carrier h tuned
  | gauge h off amplifiers => exact .gauge h off amplifiers

end Station

/-! ## What a move does to a torn link -/

namespace Bench

variable {delays tears tears' : Prop} {b : Bench} {torn : Bool}

/-- So does soundness of the whole bench. -/
theorem Sound.mono (h : b.Sound delays tears) (weaker : tears → tears') :
    b.Sound delays tears' := by
  obtain ⟨⟨holder, all, custody⟩, regular⟩ := h
  refine ⟨⟨holder, all, ?_⟩, regular⟩
  cases holder with
  | none => exact ⟨custody.1, custody.2.mono weaker⟩
  | some activity => exact custody

/-- While a job holds the lock, it does not matter whether the link was torn before. -/
theorem Sound.of_holder (h : b.Sound delays tears) {job : Job} (member : job ∈ b.jobs)
    (holds : job.activity.holdsLock = true) :
    b.Sound delays tears' ∧ b.station.Held delays job.activity := by
  obtain ⟨⟨holder, all, custody⟩, regular⟩ := h
  obtain rfl := Job.holder_eq all member holds
  exact ⟨⟨⟨_, all, custody⟩, regular⟩, custody.2⟩

/-- What is known of a bench whose link was left torn or not. -/
structure Marked (torn : Bool) (b : Bench) : Prop where
  sound : b.Sound True (torn = true)
  torn : torn = true → b.station.Torn True

end Bench

/-- A link that an operation leaves torn is torn after the bench's release of buffers as well. -/
theorem Job.torn_of_poll {job : Job} {s : Station}
    (h : (job.activity.poll s).1.Torn True) : (job.poll s).1.Torn True := by
  rw [poll_eq]
  rcases found : job.activity.poll s with ⟨s', activity | result⟩
  · rw [found] at h
    exact h
  · rw [found] at h
    exact s'.releaseBuffers_agree.torn h

/-- A job goes on exactly if its activity does. -/
theorem Job.isWaiting_poll (job : Job) (s : Station) :
    (job.poll s).2.isWaiting = (job.activity.poll s).2.isWaiting := by
  rw [poll_eq]
  rcases job.activity.poll s with ⟨s', activity | result⟩ <;> rfl

/-- The operations that switch are those that carry a switch. -/
theorem Activity.isSwitching_iff {activity : Activity} :
    activity.isSwitching = true ↔ ∃ t, activity = .switching t := by
  cases activity <;> simp [isSwitching]

namespace Bench

variable {delays tears tears' : Prop} {b : Bench} {torn : Bool}

/-- While the link is torn, a job that holds the lock waits for it to stop. -/
theorem Sound.switching_of_torn (h : b.Sound True tears) (torn : b.station.Torn True) {job : Job}
    (member : job ∈ b.jobs) (holds : job.activity.holdsLock = true) :
    ∃ t, job.activity = .switching t := by
  have alone : b.Sound True tears ∧ b.station.Held True job.activity := h.of_holder member holds
  exact Activity.isSwitching_iff.mp (torn.switching_of_held alone.2)

/-- A look at a job while the link is torn leaves it torn, unless it finishes a switch. -/
theorem torn_of_look (sound : b.Sound True tears) (h : b.station.Torn True) {position : Nat}
    (unmended : b.mendsBy (.look position) = false) : (b.lookAt position).station.Torn True := by
  cases found : b.jobs[position]? with
  | none =>
    rw [lookAt_of_none found]
    exact h
  | some job =>
    have member : job ∈ b.jobs := List.mem_of_getElem? found
    have regular := sound.regular job member
    obtain ⟨before, later, jobs, rfl⟩ := exists_split found
    rw [(lookAt_split jobs).1]
    -- the holder, if any, is a switch that goes on waiting; any other job is a request
    refine Job.torn_of_poll ?_
    cases holds : job.activity.holdsLock with
    | true =>
      obtain ⟨t, switching⟩ := sound.switching_of_torn h member holds
      have goesOn : (job.activity.poll b.station).2.isWaiting = true := by
        rw [← Job.isWaiting_poll]
        simpa [mendsBy, found, switching, Activity.isSwitching] using unmended
      rw [switching] at goesOn ⊢
      exact h.poll_switching goesOn
    | false =>
      obtain ⟨request, queued⟩ := Job.queued_of_not_holdsLock regular holds
      rw [queued] at regular ⊢
      exact h.poll_queued regular

/-- Giving a job up while the link is torn leaves it torn. -/
theorem torn_of_giveUp (sound : b.Sound True tears) (h : b.station.Torn True) (position : Nat) :
    (b.giveUp position).station.Torn True := by
  cases found : b.jobs[position]? with
  | none =>
    rw [giveUp_of_none found]
    exact h
  | some job =>
    have member : job ∈ b.jobs := List.mem_of_getElem? found
    have regular := sound.regular job member
    obtain ⟨before, later, jobs, rfl⟩ := exists_split found
    rw [(giveUp_split jobs).1]
    refine (Station.releaseBuffers_agree _).torn ?_
    cases holds : job.activity.holdsLock with
    | true =>
      obtain ⟨t, switching⟩ := sound.switching_of_torn h member holds
      rw [switching]
      exact (Station.setLocked_agree ..).torn h
    | false =>
      obtain ⟨request, queued⟩ := Job.queued_of_not_holdsLock regular holds
      rw [queued]
      exact h

/-- A switch that is given up while it waits for the link to stop leaves it torn. -/
theorem Sound.torn_of_tears (h : b.Sound True tears) {position : Nat}
    (given : b.tearsBy (.giveUp position) = true) : b.station.Torn True := by
  cases found : b.jobs[position]? with
  | none => simp [tearsBy, found] at given
  | some job =>
    have switching : job.activity.isSwitching = true := by simpa [tearsBy, found] using given
    obtain ⟨t, activity⟩ := Activity.isSwitching_iff.mp switching
    have alone : b.Sound True tears ∧ b.station.Held True job.activity :=
      h.of_holder (List.mem_of_getElem? found) (by rw [activity]; rfl)
    rw [activity] at alone
    exact alone.2

/-- A move that finishes a switch finds a job that holds the lock. -/
theorem holder_of_mends {move : Move} (mends : b.mendsBy move = true) :
    b.tearsBy move = false ∧ ∃ job ∈ b.jobs, job.activity.holdsLock = true := by
  cases move with
  | look position =>
    refine ⟨rfl, ?_⟩
    cases found : b.jobs[position]? with
    | none => simp [mendsBy, found] at mends
    | some job =>
      simp only [mendsBy, found, Option.any_some, Bool.and_eq_true] at mends
      obtain ⟨t, activity⟩ := Activity.isSwitching_iff.mp mends.1
      exact ⟨job, List.mem_of_getElem? found, by rw [activity]; rfl⟩
  | _ => exact absurd mends (by simp [mendsBy])

/-- A move that does not finish a switch leaves a torn link torn. -/
theorem torn_of_make (sound : b.Sound True tears) (h : b.station.Torn True) {move : Move}
    (regular : move.Regular) (unmended : b.mendsBy move = false) :
    (b.make move).station.Torn True := by
  cases move with
  | look position => exact torn_of_look sound h unmended
  | giveUp position => exact torn_of_giveUp sound h position
  | ask label work => exact (b.enlist_agree label work).torn h
  | wait time => exact (Station.clock_agree ..).torn h
  | turnPage => exact (Station.journal_agree ..).torn h
  | service => exact h.serviceRadio
  | pump =>
    have served := h.serviceRadio
    show b.station.pump.1.Torn True
    rw [Station.pump_of_quiet (by simp [Radio.interruptPending, served.calm.interrupt])]
    exact served
  | arrange command => exact (execute_of_arranges regular).1.torn h

/-- **What one move preserves**: the mark says whether the link is torn. -/
theorem Marked.make (h : b.Marked torn) {move : Move} (regular : move.Regular) :
    (b.make move).Marked (b.tornBy torn move) := by
  cases mends : b.mendsBy move with
  | true =>
    obtain ⟨untorn, job, member, holds⟩ := holder_of_mends mends
    have mark : b.tornBy torn move = false := by simp [tornBy, mends]
    have fresh : b.Sound True (false = true) ∧ b.station.Held True job.activity :=
      h.sound.of_holder member holds
    rw [mark]
    exact ⟨fresh.1.make regular (by simp [untorn]), by simp⟩
  | false =>
    have mark : b.tornBy torn move = (torn || b.tearsBy move) := by simp [tornBy, mends]
    rw [mark]
    refine ⟨(h.sound.mono fun old => by simp [old]).make regular fun given => by simp [given], ?_⟩
    intro marked
    rcases Bool.or_eq_true_iff.mp marked with old | given
    · exact torn_of_make h.sound (h.torn old) regular mends
    · -- The switch that is given up has torn the link already.
      cases move with
      | giveUp position => exact torn_of_giveUp h.sound (h.sound.torn_of_tears given) position
      | _ => exact absurd given (by simp [tearsBy])

/-- **What a run of moves preserves.** -/
theorem Marked.after (h : b.Marked torn) (moves : List Move)
    (regular : ∀ move ∈ moves, move.Regular) :
    (b.after moves).Marked (b.tornAfter torn moves) := by
  induction moves generalizing b torn with
  | nil => exact h
  | cons move moves ih =>
    rw [after_cons, tornAfter]
    exact ih (h.make (regular move (by simp))) fun m hm => regular m (by simp [hm])

/-- While the lock is free, the mark says whether the station is at rest without a torn link, or the
link is torn. -/
theorem Marked.of_free (h : b.Marked torn) (free : b.station.locked = false) :
    torn = false ∧ b.station.AtRest True False ∨ torn = true ∧ b.station.Torn True := by
  cases torn with
  | true => exact .inr ⟨rfl, h.torn rfl⟩
  | false =>
    obtain ⟨holder, -, custody⟩ := h.sound.custody
    cases holder with
    | none => exact .inl ⟨rfl, custody.2.mono (by simp)⟩
    | some activity => exact absurd (free.symm.trans custody.1) (by simp)

end Bench

/-! ## Starting the link -/

/-- The request to hand the radio to the link, by mode or by name. -/
def Request.StartsLink (request : Request) : Prop :=
  request = .switchMode .link ∨ request = .switchModeNamed "esb"

namespace Station

variable {s : Station}

/-- Handing the radio to the link at rest takes effect at once, unless the link is torn. -/
theorem AtRest.startSwitch_link (h : s.AtRest True False) :
    ∃ t, s.startSwitch .link = (t, .finished ()) ∧ t.link.initialized = true := by
  by_cases mode : s.mode = .link
  · refine ⟨s, if_pos mode, h.whole.link.mp mode⟩
  · unfold Station.startSwitch
    rw [if_neg mode]
    dsimp only
    split
    · exact ⟨_, rfl, rfl⟩
    · rename_i current
      exact absurd current mode
    · exact ⟨_, rfl, rfl⟩
    · exact ⟨_, rfl, rfl⟩
    · exact ⟨_, rfl, rfl⟩

/-- A look at the request while the lock is free. -/
theorem poll_startsLink {request : Request} (starts : request.StartsLink)
    (free : s.locked = false) :
    (Activity.queued request).poll s = withLock (ofSwitch (s.startSwitch .link)) := by
  rcases starts with rfl | rfl
  · exact Activity.poll_queued_of_free free rfl rfl
  · have named : Mode.ofName? "esb" = some .link := Mode.ofName?_eq_some_iff.mpr rfl
    have started : s.start (.switchModeNamed "esb") = ofSwitch (s.startSwitch .link) := by
      simp only [start, named]
    rw [← started]
    exact Activity.poll_queued_of_free free rfl rfl

/-- A send is refused for want of the link only if the link is down. -/
theorem launch_refused_notInitialized (up : s.link.initialized = true) (packet ack : Buffer) :
    (s.launch packet ack).2 ≠ .refused .notInitialized := by
  unfold launch
  split
  · rename_i failure refused
    rintro ⟨⟩
    by_cases on : s.link.carrier = true
    · simp [ready, up, on] at refused
    · simp [ready, up, on] at refused
  · dsimp only
    split
    · simp
    · split <;> simp

/-- With the link up, a look at a send does not answer that it is down. -/
theorem poll_send_of_initialized (free : s.locked = false) (up : s.link.initialized = true)
    (packet ack : Buffer) :
    ((Activity.queued (.send packet ack)).poll s).2 ≠ .finished (.error .notInitialized) := by
  have launched := launch_refused_notInitialized up packet ack
  rw [Activity.poll_queued_of_free free rfl rfl]
  show (withLock (s.startSend packet ack false)).2 ≠ _
  unfold withLock startSend
  split
  · rename_i failure found
    rw [found] at launched
    intro same
    injection same with same
    injection same with same
    exact launched (by rw [same])
  · intro same
    injection same with same
    injection same
  · intro same
    injection same

/-- With the link torn, a look at a send answers that the link is down. -/
theorem Torn.poll_send (h : s.Torn True) (free : s.locked = false) (packet ack : Buffer) :
    ((Activity.queued (.send packet ack)).poll s).2 = .finished (.error .notInitialized) := by
  have transmits : (Request.send packet ack).Transmits := trivial
  obtain ⟨buffers, refused⟩ := start_of_not_ready transmits h.ready_eq
  rw [Activity.poll_queued_of_free free rfl rfl, refused]
  rfl

end Station

/-- **Exactly the switches that are given up while they wait for the link to stop break the link.**
Whenever the lock is free, the station is whole if and only if no such switch was given up since the
last one that ran to its end. A request to start the link then succeeds at once, and if and only if
the station was whole, no send after it fails because the link is down. -/
theorem Bench.whole_iff_not_torn {s : Station} (start : s.AtStartUp) (moves : List Move)
    (regular : ∀ move ∈ moves, move.Regular)
    (free : ((Bench.ofStation s).after moves).station.locked = false) :
    (((Bench.ofStation s).after moves).station.Whole ↔
        (Bench.ofStation s).tornAfter false moves = false) ∧
      ∀ request : Request, request.StartsLink → ∃ t,
        (Activity.queued request).poll ((Bench.ofStation s).after moves).station =
          (t, .finished (.ok .done)) ∧
        ((∀ packet ack, ((Activity.queued (.send packet ack)).poll t).2 ≠
            .finished (.error .notInitialized)) ↔
          (Bench.ofStation s).tornAfter false moves = false) := by
  have marked : (Bench.ofStation s).Marked false := ⟨.startUp start, by simp⟩
  generalize station : ((Bench.ofStation s).after moves).station = here at free ⊢
  -- with the lock free the link is at rest, or it was left torn
  rcases (marked.after moves regular).of_free (station ▸ free) with ⟨untorn, atRest⟩ | ⟨torn, h⟩
  · rw [station] at atRest
    refine ⟨by simp [untorn, atRest.whole], fun request starts => ?_⟩
    obtain ⟨t, switched, up⟩ := atRest.startSwitch_link
    refine ⟨t.setLocked false, ?_, ?_⟩
    · rw [Station.poll_startsLink starts free, switched]
      rfl
    · simp only [untorn, iff_true]
      exact Station.poll_send_of_initialized (s := t.setLocked false) rfl up
  · rw [station] at h
    refine ⟨by simp [torn, h.not_whole], fun request starts => ?_⟩
    -- the mode is the link's already, so that the switch does nothing and the link stays down
    have switched : here.startSwitch .link = (here, .finished ()) := if_pos h.mode
    refine ⟨here.setLocked false, ?_, ?_⟩
    · rw [Station.poll_startsLink starts free, switched]
      rfl
    · have refused := ((Station.setLocked_agree false here).torn h).poll_send rfl ⟨0⟩ ⟨0⟩
      simp only [torn, Bool.true_eq_false, iff_false]
      exact fun never => never _ _ refused

/-- A switch with a carrier on air that is given up while it waits for the link to stop: the lock is
free, the mode is the link's without the link being up, the power amplifier is on without a carrier,
and after a successful start a send fails because the link is down. -/
theorem Bench.start_without_effect :
    let b := (Bench.ofStation (.withFrontEnd .zeros)).after
      [.ask none (.request (.switchMode .link)), .look 0,
        .ask none (.request (.toggleCarrier true)), .look 0,
        .ask (some "switch") (.request (.switchModeNamed "disabled")), .look 0, .wait 10, .pump,
        .giveUp 0]
    b.Reachable ∧ b.station.locked = false ∧ b.station.mode = .link ∧
      b.station.link.initialized = false ∧ b.station.paOn = true ∧ b.station.link.carrier = false ∧
      ∃ t, (Activity.queued (.switchMode .link)).poll b.station = (t, .finished (.ok .done)) ∧
        ((Activity.queued (.send ⟨0⟩ ⟨1⟩)).poll t).2 = .finished (.error .notInitialized) :=
  ⟨(Bench.Reachable.startUp ⟨.zeros, .inl rfl⟩).after _ (by decide), by decide +kernel,
    by decide +kernel, by decide +kernel, by decide +kernel, by decide +kernel, _, rfl, rfl⟩

/-- The same switch, left to run to its end before the link is started again: the station is whole,
and no send fails because the link is down. -/
theorem Bench.whole_after_finished_switch :
    let moves : List Move :=
      [.ask none (.request (.switchMode .link)), .look 0,
        .ask none (.request (.switchModeNamed "disabled")), .look 0, .wait 200, .pump, .look 0]
    let b := (Bench.ofStation (.withFrontEnd .zeros)).after moves
    b.station.Whole ∧ b.station.mode = .disabled ∧
      ∃ t, (Activity.queued (.switchMode .link)).poll b.station = (t, .finished (.ok .done)) ∧
        ∀ packet ack, ((Activity.queued (.send packet ack)).poll t).2 ≠
          .finished (.error .notInitialized) := by
  intro moves b
  have untorn : (Bench.ofStation (.withFrontEnd .zeros)).tornAfter false moves = false := by
    decide +kernel
  obtain ⟨whole, starting⟩ := Bench.whole_iff_not_torn (s := .withFrontEnd .zeros)
    ⟨.zeros, .inl rfl⟩ moves (by decide) (by decide +kernel)
  obtain ⟨t, started, up⟩ := starting (.switchMode .link) (.inl rfl)
  exact ⟨whole.mpr untorn, by decide +kernel, t, started, up.mpr untorn⟩

end BurstLink
