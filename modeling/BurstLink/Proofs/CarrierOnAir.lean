import BurstLink.Proofs.BufferSafety
import BurstLink.Proofs.Rejection

/-! # The carrier on air

The link remembers by a flag whether a carrier is on air; whether one is, the radio knows. This
module says that the two agree on every reachable bench, whatever the latency of switching off, and
what else is known while a carrier is on air: nothing can be sent, and nothing is.

Main definitions:

* **`Station.OnTone`** — what radio, front end and exchange look like while a carrier is on air.
* **`Station.TurnsAway`** — an operation that would send is refused.
* **`Bench.CarrierAgrees`** — flag and tone agree, with all that follows.

Main statement: `Bench.Reachable.carrierAgrees`. -/

namespace BurstLink

/-! ## What goes with a carrier -/

/-- The radio has power and nothing is armed for an exchange, the power amplifier is on if there is
one, the lock is free, and a step of the radio changes nothing. -/
structure Station.OnTone (s : Station) : Prop where
  powered : s.radio.powered = true
  shorts : s.radio.shorts = .none
  interrupt : s.radio.interruptEnabled = false
  routes : ∀ route, s.radio.routes.get route = false
  transfer : s.transfer.state = .idle
  powerAmplifier : s.paOn = s.frontEnd.isSome
  free : s.locked = false
  serviced : s.serviceRadio = s
  pumped : s.pump.1 = s

/-- Why an operation that would send is refused while a carrier is on air: the carrier of the link
is in its way, or the link does not own the radio at all. -/
def Station.RefusesWith (failure : Failure) (s : Station) : Prop :=
  s.mode = .link ∧ failure = .notAvailable ∨ s.mode = .carrier ∧ failure = .notInitialized

/-- A look at an operation that would send answers with the failure, and nothing has changed. -/
def Station.TurnsAway (job : Job) (s : Station) : Prop :=
  ∃ t failure packets, job.poll s = (t, .finished ⟨job.label, .error failure, packets⟩) ∧
    s.RefusesWith failure ∧ s.Unchanged t

/-- A look at a switch of the carrier succeeds, and says whether the flag has changed. -/
def Station.Toggles (job : Job) (on : Bool) (s : Station) : Prop :=
  ∃ t changed packets, job.poll s = (t, .finished ⟨job.label, .ok (.changed changed), packets⟩) ∧
    t.link.carrier = on ∧ (changed = true ↔ t.link.carrier ≠ s.link.carrier)

/-- **Flag and tone agree.** The flag is up exactly while the transmitter is up without a packet.
While it is up, the station looks as it should, every operation that would send is turned away, and
whatever happens as long as it stays up, nothing is put on air. With the link up, a switch of the
carrier waits for the lock, and then says whether it changed the flag. -/
structure Bench.CarrierAgrees (b : Bench) : Prop where
  tone : b.station.link.carrier = true ↔ b.station.radio.phase = .txIdle
  onTone : b.station.link.carrier = true → b.station.OnTone
  refused : b.station.link.carrier = true → ∀ (job : Job) (request : Request),
    job.activity = .queued request → request.Transmits → request.answer? = none →
      b.station.TurnsAway job
  silent : ∀ moves, (∀ move ∈ moves, move.Regular) →
    (∀ since, since <+: moves → (b.after since).station.link.carrier = true) →
      (b.after moves).station.radio.air.history = b.station.radio.air.history
  toggled : b.station.link.initialized = true → ∀ (job : Job) (on : Bool),
    job.activity = .queued (.toggleCarrier on) →
      if b.station.locked then job.poll b.station = (b.station, .waiting job)
      else b.station.Toggles job on

namespace Station

variable {delays tears : Prop} {s : Station} {f : Flight}

/-! ## Flag and tone -/

/-- A radio that is off or on its way there has no carrier on air. -/
theorem not_txIdle_of_off (off : s.radio.Off delays) : s.radio.phase ≠ .txIdle := by
  rcases off with off | ⟨-, reads, phase⟩
  · simp [off]
  · simp [phase]

/-- During a send no carrier is on air. -/
theorem InFlight.not_txIdle (h : s.InFlight delays f) : s.radio.phase ≠ .txIdle := by
  cases h.stage with
  | onAir air =>
    rcases air.progress with ⟨-, phase | ⟨phase, -⟩⟩ | ⟨-, -, phase⟩
    · simp [phase]
    · simp [phase]
    · rw [phase]
      split <;> simp
  | awaiting wait =>
    rcases wait.progress with ⟨-, -, phase | phase⟩ | ⟨-, phase⟩ <;> simp [phase]
  | complete done => simp [done.phase]

/-- Whoever holds the radio has no carrier on air, and the flag is down. -/
theorem Held.noCarrier {activity : Activity} (h : s.Held delays activity) :
    s.link.carrier = false ∧ s.radio.phase ≠ .txIdle := by
  cases activity with
  | queued request => exact h.elim
  | testing t => exact h.elim
  | sending f purpose => exact ⟨InFlight.noCarrier h, InFlight.not_txIdle h⟩
  | switching t => exact ⟨Torn.noCarrier h, not_txIdle_of_off (Torn.off h)⟩
  | measuring m =>
    have gauging : s.Gauging delays := h
    refine ⟨gauging.gauge.noCarrier, ?_⟩
    rcases gauging.phase with phase | phase <;> simp [phase]
  | listening l =>
    have phase : s.radio.phase = .disabled := by rw [h.1.wiped]
    exact ⟨h.1.noCarrier, by simp [phase]⟩

/-- At rest the flag is up exactly if a carrier is on air. -/
theorem AtRest.carrier_iff (h : s.AtRest delays tears) :
    s.link.carrier = true ↔ s.radio.phase = .txIdle := by
  have silent : s.link.carrier = false → s.radio.Off delays →
      (s.link.carrier = true ↔ s.radio.phase = .txIdle) := fun down off => by
    simp [down, not_txIdle_of_off off]
  cases h with
  | dark mode h =>
    have phase : s.radio.phase = .disabled := by rw [h.wiped]
    exact silent h.noCarrier (Radio.off_of_disabled phase)
  | standby h => exact silent h.noCarrier h.off
  | toning h => simp [h.carrier, h.phase]
  | torn may h => exact silent h.noCarrier h.off
  | carrier h tuned =>
    rcases tuned with ⟨up, phase, -⟩ | ⟨down, off, -⟩
    · simp [up, phase]
    · exact silent down off
  | gauge h off amplifiers => exact silent h.noCarrier off

/-- **Flag and tone agree under custody**, and while the flag is up nobody holds the lock. -/
theorem Custody.carrier_iff {holder : Option Activity} (h : s.Custody delays tears holder) :
    (s.link.carrier = true ↔ s.radio.phase = .txIdle) ∧
      (s.link.carrier = true → holder = none) := by
  cases holder with
  | none => exact ⟨h.2.carrier_iff, fun _ => rfl⟩
  | some activity =>
    obtain ⟨down, phase⟩ := Held.noCarrier h.2
    exact ⟨by simp [down, phase], by simp [down]⟩

/-! ## While the flag is up -/

/-- At rest with the flag up, the carrier is the link's or that of the carrier mode. -/
theorem AtRest.of_carrier (h : s.AtRest delays tears) (up : s.link.carrier = true) :
    s.Toning delays ∨ s.CarrierMode delays ∧ s.Amplifiers true false := by
  have down : s.link.carrier ≠ false := by simp [up]
  cases h with
  | dark mode h => exact absurd h.noCarrier down
  | standby h => exact absurd h.noCarrier down
  | toning h => exact .inl h
  | torn may h => exact absurd h.noCarrier down
  | carrier h tuned =>
    rcases tuned with ⟨-, -, amplifiers⟩ | ⟨off, -⟩
    · exact .inr ⟨h, amplifiers⟩
    · exact absurd off down
  | gauge h off amplifiers => exact absurd h.noCarrier down

/-- The power amplifier is on if there is one. -/
theorem paOn_of_amplifiers {lna : Bool} (h : s.Amplifiers true lna) :
    s.paOn = s.frontEnd.isSome := by
  unfold paOn
  cases found : s.frontEnd with
  | none => rfl
  | some f => exact (h f found).1

/-- **While the flag is up, the station looks as it should with a carrier on air.** -/
theorem AtRest.onTone (h : s.AtRest delays tears) (free : s.locked = false)
    (up : s.link.carrier = true) : s.OnTone := by
  have serviced : s.serviceRadio = s :=
    serviceRadio_of_still (Radio.service_txIdle (h.carrier_iff.mp up) _)
  have pumped : s.pump.1 = s := by
    rw [pump_of_quiet (by simp [serviced, Radio.interruptPending, h.calm.interrupt]), serviced]
  have routes : ∀ route, s.radio.routes.get route = false := by
    intro route
    rw [h.calm.routes]
    cases route <;> rfl
  rcases h.of_carrier up with tone | ⟨mode, amplifiers⟩
  · exact ⟨tone.programmed.powered, tone.shorts, tone.calm.interrupt, routes, tone.calm.transfer,
      paOn_of_amplifiers tone.amplifiers, free, serviced, pumped⟩
  · exact ⟨mode.powered, mode.shorts, mode.calm.interrupt, routes, mode.calm.transfer,
      paOn_of_amplifiers amplifiers, free, serviced, pumped⟩

/-- While the flag is up, the link is not ready to send, for the one reason or the other. -/
theorem AtRest.ready_of_carrier (h : s.AtRest delays tears) (up : s.link.carrier = true) :
    ∃ failure, s.ready = .error failure ∧ s.RefusesWith failure := by
  rcases h.of_carrier up with tone | ⟨mode, -⟩
  · exact ⟨.notAvailable, by simp [ready, tone.initialized, up], .inl ⟨tone.mode, rfl⟩⟩
  · exact ⟨.notInitialized, by simp [ready, mode.uninitialized], .inr ⟨mode.mode, rfl⟩⟩

/-- **While the flag is up, every operation that would send is turned away.** -/
theorem AtRest.turnsAway (h : s.AtRest delays tears) (free : s.locked = false)
    (up : s.link.carrier = true) {job : Job} {request : Request}
    (queued : job.activity = .queued request) (transmits : request.Transmits)
    (undecided : request.answer? = none) : s.TurnsAway job := by
  obtain ⟨failure, unready, reason⟩ := h.ready_of_carrier up
  have needs : request.needsLock = true := by
    cases request with
    | testAmplifiers => exact transmits.elim
    | _ => rfl
  have ended : (job.activity.poll s).2 = .finished (.error failure) := by
    obtain ⟨buffers, refused⟩ := start_of_not_ready transmits unready
    rw [queued, Activity.poll_queued_of_free free undecided needs, refused]
    rfl
  have rejection : failure.IsRejection := by
    rcases reason with ⟨-, rfl⟩ | ⟨-, rfl⟩
    · trivial
    · trivial
  rcases polled : job.activity.poll s with ⟨t, look⟩
  rw [polled] at ended
  obtain rfl : look = .finished (.error failure) := ended
  have unchanged := (Activity.unchanged_of_poll
    (fun f scan same => absurd (queued.symm.trans same) (by simp)) polled rejection).2
  refine ⟨t.releaseBuffers, failure, job.packets t, ?_, reason,
    unchanged.trans t.unchanged_releaseBuffers⟩
  rw [Job.poll_eq, polled]

/-! ## Switching the carrier -/

/-- A switch of the carrier with the link up says whether it changed the flag. -/
theorem toggleCarrier_of_initialized (up : s.link.initialized = true) (on : Bool) :
    ∃ changed, (s.toggleCarrier on).2 = .ok changed ∧
      (s.toggleCarrier on).1.link.carrier = on ∧
      (changed = true ↔ (s.toggleCarrier on).1.link.carrier ≠ s.link.carrier) := by
  unfold toggleCarrier
  rw [if_neg (by simp [up])]
  split
  · rename_i same
    exact ⟨false, rfl, same, by simp⟩
  · rename_i other
    cases on with
    | true => exact ⟨true, rfl, rfl, fun _ same => other same.symm, fun _ => rfl⟩
    | false => exact ⟨true, rfl, rfl, fun _ same => other same.symm, fun _ => rfl⟩

/-- **A look at a switch of the carrier with the lock free and the link up.** -/
theorem toggles (free : s.locked = false) (up : s.link.initialized = true) {job : Job} {on : Bool}
    (queued : job.activity = .queued (.toggleCarrier on)) : s.Toggles job on := by
  obtain ⟨changed, answered, flag, told⟩ := toggleCarrier_of_initialized up on
  have polled : job.activity.poll s =
      ((s.toggleCarrier on).1.setLocked false, .finished (.ok (.changed changed))) := by
    rw [queued, Activity.poll_queued_of_free free rfl rfl]
    show withLock ((s.toggleCarrier on).1, .finished ((s.toggleCarrier on).2.map .changed)) = _
    rw [answered]
    rfl
  obtain ⟨pointer, released⟩ := releaseBuffers_pointed ((s.toggleCarrier on).1.setLocked false)
  refine ⟨((s.toggleCarrier on).1.setLocked false).releaseBuffers, changed,
    job.packets ((s.toggleCarrier on).1.setLocked false), ?_, ?_, ?_⟩
  · rw [Job.poll_eq, polled]
  · rw [released]
    exact flag
  · rw [released]
    exact told

end Station

namespace Bench

variable {b : Bench}

/-- Flag and tone agree on every reachable bench, and while the flag is up the station is at rest
with the lock free. -/
theorem Reachable.carrier_iff (h : b.Reachable) :
    (b.station.link.carrier = true ↔ b.station.radio.phase = .txIdle) ∧
      (b.station.link.carrier = true → b.station.Custody True True none) := by
  obtain ⟨holder, -, custody⟩ := h.sound.custody
  refine ⟨custody.carrier_iff.1, fun up => ?_⟩
  obtain rfl := custody.carrier_iff.2 up
  exact custody

/-- While the flag is up, no job sends. -/
theorem Reachable.not_busy_of_carrier (h : b.Reachable) (up : b.station.link.carrier = true) :
    ¬b.Busy := by
  rintro ⟨job, member, sending⟩
  obtain ⟨f, purpose, activity⟩ := sending.exists_flight
  exact absurd (up.symm.trans (h.sound.inFlight member activity).noCarrier) (by simp)

/-- **The flag of the carrier and the tone on air agree** on every reachable bench. -/
theorem Reachable.carrierAgrees (h : b.Reachable) : b.CarrierAgrees where
  tone := h.carrier_iff.1
  onTone up := (h.carrier_iff.2 up).2.onTone (h.carrier_iff.2 up).1 up
  refused up _ _ queued transmits undecided :=
    (h.carrier_iff.2 up).2.turnsAway (h.carrier_iff.2 up).1 up queued transmits undecided
  silent moves regular up :=
    (h.untouched_after moves regular fun since isPrefix =>
      (h.after since fun move member => regular move (isPrefix.subset member)).not_busy_of_carrier
        (up since isPrefix)).history
  toggled up job on queued := by
    split
    · rename_i busy
      rw [Job.poll_eq, queued, Activity.poll_queued_of_locked busy rfl rfl, ← queued]
    · rename_i free
      exact Station.toggles (by simpa using free) up queued

/-- A carrier in the carrier mode, moved to another channel while the radio is slow to switch off:
the flag is up, the tone is on air, and all that follows holds. -/
theorem carrierAgrees_of_moved_carrier :
    let moves : List Move := [.arrange (.setAir (.disableLatency 50)),
      .ask none (.request (.switchMode .carrier)), .look 0,
      .ask none (.request (.startCarrier 7)), .look 0, .pump,
      .ask none (.request (.startCarrier 9)), .look 0]
    let b := (Bench.ofStation (.withFrontEnd .zeros)).after moves
    b.Reachable ∧ b.station.link.carrier = true ∧ b.station.mode = .carrier ∧ b.CarrierAgrees := by
  intro moves b
  have reachable : b.Reachable := (Bench.Reachable.startUp ⟨.zeros, .inl rfl⟩).after _ (by decide)
  exact ⟨reachable, by decide +kernel, by decide +kernel, reachable.carrierAgrees⟩

end Bench

end BurstLink
