import BurstLink.Proofs.Custody.Bench
import BurstLink.Proofs.Retry.Attempt

/-! # Brought to rest by force

A send that is given up, or found stuck, tells the radio to switch off and looks at it a bounded
number of times. A radio that is quick enough is off then, with its program as it was. One that is
not is power cycled and programmed from scratch, and what surrounds it does not notice.

Main definitions:

* **`Station.SwitchesOffAfter`** — how switching off ends for a radio that takes so many looks.
* **`Radio.powerCycled`** — a radio after a power cycle, programmed from a configuration.
* **`Radio.Idled`** — what bringing a send to rest makes of its radio.
* **`Station.CleanedUp`** — the stations that the cleanup of a send leaves behind.

Main statement: `Bench.idled_of_cleanup`. -/

namespace BurstLink

/-! ## Switching off -/

/-- How switching the radio off ends, for a radio that takes so many looks: it is off exactly if the
looks that it is given suffice, and is still switching off otherwise. -/
structure Station.SwitchesOffAfter (looks : Nat) (s : Station) : Prop where
  inTime_iff : (s.disableRadio.2 = true ∧ s.disableRadio.1.radio.phase = .disabled ∧
      s.disableRadio.1.radio.events.disabled = true) ↔ looks ≤ disableMaxPolls
  late : disableMaxPolls < looks → s.disableRadio.2 = false ∧
    s.disableRadio.1.radio.phase = .disabling (looks - disableMaxPolls)

/-- **A radio that is on is off within the looks it is given, or that many looks closer.** -/
theorem Station.switchesOffAfter_looksLeft {s : Station} (powered : s.radio.powered = true)
    (on : s.radio.phase ≠ .disabled) : s.SwitchesOffAfter s.radio.looksLeft := by
  have looked := Radio.pollDisabledUpTo_trigger_disable (n := disableMaxPolls) powered on
    (by decide)
  have found : s.disableRadio.2 = s.radio.offInTime := by rw [s.disableRadio_eq]
  have radio : s.disableRadio.1.radio = s.radio.forceOff := by rw [s.disableRadio_eq]
  by_cases enough : s.radio.looksLeft ≤ disableMaxPolls
  · rw [if_pos enough] at looked
    have off : s.radio.forceOff = s.radio.switchOff := congrArg Prod.fst looked
    have raised : s.radio.switchOff.events.disabled = true := by
      simp [Radio.switchOff, on, Radio.raise, EventFlags.set]
    constructor
    · rw [found, radio, off]
      exact ⟨fun _ => enough,
        fun _ => ⟨congrArg Prod.snd looked, s.radio.switchOff_phase, raised⟩⟩
    · intro short
      omega
  · rw [if_neg enough] at looked
    have late : s.radio.offInTime = false := congrArg Prod.snd looked
    have going : s.radio.forceOff = s.radio.switchingOff (s.radio.looksLeft - disableMaxPolls) :=
      congrArg Prod.fst looked
    constructor
    · rw [found, late]
      simp [enough]
    · rw [found, radio, going]
      exact fun _ => ⟨late, rfl⟩

/-! ## Bringing a send to rest -/

namespace Radio

variable {r r' : Radio} {config : LinkConfig}

/-- The radio after a power cycle, programmed from a configuration: every register is as after
power-on or as the configuration says. Timer and surroundings do not notice. -/
def powerCycled (config : LinkConfig) (r : Radio) : Radio where
  powered := true
  packetConfigured := true
  channel := config.channel
  bitrate := config.bitrate
  txPower := .zeroDbm
  base0 := config.address.base
  prefix0 := config.address.pipePrefix 0
  shorts := .rssi
  powerUps := r.powerUps + 1
  timerRunning := r.timerRunning
  now := r.now
  air := r.air

/-- What bringing a send to rest makes of its radio. It is power cycled exactly if it was on and too
slow to switch off; it holds the configuration in any case, and timer and surroundings stay. -/
structure Idled (config : LinkConfig) (r r' : Radio) : Prop where
  cycled_iff : r'.powerUps = r.powerUps + 1 ↔ r.phase ≠ .disabled ∧ disableMaxPolls < r.looksLeft
  reprogrammed : r'.powerUps = r.powerUps + 1 → r' = r.powerCycled config
  kept : r'.powerUps ≠ r.powerUps + 1 → r'.powerUps = r.powerUps ∧ r.Keeps r'
  programmed : r'.Programmed config
  timer : r'.timerRunning = r.timerRunning ∧ r'.now = r.now
  air : r'.air = r.air

end Radio

namespace Station

variable {s t : Station} {f : Flight} {config : LinkConfig}

/-- The radio after a send was brought to rest. -/
theorem radio_forceIdle (config : LinkConfig) (powered : s.radio.powered = true) :
    (s.forceIdle config).radio =
      if s.radio.looksLeft ≤ disableMaxPolls then s.disarm.radio.forceOff
      else s.radio.powerCycled config := by
  -- what is disarmed first has no part in how long the radio takes
  have inTime : s.disarm.radio.offInTime = true ↔ s.radio.looksLeft ≤ disableMaxPolls :=
    Radio.offInTime_iff (r := s.disarm.radio) powered
  obtain ⟨phase, pending, events, -, settled⟩ := s.disarm.radio.forceOff_settles
  rw [forceIdle_eq_recover, s.disarm.disableRadio_eq]
  by_cases enough : s.radio.looksLeft ≤ disableMaxPolls
  · rw [inTime.mpr enough, if_pos enough]
    rfl
  · have late : s.disarm.radio.offInTime = false := by
      rw [← Bool.not_eq_true]
      exact fun off => enough (inTime.mp off)
    rw [late, if_neg enough]
    show ((({ s.disarm with radio := _, journal := _ } : Station).note .powerCycle).onRadio
      (Radio.setPower false) |>.programRadio config).radio = _
    rw [programRadio_eq, settled]
    rfl

/-- **Bringing a send to rest power cycles its radio only if there is no other way**, and leaves it
programmed in any case. -/
theorem InFlight.idled (h : s.InFlight True f) :
    s.radio.Idled f.config (s.forceIdle f.config).radio := by
  have radio := radio_forceIdle f.config h.programmed.powered
  by_cases enough : s.radio.looksLeft ≤ disableMaxPolls
  · obtain ⟨phase, pending, events, -, settled⟩ := s.disarm.radio.forceOff_settles
    rw [if_pos enough, settled] at radio
    have powerUps : (s.forceIdle f.config).radio.powerUps = s.radio.powerUps := by rw [radio]; rfl
    have keeps : s.radio.Keeps (s.forceIdle f.config).radio := by
      rw [radio]
      exact ⟨rfl, rfl, rfl, rfl, rfl, rfl, rfl, rfl, rfl⟩
    exact
      { cycled_iff := ⟨fun cycled => by omega, fun slow => by omega⟩
        reprogrammed := fun cycled => by omega
        kept := fun _ => ⟨powerUps, keeps⟩
        programmed := h.programmed.kept keeps
        timer := ⟨keeps.timer, by rw [radio]; rfl⟩
        air := by rw [radio]; rfl }
  · rw [if_neg enough] at radio
    -- a radio that is off takes no looks
    have on : s.radio.phase ≠ .disabled := by
      intro off
      exact enough (by simp [Radio.looksLeft, off])
    have powerUps : (s.forceIdle f.config).radio.powerUps = s.radio.powerUps + 1 := by
      rw [radio]
      rfl
    rw [radio] at powerUps ⊢
    exact
      { cycled_iff := ⟨fun _ => ⟨on, by omega⟩, fun _ => powerUps⟩
        reprogrammed := fun _ => rfl
        kept := fun kept => absurd powerUps kept
        programmed := ⟨rfl, rfl, rfl, rfl, rfl, Address.ofRegisters_base_pipePrefix ..,
          h.programmed.timer⟩
        timer := ⟨rfl, rfl⟩
        air := rfl }

/-- The stations that the cleanup of a send leaves behind: the send is given up, or a look at its
flight finds the radio stuck. -/
inductive CleanedUp (f : Flight) (s : Station) : Station → Prop
  /-- Given up. -/
  | givenUp (purpose : Purpose) : CleanedUp f s ((Activity.sending f purpose).drop s)
  /-- Found stuck. -/
  | stuck {t : Station} (found : s.checkFlight f = (t, .finished (.error .hardwareStuck))) :
    CleanedUp f s t

/-- A look that finds the radio stuck brings the send to rest. -/
theorem forceIdle_of_stuck (found : s.checkFlight f = (t, .finished (.error .hardwareStuck))) :
    t = (s.note .exchangeStuck).forceIdle f.config := by
  obtain ⟨unfinished, late⟩ := (checkFlight_stuck_iff f s).mp (congrArg Prod.snd found)
  rw [checkFlight_of_late unfinished late] at found
  exact (Prod.mk.inj found).1.symm

/-- **However a send is cleaned up, the link is on standby and the radio was brought to rest.** -/
theorem InFlight.cleanedUp (h : s.InFlight True f) (cleanup : s.CleanedUp f t) :
    t.Landed True ∧ s.radio.Idled f.config t.radio := by
  cases cleanup with
  | givenUp purpose => exact ⟨h.forceIdle.agree (setLocked_agree ..), h.idled⟩
  | stuck found =>
    have noted : (s.note .exchangeStuck).InFlight True f := (note_agree ..).inFlight h
    rw [forceIdle_of_stuck found]
    exact ⟨noted.forceIdle, noted.idled⟩

end Station

namespace Bench

/-- **A radio that is on switches off within the looks that it is given exactly if its latency, or
the looks that are left of it, allow that. The cleanup of a send on a reachable bench power cycles
the radio exactly if that is not the case**, and leaves the link on standby with its program. -/
theorem idled_of_cleanup :
    (∀ s : Station, s.radio.powered = true → s.radio.phase ≠ .disabled →
      (∀ reads, s.radio.phase ≠ .disabling reads) →
        s.SwitchesOffAfter s.radio.air.disableLatency) ∧
    (∀ (s : Station) (reads : Nat), s.radio.powered = true → s.radio.phase = .disabling reads →
      s.SwitchesOffAfter reads) ∧
    ∀ b : Bench, b.Reachable → ∀ job ∈ b.jobs, ∀ f purpose, job.activity = .sending f purpose →
      ∀ t, b.station.CleanedUp f t → t.Landed True ∧ b.station.radio.Idled f.config t.radio := by
  refine ⟨?_, ?_, ?_⟩
  · intro s powered on fresh
    rw [← Radio.looksLeft_of_fresh on fresh]
    exact s.switchesOffAfter_looksLeft powered on
  · intro s reads powered going
    have looks : s.radio.looksLeft = reads := by simp [Radio.looksLeft, going]
    rw [← looks]
    exact s.switchesOffAfter_looksLeft powered (by simp [going])
  · intro b reachable job member f purpose sending t cleanup
    have held := (reachable.sound.held member (by rw [sending]; rfl)).2
    rw [sending] at held
    have flying : b.station.InFlight True f := held
    exact flying.cleanedUp cleanup

/-- A send whose radio has stopped responding, and takes so many looks to switch off. -/
def wedgedSend (latency : Nat) : Bench :=
  (ofStation (.withFrontEnd .zeros)).after
    [.ask none (.request (.switchMode .link)), .look 0,
      .ask none (.request (.change (.channel 33))), .look 0,
      .arrange (.setAir (.disableLatency latency)), .arrange (.schedule [.wedged]),
      .ask none (.request (.sendPayload [1])), .look 0]

/-- Its flight. -/
def wedgedFlight : Flight :=
  { packet := ⟨0⟩, ack := ⟨1⟩, pid := .zero, config := { LinkConfig.standard with channel := 33 }
    retries := 0, deadline := exchangeTimeout }

/-- Its job. -/
def wedgedJob : Job := ⟨none, none, .sending wedgedFlight (.single true)⟩

/-- With a latency one above the looks that the radio is given, switching it off by force fails with
one look left, and giving the send up power cycles it; with one look less it does not. -/
theorem idled_of_wedgedSend :
    (wedgedSend 10001).Reachable ∧ (wedgedSend 10000).Reachable ∧
      (wedgedSend 10001).station.disableRadio.1.radio.phase = .disabling 1 ∧
      (wedgedJob.activity.drop (wedgedSend 10001).station).radio =
        (wedgedSend 10001).station.radio.powerCycled wedgedFlight.config ∧
      (wedgedJob.activity.drop (wedgedSend 10000).station).radio.powerUps = 1 := by
  obtain ⟨fresh, -, cleanup⟩ := idled_of_cleanup
  have reachable : ∀ latency, (wedgedSend latency).Reachable := fun latency =>
    (Reachable.startUp ⟨.zeros, .inl rfl⟩).after _ (by simp [Move.Regular, Work.Regular,
      Command.Arranges])
  have hangs : (wedgedSend 10001).station.radio.phase = .wedged := by decide +kernel
  have slow : (wedgedSend 10001).station.radio.looksLeft = 10001 := by decide +kernel
  have quick : (wedgedSend 10000).station.radio.looksLeft = 10000 := by decide +kernel
  have once : (wedgedSend 10000).station.radio.powerUps = 1 := by decide +kernel
  have forced := fresh (wedgedSend 10001).station (by decide +kernel) (by simp [hangs])
    (by simp [hangs])
  have latency : (wedgedSend 10001).station.radio.air.disableLatency = 10001 := by decide +kernel
  obtain ⟨-, cycled⟩ := cleanup _ (reachable 10001) wedgedJob (by decide +kernel) _ _ rfl _
    (.givenUp _)
  obtain ⟨-, kept⟩ := cleanup _ (reachable 10000) wedgedJob (by decide +kernel) _ _ rfl _
    (.givenUp _)
  refine ⟨reachable _, reachable _, ?_, ?_, ?_⟩
  · rw [latency] at forced
    exact (forced.late (by decide)).2
  · exact cycled.reprogrammed (cycled.cycled_iff.mpr ⟨by simp [hangs], by rw [slow]; decide⟩)
  · have enough : ¬disableMaxPolls < (wedgedSend 10000).station.radio.looksLeft := by
      rw [quick]
      decide
    exact (kept.kept fun more => enough (kept.cycled_iff.mp more).2).1.trans once

end Bench

end BurstLink
