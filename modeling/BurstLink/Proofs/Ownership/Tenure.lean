import BurstLink.Proofs.Guard
import BurstLink.Proofs.SendRule

/-! # Who owns the radio

The mode says whose the radio is. Whether it has power, counts, has a packet format and so on must
follow from the mode alone, whatever the old owner has left undone. This module takes the fields in
question out of the station and says what taking the radio, giving it up and using it do to them.

Main definitions:

* **`Tenure`**, **`Station.tenure`** — the fields that tell whose the radio is.
* **`Tenure.Sole`** — they tell the same as the mode.
* **`Tenure.Vacated`** — they tell that nobody owns the radio.

Main statements: every mode gives the radio up vacated and takes it as its sole owner
(`Station.vacated_finishTeardown`, `Station.sole_enterMode`), and it does not matter in between that
the radio runs on (`Station.Gauges.tenure`). -/

namespace BurstLink

/-- What tells whose the radio is. -/
structure Tenure where
  /-- What the radio is used for. -/
  mode : Mode
  /-- The link protocol is up. -/
  initialized : Bool
  /-- A carrier is on air. -/
  carrier : Bool
  /-- How far an exchange has come. -/
  transfer : TransferState
  /-- The radio has power. -/
  powered : Bool
  /-- The timer counts. -/
  timer : Bool
  /-- The packet format is set. -/
  formatted : Bool
  /-- The interrupt is enabled. -/
  interrupt : Bool
  /-- Data rate. -/
  bitrate : Bitrate
  /-- Transmission power. -/
  txPower : TxPower
  /-- The packet that the radio points at. -/
  buffer : Option Buffer

namespace Tenure

/-- The mode is the sole owner of the radio. -/
structure Sole (v : Tenure) : Prop where
  powered : v.powered = true ↔ v.mode = .link ∨ v.mode = .carrier ∨ v.mode = .powerMeasurement
  timer : v.timer = true ↔ v.mode = .link
  formatted : v.formatted = true ↔ v.mode = .link
  initialized : v.initialized = true → v.mode = .link
  interrupt : v.interrupt = true → v.mode = .link
  transfer : v.transfer ≠ .idle → v.mode = .link
  carrier : v.carrier = true → v.mode = .carrier ∨ v.mode = .link ∧ v.initialized = true
  carrierMode : v.mode = .carrier → v.bitrate = .mbps2 ∧ v.txPower = .pos4Dbm
  linkMode : v.mode = .link → v.txPower = .zeroDbm
  buffer : v.mode = .disabled ∨ v.mode = .presenceScan → v.buffer = none

/-- Nobody owns the radio. -/
structure Vacated (v : Tenure) : Prop where
  powered : v.powered = false
  timer : v.timer = false
  formatted : v.formatted = false
  initialized : v.initialized = false
  interrupt : v.interrupt = false
  transfer : v.transfer = .idle
  carrier : v.carrier = false
  buffer : v.buffer = none

variable {v : Tenure}

/-- What only the link has, another mode has not. -/
theorem Sole.eq_false {flag : Bool} (links : flag = true → v.mode = .link)
    (other : v.mode ≠ .link) : flag = false := by
  cases flag with
  | false => rfl
  | true => exact absurd (links rfl) other

/-- A radio without power points at no packet. -/
theorem Sole.buffer_of_unpowered (h : v.Sole) (off : v.powered = false) : v.buffer = none := by
  have unowned : ¬(v.mode = .link ∨ v.mode = .carrier ∨ v.mode = .powerMeasurement) := fun owned =>
    absurd (off.symm.trans (h.powered.mpr owned)) (by simp)
  refine h.buffer ?_
  cases mode : v.mode <;> simp [mode] at unowned ⊢

/-- Between exchanges, a mode without power has vacated the radio. -/
theorem Sole.vacated (h : v.Sole) (dark : v.mode = .disabled ∨ v.mode = .presenceScan)
    (idle : v.transfer = .idle) : v.Vacated := by
  have other : v.mode ≠ .link := by rcases dark with mode | mode <;> simp [mode]
  have unowned : ¬(v.mode = .link ∨ v.mode = .carrier ∨ v.mode = .powerMeasurement) := by
    rcases dark with mode | mode <;> simp [mode]
  have quiet : ¬(v.mode = .carrier ∨ v.mode = .link ∧ v.initialized = true) := by
    rcases dark with mode | mode <;> simp [mode]
  exact ⟨Bool.eq_false_iff.mpr fun on => unowned (h.powered.mp on),
    eq_false h.timer.mp other, eq_false h.formatted.mp other, eq_false h.initialized other,
    eq_false h.interrupt other, idle, Bool.eq_false_iff.mpr fun on => quiet (h.carrier on),
    h.buffer dark⟩

/-- A mode without power takes a radio that was vacated. -/
theorem Vacated.dark (h : v.Vacated) {mode : Mode}
    (dark : mode = .disabled ∨ mode = .presenceScan) : ({ v with mode := mode } : Tenure).Sole := by
  rcases dark with rfl | rfl <;>
    constructor <;> simp [h.powered, h.timer, h.formatted, h.initialized, h.interrupt, h.transfer,
      h.carrier, h.buffer]

/-- The link takes it. -/
theorem Vacated.link (h : v.Vacated) (bitrate : Bitrate) : ({ v with
    mode := .link
    initialized := true
    powered := true
    timer := true
    formatted := true
    bitrate := bitrate
    txPower := .zeroDbm } : Tenure).Sole := by
  constructor <;> simp [h.carrier]

/-- The carrier mode takes it. -/
theorem Vacated.carrierMode (h : v.Vacated) : ({ v with
    mode := .carrier
    powered := true
    bitrate := .mbps2
    txPower := .pos4Dbm } : Tenure).Sole := by
  constructor <;> simp [h.timer, h.formatted, h.initialized, h.interrupt, h.transfer]

/-- The power measurement mode takes it. -/
theorem Vacated.gaugeMode (h : v.Vacated) :
    ({ v with mode := .powerMeasurement, powered := true } : Tenure).Sole := by
  constructor <;> simp [h.timer, h.formatted, h.initialized, h.interrupt, h.transfer, h.carrier]

end Tenure

namespace Station

variable {s t : Station}

/-- What tells whose the radio is. -/
def tenure (s : Station) : Tenure where
  mode := s.mode
  initialized := s.link.initialized
  carrier := s.link.carrier
  transfer := s.transfer.state
  powered := s.radio.powered
  timer := s.radio.timerRunning
  formatted := s.radio.packetConfigured
  interrupt := s.radio.interruptEnabled
  bitrate := s.radio.bitrate
  txPower := s.radio.txPower
  buffer := s.radio.buffer

/-! ## What does not matter -/

/-- A radio that has run on does not tell anything else. -/
theorem tenure_of_runs (rest : t = { s with
      radio := t.radio
      frontEnd := t.frontEnd
      journal := t.journal
      buffers := t.buffers })
    (radio : s.radio.Runs t.radio) : t.tenure = s.tenure := by
  unfold Radio.Runs at radio
  unfold tenure
  rw [rest, radio]

/-- The steps of a measurement do not touch the tenure. -/
theorem Gauges.tenure (h : s.Gauges t) : t.tenure = s.tenure :=
  tenure_of_runs (by rw [h.rest]) h.radio

/-- Nor do those of a presence scan. -/
theorem Hears.tenure (h : s.Hears t) : t.tenure = s.tenure := by
  unfold Hears at h
  rw [h]
  rfl

/-- Nor does a step of the radio. -/
theorem tenure_serviceRadio (s : Station) : s.serviceRadio.tenure = s.tenure := by
  obtain ⟨buffers, same⟩ := s.serviceRadio_eq
  rw [same]
  exact tenure_of_runs rfl (Radio.runs_service ..)

/-- A tone is started without its flag, which is set after it. -/
theorem tenure_startTone (s : Station) : s.startTone.tenure = s.tenure := by
  have toned := gauges_trigger .txEnable ((s.onRadio (Radio.setShorts .none)).setPa true)
  exact toned.tenure

/-! ## Taking the radio and giving it up -/

/-- **Every mode takes a radio that was vacated as its sole owner.** -/
theorem sole_enterMode (h : s.tenure.Vacated) (target : Mode) :
    (s.enterMode target).tenure.Sole ∧ (s.enterMode target).transfer.state = .idle := by
  have idle : s.transfer.state = .idle := h.transfer
  cases target with
  | disabled => exact ⟨h.dark (.inl rfl), idle⟩
  | presenceScan => exact ⟨h.dark (.inr rfl), idle⟩
  | carrier => exact ⟨h.carrierMode, idle⟩
  | powerMeasurement => exact ⟨h.gaugeMode, idle⟩
  | link =>
    -- the bit rate is a setting, everything else is the same at every start of the link
    have up : (s.enterMode .link).tenure = { s.tenure with
        mode := .link
        initialized := true
        transfer := .idle
        powered := true
        timer := true
        formatted := true
        bitrate := s.link.config.bitrate
        txPower := .zeroDbm } := by
      show ({ s with mode := .link } : Station).bringUp.tenure = _
      rw [bringUp_eq, programRadio_eq]
      rfl
    refine ⟨?_, rfl⟩
    rw [up, ← h.transfer]
    exact h.link _

/-- The link that has stopped gives the radio up. -/
theorem vacated_finishTeardown (down : s.link.initialized = false) (quiet : s.link.carrier = false)
    (idle : s.transfer.state = .idle) : s.finishTeardown.tenure.Vacated :=
  ⟨rfl, rfl, rfl, down, rfl, idle, quiet, rfl⟩

/-- The power measurement mode gives the radio up. -/
theorem vacated_exitPowerMode (h : s.tenure.Sole) (mode : s.mode = .powerMeasurement)
    (idle : s.transfer.state = .idle) : s.exitPowerMode.tenure.Vacated := by
  have other : s.tenure.mode ≠ .link := by simp [tenure, mode]
  have quiet : s.link.carrier = false := by
    refine Bool.eq_false_iff.mpr fun on => ?_
    have owner := h.carrier on
    simp [tenure, mode] at owner
  have timer : s.exitPowerMode.tenure.timer = s.tenure.timer := by
    have runs := s.radio.runs_trigger .disable
    show (s.radio.trigger .disable).timerRunning = s.radio.timerRunning
    rw [runs]
  exact ⟨rfl, timer.trans (Tenure.Sole.eq_false h.timer.mp other), rfl,
    Tenure.Sole.eq_false h.initialized other, rfl, idle, quiet, rfl⟩

/-- The carrier mode gives the radio up. -/
theorem vacated_exitCarrierMode (h : s.tenure.Sole) (mode : s.mode = .carrier)
    (idle : s.transfer.state = .idle) : s.exitCarrierMode.tenure.Vacated := by
  have other : s.tenure.mode ≠ .link := by simp [tenure, mode]
  have timer : s.radio.timerRunning = false := Tenure.Sole.eq_false h.timer.mp other
  have down : s.link.initialized = false := Tenure.Sole.eq_false h.initialized other
  unfold exitCarrierMode
  by_cases on : s.link.carrier = true
  · rw [if_pos on]
    have gauges := s.gauges_stopTone
    have timer' : s.stopTone.radio.timerRunning = false :=
      (congrArg Tenure.timer gauges.tenure).trans timer
    exact ⟨rfl, timer', rfl, (congrArg Tenure.initialized gauges.tenure).trans down, rfl,
      (congrArg Tenure.transfer gauges.tenure).trans idle, rfl, rfl⟩
  · rw [if_neg on]
    exact ⟨rfl, timer, rfl, down, rfl, idle, Bool.eq_false_iff.mpr on, rfl⟩

/-- The link stops; the radio stays its own until it is given up. -/
theorem sole_beginTeardown (h : s.tenure.Sole) : s.beginTeardown.tenure.Sole := by
  have runs := (s.radio.setInterrupt false).runs_trigger .disable
  have stopped : s.beginTeardown.tenure =
      { s.tenure with initialized := false, carrier := false, interrupt := false } := by
    unfold Radio.Runs at runs
    show Station.tenure { s with
      link := { s.link with initialized := false, carrier := false }
      radio := (s.radio.setInterrupt false).trigger .disable } = _
    rw [runs]
    rfl
  rw [stopped]
  exact { h with initialized := by simp, interrupt := by simp, carrier := by simp }

/-! ## Using the radio -/

variable {f : Flight}

/-- The start of an exchange, on a link that is up. -/
theorem sole_fly (h : s.tenure.Sole) (up : s.link.initialized = true) :
    (s.fly f).1.tenure.Sole := by
  have mode : s.tenure.mode = .link := h.initialized up
  have runs := (s.armed f.packet f.config.ackEnabled).runs_trigger .txEnable
  have flown : (s.fly f).1.tenure = { s.tenure with
      transfer := .txInFlight
      interrupt := true
      buffer := some f.packet } := by
    unfold Radio.Runs at runs
    rw [fly_eq, runs, armed_eq]
    rfl
  rw [flown]
  exact { h with transfer := fun _ => mode, interrupt := fun _ => mode, buffer := by simp [mode] }

/-- The end of an exchange. -/
theorem sole_finishExchange (h : s.tenure.Sole) : s.finishExchange.tenure.Sole := by
  have uninterrupted : s.finishExchange.tenure = { s.tenure with interrupt := false } := rfl
  rw [uninterrupted]
  exact { h with interrupt := by simp }

/-- Brought to rest, the radio is as it was without the exchange, or programmed from scratch. -/
theorem tenure_forceIdle (config : LinkConfig) (s : Station) :
    (s.forceIdle config).tenure = { s.tenure with transfer := .idle, interrupt := false } ∨
    (s.forceIdle config).tenure = { s.tenure with
      transfer := .idle
      interrupt := false
      powered := true
      formatted := true
      bitrate := config.bitrate
      txPower := .zeroDbm
      buffer := none } := by
  have disarmed : s.disarm.tenure = { s.tenure with interrupt := false } := rfl
  have gauges := s.disarm.gauges_disableRadio.tenure
  rw [disarmed] at gauges
  rw [forceIdle_eq_recover]
  -- either the radio was off in time, or its power is cycled and it is programmed anew
  generalize s.disarm.disableRadio = found at gauges
  obtain ⟨t, off | off⟩ := found
  · right
    have cycled : (recover config (t, false)).tenure = { t.tenure with
        transfer := .idle
        interrupt := false
        powered := true
        formatted := true
        bitrate := config.bitrate
        txPower := .zeroDbm
        buffer := none } := by
      show (((((t.note .powerCycle).onRadio (Radio.setPower false)).programRadio config).setPa
        false).setLna false).resetTransfer.tenure = _
      rw [programRadio_eq]
      rfl
    rw [cycled, gauges]
  · left
    have quiet : (recover config (t, true)).tenure = { t.tenure with transfer := .idle } := rfl
    rw [quiet, gauges]

/-- Brought to rest, the link still owns the radio. -/
theorem sole_forceIdle (h : s.tenure.Sole) (up : s.link.initialized = true) (config : LinkConfig) :
    (s.forceIdle config).tenure.Sole ∧ (s.forceIdle config).transfer.state = .idle := by
  have mode : s.tenure.mode = .link := h.initialized up
  rcases s.tenure_forceIdle config with rest | cycled
  · -- the radio went off in time
    refine ⟨?_, congrArg Tenure.transfer rest⟩
    rw [rest]
    exact { h with transfer := by simp, interrupt := by simp }
  · -- it did not, and has lost its power for a moment
    refine ⟨?_, congrArg Tenure.transfer cycled⟩
    rw [cycled]
    exact { h with
      powered := by simp [mode]
      formatted := by simp [mode]
      transfer := by simp
      interrupt := by simp
      carrierMode := by simp [mode]
      linkMode := fun _ => rfl
      buffer := fun _ => rfl }

/-- The interrupt handler does nothing between exchanges, but for clearing events. -/
theorem tenure_handleInterrupt (idle : s.transfer.state = .idle) :
    s.handleInterrupt.tenure = s.tenure ∧ s.handleInterrupt.completed = s.completed := by
  unfold handleInterrupt
  rw [idle]
  exact ⟨rfl, rfl⟩

/-- An interrupt that is handled at any time leaves the radio to its owner. -/
theorem sole_handleInterrupt (h : s.tenure.Sole) : s.handleInterrupt.tenure.Sole := by
  by_cases idle : s.transfer.state = .idle
  · rw [(tenure_handleInterrupt idle).1]
    exact h
  · -- an exchange goes one step further, and that is one of the link
    have mode : s.tenure.mode = .link := h.transfer idle
    obtain ⟨_, transfer, _, buffer, _, _, _, _, _, -, same⟩ := s.handleInterrupt_eq
    have handled : s.handleInterrupt.tenure =
        { s.tenure with transfer := transfer.state, buffer := buffer } := by
      rw [same]
      rfl
    rw [handled]
    exact { h with transfer := fun _ => mode, buffer := by simp [mode] }

/-- An exchange that the interrupt handler completes is over. -/
theorem idle_of_handleInterrupt (uncompleted : ¬s.completed = true)
    (done : s.handleInterrupt.completed = true) : s.handleInterrupt.transfer.state = .idle := by
  obtain ⟨state, current⟩ : ∃ state, s.transfer.state = state := ⟨_, rfl⟩
  cases state with
  | idle =>
    rw [(tenure_handleInterrupt current).2] at done
    exact absurd done uncompleted
  | txInFlight =>
    rw [handleInterrupt_txInFlight current] at done ⊢
    split at done
    · -- waiting for the acknowledgement completes nothing
      rw [awaitAck_eq] at done
      exact absurd done uncompleted
    · rename_i unasked
      rw [if_neg unasked, completePacket_eq]
  | awaitingAck => rw [handleInterrupt_awaitingAck current, completeAck_eq]

/-- Buffers that are handed back are no longer pointed at. -/
theorem sole_releaseBuffers (h : s.tenure.Sole) : s.releaseBuffers.tenure.Sole := by
  unfold releaseBuffers
  split
  · exact { h with buffer := fun _ => rfl }
  · exact h

/-- A configuration that is stored reaches the radio only if that belongs to the link. -/
theorem sole_storeConfig (h : s.tenure.Sole) (config : LinkConfig) :
    (s.storeConfig config).tenure.Sole ∧ (s.storeConfig config).transfer = s.transfer := by
  unfold storeConfig
  dsimp only
  split
  · rename_i up
    have mode : s.tenure.mode = .link := h.initialized up
    have applied : ((s.onLink fun link => { link with config := config }).applyConfig
        config).tenure = { s.tenure with bitrate := config.bitrate } := rfl
    refine ⟨?_, rfl⟩
    rw [applied]
    exact { h with carrierMode := by simp [mode] }
  · exact ⟨h, rfl⟩

/-- A carrier on the channel of the link needs the link to be up. -/
theorem sole_toggleCarrier (h : s.tenure.Sole) (on : Bool) :
    (s.toggleCarrier on).1.tenure.Sole ∧ (s.toggleCarrier on).1.transfer = s.transfer := by
  unfold toggleCarrier
  split
  · exact ⟨h, rfl⟩
  rename_i down
  have up : s.link.initialized = true := by simpa using down
  have mode : s.tenure.mode = .link := h.initialized up
  split
  · exact ⟨h, rfl⟩
  · split
    · have toned : (((s.startTone.note (.carrierOn s.link.config.channel)).setCarrierFlag
          true).tenure) = { s.tenure with carrier := true } :=
        congrArg (fun v : Tenure => { v with carrier := true }) s.tenure_startTone
      refine ⟨?_, rfl⟩
      show ((s.startTone.note _).setCarrierFlag true).tenure.Sole
      rw [toned]
      exact { h with carrier := fun _ => .inr ⟨mode, up⟩ }
    · have quiet : (((s.stopTone.onRadio (Radio.setShorts .rssi)).note .carrierOff).setCarrierFlag
          false).tenure = { s.tenure with carrier := false } :=
        congrArg (fun v : Tenure => { v with carrier := false }) s.gauges_stopTone.tenure
      have transfer : s.stopTone.transfer = s.transfer := by rw [s.gauges_stopTone.rest]
      refine ⟨?_, transfer⟩
      show (((s.stopTone.onRadio _).note _).setCarrierFlag false).tenure.Sole
      rw [quiet]
      exact { h with carrier := by simp }

end Station

end BurstLink
