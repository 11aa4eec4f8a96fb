import BurstLink.Proofs.Custody.Modes
import BurstLink.Proofs.Custody.Sending
import BurstLink.Proofs.Moves

/-! # Every request under custody

What holds for sends and mode switches holds for every other request as well. So one look at an
operation leaves the lock with a holder that fits the station, or leaves it free and the station at
rest; and so does giving an operation up.

Main statements: `Station.AtRest.start`, `Activity.orderly_poll_queued`,
`Activity.orderly_poll_holding`, and `Activity.custody_drop`. -/

namespace BurstLink

namespace Station

variable {delays tears : Prop} {s t : Station}

/-! ## Settings -/

/-- A configuration stored while the link is on standby or a carrier is on air reaches the
registers; in any other case it is kept for later. -/
theorem AtRest.storeConfig (h : s.AtRest delays tears) (config : LinkConfig) :
    (s.storeConfig config).AtRest delays tears := by
  -- an address that is written to the registers can be read back from them
  have applied : ∀ c, s.radio.Programmed c →
      ((s.onLink fun link => { link with config := config }).applyConfig config).radio.Programmed
        config := fun c p =>
    ⟨p.powered, p.formatted, p.txPower, rfl, rfl, Address.ofRegisters_base_pipePrefix .., p.timer⟩
  have stored : s.storeConfig config =
      if s.link.initialized then
        (s.onLink fun link => { link with config := config }).applyConfig config
      else s.onLink fun link => { link with config := config } := rfl
  rw [stored]
  cases h with
  | dark mode h =>
    rw [if_neg (by simp [h.uninitialized])]
    obtain ⟨calm, uninitialized, noCarrier, wiped, timer, amplifiers⟩ := h
    exact .dark mode ⟨⟨calm.1, calm.2, calm.3, calm.4, calm.5⟩, uninitialized, noCarrier, wiped,
      timer, amplifiers⟩
  | standby h =>
    rw [if_pos h.initialized]
    exact .standby ⟨⟨h.calm.1, h.calm.2, h.calm.3, h.calm.4, h.calm.5⟩, h.mode, h.initialized,
      h.noCarrier, applied _ h.programmed, h.shorts, h.off, h.amplifiers⟩
  | toning h =>
    rw [if_pos h.initialized]
    exact .toning ⟨⟨h.calm.1, h.calm.2, h.calm.3, h.calm.4, h.calm.5⟩, h.mode, h.initialized,
      h.carrier, applied _ h.programmed, h.shorts, h.phase, h.amplifiers⟩
  | torn may h =>
    rw [if_neg (by simp [h.uninitialized])]
    exact .torn may ⟨⟨h.calm.1, h.calm.2, h.calm.3, h.calm.4, h.calm.5⟩, h.mode, h.uninitialized,
      h.noCarrier, h.powered, h.formatted, h.txPower, h.timer, h.off, h.receiverOff⟩
  | carrier h tuned =>
    rw [if_neg (by simp [h.uninitialized])]
    exact .carrier ⟨⟨h.calm.1, h.calm.2, h.calm.3, h.calm.4, h.calm.5⟩, h.mode, h.uninitialized,
      h.powered, h.unformatted, h.timer, h.bitrate, h.txPower, h.shorts⟩ tuned
  | gauge h off amplifiers =>
    rw [if_neg (by simp [h.uninitialized])]
    exact .gauge ⟨⟨h.calm.1, h.calm.2, h.calm.3, h.calm.4, h.calm.5⟩, h.mode, h.uninitialized,
      h.noCarrier, h.powered, h.unformatted, h.timer, h.shorts, h.pending⟩ off amplifiers

/-- A new configuration leaves the station at rest. -/
theorem AtRest.replaceConfig (h : s.AtRest delays tears) (config : LinkConfig) :
    (s.replaceConfig config).AtRest delays tears :=
  (note_agree ..).atRest (h.storeConfig config)

/-- So does a change of one setting. -/
theorem AtRest.changeConfig (h : s.AtRest delays tears) (change : ConfigChange) :
    (s.changeConfig change).AtRest delays tears :=
  (note_agree ..).atRest (h.storeConfig _)

/-- So does a change of the gain. -/
theorem AtRest.setPowerLevel (h : s.AtRest delays tears) (level : UInt8) :
    (s.setPowerLevel level).AtRest delays tears :=
  (setPowerLevel_agree ..).atRest h

/-! ## The carrier -/

/-- A carrier that goes on air without the start shortcut stays. -/
theorem startTone_eq (powered : s.radio.powered = true) : s.startTone = { s with
    frontEnd := s.frontEnd.map (FrontEnd.setPa true)
    radio := { s.radio with
      shorts := .none
      phase := .txIdle
      events := { s.radio.events with ready := true } } } := by
  have tone : (s.radio.setShorts .none).trigger .txEnable = { s.radio with
      shorts := .none
      phase := .txIdle
      events := { s.radio.events with ready := true } } := by
    have bare : Shorts.none.contains .readyStart = false := by decide
    rw [Radio.trigger_txEnable (by exact powered), Radio.enableTx]
    exact if_neg (by simp [Radio.setShorts, bare])
  unfold startTone
  show { s with
    radio := (s.radio.setShorts .none).trigger .txEnable
    frontEnd := s.frontEnd.map (FrontEnd.setPa true) } = _
  rw [tone]

/-- The carrier of the link goes on air from standby. -/
theorem Standby.startTone (h : s.Standby delays) :
    (s.startTone.setCarrierFlag true).Toning delays := by
  rw [startTone_eq h.programmed.powered]
  exact ⟨⟨h.calm.1, h.calm.2, h.calm.3, h.calm.4, h.calm.5⟩, h.mode, h.initialized, rfl,
    h.programmed.kept ⟨rfl, rfl, rfl, rfl, rfl, rfl, rfl, rfl, rfl⟩, rfl, rfl,
    h.amplifiers.setPa true⟩

/-- The carrier of the link goes off air. -/
theorem Toning.stopTone (h : s.Toning delays) :
    ((s.stopTone.onRadio (Radio.setShorts .rssi)).setCarrierFlag false).Standby delays := by
  obtain ⟨journal, same⟩ := s.stopTone_eq
  have off : s.radio.forceOff.Off delays :=
    Radio.forceOff_off h.programmed.powered (prompt_of_phase h.calm.prompt (by simp [h.phase]))
  have programmed := h.programmed.kept s.radio.forceOff_settles.keeps
  obtain ⟨phase, pending, events, -, settled⟩ := s.radio.forceOff_settles
  rw [same]
  rw [settled] at off programmed ⊢
  exact ⟨⟨h.calm.1, h.calm.2, h.calm.3, h.calm.4, h.calm.5⟩, h.mode, h.initialized, rfl,
    programmed.kept ⟨rfl, rfl, rfl, rfl, rfl, rfl, rfl, rfl, rfl⟩, rfl, off,
    h.amplifiers.setPa false⟩

/-- At rest, the link is up only on standby or with a carrier on air. -/
theorem AtRest.up_of_initialized (h : s.AtRest delays tears) (up : s.link.initialized = true) :
    s.Standby delays ∨ s.Toning delays := by
  cases h with
  | dark mode h => exact absurd (up.symm.trans h.uninitialized) (by simp)
  | standby h => exact .inl h
  | toning h => exact .inr h
  | torn may h => exact absurd (up.symm.trans h.uninitialized) (by simp)
  | carrier h tuned => exact absurd (up.symm.trans h.uninitialized) (by simp)
  | gauge h off amplifiers => exact absurd (up.symm.trans h.uninitialized) (by simp)

/-- **A carrier toggle leaves the station at rest**: on standby, or with the carrier on air. -/
theorem AtRest.toggleCarrier (h : s.AtRest delays tears) (on : Bool) :
    (s.toggleCarrier on).1.AtRest delays tears := by
  unfold Station.toggleCarrier
  split
  · exact h
  rename_i up
  split
  · exact h
  rename_i other
  rcases h.up_of_initialized (by simpa using up) with standby | toning
  · have turnOn : on = true := by simpa [standby.noCarrier] using other
    rw [if_pos turnOn]
    exact .toning ((note_agree ..).toning standby.startTone)
  · have turnOff : on = false := by simpa [toning.carrier] using other
    rw [if_neg (by simp [turnOff])]
    exact .standby ((note_agree ..).standby toning.stopTone)

/-- In the carrier mode, at rest, that mode owns the radio. -/
theorem AtRest.carrier_of_mode (h : s.AtRest delays tears) (mode : s.mode = .carrier) :
    s.CarrierMode delays ∧ s.Tuned delays := by
  cases h with
  | dark unowned h => simp [mode] at unowned
  | standby h => simp [h.mode] at mode
  | toning h => simp [h.mode] at mode
  | torn may h => simp [h.mode] at mode
  | carrier h tuned => exact ⟨h, tuned⟩
  | gauge h off amplifiers => simp [h.mode] at mode

/-- The carrier goes off air in the carrier mode. -/
theorem CarrierMode.stopTone (h : s.CarrierMode delays) (tuned : s.Tuned delays)
    (on : s.link.carrier = true) :
    s.stopTone.CarrierMode delays ∧ (s.stopTone.setCarrierFlag false).Tuned delays ∧
      s.stopTone.Amplifiers false false := by
  rcases tuned with ⟨-, phase, amplifiers⟩ | ⟨noCarrier, -⟩
  · obtain ⟨journal, same⟩ := s.stopTone_eq
    have off : s.radio.forceOff.Off delays :=
      Radio.forceOff_off h.powered (prompt_of_phase h.calm.prompt (by simp [phase]))
    obtain ⟨phase, pending, events, -, settled⟩ := s.radio.forceOff_settles
    rw [same]
    rw [settled] at off ⊢
    exact ⟨⟨⟨h.calm.1, h.calm.2, h.calm.3, h.calm.4, h.calm.5⟩, h.mode, h.uninitialized, h.powered,
      h.unformatted, h.timer, h.bitrate, h.txPower, h.shorts⟩,
      .inr ⟨rfl, off, amplifiers.setPa false⟩, amplifiers.setPa false⟩
  · exact absurd (on.symm.trans noCarrier) (by simp)

/-- The carrier goes on air in the carrier mode. -/
theorem CarrierMode.startTone (h : s.CarrierMode delays) (receiverOff : ∃ pa, s.Amplifiers pa false)
    (channel : UInt8) :
    ((s.onRadio (Radio.setChannel channel)).startTone.setCarrierFlag true).AtRest delays tears := by
  obtain ⟨pa, amplifiers⟩ := receiverOff
  rw [startTone_eq (by exact h.powered)]
  exact .carrier ⟨⟨h.calm.1, h.calm.2, h.calm.3, h.calm.4, h.calm.5⟩, h.mode, h.uninitialized,
    h.powered, h.unformatted, h.timer, h.bitrate, h.txPower, rfl⟩
    (.inl ⟨rfl, rfl, amplifiers.setPa true⟩)

/-- So does a carrier on a channel, in the carrier mode. -/
theorem AtRest.startCarrier (h : s.AtRest delays tears) (channel : UInt8) :
    (s.startCarrier channel).1.AtRest delays tears := by
  unfold Station.startCarrier
  split
  · rename_i mode
    obtain ⟨carrier, tuned⟩ := h.carrier_of_mode mode
    refine (note_agree ..).atRest ?_
    split
    · rename_i on
      obtain ⟨stopped, -, amplifiers⟩ := carrier.stopTone tuned on
      exact stopped.startTone ⟨_, amplifiers⟩ channel
    · rename_i off
      rcases tuned with ⟨on, -⟩ | ⟨-, -, amplifiers⟩
      · exact absurd on off
      · exact carrier.startTone ⟨_, amplifiers⟩ channel
  · exact h

/-- So does its end. -/
theorem AtRest.stopCarrier (h : s.AtRest delays tears) : s.stopCarrier.1.AtRest delays tears := by
  unfold Station.stopCarrier
  split
  · rename_i mode
    obtain ⟨carrier, tuned⟩ := h.carrier_of_mode mode
    split
    · rename_i on
      obtain ⟨stopped, tuned, -⟩ := carrier.stopTone tuned on
      refine (note_agree ..).atRest (.carrier ?_ tuned)
      obtain ⟨calm, mode, uninitialized, powered, unformatted, timer, bitrate, txPower, shorts⟩ :=
        stopped
      exact ⟨⟨calm.1, calm.2, calm.3, calm.4, calm.5⟩, mode, uninitialized, powered, unformatted,
        timer, bitrate, txPower, shorts⟩
    · exact h
  · exact h

/-! ## Measurements -/

/-- The measurement mode is not concerned with what changes during a measurement. -/
theorem GaugeMode.of_radio (h : s.GaugeMode delays) {radio : Radio}
    (same : ∃ channel events phase rssi rssiRequested, radio = { s.radio with
      channel := channel, events := events, phase := phase, rssi := rssi
      rssiRequested := rssiRequested }) :
    ({ s with radio := radio } : Station).GaugeMode delays := by
  obtain ⟨channel, events, phase, rssi, rssiRequested, rfl⟩ := same
  exact ⟨⟨h.calm.1, h.calm.2, h.calm.3, h.calm.4, h.calm.5⟩, h.mode, h.uninitialized, h.noCarrier,
    h.powered, h.unformatted, h.timer, h.shorts, h.pending⟩

/-- The receiver goes off at the end of a measurement. -/
theorem Gauging.endMeasurement (h : s.Gauging delays) : s.endMeasurement.AtRest delays tears := by
  obtain ⟨gauge, phase, amplifiers⟩ := h
  -- a receiver that is coming up or on is not switching off yet
  have never : ∀ reads, s.radio.phase ≠ .disabling reads := by
    rcases phase with phase | phase <;> simp [phase]
  have off : s.radio.forceOff.Off delays :=
    Radio.forceOff_off gauge.powered (prompt_of_phase gauge.calm.prompt never)
  have pending := s.radio.forceOff_settles.pending_eq_none gauge.pending
  obtain ⟨phase, _, events, -, settled⟩ := s.radio.forceOff_settles
  unfold Station.endMeasurement
  rw [s.disableRadio_eq]
  rw [settled] at off pending ⊢
  exact .gauge ⟨⟨gauge.calm.1, gauge.calm.2, gauge.calm.3, gauge.calm.4, gauge.calm.5⟩, gauge.mode,
    gauge.uninitialized, gauge.noCarrier, gauge.powered, gauge.unformatted, gauge.timer,
    gauge.shorts, pending⟩ off (amplifiers.setLna false)

/-- A notice does not disturb a measurement. -/
theorem Gauging.note (h : s.Gauging delays) (notice : Notice) : (s.note notice).Gauging delays :=
  ⟨(note_agree ..).gaugeMode h.gauge, h.phase, h.amplifiers⟩

/-- What is left after a look at a measurement: it goes on, or it has just been ended. -/
def Gauged (delays : Prop) (found : Station × MeasurementLook) : Prop :=
  found.2.Meets (fun _ => found.1.Gauging delays) fun _ =>
    ∃ t : Station, t.Gauging delays ∧ found.1 = t.endMeasurement

/-- **A measurement that looks for its sample** goes on, or leaves the receiver off. -/
theorem Gauging.awaitSample (h : s.Gauging delays) (channel : UInt8) (looks : Nat) :
    Gauged delays (s.awaitSample channel looks) := by
  cases looks with
  | zero => exact ⟨_, h.note _, rfl⟩
  | succ looks =>
    unfold Station.awaitSample
    dsimp only
    split
    · have sampled : ((s.onRadio (Radio.clearEvent .rssiEnd)).onRadio
          (Radio.trigger .rssiStop)).Gauging delays := by
        have stopped : (s.radio.clearEvent .rssiEnd).trigger .rssiStop =
            { s.radio with
              events := { s.radio.events with rssiEnd := false }
              rssiRequested := false } := if_pos h.gauge.powered
        unfold onRadio
        dsimp only
        rw [stopped]
        exact ⟨h.gauge.of_radio ⟨_, _, _, _, _, rfl⟩, h.phase, h.amplifiers⟩
      exact ⟨_, sampled.note _, rfl⟩
    · exact h

/-- So does one that looks for the receiver. -/
theorem Gauging.awaitReceiver (h : s.Gauging delays) (channel : UInt8) (looks : Nat) :
    Gauged delays (s.awaitReceiver channel looks) := by
  cases looks with
  | zero => exact ⟨_, h.note _, rfl⟩
  | succ looks =>
    unfold Station.awaitReceiver
    dsimp only
    split
    · have asked : (s.onRadio fun r => (r.clearEvent .ready).trigger .rssiStart).Gauging
          delays := by
        have started : (s.radio.clearEvent .ready).trigger .rssiStart =
            { s.radio with
              events := { s.radio.events with ready := false }
              rssiRequested := true } := if_pos h.gauge.powered
        unfold onRadio
        dsimp only
        rw [started]
        exact ⟨h.gauge.of_radio ⟨_, _, _, _, _, rfl⟩, h.phase, h.amplifiers⟩
      exact asked.awaitSample channel _
    · exact h

/-- **A measurement that is looked at goes on, or has just been ended.** -/
theorem Gauging.gauged_checkMeasurement (h : s.Gauging delays) (m : Measurement) :
    Gauged delays (s.checkMeasurement m) := by
  unfold Station.checkMeasurement
  split
  · split
    · exact h.awaitReceiver ..
    · exact h.awaitSample ..
  · exact h

/-- A measurement that starts in its mode goes on, or has just been ended. -/
theorem AtRest.gauged_startMeasurement (h : s.AtRest delays tears)
    (mode : s.mode = .powerMeasurement) (channel : UInt8) :
    Gauged delays (s.startMeasurement channel) := by
  obtain ⟨gauge, -, amplifiers⟩ := h.gauge_of_mode mode
  have risen : (((s.onRadio fun r =>
      ((r.setChannel channel).clearEvent .ready).clearEvent .rssiEnd).setLna true).onRadio
        (Radio.trigger .rxEnable)).Gauging delays := by
    have started : (((s.radio.setChannel channel).clearEvent .ready).clearEvent
        .rssiEnd).trigger .rxEnable =
        { s.radio with
          channel := channel
          events := { s.radio.events with ready := false, rssiEnd := false }
          phase := .rxRampUp } := if_pos gauge.powered
    unfold setLna onFrontEnd onRadio
    dsimp only
    rw [started]
    obtain ⟨calm, mode, uninitialized, noCarrier, powered, unformatted, timer, shorts, pending⟩ :=
      gauge
    exact ⟨⟨⟨calm.1, calm.2, calm.3, calm.4, calm.5⟩, mode, uninitialized, noCarrier, powered,
      unformatted, timer, shorts, pending⟩, .inl rfl, amplifiers.setLna true⟩
  unfold Station.startMeasurement
  rw [if_pos mode]
  exact risen.awaitReceiver ..

/-- A measurement that has just been ended leaves the station at rest. -/
theorem Gauged.leaves {found : Station × MeasurementLook} (h : Gauged delays found) :
    Leaves delays tears (ofMeasurement found) := by
  unfold Leaves ofMeasurement asProgress
  rw [Look.meets_map]
  refine Look.Meets.imp h (fun _ gauging => gauging) ?_
  rintro _ ⟨t, gauging, ended⟩
  show found.1.AtRest delays tears
  rw [ended]
  exact gauging.endMeasurement

/-- **A measurement that is looked at goes on, or leaves the station at rest.** -/
theorem Gauging.checkMeasurement (h : s.Gauging delays) (m : Measurement) :
    Leaves delays tears (ofMeasurement (s.checkMeasurement m)) :=
  (h.gauged_checkMeasurement m).leaves

/-- The start of a measurement takes the lock, or is refused and leaves the station at rest. -/
theorem AtRest.startMeasurement (h : s.AtRest delays tears) (channel : UInt8) :
    Leaves delays tears (ofMeasurement (s.startMeasurement channel)) := by
  by_cases mode : s.mode = .powerMeasurement
  · exact (h.gauged_startMeasurement mode channel).leaves
  · unfold Station.startMeasurement
    rw [if_neg mode]
    exact h

/-! ## Listening -/

/-- Taking reports tells the log at most. -/
theorem takeReports_agree (reports : List PresenceReport) (found : List Detection) (s : Station) :
    Agree delays s (s.takeReports reports found).1 := by
  induction reports generalizing found s with
  | nil => exact .refl s
  | cons report later ih =>
    cases report with
    | done => exact .refl s
    | detected d =>
      -- a detection that does not fit is told to the log, which custody does not read
      refine Agree.trans ?_ (ih ..)
      show Agree delays s (if Sightings.drops d found then s.note _ else s)
      split
      · exact note_agree ..
      · exact .refl s

/-- A report to a scanner is none of what custody is about. -/
theorem report_agree (scanner : Handle Scanner) (report : PresenceReport) (s : Station) :
    Agree delays s (s.report scanner report) := by
  unfold Station.report
  split
  · exact note_agree ..
  · exact scanners_agree ..

/-- It leaves the lock to its holder. -/
theorem report_locked (scanner : Handle Scanner) (report : PresenceReport) (s : Station) :
    (s.report scanner report).locked = s.locked := by
  unfold Station.report
  split <;> rfl

/-- So do several reports. The induction is on them. -/
theorem reports_agree (scanner : Handle Scanner) (reports : List PresenceReport) (s : Station) :
    Agree delays s (reports.foldl (fun s r => s.report scanner r) s) := by
  induction reports generalizing s with
  | nil => exact .refl s
  | cons report later ih => exact (report_agree ..).trans (ih _)

/-- A presence scan changes nothing that custody is about. -/
theorem collect_agree (l : Listening) (s : Station) : Agree delays s (s.collect l).1 := by
  have taken : Agree delays s (s.takeReports (s.scanners.get l.scanner).queue l.found).1 :=
    takeReports_agree ..
  unfold collect
  dsimp only
  split
  · exact taken.trans (scanners_agree ..)
  · exact taken.trans (scanners_agree ..)

/-- A presence scan that is looked at goes on, or leaves the station as dark as it was. -/
theorem Vacant.collect (h : s.Vacant delays) (mode : s.mode = .presenceScan) (l : Listening) :
    Leaves delays tears (ofListening (s.collect l)) := by
  have agree : Agree delays s (s.collect l).1 := s.collect_agree l
  have vacant := agree.vacant h
  have same := agree.mode.symm.trans mode
  unfold Leaves ofListening asProgress
  rw [Look.meets_map]
  rcases (s.collect l).2 with l' | result
  · exact ⟨vacant, same⟩
  · exact .dark (.inr same) vacant

/-- A look at a presence scan leaves the radio to nobody. -/
theorem Vacant.checkListening (h : s.Vacant delays) (mode : s.mode = .presenceScan)
    (l : Listening) : Leaves delays tears (ofListening (s.checkListening l)) := by
  unfold Station.checkListening
  split
  · split
    · exact .dark (.inr mode) ((note_agree ..).vacant h)
    · exact ⟨h, mode⟩
  · exact h.collect mode l

/-- The start of a presence scan takes the lock, or is refused and leaves the station at rest. -/
theorem AtRest.startListening (h : s.AtRest delays tears) (scanner : Handle Scanner)
    (channel : UInt8) (window : Nat) :
    Leaves delays tears (ofListening (s.startListening scanner channel window)) := by
  unfold Station.startListening
  split
  · rename_i mode
    have asked : Agree delays s (s.onScanner scanner fun sc => sc.drain.ask channel window) :=
      scanners_agree ..
    have agree := asked.trans (reports_agree scanner
      ((s.onScanner scanner fun sc => sc.drain.ask channel window).scanners.get
        scanner).announcements _)
    exact (agree.vacant (h.vacant_of_mode (.inr mode))).collect (agree.mode.symm.trans mode) _
  · exact h

/-! ## Starting and looking -/

/-- **A regular operation that starts at rest holds the radio, or leaves the station at rest.** -/
theorem AtRest.start (h : s.AtRest delays tears) {request : Request} (regular : request.Regular) :
    Leaves delays tears (s.start request) := by
  cases request with
  | switchMode mode => exact h.startSwitch mode
  | switchModeNamed name =>
    unfold Station.start
    dsimp only
    split
    · exact h.startSwitch _
    · exact h
  | readConfig => exact h
  | configure config => exact h.replaceConfig config
  | change change => exact h.changeConfig change
  | setPowerLevel level => exact h.setPowerLevel level
  | send packet ack => exact h.startSend regular false
  | sendPayload bytes => exact h.startSendPayload bytes
  | scanChannels first last bytes => exact h.startScan first last bytes
  | toggleCarrier on => exact h.toggleCarrier on
  | startCarrier channel => exact h.startCarrier channel
  | stopCarrier => exact h.stopCarrier
  | measureRssi channel => exact h.startMeasurement channel
  | scanPresence scanner channel window => exact h.startListening scanner channel window
  | testAmplifiers => exact absurd regular id

/-- An activity that uses the radio holds the lock. -/
theorem Held.holdsLock {activity : Activity} (h : s.Held delays activity) :
    activity.holdsLock = true := by
  cases activity with
  | queued => exact absurd h id
  | testing => exact absurd h id
  | sending => rfl
  | switching => rfl
  | measuring => rfl
  | listening => rfl

end Station

/-- The activity that holds the lock after a look. -/
def Progress.holder : Progress → Option Activity
  | .waiting activity => if activity.holdsLock then some activity else none
  | .finished _ => none

/-- A look was orderly: the lock has a holder that fits the station, or none and the station is at
rest, and what goes on is a regular activity. -/
structure Station.Orderly (delays tears : Prop) (found : Station × Progress) : Prop where
  custody : found.1.Custody delays tears (Progress.holder found.2)
  regular : found.2.Meets Activity.Regular fun _ => True

namespace Activity

variable {delays tears : Prop} {s : Station} {activity : Activity}

/-- An operation that holds the lock is no front-end test. -/
theorem regular_of_holdsLock (holds : activity.holdsLock = true) : activity.Regular := by
  cases activity with
  | queued request => exact absurd holds (by simp [holdsLock])
  | testing t => exact absurd holds (by simp [holdsLock])
  | _ => trivial

/-- What a look leaves behind decides who holds the lock. -/
theorem orderly_withLock {found : Station × Progress} (h : Station.Leaves delays tears found) :
    Station.Orderly delays tears (Station.withLock found) := by
  obtain ⟨s, activity | result⟩ := found
  · have holds : activity.holdsLock = true := Station.Held.holdsLock h
    have held : s.Held delays activity := h
    refine ⟨?_, regular_of_holdsLock holds⟩
    simp only [Station.withLock, Progress.holder, Progress.holdsLock, holds, if_true]
    exact ⟨rfl, (Station.setLocked_agree ..).held held⟩
  · exact ⟨⟨rfl, (Station.setLocked_agree ..).atRest h⟩, trivial⟩

/-- A regular request needs the lock. -/
theorem Regular.needsLock {request : Request} (h : (queued request).Regular) :
    request.needsLock = true := by
  cases request with
  | testAmplifiers => exact absurd h id
  | _ => rfl

/-- **A look at a request while the lock is free is orderly.** -/
theorem orderly_poll_queued {request : Request} (h : s.Custody delays tears none)
    (regular : (queued request).Regular) :
    Station.Orderly delays tears ((queued request).poll s) := by
  cases decided : request.answer? with
  | some result =>
    rw [poll_queued_of_answer? decided]
    exact ⟨h, trivial⟩
  | none =>
    rw [poll_queued_of_free h.1 decided regular.needsLock]
    exact orderly_withLock (h.2.start regular)

/-- A look at a request while the lock is taken leaves the station as it is; the request goes on
waiting, unless its arguments decide it. -/
theorem poll_queued_busy {request : Request} (busy : s.locked = true)
    (regular : (queued request).Regular) :
    ((queued request).poll s).1 = s ∧ Progress.holder ((queued request).poll s).2 = none ∧
      ((queued request).poll s).2.Meets Activity.Regular fun _ => True := by
  cases decided : request.answer? with
  | some result =>
    rw [poll_queued_of_answer? decided]
    exact ⟨rfl, rfl, trivial⟩
  | none =>
    rw [poll_queued_of_locked busy decided regular.needsLock]
    exact ⟨rfl, rfl, regular⟩

/-- A look at the operation that holds the lock leaves the lock to what goes on. -/
theorem leaves_of_holding (h : s.Custody delays tears (some activity)) :
    ∃ found, activity.poll s = Station.withLock found ∧ Station.Leaves delays tears found := by
  obtain ⟨-, held⟩ := h
  cases activity with
  | queued request => exact absurd held id
  | sending f purpose =>
    refine ⟨_, rfl, Look.Meets.imp (Station.InFlight.checkSend held purpose) ?_ ?_⟩
    · rintro _ ⟨f, purpose, rfl, flying⟩
      exact flying
    · exact fun _ landed => .standby landed.toStandby
  | switching t => exact ⟨_, rfl, Station.Torn.checkSwitch held t⟩
  | measuring m => exact ⟨_, rfl, Station.Gauging.checkMeasurement held m⟩
  | listening l => exact ⟨_, rfl, held.1.checkListening held.2 l⟩
  | testing t => exact absurd held id

/-- **A look at the operation that holds the lock is orderly.** -/
theorem orderly_poll_holding (h : s.Custody delays tears (some activity)) :
    Station.Orderly delays tears (activity.poll s) := by
  obtain ⟨found, looked, leaves⟩ := leaves_of_holding h
  rw [looked]
  exact orderly_withLock leaves

/-- **Whoever goes on from a look has the lock or is waiting for it**: the lock is taken. -/
theorem locked_of_waiting {holder : Option Activity} (h : s.Custody delays tears holder)
    (regular : activity.Regular) (holds : activity.holdsLock = true → holder = some activity)
    {t : Station} {rest : Activity} (looked : activity.poll s = (t, .waiting rest)) :
    t.locked = true := by
  -- under the lock, what goes on holds it
  have locked : ∀ found, activity.poll s = Station.withLock found →
      Station.Leaves delays tears found → t.locked = true := by
    intro found same leaves
    obtain ⟨u, activity' | result⟩ := found
    · have goesOn : activity'.holdsLock = true := Station.Held.holdsLock leaves
      obtain ⟨rfl, -⟩ := Prod.mk.inj (looked.symm.trans same)
      exact goesOn
    · exact absurd (congrArg Prod.snd (looked.symm.trans same)) (by simp [Station.withLock])
  cases holding : activity.holdsLock with
  | true =>
    obtain ⟨found, same, leaves⟩ := leaves_of_holding (holds holding ▸ h)
    exact locked found same leaves
  | false =>
    cases activity with
    | queued request =>
      cases decided : request.answer? with
      | some result =>
        rw [poll_queued_of_answer? decided] at looked
        exact absurd (congrArg Prod.snd looked) (by simp)
      | none =>
        -- a request that finds the lock taken waits for it; one that finds it free takes it
        cases busy : s.locked with
        | true =>
          rw [poll_queued_of_locked busy decided regular.needsLock] at looked
          obtain ⟨rfl, -⟩ := Prod.mk.inj looked
          exact busy
        | false =>
          have free : s.Custody delays tears none := by
            cases holder with
            | none => exact h
            | some activity => exact absurd (busy.symm.trans h.1) (by simp)
          exact locked _ (poll_queued_of_free busy decided regular.needsLock) (free.2.start regular)
    | testing test => exact absurd regular id
    | _ => exact absurd holding (by simp [holdsLock])

/-- The activity is a switch that waits for the link to stop. -/
def isSwitching : Activity → Bool
  | .switching _ => true
  | _ => false

/-- **Giving up the operation that holds the lock**; only a switch that waits for the link to stop
leaves the link torn. -/
theorem custody_drop (h : s.Custody delays tears (some activity))
    (may : activity.isSwitching = true → tears) :
    (activity.drop s).Custody delays tears none := by
  obtain ⟨-, held⟩ := h
  refine ⟨?_, ?_⟩
  · cases activity with
    | queued request => exact absurd held id
    | testing t => exact absurd held id
    | _ => rfl
  cases activity with
  | queued request => exact absurd held id
  | sending f purpose =>
    exact (Station.setLocked_agree ..).atRest (.standby (Station.InFlight.forceIdle held).toStandby)
  | switching t => exact (Station.setLocked_agree ..).atRest (.torn (may rfl) held)
  | measuring m =>
    exact (Station.setLocked_agree ..).atRest (Station.Gauging.endMeasurement held)
  | listening l => exact (Station.setLocked_agree ..).atRest (.dark (.inr held.2) held.1)
  | testing t => exact absurd held id

end Activity

end BurstLink
