import BurstLink.Bench.Access
import BurstLink.Proofs.Congruence.Basic

/-! # Mode switches and requests under a congruence

Every operation that does not send keeps a congruence, and finds the same on both stations. What is
left to be done after a look agrees up to its deadline.

Main statements: `Station.Congruence.startSwitch`, `Station.Congruence.checkSwitch`,
`Station.Congruence.checkMeasurement`, `Station.Congruence.checkListening`, and one lemma for each
other request. -/

namespace BurstLink.Station.Congruence

variable {pair : Buffer → Buffer → Prop} {far : Nat → Nat → Prop} {R : Station → Station → Prop}
  (c : Congruence pair far R) {s t : Station}
include c

/-! ## The link comes up and goes down -/

/-- The registers take a configuration. -/
theorem applyConfig (h : R s t) (config : LinkConfig) :
    R (s.applyConfig config) (t.applyConfig config) :=
  c.write h fun _ _ _ => rfl

/-- The radio is programmed from scratch. -/
theorem programRadio (h : R s t) (config : LinkConfig) :
    R (s.programRadio config) (t.programRadio config) := by
  have powered := c.write h (f := fun r => ((r.setPower true).setTxPower .zeroDbm).configurePacket)
    fun _ _ _ => rfl
  exact c.write (c.applyConfig powered config) fun _ _ _ => rfl

/-- The link protocol takes the radio, with the configuration that both stations store. -/
theorem bringUp (h : R s t) : R s.bringUp t.bringUp := by
  have programmed := c.programRadio (c.onRadio h Radio.oblivious_startTimer) s.link.config
  unfold Station.bringUp
  rw [← (c.shares h).link]
  exact c.note (c.onLink (c.prepare (c.resetTransfer programmed)) _) _

/-- The link protocol stops. -/
theorem beginTeardown (h : R s t) : R s.beginTeardown t.beginTeardown :=
  c.write (c.onLink h _) ((Radio.detached_trigger .disable).comp fun _ _ _ => rfl)

/-- The link protocol gives the radio up. -/
theorem finishTeardown (h : R s t) : R s.finishTeardown t.finishTeardown := by
  have stopped : Radio.Detached fun r =>
    ((r.clearEvent .disabled).setShorts .none).clearRoutes.stopTimer := fun _ _ _ => rfl
  have off := c.onRadio h ((Radio.oblivious_setPower false).comp stopped.oblivious)
  exact c.note (c.setCompleted (c.setLna (c.setPa off false) false) false) .linkDown

/-- **An exchange is brought to rest** on both stations: both radios are off in time, or both are
power cycled. -/
theorem forceIdle (h : R s t) (config : LinkConfig) :
    R (s.forceIdle config) (t.forceIdle config) := by
  have disarmed := c.write h (f := fun r =>
    ((r.setInterrupt false).disableShorts .txThenRx).clearRoutes) fun _ _ _ => rfl
  obtain ⟨off, inTime⟩ := c.disableRadio disarmed
  have cycled := c.programRadio (c.setPower (c.note off .powerCycle) false) config
  unfold Station.forceIdle
  dsimp only
  rw [← inTime]
  exact c.resetTransfer (c.setLna (c.setPa (rel_ite .rfl off cycled) false) false)

/-! ## The carrier -/

/-- The carrier goes on air. -/
theorem startTone (h : R s t) : R s.startTone t.startTone :=
  c.trigger (c.setPa (c.write h fun _ _ _ => rfl) true) .txEnable

/-- The carrier is taken off air. -/
theorem stopTone (h : R s t) : R s.stopTone t.stopTone := c.setPa (c.disableRadio h).stations false

/-- The link remembers whether a carrier is on air. -/
theorem setCarrierFlag (h : R s t) (on : Bool) : R (s.setCarrierFlag on) (t.setCarrierFlag on) :=
  c.onLink h _

/-- The carrier toggle answers the same: both stations share what it depends on. -/
theorem toggleCarrier (h : R s t) (on : Bool) :
    Concur R Eq (s.toggleCarrier on) (t.toggleCarrier on) := by
  have silent := c.write (c.stopTone h) (f := Radio.setShorts .rssi) fun _ _ _ => rfl
  unfold Station.toggleCarrier
  rw [← (c.shares h).link]
  refine rel_ite .rfl ⟨h, rfl⟩ (rel_ite .rfl ⟨h, rfl⟩ (rel_ite .rfl ⟨?_, rfl⟩ ⟨?_, rfl⟩))
  · exact c.setCarrierFlag (c.note (c.startTone h) _) true
  · exact c.setCarrierFlag (c.note silent _) false

/-- The carrier mode puts the carrier on a channel. -/
theorem startCarrier (h : R s t) (channel : UInt8) :
    Concur R Eq (s.startCarrier channel) (t.startCarrier channel) := by
  unfold Station.startCarrier
  rw [← (c.shares h).mode, ← (c.shares h).link]
  refine rel_ite .rfl ⟨?_, rfl⟩ ⟨h, rfl⟩
  have silent := rel_ite (R := R) (p := s.link.carrier = true) .rfl (c.stopTone h) h
  have tuned := c.write silent (f := Radio.setChannel channel) fun _ _ _ => rfl
  exact c.note (c.setCarrierFlag (c.startTone tuned) true) _

/-- The carrier mode takes the carrier off air. -/
theorem stopCarrier (h : R s t) : Concur R Eq s.stopCarrier t.stopCarrier := by
  unfold Station.stopCarrier
  rw [← (c.shares h).mode, ← (c.shares h).link]
  refine rel_ite .rfl ⟨rel_ite .rfl ?_ h, rfl⟩ ⟨h, rfl⟩
  exact c.note (c.setCarrierFlag (c.stopTone h) false) _

/-! ## Switching modes -/

/-- The new mode takes the radio. -/
theorem enterMode (h : R s t) (mode : Mode) : R (s.enterMode mode) (t.enterMode mode) := by
  have entered := c.setMode h mode
  cases mode with
  | disabled => exact entered
  | link => exact c.bringUp entered
  | presenceScan => exact entered
  | carrier =>
    exact c.write entered (f := fun r =>
      ((r.setPower true).setBitrate .mbps2).setTxPower .pos4Dbm) fun _ _ _ => rfl
  | powerMeasurement =>
    exact c.write entered (f := fun r => (r.setPower true).setShorts .txOnce) fun _ _ _ => rfl

/-- The carrier mode gives the radio up. -/
theorem exitCarrierMode (h : R s t) : R s.exitCarrierMode t.exitCarrierMode := by
  have silent := c.setCarrierFlag (c.stopTone h) false
  unfold Station.exitCarrierMode
  rw [← (c.shares h).link]
  exact c.setPower (rel_ite .rfl silent h) false

/-- The power measurement mode gives the radio up. -/
theorem exitPowerMode (h : R s t) : R s.exitPowerMode t.exitPowerMode := by
  have quiet : Radio.Detached fun r => (r.trigger .disable).setShorts .none :=
    Radio.Detached.comp (fun _ _ _ => rfl) (Radio.detached_trigger .disable)
  exact c.onRadio h ((Radio.oblivious_setPower false).comp quiet.oblivious)

/-- **A mode switch starts alike**: which mode gives the radio up is the same on both stations, and
only the link has to wait. -/
theorem startSwitch (h : R s t) (target : Mode) :
    Concur R (Look.Agree (Teardown.Alike far)) (s.startSwitch target) (t.startSwitch target) := by
  have noted := c.note h (.modeChange s.mode target)
  have same := (c.shares h).mode
  unfold Station.startSwitch
  rw [← same]
  refine rel_ite .rfl ⟨h, rfl⟩ ?_
  -- the mode that is left is read off the station after the note; it has to be a variable to match
  obtain ⟨mode, was⟩ : ∃ mode, s.mode = mode := ⟨_, rfl⟩
  have was' : t.mode = mode := same.symm.trans was
  dsimp only [Station.note] at noted ⊢
  rw [was, was'] at noted ⊢
  cases mode with
  | disabled => exact ⟨c.enterMode noted target, rfl⟩
  | link => exact ⟨c.beginTeardown noted, rfl, c.after h teardownTime⟩
  | presenceScan => exact ⟨c.enterMode noted target, rfl⟩
  | carrier => exact ⟨c.enterMode (c.exitCarrierMode noted) target, rfl⟩
  | powerMeasurement => exact ⟨c.enterMode (c.exitPowerMode noted) target, rfl⟩

/-- A mode switch goes on alike: the teardown has had its time on both stations, or on neither. -/
theorem checkSwitch (h : R s t) {waiting waiting' : Teardown}
    (alike : waiting.Alike far waiting') :
    Concur R (Look.Agree (Teardown.Alike far)) (s.checkSwitch waiting)
      (t.checkSwitch waiting') := by
  unfold Station.checkSwitch
  rw [← alike.target]
  exact rel_ite (c.due h alike.deadline) ⟨c.enterMode (c.finishTeardown h) _, rfl⟩ ⟨h, alike⟩

/-! ## Measurements -/

/-- The receiver is switched off. -/
theorem endMeasurement (h : R s t) : R s.endMeasurement t.endMeasurement :=
  c.setLna (c.disableRadio h).stations false

/-- The event does not come on either station. -/
theorem missEvent (h : R s t) (awaited : Awaited) :
    Concur R (Look.Agree (Measurement.Alike far)) (s.missEvent awaited) (t.missEvent awaited) :=
  ⟨c.endMeasurement (c.note h _), rfl⟩

/-- The measurement pauses on both stations, for the same time. -/
theorem pauseMeasurement (h : R s t) (channel : UInt8) (awaited : Awaited) (looks : Nat) :
    Concur R (Look.Agree (Measurement.Alike far)) (s.pauseMeasurement channel awaited looks)
      (t.pauseMeasurement channel awaited looks) :=
  ⟨h, rfl, rfl, rfl, c.after h measurementInterval⟩

/-- The sample is there on both stations, with the same value, or on neither. -/
theorem awaitSample (h : R s t) (channel : UInt8) (looks : Nat) :
    Concur R (Look.Agree (Measurement.Alike far)) (s.awaitSample channel looks)
      (t.awaitSample channel looks) := by
  cases looks with
  | zero => exact c.missEvent h .sample
  | succ looks =>
    have raised := (c.shares h).reads (f := fun r => r.events.rssiEnd) fun _ _ _ => rfl
    have value := (c.shares h).reads (f := fun r => r.rssi) fun _ _ _ => rfl
    have taken := c.trigger (c.write h (f := Radio.clearEvent .rssiEnd) fun _ _ _ => rfl) .rssiStop
    refine rel_ite (by rw [raised]) ⟨?_, congrArg Except.ok value⟩
      (c.pauseMeasurement h channel .sample looks)
    -- the notice tells the value of the register, which is the same on both sides
    show R _ (Station.note (.measured channel t.radio.rssi) _).endMeasurement
    rw [← value]
    exact c.endMeasurement (c.note taken _)

/-- The receiver is up on both stations, or on neither. -/
theorem awaitReceiver (h : R s t) (channel : UInt8) (looks : Nat) :
    Concur R (Look.Agree (Measurement.Alike far)) (s.awaitReceiver channel looks)
      (t.awaitReceiver channel looks) := by
  cases looks with
  | zero => exact c.missEvent h .receiver
  | succ looks =>
    have raised := (c.shares h).reads (f := fun r => r.events.ready) fun _ _ _ => rfl
    have asked := c.write h ((Radio.detached_trigger .rssiStart).comp (f := Radio.clearEvent .ready)
      fun _ _ _ => rfl)
    exact rel_ite (by rw [raised]) (c.awaitSample asked channel measurementMaxPolls)
      (c.pauseMeasurement h channel .receiver looks)

/-- A measurement starts alike. -/
theorem startMeasurement (h : R s t) (channel : UInt8) :
    Concur R (Look.Agree (Measurement.Alike far)) (s.startMeasurement channel)
      (t.startMeasurement channel) := by
  have tuned := c.write h (f := fun r =>
    ((r.setChannel channel).clearEvent .ready).clearEvent .rssiEnd) fun _ _ _ => rfl
  have rising := c.trigger (c.setLna tuned true) .rxEnable
  exact rel_ite (by rw [(c.shares h).mode]) (c.awaitReceiver rising channel measurementMaxPolls)
    ⟨h, rfl⟩

/-- A measurement goes on alike: its pause is over on both stations, or on neither. -/
theorem checkMeasurement (h : R s t) {m m' : Measurement} (alike : m.Alike far m') :
    Concur R (Look.Agree (Measurement.Alike far)) (s.checkMeasurement m)
      (t.checkMeasurement m') := by
  unfold Station.checkMeasurement
  rw [← alike.channel, ← alike.awaited, ← alike.looks]
  refine rel_ite (c.due h alike.deadline) ?_ ⟨h, alike⟩
  cases m.awaited with
  | receiver => exact c.awaitReceiver h m.channel m.looks
  | sample => exact c.awaitSample h m.channel m.looks

/-! ## Settings -/

/-- A configuration is stored, and applied on both stations or on neither. -/
theorem storeConfig (h : R s t) (config : LinkConfig) :
    R (s.storeConfig config) (t.storeConfig config) := by
  have stored := c.onLink h fun link => { link with config := config }
  exact rel_ite (by rw [(c.shares stored).link]) (c.applyConfig stored config) stored

/-- A change of one setting starts from the same configuration. -/
theorem changeConfig (h : R s t) (change : ConfigChange) :
    R (s.changeConfig change) (t.changeConfig change) := by
  unfold Station.changeConfig
  rw [← (c.shares h).link]
  exact c.note (c.storeConfig h _) _

/-- Both front ends get the gain of the level. -/
theorem setPowerLevel (h : R s t) (level : UInt8) :
    R (s.setPowerLevel level) (t.setPowerLevel level) :=
  c.setGain (c.note h _) _

/-! ## Presence scans -/

/-- Both stations take the same reports. The induction is on the reports. -/
theorem takeReports (h : R s t) (reports : List PresenceReport) (found : List Detection) :
    Concur R Eq (s.takeReports reports found) (t.takeReports reports found) := by
  induction reports generalizing s t found with
  | nil => exact ⟨h, rfl⟩
  | cons report later ih =>
    cases report with
    | done => exact ⟨h, rfl⟩
    | detected d => exact ih (rel_ite .rfl (c.note h (.tableFull d)) h) _

/-- Both stations collect the same, because their scanners have the same in their queues. -/
theorem collect (h : R s t) {l l' : Listening} (alike : l.Alike far l') :
    Concur R (Look.Agree (Listening.Alike far)) (s.collect l) (t.collect l') := by
  have taken := c.takeReports h (s.scanners.get l.scanner).queue l.found
  unfold Station.collect
  rw [← (c.shares h).scanners, ← alike.scanner, ← alike.found, ← alike.window]
  generalize s.takeReports (s.scanners.get l.scanner).queue l.found = x at taken ⊢
  generalize t.takeReports (s.scanners.get l.scanner).queue l.found = y at taken ⊢
  obtain ⟨u, queue, devices, done⟩ := x
  obtain ⟨v, _⟩ := y
  obtain ⟨stations, rfl⟩ := taken
  have stored := c.onScanner stations l.scanner fun sc => { sc with queue := queue }
  exact rel_ite .rfl ⟨stored, rfl⟩
    ⟨stored, rfl, alike.channel, rfl, rfl, c.after stored (2 * l.window)⟩

/-- A report is queued on both stations, or lost on both. -/
theorem report (h : R s t) (scanner : Handle Scanner) (report : PresenceReport) :
    R (s.report scanner report) (t.report scanner report) :=
  rel_ite (by rw [(c.shares h).scanners]) (c.note h _) (c.onScanner h scanner _)

/-- The scanners announce the same devices. The induction is on the announcements. -/
theorem reports (h : R s t) (scanner : Handle Scanner) (all : List PresenceReport) :
    R (all.foldl (fun s r => s.report scanner r) s)
      (all.foldl (fun s r => s.report scanner r) t) := by
  induction all generalizing s t with
  | nil => exact h
  | cons first later ih => exact ih (c.report h scanner first)

/-- A presence scan starts alike. -/
theorem startListening (h : R s t) (scanner : Handle Scanner) (channel : UInt8) (window : Nat) :
    Concur R (Look.Agree (Listening.Alike far)) (s.startListening scanner channel window)
      (t.startListening scanner channel window) := by
  have asked := c.onScanner h scanner fun sc => sc.drain.ask channel window
  refine rel_ite (by rw [(c.shares h).mode]) ?_ ⟨h, rfl⟩
  dsimp only
  rw [← (c.shares asked).scanners]
  have announced := c.reports asked scanner ((s.onScanner scanner fun sc =>
    sc.drain.ask channel window).scanners.get scanner).announcements
  exact c.collect announced ⟨rfl, rfl, rfl, rfl, c.after announced 0⟩

/-- A presence scan goes on alike: it stalls on both stations, or on neither. -/
theorem checkListening (h : R s t) {l l' : Listening} (alike : l.Alike far l') :
    Concur R (Look.Agree (Listening.Alike far)) (s.checkListening l) (t.checkListening l') := by
  unfold Station.checkListening
  rw [← (c.shares h).scanners, ← alike.scanner, ← alike.channel]
  refine rel_ite .rfl (rel_ite (c.due h alike.deadline) ?_ ⟨h, alike⟩) (c.collect h alike)
  exact ⟨c.note h (.scanStalled l.channel), rfl⟩

/-- Both stations have the same current scanner. -/
theorem currentScanner (h : R s t) : Concur R Eq s.currentScanner t.currentScanner := by
  unfold Station.currentScanner
  rw [← (c.shares h).scanners]
  split
  · exact ⟨h, rfl⟩
  · exact ⟨c.setScanners h _, rfl⟩

end BurstLink.Station.Congruence
