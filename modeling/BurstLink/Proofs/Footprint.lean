import BurstLink.Proofs.Custody.Bench
import BurstLink.Proofs.Packets.Access

/-! # What the routines touch

Every routine touches a small part of the station. Each of the relations below names the part that
may differ, and says that everything else is the same.

Main definitions:

* **`Radio.Runs`** — the radio has run on: what it does, has noticed and was told by its
  surroundings may differ, but no register that is written by hand.
* **`Station.Gauges`** — only the radio, which has run on, the front end and the log may differ.
* **`Station.Hears`** — only the scanners and the log may differ.
* **`Station.Steers`** — anything may differ but the configuration and the scanners.

Main statements: a step, a task and switching off let the radio run on (`Radio.runs_service`,
`Radio.runs_trigger`, `Radio.Settles.runs`); measurements gauge, presence scans hear, and mode
switches, carriers and operations that are given up steer. -/

namespace BurstLink

/-! ## The radio -/

namespace Radio

variable {r r' r'' : Radio}

/-- The radio has run on. -/
def Runs (r r' : Radio) : Prop :=
  r' = { r with
    events := r'.events
    crcOk := r'.crcOk
    rssi := r'.rssi
    rssiRequested := r'.rssiRequested
    endCapture := r'.endCapture
    compare := r'.compare
    compareFired := r'.compareFired
    phase := r'.phase
    pending := r'.pending
    now := r'.now
    air := r'.air }

namespace Runs

/-- A radio that does nothing has run on. -/
@[refl] theorem refl (r : Radio) : r.Runs r := rfl

/-- Running on twice is running on. -/
theorem trans (h : r.Runs r') (h' : r'.Runs r'') : r.Runs r'' := by
  unfold Runs at h h' ⊢
  rw [h']
  rw [h]

/-- In either case the radio runs on. -/
theorem ite {c : Prop} [Decidable c] (h : r.Runs r') (h' : r.Runs r'') :
    r.Runs (if c then r' else r'') := by
  split <;> assumption

end Runs

/-- Switching off lets the radio run on. -/
theorem Settles.runs (h : r.Settles r') : r.Runs r' := by
  obtain ⟨phase, pending, events, -, rfl⟩ := h
  rfl

/-- The end of a frame writes phase, events and timer. -/
theorem runs_endFrame (idle : Phase) (r : Radio) : r.Runs (r.endFrame idle) :=
  .ite rfl rfl

/-- A transmission writes, besides, what is on air. -/
theorem runs_transmit (packet : Option Packet) (r : Radio) : r.Runs (r.transmit packet) := by
  cases packet with
  | none => exact r.runs_endFrame .txIdle
  | some p =>
    refine Runs.trans ?_ (runs_endFrame ..)
    exact rfl

/-- A reception writes, besides, signal strength and checksum. -/
theorem runs_receive (answer : Answer) (r : Radio) : r.Runs (r.receive answer) := by
  refine Runs.trans ?_ (runs_endFrame ..)
  exact rfl

/-- The acknowledgement timeout writes what a look for it finds. -/
theorem runs_ackTimeout (r : Radio) : r.Runs r.ackTimeout := by
  refine .ite (Runs.trans ?_ (switchOff_settles _).runs) rfl
  exact rfl

/-- A sample of the ambient signal is a reading, and no setting. -/
theorem runs_sampleAmbient (r : Radio) : r.Runs r.sampleAmbient := .ite rfl rfl

/-- The receiver comes up by itself. -/
theorem runs_rampUp (r : Radio) : r.Runs r.rampUp := .ite rfl rfl

/-- **A step lets the radio run on.** -/
theorem runs_service (packet : Option Packet) (r : Radio) : r.Runs (r.service packet).1 := by
  have unawaited : r.Runs { r with pending := none } := rfl
  unfold service
  split
  · rfl
  · unfold step
    split
    · exact r.settle_settles.runs
    · exact r.runs_transmit packet
    · exact r.runs_rampUp
    · split
      · exact r.runs_sampleAmbient
      · split
        · exact unawaited.trans (runs_ackTimeout _)
        · exact unawaited.trans (runs_receive ..)
    · exact r.runs_sampleAmbient
    all_goals rfl

/-- **A task lets the radio run on.** -/
theorem runs_trigger (task : RadioTask) (r : Radio) : r.Runs (r.trigger task) := by
  refine .ite ?_ rfl
  cases task with
  | txEnable => exact .ite (.ite rfl rfl) rfl
  | start =>
    dsimp only
    split <;> rfl
  | disable => exact r.requestDisable_settles.runs
  | _ => rfl

end Radio

/-! ## The station -/

namespace Station

variable {s t u : Station}

/-- Only the radio, which has run on, the front end and the log may differ. -/
structure Gauges (s t : Station) : Prop where
  rest : t = { s with radio := t.radio, frontEnd := t.frontEnd, journal := t.journal }
  radio : s.radio.Runs t.radio

namespace Gauges

/-- What touches nothing gauges. -/
@[refl] theorem refl (s : Station) : s.Gauges s := ⟨rfl, rfl⟩

/-- Gauging twice is gauging. -/
theorem trans (h : s.Gauges t) (h' : t.Gauges u) : s.Gauges u where
  rest := by
    rw [h'.rest]
    rw [h.rest]
  radio := h.radio.trans h'.radio

/-- Gauging leaves the link alone. -/
theorem link (h : s.Gauges t) : t.link = s.link := by rw [h.rest]

end Gauges

/-- A task of the radio. -/
theorem gauges_trigger (task : RadioTask) (s : Station) :
    s.Gauges (s.onRadio (Radio.trigger task)) := ⟨rfl, s.radio.runs_trigger task⟩

/-- Switching off by force touches the radio and the log. -/
theorem gauges_disableRadio (s : Station) : s.Gauges s.disableRadio.1 := by
  rw [s.disableRadio_eq]
  exact ⟨rfl, s.radio.forceOff_settles.runs⟩

/-- Taking the carrier off air touches, besides, the front end. -/
theorem gauges_stopTone (s : Station) : s.Gauges s.stopTone :=
  s.gauges_disableRadio.trans ⟨rfl, rfl⟩

/-- So does the end of a measurement. -/
theorem gauges_endMeasurement (s : Station) : s.Gauges s.endMeasurement :=
  s.gauges_disableRadio.trans ⟨rfl, rfl⟩

/-- A measurement that misses its event gauges. -/
theorem gauges_missEvent (awaited : Awaited) (s : Station) :
    s.Gauges (s.missEvent awaited).1 :=
  Gauges.trans (t := s.note _) ⟨rfl, rfl⟩ (gauges_endMeasurement _)

/-- So does one that waits for its sample, or takes it. -/
theorem gauges_awaitSample (channel : UInt8) (looks : Nat) (s : Station) :
    s.Gauges (s.awaitSample channel looks).1 := by
  cases looks with
  | zero => exact s.gauges_missEvent .sample
  | succ looks =>
    unfold awaitSample
    dsimp only
    split
    · have cleared : s.Gauges (s.onRadio (Radio.clearEvent .rssiEnd)) := ⟨rfl, rfl⟩
      refine (cleared.trans (gauges_trigger .rssiStop _)).trans ?_
      exact Gauges.trans (t := note _ _) ⟨rfl, rfl⟩ (gauges_endMeasurement _)
    · rfl

/-- So does one that waits for the receiver, or asks it for a sample. -/
theorem gauges_awaitReceiver (channel : UInt8) (looks : Nat) (s : Station) :
    s.Gauges (s.awaitReceiver channel looks).1 := by
  cases looks with
  | zero => exact s.gauges_missEvent .receiver
  | succ looks =>
    unfold awaitReceiver
    dsimp only
    split
    · have cleared : s.Gauges (s.onRadio (Radio.clearEvent .ready)) := ⟨rfl, rfl⟩
      exact (cleared.trans (gauges_trigger .rssiStart _)).trans (gauges_awaitSample ..)
    · rfl

/-- **A measurement that is looked at gauges.** -/
theorem gauges_checkMeasurement (m : Measurement) (s : Station) :
    s.Gauges (s.checkMeasurement m).1 := by
  unfold checkMeasurement
  split
  · split
    · exact gauges_awaitReceiver ..
    · exact gauges_awaitSample ..
  · rfl

/-- **A measurement that starts tunes the radio to its channel, and gauges.** Outside its mode it
does nothing. -/
theorem gauges_startMeasurement (channel : UInt8) (s : Station) :
    (s.startMeasurement channel).1 = s ∨ s.mode = .powerMeasurement ∧
      (s.onRadio (Radio.setChannel channel)).Gauges (s.startMeasurement channel).1 := by
  unfold startMeasurement
  split
  · rename_i mode
    refine .inr ⟨mode, Gauges.trans ?_ (gauges_awaitReceiver ..)⟩
    refine Gauges.trans ?_ (gauges_trigger .rxEnable _)
    exact ⟨rfl, rfl⟩
  · exact .inl rfl

/-- Only the scanners and the log may differ. -/
def Hears (s t : Station) : Prop := t = { s with scanners := t.scanners, journal := t.journal }

namespace Hears

/-- What touches nothing hears. -/
@[refl] theorem refl (s : Station) : s.Hears s := rfl

/-- Hearing twice is hearing. -/
theorem trans (h : s.Hears t) (h' : t.Hears u) : s.Hears u := by
  unfold Hears at h h' ⊢
  rw [h']
  rw [h]

/-- Hearing leaves the link alone. -/
theorem link (h : s.Hears t) : t.link = s.link := by
  unfold Hears at h
  rw [h]

end Hears

/-- A report is queued or lost, which touches a scanner or the log. -/
theorem hears_report (scanner : Handle Scanner) (report : PresenceReport) (s : Station) :
    s.Hears (s.report scanner report) := by
  unfold Station.report
  split <;> rfl

/-- Reports in a row. The induction is on the reports. -/
theorem hears_reports (scanner : Handle Scanner) (reports : List PresenceReport) (s : Station) :
    s.Hears (reports.foldl (fun s r => s.report scanner r) s) := by
  induction reports generalizing s with
  | nil => rfl
  | cons r reports ih => exact (hears_report scanner r s).trans (ih _)

/-- Reports that are taken. The induction is on the reports. -/
theorem hears_takeReports (queue : List PresenceReport) (found : List Detection) (s : Station) :
    s.Hears (takeReports queue found s).1 := by
  induction queue generalizing found s with
  | nil => rfl
  | cons r queue ih =>
    cases r with
    | done => rfl
    | detected d =>
      have sighted : s.Hears (s.sight d found).1 := by
        unfold sight
        dsimp only
        split <;> rfl
      exact sighted.trans (ih ..)

/-- Collecting takes reports off the queue of a scanner. -/
theorem hears_collect (l : BurstLink.Listening) (s : Station) : s.Hears (s.collect l).1 := by
  have taken := hears_takeReports (s.scanners.get l.scanner).queue l.found s
  unfold collect
  dsimp only
  split
  · exact taken.trans rfl
  · exact taken.trans rfl

/-- **A presence scan that is looked at hears.** -/
theorem hears_checkListening (l : BurstLink.Listening) (s : Station) :
    s.Hears (s.checkListening l).1 := by
  unfold checkListening
  split
  · split <;> rfl
  · exact hears_collect ..

/-- **A presence scan that starts hears.** Outside its mode it does nothing. -/
theorem hears_startListening (scanner : Handle Scanner) (channel : UInt8) (window : Nat)
    (s : Station) : (s.startListening scanner channel window).1 = s ∨ s.mode = .presenceScan ∧
      s.Hears (s.startListening scanner channel window).1 := by
  unfold startListening
  split
  · rename_i mode
    refine .inr ⟨mode, Hears.trans ?_ (hears_collect ..)⟩
    refine Hears.trans ?_ (hears_reports ..)
    exact rfl
  · exact .inl rfl

/-- Bringing the radio to rest leaves the link alone. -/
theorem link_forceIdle (config : LinkConfig) (s : Station) :
    (s.forceIdle config).link = s.link := by
  rw [forceIdle_eq_recover, s.disarm.disableRadio_eq]
  unfold recover
  dsimp only
  split <;> rfl

/-! ## Operations that steer the station -/

/-- Neither the configuration nor a scanner differs. -/
structure Steers (s t : Station) : Prop where
  config : t.link.config = s.link.config
  scanners : t.scanners = s.scanners

namespace Steers

/-- What touches nothing steers. -/
@[refl] theorem refl (s : Station) : s.Steers s := ⟨rfl, rfl⟩

/-- Steering twice is steering. -/
theorem trans (h : s.Steers t) (h' : t.Steers u) : s.Steers u :=
  ⟨h'.config.trans h.config, h'.scanners.trans h.scanners⟩

/-- In either case the station is steered. -/
theorem ite {c : Prop} [Decidable c] (h : s.Steers t) (h' : s.Steers u) :
    s.Steers (if c then t else u) := by
  split <;> assumption

end Steers

/-- Gauging leaves configuration and scanners alone. -/
theorem Gauges.steers (h : s.Gauges t) : s.Steers t :=
  ⟨congrArg Link.config h.link, by rw [h.rest]⟩

/-- Every mode leaves both alone when it takes the radio. -/
theorem Steers.enterMode (h : s.Steers t) (target : Mode) : s.Steers (t.enterMode target) := by
  refine h.trans ?_
  cases target <;> exact ⟨rfl, rfl⟩

/-- Taking the carrier off air steers. -/
theorem steers_stopTone (s : Station) : s.Steers s.stopTone := s.gauges_stopTone.steers

/-- The carrier mode gives the radio up without touching the configuration. -/
theorem steers_exitCarrierMode (s : Station) : s.Steers s.exitCarrierMode := by
  have silenced : s.Steers (if s.link.carrier then s.stopTone.setCarrierFlag false else s) :=
    .ite (s.steers_stopTone.trans ⟨rfl, rfl⟩) (.refl s)
  exact silenced.trans ⟨rfl, rfl⟩

/-- **A mode switch steers**, from its start to its end. -/
theorem steers_startSwitch (target : Mode) (s : Station) : s.Steers (s.startSwitch target).1 := by
  unfold startSwitch
  split
  · rfl
  · have noted : s.Steers (s.note (.modeChange s.mode target)) := ⟨rfl, rfl⟩
    dsimp only
    split
    · exact noted.enterMode target
    · exact ⟨rfl, rfl⟩
    · exact noted.enterMode target
    · exact (noted.trans (steers_exitCarrierMode _)).enterMode target
    · have off : s.Steers (s.note (.modeChange s.mode target)).exitPowerMode := ⟨rfl, rfl⟩
      exact off.enterMode target

/-- The rest of a mode switch does not touch the configuration either. -/
theorem steers_checkSwitch (t : Teardown) (s : Station) : s.Steers (s.checkSwitch t).1 := by
  have finished : s.Steers s.finishTeardown := ⟨rfl, rfl⟩
  unfold checkSwitch
  split
  · exact finished.enterMode t.target
  · rfl

/-- A carrier toggle touches the flag of the link, and not its configuration. -/
theorem steers_toggleCarrier (on : Bool) (s : Station) : s.Steers (s.toggleCarrier on).1 := by
  unfold toggleCarrier
  split
  · rfl
  · split
    · rfl
    · split
      · exact ⟨rfl, rfl⟩
      · exact s.steers_stopTone.trans ⟨rfl, rfl⟩

/-- So does putting the carrier on a channel. -/
theorem steers_startCarrier (channel : UInt8) (s : Station) :
    s.Steers (s.startCarrier channel).1 := by
  have silenced : s.Steers (if s.link.carrier then s.stopTone else s) :=
    .ite s.steers_stopTone (.refl s)
  unfold startCarrier
  split
  · exact silenced.trans ⟨rfl, rfl⟩
  · rfl

/-- So does taking it off air. -/
theorem steers_stopCarrier (s : Station) : s.Steers s.stopCarrier.1 := by
  unfold stopCarrier
  split
  · exact .ite (s.steers_stopTone.trans ⟨rfl, rfl⟩) (.refl s)
  · rfl

/-- Bringing an exchange to rest programs the radio with a configuration, and stores none. -/
theorem steers_forceIdle (config : LinkConfig) (s : Station) : s.Steers (s.forceIdle config) := by
  refine ⟨congrArg Link.config (link_forceIdle config s), ?_⟩
  rw [forceIdle_eq_recover, s.disarm.disableRadio_eq]
  unfold recover
  dsimp only
  split <;> rfl

/-- **An operation that is given up steers.** -/
theorem steers_drop (activity : Activity) (s : Station) : s.Steers (activity.drop s) := by
  cases activity with
  | sending f purpose => exact (steers_forceIdle ..).trans ⟨rfl, rfl⟩
  | measuring m => exact s.gauges_endMeasurement.steers.trans ⟨rfl, rfl⟩
  | _ => exact ⟨rfl, rfl⟩

end Station

end BurstLink
