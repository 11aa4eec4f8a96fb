import BurstLink.Proofs.Custody.Modes
import BurstLink.Proofs.Custody.Requests

/-! # What leaves packets alone

Only sends touch packets, identifiers and the transmission history. This module says so for
everything else that operations are made of.

Main definition: **`Station.Spares`** — from one station to another one no packet was sent.

Main statements: `Station.spares_forceIdle`, `Station.spares_startSwitch`,
`Station.spares_checkMeasurement`, `Station.spares_checkListening`, and one such lemma for every
other routine that is not a send. -/

namespace BurstLink

/-! ## The radio -/

namespace Radio

variable {r r' : Radio}

/-- Switching off leaves the surroundings alone. -/
theorem Settles.air (h : r.Settles r') : r'.air = r.air := by
  obtain ⟨_, _, _, -, rfl⟩ := h
  rfl

/-- A task changes the phase, the pending response, the events and the request for a sample, and it
may take a response from the script. -/
theorem trigger_eq (task : RadioTask) (r : Radio) :
    ∃ phase pending events requested air, (air = r.air ∨ air = r.air.nextResponse.2) ∧
      r.trigger task = { r with
        phase := phase
        pending := pending
        events := events
        rssiRequested := requested
        air := air } := by
  unfold trigger
  split
  · cases task with
    | txEnable =>
      unfold enableTx
      dsimp only
      split
      · -- Whether the response hangs the radio or not, it is off the script.
        split
        · exact ⟨_, _, _, _, _, .inr rfl, rfl⟩
        · exact ⟨_, _, _, _, _, .inr rfl, rfl⟩
      · exact ⟨_, _, _, _, _, .inl rfl, rfl⟩
    | rxEnable => exact ⟨_, _, _, _, _, .inl rfl, rfl⟩
    | start =>
      dsimp only
      split
      · exact ⟨_, _, _, _, _, .inl rfl, rfl⟩
      · exact ⟨_, _, _, _, _, .inl rfl, rfl⟩
      · exact ⟨_, _, _, _, _, .inl rfl, rfl⟩
    | disable =>
      obtain ⟨phase, pending, events, -, same⟩ := r.requestDisable_settles
      exact ⟨phase, pending, events, _, _, .inl rfl, same⟩
    | rssiStart => exact ⟨_, _, _, _, _, .inl rfl, rfl⟩
    | rssiStop => exact ⟨_, _, _, _, _, .inl rfl, rfl⟩
  · exact ⟨_, _, _, _, _, .inl rfl, rfl⟩

/-- A task records nothing: what is sent is recorded when it leaves. -/
theorem history_trigger (task : RadioTask) (r : Radio) :
    (r.trigger task).air.history = r.air.history := by
  obtain ⟨_, _, _, _, air, taken, same⟩ := r.trigger_eq task
  rw [same]
  rcases taken with rfl | rfl
  · rfl
  · exact r.air.history_nextResponse

end Radio

namespace Station

variable {s t u : Station}

/-- From the first station to the second one no packet was sent: the packets that there were, the
identifier of the next send and the transmission history are the same, and no exchange has become
complete. -/
structure Spares (s t : Station) : Prop where
  packets : ∀ b : Buffer, b.index < s.buffers.count → t.buffers.get b = s.buffers.get b
  count : s.buffers.count ≤ t.buffers.count
  pid : t.link.pid = s.link.pid
  history : t.radio.air.history = s.radio.air.history
  completed : t.completed = true → s.completed = true

namespace Spares

/-- What does nothing spares everything. -/
@[refl] theorem refl (s : Station) : s.Spares s :=
  ⟨fun _ _ => rfl, Nat.le_refl _, rfl, rfl, id⟩

/-- What spares twice spares: no packet is touched by either change. -/
theorem trans (h : s.Spares t) (h' : t.Spares u) : s.Spares u where
  packets b known :=
    (h'.packets b (Nat.lt_of_lt_of_le known h.count)).trans (h.packets b known)
  count := Nat.le_trans h.count h'.count
  pid := h'.pid.trans h.pid
  history := h'.history.trans h.history
  completed := h.completed ∘ h'.completed

/-- A sign of completion that is down stays down. -/
theorem down (h : s.Spares t) (off : s.completed = false) : t.completed = false := by
  cases on : t.completed with
  | false => rfl
  | true => exact absurd ((h.completed on).symm.trans off) (by simp)

/-- Nothing was added to the buffers either. -/
theorem of_eq (buffers : t.buffers = s.buffers) (pid : t.link.pid = s.link.pid)
    (history : t.radio.air.history = s.radio.air.history)
    (completed : t.completed = s.completed ∨ t.completed = false) : s.Spares t where
  packets b _ := by rw [buffers]
  count := Nat.le_of_eq (congrArg Pool.count buffers.symm)
  pid := pid
  history := history
  completed on := by
    rcases completed with same | off
    · exact same.symm.trans on
    · exact absurd (on.symm.trans off) (by simp)

/-- In either case everything is spared. -/
theorem ite {c : Prop} [Decidable c] (h : s.Spares t) (h' : s.Spares u) :
    s.Spares (if c then t else u) := by
  split <;> assumption

end Spares

/-! ## Small changes -/

/-- The log has nothing to do with packets. -/
theorem spares_note (notice : Notice) (s : Station) : s.Spares (s.note notice) :=
  .of_eq rfl rfl rfl (.inl rfl)

/-- Neither has the lock. -/
theorem spares_setLocked (locked : Bool) (s : Station) : s.Spares (s.setLocked locked) :=
  .of_eq rfl rfl rfl (.inl rfl)

/-- Neither has the front end. -/
theorem spares_onFrontEnd (f : FrontEnd → FrontEnd) (s : Station) : s.Spares (s.onFrontEnd f) :=
  .of_eq rfl rfl rfl (.inl rfl)

/-- Neither have the scanners. -/
theorem spares_onScanner (scanner : Handle Scanner) (f : Scanner → Scanner) (s : Station) :
    s.Spares (s.onScanner scanner f) :=
  .of_eq rfl rfl rfl (.inl rfl)

/-- A change of the radio that records nothing. -/
theorem spares_onRadio {f : Radio → Radio} (s : Station)
    (same : (f s.radio).air.history = s.radio.air.history) : s.Spares (s.onRadio f) :=
  .of_eq rfl rfl same (.inl rfl)

/-- A change of the link that leaves the identifier of the next send alone. -/
theorem spares_onLink {f : Link → Link} (s : Station) (same : (f s.link).pid = s.link.pid) :
    s.Spares (s.onLink f) :=
  .of_eq rfl same rfl (.inl rfl)

/-- Neither has the mode. -/
theorem spares_setMode (mode : Mode) (s : Station) : s.Spares { s with mode := mode } :=
  .of_eq rfl rfl rfl (.inl rfl)

/-- A new buffer is none of those that there were. -/
theorem spares_addBuffer (packet : Packet) (s : Station) :
    s.Spares { s with buffers := (s.buffers.add packet).1 } where
  packets _ known := Pool.get_add_of_ne _ (Pool.add_fresh _ packet known).symm
  count := Nat.le_succ _
  pid := rfl
  history := rfl
  completed := id

/-- Handing buffers back leaves the packets in them as they are. -/
theorem spares_releaseBuffers (s : Station) : s.Spares s.releaseBuffers := by
  unfold releaseBuffers
  exact .ite (s.spares_onRadio rfl) (.refl s)

/-! ## Radio and link -/

/-- Switching off by force sends nothing. -/
theorem spares_disableRadio (s : Station) : s.Spares s.disableRadio.1 := by
  rw [s.disableRadio_eq]
  exact .of_eq rfl rfl (congrArg Air.history s.radio.forceOff_settles.air) (.inl rfl)

/-- The link comes up without a packet. -/
theorem spares_bringUp (s : Station) : s.Spares s.bringUp :=
  .of_eq rfl rfl rfl (.inr rfl)

/-- The link stops without a packet. -/
theorem spares_beginTeardown (s : Station) : s.Spares s.beginTeardown :=
  .of_eq rfl rfl (Radio.history_trigger .disable (s.radio.setInterrupt false)) (.inl rfl)

/-- The link goes down without a packet. -/
theorem spares_finishTeardown (s : Station) : s.Spares s.finishTeardown :=
  .of_eq rfl rfl rfl (.inr rfl)

/-- **Bringing the station to rest sends nothing**, even if the radio has to be power cycled. -/
theorem spares_forceIdle (config : LinkConfig) (s : Station) : s.Spares (s.forceIdle config) := by
  have disarmed : s.Spares s.disarm := s.spares_onRadio rfl
  rw [forceIdle_eq_recover]
  refine (disarmed.trans s.disarm.spares_disableRadio).trans ?_
  generalize s.disarm.disableRadio = found
  unfold recover
  dsimp only
  split
  · exact .of_eq rfl rfl rfl (.inr rfl)
  · exact .of_eq rfl rfl rfl (.inr rfl)

/-- A configuration is stored and applied without a packet. -/
theorem spares_storeConfig (config : LinkConfig) (s : Station) :
    s.Spares (s.storeConfig config) := by
  have stored : s.Spares (s.onLink fun link => { link with config := config }) :=
    s.spares_onLink rfl
  exact stored.trans (.ite (.of_eq rfl rfl rfl (.inl rfl)) (.refl _))

/-! ## Modes -/

/-- The carrier is put on air without a packet. -/
theorem spares_startTone (s : Station) : s.Spares s.startTone :=
  .of_eq rfl rfl (Radio.history_trigger .txEnable (s.radio.setShorts .none)) (.inl rfl)

/-- The carrier is taken off air without a packet. -/
theorem spares_stopTone (s : Station) : s.Spares s.stopTone :=
  s.spares_disableRadio.trans (spares_onFrontEnd ..)

/-- The carrier flag has nothing to do with packets. -/
theorem spares_setCarrierFlag (on : Bool) (s : Station) : s.Spares (s.setCarrierFlag on) :=
  s.spares_onLink rfl

/-- **No mode sends anything by taking the radio.** -/
theorem spares_enterMode (mode : Mode) (s : Station) : s.Spares (s.enterMode mode) := by
  have named := s.spares_setMode mode
  cases mode with
  | disabled => exact named
  | link => exact named.trans (spares_bringUp _)
  | presenceScan => exact named
  | carrier => exact named.trans (.of_eq rfl rfl rfl (.inl rfl))
  | powerMeasurement => exact named.trans (.of_eq rfl rfl rfl (.inl rfl))

/-- The carrier mode gives the radio up without a packet. -/
theorem spares_exitCarrierMode (s : Station) : s.Spares s.exitCarrierMode := by
  have stopped : s.Spares (s.stopTone.setCarrierFlag false) :=
    s.spares_stopTone.trans (spares_setCarrierFlag ..)
  exact (Spares.ite stopped (.refl s)).trans (spares_onRadio _ rfl)

/-- So does the power measurement mode. -/
theorem spares_exitPowerMode (s : Station) : s.Spares s.exitPowerMode :=
  s.spares_onRadio (Radio.history_trigger .disable s.radio)

/-- No packet is touched by the start of a mode switch. -/
theorem spares_startSwitch (target : Mode) (s : Station) :
    s.Spares (s.startSwitch target).1 := by
  unfold startSwitch
  split
  · rfl
  · refine (s.spares_note (.modeChange s.mode target)).trans ?_
    generalize s.note (.modeChange s.mode target) = noted
    dsimp only
    split
    · exact spares_enterMode ..
    · exact spares_beginTeardown _
    · exact spares_enterMode ..
    · exact noted.spares_exitCarrierMode.trans (spares_enterMode ..)
    · exact noted.spares_exitPowerMode.trans (spares_enterMode ..)

/-- Nor is one by the rest of it. -/
theorem spares_checkSwitch (waiting : Teardown) (s : Station) :
    s.Spares (s.checkSwitch waiting).1 := by
  unfold checkSwitch
  split
  · exact s.spares_finishTeardown.trans (spares_enterMode ..)
  · rfl

/-- A carrier toggle touches no packet. -/
theorem spares_toggleCarrier (on : Bool) (s : Station) : s.Spares (s.toggleCarrier on).1 := by
  unfold toggleCarrier
  split
  · rfl
  · split
    · rfl
    · split
      · exact s.spares_startTone.trans ((spares_note ..).trans (spares_setCarrierFlag ..))
      · exact s.spares_stopTone.trans ((spares_onRadio _ rfl).trans
          ((spares_note ..).trans (spares_setCarrierFlag ..)))

/-- Nor does a carrier on a channel. -/
theorem spares_startCarrier (channel : UInt8) (s : Station) :
    s.Spares (s.startCarrier channel).1 := by
  unfold startCarrier
  split
  · have silent : s.Spares (if s.link.carrier then s.stopTone else s) :=
      .ite s.spares_stopTone (.refl s)
    refine silent.trans ?_
    generalize (if s.link.carrier then s.stopTone else s) = here
    have tuned : here.Spares (here.onRadio (Radio.setChannel channel)) := here.spares_onRadio rfl
    exact tuned.trans ((spares_startTone _).trans
      ((spares_setCarrierFlag ..).trans (spares_note ..)))
  · rfl

/-- Nor does its end. -/
theorem spares_stopCarrier (s : Station) : s.Spares s.stopCarrier.1 := by
  unfold stopCarrier
  split
  · exact .ite (s.spares_stopTone.trans ((spares_setCarrierFlag ..).trans (spares_note ..)))
      (.refl s)
  · rfl

/-! ## Measurements -/

/-- The end of a measurement touches no packet. -/
theorem spares_endMeasurement (s : Station) : s.Spares s.endMeasurement :=
  s.spares_disableRadio.trans (spares_onFrontEnd ..)

/-- Nor does a measurement that misses its event. -/
theorem spares_missEvent (awaited : Awaited) (s : Station) : s.Spares (s.missEvent awaited).1 :=
  (s.spares_note _).trans (spares_endMeasurement _)

/-- Nor does one that waits for its sample, or takes it. -/
theorem spares_awaitSample (channel : UInt8) (looks : Nat) (s : Station) :
    s.Spares (s.awaitSample channel looks).1 := by
  cases looks with
  | zero => exact s.spares_missEvent .sample
  | succ looks =>
    unfold awaitSample
    dsimp only
    split
    · have taken : s.Spares (s.onRadio (Radio.clearEvent .rssiEnd)) := s.spares_onRadio rfl
      exact taken.trans ((spares_onRadio _ (Radio.history_trigger ..)).trans
        ((spares_note ..).trans (spares_endMeasurement _)))
    · rfl

/-- Nor does one that waits for the receiver, or asks it for a sample. -/
theorem spares_awaitReceiver (channel : UInt8) (looks : Nat) (s : Station) :
    s.Spares (s.awaitReceiver channel looks).1 := by
  cases looks with
  | zero => exact s.spares_missEvent .receiver
  | succ looks =>
    unfold awaitReceiver
    dsimp only
    split
    · have asked : s.Spares (s.onRadio fun r => (r.clearEvent .ready).trigger .rssiStart) :=
        s.spares_onRadio (Radio.history_trigger ..)
      exact asked.trans (spares_awaitSample ..)
    · rfl

/-- Nor does the start of a measurement. -/
theorem spares_startMeasurement (channel : UInt8) (s : Station) :
    s.Spares (s.startMeasurement channel).1 := by
  unfold startMeasurement
  split
  · have tuned : s.Spares (s.onRadio fun r =>
        ((r.setChannel channel).clearEvent .ready).clearEvent .rssiEnd) := s.spares_onRadio rfl
    exact tuned.trans ((spares_onFrontEnd ..).trans
      ((spares_onRadio _ (Radio.history_trigger ..)).trans (spares_awaitReceiver ..)))
  · rfl

/-- Nor does a look at one. -/
theorem spares_checkMeasurement (m : Measurement) (s : Station) :
    s.Spares (s.checkMeasurement m).1 := by
  unfold checkMeasurement
  split
  · split
    · exact spares_awaitReceiver ..
    · exact spares_awaitSample ..
  · rfl

/-! ## Listening -/

/-- A report to a scanner is no packet of the link. -/
theorem spares_report (scanner : Handle Scanner) (report : PresenceReport) (s : Station) :
    s.Spares (s.report scanner report) :=
  .ite (spares_note ..) (spares_onScanner ..)

/-- Taking reports tells the log at most. The induction is on the reports. -/
theorem spares_takeReports (reports : List PresenceReport) (found : List Detection) (s : Station) :
    s.Spares (s.takeReports reports found).1 := by
  induction reports generalizing found s with
  | nil => rfl
  | cons report later ih =>
    cases report with
    | done => rfl
    | detected d =>
      have sighted : s.Spares (s.sight d found).1 := .ite (spares_note ..) (.refl s)
      exact sighted.trans (ih ..)

/-- Collecting reports touches no packet. -/
theorem spares_collect (l : Listening) (s : Station) : s.Spares (s.collect l).1 := by
  have taken : s.Spares (s.takeReports (s.scanners.get l.scanner).queue l.found).1 :=
    spares_takeReports ..
  unfold collect
  dsimp only
  split
  · exact taken.trans (spares_onScanner ..)
  · exact taken.trans (spares_onScanner ..)

/-- Nor does the start of a presence scan. -/
theorem spares_startListening (scanner : Handle Scanner) (channel : UInt8) (window : Nat)
    (s : Station) : s.Spares (s.startListening scanner channel window).1 := by
  have heard : ∀ (reports : List PresenceReport) (s : Station),
      s.Spares (reports.foldl (fun s r => s.report scanner r) s) := by
    intro reports
    induction reports with
    | nil => exact .refl
    | cons report later ih => exact fun s => (spares_report ..).trans (ih _)
  unfold startListening
  split
  · exact (spares_onScanner ..).trans ((heard ..).trans (spares_collect ..))
  · rfl

/-- Nor does a look at one. -/
theorem spares_checkListening (l : Listening) (s : Station) :
    s.Spares (s.checkListening l).1 := by
  unfold checkListening
  split
  · split
    · exact spares_note ..
    · rfl
  · exact spares_collect ..

end Station

end BurstLink
