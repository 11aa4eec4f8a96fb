import BurstLink.Proofs.Ownership.Tenure

/-! # One owner of the radio

At every moment between two looks the mode tells whose the radio is, even in the middle of a switch
and after a switch or a send was given up: nothing that belongs to one mode is left on in another.
As long as nobody writes the registers by hand this holds for every interleaving of operations,
even if the interrupt handler runs at odd times or somebody else switches the amplifiers.

Main definitions:

* **`Activity.Occupies`** — what an operation with the lock can rely on.
* **`Guard.tenure`** — the mode is the sole owner of the radio, and the operation can rely on that.

Main statement: `Station.AtStartUp.sole_of_run`. -/

namespace BurstLink

open Station

/-- What an operation with the lock can rely on: a send on the link being up, and every other
operation on its mode and on there being no exchange. -/
def Activity.Occupies (activity : Activity) (s : Station) : Prop :=
  match activity with
  | .sending .. => s.link.initialized = true ∧ s.link.carrier = false ∧
      (s.completed = true → s.transfer.state = .idle)
  | .switching _ => s.mode = .link ∧ s.link.initialized = false ∧ s.transfer.state = .idle
  | .measuring _ => s.mode = .powerMeasurement ∧ s.transfer.state = .idle
  | .listening _ => s.mode = .presenceScan ∧ s.transfer.state = .idle
  | .queued _ => True
  | .testing _ => True

/-- The mode is the sole owner of the radio; between operations there is no exchange. -/
def Guard.tenure : Guard where
  free s := s.tenure.Sole ∧ s.transfer.state = .idle
  held activity s := s.tenure.Sole ∧ activity.Occupies s

/-! ## Sends -/

/-- During a send the link owns the radio and no carrier is on air; when the exchange is complete it
is over for the interrupt handler, too. -/
theorem sendRule_tenure : SendRule (fun _ => True)
    (fun _ _ s => s.tenure.Sole ∧ s.transfer.state = .idle)
    fun _ s => s.tenure.Sole ∧ s.link.initialized = true ∧ s.link.carrier = false ∧
      (s.completed = true → s.transfer.state = .idle) where
  noted _ h := h
  drawn _ h := h
  tune _ h := h
  takeOff {packet ack s} ready h := by
    obtain ⟨up, quiet⟩ := s.ready_eq_ok_iff.mp ready
    have stamped : (s.stamped packet).tenure.Sole := h.1
    rw [takeOff_eq]
    refine ⟨sole_fly stamped up, ?_, ?_, ?_⟩
    · rw [link_fly]
      exact up
    · rw [link_fly]
      exact quiet
    · intro done
      rw [completed_fly] at done
      exact absurd done (by simp)
  finish done h := ⟨sole_finishExchange h.1, h.2.2.2 done⟩
  again {f s} notice _ _ h := by
    obtain ⟨sole, up, quiet, -⟩ := h
    -- an exchange that is finished hands the radio back, and the next attempt takes it again
    have finished : (s.finishExchange.note notice).tenure.Sole := sole_finishExchange sole
    refine ⟨sole_fly finished up, ?_, ?_, ?_⟩
    · rw [link_fly]
      exact up
    · rw [link_fly]
      exact quiet
    · intro done
      rw [completed_fly] at done
      exact absurd done (by simp)
  stuck {f s} notice _ _ h := by
    have noted : (s.note notice).tenure.Sole := h.1
    exact sole_forceIdle noted h.2.1 f.config

namespace Guard

variable {s : Station}

/-- An operation that sends occupies the radio. -/
theorem tenure_of_sends {found : Station × Progress}
    (h : SendRule.Sends (fun _ => True) (fun _ _ s => s.tenure.Sole ∧ s.transfer.state = .idle)
      (fun _ s => s.tenure.Sole ∧ s.link.initialized = true ∧ s.link.carrier = false ∧
        (s.completed = true → s.transfer.state = .idle)) found) :
    tenure.Leaves found :=
  h.leaves (fun _ occupied => occupied) fun rest => rest

/-! ## Switches -/

/-- What a mode switch leaves: a link that has stopped, or a new owner. -/
theorem tenure_ofSwitch {found : Station × Look Teardown Unit}
    (h : found.2.Meets (fun t => found.1.tenure.Sole ∧ (Activity.switching t).Occupies found.1)
      fun _ => found.1.tenure.Sole ∧ found.1.transfer.state = .idle) :
    tenure.Leaves (ofSwitch found) := by
  unfold Leaves ofSwitch asProgress
  rw [Look.meets_map]
  exact Look.Meets.imp h (fun _ occupied => ⟨rfl, occupied⟩) fun _ rest => rest

/-- A switch that starts vacates the old mode and enters the new one, or leaves the link to stop. -/
theorem tenure_startSwitch (sole : s.tenure.Sole) (idle : s.transfer.state = .idle)
    (target : Mode) : tenure.Leaves (ofSwitch (s.startSwitch target)) := by
  refine tenure_ofSwitch ?_
  unfold startSwitch
  split
  · exact ⟨sole, idle⟩
  -- the old mode is left, each in its own way; telling the log changes nothing
  have noted : (s.note (.modeChange s.mode target)).tenure.Sole := sole
  have still : (s.note (.modeChange s.mode target)).transfer.state = .idle := idle
  generalize s.note (.modeChange s.mode target) = t at noted still
  dsimp only
  split
  · rename_i current
    exact sole_enterMode (noted.vacated (.inl current) still) target
  · rename_i current
    exact ⟨sole_beginTeardown noted, current, rfl, still⟩
  · rename_i current
    exact sole_enterMode (noted.vacated (.inr current) still) target
  · rename_i current
    exact sole_enterMode (vacated_exitCarrierMode noted current still) target
  · rename_i current
    exact sole_enterMode (vacated_exitPowerMode noted current still) target

/-- A switch that is looked at enters the new mode, or leaves the link to stop. -/
theorem tenure_checkSwitch {t : Teardown} (sole : s.tenure.Sole)
    (occupies : (Activity.switching t).Occupies s) :
    tenure.Leaves (ofSwitch (s.checkSwitch t)) := by
  obtain ⟨mode, down, idle⟩ := occupies
  refine tenure_ofSwitch ?_
  unfold checkSwitch
  split
  · have quiet : s.link.carrier = false := by
      refine Bool.eq_false_iff.mpr fun on => ?_
      rcases sole.carrier on with other | ⟨-, up⟩
      · exact absurd (mode.symm.trans other) (by simp)
      · exact absurd (down.symm.trans up) (by simp)
    exact sole_enterMode (vacated_finishTeardown down quiet idle) t.target
  · exact ⟨sole, mode, down, idle⟩

/-! ## Measurements and presence scans -/

/-- A look that tells nothing else about the owner of the radio, by an operation that relies on its
mode only. -/
theorem tenure_asProgress {ω α : Type} {name : ω → Activity} (result : α → Result)
    {found : Station × Look ω α} (sole : s.tenure.Sole) (idle : s.transfer.state = .idle)
    (same : found.1.tenure = s.tenure)
    (waits : ∀ w, (name w).holdsLock = true ∧ ∀ t : Station, t.mode = s.mode →
      t.transfer.state = .idle → (name w).Occupies t) :
    tenure.Leaves (asProgress name result found) := by
  have sole' : found.1.tenure.Sole := by
    rw [same]
    exact sole
  have mode : found.1.mode = s.mode := congrArg Tenure.mode same
  have idle' : found.1.transfer.state = .idle := (congrArg Tenure.transfer same).trans idle
  exact leaves_asProgress result ⟨sole', idle'⟩ fun w =>
    ⟨(waits w).1, sole', (waits w).2 found.1 mode idle'⟩

/-- A measurement that is looked at. -/
theorem tenure_ofMeasurement {found : Station × MeasurementLook} (sole : s.tenure.Sole)
    (mode : s.mode = .powerMeasurement) (idle : s.transfer.state = .idle)
    (same : found.1.tenure = s.tenure) : tenure.Leaves (ofMeasurement found) :=
  tenure_asProgress _ sole idle same fun _ => ⟨rfl, fun _ mode' idle' => ⟨mode'.trans mode, idle'⟩⟩

/-- A presence scan that is looked at. -/
theorem tenure_ofListening {found : Station × ListeningLook} (sole : s.tenure.Sole)
    (mode : s.mode = .presenceScan) (idle : s.transfer.state = .idle)
    (same : found.1.tenure = s.tenure) : tenure.Leaves (ofListening found) :=
  tenure_asProgress _ sole idle same fun _ => ⟨rfl, fun _ mode' idle' => ⟨mode'.trans mode, idle'⟩⟩

/-- A measurement that starts keeps the owner there is, or is refused. -/
theorem tenure_startMeasurement (sole : s.tenure.Sole) (idle : s.transfer.state = .idle)
    (channel : UInt8) : tenure.Leaves (ofMeasurement (s.startMeasurement channel)) := by
  by_cases mode : s.mode = .powerMeasurement
  · rcases gauges_startMeasurement channel s with same | ⟨-, gauges⟩
    · exact tenure_ofMeasurement sole mode idle (congrArg Station.tenure same)
    · exact tenure_ofMeasurement sole mode idle gauges.tenure
  · unfold startMeasurement
    rw [if_neg mode]
    exact ⟨sole, idle⟩

/-- So does a presence scan. -/
theorem tenure_startListening (sole : s.tenure.Sole) (idle : s.transfer.state = .idle)
    (scanner : Handle Scanner) (channel : UInt8) (window : Nat) :
    tenure.Leaves (ofListening (s.startListening scanner channel window)) := by
  by_cases mode : s.mode = .presenceScan
  · rcases hears_startListening scanner channel window s with same | ⟨-, hears⟩
    · exact tenure_ofListening sole mode idle (congrArg Station.tenure same)
    · exact tenure_ofListening sole mode idle hears.tenure
  · unfold startListening
    rw [if_neg mode]
    exact ⟨sole, idle⟩

/-! ## Carriers -/

/-- A carrier is started by the owner of carrier mode alone. -/
theorem tenure_startCarrier (sole : s.tenure.Sole) (idle : s.transfer.state = .idle)
    (channel : UInt8) : (s.startCarrier channel).1.tenure.Sole ∧
      (s.startCarrier channel).1.transfer.state = .idle := by
  unfold startCarrier
  split
  · rename_i mode
    have stopped : (if s.link.carrier then s.stopTone else s).tenure = s.tenure := by
      split
      · exact s.gauges_stopTone.tenure
      · rfl
    generalize (if s.link.carrier then s.stopTone else s) = t at stopped
    have toned : (((t.onRadio (Radio.setChannel channel)).startTone.setCarrierFlag true).note
        (.carrierOn channel)).tenure = { s.tenure with carrier := true } := by
      have started := (t.onRadio (Radio.setChannel channel)).tenure_startTone.trans stopped
      exact congrArg (fun v : Tenure => { v with carrier := true }) started
    refine ⟨?_, (congrArg Tenure.transfer toned).trans idle⟩
    show (((t.onRadio (Radio.setChannel channel)).startTone.setCarrierFlag true).note
      _).tenure.Sole
    rw [toned]
    exact { sole with carrier := fun _ => .inl mode }
  · exact ⟨sole, idle⟩

/-- A carrier that stops leaves the owner there is. -/
theorem tenure_stopCarrier (sole : s.tenure.Sole) (idle : s.transfer.state = .idle) :
    s.stopCarrier.1.tenure.Sole ∧ s.stopCarrier.1.transfer.state = .idle := by
  unfold stopCarrier
  split
  · dsimp only
    split
    · have quiet : ((s.stopTone.setCarrierFlag false).note .carrierOff).tenure =
          { s.tenure with carrier := false } :=
        congrArg (fun v : Tenure => { v with carrier := false }) s.gauges_stopTone.tenure
      refine ⟨?_, (congrArg Tenure.transfer quiet).trans idle⟩
      rw [quiet]
      exact { sole with carrier := by simp }
    · exact ⟨sole, idle⟩
  · exact ⟨sole, idle⟩

/-! ## All operations -/

/-- An operation that starts leaves the radio to its owner, and occupies it or is over. -/
theorem tenure_start (sole : s.tenure.Sole) (idle : s.transfer.state = .idle) {request : Request}
    (needs : request.needsLock = true) : tenure.Leaves (s.start request) := by
  cases request with
  | switchMode mode => exact tenure_startSwitch sole idle mode
  | switchModeNamed name =>
    unfold start
    dsimp only
    split
    · exact tenure_startSwitch sole idle _
    · exact ⟨sole, idle⟩
  | readConfig => exact ⟨sole, idle⟩
  | configure config =>
    obtain ⟨stored, transfer⟩ := sole_storeConfig sole config
    exact ⟨stored, transfer ▸ idle⟩
  | change change =>
    obtain ⟨stored, transfer⟩ := sole_storeConfig sole (change.apply s.link.config)
    exact ⟨stored, transfer ▸ idle⟩
  | setPowerLevel level => exact ⟨sole, idle⟩
  | send packet ack =>
    exact tenure_of_sends (sendRule_tenure.startSend ⟨sole, idle⟩ false)
  | sendPayload bytes =>
    have between : (s.withBytes bytes).tenure.Sole ∧
        (s.withBytes bytes).transfer.state = .idle := ⟨sole, idle⟩
    exact tenure_of_sends (sendRule_tenure.startSend between true)
  | scanChannels first last bytes =>
    show tenure.Leaves (ofScan (s.startScan first last bytes))
    have between : s.ready = .ok () →
        (s.withBytes bytes).tenure.Sole ∧ (s.withBytes bytes).transfer.state = .idle :=
      fun _ => ⟨sole, idle⟩
    rcases sendRule_tenure.startScan (fun _ _ => trivial) between with ⟨failure, refused, -⟩ | scans
    · rw [refused]
      exact ⟨sole, idle⟩
    · exact tenure_of_sends (SendRule.sends_ofScan scans)
  | toggleCarrier on =>
    obtain ⟨toggled, transfer⟩ := sole_toggleCarrier sole on
    exact ⟨toggled, transfer ▸ idle⟩
  | startCarrier channel => exact tenure_startCarrier sole idle channel
  | stopCarrier => exact tenure_stopCarrier sole idle
  | measureRssi channel => exact tenure_startMeasurement sole idle channel
  | scanPresence scanner channel window =>
    exact tenure_startListening sole idle scanner channel window
  | testAmplifiers => exact absurd needs (by simp [Request.needsLock])

/-- An operation that is given up leaves the radio to its owner. -/
theorem tenure_drop {activity : Activity} (holds : activity.holdsLock = true)
    (sole : s.tenure.Sole) (occupies : activity.Occupies s) :
    tenure.free (activity.drop s) := by
  cases activity with
  | queued => exact absurd holds (by simp [Activity.holdsLock])
  | testing => exact absurd holds (by simp [Activity.holdsLock])
  | sending f purpose => exact sole_forceIdle sole occupies.1 f.config
  | switching t => exact ⟨sole, occupies.2.2⟩
  | measuring m =>
    have ended := s.gauges_endMeasurement.tenure
    exact ⟨ended ▸ sole, (congrArg Tenure.transfer ended).trans occupies.2⟩
  | listening l => exact ⟨sole, occupies.2⟩

/-! ## Beside the operations -/

/-- What happens beside the operations leaves the radio to its owner, starts no exchange, and takes
nothing from the operation with the lock. -/
theorem tenure_aside {t : Station} (beside : s.Aside False t) (sole : s.tenure.Sole) :
    t.tenure.Sole ∧ (s.transfer.state = .idle → t.transfer.state = .idle) ∧
      ∀ activity : Activity, activity.Occupies s → activity.Occupies t := by
  -- what touches neither the tenure nor the sign of completion touches nothing that matters here
  have still : t.tenure = s.tenure → t.completed = s.completed → t.tenure.Sole ∧
      (s.transfer.state = .idle → t.transfer.state = .idle) ∧
      ∀ activity : Activity, activity.Occupies s → activity.Occupies t := by
    intro same completed
    have mode : t.mode = s.mode := congrArg Tenure.mode same
    have transfer : t.transfer.state = s.transfer.state := congrArg Tenure.transfer same
    have initialized : t.link.initialized = s.link.initialized := congrArg Tenure.initialized same
    have carrier : t.link.carrier = s.link.carrier := congrArg Tenure.carrier same
    have sole' : t.tenure.Sole := by
      rw [same]
      exact sole
    refine ⟨sole', fun idle => transfer.trans idle, ?_⟩
    intro activity occupies
    unfold Activity.Occupies at occupies ⊢
    rw [mode, transfer, initialized, carrier, completed]
    exact occupies
  cases beside with
  | surroundings => exact still rfl rfl
  | addBuffer packet => exact still rfl rfl
  | settle => exact still (tenure_of_runs rfl s.radio.settle_settles.runs) rfl
  | serviceRadio =>
    refine still s.tenure_serviceRadio ?_
    obtain ⟨buffers, same⟩ := s.serviceRadio_eq
    rw [same]
  | access f may => exact absurd may id
  | releaseBuffers =>
    refine ⟨sole_releaseBuffers sole, ?_, ?_⟩
    · intro idle
      rw [releaseBuffers, if_pos idle]
      exact idle
    · intro activity occupies
      unfold releaseBuffers
      split <;> exact occupies
  | handleInterrupt =>
    by_cases idle : s.transfer.state = .idle
    · exact still (tenure_handleInterrupt idle).1 (tenure_handleInterrupt idle).2
    -- an exchange is in progress, so the operation with the lock is the send
    · refine ⟨sole_handleInterrupt sole, fun quiet => absurd quiet idle, ?_⟩
      intro activity occupies
      cases activity with
      | sending f purpose =>
        obtain ⟨up, quiet, settled⟩ := occupies
        have link := s.handleInterrupt_spares.2.2
        refine ⟨by rw [link]; exact up, by rw [link]; exact quiet, ?_⟩
        exact idle_of_handleInterrupt fun done => idle (settled done)
      | switching t => exact absurd occupies.2.2 idle
      | measuring m => exact absurd occupies.2 idle
      | listening l => exact absurd occupies.2 idle
      | queued => trivial
      | testing => trivial

/-- **The mode stays the sole owner**, as long as nobody reaches into the registers by hand. -/
theorem tenure_kept : tenure.Kept False where
  start h _ needs := tenure_start h.1 h.2 needs
  checkSend {_ _ purpose} h := tenure_of_sends (sendRule_tenure.checkSend h purpose.within_true)
  checkSwitch h := tenure_checkSwitch h.1 h.2
  checkMeasurement h :=
    tenure_ofMeasurement h.1 h.2.1 h.2.2 (gauges_checkMeasurement ..).tenure
  checkListening h := tenure_ofListening h.1 h.2.1 h.2.2 (hears_checkListening ..).tenure
  drop holds h := tenure_drop holds h.1 h.2
  free_aside beside h := ⟨(tenure_aside beside h.1).1, (tenure_aside beside h.1).2.1 h.2⟩
  held_aside beside h := ⟨(tenure_aside beside h.1).1, (tenure_aside beside h.1).2.2 _ h.2⟩

end Guard

/-- At start-up nobody owns the radio. -/
theorem Bench.guarded_tenure_startUp {s : Station} (start : s.AtStartUp) :
    (ofStation s).GuardedBy .tenure := by
  obtain ⟨draws, rfl | rfl⟩ := start
  · exact ⟨none, rfl, rfl, ⟨by constructor <;> simp [tenure, ofStation, withFrontEnd], rfl⟩⟩
  · exact ⟨none, rfl, rfl, ⟨by constructor <;> simp [tenure, ofStation, withoutFrontEnd], rfl⟩⟩

/-- On every reachable bench the mode is the sole owner, and there is no exchange while the lock is
free. -/
theorem Bench.Reachable.guarded_tenure {b : Bench} (h : b.Reachable) : b.GuardedBy .tenure :=
  h.induct (fun _ start => guarded_tenure_startUp start) fun _ guarded _ regular =>
    Guard.tenure_kept.make guarded regular.handsOff.simple (.inr regular.handsOff)

/-- **The mode is the sole owner of the radio.** After every run in which nobody writes the
registers by hand, whether the lock is free or held, the radio has power exactly in the modes that
use it; the timer counts and the packet format is set exactly in the mode of the link, which alone
can be up, can have the interrupt enabled and an exchange in progress; a carrier is on air only in
the carrier mode or while the link is up; and the carrier mode and the link have each their own
transmission power. -/
theorem Station.AtStartUp.sole_of_run {s : Station} (start : s.AtStartUp) (moves : List Move)
    (handsOff : ∀ move ∈ moves, move.HandsOff) :
    ((Bench.ofStation s).after moves).station.tenure.Sole := by
  have simple : ∀ move ∈ moves, move.Simple := fun move member => (handsOff move member).simple
  have guarded := Guard.tenure_kept.after (Bench.guarded_tenure_startUp start) moves simple
    fun move member => .inr (handsOff move member)
  exact guarded.elim (p := fun t => t.tenure.Sole) (fun free => free.1) fun held => held.1

/-- A switch away from the link that is given up half-way leaves a link that is not up and still
owns the radio. -/
theorem Bench.sole_of_switch_given_up :
    let moves : List Move := [.ask none (.request (.switchMode .link)), .look 0,
      .ask none (.request (.toggleCarrier true)), .look 0,
      .ask none (.request (.switchMode .carrier)), .look 0, .giveUp 0]
    let t := ((Bench.ofStation (.withFrontEnd .zeros)).after moves).station
    (∀ move ∈ moves, move.HandsOff) ∧ t.mode = .link ∧ t.link.initialized = false ∧
      t.radio.powered = true ∧ t.tenure.Sole := by
  intro moves t
  have handsOff : ∀ move ∈ moves, move.HandsOff := by decide
  exact ⟨handsOff, by decide +kernel, by decide +kernel, by decide +kernel,
    Station.AtStartUp.sole_of_run ⟨.zeros, .inl rfl⟩ moves handsOff⟩

end BurstLink
