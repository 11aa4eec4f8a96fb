import BurstLink.Bench.Jobs
import BurstLink.Link.Transfer
import BurstLink.Proofs.Congruence.Sends

/-! # Operations under a congruence

What operations are made of keeps a congruence, so their looks do, and so does giving them up. The
interrupt handler keeps it, too; a step of the radio is not made of small changes, so a relation has
to show for itself that it survives one.

Operations that bring packets along get new buffers for them. Whether those belong together is up to
the relation; between stations with the same buffers they always do.

Main definitions:

* **`Activity.isTest`** — the front-end test, the one operation that reads the front end.
* **`Station.ExactCongruence`** — a congruence of stations with the same buffers and the same clock.

Main statements: `Station.Congruence.start`, `Station.Congruence.poll`, `Station.Congruence.drop`,
`Station.Congruence.pump`, and `Station.ExactCongruence.poll`. -/

namespace BurstLink

/-- The activity is a front-end test. -/
def Activity.isTest : Activity → Bool
  | .queued .testAmplifiers => true
  | .testing _ => true
  | _ => false

namespace Station

/-! ## Looks under another name -/

section Concur

variable {R : Station → Station → Prop} {ω α : Type}

/-- Looks at something taken as looks at an operation. -/
theorem Concur.asProgress {goesOn : ω → ω → Prop} {goesOn' : Activity → Activity → Prop}
    {found found' : Station × Look ω α} (h : Concur R (Look.Agree goesOn) found found')
    (activity : ω → Activity) (result : α → Result)
    (named : ∀ rest rest', goesOn rest rest' → goesOn' (activity rest) (activity rest')) :
    Concur R (Look.Agree goesOn') (asProgress activity result found)
      (asProgress activity result found') :=
  ⟨h.stations, h.found.map result named⟩

/-- An answer that is there at once. -/
theorem Concur.asAnswer {goesOn : Activity → Activity → Prop}
    {found found' : Station × Except Failure α} (h : Concur R Eq found found')
    (reply : α → Reply) :
    Concur R (Look.Agree goesOn) (asAnswer reply found) (asAnswer reply found') :=
  ⟨h.stations, congrArg (Except.map reply) h.found⟩

end Concur

/-! ## Operations -/

namespace Congruence

variable {pair : Buffer → Buffer → Prop} {far : Nat → Nat → Prop} {R : Station → Station → Prop}

section Progress

variable {found found' : Station × Progress}

/-- Switches that are looked at alike go on, or end, alike as operations. -/
theorem ofSwitch {found found' : Station × Look Teardown Unit}
    (h : Concur R (Look.Agree (Teardown.Alike far)) found found') :
    Concur R (Look.Agree (Activity.Alike pair far)) (ofSwitch found) (ofSwitch found') :=
  h.asProgress _ _ fun _ _ alike => .switching alike

/-- The same of measurements. -/
theorem ofMeasurement {found found' : Station × MeasurementLook}
    (h : Concur R (Look.Agree (Measurement.Alike far)) found found') :
    Concur R (Look.Agree (Activity.Alike pair far)) (ofMeasurement found)
      (ofMeasurement found') :=
  h.asProgress _ _ fun _ _ alike => .measuring alike

/-- The same of presence scans. -/
theorem ofListening {found found' : Station × ListeningLook}
    (h : Concur R (Look.Agree (Listening.Alike far)) found found') :
    Concur R (Look.Agree (Activity.Alike pair far)) (ofListening found) (ofListening found') :=
  h.asProgress _ _ fun _ _ alike => .listening alike

/-- The same of channel scans. -/
theorem ofScan {found found' : Station × ScanLook}
    (h : Concur R (Look.Agree (ChannelScan.Alike pair far)) found found') :
    Concur R (Look.Agree (Activity.Alike pair far)) (ofScan found) (ofScan found') :=
  h.asProgress _ _ fun _ _ alike => alike.scan ▸ .sending alike.flight _

end Progress

variable (c : Congruence pair far R) {s t : Station} {goesOn : Activity → Activity → Prop}
include c

/-- What a look leaves decides about the lock on both stations. -/
theorem withLock {found found' : Station × Progress}
    (h : Concur R (Look.Agree goesOn) found found')
    (locks : ∀ rest rest', goesOn rest rest' → rest.holdsLock = rest'.holdsLock) :
    Concur R (Look.Agree goesOn) (withLock found) (withLock found') := by
  obtain ⟨u, progress⟩ := found
  obtain ⟨v, progress'⟩ := found'
  have same : progress.holdsLock = progress'.holdsLock := by
    rcases progress with rest | result <;> rcases progress' with rest' | result'
    · exact locks rest rest' h.found
    · exact absurd h.found id
    · exact absurd h.found id
    · rfl
  refine ⟨?_, h.found⟩
  unfold Station.withLock
  rw [← same]
  exact c.setLocked h.stations _

/-- **A request that puts no packet on air starts alike.** -/
theorem start (h : R s t) {request : Request} (silent : ¬request.Transmits)
    (needs : request.needsLock = true) :
    Concur R (Look.Agree (Activity.Alike pair far)) (s.start request) (t.start request) := by
  cases request with
  | switchMode mode => exact ofSwitch (c.startSwitch h mode)
  | switchModeNamed name =>
    unfold Station.start
    dsimp only
    rcases Mode.ofName? name with _ | mode
    · exact ⟨h, rfl⟩
    · exact ofSwitch (c.startSwitch h mode)
  | readConfig =>
    exact ⟨h, congrArg (fun link : Link => Except.ok (Reply.config link.config)) (c.shares h).link⟩
  | configure config => exact ⟨c.note (c.storeConfig h config) _, rfl⟩
  | change change => exact ⟨c.changeConfig h change, rfl⟩
  | setPowerLevel level => exact ⟨c.setPowerLevel h level, rfl⟩
  | send packet ack => exact absurd trivial silent
  | sendPayload bytes => exact absurd trivial silent
  | scanChannels first last bytes => exact absurd trivial silent
  | toggleCarrier on => exact (c.toggleCarrier h on).asAnswer _
  | startCarrier channel => exact (c.startCarrier h channel).asAnswer _
  | stopCarrier => exact (c.stopCarrier h).asAnswer _
  | measureRssi channel => exact ofMeasurement (c.startMeasurement h channel)
  | scanPresence scanner channel window =>
    exact ofListening (c.startListening h scanner channel window)
  | testAmplifiers => cases needs

/-- **A look at the operation that holds the lock finds the same on both stations.** -/
theorem poll (h : R s t) {activity activity' : Activity}
    (alike : activity.Alike pair far activity') :
    Concur R (Look.Agree (Activity.Alike pair far)) (activity.poll s) (activity'.poll t) := by
  have locks : ∀ rest rest', Activity.Alike pair far rest rest' →
      rest.holdsLock = rest'.holdsLock := fun _ _ same => same.same_lock
  cases alike with
  | sending alike purpose => exact c.withLock (c.checkSend h alike purpose) locks
  | switching alike => exact c.withLock (ofSwitch (c.checkSwitch h alike)) locks
  | measuring alike => exact c.withLock (ofMeasurement (c.checkMeasurement h alike)) locks
  | listening alike => exact c.withLock (ofListening (c.checkListening h alike)) locks

/-- **A request that waits finds the lock free on both stations, or on neither.** -/
theorem poll_queued (h : R s t) {request : Request}
    (locks : ∀ rest rest', goesOn rest rest' → rest.holdsLock = rest'.holdsLock)
    (waits : goesOn (.queued request) (.queued request))
    (started : Concur R (Look.Agree goesOn) (s.start request) (t.start request)) :
    Concur R (Look.Agree goesOn) ((Activity.queued request).poll s)
      ((Activity.queued request).poll t) := by
  unfold Activity.poll Station.checkQueued
  dsimp only
  cases request.answer? with
  | some result => exact ⟨h, rfl⟩
  | none =>
    exact rel_ite .rfl (rel_ite (by rw [(c.shares h).locked]) ⟨h, waits⟩
      (c.withLock started locks)) started

/-- **Giving an operation up does the same to both stations.** -/
theorem drop (h : R s t) (activity : Activity) : R (activity.drop s) (activity.drop t) := by
  cases activity with
  | queued request => exact h
  | testing test => exact h
  | sending f purpose => exact c.setLocked (c.forceIdle h f.config) false
  | switching waiting => exact c.setLocked h false
  | listening l => exact c.setLocked h false
  | measuring m => exact c.setLocked (c.endMeasurement h) false

/-! ## The interrupt handler -/

/-- Both transfers are at the same stage. -/
theorem state (h : R s t) : s.transfer.state = t.transfer.state :=
  (c.shares h).transfers (f := fun transfer => transfer.state) fun _ _ => rfl

/-- The pointer is taken back from both radios, or from neither. -/
theorem releaseBuffers (h : R s t) : R s.releaseBuffers t.releaseBuffers := by
  have released : Radio.Oblivious (Radio.setBuffer none) := ⟨fun τ _ => ⟨τ, rfl⟩, fun _ _ => rfl⟩
  exact rel_ite (by rw [c.state h]) (c.onRadio h released) h

/-- The acknowledgement is awaited: where it goes is where the radios point from now on. -/
theorem awaitAck (h : R s t) : R s.awaitAck t.awaitAck := by
  have armed : Radio.Oblivious fun r =>
      (((r.armTimeout (r.endCapture + ackGuardTicks)).setRoute .endToCapture false).setRoute
        .addressToCapture true).setRoute .compareToDisable true
      |>.disableShorts .disabledRxEnable := by
    generalize ackGuardTicks = guard
    exact ⟨fun τ _ => ⟨⟨τ.now, τ.endCapture + guard, τ.endCapture, some (τ.endCapture + guard)⟩,
      rfl⟩, fun _ _ => rfl⟩
  have pointed := c.onRadio (c.aimAtAck (c.setLna (c.setPa h false) true)) armed
  rw [onRadio_onRadio, onRadio_onRadio] at pointed
  exact c.onTransfer pointed fun _ _ => rfl

/-- The packet is out on both stations. -/
theorem completePacket (h : R s t) : R s.completePacket t.completePacket := by
  have disarmed := c.write (c.setPa h false) (f := fun r =>
    (r.setRoute .endToCapture false).setRoute .addressToCapture false) fun _ _ _ => rfl
  exact c.setCompleted (c.onTransfer disarmed fun _ _ => rfl) true

/-- The acknowledgement is in on both stations, or its timeout fired on both. -/
theorem completeAck (h : R s t) : R s.completeAck t.completeAck := by
  have fired := (c.shares h).reads (f := fun r => r.compareFired) fun _ _ _ => rfl
  have disarmed := c.write (c.setLna h false) (f := fun r =>
    (r.clearTimeout.setRoute .addressToCapture false).setRoute .compareToDisable false)
    fun _ _ _ => rfl
  unfold Station.completeAck
  rw [← fired]
  exact c.setCompleted (c.onTransfer disarmed fun _ _ => rfl) true

/-- **The interrupt handler** goes one step further on both stations. -/
theorem handleInterrupt (h : R s t) : R s.handleInterrupt t.handleInterrupt := by
  have required :=
    (c.shares h).transfers (f := fun transfer => transfer.ackRequired) fun _ _ => rfl
  unfold Station.handleInterrupt
  rw [← c.state h]
  refine c.write ?_ fun _ _ _ => rfl
  cases s.transfer.state with
  | txInFlight => exact rel_ite (by rw [required]) (c.awaitAck h) (c.completePacket h)
  | awaitingAck => exact c.completeAck h
  | idle => exact h

/-- **A step of the radio and its interrupt** keep the relation if the step of the radio does. -/
theorem pump (served : R s.serviceRadio t.serviceRadio) : Concur R Eq s.pump t.pump := by
  have full := (c.shares served).reads (f := fun r => r.air.historyFull) fun _ _ _ => rfl
  have waiting := (c.shares served).reads (f := Radio.interruptPending) fun _ _ _ => rfl
  refine rel_ite (by rw [overflowed, full, overflowed]) ⟨served, rfl⟩ ⟨?_, rfl⟩
  exact rel_ite (by rw [waiting]) (c.handleInterrupt served) served

end Congruence

/-! ## Stations with the same buffers -/

/-- A congruence of stations with the same buffers and the same clock. -/
structure ExactCongruence (R : Station → Station → Prop) : Prop extends Congruence Eq Eq R where
  buffers : ∀ {s t}, R s t → s.buffers = t.buffers
  setBuffers : ∀ {s t}, R s t → ∀ buffers, R { s with buffers := buffers }
    { t with buffers := buffers }

namespace ExactCongruence

variable {R : Station → Station → Prop} (c : ExactCongruence R) {s t : Station}
include c

/-- New buffers have the same names on both stations, so every request starts alike. -/
theorem start_needsLock (h : R s t) {request : Request} (needs : request.needsLock = true) :
    Concur R (Look.Agree (Activity.Alike Eq Eq)) (s.start request) (t.start request) := by
  cases request with
  | send packet ack => exact c.startSend h rfl rfl false
  | sendPayload bytes =>
    have added := c.setBuffers h ((s.buffers.add (.ofPayload (.truncate bytes))).1.add .empty).1
    unfold Station.start Station.startSendPayload
    rw [← c.buffers h]
    exact c.startSend added rfl rfl true
  | scanChannels first last bytes =>
    have added := c.setBuffers h ((s.buffers.add (.ofPayload (.truncate bytes))).1.add .empty).1
    unfold Station.start Station.startScan
    refine Congruence.ofScan ?_
    rw [← (c.shares h).ready, ← c.buffers h]
    rcases s.ready with failure | _
    · exact ⟨h, rfl⟩
    · exact c.scanOn added rfl rfl ..
  | _ => exact c.start h id needs

/-- **A look at an operation finds the same on both stations**, unless it is the front-end test. -/
theorem poll_other (h : R s t) {activity : Activity} (other : activity.isTest = false) :
    Concur R Eq (activity.poll s) (activity.poll t) := by
  have alike : ∀ rest rest', Activity.Alike Eq Eq rest rest' → rest = rest' :=
    fun _ _ same => same.eq
  have holding : ∀ {held : Activity}, held.holdsLock = true →
      Concur R Eq (held.poll s) (held.poll t) := by
    intro held holds
    obtain ⟨stations, agree⟩ := c.poll h (.refl (fun _ => rfl) (fun _ => rfl) holds)
    exact ⟨stations, (agree.imp alike).eq⟩
  cases activity with
  | queued request =>
    have needs : request.needsLock = true := by
      cases request with
      | testAmplifiers => cases other
      | _ => rfl
    obtain ⟨stations, agree⟩ := c.start_needsLock h needs
    have looked : Concur R (Look.Agree Eq) ((Activity.queued request).poll s)
        ((Activity.queued request).poll t) :=
      c.poll_queued h (fun _ _ same => congrArg _ same) rfl ⟨stations, agree.imp alike⟩
    exact ⟨looked.stations, looked.found.eq⟩
  | testing test => cases other
  | sending | switching | measuring | listening => exact holding rfl

/-- **A look at a job finds the same on both benches** if the look at its activity does: the buffers
of a job that is over hold the same. -/
theorem pollJob {job : Job} (looked : Concur R Eq (job.activity.poll s) (job.activity.poll t)) :
    Concur R Eq (job.poll s) (job.poll t) := by
  unfold Job.poll
  generalize job.activity.poll s = x at looked ⊢
  generalize job.activity.poll t = y at looked ⊢
  obtain ⟨u, look⟩ := x
  obtain ⟨v, _⟩ := y
  obtain ⟨stations, rfl⟩ := looked
  have same : job.packets u = job.packets v := by
    unfold Job.packets
    rw [c.buffers stations]
  rcases look with rest | result
  · exact ⟨stations, rfl⟩
  · have told : (Look.finished ⟨job.label, result, job.packets u⟩ : Look Job Completion) =
        .finished ⟨job.label, result, job.packets v⟩ := by rw [same]
    exact ⟨c.releaseBuffers stations, told⟩

/-- A job that is given up. -/
theorem dropJob (h : R s t) (job : Job) : R (job.drop s) (job.drop t) :=
  c.releaseBuffers (c.drop h job.activity)

end ExactCongruence

end Station

end BurstLink
