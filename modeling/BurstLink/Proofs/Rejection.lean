import BurstLink.Proofs.Alone
import BurstLink.Proofs.Rejection.Scan

/-! # Rejected operations

An operation that is asked for in vain, because an argument is out of range, the link is down, the
radio is used for something else or a name is unknown, changes nothing: not the configuration nor
the identifier of the next send nor the random words, not a register, not a packet, not a report
that waits for a scan. Every check comes before the first change, on every bench and among whatever
other operations.

Main definitions:

* **`Failure.IsRejection`** — the failure says that the operation was asked for in vain.
* **`Station.Unchanged`** — nothing has changed, except that there may be new packets and scanners,
  and the packet that the radio points at.
* **`Look.Unrejected`** — what is over was not rejected.

Main statements: an operation is rejected by the look that would start it, or never
(`Activity.unchanged_of_poll`), and `Station.AtStartUp.unchanged_of_run`. -/

namespace BurstLink

/-- The operation was asked for in vain. -/
def Failure.IsRejection : Failure → Prop
  | .notInitialized => True
  | .badRequest _ => True
  | .notAvailable => True
  | .notFound => True
  | .hardwareStuck => False
  | .measurementTimeout => False
  | .scanStalled => False

/-! ## Nothing changed -/

/-- Every entry that there was is the same. -/
structure Pool.Grows {α : Type} (pool pool' : Pool α) : Prop where
  count : pool.count ≤ pool'.count
  entries : ∀ h : Handle α, h.index < pool.count → pool'.get h = pool.get h

namespace Pool.Grows

variable {α : Type} {pool pool' pool'' : Pool α}

/-- A pool that stays as it is has grown by nothing. -/
@[refl] theorem refl (pool : Pool α) : pool.Grows pool := ⟨Nat.le_refl _, fun _ _ => rfl⟩

/-- A pool that has grown twice has grown. -/
theorem trans (h : pool.Grows pool') (h' : pool'.Grows pool'') : pool.Grows pool'' where
  count := Nat.le_trans h.count h'.count
  entries handle known :=
    (h'.entries handle (Nat.lt_of_lt_of_le known h.count)).trans (h.entries handle known)

/-- A new entry leaves the old ones as they are. -/
theorem add (pool : Pool α) (a : α) : pool.Grows (pool.add a).1 where
  count := Nat.le_succ _
  entries _ known := get_add_of_ne _ (add_fresh _ a known).symm

end Pool.Grows

namespace Station

variable {s t u : Station}

/-- Nothing has changed, except that there may be new packets and scanners, and the packet that the
radio points at. -/
structure Unchanged (s t : Station) : Prop where
  rest : t = { s with
    radio := { s.radio with buffer := t.radio.buffer }
    buffers := t.buffers
    scanners := t.scanners }
  buffers : s.buffers.Grows t.buffers
  scanners : s.scanners.Grows t.scanners

namespace Unchanged

/-- A station is unchanged from itself. -/
@[refl] theorem refl (s : Station) : s.Unchanged s := ⟨rfl, .refl _, .refl _⟩

/-- The same station is unchanged. -/
theorem of_eq (same : t = s) : s.Unchanged t := same ▸ .refl s

/-- What is unchanged twice is unchanged. -/
theorem trans (h : s.Unchanged t) (h' : t.Unchanged u) : s.Unchanged u where
  rest := by
    rw [h'.rest]
    rw [h.rest]
  buffers := h.buffers.trans h'.buffers
  scanners := h.scanners.trans h'.scanners

/-- The lock was free and is free again. -/
theorem unlock (h : s.Unchanged t) (free : s.locked = false) :
    s.Unchanged (t.setLocked false) where
  rest := by
    rw [← free, h.rest]
    rfl
  buffers := h.buffers
  scanners := h.scanners

end Unchanged

/-- Handing buffers back changes at most where the radio points. -/
theorem unchanged_releaseBuffers (s : Station) : s.Unchanged s.releaseBuffers := by
  unfold releaseBuffers
  split
  · exact ⟨rfl, .refl _, .refl _⟩
  · rfl

/-- Buffers for some bytes are new packets, and nothing else. -/
theorem unchanged_withBytes (bytes : List UInt8) (s : Station) :
    s.Unchanged (s.withBytes bytes) :=
  ⟨rfl, (Pool.Grows.add ..).trans (.add ..), .refl _⟩

/-- The current scanner may be a new one, and nothing else changes. -/
theorem unchanged_currentScanner (s : Station) : s.Unchanged s.currentScanner.1 := by
  unfold currentScanner
  split
  · rfl
  · exact ⟨rfl, .refl _, .add ..⟩

end Station

/-! ## Who is not rejected -/

/-- What is over was not rejected. -/
def Look.Unrejected {ω α : Type} (look : Look ω (Except Failure α)) : Prop :=
  look.Meets (fun _ => True) fun result => ∀ failure, result = .error failure → ¬failure.IsRejection

namespace Look

variable {ω ω' α α' : Type}

/-- A success is no rejection. -/
theorem unrejected_ok (a : α) : (finished (.ok a) : Look ω (Except Failure α)).Unrejected :=
  fun _ same => absurd same (by simp)

/-- A failure is one if it says so. -/
theorem unrejected_error {failure : Failure} (other : ¬failure.IsRejection) :
    (finished (.error failure) : Look ω (Except Failure α)).Unrejected := by
  intro failure' same
  rw [← Except.error.inj same]
  exact other

/-- It was not rejected under other names either. -/
theorem Unrejected.map {look : Look ω (Except Failure α)} (h : look.Unrejected) (name : ω → ω')
    (reply : α → α') : (look.map name (Except.map reply)).Unrejected := by
  obtain rest | ⟨failure | a⟩ := look
  · trivial
  · exact unrejected_error (h failure rfl)
  · exact unrejected_ok (reply a)

end Look

namespace Station

variable {s t : Station}

/-- What cannot fail is not rejected. -/
theorem unrejected_of_ok {ω α : Type} (name : ω → Activity) (reply : α → Reply)
    (found : Station × Look ω α) :
    (asProgress name (fun a => .ok (reply a)) found).2.Unrejected := by
  obtain ⟨t, w | a⟩ := found
  · trivial
  · exact Look.unrejected_ok (reply a)

/-- A measurement that waits for its sample is past its checks. -/
theorem unrejected_awaitSample (channel : UInt8) (looks : Nat) (s : Station) :
    (s.awaitSample channel looks).2.Unrejected := by
  cases looks with
  | zero => exact Look.unrejected_error id
  | succ looks =>
    unfold awaitSample
    dsimp only
    split
    · exact Look.unrejected_ok _
    · trivial

/-- So is one that waits for the receiver. -/
theorem unrejected_awaitReceiver (channel : UInt8) (looks : Nat) (s : Station) :
    (s.awaitReceiver channel looks).2.Unrejected := by
  cases looks with
  | zero => exact Look.unrejected_error id
  | succ looks =>
    unfold awaitReceiver
    dsimp only
    split
    · exact unrejected_awaitSample ..
    · trivial

/-- So is one between two looks. -/
theorem unrejected_checkMeasurement (m : Measurement) (s : Station) :
    (s.checkMeasurement m).2.Unrejected := by
  unfold checkMeasurement
  split
  · split
    · exact unrejected_awaitReceiver ..
    · exact unrejected_awaitSample ..
  · trivial

/-- A presence scan that collects reports is past its checks. -/
theorem unrejected_collect (l : BurstLink.Listening) (s : Station) :
    (s.collect l).2.Unrejected := by
  unfold collect
  dsimp only
  split
  · exact Look.unrejected_ok _
  · trivial

/-- So is one between two looks. -/
theorem unrejected_checkListening (l : BurstLink.Listening) (s : Station) :
    (s.checkListening l).2.Unrejected := by
  unfold checkListening
  split
  · split
    · exact Look.unrejected_error id
    · trivial
  · exact unrejected_collect ..

/-- A channel scan that goes on or answers is not rejected. -/
theorem unrejected_of_scanning {progress : Progress} (h : progress.Scanning) :
    progress.Unrejected := by
  refine Look.Meets.imp h (fun _ _ => trivial) ?_
  rintro _ ⟨hits, rfl⟩ failure same
  exact absurd same (by simp)

/-- A send that is on its way is not rejected. -/
theorem unrejected_checkSend {f : Flight} {purpose : Purpose}
    (canSend : ∀ rest, purpose = .scan rest → s.CanSend f.packet) :
    (s.checkSend f purpose).2.Unrejected := by
  cases purpose with
  | scan rest => exact unrejected_of_scanning (Guard.scan_checkSend (canSend rest rfl)).1
  | single withAck =>
    have onlyStuck := s.checkFlight_stuck f
    unfold checkSend
    split
    · trivial
    · rename_i t result found
      rw [found] at onlyStuck
      cases result with
      | ok outcome => exact Look.unrejected_ok _
      | error reason =>
        obtain rfl := onlyStuck reason rfl
        exact Look.unrejected_error id

/-! ## Checks come first -/

/-- A send that is refused has touched nothing; its own two packets are new. -/
theorem unchanged_startSend (packet ack : Buffer) (withAck : Bool) (s : Station) :
    (s.startSend packet ack withAck).2.Unrejected ∨ (s.startSend packet ack withAck).1 = s := by
  have refused : ∀ t failure, s.launch packet ack = (t, .refused failure) → t = s := by
    intro t failure found
    unfold launch at found
    split at found
    · exact (Prod.mk.inj found).1.symm
    · dsimp only at found
      split at found
      · exact (Prod.mk.inj found).1.symm
      · split at found <;> exact absurd (Prod.mk.inj found).2 (by simp)
  -- the identifier is stamped, and the random word drawn, after both checks
  unfold startSend
  split
  · rename_i t failure found
    exact .inr (refused t failure found)
  · exact .inl (Look.unrejected_ok _)
  · exact .inl trivial

/-- An operation that is for one mode is not rejected there. -/
theorem unrejected_start_of_mode {request : Request} {mode : Mode}
    (wants : request.mode? = some mode) (here : s.mode = mode) : (s.start request).2.Unrejected := by
  cases request with
  | startCarrier channel =>
    obtain rfl := Option.some.inj wants
    show Look.Unrejected (asAnswer (fun _ => .done) (s.startCarrier channel)).2
    unfold startCarrier
    rw [if_pos here]
    exact Look.unrejected_ok _
  | stopCarrier =>
    obtain rfl := Option.some.inj wants
    show Look.Unrejected (asAnswer (fun _ => .done) s.stopCarrier).2
    unfold stopCarrier
    rw [if_pos here]
    exact Look.unrejected_ok _
  | measureRssi channel =>
    obtain rfl := Option.some.inj wants
    show (ofMeasurement (s.startMeasurement channel)).2.Unrejected
    unfold startMeasurement
    rw [if_pos here]
    exact (unrejected_awaitReceiver ..).map _ _
  | scanPresence scanner channel window =>
    obtain rfl := Option.some.inj wants
    show (ofListening (s.startListening scanner channel window)).2.Unrejected
    unfold startListening
    rw [if_pos here]
    exact (unrejected_collect ..).map _ _
  | _ => cases wants

/-- Elsewhere it has touched nothing. -/
theorem unchanged_start_of_mode? {request : Request} {mode : Mode}
    (wants : request.mode? = some mode) :
    (s.start request).2.Unrejected ∨ s.Unchanged (s.start request).1 := by
  by_cases here : s.mode = mode
  · exact .inl (unrejected_start_of_mode wants here)
  · rw [start_of_other_mode wants here]
    exact .inr (.refl s)

/-- The carrier of the link is switched, or the link is not up. -/
theorem unchanged_toggleCarrier (on : Bool) (s : Station) :
    Look.Unrejected (asAnswer .changed (s.toggleCarrier on)).2 ∨ (s.toggleCarrier on).1 = s := by
  unfold toggleCarrier
  split
  · exact .inr rfl
  · split
    · exact .inl (Look.unrejected_ok _)
    · split
      · exact .inl (Look.unrejected_ok _)
      · exact .inl (Look.unrejected_ok _)

/-- A channel scan starts, or the link is not ready. -/
theorem unchanged_startScan (first last : UInt8) (bytes : List UInt8) (s : Station) :
    (ofScan (s.startScan first last bytes)).2.Unrejected ∨
      (s.startScan first last bytes).1 = s := by
  cases ready : s.ready with
  | ok => exact .inl (unrejected_of_scanning (Guard.scan_startScan ready first last bytes).1)
  | error failure =>
    right
    unfold startScan
    rw [ready]

/-- **An operation that starts is not rejected, or has touched nothing.** -/
theorem unchanged_start (request : Request) (s : Station) :
    (s.start request).2.Unrejected ∨ s.Unchanged (s.start request).1 := by
  cases request with
  | switchMode mode => exact .inl (unrejected_of_ok _ (fun _ => .done) _)
  | switchModeNamed name =>
    unfold start
    dsimp only
    split
    · exact .inl (unrejected_of_ok _ (fun _ => .done) _)
    · exact .inr (.refl s)
  | readConfig => exact .inl (Look.unrejected_ok _)
  | configure config => exact .inl (Look.unrejected_ok _)
  | change change => exact .inl (Look.unrejected_ok _)
  | setPowerLevel level => exact .inl (Look.unrejected_ok _)
  | send packet ack =>
    exact (unchanged_startSend packet ack false s).imp_right .of_eq
  | sendPayload bytes =>
    refine (unchanged_startSend ⟨s.buffers.count⟩ ⟨s.buffers.count + 1⟩ true
      (s.withBytes bytes)).imp_right fun same => ?_
    exact (s.unchanged_withBytes bytes).trans (.of_eq same)
  | scanChannels first last bytes =>
    exact (unchanged_startScan first last bytes s).imp_right .of_eq
  | toggleCarrier on => exact (unchanged_toggleCarrier on s).imp_right .of_eq
  | startCarrier => exact unchanged_start_of_mode? rfl
  | stopCarrier => exact unchanged_start_of_mode? rfl
  | measureRssi => exact unchanged_start_of_mode? rfl
  | scanPresence => exact unchanged_start_of_mode? rfl
  | testAmplifiers => exact .inl (unrejected_of_ok _ .amplifiers _)

end Station

/-! ## Looks -/

namespace Activity

open Station

variable {activity rest : Activity} {s t : Station}

/-- The operation has had its first look with the lock free. -/
def Started : Activity → Prop
  | queued _ => False
  | _ => True

/-- An operation that holds the lock has started. -/
theorem started_of_holdsLock (holds : activity.holdsLock = true) : activity.Started := by
  cases activity with
  | queued request => exact absurd holds (by simp [holdsLock])
  | _ => trivial

/-- What an operation that starts with the lock free leaves is started. -/
theorem started_of_start {request : Request} (undecided : request.answer? = none)
    (goesOn : (s.start request).2 = .waiting rest) : rest.Started := by
  cases needs : request.needsLock with
  | true =>
    have leaves : Guard.scan.Leaves (s.start request) :=
      Guard.scan_kept.start trivial undecided needs
    unfold Guard.Leaves at leaves
    rw [goesOn] at leaves
    exact started_of_holdsLock leaves.1
  | false =>
    cases request with
    | testAmplifiers =>
      obtain rfl := Look.waiting.inj goesOn
      trivial
    | _ => exact absurd needs (by simp [Request.needsLock])

/-- With the lock free, an operation that goes on has started. -/
theorem started_of_poll_queued {request : Request} (free : s.locked = false)
    (goesOn : ((queued request).poll s).2 = .waiting rest) : rest.Started := by
  cases decided : request.answer? with
  | some result =>
    rw [poll_queued_of_answer? decided] at goesOn
    exact absurd goesOn (by simp)
  | none =>
    rw [poll_queued_snd_of_free free decided] at goesOn
    exact started_of_start decided goesOn

/-- **An operation is rejected by the look that would start it, or never**, and that look has
changed nothing. -/
theorem unchanged_of_poll {failure : Failure}
    (canSend : ∀ f scan, activity = .sending f (.scan scan) → s.CanSend f.packet)
    (polled : activity.poll s = (t, .finished (.error failure)))
    (rejection : failure.IsRejection) : (∃ request, activity = .queued request) ∧
      s.Unchanged t := by
  -- whoever is not rejected is not concerned
  have unrejected : ¬(activity.poll s).2.Unrejected := fun never => by
    rw [polled] at never
    exact never failure rfl rejection
  cases activity with
  | queued request =>
    refine ⟨⟨request, rfl⟩, ?_⟩
    cases decided : request.answer? with
    | some result =>
      rw [poll_queued_of_answer? decided] at polled
      obtain rfl := (Prod.mk.inj polled).1
      rfl
    | none =>
      cases needs : request.needsLock with
      | true =>
        cases locked : s.locked with
        | true =>
          rw [poll_queued_of_locked locked decided needs] at polled
          exact absurd (Prod.mk.inj polled).2 (by simp)
        | false =>
          rw [poll_queued_of_free locked decided needs] at polled unrejected
          have started := (unchanged_start request s).resolve_left unrejected
          have unlocked := started.unlock locked
          obtain ⟨found, ended⟩ := Prod.mk.inj polled
          rw [← found, show (s.start request).2 = .finished (.error failure) from ended]
          exact unlocked
      | false =>
        cases request with
        | testAmplifiers =>
          exact absurd (unrejected_of_ok _ .amplifiers s.startAmplifierTest) unrejected
        | _ => exact absurd needs (by simp [Request.needsLock])
  | sending f purpose =>
    refine absurd ?_ unrejected
    exact unrejected_checkSend fun scan same => canSend f scan (by rw [same])
  | switching w => exact absurd (unrejected_of_ok _ (fun _ => .done) (s.checkSwitch w)) unrejected
  | measuring m => exact absurd ((unrejected_checkMeasurement m s).map _ _) unrejected
  | listening l => exact absurd ((unrejected_checkListening l s).map _ _) unrejected
  | testing test =>
    exact absurd (unrejected_of_ok _ .amplifiers (s.checkAmplifierTest test)) unrejected

/-- An operation that has started stays so. -/
theorem Started.poll (started : activity.Started)
    (held : activity.holdsLock = true → Guard.scan.held activity s)
    (goesOn : (activity.poll s).2 = .waiting rest) : rest.Started := by
  have keeps : ∀ found : Station × Progress, Guard.scan.Leaves found → found.2 = .waiting rest →
      rest.Started := by
    intro found leaves same
    unfold Guard.Leaves at leaves
    rw [same] at leaves
    exact started_of_holdsLock leaves.1
  cases activity with
  | queued request => exact absurd started id
  | sending f purpose => exact keeps _ (Guard.scan_kept.checkSend (held rfl)) goesOn
  | switching w => exact keeps _ (Guard.scan_kept.checkSwitch (held rfl)) goesOn
  | measuring m => exact keeps _ (Guard.scan_kept.checkMeasurement (held rfl)) goesOn
  | listening l => exact keeps _ (Guard.scan_kept.checkListening (held rfl)) goesOn
  | testing test =>
    change ((s.checkAmplifierTest test).2.map testing _) = _ at goesOn
    cases found : (s.checkAmplifierTest test).2 with
    | waiting test' =>
      rw [found] at goesOn
      obtain rfl := Look.waiting.inj goesOn
      trivial
    | finished result =>
      rw [found] at goesOn
      exact absurd goesOn (by simp [Look.map])

end Activity

namespace Job

variable {job : Job} {s t : Station}

/-- The packets of a job stay when they are handed back. -/
theorem packets_releaseBuffers (job : Job) (s : Station) :
    job.packets s.releaseBuffers = job.packets s := by
  unfold Station.releaseBuffers
  split <;> rfl

/-- A job that is rejected was waiting to start, and has touched nothing. -/
theorem unchanged_of_poll {completion : Completion} {failure : Failure}
    (canSend : ∀ f scan, job.activity = .sending f (.scan scan) → s.CanSend f.packet)
    (polled : job.poll s = (t, .finished completion)) (failed : completion.result = .error failure)
    (rejection : failure.IsRejection) : (∃ request, job.activity = .queued request) ∧
      s.Unchanged t ∧ completion.packets = job.packets t := by
  obtain ⟨u, found, rfl, -, packets⟩ := poll_finished polled
  rw [failed] at found
  obtain ⟨queued, unchanged⟩ := Activity.unchanged_of_poll canSend found rejection
  exact ⟨queued, unchanged.trans u.unchanged_releaseBuffers,
    packets.trans (job.packets_releaseBuffers u).symm⟩

end Job

/-! ## Operations on their own -/

/-- The packets that an operation brings along. -/
def Work.packets : Work → Option (Packet × Packet)
  | .send packet ack => some (packet, ack)
  | _ => none

namespace Bench

variable {b b' : Bench} {job : Job} {completion : Completion} {failure : Failure}

/-- Asking for an operation touches nothing. -/
theorem unchanged_enlist (label : Option String) (work : Work) (b : Bench) :
    b.station.Unchanged (b.enlist label work).station := by
  cases work with
  | request request => rfl
  | send packet ack => exact ⟨rfl, (Pool.Grows.add ..).trans (.add ..), .refl _⟩
  | scanPresence channel window => exact b.station.unchanged_currentScanner

/-- On a bench without jobs, an operation that is asked for is the only job. It waits to start, and
its packets are those that it brought along. -/
theorem enlist_single (idle : b.jobs = []) (work : Work) : ∃ job,
    (b.enlist none work).jobs = [job] ∧ job.label = none ∧
      (∃ request, job.activity = .queued request) ∧
      ∀ t, (b.enlist none work).station.Unchanged t → job.packets t = work.packets := by
  cases work with
  | request request =>
    refine ⟨⟨none, none, .queued request⟩, ?_, rfl, ⟨_, rfl⟩, fun _ _ => rfl⟩
    simp [enlist, idle]
  | scanPresence channel window =>
    refine ⟨⟨none, none, .queued (.scanPresence b.station.currentScanner.2 channel window)⟩, ?_,
      rfl, ⟨_, rfl⟩, fun _ _ => rfl⟩
    simp [enlist, idle]
  | send packet ack =>
    refine ⟨⟨none, some (⟨b.station.buffers.count⟩, ⟨b.station.buffers.count + 1⟩),
      .queued (.send ⟨b.station.buffers.count⟩ ⟨b.station.buffers.count + 1⟩)⟩, ?_, rfl,
      ⟨_, rfl⟩, ?_⟩
    · simp [enlist, idle, Pool.add]
    · -- its packets are the last two that were added, and unchanged like all others
      intro t unchanged
      have first := unchanged.buffers.entries ⟨b.station.buffers.count⟩
        (Nat.lt_succ_of_lt (Nat.lt_succ_self _))
      have second := unchanged.buffers.entries ⟨b.station.buffers.count + 1⟩ (Nat.lt_succ_self _)
      show some (t.buffers.get _, t.buffers.get _) = some (packet, ack)
      rw [first, second]
      have packet' := b.station.buffers.get_add_add packet ack
      have ack' := (b.station.buffers.add packet).1.get_add_self ack
      exact congrArg some (Prod.ext packet' ack')

/-- A scan in progress can send. -/
theorem GuardedBy.canSend (h : b.GuardedBy .scan) (member : job ∈ b.jobs) {f : Flight}
    {scan : ChannelScan} (activity : job.activity = .sending f (.scan scan)) :
    b.station.CanSend f.packet := by
  have held := h.held member (by rw [activity]; rfl)
  rw [activity] at held
  exact held

/-- Waiting for the only job ends with the first look, or goes on after a round. -/
theorem awaitWithin_single (single : b.jobs = [job]) (unlabelled : job.label = none) {pumped : Bool}
    {n : Nat} (ended : b.awaitWithin pumped (n + 1) = (b', .finished completion)) :
    job.poll b.station = (b'.station, .finished completion) ∨
      ∃ t job' bench, job.poll b.station = (t, .waiting job') ∧
        ({ b with station := t, jobs := [job'] } : Bench).advance pumped = (bench, none) ∧
        bench.jobs = [job'] ∧ bench.awaitWithin pumped n = (b', .finished completion) := by
  rw [awaitWithin, poll_single single] at ended
  rcases polled : job.poll b.station with ⟨t, job' | completion'⟩
  · right
    rw [polled] at ended
    dsimp only [List.find?_nil] at ended
    split at ended
    · exact absurd (Prod.mk.inj ended).2 (by simp)
    · rename_i bench passed
      refine ⟨t, job', bench, rfl, passed, ?_, ended⟩
      have jobs := congrArg (fun found : Bench × Option Overflow => found.1.jobs) passed
      unfold advance at jobs
      cases pumped with
      | false => exact jobs.symm
      | true => exact jobs.symm
  · left
    have label : completion'.label = none := by
      -- the job has no name, so its completion is the one that is waited for
      obtain ⟨_, _, _, same, _⟩ := Job.poll_finished polled
      exact same.trans unlabelled
    rw [polled] at ended
    simp only [List.find?_cons, label, Option.isNone_none] at ended
    obtain ⟨rfl, same⟩ := Prod.mk.inj ended
    rw [Ending.finished.inj same]

/-- What is known of a bench in the round after a look at its only job. -/
theorem GuardedBy.round (h : b.GuardedBy .scan) (single : b.jobs = [job]) {t : Station} {job' : Job}
    (polled : job.poll b.station = (t, .waiting job')) {pumped : Bool} {bench : Bench}
    (passed : ({ b with station := t, jobs := [job'] } : Bench).advance pumped = (bench, none)) :
    bench.GuardedBy .scan := by
  have looked : (b.lookAt 0).GuardedBy .scan := Guard.scan_kept.lookAt h 0
  have split : b.jobs = [] ++ job :: [] := single
  obtain ⟨station, jobs⟩ := lookAt_split split
  rw [polled] at station jobs
  have left : ({ b with station := t, jobs := [job'] } : Bench).GuardedBy .scan :=
    Guard.Kept.replace looked jobs.symm fun _ holds => by
      rw [show (b.lookAt 0).station = t from station] at holds
      exact holds
  have advanced := Guard.scan_kept.advance left pumped
  rw [passed] at advanced
  exact advanced

/-- **Waiting for the only job, once that has started, does not end with a rejection.** The
induction is on the rounds. -/
theorem GuardedBy.unrejected_of_started (h : b.GuardedBy .scan) (single : b.jobs = [job])
    (unlabelled : job.label = none) (started : job.activity.Started) {pumped : Bool} {n : Nat}
    (ended : b.awaitWithin pumped n = (b', .finished completion))
    (failed : completion.result = .error failure) : ¬failure.IsRejection := by
  induction n generalizing b job with
  | zero => exact absurd (Prod.mk.inj ended).2 (by simp)
  | succ n ih =>
    intro rejection
    have member : job ∈ b.jobs := by simp [single]
    obtain polled | ⟨t, job', bench, polled, passed, single', ended'⟩ :=
      awaitWithin_single single unlabelled ended
    · have canSend : ∀ f scan, job.activity = .sending f (.scan scan) →
          b.station.CanSend f.packet := fun f scan activity => h.canSend member activity
      obtain ⟨⟨request, queued⟩, -⟩ := Job.unchanged_of_poll canSend polled failed rejection
      rw [queued] at started
      exact started
    · obtain ⟨activity, goesOn, rfl⟩ := Job.poll_waiting polled
      have started' : activity.Started := started.poll (h.held member) (congrArg Prod.snd goesOn)
      exact ih (h.round single polled passed) single' unlabelled started' ended' rejection

/-- An operation on its own is over when waiting for its job is. -/
theorem awaitWithin_of_perform {work : Work} {pumped : Bool}
    (ended : b.execute (.perform none work pumped) = (b', .finished completion)) :
    ∃ n, (b.enlist none work).awaitWithin pumped n = (b', .finished completion) := by
  refine ⟨(b.enlist none work).jobs.foldl (fun n job => n + patience job.activity + 1) 1, ?_⟩
  show (b.enlist none work).await pumped = _
  unfold execute at ended
  dsimp only at ended
  obtain ⟨same, reaction⟩ := Prod.mk.inj ended
  rcases found : (b.enlist none work).await pumped with ⟨bench, ending⟩
  rw [found] at same reaction
  cases ending with
  | finished completion' =>
    obtain rfl : bench = b' := same
    rw [Reaction.finished.inj reaction]
  | overflow o => exact absurd reaction (by simp [Reaction.ofEnding])
  | unfinished => exact absurd reaction (by simp [Reaction.ofEnding])

/-- **An operation on its own that is rejected has touched nothing**, and its packets are as it
brought them along. -/
theorem GuardedBy.unchanged_of_perform (h : b.GuardedBy .scan) (idle : b.jobs = []) {work : Work}
    {pumped : Bool} (ended : b.execute (.perform none work pumped) = (b', .finished completion))
    (failed : completion.result = .error failure) (rejection : failure.IsRejection) :
    b.station.Unchanged b'.station ∧ completion.packets = work.packets := by
  obtain ⟨n, waited⟩ := awaitWithin_of_perform ended
  have asked : (b.enlist none work).GuardedBy .scan := Guard.scan_kept.enlist h none work
  have touched := unchanged_enlist none work b
  obtain ⟨job, single, unlabelled, ⟨request, queued⟩, packets⟩ := enlist_single idle work
  generalize b.enlist none work = bench at waited asked touched single packets
  have member : job ∈ bench.jobs := by simp [single]
  -- the bench had no job before, so nobody has the lock
  have unlocked : bench.station.locked = false := by
    obtain ⟨holder, all, holds⟩ := asked
    rw [single] at all
    cases holder with
    | none => exact holds.1
    | some activity => exact absurd all (by simp [Job.holders, queued, Activity.holdsLock])
  cases n with
  | zero => exact absurd (Prod.mk.inj waited).2 (by simp)
  | succ n =>
    obtain polled | ⟨t, job', bench', polled, passed, single', waited'⟩ :=
      awaitWithin_single single unlabelled waited
    · -- the first look decides
      have canSend : ∀ f scan, job.activity = .sending f (.scan scan) →
          bench.station.CanSend f.packet := fun f scan activity => asked.canSend member activity
      obtain ⟨-, unchanged, same⟩ := Job.unchanged_of_poll canSend polled failed rejection
      exact ⟨touched.trans unchanged, same.trans (packets _ unchanged)⟩
    · -- with the lock free, it has started if it goes on
      obtain ⟨activity, goesOn, rfl⟩ := Job.poll_waiting polled
      have started : activity.Started := by
        rw [queued] at goesOn
        exact Activity.started_of_poll_queued unlocked (congrArg Prod.snd goesOn)
      exact absurd rejection ((asked.round single polled passed).unrejected_of_started single'
        unlabelled started waited' failed)

end Bench

/-! ## The result -/

/-- **Rejected operations change nothing.** After every run of whatever operations, with whatever
accesses by hand, a look that ends an operation with a rejection finds it waiting to start, and
leaves the station unchanged. An operation on its own that ends with a rejection has left the
station unchanged and its packets as it brought them along. And a channel scan does not fail once it
has passed its one check: every look at it finds that it goes on, or its hits. -/
theorem Station.AtStartUp.unchanged_of_run {s : Station} (start : s.AtStartUp) (moves : List Move)
    (simple : ∀ move ∈ moves, move.Simple) :
    let b := (Bench.ofStation s).after moves
    (∀ job ∈ b.jobs, ∀ t completion failure, job.poll b.station = (t, .finished completion) →
      completion.result = .error failure → failure.IsRejection →
        (∃ request, job.activity = .queued request) ∧ b.station.Unchanged t) ∧
    (b.jobs = [] → ∀ work pumped b' completion failure,
      b.execute (.perform none work pumped) = (b', .finished completion) →
      completion.result = .error failure → failure.IsRejection →
        b.station.Unchanged b'.station ∧ completion.packets = work.packets) ∧
    (∀ job ∈ b.jobs, ∀ f scan, job.activity = .sending f (.scan scan) →
      (job.activity.poll b.station).2.Scanning) ∧
    (∀ first last bytes, (Request.scanChannels first last bytes).answer? = none →
      b.station.locked = false → b.station.ready = .ok () →
        ((Activity.queued (.scanChannels first last bytes)).poll b.station).2.Scanning) := by
  intro b
  -- what a scan needs of its packet is kept by every move, so no look at it can be rejected
  have guarded : b.GuardedBy .scan := by
    have begun : (Bench.ofStation s).GuardedBy .scan := by
      obtain ⟨draws, rfl | rfl⟩ := start
      · exact ⟨none, rfl, rfl, trivial⟩
      · exact ⟨none, rfl, rfl, trivial⟩
    exact Guard.scan_kept.after begun moves simple fun _ _ => .inl trivial
  refine ⟨?_, ?_, ?_, ?_⟩
  · intro job member t completion failure polled failed rejection
    have canSend : ∀ f scan, job.activity = .sending f (.scan scan) →
        b.station.CanSend f.packet := fun f scan activity => guarded.canSend member activity
    obtain ⟨queued, unchanged, -⟩ := Job.unchanged_of_poll canSend polled failed rejection
    exact ⟨queued, unchanged⟩
  · intro idle work pumped b' completion failure ended failed rejection
    exact guarded.unchanged_of_perform idle ended failed rejection
  · intro job member f scan activity
    have canSend := guarded.canSend member activity
    rw [activity]
    exact (Guard.scan_checkSend canSend).1
  · intro first last bytes undecided free ready
    rw [Activity.poll_queued_of_free free undecided rfl]
    exact (Guard.scan_startScan ready first last bytes).1

/-- A packet that announces more bytes than it has is refused while the link is up, a carrier having
been on air before; the packet has not got an identifier, and the acknowledgement is not cleared. -/
theorem Bench.unchanged_of_long_packet :
    let moves : List Move := [.ask none (.request (.switchMode .link)), .look 0,
      .ask none (.request (.toggleCarrier true)), .look 0,
      .ask none (.request (.toggleCarrier false)), .look 0, .arrange (.accessRadio (.setChannel 7))]
    let b := (Bench.ofStation (.withFrontEnd .zeros)).after moves
    let packet : Packet := { Packet.empty with length := 33 }
    let ack : Packet := .ofPayload (.truncate [1, 2, 3])
    (∀ move ∈ moves, move.Simple) ∧ ∃ b' completion,
      b.execute (.perform none (.send packet ack) true) = (b', .finished completion) ∧
      completion.result = .error (.badRequest (.payloadTooLong 33)) ∧
      b.station.Unchanged b'.station ∧ completion.packets = some (packet, ack) := by
  intro moves b packet ack
  have simple : ∀ move ∈ moves, move.Simple := by decide
  have idle : b.jobs = [] := by decide +kernel
  obtain ⟨-, alone, -, -⟩ := Station.AtStartUp.unchanged_of_run ⟨.zeros, .inl rfl⟩ moves simple
  refine ⟨simple, _, _, rfl, rfl, ?_⟩
  exact alone idle (.send packet ack) true _ _ _ rfl rfl trivial

end BurstLink
