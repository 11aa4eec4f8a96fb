import BurstLink.Proofs.Holder
import BurstLink.Proofs.PresenceScan.Reports
import BurstLink.Proofs.SendRule

/-! # The scanners of a station

Only presence scans use the scanners, and only the surroundings change them otherwise. Whatever is
done at the bench, no scanner hears more than it can announce at once or has more reports waiting
than there is room for, and a scan that waits or listens refers to a scanner that was put up.

Main definitions:

* **`Station.Staffed`** — there are at least so many scanners, and all are bounded.
* **`Activity.scanner?`** — the scanner that an operation listens with.
* **`Bench.Staffed`** — all scanners are bounded, and those that the jobs listen with were put up.

Main statements: what does not listen leaves the scanners alone (`Activity.scanners_poll`), and
`Bench.Reachable.staffed`. -/

namespace BurstLink

/-! ## Who uses the scanners -/

namespace Station

variable {s t : Station}

/-- A measurement has nothing to do with scanners. -/
theorem scanners_startMeasurement (channel : UInt8) (s : Station) :
    (s.startMeasurement channel).1.scanners = s.scanners := by
  rcases s.gauges_startMeasurement channel with same | ⟨-, gauges⟩
  · rw [same]
  · exact gauges.steers.scanners

/-- Neither has the configuration. -/
theorem scanners_storeConfig (config : LinkConfig) (s : Station) :
    (s.storeConfig config).scanners = s.scanners := by
  unfold storeConfig
  dsimp only
  split <;> rfl

/-- Neither has the front-end test. -/
theorem scanners_checkAmplifierTest (t : AmplifierTest) (s : Station) :
    (s.checkAmplifierTest t).1.scanners = s.scanners := by
  unfold checkAmplifierTest
  split
  · split <;> rfl
  · split <;> rfl

/-- Nothing that a send is made of touches the scanners. -/
theorem sendRule_scanners (scanners : Pool Scanner) : SendRule (fun _ => True)
    (fun _ _ s => s.scanners = scanners) fun _ s => s.scanners = scanners where
  noted _ h := h
  drawn _ h := h
  tune _ h := h
  takeOff _ h := by
    rw [takeOff_eq, fly_eq]
    exact h
  finish _ h := h
  again notice _ _ h := by
    rw [fly_eq]
    exact h
  stuck notice _ _ h := (steers_forceIdle ..).scanners.trans h

/-- What sends, or has sent. -/
theorem scanners_of_sends {scanners : Pool Scanner} {found : Station × Progress}
    (h : SendRule.Sends (fun _ => True) (fun _ _ s => s.scanners = scanners)
      (fun _ s => s.scanners = scanners) found) : found.1.scanners = scanners := by
  obtain ⟨t, activity | result⟩ := found
  · obtain ⟨f, purpose, -, -, same⟩ := h
    exact same
  · obtain ⟨packet, ack, same⟩ := h
    exact same

/-- An operation that starts, and is no presence scan. -/
theorem scanners_start {request : Request} (other : request.routine ≠ .listen) (s : Station) :
    (s.start request).1.scanners = s.scanners := by
  -- sends and channel scans go by the rule of sends; the other requests steer or read the radio
  have rule := sendRule_scanners s.scanners
  cases request with
  | switchMode mode => exact (steers_startSwitch ..).scanners
  | switchModeNamed name =>
    unfold start
    dsimp only
    split
    · exact (steers_startSwitch ..).scanners
    · rfl
  | configure config => exact scanners_storeConfig config s
  | change change => exact scanners_storeConfig _ s
  | send packet ack => exact scanners_of_sends (rule.startSend rfl false)
  | sendPayload bytes =>
    have more : (s.withBytes bytes).scanners = s.scanners := rfl
    exact scanners_of_sends (rule.startSend more true)
  | scanChannels first last bytes =>
    show (ofScan (s.startScan first last bytes)).1.scanners = _
    have more : s.ready = .ok () → (s.withBytes bytes).scanners = s.scanners := fun _ => rfl
    rcases rule.startScan (fun _ _ => trivial) more with ⟨failure, refused, -⟩ | scans
    · rw [refused]
      rfl
    · exact scanners_of_sends (SendRule.sends_ofScan scans)
  | toggleCarrier on => exact (steers_toggleCarrier ..).scanners
  | startCarrier channel => exact (steers_startCarrier ..).scanners
  | stopCarrier => exact s.steers_stopCarrier.scanners
  | measureRssi channel => exact scanners_startMeasurement channel s
  | scanPresence sc channel window => exact absurd rfl other
  | _ => rfl

end Station

/-- **What does not listen leaves the scanners alone.** -/
theorem Activity.scanners_poll {activity : Activity} (other : activity.routine ≠ .listen)
    (s : Station) : (activity.poll s).1.scanners = s.scanners := by
  cases activity with
  | queued request =>
    have fares := fares_poll request s
    generalize (queued request).poll s = found at fares ⊢
    cases fares with
    | decided => rfl
    | waits => rfl
    | starts => exact Station.scanners_start other s
    | tests => exact Station.scanners_start other s
  | sending f purpose =>
    have sends := (Station.sendRule_scanners s.scanners).checkSend (f := f) rfl purpose.within_true
    exact Station.scanners_of_sends sends
  | switching t => exact (Station.steers_checkSwitch t s).scanners
  | measuring m => exact (Station.gauges_checkMeasurement m s).steers.scanners
  | listening l => exact absurd rfl other
  | testing t => exact Station.scanners_checkAmplifierTest t s

/-! ## What a presence scan does with its scanner -/

namespace Activity

open Station

/-- A look at a presence scan that has not started refuses it, lets it wait for the lock, or tells
its scanner to listen. -/
theorem poll_scanPresence (sc : Handle Scanner) (channel : UInt8) (window : Nat) (s : Station) :
    (∃ t failure, (queued (.scanPresence sc channel window)).poll s =
        (t, .finished (.error failure)) ∧ failure.IsRejection ∧ t.scanners = s.scanners) ∨
    (queued (.scanPresence sc channel window)).poll s =
      (s, .waiting (.queued (.scanPresence sc channel window))) ∨
    (s.mode = .presenceScan ∧ (queued (.scanPresence sc channel window)).poll s =
      withLock (ofListening (s.startListening sc channel window))) := by
  have fares := fares_poll (.scanPresence sc channel window) s
  generalize (queued (.scanPresence sc channel window)).poll s = found at fares ⊢
  cases fares with
  | decided decided =>
    obtain ⟨reason, rfl⟩ := Request.exists_of_refusal? decided
    exact .inl ⟨_, _, rfl, trivial, rfl⟩
  | waits => exact .inr (.inl rfl)
  | starts =>
    by_cases mode : s.mode = .presenceScan
    · exact .inr (.inr ⟨mode, rfl⟩)
    · refine .inl ⟨s.setLocked false, .notAvailable, ?_, trivial, rfl⟩
      rw [start_of_other_mode rfl mode]
      rfl
  | tests other => cases other

/-- The scanner that an operation listens with, or is going to. -/
def scanner? : Activity → Option (Handle Scanner)
  | .queued (.scanPresence sc _ _) => some sc
  | .listening l => some l.scanner
  | _ => none

/-- Only presence scans listen. -/
theorem routine_of_scanner? {activity : Activity} {sc : Handle Scanner}
    (uses : activity.scanner? = some sc) : activity.routine = .listen := by
  cases activity with
  | queued request =>
    cases request with
    | scanPresence => rfl
    | _ => cases uses
  | listening l => rfl
  | _ => cases uses

end Activity

/-! ## Scanners in bounds -/

namespace Scanner

/-- A scanner that hears nothing. -/
theorem bounded_default : (default : Scanner).Bounded := ⟨Nat.zero_le _, Nat.zero_le _⟩

/-- What a scanner hears when it is put up fits. -/
theorem bounded_of_hearing {heard : List Detection} {scanner : Scanner}
    (put : hearing heard = .ok scanner) : scanner.Bounded := by
  unfold hearing at put
  split at put
  · rename_i few
    obtain rfl := Except.ok.inj put
    exact ⟨Nat.zero_le _, few⟩
  · cases put

end Scanner

namespace Station

variable {s t : Station} {n : Nat} {sc : Handle Scanner}

/-- There are at least so many scanners, and all of them are bounded. -/
structure Staffed (n : Nat) (s : Station) : Prop where
  bounded : ∀ sc, (s.scanners.get sc).Bounded
  count : n ≤ s.scanners.count

/-- What keeps the scanners keeps their bounds and their number. -/
theorem Staffed.of_eq (h : s.Staffed n) (same : t.scanners = s.scanners) : t.Staffed n where
  bounded sc := by
    rw [same]
    exact h.bounded sc
  count := by
    rw [same]
    exact h.count

/-- Nothing but what waits at one scanner has changed, and there is room for it. -/
theorem Staffed.requeues {queue : List PresenceReport} (h : s.Staffed n)
    (requeues : s.Requeues sc queue t) (few : queue.length ≤ scanQueueDepth) : t.Staffed n where
  bounded other := by
    by_cases is : other = sc
    · subst is
      refine ⟨?_, ?_⟩
      · rw [requeues.queue]
        exact few
      · rw [requeues.heard]
        exact (h.bounded other).heard
    · rw [requeues.others other is]
      exact h.bounded other
  count := by
    rw [requeues.count]
    exact h.count

/-- One more scanner. -/
theorem Staffed.add (h : s.Staffed n) {scanner : Scanner} (bounded : scanner.Bounded) :
    ({ s with scanners := (s.scanners.add scanner).1 } : Station).Staffed n where
  bounded other := by
    by_cases is : other = (s.scanners.add scanner).2
    · subst is
      show ((s.scanners.add scanner).1.get _).Bounded
      rw [Pool.get_add_self]
      exact bounded
    · show ((s.scanners.add scanner).1.get other).Bounded
      rw [Pool.get_add_of_ne _ is]
      exact h.bounded other
  count := Nat.le_succ_of_le h.count

/-- The current scanner is there once it was looked for. -/
theorem Staffed.currentScanner (h : s.Staffed n) : s.currentScanner.1.Staffed n ∧
    s.currentScanner.2.index < s.currentScanner.1.scanners.count := by
  unfold Station.currentScanner
  split
  · rename_i sc found
    refine ⟨h, ?_⟩
    unfold Pool.last? at found
    split at found
    · cases found
    · rename_i last count
      obtain rfl := Option.some.inj found
      show last < s.scanners.count
      omega
  · exact ⟨h.add Scanner.bounded_default, Nat.lt_succ_self _⟩

/-- A report waits, or it is lost. -/
theorem Staffed.report (h : s.Staffed n) (sc : Handle Scanner) (report : PresenceReport) :
    (s.report sc report).Staffed n := by
  rcases Nat.lt_or_ge (s.scanners.get sc).queue.length scanQueueDepth with room | full
  · refine h.requeues (report_of_room room report).1 ?_
    rw [List.length_append]
    exact room
  · rw [report_of_full (Nat.le_antisymm (h.bounded sc).queue full)]
    exact h.of_eq rfl

/-- A look at a presence scan. -/
theorem Staffed.checkListening (h : s.Staffed n) (l : BurstLink.Listening) :
    (s.checkListening l).1.Staffed n := by
  have collects := collects_checkListening l s
  generalize s.checkListening l = found at collects
  cases collects with
  | waits => exact h
  | stalled => exact h.of_eq rfl
  | sighted waiting some requeues => exact h.requeues requeues (Nat.zero_le _)
  | @done ds later t waiting requeues =>
    refine h.requeues requeues ?_
    have few := (h.bounded l.scanner).queue
    rw [waiting, List.length_append, List.length_cons] at few
    omega

/-- A presence scan that starts. -/
theorem Staffed.startListening (h : s.Staffed n) (sc : Handle Scanner) (channel : UInt8)
    (window : Nat) : (s.startListening sc channel window).1.Staffed n := by
  by_cases mode : s.mode = .presenceScan
  · cases silent : (s.scanners.get sc).silent with
    | true =>
      obtain ⟨t, started, requeues, -⟩ :=
        startListening_of_silent (h.bounded sc) channel window mode silent
      rw [started]
      exact h.requeues requeues (Nat.zero_le _)
    | false =>
      obtain ⟨t, started, requeues, -⟩ :=
        startListening_of_audible (h.bounded sc) channel window mode silent
      rw [started]
      exact h.requeues requeues (Nat.zero_le _)
  · rw [show s.startListening sc channel window = _ from if_neg mode]
    exact h

/-- **Every look keeps the scanners bounded.** -/
theorem Staffed.poll (h : s.Staffed n) (activity : Activity) : (activity.poll s).1.Staffed n := by
  by_cases listens : activity.routine = .listen
  · cases activity with
    | listening l => exact (h.checkListening l).of_eq rfl
    | queued request =>
      cases request with
      | scanPresence sc channel window =>
        rcases Activity.poll_scanPresence sc channel window s with ⟨t, failure, refused, -, same⟩ |
            waits | ⟨-, starts⟩
        · rw [refused]
          exact h.of_eq same
        · rw [waits]
          exact h
        · rw [starts]
          exact (h.startListening sc channel window).of_eq rfl
      | _ => cases listens
    | _ => cases listens
  · exact h.of_eq (Activity.scanners_poll listens s)

/-- Handing buffers back has nothing to do with scanners. -/
theorem scanners_releaseBuffers (s : Station) : s.releaseBuffers.scanners = s.scanners := by
  unfold releaseBuffers
  split <;> rfl

/-- Of a job that is over the buffers are handed back. -/
theorem Staffed.poll_job (h : s.Staffed n) (job : Job) : (job.poll s).1.Staffed n := by
  have looked := h.poll job.activity
  rw [Job.poll_eq]
  rcases found : job.activity.poll s with ⟨t, rest | result⟩
  · rw [found] at looked
    exact looked
  · rw [found] at looked
    exact looked.of_eq (scanners_releaseBuffers _)

/-- Giving an operation up leaves the scanners as they are: the queue is not drained. -/
theorem scanners_drop (job : Job) (s : Station) : (job.drop s).scanners = s.scanners :=
  (scanners_releaseBuffers _).trans (steers_drop job.activity s).scanners

/-- A step of the radio has nothing to do with scanners. -/
theorem scanners_serviceRadio (s : Station) : s.serviceRadio.scanners = s.scanners := by
  obtain ⟨buffers, same⟩ := s.serviceRadio_eq
  rw [same]

/-- Neither has its interrupt. -/
theorem scanners_pump (s : Station) : s.pump.1.scanners = s.scanners := by
  unfold pump
  dsimp only
  split
  · exact s.scanners_serviceRadio
  · split
    · obtain ⟨_, _, _, _, _, _, _, _, _, -, same⟩ := s.serviceRadio.handleInterrupt_eq
      rw [same]
      exact s.scanners_serviceRadio
    · exact s.scanners_serviceRadio

end Station

/-! ## Scanners of the jobs -/

namespace Station

variable {s : Station} {l l' : BurstLink.Listening}

/-- A scan that goes on collecting listens to the same scanner. -/
theorem scanner_of_collect (goesOn : (s.collect l).2 = .waiting l') : l'.scanner = l.scanner := by
  unfold collect at goesOn
  dsimp only at goesOn
  split at goesOn
  · cases goesOn
  · rw [← Look.waiting.inj goesOn]

/-- So does a scan that is looked at. -/
theorem scanner_of_checkListening (goesOn : (s.checkListening l).2 = .waiting l') :
    l'.scanner = l.scanner := by
  unfold checkListening at goesOn
  split at goesOn
  · split at goesOn
    · cases goesOn
    · rw [← Look.waiting.inj goesOn]
  · exact scanner_of_collect goesOn

/-- A scan that starts listens to the scanner that it was asked for. -/
theorem scanner_of_startListening {sc : Handle Scanner} {channel : UInt8} {window : Nat}
    (goesOn : (s.startListening sc channel window).2 = .waiting l') : l'.scanner = sc := by
  unfold startListening at goesOn
  split at goesOn
  · exact scanner_of_collect goesOn
  · cases goesOn

end Station

namespace Activity

/-- What goes on as a listening scan was one, or starts. -/
theorem listening_of_poll {activity : Activity} {s t : Station} {l' : BurstLink.Listening}
    (polled : activity.poll s = (t, .waiting (.listening l'))) :
    (∃ l u, activity = .listening l ∧ s.checkListening l = (u, .waiting l') ∧
        t = u.setLocked true) ∨
      ∃ sc channel window u, activity = .queued (.scanPresence sc channel window) ∧
        s.mode = .presenceScan ∧ s.startListening sc channel window = (u, .waiting l') ∧
        t = u.setLocked true := by
  have listens := routine_poll (congrArg Prod.snd polled)
  cases activity with
  | listening l =>
    obtain ⟨u, l'', found, named, locked⟩ := Station.exists_of_withLock polled
    obtain rfl := Activity.listening.inj named
    exact .inl ⟨l, u, rfl, found, locked⟩
  | queued request =>
    cases request with
    | scanPresence sc channel window =>
      rcases poll_scanPresence sc channel window s with ⟨u, failure, refused, -⟩ | waits |
          ⟨mode, starts⟩
      · exact absurd (congrArg Prod.snd (refused.symm.trans polled)) (by simp)
      · exact absurd (congrArg Prod.snd (waits.symm.trans polled)) (by simp)
      · obtain ⟨u, l'', found, named, locked⟩ :=
          Station.exists_of_withLock (starts.symm.trans polled)
        obtain rfl := Activity.listening.inj named
        exact .inr ⟨sc, channel, window, u, rfl, mode, found, locked⟩
    | _ => cases listens
  | _ => cases listens

/-- An operation keeps its scanner. -/
theorem scanner?_of_poll {activity rest : Activity} {s : Station} {sc : Handle Scanner}
    (goesOn : (activity.poll s).2 = .waiting rest) (uses : rest.scanner? = some sc) :
    activity.scanner? = some sc := by
  have listens := routine_poll goesOn
  rw [routine_of_scanner? uses] at listens
  cases activity with
  | listening l =>
    obtain ⟨l', found, rfl⟩ := Station.exists_of_asProgress goesOn
    exact (congrArg some (Station.scanner_of_checkListening found)).symm.trans uses
  | queued request =>
    cases request with
    | scanPresence sc' channel window =>
      rcases poll_scanPresence sc' channel window s with ⟨t, failure, refused, -⟩ | waits |
          ⟨-, starts⟩
      · rw [refused] at goesOn
        cases goesOn
      · rw [waits] at goesOn
        rw [← Look.waiting.inj goesOn] at uses
        exact uses
      · rw [starts] at goesOn
        obtain ⟨l', found, rfl⟩ := Station.exists_of_asProgress goesOn
        exact (congrArg some (Station.scanner_of_startListening found)).symm.trans uses
    | _ => cases listens
  | _ => cases listens

end Activity

namespace Bench

variable {b : Bench} {move : Move}

/-- All scanners are bounded, and those that the jobs listen with were put up. -/
structure Staffed (b : Bench) : Prop where
  bounded : ∀ sc, (b.station.scanners.get sc).Bounded
  known : ∀ job ∈ b.jobs, ∀ sc, job.activity.scanner? = some sc →
    sc.index < b.station.scanners.count

/-- The station as it is. -/
theorem Staffed.station (h : b.Staffed) : b.station.Staffed b.station.scanners.count :=
  ⟨h.bounded, Nat.le_refl _⟩

/-- Every move keeps the scanners bounded. -/
theorem Staffed.station_make (h : b.Staffed) (regular : move.Regular) :
    (b.make move).station.Staffed b.station.scanners.count := by
  have station := h.station
  cases move with
  | ask label work =>
    cases work with
    | request request => exact station
    | send packet ack => exact station.of_eq rfl
    | scanPresence channel window => exact station.currentScanner.1
  | look position =>
    show (b.lookAt position).station.Staffed _
    rcases b.lookAt_cases position with same | ⟨before, job, later, -, -, looked, -⟩
    · rw [same]
      exact station
    · rw [looked]
      exact station.poll_job job
  | giveUp position =>
    show (b.giveUp position).station.Staffed _
    rcases b.giveUp_cases position with same | ⟨before, job, later, -, -, dropped, -⟩
    · rw [same]
      exact station
    · rw [dropped]
      exact station.of_eq (Station.scanners_drop job _)
  | wait time => exact station.of_eq rfl
  | service => exact station.of_eq (Station.scanners_serviceRadio _)
  | pump => exact station.of_eq (Station.scanners_pump _)
  | turnPage => exact station.of_eq rfl
  | arrange command =>
    cases command with
    | schedule responses => exact station.of_eq rfl
    | setAir setting => exact station.of_eq rfl
    | putUpScanner heard =>
      show (b.execute _).1.station.Staffed _
      unfold execute
      dsimp only
      split
      · rename_i scanner put
        exact station.add (Scanner.bounded_of_hearing put)
      · exact station
    | setSilent on =>
      obtain ⟨current, -⟩ := station.currentScanner
      have silenced := Station.requeues_onScanner b.station.currentScanner.2
        (fun scanner => { scanner with silent := on }) (fun _ => rfl) b.station.currentScanner.1
      exact current.requeues silenced (current.bounded _).queue
    | report report => exact station.currentScanner.1.report ..
    | _ => exact absurd regular id

/-- Whoever listens with a scanner after a move did so before, or has just asked for it. -/
theorem Staffed.known_make (h : b.Staffed) (regular : move.Regular) {job : Job}
    (member : job ∈ (b.make move).jobs) {sc : Handle Scanner}
    (uses : job.activity.scanner? = some sc) :
    (∃ old ∈ b.jobs, old.activity.scanner? = some sc) ∨
      sc.index < (b.make move).station.scanners.count := by
  cases move with
  | ask label work =>
    -- only the newcomer can have a scanner that nobody had before
    have newcomer : ∀ new, (b.enlist label work).jobs = b.jobs ++ [new] →
        job ∈ b.jobs ∨ job = new := by
      intro new jobs
      have member : job ∈ (b.enlist label work).jobs := member
      rw [jobs, List.mem_append, List.mem_singleton] at member
      exact member
    cases work with
    | request request =>
      rcases newcomer _ rfl with old | rfl
      · exact .inl ⟨job, old, uses⟩
      · cases request with
        | scanPresence => exact absurd regular id
        | _ => cases uses
    | send packet ack =>
      rcases newcomer _ rfl with old | rfl
      · exact .inl ⟨job, old, uses⟩
      · cases uses
    | scanPresence channel window =>
      rcases newcomer _ rfl with old | rfl
      · exact .inl ⟨job, old, uses⟩
      · obtain rfl := Option.some.inj uses
        exact .inr h.station.currentScanner.2
  | look position =>
    have member : job ∈ (b.lookAt position).jobs := member
    rcases b.lookAt_cases position with same | ⟨before, looked, later, jobs, rfl, -, after⟩
    · rw [same] at member
      exact .inl ⟨job, member, uses⟩
    · rcases after with ⟨-, left⟩ | ⟨rest, goesOn, stayed⟩
      · rw [left] at member
        exact .inl ⟨job, jobs ▸ mem_of_others member, uses⟩
      · rw [stayed] at member
        rcases mem_exchange member with rfl | among
        · exact .inl ⟨looked, by simp [jobs], Activity.scanner?_of_poll goesOn uses⟩
        · exact .inl ⟨job, jobs ▸ mem_of_others among, uses⟩
  | giveUp position =>
    have member : job ∈ (b.giveUp position).jobs := member
    rcases b.giveUp_cases position with same | ⟨before, given, later, jobs, -, -, left⟩
    · rw [same] at member
      exact .inl ⟨job, member, uses⟩
    · rw [left] at member
      exact .inl ⟨job, jobs ▸ mem_of_others member, uses⟩
  | arrange command =>
    have jobs : (b.execute command).1.jobs = b.jobs := (execute_of_arranges regular).2.2
    exact .inl ⟨job, jobs ▸ member, uses⟩
  | _ => exact .inl ⟨job, member, uses⟩

/-- **What one move preserves.** -/
theorem Staffed.make (h : b.Staffed) (regular : move.Regular) : (b.make move).Staffed where
  bounded := (h.station_make regular).bounded
  known job member sc uses := by
    rcases h.known_make regular member uses with ⟨old, before, used⟩ | new
    · exact Nat.lt_of_lt_of_le (h.known old before sc used) (h.station_make regular).count
    · exact new

/-- At start-up no scanner has been put up, and nobody listens. -/
theorem staffed_startUp {s : Station} (start : s.AtStartUp) : (ofStation s).Staffed where
  bounded sc := by
    obtain ⟨draws, rfl | rfl⟩ := start
    · exact Scanner.bounded_default
    · exact Scanner.bounded_default
  known job member := by simp [ofStation] at member

/-- **In every run the scanners are bounded, and those that the jobs listen with were put up.** -/
theorem Reachable.staffed (h : b.Reachable) : b.Staffed :=
  h.induct (fun _ start => staffed_startUp start) fun _ staffed _ regular => staffed.make regular

end Bench

end BurstLink
