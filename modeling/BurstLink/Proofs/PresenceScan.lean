import BurstLink.Proofs.PresenceScan.Scanners

/-! # A presence scan lists what was reported since it began

A presence scan takes the reports that its scanner accepts from the moment it is told to listen, in
their order, up to the first one that the scanner is done. Reports come between looks, in any number
and at any time; the ones that find ten waiting are lost. Scans are given up or stall, and leave
reports behind. All the same, what a scan answers is a function of the reports that were accepted
since it began.

Main definitions:

* **`Tape`**, **`Bench.tapeBy`** — what is remembered of the scan in progress along a run.
* **`Station.Taped`** — how station and scan go with what is remembered.
* **`Bench.Accepts`**, **`Bench.Opens`**, **`Bench.Listens`** — what becomes of a report, of a scan
  that has not begun, and of one in progress.

Main statements: one move and a run (`Bench.TapedBy.make`, `Bench.TapedBy.after`), and
`Station.AtStartUp.heard_of_run`. -/

namespace BurstLink

/-! ## What is remembered -/

/-- What is remembered of the scan in progress. -/
structure Tape where
  /-- The scanner that it listens with. -/
  scanner : Handle Scanner := ⟨0⟩
  /-- The reports that were accepted since the scan began, oldest first. -/
  accepted : List PresenceReport := []
  /-- When it began to wait for the next report. -/
  began : Nat := 0
  deriving DecidableEq

namespace Bench

/-- The reports that wait at the current scanner. -/
def waiting (b : Bench) : List PresenceReport :=
  (b.station.currentScanner.1.scanners.get b.station.currentScanner.2).queue

/-- What is remembered after a move. A scan that begins forgets everything. A report is accepted if
there is room for it; when a look finds reports, the wait for the next one begins. -/
def tapeBy (b : Bench) (tape : Tape) : Move → Tape
  | .look position =>
    match b.jobs[position]? with
    | none => tape
    | some job =>
      match job.activity, (job.activity.poll b.station).2 with
      | .listening l, _ =>
        if (b.station.scanners.get l.scanner).queue = [] then tape
        else { tape with began := b.station.clock }
      | .queued _, .waiting (.listening l) => { scanner := l.scanner, began := b.station.clock }
      | _, _ => tape
  | .arrange (.report report) =>
    if b.station.currentScanner.2 = tape.scanner ∧ b.waiting.length < scanQueueDepth then
      { tape with accepted := tape.accepted ++ [report] }
    else tape
  | _ => tape

/-- What is remembered after some moves. -/
def tapeAfter (b : Bench) (tape : Tape) : List Move → Tape
  | [] => tape
  | move :: moves => (b.make move).tapeAfter (b.tapeBy tape move) moves

end Bench

/-! ## The invariant -/

namespace Station

variable {s t : Station} {l l' : BurstLink.Listening} {tape : Tape}

/-- How station and scan go with what is remembered. -/
structure Taped (l : BurstLink.Listening) (tape : Tape) (s : Station) : Prop where
  /-- It is the scanner of the scan. -/
  scanner : tape.scanner = l.scanner
  /-- Of the accepted reports the first ones are taken, and the others wait. -/
  order : ∃ taken, tape.accepted = taken.map .detected ++ (s.scanners.get l.scanner).queue ∧
    l.found = Sightings.table taken
  /-- The scan waits for twice its window. -/
  deadline : l.deadline = tape.began + 2 * l.window

/-- It is about the reports that wait only. -/
theorem Taped.transfer (h : s.Taped l tape)
    (same : (t.scanners.get l.scanner).queue = (s.scanners.get l.scanner).queue) :
    t.Taped l tape where
  scanner := h.scanner
  order := by
    rw [same]
    exact h.order
  deadline := h.deadline

/-- What is taken is in the table, and the others wait. -/
theorem Taped.order_lists (h : s.Taped l tape) : ∃ taken,
    tape.accepted = taken.map .detected ++ (s.scanners.get l.scanner).queue ∧
      Sightings.Lists taken l.found := by
  obtain ⟨taken, accepted, table⟩ := h.order
  refine ⟨taken, accepted, ?_⟩
  rw [table]
  exact Sightings.lists_table taken

/-- If no report waits, all of the accepted ones were detections. -/
theorem Taped.detections (h : s.Taped l tape) (empty : (s.scanners.get l.scanner).queue = []) :
    ∃ ds : List Detection, tape.accepted = ds.map .detected := by
  obtain ⟨taken, accepted, -⟩ := h.order
  rw [empty, List.append_nil] at accepted
  exact ⟨taken, accepted⟩

/-- **A look that goes on.** -/
theorem Taped.checked (h : s.Taped l tape) (found : s.checkListening l = (t, .waiting l')) :
    t.Taped l' (if (s.scanners.get l.scanner).queue = [] then tape
      else { tape with began := s.clock }) := by
  have collects := collects_checkListening l s
  rw [found] at collects
  cases collects with
  | waits empty =>
    rw [if_pos empty]
    exact h
  | @sighted ds _ waiting some requeues =>
    obtain ⟨taken, order, table⟩ := h.order
    have full : (s.scanners.get l.scanner).queue ≠ [] := by
      rw [waiting]
      exact fun none => some (List.map_eq_nil_iff.mp none)
    rw [if_neg full]
    refine ⟨h.scanner, ⟨taken ++ ds, ?_, ?_⟩, rfl⟩
    · show tape.accepted = (taken ++ ds).map .detected ++ (t.scanners.get l.scanner).queue
      rw [order, waiting, requeues.queue, List.map_append, List.append_nil]
    · rw [← Sightings.foldl_table, ← table]

/-- A scan that has just told a silent scanner to listen. -/
theorem taped_begun {sc : Handle Scanner} {channel : UInt8} {window : Nat}
    (requeues : s.Requeues sc [] t) :
    t.Taped ⟨sc, channel, window, [], s.clock + 2 * window⟩ ⟨sc, [], s.clock⟩ where
  scanner := rfl
  order := ⟨[], requeues.queue.symm, rfl⟩
  deadline := rfl

/-- **A report.** One that is accepted waits behind the others; one that is lost, or goes to another
scanner, is nothing to the scan. -/
theorem Taped.reported (h : s.Taped l tape) {sc : Handle Scanner}
    (bounded : (s.scanners.get sc).Bounded) (report : PresenceReport) : (s.report sc report).Taped l
      (if sc = tape.scanner ∧ (s.scanners.get sc).queue.length < scanQueueDepth then
        { tape with accepted := tape.accepted ++ [report] } else tape) := by
  rcases Nat.lt_or_ge (s.scanners.get sc).queue.length scanQueueDepth with room | full
  · obtain ⟨reported, -⟩ := report_of_room room report
    by_cases is : sc = tape.scanner
    · rw [if_pos ⟨is, room⟩]
      obtain rfl : sc = l.scanner := is.trans h.scanner
      obtain ⟨taken, order, table⟩ := h.order
      refine ⟨h.scanner, ⟨taken, ?_, table⟩, h.deadline⟩
      rw [reported.queue, ← List.append_assoc, ← order]
    · rw [if_neg fun both => is both.1]
      have apart : l.scanner ≠ sc := fun same => is (h.scanner.trans same).symm
      exact h.transfer (congrArg Scanner.queue (reported.others l.scanner apart))
  · rw [if_neg fun both => Nat.not_lt.mpr full both.2,
      report_of_full (Nat.le_antisymm bounded.queue full)]
    exact h.transfer rfl

end Station

/-! ## Along a run -/

namespace Bench

variable {b : Bench} {tape : Tape} {move : Move} {l : Listening}

/-- The scan in progress goes with what is remembered. -/
def TapedBy (b : Bench) (tape : Tape) : Prop :=
  ∀ job ∈ b.jobs, ∀ l, job.activity = .listening l → b.station.Taped l tape

/-- A look that a scan goes on after. -/
theorem taped_of_looked (h : b.TapedBy tape) (staffed : b.Staffed) {position : Nat} {job : Job}
    {t : Station} (found : b.jobs[position]? = some job)
    (polled : job.activity.poll b.station = (t, .waiting (.listening l))) :
    t.Taped l (b.tapeBy tape (.look position)) := by
  rcases Activity.listening_of_poll polled with ⟨l₀, u, was, checked, rfl⟩ |
      ⟨sc, channel, window, u, was, mode, started, rfl⟩
  · have before := h job (List.mem_of_getElem? found) l₀ was
    have remembered : b.tapeBy tape (.look position) =
        if (b.station.scanners.get l₀.scanner).queue = [] then tape
        else { tape with began := b.station.clock } := by
      simp [tapeBy, found, was]
    rw [remembered]
    exact (before.checked checked).transfer rfl
  · have remembered : b.tapeBy tape (.look position) =
        { scanner := l.scanner, began := b.station.clock } := by
      rw [was] at polled
      simp [tapeBy, found, was, polled]
    have bounded := staffed.bounded sc
    rw [remembered]
    cases silent : (b.station.scanners.get sc).silent with
    | true =>
      obtain ⟨v, waits, requeues, -⟩ :=
        Station.startListening_of_silent bounded channel window mode silent
      obtain ⟨rfl, goesOn⟩ := Prod.mk.inj (started.symm.trans waits)
      obtain rfl := Look.waiting.inj goesOn
      exact (Station.taped_begun requeues).transfer rfl
    | false =>
      -- a scanner that is not silent is done at once
      obtain ⟨v, ends, -⟩ :=
        Station.startListening_of_audible bounded channel window mode silent
      exact absurd (Prod.mk.inj (started.symm.trans ends)).2 (by simp)

/-- A look at a job that waits for the lock leaves everything as it is remembered. -/
theorem tapeBy_of_idle {position : Nat} (idle : ∀ job, b.jobs[position]? = some job →
    (∃ request, job.activity = .queued request) ∧
      Progress.holder (job.activity.poll b.station).2 = none) :
    b.tapeBy tape (.look position) = tape := by
  cases found : b.jobs[position]? with
  | none => simp only [tapeBy, found]
  | some job =>
    obtain ⟨⟨request, queued⟩, free⟩ := idle job found
    rw [queued] at free
    simp only [tapeBy, found, queued]
    generalize (Activity.queued request).poll b.station = looked at free ⊢
    obtain ⟨t, rest | result⟩ := looked
    · cases rest with
      | listening l => exact absurd free (by simp [Progress.holder, Activity.holdsLock])
      | _ => rfl
    · rfl

/-- **The surroundings are arranged.** Only a report to the scanner of the scan matters. -/
theorem taped_arranged (h : b.station.Taped l tape) (staffed : b.Staffed)
    (known : l.scanner.index < b.station.scanners.count) {command : Command}
    (arranges : command.Arranges) :
    (b.execute command).1.station.Taped l (b.tapeBy tape (.arrange command)) := by
  -- the scanner that is put up for a command, if there was none, is another one
  have current : b.station.currentScanner.1.scanners.get l.scanner =
      b.station.scanners.get l.scanner :=
    b.station.unchanged_currentScanner.scanners.entries l.scanner known
  cases command with
  | schedule responses => exact h.transfer rfl
  | setAir setting => exact h.transfer rfl
  | putUpScanner heard =>
    show (b.execute _).1.station.Taped l tape
    unfold execute
    dsimp only
    split
    · rename_i scanner put
      refine h.transfer (congrArg Scanner.queue ?_)
      exact (Pool.Grows.add b.station.scanners scanner).entries l.scanner known
    · exact h
  | setSilent on =>
    have silenced := Station.requeues_onScanner b.station.currentScanner.2
      (fun scanner => { scanner with silent := on }) (fun _ => rfl) b.station.currentScanner.1
    refine h.transfer ?_
    rw [← current]
    -- a silent scanner keeps what waits
    by_cases is : l.scanner = b.station.currentScanner.2
    · rw [is]
      exact silenced.queue
    · exact congrArg Scanner.queue (silenced.others l.scanner is)
  | report report =>
    have bounded := staffed.station.currentScanner.1.bounded b.station.currentScanner.2
    exact (h.transfer (congrArg Scanner.queue current)).reported bounded report
  | _ => exact absurd arranges id

/-- **What one move preserves.** -/
theorem TapedBy.make (h : b.TapedBy tape) (sound : b.Sound True True) (staffed : b.Staffed)
    (regular : move.Regular) : (b.make move).TapedBy (b.tapeBy tape move) := by
  intro job member l listens
  have tends := sound.tends_make regular member (by rw [listens]; rfl)
  rw [listens] at tends
  generalize (b.make move).station = t at tends
  cases tends with
  | looked found polled => exact taped_of_looked h staffed found polled
  | @beside move t job' member' same beside =>
    have before := h job' member' l same
    have known := staffed.known job' member' l.scanner (by rw [same]; rfl)
    -- what changes nothing leaves the scanner of the scan alone
    have untouched : ∀ {t}, b.station.Unchanged t → t.Taped l tape := fun unchanged =>
      before.transfer (congrArg Scanner.queue (unchanged.scanners.entries l.scanner known))
    have alike : ∀ {t : Station}, t.scanners = b.station.scanners → t.Taped l tape := fun same =>
      before.transfer (by rw [same])
    cases beside with
    | asked unchanged => exact untouched unchanged
    | gaveUp unchanged => exact untouched unchanged
    | overlooked idle unchanged =>
      rw [tapeBy_of_idle idle]
      exact untouched unchanged
    | waited time => exact alike rfl
    | served => exact alike (Station.scanners_serviceRadio _)
    | pumped => exact alike (Station.scanners_pump _)
    | arranged arranges => exact taped_arranged before staffed known arranges
    | turned => exact alike rfl

/-- **What a run preserves.** The induction is on the moves. -/
theorem TapedBy.after (h : b.TapedBy tape) (reachable : b.Reachable) (moves : List Move)
    (regular : ∀ move ∈ moves, move.Regular) :
    (b.after moves).TapedBy (b.tapeAfter tape moves) := by
  induction moves generalizing b tape with
  | nil => exact h
  | cons move moves ih =>
    have first : move.Regular := regular move (by simp)
    exact ih (h.make reachable.sound reachable.staffed first) (reachable.make move first)
      fun m member => regular m (by simp [member])

end Bench

/-! ## How a look turns out -/

namespace Station

variable {s t : Station} {l l' : BurstLink.Listening}

/-- A look at a presence scan that goes on. -/
theorem poll_listening_of_waiting (found : s.checkListening l = (t, .waiting l')) :
    (Activity.listening l).poll s = (t.setLocked true, .waiting (.listening l')) := by
  show withLock (ofListening (s.checkListening l)) = _
  rw [found]
  rfl

/-- A look at a presence scan that is over. -/
theorem poll_listening_of_finished {result : Except Failure (List Detection)}
    (found : s.checkListening l = (t, .finished result)) :
    (Activity.listening l).poll s = (t.setLocked false, .finished (result.map .devices)) := by
  show withLock (ofListening (s.checkListening l)) = _
  rw [found]
  rfl

end Station

/-- What a presence scan that has not begun answers at once: it is refused, or it lists all that its
scanner hears. -/
theorem Activity.answer_of_poll_scanPresence {s t : Station} {sc : Handle Scanner} {channel : UInt8}
    {window : Nat} {result : Result} (bounded : (s.scanners.get sc).Bounded)
    (looked : (queued (.scanPresence sc channel window)).poll s = (t, .finished result)) :
    (∃ failure, result = .error failure ∧ failure.IsRejection) ∨
      ∃ list, result = .ok (.devices list) ∧
        Sightings.Lists (s.scanners.get sc).heard list := by
  rcases poll_scanPresence sc channel window s with ⟨u, failure, refused, rejected, -⟩ | waits |
      ⟨mode, starts⟩
  · have same := congrArg Prod.snd (looked.symm.trans refused)
    exact .inl ⟨failure, Look.finished.inj same, rejected⟩
  · exact absurd (congrArg Prod.snd (waits.symm.trans looked)) (by simp)
  · cases silent : (s.scanners.get sc).silent with
    | true =>
      obtain ⟨u, goesOn, -⟩ := Station.startListening_of_silent bounded channel window mode silent
      rw [goesOn] at starts
      have same : Look.waiting _ = Look.finished result :=
        congrArg Prod.snd (starts.symm.trans looked)
      cases same
    | false =>
      obtain ⟨u, ends, -⟩ := Station.startListening_of_audible bounded channel window mode silent
      rw [ends] at starts
      have same := congrArg Prod.snd (starts.symm.trans looked)
      exact .inr ⟨_, (Look.finished.inj same).symm, Sightings.lists_table _⟩

namespace Bench

variable {b : Bench} {tape : Tape} {job : Job} {l : Listening} {sc : Handle Scanner}
  {channel : UInt8} {window : Nat}

/-- What becomes of a report to the current scanner. -/
structure Accepts (b : Bench) (report : PresenceReport) : Prop where
  /-- Never more than ten reports wait. -/
  few : b.waiting.length ≤ scanQueueDepth
  /-- If ten wait the report is lost, which the log is told. -/
  lost : b.waiting.length = scanQueueDepth →
    (b.make (.arrange (.report report))).station =
      b.station.currentScanner.1.note (.reportLost report)
  /-- Otherwise it waits behind the others, and the log is not told. -/
  accepted : b.waiting.length < scanQueueDepth →
    b.station.currentScanner.1.Requeues b.station.currentScanner.2 (b.waiting ++ [report])
        (b.make (.arrange (.report report))).station ∧
      (b.make (.arrange (.report report))).station.journal = b.station.journal

/-- How a look at a presence scan that has not begun turns out. -/
structure Opens (b : Bench) (job : Job) (sc : Handle Scanner) (channel : UInt8)
    (window : Nat) : Prop where
  /-- A scanner that is not silent is heard at once. What it hears fits into the queue, so nothing
  is lost, and the answer lists it. -/
  heard : b.station.locked = false → b.station.mode = .presenceScan → channel ≤ maxChannel →
    (b.station.scanners.get sc).silent = false →
    ∃ t completion list, job.poll b.station = (t, .finished completion) ∧
      completion.result = .ok (.devices list) ∧
      Sightings.Lists (b.station.scanners.get sc).heard list ∧
      (b.station.scanners.get sc).heard.length ≤ Overflow.detections.limit ∧
      t.journal = b.station.journal ∧ (t.scanners.get sc).queue = []
  /-- A silent one is waited for. The reports that waited are forgotten, and nothing is
  remembered. -/
  begun : b.station.locked = false → b.station.mode = .presenceScan → channel ≤ maxChannel →
    (b.station.scanners.get sc).silent = true →
    ∃ t, job.poll b.station = (t, .waiting { job with
        activity := .listening ⟨sc, channel, window, [], b.station.clock + 2 * window⟩ }) ∧
      (t.scanners.get sc).queue = [] ∧ t.journal = b.station.journal ∧
      ∀ tape position, b.jobs[position]? = some job →
        b.tapeBy tape (.look position) = ⟨sc, [], b.station.clock⟩
  /-- If it ends with this look, it is refused, or what the scanner hears is listed. -/
  answers : ∀ t completion, job.poll b.station = (t, .finished completion) →
    (∃ failure, completion.result = .error failure ∧ failure.IsRejection) ∨
      ∃ list, completion.result = .ok (.devices list) ∧
        Sightings.Lists (b.station.scanners.get sc).heard list

/-- How a look at a presence scan in progress turns out, in terms of what is remembered of the
run. -/
structure Listens (tape : Tape) (b : Bench) (job : Job) (l : Listening) : Prop where
  /-- Of the reports that were accepted since the scan began the first ones have been taken, in
  order and each of them once, and the others wait in order. -/
  order : ∃ taken, tape.accepted =
      taken.map .detected ++ (b.station.scanners.get l.scanner).queue ∧
    Sightings.Lists taken l.found
  /-- If the scanner is done, the look ends the scan. It lists what was accepted before, and leaves
  what was accepted later. -/
  done : ∀ ds later, tape.accepted = ds.map .detected ++ .done :: later →
    ∃ t completion list, job.poll b.station = (t, .finished completion) ∧
      completion.result = .ok (.devices list) ∧ Sightings.Lists ds list ∧
      t.locked = false ∧ (t.scanners.get l.scanner).queue = later
  /-- If nothing waits, and nothing has come for twice the window, the look ends the scan. -/
  stalled : (b.station.scanners.get l.scanner).queue = [] →
    tape.began + 2 * l.window ≤ b.station.clock →
    ∃ t completion, job.poll b.station = (t, .finished completion) ∧
      completion.result = .error .scanStalled ∧ t.locked = false
  /-- It ends in no other way. -/
  answers : ∀ t completion, job.poll b.station = (t, .finished completion) →
    (∃ ds later list, tape.accepted = ds.map .detected ++ .done :: later ∧
        completion.result = .ok (.devices list) ∧ Sightings.Lists ds list) ∨
      completion.result = .error .scanStalled ∧
        (b.station.scanners.get l.scanner).queue = [] ∧
        tape.began + 2 * l.window ≤ b.station.clock
  /-- Otherwise it goes on listening, with the same scanner and for the same window, and has taken
  all that was accepted. If nothing waits, it changes nothing. -/
  goesOn : ∀ t job', job.poll b.station = (t, .waiting job') →
    (∃ l' ds, job' = { job with activity := .listening l' } ∧ l'.scanner = l.scanner ∧
        l'.channel = l.channel ∧ l'.window = l.window ∧
        tape.accepted = ds.map .detected ∧ Sightings.Lists ds l'.found ∧
        (t.scanners.get l.scanner).queue = []) ∧
      ((b.station.scanners.get l.scanner).queue = [] → t = b.station ∧ job' = job)

/-- **What becomes of a report.** -/
theorem Staffed.accepts (h : b.Staffed) (report : PresenceReport) : b.Accepts report := by
  obtain ⟨scanners, current⟩ := b.station.currentScanner_fst
  have untold : b.station.currentScanner.1.journal = b.station.journal := by rw [current]
  refine ⟨(h.station.currentScanner.1.bounded _).queue, ?_, ?_⟩
  · intro full
    exact Station.report_of_full full report
  · intro room
    obtain ⟨reported, quiet⟩ := Station.report_of_room room report
    exact ⟨reported, quiet.trans untold⟩

/-- With the lock free a scan in range begins. -/
theorem poll_scanPresence_of_free
    (queued : job.activity = .queued (.scanPresence sc channel window))
    (free : b.station.locked = false) (inRange : channel ≤ maxChannel) :
    job.activity.poll b.station =
      Station.withLock (Station.ofListening (b.station.startListening sc channel window)) := by
  have undecided : (Request.scanPresence sc channel window).answer? = none := by
    show Request.refusal? (checkChannel channel) = none
    rw [checkChannel_eq_ok_iff.mpr inRange]
    rfl
  rw [queued]
  exact Activity.poll_queued_of_free free undecided rfl

/-- **A look at a presence scan that has not begun.** -/
theorem Staffed.opens (h : b.Staffed)
    (queued : job.activity = .queued (.scanPresence sc channel window)) :
    b.Opens job sc channel window := by
  have bounded := h.bounded sc
  refine ⟨?_, ?_, ?_⟩
  · intro free mode inRange audible
    obtain ⟨t, ends, requeues, untold⟩ :=
      Station.startListening_of_audible bounded channel window mode audible
    have polled := poll_scanPresence_of_free queued free inRange
    rw [ends] at polled
    have ended := Job.poll_of_finished polled
    have released := Station.unchanged_releaseBuffers (t.setLocked false)
    refine ⟨_, _, _, ended, rfl, Sightings.lists_table _, bounded.heard, ?_, ?_⟩
    · exact (congrArg Station.journal released.rest).trans untold
    · rw [Station.scanners_releaseBuffers]
      exact requeues.queue
  · intro free mode inRange silent
    obtain ⟨t, waits, requeues, untold⟩ :=
      Station.startListening_of_silent bounded channel window mode silent
    have polled := poll_scanPresence_of_free queued free inRange
    rw [waits] at polled
    refine ⟨t.setLocked true, Job.poll_of_waiting polled, requeues.queue, untold, ?_⟩
    intro tape position found
    rw [queued] at polled
    simp only [tapeBy, found, queued, polled]
    rfl
  · intro t completion polled
    obtain ⟨u, looked, -⟩ := Job.poll_finished polled
    rw [queued] at looked
    exact Activity.answer_of_poll_scanPresence bounded looked

/-- A look at a scan that goes on. The accepted reports do not say that the scanner is done, and if
none of them waits the look is early and changes nothing. -/
theorem listens_of_goesOn (h : b.station.Taped l tape) {t : Station} {l' : Listening}
    {ds : List Detection}
    (polled : job.poll b.station = (t, .waiting { job with activity := .listening l' }))
    (kept : l'.scanner = l.scanner ∧ l'.channel = l.channel ∧ l'.window = l.window)
    (detected : tape.accepted = ds.map .detected) (lists : Sightings.Lists ds l'.found)
    (taken : (t.scanners.get l.scanner).queue = [])
    (early : (b.station.scanners.get l.scanner).queue = [] →
      b.station.clock < l.deadline ∧ t = b.station ∧
        { job with activity := .listening l' } = job) : b.Listens tape job l where
  order := h.order_lists
  done ds' later done := absurd (detected.symm.trans done) Station.detected_ne_done
  stalled empty late := absurd (h.deadline ▸ late) (Nat.not_le.mpr (early empty).1)
  answers t' completion ended := absurd (Prod.mk.inj (polled.symm.trans ended)).2 (by simp)
  goesOn t' job' polled' := by
    obtain ⟨rfl, goesOn⟩ := Prod.mk.inj (polled.symm.trans polled')
    obtain rfl := Look.waiting.inj goesOn
    obtain ⟨scanner, channel, window⟩ := kept
    exact ⟨⟨l', ds, rfl, scanner, channel, window, detected, lists, taken⟩,
      fun empty => (early empty).2⟩

/-- A look that finds that nothing has come in time. -/
theorem listens_of_stalled (h : b.station.Taped l tape)
    (empty : (b.station.scanners.get l.scanner).queue = []) (late : l.deadline ≤ b.station.clock)
    {t : Station} {completion : Completion}
    (ended : job.poll b.station = (t, .finished completion)) (free : t.locked = false)
    (result : completion.result = .error .scanStalled) : b.Listens tape job l where
  order := h.order_lists
  done := by
    obtain ⟨ds, detected⟩ := h.detections empty
    intro ds' later done
    exact absurd (detected.symm.trans done) Station.detected_ne_done
  stalled _ _ := ⟨t, completion, ended, result, free⟩
  answers t' completion' ended' := by
    obtain rfl := Look.finished.inj (Prod.mk.inj (ended.symm.trans ended')).2
    exact .inr ⟨result, empty, h.deadline ▸ late⟩
  goesOn t' job' polled := absurd (Prod.mk.inj (ended.symm.trans polled)).2 (by simp)

/-- A look that finds the scanner done. -/
theorem listens_of_done (h : b.station.Taped l tape) {ds list : List Detection}
    {later : List PresenceReport} {t : Station} {completion : Completion}
    (all : tape.accepted = ds.map .detected ++ .done :: later)
    (ended : job.poll b.station = (t, .finished completion)) (free : t.locked = false)
    (result : completion.result = .ok (.devices list)) (lists : Sightings.Lists ds list)
    (left : (t.scanners.get l.scanner).queue = later) : b.Listens tape job l where
  order := h.order_lists
  done ds' later' done := by
    obtain ⟨rfl, rfl⟩ := Station.detected_append_done_inj (all.symm.trans done)
    exact ⟨t, completion, list, ended, result, lists, free, left⟩
  stalled empty := by
    obtain ⟨taken, detected⟩ := h.detections empty
    exact absurd (detected.symm.trans all) Station.detected_ne_done
  answers t' completion' ended' := by
    obtain rfl := Look.finished.inj (Prod.mk.inj (ended.symm.trans ended')).2
    exact .inl ⟨ds, later, list, all, result, lists⟩
  goesOn t' job' polled := absurd (Prod.mk.inj (ended.symm.trans polled)).2 (by simp)

/-- **A look at a presence scan that goes with what is remembered** turns out as that says. -/
theorem TapedBy.listens (h : b.TapedBy tape) (sound : b.Sound True True) (member : job ∈ b.jobs)
    (listens : job.activity = .listening l) : b.Listens tape job l := by
  have taped := h job member l listens
  obtain ⟨taken, accepted, table⟩ := taped.order
  have locked := (sound.held member (by rw [listens]; rfl)).1
  have goesOn : ∀ {t l'}, b.station.checkListening l = (t, .waiting l') → job.poll b.station =
      (t.setLocked true, .waiting { job with activity := .listening l' }) := by
    intro t l' found
    refine Job.poll_of_waiting ?_
    rw [listens]
    exact Station.poll_listening_of_waiting found
  have ends : ∀ {t result}, b.station.checkListening l = (t, .finished result) →
      job.poll b.station = ((t.setLocked false).releaseBuffers,
        .finished ⟨job.label, result.map .devices, job.packets (t.setLocked false)⟩) := by
    intro t result found
    refine Job.poll_of_finished ?_
    rw [listens]
    exact Station.poll_listening_of_finished found
  -- the table after more detections
  have lists : ∀ ds : List Detection, Sightings.Lists (taken ++ ds)
      (ds.foldl (fun found d => Sightings.see d found) l.found) := by
    intro ds
    rw [table, Sightings.foldl_table]
    exact Sightings.lists_table _
  have collects := Station.collects_checkListening l b.station
  generalize looked : b.station.checkListening l = found at collects
  cases collects with
  | waits empty early =>
    have all : tape.accepted = (taken ++ []).map .detected := by
      rw [accepted, empty, List.append_nil, List.append_nil]
    refine listens_of_goesOn taped (goesOn looked) ⟨rfl, rfl, rfl⟩ all (lists []) empty ?_
    intro _
    rw [← listens]
    exact ⟨early, Station.setLocked_of_locked locked, rfl⟩
  | stalled empty late =>
    exact listens_of_stalled taped empty late (ends looked) (Station.releaseBuffers_locked _) rfl
  | @sighted ds _ waiting some requeues =>
    have all : tape.accepted = (taken ++ ds).map .detected := by
      rw [accepted, waiting, List.map_append]
    refine listens_of_goesOn taped (goesOn looked) ⟨rfl, rfl, rfl⟩ all (lists ds)
      requeues.queue ?_
    intro empty
    exact absurd (List.map_eq_nil_iff.mp (waiting.symm.trans empty)) some
  | @done ds later t waiting requeues =>
    have all : tape.accepted = (taken ++ ds).map .detected ++ .done :: later := by
      rw [accepted, waiting, List.map_append, List.append_assoc]
    refine listens_of_done taped all (ends looked) (Station.releaseBuffers_locked _) rfl
      (lists ds) ?_
    rw [Station.scanners_releaseBuffers]
    exact requeues.queue

end Bench

/-- **A presence scan lists what was reported since it began.** In every run, whatever was scanned,
reported or given up before: a report waits behind the others, unless ten wait; only then it is
lost. A scan that begins forgets the reports that wait. With a scanner that is not silent it is over
at once, nothing is lost, and it lists all that the scanner hears. Otherwise it takes the reports
that are accepted from then on in their order, whenever they come. It lists the devices that were
detected before the first report that the scanner is done, or it stalls, if a look finds that none
has come for twice the window. -/
theorem Station.AtStartUp.heard_of_run {s : Station} (start : s.AtStartUp) (moves : List Move)
    (regular : ∀ move ∈ moves, move.Regular) :
    let b := (Bench.ofStation s).after moves
    let tape := (Bench.ofStation s).tapeAfter {} moves
    (∀ report, b.Accepts report) ∧
    (∀ job ∈ b.jobs, ∀ sc channel window,
      job.activity = .queued (.scanPresence sc channel window) → b.Opens job sc channel window) ∧
    ∀ job ∈ b.jobs, ∀ l, job.activity = .listening l → b.Listens tape job l := by
  intro b tape
  have reachable : b.Reachable := (Bench.Reachable.startUp start).after moves regular
  have staffed : b.Staffed := reachable.staffed
  have nobody : (Bench.ofStation s).TapedBy {} := by simp [Bench.TapedBy, Bench.ofStation]
  have taped : b.TapedBy tape := nobody.after (.startUp start) moves regular
  exact ⟨fun report => staffed.accepts report,
    fun job member sc channel window queued => staffed.opens queued,
    fun job member l listens => taped.listens reachable.sound member listens⟩

/-- A device that is detected. -/
def Detection.ofDevice (last : UInt8) (rssi : Int8) : Detection :=
  ⟨#v[0xc0, 0xff, 0xee, 0x00, 0x00, last], rssi⟩

/-- A scanner that hears a device is silenced while a scan waits to begin, and two reports come that
the scan forgets. Two devices are detected, and after the next look the first of them nine times
more, until the scanner is done. -/
def Bench.crowdedMoves : List Move :=
  [.ask none (.request (.switchMode .presenceScan)), .look 0,
    .arrange (.putUpScanner [.ofDevice 3 (-60)]), .ask none (.scanPresence 37 10000),
    .arrange (.setSilent true), .arrange (.report (.detected (.ofDevice 9 (-10)))),
    .arrange (.report .done), .look 0, .arrange (.report (.detected (.ofDevice 1 (-40)))),
    .arrange (.report (.detected (.ofDevice 2 (-50)))), .wait 500, .look 0] ++
  List.replicate 9 (.arrange (.report (.detected (.ofDevice 1 (-30))))) ++
  [.arrange (.report .done)]

/-- Before it was silenced, the scanner would have been heard. In the end ten reports wait, the next
one is lost, and a look at the scan lists both devices. -/
theorem Bench.heard_of_crowded :
    let start := Bench.ofStation (.withFrontEnd .zeros)
    let early := start.after (crowdedMoves.take 4)
    let queued : Job := ⟨none, none, .queued (.scanPresence ⟨0⟩ 37 10000)⟩
    let b := start.after crowdedMoves
    let listening : Job := ⟨none, none,
      .listening ⟨⟨0⟩, 37, 10000, [.ofDevice 1 (-40), .ofDevice 2 (-50)], 20500⟩⟩
    (∀ move ∈ crowdedMoves, move.Regular) ∧
      (queued ∈ early.jobs ∧ ∃ t completion, queued.poll early.station = (t, .finished completion) ∧
        completion.result = .ok (.devices [.ofDevice 3 (-60)])) ∧
      (b.waiting.length = 10 ∧ (b.make (.arrange (.report .done))).station =
        b.station.currentScanner.1.note (.reportLost .done)) ∧
      listening ∈ b.jobs ∧ ∃ t completion, listening.poll b.station = (t, .finished completion) ∧
        completion.result = .ok (.devices [.ofDevice 1 (-30), .ofDevice 2 (-50)]) := by
  intro start early queued b listening
  have regular : ∀ move ∈ crowdedMoves, move.Regular := by decide
  obtain ⟨-, opens, -⟩ := Station.AtStartUp.heard_of_run ⟨.zeros, .inl rfl⟩
    (crowdedMoves.take 4) (by decide)
  obtain ⟨accepts, -, listens⟩ :=
    Station.AtStartUp.heard_of_run ⟨.zeros, .inl rfl⟩ crowdedMoves regular
  have waits : queued ∈ early.jobs := by decide +kernel
  have member : listening ∈ b.jobs := by decide +kernel
  have full : b.waiting.length = 10 := by decide +kernel
  refine ⟨regular, ⟨waits, ?_⟩, ⟨full, (accepts .done).lost full⟩, member, ?_⟩
  · obtain ⟨t, completion, list, polled, result, lists, -⟩ :=
      (opens queued waits ⟨0⟩ 37 10000 rfl).heard (by decide +kernel) (by decide +kernel)
        (by decide) (by decide +kernel)
    refine ⟨t, completion, polled, ?_⟩
    rw [result, lists.eq_table]
    decide +kernel
  · let ds : List Detection :=
      [.ofDevice 1 (-40), .ofDevice 2 (-50)] ++ List.replicate 9 (.ofDevice 1 (-30))
    have accepted : (start.tapeAfter {} crowdedMoves).accepted =
        ds.map .detected ++ .done :: [] := by decide +kernel
    obtain ⟨t, completion, list, polled, result, lists, -⟩ :=
      (listens listening member _ rfl).done _ _ accepted
    refine ⟨t, completion, polled, ?_⟩
    rw [result, lists.eq_table]
    decide +kernel

end BurstLink
