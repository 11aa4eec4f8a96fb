import BurstLink.Proofs.Footprint
import BurstLink.Proofs.PresenceScan.Table

/-! # Reports, and the looks that take them

A scanner reports into its queue, and loses a report exactly if ten of them wait. A presence scan
takes what waits in order, up to the report that the scanner is done. When it tells the scanner to
listen, the queue is empty, and what the scanner announces at once fits into it.

Main definitions:

* **`Station.Requeues`** — one scanner was used, and these reports wait now.
* **`Station.Collects`** — how a look at a presence scan turns out.

Main statements: a report (`Station.report_of_full`, `Station.report_of_room`), the first look at a
scan (`Station.startListening_of_audible`, `Station.startListening_of_silent`), and every later one
(`Station.collects_checkListening`). -/

namespace BurstLink

namespace Pool

variable {α : Type}

/-- The item that was changed. -/
@[simp] theorem get_modify_self (pool : Pool α) (h : Handle α) (f : α → α) :
    (pool.modify h f).get h = f (pool.get h) := get_set_self ..

/-- The other items are left alone. -/
theorem get_modify_of_ne (pool : Pool α) {h k : Handle α} (ne : k ≠ h) (f : α → α) :
    (pool.modify h f).get k = pool.get k := get_set_of_ne _ ne _

end Pool

/-- A scanner hears as much as it can announce at once, and there is room for what waits. -/
structure Scanner.Bounded (sc : Scanner) : Prop where
  queue : sc.queue.length ≤ scanQueueDepth
  heard : sc.heard.length ≤ Overflow.detections.limit

/-- There is room for what a scanner announces at once. -/
theorem Scanner.Bounded.announcements {scanner : Scanner}
    (h : scanner.Bounded) : scanner.announcements.length ≤ scanQueueDepth := by
  have few := h.heard
  unfold Scanner.announcements
  split
  · exact Nat.zero_le _
  · rw [List.length_append, List.length_map]
    exact Nat.le_trans (Nat.add_le_add_right few 1) (by decide)

namespace Station

variable {s t u : Station} {sc : Handle Scanner} {queue later : List PresenceReport}
  {ds : List Detection} {l : BurstLink.Listening}

/-! ## What waits -/

/-- Of the scanners only one was used. It hears what it heard before, and these reports wait now. -/
structure Requeues (sc : Handle Scanner) (queue : List PresenceReport) (s t : Station) : Prop where
  hears : s.Hears t
  count : t.scanners.count = s.scanners.count
  others : ∀ other, other ≠ sc → t.scanners.get other = s.scanners.get other
  heard : (t.scanners.get sc).heard = (s.scanners.get sc).heard
  queue : (t.scanners.get sc).queue = queue

/-- The reports that wait after two steps are those that wait after the second one. -/
theorem Requeues.trans (h : s.Requeues sc later t) (h' : t.Requeues sc queue u) :
    s.Requeues sc queue u where
  hears := h.hears.trans h'.hears
  count := h'.count.trans h.count
  others other apart := (h'.others other apart).trans (h.others other apart)
  heard := h'.heard.trans h.heard
  queue := h'.queue

/-- The log may be told as well. -/
theorem requeues_journal (journal : List Notice) (s : Station) :
    s.Requeues sc (s.scanners.get sc).queue { s with journal := journal } :=
  ⟨rfl, rfl, fun _ _ => rfl, rfl, rfl⟩

/-- No time passes meanwhile. -/
theorem Requeues.clock (h : s.Requeues sc queue t) : t.clock = s.clock := by
  have same := h.hears
  unfold Hears at same
  rw [same]

/-- A scanner that is changed hears what it heard. -/
theorem requeues_onScanner (sc : Handle Scanner) (f : Scanner → Scanner)
    (heard : ∀ scanner, (f scanner).heard = scanner.heard) (s : Station) :
    s.Requeues sc (f (s.scanners.get sc)).queue (s.onScanner sc f) where
  hears := rfl
  count := rfl
  others _ apart := Pool.get_modify_of_ne _ apart f
  heard := by
    show ((s.scanners.modify sc f).get sc).heard = _
    rw [Pool.get_modify_self]
    exact heard _
  queue := by
    show ((s.scanners.modify sc f).get sc).queue = _
    rw [Pool.get_modify_self]

/-! ## Reports -/

/-- A report is lost if ten wait: only the log is told. -/
theorem report_of_full (full : (s.scanners.get sc).queue.length = scanQueueDepth)
    (report : PresenceReport) : s.report sc report = s.note (.reportLost report) :=
  if_pos (by simp [Scanner.isFull, full])

/-- With fewer of them it waits behind them, and the log is not told. -/
theorem report_of_room (room : (s.scanners.get sc).queue.length < scanQueueDepth)
    (report : PresenceReport) :
    s.Requeues sc ((s.scanners.get sc).queue ++ [report]) (s.report sc report) ∧
      (s.report sc report).journal = s.journal := by
  have fits : (s.scanners.get sc).isFull = false := by
    simp only [Scanner.isFull, decide_eq_false_iff_not]
    omega
  have queued : s.report sc report = s.onScanner sc (Scanner.report report) :=
    if_neg (by simp [fits])
  have kept : ∀ scanner : Scanner, (scanner.report report).heard = scanner.heard := by
    intro scanner
    unfold Scanner.report
    split <;> rfl
  have waiting : ((s.scanners.get sc).report report).queue =
      (s.scanners.get sc).queue ++ [report] := by
    unfold Scanner.report
    rw [if_neg (by simp [fits])]
  have requeues := requeues_onScanner sc _ kept s
  rw [waiting] at requeues
  rw [queued]
  exact ⟨requeues, rfl⟩

/-- Reports in a row, as long as there is room for all of them. The induction is on the reports. -/
theorem reports_of_room (sc : Handle Scanner) (reports : List PresenceReport)
    (room : (s.scanners.get sc).queue.length + reports.length ≤ scanQueueDepth) :
    s.Requeues sc ((s.scanners.get sc).queue ++ reports)
        (reports.foldl (fun s r => s.report sc r) s) ∧
      (reports.foldl (fun s r => s.report sc r) s).journal = s.journal := by
  induction reports generalizing s with
  | nil =>
    rw [List.append_nil]
    exact ⟨s.requeues_journal s.journal, rfl⟩
  | cons r reports ih =>
    rw [List.length_cons] at room
    have roomy : (s.scanners.get sc).queue.length < scanQueueDepth := by omega
    obtain ⟨first, untold⟩ := report_of_room roomy r
    have next := ih (s := s.report sc r) (by
      rw [first.queue, List.length_append, List.length_singleton]
      omega)
    rw [first.queue, List.append_assoc] at next
    exact ⟨first.trans next.1, next.2.trans untold⟩

/-! ## Taking reports -/

/-- Reports are detections, up to the one that the scanner is done. -/
theorem reports_cases (reports : List PresenceReport) :
    (∃ ds : List Detection, reports = ds.map .detected) ∨
      ∃ (ds : List Detection) (later : _), reports = ds.map .detected ++ .done :: later := by
  induction reports with
  | nil => exact .inl ⟨[], rfl⟩
  | cons r reports ih =>
    cases r with
    | done => exact .inr ⟨[], reports, rfl⟩
    | detected d =>
      rcases ih with ⟨ds, rfl⟩ | ⟨ds, later, rfl⟩
      · exact .inl ⟨d :: ds, rfl⟩
      · exact .inr ⟨d :: ds, later, rfl⟩

/-- There is only one way to see them so. The induction is on the detections. -/
theorem detected_append_done_inj {ds ds' : List Detection} {later later' : List PresenceReport}
    (same : ds.map .detected ++ .done :: later = ds'.map .detected ++ .done :: later') :
    ds = ds' ∧ later = later' := by
  induction ds generalizing ds' with
  | nil =>
    cases ds' with
    | nil => exact ⟨rfl, (List.cons.inj same).2⟩
    | cons d' ds' => cases same
  | cons d ds ih =>
    cases ds' with
    | nil => cases same
    | cons d' ds' =>
      obtain ⟨first, rest⟩ := List.cons.inj same
      obtain ⟨rfl, rfl⟩ := ih rest
      exact ⟨congrArg (· :: ds) (PresenceReport.detected.inj first), rfl⟩

/-- Detections alone do not say that the scanner is done. -/
theorem detected_ne_done {ds ds' : List Detection} {later : List PresenceReport} :
    ds.map PresenceReport.detected ≠ ds'.map .detected ++ .done :: later := by
  intro same
  have member : PresenceReport.done ∈ ds.map PresenceReport.detected := by
    rw [same]
    simp
  simp at member

/-- Detections are taken in order. As long as the table cannot become full, the log is not told. The
induction is on the detections. -/
theorem takeReports_append (ds : List Detection) (later : List PresenceReport)
    (found : List Detection) (s : Station) : ∃ journal,
    takeReports (ds.map .detected ++ later) found s = takeReports later
        (ds.foldl (fun found d => Sightings.see d found) found) { s with journal := journal } ∧
      (found.length + ds.length ≤ maxPresenceDevices → journal = s.journal) := by
  -- on the detections that wait: the log is told of those for which there is no room
  induction ds generalizing found s with
  | nil => exact ⟨s.journal, rfl, fun _ => rfl⟩
  | cons d ds ih =>
    have sighted : ∃ journal, s.sight d found =
          ({ s with journal := journal }, Sightings.see d found) ∧
        (found.length < maxPresenceDevices → journal = s.journal) := by
      cases drops : Sightings.drops d found with
      | true =>
        refine ⟨.tableFull d :: s.journal, by simp [sight, drops, note], fun room => ?_⟩
        simp [Sightings.drops, Sightings.isFull, Nat.not_le.mpr room] at drops
      | false => exact ⟨s.journal, by simp [sight, drops], fun _ => rfl⟩
    obtain ⟨journal, seen, told⟩ := sighted
    obtain ⟨journal', taken, told'⟩ := ih (Sightings.see d found) { s with journal := journal }
    refine ⟨journal', ?_, fun room => ?_⟩
    · show takeReports (.detected d :: (ds.map .detected ++ later)) found s = _
      rw [takeReports, seen]
      exact taken
    · rw [List.length_cons] at room
      -- a sighting takes up one place at most
      have grown : (Sightings.see d found).length ≤ found.length + 1 := by
        unfold Sightings.see
        split
        · simp
        · split <;> simp
      exact (told' (by omega)).trans (told (by omega))

/-- Detections wait: they are taken, and the scan waits for the next report. -/
theorem collect_of_detected
    (waiting : (s.scanners.get l.scanner).queue = ds.map .detected) :
    ∃ t, s.collect l = (t, .waiting { l with
        found := ds.foldl (fun found d => Sightings.see d found) l.found
        deadline := s.clock + 2 * l.window }) ∧
      s.Requeues l.scanner [] t ∧
      (l.found.length + ds.length ≤ maxPresenceDevices → t.journal = s.journal) := by
  obtain ⟨journal, taken, told⟩ := takeReports_append ds [] l.found s
  rw [List.append_nil, ← waiting] at taken
  refine ⟨{ s with journal := journal }.onScanner l.scanner fun sc => { sc with queue := [] },
    ?_, (s.requeues_journal journal).trans
      (requeues_onScanner l.scanner (fun sc => { sc with queue := [] }) (fun _ => rfl) _), told⟩
  unfold collect
  rw [taken]
  rfl

/-- The scanner is done: the scan is over, and later reports are left. -/
theorem collect_of_done
    (waiting : (s.scanners.get l.scanner).queue = ds.map .detected ++ .done :: later) :
    ∃ t, s.collect l = (t, .finished (.ok
        (ds.foldl (fun found d => Sightings.see d found) l.found))) ∧
      s.Requeues l.scanner later t ∧
      (l.found.length + ds.length ≤ maxPresenceDevices → t.journal = s.journal) := by
  obtain ⟨journal, taken, told⟩ := takeReports_append ds (.done :: later) l.found s
  rw [← waiting] at taken
  refine ⟨{ s with journal := journal }.onScanner l.scanner fun sc => { sc with queue := later },
    ?_, (s.requeues_journal journal).trans
      (requeues_onScanner l.scanner (fun sc => { sc with queue := later }) (fun _ => rfl) _), told⟩
  unfold collect
  rw [taken]
  rfl

/-! ## Looks at a scan -/

/-- The station when a scanner has been told to listen, and has not announced anything yet. -/
def tell (sc : Handle Scanner) (channel : UInt8) (window : Nat) : Station → Station :=
  onScanner sc fun scanner => scanner.drain.ask channel window

/-- A scanner that is told to listen starts with no report waiting. -/
theorem requeues_tell (sc : Handle Scanner) (channel : UInt8) (window : Nat) (s : Station) :
    s.Requeues sc [] (s.tell sc channel window) :=
  requeues_onScanner sc (fun scanner => scanner.drain.ask channel window) (fun _ => rfl) s

/-- It announces what it would have announced before. -/
theorem announcements_tell (channel : UInt8) (window : Nat) (s : Station) :
    ((s.tell sc channel window).scanners.get sc).announcements =
      (s.scanners.get sc).announcements := by
  show ((s.scanners.modify sc fun scanner => scanner.drain.ask channel window).get
    sc).announcements = _
  rw [Pool.get_modify_self]
  rfl

/-- A scanner is told to listen, and what it announces at once waits. -/
theorem exists_told (bounded : (s.scanners.get sc).Bounded) (channel : UInt8) (window : Nat)
    (mode : s.mode = .presenceScan) :
    ∃ t, s.startListening sc channel window = t.collect ⟨sc, channel, window, [], s.clock⟩ ∧
      s.Requeues sc (s.scanners.get sc).announcements t ∧ t.journal = s.journal := by
  have told := s.requeues_tell sc channel window
  obtain ⟨reported, untold⟩ := reports_of_room (s := s.tell sc channel window) sc
    (s.scanners.get sc).announcements (by
      rw [told.queue, List.length_nil, Nat.zero_add]
      exact bounded.announcements)
  rw [told.queue, List.nil_append] at reported
  have all := told.trans reported
  refine ⟨_, ?_, all, untold⟩
  have started : s.startListening sc channel window =
      (fun t : Station => t.collect ⟨sc, channel, window, [], t.clock⟩)
        (((s.tell sc channel window).scanners.get sc).announcements.foldl
          (fun s r => s.report sc r) (s.tell sc channel window)) := if_pos mode
  rw [announcements_tell] at started
  dsimp only at started
  rw [all.clock] at started
  exact started

/-- **A scanner that is not silent is heard at once**: all that it hears is in the answer, and
nothing is lost. -/
theorem startListening_of_audible (bounded : (s.scanners.get sc).Bounded) (channel : UInt8)
    (window : Nat) (mode : s.mode = .presenceScan)
    (audible : (s.scanners.get sc).silent = false) :
    ∃ t, s.startListening sc channel window =
        (t, .finished (.ok (Sightings.table (s.scanners.get sc).heard))) ∧
      s.Requeues sc [] t ∧ t.journal = s.journal := by
  obtain ⟨t, told, requeues, untold⟩ := exists_told bounded channel window mode
  have waiting : (t.scanners.get sc).queue =
      (s.scanners.get sc).heard.map .detected ++ .done :: [] := by
    rw [requeues.queue]
    exact if_neg (by simp [audible])
  obtain ⟨u, collected, taken, quiet⟩ :=
    collect_of_done (l := ⟨sc, channel, window, [], s.clock⟩) waiting
  refine ⟨u, told.trans collected, requeues.trans taken, (quiet ?_).trans untold⟩
  rw [List.length_nil, Nat.zero_add]
  exact Nat.le_trans bounded.heard (by decide)

/-- **A silent scanner is waited for.** -/
theorem startListening_of_silent (bounded : (s.scanners.get sc).Bounded) (channel : UInt8)
    (window : Nat) (mode : s.mode = .presenceScan)
    (silent : (s.scanners.get sc).silent = true) :
    ∃ t, s.startListening sc channel window =
        (t, .waiting ⟨sc, channel, window, [], s.clock + 2 * window⟩) ∧
      s.Requeues sc [] t ∧ t.journal = s.journal := by
  obtain ⟨t, told, requeues, untold⟩ := exists_told bounded channel window mode
  have waiting : (t.scanners.get sc).queue = ([] : List Detection).map .detected := by
    rw [requeues.queue]
    exact if_pos silent
  obtain ⟨u, collected, taken, quiet⟩ :=
    collect_of_detected (l := ⟨sc, channel, window, [], s.clock⟩) waiting
  rw [requeues.clock] at collected
  exact ⟨u, told.trans collected, requeues.trans taken, (quiet (Nat.zero_le _)).trans untold⟩

/-- How a look at a presence scan turns out. -/
inductive Collects (l : BurstLink.Listening) (s : Station) : Station × ListeningLook → Prop
  /-- No report waits, and it is not too late. -/
  | waits (empty : (s.scanners.get l.scanner).queue = []) (early : s.clock < l.deadline) :
    Collects l s (s, .waiting l)
  /-- No report waits, and none has come in time. -/
  | stalled (empty : (s.scanners.get l.scanner).queue = []) (late : l.deadline ≤ s.clock) :
    Collects l s (s.note (.scanStalled l.channel), .finished (.error .scanStalled))
  /-- There are detections. -/
  | sighted {ds : List Detection} {t : Station}
      (waiting : (s.scanners.get l.scanner).queue = ds.map .detected) (some : ds ≠ [])
      (requeues : s.Requeues l.scanner [] t) :
    Collects l s (t, .waiting { l with
      found := ds.foldl (fun found d => Sightings.see d found) l.found
      deadline := s.clock + 2 * l.window })
  /-- The scanner is done. -/
  | done {ds : List Detection} {later : List PresenceReport} {t : Station}
      (waiting : (s.scanners.get l.scanner).queue = ds.map .detected ++ .done :: later)
      (requeues : s.Requeues l.scanner later t) :
    Collects l s (t, .finished (.ok (ds.foldl (fun found d => Sightings.see d found) l.found)))

/-- **A look at a presence scan turns out in one of these ways.** -/
theorem collects_checkListening (l : BurstLink.Listening) (s : Station) :
    s.Collects l (s.checkListening l) := by
  unfold checkListening
  by_cases empty : (s.scanners.get l.scanner).queue = []
  · rw [if_pos (by simp [empty])]
    split
    · rename_i late
      exact .stalled empty late
    · rename_i early
      exact .waits empty (Nat.lt_of_not_le early)
  · rw [if_neg (by simp [empty])]
    rcases reports_cases (s.scanners.get l.scanner).queue with ⟨ds, waiting⟩ |
        ⟨ds, later, waiting⟩
    · obtain ⟨t, collected, requeues, -⟩ := collect_of_detected waiting
      rw [collected]
      refine .sighted waiting ?_ requeues
      rintro rfl
      exact empty waiting
    · obtain ⟨t, collected, requeues, -⟩ := collect_of_done waiting
      rw [collected]
      exact .done waiting requeues

end Station

end BurstLink
