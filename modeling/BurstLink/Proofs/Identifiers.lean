import BurstLink.Proofs.BufferSafety
import Mathlib.Data.List.InsertIdx

/-! # Packet identifiers count sends

Whoever watches a bench can keep a logbook: which packet each job was asked to send, which sends
passed the checks, and what went on air for each of them. The identifiers are then known from the
logbook alone: the link counts the sends that passed the checks, modulo four, and everything that
goes on air for a send carries its number.

Main definitions:

* **`Logbook`** — what is written down along a run.
* **`Logbook.Agrees`** — the invariant that ties the logbook to the bench.
* **`Logbook.Numbers`** — what follows for identifiers and frames.

Main statement: `Station.AtStartUp.numbered_of_run`, for every run of regular moves. -/

namespace BurstLink

/-! ## The logbook of a run -/

/-- A send that passed the checks. -/
structure Accepted where
  /-- The packet that its operation was asked to send, if it was asked to send one. -/
  packet : Option Packet
  /-- What the radio put on air while it was the last send that had passed, oldest first. -/
  frames : List Packet := []

/-- What is written down along a run. -/
structure Logbook where
  /-- The packets that the jobs were asked to send, in the order of the jobs. -/
  asked : List (Option Packet) := []
  /-- The sends that passed the checks, oldest first. -/
  sends : List Accepted := []

namespace Logbook

/-- An operation has been asked for. -/
def ask (work : Work) (log : Logbook) : Logbook := { log with asked := log.asked ++ [work.packet?] }

/-- The job at a position has left. -/
def strike (position : Nat) (log : Logbook) : Logbook :=
  { log with asked := log.asked.eraseIdx position }

/-- A send of the job at a position has passed the checks. -/
def accept (position : Nat) (log : Logbook) : Logbook :=
  { log with sends := log.sends ++ [{ packet := log.asked[position]?.join }] }

/-- A step of the radio has put a frame on air, or none. It is written beside the last send. -/
def hear (frame : Option Frame) (log : Logbook) : Logbook :=
  match frame, log.sends.getLast? with
  | some frame, some send =>
    { log with sends :=
        log.sends.dropLast ++ [{ send with frames := send.frames ++ [frame.packet] }] }
  | _, _ => log

/-- What is written down when a move is made on a bench. -/
def write (b : Bench) (move : Move) (log : Logbook) : Logbook :=
  match move with
  | .ask _ work => log.ask work
  | .look position =>
    let log := if b.jobs[position]?.any fun job => job.activity.admits b.station then
      log.accept position else log
    if (b.lookAt position).jobs.length < b.jobs.length then log.strike position else log
  | .giveUp position => log.strike position
  | .service => log.hear b.station.emits
  | .pump => log.hear b.station.emits
  | _ => log

/-- What is written down along a run that starts on a bench. -/
def after (b : Bench) (log : Logbook) : List Move → Logbook
  | [] => log
  | move :: moves => (log.write b move).after (b.make move) moves

end Logbook

/-- The identifier with a number, counted modulo four. -/
def Pid.nth (n : Nat) : Pid := ⟨⟨n % 4, Nat.mod_lt _ (by decide)⟩⟩

/-- The identifiers are counted up one by one. -/
@[simp] theorem Pid.next_nth (n : Nat) : (nth n).next = nth (n + 1) := by
  simp [nth, next, Fin.add_def, Nat.add_mod]

/-- What the logbook says about identifiers and frames: the link counts the sends that passed the
checks; what goes on air for the send with number `n` is the packet that was asked for, with that
number as its identifier; the history is the beginning of all that went on air; and what goes on air
for one send differs in its identifier from what goes on air for the next one. -/
structure Logbook.Numbers (log : Logbook) (s : Station) : Prop where
  pid : s.link.pid.value.val = log.sends.length % 4
  frames : ∀ (n : Nat) (send : Accepted), log.sends[n]? = some send →
    ∃ packet, send.packet = some packet ∧ ∀ frame ∈ send.frames,
      frame = { packet with s1 := packet.s1 &&& (1 : UInt8) ||| UInt8.ofNat (n % 4) <<< (1 : UInt8) }
  history : s.radio.air.history.map Frame.packet =
    (log.sends.flatMap Accepted.frames).take Overflow.transmissions.limit
  successive : ∀ (n : Nat) (send next : Accepted), log.sends[n]? = some send →
    log.sends[n + 1]? = some next →
    ∀ frame ∈ send.frames, ∀ frame' ∈ next.frames, frame.pid ≠ frame'.pid

/-! ## The invariant -/

namespace Accepted

/-- The packet is the one that was asked for, with the number as its identifier. -/
def Stamps (send : Accepted) (n : Nat) (packet : Packet) : Prop :=
  send.packet.map (Packet.setPid (.nth n)) = some packet

/-- Each send has a packet, and what went on air for it carries its number. -/
def Numbered (sends : List Accepted) : Prop :=
  ∀ (n : Nat) (send : Accepted), sends[n]? = some send →
    send.packet.isSome ∧ ∀ frame ∈ send.frames, send.Stamps n frame

variable {sends : List Accepted} {send : Accepted}

/-- Sends are numbered if all but the last one are, and the last one bears the next number. -/
theorem numbered_concat : Numbered (sends ++ [send]) ↔ Numbered sends ∧
    send.packet.isSome ∧ ∀ frame ∈ send.frames, send.Stamps sends.length frame := by
  constructor
  · intro h
    refine ⟨?_, h sends.length send (by simp)⟩
    intro n other found
    exact h n other ((List.getElem?_append_left (List.getElem?_eq_some_iff.mp found).1).trans found)
  · rintro ⟨earlier, last⟩ n other found
    by_cases inside : n < sends.length
    · exact earlier n other ((List.getElem?_append_left inside).symm.trans found)
    · rw [List.getElem?_append_right (Nat.le_of_not_lt inside)] at found
      obtain ⟨single, rfl⟩ := List.getElem?_eq_some_iff.mp found
      obtain rfl : n = sends.length := by simp at single; omega
      simpa using last

end Accepted

/-- The logbook agrees with the bench: the link counts the sends; each job sends what it was asked
to, up to the identifier; what went on air for a send is its packet with its number; and the packet
of the send in progress is that of the last send in the logbook. -/
structure Logbook.Agrees (log : Logbook) (b : Bench) : Prop where
  pid : b.station.link.pid = .nth log.sends.length
  asked : b.jobs.map (fun job => (job.activity.outgoing? b.station).map (Packet.setPid .zero)) =
    log.asked.map (Option.map (Packet.setPid .zero))
  numbered : Accepted.Numbered log.sends
  history : b.station.radio.air.history.map Frame.packet =
    (log.sends.flatMap Accepted.frames).take Overflow.transmissions.limit
  current : ∀ job ∈ b.jobs, ∀ f purpose, job.activity = .sending f purpose →
    ∃ earlier send, log.sends = earlier ++ [send] ∧
      send.Stamps earlier.length (b.station.buffers.get f.packet)

namespace Activity

variable {s t : Station} {activity : Activity}

/-- What an operation sends is the same as long as nothing is sent. -/
theorem outgoing?_of_spares (fits : activity.Fits s) (kept : s.Spares t) :
    activity.outgoing? t = activity.outgoing? s :=
  outgoing?_congr fun own has => kept.packets own.1 (fits own.1 own.2 has).2.1

end Activity

namespace Logbook

open Bench

variable {log : Logbook} {b bench : Bench} {job : Job} {move : Move}

/-- A logbook of identifiers is read off the invariant. -/
theorem Agrees.numbers (h : log.Agrees b) : log.Numbers b.station := by
  have frames : ∀ (n : Nat) (send : Accepted), log.sends[n]? = some send →
      ∃ packet, send.packet = some packet ∧
      ∀ frame ∈ send.frames, frame = packet.setPid (.nth n) := by
    intro n send found
    obtain ⟨given, stamped⟩ := h.numbered n send found
    obtain ⟨packet, is⟩ := Option.isSome_iff_exists.mp given
    refine ⟨packet, is, ?_⟩
    intro frame member
    have stamp : send.packet.map (Packet.setPid (.nth n)) = some frame := stamped frame member
    rw [is] at stamp
    exact (Option.some.inj stamp).symm
  refine ⟨by rw [h.pid]; rfl, frames, h.history, ?_⟩
  intro n send next found found' frame member frame' member'
  obtain ⟨packet, -, stamped⟩ := frames n send found
  obtain ⟨packet', -, stamped'⟩ := frames (n + 1) next found'
  rw [stamped frame member, stamped' frame' member', Packet.pid_setPid, Packet.pid_setPid]
  intro same
  have values : n % 4 = (n + 1) % 4 := congrArg (fun id : Pid => id.value.val) same
  omega

/-! ## Moves that send nothing -/

/-- The same jobs on a station to which nothing was sent. -/
theorem Agrees.spared (h : log.Agrees b) (tidy : b.Tidy) (jobs : bench.jobs = b.jobs)
    (kept : b.station.Spares bench.station) : log.Agrees bench where
  pid := kept.pid.trans h.pid
  asked := by
    rw [jobs, ← h.asked]
    refine List.map_congr_left ?_
    intro job member
    rw [Activity.outgoing?_of_spares (tidy.fits job member) kept]
  numbered := h.numbered
  history := by rw [kept.history, h.history]
  current job member f purpose activity := by
    rw [jobs] at member
    obtain ⟨earlier, send, last, stamps⟩ := h.current job member f purpose activity
    have fits := tidy.fits job member
    rw [activity] at fits
    rw [kept.packets f.packet (fits f.packet f.ack rfl).2.1]
    exact ⟨earlier, send, last, stamps⟩

/-- A job leaves. -/
theorem Agrees.strike (h : log.Agrees b) {before later : List Job}
    (jobs : b.jobs = before ++ job :: later) (left : bench.jobs = before ++ later)
    (station : bench.station = b.station) : (log.strike before.length).Agrees bench where
  pid := by rw [station]; exact h.pid
  asked := by
    have erased := congrArg (fun l => l.eraseIdx before.length) h.asked
    simp only [List.eraseIdx_map, jobs, List.eraseIdx_append_of_length_le (Nat.le_refl _),
      Nat.sub_self, List.eraseIdx_zero, List.tail_cons] at erased
    rw [left, station]
    exact erased
  numbered := h.numbered
  history := by rw [station]; exact h.history
  current other member f purpose activity := by
    rw [station]
    rw [left] at member
    refine h.current other ?_ f purpose activity
    rw [jobs]
    exact mem_of_others member

/-- A position without a job has no packet either. -/
theorem Agrees.strike_of_none (h : log.Agrees b) {position : Nat}
    (unfilled : b.jobs[position]? = none) : log.strike position = log := by
  have lengths := congrArg List.length h.asked
  rw [List.length_map, List.length_map] at lengths
  have beyond : log.asked.length ≤ position := lengths ▸ List.getElem?_eq_none_iff.mp unfilled
  rw [Logbook.strike, List.eraseIdx_of_length_le beyond]

/-- An operation is asked for. -/
theorem Agrees.ask (h : log.Agrees b) (tidy : b.Tidy) (label : Option String) {work : Work}
    (regular : work.Regular) : (log.ask work).Agrees (b.enlist label work) := by
  obtain ⟨job, jobs, new⟩ := b.enlist_newcomer label regular
  -- for the jobs that there were, asking is a change of the station that sends nothing
  have old : log.Agrees { b with station := (b.enlist label work).station } :=
    h.spared tidy rfl (spares_enlist label work b)
  refine ⟨old.pid, ?_, old.numbered, old.history, ?_⟩
  · have asked := old.asked
    dsimp only at asked
    rw [jobs, List.map_append, asked]
    simp [Logbook.ask, new.outgoing]
  · intro other member f purpose activity
    rw [jobs] at member
    rcases List.mem_append.mp member with known | is
    · exact old.current other known f purpose activity
    · have waits := new.waits
      rw [← List.mem_singleton.mp is, activity] at waits
      exact absurd waits (by simp [Activity.flight?])

/-! ## Looks -/

/-- The packet that a job was asked to send is the one it sends, up to the identifier. -/
theorem Agrees.asked_at (h : log.Agrees b) {before later : List Job}
    (jobs : b.jobs = before ++ job :: later) {packet : Packet}
    (outgoing : job.activity.outgoing? b.station = some packet) :
    ∃ given, log.asked[before.length]?.join = some given ∧ given.Alike packet := by
  have same := congrArg (fun l => l[before.length]?.join) h.asked
  simp only [jobs, List.map_append, List.map_cons, List.getElem?_append_right, List.length_map,
    Nat.le_refl, Nat.sub_self, List.getElem?_cons_zero, List.getElem?_map, outgoing,
    Option.join_some, Option.map_some] at same
  cases asked : log.asked[before.length]? with
  | none => simp [asked] at same
  | some packet? =>
    cases packet? with
    | none => simp [asked] at same
    | some given =>
      rw [asked] at same
      exact ⟨given, rfl, (Option.some.inj same).symm⟩

/-- After a look at one job, what each job sends is the same up to the identifier. -/
theorem Agrees.asked_look (h : log.Agrees b) (reachable : b.Reachable) {before later : List Job}
    (jobs : b.jobs = before ++ job :: later) {rest : Activity}
    (goesOn : (job.activity.poll b.station).2 = .waiting rest)
    (jobs' : (b.lookAt before.length).jobs = before ++ { job with activity := rest } :: later) :
    (b.lookAt before.length).jobs.map (fun job =>
      (job.activity.outgoing? (b.lookAt before.length).station).map (Packet.setPid .zero)) =
        log.asked.map (Option.map (Packet.setPid .zero)) := by
  have tidy := reachable.tidy
  have member : job ∈ b.jobs := by simp [jobs]
  have mine := (reachable.sound.traffic tidy member).outgoing (tidy.fits job member) goesOn
  obtain ⟨pointer, pointed⟩ := job.poll_pointed b.station
  have others : ∀ other ∈ before ++ later,
      (other.activity.outgoing? (b.lookAt before.length).station).map (Packet.setPid .zero) =
        (other.activity.outgoing? b.station).map (Packet.setPid .zero) := by
    intro other member'
    exact congrArg _ (Activity.outgoing?_congr fun own has =>
      get_lookAt reachable.sound tidy jobs member' has)
  rw [← h.asked, jobs', jobs, List.map_append, List.map_append, List.map_cons, List.map_cons,
    List.map_congr_left fun other first => others other (by simp [first]),
    List.map_congr_left fun other last => others other (by simp [last]),
    (lookAt_job jobs).1, pointed]
  exact congrArg (fun x => before.map _ ++ x :: later.map _) mine

/-- A look in which a send passes the checks. -/
theorem Agrees.accept (h : log.Agrees b) (reachable : b.Reachable) {before later : List Job}
    (jobs : b.jobs = before ++ job :: later) {rest : Activity}
    (goesOn : (job.activity.poll b.station).2 = .waiting rest)
    (jobs' : (b.lookAt before.length).jobs = before ++ { job with activity := rest } :: later)
    (passed : job.activity.admits b.station = true) :
    (log.accept before.length).Agrees (b.lookAt before.length) := by
  have member : job ∈ b.jobs := by simp [jobs]
  have traffic := reachable.sound.traffic reachable.tidy member
  have next := reachable.make (.look before.length) trivial
  obtain ⟨pointer, pointed⟩ := job.poll_pointed b.station
  have station' := (lookAt_job jobs).1.trans pointed
  obtain ⟨f, purpose, waiting⟩ := traffic.sending_of_admits passed
  obtain rfl := Look.waiting.inj (goesOn.symm.trans waiting)
  -- the look either stamps the packet, or belongs to a send that had passed its checks before
  rcases traffic.stamped (reachable.tidy.fits job member) goesOn with
    ⟨packet, -, outgoing, stamped⟩ | ⟨refused, -⟩
  · obtain ⟨given, asked, alike⟩ := h.asked_at jobs outgoing
    have stamps : Accepted.Stamps { packet := some given } log.sends.length
        ((b.lookAt before.length).station.buffers.get f.packet) := by
      show some (given.setPid _) = some _
      rw [station', alike.setPid_eq, ← h.pid]
      exact congrArg some stamped.symm
    refine ⟨?_, h.asked_look reachable jobs goesOn jobs', ?_, ?_, ?_⟩
    · have advanced := traffic.pid
      rw [passed, h.pid] at advanced
      rw [station']
      exact advanced.trans (by simp [Logbook.accept])
    · exact Accepted.numbered_concat.mpr ⟨h.numbered, by simp [asked], by simp⟩
    · have same := congrArg (List.map Frame.packet) traffic.history
      rw [station']
      exact same.trans (by simp [Logbook.accept, h.history])
    · -- whoever sends now is the job that was looked at
      intro other member' g purpose' activity
      have looked : { job with activity := .sending f purpose } ∈ (b.lookAt before.length).jobs := by
        simp [jobs']
      have same := next.sound.activity_eq member' looked (by rw [activity]; rfl) rfl
      obtain ⟨rfl, -⟩ := Activity.sending.inj (activity.symm.trans same)
      exact ⟨log.sends, _, by rw [Logbook.accept, asked], stamps⟩
  · exact absurd (passed.symm.trans refused) (by simp)

/-- A look in which no send passes the checks. -/
theorem Agrees.refuse (h : log.Agrees b) (reachable : b.Reachable) {before later : List Job}
    (jobs : b.jobs = before ++ job :: later) {rest : Activity}
    (goesOn : (job.activity.poll b.station).2 = .waiting rest)
    (jobs' : (b.lookAt before.length).jobs = before ++ { job with activity := rest } :: later)
    (refused : job.activity.admits b.station = false) : log.Agrees (b.lookAt before.length) := by
  have tidy := reachable.tidy
  have member : job ∈ b.jobs := by simp [jobs]
  have traffic := reachable.sound.traffic tidy member
  obtain ⟨pointer, pointed⟩ := job.poll_pointed b.station
  have station' := (lookAt_job jobs).1.trans pointed
  refine ⟨?_, h.asked_look reachable jobs goesOn jobs', h.numbered, ?_, ?_⟩
  · have same := traffic.pid
    rw [refused] at same
    rw [station', ← h.pid]
    exact same
  · rw [station', ← h.history]
    exact congrArg (List.map Frame.packet) traffic.history
  · intro other member' f purpose activity
    rw [jobs'] at member'
    -- the job that was looked at may have been sending before; the other ones are as they were
    rcases mem_exchange member' with rfl | old
    · obtain rfl : rest = .sending f purpose := activity
      rcases traffic.stamped (tidy.fits job member) goesOn with
        ⟨-, passed, -⟩ | ⟨-, ⟨g, purpose', was, as⟩, same⟩
      · exact absurd (passed.symm.trans refused) (by simp)
      · obtain ⟨earlier, send, last, stamps⟩ := h.current job member g purpose' was
        refine ⟨earlier, send, last, ?_⟩
        rw [as, ← same] at stamps
        rw [station']
        exact stamps
    · have known : other ∈ b.jobs := by
        rw [jobs]
        exact mem_of_others old
      obtain ⟨earlier, send, last, stamps⟩ := h.current other known f purpose activity
      have own : other.activity.buffers? = some (f.packet, f.ack) := by rw [activity]; rfl
      refine ⟨earlier, send, last, ?_⟩
      rw [get_lookAt reachable.sound tidy jobs old own]
      exact stamps

/-- **A look at a job.** -/
theorem Agrees.look (h : log.Agrees b) (reachable : b.Reachable) (position : Nat) :
    (log.write b (.look position)).Agrees (b.lookAt position) := by
  cases found : b.jobs[position]? with
  | none => simpa [write, found, lookAt_of_none found] using h
  | some job =>
    obtain ⟨before, later, jobs, rfl⟩ := exists_split found
    have traffic := reachable.sound.traffic reachable.tidy (by simp [jobs] : job ∈ b.jobs)
    obtain ⟨station', ⟨ended, jobs'⟩ | ⟨rest, goesOn, jobs'⟩⟩ := lookAt_job jobs
    -- the job is over without a send: nothing is entered, and its line is struck out
    · have refused : job.activity.admits b.station = false := by
        cases passed : job.activity.admits b.station with
        | false => rfl
        | true =>
          obtain ⟨f, purpose, goesOn⟩ := traffic.sending_of_admits passed
          exact absurd goesOn (ended _)
      have kept : b.station.Spares (b.lookAt before.length).station := by
        obtain ⟨pointer, pointed⟩ := job.poll_pointed b.station
        rw [station', pointed]
        exact (traffic.spares fun f purpose => ended _).trans (.of_eq rfl rfl rfl (.inl rfl))
      have left : (b.lookAt before.length).jobs.length < b.jobs.length := by simp [jobs', jobs]
      have written : log.write b (.look before.length) = log.strike before.length := by
        simp [write, found, refused, left]
      rw [written]
      have spared : log.Agrees { b with station := (b.lookAt before.length).station } :=
        h.spared reachable.tidy rfl kept
      exact spared.strike jobs jobs' rfl
    · have stays : ¬(b.lookAt before.length).jobs.length < b.jobs.length := by simp [jobs', jobs]
      cases passed : job.activity.admits b.station with
      | true =>
        have written : log.write b (.look before.length) = log.accept before.length := by
          simp [write, found, passed, stays]
        rw [written]
        exact h.accept reachable jobs goesOn jobs' passed
      | false =>
        have written : log.write b (.look before.length) = log := by
          simp [write, found, passed, stays]
        rw [written]
        exact h.refuse reachable jobs goesOn jobs' passed

/-! ## Steps of the radio -/

/-- A step of the radio writes into no packet that a job is to send. -/
theorem get_step (sound : b.Sound True True) (tidy : b.Tidy) (member : job ∈ b.jobs)
    {own : Buffer × Buffer} (has : job.activity.buffers? = some own) :
    b.station.serviceRadio.buffers.get own.1 = b.station.buffers.get own.1 := by
  refine Station.get_serviceRadio ?_
  intro writes points
  obtain ⟨-, sender, f, sends, points'⟩ := (sound.guarded tidy).writes writes
  obtain ⟨purpose, activity⟩ := sends.flight
  have acked : own.1 = f.ack := Option.some.inj (points.symm.trans points')
  have own' : sender.activity.buffers? = some (f.packet, f.ack) := by rw [activity]; rfl
  by_cases same : job = sender
  · subst same
    obtain rfl := Option.some.inj (has.symm.trans own')
    exact (tidy.fits job member f.packet f.ack own').1 acked
  · obtain ⟨before, later, jobs⟩ := List.append_of_mem member
    have other := (mem_exchange (jobs ▸ sends.member)).resolve_left (Ne.symm same)
    exact tidy.apart_of_split jobs other own.1 (Activity.mem_handles.mpr ⟨own, has, .inl rfl⟩)
      (Activity.mem_handles.mpr ⟨_, own', .inr acked⟩)

/-- What a step of the radio puts on air is the packet of the last send in the logbook. -/
theorem Agrees.stamps_emits (h : log.Agrees b) (sound : b.Sound True True) (tidy : b.Tidy)
    {frame : Frame} (emits : b.station.emits = some frame) : ∃ earlier send,
      log.sends = earlier ++ [send] ∧ send.Stamps earlier.length frame.packet := by
  unfold Station.emits at emits
  split at emits
  · rename_i reads
    obtain ⟨-, job, f, sends, points⟩ := (sound.guarded tidy).reads reads
    obtain ⟨purpose, activity⟩ := sends.flight
    rw [Station.loaded, points] at emits
    obtain rfl := Option.some.inj emits
    exact h.current job sends.member f purpose activity
  · exact absurd emits (by simp)

/-- The history takes one more frame as long as there is room. -/
theorem history_record (frame : Frame) (air : Air) {sent : List Packet}
    (same : air.history.map Frame.packet = sent.take Overflow.transmissions.limit) :
    (air.record frame).history.map Frame.packet =
      (sent ++ [frame.packet]).take Overflow.transmissions.limit := by
  have lengths := congrArg List.length same
  rw [List.length_map, List.length_take] at lengths
  unfold Air.record
  split
  · rename_i room
    have all : sent.length < Overflow.transmissions.limit := by omega
    rw [List.map_append, same, List.take_of_length_le (by omega),
      List.take_of_length_le (by simp; omega)]
    rfl
  · rw [List.take_append_of_le_length (by omega)]
    exact same

/-- **A step of the radio**, with or without the interrupt handler after it. -/
theorem Agrees.hear (h : log.Agrees b) (sound : b.Sound True True) (tidy : b.Tidy)
    (jobs : bench.jobs = b.jobs)
    (buffers : bench.station.buffers = b.station.serviceRadio.buffers)
    (air : bench.station.radio.air = b.station.serviceRadio.radio.air)
    (link : bench.station.link = b.station.serviceRadio.link) :
    (log.hear b.station.emits).Agrees bench := by
  have pid : bench.station.link.pid = .nth log.sends.length := by
    rw [link, Station.link_serviceRadio, h.pid]
  have asked : bench.jobs.map (fun job =>
      (job.activity.outgoing? bench.station).map (Packet.setPid .zero)) =
        log.asked.map (Option.map (Packet.setPid .zero)) := by
    rw [jobs, ← h.asked]
    refine List.map_congr_left ?_
    intro job member
    refine congrArg _ (Activity.outgoing?_congr ?_)
    intro own has
    rw [buffers]
    exact get_step sound tidy member has
  -- the packets that are being sent are the same ones, as a step writes received frames only into
  -- buffers for acknowledgements
  have current : ∀ job ∈ bench.jobs, ∀ f purpose, job.activity = .sending f purpose →
      ∃ earlier send, log.sends = earlier ++ [send] ∧
        send.Stamps earlier.length (bench.station.buffers.get f.packet) := by
    intro job member f purpose activity
    rw [jobs] at member
    have own : job.activity.buffers? = some (f.packet, f.ack) := by rw [activity]; rfl
    rw [buffers, get_step sound tidy member own]
    exact h.current job member f purpose activity
  rw [Station.air_serviceRadio] at air
  cases emits : b.station.emits with
  | none =>
    rw [emits] at air
    exact ⟨pid, asked, h.numbered, by rw [air]; exact h.history, current⟩
  | some frame =>
    rw [emits] at air
    -- the frame belongs to the last send accepted, which has stamped the packet on the air
    obtain ⟨earlier, send, last, stamps⟩ := h.stamps_emits sound tidy emits
    have heard : log.hear (some frame) = { log with
        sends := earlier ++ [{ send with frames := send.frames ++ [frame.packet] }] } := by
      simp [Logbook.hear, last]
    have numbered := h.numbered
    have history := h.history
    rw [last, Accepted.numbered_concat] at numbered
    rw [last] at pid history
    rw [heard]
    refine ⟨by simpa using pid, asked, ?_, ?_, ?_⟩
    · refine Accepted.numbered_concat.mpr ⟨numbered.1, numbered.2.1, ?_⟩
      intro other member
      rcases List.mem_append.mp member with old | new
      · exact numbered.2.2 other old
      · rw [List.mem_singleton.mp new]
        exact stamps
    · rw [air]
      have recorded := history_record frame b.station.radio.air history
      simpa using recorded
    · intro job member f purpose activity
      obtain ⟨earlier', send', last', stamps'⟩ := current job member f purpose activity
      obtain ⟨rfl, same⟩ := List.append_inj' (last.symm.trans last') rfl
      obtain rfl := List.singleton_inj.mp same
      exact ⟨_, _, rfl, stamps'⟩

/-! ## Runs -/

/-- **What one move preserves**: the logbook agrees with the bench. -/
theorem Agrees.make (h : log.Agrees b) (reachable : b.Reachable) (regular : move.Regular) :
    (log.write b move).Agrees (b.make move) := by
  have tidy := reachable.tidy
  cases move with
  | ask label work => exact h.ask tidy label regular
  | look position => exact h.look reachable position
  | giveUp position =>
    cases found : b.jobs[position]? with
    | none =>
      show (log.strike position).Agrees (b.giveUp position)
      rw [giveUp_of_none found, h.strike_of_none found]
      exact h
    | some job =>
      obtain ⟨before, later, jobs, rfl⟩ := exists_split found
      obtain ⟨-, jobs'⟩ := giveUp_split jobs
      have spared : log.Agrees { b with station := (b.giveUp before.length).station } :=
        h.spared tidy rfl (b.spares_giveUp _)
      exact spared.strike jobs jobs' rfl
  | wait time => exact h.spared tidy rfl (.of_eq rfl rfl rfl (.inl rfl))
  | service => exact h.hear reachable.sound tidy rfl rfl rfl rfl
  | pump =>
    obtain ⟨buffers, air, link⟩ := b.station.pump_spares
    exact h.hear reachable.sound tidy rfl buffers air link
  | arrange command => exact h.spared tidy (execute_of_arranges regular).2.2 (spares_arrange regular)
  | turnPage => exact h.spared tidy rfl (.of_eq rfl rfl rfl (.inl rfl))

/-- **The logbook agrees with the bench after every run.** The induction is on the moves. -/
theorem Agrees.after (h : log.Agrees b) (reachable : b.Reachable) (moves : List Move)
    (regular : ∀ move ∈ moves, move.Regular) :
    (log.after b moves).Agrees (b.after moves) := by
  induction moves generalizing log b with
  | nil => exact h
  | cons move moves ih =>
    have first : move.Regular := regular move (by simp)
    exact ih (h.make reachable first) (reachable.make move first)
      fun m member => regular m (by simp [member])

/-- An empty logbook agrees with a station at start-up. -/
theorem agrees_startUp {s : Station} (start : s.AtStartUp) :
    ({} : Logbook).Agrees (ofStation s) := by
  obtain ⟨draws, rfl | rfl⟩ := start
  · exact ⟨rfl, rfl, by rintro _ _ ⟨⟩, rfl, by rintro _ ⟨⟩⟩
  · exact ⟨rfl, rfl, by rintro _ _ ⟨⟩, rfl, by rintro _ ⟨⟩⟩

end Logbook

/-- **Identifiers count sends.** After every run, the identifier of the link is the number of sends
that have passed the checks, modulo four, and everything that went on air for the send with number
`n` is byte for byte the packet that was asked for, with `n` modulo four as its identifier. -/
theorem Station.AtStartUp.numbered_of_run {s : Station} (start : s.AtStartUp) (moves : List Move)
    (regular : ∀ move ∈ moves, move.Regular) :
    (Logbook.after (Bench.ofStation s) {} moves).Numbers
      ((Bench.ofStation s).after moves).station :=
  ((Logbook.agrees_startUp start).after (Bench.Reachable.startUp start) moves regular).numbers

/-- Two sends: one that is given up after a retransmission, and one after it. -/
theorem Logbook.numbers_of_send_given_up :
    let moves : List Move := [.ask none (.request (.switchMode .link)), .look 0,
      .ask none (.request (.sendPayload [1, 2])), .look 0, .pump, .pump, .pump, .wait 2000, .look 0,
      .pump, .giveUp 0, .ask none (.request (.sendPayload [3])), .look 0, .pump]
    let log := Logbook.after (Bench.ofStation (.withFrontEnd .zeros)) {} moves
    (∀ move ∈ moves, move.Regular) ∧ log.sends.map (fun send => send.frames.length) = [2, 1] ∧
      log.Numbers ((Bench.ofStation (.withFrontEnd .zeros)).after moves).station := by
  intro moves log
  have regular : ∀ move ∈ moves, move.Regular := by decide
  exact ⟨regular, by decide +kernel,
    Station.AtStartUp.numbered_of_run ⟨.zeros, .inl rfl⟩ moves regular⟩

end BurstLink
