import BurstLink.Bench.Access
import BurstLink.Proofs.Packets.Access

/-! # Any register traffic

The simulated radio can be driven register by register, in any order and without regard to what it
is doing: powered off in the middle of a frame, started out of a carrier, switched off while it comes
up. This module says what no such traffic can bring about.

Main definitions:

* **`RadioCall`** — one call of the simulated radio, and the station after it.
* **`Histories`** — the packets sent and their channels, each in a history of its own.
* **`RadioCall.Records`** — what a call may do to the two histories.
* **`Radio.Dark`**, **`Radio.Proper`** — the radio does nothing and shows nothing, and it does so
  without power.
* **`Station.Disciplined`** — what holds whatever was called before.

Main statements: a call records the frame that it puts on air and nothing else
(`RadioCall.histories_apply`), it keeps the radio dark without power and its histories within bounds
(`RadioCall.proper_apply`), and a station is disciplined after any calls since its radio was put in
(`Station.disciplined_afterCalls`). -/

namespace BurstLink

/-! ## Calls -/

/-- One call of the simulated radio that may change it, or a change of a packet it may point at.
Calls that only read are left out; the look that brings a radio closer to being off is not one. -/
inductive RadioCall
  /-- Write a register, give a task, set up the timer or the routes. -/
  | access (access : RadioAccess)
  /-- Let the radio make a step. -/
  | service
  /-- Look whether the radio is off. -/
  | pollDisabled
  /-- Queue responses. -/
  | schedule (responses : List AirResponse)
  /-- Change a setting of the surroundings. -/
  | setAir (setting : AirSetting)
  /-- Change a packet in memory. -/
  | write (buffer : Buffer) (packet : Packet)
  deriving DecidableEq

/-- The station after a call. -/
def RadioCall.apply : RadioCall → Station → Station
  | .access how, s => s.onRadio how.apply
  | .service, s => s.serviceRadio
  | .pollDisabled, s => (s.pollDisabledTimes 1).1
  | .schedule responses, s => (s.schedule responses).1
  | .setAir setting, s => s.setAir setting
  | .write buffer packet, s => s.onBuffer buffer fun _ => packet

namespace Station

/-- The station after some calls. -/
def afterCalls (s : Station) (calls : List RadioCall) : Station :=
  calls.foldl (fun s call => call.apply s) s

/-- The station with a radio that was just put in: nothing was done to it yet. -/
def withNewRadio (s : Station) : Station := { s with radio := {} }

end Station

/-! ## The two histories -/

/-- The packets sent and the channels they were sent on, each in a history of its own, and whether
something did not fit. -/
structure Histories where
  /-- Packets, oldest first. -/
  packets : List Packet := []
  /-- Channels, oldest first. -/
  channels : List UInt8 := []
  /-- One of the histories had no room. -/
  full : Bool := false
  deriving DecidableEq

namespace Histories

/-- A history with one more entry, if there is room. -/
def push? {α : Type} (history : List α) (a : α) : Option (List α) :=
  if history.length < Overflow.transmissions.limit then some (history ++ [a]) else none

/-- Records a packet and then its channel; the first of them that does not fit is noted and is the
last thing that happens. -/
def record (packet : Packet) (channel : UInt8) (h : Histories) : Histories :=
  match push? h.packets packet with
  | none => { h with full := true }
  | some packets =>
    match push? h.channels channel with
    -- The histories would differ in length from here on; `record_eq` excludes this case.
    | none => { h with packets := packets, full := true }
    | some channels => { h with packets := packets, channels := channels }

/-- The histories are equally long, and within their limit, which was reached if something did not
fit. -/
structure Fits (h : Histories) : Prop where
  alike : h.packets.length = h.channels.length
  room : h.packets.length ≤ Overflow.transmissions.limit
  full : h.full = true → h.packets.length = Overflow.transmissions.limit

variable {h : Histories} {packet : Packet} {channel : UInt8}

/-- Recording into histories of equal length changes both of them or neither. -/
theorem record_eq (alike : h.packets.length = h.channels.length) :
    h.record packet channel =
      if h.packets.length < Overflow.transmissions.limit then
        { h with packets := h.packets ++ [packet], channels := h.channels ++ [channel] }
      else { h with full := true } := by
  unfold record push?
  rw [← alike]
  by_cases room : h.packets.length < Overflow.transmissions.limit <;> simp [room]

/-- **Recording keeps the histories alike and within bounds.** -/
theorem Fits.record (fits : h.Fits) : (h.record packet channel).Fits := by
  rw [record_eq fits.alike]
  by_cases room : h.packets.length < Overflow.transmissions.limit
  · rw [if_pos room]
    refine ⟨?_, ?_, fun full => ?_⟩
    · rw [List.length_append, List.length_append, fits.alike]
      rfl
    · rw [List.length_append]
      exact room
    · exact absurd (fits.full full) (Nat.ne_of_lt room)
  · rw [if_neg room]
    exact ⟨fits.alike, fits.room, fun _ => Nat.le_antisymm fits.room (Nat.le_of_not_lt room)⟩

/-- What was noted once stays noted. -/
theorem full_record (full : h.full = true) : (h.record packet channel).full = true := by
  unfold record
  split
  · rfl
  · split
    · rfl
    · exact full

/-- Recording removes nothing and adds at most one entry to each history. -/
theorem record_grows (packet : Packet) (channel : UInt8) (h : Histories) :
    h.packets <+: (h.record packet channel).packets ∧
    h.channels <+: (h.record packet channel).channels ∧
    (h.record packet channel).packets.length ≤ h.packets.length + 1 ∧
    (h.record packet channel).channels.length ≤ h.channels.length + 1 := by
  -- Nothing is assumed of the lengths, so that each history may have room or not.
  unfold record push?
  by_cases first : h.packets.length < Overflow.transmissions.limit <;>
    by_cases second : h.channels.length < Overflow.transmissions.limit <;>
      simp [first, second]

end Histories

/-- The transmission history as the two histories that it stands for. -/
def Air.histories (air : Air) : Histories :=
  ⟨air.history.map Frame.packet, air.history.map Frame.channel, air.historyFull⟩

/-- Recording a frame is recording its packet and its channel. -/
theorem Air.histories_record (frame : Frame) (air : Air) :
    (air.record frame).histories = air.histories.record frame.packet frame.channel := by
  have alike : air.histories.packets.length = air.histories.channels.length := by
    simp [histories]
  rw [Histories.record_eq alike]
  unfold Air.record
  by_cases room : air.history.length < Overflow.transmissions.limit <;> simp [histories, room]

/-- A response is taken from the script, not from what was recorded. -/
theorem Air.histories_nextResponse (air : Air) :
    air.nextResponse.2.histories = air.histories := by
  unfold nextResponse
  split <;> rfl

/-- The two histories of the radio of a station. -/
def Station.histories (s : Station) : Histories := s.radio.air.histories

/-! ## What a call records -/

namespace RadioCall

/-- The frame that a call puts on air. -/
def emits : RadioCall → Station → Option Frame
  | .service, s => s.emits
  | _, _ => none

/-- The two histories after a call: the packet it puts on air is added to one of them, and then the
channel to the other one. -/
def recordIn (call : RadioCall) (s : Station) (h : Histories) : Histories :=
  (call.emits s).elim h fun frame => h.record frame.packet frame.channel

/-- Nothing is put on air but by a step out of the transmission phase. -/
theorem sending_of_emits {call : RadioCall} {s : Station} {frame : Frame}
    (h : call.emits s = some frame) : call = .service ∧ s.radio.phase = .tx := by
  cases call with
  | service =>
    refine ⟨rfl, ?_⟩
    by_cases reads : s.radio.reads = true
    · exact (Radio.reads_iff.mp reads).2
    · exact absurd h (by simp [emits, Station.emits, reads])
  | _ => exact absurd h (by simp [emits])

end RadioCall

/-- An access to the radio records nothing. -/
theorem Radio.histories_access (how : RadioAccess) (r : Radio) :
    (how.apply r).air.histories = r.air.histories := by
  cases how with
  | trigger task =>
    obtain ⟨_, _, _, _, after, taken, same⟩ := r.trigger_eq task
    have accessed : ((RadioAccess.trigger task).apply r).air = after := congrArg air same
    rw [accessed]
    rcases taken with rfl | rfl
    · rfl
    · exact r.air.histories_nextResponse
  | setPower on => cases on <;> rfl
  | _ => rfl

namespace RadioCall

/-- **What a call puts on air is recorded, and nothing else is.** -/
theorem histories_apply (call : RadioCall) (s : Station) :
    (call.apply s).histories = call.recordIn s s.histories := by
  cases call with
  | access how => exact Radio.histories_access how s.radio
  | service =>
    have emitted : RadioCall.service.emits s = s.emits := rfl
    refine (congrArg Air.histories s.air_serviceRadio).trans ?_
    rw [recordIn, emitted]
    cases s.emits with
    | none => rfl
    | some frame => exact s.radio.air.histories_record frame
  | pollDisabled => exact congrArg Air.histories s.radio.settle_settles.air
  | schedule responses => rfl
  | setAir setting => cases setting <;> rfl
  | write buffer packet => rfl

/-- Histories that fit do so after a call. -/
theorem fits_recordIn {h : Histories} (fits : h.Fits) (call : RadioCall) (s : Station) :
    (call.recordIn s h).Fits := by
  unfold recordIn
  cases call.emits s with
  | none => exact fits
  | some frame => exact fits.record

/-- What was noted before a call stays noted. -/
theorem full_recordIn {h : Histories} (full : h.full = true) (call : RadioCall) (s : Station) :
    (call.recordIn s h).full = true := by
  unfold recordIn
  cases call.emits s with
  | none => exact full
  | some frame => exact Histories.full_record full

/-- What a call does to the two histories: no entry is removed, at most one is added to each of
them, and only a step out of the transmission phase changes them. -/
structure Records (call : RadioCall) (s : Station) : Prop where
  packets : s.histories.packets <+: (call.apply s).histories.packets
  channels : s.histories.channels <+: (call.apply s).histories.channels
  onePacket : (call.apply s).histories.packets.length ≤ s.histories.packets.length + 1
  oneChannel : (call.apply s).histories.channels.length ≤ s.histories.channels.length + 1
  sending : (call.apply s).histories ≠ s.histories → call = .service ∧ s.radio.phase = .tx

/-- **Every call treats the histories so.** -/
theorem records (call : RadioCall) (s : Station) : call.Records s := by
  have recorded := call.histories_apply s
  unfold recordIn at recorded
  cases emitted : call.emits s with
  | none =>
    have same : (call.apply s).histories = s.histories := by
      rw [recorded, emitted]
      rfl
    exact
      { packets := same ▸ List.prefix_rfl
        channels := same ▸ List.prefix_rfl
        onePacket := same ▸ Nat.le_succ _
        oneChannel := same ▸ Nat.le_succ _
        sending := fun changed => absurd same changed }
  | some frame =>
    have added : (call.apply s).histories = s.histories.record frame.packet frame.channel := by
      rw [recorded, emitted]
      rfl
    obtain ⟨packets, channels, onePacket, oneChannel⟩ :=
      s.histories.record_grows frame.packet frame.channel
    rw [← added] at packets channels onePacket oneChannel
    exact
      { packets, channels, onePacket, oneChannel
        sending := fun _ => sending_of_emits emitted }

end RadioCall

/-! ## What a call keeps -/

/-- The radio is off and awaits nothing, and nothing is to be seen of what it did before. -/
structure Radio.Dark (r : Radio) : Prop where
  phase : r.phase = .disabled
  pending : r.pending = none
  events : ∀ event, r.events.get event = false
  rssiRequested : r.rssiRequested = false
  crcOk : r.crcOk = false
  rssi : r.rssi = 0

/-- What every call keeps: without power the radio is dark, and its histories fit. -/
structure Radio.Proper (r : Radio) : Prop where
  dark : r.powered = false → r.Dark
  fits : r.air.histories.Fits

namespace Radio

variable {r : Radio}

/-- A radio whose registers are as after power-on is dark. -/
theorem dark_wiped (r : Radio) : ({ r with toRegisters := {} } : Radio).Dark :=
  ⟨rfl, rfl, fun event => by cases event <;> rfl, rfl, rfl, rfl⟩

/-- A radio that was just put in has no power, and nothing was sent. -/
theorem proper_new : ({} : Radio).Proper where
  dark _ := dark_wiped {}
  fits := ⟨rfl, Nat.zero_le _, fun full => absurd full (by decide)⟩

/-- Without power no task is done. -/
theorem trigger_of_unpowered (off : r.powered = false) (task : RadioTask) : r.trigger task = r := by
  simp [trigger, off]

/-- A task does not switch the power. -/
theorem powered_trigger (task : RadioTask) (r : Radio) : (r.trigger task).powered = r.powered := by
  obtain ⟨_, _, _, _, _, -, same⟩ := r.trigger_eq task
  rw [same]

/-- **A radio without power is dark after every access.** Switching off wipes what could be seen,
and from then on the accesses write only what a dark radio may show. -/
theorem dark_access (dark : r.powered = false → r.Dark) (how : RadioAccess)
    (off : (how.apply r).powered = false) : (how.apply r).Dark := by
  cases how with
  | trigger task =>
    have before : r.powered = false := (r.powered_trigger task).symm.trans off
    have same : (RadioAccess.trigger task).apply r = r := trigger_of_unpowered before task
    rw [same]
    exact dark before
  | setPower on =>
    cases on with
    | true => exact absurd off (by simp [RadioAccess.apply, setPower])
    | false => exact r.dark_wiped
  | clearEvent event =>
    obtain ⟨phase, pending, events, rssiRequested, crcOk, rssi⟩ := dark off
    refine ⟨phase, pending, fun other => ?_, rssiRequested, crcOk, rssi⟩
    refine (r.events.get_set event other false).trans ?_
    by_cases cleared : other = event
    · rw [if_pos cleared]
    · rw [if_neg cleared]
      exact events other
  -- The other accesses write none of what a dark radio must not show.
  | _ =>
    obtain ⟨phase, pending, events, rssiRequested, crcOk, rssi⟩ := dark off
    exact ⟨phase, pending, events, rssiRequested, crcOk, rssi⟩

/-- Looking at a dark radio changes nothing. -/
theorem Dark.settle (dark : r.Dark) : r.settle = r := by
  simp [Radio.settle, dark.phase]

end Radio

namespace Station

variable {s : Station}

/-- A dark radio makes no step. -/
theorem serviceRadio_of_dark (dark : s.radio.Dark) : s.serviceRadio = s :=
  serviceRadio_of_still (Radio.service_disabled dark.phase s.loaded)

/-- A step does not switch the power. -/
theorem powered_serviceRadio (s : Station) : s.serviceRadio.radio.powered = s.radio.powered := by
  rw [radio_serviceRadio]
  exact (Radio.service_keeps s.loaded s.radio).powered

end Station

namespace RadioCall

variable {s : Station}

/-- A station whose radio is dark without power is such a station after every call. -/
theorem dark_apply (dark : s.radio.powered = false → s.radio.Dark) (call : RadioCall)
    (off : (call.apply s).radio.powered = false) : (call.apply s).radio.Dark := by
  cases call with
  | access how => exact Radio.dark_access dark how off
  -- The time that passes in a step and in a look does not change the power, so that the radio was
  -- dark before, and then nothing happens to it.
  | service =>
    have before := dark (s.powered_serviceRadio.symm.trans off)
    have same : RadioCall.service.apply s = s := Station.serviceRadio_of_dark before
    rw [same]
    exact before
  | pollDisabled =>
    have before := dark (s.radio.settle_settles.keeps.powered.symm.trans off)
    have same : (RadioCall.pollDisabled.apply s).radio = s.radio := before.settle
    rw [same]
    exact before
  | _ =>
    obtain ⟨phase, pending, events, rssiRequested, crcOk, rssi⟩ := dark off
    exact ⟨phase, pending, events, rssiRequested, crcOk, rssi⟩

/-- **Every call keeps the radio proper.** -/
theorem proper_apply (h : s.radio.Proper) (call : RadioCall) : (call.apply s).radio.Proper where
  dark := dark_apply h.dark call
  fits := by
    have fits : (call.recordIn s s.histories).Fits := call.fits_recordIn h.fits s
    rw [← call.histories_apply s] at fits
    exact fits

/-- Once something did not fit, that stays noted. -/
theorem overflowed_apply (full : s.overflowed = true) (call : RadioCall) :
    (call.apply s).overflowed = true := by
  have recorded := congrArg Histories.full (call.histories_apply s)
  exact recorded.trans (call.full_recordIn full s)

/-- The call asks the radio to do something, or gives it the time to do it. -/
def drives : RadioCall → Bool
  | .access (.trigger _) => true
  | .service => true
  | .pollDisabled => true
  | _ => false

/-- Without power the radio cannot be driven. -/
theorem apply_of_dark (off : s.radio.powered = false) (dark : s.radio.Dark) {call : RadioCall}
    (drives : call.drives = true) : call.apply s = s := by
  cases call with
  | access how =>
    cases how with
    | trigger task =>
      have same : s.radio.trigger task = s.radio := Radio.trigger_of_unpowered off task
      change { s with radio := s.radio.trigger task } = s
      rw [same]
    | _ => exact absurd drives (by simp [RadioCall.drives])
  | service => exact Station.serviceRadio_of_dark dark
  | pollDisabled =>
    change { s with radio := s.radio.settle } = s
    rw [dark.settle]
  | _ => exact absurd drives (by simp [RadioCall.drives])

end RadioCall

/-! ## Any number of calls -/

namespace Station

variable {s : Station} {h : Histories}

/-- Two histories that are kept beside the station while some calls are made. -/
def recordedIn : List RadioCall → Station → Histories → Histories
  | [], _, h => h
  | call :: calls, s, h => recordedIn calls (call.apply s) (call.recordIn s h)

/-- **The histories of the radio are what was recorded**, call by call. -/
theorem histories_afterCalls (calls : List RadioCall) (s : Station) :
    (s.afterCalls calls).histories = s.recordedIn calls s.histories := by
  induction calls generalizing s with
  | nil => rfl
  | cons call calls ih =>
    have later : ((call.apply s).afterCalls calls).histories =
        (call.apply s).recordedIn calls (call.apply s).histories := ih (call.apply s)
    rw [call.histories_apply s] at later
    exact later

/-- **No calls remove an entry.** -/
theorem prefix_afterCalls (calls : List RadioCall) (s : Station) :
    s.histories.packets <+: (s.afterCalls calls).histories.packets ∧
      s.histories.channels <+: (s.afterCalls calls).histories.channels := by
  induction calls generalizing s with
  | nil => exact ⟨List.prefix_rfl, List.prefix_rfl⟩
  | cons call calls ih =>
    obtain ⟨packets, channels⟩ := ih (call.apply s)
    have records := call.records s
    exact ⟨records.packets.trans packets, records.channels.trans channels⟩

/-- **A radio stays proper** through any calls. -/
theorem proper_afterCalls (h : s.radio.Proper) (calls : List RadioCall) :
    (s.afterCalls calls).radio.Proper := by
  -- Over the calls, for every station: what one call keeps carries the induction.
  induction calls generalizing s with
  | nil => exact h
  | cons call calls ih => exact ih (RadioCall.proper_apply h call)

/-- Once something did not fit, no call takes that back. -/
theorem overflowed_afterCalls (full : s.overflowed = true) (calls : List RadioCall) :
    (s.afterCalls calls).overflowed = true := by
  induction calls generalizing s with
  | nil => exact full
  | cons call calls ih => exact ih (RadioCall.overflowed_apply full call)

/-- Without power the radio cannot be driven, however often. -/
theorem afterCalls_of_dark (off : s.radio.powered = false) (dark : s.radio.Dark)
    {calls : List RadioCall} (drive : ∀ call ∈ calls, call.drives = true) :
    s.afterCalls calls = s := by
  induction calls with
  | nil => rfl
  | cons call calls ih =>
    obtain ⟨first, others⟩ := List.forall_mem_cons.mp drive
    have same : call.apply s = s := RadioCall.apply_of_dark off dark first
    change (call.apply s).afterCalls calls = s
    rw [same]
    exact ih others

/-- A radio that stands still and has recorded everything answers every step alike. -/
theorem serviceTimes_of_still (still : s.serviceRadio = s) (fits : s.overflowed = false) (n : Nat) :
    s.serviceTimes n = (s, .ok (List.replicate n s.radio.interruptPending)) := by
  -- On the steps, all of them from the same station.
  induction n with
  | zero => rfl
  | succ n ih =>
    rw [serviceTimes]
    simp [still, fits, ih, Except.map, List.replicate_succ]

/-- A step after which something is missing from the histories fails. -/
theorem serviceTimes_of_overflowed (full : s.serviceRadio.overflowed = true) (n : Nat) :
    s.serviceTimes (n + 1) = (s.serviceRadio, .error .transmissions) := by
  rw [serviceTimes]
  simp [full]

/-- What holds of a station whatever calls were made since its radio was put in, if the histories
`h` were kept beside it. -/
structure Disciplined (s : Station) (h : Histories) : Prop where
  /-- Without power the radio is off, awaits nothing and shows nothing. -/
  dark : s.radio.powered = false → s.radio.Dark
  /-- Without power no tasks, steps and looks, in any number and order, change anything. -/
  inert : s.radio.powered = false → ∀ calls : List RadioCall,
    (∀ call ∈ calls, call.drives = true) → s.afterCalls calls = s
  /-- The radio shows the histories as they were kept. -/
  shown : s.histories = h
  /-- There are as many channels as packets. -/
  alike : h.packets.length = h.channels.length
  /-- The histories are within bounds. -/
  room : h.packets.length ≤ 128
  /-- The next call, whichever it is, adds at most one entry to each of the histories, and none
  unless it is a step out of the transmission phase. -/
  records : ∀ call : RadioCall, call.Records s
  /-- No further calls remove an entry. -/
  kept : ∀ calls, h.packets <+: (s.afterCalls calls).histories.packets ∧
    h.channels <+: (s.afterCalls calls).histories.channels
  /-- While the interrupt waits, steps report it and change nothing, as long as the histories held
  everything sent. -/
  frozen : s.radio.interruptEnabled = true → s.radio.events.get .disabled = true →
    s.overflowed = false → ∀ n, s.serviceTimes n = (s, .ok (List.replicate n true))
  /-- Once they did not, every step fails, then and after any further calls; while the interrupt
  waits, it still changes nothing. -/
  overflow : s.overflowed = true →
    (∀ calls n, ((s.afterCalls calls).serviceTimes (n + 1)).2 = .error .transmissions) ∧
    (s.radio.interruptEnabled = true → s.radio.events.get .disabled = true →
      ∀ n, (s.serviceTimes n).1 = s)

/-- A disabled event that is raised, with interrupts enabled, is an interrupt that waits. -/
theorem interruptPending_of_raised (enabled : s.radio.interruptEnabled = true)
    (raised : s.radio.events.get .disabled = true) : s.radio.interruptPending = true :=
  Bool.and_eq_true_iff.mpr ⟨enabled, raised⟩

/-- While the interrupt waits, steps report it. -/
theorem serviceTimes_of_pending (waiting : s.radio.interruptPending = true)
    (fits : s.overflowed = false) (n : Nat) :
    s.serviceTimes n = (s, .ok (List.replicate n true)) := by
  rw [serviceTimes_of_still (serviceRadio_of_pending waiting) fits, waiting]

/-- Steps that fail change no more than one step does. -/
theorem serviceTimes_of_pending_of_overflowed (waiting : s.radio.interruptPending = true)
    (full : s.overflowed = true) (n : Nat) : (s.serviceTimes n).1 = s := by
  have still : s.serviceRadio = s := serviceRadio_of_pending waiting
  cases n with
  | zero => rfl
  | succ n =>
    have next : s.serviceRadio.overflowed = true := still.symm ▸ full
    rw [serviceTimes_of_overflowed next]
    exact still

/-- After an overflow every step fails, whatever is called before it. -/
theorem serviceTimes_afterCalls_of_overflowed (full : s.overflowed = true) (calls : List RadioCall)
    (n : Nat) : ((s.afterCalls calls).serviceTimes (n + 1)).2 = .error .transmissions := by
  have later := overflowed_afterCalls full calls
  have next : (s.afterCalls calls).serviceRadio.overflowed = true :=
    RadioCall.overflowed_apply later .service
  rw [serviceTimes_of_overflowed next]

/-- A proper radio makes its station disciplined. -/
theorem Disciplined.of_proper (proper : s.radio.Proper) (shown : s.histories = h) :
    s.Disciplined h where
  dark := proper.dark
  inert off _ drive := afterCalls_of_dark off (proper.dark off) drive
  shown := shown
  alike := shown ▸ proper.fits.alike
  room := shown ▸ proper.fits.room
  records call := call.records s
  kept calls := shown ▸ s.prefix_afterCalls calls
  frozen enabled raised fits :=
    serviceTimes_of_pending (interruptPending_of_raised enabled raised) fits
  overflow full := by
    constructor
    · exact serviceTimes_afterCalls_of_overflowed full
    · intro enabled raised
      exact serviceTimes_of_pending_of_overflowed (interruptPending_of_raised enabled raised) full

/-- **Whatever was called since the radio was put in, the station is disciplined**, with the
histories that were kept beside it from the first call on. -/
theorem disciplined_afterCalls (s : Station) (calls : List RadioCall) :
    (s.withNewRadio.afterCalls calls).Disciplined (s.withNewRadio.recordedIn calls {}) :=
  .of_proper (proper_afterCalls Radio.proper_new calls)
    (histories_afterCalls calls s.withNewRadio)

/-- A frame that is cut off by the loss of power is not recorded, and a step does nothing any more;
one that left before stays recorded. -/
example :
    let send : List RadioCall := [.access (.setPower true), .access (.setShorts .txOnce),
      .access (.setBuffer (some ⟨0⟩)), .access (.trigger .txEnable)]
    let lost := ({} : Station).afterCalls (send ++ [.access (.setPower false), .service])
    let sent := ({} : Station).afterCalls (send ++ [.service, .access (.setPower false)])
    lost.histories.channels = [] ∧ sent.histories.channels = [2] := by
  decide

end Station

end BurstLink
