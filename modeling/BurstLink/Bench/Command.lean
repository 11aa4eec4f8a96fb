import BurstLink.Bench.Access
import BurstLink.Bench.Jobs

/-! # Commands

A session at the bench is a list of commands. A command asks for an operation and waits for it, or
leaves it running in the background; lets rounds go by; gives a background job up; or reaches into
the station by hand. A command never stops the session: one that runs into a limit of the
simulation is answered with the overflow, and the next one finds the bench as it was left.

Main definitions:

* **`Work`** — an operation as it is asked for at the bench.
* **`Command`**, **`Reaction`** — what can be asked, and what is answered.
* **`Bench.run`** — one command. -/

namespace BurstLink

/-- An operation as it is asked for at the bench. -/
inductive Work
  /-- An operation that brings no buffers along. -/
  | request (request : Request)
  /-- Send a packet; the acknowledgement goes into a buffer that holds `ack` before. -/
  | send (packet ack : Packet)
  /-- Listen for devices with the current scanner. -/
  | scanPresence (channel : UInt8) (window : Nat)

/-- What can be done at the bench. -/
inductive Command
  /-- Ask for an operation: wait for it, or give it a label and leave it running. -/
  | perform (label : Option String) (work : Work) (pumped : Bool)
  /-- Let rounds go by. -/
  | rounds (n : Nat) (pumped : Bool)
  /-- Give up the oldest job with a label. -/
  | cancel (label : String)
  /-- List the modes. -/
  | listModes
  /-- Read the transmission history. -/
  | readHistory
  /-- Queue responses. -/
  | schedule (responses : List AirResponse)
  /-- Change a setting of the surroundings. -/
  | setAir (setting : AirSetting)
  /-- Put up a scanner that hears the given advertisements. -/
  | putUpScanner (heard : List Detection)
  /-- Silence the current scanner, or let it report again. -/
  | setSilent (on : Bool)
  /-- Let the current scanner report. -/
  | report (report : PresenceReport)
  /-- Run the interrupt handler. -/
  | handleInterrupt
  /-- Let the radio make steps. -/
  | service (n : Nat)
  /-- Look whether the radio is off. -/
  | pollDisabled (n : Nat)
  /-- Access the radio. -/
  | accessRadio (access : RadioAccess)
  /-- Put a packet in front of the radio. -/
  | setPacket (packet : Packet)
  /-- Read the packet that was put in front of the radio last. -/
  | readPacket
  /-- Access the front end. -/
  | accessFrontEnd (access : FrontEndAccess)

/-- What a command is answered with. -/
inductive Reaction
  /-- Nothing to say. -/
  | done
  /-- The operation is over. -/
  | finished (completion : Completion)
  /-- The operation took more rounds than any operation can. -/
  | unfinished
  /-- The simulation ran into a limit. -/
  | overflow (overflow : Overflow)
  /-- The job was given up; its buffers hold these packets. -/
  | cancelled (packets : Option (Packet × Packet))
  /-- No job has the label. -/
  | noJob (label : String)
  /-- Names of modes. -/
  | modes (names : List String)
  /-- The transmission history. -/
  | history (frames : List Frame)
  /-- Answers to repeated questions. -/
  | flags (flags : List Bool)
  /-- A packet, if there is one. -/
  | packet (packet : Option Packet)

namespace Reaction

/-- Done, unless there was an overflow. -/
def ofOverflow : Option Overflow → Reaction
  | none => .done
  | some o => .overflow o

/-- The answer to waiting for a job. -/
def ofEnding : Bench.Ending → Reaction
  | .finished completion => .finished completion
  | .overflow o => .overflow o
  | .unfinished => .unfinished

end Reaction

namespace Bench

/-- A bench with a station at start-up. -/
def ofStation (s : Station) : Bench := { station := s }

/-- Appends a job. A send gets its buffers, a presence scan the current scanner. -/
def enlist (label : Option String) (work : Work) (b : Bench) : Bench :=
  match work with
  | .request request => { b with jobs := b.jobs ++ [⟨label, none, .queued request⟩] }
  | .send packet ack =>
    let (buffers, p) := b.station.buffers.add packet
    let (buffers, a) := buffers.add ack
    { b with
      station := { b.station with buffers := buffers }
      jobs := b.jobs ++ [⟨label, some (p, a), .queued (.send p a)⟩] }
  | .scanPresence channel window =>
    let (station, scanner) := b.station.currentScanner
    { b with
      station := station
      jobs := b.jobs ++ [⟨label, none, .queued (.scanPresence scanner channel window)⟩] }

/-- Puts a packet in front of the radio. -/
def setPacket (packet : Packet) (b : Bench) : Bench :=
  let (buffers, buffer) := b.station.buffers.add packet
  { b with
    station := { b.station with buffers := buffers }.onRadio (Radio.setBuffer (some buffer))
    slot := some buffer }

/-- Forgets which jobs ended and what was told to the log. -/
def turnPage (b : Bench) : Bench :=
  { b with ended := [], station := { b.station with journal := [] } }

/-- Carries out one command. -/
def execute (command : Command) (b : Bench) : Bench × Reaction :=
  match command with
  | .perform none work pumped =>
    let (b, ending) := (b.enlist none work).await pumped
    (b, .ofEnding ending)
  | .perform (some label) work _ => (b.enlist (some label) work, .done)
  | .rounds n pumped =>
    let (b, overflow) := b.rounds pumped n
    (b, .ofOverflow overflow)
  | .cancel label =>
    match b.dropJob (some label) with
    | (b, none) => (b, .noJob label)
    | (b, some job) => (b, .cancelled (job.packets b.station))
  | .listModes => (b, .modes (Mode.all.map Mode.name))
  | .readHistory => (b, .history b.station.radio.air.history)
  | .schedule responses =>
    let (station, overflow) := b.station.schedule responses
    ({ b with station := station }, .ofOverflow overflow)
  | .setAir setting => (b.onStation (Station.setAir setting), .done)
  | .putUpScanner heard =>
    match Scanner.hearing heard with
    | .ok scanner => (b.onStation (Station.putUpScanner scanner), .done)
    | .error overflow => (b, .overflow overflow)
  | .setSilent on =>
    let (station, scanner) := b.station.currentScanner
    ({ b with station := station.onScanner scanner fun sc => { sc with silent := on } }, .done)
  | .report report =>
    let (station, scanner) := b.station.currentScanner
    ({ b with station := station.report scanner report }, .done)
  | .handleInterrupt => (b.onStation Station.handleInterrupt, .done)
  | .service n =>
    match b.station.serviceTimes n with
    | (station, .ok flags) => ({ b with station := station }, .flags flags)
    | (station, .error overflow) => ({ b with station := station }, .overflow overflow)
  | .pollDisabled n =>
    let (station, flags) := b.station.pollDisabledTimes n
    ({ b with station := station }, .flags flags)
  | .accessRadio access => (b.onStation (Station.onRadio access.apply), .done)
  | .setPacket packet => (b.setPacket packet, .done)
  | .readPacket => (b, .packet (b.slot.map b.station.buffers.get))
  | .accessFrontEnd access => (b.onStation (Station.onFrontEnd access.apply), .done)

/-- Runs one command on a new page: the jobs that ended and the notices are those of this command
alone. -/
def run (command : Command) (b : Bench) : Bench × Reaction := b.turnPage.execute command

/-- The background jobs that are over, in the order in which they ended. -/
def endedInBackground (b : Bench) : List (String × Completion) :=
  b.ended.reverse.filterMap fun completion => completion.label.map fun label => (label, completion)

/-- What was told to the log, in order. -/
def notices (b : Bench) : List Notice := b.station.journal.reverse

end Bench

end BurstLink
