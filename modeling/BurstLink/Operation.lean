import BurstLink.AmplifierTest
import BurstLink.Link.ChannelScan
import BurstLink.Listening
import BurstLink.Mode.Switch
import BurstLink.Settings

/-! # Operations

Everything a user of the station can ask for is a **`Request`**. A request is carried out by looking
at it again and again; between two looks it is an **`Activity`**. All operations but the front-end
test use the radio under a lock: the first one that finds it free takes it and keeps it until the
operation is over or dropped. Arguments are checked before the lock is asked for.

Main definitions:

* **`Request.answer?`** — the answer to a request that needs no look at the station.
* **`Station.start`** — what it does up to its first wait; outside its mode
  (`Station.start_of_other_mode`) or while the link is not ready (`Station.start_of_not_ready`), it is
  refused.
* **`Activity.poll`** — one look.
* **`Activity.drop`** — what happens when an operation is given up half-way. -/

namespace BurstLink

/-! ## Requests and replies -/

/-- What can be asked for. -/
inductive Request
  /-- Switch to a mode. -/
  | switchMode (mode : Mode)
  /-- Switch to the mode with a name. -/
  | switchModeNamed (name : String)
  /-- Read the link configuration. -/
  | readConfig
  /-- Replace the link configuration. -/
  | configure (config : LinkConfig)
  /-- Change one setting of the link. -/
  | change (change : ConfigChange)
  /-- Set the output gain to that of a power level. -/
  | setPowerLevel (level : UInt8)
  /-- Send the packet in one buffer and receive the acknowledgement into another. -/
  | send (packet ack : Buffer)
  /-- Send some bytes. -/
  | sendPayload (bytes : List UInt8)
  /-- Send some bytes on every channel of a range. -/
  | scanChannels (first last : UInt8) (bytes : List UInt8)
  /-- Put the carrier on the link's channel on or off air. -/
  | toggleCarrier (on : Bool)
  /-- Put the carrier on a channel, in the carrier mode. -/
  | startCarrier (channel : UInt8)
  /-- Take the carrier off air, in the carrier mode. -/
  | stopCarrier
  /-- Measure the signal strength on a channel. -/
  | measureRssi (channel : UInt8)
  /-- Listen for devices on a channel. -/
  | scanPresence (scanner : Handle Scanner) (channel : UInt8) (window : Nat)
  /-- Test the front end. -/
  | testAmplifiers
  deriving DecidableEq

/-- What a successful operation answers. -/
inductive Reply
  /-- Nothing more to say. -/
  | done
  /-- The link configuration. -/
  | config (config : LinkConfig)
  /-- How a send ended. -/
  | sent (outcome : Outcome)
  /-- How a send ended, and the acknowledgement. -/
  | exchanged (outcome : Outcome) (ack : Packet)
  /-- Channels that acknowledged. -/
  | channels (hits : List UInt8)
  /-- Whether the request changed anything. -/
  | changed (changed : Bool)
  /-- A signal strength, in -dBm. -/
  | rssi (rssi : UInt8)
  /-- Devices found. -/
  | devices (found : List Detection)
  /-- State of the amplifiers. -/
  | amplifiers (status : AmplifierStatus)
  deriving DecidableEq

/-- How an operation ends. -/
abbrev Result := Except Failure Reply

namespace Request

/-- A passed check leaves the answer open; a failed one is the answer. -/
def refusal? : Except BadRequest Unit → Option Result
  | .ok () => none
  | .error reason => some (.error (.badRequest reason))

/-- The answer to a request that needs no look at the station: an argument is out of range, or
there is nothing to do. -/
def answer? : Request → Option Result
  | .switchModeNamed name => if (Mode.ofName? name).isNone then some (.error .notFound) else none
  | .configure c => refusal? c.validate
  | .change c => refusal? c.check
  | .sendPayload bytes => refusal? ((Payload.ofBytes bytes).map fun _ => ())
  | .scanChannels first last _ =>
    if last < first then some (.ok (.channels [])) else refusal? (checkChannel last)
  | .startCarrier channel => refusal? (checkChannel channel)
  | .measureRssi channel => refusal? (checkChannel channel)
  | .scanPresence _ channel _ => refusal? (checkChannel channel)
  | _ => none

/-- The mode that an operation is for, if it does nothing in any other one. -/
def mode? : Request → Option Mode
  | .startCarrier _ => some .carrier
  | .stopCarrier => some .carrier
  | .measureRssi _ => some .powerMeasurement
  | .scanPresence .. => some .presenceScan
  | _ => none

/-- The operation would put packets of the link on air. -/
def Transmits : Request → Prop
  | .send .. => True
  | .sendPayload _ => True
  | .scanChannels .. => True
  | _ => False

/-- The front-end test is the only operation that does without the lock. -/
def needsLock : Request → Bool
  | .testAmplifiers => false
  | _ => true

end Request

/-! ## Activities -/

/-- What a send is part of. -/
inductive Purpose
  /-- A send of its own; the reply may contain the acknowledgement. -/
  | single (withAck : Bool)
  /-- One channel of a scan. -/
  | scan (scan : ChannelScan)
  deriving DecidableEq

/-- An operation between two looks. -/
inductive Activity
  /-- Not started: never looked at, or waiting for the lock. -/
  | queued (request : Request)
  /-- An exchange is in progress. -/
  | sending (flight : Flight) (purpose : Purpose)
  /-- The link is being taken down. -/
  | switching (teardown : Teardown)
  /-- A measurement event is awaited. -/
  | measuring (measurement : Measurement)
  /-- Presence reports are awaited. -/
  | listening (listening : Listening)
  /-- An amplifier settles. -/
  | testing (test : AmplifierTest)
  deriving DecidableEq

/-- The activity holds the lock. -/
def Activity.holdsLock : Activity → Bool
  | .queued _ => false
  | .testing _ => false
  | _ => true

/-- What a look at an operation finds. -/
abbrev Progress := Look Activity Result

/-- The operation holds the lock after the look. -/
def Progress.holdsLock : Progress → Bool
  | .waiting activity => activity.holdsLock
  | .finished _ => false

namespace Station

/-- Takes the lock or gives it back, as an operation that used it goes on or is over. -/
def withLock (found : Station × Progress) : Station × Progress :=
  (found.1.setLocked (Progress.holdsLock found.2), found.2)

/-- Takes what a look at one kind of activity found as what a look at an operation found. -/
def asProgress {ω α : Type} (activity : ω → Activity) (result : α → Result)
    (found : Station × Look ω α) : Station × Progress :=
  (found.1, found.2.map activity result)

/-- The same for a result that is there at once. -/
def asAnswer {α : Type} (reply : α → Reply) (found : Station × Except Failure α) :
    Station × Progress :=
  (found.1, .finished (found.2.map reply))

/-- A mode switch as an operation. -/
def ofSwitch : Station × Look Teardown Unit → Station × Progress :=
  asProgress .switching fun _ => .ok .done

/-- A measurement as an operation. -/
def ofMeasurement : Station × MeasurementLook → Station × Progress :=
  asProgress .measuring (Except.map .rssi)

/-- A presence scan as an operation. -/
def ofListening : Station × ListeningLook → Station × Progress :=
  asProgress .listening (Except.map .devices)

/-- A channel scan as an operation. -/
def ofScan : Station × ScanLook → Station × Progress :=
  asProgress (fun rest => .sending rest.1 (.scan rest.2)) (Except.map .channels)

/-- A front-end test as an operation. -/
def ofAmplifierTest : Station × Look AmplifierTest AmplifierStatus → Station × Progress :=
  asProgress .testing fun status => .ok (.amplifiers status)

/-! ## Starting an operation -/

/-- The reply to a send of its own. -/
def replyToSend (ack : Buffer) (withAck : Bool) (outcome : Outcome) (s : Station) : Reply :=
  if withAck then .exchanged outcome (s.buffers.get ack) else .sent outcome

/-- Starts a send of its own. -/
def startSend (packet ack : Buffer) (withAck : Bool) (s : Station) : Station × Progress :=
  match s.launch packet ack with
  | (s, .refused failure) => (s, .finished (.error failure))
  | (s, .lost) => (s, .finished (.ok (s.replyToSend ack withAck .lost)))
  | (s, .flying flight) => (s, .waiting (.sending flight (.single withAck)))

/-- Starts a send with a packet and an acknowledgement buffer of its own. -/
def startSendPayload (bytes : List UInt8) (s : Station) : Station × Progress :=
  let (buffers, packet) := s.buffers.add (.ofPayload (.truncate bytes))
  let (buffers, ack) := buffers.add .empty
  { s with buffers := buffers }.startSend packet ack true

/-- Starts an operation whose arguments are in range, up to its first wait. -/
def start (request : Request) (s : Station) : Station × Progress :=
  match request with
  | .switchMode mode => ofSwitch (s.startSwitch mode)
  | .switchModeNamed name =>
    match Mode.ofName? name with
    | some mode => ofSwitch (s.startSwitch mode)
    | none => (s, .finished (.error .notFound))
  | .readConfig => (s, .finished (.ok (.config s.link.config)))
  | .configure config => (s.replaceConfig config, .finished (.ok .done))
  | .change change => (s.changeConfig change, .finished (.ok .done))
  | .setPowerLevel level => (s.setPowerLevel level, .finished (.ok .done))
  | .send packet ack => s.startSend packet ack false
  | .sendPayload bytes => s.startSendPayload bytes
  | .scanChannels first last bytes => ofScan (s.startScan first last bytes)
  | .toggleCarrier on => asAnswer .changed (s.toggleCarrier on)
  | .startCarrier channel => asAnswer (fun _ => .done) (s.startCarrier channel)
  | .stopCarrier => asAnswer (fun _ => .done) s.stopCarrier
  | .measureRssi channel => ofMeasurement (s.startMeasurement channel)
  | .scanPresence scanner channel window => ofListening (s.startListening scanner channel window)
  | .testAmplifiers => ofAmplifierTest s.startAmplifierTest

/-- **Outside its mode an operation is not available.** -/
theorem start_of_other_mode {request : Request} {mode : Mode} (wants : request.mode? = some mode)
    {s : Station} (other : s.mode ≠ mode) :
    s.start request = (s, .finished (.error .notAvailable)) := by
  cases request with
  | startCarrier channel =>
    obtain rfl := Option.some.inj wants
    exact congrArg (asAnswer fun _ => .done) (if_neg other)
  | stopCarrier =>
    obtain rfl := Option.some.inj wants
    exact congrArg (asAnswer fun _ => .done) (if_neg other)
  | measureRssi channel =>
    obtain rfl := Option.some.inj wants
    exact congrArg ofMeasurement (if_neg other)
  | scanPresence scanner channel window =>
    obtain rfl := Option.some.inj wants
    exact congrArg ofListening (if_neg other)
  | _ => cases wants

/-- **An operation that would send is refused if the link is not ready**; at most it has added the
buffers of its packets. -/
theorem start_of_not_ready {request : Request} (transmits : request.Transmits) {s : Station}
    {failure : Failure} (unready : s.ready = .error failure) :
    ∃ buffers, s.start request = ({ s with buffers := buffers }, .finished (.error failure)) := by
  have refused : ∀ (packet ack : Buffer) (withAck : Bool) (buffers : Pool Packet),
      ({ s with buffers := buffers } : Station).startSend packet ack withAck =
        ({ s with buffers := buffers }, .finished (.error failure)) := by
    intro packet ack withAck buffers
    have unready' : ({ s with buffers := buffers } : Station).ready = .error failure := unready
    simp only [startSend, launch, unready']
  cases request with
  | send packet ack => exact ⟨s.buffers, refused packet ack false s.buffers⟩
  | sendPayload bytes => exact ⟨_, refused ..⟩
  | scanChannels first last bytes =>
    have answered : s.startScan first last bytes = (s, .finished (.error failure)) := by
      simp only [startScan, unready]
    exact ⟨s.buffers, congrArg ofScan answered⟩
  | _ => exact transmits.elim

/-! ## Going on with it -/

/-- Looks at a send, and goes on with the scan it is part of. -/
def checkSend (flight : Flight) (purpose : Purpose) (s : Station) : Station × Progress :=
  match s.checkFlight flight with
  | (s, .waiting flight) => (s, .waiting (.sending flight purpose))
  | (s, .finished result) =>
    match purpose with
    | .single withAck =>
      (s, .finished (result.map fun outcome => s.replyToSend flight.ack withAck outcome))
    | .scan scan => ofScan (s.scoreScan flight scan result)

/-- Looks at a request that has not started. It is answered at once, waits for the lock, or
starts. -/
def checkQueued (request : Request) (s : Station) : Station × Progress :=
  match request.answer? with
  | some result => (s, .finished result)
  | none =>
    if request.needsLock then
      if s.locked then (s, .waiting (.queued request)) else withLock (s.start request)
    else s.start request

end Station

namespace Activity

/-- One look at an operation. -/
def poll (activity : Activity) (s : Station) : Station × Progress :=
  match activity with
  | .queued request => s.checkQueued request
  | .sending f purpose => Station.withLock (s.checkSend f purpose)
  | .switching t => Station.withLock (Station.ofSwitch (s.checkSwitch t))
  | .measuring m => Station.withLock (Station.ofMeasurement (s.checkMeasurement m))
  | .listening l => Station.withLock (Station.ofListening (s.checkListening l))
  | .testing t => Station.ofAmplifierTest (s.checkAmplifierTest t)

/-- Gives an operation up. An exchange is brought to rest and a receiver switched off; then the lock
is free. -/
def drop (activity : Activity) (s : Station) : Station :=
  match activity with
  | .queued _ => s
  | .sending f _ => (s.forceIdle f.config).setLocked false
  | .switching _ => s.setLocked false
  | .measuring _ => s.endMeasurement.setLocked false
  | .listening _ => s.setLocked false
  | .testing _ => s

/-- A request that waits for the lock changes nothing. -/
theorem poll_queued_of_locked {request : Request} {s : Station} (busy : s.locked = true)
    (undecided : request.answer? = none) (needs : request.needsLock = true) :
    (Activity.queued request).poll s = (s, .waiting (.queued request)) := by
  simp [poll, Station.checkQueued, busy, undecided, needs]

/-- A request that its arguments do not decide starts when the lock is free. -/
theorem poll_queued_of_free {request : Request} {s : Station} (free : s.locked = false)
    (undecided : request.answer? = none) (needs : request.needsLock = true) :
    (Activity.queued request).poll s = Station.withLock (s.start request) := by
  simp [poll, Station.checkQueued, free, undecided, needs]

/-- It goes on as its start does, whether it takes the lock or not. -/
theorem poll_queued_snd_of_free {request : Request} {s : Station} (free : s.locked = false)
    (undecided : request.answer? = none) :
    ((Activity.queued request).poll s).2 = (s.start request).2 := by
  simp only [poll, Station.checkQueued, undecided, free]
  split <;> rfl

/-- A request that its arguments decide changes nothing. -/
theorem poll_queued_of_answer? {request : Request} {result : Result}
    (decided : request.answer? = some result) (s : Station) :
    (Activity.queued request).poll s = (s, .finished result) := by
  simp [poll, Station.checkQueued, decided]

end Activity

end BurstLink
