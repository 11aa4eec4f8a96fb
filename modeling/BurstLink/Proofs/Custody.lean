import BurstLink.Bench.Jobs
import BurstLink.Proofs.Radio.Frames
import BurstLink.Proofs.Radio.Program
import BurstLink.Proofs.Radio.SwitchOff

/-! # Custody of the radio

Who holds the lock decides what the radio, the front end and the exchange in progress look like.
This module says how, for each kind of holder and for the free lock.

Main definitions:

* **`Station.AtRest`** — the station while nobody holds the lock: the radio is dark, or it stands by
  in the mode that owns it.
* **`Station.InFlight`** — the station while a send is in progress, in one of three stages.
* **`Station.Custody`** — the station with a given holder of the lock.
* **`Look.Meets`** — what a look leaves behind if something goes on, and if it is over.
* **`Station.Leaves`** — what a look at an operation leaves behind.

Two parameters make room for what may happen. `delays` says whether switching the radio off may take
time; without it, every station at rest has its radio switched off for good. `tears` says whether
the link may have been left half torn down; without it, the link is up whenever its mode is on.

Main statement: custody does not depend on the clock, the log, the buffers, the scanners or the
surroundings of the radio, as long as the latency is the same (`Station.Custody.transfer`). -/

namespace BurstLink

/-! ## Looks -/

/-- Something that goes on satisfies the first property, something that is over the second one. -/
def Look.Meets {ω α : Type} (goesOn : ω → Prop) (ends : α → Prop) : Look ω α → Prop
  | .waiting rest => goesOn rest
  | .finished result => ends result

namespace Look

variable {ω ω' α α' : Type} {goesOn goesOn' : ω → Prop} {ends ends' : α → Prop}

/-- What holds under other names holds under the old ones. -/
theorem meets_map {f : ω → ω'} {g : α → α'} {look : Look ω α} {goesOn : ω' → Prop}
    {ends : α' → Prop} :
    (look.map f g).Meets goesOn ends ↔ look.Meets (goesOn ∘ f) (ends ∘ g) := by
  cases look <;> rfl

/-- Looks meet weaker expectations, too. -/
theorem Meets.imp {look : Look ω α} (h : look.Meets goesOn ends)
    (onward : ∀ rest, goesOn rest → goesOn' rest)
    (finally' : ∀ result, ends result → ends' result) : look.Meets goesOn' ends' := by
  cases look with
  | waiting rest => exact onward rest h
  | finished result => exact finally' result h

end Look

namespace Station

variable {delays tears : Prop} {s t : Station}

/-- Both amplifiers, if there is a front end, are as given. -/
def Amplifiers (pa lna : Bool) (s : Station) : Prop :=
  ∀ f ∈ s.frontEnd, f.pa = pa ∧ f.lna = lna

/-- No exchange is in progress, nothing is armed for one, and the radio switches off at once unless
that may take time. -/
structure Calm (delays : Prop) (s : Station) : Prop where
  interrupt : s.radio.interruptEnabled = false
  routes : s.radio.routes = {}
  transfer : s.transfer.state = .idle
  completed : s.completed = false
  prompt : delays ∨ s.radio.air.disableLatency = 0

/-! ## The free lock -/

/-- Nobody owns the radio: it has no power, and at most points at a packet. -/
structure Vacant (delays : Prop) (s : Station) : Prop where
  calm : s.Calm delays
  uninitialized : s.link.initialized = false
  noCarrier : s.link.carrier = false
  wiped : s.radio.toRegisters = { buffer := s.radio.buffer }
  timer : s.radio.timerRunning = false
  amplifiers : s.Amplifiers false false

/-- The link protocol owns the radio, and no carrier is on air. -/
structure Standby (delays : Prop) (s : Station) : Prop where
  calm : s.Calm delays
  mode : s.mode = .link
  initialized : s.link.initialized = true
  noCarrier : s.link.carrier = false
  programmed : s.radio.Programmed s.link.config
  shorts : s.radio.shorts = .rssi
  off : s.radio.Off delays
  amplifiers : s.Amplifiers false false

/-- The link protocol owns the radio, and the carrier is on air. -/
structure Toning (delays : Prop) (s : Station) : Prop where
  calm : s.Calm delays
  mode : s.mode = .link
  initialized : s.link.initialized = true
  carrier : s.link.carrier = true
  programmed : s.radio.Programmed s.link.config
  shorts : s.radio.shorts = .none
  phase : s.radio.phase = .txIdle
  amplifiers : s.Amplifiers true false

/-- The link protocol has stopped, and has not given the radio up. -/
structure Torn (delays : Prop) (s : Station) : Prop where
  calm : s.Calm delays
  mode : s.mode = .link
  uninitialized : s.link.initialized = false
  noCarrier : s.link.carrier = false
  powered : s.radio.powered = true
  formatted : s.radio.packetConfigured = true
  txPower : s.radio.txPower = .zeroDbm
  timer : s.radio.timerRunning = true
  off : s.radio.Off delays
  receiverOff : ∀ f ∈ s.frontEnd, f.lna = false

/-- The carrier mode owns the radio. -/
structure CarrierMode (delays : Prop) (s : Station) : Prop where
  calm : s.Calm delays
  mode : s.mode = .carrier
  uninitialized : s.link.initialized = false
  powered : s.radio.powered = true
  unformatted : s.radio.packetConfigured = false
  timer : s.radio.timerRunning = false
  bitrate : s.radio.bitrate = .mbps2
  txPower : s.radio.txPower = .pos4Dbm
  shorts : s.radio.shorts = .none

/-- In the carrier mode, the carrier is on air or it is not. -/
def Tuned (delays : Prop) (s : Station) : Prop :=
  s.link.carrier = true ∧ s.radio.phase = .txIdle ∧ s.Amplifiers true false ∨
    s.link.carrier = false ∧ s.radio.Off delays ∧ s.Amplifiers false false

/-- The power measurement mode owns the radio. -/
structure GaugeMode (delays : Prop) (s : Station) : Prop where
  calm : s.Calm delays
  mode : s.mode = .powerMeasurement
  uninitialized : s.link.initialized = false
  noCarrier : s.link.carrier = false
  powered : s.radio.powered = true
  unformatted : s.radio.packetConfigured = false
  timer : s.radio.timerRunning = false
  shorts : s.radio.shorts = .txOnce
  pending : s.radio.pending = none

/-- The station while nobody holds the lock. -/
inductive AtRest (delays tears : Prop) (s : Station) : Prop
  /-- The radio has no power. -/
  | dark (mode : s.mode = .disabled ∨ s.mode = .presenceScan) (h : s.Vacant delays)
  /-- The link is up. -/
  | standby (h : s.Standby delays)
  /-- The link is up, and the carrier is on air. -/
  | toning (h : s.Toning delays)
  /-- The link was about to be taken down. -/
  | torn (may : tears) (h : s.Torn delays)
  /-- The carrier mode. -/
  | carrier (h : s.CarrierMode delays) (tuned : s.Tuned delays)
  /-- The power measurement mode. -/
  | gauge (h : s.GaugeMode delays) (off : s.radio.Off delays)
      (amplifiers : s.Amplifiers false false)

/-! ## A send in progress -/

/-- The packet is on air, or has just left it. -/
structure OnAir (f : Flight) (s : Station) : Prop where
  transfer : s.transfer =
    { state := .txInFlight, ackRequired := f.config.ackEnabled, ack := some f.ack }
  completed : s.completed = false
  interrupt : s.radio.interruptEnabled = true
  shorts : s.radio.shorts = .exchange f.config.ackEnabled
  routes : s.radio.routes = { endToCapture := true, addressToCapture := true }
  buffer : s.radio.buffer = some f.packet
  amplifiers : s.Amplifiers true false
  /-- The radio sends or hangs, or it is through and waits for the interrupt handler. -/
  progress : s.radio.events.disabled = false ∧
      (s.radio.phase = .wedged ∨ s.radio.phase = .tx ∧ s.radio.pending.isSome) ∨
    s.radio.events.disabled = true ∧ s.radio.pending.isSome ∧
      s.radio.phase = if f.config.ackEnabled then .rxRampUp else .disabled

/-- The acknowledgement is waited for, or has just come in or timed out. -/
structure Awaiting (f : Flight) (s : Station) : Prop where
  acks : f.config.ackEnabled = true
  transfer : s.transfer = { state := .awaitingAck, ackRequired := true, ack := some f.ack }
  completed : s.completed = false
  interrupt : s.radio.interruptEnabled = true
  shorts : s.radio.shorts = .closing
  routes : s.radio.routes = { addressToCapture := true, compareToDisable := true }
  buffer : s.radio.buffer = some f.ack
  amplifiers : s.Amplifiers false true
  /-- The radio listens, or it is through and waits for the interrupt handler. -/
  progress : s.radio.events.disabled = false ∧ s.radio.pending.isSome ∧
      (s.radio.phase = .rxRampUp ∨ s.radio.phase = .rx) ∨
    s.radio.events.disabled = true ∧ s.radio.phase = .disabled

/-- The exchange is complete, and the send has not taken notice yet. -/
structure Complete (s : Station) : Prop where
  transfer : s.transfer.state = .idle
  completed : s.completed = true
  interrupt : s.radio.interruptEnabled = true
  handled : s.radio.events.disabled = false
  shorts : s.radio.shorts = .closing
  routes : s.radio.routes = {}
  amplifiers : s.Amplifiers false false
  phase : s.radio.phase = .disabled

/-- How far an exchange has come. -/
inductive Stage (f : Flight) (s : Station) : Prop
  /-- The packet is on air. -/
  | onAir (h : s.OnAir f)
  /-- The acknowledgement is waited for. -/
  | awaiting (h : s.Awaiting f)
  /-- The exchange is complete. -/
  | complete (h : s.Complete)

/-- A send is in progress. -/
structure InFlight (delays : Prop) (f : Flight) (s : Station) : Prop where
  mode : s.mode = .link
  initialized : s.link.initialized = true
  noCarrier : s.link.carrier = false
  config : s.link.config = f.config
  programmed : s.radio.Programmed f.config
  prompt : delays ∨ s.radio.air.disableLatency = 0
  apart : f.packet ≠ f.ack
  stage : s.Stage f

/-- The stage of a send in progress shows in the exchange. -/
theorem InFlight.onAir {f : Flight} (h : s.InFlight delays f)
    (state : s.transfer.state = .txInFlight) : s.OnAir f := by
  cases h.stage with
  | onAir air => exact air
  | awaiting wait => exact absurd (state.symm.trans (congrArg _ wait.transfer)) (by simp)
  | complete done => exact absurd (state.symm.trans done.transfer) (by simp)

/-- An exchange whose transfer awaits the acknowledgement is at that stage. -/
theorem InFlight.awaiting {f : Flight} (h : s.InFlight delays f)
    (state : s.transfer.state = .awaitingAck) : s.Awaiting f := by
  cases h.stage with
  | onAir air => exact absurd (state.symm.trans (congrArg _ air.transfer)) (by simp)
  | awaiting wait => exact wait
  | complete done => exact absurd (state.symm.trans done.transfer) (by simp)

/-- An exchange whose transfer is idle is complete. -/
theorem InFlight.complete {f : Flight} (h : s.InFlight delays f)
    (state : s.transfer.state = .idle) : s.Complete := by
  cases h.stage with
  | onAir air => exact absurd (state.symm.trans (congrArg _ air.transfer)) (by simp)
  | awaiting wait => exact absurd (state.symm.trans (congrArg _ wait.transfer)) (by simp)
  | complete done => exact done

/-! ## All holders -/

/-- A measurement is in progress. -/
structure Gauging (delays : Prop) (s : Station) : Prop where
  gauge : s.GaugeMode delays
  phase : s.radio.phase = .rxRampUp ∨ s.radio.phase = .rx
  amplifiers : s.Amplifiers false true

/-- What the station looks like while the given activity uses the radio. -/
def Held (delays : Prop) (activity : Activity) (s : Station) : Prop :=
  match activity with
  | .sending f _ => s.InFlight delays f
  | .switching _ => s.Torn delays
  | .measuring _ => s.Gauging delays
  | .listening _ => s.Vacant delays ∧ s.mode = .presenceScan
  | .queued _ => False
  | .testing _ => False

/-- What the station looks like while the given activity holds the lock, or nobody does. -/
def Custody (delays tears : Prop) (holder : Option Activity) (s : Station) : Prop :=
  match holder with
  | none => s.locked = false ∧ s.AtRest delays tears
  | some activity => s.locked = true ∧ s.Held delays activity

/-- What is left after a look at an operation: it holds the radio, or the station is at rest. -/
def Leaves (delays tears : Prop) (found : Station × Progress) : Prop :=
  found.2.Meets (fun activity => found.1.Held delays activity) fun _ => found.1.AtRest delays tears

/-! ## What custody does not depend on -/

/-- Two stations agree on what custody is about. The packet that the radio points at matters only
during an exchange. -/
structure Agree (delays : Prop) (s t : Station) : Prop where
  registers : { s.radio.toRegisters with buffer := t.radio.buffer } = t.radio.toRegisters
  buffer : s.transfer.state ≠ .idle → s.radio.buffer = t.radio.buffer
  timer : s.radio.timerRunning = t.radio.timerRunning
  routes : s.radio.routes = t.radio.routes
  latency : delays ∨ s.radio.air.disableLatency = t.radio.air.disableLatency
  amplifiers : s.frontEnd.map (fun f => (f.pa, f.lna)) = t.frontEnd.map (fun f => (f.pa, f.lna))
  config : s.link.config = t.link.config
  initialized : s.link.initialized = t.link.initialized
  carrier : s.link.carrier = t.link.carrier
  mode : s.mode = t.mode
  transfer : s.transfer = t.transfer
  completed : s.completed = t.completed

namespace Agree

/-- A station agrees with itself. -/
@[refl] theorem refl (s : Station) : Agree delays s s :=
  ⟨rfl, fun _ => rfl, rfl, rfl, Or.inr rfl, rfl, rfl, rfl, rfl, rfl, rfl, rfl⟩

/-- Stations that agree with the same one in turn agree with each other. -/
theorem trans {u : Station} (h : Agree delays s t) (h' : Agree delays t u) :
    Agree delays s u where
  registers := by rw [← h'.registers, ← h.registers]
  buffer := fun busy => (h.buffer busy).trans (h'.buffer (h.transfer ▸ busy))
  timer := h.timer.trans h'.timer
  routes := h.routes.trans h'.routes
  latency := h.latency.elim Or.inl fun same => h'.latency.imp_right same.trans
  amplifiers := h.amplifiers.trans h'.amplifiers
  config := h.config.trans h'.config
  initialized := h.initialized.trans h'.initialized
  carrier := h.carrier.trans h'.carrier
  mode := h.mode.trans h'.mode
  transfer := h.transfer.trans h'.transfer
  completed := h.completed.trans h'.completed

/-- Both radios switch off without delay, unless that may take time. -/
theorem prompt (agree : Agree delays s t) (h : delays ∨ s.radio.air.disableLatency = 0) :
    delays ∨ t.radio.air.disableLatency = 0 := by
  rcases h with hd | zero
  · exact Or.inl hd
  · exact agree.latency.imp_right fun same => same.symm.trans zero

/-- A front end of one station has a counterpart with the same amplifiers. -/
theorem counterpart (agree : Agree delays s t) {f : FrontEnd} (found : f ∈ t.frontEnd) :
    ∃ g ∈ s.frontEnd, g.pa = f.pa ∧ g.lna = f.lna := by
  have mapped : t.frontEnd.map (fun f => (f.pa, f.lna)) = some (f.pa, f.lna) := by
    rw [Option.mem_def.mp found]
    rfl
  rw [← agree.amplifiers] at mapped
  obtain ⟨g, found', same⟩ := Option.map_eq_some_iff.mp mapped
  exact ⟨g, found', Prod.mk.inj same⟩

/-- Both stations have the same amplifiers on. -/
theorem amplified (agree : Agree delays s t) {pa lna : Bool} (h : s.Amplifiers pa lna) :
    t.Amplifiers pa lna := by
  intro f found
  obtain ⟨g, found', samePa, sameLna⟩ := agree.counterpart found
  exact ⟨samePa ▸ (h g found').1, sameLna ▸ (h g found').2⟩

/-- Both radios are off. -/
theorem off (agree : Agree delays s t) (h : s.radio.Off delays) : t.radio.Off delays := by
  unfold Radio.Off at h ⊢
  rw [← agree.registers]
  exact h

/-- Both radios are programmed. -/
theorem programmed (agree : Agree delays s t) {c : LinkConfig} (h : s.radio.Programmed c) :
    t.radio.Programmed c := by
  constructor
  · rw [← agree.registers]; exact h.powered
  · rw [← agree.registers]; exact h.formatted
  · rw [← agree.registers]; exact h.txPower
  · rw [← agree.registers]; exact h.channel
  · rw [← agree.registers]; exact h.bitrate
  · unfold Radio.address
    rw [← agree.registers]
    exact h.address
  · rw [← agree.timer]; exact h.timer

/-- Both stations are calm. -/
theorem calm (agree : Agree delays s t) (h : s.Calm delays) : t.Calm delays where
  interrupt := by rw [← agree.registers]; exact h.interrupt
  routes := by rw [← agree.routes]; exact h.routes
  transfer := by rw [← agree.transfer]; exact h.transfer
  completed := by rw [← agree.completed]; exact h.completed
  prompt := agree.prompt h.prompt

/-- Nobody owns the radio of either station. -/
theorem vacant (agree : Agree delays s t) (h : s.Vacant delays) : t.Vacant delays where
  calm := agree.calm h.calm
  uninitialized := by rw [← agree.initialized]; exact h.uninitialized
  noCarrier := by rw [← agree.carrier]; exact h.noCarrier
  wiped := by rw [← agree.registers, h.wiped]
  timer := by rw [← agree.timer]; exact h.timer
  amplifiers := agree.amplified h.amplifiers

/-- The link protocol owns both radios, without a carrier. -/
theorem standby (agree : Agree delays s t) (h : s.Standby delays) : t.Standby delays where
  calm := agree.calm h.calm
  mode := by rw [← agree.mode]; exact h.mode
  initialized := by rw [← agree.initialized]; exact h.initialized
  noCarrier := by rw [← agree.carrier]; exact h.noCarrier
  programmed := by rw [← agree.config]; exact agree.programmed h.programmed
  shorts := by rw [← agree.registers]; exact h.shorts
  off := agree.off h.off
  amplifiers := agree.amplified h.amplifiers

/-- The link protocol owns both radios, with a carrier. -/
theorem toning (agree : Agree delays s t) (h : s.Toning delays) : t.Toning delays where
  calm := agree.calm h.calm
  mode := by rw [← agree.mode]; exact h.mode
  initialized := by rw [← agree.initialized]; exact h.initialized
  carrier := by rw [← agree.carrier]; exact h.carrier
  programmed := by rw [← agree.config]; exact agree.programmed h.programmed
  shorts := by rw [← agree.registers]; exact h.shorts
  phase := by rw [← agree.registers]; exact h.phase
  amplifiers := agree.amplified h.amplifiers

/-- The link protocol has stopped on both stations. -/
theorem torn (agree : Agree delays s t) (h : s.Torn delays) : t.Torn delays where
  calm := agree.calm h.calm
  mode := by rw [← agree.mode]; exact h.mode
  uninitialized := by rw [← agree.initialized]; exact h.uninitialized
  noCarrier := by rw [← agree.carrier]; exact h.noCarrier
  powered := by rw [← agree.registers]; exact h.powered
  formatted := by rw [← agree.registers]; exact h.formatted
  txPower := by rw [← agree.registers]; exact h.txPower
  timer := by rw [← agree.timer]; exact h.timer
  off := agree.off h.off
  receiverOff := fun f found => by
    obtain ⟨g, found', -, same⟩ := agree.counterpart found
    exact same ▸ h.receiverOff g found'

/-- The carrier mode owns both radios. -/
theorem carrierMode (agree : Agree delays s t) (h : s.CarrierMode delays) :
    t.CarrierMode delays where
  calm := agree.calm h.calm
  mode := by rw [← agree.mode]; exact h.mode
  uninitialized := by rw [← agree.initialized]; exact h.uninitialized
  powered := by rw [← agree.registers]; exact h.powered
  unformatted := by rw [← agree.registers]; exact h.unformatted
  timer := by rw [← agree.timer]; exact h.timer
  bitrate := by rw [← agree.registers]; exact h.bitrate
  txPower := by rw [← agree.registers]; exact h.txPower
  shorts := by rw [← agree.registers]; exact h.shorts

/-- Both radios are tuned for the carrier mode. -/
theorem tuned (agree : Agree delays s t) (h : s.Tuned delays) : t.Tuned delays := by
  unfold Tuned at h ⊢
  rw [← agree.carrier, ← agree.registers]
  exact h.imp (fun on => ⟨on.1, on.2.1, agree.amplified on.2.2⟩)
    fun off => ⟨off.1, agree.off off.2.1, agree.amplified off.2.2⟩

/-- The power measurement mode owns both radios. -/
theorem gaugeMode (agree : Agree delays s t) (h : s.GaugeMode delays) : t.GaugeMode delays where
  calm := agree.calm h.calm
  mode := by rw [← agree.mode]; exact h.mode
  uninitialized := by rw [← agree.initialized]; exact h.uninitialized
  noCarrier := by rw [← agree.carrier]; exact h.noCarrier
  powered := by rw [← agree.registers]; exact h.powered
  unformatted := by rw [← agree.registers]; exact h.unformatted
  timer := by rw [← agree.timer]; exact h.timer
  shorts := by rw [← agree.registers]; exact h.shorts
  pending := by rw [← agree.registers]; exact h.pending

/-- **Both stations are at rest**: every way to be so is a matter of what the stations agree on. -/
theorem atRest (agree : Agree delays s t) (h : s.AtRest delays tears) : t.AtRest delays tears := by
  cases h with
  | dark mode h => exact .dark (agree.mode ▸ mode) (agree.vacant h)
  | standby h => exact .standby (agree.standby h)
  | toning h => exact .toning (agree.toning h)
  | torn may h => exact .torn may (agree.torn h)
  | carrier h tuned => exact .carrier (agree.carrierMode h) (agree.tuned tuned)
  | gauge h off amplifiers =>
    exact .gauge (agree.gaugeMode h) (agree.off off) (agree.amplified amplifiers)

/-- An exchange is at the same stage on both stations. -/
theorem stage {f : Flight} (agree : Agree delays s t) (h : s.Stage f) : t.Stage f := by
  cases h with
  -- what a stage says of the radio, it says of what both stations have in common
  | onAir h =>
    refine .onAir ⟨?_, ?_, ?_, ?_, ?_, ?_, agree.amplified h.amplifiers, ?_⟩
    · rw [← agree.transfer]; exact h.transfer
    · rw [← agree.completed]; exact h.completed
    · rw [← agree.registers]; exact h.interrupt
    · rw [← agree.registers]; exact h.shorts
    · rw [← agree.routes]; exact h.routes
    · rw [← agree.buffer (by rw [h.transfer]; simp)]; exact h.buffer
    · rw [← agree.registers]; exact h.progress
  | awaiting h =>
    refine .awaiting ⟨h.acks, ?_, ?_, ?_, ?_, ?_, ?_, agree.amplified h.amplifiers, ?_⟩
    · rw [← agree.transfer]; exact h.transfer
    · rw [← agree.completed]; exact h.completed
    · rw [← agree.registers]; exact h.interrupt
    · rw [← agree.registers]; exact h.shorts
    · rw [← agree.routes]; exact h.routes
    · rw [← agree.buffer (by rw [h.transfer]; simp)]; exact h.buffer
    · rw [← agree.registers]; exact h.progress
  | complete h =>
    refine .complete ⟨?_, ?_, ?_, ?_, ?_, ?_, agree.amplified h.amplifiers, ?_⟩
    · rw [← agree.transfer]; exact h.transfer
    · rw [← agree.completed]; exact h.completed
    · rw [← agree.registers]; exact h.interrupt
    · rw [← agree.registers]; exact h.handled
    · rw [← agree.registers]; exact h.shorts
    · rw [← agree.routes]; exact h.routes
    · rw [← agree.registers]; exact h.phase

/-- The same exchange is in progress on both stations. -/
theorem inFlight {f : Flight} (agree : Agree delays s t) (h : s.InFlight delays f) :
    t.InFlight delays f where
  mode := by rw [← agree.mode]; exact h.mode
  initialized := by rw [← agree.initialized]; exact h.initialized
  noCarrier := by rw [← agree.carrier]; exact h.noCarrier
  config := by rw [← agree.config]; exact h.config
  programmed := agree.programmed h.programmed
  prompt := agree.prompt h.prompt
  apart := h.apart
  stage := agree.stage h.stage

/-- **The same operation may hold the lock on both stations.** -/
theorem held {activity : Activity} (agree : Agree delays s t) (h : s.Held delays activity) :
    t.Held delays activity := by
  cases activity with
  | queued => exact h
  | sending => exact agree.inFlight h
  | switching => exact agree.torn h
  | measuring =>
    refine ⟨agree.gaugeMode h.gauge, ?_, agree.amplified h.amplifiers⟩
    rw [← agree.registers]
    exact h.phase
  | listening => exact ⟨agree.vacant h.1, agree.mode ▸ h.2⟩
  | testing => exact h

end Agree

/-- Clock, log, lock, buffers, scanners, and what moves on in the link with every send are nothing
that custody is about. -/
theorem unnoticed (clock : Nat) (journal : List Notice) (locked : Bool) (buffers : Pool Packet)
    (scanners : Pool Scanner) (pid : Pid) (draws : Draws) (s : Station) :
    Agree delays s { s with
      clock := clock
      journal := journal
      locked := locked
      buffers := buffers
      scanners := scanners
      link := { s.link with pid := pid, draws := draws } } :=
  ⟨rfl, fun _ => rfl, rfl, rfl, Or.inr rfl, rfl, rfl, rfl, rfl, rfl, rfl, rfl⟩

/-- The clock is none of what custody is about. -/
theorem clock_agree (clock : Nat) (s : Station) : Agree delays s { s with clock := clock } :=
  unnoticed ..

/-- Nor is the log. -/
theorem journal_agree (journal : List Notice) (s : Station) :
    Agree delays s { s with journal := journal } :=
  unnoticed ..

/-- Nor is a notice in it. -/
theorem note_agree (notice : Notice) (s : Station) : Agree delays s (s.note notice) :=
  journal_agree _ s

/-- Nor is the lock itself. -/
theorem setLocked_agree (locked : Bool) (s : Station) : Agree delays s (s.setLocked locked) :=
  unnoticed ..

/-- Whoever holds the lock keeps it. -/
theorem setLocked_of_locked {s : Station} (locked : s.locked = true) : s.setLocked true = s := by
  rw [← locked]
  rfl

/-- Nor are the packets. -/
theorem buffers_agree (buffers : Pool Packet) (s : Station) :
    Agree delays s { s with buffers := buffers } :=
  unnoticed ..

/-- Nor are the scanners. -/
theorem scanners_agree (scanners : Pool Scanner) (s : Station) :
    Agree delays s { s with scanners := scanners } :=
  unnoticed ..

/-- Nor are the draws of the loss simulation. -/
theorem draws_agree (draws : Draws) (s : Station) :
    Agree delays s (s.onLink fun link => { link with draws := draws }) :=
  unnoticed ..

/-- The packet gets its identifier, and the link moves on to the next one. -/
theorem stamp_agree (packet : Buffer) (s : Station) : Agree delays s
    ((s.onBuffer packet (Packet.setPid s.link.pid)).onLink
      fun link => { link with pid := link.pid.next }) :=
  unnoticed ..

/-- The power level is set on the front end; the amplifiers stay as they are. -/
theorem setPowerLevel_agree (level : UInt8) (s : Station) :
    Agree delays s (s.setPowerLevel level) := by
  refine ⟨rfl, fun _ => rfl, rfl, rfl, Or.inr rfl, ?_, rfl, rfl, rfl, rfl, rfl, rfl⟩
  show _ = (s.frontEnd.map (FrontEnd.setGain _)).map _
  rw [Option.map_map]
  rfl

/-- Between exchanges it does not matter which packet the radio points at. -/
theorem setBuffer_agree (idle : s.transfer.state = .idle) (pointer : Option Buffer) :
    Agree delays s (s.onRadio (Radio.setBuffer pointer)) :=
  ⟨rfl, fun busy => absurd idle busy, rfl, rfl, Or.inr rfl, rfl, rfl, rfl, rfl, rfl, rfl, rfl⟩

/-- **Custody does not depend on what stations need not agree on.** -/
theorem Custody.transfer {holder : Option Activity} (h : s.Custody delays tears holder)
    (agree : Agree delays s t) (locked : s.locked = t.locked) : t.Custody delays tears holder := by
  cases holder with
  | none => exact ⟨locked ▸ h.1, agree.atRest h.2⟩
  | some activity => exact ⟨locked ▸ h.1, agree.held h.2⟩

end Station

end BurstLink
