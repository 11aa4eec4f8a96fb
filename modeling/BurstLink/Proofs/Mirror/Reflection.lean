import BurstLink.Proofs.Custody.Bench

/-! # The reflection of the link in the radio

What the link and the radio have to agree on is a small part of the station: the mode, the
configuration, whether the link is up and a carrier on air, and the registers that a configuration
reaches. This module takes that part out and says what the pieces of every operation do to it. Most
of them leave it alone.

Main definitions:

* **`Radio.program`** — the registers that a configuration reaches.
* **`Station.reflection`** — the program together with what the link knows.
* **`Program.Holds`** — the program is that of a configuration.

Main statements: a step of the radio and every task leave the program alone
(`Radio.program_service`, `Radio.program_trigger`), and programming the radio makes it that of the
configuration (`Station.reflection_programRadio`). -/

namespace BurstLink

/-! ## The program of a radio -/

/-- The registers that a configuration of the link reaches. -/
structure Program where
  /-- The radio has power. -/
  powered : Bool
  /-- The packet format is set. -/
  formatted : Bool
  /-- Transmission power. -/
  txPower : TxPower
  /-- Channel. -/
  channel : UInt8
  /-- Data rate. -/
  bitrate : Bitrate
  /-- The address in the address registers. -/
  address : Address
  /-- Active shortcuts. -/
  shorts : Shorts

/-- The program holds a configuration, and the radio is ready for the link protocol. -/
structure Program.Holds (c : LinkConfig) (p : Program) : Prop where
  powered : p.powered = true
  formatted : p.formatted = true
  txPower : p.txPower = .zeroDbm
  channel : p.channel = c.channel
  bitrate : p.bitrate = c.bitrate
  address : p.address = c.address

/-- With other shortcuts, the program holds the same configuration. -/
theorem Program.Holds.withShorts {c : LinkConfig} {p : Program} (h : p.Holds c) (shorts : Shorts) :
    ({ p with shorts := shorts } : Program).Holds c :=
  ⟨h.powered, h.formatted, h.txPower, h.channel, h.bitrate, h.address⟩

/-- The program of a radio on standby. -/
def LinkConfig.program (c : LinkConfig) : Program where
  powered := true
  formatted := true
  txPower := .zeroDbm
  channel := c.channel
  bitrate := c.bitrate
  address := c.address
  shorts := .rssi

/-- The program of a configuration holds it. -/
theorem LinkConfig.holds_program (c : LinkConfig) : c.program.Holds c :=
  ⟨rfl, rfl, rfl, rfl, rfl, rfl⟩

namespace Radio

variable {r r' : Radio}

/-- The program of the radio. -/
def program (r : Radio) : Program where
  powered := r.powered
  formatted := r.packetConfigured
  txPower := r.txPower
  channel := r.channel
  bitrate := r.bitrate
  address := r.address
  shorts := r.shorts

/-- Switching off leaves the program alone. -/
theorem Settles.program (h : r.Settles r') : r'.program = r.program := by
  obtain ⟨_, _, _, -, rfl⟩ := h
  rfl

/-- In either case the program is the same. -/
theorem program_ite {c : Prop} [Decidable c] {t e : Radio} (then' : t.program = r.program)
    (else' : e.program = r.program) : (if c then t else e).program = r.program := by
  split <;> assumption

/-- The end of a frame leaves the program as it is. -/
theorem program_endFrame (idle : Phase) (r : Radio) : (r.endFrame idle).program = r.program :=
  program_ite rfl rfl

/-- So does a transmission. -/
theorem program_transmit (packet : Option Packet) (r : Radio) :
    (r.transmit packet).program = r.program := by
  cases packet <;> exact program_endFrame ..

/-- So does a reception. -/
theorem program_receive (answer : Answer) (r : Radio) : (r.receive answer).program = r.program :=
  program_endFrame ..

/-- So does the acknowledgement timeout. -/
theorem program_ackTimeout (r : Radio) : r.ackTimeout.program = r.program :=
  program_ite (switchOff_settles _).program rfl

/-- So does a sample of the ambient signal. -/
theorem program_sampleAmbient (r : Radio) : r.sampleAmbient.program = r.program :=
  program_ite rfl rfl

/-- So does a receiver that comes up. -/
theorem program_rampUp (r : Radio) : r.rampUp.program = r.program := program_ite rfl rfl

/-- **A step of the radio leaves its program alone.** -/
theorem program_service (packet : Option Packet) (r : Radio) :
    (r.service packet).1.program = r.program := by
  unfold service
  split
  · rfl
  · unfold step
    split
    · exact r.settle_settles.program
    · exact program_transmit ..
    · exact program_rampUp r
    · split
      · exact program_sampleAmbient r
      · split
        · exact program_ackTimeout _
        · exact program_receive ..
    · exact program_sampleAmbient r
    all_goals rfl

/-- **A task leaves the program alone.** -/
theorem program_trigger (task : RadioTask) (r : Radio) : (r.trigger task).program = r.program := by
  refine program_ite ?_ rfl
  cases task with
  | txEnable => exact program_ite (program_ite rfl rfl) rfl
  | start =>
    dsimp only
    split <;> rfl
  | disable => exact r.requestDisable_settles.program
  | _ => rfl

end Radio

/-! ## The reflection -/

/-- What the link and the registers show of each other. -/
structure Reflection where
  /-- What the radio is used for. -/
  mode : Mode
  /-- The configuration of the link. -/
  config : LinkConfig
  /-- The link protocol owns the radio. -/
  initialized : Bool
  /-- An unmodulated carrier is on air. -/
  carrier : Bool
  /-- The program of the radio. -/
  program : Program

namespace Station

variable {s t : Station}

/-- What the link and the registers of a station show of each other. -/
def reflection (s : Station) : Reflection where
  mode := s.mode
  config := s.link.config
  initialized := s.link.initialized
  carrier := s.link.carrier
  program := s.radio.program

/-- What custody does not notice does not show. -/
theorem Agree.reflection (h : Agree True s t) : t.reflection = s.reflection := by
  have program : t.radio.program = s.radio.program := by
    unfold Radio.program Radio.address
    rw [← h.registers]
  unfold Station.reflection
  rw [h.mode, h.config, h.initialized, h.carrier, program]

/-- A change of the radio that leaves its program alone does not show. -/
theorem reflection_onRadio {f : Radio → Radio} (same : (f s.radio).program = s.radio.program) :
    (s.onRadio f).reflection = s.reflection :=
  congrArg (Reflection.mk s.mode s.link.config s.link.initialized s.link.carrier) same

/-- A step of the radio does not change what is mirrored. -/
theorem reflection_serviceRadio (s : Station) : s.serviceRadio.reflection = s.reflection := by
  obtain ⟨buffers, same⟩ := s.serviceRadio_eq
  rw [same]
  exact reflection_onRadio (f := fun r => (r.service s.loaded).1) (Radio.program_service ..)

/-- Neither does switching off by force. -/
theorem reflection_disableRadio (s : Station) : s.disableRadio.1.reflection = s.reflection := by
  rw [s.disableRadio_eq]
  exact reflection_onRadio s.radio.forceOff_settles.program

/-- Looks at the state of the radio do not show. The induction is on the number of looks. -/
theorem reflection_pollDisabledTimes (n : Nat) (s : Station) :
    (s.pollDisabledTimes n).1.reflection = s.reflection := by
  induction n generalizing s with
  | zero => rfl
  | succ n ih =>
    exact (ih { s with radio := s.radio.settle }).trans
      (reflection_onRadio s.radio.settle_settles.program)

/-- **Programming the radio makes its program that of the configuration.** -/
theorem reflection_programRadio (config : LinkConfig) (s : Station) :
    (s.programRadio config).reflection = { s.reflection with program := config.program } := by
  rw [programRadio_eq]
  refine congrArg (Reflection.mk s.mode s.link.config s.link.initialized s.link.carrier) ?_
  unfold Radio.program Radio.address LinkConfig.program
  dsimp only
  rw [Address.ofRegisters_base_pipePrefix]

/-- The interrupt handler takes away at most the shortcut that chains into the receiver. -/
theorem reflection_handleInterrupt (s : Station) : s.handleInterrupt.reflection = s.reflection ∨
    s.handleInterrupt.reflection = { s.reflection with program :=
      { s.reflection.program with shorts := s.radio.shorts.difference .disabledRxEnable } } := by
  obtain ⟨_, _, _, _, _, _, _, _, shorts, kept | less, same⟩ := s.handleInterrupt_eq
  · subst kept
    rw [same]
    exact .inl rfl
  · subst less
    rw [same]
    exact .inr rfl

end Station

end BurstLink
