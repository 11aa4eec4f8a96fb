import BurstLink.Proofs.Address
import BurstLink.Proofs.Radio.SwitchOff

/-! # The program of the radio

A configuration of the link is written into the registers before anything is sent. Steps of the
radio use that program and leave it as it is.

Main definitions:

* **`Radio.Programmed`** — the registers hold a configuration of the link.
* **`Radio.Keeps`** — the program of a radio and its latency are those of another one.

Main statement: a step keeps the program (`Radio.step_keeps`). -/

namespace BurstLink

/-- The registers hold a configuration, and the radio is ready for the link protocol. -/
structure Radio.Programmed (c : LinkConfig) (r : Radio) : Prop where
  powered : r.powered = true
  formatted : r.packetConfigured = true
  txPower : r.txPower = .zeroDbm
  channel : r.channel = c.channel
  bitrate : r.bitrate = c.bitrate
  address : r.address = c.address
  timer : r.timerRunning = true

/-- The program of the radio and its latency are the same. -/
structure Radio.Keeps (r r' : Radio) : Prop where
  powered : r'.powered = r.powered
  formatted : r'.packetConfigured = r.packetConfigured
  txPower : r'.txPower = r.txPower
  channel : r'.channel = r.channel
  bitrate : r'.bitrate = r.bitrate
  base0 : r'.base0 = r.base0
  prefix0 : r'.prefix0 = r.prefix0
  timer : r'.timerRunning = r.timerRunning
  latency : r'.air.disableLatency = r.air.disableLatency

namespace Radio

variable {r r' r'' : Radio}

namespace Keeps

/-- A radio keeps its own program. -/
@[refl] theorem refl (r : Radio) : r.Keeps r := ⟨rfl, rfl, rfl, rfl, rfl, rfl, rfl, rfl, rfl⟩

/-- What is kept twice is kept. -/
theorem trans (h : r.Keeps r') (h' : r'.Keeps r'') : r.Keeps r'' where
  powered := h'.powered.trans h.powered
  formatted := h'.formatted.trans h.formatted
  txPower := h'.txPower.trans h.txPower
  channel := h'.channel.trans h.channel
  bitrate := h'.bitrate.trans h.bitrate
  base0 := h'.base0.trans h.base0
  prefix0 := h'.prefix0.trans h.prefix0
  timer := h'.timer.trans h.timer
  latency := h'.latency.trans h.latency

end Keeps

/-- A radio that keeps its program holds the same configuration. -/
theorem Programmed.kept {c : LinkConfig} (p : r.Programmed c) (h : r.Keeps r') :
    r'.Programmed c where
  powered := h.powered.trans p.powered
  formatted := h.formatted.trans p.formatted
  txPower := h.txPower.trans p.txPower
  channel := h.channel.trans p.channel
  bitrate := h.bitrate.trans p.bitrate
  address := by
    unfold Radio.address
    rw [h.base0, h.prefix0]
    exact p.address
  timer := h.timer.trans p.timer

/-- Switching off keeps the program. -/
theorem Settles.keeps (h : r.Settles r') : r.Keeps r' := by
  obtain ⟨_, _, _, -, rfl⟩ := h
  exact ⟨rfl, rfl, rfl, rfl, rfl, rfl, rfl, rfl, rfl⟩

/-- What is recorded on air does not slow the radio down. -/
@[simp] theorem disableLatency_record (air : Air) (frame : Frame) :
    (air.record frame).disableLatency = air.disableLatency := by
  unfold Air.record
  split <;> rfl

/-- Nor does a response that is taken off the script. -/
@[simp] theorem disableLatency_nextResponse (air : Air) :
    air.nextResponse.2.disableLatency = air.disableLatency := by
  unfold Air.nextResponse
  split <;> rfl

/-- In either case the program is kept. -/
theorem Keeps.ite {c : Prop} [Decidable c] (h : r.Keeps r') (h' : r.Keeps r'') :
    r.Keeps (if c then r' else r'') := by
  split <;> assumption

/-- The end of a frame keeps the program. -/
theorem endFrame_keeps (idle : Phase) (r : Radio) : r.Keeps (r.endFrame idle) :=
  .ite ⟨rfl, rfl, rfl, rfl, rfl, rfl, rfl, rfl, rfl⟩ ⟨rfl, rfl, rfl, rfl, rfl, rfl, rfl, rfl, rfl⟩

/-- So does a transmission. -/
theorem transmit_keeps (packet : Option Packet) (r : Radio) : r.Keeps (r.transmit packet) := by
  cases packet with
  | none => exact r.endFrame_keeps .txIdle
  | some p =>
    refine Keeps.trans ?_ (endFrame_keeps ..)
    exact ⟨rfl, rfl, rfl, rfl, rfl, rfl, rfl, rfl, disableLatency_record ..⟩

/-- So does a reception. -/
theorem receive_keeps (answer : Answer) (r : Radio) : r.Keeps (r.receive answer) := by
  refine Keeps.trans ?_ (endFrame_keeps ..)
  exact ⟨rfl, rfl, rfl, rfl, rfl, rfl, rfl, rfl, rfl⟩

/-- So does the acknowledgement timeout. -/
theorem ackTimeout_keeps (r : Radio) : r.Keeps r.ackTimeout := by
  refine .ite (Keeps.trans ?_ (switchOff_settles _).keeps) ?_ <;>
    exact ⟨rfl, rfl, rfl, rfl, rfl, rfl, rfl, rfl, rfl⟩

/-- So does a sample of the ambient signal. -/
theorem sampleAmbient_keeps (r : Radio) : r.Keeps r.sampleAmbient :=
  .ite ⟨rfl, rfl, rfl, rfl, rfl, rfl, rfl, rfl, rfl⟩ (.refl r)

/-- So does a receiver that comes up. -/
theorem rampUp_keeps (r : Radio) : r.Keeps r.rampUp :=
  .ite (.refl r) ⟨rfl, rfl, rfl, rfl, rfl, rfl, rfl, rfl, rfl⟩

/-- **A step of the radio keeps its program.** -/
theorem step_keeps (packet : Option Packet) (r : Radio) : r.Keeps (r.step packet).1 := by
  have unawaited : r.Keeps { r with pending := none } :=
    ⟨rfl, rfl, rfl, rfl, rfl, rfl, rfl, rfl, rfl⟩
  unfold step
  split
  · exact r.settle_settles.keeps
  · exact r.transmit_keeps packet
  · exact r.rampUp_keeps
  · split
    · exact r.sampleAmbient_keeps
    · split
      · exact unawaited.trans (ackTimeout_keeps _)
      · exact unawaited.trans (receive_keeps ..)
  · exact r.sampleAmbient_keeps
  · rfl
  · rfl
  · rfl

/-- **A step of the radio keeps the program**, unless an interrupt waits and there is no step at
all. -/
theorem service_keeps (packet : Option Packet) (r : Radio) :
    r.Keeps (r.service packet).1 := by
  unfold service
  split
  · rfl
  · exact r.step_keeps packet

end Radio

end BurstLink
