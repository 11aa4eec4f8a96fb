import BurstLink.Packet

/-! # The air

What surrounds the simulated radio: how the remote device answers each transmission, how strong
the ambient signal is, how well the radio itself behaves, and the record of everything sent.

Main definitions:

* **`AirResponse`** — what happens after one transmission.
* **`AirResponse.answer`** — the frame that comes back, if one does.
* **`Air`** — the script of responses, the settings, and the transmission history. -/

namespace BurstLink

/-! ## Responses -/

/-- What the remote device does after one transmission. -/
inductive AirResponse
  /-- Acknowledges with a payload, echoing the identifier of the packet. -/
  | ack (payload : Payload) (rssi : UInt8)
  /-- Acknowledges with an identifier of its own. -/
  | staleAck (pid : UInt8)
  /-- Acknowledges, but the checksum of the frame is wrong. -/
  | corruptAck
  /-- Never answers. -/
  | silence
  /-- The radio never finishes the transmission. -/
  | wedged
  deriving DecidableEq

/-- A frame that the radio receives. -/
structure Answer where
  /-- What is written into the buffer. -/
  packet : Packet
  /-- The checksum is right. -/
  crcOk : Bool
  /-- Signal strength in -dBm. -/
  rssi : UInt8
  deriving DecidableEq

namespace AirResponse

/-- An acknowledgement with the given bytes, which must fit into one packet. -/
def ackWith (bytes : List UInt8) (rssi : UInt8) : Except Overflow AirResponse :=
  match Payload.ofBytes bytes with
  | .ok payload => .ok (.ack payload rssi)
  | .error _ => .error .ackPayload

/-- Signal strength of the answers that script none. -/
def plainRssi : UInt8 := 60

/-- The frame that comes back when the last packet sent had the identifier `echo`. -/
def answer (echo : Pid) : AirResponse → Option Answer
  | .ack payload rssi => some ⟨.sentWith echo payload, true, rssi⟩
  | .staleAck pid => some ⟨.sentWith (.ofBits pid) .empty, true, plainRssi⟩
  | .corruptAck => some ⟨.sentWith echo (.truncate [0xde, 0xad]), false, plainRssi⟩
  | .silence => none
  | .wedged => none

/-- The response in reports. -/
def text : AirResponse → String
  | .ack payload rssi =>
    showRecord "Ack" [("payload", showBytes payload.bytes), ("rssi", showByte rssi)]
  | .staleAck pid => showRecord "StaleAck" [("pid", showByte pid)]
  | .corruptAck => "CorruptAck"
  | .silence => "Silence"
  | .wedged => "Wedged"

end AirResponse

/-! ## Surroundings -/

/-- One packet put on air. -/
structure Frame where
  /-- The channel it was sent on. -/
  channel : UInt8
  /-- The packet as it was at that moment. -/
  packet : Packet
  deriving DecidableEq

/-- The surroundings of the radio. -/
structure Air where
  /-- Responses to the next transmissions. -/
  script : List AirResponse := []
  /-- Response once the script is used up. -/
  fallback : AirResponse := .silence
  /-- Signal strength without a frame, in -dBm. -/
  ambientRssi : UInt8 := 90
  /-- The receiver never comes up. -/
  unresponsive : Bool := false
  /-- Looks at the state that the radio takes to switch off. -/
  disableLatency : Nat := 0
  /-- Everything sent, oldest first. -/
  history : List Frame := []
  /-- A frame did not fit into the history. -/
  historyFull : Bool := false
  deriving DecidableEq

namespace Air

instance : Inhabited Air := ⟨{}⟩

/-- Takes the response to the next transmission. -/
def nextResponse (air : Air) : AirResponse × Air :=
  match air.script with
  | [] => (air.fallback, air)
  | response :: script => (response, { air with script := script })

/-- Records a frame, as long as there is room. -/
def record (frame : Frame) (air : Air) : Air :=
  if air.history.length < Overflow.transmissions.limit then
    { air with history := air.history ++ [frame] }
  else { air with historyFull := true }

/-- The identifier of the last packet sent, 0 before the first one. -/
def lastPid (air : Air) : Pid :=
  match air.history.getLast? with
  | some frame => frame.packet.pid
  | none => .zero

/-- Queues responses as far as there is room, and says whether all of them fitted. -/
def schedule (responses : List AirResponse) (air : Air) : Air × Bool :=
  let room := Overflow.responses.limit - air.script.length
  ({ air with script := air.script ++ responses.take room }, decide (responses.length ≤ room))

/-- No frame is recorded when the script is read. -/
@[simp] theorem history_nextResponse (air : Air) : air.nextResponse.2.history = air.history := by
  unfold nextResponse
  split <;> rfl

end Air

end BurstLink
