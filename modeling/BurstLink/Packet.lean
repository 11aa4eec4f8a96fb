import BurstLink.Failure
import BurstLink.Pid

/-! # Packets

A packet is 34 bytes as the radio reads and writes them: the length field, one byte with the
packet identifier and the no-acknowledgement flag, and 32 data bytes, of which the first `length`
ones are the payload. A malformed frame may announce more than 32 bytes; the payload is then all
32 of them.

Main definitions:

* **`Payload`** — at most 32 bytes.
* **`Packet`** — the 34 bytes, with `payload`, `pid` and `noAck` read from them.
* **`Packet.setPayload`**, **`Packet.setPid`**, **`Packet.clear`** — the three ways to change one.

Main statements: what each of the three changes does to each of the three readings
(`payload_put`, `pid_setPid`, `noAck_setPid`, `payload_clear`, …). -/

namespace BurstLink

/-! ## Payloads -/

/-- The bytes that one packet can carry. -/
structure Payload where
  /-- The bytes, in order. -/
  bytes : List UInt8
  /-- They fit into one packet. -/
  length_le : bytes.length ≤ maxPayload
  deriving DecidableEq

namespace Payload

/-- The payload without bytes. -/
def empty : Payload := ⟨[], Nat.zero_le _⟩

instance : Inhabited Payload := ⟨empty⟩

/-- The given bytes as a payload; more than 32 of them are refused. -/
def ofBytes (bytes : List UInt8) : Except BadRequest Payload :=
  if fits : bytes.length ≤ maxPayload then .ok ⟨bytes, fits⟩
  else .error (.payloadTooLong bytes.length)

/-- The first 32 of the given bytes. -/
def truncate (bytes : List UInt8) : Payload :=
  ⟨bytes.take maxPayload, List.length_take_le ..⟩

end Payload

/-! ## Packets -/

/-- One packet as it lies in memory. -/
structure Packet where
  /-- The length field. -/
  length : UInt8
  /-- Bit 0 is the no-acknowledgement flag, the bits above it the identifier. -/
  s1 : UInt8
  /-- The data bytes. -/
  data : Vector UInt8 maxPayload
  deriving DecidableEq

namespace Packet

/-- The packet of zeros, used to receive into. -/
def empty : Packet := ⟨0, 0, Vector.replicate maxPayload 0⟩

instance : Inhabited Packet := ⟨empty⟩

/-- The packet has no payload. -/
def isEmpty (p : Packet) : Bool := p.length == 0

/-- The payload: the first `length` data bytes, at most all of them. The bound keeps it within the
data bytes, so that a read of one byte after the other finds them all (`Packet.read?_payload`). -/
def payload (p : Packet) : List UInt8 := p.data.toList.take (min p.length.toNat maxPayload)

/-- The identifier. -/
def pid (p : Packet) : Pid := Pid.ofBits (p.s1 >>> 1)

/-- The sender asks for no acknowledgement. -/
def noAck (p : Packet) : Bool := p.s1 &&& 1 != 0

/-- Stamps the identifier and keeps the no-acknowledgement flag. -/
def setPid (id : Pid) (p : Packet) : Packet :=
  { p with s1 := p.s1 &&& (1 : UInt8) ||| id.toByte <<< (1 : UInt8) }

/-- Takes back the payload; the data bytes stay. -/
def clear (p : Packet) : Packet := { p with length := 0 }

/-- Overwrites the first data bytes with the payload and announces its length. -/
def put (payload : Payload) (p : Packet) : Packet :=
  { p with
    length := UInt8.ofNat payload.bytes.length
    data := Vector.ofFn fun i => payload.bytes[i.val]?.getD p.data[i] }

/-- Puts the bytes into the packet, unless they are too many for a payload. -/
def setPayload (bytes : List UInt8) (p : Packet) : Except BadRequest Packet :=
  (Payload.ofBytes bytes).map fun payload => p.put payload

/-- A fresh packet with the given payload. -/
def ofPayload (payload : Payload) : Packet := empty.put payload

/-- A fresh packet with the given bytes, unless they are too many. -/
def ofBytes (bytes : List UInt8) : Except BadRequest Packet := empty.setPayload bytes

/-- The packet as a remote device sends it. -/
def sentWith (id : Pid) (payload : Payload) : Packet := (ofPayload payload).setPid id

/-- All 34 bytes in the order in which they lie in memory. -/
def toRaw (p : Packet) : List UInt8 := p.length :: p.s1 :: p.data.toList

/-- Reads 34 bytes as they lie in memory; any other number of bytes is no packet. -/
def ofRaw? : List UInt8 → Option Packet
  | length :: s1 :: data =>
    if fits : data.length = maxPayload then some ⟨length, s1, ⟨data.toArray, fits⟩⟩ else none
  | _ => none

/-- A packet in reports. -/
def text (p : Packet) : String :=
  showRecord "Packet" [("pid", p.pid.text), ("payload", showBytes p.payload)]

/-! ## What a change does to the readings -/

/-- The identifier is the one stamped last. -/
@[simp] theorem pid_setPid (id : Pid) (p : Packet) : (p.setPid id).pid = id := by
  obtain ⟨length, ⟨s1⟩, data⟩ := p
  obtain ⟨v⟩ := id
  simp only [pid, setPid]
  clear length data
  revert v s1
  decide +kernel

/-- Stamping keeps the no-acknowledgement flag. -/
@[simp] theorem noAck_setPid (id : Pid) (p : Packet) : (p.setPid id).noAck = p.noAck := by
  obtain ⟨length, ⟨s1⟩, data⟩ := p
  obtain ⟨v⟩ := id
  simp only [noAck, setPid]
  clear length data
  revert v s1
  decide +kernel

/-- Stamping keeps the payload. -/
@[simp] theorem payload_setPid (id : Pid) (p : Packet) : (p.setPid id).payload = p.payload := rfl

/-- Nothing is left of the payload that was taken back. -/
@[simp] theorem payload_clear (p : Packet) : p.clear.payload = [] := rfl

/-- Taking back the payload keeps the identifier. -/
@[simp] theorem pid_clear (p : Packet) : p.clear.pid = p.pid := rfl

/-- A new payload keeps the identifier. -/
@[simp] theorem pid_put (payload : Payload) (p : Packet) : (p.put payload).pid = p.pid := rfl

/-- A new payload keeps the no-acknowledgement flag. -/
@[simp] theorem noAck_put (payload : Payload) (p : Packet) : (p.put payload).noAck = p.noAck := rfl

/-- Taking back the payload keeps the no-acknowledgement flag. -/
@[simp] theorem noAck_clear (p : Packet) : p.clear.noAck = p.noAck := rfl

/-- The payload is what was put last. -/
@[simp] theorem payload_put (payload : Payload) (p : Packet) :
    (p.put payload).payload = payload.bytes := by
  obtain ⟨bytes, fits⟩ := payload
  have small : bytes.length % 256 = bytes.length :=
    Nat.mod_eq_of_lt (by simp only [maxPayload] at fits; omega)
  apply List.ext_getElem?
  intro i
  simp only [Packet.payload, put, UInt8.toNat_ofNat', Nat.reducePow, small, List.getElem?_take,
    Nat.min_eq_left fits]
  by_cases inside : i < bytes.length
  · have bound : i < maxPayload := Nat.lt_of_lt_of_le inside fits
    simp [inside, bound]
  · simp [inside]

/-- The payload fits into the data bytes, whatever the length field says. -/
theorem length_payload_le (p : Packet) : p.payload.length ≤ maxPayload := by
  rw [payload, List.length_take]
  exact Nat.le_trans (Nat.min_le_left ..) (Nat.min_le_right ..)

/-- A packet is read back from the bytes as which it lies in memory. -/
@[simp] theorem ofRaw?_toRaw (p : Packet) : ofRaw? p.toRaw = some p := by
  obtain ⟨length, s1, ⟨data, fits⟩⟩ := p
  simp [ofRaw?, toRaw, Vector.toList, fits]

end Packet

end BurstLink
