import BurstLink.Packet

/-! # What a packet holds

A packet is a buffer that is used again and again: its length field, its identifier and its data
bytes are written separately, and each change leaves the rest as it was. Whatever the 34 bytes were
at first, what is read from them afterwards is decided by the last change that was about it.

Main definitions:

* **`PacketChange`** — one of the three changes, what it decides, and the packet after it.
* **`Packet.read?`** — the first data bytes read one by one, which fails outside the packet.
* **`Packet.Holds`** — what is read from a packet that was changed some number of times.

Main statements: a reading that each change either decides or leaves alone is decided by the last of
the former (`Packet.reads_after`), and so are all readings of a packet after any changes, from any
34 bytes (`Packet.holds_after`). -/

namespace BurstLink

/-! ## Changes -/

/-- A change of a packet. -/
inductive PacketChange
  /-- Put bytes into the packet, if they are not too many. -/
  | setPayload (bytes : List UInt8)
  /-- Stamp the identifier. -/
  | setPid (id : Pid)
  /-- Take back the payload. -/
  | clear
  deriving DecidableEq

namespace PacketChange

/-- The packet after a change, and whether the change was refused; then the packet is as it was. -/
def apply : PacketChange → Packet → Packet × Except BadRequest Unit
  | .setPayload bytes, p =>
    match p.setPayload bytes with
    | .ok changed => (changed, .ok ())
    | .error reason => (p, .error reason)
  | .setPid id, p => (p.setPid id, .ok ())
  | .clear, p => (p.clear, .ok ())

/-- The payload that a change leaves, if the change is about the payload and is not refused. -/
def payload? : PacketChange → Option (List UInt8)
  | .setPayload bytes => if bytes.length ≤ maxPayload then some bytes else none
  | .setPid _ => none
  | .clear => some []

/-- The identifier that a change leaves, if the change is about the identifier. -/
def pid? : PacketChange → Option Pid
  | .setPayload _ => none
  | .setPid id => some id
  | .clear => none

/-- Bytes that fit are put into the packet. -/
theorem apply_setPayload {bytes : List UInt8} (fits : bytes.length ≤ maxPayload) (p : Packet) :
    (setPayload bytes).apply p = (p.put ⟨bytes, fits⟩, .ok ()) := by
  simp [apply, Packet.setPayload, Payload.ofBytes, fits, Except.map]

/-- Bytes that do not fit are refused, with their number. -/
theorem apply_setPayload_long {bytes : List UInt8} (long : maxPayload < bytes.length)
    (p : Packet) : (setPayload bytes).apply p = (p, .error (.payloadTooLong bytes.length)) := by
  simp [apply, Packet.setPayload, Payload.ofBytes, Nat.not_le.mpr long, Except.map]

/-- Putting bytes into a packet puts a payload there or leaves the packet alone. -/
theorem setPayload_cases (bytes : List UInt8) (p : Packet) :
    (∃ fits, ((setPayload bytes).apply p).1 = p.put ⟨bytes, fits⟩ ∧
      (setPayload bytes).payload? = some bytes) ∨
    ((setPayload bytes).apply p).1 = p ∧ (setPayload bytes).payload? = none := by
  by_cases fits : bytes.length ≤ maxPayload
  · exact .inl ⟨fits, by rw [apply_setPayload fits], if_pos fits⟩
  · exact .inr ⟨by rw [apply_setPayload_long (Nat.lt_of_not_le fits)], if_neg fits⟩

/-- A payload that a change leaves fits into a packet. -/
theorem length_le_of_payload? {change : PacketChange} {bytes : List UInt8}
    (leaves : change.payload? = some bytes) : bytes.length ≤ maxPayload := by
  cases change with
  | setPayload given =>
    obtain ⟨fits, rfl⟩ : given.length ≤ maxPayload ∧ given = bytes := by
      simpa [payload?] using leaves
    exact fits
  | setPid id => cases leaves
  | clear =>
    cases leaves
    exact Nat.zero_le _

end PacketChange

namespace Packet

/-- The packet after some changes. -/
def after (p : Packet) (changes : List PacketChange) : Packet :=
  changes.foldl (fun p change => (change.apply p).1) p

/-! ## What one change does to each reading -/

/-- The payload is the one that the change leaves, if it leaves one. -/
theorem payload_apply (change : PacketChange) (p : Packet) :
    (change.apply p).1.payload = change.payload?.getD p.payload := by
  cases change with
  | setPayload bytes =>
    rcases PacketChange.setPayload_cases bytes p with ⟨fits, put, left⟩ | ⟨same, none'⟩
    · rw [put, left]
      exact payload_put ..
    · rw [same, none']
      rfl
  | setPid id => rfl
  | clear => rfl

/-- The identifier is the one that the change leaves, if it leaves one. -/
theorem pid_apply (change : PacketChange) (p : Packet) :
    (change.apply p).1.pid = change.pid?.getD p.pid := by
  cases change with
  | setPayload bytes =>
    rcases PacketChange.setPayload_cases bytes p with ⟨fits, put, -⟩ | ⟨same, -⟩
    · rw [put]
      exact pid_put ..
    · rw [same]
      rfl
  | setPid id => exact pid_setPid id p
  | clear => rfl

/-- No change is about the no-acknowledgement flag. -/
theorem noAck_apply (change : PacketChange) (p : Packet) :
    (change.apply p).1.noAck = p.noAck := by
  cases change with
  | setPayload bytes =>
    rcases PacketChange.setPayload_cases bytes p with ⟨fits, put, -⟩ | ⟨same, -⟩
    · rw [put]
      exact noAck_put ..
    · rw [same]
  | setPid id => exact noAck_setPid id p
  | clear => rfl

/-- The length is that of the payload that the change leaves, if it leaves one. -/
theorem length_apply (change : PacketChange) (p : Packet) : (change.apply p).1.length =
    (change.payload?.map fun bytes => UInt8.ofNat bytes.length).getD p.length := by
  cases change with
  | setPayload bytes =>
    rcases PacketChange.setPayload_cases bytes p with ⟨fits, put, left⟩ | ⟨same, none'⟩
    · rw [put, left]
      rfl
    · rw [same, none']
      rfl
  | setPid id => rfl
  | clear => rfl

/-- A change decides the data bytes of the payload that it leaves. -/
theorem data_apply (i : Fin maxPayload) (change : PacketChange) (p : Packet) :
    (change.apply p).1.data.get i =
      (change.payload?.bind fun bytes => bytes[i]?).getD (p.data.get i) := by
  cases change with
  | setPayload bytes =>
    rcases PacketChange.setPayload_cases bytes p with ⟨fits, put, left⟩ | ⟨same, none'⟩
    · rw [put, left]
      exact Vector.getElem_ofFn i.isLt
    · rw [same, none']
      rfl
  | setPid id => rfl
  | clear => rfl

/-! ## The last change decides -/

/-- **The last change that decides a reading** is the one that is read, and without any such change
the reading is the one of the packet at first. -/
theorem reads_after {α : Type} (reading : Packet → α) (decided : PacketChange → Option α)
    (step : ∀ change p, reading (change.apply p).1 = (decided change).getD (reading p))
    (changes : List PacketChange) (p : Packet) :
    reading (p.after changes) = (changes.filterMap decided).getLastD (reading p) := by
  -- On the changes, for every packet: the first change either replaces what was read at first, or
  -- leaves it to the later ones.
  induction changes generalizing p with
  | nil => rfl
  | cons change later ih =>
    have next : p.after (change :: later) = (change.apply p).1.after later := rfl
    rw [next, ih, step, List.filterMap_cons]
    cases decided change with
    | none => rfl
    | some a => exact (List.getLastD_cons ..).symm

/-- The no-acknowledgement flag is as it was, however often a packet is changed. -/
theorem noAck_after (changes : List PacketChange) (p : Packet) :
    (p.after changes).noAck = p.noAck := by
  have undecided : (changes.filterMap fun _ => (none : Option Bool)) = [] :=
    List.filterMap_eq_nil_iff.mpr fun _ _ => rfl
  rw [reads_after noAck (fun _ => none) noAck_apply, undecided]
  rfl

/-! ## Readings in terms of the raw bytes -/

/-- Any 34 bytes are a packet. -/
theorem exists_ofRaw? {raw : List UInt8} (full : raw.length = 34) :
    ∃ p, ofRaw? raw = some p ∧ p.toRaw = raw := by
  match raw, full with
  | length :: s1 :: data, full =>
    have fits : data.length = maxPayload := by simpa [maxPayload] using full
    exact ⟨⟨length, s1, ⟨data.toArray, fits⟩⟩, dif_pos fits, rfl⟩

/-- The first `n` data bytes, read one by one; there are 32 of them in a packet. -/
def read? : Nat → Packet → Option (List UInt8)
  | 0, _ => some []
  | n + 1, p => (p.read? n).bind fun bytes => p.data[n]?.map fun b => bytes ++ [b]

/-- The data bytes up to the last one can be read. -/
theorem read?_of_le {n : Nat} (inside : n ≤ maxPayload) (p : Packet) :
    p.read? n = some (p.data.toList.take n) := by
  induction n with
  | zero => rfl
  | succ n ih =>
    have there : p.data[n]? = some p.data[n] := Vector.getElem?_eq_getElem inside
    rw [read?, ih (Nat.le_of_succ_le inside), there, List.take_add_one]
    simp [there]

/-- The payload is read within the packet, whatever the length field says. -/
theorem read?_payload (p : Packet) : p.read? (min p.length.toNat maxPayload) = some p.payload :=
  read?_of_le (Nat.min_le_right ..) p

/-- The identifier is in the two bits above the lowest one. -/
theorem pid_eq (p : Packet) : p.pid = ⟨Fin.ofNat 4 (p.s1.toNat / 2)⟩ := by
  simp [pid, Pid.ofBits, Fin.ofNat, Nat.shiftRight_eq_div_pow]

/-- The no-acknowledgement flag is the lowest bit. -/
theorem noAck_eq (p : Packet) : p.noAck = p.s1.toNat.testBit 0 := by
  have lowest : (p.s1 &&& 1).toNat = p.s1.toNat % 2 := by
    rw [UInt8.toNat_and]
    exact Nat.and_one_is_mod _
  have clear : p.s1 &&& 1 = 0 ↔ p.s1.toNat % 2 = 0 := by
    rw [← UInt8.toNat_inj, lowest]
    rfl
  rw [Nat.testBit_zero]
  by_cases even : p.s1.toNat % 2 = 0
  · simp [noAck, clear.mpr even, even]
  · have odd : p.s1.toNat % 2 = 1 := by omega
    have raised : p.s1 &&& 1 ≠ 0 := fun cleared => even (clear.mp cleared)
    simp [noAck, raised, odd]

/-- A payload that fits is written over the first data bytes, and the others stay. -/
theorem toRaw_put (payload : Payload) (p : Packet) : (p.put payload).toRaw =
    UInt8.ofNat payload.bytes.length :: p.s1 ::
      (payload.bytes ++ p.data.toList.drop payload.bytes.length) := by
  obtain ⟨bytes, fits⟩ := payload
  have data : (p.put ⟨bytes, fits⟩).data.toList = bytes ++ p.data.toList.drop bytes.length := by
    -- A byte is covered by the payload, beyond it, or outside the packet on both sides.
    apply List.ext_getElem?
    intro i
    by_cases covered : i < bytes.length
    · have inside : i < maxPayload := Nat.lt_of_lt_of_le covered fits
      simp [put, List.getElem?_append, covered, inside]
    · have there : bytes.length + (i - bytes.length) = i := by omega
      by_cases inside : i < maxPayload
      · simp [put, List.getElem?_append, covered, inside, there]
      · simp [put, List.getElem?_append, covered, inside, there]
  rw [toRaw, data]
  rfl

/-! ## Any history of changes -/

/-- What is read from a packet that was made of another one by some changes. -/
structure Holds (initial : Packet) (changes : List PacketChange) (p : Packet) : Prop where
  /-- The payload is the one put last, and none if it was taken back since. Before any of this it is
  what the length field announces, at most all data bytes. -/
  payload : p.payload = (changes.filterMap PacketChange.payload?).getLastD
    (initial.data.toList.take (min initial.length.toNat 32))
  /-- The identifier is the one stamped last, and before that bits 1 and 2 of the second byte. -/
  pid : p.pid = (changes.filterMap PacketChange.pid?).getLastD
    ⟨Fin.ofNat 4 (initial.s1.toNat / 2)⟩
  /-- The no-acknowledgement flag is bit 0 of the second byte, as it was at first. -/
  noAck : p.noAck = initial.s1.toNat.testBit 0
  /-- Once a payload was put or taken back, the length field is in bounds. -/
  length : changes.filterMap PacketChange.payload? ≠ [] → p.length.toNat ≤ 32
  /-- A data byte is that of the last payload that was long enough to cover it. -/
  data : ∀ i : Fin maxPayload, p.data.get i =
    (changes.filterMap fun change => change.payload?.bind fun bytes => bytes[i]?).getLastD
      (initial.data.get i)
  /-- The payload is read within the data bytes, whatever the length field says. -/
  inside : ∀ length : UInt8, ({ p with length } : Packet).read? (min length.toNat 32) =
    some ({ p with length } : Packet).payload
  /-- Too many bytes are refused with their number, and the packet stays as it is. -/
  refused : ∀ bytes : List UInt8, 32 < bytes.length →
    (PacketChange.setPayload bytes).apply p = (p, .error (.payloadTooLong bytes.length))
  /-- Other bytes are put in front of the data bytes that they do not cover; those stay. -/
  accepted : ∀ bytes : List UInt8, bytes.length ≤ 32 → ∃ q,
    (PacketChange.setPayload bytes).apply p = (q, .ok ()) ∧
      q.toRaw = UInt8.ofNat bytes.length :: p.s1 :: (bytes ++ p.data.toList.drop bytes.length)

/-- A length field that a change left is in bounds. -/
theorem length_after_le (p : Packet) {changes : List PacketChange}
    (about : changes.filterMap PacketChange.payload? ≠ []) :
    (p.after changes).length.toNat ≤ maxPayload := by
  have last := reads_after length
    (fun change => change.payload?.map fun bytes => UInt8.ofNat bytes.length) length_apply changes p
  rw [← List.map_filterMap, List.getLastD_eq_getLast?, List.getLast?_map,
    List.getLast?_eq_some_getLast about] at last
  obtain ⟨change, -, left⟩ := List.mem_filterMap.mp (List.getLast_mem about)
  have fits := PacketChange.length_le_of_payload? left
  rw [last]
  exact Nat.le_trans (Nat.mod_le ..) fits

/-- **What a packet holds is what the last changes left.** Every 34 bytes are a packet, and after
any changes of it the payload, the identifier, the flag and each data byte are those of the last
change about them, or as they were in these bytes. -/
theorem holds_after (raw : List UInt8) (full : raw.length = 34) :
    ∃ p, ofRaw? raw = some p ∧ p.toRaw = raw ∧
      ∀ changes : List PacketChange, Holds p changes (p.after changes) := by
  obtain ⟨p, isPacket, bytes⟩ := exists_ofRaw? full
  refine ⟨p, isPacket, bytes, fun changes => ?_⟩
  have payload := reads_after Packet.payload PacketChange.payload? payload_apply changes p
  have pid := reads_after Packet.pid PacketChange.pid? pid_apply changes p
  constructor
  case payload =>
    rw [payload]
    rfl
  case pid => rw [pid, pid_eq p]
  case noAck => rw [noAck_after, noAck_eq]
  case length => exact p.length_after_le
  case data =>
    intro i
    exact reads_after (fun p => p.data.get i) _ (data_apply i) changes p
  case inside => exact fun length => read?_payload { p.after changes with length := length }
  case refused => exact fun bytes long => PacketChange.apply_setPayload_long long _
  case accepted =>
    intro bytes fits
    exact ⟨_, PacketChange.apply_setPayload fits _, toRaw_put ⟨bytes, fits⟩ _⟩

/-- A malformed frame with junk in its second byte: the payload is all data bytes, and once it is
used again the payload is the one put last that was not refused, and the flag stays. -/
theorem holds_of_malformed : (63 :: 0xff :: List.replicate 32 0xaa : List UInt8).length = 34 ∧
    ∃ p, ofRaw? (63 :: 0xff :: List.replicate 32 0xaa) = some p ∧
      (p.after []).payload = List.replicate 32 0xaa ∧
      (p.after [.setPayload [1, 2], .setPid ⟨2⟩, .setPayload (List.replicate 33 0)]).payload =
        [1, 2] ∧
      (p.after [.setPayload [1, 2], .setPid ⟨2⟩, .clear]).pid = ⟨2⟩ ∧
      (p.after [.setPid ⟨2⟩]).noAck = true := by
  have full : (63 :: 0xff :: List.replicate 32 0xaa : List UInt8).length = 34 := by decide
  obtain ⟨p, isPacket, -, holds⟩ := holds_after (63 :: 0xff :: List.replicate 32 0xaa) full
  obtain ⟨rfl⟩ : some _ = some p := isPacket
  exact ⟨full, _, rfl, (holds []).payload, (holds _).payload, (holds _).pid, (holds _).noAck⟩

end Packet

end BurstLink
