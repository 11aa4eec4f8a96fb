import BurstLink.Display

/-! # Packet identifiers

Every accepted send stamps its packet with a two-bit identifier, by which the receiver tells a
retransmission from a new packet. The identifier advances once per send and returns to 0 after 3.

Main definitions: **`Pid`**, **`Pid.ofBits`**, **`Pid.next`**. -/

namespace BurstLink

/-- A two-bit packet identifier. -/
structure Pid where
  /-- The identifier as a number below 4. -/
  value : Fin 4
  deriving DecidableEq

namespace Pid

/-- The identifier of the first send. -/
def zero : Pid := ⟨0⟩

instance : Inhabited Pid := ⟨zero⟩

/-- The identifier in the two low bits of a byte. -/
def ofBits (b : UInt8) : Pid := ⟨⟨b.toNat % 4, Nat.mod_lt _ (by decide)⟩⟩

/-- The identifier as a byte. -/
def toByte (p : Pid) : UInt8 := UInt8.ofNat p.value.val

/-- The identifier after this one; 0 follows 3. -/
def next (p : Pid) : Pid := ⟨p.value + 1⟩

/-- An identifier in reports. -/
def text (p : Pid) : String := showApplied "Pid" [toString p.value.val]

/-- A byte made from an identifier stands for that identifier. -/
@[simp] theorem ofBits_toByte (p : Pid) : ofBits p.toByte = p := by
  obtain ⟨v⟩ := p
  revert v
  decide

/-- Each step of `next` adds one, modulo four. -/
theorem val_next (p : Pid) : p.next.value.val = (p.value.val + 1) % 4 := by
  obtain ⟨v⟩ := p
  revert v
  decide

end Pid

end BurstLink
