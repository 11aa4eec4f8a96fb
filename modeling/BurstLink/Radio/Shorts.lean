/-! # Shortcuts

A shortcut makes the radio start a task by itself when an event occurs. The set of active
shortcuts is a 32-bit register; each shortcut has a bit of its own.

Main definitions: **`Shorts`** with `union`, `difference` and `contains`, and the named sets that
the link uses. -/

namespace BurstLink

/-- A set of shortcuts. -/
structure Shorts where
  /-- The register value. -/
  bits : UInt32
  deriving DecidableEq

namespace Shorts

/-- No shortcut. -/
def none : Shorts := ⟨0⟩

instance : Inhabited Shorts := ⟨none⟩

/-- Both sets together. -/
def union (a b : Shorts) : Shorts := ⟨a.bits ||| b.bits⟩

/-- What is in the first set and not in the second. -/
def difference (a b : Shorts) : Shorts := ⟨a.bits &&& ~~~b.bits⟩

/-- Every shortcut of the second set is in the first. -/
def contains (a b : Shorts) : Bool := a.bits &&& b.bits == b.bits

/-- Start as soon as the radio is ramped up. -/
def readyStart : Shorts := ⟨0x1⟩

/-- Disable at the end of a frame. -/
def endDisable : Shorts := ⟨0x2⟩

/-- Ramp up the transmitter once disabled. -/
def disabledTxEnable : Shorts := ⟨0x4⟩

/-- Ramp up the receiver once disabled. -/
def disabledRxEnable : Shorts := ⟨0x8⟩

/-- Sample the signal strength at the address match. -/
def addressRssiStart : Shorts := ⟨0x10⟩

/-- Stop sampling the signal strength once disabled. -/
def disabledRssiStop : Shorts := ⟨0x100⟩

/-- Sample the signal strength from the address match until the radio is off. -/
def rssi : Shorts := addressRssiStart.union disabledRssiStop

/-- Transmit once, then disable. -/
def txOnce : Shorts := readyStart.union endDisable

/-- Transmit, then go on to receive the acknowledgement. -/
def txThenRx : Shorts := txOnce.union disabledRxEnable

/-! ## Set laws -/

@[simp] theorem union_none (a : Shorts) : a.union none = a := by simp [union, none]

@[simp] theorem difference_none (a : Shorts) : a.difference none = a := by simp [difference, none]

@[simp] theorem contains_none (a : Shorts) : a.contains none = true := by simp [contains, none]

@[simp] theorem contains_self (a : Shorts) : a.contains a = true := by simp [contains]

end Shorts

end BurstLink
