import BurstLink.Config

/-! # Front-end module

An external module with a power amplifier for transmission and a low-noise amplifier for
reception. The module counts how often it was prepared and how often each amplifier was switched
on from off.

Main definitions: **`FrontEnd`** and its switches, and **`gainForLevel`**. -/

namespace BurstLink

/-- Gain for each of the four power levels. -/
def powerLevelGains : List UInt8 := [1, 10, 20, 31]

/-- Gain for a power level; levels above the highest one use its gain. -/
def gainForLevel (level : UInt8) : UInt8 :=
  powerLevelGains.getD (min level.toNat (powerLevelGains.length - 1)) 0

/-- The front-end module. -/
structure FrontEnd where
  /-- The power amplifier is on. -/
  pa : Bool := false
  /-- The low-noise amplifier is on. -/
  lna : Bool := false
  /-- Output gain. -/
  gain : UInt8 := 0
  /-- Selected antenna. -/
  antenna : UInt8 := 0
  /-- Times the module was prepared. -/
  inits : Nat := 0
  /-- Times the power amplifier went on. -/
  paStarts : Nat := 0
  /-- Times the low-noise amplifier went on. -/
  lnaStarts : Nat := 0
  deriving DecidableEq

namespace FrontEnd

instance : Inhabited FrontEnd := ⟨{}⟩

/-- Prepares the module. -/
def prepare (f : FrontEnd) : FrontEnd := { f with inits := f.inits + 1 }

/-- Switches the power amplifier. -/
def setPa (on : Bool) (f : FrontEnd) : FrontEnd :=
  { f with pa := on, paStarts := if on && !f.pa then f.paStarts + 1 else f.paStarts }

/-- Switches the low-noise amplifier. -/
def setLna (on : Bool) (f : FrontEnd) : FrontEnd :=
  { f with lna := on, lnaStarts := if on && !f.lna then f.lnaStarts + 1 else f.lnaStarts }

/-- Sets the output gain. -/
def setGain (gain : UInt8) (f : FrontEnd) : FrontEnd := { f with gain := gain }

/-- Selects an antenna. -/
def setAntenna (index : UInt8) (f : FrontEnd) : FrontEnd := { f with antenna := index }

@[simp] theorem pa_setPa (on : Bool) (f : FrontEnd) : (f.setPa on).pa = on := rfl

@[simp] theorem lna_setPa (on : Bool) (f : FrontEnd) : (f.setPa on).lna = f.lna := rfl

@[simp] theorem lna_setLna (on : Bool) (f : FrontEnd) : (f.setLna on).lna = on := rfl

@[simp] theorem pa_setLna (on : Bool) (f : FrontEnd) : (f.setLna on).pa = f.pa := rfl

/-- Switching an amplifier to where it is changes nothing. -/
@[simp] theorem setPa_pa (f : FrontEnd) : f.setPa f.pa = f := by
  cases f with | mk pa => cases pa <;> rfl

/-- Switching the receiver to where it is changes nothing. -/
@[simp] theorem setLna_lna (f : FrontEnd) : f.setLna f.lna = f := by
  cases f with | mk pa lna => cases lna <;> rfl

end FrontEnd

end BurstLink
