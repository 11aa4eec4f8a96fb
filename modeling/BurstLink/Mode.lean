/-! # Modes

Exactly one mode owns the radio at a time. This module lists the modes and their names; switching
between them is in `BurstLink.Mode.Switch`.

Main definitions: **`Mode`**, **`Mode.name`**, **`Mode.ofName?`**.

Main statement: a name stands for a mode exactly if it is that mode's name
(`ofName?_eq_some_iff`). -/

namespace BurstLink

/-- What the radio is used for. -/
inductive Mode
  /-- Powered down. -/
  | disabled
  /-- The link protocol. -/
  | link
  /-- Passive scan for devices nearby. -/
  | presenceScan
  /-- Unmodulated carrier. -/
  | carrier
  /-- Signal strength measurement. -/
  | powerMeasurement
  deriving DecidableEq

namespace Mode

instance : Inhabited Mode := ⟨disabled⟩

/-- All modes. -/
def all : List Mode := [.disabled, .link, .presenceScan, .carrier, .powerMeasurement]

/-- The name of a mode. -/
def name : Mode → String
  | .disabled => "disabled"
  | .link => "esb"
  | .presenceScan => "presenceScan"
  | .carrier => "continuousCarrier"
  | .powerMeasurement => "powerMeasurement"

/-- The mode with a name. -/
def ofName? (name : String) : Option Mode := all.find? fun mode => mode.name == name

/-- No mode is missing. -/
theorem mem_all (mode : Mode) : mode ∈ all := by cases mode <;> simp [all]

/-- A name stands for a mode exactly if it is the mode's name. -/
theorem ofName?_eq_some_iff {name : String} {mode : Mode} :
    ofName? name = some mode ↔ mode.name = name := by
  constructor
  · intro found
    simpa using List.find?_some found
  · rintro rfl
    cases mode <;> decide

end Mode

end BurstLink
