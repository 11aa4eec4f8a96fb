import BurstLink.Carrier
import BurstLink.Measurement

/-! # Switching modes

A switch lets the old mode give the radio up and the new mode take it. Only the link protocol needs
time for that: after it is told to stop, the radio is given a moment to switch off.

Main definitions:

* **`Station.enterMode`** — the new mode takes the radio.
* **`Station.startSwitch`** — a switch, up to the moment that the link needs.
* **`Station.checkSwitch`** — the rest of it, once that moment has passed. -/

namespace BurstLink

/-- A mode switch while the link protocol is taken down. -/
structure Teardown where
  /-- The new mode. -/
  target : Mode
  /-- The radio has switched off by then. -/
  deadline : Nat
  deriving DecidableEq

namespace Station

/-- The new mode takes the radio. -/
def enterMode (mode : Mode) (s : Station) : Station :=
  let s := { s with mode := mode }
  match mode with
  | .disabled => s
  | .link => s.bringUp
  | .presenceScan => s
  | .carrier => s.enterCarrierMode
  | .powerMeasurement => s.enterPowerMode

/-- Switches to another mode; a switch to the current mode does nothing. Leaving the link there is
a teardown to wait for. -/
def startSwitch (target : Mode) (s : Station) : Station × Look Teardown Unit :=
  if s.mode = target then (s, .finished ())
  else
    let s := s.note (.modeChange s.mode target)
    match s.mode with
    | .disabled => (s.enterMode target, .finished ())
    | .link => (s.beginTeardown, .waiting ⟨target, s.clock + teardownTime⟩)
    | .presenceScan => (s.enterMode target, .finished ())
    | .carrier => (s.exitCarrierMode.enterMode target, .finished ())
    | .powerMeasurement => (s.exitPowerMode.enterMode target, .finished ())

/-- Finishes the switch once the teardown has had its time. -/
def checkSwitch (t : Teardown) (s : Station) : Station × Look Teardown Unit :=
  if t.deadline ≤ s.clock then (s.finishTeardown.enterMode t.target, .finished ())
  else (s, .waiting t)

end Station

end BurstLink
