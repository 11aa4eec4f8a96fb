import BurstLink.Station

/-! # Front-end test

The test switches each amplifier on, gives it time to settle, reads back whether it is on, and
switches it off. It does not ask whether anybody else uses the front end.

Main definitions: **`AmplifierTest`**, **`Station.startAmplifierTest`**,
**`Station.checkAmplifierTest`**. -/

namespace BurstLink

/-- What the test read back. -/
structure AmplifierStatus where
  /-- The power amplifier was on. -/
  pa : Bool
  /-- The low-noise amplifier was on. -/
  lna : Bool
  deriving DecidableEq

/-- A front-end test between two looks. -/
inductive AmplifierTest
  /-- The power amplifier settles. -/
  | power (deadline : Nat)
  /-- The low-noise amplifier settles; the other one has been read. -/
  | lowNoise (pa : Bool) (deadline : Nat)
  deriving DecidableEq

namespace Station

/-- Switches the power amplifier on. -/
def startAmplifierTest (s : Station) : Station × Look AmplifierTest AmplifierStatus :=
  (s.setPa true, .waiting (.power (s.clock + amplifierSettleTime)))

/-- Reads the amplifier that has settled, and goes on to the next one or to the result. -/
def checkAmplifierTest (test : AmplifierTest) (s : Station) :
    Station × Look AmplifierTest AmplifierStatus :=
  match test with
  | .power deadline =>
    if deadline ≤ s.clock then
      ((s.setPa false).setLna true,
        .waiting (.lowNoise s.paOn (s.clock + amplifierSettleTime)))
    else (s, .waiting test)
  | .lowNoise pa deadline =>
    if deadline ≤ s.clock then
      let lna := s.lnaOn
      ((s.setLna false).note (if pa && lna then .frontEndPassed else .frontEndFailed pa lna),
        .finished ⟨pa, lna⟩)
    else (s, .waiting test)

end Station

end BurstLink
