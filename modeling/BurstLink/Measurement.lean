import BurstLink.Link.Setup

/-! # Signal strength

In the power measurement mode the strength of the ambient signal on a channel can be sampled. The
receiver is switched on, a sample is asked for as soon as it is up, and both events are looked for
a bounded number of times. However a measurement ends, the receiver is switched off again.

Main definitions:

* **`Measurement`** — a measurement between two looks.
* **`Station.startMeasurement`**, **`Station.checkMeasurement`**, **`Station.endMeasurement`**. -/

namespace BurstLink

/-- What a measurement waits for. -/
inductive Awaited
  /-- The receiver comes up. -/
  | receiver
  /-- The sample is taken. -/
  | sample
  deriving DecidableEq

/-- The event that a measurement waits for. -/
def Awaited.event : Awaited → RadioEvent
  | .receiver => .ready
  | .sample => .rssiEnd

/-- A measurement between two looks. -/
structure Measurement where
  /-- The channel being measured. -/
  channel : UInt8
  /-- What it waits for. -/
  awaited : Awaited
  /-- Looks left after the next pause. -/
  looks : Nat
  /-- End of the pause. -/
  deadline : Nat
  deriving DecidableEq

/-- What a look at a measurement finds. -/
abbrev MeasurementLook := Look Measurement (Except Failure UInt8)

namespace Station

/-- Switches the receiver off. -/
def endMeasurement (s : Station) : Station := s.disableRadio.1.setLna false

/-- The event did not come. -/
def missEvent (awaited : Awaited) (s : Station) : Station × MeasurementLook :=
  ((s.note (.eventMissing awaited.event)).endMeasurement, .finished (.error .measurementTimeout))

/-- Pauses before the next look. -/
def pauseMeasurement (channel : UInt8) (awaited : Awaited) (looks : Nat) (s : Station) :
    Station × MeasurementLook :=
  (s, .waiting ⟨channel, awaited, looks, s.clock + measurementInterval⟩)

/-- Looks for the sample, and reads it. -/
def awaitSample (channel : UInt8) (looks : Nat) (s : Station) : Station × MeasurementLook :=
  match looks with
  | 0 => s.missEvent .sample
  | looks + 1 =>
    if s.radio.events.rssiEnd then
      let s := s.onRadio (Radio.clearEvent .rssiEnd)
      let rssi := s.radio.rssi
      ((s.onRadio (Radio.trigger .rssiStop)).note (.measured channel rssi) |>.endMeasurement,
        .finished (.ok rssi))
    else s.pauseMeasurement channel .sample looks

/-- Looks for the receiver, and asks it for a sample. -/
def awaitReceiver (channel : UInt8) (looks : Nat) (s : Station) : Station × MeasurementLook :=
  match looks with
  | 0 => s.missEvent .receiver
  | looks + 1 =>
    if s.radio.events.ready then
      (s.onRadio fun r => (r.clearEvent .ready).trigger .rssiStart).awaitSample channel
        measurementMaxPolls
    else s.pauseMeasurement channel .receiver looks

/-- Tunes to the channel, switches the receiver on, and takes the first look. -/
def startMeasurement (channel : UInt8) (s : Station) : Station × MeasurementLook :=
  if s.mode = .powerMeasurement then
    let s := s.onRadio fun r =>
      ((r.setChannel channel).clearEvent .ready).clearEvent .rssiEnd
    ((s.setLna true).onRadio (Radio.trigger .rxEnable)).awaitReceiver channel measurementMaxPolls
  else (s, .finished (.error .notAvailable))

/-- Takes the next look once the pause is over. -/
def checkMeasurement (m : Measurement) (s : Station) : Station × MeasurementLook :=
  if m.deadline ≤ s.clock then
    match m.awaited with
    | .receiver => s.awaitReceiver m.channel m.looks
    | .sample => s.awaitSample m.channel m.looks
  else (s, .waiting m)

/-- The power measurement mode takes the radio. -/
def enterPowerMode : Station → Station :=
  onRadio fun r => (r.setPower true).setShorts .txOnce

/-- The power measurement mode gives the radio up. -/
def exitPowerMode : Station → Station :=
  onRadio fun r => ((r.trigger .disable).setShorts .none).setPower false

end Station

end BurstLink
