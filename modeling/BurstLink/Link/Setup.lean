import BurstLink.Station

/-! # Bringing the link up and down

Main definitions:

* **`Station.applyConfig`**, **`Station.programRadio`** — how a configuration reaches the registers.
* **`Station.bringUp`** — the link protocol takes the radio.
* **`Station.beginTeardown`**, **`Station.finishTeardown`** — it gives the radio up; between the two
  the radio is given time to switch off.
* **`Station.disableRadio`** — switches the radio off, as far as it follows.
* **`Station.forceIdle`** — back to rest after a stalled or abandoned exchange. -/

namespace BurstLink.Station

/-- Writes channel, data rate and address into the registers. The upper bytes of the prefix
register stay. -/
def applyConfig (config : LinkConfig) : Station → Station :=
  onRadio fun r =>
    r.setChannel config.channel
      |>.setBitrate config.bitrate
      |>.setBase0 config.address.base
      |>.setPrefix0 (config.address.pipePrefix r.prefix0)

/-- Powers the radio and programs it from scratch. Only the sampling of the signal strength is
permanent; everything else is enabled for one exchange at a time. -/
def programRadio (config : LinkConfig) (s : Station) : Station :=
  (s.onRadio fun r => (r.setPower true).setTxPower .zeroDbm |>.configurePacket).applyConfig config
    |>.onRadio fun r =>
      (r.setShorts .rssi).clearRoutes.clearEvent .disabled |>.clearEvent .frameEnd

/-- The link protocol takes the radio. -/
def bringUp (s : Station) : Station :=
  (s.onRadio Radio.startTimer).programRadio s.link.config
    |>.resetTransfer
    |>.onFrontEnd FrontEnd.prepare
    |>.onLink (fun link => { link with initialized := true })
    |>.note (.linkUp s.link.config.channel)

/-- The link protocol stops and tells the radio to switch off. -/
def beginTeardown (s : Station) : Station :=
  s.onLink (fun link => { link with initialized := false, carrier := false })
    |>.onRadio fun r => (r.setInterrupt false).trigger .disable

/-- The link protocol gives the radio up. -/
def finishTeardown (s : Station) : Station :=
  (s.onRadio fun r =>
    ((r.clearEvent .disabled).setShorts .none).clearRoutes.stopTimer.setPower false)
  |>.setPa false
  |>.setLna false
  |>.setCompleted false
  |>.note .linkDown

/-- Tells the radio to switch off and looks until it is off; says whether it got there. -/
def disableRadio (s : Station) : Station × Bool :=
  let (radio, off) := (s.radio.trigger .disable).pollDisabledUpTo disableMaxPolls
  let s := { s with radio := radio }
  (if off then s else s.note .notDisabled, off)

/-- Brings the station to rest after a stalled or abandoned exchange. A radio that does not switch
off is power cycled and programmed again, so the buffers can be handed back in any case. -/
def forceIdle (config : LinkConfig) (s : Station) : Station :=
  let s := s.onRadio fun r => ((r.setInterrupt false).disableShorts .txThenRx).clearRoutes
  let (s, off) := s.disableRadio
  let s := if off then s
    else (s.note .powerCycle).onRadio (Radio.setPower false) |>.programRadio config
  ((s.setPa false).setLna false).resetTransfer

end BurstLink.Station
