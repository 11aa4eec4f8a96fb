import BurstLink.Link.Setup

/-! # Carrier

An unmodulated carrier for measurements of the transmitter: either a toggle while the link protocol
owns the radio, on the configured channel, or the whole purpose of the carrier mode, on any channel.
The transmitter is ramped up without the start shortcut, so no packet follows and the carrier
stays.

Main definitions: **`Station.toggleCarrier`** for the link, **`Station.startCarrier`** and
**`Station.stopCarrier`** for the carrier mode. -/

namespace BurstLink.Station

/-- Puts the carrier on air. -/
def startTone (s : Station) : Station :=
  ((s.onRadio (Radio.setShorts .none)).setPa true).onRadio (Radio.trigger .txEnable)

/-- Takes the carrier off air. -/
def stopTone (s : Station) : Station := s.disableRadio.1.setPa false

/-- Remembers whether a carrier is on air. -/
def setCarrierFlag (on : Bool) : Station → Station := onLink fun link => { link with carrier := on }

/-- Puts the carrier on the link's channel on or off air, and says whether that changed anything. -/
def toggleCarrier (on : Bool) (s : Station) : Station × Except Failure Bool :=
  if !s.link.initialized then (s, .error .notInitialized)
  else if s.link.carrier = on then (s, .ok false)
  else if on then
    ((s.startTone.note (.carrierOn s.link.config.channel)).setCarrierFlag true, .ok true)
  else
    (((s.stopTone.onRadio (Radio.setShorts .rssi)).note .carrierOff).setCarrierFlag false, .ok true)

/-- Puts the carrier on a channel; a carrier on air is taken off first. -/
def startCarrier (channel : UInt8) (s : Station) : Station × Except Failure Unit :=
  if s.mode = .carrier then
    let s := if s.link.carrier then s.stopTone else s
    (((s.onRadio (Radio.setChannel channel)).startTone.setCarrierFlag true).note
      (.carrierOn channel), .ok ())
  else (s, .error .notAvailable)

/-- Takes the carrier off air, if it is on. -/
def stopCarrier (s : Station) : Station × Except Failure Unit :=
  if s.mode = .carrier then
    (if s.link.carrier then (s.stopTone.setCarrierFlag false).note .carrierOff else s, .ok ())
  else (s, .error .notAvailable)

/-- The carrier mode takes the radio, at two megabits and four dBm. -/
def enterCarrierMode : Station → Station :=
  onRadio fun r => ((r.setPower true).setBitrate .mbps2).setTxPower .pos4Dbm

/-- The carrier mode gives the radio up. -/
def exitCarrierMode (s : Station) : Station :=
  (if s.link.carrier then s.stopTone.setCarrierFlag false else s).onRadio (Radio.setPower false)

end BurstLink.Station
