import BurstLink.Link.Exchange

/-! # Channel scans

A channel scan sends one payload on every channel of a range, in ascending order, and collects the
channels that acknowledged it. A channel on which the radio gets stuck counts as not acknowledged.
The scan ends with the range, or as soon as the list of hits is full; the channel tried last stays
configured.

Main definitions:

* **`ChannelScan`** — a scan between two looks.
* **`Station.scanOn`** — goes on with the channels that are left.
* **`Station.startScan`**, **`Station.scoreScan`** — the start, and what follows each channel. -/

namespace BurstLink

/-- A channel scan between two looks. -/
structure ChannelScan where
  /-- First channel of the range. -/
  first : UInt8
  /-- Last channel of the range. -/
  last : UInt8
  /-- The channel being tried. -/
  channel : UInt8
  /-- Channels still to be tried. -/
  left : List UInt8
  /-- Channels that acknowledged, in the order in which they were tried. -/
  hits : List UInt8
  deriving DecidableEq

/-- What a look at a channel scan finds: a channel is being tried, or the hits. -/
abbrev ScanLook := Look (Flight × ChannelScan) (Except Failure (List UInt8))

/-- The channels from `first` to `last`, in ascending order. -/
def channelRange (first last : UInt8) : List UInt8 :=
  (List.range' first.toNat (last.toNat + 1 - first.toNat)).map UInt8.ofNat

namespace Station

/-- The link moves to a channel. -/
def tune (channel : UInt8) (s : Station) : Station :=
  (s.onLink fun link => { link with config := { link.config with channel := channel } }).onRadio
    (Radio.setChannel channel)

/-- Tells the log, and answers with the hits. -/
def endScan (first last : UInt8) (hits : List UInt8) (s : Station) : Station × ScanLook :=
  (s.note (.scanned first last hits.length), .finished (.ok hits))

/-- Tries the channels that are left, up to the first on which a packet goes on air. -/
def scanOn (packet ack : Buffer) (first last : UInt8) (hits : List UInt8) :
    List UInt8 → Station → Station × ScanLook
  | [], s => s.endScan first last hits
  | channel :: left, s =>
    match (s.tune channel).launch packet ack with
    | (s, .refused failure) => (s, .finished (.error failure))
    | (s, .lost) => scanOn packet ack first last hits left s
    | (s, .flying f) => (s, .waiting (f, ⟨first, last, channel, left, hits⟩))

/-- Scores the channel tried last, and goes on unless the list of hits is full. -/
def scoreScan (f : Flight) (scan : ChannelScan) (result : Except Failure Outcome) (s : Station) :
    Station × ScanLook :=
  match result with
  | .ok outcome =>
    if outcome.acked then
      let hits := scan.hits ++ [scan.channel]
      if maxScanResults ≤ hits.length then s.endScan scan.first scan.last hits
      else s.scanOn f.packet f.ack scan.first scan.last hits scan.left
    else s.scanOn f.packet f.ack scan.first scan.last scan.hits scan.left
  | .error .hardwareStuck => s.scanOn f.packet f.ack scan.first scan.last scan.hits scan.left
  | .error failure => (s, .finished (.error failure))

/-- Starts a scan with a packet and an acknowledgement buffer of its own. -/
def startScan (first last : UInt8) (payload : List UInt8) (s : Station) : Station × ScanLook :=
  match s.ready with
  | .error failure => (s, .finished (.error failure))
  | .ok () =>
    let (buffers, packet) := s.buffers.add (.ofPayload (.truncate payload))
    let (buffers, ack) := buffers.add .empty
    { s with buffers := buffers }.scanOn packet ack first last [] (channelRange first last)

end Station

end BurstLink
