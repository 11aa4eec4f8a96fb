import BurstLink.Config

/-! # Presence reports

A presence scanner listens for advertisements of devices nearby. It reports each one it hears, and
then that it is done. Reports wait in a bounded queue until a scan takes them; a scan keeps one
entry for each device address, with the latest signal strength.

Main definitions:

* **`Detection`**, **`PresenceReport`** — what is reported.
* **`Scanner`** — the low-level scanner with its queue.
* **`Sightings.see`** — how a detection changes the table of a scan. -/

namespace BurstLink

/-- Number of bytes of the address that a device advertises. -/
def macLength : Nat := 6

/-- One advertisement. -/
structure Detection where
  /-- Address of the device. -/
  mac : Vector UInt8 macLength
  /-- Signal strength in dBm. -/
  rssi : Int8
  deriving DecidableEq

/-- The address of the device in reports. -/
def Detection.macText (d : Detection) : String := showBytes d.mac.toList

/-- A detection in reports. -/
def Detection.text (d : Detection) : String :=
  showRecord "Detection" [("mac", d.macText), ("rssi", toString d.rssi.toInt)]

/-- What a scanner reports. -/
inductive PresenceReport
  /-- A device was heard. -/
  | detected (detection : Detection)
  /-- The scan window is over. -/
  | done
  deriving DecidableEq

/-- The report in words. -/
def PresenceReport.text : PresenceReport → String
  | .detected detection => showApplied "Detected" [detection.text]
  | .done => "Done"

/-! ## The scanner -/

/-- A presence scanner and the reports that wait for a scan. -/
structure Scanner where
  /-- The advertisements in the air. -/
  heard : List Detection := []
  /-- It never reports by itself. -/
  silent : Bool := false
  /-- Reports waiting, oldest first. -/
  queue : List PresenceReport := []
  /-- Times it was told to listen. -/
  scans : Nat := 0
  /-- Channel and window (in microseconds) it was told last. -/
  asked : Option (UInt8 × Nat) := none
  deriving DecidableEq

namespace Scanner

instance : Inhabited Scanner := ⟨{}⟩

/-- A scanner surrounded by the given advertisements, of which there may be 8. -/
def hearing (heard : List Detection) : Except Overflow Scanner :=
  if heard.length ≤ Overflow.detections.limit then .ok { heard := heard }
  else .error .detections

/-- No further report fits into the queue. -/
def isFull (sc : Scanner) : Bool := decide (scanQueueDepth ≤ sc.queue.length)

/-- Queues a report; it is lost when the queue is full. -/
def report (report : PresenceReport) (sc : Scanner) : Scanner :=
  if sc.isFull then sc else { sc with queue := sc.queue ++ [report] }

/-- Forgets the reports that wait. -/
def drain (sc : Scanner) : Scanner := { sc with queue := [] }

/-- Notes that it was told to listen. -/
def ask (channel : UInt8) (window : Nat) (sc : Scanner) : Scanner :=
  { sc with scans := sc.scans + 1, asked := some (channel, window) }

/-- What it reports when told to listen: everything heard, then that it is done. -/
def announcements (sc : Scanner) : List PresenceReport :=
  if sc.silent then [] else sc.heard.map .detected ++ [.done]

end Scanner

/-! ## The table of a scan -/

namespace Sightings

/-- The device is in the table. -/
def knows (mac : Vector UInt8 macLength) (table : List Detection) : Bool :=
  table.any fun d => d.mac == mac

/-- A new device would not fit. -/
def isFull (table : List Detection) : Bool := decide (maxPresenceDevices ≤ table.length)

/-- A known device gets the new signal strength; a new one is appended while there is room. -/
def see (d : Detection) (table : List Detection) : List Detection :=
  if knows d.mac table then
    table.map fun known => if known.mac = d.mac then { known with rssi := d.rssi } else known
  else if isFull table then table
  else table ++ [d]

/-- The detection is neither of a known device nor is there room for it. -/
def drops (d : Detection) (table : List Detection) : Bool := !knows d.mac table && isFull table

/-- Seeing a device keeps the order of the devices and adds at most the new one at the end. -/
theorem map_mac_see (d : Detection) (table : List Detection) :
    (see d table).map Detection.mac =
      table.map Detection.mac ++ if knows d.mac table || isFull table then [] else [d.mac] := by
  unfold see
  split
  · rename_i known
    simp only [known, Bool.true_or, if_true, List.append_nil, List.map_map]
    exact List.map_congr_left fun e _ => by simp only [Function.comp_apply]; split <;> rfl
  · rename_i unknown
    split <;> simp_all

end Sightings

end BurstLink
