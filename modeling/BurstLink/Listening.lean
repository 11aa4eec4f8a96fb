import BurstLink.Station

/-! # Presence scans

In the presence scan mode a scan tells a scanner to listen and collects its reports until the
scanner is done. Reports from before the scan are forgotten. When the scanner reports nothing for
twice the window, the scan gives up.

Main definitions:

* **`Listening`** — a presence scan between two looks.
* **`Station.startListening`**, **`Station.checkListening`**. -/

namespace BurstLink

/-- A presence scan between two looks. -/
structure Listening where
  /-- The scanner it listens to. -/
  scanner : Handle Scanner
  /-- The channel being scanned. -/
  channel : UInt8
  /-- The scan window in microseconds. As with the clock, a natural number stands for 64 bits: twice
  the window and the deadline are sums that do not wrap around. -/
  window : Nat
  /-- Devices found so far. -/
  found : List Detection
  /-- The scan gives up at this time, unless a report comes. -/
  deadline : Nat
  deriving DecidableEq

/-- What a look at a presence scan finds. -/
abbrev ListeningLook := Look Listening (Except Failure (List Detection))

namespace Station

/-- Adds a detection to the table, or tells the log that there is no room. -/
def sight (d : Detection) (found : List Detection) (s : Station) : Station × List Detection :=
  (if Sightings.drops d found then s.note (.tableFull d) else s, Sightings.see d found)

/-- Takes reports in order until one says that the scanner is done: what is left of them, the
devices found, and whether it is done. -/
def takeReports : List PresenceReport → List Detection → Station →
    Station × List PresenceReport × List Detection × Bool
  | [], found, s => (s, [], found, false)
  | .done :: later, found, s => (s, later, found, true)
  | .detected d :: later, found, s =>
    let (s, found) := s.sight d found
    takeReports later found s

/-- Takes the waiting reports. While the scanner is not done, the scan waits for the next one, for
twice the window. -/
def collect (l : Listening) (s : Station) : Station × ListeningLook :=
  let (s, queue, found, done) := s.takeReports (s.scanners.get l.scanner).queue l.found
  let s := s.onScanner l.scanner fun sc => { sc with queue := queue }
  if done then (s, .finished (.ok found))
  else (s, .waiting { l with found := found, deadline := s.clock + 2 * l.window })

/-- Tells the scanner to listen, and collects what it reports at once. -/
def startListening (scanner : Handle Scanner) (channel : UInt8) (window : Nat) (s : Station) :
    Station × ListeningLook :=
  if s.mode = .presenceScan then
    let s := s.onScanner scanner fun sc => sc.drain.ask channel window
    let s := (s.scanners.get scanner).announcements.foldl (fun s r => s.report scanner r) s
    s.collect ⟨scanner, channel, window, [], s.clock⟩
  else (s, .finished (.error .notAvailable))

/-- Looks for reports; without one the scan goes on waiting or gives up. -/
def checkListening (l : Listening) (s : Station) : Station × ListeningLook :=
  if (s.scanners.get l.scanner).queue.isEmpty then
    if l.deadline ≤ s.clock then (s.note (.scanStalled l.channel), .finished (.error .scanStalled))
    else (s, .waiting l)
  else s.collect l

end Station

end BurstLink
