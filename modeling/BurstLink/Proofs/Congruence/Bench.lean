import BurstLink.Proofs.Congruence.Operations
import BurstLink.Proofs.Moves

/-! # Benches under a congruence

What is done at a bench besides looking at operations keeps a congruence as well: an operation is
asked for, with the same buffers and the same scanner on both benches, and the surroundings of the
radio are arranged.

Main statements: `Station.ExactCongruence.engage` and `Station.Congruence.arranged`. -/

namespace BurstLink.Station

variable {R : Station → Station → Prop} {s t : Station}

/-! ## Arranging the surroundings -/

namespace Congruence

variable {pair : Buffer → Buffer → Prop} {far : Nat → Nat → Prop} (c : Congruence pair far R)
include c

/-- The air around the radio is neither its timer nor its pointer. -/
theorem onAir (h : R s t) (f : Air → Air) :
    R (s.onRadio fun r => { r with air := f r.air })
      (t.onRadio fun r => { r with air := f r.air }) :=
  c.write h fun _ _ _ => rfl

/-- **Arranging the surroundings does the same to both stations.** -/
theorem arranged {b b' : Bench} (h : R b.station b'.station) {command : Command}
    (arranges : command.Arranges) :
    R (b.execute command).1.station (b'.execute command).1.station := by
  -- both benches have the same current scanner, or put up the same one
  obtain ⟨current, scanner⟩ := c.currentScanner h
  cases command with
  | schedule responses => exact c.onAir h fun air => (air.schedule responses).1
  | setAir setting => exact c.onAir h setting.apply
  | putUpScanner heard =>
    unfold Bench.execute
    dsimp only
    cases Scanner.hearing heard with
    | ok scanner =>
      show R { b.station with scanners := _ } { b'.station with scanners := _ }
      rw [← (c.shares h).scanners]
      exact c.setScanners h _
    | error overflow => exact h
  | setSilent on =>
    unfold Bench.execute
    dsimp only
    rw [← scanner]
    exact c.onScanner current _ _
  | report report =>
    unfold Bench.execute
    dsimp only
    rw [← scanner]
    exact c.report current _ report
  | _ => exact absurd arranges id

end Congruence

/-! ## Asking for an operation -/

/-- **An operation that is asked for is the same on both stations**, as new buffers and the current
scanner have the same names on both. -/
theorem ExactCongruence.engage (c : ExactCongruence R) (h : R s t) (label : Option String)
    (work : Work) : Concur R Eq (s.engage label work) (t.engage label work) := by
  cases work with
  | request request => exact ⟨h, rfl⟩
  | send packet ack =>
    unfold Station.engage
    rw [← c.buffers h]
    exact ⟨c.setBuffers h _, rfl⟩
  | scanPresence channel window =>
    obtain ⟨current, scanner⟩ := c.currentScanner h
    refine ⟨current, ?_⟩
    show Job.mk label none (.queued (.scanPresence s.currentScanner.2 channel window)) = _
    rw [scanner]
    rfl

end BurstLink.Station
