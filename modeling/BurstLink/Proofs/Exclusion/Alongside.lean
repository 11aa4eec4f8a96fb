import BurstLink.Proofs.Congruence.Operations
import BurstLink.Proofs.Custody.Requests

/-! # Stations with different front ends

No operation but the front-end test asks what the amplifiers do, and none reads the log. So two
stations that differ in front end and log alone go through the same changes, and both front ends get
the same switches.

Main definitions:

* **`FrontEnd.Tracks`** — a relation between front ends that the switches of the operations keep.
* **`Station.Alongside`** — two stations that differ in log and front end alone, the latter related.

Main statements: `Station.Alongside.congruence`, which makes operations keep the relation, and
`Station.Alongside.serviceRadio`. -/

namespace BurstLink

/-- The relation is kept when both front ends are switched in the same way. -/
structure FrontEnd.Tracks (R : FrontEnd → FrontEnd → Prop) : Prop where
  prepare : ∀ {f g}, R f g → R f.prepare g.prepare
  setPa : ∀ {f g} on, R f g → R (f.setPa on) (g.setPa on)
  setLna : ∀ {f g} on, R f g → R (f.setLna on) (g.setLna on)
  setGain : ∀ {f g} gain, R f g → R (f.setGain gain) (g.setGain gain)

/-- Related front ends, or none on either side, are related after related changes. -/
theorem FrontEnd.rel_map {R R' : FrontEnd → FrontEnd → Prop} {o o' : Option FrontEnd}
    (h : Option.Rel R o o') {f f' : FrontEnd → FrontEnd} (kept : ∀ {a b}, R a b → R' (f a) (f' b)) :
    Option.Rel R' (o.map f) (o'.map f') := by
  cases h with
  | some related => exact .some (kept related)
  | none => exact .none

namespace Station

/-- The station with another front end and another log. -/
def refit (frontEnd : Option FrontEnd) (journal : List Notice) (s : Station) : Station :=
  { s with frontEnd := frontEnd, journal := journal }

/-- The stations differ in front end and log alone, and the front ends are related. -/
structure Alongside (R : FrontEnd → FrontEnd → Prop) (s t : Station) : Prop where
  tracks : FrontEnd.Tracks R
  rest : t = s.refit t.frontEnd t.journal
  fitted : Option.Rel R s.frontEnd t.frontEnd

variable {R R' : FrontEnd → FrontEnd → Prop} {s t : Station}

namespace Alongside

/-! ## Small changes -/

/-- The second station is the first one with its own front end and log. -/
theorem refitted (h : Alongside R s t) : ∃ frontEnd journal, t = s.refit frontEnd journal :=
  ⟨_, _, h.rest⟩

/-- The front ends are related in another way, too. -/
theorem imp (h : Alongside R s t) (tracks : FrontEnd.Tracks R')
    (also : ∀ f ∈ s.frontEnd, ∀ g ∈ t.frontEnd, R f g → R' f g) : Alongside R' s t := by
  obtain ⟨-, rest, fitted⟩ := h
  refine ⟨tracks, rest, ?_⟩
  clear rest
  generalize s.frontEnd = o, t.frontEnd = o' at fitted also
  cases fitted with
  | some related => exact .some (also _ rfl _ rfl related)
  | none => exact .none

/-- A change that does not look at front end and log. -/
theorem keep (h : Alongside R s t) {g : Station → Station}
    (blind : ∀ frontEnd journal u, g (refit frontEnd journal u) = (g u).refit frontEnd journal) :
    Alongside R (g s) (g t) := by
  have own := blind s.frontEnd s.journal s
  have other := blind t.frontEnd t.journal s
  rw [← h.rest] at other
  refine ⟨h.tracks, ?_, ?_⟩
  · rw [other]
    rfl
  · rw [other, show g s = (g s).refit s.frontEnd s.journal from own]
    exact h.fitted

/-- The same switch of both front ends. -/
theorem onFrontEnd (h : Alongside R s t) {switch : FrontEnd → FrontEnd}
    (kept : ∀ {f g}, R f g → R (switch f) (switch g)) :
    Alongside R (s.onFrontEnd switch) (t.onFrontEnd switch) := by
  obtain ⟨frontEnd, journal, rfl⟩ := h.refitted
  exact ⟨h.tracks, rfl, FrontEnd.rel_map h.fitted kept⟩

/-- **Operations do the same to stations that differ in front end and log**: nothing that they read
has to do with those. -/
theorem congruence : ExactCongruence (Alongside R) where
  shares h := by
    obtain ⟨frontEnd, journal, rfl⟩ := h.refitted
    exact ⟨⟨_, _, (Radio.retime_setBuffer_self _).symm⟩, ⟨_, rfl⟩, rfl, rfl, rfl, rfl, rfl⟩
  after h n := by
    rw [h.rest]
    rfl
  due h same := by
    rw [h.rest, same]
    rfl
  packets h same := by
    rw [h.rest, same]
    rfl
  onBuffer h same f := by
    rw [same]
    exact h.keep fun _ _ _ => rfl
  -- the log is written on both sides, and what differs in it stays
  note h notice := by
    obtain ⟨frontEnd, journal, rfl⟩ := h.refitted
    exact ⟨h.tracks, rfl, h.fitted⟩
  prepare h := h.onFrontEnd h.tracks.prepare
  setPa h on := h.onFrontEnd (h.tracks.setPa on)
  setLna h on := h.onFrontEnd (h.tracks.setLna on)
  setGain h gain := h.onFrontEnd (h.tracks.setGain gain)
  onLink h f := h.keep (g := Station.onLink f) fun _ _ _ => rfl
  setMode h mode := h.keep (g := fun u => { u with mode := mode }) fun _ _ _ => rfl
  setLocked h locked := h.keep (g := Station.setLocked locked) fun _ _ _ => rfl
  setCompleted h done := h.keep (g := Station.setCompleted done) fun _ _ _ => rfl
  setScanners h scanners := h.keep (g := fun u => { u with scanners := scanners }) fun _ _ _ => rfl
  onTransfer h _ := h.keep fun _ _ _ => rfl
  setAck h same := by
    rw [same]
    exact h.keep fun _ _ _ => rfl
  onRadio h _ := h.keep fun _ _ _ => rfl
  setBuffer h same := by
    rw [same]
    exact h.keep fun _ _ _ => rfl
  aimAtAck h := by
    obtain ⟨frontEnd, journal, rfl⟩ := h.refitted
    exact ⟨h.tracks, rfl, h.fitted⟩
  buffers h := by
    rw [h.rest]
    rfl
  setBuffers h buffers := h.keep (g := fun u => { u with buffers := buffers }) fun _ _ _ => rfl

/-! ## The radio in time -/

/-- **A step of the radio** does not look at front end and log. -/
theorem serviceRadio (h : Alongside R s t) : Alongside R s.serviceRadio t.serviceRadio := by
  refine h.keep fun frontEnd journal u => ?_
  unfold Station.serviceRadio
  rw [show (u.refit frontEnd journal).loaded = u.loaded from rfl,
    show (u.refit frontEnd journal).radio = u.radio from rfl]
  rcases u.radio.service u.loaded with ⟨radio, _ | frame⟩
  · rfl
  · unfold Station.store
    dsimp only
    split <;> rfl

/-- **A step of the radio and its interrupt** do the same to both stations. -/
theorem pump (h : Alongside R s t) : Alongside R s.pump.1 t.pump.1 :=
  (congruence.pump h.serviceRadio).stations

end Alongside

end Station

end BurstLink
