import BurstLink.Proofs.Congruence.Bench
import BurstLink.Proofs.Custody.Requests

/-! # Stations with different timers

No operation and no step of the radio reads what the timer shows, but to show something else. So two
stations that differ in that alone go through the same changes, and find the same.

Main definitions:

* **`Station.Unison`** — two stations that differ in what the timer shows alone.
* **`Bench.Unison`** — two benches whose stations do.

Main statements: `Station.Unison.congruence`, which makes operations keep the relation,
`Station.Unison.serviceRadio`, and `Bench.Unison.after`. -/

namespace BurstLink

namespace Station

/-- The station with a timer that shows something else. -/
def retime (τ : Timing) : Station → Station := onRadio (Radio.retime τ)

/-- The stations differ at most in what the timer shows. -/
def Unison (s t : Station) : Prop := ∃ τ, t = s.retime τ

variable {s t : Station}

namespace Unison

/-! ## Operations -/

/-- A change that has nothing to do with the timer. -/
theorem keep (h : s.Unison t) {g : Station → Station}
    (timeless : ∀ τ u, g (retime τ u) = (g u).retime τ) : (g s).Unison (g t) := by
  obtain ⟨τ, rfl⟩ := h
  exact ⟨τ, timeless τ s⟩

/-- A change of the radio that depends on the timer in what the timer shows afterwards alone. -/
theorem onRadio (h : s.Unison t) {g : Radio → Radio} (timeless : Radio.Timeless g) :
    (s.onRadio g).Unison (t.onRadio g) := by
  obtain ⟨τ, rfl⟩ := h
  obtain ⟨τ', same⟩ := timeless τ s.radio
  exact ⟨τ', congrArg (fun radio => { s with radio := radio }) same⟩

/-- **Operations do the same to stations that differ in what the timer shows**: nothing that they
read has to do with the timer. -/
theorem congruence : ExactCongruence Unison where
  shares h := by
    obtain ⟨τ, rfl⟩ := h
    exact ⟨⟨τ, _, rfl⟩, ⟨_, rfl⟩, rfl, rfl, rfl, rfl, rfl⟩
  after h n := by
    obtain ⟨τ, rfl⟩ := h
    rfl
  due h same := by
    obtain ⟨τ, rfl⟩ := h
    rw [same]
    rfl
  packets h same := by
    obtain ⟨τ, rfl⟩ := h
    rw [same]
    rfl
  onBuffer h same f := by
    rw [same]
    exact h.keep fun _ _ => rfl
  note h notice := h.keep (g := Station.note notice) fun _ _ => rfl
  prepare h := h.keep fun _ _ => rfl
  setPa h on := h.keep (g := Station.setPa on) fun _ _ => rfl
  setLna h on := h.keep (g := Station.setLna on) fun _ _ => rfl
  setGain h gain := h.keep fun _ _ => rfl
  onLink h f := h.keep (g := Station.onLink f) fun _ _ => rfl
  setMode h mode := h.keep (g := fun u => { u with mode := mode }) fun _ _ => rfl
  setLocked h locked := h.keep (g := Station.setLocked locked) fun _ _ => rfl
  setCompleted h done := h.keep (g := Station.setCompleted done) fun _ _ => rfl
  setScanners h scanners := h.keep (g := fun u => { u with scanners := scanners }) fun _ _ => rfl
  onTransfer h _ := h.keep fun _ _ => rfl
  setAck h same := by
    rw [same]
    exact h.keep fun _ _ => rfl
  onRadio h oblivious := h.onRadio oblivious.timeless
  setBuffer h same := by
    rw [same]
    exact h.keep fun _ _ => rfl
  aimAtAck h := by
    obtain ⟨τ, rfl⟩ := h
    exact ⟨τ, rfl⟩
  buffers h := by
    obtain ⟨τ, rfl⟩ := h
    rfl
  setBuffers h buffers := h.keep (g := fun u => { u with buffers := buffers }) fun _ _ => rfl

/-- A look at the front-end test: both stations have the same front end. -/
theorem checkAmplifierTest (h : s.Unison t) (test : AmplifierTest) :
    Concur Unison Eq (s.checkAmplifierTest test) (t.checkAmplifierTest test) := by
  obtain ⟨τ, rfl⟩ := h
  cases test with
  | power deadline => exact rel_ite .rfl ⟨⟨τ, rfl⟩, rfl⟩ ⟨⟨τ, rfl⟩, rfl⟩
  | lowNoise pa deadline => exact rel_ite .rfl ⟨⟨τ, rfl⟩, rfl⟩ ⟨⟨τ, rfl⟩, rfl⟩

/-- **A look at an operation finds the same on both stations.** -/
theorem poll (h : s.Unison t) (activity : Activity) :
    Concur Unison Eq (activity.poll s) (activity.poll t) := by
  cases activity with
  | queued request =>
    cases request with
    | testAmplifiers =>
      obtain ⟨τ, rfl⟩ := h
      exact ⟨⟨τ, rfl⟩, rfl⟩
    | _ => exact congruence.poll_other h rfl
  | testing test =>
    obtain ⟨stations, same⟩ := h.checkAmplifierTest test
    exact ⟨stations, congrArg (Look.map _ _) same⟩
  | _ => exact congruence.poll_other h rfl

/-! ## The radio in time -/

/-- **A step of the radio does the same to both stations.** -/
theorem serviceRadio (h : s.Unison t) : s.serviceRadio.Unison t.serviceRadio := by
  obtain ⟨τ, rfl⟩ := h
  obtain ⟨τ', same⟩ := s.radio.retime_service τ s.loaded
  unfold Station.serviceRadio
  rw [show (s.retime τ).loaded = s.loaded from rfl,
    show (s.retime τ).radio = s.radio.retime τ from rfl, same]
  rcases s.radio.service s.loaded with ⟨radio, _ | frame⟩
  · exact ⟨τ', rfl⟩
  · refine ⟨τ', ?_⟩
    unfold Station.store
    dsimp only
    rw [show (radio.retime τ').buffer = radio.buffer from rfl]
    split <;> rfl

/-- **A step of the radio and its interrupt do the same to both stations.** -/
theorem pump (h : s.Unison t) : s.pump.1.Unison t.pump.1 :=
  (congruence.pump h.serviceRadio).stations

end Unison

end Station

namespace Bench

variable {b c : Bench} {move : Move}

/-! ## Benches with different timers -/

/-- The benches differ at most in what the timer shows. -/
def Unison (b c : Bench) : Prop := ∃ t, b.station.Unison t ∧ c = { b with station := t }

namespace Unison

/-- A change of the station alone. -/
theorem onStation (h : b.Unison c) {g : Station → Station}
    (kept : ∀ {s t : Station}, s.Unison t → (g s).Unison (g t)) :
    (b.onStation g).Unison (c.onStation g) := by
  obtain ⟨t, stations, rfl⟩ := h
  exact ⟨g t, kept stations, rfl⟩

/-- A look at a job leaves the same of it on both benches. -/
theorem lookAt (h : b.Unison c) (position : Nat) :
    (b.lookAt position).Unison (c.lookAt position) := by
  obtain ⟨t, stations, rfl⟩ := h
  unfold Bench.lookAt
  dsimp only
  cases b.jobs[position]? with
  | none => exact ⟨t, stations, rfl⟩
  | some job =>
    have looked := Station.Unison.congruence.pollJob (stations.poll job.activity)
    dsimp only
    generalize job.poll b.station = x at looked ⊢
    generalize job.poll t = y at looked ⊢
    obtain ⟨u, look⟩ := x
    obtain ⟨v, _⟩ := y
    obtain ⟨left, rfl⟩ := looked
    cases look with
    | waiting rest => exact ⟨_, left, rfl⟩
    | finished completion => exact ⟨_, left, rfl⟩

/-- A job that is given up is gone from both benches. -/
theorem giveUp (h : b.Unison c) (position : Nat) :
    (b.giveUp position).Unison (c.giveUp position) := by
  obtain ⟨t, stations, rfl⟩ := h
  unfold Bench.giveUp
  dsimp only
  cases b.jobs[position]? with
  | none => exact ⟨t, stations, rfl⟩
  | some job => exact ⟨_, Station.Unison.congruence.dropJob stations job, rfl⟩

/-- An operation that is asked for has the same buffers and the same scanner on both benches. -/
theorem enlist (h : b.Unison c) (label : Option String) (work : Work) :
    (b.enlist label work).Unison (c.enlist label work) := by
  obtain ⟨t, stations, rfl⟩ := h
  obtain ⟨engaged, same⟩ := Station.Unison.congruence.engage stations label work
  rw [enlist_eq, enlist_eq, same]
  exact ⟨_, engaged, rfl⟩

/-- Arranging the surroundings does the same to both benches. -/
theorem arrange (h : b.Unison c) {command : Command} (arranges : command.Arranges) :
    (b.execute command).1.Unison (c.execute command).1 := by
  obtain ⟨t, stations, rfl⟩ := h
  have both : b.station.Unison ({ b with station := t } : Bench).station := stations
  have arranged := Station.Unison.congruence.arranged both arranges
  rw [execute_eq_of_arranges arranges b, execute_eq_of_arranges arranges { b with station := t }]
  exact ⟨_, arranged, rfl⟩

/-- **A move does the same to both benches.** -/
theorem make (h : b.Unison c) (regular : move.Regular) : (b.make move).Unison (c.make move) := by
  cases move with
  | ask label work => exact h.enlist label work
  | look position => exact h.lookAt position
  | giveUp position => exact h.giveUp position
  | wait time =>
    exact h.onStation fun stations => stations.keep
      (g := fun s => { s with clock := s.clock + time }) fun _ _ => rfl
  | service => exact h.onStation Station.Unison.serviceRadio
  | pump => exact h.onStation (g := fun s => s.pump.1) Station.Unison.pump
  | arrange command => exact h.arrange regular
  | turnPage =>
    obtain ⟨t, stations, rfl⟩ := h
    exact ⟨_, stations.keep (g := fun s => { s with journal := [] }) fun _ _ => rfl, rfl⟩

/-- **A run does the same to both benches.** The induction is on the moves. -/
theorem after (h : b.Unison c) (moves : List Move) (regular : ∀ move ∈ moves, move.Regular) :
    (b.after moves).Unison (c.after moves) := by
  induction moves generalizing b c with
  | nil => exact h
  | cons move moves ih =>
    exact ih (h.make (regular move (by simp))) fun m member => regular m (by simp [member])

end Unison

end Bench

end BurstLink
