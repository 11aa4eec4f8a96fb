import BurstLink.Link.Setup

/-! # Switching the radio off

Switching off changes the phase, the pending response and the events of the radio, and nothing
else. How long it takes depends on the latency: without one the radio is off at once, with one it
takes as many looks as the latency says.

Main definitions:

* **`Radio.Off`** — the radio is off, or on the way there if that may take time.
* **`Radio.Prompt`** — told to switch off, the radio is off at once, unless that may take time.
* **`Radio.Settles`** — one radio comes from another by switching off or being looked at.
* **`Radio.looksLeft`** — how many looks it takes until the radio is off.
* **`Radio.forceOff`** — the radio after it was told to switch off and looked at.

Main statements: `Radio.forceOff_settles`, `Radio.forceOff_off`, `Radio.phase_forceOff`, and the
exact end of the looks (`Radio.pollDisabledUpTo_trigger_disable`). -/

namespace BurstLink

namespace Radio

variable {delays : Prop} {r r' r'' : Radio}

/-- The radio is off, or on the way there if that may take time. -/
def Off (delays : Prop) (r : Radio) : Prop :=
  r.phase = .disabled ∨ delays ∧ ∃ reads, r.phase = .disabling reads

/-- Told to switch off, the radio is off at once, unless that may take time. -/
def Prompt (delays : Prop) (r : Radio) : Prop :=
  delays ∨ r.air.disableLatency = 0 ∧ ∀ reads, r.phase ≠ .disabling reads

/-- A radio that is off without delay is off. -/
theorem Off.disabled (h : r.Off False) : r.phase = .disabled := by
  simpa [Off] using h

/-- A radio in the phase of a radio that is off is off. -/
theorem off_of_disabled (h : r.phase = .disabled) : r.Off delays := Or.inl h

/-! ## What switching off leaves alone -/

/-- Phase, pending response and events may differ, and a response does not appear. -/
def Settles (r r' : Radio) : Prop :=
  ∃ phase pending events, (pending = none ∨ pending = r.pending) ∧
    r' = { r with phase := phase, pending := pending, events := events }

namespace Settles

/-- A radio has settled from itself. -/
@[refl] theorem refl (r : Radio) : r.Settles r := ⟨_, _, _, Or.inr rfl, rfl⟩

/-- Settling twice is settling. -/
theorem trans (h : r.Settles r') (h' : r'.Settles r'') : r.Settles r'' := by
  obtain ⟨phase, pending, events, kept, rfl⟩ := h
  obtain ⟨phase', pending', events', kept', rfl⟩ := h'
  refine ⟨phase', pending', events', ?_, rfl⟩
  rcases kept' with none' | rfl
  · exact Or.inl none'
  · exact kept

/-- A response does not appear while the radio settles. -/
theorem pending_eq_none (h : r.Settles r') (none' : r.pending = none) : r'.pending = none := by
  obtain ⟨phase, pending, events, kept, rfl⟩ := h
  rcases kept with h | h
  · exact h
  · exact h.trans none'

end Settles

/-- Switching off settles. -/
theorem switchOff_settles (r : Radio) : r.Settles r.switchOff := by
  unfold switchOff
  split
  · rfl
  · exact ⟨_, _, _, Or.inl rfl, rfl⟩

/-- So does the request to switch off, whether it is followed at once or later. -/
theorem requestDisable_settles (r : Radio) : r.Settles r.requestDisable := by
  unfold requestDisable
  split
  · rfl
  · rfl
  · split
    · exact r.switchOff_settles
    · exact ⟨_, _, r.events, Or.inl rfl, rfl⟩

/-- So does a look at a radio that is switching off. -/
theorem settle_settles (r : Radio) : r.Settles r.settle := by
  unfold settle
  split
  · split
    · exact r.switchOff_settles
    · exact ⟨_, r.pending, r.events, Or.inr rfl, rfl⟩
  · rfl

/-- So does the task to switch off, with or without power. -/
theorem trigger_disable_settles (r : Radio) : r.Settles (r.trigger .disable) := by
  unfold trigger
  split
  · exact r.requestDisable_settles
  · rfl

/-- So do several looks. The induction is on them. -/
theorem pollDisabledUpTo_settles (n : Nat) (r : Radio) : r.Settles (r.pollDisabledUpTo n).1 := by
  induction n generalizing r with
  | zero => rfl
  | succ n ih =>
    rw [pollDisabledUpTo]
    split
    · rename_i r' h
      obtain ⟨rfl, -⟩ := Prod.mk.inj h
      exact r.settle_settles
    · rename_i r' h
      obtain ⟨rfl, -⟩ := Prod.mk.inj h
      exact r.settle_settles.trans (ih _)

/-! ## Where it leads -/

/-- A radio that switches off is off. -/
theorem switchOff_phase (r : Radio) : r.switchOff.phase = .disabled := by
  unfold switchOff
  split
  · assumption
  · rfl

/-- Told to switch off, a powered radio is off or on the way there. -/
theorem trigger_disable_off (powered : r.powered = true) (prompt : r.Prompt delays) :
    (r.trigger .disable).Off delays := by
  simp only [trigger, powered, if_true]
  unfold requestDisable
  split
  · rename_i h
    exact off_of_disabled h
  · rename_i reads h
    rcases prompt with hd | ⟨-, never⟩
    · exact Or.inr ⟨hd, reads, h⟩
    · exact absurd h (never reads)
  · split
    · exact off_of_disabled r.switchOff_phase
    · rename_i slow
      rcases prompt with hd | ⟨zero, -⟩
      · exact Or.inr ⟨hd, _, rfl⟩
      · exact absurd zero slow

/-- A look at a radio that is off or on the way there finds it so. -/
theorem settle_off (h : r.Off delays) : r.settle.Off delays := by
  unfold settle
  split
  · rename_i reads hp
    split
    · exact off_of_disabled r.switchOff_phase
    · rcases h with h | ⟨hd, -⟩
      · exact absurd (h.symm.trans hp) (by simp)
      · exact Or.inr ⟨hd, _, rfl⟩
  · exact h

/-- Looks at a radio that is off or on the way there find it so. -/
theorem pollDisabledUpTo_off (n : Nat) (h : r.Off delays) :
    (r.pollDisabledUpTo n).1.Off delays := by
  induction n generalizing r with
  | zero => exact h
  | succ n ih =>
    rw [pollDisabledUpTo]
    split
    · rename_i r' hp
      obtain ⟨rfl, -⟩ := Prod.mk.inj hp
      exact settle_off h
    · rename_i r' hp
      obtain ⟨rfl, -⟩ := Prod.mk.inj hp
      exact ih (settle_off h)

/-- The looks say that the radio is off only if it is. -/
theorem phase_of_pollDisabledUpTo (n : Nat) (r : Radio) (h : (r.pollDisabledUpTo n).2 = true) :
    (r.pollDisabledUpTo n).1.phase = .disabled := by
  induction n generalizing r with
  | zero => exact absurd h (by simp [pollDisabledUpTo])
  | succ n ih =>
    rw [pollDisabledUpTo] at h ⊢
    split at h
    · rename_i r' hp
      obtain ⟨rfl, hd⟩ := Prod.mk.inj hp
      simpa using hd
    · exact ih _ h

/-! ## How many looks it takes -/

/-- A radio that is switching off is off if the looks suffice, and otherwise that many looks
closer. -/
theorem pollDisabledUpTo_of_disabling {reads n : Nat} (phase : r.phase = .disabling reads)
    (some' : 0 < reads ∨ 0 < n) :
    r.pollDisabledUpTo n =
      if reads ≤ n then (r.switchOff, true)
      else ({ r with phase := .disabling (reads - n) }, false) := by
  induction n generalizing r reads with
  | zero =>
    have left : ¬reads ≤ 0 := by omega
    rw [if_neg left, Nat.sub_zero, ← phase]
    rfl
  | succ n ih =>
    by_cases last : reads ≤ 1
    · have settled : r.settle = r.switchOff := by simp [settle, phase, last]
      rw [if_pos (by omega)]
      simp [pollDisabledUpTo, pollDisabled, settled, switchOff_phase]
    · have settled : r.settle = { r with phase := .disabling (reads - 1) } := by
        simp [settle, phase, last]
      have next := ih (r := { r with phase := .disabling (reads - 1) }) rfl (by omega)
      have goesOn : r.pollDisabledUpTo (n + 1) = r.settle.pollDisabledUpTo n := by
        simp [pollDisabledUpTo, pollDisabled, settled]
      rw [goesOn, settled, next, show reads - 1 - n = reads - (n + 1) by omega]
      by_cases enough : reads ≤ n + 1
      · rw [if_pos enough, if_pos (by omega)]
        simp [switchOff, phase]
      · rw [if_neg enough, if_neg (by omega)]

/-- A radio that is off is found off at the first look. -/
theorem pollDisabledUpTo_of_disabled {n : Nat} (off : r.phase = .disabled) (some' : 0 < n) :
    r.pollDisabledUpTo n = (r, true) := by
  obtain ⟨n, rfl⟩ := Nat.exists_eq_add_one.mpr some'
  have still : r.settle = r := by simp [settle, off]
  simp [pollDisabledUpTo, pollDisabled, still, off]

/-- Looks at the radio until it is off, once it is told to switch off. -/
def looksLeft (r : Radio) : Nat :=
  match r.phase with
  | .disabled => 0
  | .disabling reads => reads
  | _ => r.air.disableLatency

/-- A radio that does not switch off yet takes as many looks as its latency says. -/
theorem looksLeft_of_fresh (on : r.phase ≠ .disabled)
    (fresh : ∀ reads, r.phase ≠ .disabling reads) : r.looksLeft = r.air.disableLatency := by
  unfold looksLeft
  split
  · exact absurd ‹_› on
  · exact absurd ‹_› (fresh _)
  · rfl

/-- The radio while it is switching off, with so many looks left. A response that was still awaited
when it was told to switch off does not come any more. -/
def switchingOff (reads : Nat) (r : Radio) : Radio :=
  { r with
    phase := .disabling reads
    pending := match r.phase with | .disabling _ => r.pending | _ => none }

/-- **Told to switch off and looked at, a radio that was on is off exactly if the looks suffice.**
-/
theorem pollDisabledUpTo_trigger_disable {n : Nat} (powered : r.powered = true)
    (on : r.phase ≠ .disabled) (some' : 0 < n) :
    (r.trigger .disable).pollDisabledUpTo n =
      if r.looksLeft ≤ n then (r.switchOff, true)
      else (r.switchingOff (r.looksLeft - n), false) := by
  have told : r.trigger .disable = r.requestDisable := by simp [trigger, powered]
  rw [told]
  -- a radio that is switching off already is not told again: it has as many looks left as it had
  by_cases going : ∃ reads, r.phase = .disabling reads
  · obtain ⟨reads, phase⟩ := going
    have same : r.requestDisable = r := by simp [requestDisable, phase]
    rw [same, pollDisabledUpTo_of_disabling phase (.inr some')]
    simp [looksLeft, switchingOff, phase]
  · have fresh : ∀ reads, r.phase ≠ .disabling reads := fun reads phase => going ⟨reads, phase⟩
    have begins : r.requestDisable = if r.air.disableLatency = 0 then r.switchOff
        else { r with pending := none, phase := .disabling r.air.disableLatency } := by
      unfold requestDisable
      split
      · exact absurd ‹_› on
      · exact absurd ‹_› (fresh _)
      · rfl
    have silent : ∀ reads, r.switchingOff reads =
        { r with pending := none, phase := .disabling reads } := by
      intro reads
      unfold switchingOff
      split
      · exact absurd ‹_› (fresh _)
      · rfl
    rw [begins, looksLeft_of_fresh on fresh, silent]
    split
    · rename_i zero
      rw [pollDisabledUpTo_of_disabled r.switchOff_phase some', if_pos (by omega)]
    · rename_i slow
      rw [pollDisabledUpTo_of_disabling
        (r := { r with pending := none, phase := .disabling r.air.disableLatency }) rfl
        (.inr some')]
      simp [switchOff, on]

/-! ## Switching off by force -/

/-- The radio after it was told to switch off and looked at until it is off, or long enough. -/
def forceOff (r : Radio) : Radio := ((r.trigger .disable).pollDisabledUpTo disableMaxPolls).1

/-- The radio is off in time. -/
def offInTime (r : Radio) : Bool := ((r.trigger .disable).pollDisabledUpTo disableMaxPolls).2

/-- Switching off by force settles. -/
theorem forceOff_settles (r : Radio) : r.Settles r.forceOff :=
  r.trigger_disable_settles.trans (pollDisabledUpTo_settles ..)

/-- Switching off by force leaves a radio off, unless that may take time. -/
theorem forceOff_off (powered : r.powered = true) (prompt : r.Prompt delays) :
    r.forceOff.Off delays :=
  pollDisabledUpTo_off _ (trigger_disable_off powered prompt)

/-- A radio that got off in time is off. -/
theorem phase_forceOff (h : r.offInTime = true) : r.forceOff.phase = .disabled :=
  phase_of_pollDisabledUpTo _ _ h

/-- The radio is off in time exactly if the looks that it is given suffice. -/
theorem offInTime_iff (powered : r.powered = true) :
    r.offInTime = true ↔ r.looksLeft ≤ disableMaxPolls := by
  unfold offInTime
  by_cases off : r.phase = .disabled
  · have told : r.trigger .disable = r := by simp [trigger, powered, requestDisable, off]
    rw [told, pollDisabledUpTo_of_disabled off (by decide)]
    simp [looksLeft, off]
  · rw [pollDisabledUpTo_trigger_disable powered off (by decide)]
    split
    · rename_i enough
      simp [enough]
    · rename_i short
      simp [short]

end Radio

/-- Switching off by force changes the radio, and tells the log if that does not work. -/
theorem Station.disableRadio_eq (s : Station) :
    s.disableRadio =
      ({ s with
          radio := s.radio.forceOff
          journal := if s.radio.offInTime then s.journal else .notDisabled :: s.journal },
        s.radio.offInTime) := by
  have same : s.disableRadio =
      (if s.radio.offInTime then { s with radio := s.radio.forceOff }
        else note .notDisabled { s with radio := s.radio.forceOff }, s.radio.offInTime) := rfl
  rw [same]
  split
  · rfl
  · rfl

end BurstLink
