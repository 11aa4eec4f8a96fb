import BurstLink.Proofs.Radio.SwitchOff
import BurstLink.Radio.Step

/-! # What the tasks of the radio do not read

No task looks at what the timer shows or at which packet the radio points, and none changes them.
So a task does to a radio what it does to one that differs in timer and pointer alone.

Main definitions:

* **`Timing`**, **`Radio.retime`** — what the timer shows, and a radio with another timer.
* **`Radio.Detached`** — a change that neither reads nor alters timer and pointer.

Main statements: `Radio.detached_trigger`, `Radio.detached_forceOff` and
`Radio.offInTime_retime_setBuffer`. -/

namespace BurstLink

/-- What the timer shows: its count, and the counts that were compared, latched and armed last. -/
structure Timing where
  now : UInt32
  compare : UInt32
  endCapture : UInt32
  armedDeadline : Option UInt32

namespace Radio

/-- The radio with a timer that shows something else. -/
def retime (τ : Timing) (r : Radio) : Radio :=
  { r with
    now := τ.now
    compare := τ.compare
    endCapture := τ.endCapture
    armedDeadline := τ.armedDeadline }

/-- What the timer of a radio shows. -/
def timing (r : Radio) : Timing := ⟨r.now, r.compare, r.endCapture, r.armedDeadline⟩

/-- A radio is itself with its own timer and pointer set again. -/
theorem retime_setBuffer_self (r : Radio) : (r.retime r.timing).setBuffer r.buffer = r := rfl

/-- The change neither reads nor alters what the timer shows and where the radio points. -/
def Detached (f : Radio → Radio) : Prop :=
  ∀ τ b r, f ((r.retime τ).setBuffer b) = ((f r).retime τ).setBuffer b

variable {f g : Radio → Radio}

namespace Detached

/-- One detached change after another. -/
theorem comp (hg : Detached g) (hf : Detached f) : Detached fun r => g (f r) := by
  intro τ b r
  show g (f ((r.retime τ).setBuffer b)) = _
  rw [hf, hg]

/-- **A detached change leaves timer and pointer as they are.** -/
theorem self (h : Detached f) (r : Radio) : f r = ((f r).retime r.timing).setBuffer r.buffer := by
  have moved := h r.timing r.buffer r
  rwa [r.retime_setBuffer_self] at moved

/-- A detached change of a radio with another timer. -/
theorem retime (h : Detached f) (τ : Timing) (r : Radio) : f (r.retime τ) = (f r).retime τ := by
  have same : (f r).buffer = r.buffer := by
    rw [h.self r]
    rfl
  have points : ((f r).retime τ).setBuffer r.buffer = (f r).retime τ := by
    rw [← same]
    rfl
  exact (h τ r.buffer r).trans points

/-- A detached change of a radio that points elsewhere. -/
theorem setBuffer (h : Detached f) (b : Option Buffer) (r : Radio) :
    f (r.setBuffer b) = (f r).setBuffer b := by
  have shows : ((f r).retime r.timing).setBuffer b = (f r).setBuffer b :=
    (congrArg (Radio.setBuffer b) (h.self r)).symm
  exact (h r.timing b r).trans shows

end Detached

/-! ## Switching off -/

/-- Switching off at once writes the phase and raises an event. -/
theorem detached_switchOff : Detached switchOff := by
  intro τ b r
  unfold switchOff
  rw [show ((r.retime τ).setBuffer b).phase = r.phase from rfl]
  split <;> rfl

/-- A look at a radio that is switching off brings it closer to being off. -/
theorem detached_settle : Detached settle := by
  intro τ b r
  have off := detached_switchOff τ b r
  unfold settle
  rw [show ((r.retime τ).setBuffer b).phase = r.phase from rfl, off]
  split
  · split <;> rfl
  · rfl

/-- The request to switch off, whether it is followed at once or later. -/
theorem detached_requestDisable : Detached requestDisable := by
  intro τ b r
  have off := detached_switchOff τ b r
  unfold requestDisable
  rw [show ((r.retime τ).setBuffer b).phase = r.phase from rfl,
    show ((r.retime τ).setBuffer b).air = r.air from rfl, off]
  split
  · rfl
  · rfl
  · split <;> rfl

/-- Looking for a radio to be off settles it, and finds the same whatever timer and pointer are. The
induction is on the looks. -/
theorem pollDisabledUpTo_retime_setBuffer (n : Nat) (τ : Timing) (b : Option Buffer) (r : Radio) :
    ((r.retime τ).setBuffer b).pollDisabledUpTo n =
      (((r.pollDisabledUpTo n).1.retime τ).setBuffer b, (r.pollDisabledUpTo n).2) := by
  induction n generalizing r with
  | zero => rfl
  | succ n ih =>
    have looked : ((r.retime τ).setBuffer b).pollDisabled =
        ((r.settle.retime τ).setBuffer b, r.pollDisabled.2) := by
      unfold pollDisabled
      rw [detached_settle]
      rfl
    unfold pollDisabledUpTo
    rw [looked, show r.pollDisabled = (r.settle, r.pollDisabled.2) from rfl]
    cases r.pollDisabled.2 with
    | true => rfl
    | false => exact ih r.settle

/-! ## Tasks -/

/-- Ramping the transmitter up, whatever the response will be. -/
theorem detached_enableTx : Detached enableTx := by
  intro τ b r
  unfold enableTx
  rw [show ((r.retime τ).setBuffer b).shorts = r.shorts from rfl,
    show ((r.retime τ).setBuffer b).air = r.air from rfl]
  split
  · dsimp only
    split <;> rfl
  · rfl

/-- **No task reads or alters timer and pointer.** -/
theorem detached_trigger (task : RadioTask) : Detached (trigger task) := by
  intro τ b r
  unfold trigger
  rw [show ((r.retime τ).setBuffer b).powered = r.powered from rfl]
  split
  · cases task with
    | txEnable => exact detached_enableTx τ b r
    | disable => exact detached_requestDisable τ b r
    | start =>
      dsimp only
      rw [show ((r.retime τ).setBuffer b).phase = r.phase from rfl]
      split <;> rfl
    | _ => rfl
  · rfl

/-- Switching off by force does not read or alter timer and pointer. -/
theorem detached_forceOff : Detached forceOff := by
  intro τ b r
  unfold forceOff
  rw [detached_trigger, pollDisabledUpTo_retime_setBuffer]

/-- Whether the radio gets off in time does not depend on timer and pointer. -/
theorem offInTime_retime_setBuffer (τ : Timing) (b : Option Buffer) (r : Radio) :
    ((r.retime τ).setBuffer b).offInTime = r.offInTime := by
  unfold offInTime
  rw [detached_trigger, pollDisabledUpTo_retime_setBuffer]

/-! ## Steps without a frame -/

/-- A sample of the ambient signal. -/
theorem detached_sampleAmbient : Detached sampleAmbient := by
  intro τ b r
  unfold sampleAmbient
  rw [show ((r.retime τ).setBuffer b).rssiRequested = r.rssiRequested from rfl]
  split <;> rfl

/-- The receiver comes up. -/
theorem detached_rampUp : Detached rampUp := by
  intro τ b r
  unfold rampUp
  rw [show ((r.retime τ).setBuffer b).air = r.air from rfl]
  split <;> rfl

end Radio

end BurstLink
