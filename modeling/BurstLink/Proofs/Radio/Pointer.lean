import BurstLink.Proofs.Radio.Unread

/-! # Where the radio points

Nothing that the radio does depends on which buffer it points at, only on the packet in it. So two
radios that differ in the pointer alone stay that way through the same changes.

Main definitions:

* **`Radio.Alike`** — two radios that differ at most in the packet they point at.
* **`Radio.Steady`** — a change that does not look at the pointer.
* **`Radio.Blind`** — the next step neither reads nor writes a packet.

Main statements: `Radio.step_setBuffer`, and from it `Radio.Alike.service`. -/

namespace BurstLink

namespace Radio

variable {r r' r'' : Radio} {b : Option Buffer}

/-! ## Radios -/

/-- The radios differ at most in the packet they point at. -/
def Alike (r r' : Radio) : Prop := r.setBuffer none = r'.setBuffer none

/-- A radio is like itself. -/
@[refl] theorem Alike.refl (r : Radio) : r.Alike r := rfl

/-- Likeness of radios does not depend on the order. -/
theorem Alike.symm (h : r.Alike r') : r'.Alike r := Eq.symm h

/-- Radios like a third one are alike. -/
theorem Alike.trans (h : r.Alike r') (h' : r'.Alike r'') : r.Alike r'' := Eq.trans h h'

/-- A radio that points elsewhere is like itself. -/
theorem alike_setBuffer (b : Option Buffer) (r : Radio) : (r.setBuffer b).Alike r := rfl

/-- A radio like another one is that one, pointing elsewhere. -/
theorem Alike.eq_setBuffer (h : r.Alike r') : r' = r.setBuffer r'.buffer := by
  have pointed : (r'.setBuffer none).setBuffer r'.buffer = r' := rfl
  rw [← pointed, ← h]
  rfl

/-- Radios that are alike agree on everything that does not depend on the pointer. -/
theorem Alike.reads {α : Type} (h : r.Alike r') {f : Radio → α}
    (steady : ∀ b r, f (r.setBuffer b) = f r) : f r = f r' := by
  rw [h.eq_setBuffer, steady]

/-- The change does not look at the packet that the radio points at. -/
def Steady (f : Radio → Radio) : Prop := ∀ b r, (f (r.setBuffer b)).Alike (f r)

/-- A change that does not look at the pointer keeps radios alike. -/
theorem Steady.alike {f : Radio → Radio} (steady : Steady f) (h : r.Alike r') :
    (f r).Alike (f r') := by
  rw [h.eq_setBuffer]
  exact (steady _ r).symm

/-- A change that commutes with pointing elsewhere. -/
theorem Steady.of_commutes {f : Radio → Radio} (h : ∀ b r, f (r.setBuffer b) = (f r).setBuffer b) :
    Steady f := by
  intro b r
  rw [h]
  exact alike_setBuffer b _

/-- A detached change does not look at the pointer. -/
theorem Detached.steady {f : Radio → Radio} (h : Detached f) : Steady f := .of_commutes h.setBuffer

/-! ## Steps -/

/-- The end of a frame commutes with pointing elsewhere. -/
theorem endFrame_setBuffer (idle : Phase) (b : Option Buffer) (r : Radio) :
    (r.setBuffer b).endFrame idle = (r.endFrame idle).setBuffer b := by
  unfold endFrame
  rw [apply_ite (setBuffer b)]
  rfl

/-- So does a transmission, given the packet. -/
theorem transmit_setBuffer (packet : Option Packet) (b : Option Buffer) (r : Radio) :
    (r.setBuffer b).transmit packet = (r.transmit packet).setBuffer b := by
  cases packet with
  | none => exact endFrame_setBuffer .txIdle b r
  | some p =>
    unfold transmit
    dsimp only
    rw [← endFrame_setBuffer]
    rfl

/-- So does the reception of a frame. -/
theorem receive_setBuffer (answer : Answer) (b : Option Buffer) (r : Radio) :
    (r.setBuffer b).receive answer = (r.receive answer).setBuffer b := by
  unfold receive
  rw [← endFrame_setBuffer]
  rfl

/-- So does the acknowledgement timeout. -/
theorem ackTimeout_setBuffer (b : Option Buffer) (r : Radio) :
    (r.setBuffer b).ackTimeout = r.ackTimeout.setBuffer b := by
  have fired := detached_switchOff.setBuffer b
    { r with now := r.compare, compareFired := true, crcOk := false }
  unfold ackTimeout
  rw [apply_ite (setBuffer b), ← fired]
  rfl

/-- **A step commutes with pointing elsewhere**, given the same packet, and hands back the same
frame. -/
theorem step_setBuffer (packet : Option Packet) (b : Option Buffer) (r : Radio) :
    (r.setBuffer b).step packet = ((r.step packet).1.setBuffer b, (r.step packet).2) := by
  -- one case for each phase: both radios are in it
  obtain ⟨phase, same⟩ : ∃ phase, r.phase = phase := ⟨_, rfl⟩
  have same' : (r.setBuffer b).phase = phase := same
  unfold step
  rw [same, same']
  cases phase with
  | disabling reads => exact congrArg (·, none) (detached_settle.setBuffer b r)
  | tx => exact congrArg (·, none) (transmit_setBuffer packet b r)
  | rxRampUp => exact congrArg (·, none) (detached_rampUp.setBuffer b r)
  | rxIdle => exact congrArg (·, none) (detached_sampleAmbient.setBuffer b r)
  | rx =>
    obtain ⟨pending, awaited⟩ : ∃ pending, r.pending = pending := ⟨_, rfl⟩
    have awaited' : (r.setBuffer b).pending = pending := awaited
    dsimp only
    rw [awaited, awaited']
    cases pending with
    | none => exact congrArg (·, none) (detached_sampleAmbient.setBuffer b r)
    | some response =>
      obtain ⟨heard, answered⟩ : ∃ heard, response.answer r.air.lastPid = heard := ⟨_, rfl⟩
      have answered' : response.answer (r.setBuffer b).air.lastPid = heard := answered
      dsimp only
      rw [answered, answered']
      cases heard with
      | none =>
        exact congrArg (·, none) (ackTimeout_setBuffer b { r with pending := none, phase := .rx })
      | some answer =>
        exact congrArg (·, some answer.packet)
          (receive_setBuffer answer b { r with pending := none, phase := .rx })
  | _ => rfl

/-- So does a step that waits for a pending interrupt. -/
theorem service_setBuffer (packet : Option Packet) (b : Option Buffer) (r : Radio) :
    (r.setBuffer b).service packet = ((r.service packet).1.setBuffer b, (r.service packet).2) := by
  by_cases waiting : r.interruptPending = true
  · have waiting' : (r.setBuffer b).interruptPending = true := waiting
    rw [service_of_pending waiting, service_of_pending waiting']
  · have waiting' : ¬(r.setBuffer b).interruptPending = true := waiting
    unfold service
    rw [if_neg waiting, if_neg waiting']
    exact step_setBuffer packet b r

/-- A step leaves the pointer alone. -/
theorem buffer_service (packet : Option Packet) (r : Radio) :
    (r.service packet).1.buffer = r.buffer := by
  -- a radio is itself with its own pointer set again
  have stepped := service_setBuffer packet r.buffer r
  have same : r.setBuffer r.buffer = r := rfl
  rw [same] at stepped
  exact congrArg (fun found : Radio × Option Packet => found.1.buffer) stepped

/-- Given the same packet, radios that are alike make the same step. -/
theorem Alike.service (h : r.Alike r') (packet : Option Packet) :
    (r.service packet).1.Alike (r'.service packet).1 ∧
      (r.service packet).2 = (r'.service packet).2 := by
  rw [h.eq_setBuffer, service_setBuffer]
  exact ⟨rfl, rfl⟩

/-! ## Steps without a packet -/

/-- Whatever the packet is, the next step is the same, and nothing is received. -/
def Blind (r : Radio) : Prop := ∀ packet, r.service packet = ((r.service none).1, none)

/-- A radio like one whose next step is without a packet makes such a step, too. -/
theorem Blind.of_alike (h : r.Blind) (alike : r.Alike r') : r'.Blind := by
  intro packet
  rw [alike.eq_setBuffer, service_setBuffer, service_setBuffer, h packet]

/-- A step that is known for every packet. -/
theorem Blind.of_service (h : ∀ packet, r.service packet = (r', none)) : r.Blind := by
  intro packet
  rw [h packet, h none]

end Radio

end BurstLink
