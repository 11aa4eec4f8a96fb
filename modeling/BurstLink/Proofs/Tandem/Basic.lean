import BurstLink.Proofs.Congruence.Operations

/-! # Stations in tandem

Two stations that agree on everything but the clock and the buffers go through the same changes.
Which buffer a radio or a transfer points at is not part of what they agree on: the two stations may
use different buffers for the same packets.

Main definitions:

* **`PairIn`**, **`AsFar`** — buffers of one pair, and deadlines that are as far away.
* **`Station.Alike`** — two stations that agree as described.
* **`Station.Tandem`** — besides, certain buffers of the one hold what certain buffers of the other
  hold, and the rest of the buffers and the clocks are as they were.
* **`Station.InStep`** — stations in tandem after looks at an operation that agree.

Main statements: `Station.Tandem.congruence`, which makes operations keep stations in tandem, and
`Station.Tandem.add`, a new pair of buffers. -/

namespace BurstLink

/-- The buffers are a pair of the list. -/
def PairIn (ρ : List (Buffer × Buffer)) (b b' : Buffer) : Prop := (b, b') ∈ ρ

/-- The first deadline is as far from `now` as the second one is from `now'`. -/
def AsFar (now now' deadline deadline' : Nat) : Prop := deadline + now' = deadline' + now

namespace AsFar

variable {now now' d d' : Nat}

/-- Deadlines that are as far away are due at the same time. -/
theorem due (h : AsFar now now' d d') : d ≤ now ↔ d' ≤ now' := by
  unfold AsFar at h
  omega

/-- Deadlines set now are as far away. -/
theorem after (now now' n : Nat) : AsFar now now' (now + n) (now' + n) := by
  unfold AsFar
  omega

/-- As time goes by, deadlines remain as far away. -/
theorem later (h : AsFar now now' d d') (n : Nat) : AsFar (now + n) (now' + n) d d' := by
  unfold AsFar at h ⊢
  omega

end AsFar

namespace Station

variable {s t s' : Station} {ρ : List (Buffer × Buffer)} {kept : Pool Packet} {now now' : Nat}

/-! ## Stations that agree -/

/-- The stations agree on everything but buffers and clock; their radios and transfers may point at
different buffers. -/
structure Alike (s t : Station) : Prop where
  radio : s.radio.Alike t.radio
  frontEnd : s.frontEnd = t.frontEnd
  link : s.link = t.link
  locked : s.locked = t.locked
  mode : s.mode = t.mode
  transfer : s.transfer.setAck none = t.transfer.setAck none
  completed : s.completed = t.completed
  scanners : s.scanners = t.scanners
  journal : s.journal = t.journal

namespace Alike

/-- A station is like itself. -/
@[refl] theorem refl (s : Station) : s.Alike s := ⟨.refl _, rfl, rfl, rfl, rfl, rfl, rfl, rfl, rfl⟩

/-- Likeness of stations does not depend on the order. -/
theorem symm (h : s.Alike t) : t.Alike s :=
  ⟨h.radio.symm, h.frontEnd.symm, h.link.symm, h.locked.symm, h.mode.symm, h.transfer.symm,
    h.completed.symm, h.scanners.symm, h.journal.symm⟩

/-- Stations like a third one are alike. -/
theorem trans (h : s.Alike t) (h' : t.Alike s') : s.Alike s' :=
  ⟨h.radio.trans h'.radio, h.frontEnd.trans h'.frontEnd, h.link.trans h'.link,
    h.locked.trans h'.locked, h.mode.trans h'.mode, h.transfer.trans h'.transfer,
    h.completed.trans h'.completed, h.scanners.trans h'.scanners, h.journal.trans h'.journal⟩

end Alike

/-- The stations are alike. The buffers of each pair hold the same packet, and no buffer belongs to
two pairs; the other buffers of the first station are those of a pool, as far as they are in it.
The clocks show the given times. -/
structure Tandem (ρ : List (Buffer × Buffer)) (kept : Pool Packet) (now now' : Nat)
    (s t : Station) : Prop extends s.Alike t where
  same : ∀ x ∈ ρ, s.buffers.get x.1 = t.buffers.get x.2
  paired : ∀ x ∈ ρ, ∀ y ∈ ρ, x.1 = y.1 ↔ x.2 = y.2
  known : ∀ x ∈ ρ, x.1.index < s.buffers.count ∧ x.2.index < t.buffers.count
  others : ∀ b : Buffer, b.index < kept.count → (∀ x ∈ ρ, b ≠ x.1) →
    s.buffers.get b = kept.get b
  count : kept.count ≤ s.buffers.count
  clock : s.clock = now
  clock' : t.clock = now'

/-- Stations that are alike are in tandem, without a buffer in common. -/
theorem Alike.tandem (h : s.Alike t) : Tandem [] s.buffers s.clock t.clock s t where
  toAlike := h
  same := fun _ member => absurd member List.not_mem_nil
  paired := fun _ member => absurd member List.not_mem_nil
  known := fun _ member => absurd member List.not_mem_nil
  others := fun _ _ _ => rfl
  count := Nat.le_refl _
  clock := rfl
  clock' := rfl

/-- After looks at an operation the stations are in tandem, and the looks agree. -/
def InStep (ρ : List (Buffer × Buffer)) (kept : Pool Packet) (now now' : Nat)
    (found found' : Station × Progress) : Prop :=
  Concur (Tandem ρ kept now now') (Look.Agree (Activity.Alike (PairIn ρ) (AsFar now now')))
    found found'

namespace Tandem

/-! ## Small changes in tandem -/

/-- Changes of two radios that leave them alike. -/
theorem onRadio (h : Tandem ρ kept now now' s t) {f f' : Radio → Radio}
    (alike : (f s.radio).Alike (f' t.radio)) :
    Tandem ρ kept now now' (s.onRadio f) (t.onRadio f') :=
  { h with radio := alike }

/-- The same change of both front ends. -/
theorem onFrontEnd (h : Tandem ρ kept now now' s t) (f : FrontEnd → FrontEnd) :
    Tandem ρ kept now now' (s.onFrontEnd f) (t.onFrontEnd f) :=
  { h with frontEnd := congrArg (Option.map f) h.frontEnd }

/-- The same change of two buffers that belong together. -/
theorem onBuffer (h : Tandem ρ kept now now' s t) {b b' : Buffer} (member : (b, b') ∈ ρ)
    (f : Packet → Packet) :
    Tandem ρ kept now now' (s.onBuffer b f) (t.onBuffer b' f) := by
  refine { h with same := ?_, others := ?_ }
  · intro x other
    have apart : x.1 = b ↔ x.2 = b' := h.paired x other _ member
    show (s.buffers.set b (f (s.buffers.get b))).get x.1 =
      (t.buffers.set b' (f (t.buffers.get b'))).get x.2
    -- no buffer is in two pairs, so the pair is changed on both sides or on neither
    by_cases own : x.1 = b
    · rw [own, apart.mp own, Pool.get_set_self, Pool.get_set_self, h.same _ member]
    · rw [Pool.get_set_of_ne _ own, Pool.get_set_of_ne _ fun own' => own (apart.mpr own')]
      exact h.same x other
  · intro other old outside
    show (s.buffers.set b (f (s.buffers.get b))).get other = kept.get other
    rw [Pool.get_set_of_ne _ (outside _ member)]
    exact h.others other old outside

/-- **Operations keep stations in tandem**: they read the same on both, buffers of a pair hold the
same packet, and deadlines are due at the same time. -/
theorem congruence :
    Congruence (PairIn ρ) (AsFar now now') (Tandem ρ kept now now') where
  shares {s t} h := by
    have placed : t.transfer = s.transfer.setAck t.transfer.ack := by
      show (t.transfer.setAck none).setAck t.transfer.ack = _
      rw [← h.transfer]
      rfl
    exact ⟨⟨s.radio.timing, t.radio.buffer, h.radio.eq_setBuffer⟩, ⟨_, placed⟩, h.link, h.locked,
      h.mode, h.completed, h.scanners⟩
  after h n := by
    rw [h.clock, h.clock']
    exact .after now now' n
  due h far := by
    rw [h.clock, h.clock']
    exact far.due
  packets h member := h.same _ member
  onBuffer h member f := h.onBuffer member f
  note h notice := { h with journal := congrArg (notice :: ·) h.journal }
  prepare h := h.onFrontEnd _
  setPa h on := h.onFrontEnd _
  setLna h on := h.onFrontEnd _
  setGain h gain := h.onFrontEnd _
  onLink h f := { h with link := congrArg f h.link }
  setMode h mode := { h with mode := rfl }
  setLocked h locked := { h with locked := rfl }
  setCompleted h done := { h with completed := rfl }
  setScanners h scanners := { h with scanners := rfl }
  onTransfer {s t f} h unread := by
    -- where the acknowledgement goes is the one thing in which the transfers may differ
    have left := unread none s.transfer
    have right := unread none t.transfer
    exact { h with transfer := (left.symm.trans (congrArg (fun transfer =>
      (f transfer).setAck none) h.transfer)).trans right }
  setAck h member := { h with transfer := h.transfer }
  onRadio h oblivious := h.onRadio (oblivious.steady.alike h.radio)
  setBuffer h member := h.onRadio h.radio
  aimAtAck h := h.onRadio h.radio

/-- Each station gets a new buffer with the same packet. -/
theorem add (h : Tandem ρ kept now now' s t) (packet : Packet) :
    Tandem ((⟨s.buffers.count⟩, ⟨t.buffers.count⟩) :: ρ) kept now now'
      { s with buffers := (s.buffers.add packet).1 }
      { t with buffers := (t.buffers.add packet).1 } := by
  -- buffers are handed out in order, so the new ones belong to no pair yet
  have older : ∀ x ∈ ρ, x.1 ≠ (⟨s.buffers.count⟩ : Buffer) ∧ x.2 ≠ (⟨t.buffers.count⟩ : Buffer) :=
    fun x member => ⟨(Pool.add_fresh _ packet (h.known x member).1).symm,
      (Pool.add_fresh _ packet (h.known x member).2).symm⟩
  refine { h with same := ?_, paired := ?_, known := ?_, others := ?_, count := ?_ }
  · intro x member
    rcases List.mem_cons.mp member with rfl | old
    · exact (Pool.get_add_self _ packet).trans (Pool.get_add_self _ packet).symm
    · rw [Pool.get_add_of_ne _ (older x old).1, Pool.get_add_of_ne _ (older x old).2]
      exact h.same x old
  · intro x xin y yin
    rcases List.mem_cons.mp xin with rfl | xold
    · rcases List.mem_cons.mp yin with rfl | yold
      · simp
      · exact ⟨fun same => absurd same.symm (older y yold).1,
          fun same => absurd same.symm (older y yold).2⟩
    · rcases List.mem_cons.mp yin with rfl | yold
      · exact ⟨fun same => absurd same (older x xold).1, fun same => absurd same (older x xold).2⟩
      · exact h.paired x xold y yold
  · intro x member
    rcases List.mem_cons.mp member with rfl | old
    · exact ⟨Nat.lt_succ_self _, Nat.lt_succ_self _⟩
    · exact ⟨Nat.lt_succ_of_lt (h.known x old).1, Nat.lt_succ_of_lt (h.known x old).2⟩
  · intro b old outside
    rw [Pool.get_add_of_ne _ (outside _ (List.mem_cons_self ..))]
    exact h.others b old fun x member => outside x (List.mem_cons_of_mem _ member)
  · exact Nat.le_succ_of_le h.count

end Tandem

end Station

end BurstLink
