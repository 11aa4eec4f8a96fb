import BurstLink.Operation
import BurstLink.Proofs.Radio.Pointer
import BurstLink.Proofs.Radio.Timer

/-! # Congruences of stations

Operations are made of a few small changes, and read few things of a station. A relation that the
small changes keep, between stations on which the same is read, is a congruence: every operation
keeps it, and finds related things on both stations. What a congruence asks for is all that is to be
shown of a relation; that operations keep it follows for every congruence at once.

Two stations may use different buffers and different clocks. So a congruence says, besides, which
buffers and which deadlines belong together.

Main definitions:

* **`Look.Agree`** — two looks find the same result, or related things left to be done.
* **`Activity.Alike`** — the same operation, with buffers and deadlines that belong together.
* **`Station.Concur`** — two looks leave related stations and find related things.
* **`Station.Shares`** — two stations on which operations read the same.
* **`Radio.Oblivious`** — a change that reads neither the timer nor the pointer.
* **`Station.Congruence`** — the relation is kept by the small changes.

Main statements: `Station.Shares.reads`, and `Station.Congruence.disableRadio`. -/

namespace BurstLink

/-! ## Looks that agree -/

section Look

variable {ω ω' α α' : Type} {goesOn : ω → ω → Prop} {goesOn' : ω' → ω' → Prop}

/-- Both looks find that it goes on, with related things left to be done, or both find the same
result. -/
def Look.Agree (goesOn : ω → ω → Prop) : Look ω α → Look ω α → Prop
  | .waiting rest, .waiting rest' => goesOn rest rest'
  | .finished result, .finished result' => result = result'
  | _, _ => False

/-- Looks that agree do so under other names. -/
theorem Look.Agree.map {look look' : Look ω α} (h : look.Agree goesOn look') {f : ω → ω'}
    (g : α → α') (named : ∀ rest rest', goesOn rest rest' → goesOn' (f rest) (f rest')) :
    (look.map f g).Agree goesOn' (look'.map f g) := by
  rcases look with rest | result <;> rcases look' with rest' | result'
  · exact named rest rest' h
  · exact absurd h id
  · exact absurd h id
  · exact congrArg g h

/-- Looks that agree do so in a weaker sense. -/
theorem Look.Agree.imp {also : ω → ω → Prop} {look look' : Look ω α} (h : look.Agree goesOn look')
    (weaker : ∀ rest rest', goesOn rest rest' → also rest rest') : look.Agree also look' := by
  rcases look with rest | result <;> rcases look' with rest' | result'
  · exact weaker rest rest' h
  · exact absurd h id
  · exact absurd h id
  · exact h

/-- Looks that find the same things left to be done are the same. -/
theorem Look.Agree.eq {look look' : Look ω α} (h : look.Agree Eq look') : look = look' := by
  rcases look with rest | result <;> rcases look' with rest' | result'
  · exact congrArg Look.waiting h
  · exact absurd h id
  · exact absurd h id
  · exact congrArg Look.finished h

end Look

/-! ## What goes on -/

/-- The same switch, with deadlines that belong together. -/
structure Teardown.Alike (far : Nat → Nat → Prop) (t t' : Teardown) : Prop where
  target : t.target = t'.target
  deadline : far t.deadline t'.deadline

/-- The same measurement, with deadlines that belong together. -/
structure Measurement.Alike (far : Nat → Nat → Prop) (m m' : Measurement) : Prop where
  channel : m.channel = m'.channel
  awaited : m.awaited = m'.awaited
  looks : m.looks = m'.looks
  deadline : far m.deadline m'.deadline

/-- The same presence scan, with deadlines that belong together. -/
structure Listening.Alike (far : Nat → Nat → Prop) (l l' : Listening) : Prop where
  scanner : l.scanner = l'.scanner
  channel : l.channel = l'.channel
  window : l.window = l'.window
  found : l.found = l'.found
  deadline : far l.deadline l'.deadline

/-- The same send, with buffers and deadlines that belong together. -/
structure Flight.Alike (pair : Buffer → Buffer → Prop) (far : Nat → Nat → Prop) (f f' : Flight) :
    Prop where
  packet : pair f.packet f'.packet
  ack : pair f.ack f'.ack
  pid : f.pid = f'.pid
  config : f.config = f'.config
  retries : f.retries = f'.retries
  deadline : far f.deadline f'.deadline

/-- What is left of two channel scans is the same send and the same scan. -/
structure ChannelScan.Alike (pair : Buffer → Buffer → Prop) (far : Nat → Nat → Prop)
    (rest rest' : Flight × ChannelScan) : Prop where
  flight : rest.1.Alike pair far rest'.1
  scan : rest.2 = rest'.2

/-- The starts of two sends turn out the same way. -/
inductive Launch.Agree (pair : Buffer → Buffer → Prop) (far : Nat → Nat → Prop) :
    Launch → Launch → Prop
  /-- Both are refused, for the same reason. -/
  | refused (failure : Failure) : Agree pair far (.refused failure) (.refused failure)
  /-- Both packets get lost. -/
  | lost : Agree pair far .lost .lost
  /-- Both are in progress. -/
  | flying {f f' : Flight} (alike : f.Alike pair far f') : Agree pair far (.flying f) (.flying f')

/-- The same operation that holds the lock, with buffers and deadlines that belong together. -/
inductive Activity.Alike (pair : Buffer → Buffer → Prop) (far : Nat → Nat → Prop) :
    Activity → Activity → Prop
  /-- The same send for the same purpose. -/
  | sending {f f' : Flight} (alike : f.Alike pair far f') (purpose : Purpose) :
      Alike pair far (.sending f purpose) (.sending f' purpose)
  /-- The same switch. -/
  | switching {t t' : Teardown} (alike : t.Alike far t') :
      Alike pair far (.switching t) (.switching t')
  /-- The same measurement. -/
  | measuring {m m' : Measurement} (alike : m.Alike far m') :
      Alike pair far (.measuring m) (.measuring m')
  /-- The same presence scan. -/
  | listening {l l' : Listening} (alike : l.Alike far l') :
      Alike pair far (.listening l) (.listening l')

section Alike

variable {pair : Buffer → Buffer → Prop} {far : Nat → Nat → Prop} {activity activity' : Activity}

/-- Operations that are alike hold the lock. -/
theorem Activity.Alike.holdsLock (h : activity.Alike pair far activity') :
    activity.holdsLock = true ∧ activity'.holdsLock = true := by
  cases h <;> exact ⟨rfl, rfl⟩

/-- Either both of two operations that are alike hold the lock, or neither does. -/
theorem Activity.Alike.same_lock (h : activity.Alike pair far activity') :
    activity.holdsLock = activity'.holdsLock :=
  h.holdsLock.1.trans h.holdsLock.2.symm

/-- An operation that holds the lock is like itself, if its buffers and deadlines are. -/
theorem Activity.Alike.refl (pairs : ∀ b, pair b b) (fars : ∀ n, far n n)
    (holds : activity.holdsLock = true) : activity.Alike pair far activity := by
  cases activity with
  | queued request => cases holds
  | testing test => cases holds
  | sending f purpose => exact .sending ⟨pairs _, pairs _, rfl, rfl, rfl, fars _⟩ purpose
  | switching t => exact .switching ⟨rfl, fars _⟩
  | measuring m => exact .measuring ⟨rfl, rfl, rfl, fars _⟩
  | listening l => exact .listening ⟨rfl, rfl, rfl, rfl, fars _⟩

/-- Operations with the same buffers and deadlines that are alike are the same. -/
theorem Activity.Alike.eq (h : activity.Alike Eq Eq activity') : activity = activity' := by
  cases h with
  | @sending f f' alike purpose =>
    cases f
    cases f'
    obtain ⟨packet, ack, pid, config, retries, deadline⟩ := alike
    simp_all
  | @switching t t' alike =>
    cases t
    cases t'
    obtain ⟨target, deadline⟩ := alike
    simp_all
  | @measuring m m' alike =>
    cases m
    cases m'
    obtain ⟨channel, awaited, looks, deadline⟩ := alike
    simp_all
  | @listening l l' alike =>
    cases l
    cases l'
    obtain ⟨scanner, channel, window, found, deadline⟩ := alike
    simp_all

end Alike

/-! ## What operations read -/

/-- A transfer with another place for the acknowledgement. -/
def Transfer.setAck (ack : Option Buffer) (t : Transfer) : Transfer := { t with ack := ack }

namespace Station

/-- Two looks leave related stations and find related things. -/
structure Concur {α : Type} (R : Station → Station → Prop) (L : α → α → Prop)
    (found found' : Station × α) : Prop where
  stations : R found.1 found'.1
  found : L found.2 found'.2

/-- The stations agree on everything that operations and the interrupt handler read, but for the
clock, the packets, and the front end. What the timer of the radio shows, and which buffers radio
and transfer point at, is not read. -/
structure Shares (s t : Station) : Prop where
  radio : ∃ τ b, t.radio = (s.radio.retime τ).setBuffer b
  transfer : ∃ ack, t.transfer = s.transfer.setAck ack
  link : s.link = t.link
  locked : s.locked = t.locked
  mode : s.mode = t.mode
  completed : s.completed = t.completed
  scanners : s.scanners = t.scanners

namespace Shares

variable {s t : Station} {α : Type}

/-- **Whatever depends neither on the timer nor on the pointer of a radio is the same for both.** -/
theorem reads (h : s.Shares t) {f : Radio → α}
    (unread : ∀ τ b r, f ((r.retime τ).setBuffer b) = f r) : f s.radio = f t.radio := by
  obtain ⟨τ, b, same⟩ := h.radio
  rw [same, unread]

/-- Whatever of a transfer does not depend on the place of the acknowledgement is the same. -/
theorem transfers (h : s.Shares t) {f : Transfer → α}
    (unread : ∀ ack transfer, f (transfer.setAck ack) = f transfer) :
    f s.transfer = f t.transfer := by
  obtain ⟨ack, same⟩ := h.transfer
  rw [same, unread]

/-- The link is ready on both stations, or on neither. -/
theorem ready (h : s.Shares t) : s.ready = t.ready := by
  unfold Station.ready
  rw [h.link]

end Shares

end Station

/-! ## Changes that do not read -/

/-- The change reads neither what the timer shows nor where the radio points. -/
structure Radio.Oblivious (f : Radio → Radio) : Prop where
  timeless : Timeless f
  steady : Steady f

namespace Radio

variable {f g : Radio → Radio}

/-- One change after another. -/
theorem Oblivious.comp (hg : Oblivious g) (hf : Oblivious f) : Oblivious fun r => g (f r) :=
  ⟨hg.timeless.comp hf.timeless, fun b r => hg.steady.alike (hf.steady b r)⟩

/-- A detached change reads neither. -/
theorem Detached.oblivious (h : Detached f) : Oblivious f := ⟨h.timeless, h.steady⟩

/-- Power takes timer and pointer away at most. -/
theorem oblivious_setPower (on : Bool) : Oblivious (setPower on) := by
  refine ⟨timeless_setPower on, fun b r => ?_⟩
  cases on <;> rfl

/-- The timer starts from zero. -/
theorem oblivious_startTimer : Oblivious startTimer :=
  ⟨fun τ _ => ⟨⟨0, τ.compare, τ.endCapture, τ.armedDeadline⟩, rfl⟩, fun _ _ => rfl⟩

end Radio

/-! ## Congruences -/

/-- Two ways to go on, depending on what decides alike on both sides, lead to related things if both
ways do. -/
theorem rel_ite {α : Type} {R : α → α → Prop} {p q : Prop} [Decidable p] [Decidable q]
    (same : p ↔ q) {x x' y y' : α} (h : R x x') (h' : R y y') :
    R (if p then x else y) (if q then x' else y') := by
  by_cases holds : p
  · rw [if_pos holds, if_pos (same.mp holds)]
    exact h
  · rw [if_neg holds, if_neg fun other => holds (same.mpr other)]
    exact h'

namespace Station

/-- Two changes of the radio are one. -/
theorem onRadio_onRadio (f g : Radio → Radio) (s : Station) :
    (s.onRadio f).onRadio g = s.onRadio fun r => g (f r) := rfl

/-- Two changes of the transfer are one. -/
theorem onTransfer_onTransfer (f g : Transfer → Transfer) (s : Station) :
    (s.onTransfer f).onTransfer g = s.onTransfer fun transfer => g (f transfer) := rfl

/-- The relation holds between stations on which the same is read, and the small changes that
operations are made of keep it. -/
structure Congruence (pair : Buffer → Buffer → Prop) (far : Nat → Nat → Prop)
    (R : Station → Station → Prop) : Prop where
  shares : ∀ {s t}, R s t → s.Shares t
  /-- Deadlines that are set at the same time belong together. -/
  after : ∀ {s t}, R s t → ∀ n, far (s.clock + n) (t.clock + n)
  /-- Deadlines that belong together are due at the same time. -/
  due : ∀ {s t d d'}, R s t → far d d' → (d ≤ s.clock ↔ d' ≤ t.clock)
  /-- Buffers that belong together hold the same packet. -/
  packets : ∀ {s t b b'}, R s t → pair b b' → s.buffers.get b = t.buffers.get b'
  onBuffer : ∀ {s t b b'}, R s t → pair b b' → ∀ f, R (s.onBuffer b f) (t.onBuffer b' f)
  note : ∀ {s t}, R s t → ∀ notice, R (s.note notice) (t.note notice)
  prepare : ∀ {s t}, R s t → R (s.onFrontEnd FrontEnd.prepare) (t.onFrontEnd FrontEnd.prepare)
  setPa : ∀ {s t}, R s t → ∀ on, R (s.setPa on) (t.setPa on)
  setLna : ∀ {s t}, R s t → ∀ on, R (s.setLna on) (t.setLna on)
  setGain : ∀ {s t}, R s t → ∀ gain,
    R (s.onFrontEnd (FrontEnd.setGain gain)) (t.onFrontEnd (FrontEnd.setGain gain))
  onLink : ∀ {s t}, R s t → ∀ f, R (s.onLink f) (t.onLink f)
  setMode : ∀ {s t}, R s t → ∀ mode, R { s with mode := mode } { t with mode := mode }
  setLocked : ∀ {s t}, R s t → ∀ locked, R (s.setLocked locked) (t.setLocked locked)
  setCompleted : ∀ {s t}, R s t → ∀ done, R (s.setCompleted done) (t.setCompleted done)
  setScanners : ∀ {s t}, R s t → ∀ scanners,
    R { s with scanners := scanners } { t with scanners := scanners }
  /-- A change of the transfer that does not read where the acknowledgement goes. -/
  onTransfer : ∀ {s t} {f : Transfer → Transfer}, R s t →
    (∀ ack transfer, (f (transfer.setAck ack)).setAck none = (f transfer).setAck none) →
      R (s.onTransfer f) (t.onTransfer f)
  setAck : ∀ {s t b b'}, R s t → pair b b' →
    R (s.onTransfer (Transfer.setAck (some b))) (t.onTransfer (Transfer.setAck (some b')))
  onRadio : ∀ {s t f}, R s t → Radio.Oblivious f → R (s.onRadio f) (t.onRadio f)
  setBuffer : ∀ {s t b b'}, R s t → pair b b' →
    R (s.onRadio (Radio.setBuffer (some b))) (t.onRadio (Radio.setBuffer (some b')))
  /-- The radio may point at where the acknowledgement goes. -/
  aimAtAck : ∀ {s t}, R s t → R (s.onRadio (Radio.setBuffer s.transfer.ack))
    (t.onRadio (Radio.setBuffer t.transfer.ack))

namespace Congruence

variable {pair : Buffer → Buffer → Prop} {far : Nat → Nat → Prop} {R : Station → Station → Prop}
  (c : Congruence pair far R) {s t : Station}
include c

/-- A write to registers, which neither reads nor alters timer and pointer. -/
theorem write (h : R s t) {f : Radio → Radio} (detached : Radio.Detached f) :
    R (s.onRadio f) (t.onRadio f) :=
  c.onRadio h detached.oblivious

/-- A task of the radio. -/
theorem trigger (h : R s t) (task : RadioTask) :
    R (s.onRadio (Radio.trigger task)) (t.onRadio (Radio.trigger task)) :=
  c.write h (Radio.detached_trigger task)

/-- Power comes or goes. -/
theorem setPower (h : R s t) (on : Bool) :
    R (s.onRadio (Radio.setPower on)) (t.onRadio (Radio.setPower on)) :=
  c.onRadio h (Radio.oblivious_setPower on)

/-- The transfer is forgotten. -/
theorem resetTransfer (h : R s t) : R s.resetTransfer t.resetTransfer :=
  c.setCompleted (c.onTransfer h fun _ _ => rfl) false

/-- A change of a scanner. -/
theorem onScanner (h : R s t) (scanner : Handle Scanner) (f : Scanner → Scanner) :
    R (s.onScanner scanner f) (t.onScanner scanner f) := by
  unfold Station.onScanner
  rw [← (c.shares h).scanners]
  exact c.setScanners h _

/-- **Switching off by force** gets as far on both stations. -/
theorem disableRadio (h : R s t) : Concur R Eq s.disableRadio t.disableRadio := by
  have inTime := (c.shares h).reads Radio.offInTime_retime_setBuffer
  have off := c.write h Radio.detached_forceOff
  have told : R (if s.radio.offInTime = true then s.onRadio Radio.forceOff
        else (s.onRadio Radio.forceOff).note .notDisabled)
      (if t.radio.offInTime = true then t.onRadio Radio.forceOff
        else (t.onRadio Radio.forceOff).note .notDisabled) :=
    rel_ite (by rw [inTime]) off (c.note off .notDisabled)
  exact ⟨told, inTime⟩

end Congruence

end Station

end BurstLink
