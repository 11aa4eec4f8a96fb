import BurstLink.Proofs.Alone
import BurstLink.Proofs.Custody.Pump
import BurstLink.Proofs.Tandem.Basic

/-! # Rounds in tandem

Two stations that are in tandem, on which the same operation holds the lock, are in tandem after a
look at it and after a round. So an operation that ends on its own on one station ends in the same
way on the other.

Main definitions:

* **`Request.Plain`** — a request that brings along no buffer and no scanner, and needs the lock.
* **`Request.Paired`** — the same request, with paired buffers.
* **`Station.Pointed`** — the radios point at paired buffers, or do not care.

Main statements: `Station.Tandem.start`, `Station.Tandem.poll`, `Station.Tandem.round`, and
`Activity.Alone.transfer`. -/

namespace BurstLink

/-! ## Requests -/

/-- The request brings along no buffer and no scanner, and needs the lock. -/
def Request.Plain : Request → Prop
  | .send _ _ => False
  | .scanPresence _ _ _ => False
  | .testAmplifiers => False
  | _ => True

/-- The same request, with paired buffers. -/
inductive Request.Paired (ρ : List (Buffer × Buffer)) : Request → Request → Prop
  /-- A send of paired packets. -/
  | send {packet packet' ack ack' : Buffer} (sent : (packet, packet') ∈ ρ)
      (answered : (ack, ack') ∈ ρ) : Paired ρ (.send packet ack) (.send packet' ack')
  /-- A request that is the same for both. -/
  | plain {request : Request} (plain : request.Plain) : Paired ρ request request

/-- Plain requests are made under the lock. -/
theorem Request.Plain.needsLock {request : Request} (plain : request.Plain) :
    request.needsLock = true := by
  cases request with
  | testAmplifiers => exact absurd plain id
  | _ => rfl

/-- So are both of a pair of requests. -/
theorem Request.Paired.needsLock {ρ : List (Buffer × Buffer)} {request request' : Request}
    (h : request.Paired ρ request') : request.needsLock = true ∧ request'.needsLock = true := by
  cases h with
  | send => exact ⟨rfl, rfl⟩
  | plain plain => exact ⟨plain.needsLock, plain.needsLock⟩

namespace Station

variable {s t : Station} {ρ : List (Buffer × Buffer)} {kept : Pool Packet} {now now' : Nat}

namespace Tandem

/-! ## Looks in tandem -/

/-- The pairs of buffers that two stations would add next. -/
def nextPairs (s t : Station) : List (Buffer × Buffer) :=
  [(⟨s.buffers.count + 1⟩, ⟨t.buffers.count + 1⟩), (⟨s.buffers.count⟩, ⟨t.buffers.count⟩)]

/-- The pairs that are added next are new to the first station. -/
theorem fresh_nextPairs (s t : Station) : ∀ x ∈ nextPairs s t, s.buffers.count ≤ x.1.index := by
  simp [nextPairs]

/-- Each station gets two new buffers, with the same packets. -/
theorem addPair (h : Tandem ρ kept now now' s t) (first second : Packet) :
    Tandem (nextPairs s t ++ ρ) kept now now'
      { s with buffers := ((s.buffers.add first).1.add second).1 }
      { t with buffers := ((t.buffers.add first).1.add second).1 } :=
  (h.add first).add second

/-- A send of some bytes starts alike, with buffers that are new to both stations. -/
theorem startSendPayload (h : Tandem ρ kept now now' s t) (bytes : List UInt8) :
    InStep (nextPairs s t ++ ρ) kept now now' (s.startSendPayload bytes)
      (t.startSendPayload bytes) := by
  have added := h.addPair (.ofPayload (.truncate bytes)) .empty
  exact congruence.startSend added (by simp [PairIn, nextPairs]) (by simp [PairIn, nextPairs]) true

/-- A channel scan starts alike, with buffers that are new to both stations, unless the link is not
ready. -/
theorem startScan (h : Tandem ρ kept now now' s t) (first last : UInt8) (payload : List UInt8) :
    ∃ new, (∀ x ∈ new, s.buffers.count ≤ x.1.index) ∧
      InStep (new ++ ρ) kept now now' (ofScan (s.startScan first last payload))
        (ofScan (t.startScan first last payload)) := by
  have added := h.addPair (.ofPayload (.truncate payload)) .empty
  unfold Station.startScan
  rw [← (congruence.shares h).ready]
  rcases s.ready with failure | _
  · exact ⟨[], by simp, h, rfl⟩
  · refine ⟨nextPairs s t, fresh_nextPairs s t, Congruence.ofScan ?_⟩
    exact congruence.scanOn added (by simp [PairIn, nextPairs]) (by simp [PairIn, nextPairs]) ..

/-- **The same request starts in the same way on both stations**, with buffers of its own that are
new to both. -/
theorem start (h : Tandem ρ kept now now' s t) {request request' : Request}
    (paired : request.Paired ρ request') :
    ∃ new, (∀ x ∈ new, s.buffers.count ≤ x.1.index) ∧
      InStep (new ++ ρ) kept now now' (s.start request) (t.start request') := by
  have nothing : ∀ x ∈ ([] : List (Buffer × Buffer)), s.buffers.count ≤ x.1.index := by simp
  cases paired with
  | send sent answered => exact ⟨[], nothing, congruence.startSend h sent answered false⟩
  | plain plain =>
    cases request with
    | send packet ack => exact absurd plain id
    | sendPayload bytes => exact ⟨_, fresh_nextPairs s t, h.startSendPayload bytes⟩
    | scanChannels first last bytes => exact h.startScan first last bytes
    | _ => exact ⟨[], nothing, congruence.start h id plain.needsLock⟩

/-- **Looks at the operation that holds the lock agree.** -/
theorem poll (h : Tandem ρ kept now now' s t) {activity activity' : Activity}
    (alike : activity.Alike (PairIn ρ) (AsFar now now') activity') :
    InStep ρ kept now now' (activity.poll s) (activity'.poll t) :=
  congruence.poll h alike

/-! ## The radio -/

/-- Receiving into buffers that belong together. -/
theorem store (h : Tandem ρ kept now now' s t) {b b' : Buffer} (member : (b, b') ∈ ρ)
    (points : s.radio.buffer = some b) (points' : t.radio.buffer = some b')
    (frame : Option Packet) : Tandem ρ kept now now' (s.store frame) (t.store frame) := by
  cases frame with
  | none => exact h
  | some packet =>
    have stored := h.onBuffer member fun _ => packet
    unfold Station.store
    rw [points, points']
    exact stored

end Tandem

/-- The radios point at buffers that belong together, unless the next step is one without a
packet. -/
def Pointed (ρ : List (Buffer × Buffer)) (s t : Station) : Prop :=
  s.radio.Blind ∨ ∃ x ∈ ρ, s.radio.buffer = some x.1 ∧ t.radio.buffer = some x.2

namespace Tandem

/-- **A step of the radios keeps stations in tandem.** -/
theorem serviceRadio (h : Tandem ρ kept now now' s t) (pointed : Pointed ρ s t) :
    Tandem ρ kept now now' s.serviceRadio t.serviceRadio := by
  rcases pointed with blind | ⟨⟨b, b'⟩, member, points, points'⟩
  · have blind' := blind.of_alike h.radio
    rw [serviceRadio_of_service (blind s.loaded), serviceRadio_of_service (blind' t.loaded)]
    exact { h with radio := (h.radio.service none).1 }
  -- the packets that the radios point at are the same, because they are paired
  · have loaded : s.loaded = t.loaded := by
      unfold Station.loaded
      rw [points, points']
      exact congrArg some (h.same _ member)
    obtain ⟨stepped, received⟩ := h.radio.service s.loaded
    have moved : Tandem ρ kept now now'
        { s with radio := (s.radio.service s.loaded).1 }
        { t with radio := (t.radio.service s.loaded).1 } := { h with radio := stepped }
    have left : s.serviceRadio = Station.store (s.radio.service s.loaded).2
        { s with radio := (s.radio.service s.loaded).1 } := rfl
    have right : t.serviceRadio = Station.store (t.radio.service t.loaded).2
        { t with radio := (t.radio.service t.loaded).1 } := rfl
    rw [left, right, ← loaded, ← received]
    refine moved.store member ?_ ?_ _
    · exact (Radio.buffer_service ..).trans points
    · exact (Radio.buffer_service ..).trans points'

/-- **A step of the radios and their interrupts keep stations in tandem.** -/
theorem pump (h : Tandem ρ kept now now' s t) (pointed : Pointed ρ s t) :
    Tandem ρ kept now now' s.pump.1 t.pump.1 ∧ s.pump.2 = t.pump.2 := by
  obtain ⟨stations, same⟩ := congruence.pump (h.serviceRadio pointed)
  exact ⟨stations, same⟩

end Tandem

/-! ## Who holds the lock -/

/-- A radio that is off makes no step with a packet. -/
theorem blind_of_disabled (off : s.radio.phase = .disabled) : s.radio.Blind :=
  .of_service fun packet => Radio.service_disabled off packet

/-- The radios of two stations on which the same operation holds the lock point at its buffers,
unless their next step is one without a packet. -/
theorem Tandem.pointed (h : Tandem ρ kept now now' s t) {activity activity' : Activity}
    (alike : activity.Alike (PairIn ρ) (AsFar now now') activity') (held : s.Held False activity)
    (held' : t.Held False activity') : Pointed ρ s t := by
  cases alike with
  | sending alike purpose =>
    have flying : s.InFlight False _ := held
    have flying' : t.InFlight False _ := held'
    cases flying.stage with
    -- both flights are at the same stage, because the states of their transfers agree
    | onAir air =>
      have sending : t.transfer.state = .txInFlight := by rw [← congruence.state h, air.transfer]
      cases flying'.stage with
      | onAir air' => exact .inr ⟨_, alike.packet, air.buffer, air'.buffer⟩
      | awaiting wait' => simp [wait'.transfer] at sending
      | complete done' => simp [done'.transfer] at sending
    | awaiting wait =>
      have awaiting : t.transfer.state = .awaitingAck := by rw [← congruence.state h, wait.transfer]
      cases flying'.stage with
      | onAir air' => simp [air'.transfer] at awaiting
      | awaiting wait' => exact .inr ⟨_, alike.ack, wait.buffer, wait'.buffer⟩
      | complete done' => simp [done'.transfer] at awaiting
    | complete done => exact .inl (blind_of_disabled done.phase)
  -- a radio that is off or listens for itself does not look at a packet at all
  | switching alike =>
    have torn : s.Torn False := held
    exact .inl (blind_of_disabled torn.off.disabled)
  | measuring alike =>
    have gauging : s.Gauging False := held
    have quiet : s.radio.interruptPending = false := by
      simp [Radio.interruptPending, gauging.gauge.calm.interrupt]
    rcases gauging.phase with rising | receiving
    · have step : ∀ packet, s.radio.service packet = (s.radio.rampUp, none) := by
        intro packet
        simp [Radio.service, quiet, Radio.step, rising]
      exact .inl (.of_service step)
    · have step : ∀ packet, s.radio.service packet = (s.radio.sampleAmbient, none) := by
        intro packet
        simp [Radio.service, quiet, Radio.step, receiving, gauging.gauge.pending]
      exact .inl (.of_service step)
  | listening alike =>
    have vacant : s.Vacant False := held.1
    exact .inl (blind_of_disabled (by rw [vacant.wiped]))

/-- **A round keeps stations in tandem** on which the same operation holds the lock. -/
theorem Tandem.round (h : Tandem ρ kept now now' s t) {activity activity' : Activity}
    (alike : activity.Alike (PairIn ρ) (AsFar now now') activity') (held : s.Held False activity)
    (held' : t.Held False activity') :
    Tandem ρ kept (now + roundTime) (now' + roundTime) s.round.1 t.round.1 ∧
      s.round.2 = t.round.2 := by
  have later : Tandem ρ kept (now + roundTime) (now' + roundTime)
      { s with clock := s.clock + roundTime } { t with clock := t.clock + roundTime } :=
    { h with
      clock := congrArg (· + roundTime) h.clock
      clock' := congrArg (· + roundTime) h.clock' }
  have pointed := h.pointed alike held held'
  exact later.pump pointed

/-- A round that passes without an overflow on the first station does so on the second one. -/
theorem Tandem.passes (h : Tandem ρ kept now now' s t) {activity activity' : Activity}
    (alike : activity.Alike (PairIn ρ) (AsFar now now') activity') (held : s.Held False activity)
    (held' : t.Held False activity') {s₁ : Station} (passed : s.round = (s₁, none)) :
    ∃ t₁, t.round = (t₁, none) ∧ Tandem ρ kept (now + roundTime) (now' + roundTime) s₁ t₁ := by
  obtain ⟨moved, overflow⟩ := h.round alike held held'
  rw [passed] at moved overflow
  exact ⟨t.round.1, Prod.ext rfl overflow.symm, moved⟩

/-- Custody is kept by a round. -/
theorem Custody.round {delays tears : Prop} {holder : Option Activity}
    (h : s.Custody delays tears holder) : s.round.1.Custody delays tears holder :=
  Custody.pump (h.transfer (clock_agree _ s) rfl)

/-- It is kept by a round that passes. -/
theorem Custody.passes {delays tears : Prop} {holder : Option Activity} {s₁ : Station}
    {overflow : Option Overflow} (h : s.Custody delays tears holder)
    (passed : s.round = (s₁, overflow)) : s₁.Custody delays tears holder := by
  have custody := h.round
  rw [passed] at custody
  exact custody

/-- If the first of two looks that agree finds that something goes on, so does the second one. -/
theorem InStep.waiting {found found' : Station × Progress} (h : InStep ρ kept now now' found found')
    {rest : Activity} (found_eq : found = (s, .waiting rest)) :
    ∃ t rest', found' = (t, .waiting rest') ∧ Tandem ρ kept now now' s t ∧
      rest.Alike (PairIn ρ) (AsFar now now') rest' := by
  subst found_eq
  obtain ⟨t, rest' | result⟩ := found'
  · exact ⟨t, rest', rfl, h.stations, h.found⟩
  · exact absurd h.found id

/-- If the first of two looks that agree finds a result, the second one finds it too. -/
theorem InStep.finished {found found' : Station × Progress}
    (h : InStep ρ kept now now' found found') {result : Result}
    (found_eq : found = (s, .finished result)) :
    ∃ t, found' = (t, .finished result) ∧ Tandem ρ kept now now' s t := by
  subst found_eq
  obtain ⟨t, rest' | result'⟩ := found'
  · exact absurd h.found id
  · obtain rfl : result = result' := h.found
    exact ⟨t, rfl, h.stations⟩

end Station

namespace Activity

variable {s t s₁ s' : Station} {ρ : List (Buffer × Buffer)} {kept : Pool Packet} {now now' : Nat}
  {activity activity' rest : Activity} {rounds : Nat} {result : Result} {tears : Prop}

/-- As time goes by, operations remain alike. -/
theorem Alike.later (h : activity.Alike (PairIn ρ) (AsFar now now') activity') (n : Nat) :
    activity.Alike (PairIn ρ) (AsFar (now + n) (now' + n)) activity' := by
  cases h with
  | sending alike purpose =>
    exact .sending { alike with deadline := alike.deadline.later n } purpose
  | switching alike => exact .switching { alike with deadline := alike.deadline.later n }
  | measuring alike => exact .measuring { alike with deadline := alike.deadline.later n }
  | listening alike => exact .listening { alike with deadline := alike.deadline.later n }

/-- A look at the operation that holds the lock finds that it goes on: it still holds the lock. -/
theorem custody_of_waiting (h : Station.Orderly False tears (activity.poll s))
    (looked : activity.poll s = (s₁, .waiting rest)) (holds : rest.holdsLock = true) :
    s₁.Custody False tears (some rest) := by
  have custody := h.custody
  rw [looked] at custody
  simpa [Progress.holder, holds] using custody

/-- A look finds that the operation is over: the lock is free. -/
theorem custody_of_finished (h : Station.Orderly False tears (activity.poll s))
    (looked : activity.poll s = (s₁, .finished result)) : s₁.Custody False tears none := by
  have custody := h.custody
  rw [looked] at custody
  exact custody

/-- **An operation that ends on its own does so in the same way on a second station**, if the next
looks at it agree. -/
theorem Alone.transfer (alone : activity.Alone rounds s result s')
    (looks : Station.InStep ρ kept now now' (activity.poll s) (activity'.poll t))
    (orderly : Station.Orderly False tears (activity.poll s))
    (orderly' : Station.Orderly False tears (activity'.poll t)) :
    ∃ t' later later', activity'.Alone rounds t result t' ∧
      Station.Tandem ρ kept later later' s' t' ∧ s'.Custody False tears none ∧
      t'.Custody False tears none := by
  -- Stated for the next looks, the induction starts from a request as well as from a holder of
  -- the lock; after the first look both stations are held.
  induction alone generalizing t activity' now now' with
  | @ends activity s s' result looked =>
    obtain ⟨t', looked', same⟩ := looks.finished looked
    exact ⟨t', now, now', .ends looked', same, custody_of_finished orderly looked,
      custody_of_finished orderly' looked'⟩
  | @onward rounds activity rest s s₁ s₂ s' result looked passed alone ih =>
    obtain ⟨t₁, rest', looked', same, alike⟩ := looks.waiting looked
    have held := custody_of_waiting orderly looked alike.holdsLock.1
    have held' := custody_of_waiting orderly' looked' alike.holdsLock.2
    obtain ⟨t₂, passed', moved⟩ := same.passes alike held.2 held'.2 passed
    obtain ⟨t', later, later', alone', done⟩ :=
      ih (moved.poll (alike.later roundTime)) (orderly_poll_holding (held.passes passed))
        (orderly_poll_holding (held'.passes passed'))
    exact ⟨t', later, later', .onward looked' passed' alone', done⟩

end Activity

end BurstLink
