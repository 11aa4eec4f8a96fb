import BurstLink.Proofs.Handshake
import BurstLink.Proofs.Retry.Attempt

/-! # The course of a send

However the steps of the radio, its interrupts and the looks at a send are spread in time, the send
takes the same course: while the exchange is not complete the radio makes a step or its interrupt is
handled, whichever is next, and once it is complete the next look ends the send or starts the next
exchange. Neither depends on the clock.

Main definitions:

* **`Station.redate`**, **`Station.Level`** — the same station at another time; where the radio
  points may differ if other operations have ended meanwhile, and does not matter while a complete
  exchange waits for the send.
* **`Station.tick`** — the next event: a step of the radio, or a run of the interrupt handler.
* **`Station.Concludes`** — the course of a send, up to its result.
* **`Station.MovesOn`** — one point of a course is behind another one.

Main statements: a send has one course (`Station.Concludes.unique`), it is the same at any time
(`Station.Concludes.level`), and radio, interrupts and looks only move on along it. -/

namespace BurstLink

/-- The flight with another deadline. -/
def Flight.postpone (deadline : Nat) (f : Flight) : Flight := { f with deadline := deadline }

namespace Station

variable {delays strays : Prop} {s t u : Station} {f g : Flight}

/-! ## The same station at another time -/

/-- The station with another clock and another lock. -/
def redate (clock : Nat) (locked : Bool) (s : Station) : Station :=
  { s with clock := clock, locked := locked }

/-- The stations differ at most in clock and lock, and in the packet that the radio points at if
something `strays` between the looks at the send. -/
def Even (strays : Prop) (s t : Station) : Prop :=
  ∃ clock locked pointer, t = (s.redate clock locked).onRadio (Radio.setBuffer pointer) ∧
    (pointer = s.radio.buffer ∨ strays)

/-- The stations differ at most in clock and lock, and in the packet that the radio points at if
something `strays` and the sign of completion is up. -/
structure Level (strays : Prop) (s t : Station) : Prop where
  even : Even strays s t
  pointer : s.completed = false → t.radio.buffer = s.radio.buffer

/-- A station is even with itself. -/
@[refl] theorem Even.refl (s : Station) : Even strays s s := ⟨_, _, _, rfl, .inl rfl⟩

/-- It does not matter which of two even stations is the first one. -/
theorem Even.symm (h : Even strays s t) : Even strays t s := by
  obtain ⟨clock, locked, pointer, rfl, same⟩ := h
  exact ⟨s.clock, s.locked, s.radio.buffer, rfl, same.imp_left Eq.symm⟩

/-- Stations that are even with a third one are even. -/
theorem Even.trans (h : Even strays s t) (h' : Even strays t u) : Even strays s u := by
  obtain ⟨clock, locked, pointer, rfl, same⟩ := h
  obtain ⟨clock', locked', pointer', rfl, same'⟩ := h'
  refine ⟨clock', locked', pointer', rfl, ?_⟩
  exact same'.elim (fun kept => same.imp_left kept.trans) .inr

/-- The more that strays, the less is the same. -/
theorem Even.mono {strays' : Prop} (h : Even strays s t) (more : strays → strays') :
    Even strays' s t := by
  obtain ⟨clock, locked, pointer, rfl, same⟩ := h
  exact ⟨clock, locked, pointer, rfl, same.imp_right more⟩

namespace Level

/-- A station is level with itself. -/
@[refl] theorem refl (s : Station) : Level strays s s := ⟨.refl s, fun _ => rfl⟩

/-- It does not matter which of two level stations is the first one. -/
theorem symm (h : Level strays s t) : Level strays t s where
  even := h.even.symm
  pointer := by
    obtain ⟨clock, locked, pointer, same, -⟩ := h.even
    intro down
    refine (h.pointer ?_).symm
    rw [same] at down
    exact down

/-- The sign of completion is up on both stations or on neither. -/
theorem completed (h : Level strays s t) : t.completed = s.completed := by
  obtain ⟨clock, locked, pointer, rfl, -⟩ := h.even
  rfl

/-- It does not matter when the second station is looked at, nor who holds its lock. -/
theorem redated (h : Level strays s t) (clock : Nat) (locked : Bool) :
    Level strays s (t.redate clock locked) where
  even := h.even.trans ⟨clock, locked, _, rfl, .inl rfl⟩
  pointer := h.pointer

/-- While the sign of completion is up, what strays may point the second radio elsewhere. -/
theorem pointed (h : Level strays s t) (done : s.completed = true) (may : strays)
    (pointer : Option Buffer) : Level strays s (t.onRadio (Radio.setBuffer pointer)) where
  even := h.even.trans ⟨_, _, pointer, rfl, .inr may⟩
  pointer := fun down => absurd (done.symm.trans down) (by simp)

end Level

/-! ## Steps and interrupts -/

/-- The next event: the interrupt handler runs if the interrupt is pending, and otherwise the radio
makes a step. -/
def tick (s : Station) : Station :=
  if s.radio.interruptPending then s.handleInterrupt else s.serviceRadio

/-- A step of the radio is the next event, or the interrupt is pending and it changes nothing. -/
theorem serviceRadio_eq_tick (s : Station) :
    s.serviceRadio = s ∨ s.serviceRadio = s.tick := by
  unfold tick
  split
  · rename_i waiting
    exact .inl (serviceRadio_of_pending waiting)
  · exact .inr rfl

/-- A step of the radio with its interrupt is at most two events. -/
theorem pump_eq_ticks (s : Station) :
    s.pump.1 = s ∨ s.pump.1 = s.tick ∨ s.pump.1 = s.tick.tick ∧ s.tick = s.serviceRadio := by
  have handled : s.pump.1 = s.serviceRadio ∨ s.serviceRadio.radio.interruptPending = true ∧
      s.pump.1 = s.serviceRadio.handleInterrupt := by
    unfold pump
    dsimp only
    split
    · exact .inl rfl
    · split
      · exact .inr ⟨‹_›, rfl⟩
      · exact .inl rfl
  by_cases waiting : s.radio.interruptPending = true
  · -- the radio waits, so only the handler runs
    rw [serviceRadio_of_pending waiting] at handled
    rcases handled with same | ⟨-, ran⟩
    · exact .inl same
    · exact .inr (.inl (by rw [ran, tick, if_pos waiting]))
  · have stepped : s.tick = s.serviceRadio := if_neg waiting
    rcases handled with same | ⟨pending, ran⟩
    · exact .inr (.inl (same.trans stepped.symm))
    · exact .inr (.inr ⟨by rw [ran, stepped, tick, if_pos pending], stepped⟩)

/-- A step of the radio reads neither clock nor lock. -/
theorem serviceRadio_redate (clock : Nat) (locked : Bool) (s : Station) :
    (s.redate clock locked).serviceRadio =
      s.serviceRadio.redate clock locked := by
  have loaded : (s.redate clock locked).loaded = s.loaded := rfl
  have radio : (s.redate clock locked).radio = s.radio := rfl
  unfold serviceRadio
  rw [loaded, radio]
  rcases s.radio.service s.loaded with ⟨radio, _ | frame⟩
  · rfl
  · unfold store
    dsimp only
    split <;> rfl

/-- Nor does the interrupt handler. -/
theorem handleInterrupt_redate (clock : Nat) (locked : Bool)
    (s : Station) : (s.redate clock locked).handleInterrupt =
      s.handleInterrupt.redate clock locked := by
  cases state : s.transfer.state with
  | txInFlight =>
    rw [handleInterrupt_txInFlight (s := s.redate clock locked) state,
      handleInterrupt_txInFlight state,
      show (s.redate clock locked).transfer = s.transfer from rfl]
    split <;> rfl
  | awaitingAck =>
    rw [handleInterrupt_awaitingAck (s := s.redate clock locked) state,
      handleInterrupt_awaitingAck state]
    rfl
  | idle =>
    have state' : (s.redate clock locked).transfer.state = .idle := state
    unfold handleInterrupt
    rw [state, state']
    rfl

/-- **The next event is the same at any time**, as long as the exchange is not complete. -/
theorem Level.tick (h : Level strays s t) (pending : s.completed = false) :
    Level strays s.tick t.tick := by
  have points := h.pointer pending
  obtain ⟨clock, locked, pointer, rfl, -⟩ := h.even
  obtain rfl : pointer = s.radio.buffer := points
  have moved : (s.redate clock locked).tick = s.tick.redate clock locked := by
    unfold Station.tick
    rw [handleInterrupt_redate, serviceRadio_redate,
      show (s.redate clock locked).radio = s.radio from rfl]
    split <;> rfl
  show Level strays s.tick (s.redate clock locked).tick
  rw [moved]
  exact (Level.refl s.tick).redated clock locked

/-! ## Looks at a complete exchange -/

/-- Taking notice of a completed exchange keeps stations even. -/
theorem Even.finishExchange (h : Even strays s t) :
    Even strays s.finishExchange t.finishExchange := by
  obtain ⟨clock, locked, pointer, rfl, same⟩ := h
  exact ⟨clock, locked, pointer, rfl, same⟩

/-- Even stations accept the same acknowledgement: neither clock nor lock nor pointer decide. -/
theorem Even.accepts (h : Even strays s t) (deadline : Nat) (f : Flight) :
    t.accepts (f.postpone deadline) = s.accepts f := by
  obtain ⟨clock, locked, pointer, rfl, -⟩ := h
  rfl

/-- What a send answers does not depend on the time. -/
theorem Even.land (h : Even strays s t) (deadline : Nat) (f : Flight) (acked : Bool) :
    Even strays (s.land f acked).1 (t.land (f.postpone deadline) acked).1 ∧
      (s.land f acked).2 = (t.land (f.postpone deadline) acked).2 := by
  obtain ⟨clock, locked, pointer, rfl, same⟩ := h
  have drawn : ∀ percent,
      ((s.redate clock locked).onRadio (Radio.setBuffer pointer)).drawLoss percent =
        ((s.drawLoss percent).1, ((s.drawLoss percent).2.redate clock locked).onRadio
          (Radio.setBuffer pointer)) := fun _ => rfl
  have link : ((s.redate clock locked).onRadio (Radio.setBuffer pointer)).link = s.link :=
    rfl
  have config : (f.postpone deadline).config = f.config := rfl
  unfold Station.land
  rw [drawn, link, config]
  dsimp only
  split
  · have kept : (s.drawLoss s.link.config.ackLossPercent).2.radio = s.radio := rfl
    rcases drawn : s.drawLoss s.link.config.ackLossPercent with ⟨lost, u⟩
    rw [drawn] at kept
    have same' : pointer = u.radio.buffer ∨ strays := by
      rw [show u.radio = s.radio from kept]
      exact same
    cases lost with
    | false => exact ⟨⟨clock, locked, pointer, rfl, same'⟩, rfl⟩
    | true => exact ⟨⟨clock, locked, pointer, rfl, same'⟩, rfl⟩
  · exact ⟨⟨clock, locked, pointer, rfl, same⟩, rfl⟩

/-- The next attempt points the radio at its packet, wherever it pointed before. -/
theorem Even.nextAttempt (h : Even strays s t) (deadline : Nat) (f : Flight) :
    Level strays (s.nextAttempt f).1 (t.nextAttempt (f.postpone deadline)).1 ∧
      ∃ deadline', (t.nextAttempt (f.postpone deadline)).2 =
        (s.nextAttempt f).2.postpone deadline' := by
  obtain ⟨clock, locked, pointer, rfl, -⟩ := h
  refine ⟨?_, _, rfl⟩
  have same : (((s.redate clock locked).onRadio (Radio.setBuffer pointer)).nextAttempt
      (f.postpone deadline)).1 = (s.nextAttempt f).1.redate clock locked := by
    unfold Station.nextAttempt Station.fly
    dsimp only
    rw [startExchange_eq, startExchange_eq, armed_eq, armed_eq]
    rfl
  rw [same]
  exact (Level.refl _).redated clock locked

/-- How a look at a complete exchange turns out: it ends the send with the same result at both
times, or starts the next exchange at both. -/
theorem Level.checkFlight (h : Level strays s t) (done : s.completed = true) (deadline : Nat)
    (f : Flight) :
    (∃ u u' result, s.checkFlight f = (u, .finished result) ∧
        t.checkFlight (f.postpone deadline) = (u', .finished result) ∧
        Even strays u u') ∨
      ∃ u u' g deadline', s.checkFlight f = (u, .waiting g) ∧
        t.checkFlight (f.postpone deadline) = (u', .waiting (g.postpone deadline')) ∧
          Level strays u u' := by
  have done' : t.completed = true := h.completed.trans done
  have finished := h.even.finishExchange
  -- what decides an attempt does not depend on its deadline
  have accepts := finished.accepts deadline f
  cases decided : !f.config.ackEnabled || s.finishExchange.accepts f with
  | true =>
    have decided' : (!(f.postpone deadline).config.ackEnabled ||
        t.finishExchange.accepts (f.postpone deadline)) = true := by
      rw [accepts]
      exact decided
    obtain ⟨landed, same⟩ := finished.land deadline f true
    refine .inl ⟨_, _, _, checkFlight_of_decided done decided, ?_, landed⟩
    rw [checkFlight_of_decided done' decided', same]
  | false =>
    have undecided' : (!(f.postpone deadline).config.ackEnabled ||
        t.finishExchange.accepts (f.postpone deadline)) = false := by
      rw [accepts]
      exact decided
    by_cases more : f.retries + 1 < f.config.attempts
    · obtain ⟨level, deadline', postponed⟩ := h.even.nextAttempt deadline f
      refine .inr ⟨_, _, _, deadline', checkFlight_of_undecided done decided more, ?_, level⟩
      rw [checkFlight_of_undecided done' undecided' more, postponed]
    · have last := Nat.le_of_not_lt more
      obtain ⟨landed, same⟩ := finished.land deadline f false
      refine .inl ⟨_, _, _, checkFlight_of_exhausted done decided last, ?_, landed⟩
      rw [checkFlight_of_exhausted done' undecided' last, same]

/-! ## The course -/

/-- The course of a send, from a station on which it is in progress: events while the exchange is
not complete, and looks while it is, up to the one that ends the send with a result. -/
inductive Concludes : Flight → Station → Except Failure Outcome → Station → Prop
  /-- The exchange is in progress. -/
  | onward {f : Flight} {s u : Station} {result : Except Failure Outcome}
      (pending : s.completed = false) (rest : Concludes f s.tick result u) :
      Concludes f s result u
  /-- The exchange is complete, and the next one starts. -/
  | again {f g : Flight} {s t u : Station} {result : Except Failure Outcome}
      (done : s.completed = true) (looked : s.checkFlight f = (t, .waiting g))
      (rest : Concludes g t result u) : Concludes f s result u
  /-- The exchange is complete, and the send is over. -/
  | lands {f : Flight} {s u : Station} {result : Except Failure Outcome}
      (done : s.completed = true) (looked : s.checkFlight f = (u, .finished result)) :
      Concludes f s result u

/-- **The course of a send is the same at any time.** The induction is on the course; at each of its
points the signs of completion agree, so the other course goes the same way. -/
theorem Concludes.level {result : Except Failure Outcome} (h : s.Concludes f result u)
    (level : Level strays s t) (deadline : Nat) :
    ∃ u', t.Concludes (f.postpone deadline) result u' ∧ Even strays u u' := by
  induction h generalizing t deadline with
  | onward pending rest ih =>
    obtain ⟨u', rest', even⟩ := ih (level.tick pending) deadline
    exact ⟨u', .onward (level.completed.trans pending) rest', even⟩
  | again done looked rest ih =>
    rcases level.checkFlight done deadline _ with
      ⟨v, v', _, ended, -, -⟩ | ⟨v, v', g, deadline', next, next', level'⟩
    · exact absurd (Prod.mk.inj (looked.symm.trans ended)).2 (by simp)
    · obtain ⟨rfl, goesOn⟩ := Prod.mk.inj (looked.symm.trans next)
      obtain rfl := Look.waiting.inj goesOn
      obtain ⟨u', rest', even⟩ := ih level' deadline'
      exact ⟨u', .again (level.completed.trans done) next' rest', even⟩
  | lands done looked =>
    rcases level.checkFlight done deadline _ with
      ⟨v, v', _, ended, ended', even⟩ | ⟨v, v', g, deadline', next, -, -⟩
    · obtain ⟨rfl, over'⟩ := Prod.mk.inj (looked.symm.trans ended)
      obtain rfl := Look.finished.inj over'
      exact ⟨v', .lands (level.completed.trans done) ended', even⟩
    · exact absurd (Prod.mk.inj (looked.symm.trans next)).2 (by simp)

/-- **A send has one course**, with one result. -/
theorem Concludes.unique {result result' : Except Failure Outcome} {u' : Station}
    (h : s.Concludes f result u) (h' : s.Concludes f result' u') : result = result' ∧ u = u' := by
  induction h with
  | onward pending rest ih =>
    cases h' with
    | onward _ rest' => exact ih rest'
    | again done => exact absurd (done.symm.trans pending) (by simp)
    | lands done => exact absurd (done.symm.trans pending) (by simp)
  | again done looked rest ih =>
    cases h' with
    | onward pending => exact absurd (done.symm.trans pending) (by simp)
    | again _ looked' rest' =>
      obtain ⟨rfl, same⟩ := Prod.mk.inj (looked.symm.trans looked')
      obtain rfl := Look.waiting.inj same
      exact ih rest'
    | lands _ looked' => exact absurd (Prod.mk.inj (looked.symm.trans looked')).2 (by simp)
  | lands done looked =>
    cases h' with
    | onward pending => exact absurd (done.symm.trans pending) (by simp)
    | again _ looked' => exact absurd (Prod.mk.inj (looked.symm.trans looked')).2 (by simp)
    | lands _ looked' =>
      obtain ⟨rfl, same⟩ := Prod.mk.inj (looked.symm.trans looked')
      exact ⟨Look.finished.inj same, rfl⟩

/-! ## Points of one course -/

/-- The exchange is complete, or the sign of completion is down. -/
theorem Stage.complete_or_pending (h : s.Stage f) : s.Complete ∨ s.completed = false := by
  cases h with
  | onAir air => exact .inr air.completed
  | awaiting wait => exact .inr wait.completed
  | complete done => exact .inl done

/-- Once the exchange is complete the radio is off. -/
theorem Complete.serviceRadio (h : s.Complete) : s.serviceRadio = s :=
  serviceRadio_of_still (Radio.service_disabled h.phase _)

/-- A complete exchange waits for a look: the radio makes no further step. -/
theorem Complete.pump (h : s.Complete) : s.pump.1 = s := by
  have quiet : s.radio.interruptPending = false := by simp [Radio.interruptPending, h.handled]
  have still := h.serviceRadio
  rw [pump_of_quiet (by rw [still]; exact quiet), still]

/-- A step of the radio does not raise the sign of completion. -/
theorem serviceRadio_completed (s : Station) : s.serviceRadio.completed = s.completed := by
  obtain ⟨buffers, same⟩ := s.serviceRadio_eq
  rw [same]

/-- The acknowledgement of a send always goes to the same place. -/
theorem ack_of_waiting (looked : s.checkFlight f = (t, .waiting g)) : g.ack = f.ack := by
  rcases s.checkFlight_cases f with ⟨same, -⟩ | ⟨u, retries, again, -⟩ | ⟨u, result, ended, -⟩
  · rw [Look.waiting.inj (Prod.mk.inj (looked.symm.trans same)).2]
  · rw [Look.waiting.inj (Prod.mk.inj (looked.symm.trans again)).2]
    rfl
  · exact absurd (Prod.mk.inj (looked.symm.trans ended)).2 (by simp)

/-- A look at an exchange that goes on leaves everything as it is. -/
theorem checkFlight_of_pending (pending : s.completed = false) :
    s.checkFlight f = (s, .waiting f) ∨
      ∃ t, s.checkFlight f = (t, .finished (.error .hardwareStuck)) := by
  by_cases late : f.deadline ≤ s.clock
  · exact .inr ⟨_, checkFlight_of_late pending late⟩
  · exact .inl (by simp [Station.checkFlight, pending, late])

/-- The send has only moved on from `s` to `t`: what it concludes with from there on is what it
concludes with from `s`, at another time. -/
def MovesOn (strays : Prop) (s : Station) (f : Flight) (t : Station) (g : Flight) : Prop :=
  ∀ result u, t.Concludes g result u → ∃ u', s.Concludes f result u' ∧ Even strays u' u

namespace MovesOn

/-- A send has moved on by nothing. -/
theorem refl (s : Station) (f : Flight) : MovesOn strays s f s f :=
  fun _ u concludes => ⟨u, concludes, .refl u⟩

/-- The more that strays, the less is the same at the end. -/
theorem mono {strays' : Prop} (h : MovesOn strays s f t g) (more : strays → strays') :
    MovesOn strays' s f t g := by
  intro result u concludes
  obtain ⟨u', concludes', even⟩ := h result u concludes
  exact ⟨u', concludes', even.mono more⟩

/-- A send that has moved on twice has moved on. -/
theorem trans {h : Flight} (first : MovesOn strays s f t g) (second : MovesOn strays t g u h) :
    MovesOn strays s f u h := by
  intro result v concludes
  obtain ⟨v', concludes', even'⟩ := second result v concludes
  obtain ⟨v'', concludes'', even''⟩ := first result v' concludes'
  exact ⟨v'', concludes'', even''.trans even'⟩

/-- Time alone moves nothing. -/
theorem of_level (h : Level strays s t) (f : Flight) : MovesOn strays s f t f := by
  intro result u concludes
  obtain ⟨u', concludes', even⟩ := concludes.level h.symm f.deadline
  exact ⟨u', concludes', even.symm⟩

/-- The next event. -/
theorem tick (pending : s.completed = false) (f : Flight) : MovesOn strays s f s.tick f :=
  fun _ u concludes => ⟨u, .onward pending concludes, .refl u⟩

/-- A step of the radio. -/
theorem serviceRadio (h : s.InFlight delays f) : MovesOn strays s f s.serviceRadio f := by
  rcases h.stage.complete_or_pending with complete | pending
  · rw [complete.serviceRadio]
    exact .refl s f
  · rcases s.serviceRadio_eq_tick with same | stepped
    · rw [same]
      exact .refl s f
    · rw [stepped]
      exact .tick pending f

/-- A step of the radio with its interrupt. -/
theorem pump (h : s.InFlight delays f) : MovesOn strays s f s.pump.1 f := by
  rcases h.stage.complete_or_pending with complete | pending
  · rw [complete.pump]
    exact .refl s f
  · rcases s.pump_eq_ticks with same | stepped | ⟨twice, stepped⟩
    · rw [same]
      exact .refl s f
    · rw [stepped]
      exact .tick pending f
    · -- the step of the radio does not raise the sign, so the handler is one more event
      have pending' : s.tick.completed = false := by
        rw [stepped, s.serviceRadio_completed]
        exact pending
      rw [twice]
      exact (MovesOn.tick pending f).trans (.tick pending' f)

/-- Other operations are over, and hand their buffers back. -/
theorem releaseBuffers (h : s.InFlight delays f) (may : strays) :
    MovesOn strays s f s.releaseBuffers f := by
  unfold Station.releaseBuffers
  split
  · rename_i idle
    cases done : s.completed with
    | true => exact .of_level ((Level.refl s).pointed done may none) f
    | false => exact absurd idle (state_of_uncompleted h done)
  · exact .refl s f

/-- A look that finds no end to the send. -/
theorem of_waiting (looked : s.checkFlight f = (t, .waiting g)) : MovesOn strays s f t g := by
  cases done : s.completed with
  | true => exact fun _ u concludes => ⟨u, .again done looked concludes, .refl u⟩
  | false =>
    rcases checkFlight_of_pending (f := f) done with same | ⟨v, stuck⟩
    · obtain ⟨rfl, goesOn⟩ := Prod.mk.inj (same.symm.trans looked)
      obtain rfl := Look.waiting.inj goesOn
      exact .refl s f
    · exact absurd (Prod.mk.inj (stuck.symm.trans looked)).2 (by simp)

end MovesOn

/-- A look that ends the send: it was stuck, or it has come to its conclusion. -/
theorem concludes_of_finished {result : Except Failure Outcome}
    (looked : s.checkFlight f = (t, .finished result)) (onTime : result ≠ .error .hardwareStuck) :
    s.Concludes f result t := by
  cases done : s.completed with
  | true => exact .lands done looked
  | false =>
    rcases checkFlight_of_pending (f := f) done with same | ⟨v, stuck⟩
    · exact absurd (Prod.mk.inj (same.symm.trans looked)).2 (by simp)
    · have failed := (Prod.mk.inj (stuck.symm.trans looked)).2
      exact absurd (Look.finished.inj failed).symm onTime

end Station

end BurstLink
