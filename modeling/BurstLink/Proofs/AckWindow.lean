import BurstLink.Proofs.AckWindow.Timed
import BurstLink.Proofs.AckWindow.Unison

/-! # The window for the acknowledgement

Whatever the timer counts when an attempt is started, the window for its acknowledgement ends at a
fixed number of ticks after the end of its packet, modulo 2³². A frame that answers the packet is
taken for no timeout, and without one the timeout fires exactly at the deadline. Nothing that an
earlier attempt has left in the timer or its compare channel can be mistaken for either, and nothing
but the timer itself depends on what the timer counts.

Main definitions:

* **`Bench.setTimer`** — the bench with an arbitrary timer count.
* **`Bench.attemptAfter`** — the last attempt of a run.
* **`Bench.InWindow`** — how an attempt goes.

Main statement: `Bench.Reachable.inWindow_of_run`. -/

namespace BurstLink

namespace Bench

variable {b c : Bench} {move : Move} {job : Job} {f : Flight} {purpose : Purpose}

/-- The bench with another timer count. -/
def setTimer (count : UInt32) (b : Bench) : Bench :=
  b.onStation (Station.onRadio fun r => { r with now := count })

/-- Custody does not depend on the timer count. -/
theorem Sound.setTimer (h : b.Sound True True) (count : UInt32) :
    (b.setTimer count).Sound True True :=
  h.replace ⟨rfl, fun _ => rfl, rfl, rfl, .inl trivial, rfl, rfl, rfl, rfl, rfl, rfl, rfl⟩ rfl

/-- The count of the timer is nothing that makes a bench untidy. -/
theorem Tidy.setTimer (tidy : b.Tidy) (count : UInt32) : (b.setTimer count).Tidy :=
  tidy.station rfl (Nat.le_refl _)

/-! ## Attempts of a run -/

/-- The last attempt after a move. Its packet is the one that the radio points at. -/
def attemptBy (b : Bench) (last : Option Attempt) (move : Move) : Option Attempt :=
  if b.launches move then
    some {
      start := b.station.radio.now
      length := ((b.make move).station.loaded.map Packet.length).getD 0
      response := b.station.radio.air.nextResponse.1 }
  else last

/-- The last attempt after some moves, if one of them has started an exchange. -/
def attemptAfter (b : Bench) (last : Option Attempt) : List Move → Option Attempt
  | [] => last
  | move :: moves => (b.make move).attemptAfter (b.attemptBy last move) moves

/-- The exchange of a send in progress that asks for an acknowledgement is on time, if it was
started by the last attempt. -/
def Timed (last : Option Attempt) (b : Bench) : Prop :=
  ∀ a, last = some a → ∀ job ∈ b.jobs, ∀ f purpose, job.activity = .sending f purpose →
    f.config.ackEnabled = true → b.station.Timed a f

/-- A look that starts an exchange starts it on time. -/
theorem Sound.timed_of_launches (h : b.Sound True True) (tidy : b.Tidy) {position : Nat}
    (launches : b.launches (.look position) = true)
    (member : job ∈ (b.make (.look position)).jobs) (sends : job.activity = .sending f purpose)
    {a : Attempt} (attempt : b.attemptBy none (.look position) = some a) :
    (b.make (.look position)).station.Timed a f := by
  have next : (b.lookAt position).Sound True True := h.lookAt position
  have flying : (b.lookAt position).station.InFlight True f := next.inFlight member sends
  obtain ⟨looked, found, starts⟩ : ∃ looked, b.jobs[position]? = some looked ∧
      (looked.activity.admits b.station = true ∨ looked.activity.repeats b.station = true) := by
    simpa [Bench.launches, Option.any_eq_true] using launches
  obtain ⟨before, later, jobs, rfl⟩ := exists_split found
  obtain ⟨station', after⟩ := lookAt_job jobs
  have looked_mem : looked ∈ b.jobs := by simp [jobs]
  have traffic := h.traffic tidy looked_mem
  obtain ⟨g, u, purpose', shows, flies⟩ := Activity.exists_fly_shows traffic starts
  have station : (b.lookAt before.length).station = (u.fly g).1.setLocked true := by
    rw [station', Job.poll_eq, flies]
  -- the job that sends is the one that was looked at
  obtain rfl : f = (u.fly g).2 := by
    rcases after with ⟨ended, -⟩ | ⟨rest, goesOn, stayed⟩
    · exact absurd (congrArg Prod.snd flies) (ended _)
    · obtain rfl := Look.waiting.inj ((congrArg Prod.snd flies).symm.trans goesOn)
      have stayed_mem : { looked with activity := .sending (u.fly g).2 purpose' } ∈
          (b.lookAt before.length).jobs := by
        rw [stayed]
        simp
      have same := next.activity_eq member stayed_mem (by rw [sends]; rfl) rfl
      exact (Activity.sending.inj (sends.symm.trans same)).1
  rw [station] at flying
  have timed := Station.timed_fly shows flying
  have loaded : (b.lookAt before.length).station.loaded =
      some ((u.fly g).1.buffers.get g.packet) := by
    have points : (u.fly g).1.radio.buffer = some g.packet :=
      (flying.onAir (Station.begun_fly g u true).state).buffer
    rw [station]
    show (u.fly g).1.radio.buffer.map _ = _
    rw [points]
    rfl
  unfold attemptBy at attempt
  rw [if_pos launches,
    show (b.make (.look before.length)).station.loaded = _ from loaded] at attempt
  obtain rfl := Option.some.inj attempt
  rw [show (b.make (.look before.length)).station = _ from station]
  exact timed

/-- **What one move preserves.** -/
theorem Timed.make {last : Option Attempt} (h : b.Timed last) (sound : b.Sound True True)
    (tidy : b.Tidy) (regular : move.Regular) :
    (b.make move).Timed (b.attemptBy last move) := by
  intro a attempt job member f purpose sends acks
  obtain ⟨bears, was⟩ := sound.bears_make tidy regular member sends
  -- as long as no exchange is started, the attempt is the one before
  have before : b.launches move = false → b.station.Timed a f ∧ b.station.InFlight True f ∧
      f.packet.index < b.station.buffers.count := by
    intro unlaunched
    obtain ⟨job', old, same⟩ := was unlaunched
    have sends' := same.trans sends
    unfold attemptBy at attempt
    rw [unlaunched] at attempt
    refine ⟨h a attempt job' old f purpose sends' acks, sound.inFlight old sends', ?_⟩
    exact (tidy.fits job' old f.packet f.ack (by rw [sends']; rfl)).2.1
  have launched : b.launches move = true → (b.make move).station.Timed a f := by
    intro launches
    unfold attemptBy at attempt
    rw [if_pos launches] at attempt
    cases move with
    | look position =>
      refine sound.timed_of_launches tidy launches member sends ?_
      unfold attemptBy
      rw [if_pos launches]
      exact attempt
    | _ => exact absurd launches (by simp [Bench.launches])
  generalize after : (b.make move).station = t at bears launched ⊢
  cases bears with
  | tookOff launches => exact launched launches
  | repeated launches => exact launched launches
  | looked unlaunched =>
    exact (before unlaunched).1.agree (Station.setLocked_agree ..) rfl rfl
  | waited time => exact (before rfl).1.agree (Station.clock_agree ..) rfl rfl
  | served => exact (before rfl).1.serviceRadio (before rfl).2.1
  | pumped => exact (before rfl).1.pump (before rfl).2.1 acks
  | aside unlaunched unattended unpumped unwaited undisturbed =>
    obtain ⟨timed, -, known⟩ := before unlaunched
    exact timed.agree undisturbed.agree undisturbed.now (undisturbed.spares.packets _ known)

/-- **What a run preserves.** The induction is on the moves. -/
theorem Timed.after {last : Option Attempt} (h : b.Timed last) (sound : b.Sound True True)
    (tidy : b.Tidy) (moves : List Move) (regular : ∀ move ∈ moves, move.Regular) :
    (b.after moves).Timed (b.attemptAfter last moves) := by
  induction moves generalizing b last with
  | nil => exact h
  | cons move moves ih =>
    have first : move.Regular := regular move (by simp)
    exact ih (h.make sound tidy first) (sound.make first fun _ => trivial) (tidy.make sound first)
      fun m member => regular m (by simp [member])

/-- Soundness and tidiness along a run. -/
theorem Sound.after (h : b.Sound True True) (tidy : b.Tidy) (moves : List Move)
    (regular : ∀ move ∈ moves, move.Regular) :
    (b.after moves).Sound True True ∧ (b.after moves).Tidy := by
  induction moves generalizing b with
  | nil => exact ⟨h, tidy⟩
  | cons move moves ih =>
    have first : move.Regular := regular move (by simp)
    exact ih (h.make first fun _ => trivial) (tidy.make h first)
      fun m member => regular m (by simp [member])

/-! ## Attempts end -/

/-- The moves of some rounds without looks. -/
def pumpRounds (n : Nat) : List Move := (List.replicate n [.wait roundTime, .pump]).flatten

/-- **An attempt whose radio does not hang is complete after three rounds.** -/
theorem completed_of_rounds {a : Attempt} (sound : b.Sound True True) (member : job ∈ b.jobs)
    (sends : job.activity = .sending f purpose) (acks : f.config.ackEnabled = true)
    (timed : b.station.Timed a f) (state : b.station.transfer.state = .txInFlight)
    (unhandled : b.station.radio.events.disabled = false) (runs : a.response ≠ .wedged)
    (responsive : b.station.radio.air.unresponsive = false)
    (fits : b.station.radio.air.historyFull = false)
    (room : b.station.radio.air.history.length < Overflow.transmissions.limit) :
    (b.after (pumpRounds 3)).station.completed = true := by
  have exchanging : b.station.Exchanging f (b.station.view f) :=
    ⟨(sound.held member (by rw [sends]; rfl)).1, sound.inFlight member sends, rfl⟩
  -- the transmission is in progress, as nothing else is on air without its interrupt
  obtain ⟨phase, pending⟩ : b.station.radio.phase = .tx ∧
      b.station.radio.pending = some a.response := by
    cases timed with
    | sending _ _ _ _ response =>
      unfold Radio.Sends at response
      rwa [if_neg runs] at response
    | sent _ raised => exact absurd (raised.symm.trans unhandled) (by simp)
    | listening other => exact absurd (state.symm.trans other) (by simp)
    | heard other => exact absurd (state.symm.trans other) (by simp)
    | complete h => exact absurd (state.symm.trans h.state) (by simp)
  -- one round sends the frame, one turns the receiver on, and one brings the answer or the timeout
  obtain ⟨s₁, passed₁, listening₁, phase₁, -⟩ :=
    exchanging.sentForAck phase acks pending room fits
  obtain ⟨s₂, passed₂, listening₂, phase₂, -⟩ := listening₁.rampedUp phase₁ responsive fits
  obtain ⟨s₃, passed₃, completed⟩ : ∃ s₃, s₂.round = (s₃, none) ∧ s₃.completed = true := by
    rcases answered : a.response.answer _ with - | answer
    · obtain ⟨s₃, passed₃, heard⟩ := listening₂.timedOut phase₂ fits answered
      exact ⟨s₃, passed₃, heard.completed⟩
    · obtain ⟨s₃, passed₃, heard⟩ := listening₂.answered phase₂ fits answered
      exact ⟨s₃, passed₃, heard.completed⟩
  have last : (b.after (pumpRounds 3)).station = b.station.round.1.round.1.round.1 := rfl
  rw [last, passed₁, passed₂, passed₃]
  exact completed

/-! ## Runs -/

/-- How an attempt of a flight goes: it is on time, and it ends unless the radio hangs, cannot
receive, or has no room for its packet. -/
structure InWindow (a : Attempt) (f : Flight) (b : Bench) : Prop where
  timed : b.station.Timed a f
  ends : b.station.transfer.state = .txInFlight → b.station.radio.events.disabled = false →
    a.response ≠ .wedged → b.station.radio.air.unresponsive = false →
    b.station.radio.air.historyFull = false →
    b.station.radio.air.history.length < Overflow.transmissions.limit →
      (b.after (pumpRounds 3)).station.Ended a

end Bench

/-- **The window for the acknowledgement is the same at every timer count.** On a reachable bench
with an arbitrary timer count, whatever happens next, the last attempt to be started is on time:
timer, end of packet and deadline are where its start, its packet and the response to it put them,
modulo 2³²; the timeout flag tells whether it was answered; and neither an address match nor a
timeout from before is seen. What operations answer, and what is put on air, is the same for every
timer count. -/
theorem Bench.Reachable.inWindow_of_run {b : Bench} (h : b.Reachable) (count : UInt32)
    (moves : List Move) (regular : ∀ move ∈ moves, move.Regular) :
    let c := (b.setTimer count).after moves
    (∀ a, (b.setTimer count).attemptAfter none moves = some a →
      ∀ job ∈ c.jobs, ∀ f purpose, job.activity = .sending f purpose →
        f.config.ackEnabled = true → c.InWindow a f) ∧
    ∀ count', let d := (b.setTimer count').after moves
      d.jobs = c.jobs ∧ d.ended = c.ended ∧ d.station.link = c.station.link ∧
        d.station.radio.air = c.station.radio.air := by
  intro c
  refine ⟨?_, ?_⟩
  · intro a attempt job member f purpose sends acks
    have sound := h.sound.setTimer count
    have tidy := h.tidy.setTimer count
    have timed : c.Timed (some a) := by
      rw [← attempt]
      exact Bench.Timed.after (fun a none' => by cases none') sound tidy moves regular
    obtain ⟨sound', tidy'⟩ := sound.after tidy moves regular
    refine ⟨timed a rfl job member f purpose sends acks, ?_⟩
    intro state unhandled runs responsive fits room
    have completed := completed_of_rounds sound' member sends acks
      (timed a rfl job member f purpose sends acks) state unhandled runs responsive fits room
    -- three rounds without looks are moves like any others
    have later : (c.after (pumpRounds 3)).Timed (some a) :=
      timed.after sound' tidy' (pumpRounds 3) (by decide)
    have flying := (sound'.after tidy' (pumpRounds 3) (by decide)).1.inFlight member sends
    exact (later a rfl job member f purpose sends acks).ended flying completed
  · intro count'
    have start : (b.setTimer count).Unison (b.setTimer count') :=
      ⟨_, ⟨⟨count', b.station.radio.compare, b.station.radio.endCapture,
        b.station.radio.armedDeadline⟩, rfl⟩, rfl⟩
    obtain ⟨_, ⟨τ, rfl⟩, same⟩ := start.after moves regular
    rw [same]
    exact ⟨rfl, rfl, rfl, rfl⟩

/-- A bench on which a packet of one byte is about to be sent; nobody will answer. -/
def Bench.silentSend : Bench :=
  (Bench.ofStation (.withFrontEnd .zeros)).after
    [.ask none (.request (.switchMode .link)), .look 0, .ask none (.request (.sendPayload [7]))]

/-- The timer wraps around while the packet is on air, and the timeout fires 500 ticks after its
end. -/
theorem Bench.inWindow_of_wraparound :
    let c := (silentSend.setTimer 4294967290).after [.look 0]
    let a : Attempt := ⟨4294967290, 1, .silence⟩
    let f : Flight := ⟨⟨0⟩, ⟨1⟩, .zero, .standard, 0, 200000⟩
    silentSend.Reachable ∧ c.InWindow a f ∧ a.packetEnd = 38 ∧ a.deadline = 538 ∧ a.finish = 538 ∧
      (c.after (pumpRounds 3)).station.Ended a := by
  intro c a f
  have reachable : silentSend.Reachable :=
    (Reachable.startUp ⟨.zeros, .inl rfl⟩).after _ (by decide)
  have member : ⟨none, none, .sending f (.single true)⟩ ∈ c.jobs := by decide +kernel
  have window : c.InWindow a f :=
    (reachable.inWindow_of_run 4294967290 [.look 0] (by decide)).1 a (by rfl) _ member f
      (.single true) rfl rfl
  refine ⟨reachable, window, by decide, by decide, by decide, window.ends ?_ ?_ ?_ ?_ ?_ ?_⟩
  · decide +kernel
  · decide +kernel
  · decide
  · decide +kernel
  · decide +kernel
  · decide +kernel

end BurstLink
