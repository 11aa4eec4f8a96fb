import BurstLink.Proofs.Ongoing
import BurstLink.Proofs.SendRule

/-! # Where an exchange is started

Whatever an operation does before it starts an exchange, it lets no time pass for the timer and puts
nothing on air. So the exchange starts at the timer count that the look has found, and its packet is
answered by the response that was next then.

Main definition: **`Station.Shows`**.

Main statement: `Activity.exists_fly_shows`. -/

namespace BurstLink

namespace Station

variable {s : Station} {now : UInt32} {air : Air}

/-- The timer has the given count, and the radio the given surroundings. -/
def Shows (now : UInt32) (air : Air) (s : Station) : Prop := s.radio.now = now ∧ s.radio.air = air

/-- Bringing an exchange to rest leaves timer count and surroundings alone, even if the radio is
power cycled for it. -/
theorem Shows.forceIdle (h : s.Shows now air) (config : LinkConfig) :
    (s.forceIdle config).Shows now air := by
  obtain ⟨phase, pending, events, -, settled⟩ := s.disarm.radio.forceOff_settles
  rw [forceIdle_eq_recover, s.disarm.disableRadio_eq, settled]
  unfold recover
  dsimp only
  split
  · exact h
  · exact h

/-- Between its exchanges an operation that sends leaves timer count and surroundings alone; during
one there is a look that ends it, or it has just been started. -/
theorem sendRule_shows (now : UInt32) (air : Air) : SendRule (fun _ => True)
    (fun _ _ s => s.Shows now air)
    fun f s => s.Shows now air ∧ (s.completed = true ∨ f.deadline ≤ s.clock) ∨
      ∃ g u, Shows now air u ∧ u.fly g = (s, f) where
  noted _ h := h
  drawn _ h := h
  tune _ h := h
  takeOff {packet ack s} _ h := .inr ⟨_, s.stamped packet, h, takeOff_eq ..⟩
  -- an exchange that has just begun is not complete
  finish {f s} done h := by
    rcases h with ⟨shows, -⟩ | ⟨g, u, -, flown⟩
    · exact shows
    · have unfinished := completed_fly g u
      rw [flown] at unfinished
      exact absurd (done.symm.trans unfinished) (by simp)
  again {f s} notice done _ h := by
    rcases h with ⟨shows, -⟩ | ⟨g, u, -, flown⟩
    · exact .inr ⟨_, s.finishExchange.note notice, shows, rfl⟩
    · have unfinished := completed_fly g u
      rw [flown] at unfinished
      exact absurd (done.symm.trans unfinished) (by simp)
  -- nor is it due
  stuck {f s} notice _ late h := by
    rcases h with ⟨shows, -⟩ | ⟨g, u, -, flown⟩
    · have noted : (s.note notice).Shows now air := shows
      exact noted.forceIdle f.config
    · have begun := (begun_fly g u true).deadline
      rw [flown] at begun
      have later : f.deadline = s.clock + exchangeTimeout := begun
      have positive : 0 < exchangeTimeout := by decide
      omega

end Station

namespace Activity

open Station

variable {activity : Activity} {s : Station}

/-- A look that starts an exchange is a look at an operation that sends. -/
theorem sends_of_attempt (starts : activity.admits s = true ∨ activity.repeats s = true) :
    ∃ found : Station × Progress, activity.poll s = withLock found ∧
      SendRule.Sends (fun _ => True) (fun _ _ t => t.Shows s.radio.now s.radio.air)
        (fun f t => t.Shows s.radio.now s.radio.air ∧
            (t.completed = true ∨ f.deadline ≤ t.clock) ∨
          ∃ g u, Shows s.radio.now s.radio.air u ∧ u.fly g = (t, f)) found := by
  have rule := sendRule_shows s.radio.now s.radio.air
  have shows : s.Shows s.radio.now s.radio.air := ⟨rfl, rfl⟩
  cases activity with
  | queued request =>
    have passed : request.answer?.isNone && !s.locked && s.startAdmits request := by
      simpa [admits, repeats] using starts
    obtain ⟨⟨undecided, free⟩, sending⟩ : (request.answer? = none ∧ s.locked = false) ∧
        s.startAdmits request = true := by simpa using passed
    cases request with
    | send packet ack =>
      exact ⟨_, poll_queued_of_free free undecided rfl, rule.startSend shows false⟩
    | sendPayload bytes =>
      have added : (s.withBytes bytes).Shows s.radio.now s.radio.air := shows
      exact ⟨(s.withBytes bytes).startSend ⟨s.buffers.count⟩ ⟨s.buffers.count + 1⟩ true,
        poll_queued_of_free free undecided rfl, rule.startSend added true⟩
    | scanChannels first last bytes =>
      refine ⟨_, poll_queued_of_free free undecided rfl, ?_⟩
      have within : ∀ channel ∈ channelRange first last, True := fun _ _ => trivial
      rcases rule.startScan within (fun _ => (shows : (s.withBytes bytes).Shows _ _)) with
        ⟨failure, -, refused⟩ | scans
      · simp [startAdmits, refused, Except.isOk, Except.toBool] at sending
      · exact SendRule.sends_ofScan scans
    | _ => exact absurd sending (by simp [startAdmits])
  | sending f purpose =>
    refine ⟨_, rfl, rule.checkSend (.inl ⟨shows, ?_⟩) purpose.within_true⟩
    -- otherwise the look would find nothing new
    by_contra neither
    obtain ⟨unfinished, early⟩ := not_or.mp neither
    have down : s.completed = false := by simpa using unfinished
    have checked := checkFlight_of_early down (Nat.not_le.mp early)
    simp [admits, repeats, checkAdmits, checked, down] at starts
  | _ => simp [admits, repeats] at starts

/-- **A look that starts an exchange** does so at the timer count and in the surroundings that it
has found. -/
theorem exists_fly_shows (traffic : activity.Traffic s (activity.poll s))
    (starts : activity.admits s = true ∨ activity.repeats s = true) :
    ∃ g u purpose, u.Shows s.radio.now s.radio.air ∧ activity.poll s =
      ((Station.fly g u).1.setLocked true, .waiting (.sending (Station.fly g u).2 purpose)) := by
  obtain ⟨g, u, purpose, polled⟩ := exists_fly_of_attempt traffic starts
  obtain ⟨⟨t, progress⟩, found, sends⟩ := sends_of_attempt starts
  rw [found] at polled
  obtain ⟨station, rfl⟩ : t.setLocked progress.holdsLock = (u.fly g).1.setLocked true ∧
      progress = .waiting (.sending (u.fly g).2 purpose) := Prod.mk.inj polled
  obtain ⟨f, purpose', same, -, during⟩ := sends
  obtain ⟨rfl, rfl⟩ := Activity.sending.inj same
  rcases during with ⟨-, ended⟩ | ⟨g', u', shows, flown⟩
  · -- what has just been started is neither complete nor late
    have begun := begun_fly g u true
    rw [← station] at begun
    rcases ended with done | late
    · exact absurd (done.symm.trans begun.completed) (by simp)
    · have late : (u.fly g).2.deadline ≤ t.clock := late
      have later : (u.fly g).2.deadline = t.clock + exchangeTimeout := begun.deadline
      have positive : 0 < exchangeTimeout := by decide
      omega
  · refine ⟨g', u', purpose, shows, ?_⟩
    rw [found, flown]
    rfl

end Activity

end BurstLink
