import BurstLink.Proofs.BufferSafety
import BurstLink.Proofs.Configuration
import BurstLink.Proofs.Retry.Attempt

/-! # Amplifiers and the start of an exchange

Whoever holds the lock, the two amplifiers are never on together. The power amplifier goes on with
the start of an exchange, and an exchange starts by a look at a send and by nothing else.

Main definition: **`Station.Exclusive`**.

Main statements: `Station.Custody.exclusive`; `Activity.exists_fly_of_attempt` for looks that start
an exchange; `Activity.poll_of_unattempted`, `Station.onAir_of_pump`, `Job.onAir_of_drop` and
`Bench.Reachable.onAir_of_look` for what starts none. -/

namespace BurstLink

namespace Station

variable {delays tears : Prop} {s : Station} {f : Flight}

/-! ## One amplifier at a time -/

/-- The low-noise amplifier is off while the power amplifier is on. -/
def Exclusive (s : Station) : Prop := ∀ f ∈ s.frontEnd, f.pa = true → f.lna = false

/-- Amplifiers that are known not to be on at once exclude each other. -/
theorem Amplifiers.exclusive {pa lna : Bool} (h : s.Amplifiers pa lna)
    (apart : pa = true → lna = false) : s.Exclusive := fun f found on =>
  (h f found).2.trans (apart ((h f found).1.symm.trans on))

/-- They do in every stage of an exchange. -/
theorem InFlight.exclusive (h : s.InFlight delays f) : s.Exclusive := by
  cases h.stage with
  | onAir air => exact air.amplifiers.exclusive fun _ => rfl
  | awaiting wait => exact wait.amplifiers.exclusive (by simp)
  | complete done => exact done.amplifiers.exclusive (by simp)

/-- They do while an operation holds the lock. -/
theorem Held.exclusive {activity : Activity} (h : s.Held delays activity) : s.Exclusive := by
  cases activity with
  | queued request => exact h.elim
  | testing t => exact h.elim
  | sending f purpose => exact InFlight.exclusive h
  | switching t => exact fun f found _ => Torn.receiverOff h f found
  | measuring m => exact (Gauging.amplifiers h).exclusive (by simp)
  | listening l => exact (Vacant.amplifiers h.1).exclusive (by simp)

/-- They do at rest. -/
theorem AtRest.exclusive (h : s.AtRest delays tears) : s.Exclusive := by
  cases h with
  | dark mode h => exact h.amplifiers.exclusive (by simp)
  | standby h => exact h.amplifiers.exclusive (by simp)
  | toning h => exact h.amplifiers.exclusive fun _ => rfl
  | torn may h => exact fun f found _ => h.receiverOff f found
  | carrier h tuned =>
    rcases tuned with ⟨-, -, amplifiers⟩ | ⟨-, -, amplifiers⟩
    · exact amplifiers.exclusive fun _ => rfl
    · exact amplifiers.exclusive (by simp)
  | gauge h off amplifiers => exact amplifiers.exclusive (by simp)

/-- **Whoever holds the lock, the amplifiers are not on together.** -/
theorem Custody.exclusive {holder : Option Activity} (h : s.Custody delays tears holder) :
    s.Exclusive := by
  cases holder with
  | none => exact h.2.exclusive
  | some activity => exact Held.exclusive h.2

/-! ## Without a look no exchange starts -/

/-- The handler of the interrupt starts no exchange. -/
theorem onAir_of_pump (onAir : s.pump.1.transfer.state = .txInFlight) :
    s.transfer.state = .txInFlight := by
  obtain ⟨buffers, served⟩ := s.serviceRadio_eq
  have same : s.serviceRadio.transfer = s.transfer := by rw [served]
  unfold pump at onAir
  dsimp only at onAir
  rw [← same]
  split at onAir
  · exact onAir
  · split at onAir
    · cases state : s.serviceRadio.transfer.state with
      | txInFlight => rfl
      | awaitingAck =>
        rw [handleInterrupt_awaitingAck state] at onAir
        exact absurd onAir (by simp [completeAck_eq])
      | idle =>
        unfold handleInterrupt at onAir
        rw [state] at onAir
        exact absurd (state.symm.trans onAir) (by simp)
    · exact onAir

end Station

/-- Giving a job up starts no exchange. -/
theorem Job.onAir_of_drop {job : Job} {s : Station}
    (onAir : (job.drop s).transfer.state = .txInFlight) : s.transfer.state = .txInFlight := by
  have released : (job.drop s).transfer = (job.activity.drop s).transfer := by
    obtain ⟨pointer, pointed⟩ := (job.activity.drop s).releaseBuffers_pointed
    unfold Job.drop
    rw [pointed]
    rfl
  rw [released] at onAir
  cases activity : job.activity with
  | sending f purpose =>
    have idle : ((s.forceIdle f.config).setLocked false).transfer.state = .idle := by
      rw [Station.forceIdle_eq_recover]
      rfl
    rw [activity] at onAir
    exact absurd (idle.symm.trans onAir) (by simp)
  | measuring m =>
    rw [activity] at onAir
    have ended : s.endMeasurement.transfer = s.transfer := by
      unfold Station.endMeasurement
      rw [Station.disableRadio_eq]
      rfl
    rw [← ended]
    exact onAir
  | _ =>
    rw [activity] at onAir
    exact onAir

/-! ## A look at a send -/

namespace Activity

open Station

variable {activity : Activity} {s : Station} {f : Flight} {purpose : Purpose}

/-- **A look that starts an exchange** leaves the station at its start, with the send in progress.
-/
theorem exists_fly_of_attempt (traffic : activity.Traffic s (activity.poll s))
    (starts : activity.admits s = true ∨ activity.repeats s = true) :
    ∃ g u purpose, activity.poll s =
      ((Station.fly g u).1.setLocked true, .waiting (.sending (Station.fly g u).2 purpose)) := by
  have attempts := activity.poll_attempts s
  generalize activity.poll s = found at traffic attempts
  cases traffic with
  | repeated retries was kept refused => exact ⟨_, _, _, rfl⟩
  | admitted purpose kept passed outgoing own apart known => exact ⟨_, _, purpose, rfl⟩
  | unchanged untaken refused =>
    rcases starts with passed | repeated
    · exact absurd (passed.symm.trans refused) (by simp)
    · cases activity with
      | sending f purpose => exact absurd repeated (by simp [repeats, untaken rfl])
      | _ => exact absurd repeated (by simp [repeats])
  | spared kept taken refused goesOn =>
    rcases starts with passed | repeated
    · exact absurd (passed.symm.trans refused) (by simp)
    · cases attempts with
      | first passed fresh => exact absurd (passed.symm.trans refused) (by simp)
      | again was refused repeated next => exact absurd (goesOn _ rfl).2 (by simp [sends])
      | none refused unrepeated same => exact absurd (repeated.symm.trans unrepeated) (by simp)

/-- A look that starts an exchange leaves the power amplifier on. -/
theorem amplified_of_attempt (traffic : activity.Traffic s (activity.poll s))
    (starts : activity.admits s = true ∨ activity.repeats s = true) :
    ∀ f ∈ (activity.poll s).1.frontEnd, f.pa = true := by
  obtain ⟨g, u, purpose, looked⟩ := exists_fly_of_attempt traffic starts
  intro f found
  rw [looked] at found
  have switched : f ∈ (u.fly g).1.frontEnd := found
  rw [fly_eq] at switched
  obtain ⟨f', -, rfl⟩ := Option.map_eq_some_iff.mp switched
  rfl

/-- **A look that starts no exchange and leaves a send finds nothing new**: the exchange is not
complete and not late. -/
theorem poll_of_unattempted (refused : activity.admits s = false)
    (unrepeated : activity.repeats s = false)
    (goesOn : (activity.poll s).2 = .waiting (.sending f purpose)) :
    activity = .sending f purpose ∧ s.completed = false ∧ s.clock < f.deadline ∧
      activity.poll s = (s.setLocked true, .waiting (.sending f purpose)) := by
  obtain rfl : activity = .sending f purpose := by
    have attempts := activity.poll_attempts s
    rw [goesOn] at attempts
    cases attempts with
    | first passed fresh => exact absurd (passed.symm.trans refused) (by simp)
    | again was refused repeated next =>
      exact absurd (repeated.symm.trans unrepeated) (by simp)
    | none refused unrepeated same => exact same _ _ rfl
  have goesOn : (s.checkSend f purpose).2 = .waiting (.sending f purpose) := goesOn
  have refused : s.checkAdmits f purpose = false := refused
  have unrepeated : (s.completed && (s.checkFlight f).2.isWaiting) = false := unrepeated
  unfold checkSend at goesOn
  unfold checkAdmits at refused
  rcases found : s.checkFlight f with ⟨t, f' | result⟩
  · rw [found] at unrepeated
    have down : s.completed = false := by simpa [Look.isWaiting] using unrepeated
    have early : s.clock < f.deadline := by
      rw [← Nat.not_le]
      intro late
      rw [checkFlight_of_late down late] at found
      cases (Prod.mk.inj found).2
    exact ⟨rfl, down, early, poll_sending_of_waiting purpose (checkFlight_of_early down early)⟩
  · rw [found] at goesOn refused
    cases purpose with
    | single withAck => cases goesOn
    | scan scan =>
      -- the scan could only go on with a send that passes the checks
      rcases scoreScan_cases f scan result t with
        ⟨u, result', ended, -, -⟩ | ⟨u, scan', -, -, passed⟩
      · dsimp only at goesOn
        rw [ended] at goesOn
        cases goesOn
      · exact absurd (passed.symm.trans refused) (by simp)

/-- A look that starts no exchange and leaves a send leaves the exchange as it was. -/
theorem transfer_of_unattempted (refused : activity.admits s = false)
    (unrepeated : activity.repeats s = false)
    (goesOn : (activity.poll s).2 = .waiting (.sending f purpose)) :
    (activity.poll s).1.transfer = s.transfer := by
  obtain ⟨-, -, -, looked⟩ := poll_of_unattempted refused unrepeated goesOn
  rw [looked]
  rfl

end Activity

/-! ## On a bench -/

namespace Bench

variable {b : Bench} {job : Job} {before later : List Job}

/-- **While the packet of an exchange is on air after a look that started none, it was on air
before.** -/
theorem Reachable.onAir_of_look (h : b.Reachable) (jobs : b.jobs = before ++ job :: later)
    (quiet : ∀ f purpose, (job.activity.poll b.station).2 = .waiting (.sending f purpose) →
      (job.activity.poll b.station).1.transfer = b.station.transfer)
    (onAir : (b.lookAt before.length).station.transfer.state = .txInFlight) :
    b.station.transfer.state = .txInFlight := by
  have member : job ∈ b.jobs := by simp [jobs]
  have next : (b.lookAt before.length).Reachable := h.make (.look before.length) trivial
  obtain ⟨sender, f, transmits⟩ := (next.sound.handshake next.tidy).transmits onAir
  have same : (b.lookAt before.length).station.transfer =
      (job.activity.poll b.station).1.transfer := by
    obtain ⟨pointer, pointed⟩ := job.poll_pointed b.station
    rw [(lookAt_job jobs).1, pointed]
    rfl
  rw [same] at onAir
  -- the sender is another job, unless the look leaves the exchange alone
  have other : sender ∈ before ++ later ∨
      (job.activity.poll b.station).1.transfer = b.station.transfer := by
    have among := transmits.member
    rcases (lookAt_job jobs).2 with ⟨-, left⟩ | ⟨rest, goesOn, stayed⟩
    · rw [left] at among
      exact .inl among
    · rw [stayed] at among
      rcases mem_exchange among with rfl | old
      · obtain ⟨purpose, activity⟩ := transmits.flight
        exact .inr (quiet f purpose (goesOn.trans (congrArg _ activity)))
      · exact .inl old
  rcases other with other | unchanged
  · -- whoever is looked at while another job sends waits for the lock
    have isSending := transmits.sending
    have member' : sender ∈ b.jobs := jobs ▸ mem_of_others other
    cases holds : job.activity.holdsLock with
    | true =>
      have activity := h.sound.activity_eq member member' holds (holdsLock_of_sending isSending)
      have alone : ¬({ b with jobs := before ++ later } : Bench).Busy :=
        h.sound.not_busy_of_others jobs (isSending.congr activity) rfl
      exact absurd ⟨sender, other, isSending⟩ alone
    | false =>
      have busy := (h.sound.held member' (holdsLock_of_sending isSending)).1
      rw [Job.unchanged_of_locked busy (h.sound.regular job member) holds] at onAir
      exact onAir
  · rw [unchanged] at onAir
    exact onAir

end Bench

end BurstLink
