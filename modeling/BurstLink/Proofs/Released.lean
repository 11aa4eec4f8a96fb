import BurstLink.Proofs.Packets.Bench

/-! # A free station points at no packet

While an operation uses the radio, the radio points at one of its packets. When the operation is
over or given up, its packets are handed back: as long as nobody holds the lock, the radio points at
no packet at all.

Main definition: **`Bench.Released`**. Main statement: it holds of every reachable bench
(`Bench.Reachable.released`), so handing buffers back once more changes nothing
(`Bench.Reachable.releaseBuffers_eq`). -/

namespace BurstLink

namespace Station

variable {delays tears : Prop} {s : Station}

/-- At rest, buffers that are handed back are not pointed at any more. -/
theorem AtRest.buffer_releaseBuffers (h : s.releaseBuffers.AtRest delays tears) :
    s.releaseBuffers.radio.buffer = none := by
  by_cases idle : s.transfer.state = .idle
  · rw [releaseBuffers, if_pos idle]
    rfl
  · have kept : s.releaseBuffers = s := if_neg idle
    rw [kept] at h
    exact absurd h.calm.transfer idle

/-- A step of the radio and its interrupt leave the pointer alone while no exchange is in
progress. -/
theorem buffer_pump (idle : s.transfer.state = .idle) :
    s.pump.1.radio.buffer = s.radio.buffer ∧ s.serviceRadio.radio.buffer = s.radio.buffer := by
  have served : s.serviceRadio.radio.buffer = s.radio.buffer := by
    rw [radio_serviceRadio]
    exact Radio.buffer_service ..
  refine ⟨?_, served⟩
  have idle' : s.serviceRadio.transfer.state = .idle := by
    obtain ⟨buffers, same⟩ := s.serviceRadio_eq
    rw [same]
    exact idle
  have handled : s.serviceRadio.handleInterrupt.radio.buffer = s.radio.buffer := by
    unfold handleInterrupt
    rw [idle']
    exact served
  unfold pump
  dsimp only
  split
  · exact served
  · split
    · exact handled
    · exact served

end Station

namespace Bench

variable {b : Bench}

/-- As long as nobody holds the lock, the radio points at no packet. -/
def Released (b : Bench) : Prop := b.station.locked = false → b.station.radio.buffer = none

/-- The station with the pointer and the lock of another one. -/
theorem Released.of_eq {c : Bench} (h : b.Released) (locked : c.station.locked = b.station.locked)
    (buffer : c.station.radio.buffer = b.station.radio.buffer) : c.Released := by
  intro free
  rw [buffer]
  exact h (locked ▸ free)

/-- A bench whose last job handed its buffers back. -/
theorem released_of_releaseBuffers (h : b.Sound True True) {s : Station}
    (station : b.station = s.releaseBuffers) : b.Released := by
  intro free
  have rest := h.atRest_of_free free
  rw [station] at rest ⊢
  exact rest.buffer_releaseBuffers

/-- A look at a job keeps the pointer clear while the lock is free. -/
theorem Released.lookAt (h : b.Released) (sound : b.Sound True True) (position : Nat) :
    (b.lookAt position).Released := by
  rcases b.lookAt_cases position with same | ⟨before, job, later, jobs, -, station, -⟩
  · rw [same]
    exact h
  · rcases looked : job.activity.poll b.station with ⟨t, rest | result⟩
    · -- what goes on holds the lock or waits for it
      intro free
      obtain ⟨holder, all, custody⟩ := sound.custody
      have member : job ∈ b.jobs := by simp [jobs]
      have locked := Activity.locked_of_waiting custody (sound.regular job member)
        (fun holds => Job.holder_eq all member holds) looked
      rw [station, Job.poll, looked] at free
      exact absurd (locked.symm.trans free) (by simp)
    · refine released_of_releaseBuffers (sound.lookAt position) (s := t) ?_
      rw [station, Job.poll, looked]

/-- Giving a job up keeps the pointer clear while the lock is free. -/
theorem Released.giveUp (h : b.Released) (sound : b.Sound True True) (position : Nat) :
    (b.giveUp position).Released := by
  rcases b.giveUp_cases position with same | ⟨before, job, later, jobs, -, station, -⟩
  · rw [same]
    exact h
  · have next : (b.make (.giveUp position)).Sound True True :=
      sound.make trivial fun _ => trivial
    exact released_of_releaseBuffers next station

/-- Every move keeps the pointer clear while the lock is free. -/
theorem Released.make (h : b.Released) (sound : b.Sound True True) {move : Move}
    (regular : move.Regular) : (b.make move).Released := by
  cases move with
  | ask label work =>
    cases work with
    | request request => exact h
    | send packet ack => exact h
    | scanPresence channel window =>
      obtain ⟨scanners, found⟩ := b.station.currentScanner_fst
      have station : (b.make (.ask label (.scanPresence channel window))).station =
          { b.station with scanners := scanners } := found
      exact h.of_eq (by rw [station]) (by rw [station])
  | look position => exact h.lookAt sound position
  | giveUp position => exact h.giveUp sound position
  | wait time => exact h
  | service =>
    intro free
    -- a free lock means that no exchange is in progress, and then the radio takes no buffer
    have free' : b.station.locked = false := b.station.serviceRadio_locked ▸ free
    have idle : b.station.transfer.state = .idle := (sound.atRest_of_free free').calm.transfer
    exact (Station.buffer_pump idle).2.trans (h free')
  | pump =>
    intro free
    have free' : b.station.locked = false := b.station.pump_locked ▸ free
    have idle : b.station.transfer.state = .idle := (sound.atRest_of_free free').calm.transfer
    exact (Station.buffer_pump idle).1.trans (h free')
  | arrange command =>
    obtain ⟨⟨air, radio⟩, -⟩ := radio_of_arranges (b := b) regular
    refine h.of_eq (execute_of_arranges regular).2.1.symm ?_
    show (b.execute command).1.station.radio.buffer = _
    rw [radio]
  | turnPage => exact h

/-- **Whenever nobody holds the lock, the radio points at no packet.** -/
theorem Reachable.released (h : b.Reachable) : b.Released := by
  have both : b.Sound True True ∧ b.Released := by
    refine h.induct (P := fun b => b.Sound True True ∧ b.Released) ?_ ?_
    · intro s start
      refine ⟨.startUp start, fun _ => ?_⟩
      obtain ⟨draws, rfl | rfl⟩ := start <;> rfl
    · intro b hb move regular
      exact ⟨hb.1.make regular fun _ => trivial, hb.2.make hb.1 regular⟩
  exact both.2

/-- Handing buffers back once more changes nothing. -/
theorem Reachable.releaseBuffers_eq (h : b.Reachable) (free : b.station.locked = false) :
    b.station.releaseBuffers = b.station := by
  have pointless := h.released free
  unfold Station.releaseBuffers
  split
  · show { b.station with radio := { b.station.radio with buffer := none } } = b.station
    rw [← pointless]
  · rfl

end Bench

end BurstLink
