import BurstLink.Proofs.Guard
import BurstLink.Proofs.SendRule

/-! # Channel scans do not fail

A channel scan looks once whether the link is ready. From then on nothing speaks against sending its
packet on the next channel: the lock keeps the link as it is, and the packet stays short whatever
the radio writes into it, even if the radio is pointed at it by hand. So the scan never fails,
however the air answers.

Main definitions:

* **`Packet.Short`** — a packet announces no more bytes than it has.
* **`Station.CanSend`** — nothing speaks against sending a packet.
* **`Progress.Scanning`** — a channel scan goes on, or answers with its hits.
* **`Guard.scan`** — nothing speaks against sending the packet of the scan in progress.

Main statements: `Guard.scan_startScan`, `Guard.scan_checkSend`, and `Guard.scan_kept`. -/

namespace BurstLink

/-! ## Short packets -/

/-- The packet announces no more bytes than it has. -/
def Packet.Short (p : Packet) : Prop := p.length.toNat ≤ maxPayload

namespace Packet

/-- A packet announces the payload that it was given, and that is short. -/
theorem short_put (payload : Payload) (p : Packet) : (p.put payload).Short := by
  have length : (p.put payload).length.toNat = payload.bytes.length % 256 := UInt8.toNat_ofNat'
  unfold Short
  rw [length]
  exact Nat.le_trans (Nat.mod_le ..) payload.length_le

/-- What the other side sends is short. -/
theorem short_sentWith (id : Pid) (payload : Payload) : (sentWith id payload).Short :=
  short_put payload empty

end Packet

/-- **What the air answers is short.** -/
theorem AirResponse.short_answer {response : AirResponse} {echo : Pid} {heard : Answer}
    (answered : response.answer echo = some heard) : heard.packet.Short := by
  cases response with
  | ack payload rssi =>
    obtain rfl := Option.some.inj answered
    exact Packet.short_sentWith echo payload
  | staleAck pid =>
    obtain rfl := Option.some.inj answered
    exact Packet.short_sentWith _ .empty
  | corruptAck =>
    obtain rfl := Option.some.inj answered
    exact Packet.short_sentWith echo _
  | silence => exact absurd answered (by simp [answer])
  | wedged => exact absurd answered (by simp [answer])

/-- A frame that the radio receives is short. -/
theorem Radio.short_service {packet : Option Packet} {r : Radio} {frame : Packet}
    (received : (r.service packet).2 = some frame) : frame.Short := by
  unfold service at received
  split at received
  · exact absurd received (by simp)
  · unfold step at received
    split at received
    · exact absurd received (by simp)
    · exact absurd received (by simp)
    · exact absurd received (by simp)
    · split at received
      · exact absurd received (by simp)
      · split at received
        · exact absurd received (by simp)
        · rename_i answer answered
          obtain rfl := Option.some.inj received
          exact AirResponse.short_answer answered
    all_goals exact absurd received (by simp)

/-- A change that keeps packets short keeps them short in a pool. -/
theorem Pool.short_modify {f : Packet → Packet} (still : ∀ p, p.Short → (f p).Short)
    {pool : Pool Packet} {b : Buffer} (changed : Buffer) (h : (pool.get b).Short) :
    ((pool.modify changed f).get b).Short := by
  unfold modify
  by_cases same : b = changed
  · rw [same] at h ⊢
    rw [get_set_self]
    exact still _ h
  · rw [get_set_of_ne _ same]
    exact h

/-! ## Nothing against sending -/

namespace Station

variable {s t u : Station} {packet ack : Buffer}

/-- Nothing speaks against sending the packet. -/
structure CanSend (packet : Buffer) (s : Station) : Prop where
  ready : s.ready = .ok ()
  known : packet.index < s.buffers.count
  short : (s.buffers.get packet).Short

/-- What can be sent from the first station can be sent from the second one. -/
structure Allows (s t : Station) : Prop where
  initialized : t.link.initialized = s.link.initialized
  carrier : t.link.carrier = s.link.carrier
  count : s.buffers.count ≤ t.buffers.count
  short : ∀ b : Buffer, b.index < s.buffers.count → (s.buffers.get b).Short →
    (t.buffers.get b).Short

/-- A station with the same link and the same packets allows the same. -/
theorem Allows.of_eq (link : t.link = s.link) (buffers : t.buffers = s.buffers) : s.Allows t where
  initialized := by rw [link]
  carrier := by rw [link]
  count := Nat.le_of_eq (by rw [buffers])
  short b _ short := by rw [buffers]; exact short

/-- The packets that there were are the same, and so is the link. -/
theorem Allows.of_spares (link : t.link = s.link) (kept : s.Spares t) : s.Allows t where
  initialized := by rw [link]
  carrier := by rw [link]
  count := kept.count
  short b known short := by rw [kept.packets b known]; exact short

/-- What can be sent can be sent later on, if what happens meanwhile allows it. -/
theorem CanSend.mono (h : s.CanSend packet) (allows : s.Allows t) : t.CanSend packet where
  ready := by
    rw [ready_eq_ok_iff, allows.initialized, allows.carrier, ← ready_eq_ok_iff]
    exact h.ready
  known := Nat.lt_of_lt_of_le h.known allows.count
  short := allows.short packet h.known h.short

/-- **What can be sent is not refused.** -/
theorem CanSend.launch_ne (h : s.CanSend packet) (ack : Buffer) (failure : Failure) :
    s.launch packet ack ≠ (t, .refused failure) := by
  unfold launch
  rw [h.ready]
  dsimp only
  rw [if_neg (Nat.not_lt.mpr h.short)]
  split <;> simp

/-- An exchange that starts clears its acknowledgement. -/
theorem allows_fly (f : Flight) (s : Station) : s.Allows (s.fly f).1 where
  initialized := by rw [link_fly]
  carrier := by rw [link_fly]
  count := Nat.le_of_eq (count_fly f s).symm
  short b _ short := by
    rw [fly_eq]
    exact Pool.short_modify (fun _ _ => Nat.zero_le _) f.ack short

/-- A send that takes off stamps its packet. -/
theorem allows_takeOff (packet ack : Buffer) (s : Station) :
    s.Allows (s.takeOff packet ack).1 := by
  have flown := allows_fly (s.takingOff packet ack) (s.stamped packet)
  rw [takeOff_eq]
  exact
    { initialized := flown.initialized
      carrier := flown.carrier
      count := flown.count
      short := fun b known short =>
        have stamped := Pool.short_modify (f := Packet.setPid s.link.pid) (fun _ still => still)
          packet short
        flown.short b known stamped }

/-- **What happens beside the operations keeps nobody from sending.** The radio writes short frames
only. -/
theorem Aside.allows {permitted : Prop} (beside : s.Aside permitted t) : s.Allows t := by
  have link := beside.link
  cases beside with
  | surroundings => exact .of_eq link rfl
  | addBuffer p => exact .of_spares link (s.spares_addBuffer p)
  | releaseBuffers => exact .of_spares link s.spares_releaseBuffers
  | settle => exact .of_eq link rfl
  | handleInterrupt => exact .of_eq link s.handleInterrupt_spares.1
  | access f may => exact .of_eq link rfl
  | serviceRadio =>
    refine ⟨by rw [link], by rw [link], Nat.le_of_eq s.count_serviceRadio.symm, ?_⟩
    intro b known short
    show ((store _ _ : Station).buffers.get b).Short
    unfold store
    split
    · rename_i frame written received pointed
      by_cases same : b = written
      · rw [same, Pool.get_set_self]
        exact Radio.short_service received
      · rw [Pool.get_set_of_ne _ same]
        exact short
    · exact short

end Station

/-! ## The rule and the guard -/

open Station

/-- Between the channels of a scan and on each of them, nothing speaks against sending its
packet. -/
theorem sendRule_scan : SendRule (fun _ => True) (fun packet _ s => s.CanSend packet)
    fun f s => s.CanSend f.packet where
  noted _ h := h.mono (.of_eq rfl rfl)
  drawn _ h := h.mono ⟨rfl, rfl, Nat.le_refl _, fun _ _ short => short⟩
  tune _ h := h.mono ⟨rfl, rfl, Nat.le_refl _, fun _ _ short => short⟩
  takeOff _ h := h.mono (allows_takeOff ..)
  finish _ h := h.mono (.of_eq rfl rfl)
  again {f s} notice _ _ h := by
    have finished : (s.finishExchange.note notice).CanSend f.packet := h.mono (.of_eq rfl rfl)
    exact finished.mono (allows_fly ..)
  stuck {f s} notice _ _ h := by
    have noted : (s.note notice).CanSend f.packet := h.mono (.of_eq rfl rfl)
    exact noted.mono (.of_spares (link_forceIdle ..) (spares_forceIdle ..))

/-- A channel scan goes on, or answers with its hits. -/
def Progress.Scanning (progress : Progress) : Prop :=
  progress.Meets (fun activity => ∃ f scan, activity = .sending f (.scan scan))
    fun result => ∃ hits, result = .ok (.channels hits)

/-- During a channel scan nothing speaks against sending its packet. -/
def Guard.scan : Guard where
  free _ := True
  held activity s :=
    match activity with
    | .sending f (.scan _) => s.CanSend f.packet
    | _ => True

namespace Guard

variable {s : Station} {packet ack : Buffer}

/-- A part of a channel scan that ends, ends with the hits. -/
theorem scan_of_scans {found : Station × ScanLook}
    (h : SendRule.Scans (fun _ => True) (fun packet _ s => s.CanSend packet)
      (fun f s => s.CanSend f.packet) packet ack found) :
    (ofScan found).2.Scanning ∧ scan.Leaves (ofScan found) := by
  obtain ⟨t, ⟨f, rest⟩ | result⟩ := found
  · exact ⟨⟨f, rest, rfl⟩, rfl, h.1⟩
  · refine ⟨?_, trivial⟩
    obtain ⟨-, ⟨hits, rfl⟩ | ⟨u, failure, canSend, refused⟩⟩ := h
    · exact ⟨hits, rfl⟩
    · exact (canSend.launch_ne ack failure refused).elim

/-- **A channel scan that passes its one check goes on, or answers with its hits.** -/
theorem scan_startScan (ready : s.ready = .ok ()) (first last : UInt8) (bytes : List UInt8) :
    (ofScan (s.startScan first last bytes)).2.Scanning ∧
      scan.Leaves (ofScan (s.startScan first last bytes)) := by
  -- its packet is new, and short because what does not fit was cut off
  have canSend : (s.withBytes bytes).CanSend ⟨s.buffers.count⟩ := by
    refine ⟨?_, Nat.lt_succ_of_lt (Nat.lt_succ_self _), ?_⟩
    · rw [ready_eq_ok_iff] at ready ⊢
      exact ready
    · rw [Activity.get_withBytes]
      exact Packet.short_put ..
  rcases sendRule_scan.startScan (fun _ _ => trivial) fun _ => canSend with
    ⟨failure, refused, unready⟩ | scans
  · exact absurd (ready.symm.trans unready) (by simp)
  · exact scan_of_scans scans

/-- **A look at a channel scan finds that it goes on, or its hits.** -/
theorem scan_checkSend {f : Flight} {rest : ChannelScan} (h : s.CanSend f.packet) :
    (s.checkSend f (.scan rest)).2.Scanning ∧ scan.Leaves (s.checkSend f (.scan rest)) := by
  have checked := sendRule_scan.checkFlight h
  have onlyStuck := s.checkFlight_stuck f
  unfold checkSend
  split
  · rename_i t f' found
    rw [found] at checked
    exact ⟨⟨f', rest, rfl⟩, rfl, checked.1⟩
  · rename_i t result found
    rw [found] at checked onlyStuck
    exact scan_of_scans (sendRule_scan.scoreScan checked (fun _ _ => trivial) onlyStuck)

/-- **Nothing comes in the way of a channel scan**, even if somebody reaches into the registers by
hand. -/
theorem scan_kept : scan.Kept True where
  start {s request} _ _ needs := by
    -- a send on its own is nothing to the scan, whatever it finds
    have sent : ∀ (packet ack : Buffer) (withAck : Bool) (u : Station),
        scan.Leaves (u.startSend packet ack withAck) := by
      intro packet ack withAck u
      unfold startSend
      split
      · trivial
      · trivial
      · exact ⟨rfl, trivial⟩
    cases request with
    | switchMode mode => exact leaves_asProgress _ trivial fun _ => ⟨rfl, trivial⟩
    | switchModeNamed name =>
      unfold start
      dsimp only
      split
      · exact leaves_asProgress _ trivial fun _ => ⟨rfl, trivial⟩
      · trivial
    | send packet ack => exact sent packet ack false s
    | sendPayload bytes => exact sent _ _ true (s.withBytes bytes)
    | scanChannels first last bytes =>
      cases ready : s.ready with
      | ok => exact (scan_startScan ready first last bytes).2
      | error failure =>
        show scan.Leaves (ofScan (s.startScan first last bytes))
        unfold startScan
        rw [ready]
        trivial
    | measureRssi channel => exact leaves_asProgress _ trivial fun _ => ⟨rfl, trivial⟩
    | scanPresence scanner channel window =>
      exact leaves_asProgress _ trivial fun _ => ⟨rfl, trivial⟩
    | testAmplifiers => exact absurd needs (by simp [Request.needsLock])
    | _ => trivial
  checkSend {s f purpose} h := by
    cases purpose with
    | scan rest => exact (scan_checkSend h).2
    | single withAck =>
      unfold checkSend
      split
      · exact ⟨rfl, trivial⟩
      · trivial
  checkSwitch _ := leaves_asProgress _ trivial fun _ => ⟨rfl, trivial⟩
  checkMeasurement _ := leaves_asProgress _ trivial fun _ => ⟨rfl, trivial⟩
  checkListening _ := leaves_asProgress _ trivial fun _ => ⟨rfl, trivial⟩
  drop _ _ := trivial
  free_aside _ _ := trivial
  held_aside {s t activity} beside h := by
    cases activity with
    | sending f purpose =>
      cases purpose with
      | scan rest => exact h.mono beside.allows
      | single withAck => trivial
    | _ => trivial

end Guard

end BurstLink
