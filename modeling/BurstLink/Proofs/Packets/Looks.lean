import BurstLink.Proofs.Packets.Spares

/-! # What a look does to packets

A look at an operation sends nothing, starts the exchange of the send in progress once more, or lets
a new send through. There is nothing else that it can do to packets, identifiers and the history, so
every fact about them is read off these cases.

Main definitions:

* **`Station.admits`** — a send passes the checks; **`Activity.admits`** — a look lets a send pass.
* **`Activity.buffers?`**, **`Activity.outgoing?`** — what is or will be sent, and from where.
* **`Activity.Traffic`** — the cases of a look.

Main statement: `Activity.poll_traffic`. -/

namespace BurstLink

/-! ## Sends that pass the checks -/

namespace Station

/-- A send of the packet in a buffer passes the checks: the link is ready, the packet is not too
long, and the loss simulation spares it. -/
def admits (packet : Buffer) (s : Station) : Bool :=
  s.ready.isOk && decide ((s.buffers.get packet).length.toNat ≤ maxPayload) &&
    !(s.drawLoss s.link.config.packetLossPercent).1

/-- On one of the channels that are left a send passes the checks, before the scan is over. Packets
that the simulation loses do not stop a scan. -/
def scanAdmits (packet ack : Buffer) : List UInt8 → Station → Bool
  | [], _ => false
  | channel :: left, s =>
    (s.tune channel).admits packet ||
      match (s.tune channel).launch packet ack with
      | (s, .lost) => scanAdmits packet ack left s
      | _ => false

/-- The station with a packet of the given bytes and an empty packet added to its buffers. -/
def withBytes (bytes : List UInt8) (s : Station) : Station :=
  { s with buffers := ((s.buffers.add (.ofPayload (.truncate bytes))).1.add .empty).1 }

/-- A request that starts lets a send pass before it waits or is over. -/
def startAdmits (request : Request) (s : Station) : Bool :=
  match request with
  | .send packet _ => s.admits packet
  | .sendPayload bytes => (s.withBytes bytes).admits ⟨s.buffers.count⟩
  | .scanChannels first last bytes =>
    s.ready.isOk && (s.withBytes bytes).scanAdmits ⟨s.buffers.count⟩ ⟨s.buffers.count + 1⟩
      (channelRange first last)
  | _ => false

end Station

/-- The channels that a scan goes on with when the channel being tried has its result. -/
def ChannelScan.onward (scan : ChannelScan) : Except Failure Outcome → List UInt8
  | .ok outcome =>
    if outcome.acked && decide (maxScanResults ≤ scan.hits.length + 1) then [] else scan.left
  | .error .hardwareStuck => scan.left
  | .error _ => []

/-- A look at a send in progress lets the next send of its scan pass. -/
def Station.checkAdmits (f : Flight) (purpose : Purpose) (s : Station) : Bool :=
  match s.checkFlight f, purpose with
  | (s, .finished result), .scan scan => s.scanAdmits f.packet f.ack (scan.onward result)
  | _, _ => false

namespace Activity

/-- A look lets a send pass: readiness, length and loss are checked in it, with success. -/
def admits (activity : Activity) (s : Station) : Bool :=
  match activity with
  | .queued request => request.answer?.isNone && !s.locked && s.startAdmits request
  | .sending f purpose => s.checkAdmits f purpose
  | _ => false

/-! ## What is sent -/

/-- The buffers of a send, for its packet and its acknowledgement. -/
def buffers? : Activity → Option (Buffer × Buffer)
  | .queued (.send packet ack) => some (packet, ack)
  | .sending f _ => some (f.packet, f.ack)
  | _ => none

/-- The packet that is or will be sent. -/
def outgoing? (activity : Activity) (s : Station) : Option Packet :=
  match activity with
  | .queued (.send packet _) => some (s.buffers.get packet)
  | .queued (.sendPayload bytes) => some (.ofPayload (.truncate bytes))
  | .queued (.scanChannels _ _ bytes) => some (.ofPayload (.truncate bytes))
  | .sending f _ => some (s.buffers.get f.packet)
  | _ => none

/-- The send in progress. -/
def flight? : Activity → Option Flight
  | .sending f _ => some f
  | _ => none

/-- The activity has a packet to send. -/
def sends : Activity → Bool
  | .queued (.send ..) => true
  | .queued (.sendPayload _) => true
  | .queued (.scanChannels ..) => true
  | .sending .. => true
  | _ => false

/-- The buffers of a send are two buffers of the station. -/
def Fits (activity : Activity) (s : Station) : Prop :=
  ∀ packet ack, activity.buffers? = some (packet, ack) →
    packet ≠ ack ∧ packet.index < s.buffers.count ∧ ack.index < s.buffers.count

/-- **What a look does to packets.** -/
inductive Traffic (activity : Activity) (s : Station) : Station × Progress → Prop
  /-- It finds nothing new. -/
  | unchanged {locked : Bool} (untaken : activity.flight?.isSome → s.completed = false)
      (refused : activity.admits s = false) :
      Traffic activity s (s.setLocked locked, .waiting activity)
  /-- It sends nothing, and what goes on is no send. -/
  | spared {t : Station} {progress : Progress} (kept : s.Spares t)
      (taken : activity.flight?.isSome → t.completed = false)
      (refused : activity.admits s = false)
      (goesOn : ∀ rest, progress = .waiting rest → activity.sends = false ∧ rest.sends = false) :
      Traffic activity s (t, progress)
  /-- It sends the packet of the send in progress once more. -/
  | repeated {u : Station} {f : Flight} {purpose : Purpose} (retries : Nat)
      (was : activity = .sending f purpose) (kept : s.Spares u)
      (refused : activity.admits s = false) :
      Traffic activity s ((u.fly { f with retries := retries }).1.setLocked true,
        .waiting (.sending (u.fly { f with retries := retries }).2 purpose))
  /-- It lets a send pass, with the buffers it has or with new ones. -/
  | admitted {u : Station} {packet ack : Buffer} (purpose : Purpose) (kept : s.Spares u)
      (passed : activity.admits s = true)
      (outgoing : activity.outgoing? s = some (u.buffers.get packet))
      (own : activity.buffers? = some (packet, ack) ∨ activity.buffers? = none ∧
        s.buffers.count ≤ packet.index ∧ s.buffers.count ≤ ack.index)
      (apart : packet ≠ ack)
      (known : packet.index < u.buffers.count ∧ ack.index < u.buffers.count) :
      Traffic activity s ((u.takeOff packet ack).1.setLocked true,
        .waiting (.sending (u.takeOff packet ack).2 purpose))

end Activity

namespace Station

variable {s t u : Station} {packet ack : Buffer}

/-! ## The start of a send -/

/-- A drawn loss is nothing to the packets. -/
theorem spares_drawLoss (percent : UInt8) (s : Station) : s.Spares (s.drawLoss percent).2 :=
  .of_eq rfl rfl rfl (.inl rfl)

/-- Neither is a change of the channel. -/
theorem spares_tune (channel : UInt8) (s : Station) : s.Spares (s.tune channel) :=
  .of_eq rfl rfl rfl (.inl rfl)

/-- The start of a send: it is refused, its packet gets lost, or it passes the checks and takes
off. -/
theorem launch_cases (packet ack : Buffer) (s : Station) :
    (∃ failure, s.launch packet ack = (s, .refused failure) ∧ s.admits packet = false) ∨
    (∃ t, s.launch packet ack = (t, .lost) ∧ s.Spares t ∧ s.admits packet = false) ∨
    ∃ t, s.launch packet ack = ((t.takeOff packet ack).1, .flying (t.takeOff packet ack).2) ∧
      s.Spares t ∧ s.admits packet = true := by
  unfold launch admits
  cases ready : s.ready with
  | error failure => exact .inl ⟨failure, rfl, rfl⟩
  | ok =>
    dsimp only
    by_cases long : maxPayload < (s.buffers.get packet).length.toNat
    · rw [if_pos long]
      exact .inl ⟨_, rfl, by simp [Nat.not_le.mpr long]⟩
    · rw [if_neg long]
      have drawn := s.spares_drawLoss s.link.config.packetLossPercent
      rcases draw : s.drawLoss s.link.config.packetLossPercent with ⟨_ | _, t⟩
      · rw [draw] at drawn
        exact .inr (.inr ⟨t, rfl, drawn,
          by simp [Except.isOk, Except.toBool, Nat.le_of_not_lt long]⟩)
      · rw [draw] at drawn
        exact .inr (.inl ⟨_, rfl, drawn.trans (spares_note ..), by simp⟩)

/-- A part of a scan: it is over without a send, or a send passes the checks. The induction is on
the channels that are left. -/
theorem scanOn_cases (packet ack : Buffer) (first last : UInt8) (hits left : List UInt8)
    (s : Station) :
    (∃ t result, s.scanOn packet ack first last hits left = (t, .finished result) ∧ s.Spares t ∧
      s.scanAdmits packet ack left = false) ∨
    ∃ t scan, s.scanOn packet ack first last hits left =
        ((t.takeOff packet ack).1, .waiting ((t.takeOff packet ack).2, scan)) ∧
      s.Spares t ∧ s.scanAdmits packet ack left = true := by
  induction left generalizing s with
  | nil => exact .inl ⟨_, _, rfl, spares_note .., rfl⟩
  | cons channel left ih =>
    have tuned := s.spares_tune channel
    unfold scanOn scanAdmits
    rcases (s.tune channel).launch_cases packet ack with
      ⟨failure, launched, refused⟩ | ⟨t, launched, lost, refused⟩ | ⟨t, launched, drawn, passed⟩
    · exact .inl ⟨_, _, by rw [launched], tuned, by rw [launched, refused]; rfl⟩
    · rw [launched, refused]
      rcases ih t with ⟨u, result, ended, kept, none'⟩ | ⟨u, scan, sent, kept, some'⟩
      · exact .inl ⟨u, result, ended, tuned.trans (lost.trans kept), none'⟩
      · exact .inr ⟨u, scan, sent, tuned.trans (lost.trans kept), some'⟩
    · exact .inr ⟨t, _, by rw [launched], tuned.trans drawn, by rw [passed]; rfl⟩

/-! ## A send in progress -/

/-- A send that has landed leaves every packet alone. -/
theorem spares_land (f : Flight) (acked : Bool) (s : Station) : s.Spares (s.land f acked).1 := by
  unfold land
  dsimp only
  split
  · have drawn := s.spares_drawLoss s.link.config.ackLossPercent
    rcases draw : s.drawLoss s.link.config.ackLossPercent with ⟨_ | _, t⟩
    · rw [draw] at drawn
      exact drawn
    · rw [draw] at drawn
      exact drawn.trans (spares_note ..)
  · rfl

/-- A look at a send in progress: it finds nothing new, starts the next exchange, or finds the
result; the sign of completion is down afterwards. -/
theorem checkFlight_cases (f : Flight) (s : Station) :
    (s.checkFlight f = (s, .waiting f) ∧ s.completed = false) ∨
    (∃ u retries, s.checkFlight f = ((u.fly { f with retries := retries }).1,
        .waiting (u.fly { f with retries := retries }).2) ∧ s.Spares u) ∨
    ∃ t result, s.checkFlight f = (t, .finished result) ∧ s.Spares t ∧ t.completed = false := by
  unfold checkFlight
  by_cases done : s.completed = true
  · rw [if_pos done]
    have finished : s.Spares s.finishExchange := .of_eq rfl rfl rfl (.inr rfl)
    have down : s.finishExchange.completed = false := rfl
    generalize s.finishExchange = t at finished down
    have landed : ∀ acked, s.Spares (t.land f acked).1 ∧ (t.land f acked).1.completed = false := by
      intro acked
      exact ⟨finished.trans (spares_land ..), (t.spares_land f acked).down down⟩
    dsimp only
    split
    · exact .inr (.inr ⟨_, _, rfl, landed true⟩)
    · split
      · exact .inr (.inl ⟨_, f.retries + 1, rfl, finished.trans (spares_note ..)⟩)
      · exact .inr (.inr ⟨_, _, rfl, landed false⟩)
  · rw [if_neg done]
    split
    · exact .inr (.inr ⟨_, _, rfl, (s.spares_note _).trans (spares_forceIdle ..), rfl⟩)
    · exact .inl ⟨rfl, by simpa using done⟩

/-- Going on with a scan is trying the channels that are left, if there are any to go on with. -/
theorem scoreScan_cases (f : Flight) (scan : ChannelScan) (result : Except Failure Outcome)
    (s : Station) :
    (∃ t result', s.scoreScan f scan result = (t, .finished result') ∧ s.Spares t ∧
      s.scanAdmits f.packet f.ack (scan.onward result) = false) ∨
    ∃ t scan', s.scoreScan f scan result =
        ((t.takeOff f.packet f.ack).1, .waiting ((t.takeOff f.packet f.ack).2, scan')) ∧
      s.Spares t ∧ s.scanAdmits f.packet f.ack (scan.onward result) = true := by
  rcases result with failure | outcome
  · cases failure with
    | hardwareStuck => exact scanOn_cases ..
    | _ => exact .inl ⟨s, _, rfl, .refl s, rfl⟩
  · unfold scoreScan ChannelScan.onward
    cases acked : outcome.acked with
    | false =>
      dsimp only
      rw [acked]
      exact scanOn_cases ..
    | true =>
      by_cases full : maxScanResults ≤ scan.hits.length + 1
      · have ended : s.Spares (s.endScan scan.first scan.last (scan.hits ++ [scan.channel])).1 :=
          spares_note ..
        exact .inl ⟨_, .ok (scan.hits ++ [scan.channel]), by simp [acked, full, endScan], ended,
          by simp [acked, full, scanAdmits]⟩
      · simp only [acked, full, List.length_append, List.length_cons, List.length_nil, if_true]
        exact scanOn_cases ..

end Station

/-! ## A look at an operation -/

namespace Activity

open Station

variable {s v : Station} {activity : Activity} {packet ack : Buffer}

/-- What goes on without a packet to send is no send as an operation either. -/
theorem sends_of_asProgress {ω α : Type} (name : ω → Activity) (result : α → Result)
    (found : Station × Look ω α) (silent : ∀ w, (name w).sends = false) (rest : Activity)
    (goesOn : (asProgress name result found).2 = .waiting rest) : rest.sends = false := by
  obtain ⟨t, w | a⟩ := found
  · rw [← Look.waiting.inj goesOn]
    exact silent w
  · exact absurd goesOn (by simp [asProgress, Look.map])

/-- A look that sends nothing under the lock, at an activity without a packet to send. -/
theorem traffic_of_spares {found : Station × Progress} (kept : s.Spares found.1)
    (silent : activity.sends = false)
    (goesOn : ∀ rest, found.2 = .waiting rest → rest.sends = false)
    (refused : activity.admits s = false) : activity.Traffic s (withLock found) := by
  have flightless : ¬activity.flight?.isSome := by
    cases activity with
    | sending f purpose => exact absurd silent (by simp [sends])
    | _ => simp [flight?]
  exact .spared (kept.trans (spares_setLocked ..)) (fun flying => absurd flying flightless) refused
    fun rest same => ⟨silent, goesOn rest same⟩

/-- A send that starts, on a station that has its buffers. -/
theorem traffic_startSend (queued : activity.flight? = none) (kept : s.Spares v)
    (checked : activity.admits s = v.admits packet)
    (outgoing : activity.outgoing? s = some (v.buffers.get packet))
    (own : activity.buffers? = some (packet, ack) ∨ activity.buffers? = none ∧
      s.buffers.count ≤ packet.index ∧ s.buffers.count ≤ ack.index)
    (apart : packet ≠ ack)
    (known : packet.index < v.buffers.count ∧ ack.index < v.buffers.count) (withAck : Bool) :
    activity.Traffic s (withLock (v.startSend packet ack withAck)) := by
  have flightless : ¬activity.flight?.isSome := by simp [queued]
  unfold startSend
  rcases v.launch_cases packet ack with
    ⟨failure, launched, refused⟩ | ⟨t, launched, lost, refused⟩ | ⟨t, launched, drawn, passed⟩
  · rw [launched]
    exact .spared (kept.trans (spares_setLocked ..)) (fun flying => absurd flying flightless)
      (checked.trans refused) fun rest goesOn => by cases goesOn
  · rw [launched]
    exact .spared (kept.trans (lost.trans (spares_setLocked ..)))
      (fun flying => absurd flying flightless) (checked.trans refused)
      fun rest goesOn => by cases goesOn
  · rw [launched]
    refine .admitted (.single withAck) (kept.trans drawn) (checked.trans passed) ?_ own apart
      ⟨Nat.lt_of_lt_of_le known.1 drawn.count, Nat.lt_of_lt_of_le known.2 drawn.count⟩
    rw [outgoing, drawn.packets packet known.1]

/-- A scan that tries the channels that are left, on a station that has its buffers. -/
theorem traffic_scan {found : Station × ScanLook} (kept : s.Spares v)
    (taken : activity.flight?.isSome → v.completed = false) {left : List UInt8}
    (checked : activity.admits s = v.scanAdmits packet ack left)
    (outgoing : activity.outgoing? s = some (v.buffers.get packet))
    (own : activity.buffers? = some (packet, ack) ∨ activity.buffers? = none ∧
      s.buffers.count ≤ packet.index ∧ s.buffers.count ≤ ack.index)
    (apart : packet ≠ ack)
    (known : packet.index < v.buffers.count ∧ ack.index < v.buffers.count)
    (cases : (∃ t result, found = (t, .finished result) ∧ v.Spares t ∧
        v.scanAdmits packet ack left = false) ∨
      ∃ t scan, found = ((t.takeOff packet ack).1, .waiting ((t.takeOff packet ack).2, scan)) ∧
        v.Spares t ∧ v.scanAdmits packet ack left = true) :
    activity.Traffic s (withLock (ofScan found)) := by
  rcases cases with ⟨t, result, rfl, over', refused⟩ | ⟨t, scan, rfl, tried, passed⟩
  · exact .spared (kept.trans (over'.trans (spares_setLocked ..)))
      (fun flying => over'.down (taken flying)) (checked.trans refused)
      fun rest goesOn => by cases goesOn
  · refine .admitted (.scan scan) (kept.trans tried) (checked.trans passed) ?_ own apart
      ⟨Nat.lt_of_lt_of_le known.1 tried.count, Nat.lt_of_lt_of_le known.2 tried.count⟩
    rw [outgoing, tried.packets packet known.1]

/-! ### Operations that start -/

/-- Adding the two buffers of a send leaves those that there were alone. -/
theorem spares_withBytes (bytes : List UInt8) (s : Station) : s.Spares (s.withBytes bytes) :=
  (s.spares_addBuffer _).trans (spares_addBuffer _ _)

/-- The first of the two buffers holds the bytes. -/
theorem get_withBytes (bytes : List UInt8) (s : Station) :
    (s.withBytes bytes).buffers.get ⟨s.buffers.count⟩ = .ofPayload (.truncate bytes) :=
  Pool.get_add_add s.buffers _ _

/-- A request that is no send touches no packet. -/
theorem spares_start {request : Request} (regular : request.Regular)
    (silent : (queued request).sends = false) (s : Station) :
    s.Spares (s.start request).1 ∧
      ∀ rest, (s.start request).2 = .waiting rest → rest.sends = false := by
  cases request with
  | switchMode mode => exact ⟨spares_startSwitch .., sends_of_asProgress _ _ _ fun _ => rfl⟩
  | switchModeNamed name =>
    unfold start
    dsimp only
    split
    · exact ⟨spares_startSwitch .., sends_of_asProgress _ _ _ fun _ => rfl⟩
    · exact ⟨.refl s, fun rest goesOn => by cases goesOn⟩
  | readConfig => exact ⟨.refl s, fun rest goesOn => by cases goesOn⟩
  | configure config =>
    exact ⟨(spares_storeConfig ..).trans (spares_note ..), fun rest goesOn => by cases goesOn⟩
  | change change =>
    exact ⟨(spares_storeConfig ..).trans (spares_note ..), fun rest goesOn => by cases goesOn⟩
  | setPowerLevel level =>
    exact ⟨(spares_note ..).trans (spares_onFrontEnd ..), fun rest goesOn => by cases goesOn⟩
  | toggleCarrier on => exact ⟨spares_toggleCarrier .., fun rest goesOn => by cases goesOn⟩
  | startCarrier channel => exact ⟨spares_startCarrier .., fun rest goesOn => by cases goesOn⟩
  | stopCarrier => exact ⟨spares_stopCarrier _, fun rest goesOn => by cases goesOn⟩
  | measureRssi channel => exact ⟨spares_startMeasurement .., sends_of_asProgress _ _ _ fun _ => rfl⟩
  | scanPresence scanner channel window =>
    exact ⟨spares_startListening .., sends_of_asProgress _ _ _ fun _ => rfl⟩
  | testAmplifiers => exact absurd regular id
  | _ => exact absurd silent (by simp [sends])

/-- A request that starts under the lock. -/
theorem traffic_start {request : Request} (regular : request.Regular)
    (fits : (queued request).Fits s) (undecided : request.answer? = none)
    (free : s.locked = false) : (queued request).Traffic s (withLock (s.start request)) := by
  have checked : (queued request).admits s = s.startAdmits request := by
    simp [admits, undecided, free]
  have added : (⟨s.buffers.count⟩ : Buffer) ≠ ⟨s.buffers.count + 1⟩ := by simp
  -- three requests send; the other ones have nothing to do with packets
  by_cases silent : (queued request).sends = false
  · obtain ⟨kept, goesOn⟩ := spares_start regular silent s
    refine traffic_of_spares kept silent goesOn (checked.trans ?_)
    cases request with
    | send => exact absurd silent (by simp [sends])
    | sendPayload => exact absurd silent (by simp [sends])
    | scanChannels => exact absurd silent (by simp [sends])
    | _ => rfl
  · cases request with
    | send packet ack =>
      obtain ⟨apart, known⟩ := fits packet ack rfl
      exact traffic_startSend rfl (.refl s) checked rfl (.inl rfl) apart known false
    | sendPayload bytes =>
      -- the payload comes in a buffer of its own, added behind those that exist
      refine traffic_startSend (v := s.withBytes bytes) rfl (spares_withBytes bytes s) checked
        (congrArg some (get_withBytes bytes s).symm)
        (.inr ⟨rfl, Nat.le_refl _, Nat.le_succ _⟩) added ⟨?_, ?_⟩ true
      · exact Nat.lt_succ_of_lt (Nat.lt_succ_self _)
      · exact Nat.lt_succ_self _
    | scanChannels first last bytes =>
      have started : s.start (.scanChannels first last bytes) =
          ofScan (s.startScan first last bytes) := rfl
      rw [started]
      unfold startScan
      cases ready : s.ready with
      | error failure =>
        refine .spared (spares_setLocked false s) (by simp [flight?]) (checked.trans ?_)
          fun rest goesOn => by cases goesOn
        simp [startAdmits, ready, Except.isOk, Except.toBool]
      | ok =>
        refine traffic_scan (spares_withBytes bytes s) (by simp [flight?])
          (checked.trans ?_) (congrArg some (get_withBytes bytes s).symm)
          (.inr ⟨rfl, Nat.le_refl _, Nat.le_succ _⟩) added ⟨?_, ?_⟩ (scanOn_cases ..)
        · simp [startAdmits, ready, Except.isOk, Except.toBool]
        · exact Nat.lt_succ_of_lt (Nat.lt_succ_self _)
        · exact Nat.lt_succ_self _
    | _ => exact absurd rfl silent

/-! ### Operations in progress -/

/-- A send in progress. -/
theorem traffic_checkSend {f : Flight} {purpose : Purpose} (fits : (sending f purpose).Fits s) :
    (sending f purpose).Traffic s (withLock (s.checkSend f purpose)) := by
  obtain ⟨apart, known⟩ := fits f.packet f.ack rfl
  have checked : (sending f purpose).admits s = s.checkAdmits f purpose := rfl
  unfold checkSend
  unfold checkAdmits at checked
  rcases s.checkFlight_cases f with
    ⟨found, untaken⟩ | ⟨u, retries, found, kept⟩ | ⟨t, result, found, kept, down⟩
  · rw [found] at checked ⊢
    exact .unchanged (fun _ => untaken) checked
  · rw [found] at checked ⊢
    exact .repeated retries rfl kept checked
  · rw [found] at checked ⊢
    cases purpose with
    | single withAck =>
      exact .spared (kept.trans (spares_setLocked ..)) (fun _ => down) checked
        fun rest goesOn => by cases goesOn
    | scan scan =>
      exact traffic_scan kept (fun _ => down) checked
        (congrArg some (kept.packets _ known.1).symm) (.inl rfl) apart
        ⟨Nat.lt_of_lt_of_le known.1 kept.count, Nat.lt_of_lt_of_le known.2 kept.count⟩
        (scoreScan_cases ..)

/-- **A look at an operation sends nothing, repeats the send in progress, or lets a send pass.** -/
theorem poll_traffic (regular : activity.Regular) (fits : activity.Fits s) :
    activity.Traffic s (activity.poll s) := by
  cases activity with
  | queued request =>
    cases decided : request.answer? with
    | some result =>
      rw [poll_queued_of_answer? decided]
      exact .spared (.refl s) (by simp [flight?]) (by simp [admits, decided])
        fun rest goesOn => by cases goesOn
    | none =>
      -- a request that waits for the lock does nothing yet
      by_cases busy : s.locked = true
      · rw [poll_queued_of_locked busy decided (Regular.needsLock regular)]
        show (queued request).Traffic s (s.setLocked s.locked, .waiting (queued request))
        exact .unchanged (by simp [flight?]) (by simp [admits, busy])
      · have free : s.locked = false := by simpa using busy
        rw [poll_queued_of_free free decided (Regular.needsLock regular)]
        exact traffic_start regular fits decided free
  | sending f purpose => exact traffic_checkSend fits
  | switching t =>
    exact traffic_of_spares (spares_checkSwitch ..) rfl (sends_of_asProgress _ _ _ fun _ => rfl) rfl
  | measuring m =>
    exact traffic_of_spares (spares_checkMeasurement ..) rfl
      (sends_of_asProgress _ _ _ fun _ => rfl) rfl
  | listening l =>
    exact traffic_of_spares (spares_checkListening ..) rfl
      (sends_of_asProgress _ _ _ fun _ => rfl) rfl
  | testing t => exact absurd regular id

end Activity

end BurstLink
