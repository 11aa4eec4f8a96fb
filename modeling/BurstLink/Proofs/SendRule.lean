import BurstLink.Proofs.Footprint
import BurstLink.Proofs.Guard
import BurstLink.Proofs.Packets.Looks

/-! # A rule for everything that sends

Sends of their own, repeated exchanges and channel scans are made of the same few steps. To follow a
property through all of them it is enough to say what holds between sends and what during one, and
to show that each step leads from one to the other.

Main definitions:

* **`SendRule`** — the steps, with what holds before and after each of them.
* **`Purpose.Within`** — the channels that a scan has left are among the given ones.

Main statements: what follows for the start of a send, for a scan that goes on, and for a look at an
operation that sends (`SendRule.startSend`, `SendRule.startScan`, `SendRule.checkSend`). -/

namespace BurstLink

/-- The channels that the send is still to try are among the given ones. -/
def Purpose.Within (channels : UInt8 → Prop) : Purpose → Prop
  | .single _ => True
  | .scan rest => ∀ channel ∈ rest.left, channels channel

/-- No channel is ruled out. -/
theorem Purpose.within_true (purpose : Purpose) : purpose.Within fun _ => True := by
  cases purpose with
  | single withAck => trivial
  | scan rest => exact fun _ _ => trivial

/-- What holds between sends of a packet, with a buffer for its acknowledgement, and what holds
during a send, with the steps that lead from one to the other. A scan moves the link to the given
channels only. -/
structure SendRule (channels : UInt8 → Prop) (between : Buffer → Buffer → Station → Prop)
    (during : Flight → Station → Prop) : Prop where
  noted : ∀ {packet ack s} (notice : Notice), between packet ack s →
    between packet ack (s.note notice)
  drawn : ∀ {packet ack s} (percent : UInt8), between packet ack s →
    between packet ack (s.drawLoss percent).2
  tune : ∀ {packet ack s channel}, channels channel → between packet ack s →
    between packet ack (s.tune channel)
  takeOff : ∀ {packet ack s}, s.ready = .ok () → between packet ack s →
    during (s.takeOff packet ack).2 (s.takeOff packet ack).1
  finish : ∀ {f s}, s.completed = true → during f s → between f.packet f.ack s.finishExchange
  again : ∀ {f s} (notice : Notice), s.completed = true → f.retries + 1 < f.config.attempts →
    during f s →
      during ((s.finishExchange.note notice).fly { f with retries := f.retries + 1 }).2
        ((s.finishExchange.note notice).fly { f with retries := f.retries + 1 }).1
  stuck : ∀ {f s} (notice : Notice), s.completed = false → f.deadline ≤ s.clock → during f s →
    between f.packet f.ack ((s.note notice).forceIdle f.config)

/-- A look at a send finds no failure but the one of an exchange that got stuck. -/
theorem Station.checkFlight_stuck (f : Flight) (s : Station) :
    (s.checkFlight f).2.Meets (fun _ => True)
      fun result => ∀ failure, result = .error failure → failure = .hardwareStuck := by
  have landed : ∀ acked (u : Station) failure, (u.land f acked).2 ≠ .error failure := by
    intro acked u failure
    unfold land
    dsimp only
    split
    · split <;> simp
    · simp
  unfold checkFlight
  split
  · dsimp only
    split
    · exact fun failure failed => absurd failed (landed _ _ failure)
    · split
      · trivial
      · exact fun failure failed => absurd failed (landed _ _ failure)
  · split
    · exact fun failure failed => (Except.error.inj failed).symm
    · trivial

namespace SendRule

open Station

variable {channels : UInt8 → Prop} {between : Buffer → Buffer → Station → Prop}
  {during : Flight → Station → Prop} {packet ack : Buffer} {s : Station} {f : Flight}

/-! ## One send -/

/-- What the start of a send leaves. -/
def Launches (between : Buffer → Buffer → Station → Prop) (during : Flight → Station → Prop)
    (packet ack : Buffer) (s : Station) : Station × Launch → Prop
  | (t, .refused _) => t = s
  | (t, .lost) => between packet ack t
  | (t, .flying f) => during f t ∧ f.packet = packet ∧ f.ack = ack

/-- A launch goes by the rule: what it leaves satisfies one of the two conditions. -/
theorem launch (rule : SendRule channels between during) (h : between packet ack s) :
    Launches between during packet ack s (s.launch packet ack) := by
  unfold Station.launch
  split
  · exact rfl
  · rename_i ready
    dsimp only
    split
    · exact rfl
    · have drawn := rule.drawn s.link.config.packetLossPercent h
      split
      · rename_i t draw
        rw [draw] at drawn
        exact rule.noted _ drawn
      · rename_i t draw
        rw [draw] at drawn
        obtain rfl := (Prod.mk.inj draw).2
        exact ⟨rule.takeOff ready drawn, rfl, rfl⟩

/-- Ending a send draws whether its acknowledgement gets lost. -/
theorem land (rule : SendRule channels between during) (h : between packet ack s) (f : Flight)
    (acked : Bool) : between packet ack (s.land f acked).1 := by
  unfold Station.land
  dsimp only
  split
  · have drawn := rule.drawn s.link.config.ackLossPercent h
    split
    · rename_i t draw
      rw [draw] at drawn
      exact rule.noted _ drawn
    · rename_i t draw
      rw [draw] at drawn
      exact drawn
  · exact h

/-- A send that is looked at goes on with the same buffers, or is over. -/
theorem checkFlight (rule : SendRule channels between during) (h : during f s) :
    (s.checkFlight f).2.Meets
      (fun f' => during f' (s.checkFlight f).1 ∧ f'.packet = f.packet ∧ f'.ack = f.ack)
      fun _ => between f.packet f.ack (s.checkFlight f).1 := by
  unfold Station.checkFlight
  split
  · rename_i done
    have finished := rule.finish done h
    dsimp only
    split
    · exact rule.land finished f true
    · split
      · rename_i more
        exact ⟨rule.again (.retry (f.retries + 1) f.pid) done more h, rfl, rfl⟩
      · exact rule.land finished f false
  · rename_i unfinished
    split
    · rename_i late
      exact rule.stuck .exchangeStuck (Bool.not_eq_true _ ▸ unfinished) late h
    · exact ⟨h, rfl, rfl⟩

/-! ## Channel scans -/

/-- What a part of a scan leaves: a send with the same buffers, which has channels left that the
scan had, or a result, which is the hits unless a send was refused. -/
def Scans (channels : UInt8 → Prop) (between : Buffer → Buffer → Station → Prop)
    (during : Flight → Station → Prop) (packet ack : Buffer) (found : Station × ScanLook) : Prop :=
  found.2.Meets
    (fun rest => during rest.1 found.1 ∧ rest.1.packet = packet ∧ rest.1.ack = ack ∧
      ∀ channel ∈ rest.2.left, channels channel)
    fun result => between packet ack found.1 ∧ ((∃ hits, result = .ok hits) ∨
      ∃ t failure, between packet ack t ∧ t.launch packet ack = (t, .refused failure))

/-- A scan that goes on. The induction is on the channels that are left. -/
theorem scanOn (rule : SendRule channels between during) (h : between packet ack s)
    (first last : UInt8) (hits : List UInt8) {left : List UInt8}
    (within : ∀ channel ∈ left, channels channel) :
    Scans channels between during packet ack (s.scanOn packet ack first last hits left) := by
  induction left generalizing s with
  | nil => exact ⟨rule.noted _ h, .inl ⟨hits, rfl⟩⟩
  | cons channel left ih =>
    have tuned := rule.tune (within channel (by simp)) h
    have launched := rule.launch tuned
    have later : ∀ channel ∈ left, channels channel := fun channel member =>
      within channel (by simp [member])
    unfold Station.scanOn
    split
    · -- a refusal ends the scan before anything else has happened
      rename_i t failure found
      rw [found] at launched
      have same : t = s.tune channel := launched
      rw [← same] at tuned found
      exact ⟨tuned, .inr ⟨t, failure, tuned, found⟩⟩
    · rename_i t found
      rw [found] at launched
      exact ih launched later
    · rename_i t f found
      rw [found] at launched
      exact ⟨launched.1, launched.2.1, launched.2.2, later⟩

/-- A scan that scores a channel. Only a send that got stuck is scored without an outcome. -/
theorem scoreScan (rule : SendRule channels between during) (h : between f.packet f.ack s)
    {scan : ChannelScan} (within : ∀ channel ∈ scan.left, channels channel)
    {result : Except Failure Outcome} (stuck : ∀ failure, result = .error failure →
      failure = .hardwareStuck) :
    Scans channels between during f.packet f.ack (s.scoreScan f scan result) := by
  have goOn : ∀ hits, Scans channels between during f.packet f.ack
      (s.scanOn f.packet f.ack scan.first scan.last hits scan.left) := fun hits =>
    rule.scanOn h scan.first scan.last hits within
  unfold Station.scoreScan
  split
  · split
    · dsimp only
      split
      · exact ⟨rule.noted _ h, .inl ⟨_, rfl⟩⟩
      · exact goOn _
    · exact goOn _
  · exact goOn _
  · -- any other failure would end the scan, but there is none
    rename_i failure other
    exact absurd (stuck failure rfl) other

/-! ## Operations that send -/

/-- What a look at an operation that sends leaves: it is sending, or it is over. -/
def Sends (channels : UInt8 → Prop) (between : Buffer → Buffer → Station → Prop)
    (during : Flight → Station → Prop) (found : Station × Progress) : Prop :=
  found.2.Meets
    (fun activity => ∃ f purpose, activity = .sending f purpose ∧ purpose.Within channels ∧
      during f found.1)
    fun _ => ∃ packet ack, between packet ack found.1

/-- An operation that sends leaves a guard that asks for no more than the rule tells. -/
theorem Sends.leaves {g : Guard} {found : Station × Progress}
    (h : Sends channels between during found)
    (waits : ∀ {f purpose t}, purpose.Within channels → during f t → g.held (.sending f purpose) t)
    (ends : ∀ {packet ack t}, between packet ack t → g.free t) : g.Leaves found := by
  refine Look.Meets.imp h ?_ ?_
  · rintro _ ⟨f, purpose, rfl, within, sending⟩
    exact ⟨rfl, waits within sending⟩
  · rintro _ ⟨packet, ack, ended⟩
    exact ends ended

/-- A scan as an operation. -/
theorem sends_ofScan {found : Station × ScanLook}
    (h : Scans channels between during packet ack found) :
    Sends channels between during (ofScan found) := by
  unfold Sends ofScan asProgress
  rw [Look.meets_map]
  exact Look.Meets.imp h (fun rest scans => ⟨rest.1, .scan rest.2, rfl, scans.2.2.2, scans.1⟩)
    fun _ ended => ⟨packet, ack, ended.1⟩

/-- **A look at an operation that sends.** -/
theorem checkSend (rule : SendRule channels between during) (h : during f s) {purpose : Purpose}
    (within : purpose.Within channels) :
    Sends channels between during (s.checkSend f purpose) := by
  have checked := rule.checkFlight h
  have onlyStuck := s.checkFlight_stuck f
  unfold Station.checkSend
  split
  · rename_i t f' found
    rw [found] at checked
    exact ⟨f', purpose, rfl, within, checked.1⟩
  · rename_i t result found
    rw [found] at checked onlyStuck
    cases purpose with
    | single withAck => exact ⟨f.packet, f.ack, checked⟩
    | scan scan => exact sends_ofScan (rule.scoreScan checked within onlyStuck)

/-- **A send that starts.** One that is refused leaves the station as it was. -/
theorem startSend (rule : SendRule channels between during) (h : between packet ack s)
    (withAck : Bool) : Sends channels between during (s.startSend packet ack withAck) := by
  have launched := rule.launch h
  unfold Station.startSend
  split
  · rename_i t failure found
    rw [found] at launched
    have same : t = s := launched
    exact ⟨packet, ack, by rw [same]; exact h⟩
  · rename_i t found
    rw [found] at launched
    exact ⟨packet, ack, launched⟩
  · rename_i t f found
    rw [found] at launched
    exact ⟨f, .single withAck, rfl, trivial, launched.1⟩

/-- **A scan that starts**: it is refused before it has added its packets, or it sends with them. -/
theorem startScan (rule : SendRule channels between during) {first last : UInt8}
    {payload : List UInt8} (within : ∀ channel ∈ channelRange first last, channels channel)
    (h : s.ready = .ok () →
      between ⟨s.buffers.count⟩ ⟨s.buffers.count + 1⟩ (s.withBytes payload)) :
    (∃ failure, s.startScan first last payload = (s, .finished (.error failure)) ∧
      s.ready = .error failure) ∨
    Scans channels between during ⟨s.buffers.count⟩ ⟨s.buffers.count + 1⟩
      (s.startScan first last payload) := by
  unfold Station.startScan
  split
  · rename_i failure refused
    exact .inl ⟨failure, rfl, refused⟩
  · rename_i ready
    exact .inr (rule.scanOn (h ready) first last [] within)

end SendRule

end BurstLink
