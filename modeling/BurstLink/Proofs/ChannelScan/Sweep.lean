import BurstLink.Proofs.ChannelScan.Trial

/-! # A scan beside trials by hand

A channel scan keeps one packet and one acknowledgement buffer for all of its sends, holds the lock
from the first channel to the last, and goes on with the next channel in the look that ends the one
before. None of this shows: after every channel it has come as far as a row of trials by hand.

Main definitions:

* **`Station.afterTrials`** — the station that a row of trials leaves behind.
* **`Station.InStride`** — a scan and a row of trials have come equally far.

Main statements: one channel (`Station.InStride.lost`, `Station.InStride.spared`), and all the
channels that are left (`Station.InStride.scanOn`). -/

namespace BurstLink

/-! ## Hits -/

/-- The send was acknowledged. One that found the radio stuck was not. -/
def acknowledged : Except Failure Outcome → Bool
  | .ok outcome => outcome.acked
  | .error _ => false

/-- A trial that went as forecast is acknowledged if the forecast says so. -/
theorem Trial.acked_of_reply {trial : Trial} {forecast : Forecast}
    (reaction : trial.reaction = .finished ⟨none, forecast.reply true, none⟩) :
    trial.acked = acknowledged forecast.result := by
  unfold Trial.acked Forecast.reply at *
  rw [reaction]
  cases forecast.result <;> rfl

/-- The hits of a row of trials, by the first one. -/
theorem Trial.hits_cons (trial : Trial) (rest : List Trial) : Trial.hits (trial :: rest) =
    if trial.acked then trial.channel :: Trial.hits rest else Trial.hits rest := by
  unfold Trial.hits
  cases acked : trial.acked <;> simp [acked]

/-- A hit comes after those before it and before those after it. -/
theorem Trial.hits_append (acked : Bool) (channel : UInt8) (before later : List UInt8) :
    (if acked then before ++ [channel] else before) ++ later =
      before ++ if acked then channel :: later else later := by
  cases acked <;> simp

namespace Station

variable {s t t' s' : Station} {p a : Buffer} {bytes : List UInt8} {channel : UInt8} {f g : Flight}

/-- The station that a row of trials leaves behind. -/
def afterTrials (trials : List Trial) (s : Station) : Station :=
  (trials.getLast?.map Trial.after).getD s

/-- The later trials start where the first one ends. -/
theorem afterTrials_cons (trial : Trial) (rest : List Trial) (s : Station) :
    s.afterTrials (trial :: rest) = trial.after.afterTrials rest := by
  unfold afterTrials
  rw [List.getLast?_cons]
  cases rest.getLast? <;> rfl

/-- The trials of the channels that are left, by the first of them. -/
theorem trials_cons (bytes : List UInt8) (wanted : Nat) (channel : UInt8) (left : List UInt8)
    (s : Station) : s.trials bytes (wanted + 1) (channel :: left) =
      s.tryOn bytes channel :: (s.tryOn bytes channel).after.trials bytes
        (if (s.tryOn bytes channel).acked then wanted else wanted + 1) left := rfl

/-- Without channels none is tried. -/
theorem trials_nil (bytes : List UInt8) (wanted : Nat) (s : Station) :
    s.trials bytes wanted [] = [] := by
  cases wanted <;> rfl

/-- When no more hits are wanted, no channel is tried. -/
theorem trials_zero (bytes : List UInt8) (left : List UInt8) (s : Station) :
    s.trials bytes 0 left = [] := by
  cases left <;> rfl

/-! ## One channel -/

/-- Scoring a channel on which the send was acknowledged. -/
theorem scoreScan_of_acknowledged (f : Flight) (scan : ChannelScan)
    {result : Except Failure Outcome} (acked : acknowledged result = true) (s : Station) :
    s.scoreScan f scan result =
      if maxScanResults ≤ (scan.hits ++ [scan.channel]).length then
        s.endScan scan.first scan.last (scan.hits ++ [scan.channel])
      else
        s.scanOn f.packet f.ack scan.first scan.last (scan.hits ++ [scan.channel]) scan.left := by
  cases result with
  | error failure => exact absurd acked (by simp [acknowledged])
  | ok outcome =>
    have hit : outcome.acked = true := acked
    simp only [scoreScan, hit, if_true]

/-- Scoring a channel on which the send was not acknowledged, or found the radio stuck. -/
theorem scoreScan_of_unacknowledged (f : Flight) (scan : ChannelScan)
    {result : Except Failure Outcome}
    (usual : (∃ outcome, result = .ok outcome) ∨ result = .error .hardwareStuck)
    (missed : acknowledged result = false) (s : Station) :
    s.scoreScan f scan result =
      s.scanOn f.packet f.ack scan.first scan.last scan.hits scan.left := by
  rcases usual with ⟨outcome, rfl⟩ | rfl
  · have miss : outcome.acked = false := missed
    simp only [scoreScan, miss, Bool.false_eq_true, if_false]
  · rfl

/-- A scan has come as far as a row of trials: link, surroundings and signal strength are the same,
the link is on standby, and the packet is the payload with whatever identifier. -/
structure InStride (bytes : List UInt8) (packet : Buffer) (s t : Station) : Prop where
  standby : s.Standby True
  standby' : t.Standby True
  free : t.locked = false
  outlook : s.outlook = t.outlook
  loaded : (s.buffers.get packet).Alike (.carrying bytes)
  responsive : t.radio.air.unresponsive = false

/-- The outlook on another channel. -/
def Outlook.tune (channel : UInt8) (o : Outlook) : Outlook :=
  { o with link := { o.link with config := { o.link.config with channel := channel } } }

/-- Rounds that one send of a scan takes at most. -/
def sendRounds : Nat := 3 * 256 + exchangeTimeout + 1

namespace InStride

/-- The next channel of a scan and the next trial, with the same forecast. -/
structure Alike (forecast : Forecast) (u : Station) (trial : Trial) : Prop where
  acked : trial.acked = acknowledged forecast.result
  standby : trial.after.Standby True
  free : trial.after.locked = false
  outlook : ⟨forecast.link, forecast.air, u.rssiForecast⟩ = trial.after.outlook
  responsive : trial.after.radio.air.unresponsive = false
  room : u.losesPacket = false → u.HasRoomFor forecast

/-- A trial goes as the scan can tell before it sends. -/
theorem alike (h : InStride bytes p s t) (inRange : channel ≤ maxChannel)
    (fits : (t.tryOn bytes channel).fits = true) (ack : Packet) :
    Alike ((s.tune channel).forecast (s.buffers.get p) ack) (s.tune channel)
      (t.tryOn bytes channel) := by
  obtain ⟨-, before, sent⟩ := h.standby'.tryOn h.free inRange h.responsive bytes
  obtain ⟨reaction, standby, free, after, room⟩ := sent (Trial.not_overflow_of_fits fits)
  -- from here on it does not matter how the trial was made
  generalize t.tryOn bytes channel = trial at before reaction standby free after room ⊢
  have tuned : (s.tune channel).outlook = (t.tune channel).outlook :=
    congrArg (Outlook.tune channel) h.outlook
  have same := tuned.trans before.symm
  obtain ⟨result, outlook⟩ := forecast_of_outlook same h.loaded ack .empty
  have link : (s.tune channel).link = trial.before.link :=
    congrArg Outlook.link same
  have air : (s.tune channel).radio.air = trial.before.radio.air :=
    congrArg Outlook.air same
  have air' := congrArg Outlook.air outlook
  obtain ⟨-, -, -, responses, frames, sent'⟩ := forecasts (s.buffers.get p) ack (s.tune channel)
  have responsive : trial.after.radio.air.unresponsive =
      t.radio.air.unresponsive := by
    have left : trial.after.radio.air =
        ((s.tune channel).forecast (s.buffers.get p) ack).air :=
      congrArg Outlook.air (after.trans outlook.symm)
    have old : s.radio.air = t.radio.air := congrArg Outlook.air h.outlook
    rw [left, sent', ← old]
    rfl
  refine ⟨?_, standby, free, outlook.trans after.symm, responsive.trans h.responsive, ?_⟩
  · rw [result]
    exact Trial.acked_of_reply reaction
  · intro spared
    have spared' : trial.before.losesPacket = false := by
      unfold losesPacket at spared ⊢
      rw [← link]
      exact spared
    obtain ⟨notFull, few⟩ := room spared'
    refine ⟨air ▸ notFull, ?_⟩
    show (outlookAfterSend (s.buffers.get p) ack (s.tune channel)).air.history.length ≤ _
    rw [outlook, air]
    exact few

/-- The packet of a scan is short enough. -/
theorem short (h : InStride bytes p s t) : (s.buffers.get p).length.toNat ≤ maxPayload := by
  have same := congrArg Packet.length h.loaded.eq_with
  rw [same]
  exact Packet.length_carrying bytes

/-- **A channel on which the packet is lost.** -/
theorem lost (h : InStride bytes p s t) {trial : Trial}
    (like : Alike ((s.tune channel).forecast (s.buffers.get p) (s.buffers.get a))
      (s.tune channel) trial) (lost : (s.tune channel).losesPacket = true) :
    ∃ v, (s.tune channel).launch p a = (v, .lost) ∧ trial.acked = false ∧
      InStride bytes p v trial.after := by
  have standby : (s.tune channel).Standby True := (h.standby.tune channel).1
  have ready : (s.tune channel).ready = .ok () :=
    (ready_eq_ok_iff _).mpr ⟨standby.initialized, standby.noCarrier⟩
  have launched := launch_of_lost (a := a) ready h.short lost
  obtain ⟨-, forecast⟩ := startSend_of_lost (a := a) ready rfl rfl h.short lost false
  have forecast' : (s.tune channel).forecast (s.buffers.get p) (s.buffers.get a) = _ := forecast
  have rssi : (s.tune channel).rssiForecast = (s.tune channel).radio.rssi := by
    simp [rssiForecast, lost]
  rw [forecast'] at like
  refine ⟨_, launched, like.acked, ?_, like.standby, like.free, ?_, h.loaded, like.responsive⟩
  · exact (note_agree ..).standby ((draws_agree ..).standby standby)
  · rw [← like.outlook, rssi]
    rfl

/-- **A channel on which the packet is spared.** -/
theorem spared (h : InStride bytes p s t) (apart : p ≠ a) {trial : Trial}
    (like : Alike ((s.tune channel).forecast (s.buffers.get p) (s.buffers.get a))
      (s.tune channel) trial) (spared : (s.tune channel).losesPacket = false) :
    ∃ s₁ f, (s.tune channel).launch p a = (s₁, .flying f) ∧ f.packet = p ∧ f.ack = a ∧
      ∃ n < sendRounds, ∃ g t' s',
        (s₁.setLocked true).Landing ((s.tune channel).forecast (s.buffers.get p)
          (s.buffers.get a)) (s.tune channel).rssiForecast n f g t' s' ∧
        InStride bytes p s' trial.after := by
  have responsive : (s.tune channel).radio.air.unresponsive = false := by
    have air : s.radio.air = t.radio.air := congrArg Outlook.air h.outlook
    show s.radio.air.unresponsive = false
    rw [air]
    exact h.responsive
  have loaded : (s.tune channel).buffers.get p = s.buffers.get p := rfl
  have empty : (s.tune channel).buffers.get a = s.buffers.get a := rfl
  obtain ⟨s₁, f, launched, packet, ack, ends⟩ :=
    (h.standby.tune channel).1.launch_goesThrough apart loaded empty h.short spared responsive
  -- the trial was recorded in full, so the history has room for the send of the scan as well
  obtain ⟨-, n, few, g, t', s', landing⟩ :=
    ends.resolve_right fun overflows => overflows.1 (like.room spared)
  have outlook : s'.outlook = trial.after.outlook := landing.outlook.trans like.outlook
  have loaded : (s'.buffers.get p).Alike (.carrying bytes) := by
    rw [← packet, landing.fulfils.packet]
    exact (forecasts ..).payload.trans h.loaded
  have enough : n < sendRounds := by
    have attempts := (s.tune channel).link.config.attempts_le
    unfold sendRounds
    omega
  exact ⟨s₁, f, launched, packet, ack, n, enough, g, t', s', landing, landing.standby,
    like.standby, like.free, outlook, loaded, like.responsive⟩

end InStride

/-! ## All channels that are left -/

/-- A look at a send of a scan that finds it over: the scan goes on as it does after scoring it. -/
theorem Landing.endsAfter_scan {forecast : Forecast} {rssi : UInt8} {rounds more : Nat}
    {result : Result} {u : Station} (h : s.Landing forecast rssi rounds f g t s')
    (scan : ChannelScan)
    (rest : EndsAfter more (withLock (ofScan (s'.scoreScan g scan forecast.result))) result u) :
    EndsAfter (more + rounds + 1) (s, .waiting (.sending f (.scan scan))) result u := by
  have looked : (Activity.sending g (.scan scan)).poll t =
      withLock (ofScan (s'.scoreScan g scan forecast.result)) := by
    simp only [Activity.poll, checkSend, h.looked]
  rw [← looked] at rest
  exact .later ((h.reached _).alone rest.alone)

/-- How a scan ends beside the trials of the channels that are left: with the hits so far and
theirs, on standby, and with the outlook that they leave. -/
def SweepsAs (hits : List UInt8) (trials : List Trial) (patience : Nat) (found : Station × ScanLook)
    (t : Station) : Prop :=
  ∃ n ≤ patience, ∃ s', EndsAfter n (withLock (ofScan found))
      (.ok (.channels (hits ++ Trial.hits trials))) s' ∧
    s'.Standby True ∧ s'.outlook = (t.afterTrials trials).outlook

/-- A scan that is over. -/
theorem InStride.endScan (h : InStride bytes p s t) (first last : UInt8) (hits : List UInt8)
    (patience : Nat) : SweepsAs hits [] patience (s.endScan first last hits) t := by
  refine ⟨0, Nat.zero_le _, (s.note (.scanned first last hits.length)).setLocked false, ?_, ?_,
    h.outlook⟩
  · show EndsAfter 0 (_, .finished (.ok (.channels hits))) (.ok (.channels (hits ++ []))) _
    rw [List.append_nil]
    exact .now
  · exact (setLocked_agree ..).standby ((note_agree ..).standby h.standby)

/-- The transmission history has room for all trials of a row. -/
def Fit (trials : List Trial) : Prop := ∀ trial ∈ trials, trial.fits = true

/-- Scoring a channel, when it is known how the scan goes on from there: with the last hit that is
wanted the scan is over. -/
theorem InStride.scoreScan (h : InStride bytes p s t) (scan : ChannelScan) {wanted patience : Nat}
    (count : scan.hits.length + (wanted + 1) = maxScanResults)
    {result : Except Failure Outcome}
    (usual : (∃ outcome, result = .ok outcome) ∨ result = .error .hardwareStuck)
    (fit : Fit (t.trials bytes (if acknowledged result then wanted else wanted + 1) scan.left))
    (goesOn : ∀ {hits : List UInt8} {wanted : Nat}, hits.length + (wanted + 1) = maxScanResults →
      Fit (t.trials bytes (wanted + 1) scan.left) →
      SweepsAs hits (t.trials bytes (wanted + 1) scan.left) patience
        (s.scanOn g.packet g.ack scan.first scan.last hits scan.left) t) :
    SweepsAs (if acknowledged result then scan.hits ++ [scan.channel] else scan.hits)
      (t.trials bytes (if acknowledged result then wanted else wanted + 1) scan.left) patience
      (s.scoreScan g scan result) t := by
  cases acked : acknowledged result with
  | false =>
    simp only [acked, Bool.false_eq_true, if_false] at fit ⊢
    rw [scoreScan_of_unacknowledged g scan usual acked]
    exact goesOn count fit
  | true =>
    simp only [acked, if_true] at fit ⊢
    have more : (scan.hits ++ [scan.channel]).length = scan.hits.length + 1 := by simp
    rw [scoreScan_of_acknowledged g scan acked]
    -- the last hit that was wanted ends the scan before its last channel
    cases wanted with
    | zero =>
      rw [if_pos (by omega), trials_zero]
      exact h.endScan ..
    | succ wanted =>
      rw [if_neg (by omega)]
      exact goesOn (by omega) fit

/-- **A scan goes on as a row of trials does.** The induction is on the channels that are left; the
number of hits that are still wanted goes down with every hit. -/
theorem InStride.scanOn (h : InStride bytes p s t) (apart : p ≠ a) (first last : UInt8)
    {hits left : List UInt8} {wanted : Nat} (count : hits.length + (wanted + 1) = maxScanResults)
    (inRange : ∀ channel ∈ left, channel ≤ maxChannel)
    (fit : Fit (t.trials bytes (wanted + 1) left)) :
    SweepsAs hits (t.trials bytes (wanted + 1) left) (left.length * sendRounds)
      (s.scanOn p a first last hits left) t := by
  induction left generalizing s t hits wanted with
  | nil => exact h.endScan ..
  | cons channel left ih =>
    rw [trials_cons] at fit ⊢
    have like := h.alike (inRange channel (List.mem_cons_self ..)) (fit _ (List.mem_cons_self ..))
      (s.buffers.get a)
    have later : ∀ c ∈ left, c ≤ maxChannel := fun c member =>
      inRange c (List.mem_cons_of_mem _ member)
    have named : (t.tryOn bytes channel).channel = channel := rfl
    generalize t.tryOn bytes channel = trial at fit like named ⊢
    have fit' : Fit (trial.after.trials bytes (if trial.acked then wanted else wanted + 1) left) :=
      fun trial member => fit trial (List.mem_cons_of_mem _ member)
    have patience : left.length * sendRounds + sendRounds =
        (channel :: left).length * sendRounds := by
      rw [List.length_cons, Nat.succ_mul]
    unfold SweepsAs
    rw [afterTrials_cons, Trial.hits_cons, named, ← patience, Station.scanOn]
    cases lost : (s.tune channel).losesPacket with
    | true =>
      obtain ⟨v, launched, missed, stride⟩ := h.lost like lost
      simp only [missed, Bool.false_eq_true, if_false] at fit' ⊢
      obtain ⟨n, few, s', ends⟩ := ih stride count later fit'
      rw [launched]
      exact ⟨n, by omega, s', ends⟩
    | false =>
      obtain ⟨s₁, f, launched, packet, ack, n, few, g, t', s', landing, stride⟩ :=
        h.spared apart like lost
      have usual := (forecasts (s.buffers.get p) (s.buffers.get a) (s.tune channel)).result
      rw [like.acked] at fit' ⊢
      -- the look that ends this channel goes on with the next one
      obtain ⟨m, few', u, ends, standby, outlook⟩ :=
        stride.scoreScan ⟨first, last, channel, left, hits⟩ (g := g) count usual fit'
          fun count fit => by
            rw [landing.packet, landing.ack, packet, ack]
            exact ih stride count later fit
      rw [launched]
      refine ⟨m + n + 1, by omega, u, ?_, standby, outlook⟩
      have sent := landing.endsAfter_scan ⟨first, last, channel, left, hits⟩ ends
      rw [Trial.hits_append] at sent
      exact sent

end Station

end BurstLink
