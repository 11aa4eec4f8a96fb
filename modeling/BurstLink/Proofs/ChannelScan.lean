import BurstLink.Proofs.ChannelScan.Sweep
import BurstLink.Proofs.Configuration.Bounds
import BurstLink.Proofs.Released

/-! # A channel scan is a fold of sends

Who scans a range of channels gets what trying them by hand brings: the channels that acknowledged
a send of their own, in ascending order. The sends share one script, one row of random words, one
counter of identifiers and one signal strength register; a channel on which the radio gets stuck
does not acknowledge; and the scan ends with the last channel of the range or the last hit that
there is space for.

Main definitions:

* **`Trial.frames`** — what a trial put on air.
* **`Bench.ScansAs`** — a scan is answered, and leaves the bench, as a row of trials says.

Main statement: `Bench.Reachable.scan_eq_trials`. -/

namespace BurstLink

/-! ## The channels of a range -/

/-- A range has as many channels as lie between its ends, both included. -/
theorem length_channelRange (first last : UInt8) :
    (channelRange first last).length = last.toNat + 1 - first.toNat := by
  simp [channelRange]

/-- The channels of a range by their position: one after the other, from the first. -/
theorem toNat_of_getElem?_channelRange {first last channel : UInt8} {i : Nat}
    (there : (channelRange first last)[i]? = some channel) :
    channel.toNat = first.toNat + i := by
  obtain ⟨inside, rfl⟩ := List.getElem?_eq_some_iff.mp there
  rw [length_channelRange] at inside
  have small : first.toNat + i < 256 := by
    have bound := last.toNat_lt
    omega
  simp only [channelRange, List.getElem_map, List.getElem_range', Nat.one_mul]
  rw [UInt8.toNat_ofNat', Nat.mod_eq_of_lt small]

/-- The channels of a range ascend strictly. -/
theorem pairwise_channelRange (first last : UInt8) :
    (channelRange first last).Pairwise (· < ·) := by
  rw [List.pairwise_iff_getElem]
  intro i j hi hj before
  have lower := toNat_of_getElem?_channelRange (List.getElem?_eq_getElem hi)
  have upper := toNat_of_getElem?_channelRange (List.getElem?_eq_getElem hj)
  show (channelRange first last)[i].toNat < (channelRange first last)[j].toNat
  omega

/-- No channel of a range lies above its end. -/
theorem le_maxChannel_of_mem_channelRange {first last : UInt8} (inRange : last ≤ maxChannel) :
    ∀ channel ∈ channelRange first last, channel ≤ maxChannel := by
  intro channel member
  exact UInt8.le_trans (le_of_mem_channelRange member) inRange

/-! ## The channels that are tried -/

namespace Station

variable {s : Station} {bytes : List UInt8} {channel : UInt8} {left : List UInt8} {wanted : Nat}

/-- Channels are tried in their order, from the first one. -/
theorem channels_of_trials (bytes : List UInt8) (wanted : Nat) (left : List UInt8) (s : Station) :
    (s.trials bytes wanted left).map Trial.channel <+: left := by
  induction left generalizing wanted s with
  | nil =>
    rw [trials_nil]
    exact List.nil_prefix
  | cons channel left ih =>
    cases wanted with
    | zero => exact List.nil_prefix
    | succ wanted =>
      rw [trials_cons, List.map_cons]
      exact List.cons_prefix_cons.mpr ⟨rfl, ih ..⟩

/-- A row of trials ends after the last channel, with fewer hits than are wanted, or with the last
hit that is wanted. -/
theorem trials_stop (bytes : List UInt8) (wanted : Nat) (left : List UInt8) (s : Station) :
    let trials := s.trials bytes (wanted + 1) left
    trials.map Trial.channel = left ∧ (Trial.hits trials).length < wanted + 1 ∨
      (∃ final, trials.getLast? = some final ∧ final.acked = true) ∧
        (Trial.hits trials).length = wanted + 1 := by
  induction left generalizing wanted s with
  | nil => exact .inl ⟨rfl, Nat.succ_pos _⟩
  | cons channel left ih =>
    intro trials
    have cut : trials = _ := trials_cons bytes wanted channel left s
    have named : (s.tryOn bytes channel).channel = channel := rfl
    generalize s.tryOn bytes channel = trial at cut named
    rw [cut, List.map_cons, Trial.hits_cons, List.getLast?_cons, named]
    cases acked : trial.acked with
    | false =>
      simp only [Bool.false_eq_true, if_false]
      rcases ih wanted trial.after with ⟨all, few⟩ | ⟨⟨final, last, hit⟩, enough⟩
      · exact .inl ⟨by rw [all], few⟩
      · exact .inr ⟨⟨final, by rw [last]; rfl, hit⟩, enough⟩
    | true =>
      simp only [if_true, List.length_cons]
      -- the last hit that is wanted ends the row, even if it is on the last channel
      cases wanted with
      | zero =>
        rw [trials_zero]
        exact .inr ⟨⟨trial, rfl, acked⟩, rfl⟩
      | succ wanted =>
        rcases ih wanted trial.after with ⟨all, few⟩ | ⟨⟨final, last, hit⟩, enough⟩
        · exact .inl ⟨by rw [all], by omega⟩
        · exact .inr ⟨⟨final, by rw [last]; rfl, hit⟩, by omega⟩

/-- The channels of a range are tried one after the other, from the first. -/
theorem trials_inOrder (bytes : List UInt8) (wanted : Nat) (first last : UInt8) (s : Station) :
    ∀ i trial, (s.trials bytes wanted (channelRange first last))[i]? = some trial →
      trial.channel.toNat = first.toNat + i := by
  intro i trial there
  obtain ⟨later, all⟩ := channels_of_trials bytes wanted (channelRange first last) s
  have inside : i < (s.trials bytes wanted (channelRange first last)).length :=
    (List.getElem?_eq_some_iff.mp there).1
  have there' : (channelRange first last)[i]? = some trial.channel := by
    rw [← all, List.getElem?_append_left (by rwa [List.length_map]), List.getElem?_map, there]
    rfl
  exact toNat_of_getElem?_channelRange there'

/-- The hits in a range ascend strictly. -/
theorem pairwise_hits_trials (bytes : List UInt8) (wanted : Nat) (first last : UInt8)
    (s : Station) :
    (Trial.hits (s.trials bytes wanted (channelRange first last))).Pairwise (· < ·) := by
  have hits := (List.filter_sublist (p := Trial.acked)
    (l := s.trials bytes wanted (channelRange first last))).map Trial.channel
  have tried := (channels_of_trials bytes wanted (channelRange first last) s).sublist
  exact (pairwise_channelRange first last).sublist (hits.trans tried)

/-- The trials in a range end with its last channel or with the last hit that is wanted. -/
theorem trials_end (bytes : List UInt8) (wanted : Nat) {first last : UInt8} (ordered : first ≤ last)
    (s : Station) :
    let trials := s.trials bytes (wanted + 1) (channelRange first last)
    ∃ final, trials.getLast? = some final ∧
      (final.channel = last ∧ (Trial.hits trials).length < wanted + 1 ∨
        final.acked = true ∧ (Trial.hits trials).length = wanted + 1) := by
  intro trials
  rcases trials_stop bytes wanted (channelRange first last) s with
    ⟨all, few⟩ | ⟨⟨final, last', hit⟩, enough⟩
  · have count : trials.length = last.toNat + 1 - first.toNat := by
      have same := congrArg List.length all
      rwa [List.length_map, length_channelRange] at same
    have ordered' : first.toNat ≤ last.toNat := ordered
    have inside : trials.length - 1 < trials.length := by omega
    have there := List.getElem?_eq_getElem inside
    have channel := s.trials_inOrder bytes (wanted + 1) first last _ _ there
    refine ⟨trials[trials.length - 1], by rw [List.getLast?_eq_getElem?, there], .inl ⟨?_, few⟩⟩
    exact UInt8.toNat_inj.mp (by omega)
  · exact ⟨final, last', .inr ⟨hit, enough⟩⟩

end Station

/-! ## What trials leave -/

namespace Trial

/-- What a trial put on air. -/
def frames (trial : Trial) : List Frame :=
  trial.after.radio.air.history.drop trial.before.radio.air.history.length

/-- The send ended with an outcome, or with a radio that got stuck. -/
def Answered (trial : Trial) : Prop :=
  (∃ outcome ack, trial.reaction = .finished ⟨none, .ok (.exchanged outcome ack), none⟩) ∨
    trial.reaction = .finished ⟨none, .error .hardwareStuck, none⟩

/-- What a trial that fits into the transmission history makes of a station. -/
structure Follows (s : Station) (trial : Trial) : Prop where
  answered : trial.Answered
  history : trial.after.radio.air.history = s.radio.air.history ++ trial.frames
  onChannel : ∀ frame ∈ trial.frames, frame.channel = trial.channel
  config : trial.after.link.config = { s.link.config with channel := trial.channel }
  standby : trial.after.Standby True
  free : trial.after.locked = false
  responsive : trial.after.radio.air.unresponsive = false

end Trial

namespace Station

variable {s : Station} {bytes : List UInt8} {channel : UInt8} {left : List UInt8} {wanted : Nat}

/-- **One trial.** -/
theorem Standby.follows (h : s.Standby True) (free : s.locked = false)
    (inRange : channel ≤ maxChannel) (responsive : s.radio.air.unresponsive = false)
    (fits : (s.tryOn bytes channel).fits = true) : (s.tryOn bytes channel).Follows s := by
  have named : (s.tryOn bytes channel).channel = channel := rfl
  obtain ⟨-, before, sent⟩ := h.tryOn free inRange responsive bytes
  obtain ⟨reaction, standby, free', after, -⟩ := sent (Trial.not_overflow_of_fits fits)
  generalize s.tryOn bytes channel = trial at named before reaction standby free' after ⊢
  have link : trial.before.link = (s.tune channel).link := congrArg Outlook.link before
  have air : trial.before.radio.air = s.radio.air := congrArg Outlook.air before
  obtain ⟨result, config, -, responses, count, sent'⟩ :=
    forecasts (.carrying bytes) .empty trial.before
  have link' : trial.after.link = (trial.before.forecast (.carrying bytes) .empty).link :=
    congrArg Outlook.link after
  have air' : trial.after.radio.air = (trial.before.forecast (.carrying bytes) .empty).air :=
    congrArg Outlook.air after
  have channel' : trial.before.link.config.channel = trial.channel := by
    rw [link, named]
    rfl
  -- the send adds the same frame some number of times, and its channel is the one of the link
  have history : trial.after.radio.air.history = trial.before.radio.air.history ++
      List.replicate count ⟨trial.before.link.config.channel,
        (Packet.carrying bytes).setPid trial.before.link.pid⟩ := by
    rw [air', sent']
    rfl
  have frames : trial.frames = List.replicate count ⟨trial.before.link.config.channel,
      (Packet.carrying bytes).setPid trial.before.link.pid⟩ := by
    rw [Trial.frames, history, List.drop_left]
  refine ⟨?_, ?_, ?_, ?_, standby, free', ?_⟩
  · unfold Trial.Answered
    rw [reaction, Forecast.reply]
    rcases result with ⟨outcome, ended⟩ | stuck
    · rw [ended]
      exact .inl ⟨outcome, _, rfl⟩
    · rw [stuck]
      exact .inr rfl
  · rw [history, frames, air]
  · intro frame member
    rw [frames] at member
    rw [List.eq_of_mem_replicate member]
    exact channel'
  · rw [link', config, link, named]
    rfl
  · rw [air', sent', air]
    exact responsive

/-- What a row of trials that fits into the transmission history makes of a station. -/
structure Tried (s : Station) (trials : List Trial) : Prop where
  answered : ∀ trial ∈ trials, trial.Answered
  history : (s.afterTrials trials).radio.air.history =
    s.radio.air.history ++ trials.flatMap Trial.frames
  onChannel : ∀ trial ∈ trials, ∀ frame ∈ trial.frames, frame.channel = trial.channel
  config : ∀ final, trials.getLast? = some final →
    final.after.link.config = { s.link.config with channel := final.channel }

/-- Without trials nothing happens. -/
theorem tried_nil (s : Station) : s.Tried [] :=
  ⟨by simp, by simp [afterTrials], by simp, by simp⟩

/-- One trial, and a row of trials from where it ends. -/
theorem Tried.cons {trial : Trial} {rest : List Trial} (first : trial.Follows s)
    (later : trial.after.Tried rest) : s.Tried (trial :: rest) where
  answered := List.forall_mem_cons.mpr ⟨first.answered, later.answered⟩
  history := by
    rw [afterTrials_cons, later.history, first.history, List.flatMap_cons, List.append_assoc]
  onChannel := List.forall_mem_cons.mpr ⟨first.onChannel, later.onChannel⟩
  config final last := by
    rw [List.getLast?_cons] at last
    cases ends : rest.getLast? with
    | none =>
      rw [ends] at last
      obtain rfl := Option.some.inj last
      exact first.config
    | some final' =>
      rw [ends] at last
      obtain rfl := Option.some.inj last
      show final'.after.link.config = { s.link.config with channel := final'.channel }
      rw [later.config final' ends, first.config]

/-- **A row of trials.** The induction is on the channels that are left. -/
theorem Standby.tried (h : s.Standby True) (free : s.locked = false)
    (inRange : ∀ channel ∈ left, channel ≤ maxChannel)
    (responsive : s.radio.air.unresponsive = false) (fit : Fit (s.trials bytes wanted left)) :
    s.Tried (s.trials bytes wanted left) := by
  induction left generalizing s wanted with
  | nil =>
    rw [trials_nil]
    exact s.tried_nil
  | cons channel left ih =>
    cases wanted with
    | zero => exact s.tried_nil
    | succ wanted =>
      rw [trials_cons] at fit ⊢
      obtain ⟨fits, fit'⟩ := List.forall_mem_cons.mp fit
      obtain ⟨inRange, inRange'⟩ := List.forall_mem_cons.mp inRange
      have first := h.follows free inRange responsive fits
      exact .cons first (ih first.standby first.free inRange' first.responsive fit')

end Station

/-! ## The scan -/

namespace Bench

variable {b : Bench}

/-- A scan that starts from a bench is answered as a row of trials says, and leaves what they
leave. -/
structure ScansAs (first last : UInt8) (b : Bench) (trials : List Trial)
    (found : Bench × Reaction) : Prop where
  /-- The answer is exactly the channels that acknowledged. -/
  answer : found.2 = .finished ⟨none, .ok (.channels (Trial.hits trials)), none⟩
  /-- They ascend strictly. -/
  increasing : (Trial.hits trials).Pairwise (· < ·)
  /-- The channels were tried one after the other, from the first. -/
  inOrder : ∀ i trial, trials[i]? = some trial → trial.channel.toNat = first.toNat + i
  /-- Every send on the way ended with an outcome or a radio that got stuck. -/
  answered : ∀ trial ∈ trials, trial.Answered
  /-- What the scan put on air is what the trials put on air. -/
  history : found.1.station.radio.air.history =
    b.station.radio.air.history ++ trials.flatMap Trial.frames
  /-- Every frame went out on the channel that was tried. -/
  onChannel : ∀ trial ∈ trials, ∀ frame ∈ trial.frames, frame.channel = trial.channel
  /-- The scan ends after the last channel or the last hit that there is space for, with the link,
  the surroundings and the signal strength of the trial made last; no more of the configuration has
  changed than the channel. -/
  ends : ∃ final, trials.getLast? = some final ∧
    (final.channel = last ∧ (Trial.hits trials).length < maxScanResults ∨
      final.acked = true ∧ (Trial.hits trials).length = maxScanResults) ∧
    found.1.station.outlook = final.after.outlook ∧
    found.1.station.link.config = { b.station.link.config with channel := final.channel } ∧
    found.1.station.radio.channel = final.channel

/-- A range that is empty is answered at once. -/
theorem Reachable.scan_of_empty (h : b.Reachable) (free : b.station.locked = false)
    {first last : UInt8} (empty : last < first) (bytes : List UInt8) :
    let found := (ofStation b.station).execute
      (.perform none (.request (.scanChannels first last bytes)) true)
    found.2 = .finished ⟨none, .ok (.channels []), none⟩ ∧ found.1.station = b.station := by
  have answer : (Request.scanChannels first last bytes).answer? = some (.ok (.channels [])) :=
    if_pos empty
  have looked := Activity.poll_queued_of_answer? (s := b.station) answer
  have ran := execute_perform_of_alone (b := .ofStation b.station)
    (.request (.scanChannels first last bytes)) rfl rfl (.ends looked) (Nat.zero_le _)
  intro found
  refine ⟨congrArg Prod.snd ran, ?_⟩
  have station : found.1.station = b.station.releaseBuffers :=
    congrArg (fun found : Bench × Reaction => found.1.station) ran
  rw [station, h.releaseBuffers_eq free]

/-- The first look at a scan of a range finds it on its way through all channels. -/
theorem poll_scanChannels {s : Station} (standby : s.Standby True) (free : s.locked = false)
    {first last : UInt8} (ordered : first ≤ last) (inRange : last ≤ maxChannel)
    (bytes : List UInt8) :
    (Activity.queued (.scanChannels first last bytes)).poll s =
      Station.withLock (Station.ofScan ((s.withBuffers (.carrying bytes) .empty).scanOn
        (s.buffers.add (.carrying bytes)).2
        ((s.buffers.add (.carrying bytes)).1.add .empty).2 first last []
        (channelRange first last))) := by
  have answer : (Request.scanChannels first last bytes).answer? = none := by
    show (if last < first then _ else Request.refusal? (checkChannel last)) = none
    rw [if_neg (UInt8.not_lt.mpr ordered), checkChannel, if_neg (UInt8.not_lt.mpr inRange)]
    rfl
  have ready : s.ready = .ok () :=
    (Station.ready_eq_ok_iff _).mpr ⟨standby.initialized, standby.noCarrier⟩
  rw [Activity.poll_queued_of_free free answer rfl]
  show Station.withLock (Station.ofScan (s.startScan first last bytes)) = _
  rw [Station.startScan, ready]
  rfl

/-- **A scan that has the bench to itself ends beside the trials.** -/
theorem execute_scan_of_standby (standby : b.station.Standby True)
    (free : b.station.locked = false) {first last : UInt8} (ordered : first ≤ last)
    (inRange : last ≤ maxChannel) (responsive : b.station.radio.air.unresponsive = false)
    (bytes : List UInt8)
    (fit : Station.Fit (b.station.trials bytes maxScanResults (channelRange first last))) :
    let trials := b.station.trials bytes maxScanResults (channelRange first last)
    let found := (ofStation b.station).execute
      (.perform none (.request (.scanChannels first last bytes)) true)
    found.2 = .finished ⟨none, .ok (.channels (Trial.hits trials)), none⟩ ∧
      found.1.station.Standby True ∧
      found.1.station.outlook = (b.station.afterTrials trials).outlook := by
  intro trials found
  -- before its first channel the scan has come as far as a row of no trials
  have stride : Station.InStride bytes (b.station.buffers.add (.carrying bytes)).2
      (b.station.withBuffers (.carrying bytes) .empty) b.station := by
    refine ⟨(Station.buffers_agree ..).standby standby, standby, free, rfl, ?_, responsive⟩
    have loaded := b.station.buffers.get_add_add (.carrying bytes) .empty
    show (((b.station.buffers.add (.carrying bytes)).1.add .empty).1.get _).Alike _
    rw [loaded]
  have count : ([] : List UInt8).length + (maxScanResults - 1 + 1) = maxScanResults := rfl
  obtain ⟨n, few, s', ends, standby', outlook⟩ :=
    stride.scanOn (Station.added_apart b.station.buffers (.carrying bytes) .empty) first last count
      (le_maxChannel_of_mem_channelRange inRange) fit
  have enough : n ≤ patience (.queued (.scanChannels first last bytes)) := by
    have channels : (channelRange first last).length ≤ 256 := by
      rw [length_channelRange]
      have bound := last.toNat_lt
      omega
    have all : (channelRange first last).length * Station.sendRounds ≤ 256 * sendPatience :=
      Nat.mul_le_mul channels (by decide)
    exact Nat.le_trans few all
  rw [← poll_scanChannels standby free ordered inRange bytes] at ends
  have ran := execute_perform_of_alone (b := .ofStation b.station)
    (.request (.scanChannels first last bytes)) rfl rfl ends.alone enough
  have station : found.1.station = s'.releaseBuffers :=
    congrArg (fun found : Bench × Reaction => found.1.station) ran
  refine ⟨congrArg Prod.snd ran, ?_⟩
  rw [station, Station.outlook_releaseBuffers]
  exact ⟨(Station.releaseBuffers_agree _).standby standby', outlook⟩

/-- **A channel scan is a fold of sends.** The station is that of any reachable bench whose lock is
free. If its link is up without a carrier, its receiver responds, and the transmission history has
room for the sends, a scan goes as trying the channels by hand does, with whatever payload. A scan
of no channels changes nothing. -/
theorem Reachable.scan_eq_trials (h : b.Reachable) (free : b.station.locked = false)
    (first last : UInt8) (bytes : List UInt8) :
    let found := (ofStation b.station).execute
      (.perform none (.request (.scanChannels first last bytes)) true)
    let trials := b.station.trials bytes maxScanResults (channelRange first last)
    (first ≤ last → last ≤ maxChannel → b.station.link.initialized = true →
      b.station.link.carrier = false → b.station.radio.air.unresponsive = false →
      (∀ trial ∈ trials, trial.fits = true) → b.ScansAs first last trials found) ∧
    (last < first →
      found.2 = .finished ⟨none, .ok (.channels []), none⟩ ∧ found.1.station = b.station) := by
  intro found trials
  refine ⟨?_, fun empty => h.scan_of_empty free empty bytes⟩
  intro ordered inRange up noCarrier responsive fit
  have standby : b.station.Standby True :=
    (h.sound.atRest_of_free free).standby_of_ready
      ((Station.ready_eq_ok_iff _).mpr ⟨up, noCarrier⟩)
  obtain ⟨answer, standby', outlook⟩ :=
    execute_scan_of_standby standby free ordered inRange responsive bytes fit
  have tried := standby.tried free (le_maxChannel_of_mem_channelRange inRange) responsive fit
  obtain ⟨final, last', stops⟩ : ∃ final, trials.getLast? = some final ∧
      (final.channel = last ∧ (Trial.hits trials).length < maxScanResults ∨
        final.acked = true ∧ (Trial.hits trials).length = maxScanResults) :=
    b.station.trials_end bytes (maxScanResults - 1) ordered
  -- scan and trials leave the same outlook, so what the last trial left can be read off the scan
  have left : b.station.afterTrials trials = final.after := by
    rw [Station.afterTrials, last']
    rfl
  have config : found.1.station.link.config =
      { b.station.link.config with channel := final.channel } := by
    rw [← tried.config final last', ← left]
    exact congrArg (fun o : Station.Outlook => o.link.config) outlook
  refine ⟨answer, b.station.pairwise_hits_trials .., b.station.trials_inOrder _ _ _ _,
    tried.answered, ?_, tried.onChannel, final, last', stops, left ▸ outlook, config, ?_⟩
  · rw [← tried.history]
    exact congrArg (fun o : Station.Outlook => o.air.history) outlook
  · rw [standby'.programmed.channel]
    exact congrArg LinkConfig.channel config

/-- A scan of five channels, two of which acknowledge, and a scan of none, after a send that was
given up. -/
theorem scan_of_five_responses :
    let b := (Bench.ofStation (.withFrontEnd .zeros)).after
      [.ask none (.request (.switchMode .link)), .look 0,
        .ask none (.request (.change (.arc 0))), .look 0,
        .ask none (.request (.sendPayload [7])), .look 0, .pump, .giveUp 0,
        .arrange (.schedule [.silence, .ack (.truncate []) 10, .silence, .ack (.truncate []) 10])]
    let scan first last := (ofStation b.station).execute
      (.perform none (.request (.scanChannels first last [255])) true)
    ((scan 10 14).2 = .finished ⟨none, .ok (.channels [11, 13]), none⟩ ∧
      (scan 10 14).1.station.radio.air.history.map Frame.channel =
        b.station.radio.air.history.map Frame.channel ++ [10, 11, 12, 13, 14] ∧
      (scan 10 14).1.station.link.config = { b.station.link.config with channel := 14 }) ∧
    (scan 14 10).2 = .finished ⟨none, .ok (.channels []), none⟩ ∧
      (scan 14 10).1.station = b.station := by
  intro b scan
  have reachable : b.Reachable := (Bench.Reachable.startUp ⟨.zeros, .inl rfl⟩).after _ (by decide)
  have free : b.station.locked = false := by decide +kernel
  have scanned := (reachable.scan_eq_trials free 10 14 [255]).1 (by decide) (by decide)
    (by decide +kernel) (by decide +kernel) (by decide +kernel) (by decide +kernel)
  have hits : Trial.hits (b.station.trials [255] maxScanResults (channelRange 10 14)) =
      [11, 13] := by decide +kernel
  have frames : ((b.station.trials [255] maxScanResults (channelRange 10 14)).flatMap
      Trial.frames).map Frame.channel = [10, 11, 12, 13, 14] := by decide +kernel
  obtain ⟨final, last, stops, -, config, -⟩ := scanned.ends
  have channel : final.channel = 14 := by
    rcases stops with ⟨channel, -⟩ | ⟨-, full⟩
    · exact channel
    · rw [hits] at full
      exact absurd full (by decide)
  refine ⟨⟨?_, ?_, channel ▸ config⟩, (reachable.scan_eq_trials free 14 10 [255]).2 (by decide)⟩
  · rw [← hits]
    exact scanned.answer
  · rw [← frames, ← List.map_append]
    exact congrArg _ scanned.history

end Bench

end BurstLink
