import BurstLink.Proofs.Guard
import BurstLink.Proofs.SendRule

/-! # The bounds of the configuration

The bounds of a configuration are checked by several routines, each for the settings it changes, and
a channel scan writes channels without a check of its own. All the same, the stored configuration
is in range whoever changes it, and the checks of a single setting come to the same as the checks of
the whole.

Main definitions:

* **`LinkConfig.InRange`** — the four bounds; **`LinkConfig.violations`** — those that are violated.
* **`Request.configured?`** — the configuration that a request asks for.
* **`Guard.bounds`** — the stored configuration and that of the send in progress are in range.

Main statements: `LinkConfig.validate_eq`, `ConfigChange.check_eq`, and `Guard.bounds_kept`. -/

namespace BurstLink

/-! ## Configurations in range -/

namespace LinkConfig

variable {c : LinkConfig}

/-- The four bounded settings are in range. -/
structure InRange (c : LinkConfig) : Prop where
  channel : c.channel ≤ 100
  arc : c.arc ≤ 15
  packetLoss : c.packetLossPercent ≤ 100
  ackLoss : c.ackLossPercent ≤ 100

/-- The bounds that are violated, in the order channel, retry count, packet loss, acknowledgement
loss. -/
def violations (c : LinkConfig) : List BadRequest :=
  (if 100 < c.channel then [.channelOutOfRange c.channel] else []) ++
    ((if 15 < c.arc then [.arcOutOfRange c.arc] else []) ++
      ((if 100 < c.packetLossPercent then [.percentOutOfRange c.packetLossPercent] else []) ++
        if 100 < c.ackLossPercent then [.percentOutOfRange c.ackLossPercent] else []))

/-- **A configuration is refused for the first bound that it violates.** -/
theorem validate_eq (c : LinkConfig) :
    c.validate = c.violations.head?.elim (.ok ()) Except.error := by
  unfold validate violations checkChannel checkArc checkPercent maxChannel maxArc maxPercent
  -- a bound that is violated hides those after it
  by_cases channel : 100 < c.channel
  · rw [if_pos channel, if_pos channel]
    rfl
  by_cases arc : 15 < c.arc
  · rw [if_neg channel, if_neg channel, if_pos arc, if_pos arc]
    rfl
  by_cases packet : 100 < c.packetLossPercent
  · rw [if_neg channel, if_neg channel, if_neg arc, if_neg arc, if_pos packet, if_pos packet]
    rfl
  rw [if_neg channel, if_neg channel, if_neg arc, if_neg arc, if_neg packet, if_neg packet]
  by_cases ack : 100 < c.ackLossPercent
  · rw [if_pos ack, if_pos ack]
    rfl
  · rw [if_neg ack, if_neg ack]
    rfl

/-- In range is what violates no bound. -/
theorem violations_eq_nil_iff : c.violations = [] ↔ c.InRange := by
  simp only [violations, List.append_eq_nil_iff, ite_eq_right_iff, List.cons_ne_nil, imp_false,
    UInt8.not_lt]
  exact ⟨fun ⟨channel, arc, packet, ack⟩ => ⟨channel, arc, packet, ack⟩,
    fun h => ⟨h.channel, h.arc, h.packetLoss, h.ackLoss⟩⟩

/-- In range is what is accepted. -/
theorem validate_eq_ok_iff : c.validate = .ok () ↔ c.InRange := by
  rw [validate_eq, ← violations_eq_nil_iff]
  cases c.violations <;> simp

/-- One more than the retry count fits into a byte. -/
theorem InRange.arc_succ (h : c.InRange) : (c.arc + 1).toNat = c.arc.toNat + 1 := by
  have bound : c.arc.toNat ≤ 15 := h.arc
  rw [UInt8.toNat_add]
  exact Nat.mod_eq_of_lt (Nat.lt_of_le_of_lt (Nat.succ_le_succ bound) (by decide))

/-- A send makes between one and sixteen attempts. -/
theorem InRange.attempts (h : c.InRange) : 1 ≤ c.attempts ∧ c.attempts ≤ 16 := by
  have bound : c.arc.toNat ≤ 15 := h.arc
  unfold LinkConfig.attempts
  split <;> omega

end LinkConfig

/-- **Checking the new value of one setting comes to the same as checking the whole result**, as
long as the configuration before was in range. -/
theorem ConfigChange.check_eq {c : LinkConfig} (valid : c.InRange) (change : ConfigChange) :
    change.check = (change.apply c).validate := by
  have channel : checkChannel c.channel = .ok () := checkChannel_eq_ok_iff.mpr valid.channel
  have arc : checkArc c.arc = .ok () := checkArc_eq_ok_iff.mpr valid.arc
  have packet : checkPercent c.packetLossPercent = .ok () :=
    checkPercent_eq_ok_iff.mpr valid.packetLoss
  have ack : checkPercent c.ackLossPercent = .ok () := checkPercent_eq_ok_iff.mpr valid.ackLoss
  -- the settings that the change leaves alone pass their checks
  cases change with
  | channel value =>
    simp only [check, apply, LinkConfig.validate, arc, packet, ack]
    cases checkChannel value <;> rfl
  | arc value =>
    simp only [check, apply, LinkConfig.validate, channel, packet, ack]
    cases checkArc value <;> rfl
  | loss packetPercent ackPercent =>
    simp only [check, apply, LinkConfig.validate, channel, arc]
    rfl
  | _ =>
    simp only [check, apply, LinkConfig.validate, channel, arc, packet, ack]
    rfl

/-- The configuration that a request asks for, given the stored one. -/
def Request.configured? (c : LinkConfig) : Request → Option LinkConfig
  | .configure config => some config
  | .change setting => some (setting.apply c)
  | _ => none

/-- **A request for another configuration is answered at once exactly if the result is not in
range**, with the first bound that it violates. -/
theorem Request.answer?_of_configured? {c c' : LinkConfig} {request : Request} (valid : c.InRange)
    (asked : request.configured? c = some c') : request.answer? =
      c'.violations.head?.map fun reason => .error (.badRequest reason) := by
  have checked : request.answer? = refusal? c'.validate := by
    cases request with
    | configure config =>
      obtain rfl := Option.some.inj asked
      rfl
    | change change =>
      obtain rfl := Option.some.inj asked
      exact congrArg refusal? (change.check_eq valid)
    | _ => exact absurd asked (by simp [configured?])
  rw [checked, LinkConfig.validate_eq]
  cases c'.violations <;> rfl

/-- The channels of a range are at most the last one. -/
theorem le_of_mem_channelRange {first last channel : UInt8}
    (member : channel ∈ channelRange first last) : channel ≤ last := by
  obtain ⟨n, inside, rfl⟩ := List.mem_map.mp member
  have bound : n ≤ last.toNat := by
    obtain ⟨lower, upper⟩ := List.mem_range'_1.mp inside
    omega
  have small : n < 256 := Nat.lt_of_le_of_lt bound last.toNat_lt
  show (UInt8.ofNat n).toNat ≤ last.toNat
  rw [UInt8.toNat_ofNat', Nat.mod_eq_of_lt small]
  exact bound

/-- A scan that is not answered at once has its last channel in range. -/
theorem le_of_answer?_scanChannels {first last : UInt8} {bytes : List UInt8}
    (undecided : (Request.scanChannels first last bytes).answer? = none) : last ≤ maxChannel := by
  unfold Request.answer? at undecided
  dsimp only at undecided
  by_cases empty : last < first
  · rw [if_pos empty] at undecided
    exact absurd undecided (by simp)
  · rw [if_neg empty] at undecided
    cases checked : checkChannel last with
    | ok => exact checkChannel_eq_ok_iff.mp checked
    | error reason =>
      rw [checked] at undecided
      exact absurd undecided (by simp [Request.refusal?])

/-! ## What the operations leave alone -/

namespace Station

variable {s t : Station} {f : Flight}

/-- The same configuration is in range. -/
theorem inRange_of_eq (same : t.link.config = s.link.config) (range : s.link.config.InRange) :
    t.link.config.InRange := by
  rw [same]
  exact range

end Station

/-! ## The guard -/

/-- A send has a configuration in range and attempts left, whatever is going to be its last one. -/
def Flight.Bounded (f : Flight) : Prop := f.config.InRange ∧ f.retries < f.config.attempts

/-- A send in progress is bounded, and the channels that its scan has left are in range. -/
def Activity.Bounded : Activity → Prop
  | .sending f purpose => f.Bounded ∧ purpose.Within (· ≤ maxChannel)
  | _ => True

/-- The stored configuration is in range, and so is the send in progress. -/
def Guard.bounds : Guard where
  free s := s.link.config.InRange
  held activity s := s.link.config.InRange ∧ activity.Bounded

open Station

/-- A send leaves the bounds alone, and a scan writes no channel out of range. -/
theorem sendRule_bounds : SendRule (· ≤ maxChannel) (fun _ _ s => s.link.config.InRange)
    fun f s => s.link.config.InRange ∧ f.Bounded where
  noted _ h := h
  drawn _ h := h
  tune within h := ⟨within, h.arc, h.packetLoss, h.ackLoss⟩
  takeOff _ h := by
    refine ⟨?_, h, h.attempts.1⟩
    rw [takeOff_eq, link_fly]
    exact h
  finish _ h := h.1
  again notice _ more h := by
    refine ⟨?_, h.2.1, more⟩
    rw [link_fly]
    exact h.1
  stuck notice _ _ h := by
    rw [link_forceIdle]
    exact h.1

namespace Guard

variable {s : Station}

/-- What goes on without a packet to send has no bounds of its own. -/
theorem leaves_bounds {ω α : Type} {name : ω → Activity} {result : α → Result}
    {found : Station × Look ω α} (range : found.1.link.config.InRange)
    (bare : ∀ w, (name w).holdsLock = true ∧ (name w).Bounded) :
    bounds.Leaves (asProgress name result found) :=
  leaves_asProgress result range fun w => ⟨(bare w).1, range, (bare w).2⟩

/-- An operation that sends is bounded. -/
theorem leaves_of_sends {found : Station × Progress}
    (h : SendRule.Sends (· ≤ maxChannel) (fun _ _ s => s.link.config.InRange)
      (fun f s => s.link.config.InRange ∧ f.Bounded) found) : bounds.Leaves found :=
  h.leaves (fun within bounded => ⟨bounded.1, bounded.2, within⟩) fun range => range

/-- An operation that starts with its arguments in range keeps the bounds. -/
theorem bounds_start (range : s.link.config.InRange) {request : Request}
    (undecided : request.answer? = none) (needs : request.needsLock = true) :
    bounds.Leaves (s.start request) := by
  -- a request for another configuration starts only if the result is in range
  have stored : ∀ c, request.configured? s.link.config = some c → c.InRange := by
    intro c asked
    rw [request.answer?_of_configured? range asked, Option.map_eq_none_iff,
      List.head?_eq_none_iff] at undecided
    exact LinkConfig.violations_eq_nil_iff.mp undecided
  cases request with
  | switchMode mode =>
    exact leaves_bounds (inRange_of_eq (steers_startSwitch ..).config range) fun _ => ⟨rfl, trivial⟩
  | switchModeNamed name =>
    unfold start
    dsimp only
    split
    · exact leaves_bounds (inRange_of_eq (steers_startSwitch ..).config range)
        fun _ => ⟨rfl, trivial⟩
    · exact range
  | readConfig => exact range
  | configure config =>
    show (s.storeConfig config).link.config.InRange
    rw [link_storeConfig]
    exact stored config rfl
  | change change =>
    show (s.storeConfig (change.apply s.link.config)).link.config.InRange
    rw [link_storeConfig]
    exact stored _ rfl
  | setPowerLevel level => exact range
  | send packet ack =>
    exact leaves_of_sends (sendRule_bounds.startSend range false)
  | sendPayload bytes =>
    have range' : (s.withBytes bytes).link.config.InRange := range
    exact leaves_of_sends (sendRule_bounds.startSend range' true)
  | scanChannels first last bytes =>
    -- the only channel that is checked is the last one, and it bounds the others
    have within : ∀ channel ∈ channelRange first last, channel ≤ maxChannel := by
      intro channel member
      exact UInt8.le_trans (le_of_mem_channelRange member) (le_of_answer?_scanChannels undecided)
    show bounds.Leaves (ofScan (s.startScan first last bytes))
    have kept : s.ready = .ok () → (s.withBytes bytes).link.config.InRange := fun _ => range
    rcases sendRule_bounds.startScan within kept with ⟨failure, refused, -⟩ | scans
    · rw [refused]
      exact range
    · exact leaves_of_sends (SendRule.sends_ofScan scans)
  | toggleCarrier on => exact inRange_of_eq (steers_toggleCarrier ..).config range
  | startCarrier channel => exact inRange_of_eq (steers_startCarrier ..).config range
  | stopCarrier => exact inRange_of_eq s.steers_stopCarrier.config range
  | measureRssi channel =>
    refine leaves_bounds (inRange_of_eq ?_ range) fun _ => ⟨rfl, trivial⟩
    rcases gauges_startMeasurement channel s with same | ⟨-, gauges⟩
    · rw [same]
    · exact congrArg Link.config gauges.link
  | scanPresence scanner channel window =>
    refine leaves_bounds (inRange_of_eq ?_ range) fun _ => ⟨rfl, trivial⟩
    rcases hears_startListening scanner channel window s with same | ⟨-, hears⟩
    · rw [same]
    · exact congrArg Link.config hears.link
  | testAmplifiers => exact absurd needs (by simp [Request.needsLock])

/-- **The bounds are kept**, even if somebody reaches into the registers by hand. -/
theorem bounds_kept : bounds.Kept True where
  start range := bounds_start range
  checkSend h := leaves_of_sends (sendRule_bounds.checkSend ⟨h.1, h.2.1⟩ h.2.2)
  checkSwitch h :=
    leaves_bounds (inRange_of_eq (steers_checkSwitch ..).config h.1) fun _ => ⟨rfl, trivial⟩
  checkMeasurement h :=
    leaves_bounds (inRange_of_eq (congrArg Link.config (gauges_checkMeasurement ..).link) h.1)
      fun _ => ⟨rfl, trivial⟩
  checkListening h :=
    leaves_bounds (inRange_of_eq (congrArg Link.config (hears_checkListening ..).link) h.1)
      fun _ => ⟨rfl, trivial⟩
  drop _ h := inRange_of_eq (steers_drop ..).config h.1
  free_aside beside h := inRange_of_eq (congrArg Link.config beside.link) h
  held_aside beside h := ⟨inRange_of_eq (congrArg Link.config beside.link) h.1, h.2⟩

end Guard

end BurstLink
