import BurstLink.Proofs.Alone
import BurstLink.Proofs.Configuration.Bounds
import BurstLink.Proofs.Imprint
import BurstLink.Proofs.Released

/-! # Configuring at once, piecewise, early or late

A configuration can be set as a whole or field by field, once or several times, before the link is
up or afterwards. What the link and the radio are left with is the same: of every field, and of
every register, the last write counts.

Main definitions:

* **`LinkConfig.changes`**, **`LinkConfig.SetBy`** — the changes that set every field of a
  configuration, and any sequence made of them.
* **`Request.isSetting`**, **`Request.adjust`** — a request that configures the link, and what it
  does to a station.
* **`Station.carryOut`** — requests carried out one after the other.
* **`Station.unlogged`** — a station without its log.

Main statements: storing a configuration over another one (`Station.storeConfig_storeConfig`), any
sequence of the changes (`LinkConfig.SetBy.foldl_apply`), storing before the link comes up
(`Station.unlogged_enterLink_storeConfig`), and from these `Bench.Reachable.configured_alike`. -/

namespace BurstLink

/-! ## Changes of single settings -/

/-- The changes that set every field of a configuration. -/
def LinkConfig.changes (c : LinkConfig) : List ConfigChange :=
  [.channel c.channel, .address c.address, .bitrate c.bitrate, .arc c.arc, .ackEnabled c.ackEnabled,
    .ackPidCheck c.ackPidCheck, .loss c.packetLossPercent c.ackLossPercent]

/-- These changes set every field of the configuration, in any order and any number of times. -/
def LinkConfig.SetBy (c : LinkConfig) (changes : List ConfigChange) : Prop :=
  c.changes ⊆ changes ∧ changes ⊆ c.changes

namespace LinkConfig

variable {c d : LinkConfig} {changes : List ConfigChange} {change other : ConfigChange}

/-- All of them together set the configuration, whatever was set before. -/
theorem foldl_apply_changes (c d : LinkConfig) : c.changes.foldl ConfigChange.apply d = c := rfl

/-- Setting a field again changes nothing. -/
theorem apply_apply (change : ConfigChange) (d : LinkConfig) :
    change.apply (change.apply d) = change.apply d := by
  cases change <;> rfl

/-- Changes that set fields of the same configuration can be exchanged. -/
theorem apply_comm (member : change ∈ c.changes) (member' : other ∈ c.changes) (d : LinkConfig) :
    change.apply (other.apply d) = other.apply (change.apply d) := by
  simp only [changes, List.mem_cons, List.not_mem_nil, or_false] at member member'
  -- two changes of the list either set different fields or are the same
  rcases member with rfl | rfl | rfl | rfl | rfl | rfl | rfl <;>
    rcases member' with rfl | rfl | rfl | rfl | rfl | rfl | rfl <;> rfl

/-- Once a field is set, the other changes leave it so. -/
theorem apply_foldl (member : change ∈ c.changes) (among : changes ⊆ c.changes)
    (set : change.apply d = d) :
    change.apply (changes.foldl ConfigChange.apply d) = changes.foldl ConfigChange.apply d := by
  induction changes generalizing d with
  | nil => exact set
  | cons first later ih =>
    obtain ⟨member', among'⟩ := List.cons_subset.mp among
    apply ih among'
    rw [apply_comm member member', set]

/-- A change that is one of several has set its field when all of them are over. -/
theorem apply_foldl_of_mem (among : changes ⊆ c.changes) (member : change ∈ changes) :
    change.apply (changes.foldl ConfigChange.apply d) = changes.foldl ConfigChange.apply d := by
  induction changes generalizing d with
  | nil => simp at member
  | cons first later ih =>
    obtain ⟨belongs, among'⟩ := List.cons_subset.mp among
    rcases List.mem_cons.mp member with rfl | member
    · rw [List.foldl_cons]
      exact apply_foldl belongs among' (apply_apply ..)
    · exact ih among' member

/-- Changes that change nothing add up to nothing. -/
theorem foldl_apply_of_set (set : ∀ change ∈ changes, change.apply d = d) :
    changes.foldl ConfigChange.apply d = d := by
  induction changes with
  | nil => rfl
  | cons first later ih =>
    rw [List.foldl_cons, set first (by simp)]
    exact ih fun change member => set change (by simp [member])

/-- **Changes that set every field set the configuration**, in whatever order they come. -/
theorem SetBy.foldl_apply (h : c.SetBy changes) (d : LinkConfig) :
    changes.foldl ConfigChange.apply d = c := by
  have set : ∀ change ∈ c.changes, change.apply (changes.foldl ConfigChange.apply d) =
      changes.foldl ConfigChange.apply d := fun change member => apply_foldl_of_mem h.2 (h.1 member)
  rw [← foldl_apply_of_set set]
  exact foldl_apply_changes c _

/-- It takes at least one change to set every field. -/
theorem SetBy.ne_nil (h : c.SetBy changes) : changes ≠ [] := by
  rintro rfl
  exact absurd h.1 (by simp [LinkConfig.changes])

/-- Every change is in range if the configuration is valid. -/
theorem check_of_mem (valid : c.validate = .ok ()) (member : change ∈ c.changes) :
    change.check = .ok () := by
  have kept : change.apply c = c := by
    simp only [changes, List.mem_cons, List.not_mem_nil, or_false] at member
    rcases member with rfl | rfl | rfl | rfl | rfl | rfl | rfl <;> rfl
  rw [change.check_eq (validate_eq_ok_iff.mp valid), kept, valid]

end LinkConfig

/-! ## Storing a configuration -/

namespace Station

variable {s t : Station}

/-- The station without its log. -/
def unlogged (s : Station) : Station := { s with journal := [] }

/-- **Storing a configuration over another one leaves what storing it alone leaves.** -/
theorem storeConfig_storeConfig (c d : LinkConfig) (s : Station) :
    (s.storeConfig d).storeConfig c = s.storeConfig c := by
  have overwritten := Address.pipePrefix_pipePrefix c.address d.address s.radio.prefix0
  by_cases up : s.link.initialized
  · simp [storeConfig, applyConfig, onLink, onRadio, Radio.setChannel, Radio.setBitrate,
      Radio.setBase0, Radio.setPrefix0, up, overwritten]
  · simp [storeConfig, onLink, up]

/-- The log does not matter to what a configuration does. -/
theorem unlogged_storeConfig (c : LinkConfig) (s : Station) :
    (s.storeConfig c).unlogged = s.unlogged.storeConfig c := by
  by_cases up : s.link.initialized
  · simp [storeConfig, applyConfig, onLink, onRadio, unlogged, up]
  · simp [storeConfig, onLink, unlogged, up]

/-- While the link is down a configuration is stored and nothing else. -/
theorem storeConfig_of_down (down : s.link.initialized = false) (c : LinkConfig) :
    s.storeConfig c = s.onLink fun link => { link with config := c } := by
  unfold storeConfig
  rw [if_neg (by simp [onLink, down])]

/-- **A configuration that is stored before the link comes up is programmed as if it was stored
afterwards.** -/
theorem unlogged_enterMode_storeConfig (down : s.link.initialized = false) (c : LinkConfig) :
    ((s.storeConfig c).enterMode .link).unlogged =
      ((s.enterMode .link).storeConfig c).unlogged := by
  have overwritten := Address.pipePrefix_pipePrefix c.address s.link.config.address s.radio.prefix0
  -- storing it early writes its address over what the radio held before, storing it late over the
  -- address of the old configuration
  have early : ((s.storeConfig c).enterMode .link).unlogged =
      { (s.enterMode .link).unlogged with
        link := { (s.enterMode .link).link with config := c }
        radio := { (s.enterMode .link).radio with
          channel := c.channel
          bitrate := c.bitrate
          base0 := c.address.base
          prefix0 := c.address.pipePrefix s.radio.prefix0 } } := by
    rw [storeConfig_of_down down]
    rfl
  rw [early, ← overwritten]
  rfl

/-- The current mode gives the radio up. -/
def leaveMode (s : Station) : Station :=
  match s.mode with
  | .carrier => s.exitCarrierMode
  | .powerMeasurement => s.exitPowerMode
  | _ => s

/-- A switch to the link is over at once, unless it starts from there. -/
theorem startSwitch_link (other : s.mode ≠ .link) :
    s.startSwitch .link =
      ((s.note (.modeChange s.mode .link)).leaveMode.enterMode .link, .finished ()) := by
  unfold startSwitch leaveMode
  rw [if_neg other]
  cases mode : s.mode with
  | link => exact absurd mode other
  | _ => simp [note, mode]

/-- Leaving the carrier mode takes a carrier off air and the power away; the rest stays. -/
theorem unlogged_exitCarrierMode (s : Station) :
    s.exitCarrierMode.unlogged =
      { s.unlogged with
        radio := (if s.link.carrier then s.radio.forceOff else s.radio).setPower false
        frontEnd := if s.link.carrier then s.frontEnd.map (FrontEnd.setPa false) else s.frontEnd
        link := { s.link with carrier := false } } := by
  unfold exitCarrierMode
  by_cases carrier : s.link.carrier
  · obtain ⟨journal, stopped⟩ := s.stopTone_eq
    simp only [carrier, if_true, stopped]
    rfl
  · have off : s.link = { s.link with carrier := false } := by
      rw [← Bool.eq_false_iff.mpr carrier]
    simp only [carrier, ← off]
    rfl

/-- **Leaving a mode looks neither at the configuration nor at the log**, and changes no more than
the radio, the front end and the sign of a carrier. -/
theorem leaveMode_eq (s : Station) :
    ∃ (radio : Radio) (frontEnd : Option FrontEnd) (carrier : Bool),
      ∀ (c : LinkConfig) (journal : List Notice),
        ({ s with link := { s.link with config := c }, journal := journal }).leaveMode.unlogged =
          { s with
            radio := radio
            frontEnd := frontEnd
            link := { s.link with config := c, carrier := carrier }
            journal := [] } := by
  cases mode : s.mode with
  | carrier =>
    refine ⟨s.exitCarrierMode.unlogged.radio, s.exitCarrierMode.unlogged.frontEnd, false,
      fun c journal => ?_⟩
    simp only [leaveMode, unlogged_exitCarrierMode]
    rfl
  | powerMeasurement =>
    refine ⟨s.exitPowerMode.radio, s.frontEnd, s.link.carrier, fun c journal => ?_⟩
    simp only [leaveMode]
    rfl
  | _ =>
    refine ⟨s.radio, s.frontEnd, s.link.carrier, fun c journal => ?_⟩
    simp only [leaveMode]
    rfl

/-- The log does not matter to how the link takes the radio. -/
theorem unlogged_enterMode_link (s : Station) :
    (s.unlogged.enterMode .link).unlogged = (s.enterMode .link).unlogged := rfl

/-- Nor does it matter to the whole of a switch to the link. -/
theorem unlogged_enterLink (s : Station) :
    (s.unlogged.leaveMode.enterMode .link).unlogged = (s.leaveMode.enterMode .link).unlogged := by
  obtain ⟨radio, frontEnd, carrier, left⟩ := s.leaveMode_eq
  have unheard : s.unlogged.leaveMode.unlogged = s.leaveMode.unlogged :=
    (left s.link.config []).trans (left s.link.config s.journal).symm
  rw [← unlogged_enterMode_link, unheard, unlogged_enterMode_link]

/-- **A configuration that is stored before a switch to the link is programmed as if it was stored
afterwards.** -/
theorem unlogged_enterLink_storeConfig (down : s.link.initialized = false) (c : LinkConfig) :
    ((s.storeConfig c).leaveMode.enterMode .link).unlogged =
      ((s.leaveMode.enterMode .link).storeConfig c).unlogged := by
  obtain ⟨radio, frontEnd, carrier, left⟩ := s.leaveMode_eq
  have late : s.leaveMode.unlogged = _ := left s.link.config s.journal
  have down' : s.leaveMode.unlogged.link.initialized = false := by
    rw [late]
    exact down
  have early : (s.storeConfig c).leaveMode.unlogged = s.leaveMode.unlogged.storeConfig c := by
    rw [storeConfig_of_down down, storeConfig_of_down down', late]
    exact left c s.journal
  calc ((s.storeConfig c).leaveMode.enterMode .link).unlogged
      = ((s.leaveMode.unlogged.storeConfig c).enterMode .link).unlogged := by
        rw [← unlogged_enterMode_link, early]
    _ = ((s.leaveMode.unlogged.enterMode .link).storeConfig c).unlogged :=
        unlogged_enterMode_storeConfig down' c
    _ = ((s.leaveMode.enterMode .link).storeConfig c).unlogged := by
        rw [unlogged_storeConfig, unlogged_enterMode_link, ← unlogged_storeConfig]

end Station

/-! ## Requests that configure -/

/-- A request that configures the link. -/
def Request.isSetting : Request → Bool
  | .configure _ => true
  | .change _ => true
  | _ => false

/-- The configuration that a request leaves stored, given the one before; none if the request is
refused. -/
def Request.stored? (c : LinkConfig) (request : Request) : Option LinkConfig :=
  if request.answer?.isNone then request.configured? c else none

/-- What a request that configures the link does to a station. -/
def Request.adjust (request : Request) (s : Station) : Station :=
  (request.stored? s.link.config).elim s fun c => s.storeConfig c

/-- How a request that configures the link is answered. -/
def Request.verdict (request : Request) : Result := request.answer?.getD (.ok .done)

namespace Station

variable {s t : Station} {request : Request}

/-- Nobody holds the lock, and the radio points at no packet. -/
structure Unused (s : Station) : Prop where
  free : s.locked = false
  pointless : s.radio.buffer = none

/-- Handing back the buffers of a station that nobody uses changes nothing. -/
theorem Unused.releaseBuffers_eq (h : s.Unused) : s.releaseBuffers = s := by
  unfold releaseBuffers
  split
  · show { s with radio := { s.radio with buffer := none } } = s
    rw [← h.pointless]
  · rfl

/-- Nobody gives a lock back that nobody holds. -/
theorem Unused.setLocked_eq (h : s.Unused) : s.setLocked false = s := by
  show { s with locked := false } = s
  rw [← h.free]

/-- The log does not count as use. -/
theorem Unused.of_unlogged (h : s.Unused) (same : s.unlogged = t.unlogged) : t.Unused where
  free := (congrArg locked same).symm.trans h.free
  pointless := (congrArg (fun s : Station => s.radio.buffer) same).symm.trans h.pointless

/-- A configuration that is stored does not count as use. -/
theorem Unused.storeConfig (h : s.Unused) (c : LinkConfig) : (s.storeConfig c).Unused := by
  unfold Station.storeConfig
  dsimp only
  split <;> exact ⟨h.free, h.pointless⟩

/-- Nor does any request that adjusts one. -/
theorem Unused.adjust (h : s.Unused) (request : Request) : (request.adjust s).Unused := by
  unfold Request.adjust
  cases request.stored? s.link.config with
  | none => exact h
  | some c => exact h.storeConfig c

/-- The log does not matter to what a setting does. -/
theorem unlogged_adjust (request : Request) (s : Station) :
    (request.adjust s).unlogged = request.adjust s.unlogged := by
  have same : s.unlogged.link = s.link := rfl
  unfold Request.adjust
  rw [same]
  cases request.stored? s.link.config with
  | none => rfl
  | some c => exact unlogged_storeConfig c s

/-- **A setting is over at the first look**, if nobody uses the station. -/
theorem poll_of_isSetting (setting : request.isSetting = true) (unused : s.Unused) :
    ∃ t, (Activity.queued request).poll s = (t, .finished request.verdict) ∧
      t.unlogged = (request.adjust s).unlogged := by
  cases answer : request.answer? with
  | some result =>
    have refused : request.stored? s.link.config = none := by simp [Request.stored?, answer]
    refine ⟨s, ?_, by simp [Request.adjust, refused]⟩
    simp [Activity.poll, checkQueued, Request.verdict, answer]
  | none =>
    have needs : request.needsLock = true := by
      cases request <;> first | rfl | simp [Request.isSetting] at setting
    have verdict : request.verdict = .ok .done := by simp [Request.verdict, answer]
    -- the setting starts with the lock free, and gives it back at once
    rw [Activity.poll_queued_of_free unused.free answer needs, verdict]
    have stored : request.stored? s.link.config = request.configured? s.link.config := by
      simp [Request.stored?, answer]
    unfold Request.adjust
    rw [stored]
    cases request with
    | configure c =>
      have started : (s.replaceConfig c).Unused := (unused.storeConfig c).of_unlogged rfl
      have given : withLock (s.start (.configure c)) =
          ((s.replaceConfig c).setLocked false, .finished (.ok .done)) := rfl
      exact ⟨s.replaceConfig c, by rw [given, started.setLocked_eq], rfl⟩
    | change change =>
      have started : (s.changeConfig change).Unused := (unused.storeConfig _).of_unlogged rfl
      have given : withLock (s.start (.change change)) =
          ((s.changeConfig change).setLocked false, .finished (.ok .done)) := rfl
      exact ⟨s.changeConfig change, by rw [given, started.setLocked_eq], rfl⟩
    | _ => simp [Request.isSetting] at setting

/-- A switch to the link leaves the station unused. -/
theorem Unused.enterLink (h : s.Unused) : (s.leaveMode.enterMode .link).Unused := by
  have left : s.leaveMode.Unused := by
    cases mode : s.mode with
    | carrier =>
      have same : s.exitCarrierMode.unlogged = s.leaveMode.unlogged := by
        simp only [leaveMode, mode]
      have wiped : s.exitCarrierMode.unlogged.Unused := by
        rw [unlogged_exitCarrierMode]
        exact ⟨h.free, rfl⟩
      exact wiped.of_unlogged same
    | powerMeasurement =>
      simp only [leaveMode, mode]
      exact ⟨h.free, rfl⟩
    | _ =>
      simp only [leaveMode, mode]
      exact h
  exact ⟨left.free, left.pointless⟩

/-- **A switch to the link is over at the first look**, unless it starts from there. -/
theorem poll_of_link (asks : request.target? = some .link) (other : s.mode ≠ .link)
    (unused : s.Unused) :
    ∃ t, (Activity.queued request).poll s = (t, .finished (.ok .done)) ∧
      t.unlogged = (s.leaveMode.enterMode .link).unlogged := by
  have noted : (s.note (.modeChange s.mode .link)).Unused := ⟨unused.free, unused.pointless⟩
  rw [Job.poll_of_target? asks unused.free, startSwitch_link other]
  refine ⟨_, congrArg (·, _) noted.enterLink.setLocked_eq, ?_⟩
  rw [← unlogged_enterLink s, ← unlogged_enterLink]
  rfl

end Station

/-! ## Requests one after the other -/

/-- A request that is over at the first look needs no round. -/
theorem Bench.execute_of_finished {request : Request} {s t : Station} {result : Result}
    (polled : (Activity.queued request).poll s = (t, .finished result)) (pumped : Bool) :
    (Bench.ofStation s).execute (.perform none (.request request) pumped) =
      ({ station := t.releaseBuffers, ended := [⟨none, result, none⟩] },
        .finished ⟨none, result, none⟩) := by
  have single : ((ofStation s).enlist none (.request request)).jobs =
      [⟨none, none, .queued request⟩] := rfl
  have looked : (⟨none, none, .queued request⟩ : Job).poll s =
      (t.releaseBuffers, .finished ⟨none, result, none⟩) := by
    rw [Job.poll, polled]
    rfl
  have station : ((ofStation s).enlist none (.request request)).station = s := rfl
  have awaited : ∀ n, ((ofStation s).enlist none (.request request)).awaitWithin pumped (n + 1) =
      ({ station := t.releaseBuffers, ended := [⟨none, result, none⟩] },
        .finished ⟨none, result, none⟩) := by
    intro n
    simp only [awaitWithin, poll_single single, station, looked, List.find?_cons,
      Option.isNone_none]
    rfl
  simp only [execute, await, single, List.foldl_cons, List.foldl_nil, awaited]
  rfl

namespace Station

variable {s t : Station} {request : Request}

/-- Requests carried out one after the other, each waited for before the next one: what the last
one leaves, and how they were answered. -/
def carryOut (pumped : Bool) : List Request → Station → Station × List Reaction
  | [], s => (s, [])
  | request :: later, s =>
    let (b, reaction) := (Bench.ofStation s).execute (.perform none (.request request) pumped)
    let (t, reactions) := carryOut pumped later b.station
    (t, reaction :: reactions)

/-- A request that is over at the first look, and the requests after it. -/
theorem carryOut_cons {result : Result} (later : List Request) (pumped : Bool) (unused : t.Unused)
    (polled : (Activity.queued request).poll s = (t, .finished result)) :
    s.carryOut pumped (request :: later) =
      ((t.carryOut pumped later).1,
        .finished ⟨none, result, none⟩ :: (t.carryOut pumped later).2) := by
  simp only [carryOut, Bench.execute_of_finished polled, unused.releaseBuffers_eq]

/-- **A sequence of settings** does to a station what they do to it one after the other, and each is
answered as it is on its own. The induction is on the settings, for any station that nobody uses
and that looks like the given one but for the log. -/
theorem carryOut_settings (settings : List Request)
    (all : ∀ setting ∈ settings, setting.isSetting = true) (pumped : Bool) (unused : s.Unused)
    (same : s.unlogged = t.unlogged) :
    (s.carryOut pumped settings).1.unlogged =
        (settings.foldl (fun t setting => setting.adjust t) t).unlogged ∧
      (s.carryOut pumped settings).2 =
        settings.map fun setting => .finished ⟨none, setting.verdict, none⟩ := by
  induction settings generalizing s t with
  | nil => exact ⟨same, rfl⟩
  | cons setting later ih =>
    obtain ⟨u, polled, adjusted⟩ := poll_of_isSetting (all setting (by simp)) unused
    have unused' : u.Unused := (unused.adjust setting).of_unlogged adjusted.symm
    have same' : u.unlogged = (setting.adjust t).unlogged := by
      rw [adjusted, unlogged_adjust, unlogged_adjust, same]
    obtain ⟨station, reactions⟩ := ih (fun r member => all r (by simp [member])) unused' same'
    rw [carryOut_cons later pumped unused' polled]
    exact ⟨station, congrArg _ reactions⟩

/-- Settings in range are all accepted. -/
theorem carryOut_accepted {settings : List Request}
    (all : ∀ setting ∈ settings, setting.isSetting = true ∧ setting.answer? = none)
    (unused : s.Unused) (pumped : Bool) :
    ∀ reaction ∈ (s.carryOut pumped settings).2, reaction = .finished ⟨none, .ok .done, none⟩ := by
  intro reaction member
  rw [(carryOut_settings settings (fun r m => (all r m).1) pumped unused rfl).2] at member
  obtain ⟨setting, belongs, rfl⟩ := List.mem_map.mp member
  rw [Request.verdict, (all setting belongs).2]
  rfl

/-- A valid configuration is stored. -/
theorem adjust_configure {c : LinkConfig} (valid : c.validate = .ok ()) (s : Station) :
    (Request.configure c).adjust s = s.storeConfig c := by
  have answer : (Request.configure c).answer? = none := by
    simp [Request.answer?, Request.refusal?, valid]
  simp [Request.adjust, Request.stored?, answer, Request.configured?]

/-- A change whose new value is in range is stored. -/
theorem adjust_change {change : ConfigChange} (valid : change.check = .ok ()) (s : Station) :
    (Request.change change).adjust s = s.storeConfig (change.apply s.link.config) := by
  have answer : (Request.change change).answer? = none := by
    simp [Request.answer?, Request.refusal?, valid]
  simp [Request.adjust, Request.stored?, answer, Request.configured?]

/-- Changes in range, one after the other, store what they add up to. -/
theorem foldl_adjust {changes : List ConfigChange} (some : changes ≠ [])
    (valid : ∀ change ∈ changes, change.check = .ok ()) (s : Station) :
    (changes.map Request.change).foldl (fun t setting => setting.adjust t) s =
      s.storeConfig (changes.foldl ConfigChange.apply s.link.config) := by
  induction changes generalizing s with
  | nil => exact absurd rfl some
  | cons first later ih =>
    rw [List.map_cons, List.foldl_cons, List.foldl_cons, adjust_change (valid first (by simp))]
    by_cases last : later = []
    · rw [last]
      rfl
    · rw [ih last (fun change member => valid change (by simp [member])), link_storeConfig]
      exact storeConfig_storeConfig ..

/-- **A valid configuration that is set once or more often** is stored. -/
theorem unlogged_carryOut_configure {c : LinkConfig} (valid : c.validate = .ok ()) (pumped : Bool)
    (unused : s.Unused) (n : Nat) :
    (s.carryOut pumped (List.replicate (n + 1) (.configure c))).1.unlogged =
      (s.storeConfig c).unlogged := by
  have isSetting : ∀ setting ∈ List.replicate (n + 1) (Request.configure c),
      setting.isSetting = true := fun setting member => List.eq_of_mem_replicate member ▸ rfl
  rw [(carryOut_settings _ isSetting pumped unused rfl).1]
  clear isSetting
  congr 1
  induction n with
  | zero => exact adjust_configure valid s
  | succ n ih =>
    rw [List.replicate_succ', List.foldl_append, ih]
    show (Request.configure c).adjust (s.storeConfig c) = _
    rw [adjust_configure valid]
    exact storeConfig_storeConfig ..

/-- It is accepted every time. -/
theorem accepted_configure {c : LinkConfig} (valid : c.validate = .ok ()) (pumped : Bool)
    (unused : s.Unused) (n : Nat) :
    ∀ reaction ∈ (s.carryOut pumped (List.replicate n (.configure c))).2,
      reaction = .finished ⟨none, .ok .done, none⟩ := by
  have answer : (Request.configure c).answer? = none := by
    simp [Request.answer?, Request.refusal?, valid]
  refine carryOut_accepted ?_ unused pumped
  intro setting member
  obtain rfl := List.eq_of_mem_replicate member
  exact ⟨rfl, answer⟩

/-- **Changes in range, one after the other,** store what they add up to. -/
theorem unlogged_carryOut_changes {changes : List ConfigChange} (some : changes ≠ [])
    (valid : ∀ change ∈ changes, change.check = .ok ()) (pumped : Bool) (unused : s.Unused) :
    (s.carryOut pumped (changes.map .change)).1.unlogged =
      (s.storeConfig (changes.foldl ConfigChange.apply s.link.config)).unlogged := by
  rw [(carryOut_settings (changes.map .change) (by simp [Request.isSetting]) pumped unused rfl).1,
    foldl_adjust some valid]

/-- All of them are accepted. -/
theorem accepted_changes {changes : List ConfigChange}
    (valid : ∀ change ∈ changes, change.check = .ok ()) (pumped : Bool) (unused : s.Unused) :
    ∀ reaction ∈ (s.carryOut pumped (changes.map .change)).2,
      reaction = .finished ⟨none, .ok .done, none⟩ := by
  refine carryOut_accepted ?_ unused pumped
  intro setting belongs
  obtain ⟨change, among, rfl⟩ := List.mem_map.mp belongs
  refine ⟨rfl, ?_⟩
  simp [Request.answer?, Request.refusal?, valid change among]

/-- A setting does not bring the link up or down. -/
theorem initialized_adjust (setting : Request) (s : Station) :
    (setting.adjust s).link.initialized = s.link.initialized := by
  unfold Request.adjust
  cases setting.stored? s.link.config with
  | none => rfl
  | some c =>
    show (s.storeConfig c).link.initialized = s.link.initialized
    rw [link_storeConfig]

/-- While the link is up a configuration reaches the registers. -/
theorem programmed_storeConfig (up : s.link.initialized = true) (c : LinkConfig) :
    (s.storeConfig c).radio.channel = c.channel ∧ (s.storeConfig c).radio.bitrate = c.bitrate ∧
      (s.storeConfig c).radio.address = c.address := by
  have applied : s.storeConfig c =
      (s.onLink fun link => { link with config := c }).applyConfig c := if_pos up
  rw [applied]
  exact ⟨rfl, rfl, Address.ofRegisters_base_pipePrefix ..⟩

/-- **A setting before a switch to the link does what it does afterwards.** -/
theorem unlogged_enterLink_adjust (down : s.link.initialized = false) (setting : Request) :
    ((setting.adjust s).leaveMode.enterMode .link).unlogged =
      (setting.adjust (s.leaveMode.enterMode .link)).unlogged := by
  obtain ⟨radio, frontEnd, carrier, left⟩ := s.leaveMode_eq
  have kept := congrArg (fun t : Station => t.link.config) (left s.link.config s.journal)
  have config : (s.leaveMode.enterMode .link).link.config = s.link.config := kept
  unfold Request.adjust
  rw [config]
  cases setting.stored? s.link.config with
  | none => rfl
  | some c => exact unlogged_enterLink_storeConfig down c

/-- **A setting and a switch to the link can be exchanged**, outside the mode of the link. -/
theorem carryOut_comm {setting switch : Request} (isSetting : setting.isSetting = true)
    (asks : switch.target? = some .link) (other : s.mode ≠ .link)
    (down : s.link.initialized = false) (unused : s.Unused) (pumped : Bool) :
    (s.carryOut pumped [setting, switch]).1.unlogged =
        (setting.adjust (s.leaveMode.enterMode .link)).unlogged ∧
      (s.carryOut pumped [switch, setting]).1.unlogged =
        (setting.adjust (s.leaveMode.enterMode .link)).unlogged ∧
      (s.carryOut pumped [setting, switch]).2 =
        [.finished ⟨none, setting.verdict, none⟩, .finished ⟨none, .ok .done, none⟩] ∧
      (s.carryOut pumped [switch, setting]).2 =
        [.finished ⟨none, .ok .done, none⟩, .finished ⟨none, setting.verdict, none⟩] := by
  -- the setting first
  obtain ⟨u, polled, adjusted⟩ := poll_of_isSetting isSetting unused
  have unused₁ : u.Unused := (unused.adjust setting).of_unlogged adjusted.symm
  have mode : u.mode = s.mode := by
    have kept : (setting.adjust s).mode = s.mode := by
      unfold Request.adjust
      cases setting.stored? s.link.config with
      | none => rfl
      | some c =>
        show (s.storeConfig c).mode = s.mode
        rw [storeConfig_of_down down]
        rfl
    exact (congrArg Station.mode adjusted).trans kept
  obtain ⟨u', polled', entered⟩ := poll_of_link asks (mode ▸ other) unused₁
  have early : u'.unlogged = (setting.adjust (s.leaveMode.enterMode .link)).unlogged := by
    rw [entered, ← unlogged_enterLink, adjusted, unlogged_enterLink, unlogged_enterLink_adjust down]
  have unused₂ : u'.Unused := (unused₁.enterLink).of_unlogged entered.symm
  -- the switch first
  obtain ⟨v, switched, entered'⟩ := poll_of_link asks other unused
  have unused₃ : v.Unused := unused.enterLink.of_unlogged entered'.symm
  obtain ⟨v', switched', adjusted'⟩ := poll_of_isSetting isSetting unused₃
  have late : v'.unlogged = (setting.adjust (s.leaveMode.enterMode .link)).unlogged := by
    rw [adjusted', unlogged_adjust, entered', unlogged_adjust]
  have unused₄ : v'.Unused := (unused₃.adjust setting).of_unlogged adjusted'.symm
  rw [carryOut_cons [switch] pumped unused₁ polled, carryOut_cons [] pumped unused₂ polled',
    carryOut_cons [setting] pumped unused₃ switched, carryOut_cons [] pumped unused₄ switched']
  exact ⟨early, late, rfl, rfl⟩

/-- At rest outside the mode of the link, the link is down. -/
theorem AtRest.down_of_mode {delays tears : Prop} (h : s.AtRest delays tears)
    (other : s.mode ≠ .link) : s.link.initialized = false := by
  cases h with
  | dark mode vacant => exact vacant.uninitialized
  | standby h => exact absurd h.mode other
  | toning h => exact absurd h.mode other
  | torn may h => exact absurd h.mode other
  | carrier h tuned => exact h.uninitialized
  | gauge h off amplifiers => exact h.uninitialized

end Station

/-! ## The result -/

/-- **Configuring at once, piecewise, early or late is the same.** On a reachable station with a
free lock, a valid configuration set as a whole, once or twice, and the changes of its fields in any
order and with any repetitions all succeed and leave the same station, but for the log: the
configuration is stored, and if the link is up the registers hold it. Outside the mode of the link,
any setting before a switch to the link leaves the same station as after it, again but for the log,
and both are answered the same. -/
theorem Bench.Reachable.configured_alike {b : Bench} (h : b.Reachable)
    (free : b.station.locked = false) (pumped : Bool) :
    let s := b.station
    (∀ (c : LinkConfig) (changes : List ConfigChange), c.validate = .ok () → c.SetBy changes →
      let whole := s.carryOut pumped [.configure c]
      let twice := s.carryOut pumped [.configure c, .configure c]
      let piecewise := s.carryOut pumped (changes.map .change)
      piecewise.1.unlogged = whole.1.unlogged ∧ twice.1.unlogged = whole.1.unlogged ∧
        (∀ reaction ∈ whole.2 ++ twice.2 ++ piecewise.2,
          reaction = .finished ⟨none, .ok .done, none⟩) ∧
        whole.1.link = { s.link with config := c } ∧
        (s.link.initialized = true → whole.1.radio.channel = c.channel ∧
          whole.1.radio.bitrate = c.bitrate ∧ whole.1.radio.address = c.address)) ∧
    (∀ setting switch : Request, setting.isSetting = true → switch.target? = some .link →
      s.mode ≠ .link →
      let early := s.carryOut pumped [setting, switch]
      let late := s.carryOut pumped [switch, setting]
      early.1.unlogged = late.1.unlogged ∧ early.2 = late.2.reverse ∧
        .finished ⟨none, .ok .done, none⟩ ∈ late.2 ∧ late.1.link.initialized = true) := by
  intro s
  have unused : s.Unused := ⟨free, h.released free⟩
  refine ⟨?_, ?_⟩
  · intro c changes valid setBy whole twice piecewise
    have inRange : ∀ change ∈ changes, change.check = .ok () := fun change member =>
      LinkConfig.check_of_mem valid (setBy.2 member)
    -- each way of storing the configuration comes to storing it once, up to the log
    have once : whole.1.unlogged = (s.storeConfig c).unlogged :=
      Station.unlogged_carryOut_configure valid pumped unused 0
    have again : twice.1.unlogged = (s.storeConfig c).unlogged :=
      Station.unlogged_carryOut_configure valid pumped unused 1
    have pieces : piecewise.1.unlogged = (s.storeConfig c).unlogged := by
      rw [← setBy.foldl_apply s.link.config]
      exact Station.unlogged_carryOut_changes setBy.ne_nil inRange pumped unused
    refine ⟨pieces.trans once.symm, again.trans once.symm, ?_, ?_, ?_⟩
    · intro reaction member
      simp only [List.mem_append] at member
      rcases member with (member | member) | member
      · exact Station.accepted_configure valid pumped unused 1 _ member
      · exact Station.accepted_configure valid pumped unused 2 _ member
      · exact Station.accepted_changes inRange pumped unused _ member
    · have link := congrArg Station.link once
      exact link.trans (Station.link_storeConfig c s)
    · intro up
      have radio := congrArg Station.radio once
      have same : whole.1.radio = (s.storeConfig c).radio := radio
      rw [same]
      exact Station.programmed_storeConfig up c
  · intro setting switch isSetting asks other early late
    -- outside link mode the link is down, so the setting waits in store until the switch programs
    -- it
    have down : s.link.initialized = false := (h.sound.atRest_of_free free).down_of_mode other
    obtain ⟨first, last, answers, answers'⟩ :=
      Station.carryOut_comm isSetting asks other down unused pumped
    refine ⟨first.trans last.symm, ?_, ?_, ?_⟩
    · exact answers.trans (congrArg List.reverse answers').symm
    · show _ ∈ (s.carryOut pumped [switch, setting]).2
      rw [answers']
      simp
    · have up := congrArg (fun t : Station => t.link.initialized) last
      exact up.trans (Station.initialized_adjust ..)

/-- Seven changes in a scrambled order, two of them twice, on a link with the carrier on air; and a
new address before and after a switch away from the carrier mode, where a carrier is on air too. -/
theorem Bench.configured_alike_on_air :
    let c : LinkConfig := ⟨60, ⟨1, 2, 3, 4, 5⟩, .mbps1, 7, false, true, 10, 20⟩
    let changes : List ConfigChange :=
      [.loss 10 20, .address ⟨1, 2, 3, 4, 5⟩, .ackPidCheck true, .arc 7, .address ⟨1, 2, 3, 4, 5⟩,
        .channel 60, .ackEnabled false, .bitrate .mbps1, .arc 7]
    let b := (Bench.ofStation (.withFrontEnd .zeros)).after
      [.ask none (.request (.switchMode .link)), .look 0,
        .ask none (.request (.toggleCarrier true)), .look 0]
    let b' := (Bench.ofStation (.withFrontEnd .zeros)).after
      [.ask none (.request (.switchMode .carrier)), .look 0,
        .ask none (.request (.startCarrier 70)), .look 0]
    let setting : Request := .change (.address ⟨1, 2, 3, 4, 5⟩)
    let switch : Request := .switchModeNamed "esb"
    b.station.link.carrier = true ∧ b'.station.link.carrier = true ∧
      (b.station.carryOut true (changes.map .change)).1.unlogged =
        (b.station.carryOut true [.configure c]).1.unlogged ∧
      (b.station.carryOut true [.configure c]).1.radio.address = ⟨1, 2, 3, 4, 5⟩ ∧
      (b'.station.carryOut true [setting, switch]).1.unlogged =
        (b'.station.carryOut true [switch, setting]).1.unlogged := by
  intro c changes b b' setting switch
  have reachable : b.Reachable := (Bench.Reachable.startUp ⟨.zeros, .inl rfl⟩).after _ (by decide)
  have reachable' : b'.Reachable := (Bench.Reachable.startUp ⟨.zeros, .inl rfl⟩).after _ (by decide)
  have free : b.station.locked = false := by decide +kernel
  have free' : b'.station.locked = false := by decide +kernel
  have up : b.station.link.initialized = true := by decide +kernel
  have setBy : c.SetBy changes := by
    unfold LinkConfig.SetBy
    decide +kernel
  have asks : switch.target? = some .link := by decide +kernel
  have carrierMode : b'.station.mode = .carrier := by decide +kernel
  have alike := (Bench.Reachable.configured_alike reachable free true).1 c changes rfl setBy
  have alike' := (Bench.Reachable.configured_alike reachable' free' true).2 setting switch rfl asks
    (by rw [carrierMode]; decide)
  exact ⟨by decide +kernel, by decide +kernel, alike.1, (alike.2.2.2.2 up).2.2, alike'.1⟩

end BurstLink
