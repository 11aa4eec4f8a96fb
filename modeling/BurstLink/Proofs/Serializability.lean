import BurstLink.Proofs.Serial.Standing

/-! # Operations are serializable in lock order

Whatever the rounds in which operations are asked for, and whatever the order in which they are
looked at, a crowd does what its operations do in turn, in the order in which they took the lock.

Main definitions: **`Bench.InLockOrder`** — a row of the operations of a crowd that keeps the order
in which they took the lock.

Main statements: `Standing.crowd` — every round keeps the ledger of a crowd — and
`Bench.Reachable.serializable`. -/

namespace BurstLink

namespace Station

variable {tears : Prop} {s t : Station} {ρ : List (Buffer × Buffer)} {kept : Pool Packet}
  {now now' : Nat} {work : Work}

/-! ## Rounds without a holder -/

/-- At rest, a radio that switches off at once is off for good, or its carrier is on air. -/
theorem AtRest.promptly (h : s.AtRest True tears) (prompt : s.radio.Prompt False) :
    s.AtRest False tears := by
  obtain ⟨latency, settled⟩ :
      s.radio.air.disableLatency = 0 ∧ ∀ reads, s.radio.phase ≠ .disabling reads :=
    prompt.resolve_left id
  have calm : s.Calm True → s.Calm False := fun calm => { calm with prompt := .inr latency }
  -- what may take time without delays is over, so the stronger form of each state holds
  have off : s.radio.Off True → s.radio.Off False := by
    rintro (off | ⟨-, reads, disabling⟩)
    · exact .inl off
    · exact absurd disabling (settled reads)
  cases h with
  | dark mode h => exact .dark mode { h with calm := calm h.calm }
  | standby h => exact .standby { h with calm := calm h.calm, off := off h.off }
  | toning h => exact .toning { h with calm := calm h.calm }
  | torn may h => exact .torn may { h with calm := calm h.calm, off := off h.off }
  | carrier h tuned =>
    exact .carrier { h with calm := calm h.calm }
      (tuned.imp_right fun silent => ⟨silent.1, off silent.2.1, silent.2.2⟩)
  | gauge h silent amplifiers =>
    exact .gauge { h with calm := calm h.calm } (off silent) amplifiers

/-- **A round at rest lets the clock advance, and nothing else.** -/
theorem AtRest.round_fst (h : s.AtRest False tears) :
    s.round.1 = { s with clock := s.clock + roundTime } := by
  -- a radio that is off or has its carrier on air stays as it is, and no interrupt is waited for
  have later : ({ s with clock := s.clock + roundTime } : Station).AtRest False tears :=
    (clock_agree _ s).atRest h
  have still : ({ s with clock := s.clock + roundTime } : Station).serviceRadio =
      { s with clock := s.clock + roundTime } := by
    rcases later.phase with off | tone
    · exact serviceRadio_of_still (Radio.service_disabled off.disabled _)
    · exact serviceRadio_of_still (Radio.service_txIdle tone _)
  unfold Station.round
  rw [pump_of_quiet, still]
  rw [still]
  simp [Radio.interruptPending, h.calm.interrupt]

/-- A new operation leaves stations in tandem. -/
theorem Tandem.engage (h : Tandem ρ kept now now' s t) (label : Option String)
    (plain : work.Plain) : Tandem ρ kept now now' (s.engage label work).1 t := by
  obtain ⟨more, same, -, -⟩ := s.engage_buffers label plain
  refine { (s.engage_alike label plain).symm.trans h.toAlike with
    same := ?_, paired := h.paired, known := ?_, others := ?_, count := Nat.le_trans h.count more,
    clock := (s.engage_clock label plain).trans h.clock, clock' := h.clock' }
  · intro x member
    rw [same x.1 (h.known x member).1]
    exact h.same x member
  · intro x member
    exact ⟨Nat.lt_of_lt_of_le (h.known x member).1 more, (h.known x member).2⟩
  · intro b old outside
    rw [same b (Nat.lt_of_lt_of_le old h.count)]
    exact h.others b old outside

end Station

/-! ## Rounds of a crowd -/

/-- A pumped bench goes through a round of its station. -/
theorem Bench.advance_eq (b : Bench) :
    b.advance true = ({ b with station := b.station.round.1 }, b.station.round.2) := rfl

namespace Standing

variable {stage : Spawn → Station → Activity → Station → Prop} {s₀ s s₁ : Station}
  {before ended : List Completion} {spawned : List Spawn} {takers : List String}
  {jobs : List Job} {spawn : Spawn}

/-- **The clock and the radio.** -/
theorem round (h : Standing Spawn.Looked s₀ before spawned takers s jobs ended)
    (passed : s.round = (s₁, none)) :
    Standing Spawn.Ready s₀ before spawned takers s₁ jobs ended := by
  cases h with
  | idle h =>
    obtain ⟨t₀, waiting, ledger, waits, all, alike, custody, custody'⟩ := h
    have custody₁ := custody.passes passed
    -- Nothing is in progress, so the round differs from no round by the clock alone.
    obtain rfl : s₁ = { s with clock := s.clock + roundTime } := by
      rw [← custody.2.round_fst, passed]
    exact .idle ⟨t₀, waiting, ledger, waits.kept (fun _ _ _ _ => rfl) (Nat.le_refl _), all,
      { alike with }, custody₁, custody'⟩
  | busy holder others all h =>
    obtain ⟨t₀, spawn, waiting, ledger, waits, all', running⟩ := h
    obtain ⟨ρ, activity, t, label, matched, tandem, alike, custody, custody', apart, staged⟩ :=
      running
    obtain ⟨t₁, passed', moved⟩ := tandem.passes alike custody.2 custody'.2 passed
    refine .busy holder others all ⟨t₀, spawn, waiting, ledger, waits.afterLook moved apart, all',
      ρ, activity, t₁, label, matched, moved.rebase, ?_, custody.passes passed,
      custody'.passes passed', apart, ?_⟩
    · rw [moved.clock, moved.clock']
      exact alike.later roundTime
    · exact fun rounds result t' alone => staged rounds result t' ⟨_, passed', alone⟩

/-- **One more operation is asked for.** -/
theorem engage (h : Standing stage s₀ before spawned takers s jobs ended)
    (plain : spawn.work.Plain) :
    Standing stage s₀ before (spawned ++ [spawn]) takers
      (s.engage (some spawn.name) spawn.work).1
      (jobs ++ [(s.engage (some spawn.name) spawn.work).2]) ended := by
  cases h with
  | idle h =>
    obtain ⟨t₀, waiting, ledger, waits, all, alike, custody, custody'⟩ := h
    refine .idle ⟨t₀, _, ?_, waits.engage plain, ?_, (s.engage_alike _ plain).symm.trans alike,
      custody.engage _ plain, custody'⟩
    · simpa using ledger.ask [spawn]
    · simpa using all.append_right _
  | busy holder others all h =>
    obtain ⟨t₀, spawn', waiting, ledger, waits, all', running⟩ := h
    obtain ⟨ρ, activity, t, label, matched, tandem, alike, custody, custody', apart, staged⟩ :=
      running
    have engaged := tandem.engage (some spawn.name) plain
    refine .busy holder (others ++ [(s.engage (some spawn.name) spawn.work).2]) (all.append_right _)
      ⟨t₀, spawn', _, ?_, waits.engage plain, ?_, ρ, activity, t, label, matched, engaged.rebase,
        ?_, custody.engage _ plain, custody', ?_, staged⟩
    · simpa using ledger.ask [spawn]
    · simpa using all'.append_right _
    · rw [engaged.clock]
      exact alike
    -- the buffers of the new job are not known to the holder
    · intro x member y waitsToo own
      rcases List.mem_append.mp waitsToo with old | new
      · exact apart x member y old own
      · rw [List.mem_singleton.mp new] at own
        have unknown := (s.engage_buffers (some spawn.name) plain).2.2.1 x.1 own
        have known := (tandem.known x member).1
        omega

/-- Several operations are asked for. -/
theorem enlistAll {b : Bench} (h : Standing stage s₀ before spawned takers b.station b.jobs b.ended)
    {newcomers : List Spawn} (plain : ∀ spawn ∈ newcomers, spawn.work.Plain) :
    Standing stage s₀ before (spawned ++ newcomers) takers (b.enlistAll newcomers).station
      (b.enlistAll newcomers).jobs (b.enlistAll newcomers).ended := by
  induction newcomers generalizing b spawned with
  | nil =>
    rw [List.append_nil]
    exact h
  | cons spawn newcomers ih =>
    have asked : Standing stage s₀ before (spawned ++ [spawn]) takers
        (b.enlist (some spawn.name) spawn.work).station
        (b.enlist (some spawn.name) spawn.work).jobs
        (b.enlist (some spawn.name) spawn.work).ended := by
      rw [Bench.enlist_eq]
      exact h.engage (plain spawn (List.mem_cons_self ..))
    have later := ih asked fun other member => plain other (List.mem_cons_of_mem _ member)
    rw [List.append_assoc] at later
    exact later

/-- **Every round keeps the ledger of a crowd.** -/
theorem crowd {b b' : Bench} {spawns : List Spawn} {takers' : List String}
    (crowd : b.Crowd spawns takers' b')
    (h : Standing Spawn.Ready s₀ before spawned takers b.station b.jobs b.ended)
    (plain : ∀ spawn ∈ spawns, spawn.work.Plain) :
    Standing Spawn.Ready s₀ before (spawned ++ spawns) (takers ++ takers') b'.station b'.jobs
      b'.ended := by
  induction crowd generalizing spawned takers with
  | nil b =>
    rw [List.append_nil, List.append_nil]
    exact h
  | @round b b₁ _ newcomers spawns jobs takers' order passed later ih =>
    -- operations are asked for, the jobs are looked at in some order, and the round ends
    have asked := h.enlistAll fun spawn member => plain spawn (List.mem_append_left _ member)
    have looked := (asked.perm order.symm (.refl _)).looks
    have listed := looked.perm (.refl _) (((List.reverse_perm _).symm).append_right _)
    rw [Bench.advance_eq] at passed
    obtain ⟨rfl, calm⟩ := Prod.mk.inj passed
    have advanced := listed.round (Prod.ext rfl calm)
    have finally' := ih advanced fun spawn member => plain spawn (List.mem_append_right _ member)
    rw [List.append_assoc, List.append_assoc] at finally'
    exact finally'

/-- When no job is left, everything that was asked for has had its turn or was rejected. -/
theorem settled (h : Standing stage s₀ before spawned takers s [] ended) :
    ∃ t₀, Ledger s₀ t₀ [] [] spawned takers ended before ∧ s.Alike t₀ ∧
      t₀.Custody False True none := by
  cases h with
  | idle h =>
    obtain ⟨t₀, waiting, ledger, waits, all, alike, custody, custody'⟩ := h
    obtain rfl : waiting = [] := List.map_eq_nil_iff.mp all.nil_eq.symm
    exact ⟨t₀, ledger, alike, custody'⟩
  | busy holder others all h => exact absurd all.nil_eq (by simp)

end Standing

/-! ## In lock order -/

/-- The row has all operations of a crowd, and those that took the lock stand in the order in which
they did. Operations that were rejected before may stand anywhere. -/
structure Bench.InLockOrder (spawned : List Spawn) (takers : List String) (row : List Spawn) :
    Prop where
  all : row.Perm spawned
  order : (row.map Spawn.name).filter (· ∈ takers) = takers

/-- Rows of the same names, without a name that occurs twice, are the same. -/
theorem eq_of_names {row row' : List Spawn} (names : row.map Spawn.name = row'.map Spawn.name)
    (distinct : ∀ spawn ∈ row, ∀ spawn' ∈ row', spawn.name = spawn'.name → spawn = spawn') :
    row = row' := by
  induction row generalizing row' with
  | nil => exact (List.map_eq_nil_iff.mp names.symm).symm
  | cons spawn row ih =>
    cases row' with
    | nil => cases names
    | cons spawn' row' =>
      obtain ⟨name, later⟩ := List.cons.inj names
      rw [distinct spawn (List.mem_cons_self ..) spawn' (List.mem_cons_self ..) name,
        ih later fun x member y member' =>
          distinct x (List.mem_cons_of_mem _ member) y (List.mem_cons_of_mem _ member')]

/-- In a row without a name that occurs twice, the name tells which operation it is. -/
theorem eq_of_name {row : List Spawn} (distinct : (row.map Spawn.name).Nodup) :
    ∀ spawn ∈ row, ∀ spawn' ∈ row, spawn.name = spawn'.name → spawn = spawn' := by
  induction row with
  | nil => exact fun spawn member => absurd member List.not_mem_nil
  | cons first row ih =>
    obtain ⟨new, distinct⟩ := List.nodup_cons.mp distinct
    intro spawn member spawn' member' name
    rcases List.mem_cons.mp member with rfl | old
    · rcases List.mem_cons.mp member' with rfl | old'
      · rfl
      · exact absurd (name ▸ List.mem_map_of_mem old') new
    · rcases List.mem_cons.mp member' with rfl | old'
      · exact absurd (name ▸ List.mem_map_of_mem old) new
      · exact ih distinct spawn old spawn' old' name

namespace Ledger

variable {s₀ t₀ : Station} {spawned : List Spawn} {takers : List String}
  {ended before : List Completion}

/-- When nobody waits any more, those that were served and those that were rejected make up a row in
lock order. -/
theorem exists_row (h : Ledger s₀ t₀ [] [] spawned takers ended before)
    (distinct : (spawned.map Spawn.name).Nodup) : ∃ row, Bench.InLockOrder spawned takers row := by
  obtain ⟨served, rejected, completions, turns, order, all, answers, refused, accepted⟩ := h
  rw [List.append_nil] at order
  rw [List.append_nil, List.append_nil] at all
  have names := (all.map Spawn.name).nodup_iff.mp distinct
  rw [List.map_append, List.nodup_append] at names
  refine ⟨served ++ rejected, all.symm, ?_⟩
  rw [List.map_append, List.filter_append, order]
  have kept : (served.map Spawn.name).filter (· ∈ served.map Spawn.name) = served.map Spawn.name :=
    List.filter_eq_self.mpr fun name member => by simpa using member
  -- names occur once, so none of the rejected operations took the lock
  have left : (rejected.map Spawn.name).filter (· ∈ served.map Spawn.name) = [] := by
    refine List.filter_eq_nil_iff.mpr fun name member => ?_
    rw [decide_eq_true_eq]
    exact fun old => names.2.2 name old name member rfl
  rw [kept, left, List.append_nil]

/-- In a row in lock order, those that are not rejected are those that were served. -/
theorem served_of_row {served rejected row : List Spawn}
    (distinct : (spawned.map Spawn.name).Nodup) (all : spawned.Perm (served ++ rejected))
    (refused : ∀ spawn ∈ rejected, spawn.rejection?.isSome)
    (accepted : ∀ spawn ∈ served, spawn.rejection? = none)
    (ordered : Bench.InLockOrder spawned (served.map Spawn.name) row) :
    row.filter (fun spawn => spawn.rejection?.isNone) = served := by
  have names : (row.map Spawn.name).Nodup := (ordered.all.map Spawn.name).nodup_iff.mpr distinct
  have same : ∀ spawn ∈ row, ∀ spawn' ∈ row, spawn.name = spawn'.name → spawn = spawn' :=
    eq_of_name names
  have ofServed : ∀ spawn ∈ served, spawn ∈ row := fun spawn member =>
    (ordered.all.trans all).mem_iff.mpr (List.mem_append_left _ member)
  -- a row has those who were served and those who were rejected, and their rejection tells them
  -- apart
  have took : ∀ spawn ∈ row,
      spawn.rejection?.isNone = decide (spawn.name ∈ served.map Spawn.name) := by
    intro spawn member
    rcases List.mem_append.mp ((ordered.all.trans all).mem_iff.mp member) with old | late
    · rw [accepted spawn old]
      exact (decide_eq_true (List.mem_map_of_mem old)).symm
    · have no : spawn.name ∉ served.map Spawn.name := by
        intro served'
        obtain ⟨other, old, name⟩ := List.mem_map.mp served'
        have shared := same other (ofServed other old) spawn member name
        have rejects := refused spawn late
        rw [← shared, accepted other old] at rejects
        cases rejects
      have rejects := refused spawn late
      rw [decide_eq_false no]
      simpa using rejects
  rw [List.filter_congr took]
  -- both lists have the same operations, and the lock gives their order
  refine eq_of_names ?_ fun spawn member spawn' old => ?_
  · have inOrder := ordered.order
    rw [List.filter_map] at inOrder
    exact inOrder
  · exact same spawn (List.mem_filter.mp member).1 spawn' (ofServed spawn' old)

end Ledger

namespace Bench

/-- **Operations are serializable in lock order.** Let a crowd go through its rounds on a bench
without jobs until every operation is over, while the radio switches off without delay. Carried out
in turn, in the order in which they took the lock, the operations have the same results and leave
the same packets behind, and the stations are alike in the end. Operations that were rejected before
they asked for the lock may be put anywhere. The names only tell the operations apart. -/
theorem Reachable.serializable {b b' : Bench} (reachable : b.Reachable) (idle : b.jobs = [])
    (latency : b.station.radio.air.disableLatency = 0)
    (settled : ∀ reads, b.station.radio.phase ≠ .disabling reads) {spawned : List Spawn}
    {takers : List String} (crowd : b.Crowd spawned takers b')
    (plain : ∀ spawn ∈ spawned, spawn.work.Plain) (distinct : (spawned.map Spawn.name).Nodup)
    (complete : b'.jobs = []) :
    (∃ row, InLockOrder spawned takers row) ∧
      ∀ row, InLockOrder spawned takers row → ∃ completions b'',
        b.InTurn row completions b'' ∧ b'.ended.Perm (completions ++ b.ended) ∧
          b'.station.Alike b''.station := by
  obtain ⟨holder, holds, custody⟩ := reachable.sound.custody
  obtain rfl : holder = none := by
    rw [idle] at holds
    cases holder with
    | none => rfl
    | some activity => cases holds
  have rest : b.station.Custody False True none :=
    ⟨custody.1, custody.2.promptly (.inr ⟨latency, settled⟩)⟩
  have start : Standing Spawn.Ready b.station b.ended [] [] b.station b.jobs b.ended := by
    rw [idle]
    exact .idle ⟨b.station, [], .empty _ _, ⟨by simp, by simp⟩, .refl _, .refl _, rest, rest⟩
  have outcome := Standing.crowd crowd start plain
  rw [complete] at outcome
  obtain ⟨t₀, ledger, alike, rest'⟩ := outcome.settled
  refine ⟨ledger.exists_row distinct, fun row ordered => ?_⟩
  obtain ⟨served, rejected, completions, turns, order, all, answers, refused, accepted⟩ := ledger
  rw [List.append_nil] at order accepted
  rw [List.append_nil, List.append_nil, List.nil_append] at all
  obtain rfl : takers = served.map Spawn.name := order
  have left := Ledger.served_of_row distinct all refused accepted ordered
  -- the served operations in turn are known; the rejected ones are put where the row has them
  obtain ⟨completions', t', turns', alike', same⟩ := turns.insert (.refl _) rest rest
    (fun spawn member => plain spawn (ordered.all.mem_iff.mp member)) left
  obtain ⟨b'', inTurn, station⟩ := turns'.inTurn idle
  have refusals : (row.filterMap Spawn.rejection?).Perm (rejected.filterMap Spawn.rejection?) := by
    have split := (ordered.all.trans all).filterMap Spawn.rejection?
    rwa [List.filterMap_append, List.filterMap_eq_nil_iff.mpr accepted, List.nil_append] at split
  refine ⟨completions', b'', inTurn, ?_, station ▸ alike.trans alike'⟩
  refine answers.trans ?_
  rw [← List.append_assoc]
  exact ((refusals.append_left completions).symm.trans same.symm).append_right b.ended

/-- A send is in progress when the link is told to go down and the channel is changed; both have
to wait for the lock. A carrier on a channel out of range is refused at once, and comes first when
everything is carried out in turn. -/
theorem switch_and_change_wait_for_send :
    let up : Spawn := ⟨"up", .request (.switchMode .link)⟩
    let send : Spawn := ⟨"send", .request (.sendPayload [7])⟩
    let down : Spawn := ⟨"down", .request (.switchMode .disabled)⟩
    let refused : Spawn := ⟨"refused", .request (.startCarrier 200)⟩
    let tune : Spawn := ⟨"tune", .request (.change (.channel 80))⟩
    ∃ b' completions b'',
      (ofStation (.withFrontEnd .zeros)).Crowd [up, send, down, refused, tune]
        ["up", "send", "down", "tune"] b' ∧ b'.jobs = [] ∧
      (ofStation (.withFrontEnd .zeros)).InTurn [refused, up, send, down, tune] completions b'' ∧
      b'.ended.Perm completions ∧ b'.station.Alike b''.station := by
  intro up send down refused tune
  let rounds : List (List Spawn) :=
    [[up], [send, down, refused], [tune]] ++ List.replicate 40 []
  let b := ofStation (.withFrontEnd .zeros)
  have crowd : b.Crowd [up, send, down, refused, tune] ["up", "send", "down", "tune"]
      (b.runCrowd rounds).1 := by
    have run := Crowd.of_run (b := b) rounds (by decide +kernel)
    have takers : (b.runCrowd rounds).2.1 = ["up", "send", "down", "tune"] := by decide +kernel
    rw [takers] at run
    exact run
  have complete : (b.runCrowd rounds).1.jobs = [] := by decide +kernel
  have shuffle : ([up, send, down] ++ refused :: [tune]).Perm
      (refused :: ([up, send, down] ++ [tune])) := List.perm_middle
  have ordered : InLockOrder [up, send, down, refused, tune] ["up", "send", "down", "tune"]
      [refused, up, send, down, tune] := ⟨shuffle.symm, by decide⟩
  have settled : ∀ reads, b.station.radio.phase ≠ .disabling reads := by
    have off : b.station.radio.phase = .disabled := rfl
    intro reads
    rw [off]
    simp
  have serial := (Reachable.startUp ⟨.zeros, .inl rfl⟩ : b.Reachable).serializable rfl rfl
    settled crowd (by simp [up, send, down, refused, tune, Work.Plain, Request.Plain])
    (by decide) complete
  obtain ⟨completions, b'', inTurn, same, alike⟩ := serial.2 _ ordered
  rw [show b.ended = [] from rfl, List.append_nil] at same
  exact ⟨_, completions, b'', crowd, complete, inTurn, same, alike⟩

end Bench

end BurstLink
