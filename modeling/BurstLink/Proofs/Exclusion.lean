import BurstLink.Proofs.Exclusion.Shadow
import BurstLink.Proofs.Exclusion.Start

/-! # Amplifier exclusion

The operations switch the amplifiers one at a time, and the power amplifier before anything is put
on air. A front-end test asks nobody: it switches both amplifiers while other operations use them.
This module says how far the exclusion goes with any number of tests in between. Both amplifiers are
on together only while a test is in progress, or after one was given up halfway; and a packet is put
on air without the power amplifier only if a test has switched it off since the exchange started.

Main definitions:

* **`Bench.Traces`**, **`Bench.tracesAfter`** — what tests have left behind, along a run.
* **`Bench.Amplified`** — when the amplifiers may be on together, and what goes on air.
* **`Bench.Sheltered`** — the invariant of a run: shadows of the bench, and how their front ends are
  related to its own.

Main statement: `Station.AtStartUp.amplified_of_run`, with the runs on which the exclusion is broken
(`Bench.amplifiers_not_exclusive`). -/

namespace BurstLink

/-! ## What tests leave behind -/

/-- The test has started. -/
def Activity.isTesting : Activity → Bool
  | .testing _ => true
  | _ => false

/-- The first wait of the test is over. -/
def Activity.turns (clock : Nat) : Activity → Bool
  | .testing (.power deadline) => decide (deadline ≤ clock)
  | _ => false

/-- The power amplifier settles. -/
def AmplifierTest.isPower : AmplifierTest → Bool
  | .power _ => true
  | .lowNoise .. => false

namespace Bench

/-- The move gives up a test that has started. What the test has switched on stays on. -/
def abandons (b : Bench) : Move → Bool
  | .giveUp position => b.jobs[position]?.any fun job => job.activity.isTesting
  | _ => false

/-- The move ends the first wait of a test, which switches the power amplifier off. -/
def cutsOff (b : Bench) : Move → Bool
  | .look position => b.jobs[position]?.any fun job => job.activity.turns b.station.clock
  | _ => false

/-- The move is a look that starts an exchange: the first one of a send, or one more of the send in
progress. -/
def launches (b : Bench) : Move → Bool
  | .look position => b.jobs[position]?.any fun job =>
    job.activity.admits b.station || job.activity.repeats b.station
  | _ => false

/-- What tests have left behind. -/
structure Traces where
  /-- Since both amplifiers were last off, a test was given up after it had started. -/
  abandoned : Bool := false
  /-- Since the last exchange started, a test has switched the power amplifier off. -/
  cut : Bool := false
  deriving DecidableEq

/-- What tests have left behind after a move, given what they had before. -/
def tracesBy (b : Bench) (traces : Traces) (move : Move) : Traces where
  abandoned := (traces.abandoned || b.abandons move) &&
    ((b.make move).station.paOn || (b.make move).station.lnaOn)
  cut := (traces.cut || b.cutsOff move) && !b.launches move

/-- What tests have left behind after some moves. -/
def tracesAfter (b : Bench) (traces : Traces) : List Move → Traces
  | [] => traces
  | move :: moves => (b.make move).tracesAfter (b.tracesBy traces move) moves

/-- Unless a test was given up, both amplifiers are on together only while a test is in progress.
Unless a test has switched the power amplifier off since the exchange started, it is on whenever the
next step of the radio puts a packet on air, and nothing else puts one there. -/
structure Amplified (b : Bench) (traces : Traces) : Prop where
  exclusive : traces.abandoned = false → b.station.paOn = true → b.station.lnaOn = true →
    ∃ job ∈ b.jobs, job.activity.isTesting = true
  powered : traces.cut = false → b.station.emits.isSome = true →
    b.station.paOn = b.station.frontEnd.isSome
  recorded : ∀ move : Move, move.MayTest →
    (b.make move).station.radio.air.history ≠ b.station.radio.air.history →
      b.station.emits.isSome = true

end Bench

/-! ## Front ends of a bench and of its shadow -/

namespace FrontEnd

/-- An amplifier that is on at the first front end is on at the second one, or allowed for. -/
def CoveredBy (pa lna : Prop) (f g : FrontEnd) : Prop :=
  (f.pa = true → g.pa = true ∨ pa) ∧ (f.lna = true → g.lna = true ∨ lna)

/-- The power amplifier of the first front end is on whenever that of the second one is. -/
def Backs (f g : FrontEnd) : Prop := g.pa = true → f.pa = true

/-- The relation that asks for nothing. -/
theorem tracks_any : Tracks fun _ _ => True :=
  ⟨fun _ => trivial, fun _ _ => trivial, fun _ _ => trivial, fun _ _ => trivial⟩

/-- An amplifier that is switched is on in both runs or in neither, and so it is covered. -/
theorem tracks_coveredBy (pa lna : Prop) : Tracks (CoveredBy pa lna) where
  prepare related := related
  setPa _ related := ⟨.inl, related.2⟩
  setLna _ related := ⟨related.1, .inl⟩
  setGain _ related := related

/-- A switch of the power amplifier is made in both runs, and the other switches leave it alone. -/
theorem tracks_backs : Tracks Backs where
  prepare related := related
  setPa _ _ := id
  setLna _ related := related
  setGain _ related := related

end FrontEnd

open FrontEnd (CoveredBy Backs)

/-- The front end has a counterpart. -/
theorem Station.Alongside.counterpart {R : FrontEnd → FrontEnd → Prop} {s t : Station}
    (h : s.Alongside R t) {f : FrontEnd} (found : f ∈ s.frontEnd) : ∃ g ∈ t.frontEnd, R f g := by
  have fitted := h.fitted
  rw [Option.mem_def.mp found] at fitted
  generalize t.frontEnd = o at fitted
  cases fitted with
  | some related => exact ⟨_, rfl, related⟩

namespace Bench

variable {R : FrontEnd → FrontEnd → Prop} {b b' : Bench} {job : Job} {before later : List Job}
  {move : Move} {traces : Traces} {power : Bool}

namespace ShadowedBy

/-- Self tests do not show in the transfer. -/
theorem transfer (h : b.ShadowedBy R b') : b'.station.transfer = b.station.transfer := by
  rw [h.station.rest]
  rfl

/-- Self tests do not show in the radio. -/
theorem radio (h : b.ShadowedBy R b') : b'.station.radio = b.station.radio := by
  rw [h.station.rest]
  rfl

/-- A job that is no test is among the jobs of the shadow. -/
theorem mem (h : b.ShadowedBy R b') (member : job ∈ b.jobs)
    (other : job.activity.isTest = false) : job ∈ b'.jobs := by
  rw [h.jobs]
  exact List.mem_filter.mpr ⟨member, by simp [other]⟩

/-- What a look at a job that is no test does to packets. -/
theorem traffic (h : b.ShadowedBy R b') (member : job ∈ b.jobs)
    (other : job.activity.isTest = false) :
    job.activity.Traffic b.station (job.activity.poll b.station) := by
  have fits := h.reachable.tidy.fits job (h.mem member other)
  rw [h.station.rest] at fits
  exact Activity.poll_traffic (h.reachable.sound.regular job (h.mem member other)) fits

/-- A reachable bench is a shadow of itself. -/
theorem self (h : b.Reachable) (tracks : FrontEnd.Tracks R) (refl : ∀ f, R f f) :
    b.ShadowedBy R b := by
  refine ⟨h, (Job.others_eq h.sound.regular).symm, tracks, rfl, ?_⟩
  cases b.station.frontEnd with
  | none => exact .none
  | some f => exact .some (refl f)

/-- A packet is put on air during its exchange only. -/
theorem onAir_of_emits (h : b.ShadowedBy R b') (emits : b.station.emits.isSome = true) :
    b.station.transfer.state = .txInFlight := by
  have reads : b'.station.radio.reads = true := by
    rw [h.radio]
    unfold Station.emits at emits
    split at emits
    · assumption
    · cases emits
  have guarded := h.reachable.sound.guarded h.reachable.tidy
  rw [← h.transfer]
  exact (guarded.reads reads).1

/-- While the packet of an exchange is on air, the power amplifier of the shadow is on, and so is
one that backs it. -/
theorem pa_of_onAir (h : b.ShadowedBy Backs b')
    (onAir : b.station.transfer.state = .txInFlight) : ∀ f ∈ b.station.frontEnd, f.pa = true := by
  intro f found
  obtain ⟨g, counterpart, backs⟩ := h.station.counterpart found
  have handshake := h.reachable.sound.handshake h.reachable.tidy
  obtain ⟨job, flight, transmits⟩ := handshake.transmits (h.transfer ▸ onAir)
  exact backs (transmits.amplifiers g counterpart).1

end ShadowedBy

/-! ## Tests in progress -/

/-- A test is in its first wait, for the power amplifier, or in its second one. -/
def Settles (b : Bench) (power : Bool) : Prop :=
  ∃ job ∈ b.jobs, ∃ test : AmplifierTest, job.activity = .testing test ∧ test.isPower = power

/-- A look at one job leaves the tests of the others. -/
theorem Settles.lookAt (h : b.Settles power) (jobs : b.jobs = before ++ job :: later)
    (own : ∀ test, job.activity = .testing test → test.isPower = power →
      (b.lookAt before.length).Settles power) : (b.lookAt before.length).Settles power := by
  obtain ⟨tester, member, test, activity, phase⟩ := h
  rcases mem_exchange (jobs ▸ member) with rfl | others
  · exact own test activity phase
  · exact ⟨tester, mem_lookAt_of_others jobs others, test, activity, phase⟩

/-- A test goes on until it is looked at or given up. -/
theorem Settles.make (h : b.Settles power) (mayTest : move.MayTest)
    (unlooked : ∀ job ∈ b.looked move, job.activity.isTest = false)
    (kept : b.abandons move = false) : (b.make move).Settles power := by
  obtain ⟨job, member, test, activity, phase⟩ := h
  have arranges : ∀ command, move = .arrange command → command.Arranges := by
    rintro command rfl
    exact mayTest
  rcases mem_make arranges member with stays | ⟨position, found, rfl | rfl⟩
  · exact ⟨job, stays, test, activity, phase⟩
  · exact absurd (unlooked job found) (by simp [activity, Activity.isTest])
  · exact absurd kept (by simp [abandons, found, activity, Activity.isTesting])

/-! ## The invariant -/

/-- **What shelters a bench.** It has a shadow. Unless a test was given up, the shadow and the tests
in progress account for every amplifier that is on. Unless a test has switched the power amplifier
off since the exchange started, it is on until the packet is out. -/
structure Sheltered (b : Bench) (traces : Traces) : Prop where
  shadow : ∃ b', b.ShadowedBy (fun _ _ => True) b'
  covered : traces.abandoned = false →
    ∃ b', b.ShadowedBy (CoveredBy (b.Settles true) (b.Settles false)) b'
  powered : traces.cut = false → b.station.transfer.state = .txInFlight →
    ∀ f ∈ b.station.frontEnd, f.pa = true

/-! ### Amplifiers that are on together -/

/-- A test that goes on is in the wait that the look has left it in. -/
theorem settles_of_looksLike (jobs : b.jobs = before ++ job :: later)
    {switch : FrontEnd → FrontEnd} {rest : AmplifierTest}
    (looks : job.activity.LooksLike b.station switch (some rest)) :
    (b.lookAt before.length).Settles rest.isPower := by
  rcases looks.look with ⟨rest', same, goesOn⟩ | ⟨ended, -⟩
  · obtain rfl := Option.some.inj same
    rcases (lookAt_job jobs).2 with ⟨ended, -⟩ | ⟨activity, goesOn', stayed⟩
    · exact absurd goesOn (ended _)
    · obtain rfl := Look.waiting.inj (goesOn'.symm.trans goesOn)
      exact ⟨{ job with activity := .testing rest }, by rw [stayed]; simp, rest, rfl, rfl⟩
  · cases ended

/-- **The shadow and the tests in progress account for the amplifiers after a look at a test.** Each
step of the test switches on what its next wait is for, and off what its last one was for. -/
theorem coveredBy_of_looksLike (jobs : b.jobs = before ++ job :: later)
    {switch : FrontEnd → FrontEnd} {next : Option AmplifierTest}
    (looks : job.activity.LooksLike b.station switch next) {f g : FrontEnd}
    (covered : CoveredBy (b.Settles true) (b.Settles false) f g) :
    CoveredBy ((b.lookAt before.length).Settles true) ((b.lookAt before.length).Settles false)
      (switch f) g := by
  -- the test that goes on settles the amplifier that it has just switched on
  have settles : ∀ rest, next = some rest → (b.lookAt before.length).Settles rest.isPower := by
    rintro rest rfl
    exact settles_of_looksLike jobs looks
  have others : ∀ power, (∀ test, job.activity = .testing test → test.isPower = power →
      (b.lookAt before.length).Settles power) →
        b.Settles power → (b.lookAt before.length).Settles power :=
    fun power own settling => settling.lookAt jobs own
  have step := looks.step
  generalize job.activity = activity at step others
  cases step with
  | starts =>
    exact ⟨fun _ => .inr (settles _ rfl),
      fun on => (covered.2 on).imp_right (others false (by rintro test ⟨⟩))⟩
  | waits test =>
    have own : ∀ power, ∀ test', Activity.testing test = .testing test' →
        test'.isPower = power → (b.lookAt before.length).Settles power := by
      rintro power test' same rfl
      obtain rfl := Activity.testing.inj same
      exact settles test rfl
    exact ⟨fun on => (covered.1 on).imp_right (others true (own true)),
      fun on => (covered.2 on).imp_right (others false (own false))⟩
  | turns pa due => exact ⟨fun on => absurd on (by simp), fun _ => .inr (settles _ rfl)⟩
  | ends pa deadline =>
    refine ⟨fun on => (covered.1 on).imp_right (others true ?_), fun on => absurd on (by simp)⟩
    rintro test same phase
    obtain rfl := Activity.testing.inj same
    exact absurd phase (by simp [AmplifierTest.isPower])

/-- **The shadow and the tests in progress account for the amplifiers after a move**, unless it
gives up a test that has started. -/
theorem covered_make (h : b.ShadowedBy (CoveredBy (b.Settles true) (b.Settles false)) b')
    (mayTest : move.MayTest) (kept : b.abandons move = false) :
    ∃ b'', (b.make move).ShadowedBy
      (CoveredBy ((b.make move).Settles true) ((b.make move).Settles false)) b'' := by
  refine h.make mayTest (FrontEnd.tracks_coveredBy _ _) ?_ ?_
  · intro unlooked f g covered
    exact ⟨fun on => (covered.1 on).imp_right fun settles => settles.make mayTest unlooked kept,
      fun on => (covered.2 on).imp_right fun settles => settles.make mayTest unlooked kept⟩
  · intro job looked switch next looks f g covered
    cases move with
    | look position =>
      obtain ⟨before, later, jobs, rfl⟩ := exists_split looked
      exact coveredBy_of_looksLike jobs looks covered
    | _ => exact absurd looked (by simp [Bench.looked])

/-- With both amplifiers off there is nothing to account for. -/
theorem covered_of_off (h : b.ShadowedBy R b') (pa : b.station.paOn = false)
    (lna : b.station.lnaOn = false) :
    b.ShadowedBy (CoveredBy (b.Settles true) (b.Settles false)) b' := by
  refine h.imp (FrontEnd.tracks_coveredBy _ _) fun f found g _ _ => ?_
  unfold Station.paOn at pa
  unfold Station.lnaOn at lna
  rw [Option.mem_def.mp found] at pa lna
  exact ⟨fun on => absurd (on.symm.trans pa) (by simp),
    fun on => absurd (on.symm.trans lna) (by simp)⟩

/-! ### The power amplifier during an exchange -/

/-- A look at a test leaves everything alone but front end, log, and what the radio points at. -/
theorem lookAt_of_isTest (jobs : b.jobs = before ++ job :: later)
    (test : job.activity.isTest = true) : ∃ frontEnd journal pointer,
      (b.lookAt before.length).station =
        (b.station.refit frontEnd journal).onRadio (Radio.setBuffer pointer) := by
  obtain ⟨switch, next, looks⟩ := Activity.looksLike_of_isTest test b.station
  obtain ⟨journal, looked⟩ := looks.station
  obtain ⟨pointer, pointed⟩ := job.poll_pointed b.station
  exact ⟨_, journal, pointer, by rw [(lookAt_job jobs).1, pointed, looked]⟩

/-- A look that starts no exchange: the packet was on air before. -/
theorem onAir_of_lookAt (h : b.ShadowedBy R b') (jobs : b.jobs = before ++ job :: later)
    (refused : job.activity.admits b.station = false)
    (unrepeated : job.activity.repeats b.station = false)
    (onAir : (b.lookAt before.length).station.transfer.state = .txInFlight) :
    b.station.transfer.state = .txInFlight := by
  cases test : job.activity.isTest with
  | true =>
    obtain ⟨frontEnd, journal, pointer, looked⟩ := lookAt_of_isTest jobs test
    rw [looked] at onAir
    exact onAir
  | false =>
    have polled := Station.Alongside.congruence.poll_other h.station test
    -- the look does the same to the shadow, where it starts no exchange either
    have quiet : ∀ f purpose, (job.activity.poll b'.station).2 = .waiting (.sending f purpose) →
        (job.activity.poll b'.station).1.transfer = b'.station.transfer := by
      intro f purpose goesOn
      have kept := Activity.transfer_of_unattempted refused unrepeated (polled.found.trans goesOn)
      rw [polled.stations.rest, h.transfer, ← kept]
      rfl
    rw [← h.transfer]
    rw [← (h.lookAt_other jobs test).transfer] at onAir
    exact h.reachable.onAir_of_look (h.split jobs test) quiet onAir

/-- **An exchange starts by a look that launches it**, and by nothing else. -/
theorem onAir_of_make (h : b.ShadowedBy R b') (mayTest : move.MayTest)
    (unlaunched : b.launches move = false)
    (onAir : (b.make move).station.transfer.state = .txInFlight) :
    b.station.transfer.state = .txInFlight := by
  cases move with
  | look position =>
    have onAir : (b.lookAt position).station.transfer.state = .txInFlight := onAir
    cases found : b.jobs[position]? with
    | none => rwa [lookAt_of_none found] at onAir
    | some job =>
      -- the look neither starts a send nor repeats an attempt
      obtain ⟨refused, unrepeated⟩ : job.activity.admits b.station = false ∧
          job.activity.repeats b.station = false := by
        simpa [launches, found] using unlaunched
      obtain ⟨before, later, jobs, rfl⟩ := exists_split found
      exact onAir_of_lookAt h jobs refused unrepeated onAir
  | giveUp position =>
    have onAir : (b.giveUp position).station.transfer.state = .txInFlight := onAir
    rcases b.giveUp_cases position with same | ⟨_, job, _, -, -, dropped, -⟩
    · rwa [same] at onAir
    · rw [dropped] at onAir
      exact Job.onAir_of_drop onAir
  | ask label work =>
    have agree : Station.Agree True b.station (b.enlist label work).station :=
      b.enlist_agree label work
    rw [agree.transfer]
    exact onAir
  | arrange command =>
    rw [(execute_of_arranges mayTest).1.transfer]
    exact onAir
  | pump => exact Station.onAir_of_pump onAir
  | service =>
    obtain ⟨buffers, served⟩ := b.station.serviceRadio_eq
    have onAir : b.station.serviceRadio.transfer.state = .txInFlight := onAir
    rwa [served] at onAir
  | _ => exact onAir

/-- After a move that starts an exchange the power amplifier is on. -/
theorem pa_of_launches (h : b.ShadowedBy R b') (launched : b.launches move = true) :
    ∀ f ∈ (b.make move).station.frontEnd, f.pa = true := by
  cases move with
  | look position =>
    cases found : b.jobs[position]? with
    | none => simp [launches, found] at launched
    | some job =>
      have starts : job.activity.admits b.station = true ∨
          job.activity.repeats b.station = true := by
        simpa [launches, found] using launched
      obtain ⟨before, later, jobs, rfl⟩ := exists_split found
      -- tests launch nothing
      have other : job.activity.isTest = false := by
        cases activity : job.activity with
        | queued request =>
          cases request with
          | testAmplifiers =>
            rw [activity] at starts
            simp [Activity.admits, Activity.repeats, Station.startAdmits] at starts
          | _ => rfl
        | testing test =>
          rw [activity] at starts
          simp [Activity.admits, Activity.repeats] at starts
        | _ => rfl
      obtain ⟨pointer, pointed⟩ := job.poll_pointed b.station
      have switched := Activity.amplified_of_attempt (h.traffic (by simp [jobs]) other) starts
      show ∀ f ∈ (b.lookAt before.length).station.frontEnd, f.pa = true
      rw [(lookAt_job jobs).1, pointed]
      exact switched
  | _ => simp [launches] at launched

/-- **The power amplifier stays on until the packet is out**, unless a test switches it off. -/
theorem powered_make (h : b.ShadowedBy R b') (mayTest : move.MayTest)
    (powered : b.station.transfer.state = .txInFlight → ∀ f ∈ b.station.frontEnd, f.pa = true)
    (uncut : b.cutsOff move = false) (unlaunched : b.launches move = false)
    (onAir : (b.make move).station.transfer.state = .txInFlight) :
    ∀ f ∈ (b.make move).station.frontEnd, f.pa = true := by
  have on := powered (onAir_of_make h mayTest unlaunched onAir)
  have backed : b.ShadowedBy Backs b' :=
    h.imp FrontEnd.tracks_backs fun f found _ _ _ _ => on f found
  obtain ⟨b'', next⟩ : ∃ b'', (b.make move).ShadowedBy Backs b'' := by
    refine backed.make mayTest FrontEnd.tracks_backs (fun _ _ _ => id) ?_
    intro job looked switch next looks f g backs
    have unturned : job.activity.turns b.station.clock = false := by
      cases move with
      | look position =>
        have found : b.jobs[position]? = some job := looked
        simpa [cutsOff, found] using uncut
      | _ => exact absurd looked (by simp [Bench.looked])
    have step := looks.step
    generalize job.activity = activity at step unturned
    cases step with
    | starts => exact fun _ => rfl
    | waits test => exact backs
    | turns pa due => simp [Activity.turns, due] at unturned
    | ends pa deadline => exact backs
  exact next.pa_of_onAir onAir

/-! ### Runs -/

/-- **What shelters a bench shelters it after a move.** -/
theorem Sheltered.make (h : b.Sheltered traces) (mayTest : move.MayTest) :
    (b.make move).Sheltered (b.tracesBy traces move) := by
  obtain ⟨b', shadow⟩ := h.shadow
  obtain ⟨b'', next⟩ : ∃ b'', (b.make move).ShadowedBy (fun _ _ => True) b'' :=
    shadow.make mayTest FrontEnd.tracks_any (fun _ _ _ => id) fun _ _ _ _ _ _ _ _ => trivial
  refine ⟨⟨b'', next⟩, ?_, ?_⟩
  · intro kept
    have either : (traces.abandoned || b.abandons move) = false ∨
        ((b.make move).station.paOn || (b.make move).station.lnaOn) = false :=
      (Bool.and_eq_false_iff ..).mp kept
    rcases either with kept | off
    · obtain ⟨old, new⟩ := Bool.or_eq_false_iff.mp kept
      obtain ⟨_, covered⟩ := h.covered old
      exact covered_make covered mayTest new
    · obtain ⟨pa, lna⟩ := Bool.or_eq_false_iff.mp off
      exact ⟨b'', covered_of_off next pa lna⟩
  · intro uncut onAir
    have either : (traces.cut || b.cutsOff move) = false ∨ (!b.launches move) = false :=
      (Bool.and_eq_false_iff ..).mp uncut
    cases launched : b.launches move with
    | true => exact pa_of_launches shadow launched
    | false =>
      obtain ⟨old, new⟩ := Bool.or_eq_false_iff.mp (either.resolve_right (by simp [launched]))
      exact powered_make shadow mayTest (h.powered old) new launched onAir

/-- What shelters a bench shelters it along a run. The induction is on the moves. -/
theorem Sheltered.after (h : b.Sheltered traces) (moves : List Move)
    (mayTest : ∀ move ∈ moves, move.MayTest) :
    (b.after moves).Sheltered (b.tracesAfter traces moves) := by
  induction moves generalizing b traces with
  | nil => exact h
  | cons move moves ih =>
    rw [after_cons]
    exact ih (h.make (mayTest move (by simp))) fun m member => mayTest m (by simp [member])

/-- At start-up there are no tests, and no exchange is in progress. -/
theorem sheltered_startUp {s : Station} (start : s.AtStartUp) : (ofStation s).Sheltered {} := by
  have reachable := Reachable.startUp start
  refine ⟨⟨_, .self reachable FrontEnd.tracks_any fun _ => trivial⟩,
    fun _ => ⟨_, .self reachable (FrontEnd.tracks_coveredBy _ _) fun _ => ⟨.inl, .inl⟩⟩, ?_⟩
  intro _ onAir
  obtain ⟨draws, rfl | rfl⟩ := start
  · exact absurd onAir (by simp [ofStation, Station.withFrontEnd])
  · exact absurd onAir (by simp [ofStation, Station.withoutFrontEnd])

/-! ## What goes on air -/

/-- Nothing is recorded as sent but what a step of the radio puts on air. -/
theorem emits_of_recorded (h : b.ShadowedBy R b') (mayTest : move.MayTest)
    (recorded : (b.make move).station.radio.air.history ≠ b.station.radio.air.history) :
    b.station.emits.isSome = true := by
  -- all moves but those that step the radio leave the history alone
  have served : b.station.serviceRadio.radio.air.history ≠ b.station.radio.air.history →
      b.station.emits.isSome = true := by
    intro changed
    cases emits : b.station.emits with
    | some frame => rfl
    | none =>
      rw [Station.air_serviceRadio, emits] at changed
      exact absurd rfl changed
  cases move with
  | service => exact served recorded
  | pump =>
    have recorded : b.station.pump.1.radio.air.history ≠ b.station.radio.air.history := recorded
    rw [b.station.pump_spares.2.1] at recorded
    exact served recorded
  | ask label work => exact absurd (spares_enlist label work b).history recorded
  | giveUp position => exact absurd (b.spares_giveUp position).history recorded
  | arrange command => exact absurd (spares_arrange mayTest).history recorded
  | look position =>
    refine absurd ?_ recorded
    show (b.lookAt position).station.radio.air.history = _
    rcases b.lookAt_cases position with same | ⟨before, job, later, jobs, rfl, looked, -⟩
    · rw [same]
    · cases test : job.activity.isTest with
      | true =>
        obtain ⟨frontEnd, journal, pointer, looked⟩ := lookAt_of_isTest jobs test
        rw [looked]
        rfl
      | false =>
        obtain ⟨pointer, pointed⟩ := job.poll_pointed b.station
        rw [looked, pointed]
        exact (h.traffic (by simp [jobs]) test).history
  | _ => exact absurd rfl recorded

/-- The tests in progress are those that wait for an amplifier. -/
theorem Settles.exists_testing (h : b.Settles power) :
    ∃ job ∈ b.jobs, job.activity.isTesting = true := by
  obtain ⟨job, member, test, activity, -⟩ := h
  exact ⟨job, member, by rw [activity]; rfl⟩

/-- **Both amplifiers are on together only while a test is in progress**, if the shadow and the
tests in progress account for them. -/
theorem testing_of_both (h : b.ShadowedBy (CoveredBy (b.Settles true) (b.Settles false)) b')
    (pa : b.station.paOn = true) (lna : b.station.lnaOn = true) :
    ∃ job ∈ b.jobs, job.activity.isTesting = true := by
  obtain ⟨holder, -, custody⟩ := h.reachable.sound.custody
  unfold Station.paOn at pa
  unfold Station.lnaOn at lna
  cases found : b.station.frontEnd with
  | none =>
    rw [found] at pa
    cases pa
  | some f =>
    rw [found] at pa lna
    obtain ⟨g, counterpart, covered⟩ := h.station.counterpart found
    rcases covered.1 pa with on | settles
    · rcases covered.2 lna with on' | settles
      · -- on the shadow they are not on together
        exact absurd (on'.symm.trans (custody.exclusive g counterpart on)) (by simp)
      · exact settles.exists_testing
    · exact settles.exists_testing

/-- What shelters a bench keeps the amplifiers as they should be. -/
theorem Sheltered.amplified (h : b.Sheltered traces) : b.Amplified traces where
  exclusive kept pa lna := by
    obtain ⟨b', covered⟩ := h.covered kept
    exact testing_of_both covered pa lna
  powered uncut emits := by
    obtain ⟨b', shadow⟩ := h.shadow
    have on := h.powered uncut (shadow.onAir_of_emits emits)
    unfold Station.paOn
    cases found : b.station.frontEnd with
    | none => rfl
    | some f => exact on f found
  recorded move mayTest recorded := by
    obtain ⟨b', shadow⟩ := h.shadow
    exact emits_of_recorded shadow mayTest recorded

end Bench

/-- **Amplifier exclusion.** In every run of operations with any number of front-end tests among
them, both amplifiers are on together only while a test is in progress, unless a test was given up
halfway since they were last off; and whenever a packet is put on air the power amplifier is on,
unless a test has switched it off since the exchange started. -/
theorem Station.AtStartUp.amplified_of_run {s : Station} (start : s.AtStartUp) (moves : List Move)
    (mayTest : ∀ move ∈ moves, move.MayTest) :
    ((Bench.ofStation s).after moves).Amplified ((Bench.ofStation s).tracesAfter {} moves) :=
  ((Bench.sheltered_startUp start).after moves mayTest).amplified

/-- A send that starts during the second wait of a test: both amplifiers are on, a test is in
progress, and the packet is about to go on air with the power amplifier on. -/
theorem Bench.amplified_of_send_during_test :
    let moves : List Move := [.ask none (.request (.switchMode .link)), .look 0,
      .ask none (.request .testAmplifiers), .look 0, .wait amplifierSettleTime, .look 0,
      .ask none (.request (.sendPayload [1, 2])), .look 1]
    let start : Bench := ofStation (.withFrontEnd .zeros)
    let b := start.after moves
    (∀ move ∈ moves, move.MayTest) ∧ start.tracesAfter {} moves = {} ∧
      b.station.paOn = true ∧ b.station.lnaOn = true ∧ b.station.emits.isSome = true ∧
      b.Amplified (start.tracesAfter {} moves) := by
  intro moves start b
  have mayTest : ∀ move ∈ moves, move.MayTest := by decide
  exact ⟨mayTest, by decide +kernel, by decide +kernel, by decide +kernel, by decide +kernel,
    Station.AtStartUp.amplified_of_run ⟨.zeros, .inl rfl⟩ moves mayTest⟩

/-- The exclusion is broken by tests in three ways. A test that starts while a send waits for its
acknowledgement leaves both amplifiers on. A test that comes to the end of its first wait after a
send has started lets the packet go on air without the power amplifier. A test that is given up in
its first wait leaves the power amplifier on, and with no test in progress a measurement switches
the other one on. -/
theorem Bench.amplifiers_not_exclusive :
    let start : Bench := ofStation (.withFrontEnd .zeros)
    let link : List Move := [.ask none (.request (.switchMode .link)), .look 0]
    let awaiting : List Move := link ++ [.ask none (.request (.sendPayload [1, 2])), .look 0, .pump,
      .ask none (.request .testAmplifiers), .look 1]
    let sending : List Move := link ++ [.ask none (.request .testAmplifiers), .look 0,
      .ask none (.request (.sendPayload [1, 2])), .look 1, .wait amplifierSettleTime, .look 0]
    let measuring : List Move := [.ask none (.request (.switchMode .powerMeasurement)), .look 0,
      .ask none (.request .testAmplifiers), .look 0, .giveUp 0,
      .ask none (.request (.measureRssi 7)), .look 0]
    (∀ move ∈ awaiting ++ sending ++ measuring, move.MayTest) ∧
      ((start.after awaiting).station.paOn = true ∧ (start.after awaiting).station.lnaOn = true) ∧
      ((start.after sending).station.paOn = false ∧
        ((start.after sending).make .pump).station.radio.air.history ≠
          (start.after sending).station.radio.air.history) ∧
      ((start.after measuring).station.paOn = true ∧
        (start.after measuring).station.lnaOn = true ∧
        ∀ job ∈ (start.after measuring).jobs, job.activity.isTesting = false) := by
  intro start link awaiting sending measuring
  exact ⟨by decide, by decide +kernel, by decide +kernel, by decide +kernel⟩

end BurstLink
