import BurstLink.Proofs.Congruence.Bench
import BurstLink.Proofs.Custody.Bench
import BurstLink.Proofs.Exclusion.Alongside

/-! # A bench without its front-end tests

A front-end test switches the amplifiers whatever the other operations do, and nothing else. So the
other jobs of a bench go through a run as if there were no tests: they do on a shadow of the bench,
which has the same jobs without the tests, and whose station differs in front end and log alone.

Main definitions:

* **`Move.MayTest`** — moves that may ask for a test.
* **`Activity.TestStep`** — what a look at a test does to the front end.
* **`Bench.ShadowedBy`** — the other bench is the shadow.

Main statements: `Activity.looksLike_of_isTest`, and `Bench.ShadowedBy.make`: after every move there
is a shadow again. -/

namespace BurstLink

/-! ## Tests -/

/-- A regular operation is no front-end test. -/
theorem Activity.Regular.not_isTest {activity : Activity} (h : activity.Regular) :
    activity.isTest = false := by
  cases activity with
  | queued request =>
    cases request with
    | testAmplifiers => exact absurd h id
    | _ => rfl
  | testing => exact absurd h id
  | _ => rfl

/-- The jobs that are no tests. -/
def Job.others (jobs : List Job) : List Job := jobs.filter fun job => !job.activity.isTest

namespace Job

/-- Self tests are left out of each part of a list of operations. -/
theorem others_append (jobs jobs' : List Job) :
    others (jobs ++ jobs') = others jobs ++ others jobs' :=
  List.filter_append ..

/-- An operation that is not a self test stays at the head. -/
theorem others_cons {job : Job} {jobs : List Job} (other : job.activity.isTest = false) :
    others (job :: jobs) = job :: others jobs := by
  simp [others, other]

/-- A self test at the head is left out. -/
theorem others_cons_of_test {job : Job} {jobs : List Job} (test : job.activity.isTest = true) :
    others (job :: jobs) = others jobs := by
  simp [others, test]

/-- Where every operation is regular there is no self test to leave out. -/
theorem others_eq {jobs : List Job} (regular : ∀ job ∈ jobs, job.activity.Regular) :
    others jobs = jobs :=
  List.filter_eq_self.mpr fun job member => by simp [(regular job member).not_isTest]

end Job

/-- The move is a regular one, or asks for a front-end test. -/
def Move.MayTest : Move → Prop
  | .ask _ (.request .testAmplifiers) => True
  | move => move.Regular

instance : DecidablePred Move.MayTest := fun move => by
  unfold Move.MayTest
  split <;> infer_instance

/-- The job that a move looks at. -/
def Bench.looked (b : Bench) : Move → Option Job
  | .look position => b.jobs[position]?
  | _ => none

/-! ## A look at a test -/

/-- What a look at a test does to the front end, and what is left of the test. -/
inductive Activity.TestStep (clock : Nat) :
    Activity → (FrontEnd → FrontEnd) → Option AmplifierTest → Prop
  /-- The test starts with the power amplifier. -/
  | starts : TestStep clock (.queued .testAmplifiers) (FrontEnd.setPa true)
      (some (.power (clock + amplifierSettleTime)))
  /-- The amplifier has not settled. -/
  | waits (test : AmplifierTest) : TestStep clock (.testing test) id (some test)
  /-- The test goes on with the low-noise amplifier. -/
  | turns {deadline : Nat} (pa : Bool) (due : deadline ≤ clock) :
      TestStep clock (.testing (.power deadline)) (FrontEnd.setLna true ∘ FrontEnd.setPa false)
        (some (.lowNoise pa (clock + amplifierSettleTime)))
  /-- The test is over. -/
  | ends (pa : Bool) (deadline : Nat) :
      TestStep clock (.testing (.lowNoise pa deadline)) (FrontEnd.setLna false) none

/-- A look at a test takes the given step: it switches the front end and tells the log, and that is
all. -/
structure Activity.LooksLike (activity : Activity) (s : Station) (switch : FrontEnd → FrontEnd)
    (next : Option AmplifierTest) : Prop where
  step : TestStep s.clock activity switch next
  station : ∃ journal, (activity.poll s).1 = s.refit (s.frontEnd.map switch) journal
  look : (∃ rest, next = some rest ∧ (activity.poll s).2 = .waiting (.testing rest)) ∨
    next = none ∧ ∃ result, (activity.poll s).2 = .finished result

/-- **A look at a test takes one of the steps of a test.** -/
theorem Activity.looksLike_of_isTest {activity : Activity} (test : activity.isTest = true)
    (s : Station) : ∃ switch next, activity.LooksLike s switch next := by
  -- before its deadline a test does nothing
  have waits : ∀ t, (Activity.testing t).poll s = (s, .waiting (.testing t)) →
      (Activity.testing t).LooksLike s id (some t) := fun t looked =>
    ⟨.waits t, ⟨s.journal, by rw [looked, Option.map_id_fun]; rfl⟩, .inl ⟨t, rfl, by rw [looked]⟩⟩
  cases activity with
  | queued request =>
    cases request with
    | testAmplifiers => exact ⟨_, _, .starts, ⟨s.journal, rfl⟩, .inl ⟨_, rfl, rfl⟩⟩
    | _ => simp [isTest] at test
  | testing t =>
    cases t with
    | power deadline =>
      by_cases due : deadline ≤ s.clock
      · have looked : (Activity.testing (.power deadline)).poll s =
            ((s.setPa false).setLna true,
              .waiting (.testing (.lowNoise s.paOn (s.clock + amplifierSettleTime)))) := by
          simp only [poll, Station.ofAmplifierTest, Station.checkAmplifierTest, due, if_true]
          rfl
        refine ⟨_, _, .turns s.paOn due, ⟨s.journal, ?_⟩, .inl ⟨_, rfl, by rw [looked]⟩⟩
        rw [looked, ← Option.map_map]
        rfl
      · refine ⟨id, _, waits _ ?_⟩
        simp only [poll, Station.ofAmplifierTest, Station.checkAmplifierTest, due, if_false]
        rfl
    | lowNoise pa deadline =>
      by_cases due : deadline ≤ s.clock
      · have looked : (Activity.testing (.lowNoise pa deadline)).poll s =
            ((s.setLna false).note
                (if pa && s.lnaOn then .frontEndPassed else .frontEndFailed pa s.lnaOn),
              .finished (.ok (.amplifiers ⟨pa, s.lnaOn⟩))) := by
          simp only [poll, Station.ofAmplifierTest, Station.checkAmplifierTest, due, if_true]
          rfl
        exact ⟨_, _, .ends pa deadline, ⟨_, by rw [looked]; rfl⟩, .inr ⟨rfl, _, by rw [looked]⟩⟩
      · refine ⟨id, _, waits _ ?_⟩
        simp only [poll, Station.ofAmplifierTest, Station.checkAmplifierTest, due, if_false]
        rfl
  | _ => simp [isTest] at test

namespace Station.Alongside

variable {R R' : FrontEnd → FrontEnd → Prop} {s t : Station} {job : Job}

/-- The first front end is switched alone. -/
theorem switched (h : Alongside R s t) (tracks : FrontEnd.Tracks R') {switch : FrontEnd → FrontEnd}
    (kept : ∀ {f g}, R f g → R' (switch f) g) (journal : List Notice) :
    Alongside R' (s.refit (s.frontEnd.map switch) journal) t := by
  refine ⟨tracks, ?_, ?_⟩
  · rw [h.rest]
    rfl
  · have mapped : Option.Rel R' (s.frontEnd.map switch) (t.frontEnd.map id) :=
      FrontEnd.rel_map h.fitted kept
    rwa [Option.map_id_fun, id] at mapped

end Station.Alongside

/-! ## Shadows -/

namespace Bench

/-- The second bench is the first one without its tests. -/
structure ShadowedBy (R : FrontEnd → FrontEnd → Prop) (b b' : Bench) : Prop where
  reachable : b'.Reachable
  jobs : b'.jobs = Job.others b.jobs
  station : b.station.Alongside R b'.station

namespace ShadowedBy

variable {R R' : FrontEnd → FrontEnd → Prop} {b b' : Bench} {job : Job} {before later : List Job}

/-- The front ends are related in another way, too. -/
theorem imp (h : b.ShadowedBy R b') (tracks : FrontEnd.Tracks R')
    (also : ∀ f ∈ b.station.frontEnd, ∀ g ∈ b'.station.frontEnd, R f g → R' f g) :
    b.ShadowedBy R' b' :=
  ⟨h.reachable, h.jobs, h.station.imp tracks also⟩

/-- A job among others that is no test is at a position of its own in the shadow. -/
theorem split (h : b.ShadowedBy R b') (jobs : b.jobs = before ++ job :: later)
    (other : job.activity.isTest = false) :
    b'.jobs = Job.others before ++ job :: Job.others later := by
  rw [h.jobs, jobs, Job.others_append, Job.others_cons other]

/-- A look at an operation that is not a self test is a look at its counterpart. -/
theorem lookAt_other (h : b.ShadowedBy R b') (jobs : b.jobs = before ++ job :: later)
    (other : job.activity.isTest = false) :
    (b.lookAt before.length).ShadowedBy R (b'.lookAt (Job.others before).length) := by
  obtain ⟨station, left⟩ := lookAt_split jobs
  obtain ⟨station', left'⟩ := lookAt_split (h.split jobs other)
  have regular : job.activity.Regular :=
    h.reachable.sound.regular job (by simp [h.split jobs other])
  obtain ⟨stations, same⟩ := Station.Alongside.congruence.pollJob
    (Station.Alongside.congruence.poll_other h.station regular.not_isTest)
  have next : (b'.lookAt (Job.others before).length).Reachable :=
    h.reachable.make (.look (Job.others before).length) trivial
  -- what the look leaves of the job is no test either
  have remains : Job.others (Job.remaining (job.poll b'.station).2) =
      Job.remaining (job.poll b'.station).2 :=
    Job.others_eq fun rest member => next.sound.regular rest (by simp [left', member])
  refine ⟨next, ?_, by rw [station, station']; exact stations⟩
  rw [left, left', Job.others_append, Job.others_append, same, remains]

/-- An operation that is not a self test is given up together with its counterpart. -/
theorem giveUp_other (h : b.ShadowedBy R b') (jobs : b.jobs = before ++ job :: later)
    (other : job.activity.isTest = false) :
    (b.giveUp before.length).ShadowedBy R (b'.giveUp (Job.others before).length) := by
  obtain ⟨station, left⟩ := giveUp_split jobs
  obtain ⟨station', left'⟩ := giveUp_split (h.split jobs other)
  refine ⟨h.reachable.make (.giveUp (Job.others before).length) trivial, ?_, ?_⟩
  · rw [left, left', Job.others_append]
  · rw [station, station']
    exact Station.Alongside.congruence.dropJob h.station job

/-- An operation that is asked for. -/
theorem enlist (h : b.ShadowedBy R b') (label : Option String) {work : Work}
    (regular : work.Regular) : (b.enlist label work).ShadowedBy R (b'.enlist label work) := by
  have next : (b'.enlist label work).Reachable := h.reachable.make (.ask label work) regular
  have asked := next.sound.regular
  obtain ⟨engaged, same⟩ := Station.Alongside.congruence.engage h.station label work
  rw [enlist_eq] at next asked ⊢
  rw [enlist_eq]
  refine ⟨next, ?_, engaged⟩
  show b'.jobs ++ _ = Job.others (b.jobs ++ _)
  rw [Job.others_append, ← h.jobs, same]
  -- what is asked for is not a test
  congr 1
  exact (Job.others_eq fun job member => asked job (List.mem_append_right _ member)).symm

/-- Something that is asked for, a test or not. -/
theorem ask (h : b.ShadowedBy R b') (label : Option String) {work : Work}
    (mayTest : (Move.ask label work).MayTest) : ∃ b'', (b.enlist label work).ShadowedBy R b'' := by
  by_cases regular : work.Regular
  · exact ⟨_, h.enlist label regular⟩
  · -- only a test may be asked for besides, and it is not among the jobs of the shadow
    have test : work = .request .testAmplifiers := by
      cases work with
      | request request =>
        cases request with
        | testAmplifiers => rfl
        | _ => exact absurd mayTest regular
      | _ => exact absurd mayTest regular
    subst test
    refine ⟨b', h.reachable, ?_, h.station⟩
    show b'.jobs = Job.others (b.jobs ++ [⟨label, none, .queued .testAmplifiers⟩])
    rw [Job.others_append, h.jobs, Job.others_cons_of_test rfl]
    simp [Job.others]

/-- Time that passes passes in both runs. -/
theorem wait (h : b.ShadowedBy R b') (time : Nat) :
    (b.make (.wait time)).ShadowedBy R (b'.make (.wait time)) :=
  ⟨h.reachable.make (.wait time) trivial, h.jobs,
    h.station.keep (g := fun s => { s with clock := s.clock + time }) fun _ _ _ => rfl⟩

/-- The radio makes a step in both runs. -/
theorem service (h : b.ShadowedBy R b') :
    (b.make .service).ShadowedBy R (b'.make .service) :=
  ⟨h.reachable.make .service trivial, h.jobs, h.station.serviceRadio⟩

/-- The interrupt is handled in both runs, or pending in neither. -/
theorem pump (h : b.ShadowedBy R b') : (b.make .pump).ShadowedBy R (b'.make .pump) :=
  ⟨h.reachable.make .pump trivial, h.jobs, h.station.pump⟩

/-- The log starts anew on both benches, and it is the same one then. -/
theorem turnPage (h : b.ShadowedBy R b') :
    (b.make .turnPage).ShadowedBy R (b'.make .turnPage) := by
  obtain ⟨frontEnd, journal, same⟩ := h.station.refitted
  have blank : (b'.make .turnPage).station = (b.make .turnPage).station.refit frontEnd [] := by
    show ({ b'.station with journal := [] } : Station) = _
    rw [same]
    rfl
  refine ⟨h.reachable.make .turnPage trivial, h.jobs, h.station.tracks, ?_, h.station.fitted⟩
  rw [blank]
  rfl

/-- The surroundings are arranged. -/
theorem arrange (h : b.ShadowedBy R b') {command : Command} (arranges : command.Arranges) :
    (b.execute command).1.ShadowedBy R (b'.execute command).1 := by
  refine ⟨h.reachable.make (.arrange command) arranges, ?_,
    Station.Alongside.congruence.arranged h.station arranges⟩
  rw [(execute_of_arranges arranges).2.2, (execute_of_arranges arranges).2.2, h.jobs]

/-- When a test is over, the buffers are handed back. The shadow does the same with an operation
that is answered at once. -/
theorem releaseBuffers (h : b.ShadowedBy R b') :
    ∃ b'' : Bench, b''.Reachable ∧ b''.jobs = b'.jobs ∧
      b.station.releaseBuffers.Alongside R b''.station := by
  have asked := h.reachable.make (.ask none (.request (.scanChannels 1 0 []))) trivial
  have last : (b'.make (.ask none (.request (.scanChannels 1 0 [])))).jobs =
      b'.jobs ++ [⟨none, none, .queued (.scanChannels 1 0 [])⟩] := rfl
  obtain ⟨station, left⟩ := lookAt_split last
  refine ⟨_, asked.make (.look b'.jobs.length) trivial, left.trans ?_, ?_⟩
  · exact List.append_nil _
  · show Station.Alongside R _ (Bench.lookAt _ _).station
    rw [station]
    exact Station.Alongside.congruence.releaseBuffers h.station

/-- **After a look at a test** there is a shadow again, if the relation of the front ends allows for
what the test does. -/
theorem lookAt_test (h : b.ShadowedBy R b') (tracks : FrontEnd.Tracks R')
    (jobs : b.jobs = before ++ job :: later) (test : job.activity.isTest = true)
    (kept : ∀ switch next, job.activity.LooksLike b.station switch next →
      ∀ f g, R f g → R' (switch f) g) :
    ∃ b'', (b.lookAt before.length).ShadowedBy R' b'' := by
  obtain ⟨station, left⟩ := lookAt_split jobs
  obtain ⟨switch, next, looks⟩ := Activity.looksLike_of_isTest test b.station
  obtain ⟨journal, looked⟩ := looks.station
  have goesOn := looks.look
  have switched := h.station.switched tracks (fun {f g} => kept switch next looks f g) journal
  rw [← looked] at switched
  have same : b'.jobs = Job.others (before ++ later) := by
    rw [h.jobs, jobs, Job.others_append, Job.others_append, Job.others_cons_of_test test]
  rw [Job.poll_eq] at station left
  generalize job.activity.poll b.station = found at *
  obtain ⟨u, look⟩ := found
  rcases goesOn with ⟨rest, -, rfl⟩ | ⟨-, result, rfl⟩
  · refine ⟨b', h.reachable, ?_, by rw [station]; exact switched⟩
    have goesOn : ({ job with activity := .testing rest } : Job).activity.isTest = true := rfl
    rw [left, same, Job.others_append, Job.others_append]
    exact congrArg _ (Job.others_cons_of_test goesOn).symm
  · obtain ⟨b'', reachable, jobs'', released⟩ :=
      releaseBuffers (b := { b with station := u }) ⟨h.reachable, h.jobs, switched⟩
    refine ⟨b'', reachable, ?_, by rw [station]; exact released⟩
    rw [left, jobs'', same]
    rfl

/-- **After a test was given up** there is a shadow again. -/
theorem giveUp_test (h : b.ShadowedBy R b') (jobs : b.jobs = before ++ job :: later)
    (test : job.activity.isTest = true) : ∃ b'', (b.giveUp before.length).ShadowedBy R b'' := by
  obtain ⟨station, left⟩ := giveUp_split jobs
  have dropped : job.drop b.station = b.station.releaseBuffers := by
    cases activity : job.activity with
    | queued | testing => unfold Job.drop; rw [activity]; rfl
    | _ => rw [activity] at test; exact absurd test (by simp [Activity.isTest])
  obtain ⟨b'', reachable, jobs'', released⟩ := h.releaseBuffers
  refine ⟨b'', reachable, ?_, by rw [station, dropped]; exact released⟩
  rw [left, jobs'', h.jobs, jobs, Job.others_append, Job.others_append,
    Job.others_cons_of_test test]

/-- **After every move there is a shadow again.** The front ends are related as before unless a test
is looked at; what the test does to the first one has to be allowed for. -/
theorem make (h : b.ShadowedBy R b') {move : Move} (mayTest : move.MayTest)
    (tracks : FrontEnd.Tracks R')
    (weaker : (∀ job ∈ b.looked move, job.activity.isTest = false) → ∀ f g, R f g → R' f g)
    (kept : ∀ job ∈ b.looked move, ∀ switch next, job.activity.LooksLike b.station switch next →
      ∀ f g, R f g → R' (switch f) g) :
    ∃ b'', (b.make move).ShadowedBy R' b'' := by
  -- moves other than looks at tests relate the front ends as before
  have same : (∀ job ∈ b.looked move, job.activity.isTest = false) → b.ShadowedBy R' b' :=
    fun unlooked => h.imp tracks fun f _ g _ => weaker unlooked f g
  cases move with
  | look position =>
    cases found : b.jobs[position]? with
    | none =>
      have unlooked := same fun job looked => absurd (found.symm.trans looked) (by simp)
      exact ⟨b', by rw [Bench.make, lookAt_of_none found]; exact unlooked⟩
    | some job =>
      obtain ⟨before, later, jobs, rfl⟩ := exists_split found
      cases test : job.activity.isTest with
      | true => exact h.lookAt_test tracks jobs test (kept job found)
      | false =>
        have other := same fun job' looked => by
          obtain rfl := Option.some.inj (found.symm.trans looked)
          exact test
        exact ⟨_, other.lookAt_other jobs test⟩
  | giveUp position =>
    have unlooked := same (by simp [looked])
    cases found : b.jobs[position]? with
    | none => exact ⟨b', by rw [Bench.make, giveUp_of_none found]; exact unlooked⟩
    | some job =>
      obtain ⟨before, later, jobs, rfl⟩ := exists_split found
      cases test : job.activity.isTest with
      | true => exact unlooked.giveUp_test jobs test
      | false => exact ⟨_, unlooked.giveUp_other jobs test⟩
  | ask label work => exact (same (by simp [looked])).ask label mayTest
  | arrange command => exact ⟨_, (same (by simp [looked])).arrange mayTest⟩
  | wait time => exact ⟨_, (same (by simp [looked])).wait time⟩
  | service => exact ⟨_, (same (by simp [looked])).service⟩
  | pump => exact ⟨_, (same (by simp [looked])).pump⟩
  | turnPage => exact ⟨_, (same (by simp [looked])).turnPage⟩

end ShadowedBy

end Bench

end BurstLink
