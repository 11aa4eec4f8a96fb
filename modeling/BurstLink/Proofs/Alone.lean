import BurstLink.Bench.Command

/-! # Operations on their own

Without other jobs on the bench, an operation is looked at once a round until it is over.

Main definitions:

* **`Station.round`** — what follows the looks of a round: the clock and the radio.
* **`Activity.Alone`** — an operation that is looked at in every round ends in this way; with
  `Activity.AfterRound`, counted from a look that finds that it goes on.
* **`Activity.Reaches`** — how far an operation is after some rounds.
* **`Activity.Overflows`** — an operation runs into a limit of the simulation after some rounds.
* **`Station.EndsAfter`** — what follows a look, whether it finds that the operation goes on or not.

Main statements: waiting for a job that has the bench to itself ends as the operation does on its
own (`Bench.awaitWithin_of_alone`, `Bench.execute_perform_of_alone`). -/

namespace BurstLink

/-- What follows the looks of a round: the clock advances and the radio makes a step. -/
def Station.round (s : Station) : Station × Option Overflow :=
  ({ s with clock := s.clock + roundTime } : Station).pump

/-- Looked at once before each of so many rounds and once after them, the operation ends with a
result and leaves a station behind. -/
inductive Activity.Alone : Nat → Activity → Station → Result → Station → Prop
  /-- The look finds that it is over. -/
  | ends {activity : Activity} {s s' : Station} {result : Result}
      (looked : activity.poll s = (s', .finished result)) : Alone 0 activity s result s'
  /-- The look finds that it goes on, and a round follows. -/
  | onward {rounds : Nat} {activity activity' : Activity} {s s₁ s₂ s' : Station} {result : Result}
      (looked : activity.poll s = (s₁, .waiting activity')) (passed : s₁.round = (s₂, none))
      (rest : Alone rounds activity' s₂ result s') : Alone (rounds + 1) activity s result s'

/-- The operation, which a look has found to go on, ends in this way after one more round. -/
def Activity.AfterRound (rounds : Nat) (activity : Activity) (s : Station) (result : Result)
    (s' : Station) : Prop :=
  ∃ s₁, s.round = (s₁, none) ∧ activity.Alone rounds s₁ result s'

/-- A look finds that the operation goes on. -/
theorem Activity.AfterRound.looked {rounds : Nat} {activity activity' : Activity}
    {s s₁ s' : Station} {result : Result} (h : activity'.AfterRound rounds s₁ result s')
    (looked : activity.poll s = (s₁, .waiting activity')) :
    activity.Alone (rounds + 1) s result s' := by
  obtain ⟨s₂, passed, alone⟩ := h
  exact .onward looked passed alone

/-- After one round and so many more, with a look before each of these, the operation has become
another one, and the station another one as well. The next look has not come yet. -/
inductive Activity.Reaches : Nat → Activity → Station → Activity → Station → Prop
  /-- One round. -/
  | first {activity : Activity} {s s' : Station} (passed : s.round = (s', none)) :
      Reaches 0 activity s activity s'
  /-- One round and a look, which finds that the operation goes on, and what follows. -/
  | onward {rounds : Nat} {activity activity' goal : Activity} {s s₁ s₂ s' : Station}
      (passed : s.round = (s₁, none)) (looked : activity.poll s₁ = (s₂, .waiting activity'))
      (rest : Reaches rounds activity' s₂ goal s') : Reaches (rounds + 1) activity s goal s'

/-- What has been reached is the rest of the way. -/
theorem Activity.Reaches.alone {rounds more : Nat} {activity goal : Activity} {s t s' : Station}
    {result : Result} (h : activity.Reaches rounds s goal t)
    (alone : goal.Alone more t result s') : activity.AfterRound (more + rounds) s result s' := by
  induction h with
  | first passed => exact ⟨_, passed, alone⟩
  | onward passed looked rest ih => exact ⟨_, passed, (ih alone).looked looked⟩

/-- What has been reached, one look and what is reached from there. -/
theorem Activity.Reaches.trans {rounds more : Nat} {activity between rest goal : Activity}
    {s t t' s' : Station} (h : activity.Reaches rounds s between t)
    (looked : between.poll t = (t', .waiting rest)) (h' : rest.Reaches more t' goal s') :
    activity.Reaches (more + 1 + rounds) s goal s' := by
  induction h with
  | first passed => exact .onward passed looked h'
  | onward passed looked' rest ih => exact .onward passed looked' (ih looked)

/-- The operation, which a look has found to go on, runs into a limit of the simulation after so
many rounds, with a look after each of them. -/
inductive Activity.Overflows : Nat → Activity → Station → Overflow → Prop
  /-- In the next round. -/
  | now {activity : Activity} {s s' : Station} {overflow : Overflow}
      (passed : s.round = (s', some overflow)) : Overflows 0 activity s overflow
  /-- In a later one. -/
  | onward {rounds : Nat} {activity activity' : Activity} {s s₁ s₂ : Station} {overflow : Overflow}
      (passed : s.round = (s₁, none)) (looked : activity.poll s₁ = (s₂, .waiting activity'))
      (rest : Overflows rounds activity' s₂ overflow) : Overflows (rounds + 1) activity s overflow

/-- An operation overflows as what it has reached does. -/
theorem Activity.Reaches.overflows {rounds more : Nat} {activity between rest : Activity}
    {s t t' : Station} {overflow : Overflow} (h : activity.Reaches rounds s between t)
    (looked : between.poll t = (t', .waiting rest)) (overflows : rest.Overflows more t' overflow) :
    activity.Overflows (more + 1 + rounds) s overflow := by
  induction h with
  | first passed => exact .onward passed looked overflows
  | onward passed looked' rest ih => exact .onward passed looked' (ih looked)

/-- After a look with this outcome the operation ends with a result, so many rounds later, and
leaves a station behind. -/
inductive Station.EndsAfter : Nat → Station × Progress → Result → Station → Prop
  /-- The look finds that it is over. -/
  | now {s : Station} {result : Result} : EndsAfter 0 (s, .finished result) result s
  /-- The look finds that it goes on. -/
  | later {rounds : Nat} {activity : Activity} {s s' : Station} {result : Result}
      (after : activity.AfterRound rounds s result s') :
      EndsAfter (rounds + 1) (s, .waiting activity) result s'

/-- An operation ends as it does after the first look at it. -/
theorem Station.EndsAfter.alone {rounds : Nat} {activity : Activity} {s s' : Station}
    {result : Result} (h : Station.EndsAfter rounds (activity.poll s) result s') :
    activity.Alone rounds s result s' := by
  generalize looked : activity.poll s = found at h
  cases h with
  | now => exact .ends looked
  | later after => exact after.looked looked

namespace Bench

variable {b : Bench} {job : Job} {rounds n : Nat} {result : Result} {s' : Station}

/-- The looks of a round at the only job. -/
theorem poll_single (single : b.jobs = [job]) :
    b.poll = match job.poll b.station with
      | (s, .waiting job) => ({ b with station := s, jobs := [job] }, [])
      | (s, .finished completion) =>
        ({ b with station := s, jobs := [], ended := completion :: b.ended }, [completion]) := by
  unfold Bench.poll
  rw [single]
  rcases looked : job.poll b.station with ⟨s, job' | completion⟩ <;> simp [Job.pollAll, looked]

/-- **Waiting for the only job ends as its operation does on its own**, if there is patience for
one more round. -/
theorem awaitWithin_of_alone (alone : job.activity.Alone rounds b.station result s')
    (single : b.jobs = [job]) (unlabelled : job.label = none) (patient : rounds < n) :
    b.awaitWithin true n =
      ({ b with
          station := s'.releaseBuffers
          jobs := []
          ended := ⟨none, result, job.packets s'⟩ :: b.ended },
        .finished ⟨none, result, job.packets s'⟩) := by
  obtain ⟨n, rfl⟩ : ∃ m, n = m + 1 := ⟨n - 1, by omega⟩
  -- the induction is on the rounds of the operation, for any activity and station
  generalize activity_eq : job.activity = activity at alone
  generalize station_eq : b.station = s at alone
  induction alone generalizing b job n with
  | @ends activity s s' result looked =>
    have polled : job.poll b.station =
        (s'.releaseBuffers, .finished ⟨none, result, job.packets s'⟩) := by
      rw [Job.poll, activity_eq, station_eq, looked, unlabelled]
    rw [awaitWithin]
    simp only [poll_single single, polled, List.find?_cons, Option.isNone_none]
  | @onward rounds activity activity' s s₁ s₂ s' result looked passed rest ih =>
    have polled : job.poll b.station = (s₁, .waiting { job with activity := activity' }) := by
      rw [Job.poll, activity_eq, station_eq, looked]
    have advanced : ({ b with station := s₁, jobs := [{ job with activity := activity' }] } :
          Bench).advance true =
        ({ b with station := s₂, jobs := [{ job with activity := activity' }] }, none) := by
      unfold Station.round at passed
      simp only [advance, if_true, passed]
    -- the bench of the next round has the same single job, with what is left of its activity
    have single' : ({ b with station := s₂, jobs := [{ job with activity := activity' }] } :
        Bench).jobs = [{ job with activity := activity' }] := rfl
    obtain ⟨n, rfl⟩ : ∃ m, n = m + 1 := ⟨n - 1, by omega⟩
    rw [awaitWithin]
    simp only [poll_single single, polled, List.find?_nil, advanced]
    exact ih single' unlabelled n (by omega) rfl rfl

/-- Waiting for the only job runs into a limit as its operation does on its own. -/
theorem awaitWithin_of_overflows {activity : Activity} {s : Station} {overflow : Overflow}
    (looked : job.activity.poll b.station = (s, .waiting activity))
    (overflows : activity.Overflows rounds s overflow) (single : b.jobs = [job])
    (patient : rounds < n) :
    ∃ b', b.awaitWithin true n = (b', .overflow overflow) := by
  obtain ⟨n, rfl⟩ : ∃ m, n = m + 1 := ⟨n - 1, by omega⟩
  have polled : job.poll b.station = (s, .waiting { job with activity := activity }) := by
    rw [Job.poll, looked]
  -- on the rounds up to the one that overflows, with a look between each two
  induction overflows generalizing b job n with
  | @now activity s s' overflow passed =>
    unfold Station.round at passed
    rw [awaitWithin]
    simp only [poll_single single, polled, List.find?_nil, advance, if_true, passed]
    exact ⟨_, rfl⟩
  | @onward rounds activity activity' s s₁ s₂ overflow passed looked' rest ih =>
    have advanced : ({ b with station := s, jobs := [{ job with activity := activity }] } :
          Bench).advance true =
        ({ b with station := s₁, jobs := [{ job with activity := activity }] }, none) := by
      unfold Station.round at passed
      simp only [advance, if_true, passed]
    have polled' : ({ job with activity := activity } : Job).poll s₁ =
        (s₂, .waiting { job with activity := activity' }) := by
      rw [Job.poll, looked']
    obtain ⟨n, rfl⟩ : ∃ m, n = m + 1 := ⟨n - 1, by omega⟩
    rw [awaitWithin]
    simp only [poll_single single, polled, List.find?_nil, advanced]
    exact ih (b := { b with station := s₁, jobs := [{ job with activity := activity }] }) looked'
      rfl n (by omega) polled'

/-- **Asking for an operation on a bench without other jobs ends as the operation does on its own**,
if that takes no more rounds than there is patience for it. -/
theorem execute_perform_of_alone (work : Work) (single : (b.enlist none work).jobs = [job])
    (unlabelled : job.label = none)
    (alone : job.activity.Alone rounds (b.enlist none work).station result s')
    (patient : rounds ≤ patience job.activity) :
    b.execute (.perform none work true) =
      ({ b.enlist none work with
          station := s'.releaseBuffers
          jobs := []
          ended := ⟨none, result, job.packets s'⟩ :: (b.enlist none work).ended },
        .finished ⟨none, result, job.packets s'⟩) := by
  have enough : rounds <
      (b.enlist none work).jobs.foldl (fun n job => n + patience job.activity + 1) 1 := by
    rw [single]
    simp only [List.foldl_cons, List.foldl_nil]
    omega
  simp only [execute, await, awaitWithin_of_alone alone single unlabelled enough]
  rfl

/-- Asking for an operation on a bench without other jobs runs into a limit as the operation does on
its own. -/
theorem execute_perform_of_overflows {activity : Activity} {s : Station} {overflow : Overflow}
    (work : Work) (single : (b.enlist none work).jobs = [job])
    (looked : job.activity.poll (b.enlist none work).station = (s, .waiting activity))
    (overflows : activity.Overflows rounds s overflow) (patient : rounds ≤ patience job.activity) :
    (b.execute (.perform none work true)).2 = .overflow overflow := by
  have enough : rounds <
      (b.enlist none work).jobs.foldl (fun n job => n + patience job.activity + 1) 1 := by
    rw [single]
    simp only [List.foldl_cons, List.foldl_nil]
    omega
  obtain ⟨b', awaited⟩ := awaitWithin_of_overflows looked overflows single enough
  simp only [execute, await, awaited]
  rfl

end Bench

end BurstLink
