import BurstLink.Bench.Command
import BurstLink.Proofs.Tandem.Rounds

/-! # Crowds, and operations in turn

Operations that are asked for while others are in progress run as a crowd: in every round each of
them is looked at once, in whatever order, and the lock decides who uses the radio. The same
operations may also be carried out in turn, each one on a bench of its own and to its end.

Main definitions:

* **`Spawn`** — an operation that is asked for under a name.
* **`Job.takesLock`**, **`Job.lockOrder`** — who finds the lock free and takes it, in the looks of
  one round.
* **`Bench.Crowd`** — rounds of a crowd, with everything that was asked for and the order in which
  the lock was taken; **`Bench.runCrowd`** runs one.
* **`Bench.InTurn`** — operations in turn, and how each one ended.

Main statement: a row of operations in turn has one outcome only (`Bench.InTurn.unique`). -/

namespace BurstLink

/-- An operation that is asked for under a name. -/
structure Spawn where
  /-- The name. -/
  name : String
  /-- The operation. -/
  work : Work

/-- The operation uses the radio under the lock and waits for nothing but the radio and the clock.
That leaves out the front-end test, which does without the lock, and presence scans, which wait
for reports from outside. -/
def Work.Plain : Work → Prop
  | .request asked => asked.Plain
  | .send _ _ => True
  | .scanPresence _ _ => False

/-! ## Crowds -/

/-- A look at the job finds that its arguments are in range and the lock is free. -/
def Job.takesLock (s : Station) (job : Job) : Bool :=
  match job.activity with
  | .queued request => request.answer?.isNone && request.needsLock && !s.locked
  | _ => false

/-- The names of the jobs that take the lock when each of them is looked at once, in order. -/
def Job.lockOrder : List Job → Station → List String
  | [], _ => []
  | job :: later, s =>
    (if job.takesLock s then job.label.toList else []) ++ lockOrder later (job.poll s).1

namespace Bench

/-- Asks for several operations. -/
def enlistAll (newcomers : List Spawn) (b : Bench) : Bench :=
  newcomers.foldl (fun b spawn => b.enlist (some spawn.name) spawn.work) b

/-- Rounds of a crowd. Before the looks of a round some operations are asked for, and the jobs get
into any order; after the looks the bench is pumped, without an overflow. The relation keeps what
was asked for, and the names of those that took the lock, in the order in which they did. -/
inductive Crowd : Bench → List Spawn → List String → Bench → Prop
  /-- No round. -/
  | nil (b : Bench) : Crowd b [] [] b
  /-- One round, and those that follow. -/
  | round {b b' b'' : Bench} {newcomers spawns : List Spawn} {jobs : List Job}
      {takers : List String} (order : jobs.Perm (b.enlistAll newcomers).jobs)
      (passed : ({ b.enlistAll newcomers with jobs := jobs } : Bench).poll.1.advance true =
        (b', none))
      (later : Crowd b' spawns takers b'') :
      Crowd b (newcomers ++ spawns)
        (Job.lockOrder jobs (b.enlistAll newcomers).station ++ takers) b''

/-- Runs a crowd whose jobs stay in the order in which they were asked for: what is asked for before
each round is given, and the names of those that took the lock and an overflow come back. -/
def runCrowd : List (List Spawn) → Bench → Bench × List String × Option Overflow
  | [], b => (b, [], none)
  | newcomers :: later, b =>
    let b := b.enlistAll newcomers
    let takers := Job.lockOrder b.jobs b.station
    match b.poll.1.advance true with
    | (b, some overflow) => (b, takers, some overflow)
    | (b, none) =>
      let (b, takers', overflow) := runCrowd later b
      (b, takers ++ takers', overflow)

/-- What is run without an overflow is a crowd. -/
theorem Crowd.of_run {b : Bench} (newcomers : List (List Spawn))
    (calm : (b.runCrowd newcomers).2.2 = none) :
    b.Crowd newcomers.flatten (b.runCrowd newcomers).2.1 (b.runCrowd newcomers).1 := by
  induction newcomers generalizing b with
  | nil => exact .nil b
  | cons first later ih =>
    rw [runCrowd] at calm ⊢
    dsimp only at calm ⊢
    rcases passed : (b.enlistAll first).poll.1.advance true with ⟨b₁, _ | overflow⟩
    · rw [passed] at calm
      exact .round (.refl _) passed (ih calm)
    · rw [passed] at calm
      cases calm

/-! ## In turn -/

/-- Operations in turn, each of them awaited before the next one is asked for. Completions go by the
names of the operations. -/
inductive InTurn : Bench → List Spawn → List Completion → Bench → Prop
  /-- No operation. -/
  | nil (b : Bench) : InTurn b [] [] b
  /-- One operation, and those that follow. -/
  | next {b b' b'' : Bench} {n : Nat} {spawn : Spawn} {spawns : List Spawn}
      {completion : Completion} {completions : List Completion}
      (performed : (b.enlist none spawn.work).awaitWithin true n = (b', .finished completion))
      (later : InTurn b' spawns completions b'') :
      InTurn b (spawn :: spawns) ({ completion with label := some spawn.name } :: completions) b''

/-- With more patience, waiting for an operation that ends has the same end. -/
theorem awaitWithin_add {pumped : Bool} {n : Nat} {b b' : Bench} {completion : Completion}
    (h : b.awaitWithin pumped n = (b', .finished completion)) (more : Nat) :
    b.awaitWithin pumped (n + more) = (b', .finished completion) := by
  induction n generalizing b with
  | zero => simp [awaitWithin] at h
  | succ n ih =>
    rw [Nat.succ_add]
    rw [awaitWithin] at h ⊢
    generalize b.poll = polled at h ⊢
    obtain ⟨b₁, ended⟩ := polled
    dsimp only at h ⊢
    generalize ended.find? (fun completion => completion.label.isNone) = found at h ⊢
    rcases found with _ | found
    · dsimp only at h ⊢
      generalize b₁.advance pumped = advanced at h ⊢
      obtain ⟨b₂, _ | overflow⟩ := advanced
      · exact ih h
      · simp at h
    · exact h

namespace InTurn

variable {b b' b'' : Bench} {spawn : Spawn} {spawns : List Spawn} {completion : Completion}
  {completions : List Completion}

/-- **Operations in turn have one outcome only.** -/
theorem unique {completions' : List Completion} (h : b.InTurn spawns completions b')
    (h' : b.InTurn spawns completions' b'') : completions = completions' ∧ b' = b'' := by
  induction h generalizing completions' with
  | nil b =>
    cases h'
    exact ⟨rfl, rfl⟩
  | @next b b₁ _ n spawn spawns completion completions performed later ih =>
    cases h' with
    | @next _ b₁' _ m _ _ completion' completions' performed' later' =>
      have enough := awaitWithin_add performed m
      have enough' := awaitWithin_add performed' n
      rw [Nat.add_comm, enough] at enough'
      obtain ⟨rfl, same⟩ := Prod.mk.inj enough'
      obtain rfl : completion = completion' := by simpa using same
      obtain ⟨rfl, rfl⟩ := ih later'
      exact ⟨rfl, rfl⟩

end InTurn

end Bench

end BurstLink
