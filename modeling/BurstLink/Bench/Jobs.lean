import BurstLink.Link.Transfer
import BurstLink.Operation

/-! # Jobs on a bench

A bench runs operations side by side on one station. Each operation is a job; the jobs are looked
at in rounds, oldest first. After the looks of a round the clock advances and the radio makes one
step. A job that is over leaves at once, so the next one in the same round finds the lock free.

Main definitions:

* **`Job`**, **`Completion`**, **`Bench`** — an operation in progress, one that is over, and all of
  them with their station.
* **`Job.poll`**, **`Bench.poll`** — one look at a job, and the looks of one round.
* **`Bench.advance`** — the clock and the radio.
* **`Bench.rounds`** — a number of rounds.
* **`Bench.await`** — rounds until the job that is awaited is over.
* **`Bench.dropJob`** — gives a job up. -/

namespace BurstLink

/-- Microseconds by which the clock advances in a round. -/
def roundTime : Nat := 10

/-- An operation in progress. -/
structure Job where
  /-- The name of a background job; the job that is awaited has none. -/
  label : Option String
  /-- The packet and the acknowledgement that a send leaves behind. -/
  buffers : Option (Buffer × Buffer)
  /-- What it is doing. -/
  activity : Activity
  deriving DecidableEq

/-- An operation that is over. -/
structure Completion where
  /-- The name of the job. -/
  label : Option String
  /-- How it ended. -/
  result : Result
  /-- The packet and the acknowledgement that a send left behind. -/
  packets : Option (Packet × Packet)

/-- A station and the jobs on it. -/
structure Bench where
  /-- The station. -/
  station : Station
  /-- The jobs, oldest first. -/
  jobs : List Job := []
  /-- The jobs that ended since this list was emptied last, latest first. -/
  ended : List Completion := []
  /-- The buffer that was put in front of the radio by hand last. -/
  slot : Option Buffer := none

namespace Job

/-- The packets that a send has in its buffers. -/
def packets (job : Job) (s : Station) : Option (Packet × Packet) :=
  job.buffers.map fun b => (s.buffers.get b.1, s.buffers.get b.2)

/-- Looks at a job: one look at its activity. When that is over, the bench makes a step of its own:
it takes the buffers back from the radio (`Station.releaseBuffers`), and what they hold is part of
the completion. What the operation itself leaves behind is `job.activity.poll s`. -/
def poll (job : Job) (s : Station) : Station × Look Job Completion :=
  match job.activity.poll s with
  | (s, .waiting activity) => (s, .waiting { job with activity := activity })
  | (s, .finished result) => (s.releaseBuffers, .finished ⟨job.label, result, job.packets s⟩)

/-- Looks at every job once, oldest first: the station after it, the jobs that go on, and those that
are over. -/
def pollAll : List Job → Station → Station × List Job × List Completion
  | [], s => (s, [], [])
  | job :: later, s =>
    match job.poll s with
    | (s, .waiting job) =>
      let (s, jobs, ended) := pollAll later s
      (s, job :: jobs, ended)
    | (s, .finished completion) =>
      let (s, jobs, ended) := pollAll later s
      (s, jobs, completion :: ended)

/-- Gives an operation up. What the operation itself leaves behind is `job.activity.drop s`; then
the bench takes its buffers back from the radio. -/
def drop (job : Job) (s : Station) : Station := (job.activity.drop s).releaseBuffers

end Job

namespace Bench

instance : Inhabited Bench := ⟨{ station := {} }⟩

/-- Changes the station. -/
def onStation (f : Station → Station) (b : Bench) : Bench := { b with station := f b.station }

/-! ## Rounds -/

/-- The looks of one round, and the jobs that ended in it. -/
def poll (b : Bench) : Bench × List Completion :=
  let (station, jobs, ended) := Job.pollAll b.jobs b.station
  ({ b with station := station, jobs := jobs, ended := ended.reverse ++ b.ended }, ended)

/-- The clock advances and, if the bench is pumped, the radio makes a step. -/
def advance (pumped : Bool) (b : Bench) : Bench × Option Overflow :=
  let station := { b.station with clock := b.station.clock + roundTime }
  if pumped then
    let (station, overflow) := station.pump
    ({ b with station := station }, overflow)
  else ({ b with station := station }, none)

/-- A number of rounds, or as many as there are before an overflow. -/
def rounds (pumped : Bool) : Nat → Bench → Bench × Option Overflow
  | 0, b => (b, none)
  | n + 1, b =>
    match b.poll.1.advance pumped with
    | (b, some overflow) => (b, some overflow)
    | (b, none) => rounds pumped n b

/-! ## Giving jobs up -/

/-- Gives up the oldest job with a label; the second part is that job, if there is one. -/
def dropJob (label : Option String) (b : Bench) : Bench × Option Job :=
  match b.jobs.find? fun job => job.label == label with
  | none => (b, none)
  | some job =>
    ({ b with
      station := job.drop b.station
      jobs := b.jobs.eraseP fun job => job.label == label }, some job)

/-! ## Waiting for a job -/

/-- How waiting for a job ends. -/
inductive Ending
  /-- The job is over. -/
  | finished (completion : Completion)
  /-- The simulation ran into a limit; the job was given up. -/
  | overflow (overflow : Overflow)
  /-- The rounds were used up. -/
  | unfinished

/-- Rounds in which one send is over, counted generously. -/
def sendPatience : Nat := 256 * (exchangeTimeout / roundTime + 2)

/-- Rounds in which an activity is over once the radio is its own, counted generously. -/
def patience : Activity → Nat
  | .queued (.scanPresence _ _ window) => 2 * window / roundTime + 4
  | .queued _ => 256 * sendPatience
  | .sending .. => 256 * sendPatience
  | .switching _ => teardownTime / roundTime + 2
  | .measuring _ => 4 * measurementMaxPolls * (measurementInterval / roundTime + 2)
  | .listening l => 2 * l.window / roundTime + 4
  | .testing _ => 2 * (amplifierSettleTime / roundTime + 2)

/-- Up to `n` rounds, until the job without a label is over. The round in which it ends stops after
the looks. -/
def awaitWithin (pumped : Bool) : Nat → Bench → Bench × Ending
  | 0, b => (b, .unfinished)
  | n + 1, b =>
    let (b, ended) := b.poll
    match ended.find? fun completion => completion.label.isNone with
    | some completion => (b, .finished completion)
    | none =>
      match b.advance pumped with
      | (b, some overflow) => ((b.dropJob none).1, .overflow overflow)
      | (b, none) => awaitWithin pumped n b

/-- Rounds until the job without a label is over. No job keeps the radio longer than its patience,
so the patience of all of them together is enough. -/
def await (pumped : Bool) (b : Bench) : Bench × Ending :=
  b.awaitWithin pumped (b.jobs.foldl (fun n job => n + patience job.activity + 1) 1)

end Bench

end BurstLink
