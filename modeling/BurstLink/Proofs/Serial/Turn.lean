import BurstLink.Proofs.Custody.Bench
import BurstLink.Proofs.Serial.Crowd

/-! # One operation in its turn

An operation that has the station to itself ends in the same way on every station that is alike, up
to the buffers it uses. So the outcome of a row of operations in turn depends on the station only
up to likeness, and operations that are rejected before they ask for the lock may be put anywhere
into the row.

Main definitions:

* **`Job.Awaits`** — the job has been asked for, and has not started.
* **`Spawn.Turn`**, **`Station.Turns`** — an operation on its own, and a row of them.
* **`Spawn.rejection?`** — the completion of an operation whose arguments decide it.

Main statements: `Spawn.Turn.transfer`, `Station.Turns.transfer`, `Station.Turns.insert`, and
`Station.Turns.inTurn`. -/

namespace BurstLink

/-! ## Operations that wait for their turn -/

/-- The job has been asked for, and has not started; the buffers of a send hold what was asked to
be sent. -/
inductive Job.Awaits (s : Station) : Work → Job → Prop
  /-- A request without buffers. -/
  | request {label : Option String} {request : Request} (plain : request.Plain) :
      Awaits s (.request request) ⟨label, none, .queued request⟩
  /-- A send. -/
  | send {label : Option String} {packet ack : Packet} {p a : Buffer} (apart : p ≠ a)
      (known : p.index < s.buffers.count ∧ a.index < s.buffers.count)
      (loaded : s.buffers.get p = packet) (cleared : s.buffers.get a = ack) :
      Awaits s (.send packet ack) ⟨label, some (p, a), .queued (.send p a)⟩

/-- Only work that a serial run can take is awaited. -/
theorem Job.Awaits.plain {s : Station} {work : Work} {job : Job} (h : job.Awaits s work) :
    work.Plain := by
  cases h with
  | request plain => exact plain
  | send => trivial

/-- The buffers of a job. -/
def Job.handles (job : Job) : List Buffer := job.buffers.elim [] fun b => [b.1, b.2]

/-- The buffers of two jobs belong together. -/
inductive Job.Matched (ρ : List (Buffer × Buffer)) (job job' : Job) : Prop
  /-- Neither has any. -/
  | bare (none : job.buffers = none) (none' : job'.buffers = Option.none)
  /-- Both have two. -/
  | paired {p p' a a' : Buffer} (buffers : job.buffers = some (p, a))
      (buffers' : job'.buffers = some (p', a')) (sent : (p, p') ∈ ρ) (answered : (a, a') ∈ ρ)

/-- Operations that belong together do so among more buffers as well. -/
theorem Job.Matched.mono {ρ ρ' : List (Buffer × Buffer)} {job job' : Job} (h : job.Matched ρ job')
    (more : ∀ x ∈ ρ, x ∈ ρ') : job.Matched ρ' job' := by
  cases h with
  | bare none none' => exact .bare none none'
  | paired buffers buffers' sent answered =>
    exact .paired buffers buffers' (more _ sent) (more _ answered)

/-- What belongs together goes by the buffers alone. -/
theorem Job.Matched.of_buffers {ρ : List (Buffer × Buffer)} {job job' other : Job}
    (h : job.Matched ρ other) (same : job'.buffers = job.buffers) : job'.Matched ρ other := by
  cases h with
  | bare none none' => exact .bare (same.trans none) none'
  | paired buffers buffers' sent answered =>
    exact .paired (same.trans buffers) buffers' sent answered

namespace Station

variable {s t s' t' : Station} {ρ : List (Buffer × Buffer)} {kept : Pool Packet} {now now' : Nat}
  {job job' : Job} {work : Work}

/-- A new operation changes buffers only. -/
theorem engage_alike (label : Option String) (s : Station) (plain : work.Plain) :
    s.Alike (s.engage label work).1 := by
  cases work with
  | request request => exact .refl s
  | send packet ack => exact ⟨.refl _, rfl, rfl, rfl, rfl, rfl, rfl, rfl, rfl⟩
  | scanPresence channel window => exact absurd plain id

/-- What was engaged awaits its turn, with its buffers loaded as asked for. -/
theorem engage_awaits (label : Option String) (s : Station) (plain : work.Plain) :
    (s.engage label work).2.Awaits (s.engage label work).1 work := by
  cases work with
  | request request => exact .request plain
  | send packet ack =>
    exact .send (added_apart s.buffers packet ack)
      ⟨Nat.lt_succ_of_lt (Nat.lt_succ_self _), Nat.lt_succ_self _⟩
      (s.buffers.get_add_add packet ack) ((s.buffers.add packet).1.get_add_self ack)
  | scanPresence channel window => exact absurd plain id

/-- The operation is called as asked for. -/
theorem engage_label (label : Option String) (work : Work) (s : Station) :
    (s.engage label work).2.label = label := by
  cases work <;> rfl

/-- No time passes while an operation is queued. -/
theorem engage_clock (label : Option String) (s : Station) (plain : work.Plain) :
    (s.engage label work).1.clock = s.clock := by
  cases work with
  | scanPresence channel window => exact absurd plain id
  | _ => rfl

/-- A new operation leaves the buffers that are there alone, and its own ones are new. -/
theorem engage_buffers (label : Option String) (s : Station) (plain : work.Plain) :
    s.buffers.count ≤ (s.engage label work).1.buffers.count ∧
      (∀ b : Buffer, b.index < s.buffers.count →
        (s.engage label work).1.buffers.get b = s.buffers.get b) ∧
      (∀ b ∈ (s.engage label work).2.handles, s.buffers.count ≤ b.index) ∧
      (s.engage label work).2.handles.Nodup := by
  cases work with
  | request request => simp [engage, Job.handles]
  | send packet ack =>
    refine ⟨Nat.le_add_right _ 2, ?_, by simp [engage, Job.handles, Pool.add],
      by simp [engage, Job.handles, Pool.add]⟩
    intro b old
    have old' : b.index < (s.buffers.add packet).1.count := Nat.lt_succ_of_lt old
    exact ((s.buffers.add packet).1.get_add_of_ne ((Pool.add_fresh _ ack old').symm)).trans
      (s.buffers.get_add_of_ne (Pool.add_fresh _ packet old).symm)
  | scanPresence channel window => exact absurd plain id

/-- Asking for an operation changes nothing that custody is about. -/
theorem Custody.engage {delays tears : Prop} {holder : Option Activity}
    (h : s.Custody delays tears holder) (label : Option String) (plain : work.Plain) :
    (s.engage label work).1.Custody delays tears holder := by
  cases work with
  | request request => exact h
  | send packet ack => exact h.transfer (buffers_agree ..) rfl
  | scanPresence channel window => exact absurd plain id

/-- Handing buffers back changes nothing that stations that are alike agree on. -/
theorem releaseBuffers_alike (s : Station) : s.releaseBuffers.Alike s := by
  unfold releaseBuffers
  split
  · exact ⟨Radio.alike_setBuffer none _, rfl, rfl, rfl, rfl, rfl, rfl, rfl, rfl⟩
  · exact .refl s

/-- Two jobs that have been asked for the same operation on stations that are alike: the stations
are in tandem, and the buffers of the jobs belong together. -/
theorem Alike.awaiting (h : s.Alike t) (awaits : job.Awaits s work) (awaits' : job'.Awaits t work) :
    ∃ ρ request request', job.activity = .queued request ∧ job'.activity = .queued request' ∧
      request.Paired ρ request' ∧ job.Matched ρ job' ∧ (∀ x ∈ ρ, x.1 ∈ job.handles) ∧
      Tandem ρ s.buffers s.clock t.clock s t := by
  cases awaits with
  | request plain =>
    cases awaits' with
    | request => exact ⟨[], _, _, rfl, rfl, .plain plain, .bare rfl rfl, by simp, h.tandem⟩
  | @send _ packet ack p a apart known loaded cleared =>
    cases awaits' with
    | @send _ _ _ p' a' apart' known' loaded' cleared' =>
      have first : (p, p') ∈ [(p, p'), (a, a')] := by simp
      have second : (a, a') ∈ [(p, p'), (a, a')] := by simp
      refine ⟨[(p, p'), (a, a')], _, _, rfl, rfl, .send first second,
        .paired rfl rfl first second, by simp [Job.handles], { h.tandem with
          same := ?_, paired := ?_, known := ?_, others := fun _ _ _ => rfl }⟩
      · simp only [List.mem_cons, List.not_mem_nil, or_false, forall_eq_or_imp, forall_eq]
        exact ⟨loaded.trans loaded'.symm, cleared.trans cleared'.symm⟩
      · simp [apart, apart', apart.symm, apart'.symm]
      · simp [known, known']

/-- What jobs have in buffers that belong together. -/
theorem Tandem.packets (h : Tandem ρ kept now now' s t) (matched : job.Matched ρ job') :
    job.packets s = job'.packets t := by
  unfold Job.packets
  cases matched with
  | bare none none' => rw [none, none']; rfl
  | paired buffers buffers' sent answered =>
    rw [buffers, buffers']
    exact congrArg some (Prod.ext (h.same _ sent) (h.same _ answered))

/-! ## The first look -/

/-- **Looks at the same request while the lock is free agree.** -/
theorem Tandem.pollQueued (h : Tandem ρ kept now now' s t) {request request' : Request}
    (paired : request.Paired ρ request') (free : s.locked = false) :
    ∃ new, (∀ x ∈ new, s.buffers.count ≤ x.1.index) ∧
      InStep (new ++ ρ) kept now now' ((Activity.queued request).poll s)
        ((Activity.queued request').poll t) := by
  have free' : t.locked = false := h.locked.symm.trans free
  have same : request.answer? = request'.answer? := by cases paired <;> rfl
  cases decided : request.answer? with
  | some result =>
    rw [Activity.poll_queued_of_answer? decided,
      Activity.poll_queued_of_answer? (same.symm.trans decided)]
    exact ⟨[], by simp, h, rfl⟩
  | none =>
    obtain ⟨new, fresh, started⟩ := h.start paired
    rw [Activity.poll_queued_of_free free decided paired.needsLock.1,
      Activity.poll_queued_of_free free' (same.symm.trans decided) paired.needsLock.2]
    exact ⟨new, fresh, congruence.withLock started fun _ _ same => same.same_lock⟩

end Station

/-! ## Turns -/

/-- What awaits its turn is a regular operation. -/
theorem Job.Awaits.regular {s : Station} {work : Work} {job : Job} (h : job.Awaits s work) :
    job.activity.Regular := by
  cases h with
  | @request label request plain =>
    cases request with
    | send => exact absurd plain id
    | testAmplifiers => exact absurd plain id
    | _ => trivial
  | send apart => exact apart

/-- An operation that has the station to itself ends with a result. -/
def Spawn.Ends (spawn : Spawn) (s : Station) (result : Result) (s' : Station) : Prop :=
  ∃ rounds,
    (s.engage none spawn.work).2.activity.Alone rounds (s.engage none spawn.work).1 result s'

/-- An operation that has the station to itself ends with a completion and hands its buffers
back. -/
def Spawn.Turn (spawn : Spawn) (s : Station) (completion : Completion) (s' : Station) : Prop :=
  ∃ result s₁, spawn.Ends s result s₁ ∧ s' = s₁.releaseBuffers ∧
    completion = ⟨some spawn.name, result, (s.engage none spawn.work).2.packets s₁⟩

/-- The completion of an operation that is rejected, or done, before it asks for the lock. -/
def Spawn.rejection? (spawn : Spawn) : Option Completion :=
  match spawn.work with
  | .request request => request.answer?.map fun result => ⟨some spawn.name, result, none⟩
  | _ => none

/-- The operations have the station to themselves, one after the other. -/
inductive Station.Turns : Station → List Spawn → List Completion → Station → Prop
  /-- No operation. -/
  | nil (s : Station) : Turns s [] [] s
  /-- One operation, and those that follow. -/
  | next {s s₁ s' : Station} {spawn : Spawn} {spawns : List Spawn} {completion : Completion}
      {completions : List Completion} (turn : spawn.Turn s completion s₁)
      (later : Turns s₁ spawns completions s') :
      Turns s (spawn :: spawns) (completion :: completions) s'

namespace Spawn

variable {spawn : Spawn} {s t s' : Station} {completion : Completion} {tears : Prop}

/-- **The outcome of a turn depends on the station only up to likeness.** -/
theorem Turn.transfer (turn : spawn.Turn s completion s') (h : s.Alike t)
    (plain : spawn.work.Plain) (custody : s.Custody False tears none)
    (custody' : t.Custody False tears none) :
    ∃ t', spawn.Turn t completion t' ∧ s'.Alike t' ∧ s'.Custody False tears none ∧
      t'.Custody False tears none := by
  obtain ⟨result, s₁, ⟨rounds, alone⟩, rfl, rfl⟩ := turn
  have engaged := ((s.engage_alike none plain).symm.trans h).trans (t.engage_alike none plain)
  have awaits := s.engage_awaits none plain
  have awaits' := t.engage_awaits none plain
  -- the operation gets buffers of its own on each station, and these belong together
  obtain ⟨ρ, request, request', queued, queued', paired, matched, -, tandem⟩ :=
    engaged.awaiting awaits awaits'
  have regular := awaits.regular
  have regular' := awaits'.regular
  rw [queued] at alone regular
  rw [queued'] at regular'
  have engagedCustody := custody.engage none plain
  have engagedCustody' := custody'.engage none plain
  obtain ⟨new, -, looks⟩ := tandem.pollQueued paired engagedCustody.1
  obtain ⟨t₁, _, _, alone', same, rest, rest'⟩ :=
    alone.transfer looks (Activity.orderly_poll_queued engagedCustody regular)
      (Activity.orderly_poll_queued engagedCustody' regular')
  have left := (s₁.releaseBuffers_alike.trans same.toAlike).trans t₁.releaseBuffers_alike.symm
  have matched' :
      Job.Matched (new ++ ρ) (s.engage none spawn.work).2 (t.engage none spawn.work).2 :=
    matched.mono fun x member => List.mem_append_right _ member
  refine ⟨t₁.releaseBuffers, ⟨result, t₁, ⟨rounds, ?_⟩, rfl, ?_⟩, left, rest.releaseBuffers,
    rest'.releaseBuffers⟩
  · rw [queued']
    exact alone'
  · rw [same.packets matched']

/-- A turn that is rejected leaves the station alike. -/
theorem turn_of_rejection (rejected : spawn.rejection? = some completion) (s : Station)
    (custody : s.Custody False tears none) :
    ∃ s', spawn.Turn s completion s' ∧ s.Alike s' ∧ s'.Custody False tears none := by
  obtain ⟨name, work⟩ := spawn
  cases work with
  | request request =>
    obtain ⟨result, decided, rfl⟩ := Option.map_eq_some_iff.mp rejected
    refine ⟨s.releaseBuffers, ⟨result, s, ⟨0, .ends ?_⟩, rfl, rfl⟩, s.releaseBuffers_alike.symm,
      custody.releaseBuffers⟩
    exact Activity.poll_queued_of_answer? decided s
  | send packet ack => cases rejected
  | scanPresence channel window => cases rejected

end Spawn

namespace Station.Turns

variable {s t s' : Station} {spawn : Spawn} {spawns : List Spawn} {completion : Completion}
  {completions : List Completion} {tears : Prop}

/-- One more turn. -/
theorem snoc (h : s.Turns spawns completions t) (turn : spawn.Turn t completion s') :
    s.Turns (spawns ++ [spawn]) (completions ++ [completion]) s' := by
  induction h with
  | nil s => exact .next turn (.nil _)
  | next first _ ih => exact .next first (ih turn)

/-- **Operations that are rejected may be put anywhere into a row of turns**, and the row may start
from any station that is alike. -/
theorem insert (h : s.Turns spawns completions s') (alike : s.Alike t)
    (custody : s.Custody False tears none) (custody' : t.Custody False tears none)
    {order : List Spawn} (plain : ∀ spawn ∈ order, spawn.work.Plain)
    (served : order.filter (fun spawn => spawn.rejection?.isNone) = spawns) :
    ∃ completions' t', t.Turns order completions' t' ∧ s'.Alike t' ∧
      completions'.Perm (completions ++ order.filterMap Spawn.rejection?) := by
  -- the induction is on the row; the stations stay alike, whatever is put in between
  induction order generalizing s t spawns completions with
  | nil =>
    subst served
    cases h
    exact ⟨[], t, .nil t, alike, .refl _⟩
  | cons spawn order ih =>
    have plain' : ∀ spawn ∈ order, spawn.work.Plain := fun other member =>
      plain other (List.mem_cons_of_mem _ member)
    cases rejected : spawn.rejection? with
    | some completion =>
      obtain ⟨t₁, turn, alike₁, custody₁⟩ := Spawn.turn_of_rejection rejected t custody'
      have served' : order.filter (fun spawn => spawn.rejection?.isNone) = spawns := by
        simpa [rejected] using served
      obtain ⟨completions', t', turns, left, all⟩ :=
        ih h (alike.trans alike₁) custody custody₁ plain' served'
      refine ⟨completion :: completions', t', .next turn turns, left, ?_⟩
      rw [List.filterMap_cons_some rejected]
      exact (all.cons completion).trans List.perm_middle.symm
    | none =>
      obtain ⟨later, rfl, served'⟩ : ∃ later, spawns = spawn :: later ∧
          order.filter (fun spawn => spawn.rejection?.isNone) = later := by
        refine ⟨_, ?_, rfl⟩
        simpa [rejected] using served.symm
      cases h with
      | next turn turns =>
        obtain ⟨t₁, turn', alike₁, custody₁, custody₁'⟩ :=
          turn.transfer alike (plain spawn (List.mem_cons_self ..)) custody custody'
        obtain ⟨completions', t', turns', left, all⟩ :=
          ih turns alike₁ custody₁ custody₁' plain' served'
        refine ⟨_, t', .next turn' turns', left, ?_⟩
        rw [List.filterMap_cons_none rejected]
        exact all.cons _

/-- Turns on a station are operations in turn on a bench without jobs. -/
theorem inTurn {b : Bench} (h : b.station.Turns spawns completions s') (idle : b.jobs = []) :
    ∃ b', b.InTurn spawns completions b' ∧ b'.station = s' := by
  generalize same : b.station = s at h
  induction h generalizing b with
  | nil s => exact ⟨b, .nil b, same⟩
  | @next s s₁ s' spawn spawns completion completions turn later ih =>
    -- one round more of patience than the operation needs is enough
    obtain ⟨result, s₂, ⟨rounds, alone⟩, rfl, rfl⟩ := turn
    subst same
    have single : (b.enlist none spawn.work).jobs = [(b.station.engage none spawn.work).2] := by
      rw [Bench.enlist_eq, idle]
      rfl
    have station : (b.enlist none spawn.work).station = (b.station.engage none spawn.work).1 := by
      rw [Bench.enlist_eq]
    have performed := Bench.awaitWithin_of_alone (station ▸ alone) single (engage_label ..)
      (Nat.lt_succ_self rounds)
    obtain ⟨b', inTurn, left⟩ := ih (b := { b.enlist none spawn.work with
      station := s₂.releaseBuffers, jobs := [], ended := _ }) rfl rfl
    exact ⟨b', .next performed inTurn, left⟩

end Station.Turns

end BurstLink
