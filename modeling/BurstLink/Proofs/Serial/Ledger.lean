import BurstLink.Proofs.Serial.Turn

/-! # The ledger of a crowd

While a crowd goes through its rounds, a ledger is kept: which operations have had their turn, in
which order, which ones were rejected, which one holds the lock, and which ones wait.

Main definitions:

* **`Ledger`** — the ledger of a crowd.
* **`Waits`** — the jobs of the operations that wait, and what their buffers hold.

Main statements: `Ledger.ask`, `Ledger.reject`, `Ledger.take`, `Ledger.finish`, and
`Waits.engage`. -/

namespace BurstLink

/-- The ledger of a crowd that started from station `s₀`: some operations have had their turn and
would have left `t₀` behind, some were rejected, one may hold the lock, and the rest wait. -/
inductive Ledger (s₀ t₀ : Station) (current waiting spawned : List Spawn) (takers : List String)
    (ended before : List Completion) : Prop
  /-- With the turns, what came of them, and the rejected operations. -/
  | intro (served rejected : List Spawn) (completions : List Completion)
      (turns : s₀.Turns served completions t₀)
      (order : takers = (served ++ current).map Spawn.name)
      (all : spawned.Perm ((served ++ current) ++ (rejected ++ waiting)))
      (answers : ended.Perm (completions ++ (rejected.filterMap Spawn.rejection? ++ before)))
      (refused : ∀ spawn ∈ rejected, spawn.rejection?.isSome)
      (accepted : ∀ spawn ∈ served ++ current, spawn.rejection? = none)

namespace Ledger

variable {s₀ t₀ t₁ : Station} {current waiting rest spawned : List Spawn} {spawn : Spawn}
  {takers : List String} {ended ended' before : List Completion} {completion : Completion}

/-- The ledger of a crowd that has not started. -/
theorem empty (s₀ : Station) (before : List Completion) :
    Ledger s₀ s₀ [] [] [] [] before before :=
  .intro [] [] [] (.nil s₀) rfl (.refl _) (.refl _) (by simp) (by simp)

/-- The order in which operations wait or ended does not matter. -/
theorem perm (h : Ledger s₀ t₀ current waiting spawned takers ended before)
    (same : waiting.Perm rest) (same' : ended.Perm ended') :
    Ledger s₀ t₀ current rest spawned takers ended' before := by
  obtain ⟨served, rejected, completions, turns, order, all, answers, refused, accepted⟩ := h
  exact ⟨served, rejected, completions, turns, order,
    all.trans ((same.append_left rejected).append_left _), same'.symm.trans answers, refused,
    accepted⟩

/-- More operations are asked for. -/
theorem ask (h : Ledger s₀ t₀ current waiting spawned takers ended before)
    (newcomers : List Spawn) :
    Ledger s₀ t₀ current (waiting ++ newcomers) (spawned ++ newcomers) takers ended before := by
  obtain ⟨served, rejected, completions, turns, order, all, answers, refused, accepted⟩ := h
  refine ⟨served, rejected, completions, turns, order, ?_, answers, refused, accepted⟩
  have more := all.append_right newcomers
  simpa only [List.append_assoc] using more

/-- An operation is rejected before it asks for the lock. -/
theorem reject (h : Ledger s₀ t₀ current (spawn :: rest) spawned takers ended before)
    (rejected : spawn.rejection? = some completion) :
    Ledger s₀ t₀ current rest spawned takers (completion :: ended) before := by
  obtain ⟨served, refusals, completions, turns, order, all, answers, refused, accepted⟩ := h
  refine ⟨served, spawn :: refusals, completions, turns, order, ?_, ?_, ?_, accepted⟩
  · exact all.trans (List.perm_middle.append_left _)
  · rw [List.filterMap_cons_some rejected]
    exact (answers.cons completion).trans List.perm_middle.symm
  · intro other member
    rcases List.mem_cons.mp member with rfl | member
    · rw [rejected]
      rfl
    · exact refused other member

/-- An operation takes the lock. -/
theorem take (h : Ledger s₀ t₀ [] (spawn :: rest) spawned takers ended before)
    (accepts : spawn.rejection? = none) :
    Ledger s₀ t₀ [spawn] rest spawned (takers ++ [spawn.name]) ended before := by
  obtain ⟨served, rejected, completions, turns, order, all, answers, refused, accepted⟩ := h
  refine ⟨served, rejected, completions, turns, ?_, ?_, answers, refused, ?_⟩
  · simp [order]
  · rw [List.append_nil] at all
    refine all.trans ?_
    rw [List.append_assoc]
    exact List.perm_middle.append_left served
  · intro other member
    rcases List.mem_append.mp member with old | new
    · exact accepted other (List.mem_append_left _ old)
    · rw [List.mem_singleton.mp new]
      exact accepts

/-- The operation that held the lock is over. -/
theorem finish (h : Ledger s₀ t₀ [spawn] waiting spawned takers ended before)
    (turn : spawn.Turn t₀ completion t₁) :
    Ledger s₀ t₁ [] waiting spawned takers (completion :: ended) before := by
  obtain ⟨served, rejected, completions, turns, order, all, answers, refused, accepted⟩ := h
  refine ⟨served ++ [spawn], rejected, completions ++ [completion], turns.snoc turn, ?_, ?_, ?_,
    refused, ?_⟩
  · simpa using order
  · simpa using all
  · rw [List.append_assoc]
    exact (answers.cons completion).trans List.perm_middle.symm
  · simpa using accepted

end Ledger

/-! ## Jobs that wait -/

/-- The jobs have been asked for under the names of their operations, have not started, and share
no buffer. -/
structure Waits (s : Station) (waiting : List (Spawn × Job)) : Prop where
  awaits : ∀ x ∈ waiting, x.2.Awaits s x.1.work ∧ x.2.label = some x.1.name
  apart : (waiting.flatMap fun x => x.2.handles).Nodup

/-- The buffers of a job that waits exist. -/
theorem Job.Awaits.known {s : Station} {work : Work} {job : Job} (h : job.Awaits s work) :
    ∀ b ∈ job.handles, b.index < s.buffers.count := by
  cases h with
  | request plain => simp [handles]
  | send apart known => simpa [handles] using known

/-- A job that waits goes on waiting when its buffers keep what they hold. -/
theorem Job.Awaits.kept {s t : Station} {work : Work} {job : Job} (h : job.Awaits s work)
    (same : ∀ b ∈ job.handles, t.buffers.get b = s.buffers.get b)
    (more : s.buffers.count ≤ t.buffers.count) : job.Awaits t work := by
  cases h with
  | request plain => exact .request plain
  | send apart known loaded cleared =>
    exact .send apart ⟨Nat.lt_of_lt_of_le known.1 more, Nat.lt_of_lt_of_le known.2 more⟩
      ((same _ (by simp [handles])).trans loaded) ((same _ (by simp [handles])).trans cleared)

namespace Waits

variable {s t : Station} {waiting waiting' : List (Spawn × Job)} {x : Spawn × Job} {spawn : Spawn}

/-- The order of those that wait does not matter. -/
theorem perm (h : Waits s waiting) (same : waiting.Perm waiting') : Waits s waiting' where
  awaits := fun x member => h.awaits x (same.mem_iff.mpr member)
  apart := (same.flatMap_right _).nodup_iff.mp h.apart

/-- They go on waiting while their buffers are left alone. -/
theorem kept (h : Waits s waiting)
    (same : ∀ x ∈ waiting, ∀ b ∈ x.2.handles, t.buffers.get b = s.buffers.get b)
    (more : s.buffers.count ≤ t.buffers.count) : Waits t waiting where
  awaits := fun x member => ⟨(h.awaits x member).1.kept (same x member) more, (h.awaits x member).2⟩
  apart := h.apart

/-- Without the first one, the others go on waiting. -/
theorem tail (h : Waits s (x :: waiting)) : Waits s waiting where
  awaits := fun y member => h.awaits y (List.mem_cons_of_mem _ member)
  apart := (List.nodup_append.mp h.apart).2.1

/-- The buffers of one job belong to no other. -/
theorem disjoint (h : Waits s (x :: waiting)) {b : Buffer} (own : b ∈ x.2.handles) :
    ∀ y ∈ waiting, b ∉ y.2.handles := by
  intro y member other
  exact (List.nodup_append.mp h.apart).2.2 b own b (List.mem_flatMap.mpr ⟨y, member, other⟩) rfl

/-- One more operation is asked for. -/
theorem engage (h : Waits s waiting) (plain : spawn.work.Plain) :
    Waits (s.engage (some spawn.name) spawn.work).1
      (waiting ++ [(spawn, (s.engage (some spawn.name) spawn.work).2)]) := by
  have awaits := s.engage_awaits (some spawn.name) plain
  obtain ⟨more, same, fresh, distinct⟩ := s.engage_buffers (some spawn.name) plain
  have waits := h.kept (fun x member b own => same b ((h.awaits x member).1.known b own)) more
  refine ⟨?_, ?_⟩
  · intro x member
    rcases List.mem_append.mp member with old | new
    · exact waits.awaits x old
    · rw [List.mem_singleton.mp new]
      exact ⟨awaits, s.engage_label (some spawn.name) spawn.work⟩
  · rw [List.flatMap_append, List.nodup_append]
    refine ⟨h.apart, by simpa using distinct, ?_⟩
    rintro b old _ new rfl
    obtain ⟨x, member, own⟩ := List.mem_flatMap.mp old
    have known := (h.awaits x member).1.known b own
    have unknown := fresh b (by simpa using new)
    omega

end Waits

end BurstLink
