/-! # Pools

Values that several parties refer to live in a pool: packets that an operation waits for while the
radio fills them, scanners that a scan goes on using after the next one was put up. A handle names
one entry for good; entries are never removed, so a handle never comes to mean something else.

Main definitions: **`Pool`**, **`Handle`**, **`Pool.add`**, **`Pool.get`**, **`Pool.set`**.

Main statements: an entry read back is what was written last (`get_set_self`), writing one entry
leaves the others alone (`get_set_of_ne`), and a new entry is none of those handed out before
(`add_fresh`). -/

namespace BurstLink

/-- Names one entry of a pool of `α`. -/
structure Handle (α : Type) where
  /-- Entries are numbered in the order in which they were added. -/
  index : Nat
  deriving DecidableEq

/-- Entries that are referred to by handles. -/
structure Pool (α : Type) where
  /-- Number of entries added so far. -/
  count : Nat
  /-- The entry with a given number. -/
  entry : Nat → α

namespace Pool

variable {α : Type}

/-- The pool without entries. -/
def empty [Inhabited α] : Pool α := ⟨0, fun _ => default⟩

instance [Inhabited α] : Inhabited (Pool α) := ⟨empty⟩

/-- The entry behind a handle. -/
def get (pool : Pool α) (h : Handle α) : α := pool.entry h.index

/-- The pool with another value behind a handle. -/
def set (pool : Pool α) (h : Handle α) (a : α) : Pool α :=
  { pool with entry := fun i => if i = h.index then a else pool.entry i }

/-- Changes the value behind a handle. -/
def modify (pool : Pool α) (h : Handle α) (f : α → α) : Pool α := pool.set h (f (pool.get h))

/-- Adds an entry. -/
def add (pool : Pool α) (a : α) : Pool α × Handle α :=
  ({ pool.set ⟨pool.count⟩ a with count := pool.count + 1 }, ⟨pool.count⟩)

/-- The entry added last. -/
def last? (pool : Pool α) : Option (Handle α) :=
  match pool.count with
  | 0 => none
  | n + 1 => some ⟨n⟩

/-! ## Reading after writing -/

/-- An item reads as it was written. -/
@[simp] theorem get_set_self (pool : Pool α) (h : Handle α) (a : α) : (pool.set h a).get h = a := by
  simp [get, set]

/-- A write to one handle is not seen at another one. -/
theorem get_set_of_ne (pool : Pool α) {h k : Handle α} (ne : k ≠ h) (a : α) :
    (pool.set h a).get k = pool.get k := by
  have apart : k.index ≠ h.index := fun same => ne (by cases h; cases k; simp_all)
  simp [get, set, apart]

/-- A write adds no item. -/
@[simp] theorem count_set (pool : Pool α) (h : Handle α) (a : α) :
    (pool.set h a).count = pool.count := rfl

/-- The new handle gives the item that was added. -/
@[simp] theorem get_add_self (pool : Pool α) (a : α) : (pool.add a).1.get (pool.add a).2 = a := by
  simp [get, set, add]

/-- A new entry leaves the others alone. -/
theorem get_add_of_ne (pool : Pool α) {a : α} {h : Handle α} (ne : h ≠ (pool.add a).2) :
    (pool.add a).1.get h = pool.get h :=
  get_set_of_ne pool ne a

/-- The entry before the one added last. -/
theorem get_add_add (pool : Pool α) (first second : α) :
    ((pool.add first).1.add second).1.get (pool.add first).2 = first := by
  have apart : (pool.add first).2 ≠ ((pool.add first).1.add second).2 := by
    simp [add, set]
  rw [get_add_of_ne _ apart, get_add_self]

/-- The new handle is none of those handed out before. -/
theorem add_fresh (pool : Pool α) (a : α) {h : Handle α} (old : h.index < pool.count) :
    (pool.add a).2 ≠ h := by
  rintro rfl
  exact absurd old (Nat.lt_irrefl _)

end Pool

end BurstLink
