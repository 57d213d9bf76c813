/-!
# Identifier pools

A pool hands out the integers of a closed range.  Values never issued come out in ascending order
from the lower bound; a value given back waits at the tail of a queue, and waiting values are
issued again, oldest first, before the range is walked any further.  So the values outstanding are
those that the cursor has passed and that are not waiting, and no separate record of them is kept.

The cursor is a signed word of 64 bits.  It never gets past a range that ends at the greatest of
them, but wraps around and goes on from the least, outside the range.  What is issued from there
on can not be given back.
-/

namespace AccessMobility

/-- The state of a pool over the range from `min` to `max`. -/
structure IdPool where
  min : Int
  max : Int
  /-- The next value that was never issued. -/
  cursor : Int
  /-- Values given back, the oldest first. -/
  waiting : List Int
  deriving DecidableEq

namespace IdPool

/-- A pool that has issued nothing; an inverted range never issues anything. -/
def new (min max : Int) : IdPool :=
  { min, max, cursor := min, waiting := [] }

/-- The signed word of 64 bits that follows; the greatest is followed by the least. -/
def successor (value : Int) : Int :=
  if value = 9223372036854775807 then -9223372036854775808 else value + 1

/-- The cursor has moved over the value.  It stands below the lower bound only after it has wrapped
around, and has then moved over all words from the lower bound on. -/
def Passed (pool : IdPool) (id : Int) : Prop :=
  pool.min ≤ id ∧ id < pool.cursor ∨
  pool.cursor < pool.min ∧
    (pool.min ≤ id ∧ id ≤ 9223372036854775807 ∨ -9223372036854775808 ≤ id ∧ id < pool.cursor)

instance (pool : IdPool) (id : Int) : Decidable (pool.Passed id) :=
  inferInstanceAs (Decidable (_ ∨ _))

/-- Issued and not given back since. -/
def Outstanding (pool : IdPool) (id : Int) : Prop :=
  pool.Passed id ∧ id ∉ pool.waiting

instance (pool : IdPool) (id : Int) : Decidable (pool.Outstanding id) :=
  inferInstanceAs (Decidable (_ ∧ _))

/-- The number of values that the cursor has moved over. -/
def passedCount (pool : IdPool) : Nat :=
  if pool.min ≤ pool.cursor then
    (pool.cursor - pool.min).toNat
  else
    (9223372036854775808 - pool.min).toNat + (pool.cursor + 9223372036854775808).toNat

/-- The number of outstanding values. -/
def outstandingCount (pool : IdPool) : Nat :=
  pool.passedCount - pool.waiting.length

/-- The cursor can move on, upwards from the lower bound or, outside the range, through negative
words only.  What is issued outside the range stays outstanding, and no record of outstanding values
has room for all negative words. -/
def CanMove (pool : IdPool) : Prop :=
  pool.min ≤ pool.cursor ∧ pool.cursor < successor pool.cursor ∨
    successor pool.cursor < pool.min ∧ successor pool.cursor < 0

instance (pool : IdPool) : Decidable pool.CanMove :=
  inferInstanceAs (Decidable (_ ∨ _))

/-- Issue a value; nothing when the range is exhausted. -/
def allocate (pool : IdPool) : Option Int × IdPool :=
  match pool.waiting with
  | id :: waiting => (some id, { pool with waiting })
  | [] =>
    if pool.cursor ≤ pool.max ∧ pool.CanMove then
      (some pool.cursor, { pool with cursor := successor pool.cursor })
    else
      (none, pool)

/-- Values outside the range can never be given back. -/
def InRange (pool : IdPool) (id : Int) : Prop :=
  pool.min ≤ id ∧ id ≤ pool.max

instance (pool : IdPool) (id : Int) : Decidable (pool.InRange id) :=
  inferInstanceAs (Decidable (_ ∧ _))

/-- Give a value back; anything but an outstanding value of the range is ignored. -/
def free (pool : IdPool) (id : Int) : IdPool :=
  if pool.InRange id ∧ pool.Outstanding id then
    { pool with waiting := pool.waiting ++ [id] }
  else
    pool

/-- Issue `count` values one after another, exhausted calls included. -/
def allocateMany (pool : IdPool) : Nat → List (Option Int) × IdPool
  | 0 => ([], pool)
  | count + 1 =>
    let (id, pool) := pool.allocate
    let (ids, pool) := pool.allocateMany count
    (id :: ids, pool)

@[simp] theorem min_allocate (pool : IdPool) : pool.allocate.2.min = pool.min := by
  unfold allocate
  split
  · rfl
  · split <;> rfl

@[simp] theorem max_allocate (pool : IdPool) : pool.allocate.2.max = pool.max := by
  unfold allocate
  split
  · rfl
  · split <;> rfl

@[simp] theorem min_free (pool : IdPool) (id : Int) : (pool.free id).min = pool.min := by
  unfold free; split <;> rfl

@[simp] theorem max_free (pool : IdPool) (id : Int) : (pool.free id).max = pool.max := by
  unfold free; split <;> rfl

@[simp] theorem cursor_free (pool : IdPool) (id : Int) : (pool.free id).cursor = pool.cursor := by
  unfold free; split <;> rfl

theorem inRange_free (pool : IdPool) (id other : Int) :
    (pool.free id).InRange other ↔ pool.InRange other := by
  rw [InRange, min_free, max_free, InRange]

theorem passed_free (pool : IdPool) (id other : Int) :
    (pool.free id).Passed other ↔ pool.Passed other := by
  rw [Passed, min_free, cursor_free, Passed]

end IdPool

end AccessMobility
