import AccessMobility.IdPool
import AccessMobility.Identity.Basic

/-!
# Outstanding values of a pool

The values outstanding are computed from the cursor and the queue of waiting values.  This file
keeps the two in order: what waits was issued before, waits once, and lies inside the range.  Under
this invariant an allocation adds exactly one value that was not outstanding, and giving a value
back takes exactly this value away if it lies in the range.  Only a cursor that has wrapped around
leads outside the range, so in a range that ends earlier every outstanding value can be given back.

The second half relates signed pool values to unsigned 64-bit identifiers.
-/

namespace AccessMobility

namespace IdPool

/-- The queue and the cursor agree with each other and with the range. -/
structure Valid (pool : IdPool) : Prop where
  waiting_issued : ∀ id ∈ pool.waiting, pool.min ≤ id ∧ pool.Passed id
  waiting_nodup : pool.waiting.Nodup
  cursor_range : pool.min ≤ pool.cursor ∧ (pool.cursor = pool.min ∨ pool.cursor ≤ pool.max + 1) ∨
    -9223372036854775808 ≤ pool.cursor ∧ pool.cursor < 0 ∧ pool.cursor < pool.min ∧
      pool.min ≤ 9223372036854775807 ∧ 9223372036854775807 ≤ pool.max

/-- A pool in order whose range ends before the greatest signed word of 64 bits, so that the cursor
never wraps around. -/
structure Bounded (pool : IdPool) : Prop extends pool.Valid where
  max_lt : pool.max < 9223372036854775807

theorem not_passed_new (min max id : Int) : ¬ (new min max).Passed id := by
  simp only [Passed, new]
  omega

theorem not_outstanding_new (min max id : Int) : ¬ (new min max).Outstanding id :=
  fun hout => not_passed_new min max id hout.1

theorem valid_new (min max : Int) : (IdPool.new min max).Valid := by
  constructor <;> simp [IdPool.new]

theorem bounded_new (min : Int) {max : Int} (hmax : max < 9223372036854775807) :
    (IdPool.new min max).Bounded where
  toValid := valid_new min max
  max_lt := hmax

section

variable {pool : IdPool} (hvalid : pool.Valid)

include hvalid

theorem Valid.passed_inRange {id : Int} (hmin : pool.min ≤ id) (hpassed : pool.Passed id) :
    pool.InRange id := by
  have hcursor := hvalid.cursor_range
  unfold Passed at hpassed
  unfold InRange
  omega

/-- What lies outside the range never waits. -/
theorem Valid.outstanding_of_not_inRange {id : Int} (hpassed : pool.Passed id)
    (houtside : ¬ pool.InRange id) : pool.Outstanding id := by
  refine ⟨hpassed, fun hmem => houtside ?_⟩
  exact hvalid.passed_inRange (hvalid.waiting_issued id hmem).1 hpassed

/-- Over a range without negative values, -1 is never issued. -/
theorem Valid.not_passed_neg_one (hnonneg : 0 ≤ pool.min) : ¬ pool.Passed (-1) := by
  have hcursor := hvalid.cursor_range
  unfold Passed
  omega

end

section

variable {pool : IdPool} (hbounded : pool.Bounded)

include hbounded

theorem Bounded.min_le_cursor : pool.min ≤ pool.cursor := by
  have hcursor := hbounded.cursor_range
  have hmax := hbounded.max_lt
  omega

theorem Bounded.passed_iff (id : Int) : pool.Passed id ↔ pool.min ≤ id ∧ id < pool.cursor := by
  have hmin := hbounded.min_le_cursor
  unfold Passed
  omega

theorem Bounded.passed_inRange {id : Int} (hpassed : pool.Passed id) : pool.InRange id :=
  hbounded.toValid.passed_inRange ((hbounded.passed_iff id).mp hpassed).1 hpassed

theorem Bounded.inRange_and_passed_iff (id : Int) :
    pool.InRange id ∧ pool.Passed id ↔ pool.InRange id ∧ id < pool.cursor := by
  rw [hbounded.passed_iff]
  exact and_congr_right fun hrange => and_iff_right hrange.1

theorem Bounded.outstanding_inRange {id : Int} (hout : pool.Outstanding id) : pool.InRange id :=
  hbounded.passed_inRange hout.1

end

theorem successor_cases (value : Int) :
    value = 9223372036854775807 ∧ successor value = -9223372036854775808 ∨
      value ≠ 9223372036854775807 ∧ successor value = value + 1 := by
  unfold successor
  split
  next heq => exact Or.inl ⟨heq, rfl⟩
  next hne => exact Or.inr ⟨hne, rfl⟩

theorem successor_ne (value : Int) : successor value ≠ value := by
  have hnext := successor_cases value
  omega

/-- The cursor has not moved over the value it stands at. -/
theorem not_passed_cursor (pool : IdPool) : ¬ pool.Passed pool.cursor := by
  unfold Passed
  omega

/-- Moving on, the cursor moves over the value it stood at and no other. -/
theorem Valid.passed_successor {pool : IdPool} (hvalid : pool.Valid)
    (hmove : pool.CanMove) (id : Int) :
    ({ pool with cursor := successor pool.cursor } : IdPool).Passed id ↔
      pool.Passed id ∨ id = pool.cursor := by
  have hcursor := hvalid.cursor_range
  have hnext := successor_cases pool.cursor
  unfold CanMove at hmove
  unfold Passed
  dsimp only
  omega

/-- What an allocation can do: it takes the oldest waiting value, or the value at the cursor when
nothing waits. -/
theorem allocate_cases {pool next : IdPool} {id : Int}
    (halloc : pool.allocate = (some id, next)) :
    (∃ rest, pool.waiting = id :: rest ∧ next = { pool with waiting := rest }) ∨
      (pool.waiting = [] ∧ pool.cursor = id ∧ id ≤ pool.max ∧ pool.CanMove ∧
        next = { pool with cursor := successor id }) := by
  unfold allocate at halloc
  cases hwaiting : pool.waiting with
  | nil =>
      right
      rw [hwaiting] at halloc
      by_cases hgoes : pool.cursor ≤ pool.max ∧ pool.CanMove
      · simp only [hgoes, and_self, if_true, Prod.mk.injEq, Option.some.injEq] at halloc
        obtain ⟨hid, hnext⟩ := halloc
        subst hid
        exact ⟨rfl, rfl, hgoes.1, hgoes.2, hnext.symm⟩
      · simp [hgoes] at halloc
  | cons head rest =>
      left
      rw [hwaiting] at halloc
      simp only [Prod.mk.injEq, Option.some.injEq] at halloc
      obtain ⟨hid, hnext⟩ := halloc
      subst hid
      exact ⟨rest, rfl, hnext.symm⟩

theorem allocate_none {pool next : IdPool} (halloc : pool.allocate = (none, next)) :
    next = pool := by
  unfold allocate at halloc
  split at halloc
  · simp at halloc
  · split at halloc <;> simp_all

theorem Valid.allocate {pool next : IdPool} {id : Int} (hvalid : pool.Valid)
    (halloc : pool.allocate = (some id, next)) : next.Valid := by
  rcases allocate_cases halloc with ⟨rest, hwaiting, hnext⟩ | ⟨hwaiting, hid, hle, hmove, hnext⟩
  · have hissued := hvalid.waiting_issued
    have hnodup := hvalid.waiting_nodup
    rw [hwaiting] at hissued hnodup
    subst hnext
    exact ⟨fun other hmem => hissued other (List.mem_cons_of_mem _ hmem),
      hnodup.of_cons, hvalid.cursor_range⟩
  · have hcursor := hvalid.cursor_range
    subst hid hnext
    have hnext := successor_cases pool.cursor
    refine ⟨by simp [hwaiting], by simp [hwaiting], ?_⟩
    unfold CanMove at hmove
    dsimp only
    omega

theorem Bounded.allocate_inRange {pool next : IdPool} {id : Int} (hbounded : pool.Bounded)
    (halloc : pool.allocate = (some id, next)) : pool.InRange id := by
  rcases allocate_cases halloc with ⟨rest, hwaiting, -⟩ | ⟨-, hid, hle, -⟩
  · exact hbounded.passed_inRange (hbounded.waiting_issued id (by simp [hwaiting])).2
  · exact ⟨hid ▸ hbounded.min_le_cursor, hle⟩

theorem allocate_fresh {pool next : IdPool} {id : Int}
    (halloc : pool.allocate = (some id, next)) : ¬ pool.Outstanding id := by
  rcases allocate_cases halloc with ⟨rest, hwaiting, -⟩ | ⟨-, hid, -, -⟩
  · intro hout
    exact hout.2 (by simp [hwaiting])
  · intro hout
    exact pool.not_passed_cursor (hid ▸ hout.1)

theorem Valid.passed_allocate {pool next : IdPool} {id : Int} (hvalid : pool.Valid)
    (halloc : pool.allocate = (some id, next)) (other : Int) :
    next.Passed other ↔ pool.Passed other ∨ other = id := by
  rcases allocate_cases halloc with ⟨rest, hwaiting, hnext⟩ | ⟨-, hid, -, hmove, hnext⟩
  · obtain ⟨-, hpassed⟩ := hvalid.waiting_issued id (by simp [hwaiting])
    subst hnext
    exact ⟨Or.inl, fun hor => hor.elim (fun hold => hold) (fun heq => heq ▸ hpassed)⟩
  · subst hid hnext
    exact hvalid.passed_successor hmove other

theorem Valid.outstanding_allocate {pool next : IdPool} {id : Int} (hvalid : pool.Valid)
    (halloc : pool.allocate = (some id, next)) (other : Int) :
    next.Outstanding other ↔ pool.Outstanding other ∨ other = id := by
  rw [Outstanding, hvalid.passed_allocate halloc, Outstanding]
  rcases allocate_cases halloc with ⟨rest, hwaiting, hnext⟩ | ⟨hwaiting, -, -, -, hnext⟩
  · have hnodup := hvalid.waiting_nodup
    obtain ⟨-, hpassed⟩ := hvalid.waiting_issued id (by simp [hwaiting])
    rw [hwaiting, List.nodup_cons] at hnodup
    rw [hnext, hwaiting, List.mem_cons, not_or]
    by_cases heq : other = id
    · subst heq
      simp [hnodup.1]
    · simp [heq]
  · rw [hnext]
    simp [hwaiting]

/-- A value of the range that is outstanding waits last once it is given back. -/
theorem free_outstanding {pool : IdPool} {id : Int} (hrange : pool.InRange id)
    (hout : pool.Outstanding id) :
    pool.free id = { pool with waiting := pool.waiting ++ [id] } :=
  if_pos ⟨hrange, hout⟩

theorem Valid.free {pool : IdPool} (hvalid : pool.Valid) (id : Int) : (pool.free id).Valid := by
  unfold IdPool.free
  split
  next hfree =>
    obtain ⟨hrange, hout⟩ := hfree
    constructor
    · intro other hmem
      rcases List.mem_append.mp hmem with hold | hnew
      · exact hvalid.waiting_issued other hold
      · rw [List.mem_singleton] at hnew
        subst hnew
        exact ⟨hrange.1, hout.1⟩
    · rw [List.nodup_append]
      refine ⟨hvalid.waiting_nodup, by simp, ?_⟩
      intro other hold last hlast heq
      rw [List.mem_singleton] at hlast
      subst hlast
      subst heq
      exact hout.2 hold
    · exact hvalid.cursor_range
  next => exact hvalid

/-- Only a value of the range can be given back. -/
theorem outstanding_free_iff (pool : IdPool) (id other : Int) :
    (pool.free id).Outstanding other ↔
      pool.Outstanding other ∧ ¬ (other = id ∧ pool.InRange id) := by
  unfold IdPool.free
  split
  next hfree =>
    have hsame : ({ pool with waiting := pool.waiting ++ [id] } : IdPool).Passed other ↔
        pool.Passed other := Iff.rfl
    rw [Outstanding, hsame, Outstanding, List.mem_append, List.mem_singleton, not_or, and_assoc]
    simp [hfree.1]
  next hfree =>
    refine ⟨fun hout => ⟨hout, ?_⟩, And.left⟩
    rintro ⟨rfl, hrange⟩
    exact hfree ⟨hrange, hout⟩

theorem Bounded.outstanding_free {pool : IdPool} (hbounded : pool.Bounded) (id other : Int) :
    (pool.free id).Outstanding other ↔ pool.Outstanding other ∧ other ≠ id := by
  rw [outstanding_free_iff]
  refine and_congr_right fun hout => ⟨?_, fun hne heq => hne heq.1⟩
  rintro hnot rfl
  exact hnot ⟨rfl, hbounded.outstanding_inRange hout⟩

/-! ## Pools that only allocate and free -/

/-- A pool that another one becomes by allocations, exhausted ones included, and by giving values
back. -/
inductive Reaches (pool : IdPool) : IdPool → Prop
  | refl : Reaches pool pool
  | allocate {next : IdPool} : Reaches pool next → Reaches pool next.allocate.2
  | free {next : IdPool} (id : Int) : Reaches pool next → Reaches pool (next.free id)

theorem Reaches.trans {first second third : IdPool} (hfirst : first.Reaches second)
    (hsecond : second.Reaches third) : first.Reaches third := by
  induction hsecond with
  | refl => exact hfirst
  | allocate _ ih => exact ih.allocate
  | free id _ ih => exact ih.free id

/-- An optional value is given back. -/
theorem Reaches.surrender {pool next : IdPool} (hreaches : pool.Reaches next) (id : Option Int) :
    pool.Reaches (id.elim next next.free) := by
  cases id with
  | none => exact hreaches
  | some id => exact hreaches.free id

theorem Reaches.min_eq {pool next : IdPool} (hreaches : pool.Reaches next) :
    next.min = pool.min := by
  induction hreaches with
  | refl => rfl
  | allocate _ ih => rw [min_allocate, ih]
  | free id _ ih => rw [min_free, ih]

theorem Reaches.max_eq {pool next : IdPool} (hreaches : pool.Reaches next) :
    next.max = pool.max := by
  induction hreaches with
  | refl => rfl
  | allocate _ ih => rw [max_allocate, ih]
  | free id _ ih => rw [max_free, ih]

theorem Reaches.valid {pool next : IdPool} (hreaches : pool.Reaches next) (hvalid : pool.Valid) :
    next.Valid := by
  induction hreaches with
  | refl => exact hvalid
  | @allocate next _ ih =>
      cases halloc : next.allocate with
      | mk value rest =>
          cases value with
          | none => exact allocate_none halloc ▸ ih
          | some id => exact ih.allocate halloc
  | free id _ ih => exact ih.free id

theorem Reaches.bounded {pool next : IdPool} (hreaches : pool.Reaches next)
    (hbounded : pool.Bounded) : next.Bounded where
  toValid := hreaches.valid hbounded.toValid
  max_lt := hreaches.max_eq ▸ hbounded.max_lt

/-! ## When a pool stays as it is -/

theorem free_eq_self_iff (pool : IdPool) (id : Int) :
    pool.free id = pool ↔ ¬ (pool.InRange id ∧ pool.Outstanding id) := by
  unfold IdPool.free
  split
  next hfree =>
    simp only [hfree, and_self, not_true_eq_false, iff_false]
    intro heq
    have hwaiting := congrArg IdPool.waiting heq
    simp at hwaiting
  next hfree => simp [hfree]

theorem allocate_eq_self_iff (pool : IdPool) :
    pool.allocate.2 = pool ↔ pool.allocate.1 = none := by
  cases halloc : pool.allocate with
  | mk allocated next =>
      cases allocated with
      | none => simp [allocate_none halloc]
      | some id =>
          simp only [reduceCtorEq, iff_false]
          intro heq
          rcases allocate_cases halloc with ⟨rest, hwaiting, hnext⟩ | ⟨-, hid, -, -, hnext⟩
          · rw [heq] at hnext
            have hrest := congrArg IdPool.waiting hnext
            rw [hwaiting] at hrest
            simp at hrest
          · rw [heq] at hnext
            have hcursor : pool.cursor = successor id := congrArg IdPool.cursor hnext
            exact successor_ne id (hcursor.symm.trans hid)

/-- Giving a value back undoes an allocation exactly if it is the value allocated and was the only
one waiting. -/
theorem free_allocate_eq_iff {pool next : IdPool} {id : Int}
    (halloc : pool.allocate = (some id, next)) (other : Int) :
    next.free other = pool ↔
      other = id ∧ pool.waiting = [id] ∧ pool.InRange id ∧ pool.Passed id := by
  rcases allocate_cases halloc with ⟨rest, hwaiting, hnext⟩ | ⟨hwaiting, hid, -, -, hnext⟩
  · have hsame (value : Int) : next.Passed value ↔ pool.Passed value := by
      rw [hnext]
      rfl
    constructor
    · intro heq
      by_cases hfree : next.InRange other ∧ next.Outstanding other
      · rw [free_outstanding hfree.1 hfree.2] at heq
        obtain ⟨hrange, hpassed, hfresh⟩ := hfree
        have hlists : rest ++ [other] = id :: rest := by
          rw [← hwaiting, ← congrArg IdPool.waiting heq, hnext]
        cases rest with
        | nil =>
            have hid : other = id := by simpa using hlists
            subst hid hnext
            exact ⟨rfl, hwaiting, hrange, hpassed⟩
        | cons head tail =>
            rw [List.cons_append, List.cons.injEq] at hlists
            have hmem : other ∈ head :: tail :=
              hlists.2 ▸ List.mem_append_right tail (List.mem_singleton_self other)
            rw [hnext] at hfresh
            exact absurd hmem hfresh
      · rw [(next.free_eq_self_iff other).mpr hfree, hnext] at heq
        have hrest := congrArg IdPool.waiting heq
        rw [hwaiting] at hrest
        simp at hrest
    · rintro ⟨rfl, hsingle, hrange, hpassed⟩
      rw [hwaiting, List.cons.injEq] at hsingle
      obtain ⟨-, rfl⟩ := hsingle
      have hout : next.Outstanding other := by
        refine ⟨(hsame other).mpr hpassed, ?_⟩
        rw [hnext]
        exact List.not_mem_nil
      rw [free_outstanding (hnext ▸ hrange) hout, hnext]
      dsimp only
      rw [List.nil_append, ← hwaiting]
  · rw [hwaiting]
    simp only [List.nil_eq, reduceCtorEq, false_and, and_false, iff_false]
    intro heq
    have hcursor := next.cursor_free other
    rw [heq, hnext] at hcursor
    exact successor_ne id (hcursor.symm.trans hid)

end IdPool

/-! ## Signed values and identifiers -/

namespace NgapId

def Unsigned (id : Nat) : Prop :=
  id < 18446744073709551616

/-- The values a signed 64-bit integer can hold. -/
def Signed (value : Int) : Prop :=
  -9223372036854775808 ≤ value ∧ value ≤ 9223372036854775807

/-- Over a range of signed words of 64 bits only such words are issued. -/
theorem signed_of_allocate {pool next : IdPool} {id : Int} (hvalid : pool.Valid)
    (hmin : Signed pool.min) (hmax : Signed pool.max)
    (halloc : pool.allocate = (some id, next)) : Signed id := by
  have hcursor := hvalid.cursor_range
  rcases IdPool.allocate_cases halloc with ⟨rest, hwaiting, -⟩ | ⟨-, hid, hle, -⟩
  · obtain ⟨hlow, hpassed⟩ := hvalid.waiting_issued id (by simp [hwaiting])
    obtain ⟨-, hhigh⟩ := hvalid.passed_inRange hlow hpassed
    exact ⟨Int.le_trans hmin.1 hlow, Int.le_trans hhigh hmax.2⟩
  · unfold Signed at *
    omega

theorem unsigned_ofSigned (value : Int) : Unsigned (ofSigned value) := by
  unfold Unsigned ofSigned
  omega

theorem toSigned_ofSigned {value : Int} (hvalue : Signed value) :
    toSigned (ofSigned value) = value := by
  obtain ⟨hlow, hhigh⟩ := hvalue
  unfold toSigned ofSigned
  rw [Int.bmod_def]
  split <;> omega

theorem toSigned_injective {left right : Nat} (hleft : Unsigned left) (hright : Unsigned right)
    (heq : toSigned left = toSigned right) : left = right := by
  unfold Unsigned at hleft hright
  unfold toSigned at heq
  rw [Int.bmod_def, Int.bmod_def] at heq
  split at heq <;> split at heq <;> omega

end NgapId

end AccessMobility
