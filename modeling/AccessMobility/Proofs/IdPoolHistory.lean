import AccessMobility.Proofs.IdPoolOutstanding
import Mathlib.Data.Int.Interval

/-!
# Identifier pools over whole histories

A value is held once an allocation has returned it and until it is given back.  This is a matter of
the history of calls, of which a pool remembers a cursor and a queue.  Over any range that ends
before the greatest word of 64 bits, inverted ones included, and after any history, in which values
may be given back that were never issued or that were given back before, the two say the same: the
outstanding values are the values held, each of them once, and an allocation finds a value exactly
as long as one is left.

A pool may as well keep a record of the values held and pass over a waiting value that is on it.
The last section shows that no waiting value ever is, so that the record changes no answer.  Over a
range that ends later this is so as long as the record has room.
-/

namespace AccessMobility

namespace IdPool

inductive Call where
  | allocate
  | free (id : Int)

def perform (pool : IdPool) : Call → IdPool
  | .allocate => pool.allocate.2
  | .free id => pool.free id

def after (pool : IdPool) (history : List Call) : IdPool :=
  history.foldl perform pool

/-- An allocation of the history returned the value, and it was not given back since. -/
def Held (pool : IdPool) (history : List Call) (id : Int) : Prop :=
  ∃ earlier later, history = earlier ++ .allocate :: later ∧
    (pool.after earlier).allocate.1 = some id ∧ .free id ∉ later

theorem after_concat (pool : IdPool) (history : List Call) (call : Call) :
    pool.after (history ++ [call]) = (pool.after history).perform call := by
  rw [after, List.foldl_append, List.foldl_cons, List.foldl_nil, after]

theorem reaches_after (pool : IdPool) (history : List Call) :
    pool.Reaches (pool.after history) := by
  induction history using List.reverseRecOn with
  | nil => exact .refl
  | append_singleton history call ih =>
      rw [after_concat]
      cases call with
      | allocate => exact ih.allocate
      | free id => exact ih.free id

theorem valid_after_new (min max : Int) (history : List Call) :
    ((new min max).after history).Valid :=
  ((new min max).reaches_after history).valid (valid_new min max)

theorem bounded_after_new (min : Int) {max : Int} (hmax : max < 9223372036854775807)
    (history : List Call) : ((new min max).after history).Bounded :=
  ((new min max).reaches_after history).bounded (bounded_new min hmax)

/-! ## What a call does to the values held -/

theorem held_concat (pool : IdPool) (history : List Call) (call : Call) (id : Int) :
    pool.Held (history ++ [call]) id ↔
      (pool.Held history id ∧ call ≠ .free id) ∨
        (call = .allocate ∧ (pool.after history).allocate.1 = some id) := by
  constructor
  · rintro ⟨earlier, later, hsplit, hissued, hkept⟩
    rcases List.eq_nil_or_concat' later with hlast | ⟨before, last, hlast⟩
    · subst hlast
      obtain ⟨hearlier, hcall⟩ := List.append_inj' hsplit rfl
      rw [List.singleton_inj] at hcall
      exact Or.inr ⟨hcall, hearlier ▸ hissued⟩
    · subst hlast
      rw [← List.cons_append, ← List.append_assoc] at hsplit
      obtain ⟨hbefore, hcall⟩ := List.append_inj' hsplit rfl
      rw [List.singleton_inj] at hcall
      subst hcall
      rw [List.mem_append, List.mem_singleton, not_or] at hkept
      exact Or.inl ⟨⟨earlier, before, hbefore, hissued, hkept.1⟩, Ne.symm hkept.2⟩
  · rintro (⟨⟨earlier, later, hsplit, hissued, hkept⟩, hne⟩ | ⟨hcall, hissued⟩)
    · refine ⟨earlier, later ++ [call], by simp [hsplit], hissued, ?_⟩
      rw [List.mem_append, List.mem_singleton, not_or]
      exact ⟨hkept, Ne.symm hne⟩
    · subst hcall
      exact ⟨history, [], rfl, hissued, List.not_mem_nil⟩

theorem Valid.outstanding_perform_allocate {pool : IdPool} (hvalid : pool.Valid) (id : Int) :
    (pool.perform .allocate).Outstanding id ↔
      pool.Outstanding id ∨ pool.allocate.1 = some id := by
  cases halloc : pool.allocate with
  | mk answer next =>
      have hnext : pool.perform .allocate = next := congrArg Prod.snd halloc
      rw [hnext]
      cases answer with
      | none => simp [allocate_none halloc]
      | some issued =>
          rw [hvalid.outstanding_allocate halloc, Option.some.injEq, eq_comm (a := id)]

/-- What the pool computes from its cursor and its queue is what its history says. -/
theorem outstanding_after_new_iff (min : Int) {max : Int} (hmax : max < 9223372036854775807)
    (history : List Call) (id : Int) :
    ((new min max).after history).Outstanding id ↔ (new min max).Held history id := by
  induction history using List.reverseRecOn with
  | nil =>
      refine iff_of_false (not_outstanding_new min max id) ?_
      rintro ⟨earlier, later, hsplit, -⟩
      simp at hsplit
  | append_singleton history call ih =>
      have hbounded := bounded_after_new min hmax history
      rw [after_concat]
      cases call with
      | allocate =>
          rw [hbounded.toValid.outstanding_perform_allocate, held_concat, ih]
          simp
      | free freed =>
          have hfreed : (((new min max).after history).free freed).Outstanding id ↔ _ :=
            hbounded.outstanding_free freed id
          rw [perform, hfreed, held_concat, ih]
          simp [eq_comm]

/-! ## How many values are outstanding, and when none is left -/

theorem allocate_eq_none_iff (pool : IdPool) :
    pool.allocate.1 = none ↔ pool.waiting = [] ∧ ¬ (pool.cursor ≤ pool.max ∧ pool.CanMove) := by
  unfold allocate
  cases pool.waiting with
  | nil =>
      by_cases hgoes : pool.cursor ≤ pool.max ∧ pool.CanMove
      · simp [hgoes]
      · simp [hgoes]
  | cons id rest => simp

/-- Over words of 64 bits that are not negative, an allocation finds a value as long as one of the
range is left. -/
theorem Valid.outstanding_of_allocate_none {pool : IdPool} (hvalid : pool.Valid)
    (hmin : 0 ≤ pool.min) (hmax : pool.max ≤ 9223372036854775807)
    (hnone : pool.allocate.1 = none) {id : Int} (hrange : pool.InRange id) :
    pool.Outstanding id := by
  obtain ⟨hwaiting, hstuck⟩ := (allocate_eq_none_iff pool).mp hnone
  have hcursor := hvalid.cursor_range
  have hnext := successor_cases pool.cursor
  have hpassed : pool.Passed id := by
    unfold CanMove at hstuck
    unfold InRange at hrange
    unfold Passed
    omega
  refine ⟨hpassed, ?_⟩
  rw [hwaiting]
  exact List.not_mem_nil

section

variable {pool : IdPool} (hbounded : pool.Bounded)

include hbounded

/-- The values outstanding are those below the cursor that do not wait. -/
theorem Bounded.card_outstanding {ids : Finset Int}
    (hids : ∀ id, id ∈ ids ↔ pool.Outstanding id) : ids.card = pool.outstandingCount := by
  have hsplit : ids = Finset.Ico pool.min pool.cursor \ pool.waiting.toFinset := by
    ext id
    rw [hids]
    simp [Outstanding, hbounded.passed_iff]
  have hsubset : pool.waiting.toFinset ⊆ Finset.Ico pool.min pool.cursor := by
    intro id hmem
    rw [Finset.mem_Ico, ← hbounded.passed_iff]
    exact (hbounded.waiting_issued id (List.mem_toFinset.mp hmem)).2
  rw [hsplit, Finset.card_sdiff_of_subset hsubset, Int.card_Ico,
    List.toFinset_card_of_nodup hbounded.waiting_nodup, outstandingCount, passedCount,
    if_pos hbounded.min_le_cursor]

theorem Bounded.canMove (hle : pool.cursor ≤ pool.max) : pool.CanMove := by
  have hmin := hbounded.min_le_cursor
  have hmax := hbounded.max_lt
  have hnext := successor_cases pool.cursor
  unfold CanMove
  omega

theorem Bounded.exhausted_iff :
    pool.allocate.1 = none ↔ ∀ id, pool.InRange id → pool.Outstanding id := by
  constructor
  · intro hnone id hrange
    obtain ⟨hwaiting, hstuck⟩ := (allocate_eq_none_iff pool).mp hnone
    have hcursor : pool.max < pool.cursor :=
      Int.not_le.mp fun hle => hstuck ⟨hle, hbounded.canMove hle⟩
    refine ⟨(hbounded.passed_iff id).mpr ⟨hrange.1, Int.lt_of_le_of_lt hrange.2 hcursor⟩, ?_⟩
    rw [hwaiting]
    exact List.not_mem_nil
  · intro hall
    cases halloc : pool.allocate with
    | mk answer next =>
        cases answer with
        | none => rfl
        | some id =>
            exact absurd (hall id (hbounded.allocate_inRange halloc)) (allocate_fresh halloc)

theorem Bounded.free_eq_self_iff (id : Int) : pool.free id = pool ↔ ¬ pool.Outstanding id := by
  rw [IdPool.free_eq_self_iff, not_iff_not]
  exact ⟨And.right, fun hout => ⟨hbounded.outstanding_inRange hout, hout⟩⟩

/-- An exhausted pool stays as it is until a value that is outstanding is given back. -/
theorem Bounded.after_exhausted (hnone : pool.allocate.1 = none) {more : List Call}
    (hfreed : ∀ id, .free id ∈ more → ¬ pool.Outstanding id) : pool.after more = pool := by
  induction more with
  | nil => rfl
  | cons call rest ih =>
      have hsame : pool.perform call = pool := by
        cases call with
        | allocate => exact (allocate_eq_self_iff pool).mpr hnone
        | free id => exact (hbounded.free_eq_self_iff id).mpr (hfreed id List.mem_cons_self)
      show (pool.perform call).after rest = pool
      rw [hsame]
      exact ih fun id hmem => hfreed id (List.mem_cons_of_mem _ hmem)

theorem Bounded.allocate_freed (hnone : pool.allocate.1 = none) {id : Int}
    (hout : pool.Outstanding id) : (pool.free id).allocate.1 = some id := by
  have hwaiting := ((allocate_eq_none_iff pool).mp hnone).1
  rw [free_outstanding (hbounded.outstanding_inRange hout) hout, hwaiting]
  rfl

end

/-! ## Room for a record -/

theorem Valid.passedCount_perform_le {pool : IdPool} (hvalid : pool.Valid) (call : Call) :
    (pool.perform call).passedCount ≤ pool.passedCount + 1 := by
  cases call with
  | free id =>
      rw [perform, passedCount, cursor_free, min_free, ← passedCount]
      exact Nat.le_succ _
  | allocate =>
      cases halloc : pool.allocate with
      | mk answer next =>
          have hnext : pool.perform .allocate = next := congrArg Prod.snd halloc
          rw [hnext]
          cases answer with
          | none =>
              rw [allocate_none halloc]
              exact Nat.le_succ _
          | some id =>
              rcases allocate_cases halloc with ⟨rest, -, rfl⟩ | ⟨-, rfl, -, hmove, rfl⟩
              · exact Nat.le_succ _
              · have hcursor := hvalid.cursor_range
                have hnext := successor_cases pool.cursor
                unfold CanMove at hmove
                unfold passedCount
                dsimp only
                split <;> split <;> omega

/-- Over a range of words of 64 bits the cursor can move on until more values were issued than any
record of them has room for. -/
theorem canMove_after_new {min max : Int} (hmin : -9223372036854775808 ≤ min)
    {history : List Call} (hlength : history.length < 9223372036854775807) :
    ((new min max).after history).CanMove := by
  have hcount : ((new min max).after history).passedCount ≤ history.length := by
    clear hlength
    induction history using List.reverseRecOn with
    | nil =>
        rw [after, List.foldl_nil, passedCount, new, if_pos (Int.le_refl _), Int.sub_self]
        exact Nat.le_refl 0
    | append_singleton history call ih =>
        rw [after_concat, List.length_append]
        exact Nat.le_trans ((valid_after_new min max history).passedCount_perform_le call)
          (Nat.succ_le_succ ih)
  have hcursor := (valid_after_new min max history).cursor_range
  have hnext := successor_cases ((new min max).after history).cursor
  have hlow : ((new min max).after history).min = min :=
    ((new min max).reaches_after history).min_eq
  unfold passedCount at hcount
  unfold CanMove
  split at hcount <;> omega

end IdPool

/-! ## A pool with a record of the values held -/

structure RecordedPool where
  min : Int
  max : Int
  cursor : Int
  waiting : List Int
  used : Finset Int

namespace RecordedPool

def new (min max : Int) : RecordedPool :=
  { min, max, cursor := min, waiting := [], used := ∅ }

/-- Issue a value.  Waiting values that are on record are dropped, and the cursor wraps around. -/
def allocate (pool : RecordedPool) : Option Int × RecordedPool :=
  match pool.waiting.dropWhile (· ∈ pool.used) with
  | id :: waiting => (some id, { pool with waiting, used := insert id pool.used })
  | [] =>
    if pool.cursor ≤ pool.max then
      (some pool.cursor,
        { pool with
          cursor := IdPool.successor pool.cursor
          waiting := []
          used := insert pool.cursor pool.used })
    else
      (none, { pool with waiting := [] })

/-- Give a value back, where it lies in the range and is on record. -/
def free (pool : RecordedPool) (id : Int) : RecordedPool :=
  if id < pool.min ∨ pool.max < id then pool
  else if id ∈ pool.used then
    { pool with waiting := pool.waiting ++ [id], used := pool.used.erase id }
  else
    pool

def perform (pool : RecordedPool) : IdPool.Call → RecordedPool
  | .allocate => pool.allocate.2
  | .free id => pool.free id

def after (pool : RecordedPool) (history : List IdPool.Call) : RecordedPool :=
  history.foldl perform pool

/-- The same cursor and queue, and on record is what they say is outstanding. -/
structure Records (recorded : RecordedPool) (pool : IdPool) : Prop where
  min : recorded.min = pool.min
  max : recorded.max = pool.max
  cursor : recorded.cursor = pool.cursor
  waiting : recorded.waiting = pool.waiting
  used : ∀ id, id ∈ recorded.used ↔ pool.Outstanding id

theorem records_new (min max : Int) : (new min max).Records (.new min max) where
  min := rfl
  max := rfl
  cursor := rfl
  waiting := rfl
  used id := by
    simp only [new, Finset.notMem_empty, false_iff]
    exact IdPool.not_outstanding_new min max id

section

variable {recorded : RecordedPool} {pool : IdPool} (hrecords : recorded.Records pool)

include hrecords

/-- What waits is not outstanding, so nothing is ever passed over. -/
theorem Records.dropWhile_waiting :
    recorded.waiting.dropWhile (· ∈ recorded.used) = pool.waiting := by
  rw [hrecords.waiting]
  cases hwaiting : pool.waiting with
  | nil => rfl
  | cons id rest =>
      have hfree : id ∉ recorded.used := by
        rw [hrecords.used]
        intro hout
        exact hout.2 (by simp [hwaiting])
      rw [List.dropWhile_cons_of_neg]
      simpa using hfree

theorem Records.allocate (hvalid : pool.Valid)
    (hmove : pool.cursor ≤ pool.max → pool.CanMove) :
    recorded.allocate.1 = pool.allocate.1 ∧ recorded.allocate.2.Records pool.allocate.2 := by
  have hdrop := hrecords.dropWhile_waiting
  cases hwaiting : pool.waiting with
  | cons id rest =>
      rw [hwaiting] at hdrop
      have hpool : pool.allocate = (some id, { pool with waiting := rest }) := by
        rw [IdPool.allocate, hwaiting]
      have hrecorded : recorded.allocate =
          (some id, { recorded with waiting := rest, used := insert id recorded.used }) := by
        rw [RecordedPool.allocate, hdrop]
      rw [hpool, hrecorded]
      refine ⟨rfl, hrecords.min, hrecords.max, hrecords.cursor, rfl, ?_⟩
      intro other
      rw [Finset.mem_insert, hrecords.used, hvalid.outstanding_allocate hpool, or_comm]
  | nil =>
      rw [hwaiting] at hdrop
      unfold RecordedPool.allocate
      rw [hdrop, hrecords.cursor, hrecords.max]
      by_cases hle : pool.cursor ≤ pool.max
      · have hpool : pool.allocate =
            (some pool.cursor, { pool with cursor := IdPool.successor pool.cursor }) := by
          simp only [IdPool.allocate, hwaiting, hle, hmove hle, and_self, if_true]
        rw [hpool, if_pos hle]
        refine ⟨rfl, hrecords.min, rfl, rfl, hwaiting.symm, ?_⟩
        intro other
        rw [Finset.mem_insert, hrecords.used, hvalid.outstanding_allocate hpool, or_comm]
      · have hpool : pool.allocate = (none, pool) := by
          simp only [IdPool.allocate, hwaiting, hle, false_and, if_false]
        rw [hpool, if_neg hle]
        exact ⟨rfl, hrecords.min, rfl, rfl, hwaiting.symm, hrecords.used⟩

theorem Records.free (id : Int) : (recorded.free id).Records (pool.free id) := by
  have hinside : ¬ (id < recorded.min ∨ recorded.max < id) ↔ pool.InRange id := by
    rw [hrecords.min, hrecords.max, not_or, Int.not_lt, Int.not_lt, IdPool.InRange]
  unfold RecordedPool.free
  by_cases hfree : pool.InRange id ∧ pool.Outstanding id
  · have hfreed := pool.outstanding_free_iff id
    rw [IdPool.free_outstanding hfree.1 hfree.2] at hfreed ⊢
    rw [if_neg (hinside.mpr hfree.1), if_pos ((hrecords.used id).mpr hfree.2)]
    refine ⟨hrecords.min, hrecords.max, hrecords.cursor, ?_, ?_⟩
    · exact congrArg (· ++ [id]) hrecords.waiting
    · intro other
      rw [Finset.mem_erase, hrecords.used, hfreed, and_iff_left hfree.1, and_comm]
  · rw [(pool.free_eq_self_iff id).mpr hfree]
    split
    next => exact hrecords
    next hrange =>
      rw [if_neg]
      · exact hrecords
      · intro hmem
        exact hfree ⟨hinside.mp hrange, (hrecords.used id).mp hmem⟩

end

theorem records_after_new {min max : Int} {history : List IdPool.Call}
    (hmove : ∀ earlier, earlier <+: history →
      let pool := (IdPool.new min max).after earlier
      pool.cursor ≤ pool.max → pool.CanMove) :
    ((new min max).after history).Records ((IdPool.new min max).after history) := by
  induction history using List.reverseRecOn with
  | nil => exact records_new min max
  | append_singleton history call ih =>
      have hrecords := ih fun earlier hearlier =>
        hmove earlier (hearlier.trans (List.prefix_append _ _))
      rw [IdPool.after_concat, after, List.foldl_append]
      cases call with
      | allocate =>
          have hvalid := IdPool.valid_after_new min max history
          exact (hrecords.allocate hvalid (hmove history (List.prefix_append _ _))).2
      | free id => exact hrecords.free id

/-- Over any range of words of 64 bits the record changes no answer as long as there is room for
it. -/
theorem allocate_after_new_eq {min : Int} (hmin : -9223372036854775808 ≤ min) (max : Int)
    {history : List IdPool.Call} (hlength : history.length < 9223372036854775807) :
    ((new min max).after history).allocate.1 = ((IdPool.new min max).after history).allocate.1 := by
  have hmove {earlier : List IdPool.Call} (hearlier : earlier <+: history) :
      ((IdPool.new min max).after earlier).CanMove :=
    IdPool.canMove_after_new hmin (Nat.lt_of_le_of_lt hearlier.length_le hlength)
  have hrecords := records_after_new fun earlier hearlier _ => hmove hearlier
  exact (hrecords.allocate (IdPool.valid_after_new min max history)
    fun _ => hmove (List.prefix_refl _)).1

end RecordedPool

namespace IdPool

/-- An allocation returns a value of the range that is not held, and finds none exactly if every
value of the range is held; giving a value back changes nothing unless it is held; and a pool that
keeps a record of the values held answers alike. -/
theorem after_new_exact (min : Int) {max : Int} (hmax : max < 9223372036854775807)
    (history : List Call) :
    let pool := (new min max).after history
    let held := (new min max).Held history
    let recorded := (RecordedPool.new min max).after history
    (∀ id, pool.allocate.1 = some id → (min ≤ id ∧ id ≤ max) ∧ ¬ held id) ∧
    (pool.allocate.1 = none ↔ ∀ id, min ≤ id ∧ id ≤ max → held id) ∧
    (pool.allocate.1 = none →
      (∀ more : List Call, (∀ id, .free id ∈ more → ¬ held id) →
        ((new min max).after (history ++ more)).allocate.1 = none) ∧
      ∀ id, held id → ((new min max).after (history ++ [.free id])).allocate.1 = some id) ∧
    (∀ id, pool.Outstanding id ↔ held id) ∧
    (∃ ids : Finset Int, (∀ id, id ∈ ids ↔ held id) ∧ pool.outstandingCount = ids.card) ∧
    (∀ id, held id → min ≤ id ∧ id ≤ max) ∧
    (∀ id, pool.free id = pool ↔ ¬ held id) ∧
    recorded.allocate.1 = pool.allocate.1 ∧ (∀ id, id ∈ recorded.used ↔ held id) ∧
    recorded.used.card = pool.outstandingCount := by
  intro pool held recorded
  have hbounded : pool.Bounded := bounded_after_new min hmax history
  have hheld (id : Int) : pool.Outstanding id ↔ held id :=
    outstanding_after_new_iff min hmax history id
  have hrange (id : Int) : pool.InRange id ↔ min ≤ id ∧ id ≤ max := by
    have hreaches := (new min max).reaches_after history
    show pool.min ≤ id ∧ id ≤ pool.max ↔ _
    rw [hreaches.min_eq, hreaches.max_eq]
    rfl
  have hrecords : recorded.Records pool :=
    RecordedPool.records_after_new fun earlier _ => (bounded_after_new min hmax earlier).canMove
  have hrecord (id : Int) : id ∈ recorded.used ↔ held id := (hrecords.used id).trans (hheld id)
  have hcard : recorded.used.card = pool.outstandingCount :=
    hbounded.card_outstanding hrecords.used
  refine ⟨?_, ?_, ?_, hheld, ⟨recorded.used, hrecord, hcard.symm⟩, ?_, ?_,
    (hrecords.allocate hbounded.toValid hbounded.canMove).1, hrecord, hcard⟩
  · intro id hissued
    have halloc : pool.allocate = (some id, pool.allocate.2) := Prod.ext hissued rfl
    rw [← hrange, ← hheld]
    exact ⟨hbounded.allocate_inRange halloc, allocate_fresh halloc⟩
  · rw [hbounded.exhausted_iff]
    simp only [hrange, hheld]
  · intro hnone
    constructor
    · intro more hfreed
      rw [after, List.foldl_append]
      have hsame : pool.after more = pool :=
        hbounded.after_exhausted hnone fun id hmem hout => hfreed id hmem ((hheld id).mp hout)
      exact (congrArg (·.allocate.1) hsame).trans hnone
    · intro id hmem
      rw [after_concat]
      exact hbounded.allocate_freed hnone ((hheld id).mpr hmem)
  · intro id hmem
    rw [← hrange]
    exact hbounded.outstanding_inRange ((hheld id).mpr hmem)
  · intro id
    rw [hbounded.free_eq_self_iff, hheld]

/-- Both values of a range are held again after a foreign value and one of them twice were given
back; the pool is exhausted, and issues the value that is given back next. -/
theorem after_new_exact_exhausted :
    let history : List Call := [.allocate, .allocate, .free 7, .free 1, .free 1, .allocate]
    ((new 1 2).after history).allocate.1 = none ∧ (new 1 2).Held history 1 ∧
      ((new 1 2).after (history ++ [.free 2])).allocate.1 = some 2 := by
  intro history
  have hmax : (2 : Int) < 9223372036854775807 := by decide
  obtain ⟨-, hexhausted, hfreed, -⟩ := after_new_exact 1 hmax history
  have hnone : ((new 1 2).after history).allocate.1 = none := by decide
  have hheld := hexhausted.mp hnone
  exact ⟨hnone, hheld 1 (by decide), (hfreed hnone).2 2 (hheld 2 (by decide))⟩

end IdPool

end AccessMobility
