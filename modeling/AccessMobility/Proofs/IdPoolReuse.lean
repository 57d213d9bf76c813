import AccessMobility.Proofs.IdPoolHistory

/-!
# Values given back are issued again in order

A value that is given back waits behind the values given back before it.  Every allocation takes the
value in front, and giving values back only adds to the end of the queue, if it changes it at all.
So the number of allocations that a value has to wait for is known when it is given back, whatever
else is given back meanwhile, be it the value itself once more or a value of another pool.

Values that were never issued come out only while nothing waits.  They come out in ascending order
from the lower bound, without gaps: the values issued so far are those the cursor has moved over.
-/

namespace AccessMobility

namespace IdPool

/-- The number of allocations in a history. -/
def allocations : List Call → Nat
  | [] => 0
  | .allocate :: rest => allocations rest + 1
  | .free _ :: rest => allocations rest

/-- An allocation of the history returned the value. -/
def Issued (pool : IdPool) (history : List Call) (id : Int) : Prop :=
  ∃ earlier later, history = earlier ++ .allocate :: later ∧
    (pool.after earlier).allocate.1 = some id

/-! ## The queue -/

theorem allocate_of_waiting {pool : IdPool} {id : Int} {rest : List Int}
    (hwaiting : pool.waiting = id :: rest) :
    pool.allocate = (some id, { pool with waiting := rest }) := by
  rw [allocate, hwaiting]

/-- Giving a value back adds to the end of the queue or leaves it alone. -/
theorem waiting_prefix_free (pool : IdPool) (id : Int) :
    pool.waiting <+: (pool.free id).waiting := by
  unfold IdPool.free
  split
  · exact List.prefix_append _ _
  · exact List.prefix_refl _

/-- What waited is still there in its order, less one value for each allocation. -/
theorem waiting_after (pool : IdPool) (more : List Call) :
    pool.waiting.drop (allocations more) <+: (pool.after more).waiting := by
  induction more generalizing pool with
  | nil => exact List.prefix_refl _
  | cons call rest ih =>
      show _ <+: ((pool.perform call).after rest).waiting
      cases call with
      | free id =>
          show pool.waiting.drop (allocations rest) <+: _
          exact ((pool.waiting_prefix_free id).drop _).trans (ih (pool.free id))
      | allocate =>
          show pool.waiting.drop (allocations rest + 1) <+: _
          cases hwaiting : pool.waiting with
          | nil => exact List.nil_prefix
          | cons head tail =>
              have htail : (pool.perform .allocate).waiting = tail :=
                congrArg (·.2.waiting) (allocate_of_waiting hwaiting)
              rw [List.drop_succ_cons, ← htail]
              exact ih (pool.perform .allocate)

/-- The value at a place of the queue is issued by the allocation after as many others. -/
theorem allocate_after {pool : IdPool} {more : List Call} {id : Int}
    (hplace : pool.waiting[allocations more]? = some id) :
    (pool.after more).allocate.1 = some id := by
  obtain ⟨hlt, hid⟩ := List.getElem?_eq_some_iff.mp hplace
  obtain ⟨others, hqueue⟩ := pool.waiting_after more
  rw [List.drop_eq_getElem_cons hlt, hid, List.cons_append] at hqueue
  rw [allocate_of_waiting hqueue.symm]

/-- A value that is given back is issued by the allocation after as many others as values waited,
and by none before. -/
theorem allocate_after_free {pool : IdPool} {id : Int} (hrange : pool.InRange id)
    (hout : pool.Outstanding id) {more : List Call}
    (hcount : allocations more ≤ pool.waiting.length) :
    ∃ answer, ((pool.free id).after more).allocate.1 = some answer ∧
      (pool.waiting ++ [id])[allocations more]? = some answer ∧
      (answer = id ↔ allocations more = pool.waiting.length) := by
  rcases Nat.lt_or_eq_of_le hcount with hbefore | hturn
  · have hplace : (pool.waiting ++ [id])[allocations more]? =
        some pool.waiting[allocations more] := by
      rw [List.getElem?_append_left hbefore, List.getElem?_eq_getElem hbefore]
    refine ⟨_, allocate_after (by rw [free_outstanding hrange hout, hplace]), hplace, ?_⟩
    refine iff_of_false ?_ (Nat.ne_of_lt hbefore)
    intro hsame
    exact hout.2 (hsame ▸ List.getElem_mem hbefore)
  · have hplace : (pool.waiting ++ [id])[allocations more]? = some id := by
      rw [hturn, List.getElem?_append_right (Nat.le_refl _), Nat.sub_self]
      rfl
    exact ⟨id, allocate_after (by rw [free_outstanding hrange hout, hplace]), hplace,
      iff_of_true rfl hturn⟩

/-! ## The values issued so far -/

theorem issued_concat (pool : IdPool) (history : List Call) (call : Call) (id : Int) :
    pool.Issued (history ++ [call]) id ↔
      pool.Issued history id ∨ (call = .allocate ∧ (pool.after history).allocate.1 = some id) := by
  constructor
  · rintro ⟨earlier, later, hsplit, hissued⟩
    rcases List.eq_nil_or_concat' later with rfl | ⟨before, last, rfl⟩
    · obtain ⟨rfl, hcall⟩ := List.append_inj' hsplit rfl
      exact Or.inr ⟨List.singleton_inj.mp hcall, hissued⟩
    · rw [← List.cons_append, ← List.append_assoc] at hsplit
      obtain ⟨hbefore, -⟩ := List.append_inj' hsplit rfl
      exact Or.inl ⟨earlier, before, hbefore, hissued⟩
  · rintro (⟨earlier, later, rfl, hissued⟩ | ⟨rfl, hissued⟩)
    · exact ⟨earlier, later ++ [call], by simp, hissued⟩
    · exact ⟨history, [], rfl, hissued⟩

/-- An allocation moves the cursor over the value that it returns, if that was not done before. -/
theorem Valid.passed_perform_allocate {pool : IdPool} (hvalid : pool.Valid) (id : Int) :
    (pool.perform .allocate).Passed id ↔ pool.Passed id ∨ pool.allocate.1 = some id := by
  cases halloc : pool.allocate with
  | mk answer next =>
      have hnext : pool.perform .allocate = next := congrArg Prod.snd halloc
      rw [hnext]
      cases answer with
      | none => simp [allocate_none halloc]
      | some issued => rw [hvalid.passed_allocate halloc, Option.some.injEq, eq_comm (a := id)]

/-- The values issued so far are those that the cursor has moved over. -/
theorem issued_after_new_iff (min max : Int) (history : List Call) (id : Int) :
    (new min max).Issued history id ↔ ((new min max).after history).Passed id := by
  induction history using List.reverseRecOn with
  | nil =>
      refine iff_of_false ?_ (not_passed_new min max id)
      rintro ⟨earlier, later, hsplit, -⟩
      simp at hsplit
  | append_singleton history call ih =>
      rw [issued_concat, after_concat, ih]
      cases call with
      | allocate =>
          rw [(valid_after_new min max history).passed_perform_allocate]
          simp
      | free freed =>
          rw [perform, passed_free]
          simp

/-- The queue holds the values that were issued and are not held any more, each of them once. -/
theorem mem_waiting_after_new_iff (min : Int) {max : Int} (hmax : max < 9223372036854775807)
    (history : List Call) (id : Int) :
    id ∈ ((new min max).after history).waiting ↔
      (new min max).Issued history id ∧ ¬ (new min max).Held history id := by
  rw [issued_after_new_iff, ← outstanding_after_new_iff min hmax, Outstanding]
  constructor
  · intro hmem
    have hissued := (valid_after_new min max history).waiting_issued id hmem
    exact ⟨hissued.2, fun hout => hout.2 hmem⟩
  · rintro ⟨hpassed, hnot⟩
    by_contra hmem
    exact hnot ⟨hpassed, hmem⟩

/-- A value that is issued for the first time is the one at the cursor, and nothing waits. -/
theorem allocate_new {pool : IdPool} {id : Int} (hissued : pool.allocate.1 = some id)
    (hnew : id ∉ pool.waiting) : pool.waiting = [] ∧ pool.cursor = id := by
  have halloc : pool.allocate = (some id, pool.allocate.2) := Prod.ext hissued rfl
  rcases allocate_cases halloc with ⟨rest, hwaiting, -⟩ | ⟨hwaiting, hcursor, -⟩
  · exact absurd (by simp [hwaiting]) hnew
  · exact ⟨hwaiting, hcursor⟩

/-- A value given back now is issued by the allocation after as many others as values wait now, and
these issue the values that waited, whatever is given back in between.  A value that was never
issued comes out only while nothing waits, when exactly the values below it were issued. -/
theorem after_new_reissues (min : Int) {max : Int} (hmax : max < 9223372036854775807)
    (history : List Call) :
    let pool := (new min max).after history
    let held := (new min max).Held history
    let issued := (new min max).Issued history
    let recorded := (RecordedPool.new min max).after history
    (pool.waiting.Nodup ∧ ∀ id, id ∈ pool.waiting ↔ issued id ∧ ¬ held id) ∧
    (∀ id, held id → ∀ more : List Call, allocations more ≤ pool.waiting.length →
      ∃ answer, ((new min max).after (history ++ .free id :: more)).allocate.1 = some answer ∧
        (pool.waiting ++ [id])[allocations more]? = some answer ∧
        (answer = id ↔ allocations more = pool.waiting.length)) ∧
    (∀ id, pool.allocate.1 = some id → ¬ issued id →
      (∀ other, issued other → held other) ∧ ∀ other, issued other ↔ min ≤ other ∧ other < id) ∧
    recorded.waiting = pool.waiting ∧ recorded.allocate.1 = pool.allocate.1 ∧
      recorded.waiting.dropWhile (· ∈ recorded.used) = recorded.waiting := by
  intro pool held issued recorded
  have hbounded : pool.Bounded := bounded_after_new min hmax history
  have hmem (id : Int) : id ∈ pool.waiting ↔ issued id ∧ ¬ held id :=
    mem_waiting_after_new_iff min hmax history id
  have hrecords : recorded.Records pool :=
    RecordedPool.records_after_new fun earlier _ => (bounded_after_new min hmax earlier).canMove
  refine ⟨⟨hbounded.waiting_nodup, hmem⟩, ?_, ?_, hrecords.waiting,
    (hrecords.allocate hbounded.toValid hbounded.canMove).1,
    hrecords.dropWhile_waiting.trans hrecords.waiting.symm⟩
  · intro id hheld more hcount
    have hafter : (new min max).after (history ++ .free id :: more) =
        (pool.free id).after more := by
      rw [after, List.foldl_append]
      rfl
    rw [hafter]
    have hout := (outstanding_after_new_iff min hmax history id).mpr hheld
    exact allocate_after_free (hbounded.outstanding_inRange hout) hout hcount
  · intro id hanswer hnever
    obtain ⟨hwaiting, hcursor⟩ := allocate_new hanswer fun hwaits => hnever ((hmem id).mp hwaits).1
    constructor
    · intro other hissued
      by_contra hother
      have hwaits := (hmem other).mpr ⟨hissued, hother⟩
      rw [hwaiting] at hwaits
      exact List.not_mem_nil hwaits
    · intro other
      have hmin : pool.min = min := ((new min max).reaches_after history).min_eq
      rw [← hcursor, ← hmin, ← hbounded.passed_iff]
      exact issued_after_new_iff min max history other

/-- Two values wait and a third is given back, then once more, together with one that was just
issued and one of another pool: the third allocation from there returns it. -/
theorem after_new_reissues_third :
    let history : List Call := [.allocate, .allocate, .allocate, .free 2, .free 3]
    let more : List Call := [.free 1, .allocate, .free 9, .free 2, .allocate]
    ((new 1 5).after (history ++ .free 1 :: more)).allocate.1 = some 1 ∧
      ∀ other, (new 1 5).Issued [.allocate, .allocate, .allocate] other ↔
        1 ≤ other ∧ other < 4 := by
  intro history more
  have hmax : (5 : Int) < 9223372036854775807 := by decide
  obtain ⟨⟨-, hwaiting⟩, hreissued, -⟩ := after_new_reissues 1 hmax history
  have hheld : (new 1 5).Held history 1 :=
    ⟨[], [.allocate, .allocate, .free 2, .free 3], rfl, by decide, by simp⟩
  obtain ⟨answer, hanswer, -, hturn⟩ := hreissued 1 hheld more (by decide)
  obtain ⟨-, -, hnew, -⟩ := after_new_reissues 1 hmax [.allocate, .allocate, .allocate]
  have hnever : ¬ (new 1 5).Issued [.allocate, .allocate, .allocate] 4 := by
    rw [issued_after_new_iff]
    decide
  exact ⟨hanswer.trans (congrArg some (hturn.mpr (by decide))), (hnew 4 (by decide) hnever).2⟩

end IdPool

end AccessMobility
