import AccessMobility.Proofs.IdPoolHistory
import AccessMobility.Proofs.RunSoundness

/-!
# Subscription ids in use

An id for an event subscription is a number of a pool, handed out as decimal text, while the entries
are stored under any text a caller likes.  When an entry is deleted its key is read as a number, and
the number goes back to the pool.  Reading is more liberal than writing: a plus sign and zeros may
stand in front.  So an id is given back by the deletion of an entry under any text that spells its
number, also while an entry under the id itself is still stored.

Apart from that no id comes back: as long as no entry under a text that spells it is deleted, an id
that was handed out is outstanding in the pool and not handed out again.
-/

namespace AccessMobility

/-! ## Texts that read as a number -/

namespace Decimal

/-- The decimal digits of a number, with zeros and at most a plus sign in front. -/
def Spells (text : String) (n : Nat) : Prop :=
  ∃ sign zeros, (sign = [] ∨ sign = ['+']) ∧
    text.toList = sign ++ (List.replicate zeros '0' ++ Nat.toDigits 10 n)

theorem value_concat (digits : List Char) (digit : Char) :
    value (digits ++ [digit]) = 10 * value digits + (digit.toNat - 48) := by
  simp [value]

theorem value_zeros_append (zeros : Nat) (digits : List Char) :
    value (List.replicate zeros '0' ++ digits) = value digits := by
  induction zeros with
  | zero => rfl
  | succ zeros ih =>
      rw [List.replicate_succ, List.cons_append, ← ih]
      rfl

theorem value_toDigits (n : Nat) : value (Nat.toDigits 10 n) = n :=
  Nat.ofDigitChars_toDigits (by decide) (by decide)

theorem eq_digitChar {digit : Char} (hdigit : digit.isDigit = true) :
    digit.toNat - 48 < 10 ∧ digit = (digit.toNat - 48).digitChar := by
  rw [Char.isDigit_iff_toNat] at hdigit
  have hlow : 48 ≤ digit.toNat := hdigit.1
  have hhigh : digit.toNat ≤ 57 := hdigit.2
  have hlt : digit.toNat - 48 < 10 := by omega
  refine ⟨hlt, ?_⟩
  rw [← Char.toNat_inj, Nat.toNat_digitChar_of_lt_ten hlt]
  omega

/-- Digits are the decimal text of their value after zeros; of the value zero there are only the
zeros. -/
theorem digits_eq {digits : List Char} (hdigits : ∀ digit ∈ digits, digit.isDigit = true) :
    ∃ zeros, digits = List.replicate zeros '0' ++
      if value digits = 0 then [] else Nat.toDigits 10 (value digits) := by
  induction digits using List.reverseRecOn with
  | nil => exact ⟨0, rfl⟩
  | append_singleton front last ih =>
      obtain ⟨zeros, hfront⟩ := ih fun digit hmem => hdigits digit (List.mem_append_left _ hmem)
      obtain ⟨hlt, hlast⟩ := eq_digitChar (hdigits last (by simp))
      have htext : Nat.toDigits 10 (last.toNat - 48) = [last] := by
        rw [Nat.toDigits_of_lt_base hlt, ← hlast]
      rw [value_concat]
      by_cases hzero : value front = 0
      · rw [if_pos hzero, List.append_nil] at hfront
        by_cases hdigit : last.toNat - 48 = 0
        · refine ⟨zeros + 1, ?_⟩
          rw [hdigit] at hlast
          rw [hzero, hdigit, if_pos rfl, List.append_nil, List.replicate_succ', ← hfront, hlast]
          rfl
        · refine ⟨zeros, ?_⟩
          rw [hzero, if_neg (by omega), Nat.mul_zero, Nat.zero_add, htext, ← hfront]
      · refine ⟨zeros, ?_⟩
        rw [if_neg hzero] at hfront
        rw [if_neg (by omega), ← Nat.toDigits_append_toDigits (by decide) (by omega) hlt, htext,
          ← List.append_assoc, ← hfront]

theorem natural?_eq_some_iff {digits : List Char} {n : Nat} (hpos : 0 < n) :
    natural? digits = some n ↔
      ∃ zeros, digits = List.replicate zeros '0' ++ Nat.toDigits 10 n := by
  unfold natural?
  constructor
  · intro hread
    split at hread
    · simp at hread
    next hdigits =>
      rw [Option.some.injEq] at hread
      simp only [Bool.or_eq_true, Bool.not_eq_true', List.all_eq_false, not_or, not_exists,
        not_and] at hdigits
      obtain ⟨zeros, heq⟩ := digits_eq fun digit hmem => by simpa using hdigits.2 digit hmem
      rw [hread, if_neg (Nat.pos_iff_ne_zero.mp hpos)] at heq
      exact ⟨zeros, heq⟩
  · rintro ⟨zeros, rfl⟩
    rw [value_zeros_append, value_toDigits, if_neg]
    simp only [Bool.or_eq_true, Bool.not_eq_true', List.all_eq_false, not_or, not_exists, not_and]
    constructor
    · simp
    · intro digit hmem
      rcases List.mem_append.mp hmem with hzero | hdigit
      · rw [List.eq_of_mem_replicate hzero]
        decide
      · simpa using Nat.isDigit_of_mem_toDigits (by decide) (Nat.le_refl 10) hdigit

/-- A text reads as a positive number of 64 bits exactly if it spells the number. -/
theorem int64?_eq_some_iff (text : String) {n : Nat} (hpos : 0 < n)
    (hbound : n ≤ 9223372036854775807) : int64? text = some (n : Int) ↔ Spells text n := by
  have hsigned {sign : Char} (hsign : sign.isDigit = false) (digits : List Char) :
      natural? (sign :: digits) = none := by
    simp [natural?, hsign]
  have hspells : Spells text n ↔ natural? text.toList = some n ∨
      ∃ digits, text.toList = '+' :: digits ∧ natural? digits = some n := by
    simp only [Spells, natural?_eq_some_iff hpos]
    constructor
    · rintro ⟨sign, zeros, rfl | rfl, htext⟩
      · exact Or.inl ⟨zeros, htext⟩
      · exact Or.inr ⟨_, htext, zeros, rfl⟩
    · rintro (⟨zeros, htext⟩ | ⟨digits, htext, zeros, rfl⟩)
      · exact ⟨[], zeros, Or.inl rfl, htext⟩
      · exact ⟨['+'], zeros, Or.inr rfl, htext⟩
  have hrange : decide (-9223372036854775808 ≤ (n : Int) ∧ (n : Int) ≤ 9223372036854775807) := by
    rw [decide_eq_true_eq]
    omega
  have hcast (read : Option Nat) : read.map (fun m => (m : Int)) = some (n : Int) ↔
      read = some n := by
    cases read <;> simp
  rw [hspells, int64?, Option.filter_eq_some_iff, and_iff_left hrange, integer?]
  split
  next digits htext =>
    rw [hcast, htext, hsigned (by decide)]
    simp
  next digits htext =>
    rw [htext, hsigned (by decide)]
    cases natural? digits with
    | none => simp
    | some m =>
        have hneg : -(m : Int) ≠ n := by omega
        simp [hneg]
  next digits hplus hminus =>
    rw [hcast, or_iff_left]
    rintro ⟨digits, htext, -⟩
    exact hplus digits htext

theorem int64?_toString {n : Nat} (hpos : 0 < n) (hbound : n ≤ 9223372036854775807) :
    int64? (toString n) = some (n : Int) :=
  (int64?_eq_some_iff _ hpos hbound).mpr ⟨[], 0, Or.inl rfl, String.toList_ofList⟩

end Decimal

/-! ## What the calls do to the pool of subscription ids -/

/-- The key a call deletes an entry under. -/
def Operation.deletedKey? : Operation → Option String
  | .deleteSubscription id | .removeSubscription id => some id
  | _ => none

namespace State

section

variable (state : State)

theorem subscriptionIds_release (ref : Ref RanUe) :
    (state.release ref).registry.subscriptionIds = state.registry.subscriptionIds := by
  rw [registry_release]
  split <;> rfl

theorem subscriptionIds_evict (displaced : Option (Ref RanUe)) :
    (state.evict displaced).registry.subscriptionIds = state.registry.subscriptionIds := by
  cases displaced with
  | none => rfl
  | some ref =>
      rw [evict]
      split
      · rfl
      · exact state.subscriptionIds_release ref

theorem subscriptionIds_detachAll (ref : Ref Ue) :
    (state.detachAll ref).registry.subscriptionIds = state.registry.subscriptionIds := by
  simp [detachAll, AccessType.all]

theorem subscriptionIds_clearOut (node : Ref RadioNode) (entries : List (Int × Ref RanUe)) :
    (state.clearOut node entries).registry.subscriptionIds = state.registry.subscriptionIds := by
  unfold clearOut
  induction entries generalizing state with
  | nil => rfl
  | cons entry rest ih =>
      rw [List.foldl_cons, ih, registry_leaveCollection, subscriptionIds_evict]

end

end State

namespace World

open State

section

variable (world : World)

theorem subscriptionIds_removeUe (ue : Ref Ue) :
    (world.removeUe ue).state.registry.subscriptionIds =
      world.state.registry.subscriptionIds := by
  have hremoved (world : World) (access : AccessType) :
      (world.removeAttached ue access).state.registry.subscriptionIds =
        world.state.registry.subscriptionIds := by
    rcases world.removeAttached_cases ue access with
      ⟨-, hstate⟩ | ⟨-, ranUe, -, -, -, hstate⟩ | ⟨-, -, -, hstate⟩
    · rw [hstate]
    · rw [hstate, subscriptionIds_release]
    · rw [hstate, registry_detach]
  rw [state_removeUe]
  exact (hremoved _ .nonThreeGpp).trans (hremoved world .threeGpp)

theorem subscriptionIds_dropRanUes (node : Ref RadioNode) (withUes : Bool)
    (entries : List (Int × Ref RanUe)) :
    (world.dropRanUes node withUes entries).state.registry.subscriptionIds =
      world.state.registry.subscriptionIds := by
  have hdropped (world : World) (entry : Int × Ref RanUe) :
      (world.dropRanUe node withUes entry).state.registry.subscriptionIds =
        world.state.registry.subscriptionIds := by
    have htaken : (world.takeOut node entry.1 entry.2).state.registry.subscriptionIds =
        world.state.registry.subscriptionIds := by
      rw [state_takeOut, registry_leaveCollection, subscriptionIds_evict]
    dsimp only [dropRanUe]
    split
    · exact htaken
    · rw [subscriptionIds_removeUe, htaken]
  unfold dropRanUes
  induction entries generalizing world with
  | nil => rfl
  | cons entry rest ih => rw [List.foldl_cons, ih, hdropped]

theorem subscriptionIds_newUe (supi : String) :
    (world.newUe supi).2.state.registry.subscriptionIds =
      world.state.registry.subscriptionIds := by
  obtain ⟨tmsi, guti, -, -, ⟨-, hstate⟩ | ⟨oldId, old, -, -, -, hstate⟩⟩ := world.newUe_cases supi
  · rw [hstate]
    rfl
  · rw [hstate]
    exact subscriptionIds_detachAll _ old

theorem subscriptionIds_newNode (connection : Connection) :
    (world.newNode connection).2.state.registry.subscriptionIds =
      world.state.registry.subscriptionIds := by
  rcases world.newNode_cases connection with
    ⟨-, error, refused, hcall, hstate⟩ | ⟨done, hcall, ⟨-, hstate⟩ | ⟨oldId, old, -, -, hstate⟩⟩
  · rw [hcall, hstate]
  · rw [hcall, hstate]
    rfl
  · rw [hcall, hstate, subscriptionIds_clearOut]
    rfl

theorem subscriptionIds_updateLocation (ref : Ref RanUe) (report : Option LocationReport)
    (now : Instant) :
    (world.updateLocation ref report now).state.registry.subscriptionIds =
      world.state.registry.subscriptionIds := by
  cases report with
  | none => rfl
  | some report =>
      dsimp only [updateLocation]
      split
      · rfl
      · split <;> rfl

theorem subscriptionIds_deleteSubscription (key : String) :
    (world.deleteSubscription key).2.state.registry.subscriptionIds =
      if key ∈ world.state.registry.subscriptions then
        (Decimal.int64? key).elim world.state.registry.subscriptionIds
          world.state.registry.subscriptionIds.free
      else world.state.registry.subscriptionIds := by
  simp only [Std.ExtTreeMap.mem_iff_isSome_getElem?]
  cases hstored : world.state.registry.subscriptions[key]? with
  | none =>
      rw [deleteSubscription, hstored]
      rfl
  | some entry =>
      obtain ⟨done, hcall, hdone⟩ := deleteSubscription_stored hstored
      rw [hcall, hdone]
      rfl

theorem subscriptionIds_deletedKey {operation : Operation} {key : String}
    (hkey : operation.deletedKey? = some key) :
    (world.perform operation).state.registry.subscriptionIds =
      (world.deleteSubscription key).2.state.registry.subscriptionIds := by
  cases operation with
  | deleteSubscription id =>
      obtain rfl : id = key := by simpa [Operation.deletedKey?] using hkey
      rfl
  | removeSubscription id =>
      obtain rfl : id = key := by simpa [Operation.deletedKey?] using hkey
      exact congrArg (·.subscriptionIds) (world.registry_removeSubscription id)
  | _ => simp [Operation.deletedKey?] at hkey

end

/-- No other call touches the pool of subscription ids. -/
theorem subscriptionIds_perform {world : World} (hsound : world.state.Sound)
    {operation : Operation} (hnew : operation ≠ .newSubscriptionId)
    (hkey : operation.deletedKey? = none) :
    (world.perform operation).state.registry.subscriptionIds =
      world.state.registry.subscriptionIds := by
  cases operation with
  | newSubscriptionId => exact absurd rfl hnew
  | deleteSubscription id | removeSubscription id => simp [Operation.deletedKey?] at hkey
  | newUe supi => exact world.subscriptionIds_newUe supi
  | newNode connection => exact world.subscriptionIds_newNode connection
  | newRanUe node key =>
      rcases world.newRanUe_cases node key with
        ⟨error, refused, hcall, hstate⟩ | ⟨id, pool, done, -, -, hcall, hstate⟩
      · simp only [perform, hcall, hstate]
      · simp only [perform, hcall, hstate, subscriptionIds_evict, registry_enlist]
  | attach ue ranUe =>
      rcases world.attach_cases ue ranUe with ⟨error, hrefused⟩ | ⟨node, -, -, -, hstate⟩
      · simp only [perform, hrefused]
      · simp only [perform, hstate, registry_attach]
  | detach ue access =>
      show (world.detach ue access).state.registry.subscriptionIds = _
      rw [state_detach, registry_detach]
  | removeRanUe ranUe =>
      rcases world.removeRanUe_cases ranUe with
        ⟨-, error, refused, hcall, hstate⟩ | ⟨-, done, hcall, hstate⟩
      · simp only [perform, hcall, hstate]
      · simp only [perform, hcall, hstate, subscriptionIds_release]
  | switchNode ranUe target key =>
      rcases world.switchNode_cases ranUe target key with
        ⟨-, error, hcall⟩ | ⟨source, done, -, -, -, hcall, hstate⟩
      · simp only [perform, hcall]
      · simp only [perform, hcall, hstate, subscriptionIds_evict, registry_rehome]
  | removeNode connection =>
      rcases world.removeNode_cases hsound.toWellNumbered connection with
        ⟨-, error, hrefused⟩ | ⟨ref, done, -, hcall, hstate⟩
      · simp only [perform, hrefused]
      · simp only [perform, hcall, hstate, subscriptionIds_clearOut]
        rfl
  | removeAllRanUes node withUes =>
      obtain ⟨noted, hnoted, hdrops⟩ := world.removeAllRanUes_drops node withUes
      simp only [perform, hdrops, subscriptionIds_dropRanUes, hnoted]
  | removeUe ue => exact world.subscriptionIds_removeUe ue
  | allocateTmsi =>
      show world.allocateTmsi.2.state.registry.subscriptionIds = _
      rw [state_allocateTmsi]
      rfl
  | freeTmsi tmsi =>
      show (world.freeTmsi tmsi).state.registry.subscriptionIds = _
      rw [state_freeTmsi]
      rfl
  | reallocateGuti ue =>
      rcases world.reallocateGuti_cases ue with ⟨-, -, hstate⟩ | ⟨tmsi, -, -, hstate⟩
      · simp only [perform, hstate]
        rfl
      · simp only [perform, hstate]
        rfl
  | setGmmState ue access gmmState =>
      dsimp only [perform, setGmmState]
      split <;> rfl
  | updateLocation ranUe report now =>
      exact world.subscriptionIds_updateLocation ranUe report now
  | _ => rfl

/-! ## Ids in use along a run -/

/-- A call of the run deletes an entry that is stored under a key of a kind. -/
def Deletes (kind : String → Prop) (world : World) : List Operation → Prop
  | [] => False
  | operation :: rest =>
    (∃ key, operation.deletedKey? = some key ∧
      key ∈ world.state.registry.subscriptions ∧ kind key) ∨
    (world.perform operation).Deletes kind rest

theorem deletes_cons {kind : String → Prop} {world : World} {operation : Operation}
    {rest : List Operation} : world.Deletes kind (operation :: rest) ↔
      world.Deletes kind [operation] ∨ (world.perform operation).Deletes kind rest := by
  simp [Deletes]

/-- The pool of subscription ids is allocated from, or it is given back the number that the key of a
deleted entry reads as, if there is one. -/
theorem subscriptionIds_cases {world : World} (hsound : world.state.Sound)
    (operation : Operation) :
    let pool := world.state.registry.subscriptionIds
    let next := (world.perform operation).state.registry.subscriptionIds
    (operation = .newSubscriptionId ∧ next = pool.allocate.2) ∨
      (operation ≠ .newSubscriptionId ∧ ∃ freed : Option Int, next = freed.elim pool pool.free ∧
        ∀ n, world.Deletes (Decimal.int64? · = some n) [operation] ↔ freed = some n) := by
  intro pool next
  by_cases hnew : operation = .newSubscriptionId
  · left
    subst hnew
    refine ⟨rfl, ?_⟩
    dsimp only [next, perform, newSubscriptionId]
    split <;> rfl
  · refine Or.inr ⟨hnew, ?_⟩
    cases hkey : operation.deletedKey? with
    | none =>
        refine ⟨none, subscriptionIds_perform hsound hnew hkey, fun n => ?_⟩
        simp [Deletes, hkey]
    | some key =>
        have hnext := world.subscriptionIds_deletedKey hkey
        rw [subscriptionIds_deleteSubscription] at hnext
        by_cases hstored : key ∈ world.state.registry.subscriptions
        · rw [if_pos hstored] at hnext
          refine ⟨Decimal.int64? key, hnext, fun n => ?_⟩
          simp [Deletes, hkey, hstored]
        · rw [if_neg hstored] at hnext
          refine ⟨none, hnext, fun n => ?_⟩
          simp [Deletes, hkey, hstored]

theorem subscriptionIds_reaches {world : World} (hsound : world.state.Sound)
    (operation : Operation) :
    world.state.registry.subscriptionIds.Reaches
      (world.perform operation).state.registry.subscriptionIds := by
  rcases subscriptionIds_cases hsound operation with ⟨-, hnext⟩ | ⟨-, freed, hnext, -⟩
  · rw [hnext]
    exact IdPool.Reaches.refl.allocate
  · rw [hnext]
    exact IdPool.Reaches.refl.surrender freed

/-- Along every run the pool of subscription ids is only allocated from and given back to. -/
theorem run_subscriptionIds_reaches {world : World} (hsound : world.state.Sound)
    (operations : List Operation) :
    world.state.registry.subscriptionIds.Reaches
      (world.run operations).state.registry.subscriptionIds := by
  refine (run_induction (motive := fun state => state.Sound ∧
    world.state.registry.subscriptionIds.Reaches state.registry.subscriptionIds) ?_
    ⟨hsound, .refl⟩ (obeys_any world operations)).2
  intro world operation hinv _
  exact ⟨sound_run hinv.1 [operation], hinv.2.trans (subscriptionIds_reaches hinv.1 operation)⟩

section

variable {world : World} (hsound : world.state.Sound)
  (hbounded : world.state.registry.subscriptionIds.Bounded)

include hsound hbounded

/-- A number is outstanding after a call if it was allocated, or was outstanding before and not
given back. -/
theorem outstanding_perform_iff (operation : Operation) (n : Int) :
    (world.perform operation).state.registry.subscriptionIds.Outstanding n ↔
      (world.state.registry.subscriptionIds.Outstanding n ∧
        ¬ world.Deletes (Decimal.int64? · = some n) [operation]) ∨
      (operation = .newSubscriptionId ∧
        world.state.registry.subscriptionIds.allocate.1 = some n) := by
  rcases subscriptionIds_cases hsound operation with ⟨rfl, hnext⟩ | ⟨hnew, freed, hnext, hfreed⟩
  · have hnone : ¬ world.Deletes (Decimal.int64? · = some n) [.newSubscriptionId] := by
      simp [Deletes, Operation.deletedKey?]
    rw [hnext]
    simp only [hnone, not_false_eq_true, and_true, true_and]
    exact hbounded.toValid.outstanding_perform_allocate n
  · rw [hnext, hfreed]
    simp only [hnew, false_and, or_false]
    cases freed with
    | none => simp
    | some m => simp [hbounded.outstanding_free, eq_comm]

end

/-- A number that is outstanding stays so until an entry under a key that reads as the number is
deleted. -/
theorem outstanding_run {world : World} (hsound : world.state.Sound)
    (hbounded : world.state.registry.subscriptionIds.Bounded) {n : Int}
    (hout : world.state.registry.subscriptionIds.Outstanding n) {operations : List Operation}
    (hkept : ¬ world.Deletes (Decimal.int64? · = some n) operations) :
    (world.run operations).state.registry.subscriptionIds.Outstanding n := by
  induction operations generalizing world with
  | nil => exact hout
  | cons operation rest ih =>
      rw [deletes_cons, not_or] at hkept
      exact ih (sound_run hsound [operation])
        ((subscriptionIds_reaches hsound operation).bounded hbounded)
        ((outstanding_perform_iff hsound hbounded operation n).mpr (Or.inl ⟨hout, hkept.1⟩)) hkept.2

theorem bounded_of_reaches {pool : IdPool} (hreaches : (IdPool.new 1 2147483647).Reaches pool) :
    pool.Bounded :=
  hreaches.bounded (IdPool.bounded_new 1 (by decide))

theorem newSubscriptionId_eq (world : World) :
    world.newSubscriptionId.1 =
      world.state.registry.subscriptionIds.allocate.1.map toString := by
  unfold newSubscriptionId
  cases world.state.registry.subscriptionIds.allocate with
  | mk issued pool => cases issued <;> rfl

theorem newSubscriptionId_iff {world : World}
    (hreaches : (IdPool.new 1 2147483647).Reaches world.state.registry.subscriptionIds)
    (id : String) :
    world.newSubscriptionId.1 = some id ↔
      ∃ n : Nat, (1 ≤ n ∧ n ≤ 2147483647 ∧ id = toString n) ∧
        world.state.registry.subscriptionIds.allocate.1 = some (n : Int) := by
  rw [newSubscriptionId_eq, Option.map_eq_some_iff]
  constructor
  · rintro ⟨value, hissued, rfl⟩
    obtain ⟨hmin, hmax⟩ := (bounded_of_reaches hreaches).allocate_inRange
      (Prod.ext hissued rfl : world.state.registry.subscriptionIds.allocate = (some value, _))
    rw [hreaches.min_eq] at hmin
    rw [hreaches.max_eq] at hmax
    dsimp only [IdPool.new] at hmin hmax
    obtain ⟨n, rfl⟩ := Int.eq_ofNat_of_zero_le (by omega : 0 ≤ value)
    exact ⟨n, ⟨by omega, by omega, rfl⟩, hissued⟩
  · rintro ⟨n, ⟨-, -, rfl⟩, hissued⟩
    exact ⟨n, hissued, rfl⟩

/-- A value that waits in the pool is handed out by some call after others. -/
theorem newSubscriptionId_of_waiting {world : World} {n : Int}
    (hwaiting : n ∈ world.state.registry.subscriptionIds.waiting) :
    ∃ count, (world.run (List.replicate count .newSubscriptionId)).newSubscriptionId.1 =
      some (toString n) := by
  generalize hqueue : world.state.registry.subscriptionIds.waiting = queue at hwaiting
  induction queue generalizing world with
  | nil => simp at hwaiting
  | cons head rest ih =>
      have halloc : world.state.registry.subscriptionIds.allocate =
          (some head, { world.state.registry.subscriptionIds with waiting := rest }) := by
        rw [IdPool.allocate, hqueue]
      by_cases heq : n = head
      · refine ⟨0, ?_⟩
        rw [List.replicate_zero, run_nil, newSubscriptionId_eq, halloc, heq]
        rfl
      · have hrest :
            (world.perform .newSubscriptionId).state.registry.subscriptionIds.waiting = rest := by
          simp only [perform, newSubscriptionId, halloc]
          rfl
        obtain ⟨count, hissued⟩ := ih hrest ((List.mem_cons.mp hwaiting).resolve_left heq)
        exact ⟨count + 1, hissued⟩

theorem deletes_spells_iff {world : World} {n : Nat} (hpos : 1 ≤ n) (hmax : n ≤ 2147483647)
    (operations : List Operation) :
    world.Deletes (Decimal.Spells · n) operations ↔
      world.Deletes (Decimal.int64? · = some (n : Int)) operations := by
  have hkind : (Decimal.int64? · = some (n : Int)) = (Decimal.Spells · n) := by
    funext key
    exact propext (Decimal.int64?_eq_some_iff key hpos (Nat.le_trans hmax (by decide)))
  rw [hkind]

theorem not_deletes_replicate (kind : String → Prop) (world : World) (count : Nat) :
    ¬ world.Deletes kind (List.replicate count .newSubscriptionId) := by
  induction count generalizing world with
  | zero => exact id
  | succ count ih =>
      rw [List.replicate_succ, deletes_cons]
      rintro (hfirst | hrest)
      · simp [Deletes, Operation.deletedKey?] at hfirst
      · exact ih _ hrest

section

variable {world : World} (hsound : world.state.Sound)
  (hreaches : (IdPool.new 1 2147483647).Reaches world.state.registry.subscriptionIds)
  {n : Nat} (hpos : 1 ≤ n) (hmax : n ≤ 2147483647)
  (hout : world.state.registry.subscriptionIds.Outstanding n)

include hsound hreaches hpos hmax hout

theorem not_reissued {operations : List Operation}
    (hkept : ¬ world.Deletes (Decimal.Spells · n) operations) :
    (world.run operations).newSubscriptionId.1 ≠ some (toString n) := by
  intro hissued
  rw [deletes_spells_iff hpos hmax] at hkept
  obtain ⟨m, ⟨hposOther, hmaxOther, htext⟩, halloc⟩ := (newSubscriptionId_iff
    (hreaches.trans (run_subscriptionIds_reaches hsound operations)) _).mp hissued
  obtain rfl : n = m := by
    have hread := Decimal.int64?_toString hpos (Nat.le_trans hmax (by decide))
    rw [htext, Decimal.int64?_toString hposOther (Nat.le_trans hmaxOther (by decide)),
      Option.some.injEq] at hread
    omega
  exact IdPool.allocate_fresh (Prod.ext halloc rfl)
    (outstanding_run hsound (bounded_of_reaches hreaches) hout hkept)

/-- Once an entry is deleted, the id is handed out again by some further call exactly if the key of
the entry spells it. -/
theorem available_iff {operation : Operation} {key : String}
    (hkey : operation.deletedKey? = some key)
    (hstored : key ∈ world.state.registry.subscriptions) :
    (∃ count, ((world.perform operation).run
        (List.replicate count .newSubscriptionId)).newSubscriptionId.1 = some (toString n)) ↔
      Decimal.Spells key n := by
  constructor
  · rintro ⟨count, hissued⟩
    by_contra hother
    have hkept : ¬ world.Deletes (Decimal.Spells · n)
        (operation :: List.replicate count .newSubscriptionId) := by
      rw [deletes_cons]
      rintro (hfirst | hrest)
      · simp [Deletes, hkey, hstored, hother] at hfirst
      · exact not_deletes_replicate _ _ count hrest
    exact not_reissued hsound hreaches hpos hmax hout hkept hissued
  · intro hspells
    have hdeleted : world.Deletes (Decimal.int64? · = some (n : Int)) [operation] := by
      rw [← deletes_spells_iff hpos hmax]
      exact Or.inl ⟨key, hkey, hstored, hspells⟩
    refine newSubscriptionId_of_waiting (n := (n : Int)) ?_
    rcases subscriptionIds_cases hsound operation with ⟨rfl, -⟩ | ⟨-, freed, hnext, hfreed⟩
    · simp [Operation.deletedKey?] at hkey
    · rw [hnext, (hfreed n).mp hdeleted]
      have hinside := (bounded_of_reaches hreaches).outstanding_inRange hout
      simp [IdPool.free, hinside, hout]

end

/-- An id that was handed out is a number in decimal text.  It is not handed out again before an
entry under a text that spells the number, be it the id or the number after a plus sign and zeros,
is deleted; and the first such deletion, and no deletion of another entry, makes it available. -/
theorem run_subscriptionId_reissued (config : Config) (before between : List Operation)
    {id : String} (hissued : ((opened config).run before).newSubscriptionId.1 = some id) :
    let issued := ((opened config).run before).newSubscriptionId.2
    let later := issued.run between
    ∃ n : Nat, (1 ≤ n ∧ n ≤ 2147483647 ∧ id = toString n) ∧
      (later.newSubscriptionId.1 = some id → issued.Deletes (Decimal.Spells · n) between) ∧
      (¬ issued.Deletes (Decimal.Spells · n) between →
        ∀ operation key, operation.deletedKey? = some key →
          key ∈ later.state.registry.subscriptions →
          ((∃ count, ((later.perform operation).run
              (List.replicate count .newSubscriptionId)).newSubscriptionId.1 = some id) ↔
            Decimal.Spells key n)) := by
  intro issued later
  have hopened : (opened config).state.Sound := State.sound_new config
  have hreaches := run_subscriptionIds_reaches hopened before
  have hsound := sound_run hopened before
  obtain ⟨n, ⟨hpos, hmax, rfl⟩, halloc⟩ := (newSubscriptionId_iff hreaches id).mp hissued
  have hsoundIssued : issued.state.Sound := sound_run hsound [.newSubscriptionId]
  have hreachesIssued := hreaches.trans (subscriptionIds_reaches hsound .newSubscriptionId)
  have hout : issued.state.registry.subscriptionIds.Outstanding n :=
    (outstanding_perform_iff hsound (bounded_of_reaches hreaches) .newSubscriptionId
      n).mpr (Or.inr ⟨rfl, halloc⟩)
  refine ⟨n, ⟨hpos, hmax, rfl⟩, ?_, ?_⟩
  · intro hagain
    by_contra hkept
    exact not_reissued hsoundIssued hreachesIssued hpos hmax hout hkept hagain
  · intro hkept operation key hkey hstored
    rw [deletes_spells_iff hpos hmax] at hkept
    exact available_iff (sound_run hsoundIssued between)
      (hreachesIssued.trans (run_subscriptionIds_reaches hsoundIssued between)) hpos hmax
      (outstanding_run hsoundIssued (bounded_of_reaches hreachesIssued) hout hkept)
      hkey hstored

/-- The only id handed out is not handed out again while no entry is deleted, and the deletion of an
entry under its number after a plus sign makes it available. -/
theorem subscriptionId_available_plus :
    let entry := SubscriptionEntry.new default none
    let between : List Operation := [.addSubscription "1" entry, .addSubscription "+1" entry]
    let issued := (opened Config.standard).newSubscriptionId
    let later := issued.2.run between
    issued.1 = some "1" ∧ later.newSubscriptionId.1 ≠ some "1" ∧
      ∃ count, ((later.perform (.deleteSubscription "+1")).run
        (List.replicate count .newSubscriptionId)).newSubscriptionId.1 = some "1" := by
  intro entry between issued later
  have hissued : ((opened Config.standard).run []).newSubscriptionId.1 = some "1" := by
    decide +kernel
  obtain ⟨n, ⟨hpos, hmax, htext⟩, hreissued, havailable⟩ :=
    run_subscriptionId_reissued Config.standard [] between hissued
  have hkept (kind : String → Prop) : ¬ issued.2.Deletes kind between := by
    simp [between, Deletes, Operation.deletedKey?]
  obtain rfl : n = 1 := by
    have hread := Decimal.int64?_toString hpos (Nat.le_trans hmax (by decide))
    rw [← htext, show Decimal.int64? "1" = some 1 by decide +kernel, Option.some.injEq] at hread
    omega
  refine ⟨hissued, fun hagain => hkept _ (hreissued hagain), ?_⟩
  exact (havailable (hkept _) (.deleteSubscription "+1") "+1" rfl (by decide +kernel)).mpr
    ⟨['+'], 0, Or.inr rfl, by decide +kernel⟩

/-- An id is handed out while the entry under it is stored, after an entry under another text was
deleted. -/
theorem subscriptionId_reissued_while_stored :
    let entry := SubscriptionEntry.new default none
    let between : List Operation :=
      [.addSubscription "1" entry, .addSubscription "+1" entry, .deleteSubscription "+1"]
    let issued := (opened Config.standard).newSubscriptionId
    let later := issued.2.run between
    issued.1 = some "1" ∧ later.newSubscriptionId.1 = some "1" ∧
      "1" ∈ later.state.registry.subscriptions ∧ ¬ issued.2.Deletes (· = "1") between := by
  intro entry between issued later
  refine ⟨by decide +kernel, by decide +kernel, by decide +kernel, ?_⟩
  simp [between, Deletes, Operation.deletedKey?]

end World

end AccessMobility
