import AccessMobility.Proofs.Roster

/-!
# Subscribers and each other

Detaching a UE never reaches another one: a back reference is cleared only where it names the UE
that is detached.  Removing a UE has no such check.  It removes whatever RAN UE a slot resolves to,
so it reaches another UE exactly if a slot of the removed UE resolves to a RAN UE that names the
other one.  This file proves both, and that the second cannot happen while slots and back
references agree.
-/

namespace AccessMobility

namespace State

/-- A UE, its registration, and every RAN UE that names it are the same in two states. -/
structure Untouched (state next : State) (ue : Ref Ue) : Prop where
  same : next.ue ue = state.ue ue
  registered : next.UeRegistered ue ↔ state.UeRegistered ue
  named : ∀ ref, (next.ranUe ref).ueId = some (state.ue ue).id ↔
    (state.ranUe ref).ueId = some (state.ue ue).id
  unchanged : ∀ {ref}, (state.ranUe ref).ueId = some (state.ue ue).id →
    next.ranUe ref = state.ranUe ref
  pool : ∀ {ref}, (state.ranUe ref).ueId = some (state.ue ue).id → ∀ ngapId,
    next.findRanUe ngapId = some ref ↔ state.findRanUe ngapId = some ref
  collections : ∀ {ref}, (state.ranUe ref).ueId = some (state.ue ue).id → ∀ node key,
    next.findRanUeByKey node key = some ref ↔ state.findRanUeByKey node key = some ref

theorem Untouched.refl (state : State) (ue : Ref Ue) : state.Untouched state ue where
  same := rfl
  registered := Iff.rfl
  named _ := Iff.rfl
  unchanged _ := rfl
  pool _ _ := Iff.rfl
  collections _ _ _ := Iff.rfl

theorem Untouched.trans {first second third : State} {ue : Ref Ue}
    (hfirst : first.Untouched second ue) (hsecond : second.Untouched third ue) :
    first.Untouched third ue := by
  have hid : (second.ue ue).id = (first.ue ue).id := congrArg Ue.id hfirst.same
  have hnamed {ref : Ref RanUe} (hback : (first.ranUe ref).ueId = some (first.ue ue).id) :
      (second.ranUe ref).ueId = some (second.ue ue).id := by
    rw [hid, hfirst.unchanged hback]
    exact hback
  constructor
  · exact hsecond.same.trans hfirst.same
  · exact hsecond.registered.trans hfirst.registered
  · intro ref
    rw [← hfirst.named, ← hid]
    exact hsecond.named ref
  · intro ref hback
    exact (hsecond.unchanged (hnamed hback)).trans (hfirst.unchanged hback)
  · intro ref hback ngapId
    exact (hsecond.pool (hnamed hback) ngapId).trans (hfirst.pool hback ngapId)
  · intro ref hback node key
    exact (hsecond.collections (hnamed hback) node key).trans (hfirst.collections hback node key)

section

variable {state : State} {ue other : Ref Ue}

/-! ## What leaves another UE untouched -/

theorem untouched_detach (hid : (state.ue ue).id ≠ (state.ue other).id) (access : AccessType) :
    state.Untouched (state.detach ue access) other := by
  have hne : ue ≠ other := fun heq => hid (heq ▸ rfl)
  have hpool := state.samePool_detach ue access
  constructor
  · rw [ue_detach, if_neg hne]
  · exact (state.sameNumbers_detach ue access).ueRegistered_iff other
  · intro ref
    rw [ueId_detach]
    constructor
    · exact And.left
    · intro hback
      exact ⟨hback, fun hcleared => hid hcleared.2.symm⟩
  · intro ref hback
    rw [ranUe_detach, if_neg]
    rintro ⟨-, hcleared⟩
    rw [hback, Option.some.injEq] at hcleared
    exact hid hcleared.symm
  · intro ref _ ngapId
    rw [hpool.findRanUe_eq]
  · intro ref _ node key
    rw [hpool.collections]

theorem untouched_release (hsound : state.Sound) {ref : Ref RanUe}
    (hregistered : state.RanUeRegistered ref)
    (hback : (state.ranUe ref).ueId ≠ some (state.ue other).id) :
    state.Untouched (state.release ref) other := by
  have hother {found : Ref RanUe} (hnamed : (state.ranUe found).ueId = some (state.ue other).id) :
      found ≠ ref := by
    intro heq
    rw [heq] at hnamed
    exact hback hnamed
  constructor
  · rw [ue_release, if_neg]
    intro howner
    obtain ⟨id, hnamed, hfound⟩ := Option.bind_eq_some_iff.mp howner
    rw [← hsound.ue_id hfound] at hnamed
    exact hback hnamed
  · exact (state.sameNumbers_release ref).ueRegistered_iff other
  · intro found
    rw [ranUe_release]
    split
    next heq =>
      subst heq
      simp [hback]
    next => rfl
  · intro found hnamed
    exact ranUe_release_of_ne (hother hnamed)
  · intro found hnamed ngapId
    rw [hsound.pool.findRanUe_release hregistered]
    exact and_iff_left (hother hnamed)
  · intro found hnamed node key
    rw [findRanUeByKey_release]
    exact and_iff_left fun hleft => hother hnamed hleft.2.2

theorem untouched_relinquish (hne : ue ≠ other) :
    state.Untouched (state.relinquish ue) other where
  same := by
    have hlast : (state.relinquish ue).ue other = (state.surrender ue).ue other := by
      rw [relinquish, modifyUe, ue_setUe, if_neg hne]
    have hfirst : (state.modifyUe ue ({ · with tmsi := none })).ue other = state.ue other := by
      rw [modifyUe, ue_setUe, if_neg hne]
    exact hlast.trans hfirst
  registered := (state.sameWiring_relinquish ue).ueRegistered_iff other
  named _ := Iff.rfl
  unchanged _ := rfl
  pool _ _ := Iff.rfl
  collections _ _ _ := Iff.rfl

theorem untouched_retire (hid : (state.ue ue).id ≠ (state.ue other).id)
    (supiIndex : Table String Nat) : state.Untouched (state.retire ue supiIndex) other where
  same := rfl
  registered := by
    show (state.registry.ues.erase (state.ue ue).id)[(state.ue other).id]? = some other ↔ _
    rw [Table.lookup_erase, if_neg hid]
    rfl
  named _ := Iff.rfl
  unchanged _ := rfl
  pool _ _ := Iff.rfl
  collections _ _ _ := Iff.rfl

/-! ## Removing what is attached -/

/-- No slot of a UE resolves to a RAN UE that names another UE. -/
def Separates (state : State) (ue other : Ref Ue) : Prop :=
  ∀ access ngapId ref, (state.ue ue).slot access = some ngapId →
    state.findRanUe ngapId = some ref → (state.ranUe ref).ueId ≠ some (state.ue other).id

end

section

variable {world : World} (hsound : world.state.Sound)

include hsound

theorem removeAttached_eq_release {ue : Ref Ue} {access : AccessType} {ngapId : Nat}
    {ref : Ref RanUe} (hslot : (world.state.ue ue).slot access = some ngapId)
    (hfind : world.state.findRanUe ngapId = some ref) :
    (world.removeAttached ue access).state = world.state.release ref := by
  rcases world.removeAttached_cases ue access with
    ⟨hnone, -⟩ | ⟨other, ranUe, hother, hfound, -, hstate⟩ | ⟨other, hother, hgone, -⟩
  · rw [hslot] at hnone
    simp at hnone
  · rw [hslot, Option.some.injEq] at hother
    subst hother
    rw [hfind, Option.some.injEq] at hfound
    rw [hstate, hfound]
  · rw [hslot, Option.some.injEq] at hother
    subst hother
    have hregistered := hsound.pool.registered_of_find hfind
    rcases hgone ref hfind with hremoved | hlost
    · rw [(hsound.pool.live ref).mpr hregistered] at hremoved
      simp at hremoved
    · obtain ⟨node, hnode, -⟩ := hsound.pool.bound hregistered (by simp)
      rw [hlost] at hnode
      simp at hnode

theorem untouched_removeAttached {ue other : Ref Ue}
    (hid : (world.state.ue ue).id ≠ (world.state.ue other).id)
    (hseparates : world.state.Separates ue other) (access : AccessType) :
    world.state.Untouched (world.removeAttached ue access).state other := by
  rcases world.removeAttached_cases ue access with
    ⟨-, hstate⟩ | ⟨ngapId, ref, hslot, hfind, -, hstate⟩ | ⟨-, -, -, hstate⟩
  · rw [hstate]
    exact Untouched.refl _ _
  · rw [hstate]
    exact untouched_release hsound (hsound.pool.registered_of_find hfind)
      (hseparates access ngapId ref hslot hfind)
  · rw [hstate]
    exact untouched_detach hid access

omit hsound in
theorem removed_removeAttached {ref : Ref RanUe} (hremoved : (world.state.ranUe ref).removed = true)
    (ue : Ref Ue) (access : AccessType) :
    ((world.removeAttached ue access).state.ranUe ref).removed = true := by
  rcases world.removeAttached_cases ue access with
    ⟨-, hstate⟩ | ⟨-, released, -, -, -, hstate⟩ | ⟨-, -, -, hstate⟩
  · rw [hstate]
    exact hremoved
  · rw [hstate, ranUe_release]
    split
    · rfl
    · exact hremoved
  · rw [hstate, (world.state.samePool_detach ue access).ranUe_removed]
    exact hremoved

/-- Removing what is attached over one access leaves the slot of the other access as it is, unless
it removes the RAN UE that this slot resolves to as well. -/
theorem resolves_removeAttached {ue : Ref Ue} (access : AccessType) {path : AccessType}
    (hne : access ≠ path) {ngapId : Nat} {ref : Ref RanUe}
    (hslot : (world.state.ue ue).slot path = some ngapId)
    (hfind : world.state.findRanUe ngapId = some ref) :
    ((world.removeAttached ue access).state.ranUe ref).removed = true ∨
      (((world.removeAttached ue access).state.ue ue).slot path = some ngapId ∧
        (world.removeAttached ue access).state.findRanUe ngapId = some ref) := by
  rcases world.removeAttached_cases ue access with
    ⟨-, hstate⟩ | ⟨other, released, -, hfound, -, hstate⟩ | ⟨-, -, -, hstate⟩
  · rw [hstate]
    exact Or.inr ⟨hslot, hfind⟩
  · rw [hstate]
    by_cases heq : released = ref
    · left
      rw [ranUe_release, if_pos heq]
    · right
      have hregistered := hsound.pool.registered_of_find hfound
      refine ⟨?_, (hsound.pool.findRanUe_release hregistered ngapId ref).mpr ⟨hfind, Ne.symm heq⟩⟩
      rw [ue_release]
      split
      · rw [Ue.slot_unlink, hslot]
        apply Option.filter_some_pos
        simp only [ne_eq, decide_eq_true_eq]
        intro hid
        rw [hid] at hfind
        exact heq (Option.some.inj (hregistered.symm.trans hfind))
      · exact hslot
  · rw [hstate]
    right
    refine ⟨?_, ?_⟩
    · rw [ue_detach, if_pos rfl, Ue.slot_clearSlot, if_neg hne]
      exact hslot
    · rw [(world.state.samePool_detach ue access).findRanUe_eq]
      exact hfind

/-! ## Removing a UE -/

/-- Every RAN UE that a slot of a UE resolves to is removed with the UE. -/
theorem removeUe_releases {ue : Ref Ue} {access : AccessType} {ngapId : Nat} {ref : Ref RanUe}
    (hslot : (world.state.ue ue).slot access = some ngapId)
    (hfind : world.state.findRanUe ngapId = some ref) :
    ((world.removeUe ue).state.ranUe ref).removed = true := by
  rw [world.state_removeUe]
  show ((world.vacate ue).state.ranUe ref).removed = true
  have hsoundFirst := (removeAttached_steps Operation.Any hsound ue .threeGpp).1.sound hsound
  cases access with
  | threeGpp =>
      apply removed_removeAttached
      rw [removeAttached_eq_release hsound hslot hfind, ranUe_release, if_pos rfl]
  | nonThreeGpp =>
      rcases resolves_removeAttached hsound .threeGpp (by simp) hslot hfind with
        hremoved | ⟨hkept, hfound⟩
      · exact removed_removeAttached hremoved ue .nonThreeGpp
      · rw [World.vacate, removeAttached_eq_release hsoundFirst hkept hfound, ranUe_release,
          if_pos rfl]

theorem untouched_vacate {ue other : Ref Ue}
    (hid : (world.state.ue ue).id ≠ (world.state.ue other).id)
    (hseparates : world.state.Separates ue other) :
    world.state.Untouched (world.vacate ue).state other := by
  have hfirst := untouched_removeAttached hsound hid hseparates .threeGpp
  obtain ⟨hsteps, hshrinks, -⟩ := removeAttached_steps Operation.Any hsound ue .threeGpp
  have hnumbers := (sameRoster_removeAttached world ue .threeGpp).toSameNumbers
  have hseparatesFirst : (world.removeAttached ue .threeGpp).state.Separates ue other := by
    intro access ngapId ref hslot hfind hnamed
    rw [hnumbers.ue_id] at hnamed
    exact hseparates access ngapId ref (hshrinks.slot hslot) (hshrinks.pool hfind)
      (hshrinks.back hnamed)
  have hidFirst : ((world.removeAttached ue .threeGpp).state.ue ue).id ≠
      ((world.removeAttached ue .threeGpp).state.ue other).id := by
    rw [hnumbers.ue_id, hnumbers.ue_id]
    exact hid
  exact hfirst.trans (untouched_removeAttached (hsteps.sound hsound) hidFirst hseparatesFirst
    .nonThreeGpp)

/-- Removing a UE leaves another one untouched if no slot resolves to a RAN UE of the other. -/
theorem untouched_removeUe {ue other : Ref Ue}
    (hid : (world.state.ue ue).id ≠ (world.state.ue other).id)
    (hseparates : world.state.Separates ue other) :
    world.state.Untouched (world.removeUe ue).state other := by
  have hvacated := untouched_vacate hsound hid hseparates
  have hnumbers := sameNumbers_vacate_relinquish world ue
  rw [world.state_removeUe]
  refine (hvacated.trans (untouched_relinquish ?_)).trans (untouched_retire ?_ _)
  · intro heq
    exact hid (heq ▸ rfl)
  · rw [hnumbers.ue_id, hnumbers.ue_id]
    exact hid

end

/-- While slots and back references agree, the slots of a UE resolve to its own RAN UEs. -/
theorem Links.separates {state : State} (hsound : state.Sound) (hlinks : state.Links)
    {ue other : Ref Ue} (hid : (state.ue ue).id ≠ (state.ue other).id) :
    state.Separates ue other := by
  intro access ngapId ref hslot hfind hnamed
  have hresolves : ((state.ue ue).slot access).bind state.findRanUe = some ref := by
    rw [hslot]
    exact hfind
  obtain ⟨-, hback, -⟩ := (hlinks.resolves_iff hsound ue access ref).mp hresolves
  exact hid (Option.some.inj (hback.symm.trans hnamed))

end State

namespace World

open State

/-- In every state reached, detaching a UE leaves every other registered UE untouched, and removing
a UE does so exactly if none of its slots resolves to a RAN UE that names the other one. -/
theorem run_isolates (config : Config) (operations : List Operation) {ue other : Ref Ue}
    (hother : ((opened config).run operations).state.UeRegistered other) (hne : ue ≠ other) :
    let world := (opened config).run operations
    (∀ access, world.state.Untouched (world.detach ue access).state other) ∧
    (world.state.Untouched (world.removeUe ue).state other ↔
      ∀ access ngapId ref, (world.state.ue ue).slot access = some ngapId →
        world.state.findRanUe ngapId = some ref →
          (world.state.ranUe ref).ueId ≠ some (world.state.ue other).id) := by
  intro world
  have hsound : world.state.Sound := run_sound config operations
  have hid : (world.state.ue ue).id ≠ (world.state.ue other).id :=
    fun heq => hne (hsound.ue_eq_of_id hother heq)
  refine ⟨?_, ?_, ?_⟩
  · intro access
    rw [state_detach]
    exact untouched_detach hid access
  · intro huntouched access ngapId ref hslot hfind hnamed
    have hremoved := removeUe_releases hsound hslot hfind
    rw [huntouched.unchanged hnamed,
      (hsound.pool.live ref).mpr (hsound.pool.registered_of_find hfind)] at hremoved
    simp at hremoved
  · intro hseparates
    exact untouched_removeUe hsound hid hseparates

/-- Two UEs with a RAN UE each: removing the first leaves the second untouched. -/
theorem isolates_two_attached :
    let operations : List Operation :=
      [.newUe "imsi-001010000000001", .newUe "imsi-001010000000002", .newNode ⟨1⟩,
        .newRanUe ⟨0⟩ 1, .newRanUe ⟨0⟩ 2, .attach ⟨0⟩ ⟨0⟩, .attach ⟨1⟩ ⟨1⟩]
    let world := (opened Config.standard).run operations
    world.state.UeRegistered ⟨1⟩ ∧ (⟨0⟩ : Ref Ue) ≠ ⟨1⟩ ∧
      world.state.Untouched (world.removeUe ⟨0⟩).state ⟨1⟩ := by
  intro operations world
  have hregistered : world.state.UeRegistered ⟨1⟩ := by decide +kernel
  have hne : (⟨0⟩ : Ref Ue) ≠ ⟨1⟩ := by decide
  refine ⟨hregistered, hne, (run_isolates _ _ hregistered hne).2.mpr ?_⟩
  have hthreeGpp : (world.state.ue ⟨0⟩).slot .threeGpp = some 1 := by decide +kernel
  have hnonThreeGpp : (world.state.ue ⟨0⟩).slot .nonThreeGpp = none := by decide +kernel
  have hfind : world.state.findRanUe 1 = some ⟨0⟩ := by decide +kernel
  have hback : (world.state.ranUe ⟨0⟩).ueId ≠ some (world.state.ue ⟨1⟩).id := by decide +kernel
  intro access ngapId ref hslot hfound
  cases access with
  | threeGpp =>
      rw [hthreeGpp, Option.some.injEq] at hslot
      subst hslot
      rw [hfind, Option.some.injEq] at hfound
      subst hfound
      exact hback
  | nonThreeGpp =>
      rw [hnonThreeGpp] at hslot
      simp at hslot

/-- A slot that went stale when the access of a radio node changed makes the removal of one UE take
the RAN UE of another, although only registered UEs were ever attached. -/
theorem removeUe_reaches_other :
    let operations : List Operation :=
      [.newUe "imsi-1", .newUe "imsi-2", .newNode ⟨1⟩, .newRanUe ⟨0⟩ 1, .attach ⟨0⟩ ⟨0⟩,
        .setAccess ⟨0⟩ .nonThreeGpp, .attach ⟨0⟩ ⟨0⟩, .detach ⟨0⟩ .threeGpp, .attach ⟨1⟩ ⟨0⟩]
    let world := (opened Config.standard).run operations
    (opened Config.standard).Obeys Operation.AttachesRegistered operations ∧
      world.state.UeRegistered ⟨0⟩ ∧ world.state.UeRegistered ⟨1⟩ ∧
      (world.state.ranUe ⟨0⟩).ueId = some (world.state.ue ⟨1⟩).id ∧
      (world.state.ue ⟨1⟩).slot .nonThreeGpp = some 1 ∧
      ((world.removeUe ⟨0⟩).state.ranUe ⟨0⟩).removed = true ∧
      ((world.removeUe ⟨0⟩).state.ue ⟨1⟩).slot .nonThreeGpp = none ∧
      ¬ world.state.Untouched (world.removeUe ⟨0⟩).state ⟨1⟩ := by
  intro operations world
  have hobeys : (opened Config.standard).Obeys Operation.AttachesRegistered operations := by
    simp only [operations, Obeys, Operation.AttachesRegistered, true_and, and_true]
    decide +kernel
  have hslot : (world.state.ue ⟨1⟩).slot .nonThreeGpp = some 1 := by decide +kernel
  have hempty : ((world.removeUe ⟨0⟩).state.ue ⟨1⟩).slot .nonThreeGpp = none := by decide +kernel
  refine ⟨hobeys, by decide +kernel, by decide +kernel, by decide +kernel, hslot,
    by decide +kernel, hempty, ?_⟩
  intro huntouched
  rw [huntouched.same, hslot] at hempty
  simp at hempty

/-- As long as slots and back references are kept in agreement, no UE reaches another one. -/
theorem run_links_isolate {config : Config} (hvalid : config.validate = .ok ())
    {operations : List Operation}
    (hobeys : (opened config).Obeys Operation.KeepsLinks operations) {ue other : Ref Ue}
    (hother : ((opened config).run operations).state.UeRegistered other) (hne : ue ≠ other) :
    ((opened config).run operations).state.Untouched
      (((opened config).run operations).removeUe ue).state other := by
  obtain ⟨hsound, hlinks⟩ := run_keeps (fun hsound hlinks hstep => hlinks.step hsound hstep)
    (links_new (Config.ngapIds_nonneg hvalid)) hobeys
  have hid : (((opened config).run operations).state.ue ue).id ≠
      (((opened config).run operations).state.ue other).id :=
    fun heq => hne (hsound.ue_eq_of_id hother heq)
  exact untouched_removeUe hsound hid (hlinks.separates hsound hid)

end World

end AccessMobility
