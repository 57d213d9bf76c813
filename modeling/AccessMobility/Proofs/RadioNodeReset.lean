import AccessMobility.Proofs.Removal

/-!
# Resetting a radio node together with its UEs

A reset goes through the RAN UEs that a radio node held when it began.  Each is removed, and the UE
it was attached to is removed as well, which takes further RAN UEs along: those of the same radio
node that are still to come, and those that the UE has through other radio nodes.

Where slots and back references agree, the RAN UEs that go with a UE are the ones that name it, so
what one round removes can be said in advance.  The rounds then add up: what is left to be removed
after some of them, seen in the state they left, and what they removed are together what was to be
removed at the start.  No order of the rounds is singled out by this, and so the end of a reset does
not depend on it.
-/

namespace AccessMobility

namespace State

/-- Every slot of a registered UE names a RAN UE of the pool that names the UE back, and every UE
that a RAN UE of the pool names is registered and has it in a slot. -/
structure LinksAgree (state : State) : Prop where
  slot : ∀ {ue access ngapId}, state.UeRegistered ue →
    (state.ue ue).slot access = some ngapId →
    ∃ ref, state.findRanUe ngapId = some ref ∧ (state.ranUe ref).ueId = some (state.ue ue).id
  back : ∀ {ngapId ref id}, state.findRanUe ngapId = some ref →
    (state.ranUe ref).ueId = some id →
    ∃ ue access, state.findUe id = some ue ∧ (state.ue ue).slot access = some ngapId

/-- The UEs that some RAN UEs are attached to. -/
def owners (state : State) (refs : Set (Ref RanUe)) : Set (Ref Ue) :=
  {ue | ∃ ref ∈ refs, state.ueOfRanUe ref = some ue}

/-- The registered ones of some RAN UEs, with all others that are attached to their UEs. -/
def cascade (state : State) (refs : Set (Ref RanUe)) : Set (Ref RanUe) :=
  {ref | state.RanUeRegistered ref ∧
    (ref ∈ refs ∨ ∃ ue ∈ state.owners refs, state.ueOfRanUe ref = some ue)}

/-! ## Agreement of slots and back references -/

/-- Where each slot names the RAN UE that is served over its access, slots and back references
agree. -/
theorem Links.linksAgree {state : State} (hsound : state.Sound) (hlinks : state.Links) :
    state.LinksAgree where
  slot {ue access ngapId} _ hslot := by
    obtain ⟨-, ref, hfind, hback, -⟩ := (hlinks.slot_iff hsound ue access ngapId).mp hslot
    exact ⟨ref, hfind, hback⟩
  back {ngapId ref id} hfind hback := by
    obtain ⟨-, ue, hfound⟩ := hlinks.back hback
    have hregistered := hsound.pool.registered_of_find hfind
    obtain ⟨node, hnode, -⟩ := hsound.pool.bound hregistered (by simp)
    have hnamed : (state.ranUe ref).ueId = some (state.ue ue).id := by
      rw [hsound.ue_id hfound]
      exact hback
    refine ⟨ue, (state.node node).access, hfound, ?_⟩
    exact (hlinks.slot_iff hsound ..).mpr
      ⟨hsound.ueRegistered_of_find hfound, ref, hfind, hnamed, node, hnode, rfl⟩

theorem WellNumbered.ueOfRanUe_iff {state : State} (hnumbered : state.WellNumbered)
    (ref : Ref RanUe) (ue : Ref Ue) :
    state.ueOfRanUe ref = some ue ↔
      state.UeRegistered ue ∧ (state.ranUe ref).ueId = some (state.ue ue).id := by
  unfold ueOfRanUe
  rw [Option.bind_eq_some_iff]
  constructor
  · rintro ⟨id, hnamed, hfound⟩
    exact ⟨hnumbered.ueRegistered_of_find hfound, (hnumbered.ue_id hfound).symm ▸ hnamed⟩
  · rintro ⟨hregistered, hnamed⟩
    exact ⟨_, hnamed, hregistered⟩

section

variable {state next : State} {ues : Set (Ref Ue)} {ranUes : Set (Ref RanUe)}
  (hremoves : state.Removes next ues ranUes)

include hremoves

theorem Removes.slot_iff (ue : Ref Ue) (access : AccessType) (ngapId : Nat) :
    (next.ue ue).slot access = some ngapId ↔
      (state.ue ue).slot access = some ngapId ∧
        ¬ ∃ ref ∈ ranUes, state.ueOfRanUe ref = some ue ∧ (state.ranUe ref).ngapId = ngapId := by
  rw [Ue.slot, Ue.slot, Option.filter_eq_some_iff, Option.filter_eq_some_iff, hremoves.slot,
    and_right_comm]

/-- A removal keeps slots and back references in agreement. -/
theorem Removes.linksAgree (hsound : state.Sound) (hagree : state.LinksAgree) :
    next.LinksAgree where
  slot {ue access ngapId} hregistered hslot := by
    obtain ⟨hregisteredBefore, -⟩ := (hremoves.ueRegistered_iff ue).mp hregistered
    obtain ⟨hslotBefore, hspared⟩ := (hremoves.slot_iff ue access ngapId).mp hslot
    obtain ⟨ref, hfind, hback⟩ := hagree.slot hregisteredBefore hslotBefore
    have hkept : ref ∉ ranUes := by
      intro hgone
      exact hspared ⟨ref, hgone,
        (hsound.ueOfRanUe_iff ref ue).mpr ⟨hregisteredBefore, hback⟩, hsound.pool.ngapId hfind⟩
    refine ⟨ref, (hremoves.findRanUe ngapId ref).mpr ⟨hfind, hkept⟩, ?_⟩
    rw [hremoves.ranUe_kept hkept, hremoves.ue_id]
    exact hback
  back {ngapId ref id} hfind hback := by
    obtain ⟨hfindBefore, hkept⟩ := (hremoves.findRanUe ngapId ref).mp hfind
    rw [hremoves.ranUe_kept hkept] at hback
    obtain ⟨ue, access, hfound, hslot⟩ := hagree.back hfindBefore hback
    have howner : state.ueOfRanUe ref = some ue := by
      rw [ueOfRanUe, hback]
      exact hfound
    have hregistered := hsound.pool.registered_of_find hfindBefore
    refine ⟨ue, access, (hremoves.findUe id ue).mpr ⟨hfound, ?_⟩,
      (hremoves.slot_iff ue access ngapId).mpr ⟨hslot, ?_⟩⟩
    · intro hgone
      exact hkept (hremoves.closed hgone hregistered howner)
    · rintro ⟨other, hgone, -, hid⟩
      have hother : state.findRanUe (state.ranUe other).ngapId = some other :=
        hremoves.ranUes_registered other hgone
      rw [hid] at hother
      have heq : other = ref := Option.some.inj (hother.symm.trans hfindBefore)
      exact hkept (heq ▸ hgone)

/-- A UE that is removed is connected over no access. -/
theorem Removes.idle (hsound : state.Sound) (hagree : state.LinksAgree) {ue : Ref Ue}
    (hmem : ue ∈ ues) (access : AccessType) : (next.ue ue).slot access = none := by
  cases hslot : (next.ue ue).slot access with
  | none => rfl
  | some ngapId =>
      obtain ⟨hslotBefore, hspared⟩ := (hremoves.slot_iff ue access ngapId).mp hslot
      have hregistered := hremoves.ues_registered ue hmem
      obtain ⟨ref, hfind, hback⟩ := hagree.slot hregistered hslotBefore
      have howner := (hsound.ueOfRanUe_iff ref ue).mpr ⟨hregistered, hback⟩
      have hgone := hremoves.closed hmem (hsound.pool.registered_of_find hfind) howner
      exact absurd ⟨ref, hgone, howner, hsound.pool.ngapId hfind⟩ hspared

end

/-! ## Removing a UE -/

section

variable {world : World} (hsound : world.state.Sound) (hagree : world.state.LinksAgree)

include hsound hagree

/-- Over each access the RAN UE that the slot names is removed, and it names the UE back. -/
theorem removes_removeAttached {ue : Ref Ue} (hregistered : world.state.UeRegistered ue)
    (access : AccessType) :
    ∃ ranUes, world.state.Removes (world.removeAttached ue access).state ∅ ranUes ∧
      ∀ ref ∈ ranUes, world.state.ueOfRanUe ref = some ue := by
  cases hslot : (world.state.ue ue).slot access with
  | none =>
      have hstate : (world.removeAttached ue access).state = world.state := by
        unfold World.removeAttached
        simp only [hslot]
      rw [hstate]
      exact ⟨∅, Removes.refl world.state, fun ref hmem => absurd hmem (Set.notMem_empty ref)⟩
  | some ngapId =>
      obtain ⟨ref, hfind, hback⟩ := hagree.slot hregistered hslot
      rw [removeAttached_eq_release hsound hslot hfind]
      refine ⟨{ref}, removes_release hsound (hsound.pool.registered_of_find hfind), ?_⟩
      intro other hmem
      rw [Set.mem_singleton_iff] at hmem
      subst hmem
      exact (hsound.ueOfRanUe_iff other ue).mpr ⟨hregistered, hback⟩

/-- After both accesses every RAN UE that names the UE is gone. -/
theorem removes_vacate {ue : Ref Ue} (hregistered : world.state.UeRegistered ue) :
    world.state.Removes (world.vacate ue).state ∅
      {ref | world.state.RanUeRegistered ref ∧ world.state.ueOfRanUe ref = some ue} := by
  obtain ⟨ranUes, hfirst, howned⟩ := removes_removeAttached hsound hagree hregistered .threeGpp
  have hsoundFirst :=
    (removeAttached_steps Operation.Any hsound ue .threeGpp).1.sound hsound
  have hagreeFirst := hfirst.linksAgree hsound hagree
  have hregisteredFirst := (hfirst.ueRegistered_iff ue).mpr ⟨hregistered, Set.notMem_empty ue⟩
  obtain ⟨more, hsecond, hownedMore⟩ :=
    removes_removeAttached hsoundFirst hagreeFirst hregisteredFirst .nonThreeGpp
  have hboth := hfirst.trans hsecond
  have hset : ranUes ∪ more =
      {ref | world.state.RanUeRegistered ref ∧ world.state.ueOfRanUe ref = some ue} := by
    apply Set.Subset.antisymm
    · intro ref hmem
      refine ⟨hboth.ranUes_registered ref hmem, ?_⟩
      rcases hmem with hmem | hmem
      · exact howned ref hmem
      · exact ((hfirst.ueOfRanUe_iff ref ue).mp (hownedMore ref hmem)).1
    · rintro ref ⟨hfound, howner⟩
      by_contra hkept
      have hfoundAfter := (hboth.ranUeRegistered_iff ref).mpr ⟨hfound, hkept⟩
      have hownerAfter := (hboth.ueOfRanUe_kept hfoundAfter ue).mpr howner
      obtain ⟨id, hback, hue⟩ := Option.bind_eq_some_iff.mp hownerAfter
      obtain ⟨other, access, hother, hslot⟩ :=
        (hsecond.linksAgree hsoundFirst hagreeFirst).back hfoundAfter hback
      have heq : other = ue := Option.some.inj (hother.symm.trans hue)
      rw [heq] at hslot
      have hvacant := (vacate_steps Operation.Any hsound ue).2 access _ hslot
      have hnone : none = some ref := hvacant.symm.trans hfoundAfter
      simp at hnone
  rw [hset, Set.union_self] at hboth
  exact hboth

omit hsound hagree in
theorem WellNumbered.indexWithoutUe_iff {state : State} (hnumbered : state.WellNumbered)
    (ue : Ref Ue) (supi : String) (id : Nat) :
    (state.indexWithoutUe ue)[supi]? = some id ↔
      state.registry.supiIndex[supi]? = some id ∧ (state.ue ue).id ≠ id := by
  constructor
  · intro hentry
    obtain ⟨hold, hne⟩ := hnumbered.indexWithoutUe ue supi id hentry
    exact ⟨hold, Ne.symm hne⟩
  · rintro ⟨hentry, hne⟩
    unfold State.indexWithoutUe
    split
    · exact hentry
    · rw [Table.lookup_eraseIf]
      refine ⟨hentry, ?_⟩
      rintro ⟨-, heq⟩
      exact hne (of_decide_eq_true heq).symm

omit hsound hagree in
theorem ue_relinquish (state : State) (ue other : Ref Ue) :
    (state.relinquish ue).ue other =
      if ue = other then { state.ue ue with tmsi := none, subscriptions := ∅ }
      else state.ue other := by
  have hlast : (state.relinquish ue).ue other =
      if ue = other then { (state.surrender ue).ue ue with subscriptions := ∅ }
      else (state.surrender ue).ue other := ue_setUe ..
  have hfirst (other : Ref Ue) : (state.surrender ue).ue other =
      if ue = other then { state.ue ue with tmsi := none } else state.ue other := ue_setUe ..
  rw [hlast, hfirst, hfirst, if_pos rfl]
  split <;> rfl

omit hsound hagree in
theorem returns_relinquish {state : State} (htmsis : state.registry.tmsis.Bounded) (ue : Ref Ue) :
    state.registry.tmsis.Returns (state.relinquish ue).registry.tmsis (state.tmsisOf {ue}) := by
  show state.registry.tmsis.Returns
    ((state.ue ue).tmsi.elim state.registry.tmsis state.registry.tmsis.free) _
  cases htmsi : (state.ue ue).tmsi with
  | none =>
      have hnone : state.tmsisOf {ue} = ∅ := by simp [tmsisOf, htmsi]
      rw [hnone]
      exact IdPool.Returns.refl _
  | some tmsi =>
      have hsingle : state.tmsisOf {ue} = {tmsi} := by
        ext other
        simp [tmsisOf, htmsi, eq_comm]
      rw [hsingle]
      exact htmsis.returns_free tmsi

omit hsound hagree in
/-- A UE that nothing names any more is removed alone. -/
theorem removes_retire {state : State} (hnumbered : state.WellNumbered)
    (htmsis : state.registry.tmsis.Bounded) {ue : Ref Ue} (hregistered : state.UeRegistered ue)
    (hbare : ∀ ref, state.RanUeRegistered ref → state.ueOfRanUe ref ≠ some ue) :
    state.Removes ((state.relinquish ue).retire ue ((state.relinquish ue).indexWithoutUe ue))
      {ue} ∅ := by
  have hsame := state.sameWiring_relinquish ue
  have hue (other : Ref Ue) :
      ((state.relinquish ue).retire ue ((state.relinquish ue).indexWithoutUe ue)).ue other =
        if ue = other then { state.ue ue with tmsi := none, subscriptions := ∅ }
        else state.ue other := state.ue_relinquish ue other
  constructor
  case ues_registered =>
    intro other hmem
    rw [Set.mem_singleton_iff] at hmem
    exact hmem ▸ hregistered
  case ranUes_registered =>
    intro ref hmem
    exact absurd hmem (Set.notMem_empty ref)
  case closed =>
    intro other ref hmem hfound howner
    rw [Set.mem_singleton_iff] at hmem
    subst hmem
    exact absurd howner (hbare ref hfound)
  case ue_kept =>
    intro other hmem
    rw [hue, if_neg (Ne.symm hmem)]
  case ue_gone =>
    intro other hmem
    rw [Set.mem_singleton_iff] at hmem
    subst hmem
    rw [hue, if_pos rfl]
  case slot =>
    intro other access ngapId
    have hslots := hsame.ue_slots other
    show ((state.relinquish ue).ue other).slots.get access = some ngapId ↔ _
    rw [hslots]
    simp
  case ranUe_kept =>
    intro ref _
    rfl
  case ranUe_gone =>
    intro ref hmem
    exact absurd hmem (Set.notMem_empty ref)
  case node =>
    intro node
    rfl
  case collections =>
    intro node key ref
    exact (and_iff_left (Set.notMem_empty ref)).symm
  case created =>
    rfl
  case findUe =>
    intro id other
    rw [findUe_retire, hsame.ue_id, findUe, hsame.ues, Set.mem_singleton_iff]
    split
    next heq =>
      simp only [reduceCtorEq, false_iff, not_and, Decidable.not_not]
      intro hfound
      rw [← heq] at hfound
      exact Option.some.inj (hfound.symm.trans hregistered)
    next hne =>
      refine ⟨fun hfound => ⟨hfound, ?_⟩, And.left⟩
      intro heq
      exact hne (heq ▸ hnumbered.ue_id hfound)
  case supiIndex =>
    intro supi id
    have hindex := (hnumbered.congr hsame.toSameNumbers).indexWithoutUe_iff ue supi id
    rw [hsame.supiIndex, hsame.ue_id] at hindex
    simp only [Set.mem_singleton_iff, forall_eq]
    exact hindex
  case findRanUe =>
    intro id ref
    exact (and_iff_left (Set.notMem_empty ref)).symm
  case tmsis =>
    exact returns_relinquish htmsis ue
  case tmsis_kept =>
    intro hnone
    exact absurd hnone (Set.singleton_ne_empty ue)
  case ngapIds =>
    rw [ngapIdsOf_empty]
    exact IdPool.Returns.refl _
  case registry =>
    rfl

/-- A UE is removed together with exactly the RAN UEs that name it. -/
theorem removes_removeUe (htmsis : world.state.registry.tmsis.Bounded) {ue : Ref Ue}
    (hregistered : world.state.UeRegistered ue) :
    world.state.Removes (world.removeUe ue).state {ue}
      {ref | world.state.RanUeRegistered ref ∧ world.state.ueOfRanUe ref = some ue} := by
  have hvacate := removes_vacate hsound hagree hregistered
  have hsoundVacated := (vacate_steps Operation.Any hsound ue).1.sound hsound
  have hregisteredVacated :=
    (hvacate.ueRegistered_iff ue).mpr ⟨hregistered, Set.notMem_empty ue⟩
  have hretire := removes_retire hsoundVacated.toWellNumbered (hvacate.tmsis.bounded htmsis)
    hregisteredVacated ?_
  · have hboth := hvacate.trans hretire
    rw [Set.empty_union, Set.union_empty] at hboth
    rw [world.state_removeUe]
    exact hboth
  · intro ref hfound howner
    obtain ⟨hfoundBefore, hkept⟩ := (hvacate.ranUeRegistered_iff ref).mp hfound
    exact hkept ⟨hfoundBefore, (hvacate.ueOfRanUe_kept hfound ue).mp howner⟩

end

/-! ## One round of a reset -/

/-- A RAN UE of no UE leads to itself only. -/
theorem cascade_unattached {state : State} {ref : Ref RanUe}
    (hnone : state.ueOfRanUe ref = none) :
    state.owners {ref} = ∅ ∧
      state.cascade {ref} = {other | state.RanUeRegistered other ∧ other = ref} := by
  constructor
  · ext ue
    simp [owners, hnone]
  · ext other
    simp [cascade, owners, hnone]

/-- A RAN UE of a UE leads to this UE and to all that is attached to it. -/
theorem cascade_attached {state : State} {ref : Ref RanUe} {ue : Ref Ue}
    (howner : state.ueOfRanUe ref = some ue) :
    state.owners {ref} = {ue} ∧
      state.cascade {ref} = {other | state.RanUeRegistered other ∧
        (other = ref ∨ state.ueOfRanUe other = some ue)} := by
  constructor
  · ext other
    simp [owners, howner, eq_comm]
  · ext other
    simp [cascade, owners, howner]

/-- What is attached to a UE after some RAN UEs have gone, and these RAN UEs, are together these RAN
UEs and what was attached to the UE before. -/
theorem Removes.attached_union {state next : State} {ranUes : Set (Ref RanUe)}
    (hremoves : state.Removes next ∅ ranUes) (ue : Ref Ue) :
    ranUes ∪ {ref | next.RanUeRegistered ref ∧ next.ueOfRanUe ref = some ue} =
      ranUes ∪ {ref | state.RanUeRegistered ref ∧ state.ueOfRanUe ref = some ue} := by
  ext ref
  by_cases hgone : ref ∈ ranUes
  · exact iff_of_true (Or.inl hgone) (Or.inl hgone)
  · apply or_congr_right
    constructor
    · rintro ⟨hregistered, howner⟩
      exact ⟨((hremoves.ranUeRegistered_iff ref).mp hregistered).1,
        (hremoves.ueOfRanUe_kept hregistered ue).mp howner⟩
    · rintro ⟨hregistered, howner⟩
      have hkept := (hremoves.ranUeRegistered_iff ref).mpr ⟨hregistered, hgone⟩
      exact ⟨hkept, (hremoves.ueOfRanUe_kept hkept ue).mpr howner⟩

/-- A round removes one RAN UE, the UE it is attached to, and whatever else is attached to this. -/
theorem removes_dropRanUe {world : World} (hsound : world.state.Sound)
    (hagree : world.state.LinksAgree) (htmsis : world.state.registry.tmsis.Bounded)
    (node : Ref RadioNode) (entry : Int × Ref RanUe) :
    world.state.Removes (world.dropRanUe node true entry).state (world.state.owners {entry.2})
      (world.state.cascade {entry.2}) := by
  obtain ⟨key, ref⟩ := entry
  have hevict := removes_evict hsound node key ref
  have hsteps : Steps Operation.Any world.state (world.takeOut node key ref).state :=
    takeOut_steps hsound node key ref
  rw [← world.state_takeOut] at hevict
  dsimp only [World.dropRanUe]
  rw [if_pos rfl]
  generalize world.takeOut node key ref = dropped at hevict hsteps ⊢
  cases howner : world.state.ueOfRanUe ref with
  | none =>
      obtain ⟨hues, hranUes⟩ := cascade_unattached howner
      rw [hues, hranUes]
      exact hevict
  | some ue =>
      obtain ⟨hues, hranUes⟩ := cascade_attached howner
      have hregistered := ((hsound.ueOfRanUe_iff ref ue).mp howner).1
      have hremoved := removes_removeUe (hsteps.sound hsound) (hevict.linksAgree hsound hagree)
        (hevict.tmsis.bounded htmsis)
        ((hevict.ueRegistered_iff ue).mpr ⟨hregistered, Set.notMem_empty ue⟩)
      have hboth := hevict.trans hremoved
      rw [Set.empty_union, hevict.attached_union ue] at hboth
      rw [hues, hranUes]
      convert hboth using 1
      ext other
      exact and_or_left

/-! ## All rounds -/

section

variable {state next : State} {refs : Set (Ref RanUe)}
  (hremoves : state.Removes next (state.owners refs) (state.cascade refs))

include hremoves

/-- The UEs still to be removed are those that other RAN UEs lead to in the state reached. -/
theorem Removes.owners_union (more : Set (Ref RanUe)) :
    state.owners (refs ∪ more) = state.owners refs ∪ next.owners more := by
  apply Set.Subset.antisymm
  · rintro ue ⟨ref, hmem, howner⟩
    by_cases hgone : ue ∈ state.owners refs
    · exact Or.inl hgone
    · have hkept : ref ∉ state.cascade refs := by
        rintro ⟨-, hstart | ⟨other, hother, hsame⟩⟩
        · exact hgone ⟨ref, hstart, howner⟩
        · rw [howner, Option.some.injEq] at hsame
          exact hgone (hsame ▸ hother)
      have hstart : ref ∉ refs := fun hstart => hgone ⟨ref, hstart, howner⟩
      exact Or.inr ⟨ref, hmem.resolve_left hstart,
        (hremoves.ueOfRanUe_iff ref ue).mpr ⟨howner, hkept, hgone⟩⟩
  · rintro ue (⟨ref, hmem, howner⟩ | ⟨ref, hmem, howner⟩)
    · exact ⟨ref, Or.inl hmem, howner⟩
    · exact ⟨ref, Or.inr hmem, ((hremoves.ueOfRanUe_iff ref ue).mp howner).1⟩

theorem Removes.cascade_union (more : Set (Ref RanUe)) :
    state.cascade (refs ∪ more) = state.cascade refs ∪ next.cascade more := by
  have howners := hremoves.owners_union more
  apply Set.Subset.antisymm
  · rintro ref ⟨hregistered, hreached⟩
    by_cases hgone : ref ∈ state.cascade refs
    · exact Or.inl hgone
    · have hkept := (hremoves.ranUeRegistered_iff ref).mpr ⟨hregistered, hgone⟩
      right
      refine ⟨hkept, ?_⟩
      rcases hreached with (hstart | hmore) | ⟨ue, hue, howner⟩
      · exact absurd ⟨hregistered, Or.inl hstart⟩ hgone
      · exact Or.inl hmore
      · rw [howners] at hue
        rcases hue with hue | hue
        · exact absurd ⟨hregistered, Or.inr ⟨ue, hue, howner⟩⟩ hgone
        · exact Or.inr ⟨ue, hue, (hremoves.ueOfRanUe_kept hkept ue).mpr howner⟩
  · rintro ref (⟨hregistered, hreached⟩ | ⟨hregistered, hreached⟩)
    · refine ⟨hregistered, ?_⟩
      rw [howners]
      rcases hreached with hstart | ⟨ue, hue, howner⟩
      · exact Or.inl (Or.inl hstart)
      · exact Or.inr ⟨ue, Or.inl hue, howner⟩
    · refine ⟨((hremoves.ranUeRegistered_iff ref).mp hregistered).1, ?_⟩
      rw [howners]
      rcases hreached with hmore | ⟨ue, hue, howner⟩
      · exact Or.inl (Or.inr hmore)
      · exact Or.inr ⟨ue, Or.inr hue, (hremoves.ueOfRanUe_kept hregistered ue).mp howner⟩

end

/-- The rounds of a reset, one for each entry, remove together what the entries lead to at the
start, although later rounds meet RAN UEs that earlier ones have removed. -/
theorem removes_dropRanUes {world : World} (hsound : world.state.Sound)
    (hagree : world.state.LinksAgree) (htmsis : world.state.registry.tmsis.Bounded)
    (node : Ref RadioNode) (entries : List (Int × Ref RanUe)) :
    world.state.Removes (world.dropRanUes node true entries).state
      (world.state.owners {ref | ref ∈ entries.map Prod.snd})
      (world.state.cascade {ref | ref ∈ entries.map Prod.snd}) := by
  unfold World.dropRanUes
  induction entries generalizing world with
  | nil =>
      have hues : world.state.owners {ref | ref ∈ ([] : List (Int × Ref RanUe)).map Prod.snd} =
          ∅ := by simp [owners]
      have hranUes : world.state.cascade
          {ref | ref ∈ ([] : List (Int × Ref RanUe)).map Prod.snd} = ∅ := by
        simp [cascade, owners]
      rw [hues, hranUes]
      exact Removes.refl world.state
  | cons entry rest ih =>
      have hround := removes_dropRanUe hsound hagree htmsis node entry
      have hsteps : Steps Operation.Any world.state (world.dropRanUe node true entry).state :=
        dropRanUe_steps hsound node true entry
      have hrest := ih (hsteps.sound hsound) (hround.linksAgree hsound hagree)
        (hround.tmsis.bounded htmsis)
      have hrefs : {ref | ref ∈ (entry :: rest).map Prod.snd} =
          {entry.2} ∪ {ref | ref ∈ rest.map Prod.snd} := by
        ext ref
        simp
      rw [List.foldl_cons, hrefs, hround.owners_union, hround.cascade_union]
      exact hround.trans hrest

/-! ## What a reset leaves behind -/

/-- A UE has left the registry and keeps nothing of it. -/
structure Deregistered (state next : State) (ue : Ref Ue) : Prop where
  unregistered : ¬ next.UeRegistered ue
  unindexed : ∀ supi : String, next.registry.supiIndex[supi]? ≠ some (state.ue ue).id
  freed : ∀ tmsi, (state.ue ue).tmsi = some tmsi → ¬ next.registry.tmsis.Outstanding tmsi
  tmsi : (next.ue ue).tmsi = none
  subscriptions : (next.ue ue).subscriptions = ∅
  idle : ∀ access, ¬ (next.ue ue).Connected access

theorem Removes.deregistered {state next : State} {ues : Set (Ref Ue)} {ranUes : Set (Ref RanUe)}
    (hremoves : state.Removes next ues ranUes) (hsound : state.Sound) (hagree : state.LinksAgree)
    {ue : Ref Ue} (hmem : ue ∈ ues) : state.Deregistered next ue where
  unregistered hregistered := ((hremoves.ueRegistered_iff ue).mp hregistered).2 hmem
  unindexed supi hentry := ((hremoves.supiIndex supi _).mp hentry).2 ue hmem rfl
  freed tmsi hsome hout := ((hremoves.tmsis.outstanding tmsi).mp hout).2 ⟨ue, hmem, hsome⟩
  tmsi := by rw [hremoves.ue_gone hmem]
  subscriptions := by rw [hremoves.ue_gone hmem]
  idle access hconnected := by
    rw [Ue.Connected, hremoves.idle hsound hagree hmem access] at hconnected
    simp at hconnected

section

variable {state next : State} {node : Ref RadioNode}
  (hremoves : state.Removes next (state.owners (state.held node))
    (state.cascade (state.held node)))

include hremoves

theorem Removes.collection_empty (hsound : state.Sound) : (next.node node).ranUes = ∅ := by
  apply Table.eq_empty
  intro key ref hentry
  obtain ⟨hbefore, hkept⟩ := (hremoves.collections node key ref).mp hentry
  exact hkept ⟨(hsound.pool.held hbefore).1, Or.inl ⟨key, hbefore⟩⟩

theorem Removes.ue_spared {ue : Ref Ue} (hmem : ue ∉ state.owners (state.held node)) :
    next.ue ue = state.ue ue := by
  apply hremoves.ue_eq hmem
  rintro ref ⟨-, hstart | ⟨other, hother, hsame⟩⟩ howner
  · exact hmem ⟨ref, hstart, howner⟩
  · rw [howner, Option.some.injEq] at hsame
    exact hmem (hsame ▸ hother)

end

/-- Going through the collection of a radio node in any order removes what the collection leads
to. -/
theorem removes_reset {world : World} (hsound : world.state.Sound)
    (hagree : world.state.LinksAgree) (htmsis : world.state.registry.tmsis.Bounded)
    {node : Ref RadioNode} {order : List (Int × Ref RanUe)}
    (horder : order.Perm (world.state.node node).ranUes.toList) :
    world.state.Removes (world.dropRanUes node true order).state
      (world.state.owners (world.state.held node))
      (world.state.cascade (world.state.held node)) := by
  have hrounds := removes_dropRanUes hsound hagree htmsis node order
  rw [refs_of_perm horder] at hrounds
  exact hrounds

/-- The call itself goes through the keys in ascending order. -/
theorem removes_removeAllRanUes {world : World} (hsound : world.state.Sound)
    (hagree : world.state.LinksAgree) (htmsis : world.state.registry.tmsis.Bounded)
    (node : Ref RadioNode) :
    world.state.Removes (world.removeAllRanUes node true).state
      (world.state.owners (world.state.held node))
      (world.state.cascade (world.state.held node)) := by
  obtain ⟨noted, hnoted, hdrops⟩ := world.removeAllRanUes_drops node true
  rw [hdrops]
  rw [← hnoted] at hsound hagree htmsis ⊢
  exact removes_reset hsound hagree htmsis (List.Perm.refl _)

end State

namespace World

open State

/-- A reset with UEs empties the collection of a radio node, deregisters exactly the UEs that a
RAN UE of it is attached to, and removes exactly its RAN UEs and those attached to these UEs.  The
state is the same for all orders, but for the queues of the id pools. -/
theorem run_reset (config : Config) (operations : List Operation) (node : Ref RadioNode)
    (hagree : ((opened config).run operations).state.LinksAgree) :
    let world := (opened config).run operations
    let state := world.state
    let ues := state.owners (state.held node)
    let ranUes := state.cascade (state.held node)
    ∀ order : List (Int × Ref RanUe), order.Perm (state.node node).ranUes.toList →
      let next := (world.dropRanUes node true order).state
      (next.node node).ranUes = ∅ ∧
      (∀ ue, next.UeRegistered ue ↔ state.UeRegistered ue ∧ ue ∉ ues) ∧
      (∀ ue ∈ ues, state.Deregistered next ue) ∧
      (∀ ref, next.RanUeRegistered ref ↔ state.RanUeRegistered ref ∧ ref ∉ ranUes) ∧
      (∀ ue, ue ∉ ues → next.ue ue = state.ue ue) ∧
      (∀ ref, ref ∉ ranUes → next.ranUe ref = state.ranUe ref) ∧
      state.Removes next ues ranUes ∧
      next.LinksAgree ∧
      next.EqualUpToOrder (world.removeAllRanUes node true).state ∧
      ∀ other : List (Int × Ref RanUe), other.Perm (state.node node).ranUes.toList →
        next.EqualUpToOrder (world.dropRanUes node true other).state := by
  intro world state ues ranUes order horder next
  have hsound : state.Sound := run_sound config operations
  have htmsis : state.registry.tmsis.Bounded := run_tmsis_bounded config operations
  have hremoves : state.Removes next ues ranUes := removes_reset hsound hagree htmsis horder
  have hsame {other : State} (hother : state.Removes other ues ranUes) :
      next.EqualUpToOrder other :=
    Removes.equalUpToOrder htmsis.toValid hsound.pool.pool_valid hremoves hother
  refine ⟨hremoves.collection_empty hsound, hremoves.ueRegistered_iff, ?_,
    hremoves.ranUeRegistered_iff, ?_, ?_, hremoves, hremoves.linksAgree hsound hagree, ?_, ?_⟩
  · intro ue hmem
    exact hremoves.deregistered hsound hagree hmem
  · intro ue hmem
    exact hremoves.ue_spared hmem
  · intro ref hmem
    exact hremoves.ranUe_kept hmem
  · exact hsame (removes_removeAllRanUes hsound hagree htmsis node)
  · intro other hother
    exact hsame (removes_reset hsound hagree htmsis hother)

/-- A UE is attached through two radio nodes, and one of these holds a RAN UE of nobody besides: the
reset of that radio node takes both RAN UEs of the UE along and leaves the other UE of the other
radio node alone. -/
theorem reset_reaches_other_node :
    let operations : List Operation :=
      [.newUe "imsi-001010000000001", .newUe "imsi-001010000000002", .newNode ⟨1⟩, .newNode ⟨2⟩,
        .setAccess ⟨1⟩ .nonThreeGpp, .newRanUe ⟨0⟩ 1, .newRanUe ⟨0⟩ 2, .newRanUe ⟨1⟩ 1,
        .newRanUe ⟨1⟩ 2, .attach ⟨0⟩ ⟨0⟩, .attach ⟨0⟩ ⟨2⟩, .attach ⟨1⟩ ⟨3⟩]
    let world := (opened Config.standard).run operations
    let order : List (Int × Ref RanUe) := [(2, ⟨1⟩), (1, ⟨0⟩)]
    let next := (world.dropRanUes ⟨0⟩ true order).state
    world.state.LinksAgree ∧ order.Perm (world.state.node ⟨0⟩).ranUes.toList ∧
      ¬ next.UeRegistered ⟨0⟩ ∧ ¬ next.RanUeRegistered ⟨2⟩ ∧
      next.UeRegistered ⟨1⟩ ∧ next.RanUeRegistered ⟨3⟩ ∧ next.LinksAgree ∧
      next.EqualUpToOrder (world.removeAllRanUes ⟨0⟩ true).state := by
  intro operations world order next
  have hvalid : Config.standard.validate = .ok () := rfl
  have hobeys : (opened Config.standard).Obeys Operation.KeepsLinks operations := by
    simp only [operations, Obeys, Operation.KeepsLinks, true_and, and_true]
    exact ⟨Or.inr (by decide +kernel), by decide +kernel, by decide +kernel, by decide +kernel⟩
  obtain ⟨hsound, hlinks⟩ : world.state.Sound ∧ world.state.Links :=
    run_keeps (fun hsound hlinks hstep => hlinks.step hsound hstep)
      (links_new (Config.ngapIds_nonneg hvalid)) hobeys
  have hagree : world.state.LinksAgree := hlinks.linksAgree hsound
  have htoList : (world.state.node ⟨0⟩).ranUes.toList = [(1, ⟨0⟩), (2, ⟨1⟩)] := by decide +kernel
  have horder : order.Perm (world.state.node ⟨0⟩).ranUes.toList := by
    rw [htoList]
    exact List.Perm.swap ..
  obtain ⟨-, hues, -, hranUes, -, -, -, hagreeNext, hsame, -⟩ :=
    run_reset Config.standard operations ⟨0⟩ hagree order horder
  have hentry : world.state.findRanUeByKey ⟨0⟩ 1 = some ⟨0⟩ := by decide +kernel
  have hfirst : world.state.ueOfRanUe ⟨0⟩ = some ⟨0⟩ := by decide +kernel
  have hsecond : world.state.ueOfRanUe ⟨1⟩ = none := by decide +kernel
  have hthird : world.state.ueOfRanUe ⟨2⟩ = some ⟨0⟩ := by decide +kernel
  have hfourth : world.state.ueOfRanUe ⟨3⟩ = some ⟨1⟩ := by decide +kernel
  have hfound : world.state.RanUeRegistered ⟨2⟩ := by decide +kernel
  have howner : (⟨0⟩ : Ref Ue) ∈ world.state.owners (world.state.held ⟨0⟩) :=
    ⟨⟨0⟩, ⟨1, hentry⟩, hfirst⟩
  have hheld (ref : Ref RanUe) (hmem : ref ∈ world.state.held ⟨0⟩) : ref = ⟨0⟩ ∨ ref = ⟨1⟩ := by
    obtain ⟨key, hfiled⟩ := hmem
    have hlisted := Std.ExtTreeMap.mem_toList_iff_getElem?_eq_some.mpr hfiled
    rw [htoList] at hlisted
    simp only [List.mem_cons, List.not_mem_nil, or_false, Prod.mk.injEq] at hlisted
    rcases hlisted with ⟨-, heq⟩ | ⟨-, heq⟩
    · exact Or.inl heq
    · exact Or.inr heq
  have hspared : (⟨1⟩ : Ref Ue) ∉ world.state.owners (world.state.held ⟨0⟩) := by
    rintro ⟨ref, hmem, hnamed⟩
    rcases hheld ref hmem with heq | heq
    · rw [heq, hfirst] at hnamed
      simp at hnamed
    · rw [heq, hsecond] at hnamed
      simp at hnamed
  have hkept : (⟨3⟩ : Ref RanUe) ∉ world.state.cascade (world.state.held ⟨0⟩) := by
    rintro ⟨-, hmem | ⟨ue, hue, hnamed⟩⟩
    · rcases hheld _ hmem with heq | heq <;> simp at heq
    · rw [hfourth, Option.some.injEq] at hnamed
      exact hspared (hnamed ▸ hue)
  have hgone : ¬ next.UeRegistered ⟨0⟩ := fun hregistered => ((hues _).mp hregistered).2 howner
  have htaken : ¬ next.RanUeRegistered ⟨2⟩ := fun hregistered =>
    ((hranUes _).mp hregistered).2 ⟨hfound, Or.inr ⟨⟨0⟩, howner, hthird⟩⟩
  have hother : next.UeRegistered ⟨1⟩ := (hues _).mpr ⟨by decide +kernel, hspared⟩
  have hleft : next.RanUeRegistered ⟨3⟩ := (hranUes _).mpr ⟨by decide +kernel, hkept⟩
  exact ⟨hagree, horder, hgone, htaken, hother, hleft, hagreeNext, hsame⟩

end World

end AccessMobility
