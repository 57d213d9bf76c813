import AccessMobility.Proofs.UeIsolation

/-!
# UEs that have left the registry

A UE that was removed, or replaced under its SUPI, never comes back: its pool id is not given out
again.  Its handle can still be passed to a call.  A RAN UE that was removed and a radio node that
was closed are refused by the calls that take them, but whether a UE is registered is looked at
nowhere.  This file says, for each call on a UE, exactly when it leaves the registry and every
registered object as they were although the UE is gone.
-/

namespace AccessMobility

namespace State

/-! ## A UE that is gone stays away -/

/-- A UE that was created and is not registered. -/
def Gone (state : State) (ue : Ref Ue) : Prop :=
  ue.number < state.created.1 ∧ ¬ state.UeRegistered ue

theorem Gone.enrol {state : State} (hnumbered : state.WellNumbered) {ue : Ref Ue}
    (hgone : state.Gone ue) (supi : String) (tmsi : Option Int) (guti : Option String) :
    ¬ (state.enrol supi tmsi guti).UeRegistered ue := by
  obtain ⟨hcreated, hunregistered⟩ := hgone
  rw [UeRegistered, ue_enrol, if_neg (Store.ne_fresh hcreated), findUe_enrol,
    if_neg (Nat.ne_of_gt (hnumbered.ue_lt ue))]
  exact hunregistered

theorem Gone.retire {state : State} {ue : Ref Ue} (hgone : state.Gone ue) (other : Ref Ue)
    (supiIndex : Table String Nat) : ¬ (state.retire other supiIndex).UeRegistered ue := by
  show (state.retire other supiIndex).findUe (state.ue ue).id ≠ some ue
  rw [findUe_retire]
  split
  · simp
  · exact hgone.2

theorem Gone.step {allowed : State → Operation → Prop} {state next : State}
    (hnumbered : state.WellNumbered) {ue : Ref Ue} (hgone : state.Gone ue)
    (hstep : Step allowed state next) : next.Gone ue := by
  refine ⟨Nat.lt_of_lt_of_le hgone.1 hstep.created_le.1, ?_⟩
  cases hstep.renumbers with
  | same hsame =>
      rw [hsame.ueRegistered_iff]
      exact hgone.2
  | enrol supi tmsi guti => exact hgone.enrol hnumbered supi tmsi guti
  | retire hindex => exact hgone.retire _ _
  | openNode connection => exact hgone.2
  | closeNode hindex => exact hgone.2

end State

namespace World

open State

/-- Once a UE is gone, no call registers it again. -/
theorem gone_run {world : World} (hsound : world.state.Sound) {ue : Ref Ue}
    (hgone : world.state.Gone ue) (operations : List Operation) :
    (world.run operations).state.Gone ue :=
  (keeps_run (motive := fun state => state.Gone ue)
    (fun hsound hgone hstep => hgone.step hsound.toWellNumbered hstep) hsound hgone
    (obeys_any world operations)).2

end World

namespace State

/-! ## What a call on such a UE leaves alone -/

/-- The registry and every object it holds are the same in two states, and so is every radio node,
registered or not. -/
structure KeepsOthers (state next : State) : Prop where
  registry : next.registry = state.registry
  ues : ∀ ref, state.UeRegistered ref → next.ue ref = state.ue ref
  nodes : next.node = state.node
  ranUes : ∀ ref, state.RanUeRegistered ref → next.ranUe ref = state.ranUe ref

theorem KeepsOthers.refl (state : State) : state.KeepsOthers state where
  registry := rfl
  ues _ _ := rfl
  nodes := rfl
  ranUes _ _ := rfl

/-- Two states that differ at most in one UE and in the pool of 5G-TMSIs. -/
structure OnlyUe (state next : State) (ue : Ref Ue) : Prop where
  registry : next.registry = { state.registry with tmsis := next.registry.tmsis }
  ues : ∀ other, ue ≠ other → next.ue other = state.ue other
  nodes : next.node = state.node
  ranUes : next.ranUe = state.ranUe

theorem OnlyUe.refl (state : State) (ue : Ref Ue) : state.OnlyUe state ue where
  registry := rfl
  ues _ _ := rfl
  nodes := rfl
  ranUes := rfl

theorem OnlyUe.trans {first second third : State} {ue : Ref Ue} (hfirst : first.OnlyUe second ue)
    (hsecond : second.OnlyUe third ue) : first.OnlyUe third ue where
  registry := by
    rw [hsecond.registry, hfirst.registry]
  ues other hne := (hsecond.ues other hne).trans (hfirst.ues other hne)
  nodes := hsecond.nodes.trans hfirst.nodes
  ranUes := hsecond.ranUes.trans hfirst.ranUes

theorem ne_of_unregistered {state : State} {ue other : Ref Ue} (hgone : ¬ state.UeRegistered ue)
    (hother : state.UeRegistered other) : ue ≠ other := by
  intro heq
  exact hgone (heq ▸ hother)

theorem OnlyUe.keepsOthers_iff {state next : State} {ue : Ref Ue} (honly : state.OnlyUe next ue)
    (hgone : ¬ state.UeRegistered ue) :
    state.KeepsOthers next ↔ next.registry.tmsis = state.registry.tmsis := by
  constructor
  · intro hkeeps
    rw [hkeeps.registry]
  · intro htmsis
    exact {
      registry := by rw [honly.registry, htmsis]
      ues := fun other hother => honly.ues other (ne_of_unregistered hgone hother)
      nodes := honly.nodes
      ranUes := fun ref _ => by rw [honly.ranUes] }

theorem onlyUe_setUe (state : State) (ref : Ref Ue) (ue : Ue) :
    state.OnlyUe (state.setUe ref ue) ref where
  registry := rfl
  ues other hne := by rw [ue_setUe, if_neg hne]
  nodes := rfl
  ranUes := rfl

theorem onlyUe_withTmsis (state : State) (tmsis : IdPool) (ref : Ref Ue) :
    state.OnlyUe (state.withTmsis tmsis) ref where
  registry := rfl
  ues _ _ := rfl
  nodes := rfl
  ranUes := rfl

/-! ## Detaching -/

theorem keepsOthers_detach_iff {state : State} (hsound : state.Sound) {ue : Ref Ue}
    (hgone : ¬ state.UeRegistered ue) (access : AccessType) :
    state.KeepsOthers (state.detach ue access) ↔
      ∀ ngapId ref, (state.ue ue).slot access = some ngapId →
        state.findRanUe ngapId = some ref → (state.ranUe ref).ueId ≠ some (state.ue ue).id := by
  constructor
  · intro hkeeps ngapId ref hslot hfind hnamed
    have hsame := hkeeps.ranUes ref (hsound.pool.registered_of_find hfind)
    have hresolves : ((state.ue ue).slot access).bind state.findRanUe = some ref := by
      rw [hslot]
      exact hfind
    rw [ranUe_detach, if_pos ⟨hresolves, hnamed⟩] at hsame
    have hcleared := congrArg RanUe.ueId hsame
    rw [hnamed] at hcleared
    simp at hcleared
  · intro hfree
    constructor
    · rw [registry_detach]
    · intro other hother
      rw [ue_detach, if_neg (ne_of_unregistered hgone hother)]
    · rw [node_detach]
    · intro ref _
      rw [ranUe_detach, if_neg]
      rintro ⟨hresolves, hnamed⟩
      obtain ⟨ngapId, hslot, hfind⟩ := Option.bind_eq_some_iff.mp hresolves
      exact hfree ngapId ref hslot hfind hnamed

theorem onlyUe_detach {state : State} {ue : Ref Ue} {access : AccessType}
    (hvacant : state.Vacant ue access) : state.OnlyUe (state.detach ue access) ue where
  registry := by rw [registry_detach]
  ues other hne := by rw [ue_detach, if_neg hne]
  nodes := by rw [node_detach]
  ranUes := by
    funext ref
    rw [ranUe_detach, if_neg]
    rintro ⟨hresolves, -⟩
    obtain ⟨ngapId, hslot, hfind⟩ := Option.bind_eq_some_iff.mp hresolves
    rw [hvacant ngapId hslot] at hfind
    simp at hfind

/-! ## Removing once more -/

theorem WellNumbered.findUe_unregistered {state : State} (hnumbered : state.WellNumbered)
    {ue : Ref Ue} (hgone : ¬ state.UeRegistered ue) : state.findUe (state.ue ue).id = none := by
  cases hfind : state.findUe (state.ue ue).id with
  | none => rfl
  | some found =>
      have heq := (hnumbered.ue_unique hfind ue).mp rfl
      subst heq
      exact absurd hfind hgone

/-- An unregistered UE is in no pool and in no index, so there is nothing to take out. -/
theorem retire_unregistered {state : State} (hnumbered : state.WellNumbered) {ue : Ref Ue}
    (hgone : ¬ state.UeRegistered ue) :
    state.retire ue (state.indexWithoutUe ue) = state := by
  have habsent := hnumbered.findUe_unregistered hgone
  have hues : state.registry.ues.erase (state.ue ue).id = state.registry.ues :=
    Table.erase_absent habsent
  have hindex : state.indexWithoutUe ue = state.registry.supiIndex := by
    unfold indexWithoutUe
    split
    · rfl
    · apply Table.eraseIf_of_fail
      intro id hentry
      rw [decide_eq_false_iff_not]
      intro heq
      obtain ⟨-, found, hfound, -⟩ := hnumbered.supi_resolves hentry
      rw [heq, habsent] at hfound
      simp at hfound
  rw [retire, hues, hindex]

theorem onlyUe_removeAttached {world : World} {ue : Ref Ue} {access : AccessType}
    (hvacant : world.state.Vacant ue access) :
    world.state.OnlyUe (world.removeAttached ue access).state ue ∧
      (world.removeAttached ue access).state.registry = world.state.registry ∧
      ((world.removeAttached ue access).state.ue ue).tmsi = (world.state.ue ue).tmsi := by
  rcases world.removeAttached_cases ue access with
    ⟨-, hstate⟩ | ⟨ngapId, ref, hslot, hfind, -, -⟩ | ⟨-, -, -, hstate⟩
  · rw [hstate]
    exact ⟨OnlyUe.refl _ _, rfl, rfl⟩
  · rw [hvacant ngapId hslot] at hfind
    simp at hfind
  · rw [hstate]
    refine ⟨onlyUe_detach hvacant, registry_detach .., ?_⟩
    rw [ue_detach, if_pos rfl]
    rfl

theorem onlyUe_vacate {world : World} (hsound : world.state.Sound) {ue : Ref Ue}
    (hvacant : ∀ access, world.state.Vacant ue access) :
    world.state.OnlyUe (world.vacate ue).state ue ∧
      (world.vacate ue).state.registry = world.state.registry ∧
      ((world.vacate ue).state.ue ue).tmsi = (world.state.ue ue).tmsi := by
  have hshrinks := (removeAttached_steps Operation.Any hsound ue .threeGpp).2.1
  obtain ⟨honlyFirst, hregistryFirst, htmsiFirst⟩ := onlyUe_removeAttached (hvacant .threeGpp)
  obtain ⟨honlySecond, hregistrySecond, htmsiSecond⟩ :=
    onlyUe_removeAttached (hshrinks.vacant (hvacant .nonThreeGpp))
  exact ⟨honlyFirst.trans honlySecond, hregistrySecond.trans hregistryFirst,
    htmsiSecond.trans htmsiFirst⟩

/-- Where no slot resolves, all that a repeated removal can do is to give back a 5G-TMSI. -/
theorem onlyUe_removeUe {world : World} (hsound : world.state.Sound) {ue : Ref Ue}
    (hgone : ¬ world.state.UeRegistered ue)
    (hvacant : ∀ access, world.state.Vacant ue access) :
    world.state.OnlyUe (world.removeUe ue).state ue ∧
      (world.removeUe ue).state.registry.tmsis =
        (world.state.ue ue).tmsi.elim world.state.registry.tmsis
          world.state.registry.tmsis.free := by
  obtain ⟨honly, hregistry, htmsi⟩ := onlyUe_vacate hsound hvacant
  have hnumbers := sameNumbers_vacate_relinquish world ue
  rw [world.state_removeUe]
  generalize (world.vacate ue).state = vacated at *
  rw [retire_unregistered (hsound.toWellNumbered.congr hnumbers)
    (fun hregistered => hgone ((hnumbers.ueRegistered_iff ue).mp hregistered))]
  have hrelinquish : vacated.OnlyUe (vacated.relinquish ue) ue :=
    ((onlyUe_setUe _ ue _).trans (onlyUe_withTmsis _ _ ue)).trans (onlyUe_setUe _ ue _)
  refine ⟨honly.trans hrelinquish, ?_⟩
  show (vacated.ue ue).tmsi.elim vacated.registry.tmsis vacated.registry.tmsis.free = _
  rw [htmsi, hregistry]

/-- A repeated removal is seen by others exactly if a slot resolves to a RAN UE or the UE still
holds a 5G-TMSI that can be given back. -/
theorem keepsOthers_removeUe_iff {world : World} (hsound : world.state.Sound) {ue : Ref Ue}
    (hgone : ¬ world.state.UeRegistered ue) :
    world.state.KeepsOthers (world.removeUe ue).state ↔
      (∀ access, world.state.Vacant ue access) ∧
        ∀ tmsi, (world.state.ue ue).tmsi = some tmsi →
          ¬ (world.state.registry.tmsis.InRange tmsi ∧
            world.state.registry.tmsis.Outstanding tmsi) := by
  have htmsis (hvacant : ∀ access, world.state.Vacant ue access) :
      world.state.KeepsOthers (world.removeUe ue).state ↔
        ∀ tmsi, (world.state.ue ue).tmsi = some tmsi →
          ¬ (world.state.registry.tmsis.InRange tmsi ∧
            world.state.registry.tmsis.Outstanding tmsi) := by
    obtain ⟨honly, hfreed⟩ := onlyUe_removeUe hsound hgone hvacant
    rw [honly.keepsOthers_iff hgone, hfreed]
    cases (world.state.ue ue).tmsi with
    | none => simp
    | some tmsi => simp [IdPool.free_eq_self_iff]
  constructor
  · intro hkeeps
    have hvacant (access : AccessType) : world.state.Vacant ue access := by
      intro ngapId hslot
      cases hfind : world.state.findRanUe ngapId with
      | none => rfl
      | some ref =>
          have hregistered := hsound.pool.registered_of_find hfind
          have hremoved := removeUe_releases hsound hslot hfind
          rw [hkeeps.ranUes ref hregistered, (hsound.pool.live ref).mpr hregistered] at hremoved
          simp at hremoved
    exact ⟨hvacant, (htmsis hvacant).mp hkeeps⟩
  · rintro ⟨hvacant, hheld⟩
    exact (htmsis hvacant).mpr hheld

/-! ## Attaching -/

theorem PoolConsistent.replacedBy_ne {state : State} {displaced : Option (Ref RanUe)}
    (hpool : state.PoolConsistent displaced) {ue : Ref Ue} {ranUe : Ref RanUe}
    {access : AccessType} : state.replacedBy ue ranUe access ≠ some ranUe := by
  intro hreplaced
  obtain ⟨ngapId, hslot, hfind⟩ := Option.bind_eq_some_iff.mp hreplaced
  rw [Option.filter_eq_some_iff, decide_eq_true_eq] at hslot
  exact hslot.2 (hpool.ngapId hfind).symm

/-- An attachment that is not refused is seen by others unless the RAN UE named the UE before and
takes the slot from no RAN UE that names it. -/
theorem keepsOthers_attach_iff {world : World} (hsound : world.state.Sound) {ue : Ref Ue}
    (hgone : ¬ world.state.UeRegistered ue) (ranUe : Ref RanUe) :
    world.state.KeepsOthers (world.attach ue ranUe).2.state ↔
      (∃ error, (world.attach ue ranUe).1 = .error error) ∨
        ((world.state.ranUe ranUe).ueId = some (world.state.ue ue).id ∧
          ∀ node, world.state.findNode (world.state.ranUe ranUe).nodeId = some node →
            ∀ old, world.state.replacedBy ue ranUe (world.state.node node).access = some old →
              (world.state.ranUe old).ueId ≠ some (world.state.ue ue).id) := by
  rcases world.attach_cases ue ranUe with ⟨error, hrefused⟩ | ⟨node, hlive, hnode, hok, hstate⟩
  · rw [hrefused]
    exact iff_of_true (KeepsOthers.refl _) (Or.inl ⟨error, rfl⟩)
  · rw [hok, hstate]
    have hregistered := (hsound.pool.live ranUe).mp hlive
    simp only [reduceCtorEq, exists_false, false_or, hnode, Option.some.injEq, forall_eq']
    generalize (world.state.node node).access = access
    have hback (ref : Ref RanUe) := world.state.ranUe_occupy ue ranUe ref access
    simp only at hback
    constructor
    · intro hkeeps
      have hsame (ref : Ref RanUe) (hfound : world.state.RanUeRegistered ref) :
          (world.state.occupy ue ranUe access).ranUe ref = world.state.ranUe ref := by
        rw [← ranUe_attach]
        exact hkeeps.ranUes ref hfound
      have hnamed : (world.state.ranUe ranUe).ueId = some (world.state.ue ue).id := by
        have hown := hsame ranUe hregistered
        rw [hback, if_pos rfl, if_neg (fun hreplaced => hsound.pool.replacedBy_ne hreplaced.1)]
          at hown
        exact (congrArg RanUe.ueId hown).symm
      refine ⟨hnamed, ?_⟩
      intro old hreplaced hold
      obtain ⟨ngapId, -, hfind⟩ := Option.bind_eq_some_iff.mp hreplaced
      have hother := hsame old (hsound.pool.registered_of_find hfind)
      have hne : ranUe ≠ old := by
        intro heq
        rw [heq] at hreplaced
        exact hsound.pool.replacedBy_ne hreplaced
      rw [hback, if_neg hne, if_pos ⟨hreplaced, hold⟩] at hother
      have hcleared := congrArg RanUe.ueId hother
      rw [hold] at hcleared
      simp at hcleared
    · rintro ⟨hnamed, hfree⟩
      have hprevious : world.state.previousOwner ue ranUe = none := by
        rw [previousOwner, hnamed]
        simp
      constructor
      · rw [registry_attach]
      · intro other hother
        rw [ue_attach, ue_occupy, if_neg (ne_of_unregistered hgone hother), hprevious]
        simp
      · rw [node_attach]
      · intro ref _
        rw [ranUe_attach, hback]
        by_cases heq : ranUe = ref
        · subst heq
          rw [if_pos rfl, if_neg (fun hreplaced => hsound.pool.replacedBy_ne hreplaced.1), ← hnamed]
        · rw [if_neg heq, if_neg]
          rintro ⟨hreplaced, hold⟩
          exact hfree ref hreplaced hold

/-! ## A new 5G-TMSI -/

theorem allocate_of_allocateTmsi {world : World} {tmsi : Int}
    (halloc : world.allocateTmsi.1 = some tmsi) :
    world.state.registry.tmsis.allocate =
      (some tmsi, world.state.registry.tmsis.allocate.2) := by
  unfold World.allocateTmsi at halloc
  cases hpool : world.state.registry.tmsis.allocate with
  | mk value pool =>
      rw [hpool] at halloc
      cases value with
      | none => simp at halloc
      | some value =>
          dsimp only at halloc ⊢
          split at halloc
          · simp at halloc
          · split at halloc
            · simp at halloc
            · exact congrArg (·, pool) halloc

/-- A new 5G-TMSI is seen by others unless none is issued, or the one issued is given back at once
and was the only one waiting. -/
theorem keepsOthers_reallocateGuti_iff {world : World} {ue : Ref Ue}
    (htmsis : world.state.registry.tmsis.Bounded) (hgone : ¬ world.state.UeRegistered ue) :
    world.state.KeepsOthers (world.reallocateGuti ue).2.state ↔
      world.state.registry.tmsis.allocate.1 = none ∨
        ∃ tmsi, world.allocateTmsi.1 = some tmsi ∧ (world.state.ue ue).tmsi = some tmsi ∧
          world.state.registry.tmsis.waiting = [tmsi] ∧
          world.state.registry.tmsis.InRange tmsi ∧ tmsi < world.state.registry.tmsis.cursor := by
  rcases world.reallocateGuti_cases ue with ⟨hnone, -, hstate⟩ | ⟨tmsi, hsome, -, hstate⟩
  · rw [hstate, (onlyUe_withTmsis _ _ ue).keepsOthers_iff hgone, hnone]
    simp only [reduceCtorEq, false_and, exists_false, or_false]
    exact IdPool.allocate_eq_self_iff _
  · have halloc := allocate_of_allocateTmsi hsome
    have honly : world.state.OnlyUe (world.reallocateGuti ue).2.state ue := by
      rw [hstate]
      exact ((onlyUe_withTmsis world.state world.state.registry.tmsis.allocate.2 ue).trans
        (onlyUe_setUe _ ue _)).trans (onlyUe_withTmsis _ _ ue)
    rw [honly.keepsOthers_iff hgone, hstate]
    show (world.state.ue ue).tmsi.elim world.state.registry.tmsis.allocate.2
      world.state.registry.tmsis.allocate.2.free = world.state.registry.tmsis ↔ _
    have hissued : world.state.registry.tmsis.allocate.1 = some tmsi := congrArg Prod.fst halloc
    rw [hsome, hissued]
    simp only [reduceCtorEq, false_or, Option.some.injEq]
    cases (world.state.ue ue).tmsi with
    | none =>
        simp only [Option.elim_none, reduceCtorEq, false_and, and_false, exists_false, iff_false]
        rw [IdPool.allocate_eq_self_iff, hissued]
        simp
    | some old =>
        simp only [Option.elim_some, Option.some.injEq]
        rw [IdPool.free_allocate_eq_iff halloc, htmsis.inRange_and_passed_iff]
        simp

end State

namespace World

open State

/-- A call on a UE that left the registry leaves everything else as it was exactly in these cases,
whatever was called in between. -/
theorem run_gone_keepsOthers_iff (config : Config) (earlier middle later : List Operation)
    {ue : Ref Ue} (hregistered : ((opened config).run earlier).state.UeRegistered ue)
    (hgone : ¬ ((opened config).run (earlier ++ middle)).state.UeRegistered ue) :
    let world := (opened config).run (earlier ++ middle ++ later)
    ¬ world.state.UeRegistered ue ∧
    (∀ access, world.state.KeepsOthers (world.detach ue access).state ↔
      ∀ ngapId ref, (world.state.ue ue).slot access = some ngapId →
        world.state.findRanUe ngapId = some ref →
          (world.state.ranUe ref).ueId ≠ some (world.state.ue ue).id) ∧
    (world.state.KeepsOthers (world.removeUe ue).state ↔
      (∀ access ngapId, (world.state.ue ue).slot access = some ngapId →
        world.state.findRanUe ngapId = none) ∧
      ∀ tmsi, (world.state.ue ue).tmsi = some tmsi →
        ¬ (world.state.registry.tmsis.InRange tmsi ∧
          world.state.registry.tmsis.Outstanding tmsi)) ∧
    (∀ ranUe, world.state.KeepsOthers (world.attach ue ranUe).2.state ↔
      (∃ error, (world.attach ue ranUe).1 = .error error) ∨
        ((world.state.ranUe ranUe).ueId = some (world.state.ue ue).id ∧
          ∀ node, world.state.findNode (world.state.ranUe ranUe).nodeId = some node →
            ∀ old, world.state.replacedBy ue ranUe (world.state.node node).access = some old →
              (world.state.ranUe old).ueId ≠ some (world.state.ue ue).id)) ∧
    (world.state.KeepsOthers (world.reallocateGuti ue).2.state ↔
      world.state.registry.tmsis.allocate.1 = none ∨
        ∃ tmsi, world.allocateTmsi.1 = some tmsi ∧ (world.state.ue ue).tmsi = some tmsi ∧
          world.state.registry.tmsis.waiting = [tmsi] ∧
          world.state.registry.tmsis.InRange tmsi ∧
          tmsi < world.state.registry.tmsis.cursor) := by
  intro world
  have hsound (operations : List Operation) := run_sound config operations
  have hgoneBefore : ((opened config).run (earlier ++ middle)).state.Gone ue := by
    refine ⟨?_, hgone⟩
    have hcreated := (hsound earlier).ue_created hregistered
    rw [run_append]
    exact Nat.lt_of_lt_of_le hcreated (created_le_run (hsound earlier) middle).1
  have hgoneNow : ¬ world.state.UeRegistered ue := by
    have hstays := gone_run (hsound _) hgoneBefore later
    rw [← run_append] at hstays
    exact hstays.2
  refine ⟨hgoneNow, ?_, keepsOthers_removeUe_iff (hsound _) hgoneNow,
    keepsOthers_attach_iff (hsound _) hgoneNow, 
    keepsOthers_reallocateGuti_iff (run_tmsis_bounded config _) hgoneNow⟩
  intro access
  rw [state_detach]
  exact keepsOthers_detach_iff (hsound _) hgoneNow access

/-- A UE that was removed while another one is attached: detaching and removing it again change
nothing for the other. -/
theorem gone_keepsOthers_removed :
    let earlier : List Operation := [.newUe "imsi-001010000000001", .newUe "imsi-001010000000002"]
    let middle : List Operation := [.removeUe ⟨0⟩]
    let later : List Operation := [.newNode ⟨1⟩, .newRanUe ⟨0⟩ 1, .attach ⟨1⟩ ⟨0⟩]
    let world := (opened Config.standard).run (earlier ++ middle ++ later)
    ((opened Config.standard).run earlier).state.UeRegistered ⟨0⟩ ∧
      ¬ ((opened Config.standard).run (earlier ++ middle)).state.UeRegistered ⟨0⟩ ∧
      world.state.KeepsOthers (world.detach ⟨0⟩ .threeGpp).state ∧
      world.state.KeepsOthers (world.removeUe ⟨0⟩).state := by
  intro earlier middle later world
  have hregistered : ((opened Config.standard).run earlier).state.UeRegistered ⟨0⟩ := by
    decide +kernel
  have hgone : ¬ ((opened Config.standard).run (earlier ++ middle)).state.UeRegistered ⟨0⟩ := by
    decide +kernel
  obtain ⟨-, hdetach, hremove, -⟩ :=
    run_gone_keepsOthers_iff Config.standard earlier middle later hregistered hgone
  have hslot (access : AccessType) : (world.state.ue ⟨0⟩).slot access = none := by
    cases access <;> decide +kernel
  have htmsi : (world.state.ue ⟨0⟩).tmsi = none := by decide +kernel
  refine ⟨hregistered, hgone, (hdetach .threeGpp).mpr ?_, hremove.mpr ⟨?_, ?_⟩⟩
  · intro ngapId ref hsome
    rw [hslot] at hsome
    simp at hsome
  · intro access ngapId hsome
    rw [hslot] at hsome
    simp at hsome
  · intro tmsi hsome
    rw [htmsi] at hsome
    simp at hsome

/-- A UE that was removed takes a RAN UE from a registered one and is issued a 5G-TMSI. -/
theorem gone_takes_from_registered :
    let operations : List Operation :=
      [.newUe "imsi-1", .newUe "imsi-2", .newNode ⟨1⟩, .newRanUe ⟨0⟩ 1, .attach ⟨1⟩ ⟨0⟩,
        .removeUe ⟨0⟩]
    let world := (opened Config.standard).run operations
    let attached := (world.attach ⟨0⟩ ⟨0⟩).2
    ¬ world.state.UeRegistered ⟨0⟩ ∧ world.state.UeRegistered ⟨1⟩ ∧
      (world.state.ue ⟨1⟩).slot .threeGpp = some 1 ∧
      (world.attach ⟨0⟩ ⟨0⟩).1.isOk = true ∧
      (attached.state.ranUe ⟨0⟩).ueId = some (world.state.ue ⟨0⟩).id ∧
      (attached.state.ue ⟨1⟩).slot .threeGpp = none ∧
      ¬ world.state.KeepsOthers attached.state ∧
      (world.reallocateGuti ⟨0⟩).1 = some 1 ∧
      (world.reallocateGuti ⟨0⟩).2.state.registry.tmsis.Outstanding 1 ∧
      ¬ world.state.registry.tmsis.Outstanding 1 ∧
      ¬ world.state.KeepsOthers (world.reallocateGuti ⟨0⟩).2.state := by
  intro operations world attached
  have hregistered : world.state.UeRegistered ⟨1⟩ := by decide +kernel
  have hslot : (world.state.ue ⟨1⟩).slot .threeGpp = some 1 := by decide +kernel
  have hempty : (attached.state.ue ⟨1⟩).slot .threeGpp = none := by decide +kernel
  have hissued : (world.reallocateGuti ⟨0⟩).2.state.registry.tmsis.Outstanding 1 := by
    decide +kernel
  have hfree : ¬ world.state.registry.tmsis.Outstanding 1 := by decide +kernel
  refine ⟨by decide +kernel, hregistered, hslot, by decide +kernel, by decide +kernel, hempty, ?_,
    by decide +kernel, hissued, hfree, ?_⟩
  · intro hkeeps
    rw [hkeeps.ues ⟨1⟩ hregistered, hslot] at hempty
    simp at hempty
  · intro hkeeps
    rw [hkeeps.registry] at hissued
    exact hfree hissued

end World

end AccessMobility
