import AccessMobility.Proofs.CallStates
import AccessMobility.Proofs.PoolConsistency
import Mathlib.Data.Nat.Basic
import Mathlib.Logic.Relation
import Mathlib.Order.Basic

/-!
# Chains of steps

A call is carried out as a chain of steps of the wiring.  This file builds the chains of the calls
that do more than one thing.  Removing a UE releases the RAN UEs of its slots before the UE is
retired, and the slots must resolve to nothing by then.  Replacing a UE, and replacing or removing
a radio node, takes the object out of the pool first and lets go of its links afterwards; the same
state is reached when the links are let go first, and in this order each part is a step.
-/

namespace AccessMobility

namespace State

def Steps (allowed : State → Operation → Prop) : State → State → Prop :=
  Relation.ReflTransGen (Step allowed)

section

variable {allowed : State → Operation → Prop} {state next last : State}

theorem Steps.refl : Steps allowed state state :=
  Relation.ReflTransGen.refl

theorem Step.steps (hstep : Step allowed state next) : Steps allowed state next :=
  Relation.ReflTransGen.single hstep

theorem Steps.trans (hfirst : Steps allowed state next) (hsecond : Steps allowed next last) :
    Steps allowed state last :=
  Relation.ReflTransGen.trans hfirst hsecond

theorem SameWiring.steps (hsame : state.SameWiring next) : Steps allowed state next :=
  (Step.describe hsame).steps

theorem Steps.keeps {motive : State → Prop}
    (hkeeps : ∀ {state next}, state.Sound → motive state → Step allowed state next → motive next)
    (hsteps : Steps allowed state next) (hsound : state.Sound) (hstart : motive state) :
    next.Sound ∧ motive next := by
  induction hsteps with
  | refl => exact ⟨hsound, hstart⟩
  | tail _ hstep ih => exact ⟨ih.1.step hstep, hkeeps ih.1 ih.2 hstep⟩

theorem Steps.sound (hsteps : Steps allowed state next) (hsound : state.Sound) : next.Sound :=
  (hsteps.keeps (motive := fun _ => True) (fun _ _ _ => trivial) hsound trivial).1

theorem Steps.foldl {α : Type} {f : World → α → World} (hstep : ∀ (world : World) (entry : α),
    world.state.Sound → Steps allowed world.state (f world entry).state)
    (entries : List α) {world : World} (hsound : world.state.Sound) :
    Steps allowed world.state (entries.foldl f world).state := by
  induction entries generalizing world with
  | nil => exact Steps.refl
  | cons entry rest ih =>
      have hfirst := hstep world entry hsound
      exact hfirst.trans (ih (hfirst.sound hsound))

end

/-! ## References are handed out in order -/

@[simp] theorem created_evict (state : State) (displaced : Option (Ref RanUe)) :
    (state.evict displaced).created = state.created := by
  cases displaced with
  | none => rfl
  | some ref =>
      rw [evict]
      split
      · rfl
      · exact state.created_release ref

theorem Step.created_le {allowed : State → Operation → Prop} {state next : State}
    (hstep : Step allowed state next) : state.created ≤ next.created := by
  cases hstep with
  | describe hsame =>
      exact ⟨hsame.created_ues.ge, hsame.created_nodes.ge, hsame.created_ranUes.ge⟩
  | attach _ _ _ => rw [created_attach]
  | detach ue access => rw [created_detach]
  | release _ => rw [created_release]
  | enlist key _ _ _ =>
      rw [created_evict]
      exact ⟨le_refl _, le_refl _, Nat.le_succ _⟩
  | rehome _ _ _ _ => rw [created_evict, created_rehome]
  | enrol supi tmsi guti => exact ⟨Nat.le_succ _, le_refl _, le_refl _⟩
  | retire _ _ => exact le_refl _
  | openNode connection => exact ⟨le_refl _, Nat.le_succ _, le_refl _⟩
  | closeNode _ _ _ => exact le_refl _
  | setAccess _ => exact le_refl _

/-! ## Parts of calls that leave the wiring alone -/

section

variable {allowed : State → Operation → Prop} (state : State)

theorem sameWiring_withTmsis (tmsis : IdPool) : state.SameWiring (state.withTmsis tmsis) := {}

theorem sameWiring_surrender (ref : Ref Ue) : state.SameWiring (state.surrender ref) := by
  have hue : state.SameWiring (state.modifyUe ref ({ · with tmsi := none })) :=
    sameWiring_setUe rfl rfl rfl
  exact hue.trans (sameWiring_withTmsis _ _)

theorem sameWiring_relinquish (ref : Ref Ue) : state.SameWiring (state.relinquish ref) := by
  have hue : (state.surrender ref).SameWiring (state.relinquish ref) :=
    sameWiring_setUe rfl rfl rfl
  exact (state.sameWiring_surrender ref).trans hue

/-- A removed RAN UE is in no collection, so erasing its entry does nothing. -/
theorem sameWiring_leaveCollection {state : State} (hpool : state.PoolConsistent none)
    {ref : Ref RanUe} (hremoved : (state.ranUe ref).removed = true) (node : Ref RadioNode)
    (key : Int) : state.SameWiring (state.leaveCollection node key ref) := by
  refine sameWiring_setNode rfl rfl rfl rfl (Table.eraseIf_of_fail ?_)
  intro found hentry
  rw [decide_eq_false_iff_not]
  intro heq
  subst heq
  have hlive := (hpool.live found).mpr (hpool.held hentry).1
  rw [hremoved] at hlive
  simp at hlive

/-! ## Releasing and detaching -/

theorem evict_steps (ref : Ref RanUe) : Steps allowed state (state.evict (some ref)) := by
  unfold evict
  dsimp only
  split
  · exact Steps.refl
  next hlive => exact (Step.release (by simpa using hlive)).steps

theorem removed_evict (ref : Ref RanUe) :
    ((state.evict (some ref)).ranUe ref).removed = true := by
  unfold evict
  dsimp only
  split
  next hremoved => exact hremoved
  next => rw [ranUe_release, if_pos rfl]

theorem detachAll_steps (ref : Ref Ue) : Steps allowed state (state.detachAll ref) :=
  (Step.detach ref .threeGpp).steps.trans (Step.detach ref .nonThreeGpp).steps

end

/-! ## Removing a UE -/

/-- Slots, pool and back references only lose entries. -/
structure Shrinks (state next : State) : Prop where
  slot : ∀ {ref access ngapId}, (next.ue ref).slot access = some ngapId →
    (state.ue ref).slot access = some ngapId
  pool : ∀ {ngapId ref}, next.findRanUe ngapId = some ref → state.findRanUe ngapId = some ref
  back : ∀ {ref id}, (next.ranUe ref).ueId = some id → (state.ranUe ref).ueId = some id

theorem Shrinks.refl (state : State) : state.Shrinks state := ⟨id, id, id⟩

theorem shrinks_detach (state : State) (ref : Ref Ue) (access : AccessType) :
    state.Shrinks (state.detach ref access) where
  slot {other path ngapId} hslot := by
    rw [ue_detach] at hslot
    split at hslot
    next heq =>
      subst heq
      rw [Ue.slot_clearSlot] at hslot
      split at hslot
      · simp at hslot
      · exact hslot
    next => exact hslot
  pool hfind := by
    rw [findRanUe, registry_detach] at hfind
    exact hfind
  back hnamed := ((state.ueId_detach ..).mp hnamed).1

theorem shrinks_release (state : State) (ref : Ref RanUe) :
    state.Shrinks (state.release ref) where
  slot {other access ngapId} hslot := by
    rw [ue_release] at hslot
    split at hslot
    · rw [Ue.slot_unlink] at hslot
      exact (Option.filter_eq_some_iff.mp hslot).1
    · exact hslot
  pool hfind := ((state.findRanUe_release ..).mp hfind).1
  back {other id} hnamed := by
    rw [ranUe_release] at hnamed
    split at hnamed
    · simp at hnamed
    · exact hnamed

/-- The slot of a UE resolves to nothing. -/
def Vacant (state : State) (ref : Ref Ue) (access : AccessType) : Prop :=
  ∀ ngapId, (state.ue ref).slot access = some ngapId → state.findRanUe ngapId = none

theorem Shrinks.vacant {state next : State} (hshrinks : state.Shrinks next) {ref : Ref Ue}
    {access : AccessType} (hvacant : state.Vacant ref access) : next.Vacant ref access := by
  intro ngapId hslot
  cases hfind : next.findRanUe ngapId with
  | none => rfl
  | some found =>
      have hnone := hvacant ngapId (hshrinks.slot hslot)
      rw [hshrinks.pool hfind] at hnone
      simp at hnone

/-- Removing what is attached over an access leaves a slot that resolves to nothing. -/
theorem removeAttached_steps (allowed : State → Operation → Prop) {world : World}
    (hsound : world.state.Sound) (ref : Ref Ue) (access : AccessType) :
    Steps allowed world.state (world.removeAttached ref access).state ∧
      world.state.Shrinks (world.removeAttached ref access).state ∧
      (world.removeAttached ref access).state.Vacant ref access := by
  rcases world.removeAttached_cases ref access with
    ⟨hslot, hstate⟩ | ⟨ngapId, ranUe, hslot, hfind, hlive, hstate⟩ | ⟨ngapId, hslot, -, hstate⟩
  · rw [hstate]
    refine ⟨Steps.refl, Shrinks.refl _, ?_⟩
    intro ngapId hsome
    rw [hslot] at hsome
    simp at hsome
  · rw [hstate]
    have hshrinks := world.state.shrinks_release ranUe
    refine ⟨(Step.release hlive).steps, hshrinks, ?_⟩
    intro other hother
    have hsame := hshrinks.slot hother
    rw [hslot, Option.some.injEq] at hsame
    subst hsame
    cases hleft : (world.state.release ranUe).findRanUe ngapId with
    | none => rfl
    | some found =>
        obtain ⟨-, hnot⟩ := (world.state.findRanUe_release ranUe ngapId found).mp hleft
        exact absurd ⟨hsound.pool.registered_of_find hfind, hsound.pool.ngapId hfind⟩ hnot
  · rw [hstate]
    refine ⟨(Step.detach ref access).steps, world.state.shrinks_detach ref access, ?_⟩
    intro other hother
    rw [ue_detach, if_pos rfl, Ue.slot_clearSlot, if_pos rfl] at hother
    simp at hother

theorem WellNumbered.indexWithoutUe {state : State} (hnumbered : state.WellNumbered)
    (ref : Ref Ue) :
    IndexWithout (state.ue ref).id state.registry.supiIndex (state.indexWithoutUe ref) := by
  have hfiled {supi : String} (hentry : state.registry.supiIndex[supi]? = some (state.ue ref).id) :
      supi ≠ "" ∧ (state.ue ref).supi = supi := by
    obtain ⟨hsupi, found, hfound, hfiled⟩ := hnumbered.supi_resolves hentry
    have heq := (hnumbered.ue_unique hfound ref).mp rfl
    exact ⟨hsupi, heq ▸ hfiled⟩
  intro supi other hentry
  unfold State.indexWithoutUe at hentry
  split at hentry
  next hempty =>
    refine ⟨hentry, ?_⟩
    intro heq
    subst heq
    obtain ⟨hne, hsame⟩ := hfiled hentry
    exact hne (hsame.symm.trans hempty)
  next =>
    rw [Table.lookup_eraseIf] at hentry
    obtain ⟨hold, hnot⟩ := hentry
    refine ⟨hold, ?_⟩
    intro heq
    subst heq
    exact hnot ⟨(hfiled hold).2, by simp⟩

theorem vacate_steps (allowed : State → Operation → Prop) {world : World}
    (hsound : world.state.Sound) (ref : Ref Ue) :
    Steps allowed world.state (world.vacate ref).state ∧
      ∀ access, (world.vacate ref).state.Vacant ref access := by
  obtain ⟨hfirst, -, hvacantFirst⟩ := removeAttached_steps allowed hsound ref .threeGpp
  obtain ⟨hsecond, hshrinks, hvacantSecond⟩ :=
    removeAttached_steps allowed (hfirst.sound hsound) ref .nonThreeGpp
  refine ⟨hfirst.trans hsecond, ?_⟩
  intro access
  cases access with
  | threeGpp => exact hshrinks.vacant hvacantFirst
  | nonThreeGpp => exact hvacantSecond

theorem removeUe_steps {allowed : State → Operation → Prop} {world : World}
    (hsound : world.state.Sound) (ref : Ref Ue) :
    Steps allowed world.state (world.removeUe ref).state := by
  obtain ⟨hvacated, hvacant⟩ := vacate_steps allowed hsound ref
  have hsoundVacated := hvacated.sound hsound
  rw [world.state_removeUe]
  generalize (world.vacate ref).state = vacated at *
  have hrelinquish := vacated.sameWiring_relinquish ref
  have hretire : Step allowed (vacated.relinquish ref)
      ((vacated.relinquish ref).retire ref ((vacated.relinquish ref).indexWithoutUe ref)) := by
    apply Step.retire
    · intro access ngapId hslot
      rw [Ue.slot, hrelinquish.ue_slots] at hslot
      rw [findRanUe, hrelinquish.ranUes]
      exact hvacant access ngapId hslot
    · exact (hsoundVacated.describe hrelinquish).indexWithoutUe ref
  exact (hvacated.trans hrelinquish.steps).trans hretire.steps

/-! ## Creating a UE -/

theorem detach_withUes (state : State) (ues : Table Nat (Ref Ue)) (ref : Ref Ue)
    (access : AccessType) :
    State.detach { state with registry.ues := ues } ref access =
      { state.detach ref access with
        registry := { (state.detach ref access).registry with ues } } := by
  dsimp only [detach, State.ue]
  cases (state.entities.ues.get ref).slot access with
  | none => rfl
  | some ngapId =>
      dsimp only [clearBackReference, findRanUe, setUe, ranUe]
      cases state.registry.ranUes[ngapId]? with
      | none => rfl
      | some found =>
          dsimp only
          by_cases hback : (state.entities.ranUes.get found).ueId =
              some (state.entities.ues.get ref).id
          · simp only [hback, if_true]
            rfl
          · simp only [hback, if_false]

theorem detachAll_withUes (state : State) (ues : Table Nat (Ref Ue)) (ref : Ref Ue) :
    State.detachAll { state with registry.ues := ues } ref =
      { state.detachAll ref with
        registry := { (state.detachAll ref).registry with ues } } := by
  have hfirst := state.detach_withUes ues ref .threeGpp
  have hsecond := (state.detach ref .threeGpp).detach_withUes ues ref .nonThreeGpp
  unfold detachAll
  simp only [AccessType.all, List.foldl_cons, List.foldl_nil, hfirst, hsecond]

theorem sameNumbers_detachAll (state : State) (ref : Ref Ue) :
    state.SameNumbers (state.detachAll ref) :=
  (sameNumbers_detach _ ref .threeGpp).trans (sameNumbers_detach _ ref .nonThreeGpp)

theorem registry_detachAll (state : State) (ref : Ref Ue) :
    (state.detachAll ref).registry = state.registry := by
  simp [detachAll, AccessType.all]

theorem ue_detachAll (state : State) (ue other : Ref Ue) :
    (state.detachAll ue).ue other =
      if ue = other then { state.ue ue with slots := .both none } else state.ue other := by
  show ((state.detach ue .threeGpp).detach ue .nonThreeGpp).ue other = _
  rw [ue_detach]
  split
  next => rw [ue_detach, if_pos rfl]; rfl
  next hother => rw [ue_detach, if_neg hother]

/-- The RAN UEs in the slots of a UE that is detached name it no more. -/
theorem ranUe_detachAll (state : State) (ue : Ref Ue) (ref : Ref RanUe) :
    (state.detachAll ue).ranUe ref =
      if (((state.ue ue).slot .threeGpp).bind state.findRanUe = some ref ∨
            ((state.ue ue).slot .nonThreeGpp).bind state.findRanUe = some ref) ∧
          (state.ranUe ref).ueId = some (state.ue ue).id then
        { state.ranUe ref with ueId := none }
      else state.ranUe ref := by
  show ((state.detach ue .threeGpp).detach ue .nonThreeGpp).ranUe ref = _
  have hfind : (state.detach ue .threeGpp).findRanUe = state.findRanUe := by
    funext id
    rw [findRanUe, registry_detach, findRanUe]
  have hslot : ((state.detach ue .threeGpp).ue ue).slot .nonThreeGpp =
      (state.ue ue).slot .nonThreeGpp := by
    rw [ue_detach, if_pos rfl, Ue.slot_clearSlot, if_neg (by decide)]
  have hid : ((state.detach ue .threeGpp).ue ue).id = (state.ue ue).id := by
    rw [ue_detach, if_pos rfl]
    rfl
  rw [ranUe_detach, hfind, hslot, hid, ranUe_detach]
  by_cases hback : (state.ranUe ref).ueId = some (state.ue ue).id
  · by_cases hfirst : ((state.ue ue).slot .threeGpp).bind state.findRanUe = some ref
    · simp [hback, hfirst]
    · simp [hback, hfirst]
  · simp [hback]

@[simp] theorem node_detachAll (state : State) (ue : Ref Ue) :
    (state.detachAll ue).node = state.node := by
  simp [detachAll, AccessType.all]

@[simp] theorem created_detachAll (state : State) (ue : Ref Ue) :
    (state.detachAll ue).created = state.created := by
  simp [detachAll, AccessType.all]

theorem slot_detachAll (state : State) (ref : Ref Ue) (access : AccessType) :
    ((state.detachAll ref).ue ref).slot access = none := by
  rw [ue_detachAll, if_pos rfl]
  cases access <;> rfl

theorem newUe_steps {allowed : State → Operation → Prop} {world : World}
    (hsound : world.state.Sound) (supi : String) :
    Steps allowed world.state (world.newUe supi).2.state := by
  obtain ⟨tmsi, guti, -, -, hcases⟩ := world.newUe_cases supi
  have hallocated := world.state.sameWiring_withTmsis world.state.registry.tmsis.allocate.2
  have hsoundAllocated := hsound.describe hallocated
  have henrolled := hallocated.steps.trans
    (Step.enrol supi tmsi guti : Step allowed _ _).steps
  rcases hcases with ⟨-, hstate⟩ | ⟨oldId, old, hsupi, hindex, hfind, hstate⟩
  · rw [hstate]
    exact henrolled
  · have hwithout := hsoundAllocated.indexWithout_enrol hsupi hindex tmsi guti
    have hid := (henrolled.sound hsound).ue_id hfind
    rw [hstate]
    generalize (world.state.withTmsis _).enrol supi tmsi guti = enrolled at *
    have hidDetached : ((enrolled.detachAll old).ue old).id = oldId :=
      ((enrolled.sameNumbers_detachAll old).ue_id old).trans hid
    have hretire : Step allowed (enrolled.detachAll old)
        ((enrolled.detachAll old).retire old enrolled.registry.supiIndex) := by
      apply Step.retire
      · intro access ngapId hslot
        rw [slot_detachAll] at hslot
        simp at hslot
      · rw [hidDetached, registry_detachAll]
        exact hwithout
    have hswap : State.detachAll
        { enrolled with registry.ues := enrolled.registry.ues.erase oldId } old =
          (enrolled.detachAll old).retire old enrolled.registry.supiIndex := by
      rw [detachAll_withUes, retire, hidDetached, registry_detachAll]
    rw [hswap]
    exact ((henrolled.trans (enrolled.detachAll_steps old)).trans hretire.steps).trans
      (sameWiring_surrender _ old).steps

/-! ## Clearing out a radio node -/

theorem leavePool_closeNode (state : State) (node : Ref RadioNode) (ref : Ref RanUe)
    (connectionIndex : Table Nat Nat) :
    (state.closeNode node connectionIndex).leavePool ref =
      (state.leavePool ref).closeNode node connectionIndex := by
  have hranUe : (state.closeNode node connectionIndex).ranUe = state.ranUe := rfl
  unfold leavePool
  dsimp only
  rw [hranUe]
  by_cases hfind : state.findRanUe (state.ranUe ref).ngapId = some ref
  · have hclosed : (state.closeNode node connectionIndex).findRanUe
        (state.ranUe ref).ngapId = some ref := hfind
    rw [if_pos hfind, if_pos hclosed]
    simp only [closeNode, State.node]
  · have hclosed : ¬ (state.closeNode node connectionIndex).findRanUe
        (state.ranUe ref).ngapId = some ref := hfind
    rw [if_neg hfind, if_neg hclosed]

theorem leavePool_leaveCollection (state : State) (node : Ref RadioNode) (key : Int)
    (ref : Ref RanUe) :
    (state.leaveCollection node key ref).leavePool ref =
      (state.leavePool ref).leaveCollection node key ref := by
  unfold leavePool
  dsimp only
  by_cases hfind : state.findRanUe (state.ranUe ref).ngapId = some ref
  · have hleft : (state.leaveCollection node key ref).findRanUe
        ((state.leaveCollection node key ref).ranUe ref).ngapId = some ref := hfind
    rw [if_pos hfind, if_pos hleft, ranUe_leaveCollection]
    rfl
  · have hleft : ¬ (state.leaveCollection node key ref).findRanUe
        ((state.leaveCollection node key ref).ranUe ref).ngapId = some ref := hfind
    rw [if_neg hfind, if_neg hleft]

theorem leaveCollection_closeNode (state : State) (node : Ref RadioNode) (key : Int)
    (ref : Ref RanUe) (connectionIndex : Table Nat Nat) :
    (state.closeNode node connectionIndex).leaveCollection node key ref =
      (state.leaveCollection node key ref).closeNode node connectionIndex := by
  have hid : ((state.leaveCollection node key ref).node node).id = (state.node node).id := by
    rw [node_leaveCollection, if_pos rfl]
  rw [closeNode, closeNode, hid]
  rfl

theorem disown_closeNode (state : State) (node : Ref RadioNode) (ref : Ref RanUe)
    (connectionIndex : Table Nat Nat) :
    (state.closeNode node connectionIndex).disown ref =
      (state.disown ref).closeNode node connectionIndex := by
  have howner : (state.closeNode node connectionIndex).ueOfRanUe ref = state.ueOfRanUe ref := rfl
  unfold disown
  dsimp only
  rw [howner]
  cases state.ueOfRanUe ref <;> rfl

/-- Releasing a RAN UE and closing its radio node can be done in either order. -/
theorem release_closeNode {state : State} {node : Ref RadioNode} {ref : Ref RanUe}
    (hlive : (state.ranUe ref).removed = false)
    (hhome : state.findNode (state.ranUe ref).nodeId = some node)
    (hid : (state.node node).id = (state.ranUe ref).nodeId) (connectionIndex : Table Nat Nat) :
    ((state.closeNode node connectionIndex).evict (some ref)).leaveCollection node
        (state.ranUe ref).key ref =
      (state.release ref).closeNode node connectionIndex := by
  have hlost : (state.closeNode node connectionIndex).findNode
      ((state.closeNode node connectionIndex).ranUe ref).nodeId = none := by
    show (state.registry.nodes.erase (state.node node).id)[(state.ranUe ref).nodeId]? = none
    rw [Table.lookup_erase, if_pos hid]
  have hnotRemoved : ¬ ((state.closeNode node connectionIndex).ranUe ref).removed = true := by
    show ¬ (state.ranUe ref).removed = true
    simp [hlive]
  rw [evict, if_neg hnotRemoved, release_eq, hlost, release_eq, hhome]
  dsimp only
  rw [disown_closeNode, leavePool_closeNode, leaveCollection_closeNode,
    leavePool_leaveCollection]

/-- A radio node that is out of the pool is cleared out: the same state is reached by releasing its
RAN UEs while it is still there and closing it afterwards. -/
theorem clearOut_closeNode {state : State} (hsound : state.Sound) {node : Ref RadioNode}
    (connectionIndex : Table Nat Nat) {entries : List (Int × Ref RanUe)}
    (hentries : ∀ key ref, (key, ref) ∈ entries → state.findRanUeByKey node key = some ref)
    (hdistinct : entries.Pairwise (fun left right => left.1 ≠ right.1)) :
    (state.closeNode node connectionIndex).clearOut node entries =
      (state.releaseAll (entries.map Prod.snd)).closeNode node connectionIndex := by
  unfold clearOut releaseAll
  induction entries generalizing state with
  | nil => rfl
  | cons entry rest ih =>
      obtain ⟨key, ref⟩ := entry
      obtain ⟨hfound, -, hhome, hkey⟩ :=
        hsound.pool.held (hentries key ref (List.mem_cons_self ..))
      have hlive := (hsound.pool.live ref).mpr hfound
      have hrelease : Step Operation.Any state (state.release ref) := Step.release hlive
      have hswap := release_closeNode hlive hhome (hsound.node_id hhome) connectionIndex
      rw [hkey] at hswap
      rw [List.pairwise_cons] at hdistinct
      rw [List.foldl_cons, hswap, List.map_cons, List.foldl_cons]
      apply ih (hsound.step hrelease) _ hdistinct.2
      intro other found hmem
      rw [findRanUeByKey_release]
      refine ⟨hentries other found (List.mem_cons_of_mem _ hmem), ?_⟩
      rintro ⟨-, hsame, -⟩
      exact hdistinct.1 _ hmem (hkey.symm.trans hsame)

theorem sameNumbers_releaseAll (state : State) (refs : List (Ref RanUe)) :
    state.SameNumbers (state.releaseAll refs) := by
  unfold releaseAll
  induction refs generalizing state with
  | nil => exact SameNumbers.refl state
  | cons ref rest ih => exact (state.sameNumbers_release ref).trans (ih (state.release ref))

theorem removed_releaseAll {state : State} {ref : Ref RanUe} {refs : List (Ref RanUe)}
    (hgone : (state.ranUe ref).removed = true ∨ ref ∈ refs) :
    ((state.releaseAll refs).ranUe ref).removed = true := by
  unfold releaseAll
  induction refs generalizing state with
  | nil => exact hgone.resolve_right List.not_mem_nil
  | cons head rest ih =>
      rw [List.foldl_cons]
      apply ih
      rw [ranUe_release]
      split
      next => exact Or.inl rfl
      next hne =>
        rw [List.mem_cons] at hgone
        rcases hgone with hremoved | heq | hmem
        · exact Or.inl hremoved
        · exact absurd heq.symm hne
        · exact Or.inr hmem

theorem findRanUeByKey_of_releaseAll {state : State} {refs : List (Ref RanUe)}
    {node : Ref RadioNode} {key : Int} {ref : Ref RanUe}
    (hentry : (state.releaseAll refs).findRanUeByKey node key = some ref) :
    state.findRanUeByKey node key = some ref := by
  unfold releaseAll at hentry
  induction refs generalizing state with
  | nil => exact hentry
  | cons head rest ih => exact ((state.findRanUeByKey_release ..).mp (ih hentry)).1

theorem releaseAll_steps {allowed : State → Operation → Prop} {state : State}
    {refs : List (Ref RanUe)} (hlive : ∀ ref ∈ refs, (state.ranUe ref).removed = false)
    (hnodup : refs.Nodup) : Steps allowed state (state.releaseAll refs) := by
  unfold releaseAll
  induction refs generalizing state with
  | nil => exact Steps.refl
  | cons ref rest ih =>
      rw [List.nodup_cons] at hnodup
      have hrelease : Step allowed state (state.release ref) :=
        Step.release (hlive ref (List.mem_cons_self ..))
      refine hrelease.steps.trans (ih ?_ hnodup.2)
      intro other hmem
      have hne : other ≠ ref := fun heq => hnodup.1 (heq ▸ hmem)
      rw [ranUe_release_of_ne hne]
      exact hlive other (List.mem_cons_of_mem _ hmem)

/-- The RAN UEs of a collection, each once. -/
theorem Sound.nodup_collection {state : State} (hsound : state.Sound) (node : Ref RadioNode) :
    ((state.node node).ranUes.toList.map Prod.snd).Nodup := by
  rw [← Table.values_eq]
  apply Table.nodup_values
  intro left right ref hleft hright
  exact (hsound.pool.held hleft).2.2.2.symm.trans (hsound.pool.held hright).2.2.2

theorem mem_collection (state : State) (node : Ref RadioNode) (ref : Ref RanUe) :
    ref ∈ (state.node node).ranUes.toList.map Prod.snd ↔
      ∃ key, state.findRanUeByKey node key = some ref := by
  rw [← Table.values_eq]
  exact Table.mem_values

theorem clearOut_collection_steps {allowed : State → Operation → Prop} {state : State}
    (hsound : state.Sound) {node : Ref RadioNode} (hregistered : state.NodeRegistered node)
    {connectionIndex : Table Nat Nat}
    (hindex : IndexWithout (state.node node).id state.registry.connectionIndex connectionIndex) :
    Steps allowed state
      ((state.closeNode node connectionIndex).clearOut node (state.node node).ranUes.toList) := by
  rw [clearOut_closeNode hsound connectionIndex
    (fun key ref => Std.ExtTreeMap.mem_toList_iff_getElem?_eq_some.mp) (Table.distinct_toList _)]
  have hlive (ref : Ref RanUe) (hmem : ref ∈ (state.node node).ranUes.toList.map Prod.snd) :
      (state.ranUe ref).removed = false := by
    obtain ⟨key, hentry⟩ := (state.mem_collection node ref).mp hmem
    exact (hsound.pool.live ref).mpr (hsound.pool.held hentry).1
  have hsteps : Steps allowed state
      (state.releaseAll ((state.node node).ranUes.toList.map Prod.snd)) :=
    releaseAll_steps hlive (hsound.nodup_collection node)
  have hsame := state.sameNumbers_releaseAll ((state.node node).ranUes.toList.map Prod.snd)
  refine hsteps.trans (Step.steps (Step.closeNode ?_ ?_ ?_))
  · exact (hsame.nodeRegistered_iff node).mpr hregistered
  · intro key
    cases hentry : (state.releaseAll _).findRanUeByKey node key with
    | none => rfl
    | some ref =>
        have hpool := (hsteps.sound hsound).pool
        have hkept := (hpool.live ref).mpr (hpool.held hentry).1
        have hmem := (state.mem_collection node ref).mpr ⟨key, findRanUeByKey_of_releaseAll hentry⟩
        rw [removed_releaseAll (Or.inr hmem)] at hkept
        simp at hkept
  · rw [hsame.node_id, hsame.connectionIndex]
    exact hindex

theorem newNode_steps {allowed : State → Operation → Prop} {world : World}
    (hsound : world.state.Sound) (connection : Connection) :
    Steps allowed world.state (world.newNode connection).2.state := by
  have hopen : Step allowed world.state (world.state.openNode connection) :=
    Step.openNode connection
  have hsoundOpen := hsound.step hopen
  rcases world.newNode_cases connection with
    ⟨-, error, refused, hcall, hstate⟩ |
      ⟨done, hcall, ⟨-, hstate⟩ | ⟨oldId, old, hindex, hfind, hstate⟩⟩
  · rw [hcall, hstate]
    exact Steps.refl
  · rw [hcall, hstate]
    exact hopen.steps
  · have hid := hsoundOpen.node_id hfind
    have hwithout := hsound.indexWithout_openNode hindex
    rw [← hid] at hwithout
    rw [hcall, hstate, ← hid]
    exact hopen.steps.trans
      (clearOut_collection_steps hsoundOpen (hsoundOpen.nodeRegistered_of_find hfind) hwithout)

theorem removeNode_steps {allowed : State → Operation → Prop} {world : World}
    (hsound : world.state.Sound) (connection : Connection) :
    Steps allowed world.state (world.removeNode connection).2.state := by
  rcases world.removeNode_cases hsound.toWellNumbered connection with
    ⟨-, error, hrefused⟩ | ⟨ref, done, hfind, hremoved, hstate⟩
  · rw [hrefused]
    exact Steps.refl
  · rw [hremoved, hstate]
    exact clearOut_collection_steps hsound (hsound.nodeRegistered_of_connection hfind)
      (hsound.indexWithout_closeNode hfind)

theorem takeOut_steps {allowed : State → Operation → Prop} {world : World}
    (hsound : world.state.Sound) (node : Ref RadioNode) (key : Int) (ref : Ref RanUe) :
    Steps allowed world.state (world.takeOut node key ref).state := by
  have hevict : Steps allowed world.state (world.state.evict (some ref)) :=
    world.state.evict_steps ref
  have hleave := sameWiring_leaveCollection (hevict.sound hsound).pool
    (world.state.removed_evict ref) node key
  rw [World.state_takeOut]
  exact hevict.trans hleave.steps

theorem dropRanUe_steps {allowed : State → Operation → Prop} {world : World}
    (hsound : world.state.Sound) (node : Ref RadioNode) (withUes : Bool)
    (entry : Int × Ref RanUe) :
    Steps allowed world.state (world.dropRanUe node withUes entry).state := by
  obtain ⟨key, ref⟩ := entry
  have hsteps : Steps allowed world.state (world.takeOut node key ref).state :=
    takeOut_steps hsound node key ref
  dsimp only [World.dropRanUe]
  generalize (if withUes = true then world.state.ueOfRanUe ref else none) = owner
  cases owner with
  | none => exact hsteps
  | some ue => exact hsteps.trans (removeUe_steps (hsteps.sound hsound) ue)

theorem removeAllRanUes_steps {allowed : State → Operation → Prop} {world : World}
    (hsound : world.state.Sound) (node : Ref RadioNode) (withUes : Bool) :
    Steps allowed world.state (world.removeAllRanUes node withUes).state := by
  obtain ⟨noted, hnoted, hdrops⟩ := world.removeAllRanUes_drops node withUes
  rw [hdrops]
  rw [← hnoted] at hsound ⊢
  exact Steps.foldl (fun world entry hsound => dropRanUe_steps hsound node withUes entry) _ hsound

end State

end AccessMobility
