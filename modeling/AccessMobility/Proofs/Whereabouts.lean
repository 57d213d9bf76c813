import AccessMobility.Proofs.RunSoundness

/-!
# Who changes where a UE was seen

A UE carries a location, a tracking area and the flag of a change of tracking area; a RAN UE carries
a location and a tracking area.  This file separates the two calls that touch any of them, a
location update and an acknowledgement, from all the others.  However the others move RAN UEs
between UEs and radio nodes, and whatever they remove or replace, everything that exists was seen
where it was seen before.  What does not exist yet counts as seen nowhere, and this is also what a
new object says.
-/

namespace AccessMobility

/-- Location, tracking area and flag of a UE. -/
def Ue.whereabouts (ue : Ue) : (UserLocation × Tai) × Bool :=
  ((ue.location, ue.tai), ue.locationChanged)

/-- Location and tracking area of a RAN UE. -/
def RanUe.whereabouts (ranUe : RanUe) : UserLocation × Tai :=
  (ranUe.location, ranUe.tai)

namespace Store

variable {α : Type}

instance (store : Store α) (ref : Ref α) : Decidable (store.Holds ref) :=
  inferInstanceAs (Decidable (_ < _))

/-- An object that comes into existence brings what was read of it before. -/
theorem held_create {β : Type} [Inhabited α] [Inhabited β] (store : Store α) {object : α}
    (field : α → β) (hfield : field object = default) (ref : Ref α) :
    (if (store.create object).Holds ref then field ((store.create object).get ref) else default) =
      if store.Holds ref then field (store.get ref) else default := by
  rw [get_create]
  by_cases hfresh : store.fresh = ref
  · have hnew : ¬ store.Holds ref := fun hholds => ne_fresh hholds hfresh
    rw [if_pos hfresh, hfield, if_neg hnew, ite_self]
  · have hholds : (store.create object).Holds ref ↔ store.Holds ref :=
      ⟨fun hholds => holds_of_create hholds hfresh, Nat.lt_succ_of_lt⟩
    simp only [if_neg hfresh, hholds]

end Store

namespace State

def ueWhereabouts (state : State) (ref : Ref Ue) : (UserLocation × Tai) × Bool :=
  if state.entities.ues.Holds ref then (state.ue ref).whereabouts else default

def ranUeWhereabouts (state : State) (ref : Ref RanUe) : UserLocation × Tai :=
  if state.entities.ranUes.Holds ref then (state.ranUe ref).whereabouts else default

/-- Two states in which every UE and every RAN UE was seen at the same place. -/
structure SameWhereabouts (state next : State) : Prop where
  ue : ∀ ref, next.ueWhereabouts ref = state.ueWhereabouts ref := by intro; rfl
  ranUe : ∀ ref, next.ranUeWhereabouts ref = state.ranUeWhereabouts ref := by intro; rfl

theorem SameWhereabouts.refl (state : State) : state.SameWhereabouts state := {}

theorem SameWhereabouts.trans {first second third : State} (hfirst : first.SameWhereabouts second)
    (hsecond : second.SameWhereabouts third) : first.SameWhereabouts third where
  ue ref := (hsecond.ue ref).trans (hfirst.ue ref)
  ranUe ref := (hsecond.ranUe ref).trans (hfirst.ranUe ref)

theorem SameWhereabouts.foldl {α : Type} {f : World → α → World}
    (hkept : ∀ (world : World) (entry : α), world.state.SameWhereabouts (f world entry).state)
    (entries : List α) (world : World) :
    world.state.SameWhereabouts (entries.foldl f world).state := by
  induction entries generalizing world with
  | nil => exact SameWhereabouts.refl _
  | cons entry rest ih => exact (hkept world entry).trans (ih (f world entry))

/-- Where nothing is created, it is enough to look at each object. -/
theorem sameWhereabouts_of_objects {state next : State} (hcreated : next.created = state.created)
    (hue : ∀ ref, (next.ue ref).whereabouts = (state.ue ref).whereabouts)
    (hranUe : ∀ ref, (next.ranUe ref).whereabouts = (state.ranUe ref).whereabouts) :
    state.SameWhereabouts next := by
  simp only [created, Prod.mk.injEq] at hcreated
  obtain ⟨hues, -, hranUes⟩ := hcreated
  constructor
  · intro ref
    have hholds : next.entities.ues.Holds ref ↔ state.entities.ues.Holds ref := by
      rw [Store.Holds, Store.Holds, hues]
    simp only [ueWhereabouts, hholds, hue]
  · intro ref
    have hholds : next.entities.ranUes.Holds ref ↔ state.entities.ranUes.Holds ref := by
      rw [Store.Holds, Store.Holds, hranUes]
    simp only [ranUeWhereabouts, hholds, hranUe]

/-! ## Updates and steps -/

theorem sameWhereabouts_setUe {state : State} {ref : Ref Ue} {ue : Ue}
    (hsame : ue.whereabouts = (state.ue ref).whereabouts) :
    state.SameWhereabouts (state.setUe ref ue) :=
  sameWhereabouts_of_objects rfl (field_setUe Ue.whereabouts hsame) (fun _ => rfl)

section

variable (state : State)

theorem sameWhereabouts_detach (ref : Ref Ue) (access : AccessType) :
    state.SameWhereabouts (state.detach ref access) := by
  apply sameWhereabouts_of_objects (state.created_detach ref access)
  · intro other
    rw [ue_detach]
    split
    next heq => exact heq ▸ rfl
    next => rfl
  · intro other
    rw [ranUe_detach]
    split <;> rfl

theorem sameWhereabouts_detachAll (ref : Ref Ue) : state.SameWhereabouts (state.detachAll ref) :=
  (state.sameWhereabouts_detach ref .threeGpp).trans (sameWhereabouts_detach _ ref .nonThreeGpp)

theorem sameWhereabouts_release (ref : Ref RanUe) : state.SameWhereabouts (state.release ref) := by
  apply sameWhereabouts_of_objects (state.created_release ref)
  · intro other
    rw [ue_release]
    split <;> rfl
  · intro other
    rw [ranUe_release]
    split
    next heq => exact heq ▸ rfl
    next => rfl

theorem sameWhereabouts_evict (displaced : Option (Ref RanUe)) :
    state.SameWhereabouts (state.evict displaced) := by
  cases displaced with
  | none => exact SameWhereabouts.refl _
  | some ref =>
      rw [evict]
      split
      · exact SameWhereabouts.refl _
      · exact state.sameWhereabouts_release ref

theorem sameWhereabouts_attach (ueRef : Ref Ue) (ranUeRef : Ref RanUe) (access : AccessType) :
    state.SameWhereabouts (state.attach ueRef ranUeRef access) := by
  have hlinked (other : Ref Ue) :
      ((state.occupy ueRef ranUeRef access).ue other).whereabouts =
        (state.ue other).whereabouts := by
    rw [ue_occupy]
    split
    next heq => exact heq ▸ rfl
    next => rfl
  apply sameWhereabouts_of_objects (state.created_attach ..)
  · intro other
    rw [ue_attach, ← hlinked]
    split <;> rfl
  · intro other
    rw [ranUe_attach, ranUe_occupy_eq]
    rfl

theorem sameWhereabouts_enlist (nodeRef : Ref RadioNode) (key : Int) (ngapId : Nat)
    (pool : IdPool) : state.SameWhereabouts (state.enlist nodeRef key ngapId pool) where
  ranUe ref := state.entities.ranUes.held_create RanUe.whereabouts rfl ref

theorem sameWhereabouts_rehome (ref : Ref RanUe) (source target : Ref RadioNode) (key : Int) :
    state.SameWhereabouts (state.rehome ref source target key) := by
  apply sameWhereabouts_of_objects (state.created_rehome ..)
  · intro other
    rw [ue_rehome]
  · intro other
    rw [ranUe_rehome]
    split
    next heq => exact heq ▸ rfl
    next => rfl

theorem sameWhereabouts_enrol (supi : String) (tmsi : Option Int) (guti : Option String) :
    state.SameWhereabouts (state.enrol supi tmsi guti) where
  ue ref := state.entities.ues.held_create Ue.whereabouts rfl ref

theorem sameWhereabouts_clearOut (node : Ref RadioNode) (entries : List (Int × Ref RanUe)) :
    state.SameWhereabouts (state.clearOut node entries) := by
  unfold clearOut
  induction entries generalizing state with
  | nil => exact SameWhereabouts.refl _
  | cons entry rest ih =>
      have hleft : (state.evict (some entry.2)).SameWhereabouts
          ((state.evict (some entry.2)).leaveCollection node entry.1 entry.2) := {}
      exact ((state.sameWhereabouts_evict _).trans hleft).trans (ih _)

theorem sameWhereabouts_withTmsis (tmsis : IdPool) :
    state.SameWhereabouts (state.withTmsis tmsis) := {}

theorem sameWhereabouts_surrender (ref : Ref Ue) : state.SameWhereabouts (state.surrender ref) := by
  have hue : state.SameWhereabouts (state.modifyUe ref ({ · with tmsi := none })) :=
    sameWhereabouts_setUe rfl
  exact hue.trans (sameWhereabouts_withTmsis _ _)

end

/-! ## The calls -/

theorem sameWhereabouts_newUe (world : World) (supi : String) :
    world.state.SameWhereabouts (world.newUe supi).2.state := by
  obtain ⟨tmsi, guti, -, -, hcases⟩ := world.newUe_cases supi
  have henrolled := (world.state.sameWhereabouts_withTmsis
    world.state.registry.tmsis.allocate.2).trans (sameWhereabouts_enrol _ supi tmsi guti)
  rcases hcases with ⟨-, hstate⟩ | ⟨oldId, old, -, -, -, hstate⟩
  · rw [hstate]
    exact henrolled
  · rw [hstate]
    generalize State.enrol _ supi tmsi guti = enrolled at *
    have hwithdrawn : enrolled.SameWhereabouts
        { enrolled with registry.ues := enrolled.registry.ues.erase oldId } := {}
    exact ((henrolled.trans hwithdrawn).trans (sameWhereabouts_detachAll _ old)).trans
      (sameWhereabouts_surrender _ old)

theorem sameWhereabouts_newNode (world : World) (connection : Connection) :
    world.state.SameWhereabouts (world.newNode connection).2.state := by
  have hopened : world.state.SameWhereabouts (world.state.openNode connection) := {}
  rcases world.newNode_cases connection with
    ⟨-, error, refused, hcall, hstate⟩ | ⟨done, hcall, ⟨-, hstate⟩ | ⟨oldId, old, -, -, hstate⟩⟩
  · rw [hcall, hstate]
    exact SameWhereabouts.refl _
  · rw [hcall, hstate]
    exact hopened
  · rw [hcall, hstate]
    generalize world.state.openNode connection = opened at *
    have hclosed : opened.SameWhereabouts
        { opened with registry.nodes := opened.registry.nodes.erase oldId } := {}
    exact (hopened.trans hclosed).trans (sameWhereabouts_clearOut ..)

theorem sameWhereabouts_removeNode {world : World} (hnumbered : world.state.WellNumbered)
    (connection : Connection) :
    world.state.SameWhereabouts (world.removeNode connection).2.state := by
  rcases world.removeNode_cases hnumbered connection with
    ⟨-, error, hrefused⟩ | ⟨ref, done, -, hremoved, hstate⟩
  · rw [hrefused]
    exact SameWhereabouts.refl _
  · have hclosed (connectionIndex : Table Nat Nat) :
        world.state.SameWhereabouts (world.state.closeNode ref connectionIndex) := {}
    rw [hremoved, hstate]
    exact (hclosed _).trans (sameWhereabouts_clearOut ..)

theorem sameWhereabouts_removeAttached (world : World) (ue : Ref Ue) (access : AccessType) :
    world.state.SameWhereabouts (world.removeAttached ue access).state := by
  rcases world.removeAttached_cases ue access with
    ⟨-, hstate⟩ | ⟨-, ranUe, -, -, -, hstate⟩ | ⟨-, -, -, hstate⟩
  · rw [hstate]
    exact SameWhereabouts.refl _
  · rw [hstate]
    exact world.state.sameWhereabouts_release ranUe
  · rw [hstate]
    exact world.state.sameWhereabouts_detach ue access

theorem sameWhereabouts_removeUe (world : World) (ue : Ref Ue) :
    world.state.SameWhereabouts (world.removeUe ue).state := by
  have hvacated : world.state.SameWhereabouts (world.vacate ue).state :=
    (sameWhereabouts_removeAttached world ue .threeGpp).trans
      (sameWhereabouts_removeAttached _ ue .nonThreeGpp)
  rw [world.state_removeUe]
  generalize (world.vacate ue).state = vacated at *
  have hdropped : (vacated.surrender ue).SameWhereabouts (vacated.relinquish ue) :=
    sameWhereabouts_setUe rfl
  have hretired (supiIndex : Table String Nat) : (vacated.relinquish ue).SameWhereabouts
      ((vacated.relinquish ue).retire ue supiIndex) := {}
  exact ((hvacated.trans (vacated.sameWhereabouts_surrender ue)).trans hdropped).trans (hretired _)

theorem sameWhereabouts_dropRanUe (world : World) (node : Ref RadioNode) (withUes : Bool)
    (entry : Int × Ref RanUe) :
    world.state.SameWhereabouts (world.dropRanUe node withUes entry).state := by
  obtain ⟨key, ref⟩ := entry
  have hleft : (world.state.evict (some ref)).SameWhereabouts
      ((world.state.evict (some ref)).leaveCollection node key ref) := {}
  have htaken : world.state.SameWhereabouts (world.takeOut node key ref).state := by
    rw [World.state_takeOut]
    exact (world.state.sameWhereabouts_evict _).trans hleft
  dsimp only [World.dropRanUe]
  split
  · exact htaken
  · exact htaken.trans (sameWhereabouts_removeUe _ _)

theorem sameWhereabouts_removeAllRanUes (world : World) (node : Ref RadioNode) (withUes : Bool) :
    world.state.SameWhereabouts (world.removeAllRanUes node withUes).state := by
  obtain ⟨noted, hnoted, hdrops⟩ := world.removeAllRanUes_drops node withUes
  rw [hdrops, ← hnoted]
  exact SameWhereabouts.foldl
    (fun world entry => sameWhereabouts_dropRanUe world node withUes entry) _ noted

theorem sameWhereabouts_deleteSubscription (world : World) (id : String) :
    world.state.SameWhereabouts (world.deleteSubscription id).2.state := by
  unfold World.deleteSubscription
  split
  · exact SameWhereabouts.refl _
  · dsimp only
    split <;> exact {}

theorem sameWhereabouts_removeSubscription (world : World) (id : String) :
    world.state.SameWhereabouts (world.removeSubscription id).2.state := by
  have hdeleted := sameWhereabouts_deleteSubscription world id
  unfold World.removeSubscription
  cases hcall : world.deleteSubscription id with
  | mk answer next =>
      rw [hcall] at hdeleted
      cases answer with
      | error error => exact hdeleted
      | ok entry =>
          refine hdeleted.trans (SameWhereabouts.foldl ?_ _ next)
          intro world supi
          unfold World.unsubscribe
          split
          · exact SameWhereabouts.refl _
          · exact sameWhereabouts_setUe rfl

end State

/-- The calls that neither report a location nor acknowledge one. -/
def Operation.Unlocating : Operation → Prop
  | .updateLocation _ report _ => report = none
  | .acknowledgeLocation _ => False
  | _ => True

namespace State

theorem perform_sameWhereabouts {world : World} (hnumbered : world.state.WellNumbered)
    {operation : Operation} (hunlocating : operation.Unlocating) :
    world.state.SameWhereabouts (world.perform operation).state := by
  have hue (ref : Ref Ue) (f : Ue → Ue) (hsame : ∀ ue, (f ue).whereabouts = ue.whereabouts) :
      world.state.SameWhereabouts (world.modify (·.modifyUe ref f)).state :=
    sameWhereabouts_setUe (hsame _)
  cases operation with
  | acknowledgeLocation ue => exact absurd hunlocating id
  | updateLocation ranUe report now =>
      have hnone : report = none := hunlocating
      rw [hnone]
      exact SameWhereabouts.refl _
  | newUe supi => exact sameWhereabouts_newUe world supi
  | newNode connection => exact sameWhereabouts_newNode world connection
  | newRanUe node key =>
      rcases world.newRanUe_cases node key with
        ⟨error, refused, hcall, hstate⟩ | ⟨id, pool, done, -, -, hcall, hstate⟩
      · simp only [World.perform, hcall, hstate]
        exact SameWhereabouts.refl _
      · simp only [World.perform, hcall, hstate]
        exact (world.state.sameWhereabouts_enlist ..).trans (sameWhereabouts_evict _ _)
  | attach ue ranUe =>
      rcases world.attach_cases ue ranUe with ⟨error, hrefused⟩ | ⟨node, -, -, -, hstate⟩
      · simp only [World.perform, hrefused]
        exact SameWhereabouts.refl _
      · simp only [World.perform, hstate]
        exact world.state.sameWhereabouts_attach ..
  | detach ue access =>
      show world.state.SameWhereabouts (world.detach ue access).state
      rw [World.state_detach]
      exact world.state.sameWhereabouts_detach ue access
  | removeRanUe ranUe =>
      rcases world.removeRanUe_cases ranUe with
        ⟨-, error, refused, hcall, hstate⟩ | ⟨-, done, hcall, hstate⟩
      · simp only [World.perform, hcall, hstate]
        exact SameWhereabouts.refl _
      · simp only [World.perform, hcall, hstate]
        exact world.state.sameWhereabouts_release ranUe
  | switchNode ranUe target key =>
      rcases world.switchNode_cases ranUe target key with
        ⟨-, error, hcall⟩ | ⟨source, done, -, -, -, hcall, hstate⟩
      · simp only [World.perform, hcall]
        exact SameWhereabouts.refl _
      · simp only [World.perform, hcall, hstate]
        exact (world.state.sameWhereabouts_rehome ..).trans (sameWhereabouts_evict _ _)
  | removeNode connection => exact sameWhereabouts_removeNode hnumbered connection
  | removeAllRanUes node withUes => exact sameWhereabouts_removeAllRanUes world node withUes
  | removeUe ue => exact sameWhereabouts_removeUe world ue
  | allocateTmsi =>
      show world.state.SameWhereabouts world.allocateTmsi.2.state
      rw [World.state_allocateTmsi]
      exact sameWhereabouts_withTmsis _ _
  | freeTmsi tmsi =>
      show world.state.SameWhereabouts (world.freeTmsi tmsi).state
      rw [World.state_freeTmsi]
      exact sameWhereabouts_withTmsis _ _
  | reallocateGuti ue =>
      show world.state.SameWhereabouts (world.reallocateGuti ue).2.state
      rcases world.reallocateGuti_cases ue with ⟨-, -, hstate⟩ | ⟨tmsi, -, -, hstate⟩
      · rw [hstate]
        exact sameWhereabouts_withTmsis _ _
      · rw [hstate]
        have hidentified (state : State) (guti : Option String) :
            state.SameWhereabouts (state.modifyUe ue (·.replaceIdentity tmsi guti)) :=
          sameWhereabouts_setUe rfl
        exact ((sameWhereabouts_withTmsis _ _).trans (hidentified _ _)).trans
          (sameWhereabouts_withTmsis _ _)
  | setGmmState ue access gmmState =>
      dsimp only [World.perform, World.setGmmState]
      split <;> exact sameWhereabouts_setUe rfl
  | setPolicy ue policy => exact hue ue _ (fun _ => rfl)
  | subscribe ue id subscription => exact hue ue _ (fun _ => rfl)
  | unsubscribe ue id => exact hue ue _ (fun _ => rfl)
  | newSubscriptionId =>
      dsimp only [World.perform, World.newSubscriptionId]
      split <;> exact {}
  | deleteSubscription id => exact sameWhereabouts_deleteSubscription world id
  | removeSubscription id => exact sameWhereabouts_removeSubscription world id
  | serve _ | renameNode _ _ | setAccess _ _ | announce _ _ | addSubscription _ _ => exact {}

end State

end AccessMobility
