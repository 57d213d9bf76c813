import AccessMobility.Proofs.LinkSymmetry

/-!
# UEs, their 5G-TMSIs and the pool they come from

Few calls change which UEs are registered, which 5G-TMSI or 5G-GUTI a UE has, or the pool of
5G-TMSIs.  This file separates them from the calls that do none of this, and says for each of the
few what it does.  A UE that leaves the registry, because it is removed or because its SUPI is taken
over, does so in one way: it gives its 5G-TMSI back and is no longer in the pool under its id.

Along every run the pool of 5G-TMSIs is only allocated from and freed to, so it stays in order and
keeps the range it was opened with.  With a validated configuration this range holds 5G-TMSIs only,
and a value taken from the pool is never thrown away.
-/

namespace AccessMobility

namespace State

/-- Two states with the same UEs under the same pool ids and 5G-TMSIs. -/
structure SameUes (state next : State) : Prop where
  ue_id : ∀ ref, (next.ue ref).id = (state.ue ref).id
  ue_tmsi : ∀ ref, (next.ue ref).tmsi = (state.ue ref).tmsi
  ue_guti : ∀ ref, (next.ue ref).guti = (state.ue ref).guti
  ues : next.registry.ues = state.registry.ues := by rfl
  tmsis : next.registry.tmsis = state.registry.tmsis

/-- Two states with the same UEs and radio nodes, each UE with the same 5G-TMSI. -/
structure SameRoster (state next : State) : Prop extends SameNumbers state next where
  ue_tmsi : ∀ ref, (next.ue ref).tmsi = (state.ue ref).tmsi
  ue_guti : ∀ ref, (next.ue ref).guti = (state.ue ref).guti
  tmsis : next.registry.tmsis = state.registry.tmsis

/-- A UE gives back its 5G-TMSI and leaves the pool of UEs. -/
structure Withdraws (state next : State) (ue : Ref Ue) : Prop where
  ue_id : ∀ ref, (next.ue ref).id = (state.ue ref).id
  ue_tmsi : ∀ ref, (next.ue ref).tmsi = if ref = ue then none else (state.ue ref).tmsi
  ue_guti : ∀ ref, (next.ue ref).guti = (state.ue ref).guti
  ues : next.registry.ues = state.registry.ues.erase (state.ue ue).id
  tmsis : next.registry.tmsis =
    (state.ue ue).tmsi.elim state.registry.tmsis state.registry.tmsis.free

section

variable {first second third : State}

theorem SameRoster.refl (state : State) : state.SameRoster state where
  toSameNumbers := SameNumbers.refl state
  ue_tmsi _ := rfl
  ue_guti _ := rfl
  tmsis := rfl

theorem SameUes.trans (hfirst : first.SameUes second) (hsecond : second.SameUes third) :
    first.SameUes third where
  ue_id ref := (hsecond.ue_id ref).trans (hfirst.ue_id ref)
  ue_tmsi ref := (hsecond.ue_tmsi ref).trans (hfirst.ue_tmsi ref)
  ue_guti ref := (hsecond.ue_guti ref).trans (hfirst.ue_guti ref)
  ues := hsecond.ues.trans hfirst.ues
  tmsis := hsecond.tmsis.trans hfirst.tmsis

theorem SameRoster.trans (hfirst : first.SameRoster second) (hsecond : second.SameRoster third) :
    first.SameRoster third where
  toSameNumbers := hfirst.toSameNumbers.trans hsecond.toSameNumbers
  ue_tmsi ref := (hsecond.ue_tmsi ref).trans (hfirst.ue_tmsi ref)
  ue_guti ref := (hsecond.ue_guti ref).trans (hfirst.ue_guti ref)
  tmsis := hsecond.tmsis.trans hfirst.tmsis

theorem SameRoster.foldl {α : Type} {f : World → α → World}
    (hkept : ∀ (world : World) (entry : α), world.state.SameRoster (f world entry).state)
    (entries : List α) (world : World) : world.state.SameRoster (entries.foldl f world).state := by
  induction entries generalizing world with
  | nil => exact SameRoster.refl _
  | cons entry rest ih => exact (hkept world entry).trans (ih (f world entry))

theorem SameRoster.sameUes (hsame : first.SameRoster second) : first.SameUes second where
  ue_id := hsame.ue_id
  ue_tmsi := hsame.ue_tmsi
  ue_guti := hsame.ue_guti
  ues := hsame.ues
  tmsis := hsame.tmsis

theorem SameUes.ueRegistered_iff (hsame : first.SameUes second) (ref : Ref Ue) :
    second.UeRegistered ref ↔ first.UeRegistered ref := by
  rw [UeRegistered, UeRegistered, findUe, findUe, hsame.ues, hsame.ue_id]

theorem SameUes.withdraws {ue : Ref Ue} (hsame : first.SameUes second)
    (hwithdraws : second.Withdraws third ue) : first.Withdraws third ue where
  ue_id ref := (hwithdraws.ue_id ref).trans (hsame.ue_id ref)
  ue_tmsi ref := by rw [hwithdraws.ue_tmsi, hsame.ue_tmsi]
  ue_guti ref := (hwithdraws.ue_guti ref).trans (hsame.ue_guti ref)
  ues := by rw [hwithdraws.ues, hsame.ues, hsame.ue_id]
  tmsis := by rw [hwithdraws.tmsis, hsame.ue_tmsi, hsame.tmsis]

end

/-! ## Updates that keep the roster -/

section

variable (state : State)

theorem sameRoster_setUe {state : State} {ref : Ref Ue} {ue : Ue}
    (hid : ue.id = (state.ue ref).id) (hsupi : ue.supi = (state.ue ref).supi)
    (htmsi : ue.tmsi = (state.ue ref).tmsi) (hguti : ue.guti = (state.ue ref).guti) :
    state.SameRoster (state.setUe ref ue) where
  toSameNumbers := sameNumbers_setUe hid hsupi
  ue_tmsi := field_setUe Ue.tmsi htmsi
  ue_guti := field_setUe Ue.guti hguti
  tmsis := rfl

theorem sameRoster_setNode {state : State} {ref : Ref RadioNode} {node : RadioNode}
    (hid : node.id = (state.node ref).id)
    (hconnection : node.connection = (state.node ref).connection)
    (hlimit : node.limit = (state.node ref).limit) :
    state.SameRoster (state.setNode ref node) where
  toSameNumbers := sameNumbers_setNode hid hconnection hlimit
  ue_tmsi _ := rfl
  ue_guti _ := rfl
  tmsis := rfl

theorem sameRoster_setRanUe (ref : Ref RanUe) (ranUe : RanUe) :
    state.SameRoster (state.setRanUe ref ranUe) where
  toSameNumbers := state.sameNumbers_setRanUe ref ranUe
  ue_tmsi _ := rfl
  ue_guti _ := rfl
  tmsis := rfl

theorem sameRoster_leaveCollection (node : Ref RadioNode) (key : Int) (ref : Ref RanUe) :
    state.SameRoster (state.leaveCollection node key ref) :=
  sameRoster_setNode rfl rfl rfl

theorem sameRoster_detach (ref : Ref Ue) (access : AccessType) :
    state.SameRoster (state.detach ref access) where
  toSameNumbers := state.sameNumbers_detach ref access
  ue_tmsi other := by
    rw [ue_detach]
    split
    next heq => exact heq ▸ rfl
    next => rfl
  ue_guti other := by
    rw [ue_detach]
    split
    next heq => exact heq ▸ rfl
    next => rfl
  tmsis := by rw [registry_detach]

theorem sameRoster_detachAll (ref : Ref Ue) : state.SameRoster (state.detachAll ref) :=
  (state.sameRoster_detach ref .threeGpp).trans (sameRoster_detach _ ref .nonThreeGpp)

theorem sameRoster_release (ref : Ref RanUe) : state.SameRoster (state.release ref) where
  toSameNumbers := state.sameNumbers_release ref
  ue_tmsi other := by
    rw [ue_release]
    split <;> rfl
  ue_guti other := by
    rw [ue_release]
    split <;> rfl
  tmsis := by
    rw [registry_release]
    split <;> rfl

theorem sameRoster_evict (displaced : Option (Ref RanUe)) :
    state.SameRoster (state.evict displaced) := by
  cases displaced with
  | none => exact SameRoster.refl _
  | some ref =>
      by_cases hremoved : (state.ranUe ref).removed = true
      · rw [evict, if_pos hremoved]
        exact SameRoster.refl _
      · rw [evict, if_neg hremoved]
        exact state.sameRoster_release ref

theorem sameRoster_attach (ueRef : Ref Ue) (ranUeRef : Ref RanUe) (access : AccessType) :
    state.SameRoster (state.attach ueRef ranUeRef access) where
  toSameNumbers := state.sameNumbers_attach ueRef ranUeRef access
  ue_tmsi other := by
    rw [ue_attach, ue_occupy]
    by_cases heq : ueRef = other
    · subst heq
      split <;> simp [Ue.unlink, Ue.link]
    · rw [if_neg heq]
      split <;> rfl
  ue_guti other := by
    rw [ue_attach, ue_occupy]
    by_cases heq : ueRef = other
    · subst heq
      split <;> simp [Ue.unlink, Ue.link]
    · rw [if_neg heq]
      split <;> rfl
  tmsis := by rw [registry_attach]

theorem sameRoster_enlist (nodeRef : Ref RadioNode) (key : Int) (ngapId : Nat) (pool : IdPool) :
    state.SameRoster (state.enlist nodeRef key ngapId pool) where
  toSameNumbers := state.sameNumbers_enlist nodeRef key ngapId pool
  ue_tmsi _ := rfl
  ue_guti _ := rfl
  tmsis := rfl

theorem sameRoster_rehome (ref : Ref RanUe) (source target : Ref RadioNode) (key : Int) :
    state.SameRoster (state.rehome ref source target key) where
  toSameNumbers := state.sameNumbers_rehome ref source target key
  ue_tmsi other := by rw [ue_rehome]
  ue_guti other := by rw [ue_rehome]
  tmsis := by rw [registry_rehome]

theorem sameRoster_releaseAll (refs : List (Ref RanUe)) :
    state.SameRoster (state.releaseAll refs) := by
  unfold releaseAll
  induction refs generalizing state with
  | nil => exact SameRoster.refl _
  | cons ref rest ih => exact (state.sameRoster_release ref).trans (ih _)

theorem sameRoster_clearOut (node : Ref RadioNode) (entries : List (Int × Ref RanUe)) :
    state.SameRoster (state.clearOut node entries) := by
  unfold clearOut
  induction entries generalizing state with
  | nil => exact SameRoster.refl _
  | cons entry rest ih =>
      rw [List.foldl_cons]
      exact ((state.sameRoster_evict _).trans (sameRoster_leaveCollection _ ..)).trans (ih _)

end

/-! ## UEs that leave -/

theorem withdraws_surrender_retire (state : State) (ref : Ref Ue)
    (supiIndex : Table String Nat) :
    state.Withdraws ((state.surrender ref).retire ref supiIndex) ref where
  ue_id := (state.sameWiring_surrender ref).ue_id
  ue_tmsi other := by
    show ((state.setUe ref { state.ue ref with tmsi := none }).ue other).tmsi = _
    rw [ue_setUe]
    by_cases heq : ref = other
    · subst heq
      rw [if_pos rfl, if_pos rfl]
    · rw [if_neg heq, if_neg (Ne.symm heq)]
  ue_guti other := by
    show ((state.setUe ref { state.ue ref with tmsi := none }).ue other).guti = _
    rw [ue_setUe]
    split
    next heq => rw [← heq]
    next => rfl
  ues := by
    show (state.surrender ref).registry.ues.erase ((state.surrender ref).ue ref).id = _
    rw [(state.sameWiring_surrender ref).ue_id]
    rfl
  tmsis := rfl

theorem sameRoster_removeAttached (world : World) (ue : Ref Ue) (access : AccessType) :
    world.state.SameRoster (world.removeAttached ue access).state := by
  rcases world.removeAttached_cases ue access with
    ⟨-, hstate⟩ | ⟨-, ranUe, -, -, -, hstate⟩ | ⟨-, -, -, hstate⟩
  · rw [hstate]
    exact SameRoster.refl _
  · rw [hstate]
    exact world.state.sameRoster_release ranUe
  · rw [hstate]
    exact world.state.sameRoster_detach ue access

theorem sameRoster_vacate (world : World) (ue : Ref Ue) :
    world.state.SameRoster (world.vacate ue).state :=
  (sameRoster_removeAttached world ue .threeGpp).trans
    (sameRoster_removeAttached _ ue .nonThreeGpp)

/-- A UE is stripped of everything before it leaves the index and the pool. -/
theorem sameNumbers_vacate_relinquish (world : World) (ue : Ref Ue) :
    world.state.SameNumbers ((world.vacate ue).state.relinquish ue) :=
  (sameRoster_vacate world ue).toSameNumbers.trans
    ((world.vacate ue).state.sameWiring_relinquish ue).toSameNumbers

theorem withdraws_removeUe (world : World) (ue : Ref Ue) :
    world.state.Withdraws (world.removeUe ue).state ue := by
  have hvacate := sameRoster_vacate world ue
  rw [world.state_removeUe]
  generalize (world.vacate ue).state = vacated at *
  have hwithdraws := vacated.withdraws_surrender_retire ue
    ((vacated.relinquish ue).indexWithoutUe ue)
  have hdropped : (vacated.surrender ue).SameRoster (vacated.relinquish ue) :=
    sameRoster_setUe rfl rfl rfl rfl
  refine hvacate.sameUes.withdraws ?_
  constructor
  · intro ref
    exact (hdropped.ue_id ref).trans (hwithdraws.ue_id ref)
  · intro ref
    exact (hdropped.ue_tmsi ref).trans (hwithdraws.ue_tmsi ref)
  · intro ref
    exact (hdropped.ue_guti ref).trans (hwithdraws.ue_guti ref)
  · rw [← hwithdraws.ues]
    show (vacated.relinquish ue).registry.ues.erase _ = (vacated.surrender ue).registry.ues.erase _
    rw [hdropped.ues, hdropped.ue_id]
  · exact hwithdraws.tmsis

/-- Removing a RAN UE of a radio node keeps the roster, but for the UE that goes with it. -/
theorem dropRanUe_roster (world : World) (node : Ref RadioNode) (withUes : Bool)
    (entry : Int × Ref RanUe) :
    world.state.SameRoster (world.dropRanUe node withUes entry).state ∨
      withUes = true ∧
        ∃ ue, world.state.Withdraws (world.dropRanUe node withUes entry).state ue := by
  obtain ⟨key, ref⟩ := entry
  dsimp only [World.dropRanUe]
  have hsame : world.state.SameRoster (world.takeOut node key ref).state := by
    rw [World.state_takeOut]
    exact (world.state.sameRoster_evict _).trans (sameRoster_leaveCollection _ ..)
  cases withUes with
  | false => exact Or.inl hsame
  | true =>
      rw [if_pos rfl]
      cases world.state.ueOfRanUe ref with
      | none => exact Or.inl hsame
      | some ue => exact Or.inr ⟨rfl, ue, hsame.sameUes.withdraws (withdraws_removeUe _ ue)⟩

theorem Withdraws.ueRegistered_iff {state next : State} (hnumbered : state.WellNumbered)
    {ue : Ref Ue} (hwithdraws : state.Withdraws next ue) (ref : Ref Ue) :
    next.UeRegistered ref ↔ state.UeRegistered ref ∧ ref ≠ ue := by
  have hfind : next.findUe (next.ue ref).id =
      if (state.ue ue).id = (state.ue ref).id then none else state.findUe (state.ue ref).id := by
    rw [findUe, hwithdraws.ues, hwithdraws.ue_id, Table.lookup_erase]
    rfl
  unfold UeRegistered
  rw [hfind]
  by_cases hid : (state.ue ue).id = (state.ue ref).id
  · rw [if_pos hid]
    constructor
    · intro hnone
      simp at hnone
    · rintro ⟨hregistered, hne⟩
      exact absurd (hnumbered.ue_eq_of_id hregistered hid).symm hne
  · rw [if_neg hid]
    constructor
    · intro hregistered
      refine ⟨hregistered, ?_⟩
      intro heq
      exact hid (heq ▸ rfl)
    · exact And.left

/-- A UE that is taken the SUPI of leaves like one that is removed. -/
theorem withdraws_replaced {state : State} (hnumbered : state.WellNumbered) {oldId : Nat}
    {old : Ref Ue} (hfind : state.findUe oldId = some old) :
    state.Withdraws
      ((State.detachAll { state with registry.ues := state.registry.ues.erase oldId } old).surrender
        old) old := by
  have hid := ((state.sameNumbers_detachAll old).ue_id old).trans (hnumbered.ue_id hfind)
  have hsame := state.sameRoster_detachAll old
  rw [detachAll_withUes]
  generalize state.detachAll old = detached at *
  have hretired : State.surrender
      { detached with registry := { detached.registry with ues := state.registry.ues.erase oldId } }
        old = (detached.surrender old).retire old detached.registry.supiIndex := by
    rw [retire, (detached.sameWiring_surrender old).ue_id, hid, ← hsame.ues]
    rfl
  rw [hretired]
  exact hsame.sameUes.withdraws (detached.withdraws_surrender_retire old _)

/-- A UE under a SUPI in use is enrolled with a 5G-TMSI before the other one leaves. -/
theorem newUe_replaces {world : World} (hsound : world.state.Sound) {supi : String}
    {old : Ref Ue} (hfind : world.state.findUeBySupi supi = some old) :
    let allocated := world.state.withTmsis world.state.registry.tmsis.allocate.2
    let tmsi := world.allocateTmsi.1
    let enrolled := allocated.enrol supi tmsi (world.state.gutiOf tmsi)
    enrolled.WellNumbered ∧ enrolled.Withdraws (world.newUe supi).2.state old := by
  intro allocated tmsi enrolled
  rw [findUeBySupi] at hfind
  split at hfind
  next => cases hfind
  next hsupi =>
    obtain ⟨id, hindex, hfound⟩ := Option.bind_eq_some_iff.mp hfind
    have hnumbered : enrolled.WellNumbered :=
      (hsound.describe (world.state.sameWiring_withTmsis _)).toWellNumbered.enrol supi tmsi _
    have hkept : enrolled.findUe id = some old := by
      rw [findUe_enrol]
      exact (if_neg (Nat.ne_of_gt (hsound.findUe_lt hfound))).trans hfound
    obtain ⟨_, _, rfl, rfl, hcases⟩ := world.newUe_cases supi
    rcases hcases with ⟨hnone, -⟩ | ⟨oldId, other, -, hindexOld, hother, hstate⟩
    · exact absurd (hkept.symm.trans (hnone id hsupi hindex)) (by simp)
    · rw [hindex, Option.some.injEq] at hindexOld
      subst hindexOld
      obtain rfl : old = other := Option.some.inj (hkept.symm.trans hother)
      rw [hstate]
      exact ⟨hnumbered, withdraws_replaced hnumbered hkept⟩

/-! ## Radio nodes and UEs -/

theorem sameUes_openNode (state : State) (connection : Connection) :
    state.SameUes (state.openNode connection) :=
  ⟨fun _ => rfl, fun _ => rfl, fun _ => rfl, rfl, rfl⟩

theorem sameUes_newNode (world : World) (connection : Connection) :
    world.state.SameUes (world.newNode connection).2.state := by
  rcases world.newNode_cases connection with
    ⟨-, error, refused, hcall, hstate⟩ | ⟨done, hcall, ⟨-, hstate⟩ | ⟨oldId, old, -, -, hstate⟩⟩
  · rw [hcall, hstate]
    exact (SameRoster.refl _).sameUes
  · rw [hcall, hstate]
    exact world.state.sameUes_openNode connection
  · rw [hcall, hstate]
    have hopened : world.state.SameUes { world.state.openNode connection with
        registry.nodes := (world.state.openNode connection).registry.nodes.erase oldId } :=
      ⟨fun _ => rfl, fun _ => rfl, fun _ => rfl, rfl, rfl⟩
    exact hopened.trans (sameRoster_clearOut _ ..).sameUes

theorem sameUes_removeNode {world : World} (hnumbered : world.state.WellNumbered)
    (connection : Connection) : world.state.SameUes (world.removeNode connection).2.state := by
  rcases world.removeNode_cases hnumbered connection with
    ⟨-, error, hrefused⟩ | ⟨ref, done, -, hremoved, hstate⟩
  · rw [hrefused]
    exact (SameRoster.refl _).sameUes
  · rw [hremoved, hstate]
    have hclosed (connectionIndex : Table Nat Nat) :
        world.state.SameUes (world.state.closeNode ref connectionIndex) :=
      ⟨fun _ => rfl, fun _ => rfl, fun _ => rfl, rfl, rfl⟩
    exact (hclosed _).trans (sameRoster_clearOut _ ..).sameUes

/-! ## Calls that keep the roster -/

end State

/-- The calls that leave every UE, radio node and 5G-TMSI where it is. -/
def Operation.Quiet : Operation → Prop
  | .newUe _ | .removeUe _ | .newNode _ | .removeNode _ => False
  | .allocateTmsi | .freeTmsi _ | .reallocateGuti _ => False
  | .removeAllRanUes _ withUes => withUes = false
  | _ => True

namespace State

/-- What is served and what is subscribed to is no part of the roster. -/
theorem sameRoster_service (state : State) (served : ServedIdentities)
    (subscriptions : Table String SubscriptionEntry) (subscriptionIds : IdPool) :
    state.SameRoster
      { state with
        registry := { state.registry with served, subscriptions, subscriptionIds } } where
  toSameNumbers := {}
  ue_tmsi _ := rfl
  ue_guti _ := rfl
  tmsis := rfl

theorem sameRoster_updateLocation (world : World) (ref : Ref RanUe)
    (report : Option LocationReport) (now : Instant) :
    world.state.SameRoster (world.updateLocation ref report now).state := by
  cases report with
  | none => exact SameRoster.refl _
  | some report =>
      dsimp only [World.updateLocation]
      generalize hworld : World.note _ _ = located
      have hlocated : world.state.SameRoster located.state := by
        rw [← hworld, World.state_note, World.state_modify, World.state_noteAll]
        exact world.state.sameRoster_setRanUe ref _
      cases located.state.ueOfRanUe ref with
      | none => exact hlocated
      | some ue =>
          have htaken (location : UserLocation) (tai : Tai) : located.state.SameRoster
              (located.state.setUe ue ((located.state.ue ue).takeLocation location tai)) :=
            sameRoster_setUe rfl rfl rfl rfl
          dsimp only
          split <;> exact hlocated.trans (htaken _ _)

theorem sameRoster_deleteSubscription (world : World) (id : String) :
    world.state.SameRoster (world.deleteSubscription id).2.state := by
  unfold World.deleteSubscription
  split
  · exact SameRoster.refl _
  · dsimp only
    split <;> exact sameRoster_service ..

theorem sameRoster_unsubscribe (world : World) (id supi : String) :
    world.state.SameRoster (world.unsubscribe id supi).state := by
  unfold World.unsubscribe
  split
  · exact SameRoster.refl _
  · exact sameRoster_setUe rfl rfl rfl rfl

theorem sameRoster_removeSubscription (world : World) (id : String) :
    world.state.SameRoster (world.removeSubscription id).2.state := by
  have hdeleted := sameRoster_deleteSubscription world id
  unfold World.removeSubscription
  cases hcall : world.deleteSubscription id with
  | mk answer next =>
      rw [hcall] at hdeleted
      cases answer with
      | error error => exact hdeleted
      | ok entry =>
          exact hdeleted.trans
            (SameRoster.foldl (fun world supi => sameRoster_unsubscribe world id supi) _ next)

theorem perform_sameRoster {world : World} {operation : Operation} (hquiet : operation.Quiet) :
    world.state.SameRoster (world.perform operation).state := by
  have hue (ref : Ref Ue) (f : Ue → Ue) (hid : ∀ ue, (f ue).id = ue.id)
      (hsupi : ∀ ue, (f ue).supi = ue.supi) (htmsi : ∀ ue, (f ue).tmsi = ue.tmsi)
      (hguti : ∀ ue, (f ue).guti = ue.guti) :
      world.state.SameRoster (world.modify (·.modifyUe ref f)).state :=
    sameRoster_setUe (hid _) (hsupi _) (htmsi _) (hguti _)
  cases operation with
  | newUe _ | newNode _ | removeNode _ | removeUe _ | allocateTmsi | freeTmsi _
  | reallocateGuti _ =>
      exact absurd hquiet id
  | serve served => exact sameRoster_service ..
  | newRanUe node key =>
      rcases world.newRanUe_cases node key with
        ⟨error, refused, hcall, hstate⟩ | ⟨id, pool, done, -, -, hcall, hstate⟩
      · simp only [World.perform, hcall, hstate]
        exact SameRoster.refl _
      · simp only [World.perform, hcall, hstate]
        exact (world.state.sameRoster_enlist ..).trans (sameRoster_evict _ _)
  | attach ue ranUe =>
      rcases world.attach_cases ue ranUe with ⟨error, hrefused⟩ | ⟨node, -, -, -, hstate⟩
      · simp only [World.perform, hrefused]
        exact SameRoster.refl _
      · simp only [World.perform, hstate]
        exact world.state.sameRoster_attach ..
  | detach ue access =>
      show world.state.SameRoster (world.detach ue access).state
      rw [World.state_detach]
      exact world.state.sameRoster_detach ue access
  | removeRanUe ranUe =>
      rcases world.removeRanUe_cases ranUe with
        ⟨-, error, refused, hcall, hstate⟩ | ⟨-, done, hcall, hstate⟩
      · simp only [World.perform, hcall, hstate]
        exact SameRoster.refl _
      · simp only [World.perform, hcall, hstate]
        exact world.state.sameRoster_release ranUe
  | switchNode ranUe target key =>
      rcases world.switchNode_cases ranUe target key with
        ⟨-, error, hcall⟩ | ⟨source, done, -, -, -, hcall, hstate⟩
      · simp only [World.perform, hcall]
        exact SameRoster.refl _
      · simp only [World.perform, hcall, hstate]
        exact (world.state.sameRoster_rehome ..).trans (sameRoster_evict _ _)
  | removeAllRanUes node withUes =>
      have hwithUes : withUes = false := hquiet
      subst hwithUes
      show world.state.SameRoster (world.removeAllRanUes node false).state
      rw [World.state_removeAllRanUes]
      exact world.state.sameRoster_clearOut ..
  | setGmmState ue access gmmState =>
      dsimp only [World.perform, World.setGmmState]
      split <;> exact sameRoster_setUe rfl rfl rfl rfl
  | setPolicy ue policy =>
      exact hue ue _ (fun _ => rfl) (fun _ => rfl) (fun _ => rfl) (fun _ => rfl)
  | acknowledgeLocation ue =>
      exact hue ue _ (fun _ => rfl) (fun _ => rfl) (fun _ => rfl) (fun _ => rfl)
  | subscribe ue id subscription =>
      exact hue ue _ (fun _ => rfl) (fun _ => rfl) (fun _ => rfl) (fun _ => rfl)
  | unsubscribe ue id =>
      exact hue ue _ (fun _ => rfl) (fun _ => rfl) (fun _ => rfl) (fun _ => rfl)
  | renameNode node name => exact sameRoster_setNode rfl rfl rfl
  | setAccess node access => exact sameRoster_setNode rfl rfl rfl
  | announce node id => exact sameRoster_setNode rfl rfl rfl
  | updateLocation ranUe report now => exact sameRoster_updateLocation world ranUe report now
  | newSubscriptionId =>
      dsimp only [World.perform, World.newSubscriptionId]
      split <;> exact sameRoster_service ..
  | addSubscription id entry => exact sameRoster_service ..
  | deleteSubscription id => exact sameRoster_deleteSubscription world id
  | removeSubscription id => exact sameRoster_removeSubscription world id

/-! ## The pool of 5G-TMSIs along a run -/

theorem reaches_newUe {world : World} (hsound : world.state.Sound) (supi : String) :
    world.state.registry.tmsis.Reaches (world.newUe supi).2.state.registry.tmsis := by
  obtain ⟨tmsi, guti, -, -, hcases⟩ := world.newUe_cases supi
  have hallocated : world.state.registry.tmsis.Reaches world.state.registry.tmsis.allocate.2 :=
    IdPool.Reaches.refl.allocate
  have hnumbered := (hsound.describe (world.state.sameWiring_withTmsis
    world.state.registry.tmsis.allocate.2)).toWellNumbered.enrol supi tmsi guti
  rcases hcases with ⟨-, hstate⟩ | ⟨oldId, old, -, -, hfind, hstate⟩
  · rw [hstate]
    exact hallocated
  · rw [hstate, (withdraws_replaced hnumbered hfind).tmsis]
    exact hallocated.surrender _

theorem reaches_dropRanUes (world : World) (node : Ref RadioNode) (withUes : Bool)
    (entries : List (Int × Ref RanUe)) :
    world.state.registry.tmsis.Reaches
      (world.dropRanUes node withUes entries).state.registry.tmsis := by
  unfold World.dropRanUes
  induction entries generalizing world with
  | nil => exact .refl
  | cons entry rest ih =>
      rw [List.foldl_cons]
      apply IdPool.Reaches.trans _ (ih (world.dropRanUe node withUes entry))
      rcases dropRanUe_roster world node withUes entry with hsame | ⟨-, ue, hwithdraws⟩
      · rw [hsame.tmsis]
        exact .refl
      · rw [hwithdraws.tmsis]
        exact IdPool.Reaches.refl.surrender _

/-- Every call allocates from the pool of 5G-TMSIs, gives values back, or leaves it alone. -/
theorem reaches_perform {world : World} (hsound : world.state.Sound) (operation : Operation) :
    world.state.registry.tmsis.Reaches (world.perform operation).state.registry.tmsis := by
  by_cases hquiet : operation.Quiet
  · rw [(perform_sameRoster hquiet).tmsis]
    exact .refl
  · cases operation with
    | newUe supi => exact reaches_newUe hsound supi
    | removeUe ue =>
        show world.state.registry.tmsis.Reaches (world.removeUe ue).state.registry.tmsis
        rw [(withdraws_removeUe world ue).tmsis]
        exact IdPool.Reaches.refl.surrender _
    | newNode connection =>
        show world.state.registry.tmsis.Reaches (world.newNode connection).2.state.registry.tmsis
        rw [(sameUes_newNode world connection).tmsis]
        exact .refl
    | removeNode connection =>
        show world.state.registry.tmsis.Reaches (world.removeNode connection).2.state.registry.tmsis
        rw [(sameUes_removeNode hsound.toWellNumbered connection).tmsis]
        exact .refl
    | removeAllRanUes node withUes =>
        obtain ⟨noted, hnoted, hdrops⟩ := world.removeAllRanUes_drops node withUes
        show world.state.registry.tmsis.Reaches
          (world.removeAllRanUes node withUes).state.registry.tmsis
        rw [hdrops, ← hnoted]
        exact reaches_dropRanUes noted node withUes _
    | allocateTmsi =>
        show world.state.registry.tmsis.Reaches world.allocateTmsi.2.state.registry.tmsis
        rw [World.state_allocateTmsi]
        exact IdPool.Reaches.refl.allocate
    | freeTmsi tmsi =>
        show world.state.registry.tmsis.Reaches (world.freeTmsi tmsi).state.registry.tmsis
        rw [World.state_freeTmsi]
        exact IdPool.Reaches.refl.surrender _
    | reallocateGuti ue =>
        show world.state.registry.tmsis.Reaches (world.reallocateGuti ue).2.state.registry.tmsis
        rcases world.reallocateGuti_cases ue with ⟨-, -, hstate⟩ | ⟨tmsi, -, -, hstate⟩
        · rw [hstate]
          exact IdPool.Reaches.refl.allocate
        · rw [hstate]
          exact IdPool.Reaches.refl.allocate.surrender _
    | _ => exact absurd trivial hquiet

end State

/-- The pool is in order, and every value of its range is a 5G-TMSI. -/
structure IdPool.IssuesTmsis (pool : IdPool) : Prop extends pool.Valid where
  nonneg : 0 ≤ pool.min
  le_largest : pool.max ≤ Tmsi.largest

theorem IdPool.issuesTmsis_new {config : Config} (hvalid : config.validate = .ok ()) :
    (Registry.new config).tmsis.IssuesTmsis where
  toValid := valid_new ..
  nonneg := Config.tmsis_nonneg hvalid
  le_largest := Int.min_le_right ..

theorem IdPool.Reaches.issuesTmsis {pool next : IdPool} (hreaches : pool.Reaches next)
    (hpool : pool.IssuesTmsis) : next.IssuesTmsis where
  toValid := hreaches.valid hpool.toValid
  nonneg := hreaches.min_eq ▸ hpool.nonneg
  le_largest := hreaches.max_eq ▸ hpool.le_largest

theorem IdPool.IssuesTmsis.bounded {pool : IdPool} (hpool : pool.IssuesTmsis) : pool.Bounded where
  toValid := hpool.toValid
  max_lt := Int.lt_of_le_of_lt hpool.le_largest (by decide)

theorem IdPool.IssuesTmsis.range_of_outstanding {pool : IdPool} (hpool : pool.IssuesTmsis)
    {tmsi : Int} (hout : pool.Outstanding tmsi) : 0 ≤ tmsi ∧ tmsi ≤ Tmsi.largest := by
  obtain ⟨hmin, hmax⟩ := hpool.bounded.outstanding_inRange hout
  exact ⟨Int.le_trans hpool.nonneg hmin, Int.le_trans hmax hpool.le_largest⟩

namespace World

theorem allocateTmsi_eq {world : World} (hpool : world.state.registry.tmsis.IssuesTmsis) :
    world.allocateTmsi.1 = world.state.registry.tmsis.allocate.1 := by
  unfold allocateTmsi
  cases halloc : world.state.registry.tmsis.allocate with
  | mk value pool =>
      cases value with
      | none => rfl
      | some tmsi =>
          obtain ⟨hmin, hmax⟩ := hpool.bounded.allocate_inRange halloc
          have hnonneg := Int.le_trans hpool.nonneg hmin
          have hrange : ¬ (tmsi < Tmsi.smallest ∨ Tmsi.largest < tmsi) := by
            have hlargest := Int.le_trans hmax hpool.le_largest
            unfold Tmsi.smallest
            omega
          have hne : tmsi ≠ Tmsi.invalid := by
            unfold Tmsi.invalid
            omega
          dsimp only
          rw [if_neg hrange, if_neg hne]

/-- Along every run the pool of 5G-TMSIs is only allocated from and given back to. -/
theorem run_tmsis_reaches (config : Config) (operations : List Operation) :
    (Registry.new config).tmsis.Reaches
      ((opened config).run operations).state.registry.tmsis := by
  refine (run_induction (motive := fun state => state.Sound ∧
    (Registry.new config).tmsis.Reaches state.registry.tmsis) ?_
    ⟨State.sound_new config, .refl⟩ (obeys_any (opened config) operations)).2
  intro world operation hinv hallowed
  exact ⟨(State.perform_steps hinv.1 hallowed).sound hinv.1,
    hinv.2.trans (State.reaches_perform hinv.1 operation)⟩

theorem run_tmsis_bounded (config : Config) (operations : List Operation) :
    ((opened config).run operations).state.registry.tmsis.Bounded := by
  refine (run_tmsis_reaches config operations).bounded (IdPool.bounded_new _ ?_)
  exact Int.lt_of_le_of_lt (Int.min_le_right ..) (by decide)

/-- Along every run on a validated configuration the pool of 5G-TMSIs stays in order. -/
theorem run_issuesTmsis {config : Config} (hvalid : config.validate = .ok ())
    (operations : List Operation) :
    ((opened config).run operations).state.registry.tmsis.IssuesTmsis :=
  (run_tmsis_reaches config operations).issuesTmsis (IdPool.issuesTmsis_new hvalid)

end World

end AccessMobility
