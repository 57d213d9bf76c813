import AccessMobility.Proofs.Roster

/-!
# UEs are found by their SUPIs

The index of SUPIs never names a UE that the pool does not hold.  This file shows the converse:
the index names every UE of the pool that has a SUPI.  A new UE takes over the entry of its SUPI,
and the UE that had it leaves the pool with the same call.  A UE that is removed takes its own
entry along and no other, so a UE that was replaced can be removed again without harm to its
successor.
-/

namespace AccessMobility

namespace State

/-- Two states with the same UEs under the same pool ids and SUPIs. -/
structure SameSupis (state next : State) : Prop where
  ue_id : ∀ ue, (next.ue ue).id = (state.ue ue).id
  ue_supi : ∀ ue, (next.ue ue).supi = (state.ue ue).supi
  ues : next.registry.ues = state.registry.ues
  supiIndex : next.registry.supiIndex = state.registry.supiIndex

theorem SameSupis.trans {first second third : State} (hfirst : first.SameSupis second)
    (hsecond : second.SameSupis third) : first.SameSupis third where
  ue_id ue := (hsecond.ue_id ue).trans (hfirst.ue_id ue)
  ue_supi ue := (hsecond.ue_supi ue).trans (hfirst.ue_supi ue)
  ues := hsecond.ues.trans hfirst.ues
  supiIndex := hsecond.supiIndex.trans hfirst.supiIndex

theorem SameNumbers.sameSupis {state next : State} (hsame : state.SameNumbers next) :
    state.SameSupis next where
  ue_id := hsame.ue_id
  ue_supi := hsame.ue_supi
  ues := hsame.ues
  supiIndex := hsame.supiIndex

/-- The index names every registered UE that has a SUPI. -/
def UesFiled (state : State) : Prop :=
  ∀ ue, state.UeRegistered ue → (state.ue ue).supi ≠ "" →
    state.registry.supiIndex[(state.ue ue).supi]? = some (state.ue ue).id

theorem UesFiled.findUeBySupi {state : State} (hfiled : state.UesFiled) {ue : Ref Ue}
    (hregistered : state.UeRegistered ue) (hsupi : (state.ue ue).supi ≠ "") :
    state.findUeBySupi (state.ue ue).supi = some ue := by
  rw [State.findUeBySupi, if_neg hsupi, hfiled ue hregistered hsupi]
  exact hregistered

theorem UesFiled.congr {state next : State} (hfiled : state.UesFiled)
    (hsame : state.SameSupis next) : next.UesFiled := by
  intro ue hregistered hsupi
  rw [hsame.ue_supi] at hsupi ⊢
  rw [hsame.ue_id, hsame.supiIndex]
  refine hfiled ue ?_ hsupi
  rw [UeRegistered, findUe, hsame.ues, hsame.ue_id] at hregistered
  exact hregistered

/-! ## UEs go -/

theorem UesFiled.retire {state : State} (hfiled : state.UesFiled) (ue : Ref Ue) :
    (state.retire ue (state.indexWithoutUe ue)).UesFiled := by
  intro other hregistered hsupi
  have hfound := hregistered
  rw [UeRegistered, findUe_retire] at hfound
  split at hfound
  next => cases hfound
  next hne =>
    have hindex := hfiled other hfound hsupi
    show (state.indexWithoutUe ue)[(state.ue other).supi]? = some (state.ue other).id
    unfold indexWithoutUe
    split
    · exact hindex
    · refine (Table.lookup_eraseIf ..).mpr ⟨hindex, ?_⟩
      rintro ⟨-, heq⟩
      exact hne (of_decide_eq_true heq).symm

theorem UesFiled.removeUe {world : World} (hfiled : world.state.UesFiled) (ue : Ref Ue) :
    (world.removeUe ue).state.UesFiled := by
  rw [world.state_removeUe]
  exact (hfiled.congr (sameNumbers_vacate_relinquish world ue).sameSupis).retire ue

theorem UesFiled.dropRanUe {world : World} (hfiled : world.state.UesFiled)
    (node : Ref RadioNode) (withUes : Bool) (entry : Int × Ref RanUe) :
    (world.dropRanUe node withUes entry).state.UesFiled := by
  obtain ⟨key, ref⟩ := entry
  dsimp only [World.dropRanUe]
  generalize (if withUes = true then world.state.ueOfRanUe ref else none) = owner
  have hdropped : (world.takeOut node key ref).state.UesFiled := by
    rw [World.state_takeOut]
    exact hfiled.congr ((world.state.sameNumbers_evict _).trans
      (sameRoster_leaveCollection _ ..).toSameNumbers).sameSupis
  cases owner with
  | none => exact hdropped
  | some ue => exact hdropped.removeUe ue

theorem UesFiled.dropRanUes {world : World} (hfiled : world.state.UesFiled)
    (node : Ref RadioNode) (withUes : Bool) (entries : List (Int × Ref RanUe)) :
    (world.dropRanUes node withUes entries).state.UesFiled := by
  unfold World.dropRanUes
  induction entries generalizing world with
  | nil => exact hfiled
  | cons entry rest ih => exact ih (hfiled.dropRanUe node withUes entry)

/-! ## UEs come -/

/-- Once a UE is enrolled, the index names every registered UE that has a SUPI, but for the one
whose SUPI was taken over. -/
theorem UesFiled.enrol {state : State} (hfiled : state.UesFiled) {supi : String}
    {tmsi : Option Int} {guti : Option String} {ue : Ref Ue}
    (hregistered : (state.enrol supi tmsi guti).UeRegistered ue)
    (hnamed : ((state.enrol supi tmsi guti).ue ue).supi ≠ "")
    (hkept : supi ≠ "" →
      state.registry.supiIndex[supi]? ≠ some ((state.enrol supi tmsi guti).ue ue).id) :
    (state.enrol supi tmsi guti).registry.supiIndex[
      ((state.enrol supi tmsi guti).ue ue).supi]? =
        some ((state.enrol supi tmsi guti).ue ue).id := by
  have hinsert (hsupi : supi ≠ "") (name : String) :
      (state.enrol supi tmsi guti).registry.supiIndex[name]? =
        if supi = name then some state.registry.nextUeId
        else state.registry.supiIndex[name]? := by
    simp only [State.enrol, if_neg hsupi]
    exact Table.lookup_insert ..
  rw [UeRegistered, findUe_enrol] at hregistered
  by_cases hfresh : state.entities.ues.fresh = ue
  · rw [ue_enrol, if_pos hfresh] at hnamed ⊢
    rw [hinsert hnamed, if_pos rfl]
  · rw [ue_enrol, if_neg hfresh] at hregistered hkept hnamed ⊢
    split at hregistered
    · exact absurd (Option.some.inj hregistered) hfresh
    · have hindex := hfiled ue hregistered hnamed
      by_cases hsupi : supi = ""
      · simpa only [State.enrol, if_pos hsupi] using hindex
      · rw [hinsert hsupi, if_neg]
        · exact hindex
        · intro heq
          rw [heq] at hkept
          exact hkept hnamed hindex

theorem UesFiled.newUe {world : World} (hfiled : world.state.UesFiled) (supi : String) :
    (world.newUe supi).2.state.UesFiled := by
  obtain ⟨tmsi, guti, -, -, hcases⟩ := world.newUe_cases supi
  have hallocated : (world.state.withTmsis world.state.registry.tmsis.allocate.2).UesFiled :=
    hfiled.congr (sameWiring_withTmsis _ _).toSameNumbers.sameSupis
  rcases hcases with ⟨hgone, hstate⟩ | ⟨oldId, old, hsupi, hindex, hfind, hstate⟩
  · rw [hstate]
    intro ue hregistered hnamed
    refine hallocated.enrol hregistered hnamed ?_
    intro hsupi hindex
    rw [UeRegistered, hgone _ hsupi hindex] at hregistered
    cases hregistered
  · rw [hstate]
    refine UesFiled.congr ?_ ((sameNumbers_detachAll _ old).trans
      (sameWiring_surrender _ old).toSameNumbers).sameSupis
    intro ue hregistered hnamed
    rw [UeRegistered, findUe, Table.lookup_erase] at hregistered
    split at hregistered
    next => cases hregistered
    next hne =>
      refine hallocated.enrol hregistered hnamed ?_
      intro _ hother
      exact hne (Option.some.inj (hindex.symm.trans hother))

/-! ## Calls that leave the UEs where they are -/

theorem sameSupis_newNode (world : World) (connection : Connection) :
    world.state.SameSupis (world.newNode connection).2.state := by
  have hopened (nodes : Table Nat (Ref RadioNode)) : world.state.SameSupis
      { world.state.openNode connection with registry.nodes := nodes } :=
    ⟨fun _ => rfl, fun _ => rfl, rfl, rfl⟩
  rcases world.newNode_cases connection with
    ⟨-, error, refused, hcall, hstate⟩ | ⟨done, hcall, ⟨-, hstate⟩ | ⟨oldId, old, -, -, hstate⟩⟩
  · rw [hcall, hstate]
    exact (SameNumbers.refl _).sameSupis
  · rw [hcall, hstate]
    exact hopened _
  · rw [hcall, hstate]
    exact (hopened _).trans (sameRoster_clearOut _ ..).toSameNumbers.sameSupis

theorem sameSupis_removeNode {world : World} (hnumbered : world.state.WellNumbered)
    (connection : Connection) : world.state.SameSupis (world.removeNode connection).2.state := by
  rcases world.removeNode_cases hnumbered connection with
    ⟨-, error, hrefused⟩ | ⟨ref, done, -, hremoved, hstate⟩
  · rw [hrefused]
    exact (SameNumbers.refl _).sameSupis
  · rw [hremoved, hstate]
    have hclosed (connectionIndex : Table Nat Nat) :
        world.state.SameSupis (world.state.closeNode ref connectionIndex) :=
      ⟨fun _ => rfl, fun _ => rfl, rfl, rfl⟩
    exact (hclosed _).trans (sameRoster_clearOut _ ..).toSameNumbers.sameSupis

theorem sameSupis_reallocateGuti (world : World) (ue : Ref Ue) :
    world.state.SameSupis (world.reallocateGuti ue).2.state := by
  have hallocated := (world.state.sameWiring_withTmsis
    world.state.registry.tmsis.allocate.2).toSameNumbers
  rcases world.reallocateGuti_cases ue with ⟨-, -, hstate⟩ | ⟨tmsi, -, -, hstate⟩
  · rw [hstate]
    exact hallocated.sameSupis
  · rw [hstate]
    exact (hallocated.trans (sameWiring_identify _ ue tmsi _ _).toSameNumbers).sameSupis

theorem UesFiled.perform {world : World} (hnumbered : world.state.WellNumbered)
    (hfiled : world.state.UesFiled) (operation : Operation) :
    (world.perform operation).state.UesFiled := by
  by_cases hquiet : operation.Quiet
  · exact hfiled.congr (perform_sameRoster hquiet).toSameNumbers.sameSupis
  · cases operation with
    | newUe supi => exact hfiled.newUe supi
    | removeUe ue => exact hfiled.removeUe ue
    | newNode connection => exact hfiled.congr (sameSupis_newNode world connection)
    | removeNode connection => exact hfiled.congr (sameSupis_removeNode hnumbered connection)
    | removeAllRanUes node withUes =>
        obtain ⟨noted, hnoted, hdrops⟩ := world.removeAllRanUes_drops node withUes
        show (world.removeAllRanUes node withUes).state.UesFiled
        rw [hdrops]
        rw [← hnoted] at hfiled
        exact hfiled.dropRanUes node withUes _
    | allocateTmsi =>
        show world.allocateTmsi.2.state.UesFiled
        rw [World.state_allocateTmsi]
        exact hfiled
    | freeTmsi tmsi =>
        show (world.freeTmsi tmsi).state.UesFiled
        rw [World.state_freeTmsi]
        exact hfiled
    | reallocateGuti ue => exact hfiled.congr (sameSupis_reallocateGuti world ue)
    | _ => exact absurd trivial hquiet

end State

namespace World

/-- In every state reached a registered UE with a SUPI is found by it. -/
theorem run_uesFiled (config : Config) (operations : List Operation) :
    ((opened config).run operations).state.UesFiled := by
  have hstart : (State.new config).UesFiled := by
    intro ue hregistered
    simp [State.UeRegistered, State.findUe, State.new, Registry.new] at hregistered
  refine (run_induction (motive := fun state => state.Sound ∧ state.UesFiled) ?_
    ⟨State.sound_new config, hstart⟩ (obeys_any (opened config) operations)).2
  intro world operation hinv hallowed
  exact ⟨(State.perform_steps hinv.1 hallowed).sound hinv.1,
    hinv.2.perform hinv.1.toWellNumbered operation⟩

end World

end AccessMobility
