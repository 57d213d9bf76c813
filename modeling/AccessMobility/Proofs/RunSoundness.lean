import AccessMobility.Proofs.CallSteps

/-!
# Soundness of every run

On a sound state each call, whether it succeeds or is refused, is a chain of steps of the wiring.
So an invariant that every step keeps holds along every run.  The first one is soundness itself:
whatever the configuration and whatever calls are made, with handles of registered objects or of
objects long gone, the pool of RAN UEs, the collections of the radio nodes and the pool of AMF UE
NGAP ids agree.
-/

namespace AccessMobility

namespace State

theorem attach_steps {allowed : State → Operation → Prop} {world : World} {ue : Ref Ue}
    {ranUe : Ref RanUe} (hallowed : allowed world.state (.attach ue ranUe)) :
    Steps allowed world.state (world.attach ue ranUe).2.state := by
  rcases world.attach_cases ue ranUe with ⟨error, hrefused⟩ | ⟨node, hlive, hnode, -, hstate⟩
  · rw [hrefused]
    exact Steps.refl
  · rw [hstate]
    exact (Step.attach hallowed hlive hnode).steps

theorem newRanUe_steps {allowed : State → Operation → Prop} (world : World)
    (node : Ref RadioNode) (key : Int) :
    Steps allowed world.state (world.newRanUe node key).2.state := by
  rcases world.newRanUe_cases node key with
    ⟨error, refused, hcall, hstate⟩ | ⟨id, pool, done, hregistered, halloc, hcall, hstate⟩
  · rw [hcall, hstate]
    exact Steps.refl
  · rw [hcall, hstate]
    exact (Step.enlist key hregistered (world.hasRoom_of_newRanUe hcall) halloc).steps

theorem switchNode_steps {allowed : State → Operation → Prop} {world : World} {ref : Ref RanUe}
    {target : Ref RadioNode} {key : Int}
    (hallowed : allowed world.state (.switchNode ref target key)) :
    Steps allowed world.state (world.switchNode ref target key).2.state := by
  rcases world.switchNode_cases ref target key with
    ⟨-, error, hcall⟩ | ⟨source, done, hlive, hsource, htarget, hcall, hstate⟩
  · rw [hcall]
    exact Steps.refl
  · rw [hcall, hstate]
    exact (Step.rehome hallowed hlive hsource htarget).steps

theorem removeRanUe_steps {allowed : State → Operation → Prop} (world : World) (ref : Ref RanUe) :
    Steps allowed world.state (world.removeRanUe ref).2.state := by
  rcases world.removeRanUe_cases ref with
    ⟨-, error, refused, hcall, hstate⟩ | ⟨hlive, done, hcall, hstate⟩
  · rw [hcall, hstate]
    exact Steps.refl
  · rw [hcall, hstate]
    exact (Step.release hlive).steps

theorem sameWiring_identify (state : State) (ref : Ref Ue) (tmsi : Int) (guti : Option String)
    (tmsis : IdPool) :
    state.SameWiring ((state.modifyUe ref (·.replaceIdentity tmsi guti)).withTmsis tmsis) := by
  have hue : state.SameWiring (state.modifyUe ref (·.replaceIdentity tmsi guti)) :=
    sameWiring_setUe rfl rfl rfl
  exact hue.trans (sameWiring_withTmsis _ _)

theorem reallocateGuti_steps {allowed : State → Operation → Prop} (world : World) (ref : Ref Ue) :
    Steps allowed world.state (world.reallocateGuti ref).2.state := by
  have hallocated := world.state.sameWiring_withTmsis world.state.registry.tmsis.allocate.2
  rcases world.reallocateGuti_cases ref with ⟨-, -, hstate⟩ | ⟨tmsi, -, -, hstate⟩
  · rw [hstate]
    exact hallocated.steps
  · rw [hstate]
    exact (hallocated.trans (sameWiring_identify _ ref tmsi _ _)).steps

theorem announce_steps {allowed : State → Operation → Prop} {state : State}
    {node : Ref RadioNode} {id : GlobalRanNodeId} (hallowed : allowed state (.announce node id)) :
    Steps allowed state (state.modifyNode node (·.announce id)) := by
  have haccess : Step allowed state
      (state.modifyNode node ({ · with access := id.kind.access })) :=
    Step.setAccess (Or.inr ⟨id, rfl, hallowed⟩)
  have hsame : (state.modifyNode node ({ · with access := id.kind.access })).modifyNode node
      (·.announce id) = state.modifyNode node (·.announce id) := by
    simp only [modifyNode, node_setNode, if_true, setNode_setNode]
    rfl
  rw [← hsame]
  refine haccess.steps.trans (SameWiring.steps (sameWiring_setNode rfl rfl rfl ?_ rfl))
  rw [modifyNode, node_setNode, if_pos rfl]
  rfl

theorem updateLocation_steps {allowed : State → Operation → Prop} (world : World)
    (ref : Ref RanUe) (report : Option LocationReport) (now : Instant) :
    Steps allowed world.state (world.updateLocation ref report now).state := by
  cases report with
  | none => exact Steps.refl
  | some report =>
      dsimp only [World.updateLocation]
      generalize hworld : World.note _ _ = located
      have hlocated : world.state.SameWiring located.state := by
        rw [← hworld, World.state_note, World.state_modify, World.state_noteAll]
        exact world.state.sameWiring_locate ref _ _
      cases located.state.ueOfRanUe ref with
      | none => exact hlocated.steps
      | some ue =>
          have htaken (location : UserLocation) (tai : Tai) : located.state.SameWiring
              (located.state.setUe ue ((located.state.ue ue).takeLocation location tai)) :=
            sameWiring_setUe rfl rfl rfl
          dsimp only
          split <;> exact (hlocated.trans (htaken _ _)).steps

theorem sameWiring_deleteSubscription (world : World) (id : String) :
    world.state.SameWiring (world.deleteSubscription id).2.state := by
  unfold World.deleteSubscription
  split
  · exact {}
  · dsimp only
    split <;> exact {}

theorem removeSubscription_steps {allowed : State → Operation → Prop} {world : World}
    (hsound : world.state.Sound) (id : String) :
    Steps allowed world.state (world.removeSubscription id).2.state := by
  have hdeleted := sameWiring_deleteSubscription world id
  unfold World.removeSubscription
  cases hcall : world.deleteSubscription id with
  | mk answer next =>
      rw [hcall] at hdeleted
      cases answer with
      | error error => exact hdeleted.steps
      | ok entry =>
          refine hdeleted.steps.trans (Steps.foldl ?_ _ (hsound.describe hdeleted))
          intro world supi _
          unfold World.unsubscribe
          split
          · exact Steps.refl
          · exact SameWiring.steps (sameWiring_setUe rfl rfl rfl)

/-- Every call is a chain of steps. -/
theorem perform_steps {allowed : State → Operation → Prop} {world : World}
    (hsound : world.state.Sound) {operation : Operation}
    (hallowed : allowed world.state operation) :
    Steps allowed world.state (world.perform operation).state := by
  have hue (ref : Ref Ue) (f : Ue → Ue) (hid : ∀ ue, (f ue).id = ue.id)
      (hsupi : ∀ ue, (f ue).supi = ue.supi) (hslots : ∀ ue, (f ue).slots = ue.slots) :
      Steps allowed world.state (world.modify (·.modifyUe ref f)).state :=
    SameWiring.steps (sameWiring_setUe (hid _) (hsupi _) (hslots _))
  cases operation with
  | serve served => exact SameWiring.steps {}
  | newUe supi => exact newUe_steps hsound supi
  | newNode connection => exact newNode_steps hsound connection
  | newRanUe node key => exact newRanUe_steps world node key
  | attach ue ranUe => exact attach_steps hallowed
  | detach ue access =>
      show Steps allowed world.state (world.detach ue access).state
      rw [World.state_detach]
      exact (Step.detach ue access).steps
  | removeRanUe ranUe => exact removeRanUe_steps world ranUe
  | switchNode ranUe target key => exact switchNode_steps hallowed
  | removeNode connection => exact removeNode_steps hsound connection
  | removeAllRanUes node withUes => exact removeAllRanUes_steps hsound node withUes
  | removeUe ue => exact removeUe_steps hsound ue
  | allocateTmsi =>
      show Steps allowed world.state world.allocateTmsi.2.state
      rw [World.state_allocateTmsi]
      exact (sameWiring_withTmsis _ _).steps
  | freeTmsi tmsi =>
      show Steps allowed world.state (world.freeTmsi tmsi).state
      rw [World.state_freeTmsi]
      exact (sameWiring_withTmsis _ _).steps
  | reallocateGuti ue => exact reallocateGuti_steps world ue
  | setGmmState ue access gmmState =>
      dsimp only [World.perform, World.setGmmState]
      split <;> exact SameWiring.steps (sameWiring_setUe rfl rfl rfl)
  | setPolicy ue policy => exact hue ue _ (fun _ => rfl) (fun _ => rfl) (fun _ => rfl)
  | acknowledgeLocation ue => exact hue ue _ (fun _ => rfl) (fun _ => rfl) (fun _ => rfl)
  | subscribe ue id subscription => exact hue ue _ (fun _ => rfl) (fun _ => rfl) (fun _ => rfl)
  | unsubscribe ue id => exact hue ue _ (fun _ => rfl) (fun _ => rfl) (fun _ => rfl)
  | renameNode node name => exact SameWiring.steps (sameWiring_setNode rfl rfl rfl rfl rfl)
  | setAccess node access => exact (Step.setAccess (Or.inl hallowed)).steps
  | announce node id => exact announce_steps hallowed
  | updateLocation ranUe report now => exact updateLocation_steps world ranUe report now
  | newSubscriptionId =>
      dsimp only [World.perform, World.newSubscriptionId]
      split <;> exact SameWiring.steps {}
  | addSubscription id entry => exact SameWiring.steps {}
  | deleteSubscription id => exact (sameWiring_deleteSubscription world id).steps
  | removeSubscription id => exact removeSubscription_steps hsound id

end State

namespace World

/-- What every allowed step keeps on sound states holds after every run that obeys the rule, if it
held before. -/
theorem keeps_run {allowed : State → Operation → Prop} {motive : State → Prop}
    (hkeeps : ∀ {state next}, state.Sound → motive state → State.Step allowed state next →
      motive next)
    {world : World} (hsound : world.state.Sound) (hstart : motive world.state)
    {operations : List Operation} (hobeys : world.Obeys allowed operations) :
    (world.run operations).state.Sound ∧ motive (world.run operations).state := by
  refine run_induction (motive := fun state => state.Sound ∧ motive state) ?_
    ⟨hsound, hstart⟩ hobeys
  intro world operation hinv hallowed
  exact (State.perform_steps hinv.1 hallowed).keeps hkeeps hinv.1 hinv.2

/-- An invariant that holds of an empty registry and that every allowed step keeps on sound states
holds after every run that obeys the rule. -/
theorem run_keeps {allowed : State → Operation → Prop} {motive : State → Prop}
    (hkeeps : ∀ {state next}, state.Sound → motive state → State.Step allowed state next →
      motive next)
    {config : Config} (hstart : motive (.new config)) {operations : List Operation}
    (hobeys : (opened config).Obeys allowed operations) :
    ((opened config).run operations).state.Sound ∧
      motive ((opened config).run operations).state :=
  keeps_run hkeeps (State.sound_new config) hstart hobeys

theorem obeys_any (world : World) (operations : List Operation) :
    world.Obeys Operation.Any operations := by
  induction operations generalizing world with
  | nil => trivial
  | cons operation rest ih => exact ⟨trivial, ih _⟩

/-- References are handed out and never taken back. -/
theorem created_le_run {world : World} (hsound : world.state.Sound) (operations : List Operation) :
    world.state.created ≤ (world.run operations).state.created :=
  (keeps_run (motive := fun state => world.state.created ≤ state.created)
    (fun _ hle hstep => hle.trans hstep.created_le) hsound (le_refl _)
    (obeys_any world operations)).2

theorem sound_run {world : World} (hsound : world.state.Sound) (operations : List Operation) :
    (world.run operations).state.Sound :=
  (keeps_run (motive := fun _ => True) (fun _ _ _ => trivial) hsound trivial
    (obeys_any world operations)).1

theorem run_sound (config : Config) (operations : List Operation) :
    ((opened config).run operations).state.Sound :=
  sound_run (State.sound_new config) operations

theorem run_ngapIds_reaches (config : Config) (operations : List Operation) :
    (IdPool.new config.ngapIds.min.toInt config.ngapIds.max.toInt).Reaches
      ((opened config).run operations).state.registry.ngapIds :=
  (run_keeps (motive := fun state => IdPool.Reaches _ state.registry.ngapIds)
    (fun _ hreaches hstep => hreaches.trans hstep.ngapIds_reaches) IdPool.Reaches.refl
    (obeys_any _ operations)).2

theorem run_inRange_iff (config : Config) (operations : List Operation) (value : Int) :
    ((opened config).run operations).state.registry.ngapIds.InRange value ↔
      config.ngapIds.Contains value := by
  have hreaches := run_ngapIds_reaches config operations
  rw [IdPool.InRange, hreaches.min_eq, hreaches.max_eq]
  rfl

/-- Only a range that ends at the largest word of 64 bits is ever left. -/
theorem run_assigned_contains {config : Config} {operations : List Operation} {value : Int}
    (hassigned : ((opened config).run operations).state.NgapIdAssigned value) :
    config.ngapIds.Contains value ∨ config.ngapIds.max.toInt = 9223372036854775807 := by
  have hpassed := (run_sound config operations).pool.passed hassigned
  have hreaches := run_ngapIds_reaches config operations
  rcases Int.lt_or_eq_of_le (State.signed_toInt config.ngapIds.max).2 with hbelow | hends
  · have hrange := (hreaches.bounded (IdPool.bounded_new _ hbelow)).passed_inRange hpassed
    exact Or.inl ((run_inRange_iff config operations value).mp hrange)
  · exact Or.inr hends

theorem run_not_inRange_iff {config : Config} {operations : List Operation} {value : Int}
    (hassigned : ((opened config).run operations).state.NgapIdAssigned value) :
    ¬ ((opened config).run operations).state.registry.ngapIds.InRange value ↔
      ¬ config.ngapIds.Contains value ∧ config.ngapIds.max.toInt = 9223372036854775807 := by
  rw [run_inRange_iff]
  exact ⟨fun houtside => ⟨houtside, (run_assigned_contains hassigned).resolve_left houtside⟩,
    And.left⟩

end World

end AccessMobility
