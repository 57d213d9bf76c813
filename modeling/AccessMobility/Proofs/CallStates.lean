import AccessMobility.Proofs.Numbering

/-!
# What the calls do to the state

A call works on a world: a state and what was told on the way to it.  For every call that touches
the wiring this file says which state it leaves, in terms of the steps, and for the calls that
remove subscriptions which registry.  What is told never matters for the state.
-/

namespace AccessMobility

namespace State

def withTmsis (state : State) (tmsis : IdPool) : State :=
  { state with registry.tmsis := tmsis }

def surrender (state : State) (ref : Ref Ue) : State :=
  (state.modifyUe ref ({ · with tmsi := none })).withTmsis
    ((state.ue ref).tmsi.elim state.registry.tmsis state.registry.tmsis.free)

/-- A UE gives its 5G-TMSI back and drops its subscriptions. -/
def relinquish (state : State) (ref : Ref Ue) : State :=
  (state.surrender ref).modifyUe ref ({ · with subscriptions := ∅ })

def indexWithoutUe (state : State) (ref : Ref Ue) : Table String Nat :=
  if (state.ue ref).supi = "" then state.registry.supiIndex
  else state.registry.supiIndex.eraseIf (state.ue ref).supi (· = (state.ue ref).id)

def detachAll (state : State) (ref : Ref Ue) : State :=
  AccessType.all.foldl (fun state access => state.detach ref access) state

/-- The entries of a collection are released and erased one after another. -/
def clearOut (state : State) (node : Ref RadioNode) (entries : List (Int × Ref RanUe)) : State :=
  entries.foldl
    (fun state entry => (state.evict (some entry.2)).leaveCollection node entry.1 entry.2) state

def releaseAll (state : State) (refs : List (Ref RanUe)) : State :=
  refs.foldl release state

end State

namespace World

variable (world : World)

/-! ## Releasing and detaching -/

theorem state_release (ref : Ref RanUe) :
    (world.release ref).2.state = world.state.evict (some ref) := by
  dsimp only [release, State.evict]
  split <;> rfl

theorem state_releaseDisplaced (ref : Ref RanUe) :
    (world.releaseDisplaced ref).state = world.state.evict (some ref) := by
  rw [← state_release, releaseDisplaced]
  split
  next hok => rw [hok]
  next herror =>
    rw [herror]
    rfl

theorem removeRanUe_cases (ref : Ref RanUe) :
    (((world.state.ranUe ref).removed = true ∨
        world.state.findNode (world.state.ranUe ref).nodeId = none) ∧
      ∃ error refused, world.removeRanUe ref = (.error error, refused) ∧
        refused.state = world.state) ∨
    ((world.state.ranUe ref).removed = false ∧
      ∃ done, world.removeRanUe ref = (.ok (), done) ∧
        done.state = world.state.release ref) := by
  dsimp only [removeRanUe, release]
  by_cases hnode : (world.state.findNode (world.state.ranUe ref).nodeId).isNone = true
  · rw [if_pos hnode]
    exact Or.inl ⟨Or.inr (Option.isNone_iff_eq_none.mp hnode), _, _, rfl, rfl⟩
  · rw [if_neg hnode]
    by_cases hremoved : (world.state.ranUe ref).removed = true
    · rw [if_pos hremoved]
      exact Or.inl ⟨Or.inl hremoved, _, _, rfl, rfl⟩
    · rw [if_neg hremoved]
      exact Or.inr ⟨by simpa using hremoved, _, rfl, rfl⟩

theorem state_detach (ref : Ref Ue) (access : AccessType) :
    (world.detach ref access).state = world.state.detach ref access := by
  dsimp only [detach]
  split <;> rfl

theorem state_detachAll (ref : Ref Ue) :
    (world.detachAll ref).state = world.state.detachAll ref := by
  unfold detachAll State.detachAll
  generalize AccessType.all = accesses
  induction accesses generalizing world with
  | nil => rfl
  | cons access rest ih =>
      rw [List.foldl_cons, List.foldl_cons, ih, state_detach]

/-- Removing what a UE has attached over an access releases the RAN UE that its slot resolves to,
unless the radio node of that RAN UE is gone or the RAN UE was removed; otherwise it detaches. -/
theorem removeAttached_cases (ref : Ref Ue) (access : AccessType) :
    ((world.state.ue ref).slot access = none ∧
        (world.removeAttached ref access).state = world.state) ∨
      (∃ ngapId ranUe, (world.state.ue ref).slot access = some ngapId ∧
        world.state.findRanUe ngapId = some ranUe ∧
        (world.state.ranUe ranUe).removed = false ∧
        (world.removeAttached ref access).state = world.state.release ranUe) ∨
      ∃ ngapId, (world.state.ue ref).slot access = some ngapId ∧
        (∀ ranUe, world.state.findRanUe ngapId = some ranUe →
          (world.state.ranUe ranUe).removed = true ∨
            world.state.findNode (world.state.ranUe ranUe).nodeId = none) ∧
        (world.removeAttached ref access).state = world.state.detach ref access := by
  dsimp only [removeAttached]
  cases hslot : (world.state.ue ref).slot access with
  | none => exact Or.inl ⟨rfl, rfl⟩
  | some ngapId =>
      right
      dsimp only
      cases hfind : world.state.findRanUe ngapId with
      | none =>
          right
          refine ⟨ngapId, rfl, ?_, state_detach ..⟩
          intro ranUe hsome
          rw [hfind] at hsome
          simp at hsome
      | some ranUe =>
          dsimp only
          rcases world.removeRanUe_cases ranUe with
            ⟨hgone, error, refused, hcall, hstate⟩ | ⟨hlive, done, hcall, hstate⟩
          · rw [hcall]
            right
            refine ⟨ngapId, rfl, ?_, ?_⟩
            · intro other hother
              rw [hfind, Option.some.injEq] at hother
              subst hother
              exact hgone
            · rw [state_detach, state_note, hstate]
          · rw [hcall]
            left
            exact ⟨ngapId, ranUe, rfl, hfind, hlive, hstate⟩

/-! ## Attaching, creating and handing over -/

/-- An attachment is refused and changes nothing, or it is carried out over the access of the radio
node the RAN UE is bound to. -/
theorem attach_cases (ueRef : Ref Ue) (ranUeRef : Ref RanUe) :
    (∃ error, world.attach ueRef ranUeRef = (.error error, world)) ∨
      ∃ node, (world.state.ranUe ranUeRef).removed = false ∧
        world.state.findNode (world.state.ranUe ranUeRef).nodeId = some node ∧
        (world.attach ueRef ranUeRef).1 = .ok () ∧
        (world.attach ueRef ranUeRef).2.state =
          world.state.attach ueRef ranUeRef (world.state.node node).access := by
  dsimp only [attach]
  by_cases hremoved : (world.state.ranUe ranUeRef).removed = true
  · rw [if_pos hremoved]
    exact Or.inl ⟨_, rfl⟩
  · rw [if_neg hremoved]
    cases hnode : world.state.findNode (world.state.ranUe ranUeRef).nodeId with
    | none => exact Or.inl ⟨_, rfl⟩
    | some node =>
        right
        dsimp only
        generalize hlinked : World.modify world _ = linked
        have hkept : ¬ (linked.state.ranUe ranUeRef).removed = true := by
          rw [← hlinked]
          simpa [State.modifyRanUe] using hremoved
        rw [if_neg hkept]
        subst hlinked
        refine ⟨node, by simpa using hremoved, rfl, rfl, ?_⟩
        dsimp only [State.attach, State.occupy, State.previousOwner]
        generalize ((world.state.ue ueRef).slot (world.state.node node).access).filter
          (· ≠ (world.state.ranUe ranUeRef).ngapId) = replaced
        have hlinked (ue : Ue) (f : RanUe → RanUe) :
            ((world.state.setUe ueRef ue).modifyRanUe ranUeRef f).findUe = world.state.findUe := rfl
        have hcleared (state : State) (ngapId id : Nat) :
            (state.clearBackReference ngapId id).findUe = state.findUe := by
          funext id
          simp only [State.findUe, State.registry_clearBackReference]
        cases replaced with
        | none =>
            simp only [state_note, state_modify, hlinked]
            generalize Option.bind _ world.state.findUe = previous
            cases previous <;> rfl
        | some old =>
            simp only [state_note, state_modify, hlinked, hcleared]
            generalize Option.bind _ world.state.findUe = previous
            cases previous <;> rfl

theorem state_displace (record : Nat → LogRecord) (displaced : Option (Ref RanUe)) :
    (world.displace record displaced).state = world.state.evict displaced := by
  cases displaced with
  | none => rfl
  | some old =>
      dsimp only [displace]
      rw [state_releaseDisplaced, state_note]

theorem hasRoom_iff (nodeRef : Ref RadioNode) (key : Int) :
    world.state.HasRoom nodeRef key ↔ ¬ (¬ (world.state.node nodeRef).ranUes.contains key ∧
      (world.state.node nodeRef).limit ≤ (world.state.node nodeRef).ranUes.size) := by
  rw [State.HasRoom, State.findRanUeByKey, Std.ExtTreeMap.contains_eq_isSome_getElem?]
  cases (world.state.node nodeRef).ranUes[key]? <;> simp

theorem newRanUe_exhausted {nodeRef : Ref RadioNode} {key : Int}
    (hregistered : world.state.NodeRegistered nodeRef) (hroom : world.state.HasRoom nodeRef key)
    (hnone : world.state.registry.ngapIds.allocate.1 = none) :
    world.newRanUe nodeRef key = (.error .ngapIdsExhausted, world.note .ngapIdsExhausted) := by
  dsimp only [newRanUe]
  rw [if_neg (not_not_intro hregistered), if_neg ((world.hasRoom_iff nodeRef key).mp hroom), hnone]

/-- On a registered radio node that has room only the pool of AMF UE NGAP ids can fail.  The RAN UE
that held the key is released when the new one is in place. -/
theorem newRanUe_granted {nodeRef : Ref RadioNode} {key id : Int} {pool : IdPool}
    (hregistered : world.state.NodeRegistered nodeRef) (hroom : world.state.HasRoom nodeRef key)
    (halloc : world.state.registry.ngapIds.allocate = (some id, pool)) :
    ∃ done, world.newRanUe nodeRef key = (.ok world.state.entities.ranUes.fresh, done) ∧
      done.state = (world.state.enlist nodeRef key (NgapId.ofSigned id) pool).evict
        (world.state.findRanUeByKey nodeRef key) := by
  dsimp only [newRanUe]
  rw [if_neg (not_not_intro hregistered), if_neg ((world.hasRoom_iff nodeRef key).mp hroom), halloc]
  dsimp only
  generalize hplaced : World.modify (World.modify world _) _ = placed
  have hstate : placed.state = world.state.enlist nodeRef key (NgapId.ofSigned id) pool := by
    rw [← hplaced]
    rfl
  generalize hreleased : World.displace placed _ _ = released
  have hevicted : released.state =
      placed.state.evict (world.state.findRanUeByKey nodeRef key) := by
    rw [← hreleased, state_displace, State.findRanUeByKey]
  have hkept : released.state.NodeRegistered nodeRef := by
    rw [hevicted, (State.sameNumbers_evict _ _).nodeRegistered_iff, hstate,
      (State.sameNumbers_enlist ..).nodeRegistered_iff]
    exact hregistered
  rw [if_neg (not_not_intro hkept)]
  refine ⟨_, rfl, ?_⟩
  rw [state_note, hevicted, hstate]

/-- A new RAN UE is refused and changes nothing, or it is enlisted and the RAN UE that held its key
is released. -/
theorem newRanUe_cases (nodeRef : Ref RadioNode) (key : Int) :
    (∃ error refused, world.newRanUe nodeRef key = (.error error, refused) ∧
        refused.state = world.state) ∨
      ∃ id pool done, world.state.NodeRegistered nodeRef ∧
        world.state.registry.ngapIds.allocate = (some id, pool) ∧
        world.newRanUe nodeRef key = (.ok world.state.entities.ranUes.fresh, done) ∧
        done.state = (world.state.enlist nodeRef key (NgapId.ofSigned id) pool).evict
          (world.state.findRanUeByKey nodeRef key) := by
  by_cases hregistered : world.state.NodeRegistered nodeRef
  · by_cases hroom : world.state.HasRoom nodeRef key
    · cases halloc : world.state.registry.ngapIds.allocate with
      | mk allocated pool =>
          cases allocated with
          | none =>
              exact Or.inl ⟨_, _, world.newRanUe_exhausted hregistered hroom
                (congrArg Prod.fst halloc), rfl⟩
          | some id =>
              obtain ⟨done, hcall, hstate⟩ := world.newRanUe_granted hregistered hroom halloc
              exact Or.inr ⟨id, pool, done, hregistered, rfl, hcall, hstate⟩
    · left
      rw [hasRoom_iff, not_not] at hroom
      dsimp only [newRanUe]
      rw [if_neg (not_not_intro hregistered), if_pos hroom]
      exact ⟨_, _, rfl, rfl⟩
  · left
    dsimp only [newRanUe]
    rw [if_pos hregistered]
    exact ⟨_, _, rfl, rfl⟩

/-- No RAN UE is created under a new key of a radio node that is full. -/
theorem hasRoom_of_newRanUe {nodeRef : Ref RadioNode} {key : Int} {ref : Ref RanUe} {done : World}
    (hcall : world.newRanUe nodeRef key = (.ok ref, done)) : world.state.HasRoom nodeRef key := by
  by_contra hfull
  rw [hasRoom_iff, not_not] at hfull
  dsimp only [newRanUe] at hcall
  rw [if_pos hfull] at hcall
  split at hcall <;> cases hcall

/-- A handover is refused for one of three reasons and changes nothing, or the RAN UE is rehomed and
the RAN UE that held its new key is released. -/
theorem switchNode_cases (ref : Ref RanUe) (target : Ref RadioNode) (key : Int) :
    (((world.state.ranUe ref).removed = true ∨
        world.state.findNode (world.state.ranUe ref).nodeId = none ∨
        ¬ world.state.NodeRegistered target) ∧
      ∃ error, world.switchNode ref target key = (.error error, world)) ∨
      ∃ source done, (world.state.ranUe ref).removed = false ∧
        world.state.findNode (world.state.ranUe ref).nodeId = some source ∧
        world.state.NodeRegistered target ∧
        world.switchNode ref target key = (.ok (), done) ∧
        done.state = (world.state.rehome ref source target key).evict
          ((world.state.findRanUeByKey target key).filter (· ≠ ref)) := by
  dsimp only [switchNode]
  by_cases hremoved : (world.state.ranUe ref).removed = true
  · rw [if_pos hremoved]
    exact Or.inl ⟨Or.inl hremoved, _, rfl⟩
  · rw [if_neg hremoved]
    cases hsource : world.state.findNode (world.state.ranUe ref).nodeId with
    | none => exact Or.inl ⟨Or.inr (Or.inl rfl), _, rfl⟩
    | some source =>
        dsimp only
        by_cases htarget : world.state.NodeRegistered target
        · rw [if_neg (not_not_intro htarget)]
          right
          generalize htaken : World.modify world _ = taken
          have hkept : taken.state.NodeRegistered target := by
            rw [← htaken, state_modify, State.NodeRegistered, State.node_setNode, if_pos rfl]
            exact htarget
          rw [if_neg (not_not_intro hkept)]
          refine ⟨source, _, by simpa using hremoved, rfl, htarget, rfl, ?_⟩
          rw [state_note, state_displace, state_modify]
          dsimp only [State.findRanUeByKey, State.rehome]
          subst htaken
          split <;> rfl
        · rw [if_pos htarget]
          exact Or.inl ⟨Or.inr (Or.inr htarget), _, rfl⟩

/-! ## 5G-TMSIs -/

theorem state_allocateTmsi :
    world.allocateTmsi.2.state = world.state.withTmsis world.state.registry.tmsis.allocate.2 := by
  dsimp only [allocateTmsi]
  split
  · rfl
  · split
    · rfl
    · split <;> rfl

theorem state_freeTmsi (tmsi : Option Int) :
    (world.freeTmsi tmsi).state =
      world.state.withTmsis
        (tmsi.elim world.state.registry.tmsis world.state.registry.tmsis.free) := by
  cases tmsi <;> rfl

theorem state_surrenderTmsi (ref : Ref Ue) :
    (world.surrenderTmsi ref).state = world.state.surrender ref := by
  rw [surrenderTmsi, state_freeTmsi]
  rfl

/-- A new 5G-TMSI is taken from the pool and given to the UE, which gives its old one back; where
none is to be had only the pool may have changed. -/
theorem reallocateGuti_cases (ref : Ref Ue) :
    (world.allocateTmsi.1 = none ∧ (world.reallocateGuti ref).1 = none ∧
        (world.reallocateGuti ref).2.state =
          world.state.withTmsis world.state.registry.tmsis.allocate.2) ∨
      ∃ tmsi, world.allocateTmsi.1 = some tmsi ∧ (world.reallocateGuti ref).1 = some tmsi ∧
        (world.reallocateGuti ref).2.state =
          ((world.state.withTmsis world.state.registry.tmsis.allocate.2).modifyUe ref
            (·.replaceIdentity tmsi (world.state.gutiOf (some tmsi)))).withTmsis
            ((world.state.ue ref).tmsi.elim world.state.registry.tmsis.allocate.2
              world.state.registry.tmsis.allocate.2.free) := by
  unfold reallocateGuti
  have hstate := world.state_allocateTmsi
  cases halloc : world.allocateTmsi with
  | mk allocated next =>
      rw [halloc] at hstate
      cases allocated with
      | none => exact Or.inl ⟨rfl, rfl, hstate⟩
      | some tmsi =>
          right
          refine ⟨tmsi, rfl, rfl, ?_⟩
          dsimp only at hstate ⊢
          rw [state_note, state_freeTmsi, state_modify, hstate]
          rfl

/-! ## UEs come and go -/

theorem replaceUe_cases (oldId newId : Nat) (supi : String) :
    (world.state.findUe oldId = none ∧
        (world.replaceUe oldId newId supi).state = world.state) ∨
      ∃ old, world.state.findUe oldId = some old ∧
        (world.replaceUe oldId newId supi).state =
          (State.detachAll
            { world.state with registry.ues := world.state.registry.ues.erase oldId }
            old).surrender old := by
  unfold replaceUe
  cases hfind : world.state.findUe oldId with
  | none => exact Or.inl ⟨rfl, rfl⟩
  | some old =>
      right
      refine ⟨old, rfl, ?_⟩
      dsimp only
      rw [state_surrenderTmsi, state_detachAll]
      rfl

theorem newUe_fresh (supi : String) :
    (world.newUe supi).1 = world.state.entities.ues.fresh := by
  dsimp only [newUe]
  split <;> rfl

/-- A new UE is enrolled.  The UE that had its SUPI, if there is one, leaves the pool and is
detached over every access. -/
theorem newUe_cases (supi : String) :
    ∃ tmsi guti, world.allocateTmsi.1 = tmsi ∧ world.state.gutiOf tmsi = guti ∧
      let enrolled := (world.state.withTmsis world.state.registry.tmsis.allocate.2).enrol
        supi tmsi guti
      ((∀ oldId, supi ≠ "" → world.state.registry.supiIndex[supi]? = some oldId →
            enrolled.findUe oldId = none) ∧
          (world.newUe supi).2.state = enrolled) ∨
        ∃ oldId old, supi ≠ "" ∧ world.state.registry.supiIndex[supi]? = some oldId ∧
          enrolled.findUe oldId = some old ∧
          (world.newUe supi).2.state =
            (State.detachAll
              { enrolled with registry.ues := enrolled.registry.ues.erase oldId } old).surrender
                old := by
  have hstate := world.state_allocateTmsi
  dsimp only [newUe]
  cases halloc : world.allocateTmsi with
  | mk tmsi next =>
      rw [halloc] at hstate
      dsimp only at hstate ⊢
      have hid : world.state.registry.nextUeId = next.state.registry.nextUeId := by
        rw [hstate]
        rfl
      have hfresh : world.state.entities.ues.fresh = next.state.entities.ues.fresh := by
        rw [hstate]
        rfl
      have hindex : world.state.registry.supiIndex = next.state.registry.supiIndex := by
        rw [hstate]
        rfl
      have hguti : world.state.gutiOf tmsi = next.state.gutiOf tmsi := by
        rw [hstate]
        rfl
      refine ⟨tmsi, next.state.gutiOf tmsi, rfl, hguti, ?_⟩
      rw [← hstate, hid, hfresh, hindex]
      by_cases hsupi : supi = ""
      · rw [if_pos hsupi]
        left
        refine ⟨fun _ hne => absurd hsupi hne, ?_⟩
        simp [State.enrol, hsupi, modify]
      · rw [if_neg hsupi]
        generalize hworld : World.modifyRegistry _ _ = indexed
        have henrolled : indexed.state =
            next.state.enrol supi tmsi (next.state.gutiOf tmsi) := by
          rw [← hworld, State.enrol]
          simp only [if_neg hsupi]
          rfl
        rw [state_note, ← henrolled]
        dsimp only [modify]
        cases hold : next.state.registry.supiIndex[supi]? with
        | none => exact Or.inl ⟨fun _ _ hsome => absurd hsome (by simp), rfl⟩
        | some oldId =>
            dsimp only
            rcases indexed.replaceUe_cases oldId next.state.registry.nextUeId supi with
              ⟨hgone, hkept⟩ | ⟨old, hfind, hreplaced⟩
            · left
              refine ⟨?_, hkept⟩
              intro other _ hsame
              rw [Option.some.injEq] at hsame
              exact hsame ▸ hgone
            · exact Or.inr ⟨oldId, old, hsupi, rfl, hfind, hreplaced⟩

/-- What is attached to a UE is removed over every access. -/
def vacate (ref : Ref Ue) : World :=
  (world.removeAttached ref .threeGpp).removeAttached ref .nonThreeGpp

/-- A UE that is removed loses its RAN UEs and what it holds of the registry, and is retired. -/
theorem state_removeUe (ref : Ref Ue) :
    let bare := (world.vacate ref).state.relinquish ref
    (world.removeUe ref).state = bare.retire ref (bare.indexWithoutUe ref) := by
  have hvacate : AccessType.all.foldl (fun world access => world.removeAttached ref access) world =
      world.vacate ref := rfl
  dsimp only [removeUe]
  rw [hvacate]
  generalize world.vacate ref = vacated
  generalize hbare : (vacated.surrenderTmsi ref).modify
    (·.modifyUe ref ({ · with subscriptions := ∅ })) = bare
  have hstate : bare.state = vacated.state.relinquish ref := by
    rw [← hbare, state_modify, state_surrenderTmsi]
    rfl
  rw [← hstate]
  unfold State.retire State.indexWithoutUe
  have habsent (hnot : ¬ bare.state.registry.ues.contains (bare.state.ue ref).id = true) :
      bare.state.registry.ues.erase (bare.state.ue ref).id = bare.state.registry.ues := by
    apply Table.erase_absent
    rw [Std.ExtTreeMap.contains_eq_isSome_getElem?] at hnot
    simpa using hnot
  by_cases hsupi : (bare.state.ue ref).supi = ""
  · simp only [if_pos hsupi]
    split
    · rfl
    next hnot => rw [habsent hnot]
  · simp only [if_neg hsupi]
    split
    · rfl
    next hnot =>
      rw [habsent hnot]
      rfl

/-! ## Radio nodes come and go -/

/-- A release fails in one way only, so no fault of the radio node is ever told. -/
theorem takeOut_eq (node : Ref RadioNode) (key : Int) (ref : Ref RanUe) :
    world.takeOut node key ref = (world.release ref).2.modify (·.leaveCollection node key ref) := by
  dsimp only [takeOut, release]
  by_cases hremoved : (world.state.ranUe ref).removed = true
  · rw [if_pos hremoved]
  · rw [if_neg hremoved]

theorem state_takeOut (node : Ref RadioNode) (key : Int) (ref : Ref RanUe) :
    (world.takeOut node key ref).state =
      (world.state.evict (some ref)).leaveCollection node key ref := by
  rw [takeOut_eq, state_modify, state_release]

theorem state_dropRanUes (node : Ref RadioNode) (entries : List (Int × Ref RanUe)) :
    (world.dropRanUes node false entries).state = world.state.clearOut node entries := by
  unfold dropRanUes State.clearOut
  induction entries generalizing world with
  | nil => rfl
  | cons entry rest ih =>
      rw [List.foldl_cons, List.foldl_cons, ih]
      congr 1
      exact world.state_takeOut node entry.1 entry.2

theorem state_noteAddedMeanwhile (ref : Ref RadioNode) :
    (world.noteAddedMeanwhile ref).state = world.state := by
  dsimp only [noteAddedMeanwhile]
  split <;> rfl

/-- Removing every RAN UE of a radio node goes through its collection; the rest is told only. -/
theorem removeAllRanUes_drops (node : Ref RadioNode) (withUes : Bool) :
    ∃ noted : World, noted.state = world.state ∧
      (world.removeAllRanUes node withUes).state =
        (noted.dropRanUes node withUes (world.state.node node).ranUes.toList).state := by
  refine ⟨world.note (.removingRanUes (world.state.node node).name
    (world.state.node node).ranUes.size withUes), rfl, ?_⟩
  rw [removeAllRanUes, state_noteAddedMeanwhile]

theorem state_removeAllRanUes (node : Ref RadioNode) :
    (world.removeAllRanUes node false).state =
      world.state.clearOut node (world.state.node node).ranUes.toList := by
  obtain ⟨noted, hnoted, hdrops⟩ := world.removeAllRanUes_drops node false
  rw [hdrops, state_dropRanUes, hnoted]

theorem replaceNode_cases (oldId newId : Nat) (connection : Connection) :
    (world.state.findNode oldId = none ∧
        (world.replaceNode oldId newId connection).state = world.state) ∨
      ∃ old, world.state.findNode oldId = some old ∧
        (world.replaceNode oldId newId connection).state =
          State.clearOut
            { world.state with registry.nodes := world.state.registry.nodes.erase oldId }
            old (world.state.node old).ranUes.toList := by
  unfold replaceNode
  cases hfind : world.state.findNode oldId with
  | none => exact Or.inl ⟨rfl, rfl⟩
  | some old =>
      right
      refine ⟨old, rfl, ?_⟩
      dsimp only
      rw [state_removeAllRanUes]
      rfl

/-- A new radio node is refused and changes nothing, or it is opened.  The radio node that had its
connection, if there is one, leaves the pool and is cleared out.  A connection that is in use is
never refused. -/
theorem newNode_cases (connection : Connection) :
    ((connection.IsValid → world.state.registry.connectionIndex[connection.association]? = none) ∧
      ∃ error refused, world.newNode connection = (.error error, refused) ∧
        refused.state = world.state) ∨
      ∃ done, world.newNode connection = (.ok world.state.entities.nodes.fresh, done) ∧
        (((∀ oldId,
              world.state.registry.connectionIndex[connection.association]? = some oldId →
              (world.state.openNode connection).findNode oldId = none) ∧
            done.state = world.state.openNode connection) ∨
          ∃ oldId old,
            world.state.registry.connectionIndex[connection.association]? = some oldId ∧
            (world.state.openNode connection).findNode oldId = some old ∧
            done.state =
              State.clearOut
                { world.state.openNode connection with
                  registry.nodes :=
                    (world.state.openNode connection).registry.nodes.erase oldId }
                old ((world.state.openNode connection).node old).ranUes.toList) := by
  dsimp only [newNode]
  by_cases hvalid : connection.IsValid
  · rw [if_neg (not_not_intro hvalid)]
    split
    next hfull =>
      left
      refine ⟨fun _ => ?_, _, _, rfl, rfl⟩
      rw [Std.ExtTreeMap.contains_eq_isSome_getElem?] at hfull
      simpa using hfull.2
    · right
      refine ⟨_, rfl, ?_⟩
      rw [state_note]
      generalize hworld : world.modify _ = opened
      have hstate : opened.state = world.state.openNode connection := by
        rw [← hworld]
        rfl
      cases hold : world.state.registry.connectionIndex[connection.association]? with
      | none => exact Or.inl ⟨fun _ hsome => absurd hsome (by simp), hstate⟩
      | some oldId =>
          dsimp only
          rcases opened.replaceNode_cases oldId world.state.registry.nextNodeId connection with
            ⟨hgone, hkept⟩ | ⟨old, hfind, hcleared⟩
          · left
            refine ⟨?_, hkept.trans hstate⟩
            intro other hsame
            rw [Option.some.injEq] at hsame
            rw [← hsame, ← hstate]
            exact hgone
          · right
            rw [hstate] at hfind hcleared
            exact ⟨oldId, old, rfl, hfind, hcleared⟩
  · rw [if_pos hvalid]
    exact Or.inl ⟨fun hother => absurd hother hvalid, _, _, rfl, rfl⟩

/-- Removing a radio node is refused and changes nothing, or the radio node leaves the pool and the
index of connections and is cleared out.  The index never resolves to a radio node that the pool
does not hold, which a well numbered state excludes. -/
theorem removeNode_cases (hnumbered : world.state.WellNumbered) (connection : Connection) :
    (world.state.findNodeByConnection connection = none ∧
      ∃ error, world.removeNode connection = (.error error, world)) ∨
      ∃ ref done, world.state.findNodeByConnection connection = some ref ∧
        world.removeNode connection = (.ok ref, done) ∧
        done.state =
          (world.state.closeNode ref
            (world.state.registry.connectionIndex.eraseIf connection.association
              (· = (world.state.node ref).id))).clearOut
            ref (world.state.node ref).ranUes.toList := by
  unfold removeNode
  cases hfind : world.state.findNodeByConnection connection with
  | none => exact Or.inl ⟨rfl, _, rfl⟩
  | some ref =>
      right
      dsimp only
      generalize hforgotten : World.modifyRegistry world _ = forgotten
      have hregistered : forgotten.state.NodeRegistered ref := by
        rw [← hforgotten]
        exact hnumbered.nodeRegistered_of_connection hfind
      rw [if_neg (not_not_intro hregistered)]
      refine ⟨ref, _, rfl, rfl, ?_⟩
      rw [state_note, state_removeAllRanUes]
      subst hforgotten
      rfl

/-! ## Subscriptions -/

/-- An entry that is stored is deleted, and the number its id reads as is given back. -/
theorem deleteSubscription_stored {world : World} {id : String} {entry : SubscriptionEntry}
    (hstored : world.state.registry.subscriptions[id]? = some entry) :
    ∃ done, world.deleteSubscription id = (.ok entry, done) ∧
      done.state = { world.state with
        registry.subscriptions := world.state.registry.subscriptions.erase id
        registry.subscriptionIds := (Decimal.int64? id).elim world.state.registry.subscriptionIds
          world.state.registry.subscriptionIds.free } := by
  unfold deleteSubscription
  rw [hstored]
  cases Decimal.int64? id with
  | none => exact ⟨_, rfl, rfl⟩
  | some number => exact ⟨_, rfl, rfl⟩

theorem registry_unsubscribe (id supi : String) :
    (world.unsubscribe id supi).state.registry = world.state.registry := by
  unfold unsubscribe
  split <;> rfl

theorem registry_unsubscribeAll (id : String) (supis : List String) :
    (supis.foldl (fun world supi => world.unsubscribe id supi) world).state.registry =
      world.state.registry := by
  induction supis generalizing world with
  | nil => rfl
  | cons supi rest ih => rw [List.foldl_cons, ih, registry_unsubscribe]

/-- What UEs keep of a subscription is no matter of the registry. -/
theorem registry_removeSubscription (id : String) :
    (world.removeSubscription id).2.state.registry =
      (world.deleteSubscription id).2.state.registry := by
  unfold removeSubscription
  cases world.deleteSubscription id with
  | mk answer next =>
      cases answer with
      | error error => rfl
      | ok entry => exact next.registry_unsubscribeAll id entry.supis

end World

end AccessMobility
