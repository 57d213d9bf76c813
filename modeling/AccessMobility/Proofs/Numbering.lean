import AccessMobility.Proofs.RegistryStep

/-!
# Pool ids and indexes

UEs and radio nodes are known by pool ids.  A pool id is given out once, so it names one object for
ever, also after this object has left its pool; and an index entry always resolves to a registered
object with the SUPI or the connection it is filed under.
-/

namespace AccessMobility

namespace State

/-- Pool ids are unique, and the indexes resolve. -/
structure WellNumbered (state : State) : Prop where
  ue_lt : ∀ ref, (state.ue ref).id < state.registry.nextUeId
  ue_unique : ∀ {id found}, state.findUe id = some found →
    ∀ ref, (state.ue ref).id = id ↔ ref = found
  ue_created : ∀ {id found}, state.findUe id = some found → found.number < state.created.1
  supi_resolves : ∀ {supi id}, state.registry.supiIndex[supi]? = some id →
    supi ≠ "" ∧ ∃ ref, state.findUe id = some ref ∧ (state.ue ref).supi = supi
  node_lt : ∀ ref, (state.node ref).id < state.registry.nextNodeId
  node_unique : ∀ {id found}, state.findNode id = some found →
    ∀ ref, (state.node ref).id = id ↔ ref = found
  node_created : ∀ {id found}, state.findNode id = some found → found.number < state.created.2.1
  connection_resolves : ∀ {association id},
    state.registry.connectionIndex[association]? = some id →
      ∃ ref, state.findNode id = some ref ∧ (state.node ref).connection.association = association

theorem wellNumbered_new (config : Config) : (State.new config).WellNumbered := by
  have hue (ref : Ref Ue) : (State.new config).ue ref = default := by
    simp [State.new, State.ue, Store.get]
  have hnode (ref : Ref RadioNode) : (State.new config).node ref = default := by
    simp [State.new, State.node, Store.get]
  constructor
  · intro ref
    rw [hue]
    exact Nat.zero_lt_one
  · simp [State.new, Registry.new, findUe]
  · simp [State.new, Registry.new, findUe]
  · simp [State.new, Registry.new]
  · intro ref
    rw [hnode]
    exact Nat.zero_lt_one
  · simp [State.new, Registry.new, findNode]
  · simp [State.new, Registry.new, findNode]
  · simp [State.new, Registry.new]

section

variable {state : State} (hnumbered : state.WellNumbered)

include hnumbered

theorem WellNumbered.ue_id {id : Nat} {ref : Ref Ue} (hfind : state.findUe id = some ref) :
    (state.ue ref).id = id :=
  (hnumbered.ue_unique hfind ref).mpr rfl

theorem WellNumbered.node_id {id : Nat} {ref : Ref RadioNode}
    (hfind : state.findNode id = some ref) : (state.node ref).id = id :=
  (hnumbered.node_unique hfind ref).mpr rfl

theorem WellNumbered.ueRegistered_of_find {id : Nat} {ref : Ref Ue}
    (hfind : state.findUe id = some ref) : state.UeRegistered ref := by
  unfold UeRegistered
  rw [hnumbered.ue_id hfind]
  exact hfind

theorem WellNumbered.nodeRegistered_of_find {id : Nat} {ref : Ref RadioNode}
    (hfind : state.findNode id = some ref) : state.NodeRegistered ref := by
  unfold NodeRegistered
  rw [hnumbered.node_id hfind]
  exact hfind

theorem WellNumbered.nodeRegistered_of_connection {connection : Connection} {ref : Ref RadioNode}
    (hfind : state.findNodeByConnection connection = some ref) : state.NodeRegistered ref := by
  unfold findNodeByConnection at hfind
  split at hfind
  · obtain ⟨id, -, hfound⟩ := Option.bind_eq_some_iff.mp hfind
    exact hnumbered.nodeRegistered_of_find hfound
  · simp at hfind

theorem WellNumbered.ueRegistered_of_supi {supi : String} {ref : Ref Ue}
    (hfind : state.findUeBySupi supi = some ref) : state.UeRegistered ref := by
  unfold findUeBySupi at hfind
  split at hfind
  · simp at hfind
  · obtain ⟨id, -, hfound⟩ := Option.bind_eq_some_iff.mp hfind
    exact hnumbered.ueRegistered_of_find hfound

theorem WellNumbered.mem_ues {ref : Ref Ue} :
    ref ∈ state.registry.ues.values ↔ state.UeRegistered ref := by
  rw [Table.mem_values]
  constructor
  · rintro ⟨id, hfind⟩
    exact hnumbered.ueRegistered_of_find hfind
  · intro hregistered
    exact ⟨_, hregistered⟩

theorem WellNumbered.nodup_ues : state.registry.ues.values.Nodup := by
  apply Table.nodup_values
  intro left right ref hleft hright
  exact (hnumbered.ue_id hleft).symm.trans (hnumbered.ue_id hright)

/-- Two UEs of one pool id are the same as soon as one of them is registered. -/
theorem WellNumbered.ue_eq_of_id {left right : Ref Ue} (hright : state.UeRegistered right)
    (hid : (state.ue left).id = (state.ue right).id) : left = right :=
  (hnumbered.ue_unique hright left).mp hid

theorem WellNumbered.node_eq_of_id {left right : Ref RadioNode}
    (hright : state.NodeRegistered right) (hid : (state.node left).id = (state.node right).id) :
    left = right :=
  (hnumbered.node_unique hright left).mp hid

theorem WellNumbered.findUe_lt {id : Nat} {ref : Ref Ue} (hfind : state.findUe id = some ref) :
    id < state.registry.nextUeId := by
  have hlt := hnumbered.ue_lt ref
  rw [hnumbered.ue_id hfind] at hlt
  exact hlt

theorem WellNumbered.findNode_lt {id : Nat} {ref : Ref RadioNode}
    (hfind : state.findNode id = some ref) : id < state.registry.nextNodeId := by
  have hlt := hnumbered.node_lt ref
  rw [hnumbered.node_id hfind] at hlt
  exact hlt

theorem WellNumbered.supi_eq {left right : String} {id : Nat}
    (hleft : state.registry.supiIndex[left]? = some id)
    (hright : state.registry.supiIndex[right]? = some id) : left = right := by
  obtain ⟨-, ref, hfound, hfiled⟩ := hnumbered.supi_resolves hleft
  obtain ⟨-, other, hother, hfiledOther⟩ := hnumbered.supi_resolves hright
  have heq : ref = other := Option.some.inj (hfound.symm.trans hother)
  rw [← hfiled, heq, hfiledOther]

theorem WellNumbered.association_eq {left right id : Nat}
    (hleft : state.registry.connectionIndex[left]? = some id)
    (hright : state.registry.connectionIndex[right]? = some id) : left = right := by
  obtain ⟨ref, hfound, hfiled⟩ := hnumbered.connection_resolves hleft
  obtain ⟨other, hother, hfiledOther⟩ := hnumbered.connection_resolves hright
  have heq : ref = other := Option.some.inj (hfound.symm.trans hother)
  rw [← hfiled, heq, hfiledOther]

theorem WellNumbered.congr {next : State} (hsame : state.SameNumbers next) :
    next.WellNumbered := by
  have hfindUe := hsame.findUe_eq
  have hfindNode := hsame.findNode_eq
  constructor
  · intro ref
    rw [hsame.ue_id, hsame.nextUeId]
    exact hnumbered.ue_lt ref
  · intro id found hfound ref
    rw [hfindUe] at hfound
    rw [hsame.ue_id]
    exact hnumbered.ue_unique hfound ref
  · intro id found hfound
    rw [hfindUe] at hfound
    rw [hsame.created_ues]
    exact hnumbered.ue_created hfound
  · intro supi id hindex
    rw [hsame.supiIndex] at hindex
    obtain ⟨hsupi, ref, hfound, hfiled⟩ := hnumbered.supi_resolves hindex
    rw [hfindUe]
    exact ⟨hsupi, ref, hfound, (hsame.ue_supi ref).trans hfiled⟩
  · intro ref
    rw [hsame.node_id, hsame.nextNodeId]
    exact hnumbered.node_lt ref
  · intro id found hfound ref
    rw [hfindNode] at hfound
    rw [hsame.node_id]
    exact hnumbered.node_unique hfound ref
  · intro id found hfound
    rw [hfindNode] at hfound
    rw [hsame.created_nodes]
    exact hnumbered.node_created hfound
  · intro association id hindex
    rw [hsame.connectionIndex] at hindex
    obtain ⟨ref, hfound, hfiled⟩ := hnumbered.connection_resolves hindex
    rw [hfindNode]
    exact ⟨ref, hfound, (congrArg Connection.association (hsame.node_connection ref)).trans hfiled⟩

end

/-! ## Steps that leave the numbers alone -/

section SameNumbers

variable (state : State)

theorem sameNumbers_detach (ref : Ref Ue) (access : AccessType) :
    state.SameNumbers (state.detach ref access) where
  ue_id other := by
    rw [ue_detach]
    split
    next heq => exact heq ▸ rfl
    next => rfl
  ue_supi other := by
    rw [ue_detach]
    split
    next heq => exact heq ▸ rfl
    next => rfl
  node_id ref := by rw [node_detach]
  node_connection ref := by rw [node_detach]
  node_limit ref := by rw [node_detach]
  ues := by rw [registry_detach]
  supiIndex := by rw [registry_detach]
  nodes := by rw [registry_detach]
  connectionIndex := by rw [registry_detach]
  nextUeId := by rw [registry_detach]
  nextNodeId := by rw [registry_detach]
  limits := by rw [registry_detach]
  created_ues := by rw [created_detach]
  created_nodes := by rw [created_detach]

theorem sameNumbers_release (ref : Ref RanUe) : state.SameNumbers (state.release ref) where
  ue_id other := by
    rw [ue_release]
    split <;> rfl
  ue_supi other := by
    rw [ue_release]
    split <;> rfl
  node_id other := by
    rw [node_release]
    split <;> rfl
  node_connection other := by
    rw [node_release]
    split <;> rfl
  node_limit other := by
    rw [node_release]
    split <;> rfl
  ues := by
    rw [registry_release]
    split <;> rfl
  supiIndex := by
    rw [registry_release]
    split <;> rfl
  nodes := by
    rw [registry_release]
    split <;> rfl
  connectionIndex := by
    rw [registry_release]
    split <;> rfl
  nextUeId := by
    rw [registry_release]
    split <;> rfl
  nextNodeId := by
    rw [registry_release]
    split <;> rfl
  limits := by
    rw [registry_release]
    split <;> rfl
  created_ues := by rw [created_release]
  created_nodes := by rw [created_release]

theorem sameNumbers_setUe {state : State} {ref : Ref Ue} {ue : Ue}
    (hid : ue.id = (state.ue ref).id) (hsupi : ue.supi = (state.ue ref).supi) :
    state.SameNumbers (state.setUe ref ue) where
  ue_id := field_setUe Ue.id hid
  ue_supi := field_setUe Ue.supi hsupi

theorem sameNumbers_setNode {state : State} {ref : Ref RadioNode} {node : RadioNode}
    (hid : node.id = (state.node ref).id)
    (hconnection : node.connection = (state.node ref).connection)
    (hlimit : node.limit = (state.node ref).limit) :
    state.SameNumbers (state.setNode ref node) where
  node_id := field_setNode RadioNode.id hid
  node_connection := field_setNode RadioNode.connection hconnection
  node_limit := field_setNode RadioNode.limit hlimit

theorem sameNumbers_setRanUe (ref : Ref RanUe) (ranUe : RanUe) :
    state.SameNumbers (state.setRanUe ref ranUe) := {}

theorem SameNumbers.refl : state.SameNumbers state := {}

theorem sameNumbers_evict (displaced : Option (Ref RanUe)) :
    state.SameNumbers (state.evict displaced) := by
  cases displaced with
  | none => exact SameNumbers.refl state
  | some ref =>
      by_cases hremoved : (state.ranUe ref).removed = true
      · rw [evict, if_pos hremoved]
        exact SameNumbers.refl state
      · rw [evict, if_neg hremoved]
        exact state.sameNumbers_release ref

theorem sameNumbers_attach (ueRef : Ref Ue) (ranUeRef : Ref RanUe) (access : AccessType) :
    state.SameNumbers (state.attach ueRef ranUeRef access) where
  ue_id other := by
    rw [ue_attach, ue_occupy]
    by_cases heq : ueRef = other
    · subst heq
      split <;> simp [Ue.unlink, Ue.link]
    · rw [if_neg heq]
      split <;> rfl
  ue_supi other := by
    rw [ue_attach, ue_occupy]
    by_cases heq : ueRef = other
    · subst heq
      split <;> simp [Ue.unlink, Ue.link]
    · rw [if_neg heq]
      split <;> rfl
  node_id ref := by rw [node_attach]
  node_connection ref := by rw [node_attach]
  node_limit ref := by rw [node_attach]
  ues := by rw [registry_attach]
  supiIndex := by rw [registry_attach]
  nodes := by rw [registry_attach]
  connectionIndex := by rw [registry_attach]
  nextUeId := by rw [registry_attach]
  nextNodeId := by rw [registry_attach]
  limits := by rw [registry_attach]
  created_ues := by rw [created_attach]
  created_nodes := by rw [created_attach]

theorem sameNumbers_enlist (nodeRef : Ref RadioNode) (key : Int) (ngapId : Nat) (pool : IdPool) :
    state.SameNumbers (state.enlist nodeRef key ngapId pool) where
  node_id other := by
    rw [node_enlist]
    split
    next heq => exact heq ▸ rfl
    next => rfl
  node_connection other := by
    rw [node_enlist]
    split
    next heq => exact heq ▸ rfl
    next => rfl
  node_limit other := by
    rw [node_enlist]
    split
    next heq => exact heq ▸ rfl
    next => rfl

theorem sameNumbers_rehome (ref : Ref RanUe) (source target : Ref RadioNode) (key : Int) :
    state.SameNumbers (state.rehome ref source target key) where
  ue_id other := by rw [ue_rehome]
  ue_supi other := by rw [ue_rehome]
  node_id other := by
    rw [node_rehome]
    by_cases heq : target = other
    · subst heq
      rw [if_pos rfl]
      split <;> rfl
    · rw [if_neg heq]
      split <;> rfl
  node_connection other := by
    rw [node_rehome]
    by_cases heq : target = other
    · subst heq
      rw [if_pos rfl]
      split <;> rfl
    · rw [if_neg heq]
      split <;> rfl
  node_limit other := by
    rw [node_rehome]
    by_cases heq : target = other
    · subst heq
      rw [if_pos rfl]
      split <;> rfl
    · rw [if_neg heq]
      split <;> rfl
  ues := by rw [registry_rehome]
  supiIndex := by rw [registry_rehome]
  nodes := by rw [registry_rehome]
  connectionIndex := by rw [registry_rehome]
  nextUeId := by rw [registry_rehome]
  nextNodeId := by rw [registry_rehome]
  limits := by rw [registry_rehome]
  created_ues := by rw [created_rehome]
  created_nodes := by rw [created_rehome]

theorem sameNumbers_setAccess (node : Ref RadioNode) (access : AccessType) :
    state.SameNumbers (state.modifyNode node ({ · with access })) :=
  sameNumbers_setNode rfl rfl rfl

end SameNumbers

/-- What a step can do to the numbers. -/
inductive Renumbers (state : State) : State → Prop
  | same {next : State} : state.SameNumbers next → Renumbers state next
  | enrol (supi : String) (tmsi : Option Int) (guti : Option String) :
      Renumbers state (state.enrol supi tmsi guti)
  | retire {ue : Ref Ue} {supiIndex : Table String Nat} :
      IndexWithout (state.ue ue).id state.registry.supiIndex supiIndex →
      Renumbers state (state.retire ue supiIndex)
  | openNode (connection : Connection) : Renumbers state (state.openNode connection)
  | closeNode {node : Ref RadioNode} {connectionIndex : Table Nat Nat} :
      IndexWithout (state.node node).id state.registry.connectionIndex connectionIndex →
      Renumbers state (state.closeNode node connectionIndex)

theorem Step.renumbers {allowed : State → Operation → Prop} {state next : State}
    (hstep : Step allowed state next) : state.Renumbers next := by
  cases hstep with
  | describe hsame => exact .same hsame.toSameNumbers
  | attach _ _ _ => exact .same (state.sameNumbers_attach ..)
  | detach ue access => exact .same (state.sameNumbers_detach ue access)
  | release _ => exact .same (state.sameNumbers_release _)
  | enlist key _ _ _ => exact .same ((state.sameNumbers_enlist ..).trans (sameNumbers_evict _ _))
  | rehome _ _ _ _ => exact .same ((state.sameNumbers_rehome ..).trans (sameNumbers_evict _ _))
  | enrol supi tmsi guti => exact .enrol supi tmsi guti
  | retire _ hindex => exact .retire hindex
  | openNode connection => exact .openNode connection
  | closeNode _ _ hindex => exact .closeNode hindex
  | setAccess _ => exact .same (state.sameNumbers_setAccess ..)

/-! ## Steps that open and close numbers -/

section

variable {state : State} (hnumbered : state.WellNumbered)

include hnumbered

/-- A reference that was never handed out names no registered UE. -/
theorem WellNumbered.ue_ne_fresh {id : Nat} {ref : Ref Ue} (hfind : state.findUe id = some ref) :
    state.entities.ues.fresh ≠ ref :=
  Store.ne_fresh (hnumbered.ue_created hfind)

theorem WellNumbered.node_ne_fresh {id : Nat} {ref : Ref RadioNode}
    (hfind : state.findNode id = some ref) : state.entities.nodes.fresh ≠ ref :=
  Store.ne_fresh (hnumbered.node_created hfind)

theorem WellNumbered.enrol (supi : String) (tmsi : Option Int) (guti : Option String) :
    (state.enrol supi tmsi guti).WellNumbered := by
  have hfind := state.findUe_enrol supi tmsi guti
  constructor
  · intro ref
    rw [ue_enrol]
    split
    · exact Nat.lt_succ_self _
    · exact Nat.lt_succ_of_lt (hnumbered.ue_lt ref)
  · intro id found hfound ref
    rw [hfind] at hfound
    rw [ue_enrol]
    by_cases hid : state.registry.nextUeId = id
    · rw [if_pos hid, Option.some.injEq] at hfound
      subst hid
      subst hfound
      by_cases heq : state.entities.ues.fresh = ref
      · simp [heq]
      · have hlt := hnumbered.ue_lt ref
        rw [if_neg heq]
        exact ⟨fun hsame => absurd hsame (Nat.ne_of_lt hlt), fun hsame => absurd hsame.symm heq⟩
    · rw [if_neg hid] at hfound
      by_cases heq : state.entities.ues.fresh = ref
      · subst heq
        rw [if_pos rfl]
        exact ⟨fun hsame => absurd hsame hid,
          fun hsame => absurd hsame (hnumbered.ue_ne_fresh hfound)⟩
      · rw [if_neg heq]
        exact hnumbered.ue_unique hfound ref
  · intro id found hfound
    rw [hfind] at hfound
    show found.number < state.created.1 + 1
    split at hfound
    · rw [Option.some.injEq] at hfound
      subst hfound
      exact Nat.lt_succ_self _
    · exact Nat.lt_succ_of_lt (hnumbered.ue_created hfound)
  · intro name id hindex
    have hold (hindex : state.registry.supiIndex[name]? = some id) :
        name ≠ "" ∧ ∃ ref, (state.enrol supi tmsi guti).findUe id = some ref ∧
          ((state.enrol supi tmsi guti).ue ref).supi = name := by
      obtain ⟨hname, ref, hfound, hfiled⟩ := hnumbered.supi_resolves hindex
      refine ⟨hname, ref, ?_, ?_⟩
      · rw [hfind, if_neg (Nat.ne_of_gt (hnumbered.findUe_lt hfound))]
        exact hfound
      · rw [ue_enrol, if_neg (hnumbered.ue_ne_fresh hfound)]
        exact hfiled
    by_cases hsupi : supi = ""
    · apply hold
      simpa [State.enrol, hsupi] using hindex
    · have hinsert : (state.registry.supiIndex.insert supi state.registry.nextUeId)[name]? =
          some id := by
        simpa [State.enrol, hsupi] using hindex
      rw [Table.lookup_insert] at hinsert
      split at hinsert
      next heq =>
        rw [Option.some.injEq] at hinsert
        refine ⟨heq ▸ hsupi, state.entities.ues.fresh, ?_, ?_⟩
        · rw [hfind, if_pos hinsert]
        · rw [ue_enrol, if_pos rfl]
          exact heq
      next => exact hold hinsert
  · exact hnumbered.node_lt
  · exact hnumbered.node_unique
  · exact hnumbered.node_created
  · exact hnumbered.connection_resolves

/-- Once a new UE has taken over a SUPI, nothing is filed for the UE that had it. -/
theorem WellNumbered.indexWithout_enrol {supi : String} {oldId : Nat} (hsupi : supi ≠ "")
    (hindex : state.registry.supiIndex[supi]? = some oldId) (tmsi : Option Int)
    (guti : Option String) :
    IndexWithout oldId (state.enrol supi tmsi guti).registry.supiIndex
      (state.enrol supi tmsi guti).registry.supiIndex := by
  intro name id hentry
  refine ⟨hentry, ?_⟩
  intro heq
  subst heq
  have hinsert : (state.registry.supiIndex.insert supi state.registry.nextUeId)[name]? =
      some id := by
    simpa [State.enrol, hsupi] using hentry
  rw [Table.lookup_insert] at hinsert
  split at hinsert
  next =>
    obtain ⟨-, ref, hfound, -⟩ := hnumbered.supi_resolves hindex
    rw [Option.some.injEq] at hinsert
    exact Nat.ne_of_gt (hnumbered.findUe_lt hfound) hinsert
  next hne => exact hne (hnumbered.supi_eq hindex hinsert)

theorem WellNumbered.retire {ref : Ref Ue} {supiIndex : Table String Nat}
    (hindex : IndexWithout (state.ue ref).id state.registry.supiIndex supiIndex) :
    (state.retire ref supiIndex).WellNumbered := by
  have hfind := state.findUe_retire ref supiIndex
  have hkept {id : Nat} {found : Ref Ue}
      (hfound : (state.retire ref supiIndex).findUe id = some found) :
      state.findUe id = some found := by
    rw [hfind] at hfound
    split at hfound
    · simp at hfound
    · exact hfound
  constructor
  · exact hnumbered.ue_lt
  · intro id found hfound
    exact hnumbered.ue_unique (hkept hfound)
  · intro id found hfound
    exact hnumbered.ue_created (hkept hfound)
  · intro supi id hentry
    obtain ⟨hold, hne⟩ := hindex supi id hentry
    obtain ⟨hsupi, other, hfound, hfiled⟩ := hnumbered.supi_resolves hold
    refine ⟨hsupi, other, ?_, hfiled⟩
    rw [hfind, if_neg (Ne.symm hne)]
    exact hfound
  · exact hnumbered.node_lt
  · exact hnumbered.node_unique
  · exact hnumbered.node_created
  · exact hnumbered.connection_resolves

theorem WellNumbered.openNode (connection : Connection) :
    (state.openNode connection).WellNumbered := by
  have hfind := state.findNode_openNode connection
  constructor
  · exact hnumbered.ue_lt
  · exact hnumbered.ue_unique
  · exact hnumbered.ue_created
  · exact hnumbered.supi_resolves
  · intro ref
    rw [node_openNode]
    split
    · exact Nat.lt_succ_self _
    · exact Nat.lt_succ_of_lt (hnumbered.node_lt ref)
  · intro id found hfound ref
    rw [hfind] at hfound
    rw [node_openNode]
    by_cases hid : state.registry.nextNodeId = id
    · rw [if_pos hid, Option.some.injEq] at hfound
      subst hid
      subst hfound
      by_cases heq : state.entities.nodes.fresh = ref
      · simp [heq]
      · have hlt := hnumbered.node_lt ref
        rw [if_neg heq]
        exact ⟨fun hsame => absurd hsame (Nat.ne_of_lt hlt), fun hsame => absurd hsame.symm heq⟩
    · rw [if_neg hid] at hfound
      by_cases heq : state.entities.nodes.fresh = ref
      · subst heq
        rw [if_pos rfl]
        exact ⟨fun hsame => absurd hsame hid,
          fun hsame => absurd hsame (hnumbered.node_ne_fresh hfound)⟩
      · rw [if_neg heq]
        exact hnumbered.node_unique hfound ref
  · intro id found hfound
    rw [hfind] at hfound
    show found.number < state.created.2.1 + 1
    split at hfound
    · rw [Option.some.injEq] at hfound
      subst hfound
      exact Nat.lt_succ_self _
    · exact Nat.lt_succ_of_lt (hnumbered.node_created hfound)
  · intro association id hindex
    have hinsert :
        (state.registry.connectionIndex.insert connection.association
          state.registry.nextNodeId)[association]? = some id := hindex
    rw [Table.lookup_insert] at hinsert
    split at hinsert
    next heq =>
      rw [Option.some.injEq] at hinsert
      refine ⟨state.entities.nodes.fresh, ?_, ?_⟩
      · rw [hfind, if_pos hinsert]
      · rw [node_openNode, if_pos rfl]
        exact heq
    next =>
      obtain ⟨ref, hfound, hfiled⟩ := hnumbered.connection_resolves hinsert
      refine ⟨ref, ?_, ?_⟩
      · rw [hfind, if_neg (Nat.ne_of_gt (hnumbered.findNode_lt hfound))]
        exact hfound
      · rw [node_openNode, if_neg (hnumbered.node_ne_fresh hfound)]
        exact hfiled

theorem WellNumbered.indexWithout_openNode {connection : Connection} {oldId : Nat}
    (hindex : state.registry.connectionIndex[connection.association]? = some oldId) :
    IndexWithout oldId (state.openNode connection).registry.connectionIndex
      (state.openNode connection).registry.connectionIndex := by
  intro association id hentry
  refine ⟨hentry, ?_⟩
  intro heq
  subst heq
  have hinsert :
      (state.registry.connectionIndex.insert connection.association
        state.registry.nextNodeId)[association]? = some id := hentry
  rw [Table.lookup_insert] at hinsert
  split at hinsert
  next =>
    obtain ⟨ref, hfound, -⟩ := hnumbered.connection_resolves hindex
    rw [Option.some.injEq] at hinsert
    exact Nat.ne_of_gt (hnumbered.findNode_lt hfound) hinsert
  next hne => exact hne (hnumbered.association_eq hindex hinsert)

/-- Once the entry of a connection is erased, nothing is filed for the radio node it resolved to. -/
theorem WellNumbered.indexWithout_closeNode {connection : Connection} {ref : Ref RadioNode}
    (hfind : state.findNodeByConnection connection = some ref) :
    IndexWithout (state.node ref).id state.registry.connectionIndex
      (state.registry.connectionIndex.eraseIf connection.association
        (· = (state.node ref).id)) := by
  unfold findNodeByConnection at hfind
  split at hfind
  next =>
    obtain ⟨id, hindex, hfound⟩ := Option.bind_eq_some_iff.mp hfind
    rw [← hnumbered.node_id hfound] at hindex
    intro association other hentry
    rw [Table.lookup_eraseIf] at hentry
    obtain ⟨hold, hnot⟩ := hentry
    refine ⟨hold, ?_⟩
    intro heq
    subst heq
    exact hnot ⟨hnumbered.association_eq hindex hold, by simp⟩
  next => simp at hfind

theorem WellNumbered.closeNode {ref : Ref RadioNode} {connectionIndex : Table Nat Nat}
    (hindex : IndexWithout (state.node ref).id state.registry.connectionIndex connectionIndex) :
    (state.closeNode ref connectionIndex).WellNumbered := by
  have hfind := state.findNode_closeNode ref connectionIndex
  have hkept {id : Nat} {found : Ref RadioNode}
      (hfound : (state.closeNode ref connectionIndex).findNode id = some found) :
      state.findNode id = some found := by
    rw [hfind] at hfound
    split at hfound
    · simp at hfound
    · exact hfound
  constructor
  · exact hnumbered.ue_lt
  · exact hnumbered.ue_unique
  · exact hnumbered.ue_created
  · exact hnumbered.supi_resolves
  · exact hnumbered.node_lt
  · intro id found hfound
    exact hnumbered.node_unique (hkept hfound)
  · intro id found hfound
    exact hnumbered.node_created (hkept hfound)
  · intro association id hentry
    obtain ⟨hold, hne⟩ := hindex association id hentry
    obtain ⟨other, hfound, hfiled⟩ := hnumbered.connection_resolves hold
    refine ⟨other, ?_, hfiled⟩
    rw [hfind, if_neg (Ne.symm hne)]
    exact hfound

theorem WellNumbered.step {allowed : State → Operation → Prop} {next : State}
    (hstep : Step allowed state next) : next.WellNumbered := by
  cases hstep.renumbers with
  | same hsame => exact hnumbered.congr hsame
  | enrol supi tmsi guti => exact hnumbered.enrol supi tmsi guti
  | retire hindex => exact hnumbered.retire hindex
  | openNode connection => exact hnumbered.openNode connection
  | closeNode hindex => exact hnumbered.closeNode hindex

end

end State

end AccessMobility
