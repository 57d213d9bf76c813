import AccessMobility.Proofs.RegistryRun
import AccessMobility.Proofs.StateViews

/-!
# Steps of a registry

Which objects a registry holds, under which identifiers, and who names whom is its wiring.  This
file lists the steps by which the wiring of a state can change.  They are smaller than the calls:
removing a UE is a chain of steps that release its RAN UEs one by one and a last step that retires
the UE itself, and tearing a radio node down is a chain of releases and a last step that closes the
node once nothing is left on it.  An invariant of the wiring has to be checked on the steps only.
-/

namespace AccessMobility

namespace State

/-! ## States with the same wiring -/

/-- Two states with the same UEs and radio nodes under the same numbers, within the same limits. -/
structure SameNumbers (state next : State) : Prop where
  ue_id : ∀ ref, (next.ue ref).id = (state.ue ref).id := by intro; rfl
  ue_supi : ∀ ref, (next.ue ref).supi = (state.ue ref).supi := by intro; rfl
  node_id : ∀ ref, (next.node ref).id = (state.node ref).id := by intro; rfl
  node_connection :
    ∀ ref, (next.node ref).connection = (state.node ref).connection := by intro; rfl
  node_limit : ∀ ref, (next.node ref).limit = (state.node ref).limit := by intro; rfl
  ues : next.registry.ues = state.registry.ues := by rfl
  supiIndex : next.registry.supiIndex = state.registry.supiIndex := by rfl
  nodes : next.registry.nodes = state.registry.nodes := by rfl
  connectionIndex : next.registry.connectionIndex = state.registry.connectionIndex := by rfl
  nextUeId : next.registry.nextUeId = state.registry.nextUeId := by rfl
  nextNodeId : next.registry.nextNodeId = state.registry.nextNodeId := by rfl
  limits : next.registry.limits = state.registry.limits := by rfl
  created_ues : next.created.1 = state.created.1 := by rfl
  created_nodes : next.created.2.1 = state.created.2.1 := by rfl

/-- Two states that differ at most in what no pool, index or link depends on. -/
structure SameWiring (state next : State) : Prop extends SameNumbers state next where
  ue_slots : ∀ ref, (next.ue ref).slots = (state.ue ref).slots := by intro; rfl
  ranUe_ngapId : ∀ ref, (next.ranUe ref).ngapId = (state.ranUe ref).ngapId := by intro; rfl
  ranUe_nodeId : ∀ ref, (next.ranUe ref).nodeId = (state.ranUe ref).nodeId := by intro; rfl
  ranUe_key : ∀ ref, (next.ranUe ref).key = (state.ranUe ref).key := by intro; rfl
  ranUe_ueId : ∀ ref, (next.ranUe ref).ueId = (state.ranUe ref).ueId := by intro; rfl
  ranUe_removed : ∀ ref, (next.ranUe ref).removed = (state.ranUe ref).removed := by intro; rfl
  node_access : ∀ ref, (next.node ref).access = (state.node ref).access := by intro; rfl
  node_ranUes : ∀ ref, (next.node ref).ranUes = (state.node ref).ranUes := by intro; rfl
  ranUes : next.registry.ranUes = state.registry.ranUes := by rfl
  ngapIds : next.registry.ngapIds = state.registry.ngapIds := by rfl
  created_ranUes : next.created.2.2 = state.created.2.2 := by rfl

theorem SameNumbers.trans {first second third : State} (hfirst : first.SameNumbers second)
    (hsecond : second.SameNumbers third) : first.SameNumbers third where
  ue_id ref := (hsecond.ue_id ref).trans (hfirst.ue_id ref)
  ue_supi ref := (hsecond.ue_supi ref).trans (hfirst.ue_supi ref)
  node_id ref := (hsecond.node_id ref).trans (hfirst.node_id ref)
  node_connection ref := (hsecond.node_connection ref).trans (hfirst.node_connection ref)
  node_limit ref := (hsecond.node_limit ref).trans (hfirst.node_limit ref)
  ues := hsecond.ues.trans hfirst.ues
  supiIndex := hsecond.supiIndex.trans hfirst.supiIndex
  nodes := hsecond.nodes.trans hfirst.nodes
  connectionIndex := hsecond.connectionIndex.trans hfirst.connectionIndex
  nextUeId := hsecond.nextUeId.trans hfirst.nextUeId
  nextNodeId := hsecond.nextNodeId.trans hfirst.nextNodeId
  limits := hsecond.limits.trans hfirst.limits
  created_ues := hsecond.created_ues.trans hfirst.created_ues
  created_nodes := hsecond.created_nodes.trans hfirst.created_nodes

section

variable {state next : State} (hsame : state.SameNumbers next)

include hsame

theorem SameNumbers.findUe_eq : next.findUe = state.findUe := by
  funext id
  simp only [findUe, hsame.ues]

theorem SameNumbers.findNode_eq : next.findNode = state.findNode := by
  funext id
  simp only [findNode, hsame.nodes]

theorem SameNumbers.ueRegistered_iff (ref : Ref Ue) :
    next.UeRegistered ref ↔ state.UeRegistered ref := by
  rw [UeRegistered, UeRegistered, hsame.findUe_eq, hsame.ue_id]

theorem SameNumbers.nodeRegistered_iff (ref : Ref RadioNode) :
    next.NodeRegistered ref ↔ state.NodeRegistered ref := by
  rw [NodeRegistered, NodeRegistered, hsame.findNode_eq, hsame.node_id]

end

theorem SameWiring.trans {first second third : State} (hfirst : first.SameWiring second)
    (hsecond : second.SameWiring third) : first.SameWiring third where
  toSameNumbers := hfirst.toSameNumbers.trans hsecond.toSameNumbers
  ue_slots ref := (hsecond.ue_slots ref).trans (hfirst.ue_slots ref)
  ranUe_ngapId ref := (hsecond.ranUe_ngapId ref).trans (hfirst.ranUe_ngapId ref)
  ranUe_nodeId ref := (hsecond.ranUe_nodeId ref).trans (hfirst.ranUe_nodeId ref)
  ranUe_key ref := (hsecond.ranUe_key ref).trans (hfirst.ranUe_key ref)
  ranUe_ueId ref := (hsecond.ranUe_ueId ref).trans (hfirst.ranUe_ueId ref)
  ranUe_removed ref := (hsecond.ranUe_removed ref).trans (hfirst.ranUe_removed ref)
  node_access ref := (hsecond.node_access ref).trans (hfirst.node_access ref)
  node_ranUes ref := (hsecond.node_ranUes ref).trans (hfirst.node_ranUes ref)
  ranUes := hsecond.ranUes.trans hfirst.ranUes
  ngapIds := hsecond.ngapIds.trans hfirst.ngapIds
  created_ranUes := hsecond.created_ranUes.trans hfirst.created_ranUes

theorem sameWiring_setUe {state : State} {ref : Ref Ue} {ue : Ue}
    (hid : ue.id = (state.ue ref).id) (hsupi : ue.supi = (state.ue ref).supi)
    (hslots : ue.slots = (state.ue ref).slots) : state.SameWiring (state.setUe ref ue) where
  ue_id := field_setUe Ue.id hid
  ue_supi := field_setUe Ue.supi hsupi
  ue_slots := field_setUe Ue.slots hslots

theorem sameWiring_setNode {state : State} {ref : Ref RadioNode} {node : RadioNode}
    (hid : node.id = (state.node ref).id)
    (hconnection : node.connection = (state.node ref).connection)
    (hlimit : node.limit = (state.node ref).limit)
    (haccess : node.access = (state.node ref).access)
    (hranUes : node.ranUes = (state.node ref).ranUes) :
    state.SameWiring (state.setNode ref node) where
  node_id := field_setNode RadioNode.id hid
  node_connection := field_setNode RadioNode.connection hconnection
  node_limit := field_setNode RadioNode.limit hlimit
  node_access := field_setNode RadioNode.access haccess
  node_ranUes := field_setNode RadioNode.ranUes hranUes

theorem sameWiring_locate (state : State) (ref : Ref RanUe) (location : UserLocation) (tai : Tai) :
    state.SameWiring (state.setRanUe ref { state.ranUe ref with location, tai }) where
  ranUe_ngapId := field_setRanUe RanUe.ngapId rfl
  ranUe_nodeId := field_setRanUe RanUe.nodeId rfl
  ranUe_key := field_setRanUe RanUe.key rfl
  ranUe_ueId := field_setRanUe RanUe.ueId rfl
  ranUe_removed := field_setRanUe RanUe.removed rfl

/-! ## The steps -/

/-- The RAN UE that loses its slot when another one is attached over an access. -/
def replacedBy (state : State) (ueRef : Ref Ue) (ranUeRef : Ref RanUe) (access : AccessType) :
    Option (Ref RanUe) :=
  (((state.ue ueRef).slot access).filter (· ≠ (state.ranUe ranUeRef).ngapId)).bind state.findRanUe

/-- The UE that loses a RAN UE when this is attached to another UE. -/
def previousOwner (state : State) (ueRef : Ref Ue) (ranUeRef : Ref RanUe) : Option (Ref Ue) :=
  ((state.ranUe ranUeRef).ueId.filter (· ≠ (state.ue ueRef).id)).bind state.findUe

/-- A RAN UE takes the slot of a UE over an access, and the RAN UE that had the slot lets go. -/
def occupy (state : State) (ueRef : Ref Ue) (ranUeRef : Ref RanUe) (access : AccessType) : State :=
  let ue := state.ue ueRef
  let ngapId := (state.ranUe ranUeRef).ngapId
  let linked :=
    (state.setUe ueRef (ue.link access ngapId)).modifyRanUe ranUeRef
      ({ · with ueId := some ue.id })
  match (ue.slot access).filter (· ≠ ngapId) with
  | none => linked
  | some old => linked.clearBackReference old ue.id

/-- A RAN UE takes the slot of a UE over an access; whatever the slot or the RAN UE named before is
let go. -/
def attach (state : State) (ueRef : Ref Ue) (ranUeRef : Ref RanUe) (access : AccessType) : State :=
  let occupied := state.occupy ueRef ranUeRef access
  match state.previousOwner ueRef ranUeRef with
  | none => occupied
  | some previous => occupied.modifyUe previous (·.unlink (state.ranUe ranUeRef).ngapId)

/-- A radio node holds a RAN UE under the key, or fewer than its limit. -/
def HasRoom (state : State) (node : Ref RadioNode) (key : Int) : Prop :=
  state.findRanUeByKey node key = none →
    (state.node node).ranUes.size < (state.node node).limit

/-- A new RAN UE enters the pool and takes a key of a radio node. -/
def enlist (state : State) (nodeRef : Ref RadioNode) (key : Int) (ngapId : Nat) (pool : IdPool) :
    State :=
  let node := state.node nodeRef
  let ref := state.entities.ranUes.fresh
  State.setNode
    { state with
      entities.ranUes := state.entities.ranUes.create { ngapId, nodeId := node.id, key }
      registry.ranUes := state.registry.ranUes.insert ngapId ref
      registry.ngapIds := pool }
    nodeRef { node with ranUes := node.ranUes.insert key ref }

/-- A RAN UE leaves its key on one radio node and takes a key of another. -/
def rehome (state : State) (ref : Ref RanUe) (source target : Ref RadioNode) (key : Int) : State :=
  let ranUe := state.ranUe ref
  let node := state.node target
  let taken := state.setNode target { node with ranUes := node.ranUes.insert key ref }
  let left :=
    if (state.node source).id ≠ node.id ∨ ranUe.key ≠ key then
      taken.leaveCollection source ranUe.key ref
    else
      taken
  left.modifyRanUe ref ({ · with nodeId := node.id, key })

/-- The RAN UE a key was taken from is released, if there is one that was not removed before. -/
def evict (state : State) : Option (Ref RanUe) → State
  | none => state
  | some displaced =>
    if (state.ranUe displaced).removed then state else state.release displaced

def enrol (state : State) (supi : String) (tmsi : Option Int) (guti : Option String) : State :=
  let id := state.registry.nextUeId
  let ref := state.entities.ues.fresh
  { state with
    entities.ues := state.entities.ues.create { id, supi, tmsi, guti }
    registry.ues := state.registry.ues.insert id ref
    registry.nextUeId := id + 1
    registry.supiIndex :=
      if supi = "" then state.registry.supiIndex else state.registry.supiIndex.insert supi id }

/-- A UE leaves the pool, and the index of SUPIs becomes another one. -/
def retire (state : State) (ref : Ref Ue) (supiIndex : Table String Nat) : State :=
  { state with
    registry.ues := state.registry.ues.erase (state.ue ref).id
    registry.supiIndex := supiIndex }

def openNode (state : State) (connection : Connection) : State :=
  let id := state.registry.nextNodeId
  let ref := state.entities.nodes.fresh
  { state with
    entities.nodes := state.entities.nodes.create
      { id, connection
        limit := state.registry.limits.ranUesPerNode.toNat
        name := connection.text }
    registry.nodes := state.registry.nodes.insert id ref
    registry.connectionIndex :=
      state.registry.connectionIndex.insert connection.association id
    registry.nextNodeId := id + 1 }

def closeNode (state : State) (ref : Ref RadioNode) (connectionIndex : Table Nat Nat) : State :=
  { state with
    registry.nodes := state.registry.nodes.erase (state.node ref).id
    registry.connectionIndex := connectionIndex }

/-! ## What the steps do to the objects and the registry -/

section Views

variable (state : State)

@[simp] theorem node_occupy (ueRef : Ref Ue) (ranUeRef : Ref RanUe) (access : AccessType) :
    (state.occupy ueRef ranUeRef access).node = state.node := by
  dsimp only [occupy]
  split <;> simp [modifyRanUe]

@[simp] theorem registry_occupy (ueRef : Ref Ue) (ranUeRef : Ref RanUe) (access : AccessType) :
    (state.occupy ueRef ranUeRef access).registry = state.registry := by
  dsimp only [occupy]
  split <;> simp [modifyRanUe]

@[simp] theorem created_occupy (ueRef : Ref Ue) (ranUeRef : Ref RanUe) (access : AccessType) :
    (state.occupy ueRef ranUeRef access).created = state.created := by
  dsimp only [occupy]
  split <;> simp [modifyRanUe]

theorem ue_occupy (ueRef other : Ref Ue) (ranUeRef : Ref RanUe) (access : AccessType) :
    (state.occupy ueRef ranUeRef access).ue other =
      if ueRef = other then (state.ue ueRef).link access (state.ranUe ranUeRef).ngapId
      else state.ue other := by
  dsimp only [occupy]
  split <;> simp [modifyRanUe]

theorem ranUe_occupy (ueRef : Ref Ue) (ranUeRef other : Ref RanUe) (access : AccessType) :
    (state.occupy ueRef ranUeRef access).ranUe other =
      let linked :=
        if ranUeRef = other then
          { state.ranUe ranUeRef with ueId := some (state.ue ueRef).id }
        else state.ranUe other
      if state.replacedBy ueRef ranUeRef access = some other ∧
          linked.ueId = some (state.ue ueRef).id then
        { linked with ueId := none }
      else linked := by
  dsimp only [occupy, replacedBy]
  split
  next hnone =>
    simp only [hnone, Option.bind_none, reduceCtorEq, false_and, if_false, modifyRanUe,
      ranUe_setRanUe, ranUe_setUe]
  next old hsome =>
    simp only [hsome, Option.bind_some, ranUe_clearBackReference, modifyRanUe, ranUe_setRanUe,
      ranUe_setUe]
    rfl

@[simp] theorem node_attach (ueRef : Ref Ue) (ranUeRef : Ref RanUe) (access : AccessType) :
    (state.attach ueRef ranUeRef access).node = state.node := by
  dsimp only [attach]
  split <;> simp [modifyUe]

@[simp] theorem registry_attach (ueRef : Ref Ue) (ranUeRef : Ref RanUe) (access : AccessType) :
    (state.attach ueRef ranUeRef access).registry = state.registry := by
  dsimp only [attach]
  split <;> simp [modifyUe]

@[simp] theorem created_attach (ueRef : Ref Ue) (ranUeRef : Ref RanUe) (access : AccessType) :
    (state.attach ueRef ranUeRef access).created = state.created := by
  dsimp only [attach]
  split <;> simp [modifyUe]

theorem ranUe_attach (ueRef : Ref Ue) (ranUeRef other : Ref RanUe) (access : AccessType) :
    (state.attach ueRef ranUeRef access).ranUe other =
      (state.occupy ueRef ranUeRef access).ranUe other := by
  dsimp only [attach]
  split <;> simp [modifyUe]

theorem ueId_attach (ueRef : Ref Ue) (ranUeRef other : Ref RanUe) (access : AccessType)
    (id : Nat) :
    ((state.attach ueRef ranUeRef access).ranUe other).ueId = some id ↔
      ((ranUeRef = other ∧ id = (state.ue ueRef).id) ∨
        (ranUeRef ≠ other ∧ (state.ranUe other).ueId = some id)) ∧
      ¬ (state.replacedBy ueRef ranUeRef access = some other ∧ id = (state.ue ueRef).id) := by
  rw [ranUe_attach, ranUe_occupy]
  dsimp only
  rw [RanUe.ueId_cleared]
  apply and_congr_left'
  by_cases heq : ranUeRef = other
  · simp [heq, eq_comm]
  · simp [heq]

theorem ue_attach (ueRef other : Ref Ue) (ranUeRef : Ref RanUe) (access : AccessType) :
    (state.attach ueRef ranUeRef access).ue other =
      if state.previousOwner ueRef ranUeRef = some other then
        ((state.occupy ueRef ranUeRef access).ue other).unlink (state.ranUe ranUeRef).ngapId
      else (state.occupy ueRef ranUeRef access).ue other := by
  dsimp only [attach]
  split
  next hnone => simp [hnone]
  next previous hsome =>
    by_cases heq : previous = other
    · subst heq
      simp [hsome, modifyUe]
    · simp [hsome, modifyUe, heq]

@[simp] theorem ue_enlist (nodeRef : Ref RadioNode) (key : Int) (ngapId : Nat) (pool : IdPool) :
    (state.enlist nodeRef key ngapId pool).ue = state.ue := rfl

theorem ranUe_enlist (nodeRef : Ref RadioNode) (key : Int) (ngapId : Nat) (pool : IdPool)
    (other : Ref RanUe) :
    (state.enlist nodeRef key ngapId pool).ranUe other =
      if state.entities.ranUes.fresh = other then
        { ngapId, nodeId := (state.node nodeRef).id, key }
      else state.ranUe other :=
  Store.get_create ..

theorem ranUe_enlist_of_ne {state : State} {other : Ref RanUe}
    (hne : state.entities.ranUes.fresh ≠ other) (nodeRef : Ref RadioNode) (key : Int)
    (ngapId : Nat) (pool : IdPool) :
    (state.enlist nodeRef key ngapId pool).ranUe other = state.ranUe other := by
  rw [ranUe_enlist, if_neg hne]

theorem node_enlist (nodeRef other : Ref RadioNode) (key : Int) (ngapId : Nat) (pool : IdPool) :
    (state.enlist nodeRef key ngapId pool).node other =
      if nodeRef = other then
        { state.node nodeRef with
          ranUes := (state.node nodeRef).ranUes.insert key state.entities.ranUes.fresh }
      else state.node other :=
  Store.get_set ..

theorem registry_enlist (nodeRef : Ref RadioNode) (key : Int) (ngapId : Nat) (pool : IdPool) :
    (state.enlist nodeRef key ngapId pool).registry =
      { state.registry with
        ranUes := state.registry.ranUes.insert ngapId state.entities.ranUes.fresh
        ngapIds := pool } := rfl

theorem created_enlist (nodeRef : Ref RadioNode) (key : Int) (ngapId : Nat) (pool : IdPool) :
    (state.enlist nodeRef key ngapId pool).created =
      (state.created.1, state.created.2.1, state.created.2.2 + 1) := rfl

@[simp] theorem ue_rehome (ref : Ref RanUe) (source target : Ref RadioNode) (key : Int) :
    (state.rehome ref source target key).ue = state.ue := by
  dsimp only [rehome]
  split <;> rfl

@[simp] theorem registry_rehome (ref : Ref RanUe) (source target : Ref RadioNode) (key : Int) :
    (state.rehome ref source target key).registry = state.registry := by
  dsimp only [rehome]
  split <;> rfl

@[simp] theorem created_rehome (ref : Ref RanUe) (source target : Ref RadioNode) (key : Int) :
    (state.rehome ref source target key).created = state.created := by
  dsimp only [rehome]
  split <;> rfl

theorem ranUe_rehome (ref other : Ref RanUe) (source target : Ref RadioNode) (key : Int) :
    (state.rehome ref source target key).ranUe other =
      if ref = other then
        { state.ranUe ref with nodeId := (state.node target).id, key }
      else state.ranUe other := by
  dsimp only [rehome]
  split <;> simp [modifyRanUe]

theorem node_rehome (ref : Ref RanUe) (source target other : Ref RadioNode) (key : Int) :
    (state.rehome ref source target key).node other =
      let taken :=
        if target = other then
          { state.node target with ranUes := (state.node target).ranUes.insert key ref }
        else state.node other
      if ((state.node source).id ≠ (state.node target).id ∨ (state.ranUe ref).key ≠ key) ∧
          source = other then
        { taken with ranUes := taken.ranUes.eraseIf (state.ranUe ref).key (· = ref) }
      else taken := by
  dsimp only [rehome]
  split
  next hmoved =>
    simp only [hmoved, true_and, modifyRanUe, node_setRanUe, node_leaveCollection, node_setNode]
    split
    next heq => rw [heq]
    next => rfl
  next hmoved =>
    simp only [hmoved, false_and, if_false, modifyRanUe, node_setRanUe, node_setNode]

theorem ue_enrol (supi : String) (tmsi : Option Int) (guti : Option String) (other : Ref Ue) :
    (state.enrol supi tmsi guti).ue other =
      if state.entities.ues.fresh = other then
        { id := state.registry.nextUeId, supi, tmsi, guti }
      else state.ue other :=
  Store.get_create ..

theorem node_openNode (connection : Connection) (other : Ref RadioNode) :
    (state.openNode connection).node other =
      if state.entities.nodes.fresh = other then
        { id := state.registry.nextNodeId, connection
          limit := state.registry.limits.ranUesPerNode.toNat
          name := connection.text }
      else state.node other :=
  Store.get_create ..

/-! ## What the steps do to the pools and to the collections -/

theorem findUe_enrol (supi : String) (tmsi : Option Int) (guti : Option String) (id : Nat) :
    (state.enrol supi tmsi guti).findUe id =
      if state.registry.nextUeId = id then some state.entities.ues.fresh else state.findUe id :=
  Table.lookup_insert ..

theorem findUe_retire (ref : Ref Ue) (supiIndex : Table String Nat) (id : Nat) :
    (state.retire ref supiIndex).findUe id =
      if (state.ue ref).id = id then none else state.findUe id :=
  Table.lookup_erase ..

theorem findNode_openNode (connection : Connection) (id : Nat) :
    (state.openNode connection).findNode id =
      if state.registry.nextNodeId = id then some state.entities.nodes.fresh
      else state.findNode id :=
  Table.lookup_insert ..

theorem findNode_closeNode (ref : Ref RadioNode) (connectionIndex : Table Nat Nat) (id : Nat) :
    (state.closeNode ref connectionIndex).findNode id =
      if (state.node ref).id = id then none else state.findNode id :=
  Table.lookup_erase ..

theorem findRanUe_release (ref : Ref RanUe) (ngapId : Nat) (other : Ref RanUe) :
    (state.release ref).findRanUe ngapId = some other ↔
      state.findRanUe ngapId = some other ∧
        ¬ (state.RanUeRegistered ref ∧ (state.ranUe ref).ngapId = ngapId) := by
  unfold findRanUe
  rw [registry_release]
  split
  next hregistered =>
    rw [Table.lookup_erase]
    by_cases heq : (state.ranUe ref).ngapId = ngapId <;> simp [heq, hregistered]
  next hregistered => simp [hregistered]

theorem findRanUeByKey_release (ref : Ref RanUe) (node : Ref RadioNode) (key : Int)
    (other : Ref RanUe) :
    (state.release ref).findRanUeByKey node key = some other ↔
      state.findRanUeByKey node key = some other ∧
        ¬ (state.findNode (state.ranUe ref).nodeId = some node ∧
          (state.ranUe ref).key = key ∧ other = ref) := by
  unfold findRanUeByKey
  rw [node_release]
  split
  next hnode =>
    rw [Table.lookup_eraseIf]
    simp [hnode]
  next hnode => simp [hnode]

theorem findRanUe_enlist (nodeRef : Ref RadioNode) (key : Int) (ngapId : Nat) (pool : IdPool)
    (id : Nat) (other : Ref RanUe) :
    (state.enlist nodeRef key ngapId pool).findRanUe id = some other ↔
      (ngapId = id ∧ state.entities.ranUes.fresh = other) ∨
        (ngapId ≠ id ∧ state.findRanUe id = some other) := by
  unfold findRanUe
  rw [registry_enlist, Table.lookup_insert]
  by_cases heq : ngapId = id <;> simp [heq]

theorem findRanUeByKey_enlist (nodeRef node : Ref RadioNode) (key other : Int) (ngapId : Nat)
    (pool : IdPool) (ref : Ref RanUe) :
    (state.enlist nodeRef key ngapId pool).findRanUeByKey node other = some ref ↔
      (nodeRef = node ∧ key = other ∧ state.entities.ranUes.fresh = ref) ∨
        (¬ (nodeRef = node ∧ key = other) ∧ state.findRanUeByKey node other = some ref) := by
  unfold findRanUeByKey
  rw [node_enlist]
  by_cases hnode : nodeRef = node
  · subst hnode
    rw [if_pos rfl, Table.lookup_insert]
    by_cases hkey : key = other <;> simp [hkey]
  · simp [hnode]

/-- A RAN UE that is handed over holds its new key and has left its old one; every other entry of a
collection stays. -/
theorem findRanUeByKey_rehome (ref : Ref RanUe) {source target : Ref RadioNode} (key : Int)
    (hid : (state.node source).id = (state.node target).id → source = target)
    (node : Ref RadioNode) (other : Int) (found : Ref RanUe) :
    (state.rehome ref source target key).findRanUeByKey node other = some found ↔
      (target = node ∧ key = other ∧ ref = found) ∨
        (¬ (target = node ∧ key = other) ∧ state.findRanUeByKey node other = some found ∧
          ¬ (source = node ∧ (state.ranUe ref).key = other ∧ found = ref)) := by
  unfold findRanUeByKey
  rw [node_rehome]
  by_cases hmoved : (state.node source).id ≠ (state.node target).id ∨ (state.ranUe ref).key ≠ key
  · by_cases hsource : source = node
    · subst hsource
      simp only [hmoved, true_and, if_true, Table.lookup_eraseIf, decide_eq_true_eq]
      by_cases htarget : target = source
      · subst htarget
        have hkey : (state.ranUe ref).key ≠ key := by
          rcases hmoved with hne | hne
          · exact absurd rfl hne
          · exact hne
        simp only [if_true, Table.lookup_insert, true_and]
        by_cases heq : key = other
        · subst heq
          simp [hkey]
        · simp [heq]
      · simp [htarget]
    · simp only [hsource, and_false, if_false, false_and, not_false_eq_true, and_true]
      by_cases htarget : target = node
      · subst htarget
        simp only [if_true, Table.lookup_insert, true_and]
        by_cases heq : key = other <;> simp [heq]
      · simp [htarget]
  · simp only [hmoved, false_and, if_false]
    simp only [not_or, ne_eq, Decidable.not_not] at hmoved
    obtain ⟨hids, hkey⟩ := hmoved
    have heq := hid hids
    subst heq
    subst hkey
    by_cases hnode : source = node
    · subst hnode
      simp only [if_true, Table.lookup_insert, true_and]
      by_cases heq : (state.ranUe ref).key = other <;> simp [heq]
    · simp [hnode]

end Views

/-- An index of UEs from which nothing but entries for one id were taken. -/
def IndexWithout {κ : Type} [Ord κ] [Std.TransOrd κ] (id : Nat) (index next : Table κ Nat) :
    Prop :=
  ∀ (key : κ) (other : Nat), next[key]? = some other → index[key]? = some other ∧ other ≠ id

/-- The steps of the wiring under a rule of conduct. -/
inductive Step (allowed : State → Operation → Prop) (state : State) : State → Prop
  | describe {next : State} : state.SameWiring next → Step allowed state next
  | attach {ue : Ref Ue} {ranUe : Ref RanUe} {node : Ref RadioNode} :
      allowed state (.attach ue ranUe) →
      (state.ranUe ranUe).removed = false →
      state.findNode (state.ranUe ranUe).nodeId = some node →
      Step allowed state (state.attach ue ranUe (state.node node).access)
  | detach (ue : Ref Ue) (access : AccessType) : Step allowed state (state.detach ue access)
  | release {ranUe : Ref RanUe} :
      (state.ranUe ranUe).removed = false → Step allowed state (state.release ranUe)
  | enlist {node : Ref RadioNode} {id : Int} {pool : IdPool} (key : Int) :
      state.NodeRegistered node →
      state.HasRoom node key →
      state.registry.ngapIds.allocate = (some id, pool) →
      Step allowed state
        ((state.enlist node key (NgapId.ofSigned id) pool).evict (state.findRanUeByKey node key))
  | rehome {ranUe : Ref RanUe} {source target : Ref RadioNode} {key : Int} :
      allowed state (.switchNode ranUe target key) →
      (state.ranUe ranUe).removed = false →
      state.findNode (state.ranUe ranUe).nodeId = some source →
      state.NodeRegistered target →
      Step allowed state
        ((state.rehome ranUe source target key).evict
          ((state.findRanUeByKey target key).filter (· ≠ ranUe)))
  | enrol (supi : String) (tmsi : Option Int) (guti : Option String) :
      Step allowed state (state.enrol supi tmsi guti)
  | retire {ue : Ref Ue} {supiIndex : Table String Nat} :
      (∀ access ngapId, (state.ue ue).slot access = some ngapId →
        state.findRanUe ngapId = none) →
      IndexWithout (state.ue ue).id state.registry.supiIndex supiIndex →
      Step allowed state (state.retire ue supiIndex)
  | openNode (connection : Connection) : Step allowed state (state.openNode connection)
  | closeNode {node : Ref RadioNode} {connectionIndex : Table Nat Nat} :
      state.NodeRegistered node →
      (∀ key, state.findRanUeByKey node key = none) →
      IndexWithout (state.node node).id state.registry.connectionIndex connectionIndex →
      Step allowed state (state.closeNode node connectionIndex)
  | setAccess {node : Ref RadioNode} {access : AccessType} :
      (allowed state (.setAccess node access) ∨
        ∃ id, id.kind.access = access ∧ allowed state (.announce node id)) →
      Step allowed state (state.modifyNode node ({ · with access }))

end State

end AccessMobility
