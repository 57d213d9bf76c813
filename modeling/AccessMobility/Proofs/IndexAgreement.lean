import AccessMobility.Proofs.ConnectionIndex
import AccessMobility.Proofs.SupiIndex

/-!
# Pools and indexes agree

UEs and radio nodes are kept in a pool under their pool ids and in an index under what the outside
knows them by, a SUPI or a connection.  This file puts the two directions of either index together.
It shows that pool ids are given out in the order of creation, so that an id that was kept from
earlier finds the object it was given to or nothing, and that the pool of radio nodes stays within
its limit, although a radio node that replaces another one is taken in before the other one leaves.
-/

namespace AccessMobility

namespace State

/-- The pool of UEs and the index of SUPIs agree. -/
structure UeIndexAgrees (state : State) : Prop where
  entry : ∀ {supi id}, state.registry.supiIndex[supi]? = some id →
    supi ≠ "" ∧ ∃ ue, state.findUe id = some ue ∧ (state.ue ue).supi = supi
  indexed : ∀ {id ue}, state.findUe id = some ue →
    (state.ue ue).id = id ∧
      ((state.ue ue).supi ≠ "" → state.registry.supiIndex[(state.ue ue).supi]? = some id)
  found : ∀ {supi ue}, state.findUeBySupi supi = some ue ↔
    supi ≠ "" ∧ state.findUe (state.ue ue).id = some ue ∧ (state.ue ue).supi = supi
  unique : ∀ {ue other}, state.UeRegistered ue → state.UeRegistered other →
    (state.ue ue).supi ≠ "" → (state.ue other).supi = (state.ue ue).supi → other = ue

/-- The pool of radio nodes and the index of connections agree. -/
structure NodeIndexAgrees (state : State) : Prop where
  entry : ∀ {association id}, state.registry.connectionIndex[association]? = some id →
    Connection.IsValid ⟨association⟩ ∧
      ∃ node, state.findNode id = some node ∧ (state.node node).connection = ⟨association⟩
  indexed : ∀ {id node}, state.findNode id = some node →
    (state.node node).id = id ∧
      state.registry.connectionIndex[(state.node node).connection.association]? = some id
  found : ∀ {connection node}, state.findNodeByConnection connection = some node ↔
    state.findNode (state.node node).id = some node ∧ (state.node node).connection = connection

/-- No pool id of the objects created up to a state is zero or was given out twice, and in a later
state each of them finds the object it was given to or nothing. -/
structure KeepsIds (state later : State) : Prop where
  ue_nonzero : ∀ {ue}, state.entities.ues.Holds ue → (state.ue ue).id ≠ 0
  ue_unique : ∀ {ue other}, state.entities.ues.Holds ue → state.entities.ues.Holds other →
    (state.ue ue).id = (state.ue other).id → ue = other
  ue_found : ∀ {ue found}, state.entities.ues.Holds ue →
    later.findUe (state.ue ue).id = some found → found = ue
  node_nonzero : ∀ {node}, state.entities.nodes.Holds node → (state.node node).id ≠ 0
  node_unique : ∀ {node other}, state.entities.nodes.Holds node →
    state.entities.nodes.Holds other → (state.node node).id = (state.node other).id → node = other
  node_found : ∀ {node found}, state.entities.nodes.Holds node →
    later.findNode (state.node node).id = some found → found = node

/-! ## Both directions of an index -/

theorem WellNumbered.ueIndexAgrees {state : State} (hnumbered : state.WellNumbered)
    (hfiled : state.UesFiled) : state.UeIndexAgrees where
  entry hentry := hnumbered.supi_resolves hentry
  indexed {id ue} hfind := by
    have hregistered := hnumbered.ueRegistered_of_find hfind
    refine ⟨hnumbered.ue_id hfind, ?_⟩
    intro hsupi
    rw [hfiled ue hregistered hsupi, hnumbered.ue_id hfind]
  found {supi ue} := by
    constructor
    · intro hfind
      unfold findUeBySupi at hfind
      split at hfind
      next => cases hfind
      next hsupi =>
        obtain ⟨id, hentry, hfound⟩ := Option.bind_eq_some_iff.mp hfind
        obtain ⟨-, filed, hfiledFound, hname⟩ := hnumbered.supi_resolves hentry
        rw [hfound, Option.some.injEq] at hfiledFound
        subst hfiledFound
        exact ⟨hsupi, hnumbered.ueRegistered_of_find hfound, hname⟩
    · rintro ⟨hsupi, hregistered, rfl⟩
      exact hfiled.findUeBySupi hregistered hsupi
  unique {ue other} hregistered hother hsupi hsame := by
    have hfind := hfiled.findUeBySupi hregistered hsupi
    have hfindOther := hfiled.findUeBySupi hother (hsame ▸ hsupi)
    rw [hsame, hfind, Option.some.injEq] at hfindOther
    exact hfindOther.symm

theorem WellNumbered.nodeIndexAgrees {state : State} (hnumbered : state.WellNumbered)
    (hfiled : state.NodesFiled) : state.NodeIndexAgrees where
  entry {association id} hentry := by
    obtain ⟨node, hfind, hassociation⟩ := hnumbered.connection_resolves hentry
    obtain ⟨hvalid, -⟩ := hfiled node (hnumbered.nodeRegistered_of_find hfind)
    have hconnection : (state.node node).connection = ⟨association⟩ := by
      rw [← hassociation]
    exact ⟨hconnection ▸ hvalid, node, hfind, hconnection⟩
  indexed {id node} hfind := by
    obtain ⟨-, hentry⟩ := hfiled node (hnumbered.nodeRegistered_of_find hfind)
    rw [hnumbered.node_id hfind] at hentry
    exact ⟨hnumbered.node_id hfind, hentry⟩
  found {connection node} := by
    constructor
    · intro hfind
      refine ⟨hnumbered.nodeRegistered_of_connection hfind, ?_⟩
      unfold findNodeByConnection at hfind
      split at hfind
      next =>
        obtain ⟨id, hentry, hfound⟩ := Option.bind_eq_some_iff.mp hfind
        obtain ⟨filed, hfiledFound, hassociation⟩ := hnumbered.connection_resolves hentry
        rw [hfound, Option.some.injEq] at hfiledFound
        subst hfiledFound
        exact congrArg Connection.mk hassociation
      next => cases hfind
    · rintro ⟨hregistered, rfl⟩
      exact hfiled.findNodeByConnection hregistered

/-! ## Pool ids -/

/-- Pool ids are given out in the order of creation, beginning with one. -/
structure NumberedInOrder (state : State) : Prop where
  nextUeId : state.registry.nextUeId = state.entities.ues.next + 1
  ue_id : ∀ {ue}, state.entities.ues.Holds ue → (state.ue ue).id = ue.number + 1
  nextNodeId : state.registry.nextNodeId = state.entities.nodes.next + 1
  node_id : ∀ {node}, state.entities.nodes.Holds node → (state.node node).id = node.number + 1

theorem numberedInOrder_new (config : Config) : (State.new config).NumberedInOrder where
  nextUeId := rfl
  ue_id hholds := absurd hholds (Nat.not_lt_zero _)
  nextNodeId := rfl
  node_id hholds := absurd hholds (Nat.not_lt_zero _)

section

variable {state : State} (hordered : state.NumberedInOrder)

include hordered

theorem NumberedInOrder.congr {next : State} (hsame : state.SameNumbers next) :
    next.NumberedInOrder where
  nextUeId := by
    rw [hsame.nextUeId, hordered.nextUeId]
    exact congrArg (· + 1) hsame.created_ues.symm
  ue_id {ue} hholds := by
    rw [hsame.ue_id]
    exact hordered.ue_id (Nat.lt_of_lt_of_eq hholds hsame.created_ues)
  nextNodeId := by
    rw [hsame.nextNodeId, hordered.nextNodeId]
    exact congrArg (· + 1) hsame.created_nodes.symm
  node_id {node} hholds := by
    rw [hsame.node_id]
    exact hordered.node_id (Nat.lt_of_lt_of_eq hholds hsame.created_nodes)

theorem NumberedInOrder.enrol (supi : String) (tmsi : Option Int) (guti : Option String) :
    (state.enrol supi tmsi guti).NumberedInOrder where
  nextUeId := congrArg (· + 1) hordered.nextUeId
  ue_id {ue} hholds := by
    rw [ue_enrol]
    split
    next heq => rw [← heq]; exact hordered.nextUeId
    next hne => exact hordered.ue_id (Store.holds_of_create hholds hne)
  nextNodeId := hordered.nextNodeId
  node_id := hordered.node_id

theorem NumberedInOrder.openNode (connection : Connection) :
    (state.openNode connection).NumberedInOrder where
  nextUeId := hordered.nextUeId
  ue_id := hordered.ue_id
  nextNodeId := congrArg (· + 1) hordered.nextNodeId
  node_id {node} hholds := by
    rw [node_openNode]
    split
    next heq => rw [← heq]; exact hordered.nextNodeId
    next hne => exact hordered.node_id (Store.holds_of_create hholds hne)

theorem NumberedInOrder.step {allowed : State → Operation → Prop} {next : State}
    (hstep : Step allowed state next) : next.NumberedInOrder := by
  cases hstep.renumbers with
  | same hsame => exact hordered.congr hsame
  | enrol supi tmsi guti => exact hordered.enrol supi tmsi guti
  | retire _ => exact ⟨hordered.nextUeId, hordered.ue_id, hordered.nextNodeId, hordered.node_id⟩
  | openNode connection => exact hordered.openNode connection
  | closeNode _ => exact ⟨hordered.nextUeId, hordered.ue_id, hordered.nextNodeId, hordered.node_id⟩

/-- The references handed out in a state are still handed out in a later one, with the same ids. -/
theorem NumberedInOrder.keepsIds {later : State} (hlater : later.NumberedInOrder)
    (hnumbered : later.WellNumbered) (hcreated : state.created ≤ later.created) :
    state.KeepsIds later where
  ue_nonzero hholds := by
    rw [hordered.ue_id hholds]
    exact Nat.succ_ne_zero _
  ue_unique {ue other} hholds hother hsame := by
    rw [hordered.ue_id hholds, hordered.ue_id hother] at hsame
    exact congrArg Ref.mk (Nat.succ.inj hsame)
  ue_found {ue found} hholds hfind := by
    have hkept : later.entities.ues.Holds ue := Nat.lt_of_lt_of_le hholds hcreated.1
    rw [hordered.ue_id hholds, ← hlater.ue_id hkept] at hfind
    exact ((hnumbered.ue_unique hfind ue).mp rfl).symm
  node_nonzero hholds := by
    rw [hordered.node_id hholds]
    exact Nat.succ_ne_zero _
  node_unique {node other} hholds hother hsame := by
    rw [hordered.node_id hholds, hordered.node_id hother] at hsame
    exact congrArg Ref.mk (Nat.succ.inj hsame)
  node_found {node found} hholds hfind := by
    have hkept : later.entities.nodes.Holds node := Nat.lt_of_lt_of_le hholds hcreated.2.1
    rw [hordered.node_id hholds, ← hlater.node_id hkept] at hfind
    exact ((hnumbered.node_unique hfind node).mp rfl).symm

end

end State

/-! ## The number of radio nodes -/

namespace World

/-- On a connection that is not in use a radio node is opened only where there is room. -/
theorem room_of_newNode {world done : World} {connection : Connection} {ref : Ref RadioNode}
    (hcall : world.newNode connection = (.ok ref, done))
    (hfree : world.state.registry.connectionIndex[connection.association]? = none) :
    world.state.registry.nodes.size < world.state.registry.limits.radioNodes.toNat := by
  have hnew : ¬ world.state.registry.connectionIndex.contains connection.association = true := by
    rw [Std.ExtTreeMap.contains_eq_isSome_getElem?, hfree]
    simp
  by_contra hfull
  have hvalid := isValid_of_newNode hcall
  dsimp only [newNode] at hcall
  rw [if_neg (not_not_intro hvalid), if_pos ⟨Nat.le_of_not_lt hfull, hnew⟩] at hcall
  cases hcall

end World

namespace State

/-- The pool holds at most as many radio nodes as the limit says. -/
def NodesWithin (state : State) : Prop :=
  state.registry.nodes.size ≤ state.registry.limits.radioNodes.toNat

theorem Step.limits_eq {allowed : State → Operation → Prop} {state next : State}
    (hstep : Step allowed state next) : next.registry.limits = state.registry.limits := by
  cases hstep.renumbers with
  | same hsame => exact hsame.limits
  | enrol supi tmsi guti => rfl
  | retire _ => rfl
  | openNode connection => rfl
  | closeNode _ => rfl

theorem perform_limits {world : World} (hsound : world.state.Sound) (operation : Operation) :
    (world.perform operation).state.registry.limits = world.state.registry.limits := by
  have hsteps : Steps Operation.Any world.state (world.perform operation).state :=
    perform_steps hsound trivial
  exact (hsteps.keeps (motive := fun state => state.registry.limits = world.state.registry.limits)
    (fun _ hsame hstep => hstep.limits_eq.trans hsame) hsound rfl).2

/-- The new radio node fills the room there was, or the place of the one it replaces. -/
theorem size_nodes_newNode {world : World} (hnumbered : world.state.WellNumbered)
    (hwithin : world.state.NodesWithin) (connection : Connection) :
    (world.newNode connection).2.state.registry.nodes.size ≤
      world.state.registry.limits.radioNodes.toNat := by
  have hfresh : world.state.registry.nodes[world.state.registry.nextNodeId]? = none := by
    cases hfind : world.state.registry.nodes[world.state.registry.nextNodeId]? with
    | none => rfl
    | some node => exact absurd (hnumbered.findNode_lt hfind) (Nat.lt_irrefl _)
  have hopened : (world.state.openNode connection).registry.nodes.size =
      world.state.registry.nodes.size + 1 := Table.size_insert_free hfresh _
  rcases world.newNode_cases connection with
    ⟨-, error, refused, hcall, hstate⟩ |
      ⟨done, hcall, ⟨hgone, hstate⟩ | ⟨oldId, old, -, hfind, hstate⟩⟩
  · rw [hcall, hstate]
    exact hwithin
  · have hfree : world.state.registry.connectionIndex[connection.association]? = none := by
      cases hindex : world.state.registry.connectionIndex[connection.association]? with
      | none => rfl
      | some oldId =>
          obtain ⟨old, hfound, -⟩ := hnumbered.connection_resolves hindex
          have hkept := hgone oldId hindex
          rw [findNode_openNode, if_neg (Nat.ne_of_gt (hnumbered.findNode_lt hfound)), hfound]
            at hkept
          cases hkept
    rw [hcall, hstate, hopened]
    exact World.room_of_newNode hcall hfree
  · rw [hcall, hstate, (sameRoster_clearOut _ ..).nodes]
    show ((world.state.openNode connection).registry.nodes.erase oldId).size ≤ _
    rw [Table.size_erase_used hfind, hopened]
    exact hwithin

theorem size_nodes_removeNode {world : World} (hnumbered : world.state.WellNumbered)
    (connection : Connection) :
    (world.removeNode connection).2.state.registry.nodes.size ≤
      world.state.registry.nodes.size := by
  rcases world.removeNode_cases hnumbered connection with
    ⟨-, error, hrefused⟩ | ⟨ref, done, -, hremoved, hstate⟩
  · rw [hrefused]
  · rw [hremoved, hstate, (sameRoster_clearOut _ ..).nodes]
    exact Std.ExtTreeMap.size_erase_le

theorem NodesWithin.perform {world : World} (hsound : world.state.Sound)
    (hwithin : world.state.NodesWithin) (operation : Operation) :
    (world.perform operation).state.NodesWithin := by
  have hsame {operation : Operation} (hkeeps : operation.KeepsNodes) :
      (world.perform operation).state.registry.nodes.size ≤
        world.state.registry.limits.radioNodes.toNat := by
    rw [(perform_sameNodes world hkeeps).nodes]
    exact hwithin
  rw [NodesWithin, perform_limits hsound operation]
  cases operation with
  | newNode connection => exact size_nodes_newNode hsound.toWellNumbered hwithin connection
  | removeNode connection =>
      exact (size_nodes_removeNode hsound.toWellNumbered connection).trans hwithin
  | _ => exact hsame trivial

end State

namespace World

open State

theorem run_numberedInOrder (config : Config) (operations : List Operation) :
    ((opened config).run operations).state.NumberedInOrder :=
  (run_keeps (motive := NumberedInOrder) (fun _ hordered hstep => hordered.step hstep)
    (numberedInOrder_new config) (obeys_any (opened config) operations)).2

theorem run_limits (config : Config) (operations : List Operation) :
    ((opened config).run operations).state.registry.limits = config.limits :=
  (run_keeps (motive := fun state => state.registry.limits = config.limits)
    (fun _ hsame hstep => hstep.limits_eq.trans hsame) rfl
    (obeys_any (opened config) operations)).2

theorem run_nodesWithin (config : Config) (operations : List Operation) :
    ((opened config).run operations).state.NodesWithin := by
  refine (run_induction (motive := fun state => state.Sound ∧ state.NodesWithin) ?_
    ⟨sound_new config, Nat.zero_le _⟩ (obeys_any (opened config) operations)).2
  intro world operation hinv hallowed
  exact ⟨(perform_steps hinv.1 hallowed).sound hinv.1, hinv.2.perform hinv.1 operation⟩

/-- In every state reached the indexes and the pools of UEs and radio nodes agree in both
directions, no pool id is zero or given out twice, no pool id of an object that was created so far
ever finds another one, and there are at most as many radio nodes as configured. -/
theorem run_indexes_agree (config : Config) (operations later : List Operation) :
    let state := ((opened config).run operations).state
    state.UeIndexAgrees ∧ state.NodeIndexAgrees ∧
      state.KeepsIds ((opened config).run (operations ++ later)).state ∧
      state.registry.nodes.size ≤ config.limits.radioNodes.toNat := by
  intro state
  have hsound : state.Sound := run_sound config operations
  have hcreated := created_le_run hsound later
  rw [← run_append] at hcreated
  have hwithin : state.NodesWithin := run_nodesWithin config operations
  rw [NodesWithin, run_limits] at hwithin
  exact ⟨hsound.ueIndexAgrees (run_uesFiled config operations),
    hsound.nodeIndexAgrees (run_nodesFiled config operations),
    (run_numberedInOrder config operations).keepsIds (run_numberedInOrder config _)
      (run_sound config _).toWellNumbered hcreated,
    hwithin⟩

/-- A new radio node on a connection in use is taken in where the pool is full. -/
example :
    let config := { Config.standard with limits := ⟨1, 1024, 65536⟩ }
    let state := ((opened config).run [.newNode ⟨7⟩, .newNode ⟨8⟩, .newNode ⟨7⟩]).state
    state.registry.nodes.size = 1 ∧ state.findNodeByConnection ⟨7⟩ = some ⟨1⟩ ∧
      state.findNode 1 = none := by
  decide +kernel

end World

end AccessMobility
