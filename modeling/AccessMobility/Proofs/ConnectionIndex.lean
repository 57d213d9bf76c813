import AccessMobility.Proofs.Roster

/-!
# Radio nodes are found by their connections

The index of connections never names a radio node that the pool does not hold.  This file shows the
converse: the index names every radio node of the pool under the connection it was opened with.  A
radio node that takes over a connection takes over its entry, and the one that had it leaves the
pool with the same call.
-/

namespace AccessMobility

namespace World

theorem isValid_of_newNode {world done : World}
    {connection : Connection} {ref : Ref RadioNode}
    (hcall : world.newNode connection = (.ok ref, done)) : connection.IsValid := by
  by_contra hinvalid
  rw [newNode, if_pos hinvalid] at hcall
  simp at hcall

end World

namespace State

/-- Two states with the same radio nodes under the same pool ids and connections. -/
structure SameNodes (state next : State) : Prop where
  node_id : ∀ node, (next.node node).id = (state.node node).id
  node_connection : ∀ node, (next.node node).connection = (state.node node).connection
  nodes : next.registry.nodes = state.registry.nodes
  connectionIndex : next.registry.connectionIndex = state.registry.connectionIndex

theorem SameNodes.trans {first second third : State} (hfirst : first.SameNodes second)
    (hsecond : second.SameNodes third) : first.SameNodes third where
  node_id node := (hsecond.node_id node).trans (hfirst.node_id node)
  node_connection node := (hsecond.node_connection node).trans (hfirst.node_connection node)
  nodes := hsecond.nodes.trans hfirst.nodes
  connectionIndex := hsecond.connectionIndex.trans hfirst.connectionIndex

theorem SameNumbers.sameNodes {state next : State} (hsame : state.SameNumbers next) :
    state.SameNodes next where
  node_id := hsame.node_id
  node_connection := hsame.node_connection
  nodes := hsame.nodes
  connectionIndex := hsame.connectionIndex

/-- The index names every registered radio node under its connection. -/
def NodesFiled (state : State) : Prop :=
  ∀ node, state.NodeRegistered node → (state.node node).connection.IsValid ∧
    state.registry.connectionIndex[(state.node node).connection.association]? =
      some (state.node node).id

theorem NodesFiled.findNodeByConnection {state : State} (hfiled : state.NodesFiled)
    {node : Ref RadioNode} (hregistered : state.NodeRegistered node) :
    state.findNodeByConnection (state.node node).connection = some node := by
  obtain ⟨hvalid, hindex⟩ := hfiled node hregistered
  rw [State.findNodeByConnection, if_pos hvalid, hindex]
  exact hregistered

theorem NodesFiled.congr {state next : State} (hfiled : state.NodesFiled)
    (hsame : state.SameNodes next) : next.NodesFiled := by
  intro node hregistered
  rw [hsame.node_connection, hsame.node_id, hsame.connectionIndex]
  apply hfiled
  rw [NodeRegistered, findNode, hsame.nodes, hsame.node_id] at hregistered
  exact hregistered

/-! ## Radio nodes come and go -/

/-- Once a radio node is opened, the index names every registered radio node, but for the one whose
connection was taken over. -/
theorem NodesFiled.openNode {state : State} (hfiled : state.NodesFiled)
    {connection : Connection} (hvalid : connection.IsValid) {node : Ref RadioNode}
    (hregistered : (state.openNode connection).NodeRegistered node)
    (hkept : state.registry.connectionIndex[connection.association]? ≠
      some ((state.openNode connection).node node).id) :
    ((state.openNode connection).node node).connection.IsValid ∧
      (state.openNode connection).registry.connectionIndex[
        ((state.openNode connection).node node).connection.association]? =
          some ((state.openNode connection).node node).id := by
  have hinsert (association : Nat) :
      (state.openNode connection).registry.connectionIndex[association]? =
        if connection.association = association then some state.registry.nextNodeId
        else state.registry.connectionIndex[association]? := Table.lookup_insert ..
  rw [NodeRegistered, findNode_openNode] at hregistered
  rw [hinsert]
  by_cases hfresh : state.entities.nodes.fresh = node
  · rw [node_openNode, if_pos hfresh]
    exact ⟨hvalid, if_pos rfl⟩
  · rw [node_openNode, if_neg hfresh] at hregistered hkept ⊢
    split at hregistered
    · exact absurd (Option.some.inj hregistered) hfresh
    · obtain ⟨hvalidBefore, hindex⟩ := hfiled node hregistered
      refine ⟨hvalidBefore, ?_⟩
      rw [if_neg]
      · exact hindex
      · intro heq
        rw [heq] at hkept
        exact hkept hindex

theorem NodesFiled.newNode {world : World} (hfiled : world.state.NodesFiled)
    (connection : Connection) : (world.newNode connection).2.state.NodesFiled := by
  rcases world.newNode_cases connection with
    ⟨-, error, refused, hcall, hstate⟩ |
      ⟨done, hcall, ⟨hgone, hstate⟩ | ⟨oldId, old, hindex, hfind, hstate⟩⟩
  · rw [hcall, hstate]
    exact hfiled
  · have hvalid := World.isValid_of_newNode hcall
    rw [hcall, hstate]
    intro node hregistered
    refine hfiled.openNode hvalid hregistered ?_
    intro hindex
    rw [NodeRegistered, hgone _ hindex] at hregistered
    cases hregistered
  · have hvalid := World.isValid_of_newNode hcall
    rw [hcall, hstate]
    refine NodesFiled.congr ?_ (sameRoster_clearOut _ ..).toSameNumbers.sameNodes
    intro node hregistered
    rw [NodeRegistered, findNode, Table.lookup_erase] at hregistered
    split at hregistered
    next => cases hregistered
    next hne =>
      refine hfiled.openNode hvalid hregistered ?_
      intro hother
      exact hne (Option.some.inj (hindex.symm.trans hother))

theorem NodesFiled.removeNode {world : World} (hnumbered : world.state.WellNumbered)
    (hfiled : world.state.NodesFiled) (connection : Connection) :
    (world.removeNode connection).2.state.NodesFiled := by
  rcases world.removeNode_cases hnumbered connection with
    ⟨-, error, hrefused⟩ | ⟨ref, done, -, hremoved, hstate⟩
  · rw [hrefused]
    exact hfiled
  · rw [hremoved, hstate]
    refine NodesFiled.congr ?_ (sameRoster_clearOut _ ..).toSameNumbers.sameNodes
    intro node hregistered
    have hfound := hregistered
    rw [NodeRegistered, findNode_closeNode] at hfound
    split at hfound
    next => simp at hfound
    next hne =>
      obtain ⟨hvalid, hindex⟩ := hfiled node hfound
      refine ⟨hvalid, (Table.lookup_eraseIf ..).mpr ⟨hindex, ?_⟩⟩
      rintro ⟨-, heq⟩
      exact hne (of_decide_eq_true heq).symm

/-! ## Calls that leave the radio nodes where they are -/

theorem sameNodes_removeUe (world : World) (ue : Ref Ue) :
    world.state.SameNodes (world.removeUe ue).state := by
  rw [world.state_removeUe]
  have hbare := sameNumbers_vacate_relinquish world ue
  have hretired (state : State) (supiIndex : Table String Nat) :
      state.SameNodes (state.retire ue supiIndex) :=
    ⟨fun _ => rfl, fun _ => rfl, rfl, rfl⟩
  exact hbare.sameNodes.trans (hretired _ _)

theorem sameNodes_dropRanUe (world : World) (node : Ref RadioNode) (withUes : Bool)
    (entry : Int × Ref RanUe) :
    world.state.SameNodes (world.dropRanUe node withUes entry).state := by
  obtain ⟨key, ref⟩ := entry
  dsimp only [World.dropRanUe]
  generalize (if withUes = true then world.state.ueOfRanUe ref else none) = owner
  have hdropped : world.state.SameNodes (world.takeOut node key ref).state := by
    rw [World.state_takeOut]
    exact ((world.state.sameNumbers_evict _).trans
      (sameRoster_leaveCollection _ ..).toSameNumbers).sameNodes
  cases owner with
  | none => exact hdropped
  | some ue => exact hdropped.trans (sameNodes_removeUe _ ue)

theorem sameNodes_dropRanUes (world : World) (node : Ref RadioNode) (withUes : Bool)
    (entries : List (Int × Ref RanUe)) :
    world.state.SameNodes (world.dropRanUes node withUes entries).state := by
  unfold World.dropRanUes
  induction entries generalizing world with
  | nil => exact (SameNumbers.refl world.state).sameNodes
  | cons entry rest ih => exact (sameNodes_dropRanUe world node withUes entry).trans (ih _)

theorem sameNodes_newUe (world : World) (supi : String) :
    world.state.SameNodes (world.newUe supi).2.state := by
  obtain ⟨tmsi, guti, -, -, hcases⟩ := world.newUe_cases supi
  have henrolled (ues : Table Nat (Ref Ue)) : world.state.SameNodes
      { (world.state.withTmsis world.state.registry.tmsis.allocate.2).enrol supi tmsi guti with
        registry.ues := ues } := ⟨fun _ => rfl, fun _ => rfl, rfl, rfl⟩
  rcases hcases with ⟨-, hstate⟩ | ⟨oldId, old, -, -, -, hstate⟩
  · rw [hstate]
    exact henrolled _
  · rw [hstate]
    exact ((henrolled _).trans (sameNumbers_detachAll _ old).sameNodes).trans
      (sameWiring_surrender _ old).toSameNumbers.sameNodes

theorem sameNodes_reallocateGuti (world : World) (ue : Ref Ue) :
    world.state.SameNodes (world.reallocateGuti ue).2.state := by
  rcases world.reallocateGuti_cases ue with ⟨-, -, hstate⟩ | ⟨tmsi, -, -, hstate⟩
  · rw [hstate]
    exact ⟨fun _ => rfl, fun _ => rfl, rfl, rfl⟩
  · rw [hstate]
    exact ⟨fun _ => rfl, fun _ => rfl, rfl, rfl⟩

end State

/-- The calls that open and close no radio node. -/
def Operation.KeepsNodes : Operation → Prop
  | .newNode _ | .removeNode _ => False
  | _ => True

namespace State

theorem perform_sameNodes (world : World) {operation : Operation}
    (hkeeps : operation.KeepsNodes) :
    world.state.SameNodes (world.perform operation).state := by
  by_cases hquiet : operation.Quiet
  · exact (perform_sameRoster hquiet).toSameNumbers.sameNodes
  · cases operation with
    | newUe supi => exact sameNodes_newUe world supi
    | removeUe ue => exact sameNodes_removeUe world ue
    | newNode connection | removeNode connection => exact hkeeps.elim
    | removeAllRanUes node withUes =>
        obtain ⟨noted, hnoted, hdrops⟩ := world.removeAllRanUes_drops node withUes
        have hsame := sameNodes_dropRanUes noted node withUes (world.state.node node).ranUes.toList
        rw [hnoted, ← hdrops] at hsame
        exact hsame
    | allocateTmsi =>
        show world.state.SameNodes world.allocateTmsi.2.state
        rw [World.state_allocateTmsi]
        exact (sameWiring_withTmsis _ _).toSameNumbers.sameNodes
    | freeTmsi tmsi =>
        show world.state.SameNodes (world.freeTmsi tmsi).state
        rw [World.state_freeTmsi]
        exact (sameWiring_withTmsis _ _).toSameNumbers.sameNodes
    | reallocateGuti ue => exact sameNodes_reallocateGuti world ue
    | _ => exact absurd trivial hquiet

theorem NodesFiled.perform {world : World} (hnumbered : world.state.WellNumbered)
    (hfiled : world.state.NodesFiled) (operation : Operation) :
    (world.perform operation).state.NodesFiled := by
  cases operation with
  | newNode connection => exact hfiled.newNode connection
  | removeNode connection => exact NodesFiled.removeNode hnumbered hfiled connection
  | _ => exact hfiled.congr (perform_sameNodes world trivial)

end State

namespace World

open State

/-- In every state reached a registered radio node is found by its connection. -/
theorem run_nodesFiled (config : Config) (operations : List Operation) :
    ((opened config).run operations).state.NodesFiled := by
  have hstart : (State.new config).NodesFiled := by
    intro node hregistered
    simp [NodeRegistered, findNode, State.new, Registry.new] at hregistered
  refine (run_induction (motive := fun state => state.Sound ∧ state.NodesFiled) ?_
    ⟨State.sound_new config, hstart⟩ (obeys_any (opened config) operations)).2
  intro world operation hinv hallowed
  exact ⟨(State.perform_steps hinv.1 hallowed).sound hinv.1,
    hinv.2.perform hinv.1.toWellNumbered operation⟩

end World

end AccessMobility
