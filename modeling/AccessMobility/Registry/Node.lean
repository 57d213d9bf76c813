import AccessMobility.Registry.Ue

/-!
# Radio nodes

A radio node is registered under its connection.  A new node on a connection in use replaces the
old one, whose RAN UEs are removed.
-/

namespace AccessMobility.World

/-- Release one RAN UE of a radio node and take it out of the collection, which the release leaves
alone once the radio node is out of the pool.  A RAN UE that is gone already is passed over. -/
def takeOut (world : World) (node : Ref RadioNode) (key : Int) (ref : Ref RanUe) : World :=
  let world :=
    match world.release ref with
    | (.ok _, world) | (.error (.ranUeNotFound _), world) => world
    | (.error error, world) => world.note (.nodeFault (world.state.node node).name error)
  world.modify (·.leaveCollection node key ref)

/-- Remove one RAN UE of a radio node, and the UE it was attached to if asked for. -/
def dropRanUe (world : World) (node : Ref RadioNode) (withUes : Bool) (entry : Int × Ref RanUe) :
    World :=
  let (key, ref) := entry
  let owner := if withUes then world.state.ueOfRanUe ref else none
  let world := world.takeOut node key ref
  match owner with
  | none => world
  | some ue => world.removeUe ue

/-- Remove RAN UEs of a radio node one after another. -/
def dropRanUes (world : World) (node : Ref RadioNode) (withUes : Bool)
    (entries : List (Int × Ref RanUe)) : World :=
  entries.foldl (fun world entry => world.dropRanUe node withUes entry) world

/-- Tell how many RAN UEs a radio node has got since its RAN UEs were listed for removal. -/
def noteAddedMeanwhile (world : World) (ref : Ref RadioNode) : World :=
  let node := world.state.node ref
  if 0 < node.ranUes.size then
    world.note (.ranUesAddedMeanwhile node.name node.ranUes.size)
  else
    world

/-- Remove every RAN UE of a radio node, in the order of their RAN UE NGAP ids. -/
def removeAllRanUes (world : World) (ref : Ref RadioNode) (withUes : Bool) : World :=
  let node := world.state.node ref
  let world := world.note (.removingRanUes node.name node.ranUes.size withUes)
  (world.dropRanUes ref withUes node.ranUes.toList).noteAddedMeanwhile ref

/-- Let go of the radio node that a new one replaces. -/
def replaceNode (world : World) (oldId newId : Nat) (connection : Connection) : World :=
  match world.state.findNode oldId with
  | none => world
  | some old =>
    let world := world.modifyRegistry fun registry =>
      { registry with nodes := registry.nodes.erase oldId }
    (world.note (.nodeReplaced connection oldId newId)).removeAllRanUes old false

/-- Create the radio node of a connection. -/
def newNode (world : World) (connection : Connection) :
    Except RegistryError (Ref RadioNode) × World :=
  let registry := world.state.registry
  let limit := registry.limits.radioNodes.toNat
  if ¬ connection.IsValid then
    (.error .invalidConnection, world)
  else if limit ≤ registry.nodes.size ∧
      ¬ registry.connectionIndex.contains connection.association then
    (.error (.nodeLimitReached limit), world.note (.nodeLimitReached limit))
  else
    let id := registry.nextNodeId
    let ref := world.state.entities.nodes.fresh
    let old := registry.connectionIndex[connection.association]?
    let world := world.modify fun state =>
      { state with
        entities.nodes := state.entities.nodes.create
          { id, connection, limit := registry.limits.ranUesPerNode.toNat, name := connection.text }
        registry.nodes := state.registry.nodes.insert id ref
        registry.connectionIndex :=
          state.registry.connectionIndex.insert connection.association id
        registry.nextNodeId := id + 1 }
    let world :=
      match old with
      | none => world
      | some oldId => world.replaceNode oldId id connection
    (.ok ref, world.note (.nodeAdded connection id))

/-- Remove the radio node of a closed connection together with its RAN UEs.  The connection is
forgotten first; a radio node that is not in the pool under its own id is refused after that. -/
def removeNode (world : World) (connection : Connection) :
    Except RegistryError (Ref RadioNode) × World :=
  match world.state.findNodeByConnection connection with
  | none => (.error (.nodeNotFound connection.text), world)
  | some ref =>
    let node := world.state.node ref
    let world := world.modifyRegistry fun registry =>
      { registry with
        connectionIndex :=
          registry.connectionIndex.eraseIf connection.association (· = node.id) }
    if ¬ world.state.NodeRegistered ref then
      (.error (.nodeNotFound connection.text), world)
    else
      let world := world.modifyRegistry fun registry =>
        { registry with nodes := registry.nodes.erase node.id }
      let world := world.removeAllRanUes ref false
      (.ok ref, world.note (.nodeRemoved node.name node.id))

end AccessMobility.World
