import AccessMobility.Registry.Attachment

/-!
# RAN UEs

A RAN UE is registered in the pool under its AMF UE NGAP id and in the collection of its radio node
under its RAN UE NGAP id.  A new RAN UE under a key in use, and one that is handed over to such a
key, removes the RAN UE that held the key.
-/

namespace AccessMobility

namespace State

/-- Take a RAN UE out of the collection of a radio node, where it is the one under its key. -/
def leaveCollection (state : State) (node : Ref RadioNode) (key : Int) (ref : Ref RanUe) : State :=
  state.modifyNode node fun node => { node with ranUes := node.ranUes.eraseIf key (· = ref) }

/-- Take a RAN UE out of the pool, where it is the one under its id, and free the id. -/
def leavePool (state : State) (ref : Ref RanUe) : State :=
  let ngapId := (state.ranUe ref).ngapId
  if state.findRanUe ngapId = some ref then
    { state with
      registry.ranUes := state.registry.ranUes.erase ngapId
      registry.ngapIds := state.registry.ngapIds.free (NgapId.toSigned ngapId) }
  else
    state

/-- Remove a RAN UE that was not removed before: from the slots of its UE, from the collection of
its radio node and from the pool. -/
def release (state : State) (ref : Ref RanUe) : State :=
  let ranUe := state.ranUe ref
  let state := state.setRanUe ref { ranUe with removed := true, ueId := none }
  let state :=
    match ranUe.ueId.bind state.findUe with
    | none => state
    | some ue => state.modifyUe ue (·.unlink ranUe.ngapId)
  let state :=
    match state.findNode ranUe.nodeId with
    | none => state
    | some node => state.leaveCollection node ranUe.key ref
  state.leavePool ref

end State

namespace World

/-- Remove a RAN UE whose radio node need not be known. -/
def release (world : World) (ref : Ref RanUe) : Except RegistryError Unit × World :=
  let ranUe := world.state.ranUe ref
  if ranUe.removed then
    (.error (.ranUeNotFound ranUe.ngapId), world)
  else
    let detachments : List LogRecord :=
      match world.state.ueOfRanUe ref with
      | none => []
      | some ueRef =>
        let ue := world.state.ue ueRef
        (ue.accessesOf ranUe.ngapId).map fun access => .detached ue.supi access ranUe.ngapId
    let world := world.modify (·.release ref)
    (.ok (), world.noteAll (detachments ++ [.ranUeRemoved ranUe.key ranUe.ngapId]))

/-- Remove a RAN UE of a known radio node. -/
def removeRanUe (world : World) (ref : Ref RanUe) : Except RegistryError Unit × World :=
  let ranUe := world.state.ranUe ref
  if (world.state.findNode ranUe.nodeId).isNone then
    (.error (.missingNode ranUe.ngapId), world.note (.ranUeWithoutNode ranUe.ngapId))
  else
    world.release ref

/-- Remove the RAN UE that a key was taken from. -/
def releaseDisplaced (world : World) (ref : Ref RanUe) : World :=
  match world.release ref with
  | (.ok _, world) => world
  | (.error error, world) => world.note (.releaseFailed error)

/-- Remove the RAN UE, if any, that lost its key of a radio node, and tell its AMF UE NGAP id. -/
def displace (world : World) (record : Nat → LogRecord) (displaced : Option (Ref RanUe)) : World :=
  match displaced with
  | none => world
  | some old => (world.note (record (world.state.ranUe old).ngapId)).releaseDisplaced old

/-- Take back a RAN UE that was added to a radio node which is not registered any more. -/
def takeBack (world : World) (nodeRef : Ref RadioNode) (key : Int) (ref : Ref RanUe) : World :=
  let connection := (world.state.node nodeRef).connection
  let world := world.note (.nodeLost connection (world.state.ranUe ref).ngapId)
  (world.release ref).2.modify (·.leaveCollection nodeRef key ref)

/-- Create a RAN UE on a radio node under a RAN UE NGAP id.  Whether the radio node is registered is
looked at first and once more when the RAN UE is in place. -/
def newRanUe (world : World) (nodeRef : Ref RadioNode) (key : Int) :
    Except RegistryError (Ref RanUe) × World :=
  let node := world.state.node nodeRef
  if ¬ world.state.NodeRegistered nodeRef then
    (.error (.nodeNotFound node.connection.text), world.note (.nodeGone node.connection node.id))
  else if ¬ node.ranUes.contains key ∧ node.limit ≤ node.ranUes.size then
    (.error (.ranUeLimitReached node.name node.limit),
      world.note (.ranUeLimitReached node.name node.limit))
  else
    let (id, pool) := world.state.registry.ngapIds.allocate
    match id with
    | none => (.error .ngapIdsExhausted, world.note .ngapIdsExhausted)
    | some id =>
      let ngapId := NgapId.ofSigned id
      let ref := world.state.entities.ranUes.fresh
      let world := world.modify fun state =>
        { state with
          entities.ranUes := state.entities.ranUes.create { ngapId, nodeId := node.id, key }
          registry.ranUes := state.registry.ranUes.insert ngapId ref
          registry.ngapIds := pool }
      let world :=
        world.modify (·.setNode nodeRef { node with ranUes := node.ranUes.insert key ref })
      let world := world.displace (.keyReused node.name key) node.ranUes[key]?
      if ¬ world.state.NodeRegistered nodeRef then
        (.error (.nodeNotFound node.connection.text), world.takeBack nodeRef key ref)
      else
        (.ok ref, world.note (.ranUeAdded node.name key ngapId))

/-- Hand a RAN UE over to a radio node under a new RAN UE NGAP id.  Its AMF UE NGAP id and its
attachment stay.  Whether the radio node is registered is looked at once more when the key is taken;
if it is not, the RAN UE stays where it was. -/
def switchNode (world : World) (ref : Ref RanUe) (target : Ref RadioNode) (key : Int) :
    Except RegistryError Unit × World :=
  let ranUe := world.state.ranUe ref
  let node := world.state.node target
  if ranUe.removed then
    (.error (.ranUeNotFound ranUe.ngapId), world)
  else
    match world.state.findNode ranUe.nodeId with
    | none => (.error (.missingNode ranUe.ngapId), world)
    | some source =>
      if ¬ world.state.NodeRegistered target then
        (.error (.nodeNotFound node.connection.text), world)
      else
        let oldNode := world.state.node source
        let displaced := node.ranUes[key]?.filter (· ≠ ref)
        let world := world.modify
          (·.setNode target { node with ranUes := node.ranUes.insert key ref })
        if ¬ world.state.NodeRegistered target then
          let world := world.modify (·.leaveCollection target key ref)
          (.error (.nodeNotFound node.connection.text),
            world.displace (.keyTakenOver node.name key) displaced)
        else
          let world :=
            if oldNode.id ≠ node.id ∨ ranUe.key ≠ key then
              world.modify (·.leaveCollection source ranUe.key ref)
            else
              world
          let world := world.modify (·.modifyRanUe ref ({ · with nodeId := node.id, key }))
          let world := world.displace (.keyTakenOver node.name key) displaced
          (.ok (), world.note (.switched ranUe.ngapId oldNode.name ranUe.key node.name key))

end World

end AccessMobility
