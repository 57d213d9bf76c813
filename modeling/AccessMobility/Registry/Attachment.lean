import AccessMobility.Registry.State

/-!
# Attachment of RAN UEs to UEs

A UE has one slot for each access, and a RAN UE one back reference.  Attaching fills the slot of
the access that the radio node of the RAN UE serves; whatever the slot or the back reference named
before is let go.  Detaching empties a slot.
-/

namespace AccessMobility

namespace State

/-- Clear the back reference of the RAN UE under an id where it names a UE. -/
def clearBackReference (state : State) (ngapId ueId : Nat) : State :=
  match state.findRanUe ngapId with
  | none => state
  | some ref =>
    if (state.ranUe ref).ueId = some ueId then
      state.modifyRanUe ref ({ · with ueId := none })
    else
      state

/-- A UE and a RAN UE give up their link to each other. -/
def letGo (state : State) (ueRef : Ref Ue) (ranUeRef : Ref RanUe) : State :=
  let ueId := (state.ue ueRef).id
  let ranUe := state.ranUe ranUeRef
  let state := state.modifyUe ueRef (·.unlink ranUe.ngapId)
  if ranUe.ueId = some ueId then
    state.setRanUe ranUeRef { ranUe with ueId := none }
  else
    state

/-- Empty a slot and clear the back reference of the RAN UE it named. -/
def detach (state : State) (ref : Ref Ue) (access : AccessType) : State :=
  let ue := state.ue ref
  let state := state.setUe ref (ue.clearSlot access)
  match ue.slot access with
  | none => state
  | some ngapId => state.clearBackReference ngapId ue.id

end State

namespace World

/-- Detach whatever is attached to a UE over an access. -/
def detach (world : World) (ref : Ref Ue) (access : AccessType) : World :=
  let ue := world.state.ue ref
  let world := world.modify (·.detach ref access)
  match ue.slot access with
  | none => world
  | some ngapId => world.note (.detached ue.supi access ngapId)

/-- Attach a RAN UE to a UE over the access of its radio node.  Whether the RAN UE was removed is
looked at before the two are linked and once more after. -/
def attach (world : World) (ueRef : Ref Ue) (ranUeRef : Ref RanUe) :
    Except RegistryError Unit × World :=
  let ue := world.state.ue ueRef
  let ranUe := world.state.ranUe ranUeRef
  if ranUe.removed then
    (.error (.ranUeNotFound ranUe.ngapId), world)
  else
    match world.state.findNode ranUe.nodeId with
    | none => (.error (.missingNode ranUe.ngapId), world)
    | some nodeRef =>
      let access := (world.state.node nodeRef).access
      let world := world.modify fun state =>
        (state.setUe ueRef (ue.link access ranUe.ngapId)).modifyRanUe ranUeRef
          ({ · with ueId := some ue.id })
      if (world.state.ranUe ranUeRef).removed then
        (.error (.ranUeNotFound ranUe.ngapId), world.modify (·.letGo ueRef ranUeRef))
      else
        let world :=
          match (ue.slot access).filter (· ≠ ranUe.ngapId) with
          | none => world
          | some old =>
            (world.modify (·.clearBackReference old ue.id)).note
              (.attachmentReplaced ue.supi access old ranUe.ngapId)
        let world :=
          match (ranUe.ueId.filter (· ≠ ue.id)).bind world.state.findUe with
          | none => world
          | some previous => world.modify (·.modifyUe previous (·.unlink ranUe.ngapId))
        (.ok (), world.note (.attached ue.supi access ranUe.key ranUe.ngapId))

end World

end AccessMobility
