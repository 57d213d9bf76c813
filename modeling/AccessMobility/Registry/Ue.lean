import AccessMobility.Registry.Identifier
import AccessMobility.Registry.RanUe

/-!
# UEs

A UE outlives its radio connections: it stays registered until it is removed or replaced by a new
UE under the same SUPI.
-/

namespace AccessMobility.World

/-- Detach a UE over every access. -/
def detachAll (world : World) (ref : Ref Ue) : World :=
  AccessType.all.foldl (fun world access => world.detach ref access) world

/-- Let go of the UE that a new UE replaces. -/
def replaceUe (world : World) (oldId newId : Nat) (supi : String) : World :=
  match world.state.findUe oldId with
  | none => world
  | some old =>
    let world := world.modifyRegistry fun registry =>
      { registry with ues := registry.ues.erase oldId }
    let world := world.note (.ueReplaced supi oldId newId)
    (world.detachAll old).surrenderTmsi old

/-- Create a UE.  A UE registered under the same SUPI is replaced; an empty SUPI is not indexed. -/
def newUe (world : World) (supi : String) : Ref Ue × World :=
  let id := world.state.registry.nextUeId
  let ref := world.state.entities.ues.fresh
  let (tmsi, world) := world.allocateTmsi
  let guti := world.state.gutiOf tmsi
  let world := world.modify fun state =>
    { state with
      entities.ues := state.entities.ues.create { id, supi, tmsi, guti }
      registry.ues := state.registry.ues.insert id ref
      registry.nextUeId := id + 1 }
  if supi = "" then
    (ref, world.note (.ueAddedUnindexed id))
  else
    let old := world.state.registry.supiIndex[supi]?
    let world := world.modifyRegistry fun registry =>
      { registry with supiIndex := registry.supiIndex.insert supi id }
    let world :=
      match old with
      | none => world
      | some oldId => world.replaceUe oldId id supi
    (ref, world.note (.ueAdded supi id guti))

/-- Remove the RAN UE attached to a UE over an access. -/
def removeAttached (world : World) (ref : Ref Ue) (access : AccessType) : World :=
  let ue := world.state.ue ref
  match ue.slot access with
  | none => world
  | some ngapId =>
    match world.state.findRanUe ngapId with
    | none => world.detach ref access
    | some ranUe =>
      match world.removeRanUe ranUe with
      | (.ok _, world) => world
      | (.error error, world) => (world.note (.ueFault ue.supi error)).detach ref access

/-- Deregister a UE: its RAN UEs are removed, its 5G-TMSI is freed, its subscriptions are dropped,
and it leaves the index, where the index names its id, and the pool. -/
def removeUe (world : World) (ref : Ref Ue) : World :=
  let world := AccessType.all.foldl (fun world access => world.removeAttached ref access) world
  let world := world.surrenderTmsi ref
  let world := world.modify (·.modifyUe ref ({ · with subscriptions := ∅ }))
  let ue := world.state.ue ref
  let world :=
    if ue.supi = "" then world
    else
      world.modifyRegistry fun registry =>
        { registry with supiIndex := registry.supiIndex.eraseIf ue.supi (· = ue.id) }
  if world.state.registry.ues.contains ue.id then
    (world.modifyRegistry fun registry =>
      { registry with ues := registry.ues.erase ue.id }).note (.ueRemoved ue.supi ue.id)
  else
    world

/-- Enter a registration state over an access. -/
def setGmmState (world : World) (ref : Ref Ue) (access : AccessType) (state : GmmState) : World :=
  let ue := world.state.ue ref
  let old := ue.gmmStates.get access
  let world := world.modify
    (·.setUe ref { ue with gmmStates := ue.gmmStates.set access state })
  if old = state then world
  else world.note (.gmmStateChanged ue.supi access old state)

end AccessMobility.World
