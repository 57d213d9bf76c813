import AccessMobility.Registry.Identifier
import AccessMobility.Text.Decimal

/-!
# Event subscriptions of a registry

Deleting an entry leaves what the UEs keep of the subscription alone, unless its removal is asked
for as well.
-/

namespace AccessMobility.World

/-- A fresh subscription id, as decimal text. -/
def newSubscriptionId (world : World) : Option String × World :=
  let (id, pool) := world.state.registry.subscriptionIds.allocate
  let world := world.modifyRegistry fun registry => { registry with subscriptionIds := pool }
  match id with
  | none => (none, world.note .subscriptionIdsExhausted)
  | some id => (some (toString id), world)

/-- Store an entry under an id, whatever was there before. -/
def addSubscription (world : World) (id : String) (entry : SubscriptionEntry) : World :=
  (world.note (.subscriptionAdded id entry.supis.length entry.anyUe)).modifyRegistry
    fun registry => { registry with subscriptions := registry.subscriptions.insert id entry }

/-- Delete an entry.  An id that reads as a number is given back to the pool. -/
def deleteSubscription (world : World) (id : String) :
    Except RegistryError SubscriptionEntry × World :=
  match world.state.registry.subscriptions[id]? with
  | none => (.error (.subscriptionNotFound id), world)
  | some entry =>
    let world := world.modifyRegistry fun registry =>
      { registry with subscriptions := registry.subscriptions.erase id }
    let world :=
      match Decimal.int64? id with
      | none => world
      | some number =>
        (world.noteAll (freeRemarks world.state.registry.subscriptionIds number)).modifyRegistry
          fun registry => { registry with subscriptionIds := registry.subscriptionIds.free number }
    (.ok entry, world.note (.subscriptionDeleted id))

/-- Drop what the UE registered under a SUPI keeps of a subscription. -/
def unsubscribe (world : World) (id supi : String) : World :=
  match world.state.findUeBySupi supi with
  | none => world
  | some ref => world.modify (·.modifyUe ref (·.unsubscribe id))

/-- Delete an entry and what every UE it lists keeps of it. -/
def removeSubscription (world : World) (id : String) :
    Except RegistryError SubscriptionEntry × World :=
  match world.deleteSubscription id with
  | (.error error, world) => (.error error, world)
  | (.ok entry, world) =>
    (.ok entry, entry.supis.foldl (fun world supi => world.unsubscribe id supi) world)

end AccessMobility.World
