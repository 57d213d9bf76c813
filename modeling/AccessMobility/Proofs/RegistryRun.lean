import AccessMobility.Registry.Location
import AccessMobility.Registry.Node
import AccessMobility.Registry.Subscription

/-!
# Runs of a registry

A run is a list of calls carried out one after another on a registry that was opened with a
configuration.  Every call that can change an object or the registry is an `Operation`; a handle
it takes may be one that the registry dropped long ago, and a call that is refused is part of the
run like any other.

A rule of conduct says which calls a caller makes in which state.  `World.Obeys` follows it along a
run, and `World.run_induction` is the induction that every invariant of runs goes through.
-/

namespace AccessMobility

/-- The calls that can change a registry or one of its objects. -/
inductive Operation where
  | serve (served : ServedIdentities)
  | newUe (supi : String)
  | newNode (connection : Connection)
  | newRanUe (node : Ref RadioNode) (key : Int)
  | attach (ue : Ref Ue) (ranUe : Ref RanUe)
  | detach (ue : Ref Ue) (access : AccessType)
  | removeRanUe (ranUe : Ref RanUe)
  | switchNode (ranUe : Ref RanUe) (target : Ref RadioNode) (key : Int)
  | removeNode (connection : Connection)
  | removeAllRanUes (node : Ref RadioNode) (withUes : Bool)
  | removeUe (ue : Ref Ue)
  | allocateTmsi
  | freeTmsi (tmsi : Option Int)
  | reallocateGuti (ue : Ref Ue)
  | setGmmState (ue : Ref Ue) (access : AccessType) (gmmState : GmmState)
  | setPolicy (ue : Ref Ue) (policy : Option (String × PolicyAssociation))
  | acknowledgeLocation (ue : Ref Ue)
  | subscribe (ue : Ref Ue) (id : String) (subscription : UeSubscription)
  | unsubscribe (ue : Ref Ue) (id : String)
  | renameNode (node : Ref RadioNode) (name : String)
  | setAccess (node : Ref RadioNode) (access : AccessType)
  | announce (node : Ref RadioNode) (id : GlobalRanNodeId)
  | updateLocation (ranUe : Ref RanUe) (report : Option LocationReport) (now : Instant)
  | newSubscriptionId
  | addSubscription (id : String) (entry : SubscriptionEntry)
  | deleteSubscription (id : String)
  | removeSubscription (id : String)

namespace World

def opened (config : Config) : World :=
  { state := .new config, journal := Registry.openingRecords config }

/-- Carry out a call, whether it succeeds or is refused. -/
def perform (world : World) : Operation → World
  | .serve served => world.serve served
  | .newUe supi => (world.newUe supi).2
  | .newNode connection => (world.newNode connection).2
  | .newRanUe node key => (world.newRanUe node key).2
  | .attach ue ranUe => (world.attach ue ranUe).2
  | .detach ue access => world.detach ue access
  | .removeRanUe ranUe => (world.removeRanUe ranUe).2
  | .switchNode ranUe target key => (world.switchNode ranUe target key).2
  | .removeNode connection => (world.removeNode connection).2
  | .removeAllRanUes node withUes => world.removeAllRanUes node withUes
  | .removeUe ue => world.removeUe ue
  | .allocateTmsi => world.allocateTmsi.2
  | .freeTmsi tmsi => world.freeTmsi tmsi
  | .reallocateGuti ue => (world.reallocateGuti ue).2
  | .setGmmState ue access gmmState => world.setGmmState ue access gmmState
  | .setPolicy ue policy => world.modify (·.modifyUe ue ({ · with policy }))
  | .acknowledgeLocation ue => world.modify (·.modifyUe ue ({ · with locationChanged := false }))
  | .subscribe ue id subscription => world.modify (·.modifyUe ue (·.subscribe id subscription))
  | .unsubscribe ue id => world.modify (·.modifyUe ue (·.unsubscribe id))
  | .renameNode node name => world.modify (·.modifyNode node ({ · with name }))
  | .setAccess node access => world.modify (·.modifyNode node ({ · with access }))
  | .announce node id => world.modify (·.modifyNode node (·.announce id))
  | .updateLocation ranUe report now => world.updateLocation ranUe report now
  | .newSubscriptionId => world.newSubscriptionId.2
  | .addSubscription id entry => world.addSubscription id entry
  | .deleteSubscription id => (world.deleteSubscription id).2
  | .removeSubscription id => (world.removeSubscription id).2

def run (world : World) (operations : List Operation) : World :=
  operations.foldl perform world

@[simp] theorem run_nil (world : World) : world.run [] = world := rfl

@[simp] theorem run_cons (world : World) (operation : Operation) (rest : List Operation) :
    world.run (operation :: rest) = (world.perform operation).run rest := rfl

theorem run_append (world : World) (before after : List Operation) :
    world.run (before ++ after) = (world.run before).run after :=
  List.foldl_append

theorem run_concat (world : World) (operations : List Operation) (operation : Operation) :
    world.run (operations ++ [operation]) = (world.run operations).perform operation :=
  world.run_append operations [operation]

/-- Every call of a run is one the rule allows in the state it is made in. -/
def Obeys (allowed : State → Operation → Prop) (world : World) : List Operation → Prop
  | [] => True
  | operation :: rest =>
    allowed world.state operation ∧ (world.perform operation).Obeys allowed rest

theorem obeys_append {allowed : State → Operation → Prop} {world : World}
    {before after : List Operation} :
    world.Obeys allowed (before ++ after) ↔
      world.Obeys allowed before ∧ (world.run before).Obeys allowed after := by
  induction before generalizing world with
  | nil => simp [Obeys]
  | cons operation rest ih => simp [Obeys, ih, and_assoc]

/-- What holds at the start and is kept by every allowed call holds along a run. -/
theorem run_induction {allowed : State → Operation → Prop} {motive : State → Prop}
    (hstep : ∀ (world : World) (operation : Operation), motive world.state →
      allowed world.state operation → motive (world.perform operation).state)
    {world : World} (hstart : motive world.state) {operations : List Operation}
    (hobeys : world.Obeys allowed operations) : motive (world.run operations).state := by
  induction operations generalizing world with
  | nil => exact hstart
  | cons operation rest ih =>
      obtain ⟨hallowed, hrest⟩ := hobeys
      exact ih (hstep world operation hstart hallowed) hrest

end World

/-! ## Rules of conduct -/

namespace Operation

def Any (_ : State) (_ : Operation) : Prop := True

def AttachesRegistered (state : State) : Operation → Prop
  | .attach ue _ => state.UeRegistered ue
  | _ => True

/-- The access of a radio node may be set only to what it is, or while it holds no RAN UE. -/
def KeepsAccess (state : State) (node : Ref RadioNode) (access : AccessType) : Prop :=
  access = (state.node node).access ∨ (state.node node).ranUes.isEmpty = true

/-- Only a registered UE is attached, a radio node that holds RAN UEs keeps its access, and a RAN
UE is handed over only to a radio node of the access it is on. -/
def KeepsLinks (state : State) : Operation → Prop
  | .attach ue _ => state.UeRegistered ue
  | .setAccess node access => KeepsAccess state node access
  | .announce node id => KeepsAccess state node id.kind.access
  | .switchNode ranUe target _ =>
    ∀ source ∈ state.findNode (state.ranUe ranUe).nodeId,
      (state.node target).access = (state.node source).access
  | _ => True

end Operation

end AccessMobility
