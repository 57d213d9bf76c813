import AccessMobility.IdPool
import AccessMobility.Location.Report
import AccessMobility.Policy
import AccessMobility.Subscription
import AccessMobility.Table

/-!
# The state of a registry

UEs, radio nodes and RAN UEs live in stores and are named by references.  A registry keeps pools
and indexes that say which of them are registered and under which identifier; the objects name each
other by identifier only.  So an object that has left the registry can still be held, read and
passed to an operation.

Several registries may share the same stores.  An operation then works on the pools of one registry
and on objects of any.
-/

namespace AccessMobility

/-- A subscriber. -/
structure Ue where
  id : Nat
  /-- Empty for a UE that is not known by a permanent identity. -/
  supi : String
  tmsi : Option Int := none
  guti : Option String := none
  oldGuti : Option String := none
  /-- The AMF UE NGAP ids stored for each access; the invalid id counts as none. -/
  slots : PerAccess (Option Nat) := .both none
  gmmStates : PerAccess GmmState := .both .deregistered
  location : UserLocation := default
  tai : Tai := default
  /-- Raised by a change of tracking area code until it is acknowledged. -/
  locationChanged : Bool := false
  /-- The policy association with its id. -/
  policy : Option (String × PolicyAssociation) := none
  /-- What the UE keeps of the event subscriptions that name it, by id. -/
  subscriptions : Table String UeSubscription := ∅

/-- A RAN UE: one logical connection of a UE through a radio node. -/
structure RanUe where
  /-- The AMF UE NGAP id. -/
  ngapId : Nat
  /-- The pool id of the radio node it is bound to. -/
  nodeId : Nat
  /-- The RAN UE NGAP id under which the radio node holds it. -/
  key : Int
  /-- The pool id of the UE it is attached to. -/
  ueId : Option Nat := none
  removed : Bool := false
  location : UserLocation := default
  tai : Tai := default

/-- A radio node behind one connection. -/
structure RadioNode where
  id : Nat
  connection : Connection
  /-- The largest number of RAN UEs it may hold. -/
  limit : Nat
  /-- The connection, until the node announces a name. -/
  name : String
  access : AccessType := .threeGpp
  kind : RadioNodeKind := .gnb
  globalId : Option GlobalRanNodeId := none
  /-- The RAN UEs by RAN UE NGAP id. -/
  ranUes : Table Int (Ref RanUe) := ∅

instance : Inhabited Ue := ⟨{ id := 0, supi := "" }⟩

instance : Inhabited RanUe := ⟨{ ngapId := 0, nodeId := 0, key := 0, removed := true }⟩

instance : Inhabited RadioNode :=
  ⟨{ id := 0, connection := .invalid, limit := 0, name := "" }⟩

/-- Every object that was ever created. -/
structure Entities where
  ues : Store Ue := {}
  nodes : Store RadioNode := {}
  ranUes : Store RanUe := {}

/-- The identities served by an AMF. -/
structure ServedIdentities where
  guamis : List Guami
  tais : List Tai
  plmns : List PlmnSnssai
  deriving DecidableEq, Inhabited

def ServedIdentities.ofConfig (config : Config) : ServedIdentities :=
  { guamis := config.servedGuamis
    tais := config.supportedTais
    plmns := config.supportedPlmns }

/-- The pools and indexes of one AMF. -/
structure Registry where
  amfName : Option String
  limits : PoolLimits
  served : ServedIdentities
  /-- Registered UEs by pool id. -/
  ues : Table Nat (Ref Ue) := ∅
  /-- Pool ids of UEs by SUPI. -/
  supiIndex : Table String Nat := ∅
  /-- Registered radio nodes by pool id. -/
  nodes : Table Nat (Ref RadioNode) := ∅
  /-- Pool ids of radio nodes by transport association. -/
  connectionIndex : Table Nat Nat := ∅
  /-- RAN UEs by AMF UE NGAP id. -/
  ranUes : Table Nat (Ref RanUe) := ∅
  /-- Event subscriptions by id. -/
  subscriptions : Table String SubscriptionEntry := ∅
  tmsis : IdPool
  ngapIds : IdPool
  subscriptionIds : IdPool
  nextUeId : Nat := 1
  nextNodeId : Nat := 1

namespace Registry

/-- A registry without entries.  No 5G-TMSI above 31 bits is ever issued. -/
def new (config : Config) : Registry :=
  { amfName := config.amfName
    limits := config.limits
    served := .ofConfig config
    tmsis := .new config.tmsis.min.toInt (min config.tmsis.max.toInt Tmsi.largest)
    ngapIds := .new config.ngapIds.min.toInt config.ngapIds.max.toInt
    subscriptionIds := .new 1 2147483647 }

/-- What is told when a registry is opened; a faulty configuration is used all the same. -/
def openingRecords (config : Config) : List LogRecord :=
  .registryOpened config.amfName config.servedGuamis.length config.supportedTais.length
      config.limits
    :: match config.validate with
      | .ok _ => []
      | .error fault => [.configurationFaulty fault]

/-- The tracking area the operator defines for non-3GPP access. -/
def operatorTai (registry : Registry) : Option Tai :=
  registry.served.tais.head?

/-- Whether a tracking area is served. -/
def servesTai (registry : Registry) (tai : Tai) : Bool :=
  registry.served.tais.contains tai

/-- Registered UEs in percent of their limit; nothing without a limit. -/
def load (registry : Registry) : Nat :=
  if registry.limits.ues = 0 then 0
  else 100 * registry.ues.size / registry.limits.ues.toNat

end Registry

/-- The objects and the registry an operation works on. -/
structure State where
  entities : Entities
  registry : Registry

/-- A registry without entries and without objects. -/
def State.new (config : Config) : State :=
  { entities := {}, registry := .new config }

namespace Ue

/-- The RAN UE attached over an access. -/
def slot (ue : Ue) (access : AccessType) : Option Nat :=
  (ue.slots.get access).filter (· ≠ NgapId.invalid)

/-- CM-CONNECTED over an access. -/
def Connected (ue : Ue) (access : AccessType) : Prop :=
  (ue.slot access).isSome

instance (ue : Ue) (access : AccessType) : Decidable (ue.Connected access) :=
  inferInstanceAs (Decidable (_ = true))

def link (ue : Ue) (access : AccessType) (ngapId : Nat) : Ue :=
  { ue with slots := ue.slots.set access (some ngapId) }

def clearSlot (ue : Ue) (access : AccessType) : Ue :=
  { ue with slots := ue.slots.set access none }

/-- The accesses whose slot names a RAN UE. -/
def accessesOf (ue : Ue) (ngapId : Nat) : List AccessType :=
  AccessType.all.filter fun access => ue.slots.get access = some ngapId

/-- Clear every slot that names a RAN UE. -/
def unlink (ue : Ue) (ngapId : Nat) : Ue :=
  { ue with slots := ue.slots.map fun slot => slot.filter (· ≠ ngapId) }

/-- Take a new identity; the old one is kept if there was one. -/
def replaceIdentity (ue : Ue) (tmsi : Int) (guti : Option String) : Ue :=
  { ue with tmsi := some tmsi, guti, oldGuti := ue.guti <|> ue.oldGuti }

/-- Keep a subscription under an id, whatever was there before. -/
def subscribe (ue : Ue) (id : String) (subscription : UeSubscription) : Ue :=
  { ue with subscriptions := ue.subscriptions.insert id subscription }

/-- Drop the subscription under an id. -/
def unsubscribe (ue : Ue) (id : String) : Ue :=
  { ue with subscriptions := ue.subscriptions.erase id }

/-- Take over the location of the serving RAN UE. -/
def takeLocation (ue : Ue) (location : UserLocation) (tai : Tai) : Ue :=
  { ue with
    location, tai
    locationChanged := ue.locationChanged || ue.tai.tac ≠ tai.tac }

end Ue

/-- Record the announced identity with the kind and access that follow from it. -/
def RadioNode.announce (node : RadioNode) (id : GlobalRanNodeId) : RadioNode :=
  { node with kind := id.kind, access := id.kind.access, globalId := some id }

namespace State

def ue (state : State) (ref : Ref Ue) : Ue :=
  state.entities.ues.get ref

def node (state : State) (ref : Ref RadioNode) : RadioNode :=
  state.entities.nodes.get ref

def ranUe (state : State) (ref : Ref RanUe) : RanUe :=
  state.entities.ranUes.get ref

def setUe (state : State) (ref : Ref Ue) (ue : Ue) : State :=
  { state with entities.ues := state.entities.ues.set ref ue }

def setNode (state : State) (ref : Ref RadioNode) (node : RadioNode) : State :=
  { state with entities.nodes := state.entities.nodes.set ref node }

def setRanUe (state : State) (ref : Ref RanUe) (ranUe : RanUe) : State :=
  { state with entities.ranUes := state.entities.ranUes.set ref ranUe }

def modifyUe (state : State) (ref : Ref Ue) (f : Ue → Ue) : State :=
  state.setUe ref (f (state.ue ref))

def modifyNode (state : State) (ref : Ref RadioNode) (f : RadioNode → RadioNode) : State :=
  state.setNode ref (f (state.node ref))

def modifyRanUe (state : State) (ref : Ref RanUe) (f : RanUe → RanUe) : State :=
  state.setRanUe ref (f (state.ranUe ref))

/-! ## Look-ups -/

def findUe (state : State) (id : Nat) : Option (Ref Ue) :=
  state.registry.ues[id]?

def findUeBySupi (state : State) (supi : String) : Option (Ref Ue) :=
  if supi = "" then none else state.registry.supiIndex[supi]?.bind state.findUe

/-- The first UE in the order of pool ids that satisfies a test. -/
def findUeWith (state : State) (test : Ue → Bool) : Option (Ref Ue) :=
  state.registry.ues.values.find? fun ref => test (state.ue ref)

def findUeByGuti (state : State) (guti : String) : Option (Ref Ue) :=
  state.findUeWith fun ue => ue.guti = some guti

def findUeByPolicy (state : State) (id : String) : Option (Ref Ue) :=
  state.findUeWith fun ue => ue.policy.map Prod.fst = some id

def findNode (state : State) (id : Nat) : Option (Ref RadioNode) :=
  state.registry.nodes[id]?

def findNodeByConnection (state : State) (connection : Connection) : Option (Ref RadioNode) :=
  if connection.IsValid then
    state.registry.connectionIndex[connection.association]?.bind state.findNode
  else
    none

/-- The first radio node in the order of pool ids that announced an identity. -/
def findNodeByGlobalId (state : State) (id : GlobalRanNodeId) : Option (Ref RadioNode) :=
  state.registry.nodes.values.find? fun ref => (state.node ref).globalId = some id

def findRanUe (state : State) (ngapId : Nat) : Option (Ref RanUe) :=
  state.registry.ranUes[ngapId]?

/-- The RAN UE a radio node holds under a RAN UE NGAP id. -/
def findRanUeByKey (state : State) (node : Ref RadioNode) (key : Int) : Option (Ref RanUe) :=
  (state.node node).ranUes[key]?

/-- The UE a RAN UE is attached to. -/
def ueOfRanUe (state : State) (ref : Ref RanUe) : Option (Ref Ue) :=
  (state.ranUe ref).ueId.bind state.findUe

/-- Whether the pool holds this very radio node under its id. -/
def NodeRegistered (state : State) (ref : Ref RadioNode) : Prop :=
  state.findNode (state.node ref).id = some ref

instance (state : State) (ref : Ref RadioNode) : Decidable (state.NodeRegistered ref) :=
  inferInstanceAs (Decidable (_ = _))

/-- Whether the pool holds this very UE under its id. -/
def UeRegistered (state : State) (ref : Ref Ue) : Prop :=
  state.findUe (state.ue ref).id = some ref

instance (state : State) (ref : Ref Ue) : Decidable (state.UeRegistered ref) :=
  inferInstanceAs (Decidable (_ = _))

/-- Whether the pool holds this very RAN UE under its id. -/
def RanUeRegistered (state : State) (ref : Ref RanUe) : Prop :=
  state.findRanUe (state.ranUe ref).ngapId = some ref

instance (state : State) (ref : Ref RanUe) : Decidable (state.RanUeRegistered ref) :=
  inferInstanceAs (Decidable (_ = _))

/-- The 5G-GUTI of a 5G-TMSI under the first served GUAMI. -/
def gutiOf (state : State) (tmsi : Option Int) : Option String := do
  let tmsi ← tmsi
  let guami ← state.registry.served.guamis.head?
  return guami.plmnId.text ++ guami.amfId ++ Tmsi.text tmsi

end State

/-- A state together with what was told on the way to it. -/
structure World where
  state : State
  journal : List LogRecord := []

namespace World

def note (world : World) (record : LogRecord) : World :=
  { world with journal := world.journal ++ [record] }

def noteAll (world : World) (records : List LogRecord) : World :=
  { world with journal := world.journal ++ records }

def modify (world : World) (f : State → State) : World :=
  { world with state := f world.state }

def modifyRegistry (world : World) (f : Registry → Registry) : World :=
  world.modify fun state => { state with registry := f state.registry }

@[simp] theorem state_note (world : World) (record : LogRecord) :
    (world.note record).state = world.state := rfl

@[simp] theorem state_noteAll (world : World) (records : List LogRecord) :
    (world.noteAll records).state = world.state := rfl

@[simp] theorem state_modify (world : World) (f : State → State) :
    (world.modify f).state = f world.state := rfl

end World

end AccessMobility
