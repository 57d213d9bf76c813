import AccessMobility.Config.Validation
import AccessMobility.Error

/-!
# Log records

What the library tells its operator.  A record is kept as the event that it reports; level and
wording are fixed here and nowhere else.
-/

namespace AccessMobility

inductive LogLevel where
  | debug
  | info
  | warning
  | error
  deriving DecidableEq

def LogLevel.text : LogLevel → String
  | debug => "DEBUG"
  | info => "INFO"
  | warning => "WARN"
  | error => "ERROR"

inductive LogRecord where
  -- configuration and served identities
  | registryOpened (name : Option String) (guamis tais : Nat) (limits : PoolLimits)
  | configurationFaulty (fault : ConfigFault)
  | servedIdentitiesReplaced (guamis tais : Nat)
  -- identifiers
  | idOutOfRange (id min max : Int)
  | tmsiOutOfRange
  | tmsisExhausted (min max : Int)
  | gutiReallocated (supi : String) (guti : Option String)
  | ngapIdsExhausted
  | subscriptionIdsExhausted
  -- UEs
  | ueAddedUnindexed (id : Nat)
  | ueAdded (supi : String) (id : Nat) (guti : Option String)
  | ueReplaced (supi : String) (oldId newId : Nat)
  | ueRemoved (supi : String) (id : Nat)
  | ueFault (supi : String) (error : RegistryError)
  | gmmStateChanged (supi : String) (access : AccessType) (old new : GmmState)
  -- links
  | attached (supi : String) (access : AccessType) (key : Int) (ngapId : Nat)
  | attachmentReplaced (supi : String) (access : AccessType) (oldNgapId newNgapId : Nat)
  | detached (supi : String) (access : AccessType) (ngapId : Nat)
  -- radio nodes
  | nodeLimitReached (limit : Nat)
  | nodeAdded (connection : Connection) (id : Nat)
  | nodeReplaced (connection : Connection) (oldId newId : Nat)
  | nodeRemoved (name : String) (id : Nat)
  | nodeGone (connection : Connection) (id : Nat)
  | nodeLost (connection : Connection) (ngapId : Nat)
  | removingRanUes (name : String) (count : Nat) (withUes : Bool)
  | nodeFault (name : String) (error : RegistryError)
  | ranUesAddedMeanwhile (name : String) (count : Nat)
  -- RAN UEs
  | ranUeLimitReached (name : String) (limit : Nat)
  | ranUeAdded (name : String) (key : Int) (ngapId : Nat)
  | ranUeRemoved (key : Int) (ngapId : Nat)
  | ranUeWithoutNode (ngapId : Nat)
  | keyReused (name : String) (key : Int) (ngapId : Nat)
  | keyTakenOver (name : String) (key : Int) (ngapId : Nat)
  | releaseFailed (error : RegistryError)
  | switched (ngapId : Nat) (oldName : String) (oldKey : Int) (newName : String) (newKey : Int)
  -- locations
  | shortPlmn (octets : List UInt8)
  | invalidTimestamp (octets : List UInt8)
  | unsupportedAddress (octets : List UInt8) (bitLength : UInt64)
  | noServedTai
  | located (ngapId : Nat) (plmnId : PlmnId) (tac : String)
  | tacChanged (supi old new : String)
  -- event subscriptions
  | subscriptionAdded (id : String) (ues : Nat) (anyUe : Bool)
  | subscriptionDeleted (id : String)
  deriving DecidableEq

namespace LogRecord

def level : LogRecord → LogLevel
  | registryOpened .. | servedIdentitiesReplaced .. | nodeAdded .. | nodeRemoved ..
  | switched .. => .info
  | configurationFaulty .. | tmsisExhausted .. | subscriptionIdsExhausted | ueReplaced ..
  | ueFault .. | nodeReplaced .. | nodeLost .. | nodeFault .. | keyReused .. | keyTakenOver ..
  | releaseFailed .. | unsupportedAddress .. | noServedTai => .warning
  | tmsiOutOfRange | ngapIdsExhausted | nodeLimitReached .. | nodeGone ..
  | ranUeLimitReached .. | ranUeWithoutNode .. => .error
  | idOutOfRange .. | gutiReallocated .. | ueAddedUnindexed .. | ueAdded .. | ueRemoved ..
  | gmmStateChanged .. | attached .. | attachmentReplaced .. | detached .. | removingRanUes ..
  | ranUesAddedMeanwhile .. | ranUeAdded .. | ranUeRemoved .. | shortPlmn .. | invalidTimestamp ..
  | located .. | tacChanged .. | subscriptionAdded .. | subscriptionDeleted .. => .debug

/-- A missing 5G-GUTI is written as nothing. -/
def gutiText (guti : Option String) : String :=
  guti.getD ""

/-- An AMF without a name is called by its function. -/
def nameText (name : Option String) : String :=
  name.getD "amf"

def message : LogRecord → String
  | registryOpened name guamis tais limits =>
    s!"AMF context [{nameText name}]: {guamis} GUAMI, {tais} TAI, "
      ++ s!"max gNB {limits.radioNodes.toNat}, max UE {limits.ues.toNat}"
  | configurationFaulty fault => s!"AMF context configuration: {fault.message}"
  | servedIdentitiesReplaced guamis tais =>
    s!"Served identities updated: {guamis} GUAMI, {tais} TAI"
  | idOutOfRange id min max => s!"ID [{id}] out of range [{min}..{max}], ignored"
  | tmsiOutOfRange => "5G-TMSI out of range"
  | tmsisExhausted min max => s!"5G-TMSI range [{min}..{max}] exhausted"
  | gutiReallocated supi guti => s!"[{supi}] 5G-GUTI reallocated [{gutiText guti}]"
  | ngapIdsExhausted => "AMF_UE_NGAP_ID space exhausted"
  | subscriptionIdsExhausted => "Event subscription ID space exhausted"
  | ueAddedUnindexed id => s!"AmfUe[{id}] added without SUPI, not indexed"
  | ueAdded supi id guti => s!"[{supi}] AmfUe added (id={id}, guti={gutiText guti})"
  | ueReplaced supi oldId newId =>
    s!"[{supi}] AmfUe replaced (old id={oldId}, new id={newId})"
  | ueRemoved supi id => s!"[{supi}] AmfUe removed (id={id})"
  | ueFault supi error => s!"[{supi}] {error.message}"
  | gmmStateChanged supi access old new =>
    s!"[{supi}] {access.text} GMM state {old.text} -> {new.text}"
  | attached supi access key ngapId =>
    s!"[{supi}] {access.text} attached RanUe[RAN_UE_NGAP_ID:{key} AMF_UE_NGAP_ID:{ngapId}]"
  | attachmentReplaced supi access oldNgapId newNgapId =>
    s!"[{supi}] {access.text} RanUe[AMF_UE_NGAP_ID:{oldNgapId}] "
      ++ s!"replaced by [AMF_UE_NGAP_ID:{newNgapId}]"
  | detached supi access ngapId =>
    s!"[{supi}] {access.text} detached RanUe[AMF_UE_NGAP_ID:{ngapId}]"
  | nodeLimitReached limit => s!"Maximum number of gNBs [{limit}] reached"
  | nodeAdded connection id => s!"[{connection.text}] AmfRan added (id={id})"
  | nodeReplaced connection oldId newId =>
    s!"[{connection.text}] AmfRan replaced (old id={oldId}, new id={newId})"
  | nodeRemoved name id => s!"[{name}] AmfRan removed (id={id})"
  | nodeGone connection id => s!"[{connection.text}] AmfRan already removed (id={id})"
  | nodeLost connection ngapId =>
    s!"[{connection.text}] AmfRan removed while adding RanUe[AMF_UE_NGAP_ID:{ngapId}]"
  | removingRanUes name count withUes =>
    s!"[{name}] Removing {count} RanUe (remove_amf_ue={withUes})"
  | nodeFault name error => s!"[{name}] {error.message}"
  | ranUesAddedMeanwhile name count => s!"[{name}] {count} RanUe added during removal"
  | ranUeLimitReached name limit => s!"[{name}] Maximum number of RAN UEs [{limit}] reached"
  | ranUeAdded name key ngapId =>
    s!"[{name}] RanUe added [RAN_UE_NGAP_ID:{key} AMF_UE_NGAP_ID:{ngapId}]"
  | ranUeRemoved key ngapId => s!"RanUe removed [RAN_UE_NGAP_ID:{key} AMF_UE_NGAP_ID:{ngapId}]"
  | ranUeWithoutNode ngapId => s!"RanUe[AMF_UE_NGAP_ID:{ngapId}] has no AmfRan"
  | keyReused name key ngapId =>
    s!"[{name}] RAN_UE_NGAP_ID:{key} reused, removing RanUe[AMF_UE_NGAP_ID:{ngapId}]"
  | keyTakenOver name key ngapId =>
    s!"[{name}] RAN_UE_NGAP_ID:{key} taken over, removing RanUe[AMF_UE_NGAP_ID:{ngapId}]"
  | releaseFailed error => error.message
  | switched ngapId oldName oldKey newName newKey =>
    s!"RanUe[AMF_UE_NGAP_ID:{ngapId}] switched [{oldName}] RAN_UE_NGAP_ID:{oldKey} "
      ++ s!"-> [{newName}] RAN_UE_NGAP_ID:{newKey}"
  | shortPlmn octets => s!"Short PLMN identity [{Hex.encode octets}], padding"
  | invalidTimestamp octets => s!"Invalid TimeStamp [{Hex.encode octets}]"
  | unsupportedAddress octets bitLength =>
    s!"Unsupported transport layer address [{Hex.encode octets}] ({bitLength.toNat} bits)"
  | noServedTai => "No served TAI for N3IWF user location"
  | located ngapId plmnId tac =>
    s!"RanUe[AMF_UE_NGAP_ID:{ngapId}] location [{plmnId.text}:{tac}]"
  | tacChanged supi old new => s!"[{supi}] TAC changed [{old}] -> [{new}]"
  | subscriptionAdded id ues anyUe =>
    s!"Event subscription [{id}] added ({ues} UE, any_ue={anyUe})"
  | subscriptionDeleted id => s!"Event subscription [{id}] deleted"

/-- The level and the message. -/
def text (record : LogRecord) : String :=
  record.level.text ++ " " ++ record.message

end LogRecord

end AccessMobility
