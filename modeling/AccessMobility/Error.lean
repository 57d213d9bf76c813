/-!
# Errors of the registry

Every refusal names its cause; its wording is fixed here and nowhere else.
-/

namespace AccessMobility

/-- Why an operation of the registry was refused. -/
inductive RegistryError where
  /-- The radio node of a RAN UE cannot be resolved. -/
  | missingNode (ngapId : Nat)
  /-- The RAN UE was removed before. -/
  | ranUeNotFound (ngapId : Nat)
  /-- No such radio node is registered. -/
  | nodeNotFound (node : String)
  | invalidConnection
  | nodeLimitReached (limit : Nat)
  | ranUeLimitReached (node : String) (limit : Nat)
  | ngapIdsExhausted
  | subscriptionNotFound (id : String)
  deriving DecidableEq

def RegistryError.message : RegistryError → String
  | missingNode ngapId => s!"RanUe[AMF-UE-NGAP-ID:{ngapId}] has no Ran reference"
  | ranUeNotFound ngapId => s!"RanUe not found (AMF-UE-NGAP-ID:{ngapId})"
  | nodeNotFound node => s!"AmfRan not found: {node}"
  | invalidConnection => "Invalid connection handle"
  | nodeLimitReached limit => s!"Maximum number of RANs [{limit}] reached"
  | ranUeLimitReached node limit => s!"Maximum number of RAN UEs [{limit}] reached on {node}"
  | ngapIdsExhausted => "AMF UE NGAP ID space exhausted"
  | subscriptionNotFound id => s!"Event subscription not found: {id}"

end AccessMobility
