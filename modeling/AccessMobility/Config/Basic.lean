import AccessMobility.Identity.Form

/-!
# Configuration of an AMF

Served identities, pool limits and identifier ranges.  Every part has a default, so an empty
document is a configuration.
-/

namespace AccessMobility

open Document

/-- Limits of the pools. -/
structure PoolLimits where
  radioNodes : UInt64
  ues : UInt64
  ranUesPerNode : UInt64
  deriving DecidableEq

/-- A closed range of identifiers. -/
structure IdRange where
  min : Int64
  max : Int64
  deriving DecidableEq

structure Config where
  amfName : Option String
  servedGuamis : List Guami
  supportedTais : List Tai
  supportedPlmns : List PlmnSnssai
  limits : PoolLimits
  /-- The range of 5G-TMSIs. -/
  tmsis : IdRange
  /-- The range of AMF UE NGAP ids. -/
  ngapIds : IdRange
  deriving DecidableEq

namespace PoolLimits

def standard : PoolLimits :=
  { radioNodes := 64, ues := 1024, ranUesPerNode := 65536 }

instance : Inhabited PoolLimits := ⟨standard⟩

def toJson (limits : PoolLimits) : Json :=
  .object [("gnb", .integer limits.radioNodes.toNat), ("ue", .integer limits.ues.toNat),
    ("ran_ue_per_ran", .integer limits.ranUesPerNode.toNat)]

def read [Document ν] (value : ν) : Option PoolLimits := do
  let record ← record? ["gnb", "ue", "ran_ue_per_ran"] value
  let radioNodes ← record.withDefault "gnb" standard.radioNodes uint64?
  let ues ← record.withDefault "ue" standard.ues uint64?
  let ranUesPerNode ← record.withDefault "ran_ue_per_ran" standard.ranUesPerNode uint64?
  return { radioNodes, ues, ranUesPerNode }

end PoolLimits

namespace IdRange

def toJson (range : IdRange) : Json :=
  .object [("min", .integer range.min.toInt), ("max", .integer range.max.toInt)]

def read [Document ν] (value : ν) : Option IdRange := do
  let record ← record? ["min", "max"] value
  let min ← record.required "min" int64?
  let max ← record.required "max" int64?
  return { min, max }

end IdRange

namespace Config

/-- The PLMN of the test network, served by default. -/
def testPlmn : PlmnId := { mcc := "001", mnc := "01" }

def standard : Config :=
  { amfName := none
    servedGuamis := [{ plmnId := testPlmn, amfId := "cafe00" }]
    supportedTais := [{ plmnId := testPlmn, tac := "000001" }]
    supportedPlmns := [{ plmnId := testPlmn, slices := [] }]
    limits := PoolLimits.standard
    tmsis := { min := 1, max := 2147483647 }
    ngapIds := { min := 1, max := 1099511627775 } }

instance : Inhabited Config := ⟨standard⟩

def toJson (config : Config) : Json :=
  .object [("amf_name", Json.nullable .string config.amfName),
    ("served_guami", Json.listOf Guami.toJson config.servedGuamis),
    ("support_tai_list", Json.listOf Tai.toJson config.supportedTais),
    ("plmn_support_list", Json.listOf PlmnSnssai.toJson config.supportedPlmns),
    ("max", config.limits.toJson),
    ("tmsi", config.tmsis.toJson),
    ("amf_ue_ngap_id", config.ngapIds.toJson)]

def read [Document ν] (value : ν) : Option Config := do
  let record ← record?
    ["amf_name", "served_guami", "support_tai_list", "plmn_support_list", "max", "tmsi",
      "amf_ue_ngap_id"] value
  let amfName ← record.optional "amf_name" text?
  let servedGuamis ←
    record.withDefault "served_guami" standard.servedGuamis (listOf? Guami.read)
  let supportedTais ←
    record.withDefault "support_tai_list" standard.supportedTais (listOf? Tai.read)
  let supportedPlmns ←
    record.withDefault "plmn_support_list" standard.supportedPlmns (listOf? PlmnSnssai.read)
  let limits ← record.withDefault "max" standard.limits PoolLimits.read
  let tmsis ← record.withDefault "tmsi" standard.tmsis IdRange.read
  let ngapIds ← record.withDefault "amf_ue_ngap_id" standard.ngapIds IdRange.read
  return { amfName, servedGuamis, supportedTais, supportedPlmns, limits, tmsis, ngapIds }

end Config

end AccessMobility
