import AccessMobility.Document
import AccessMobility.Identity.Basic

/-!
# Network identities in documents

How identities are written as JSON, and how they are read from any document format.
-/

namespace AccessMobility

open Document

variable {ν : Type} [Document ν]

namespace PlmnId

def toJson (plmn : PlmnId) : Json :=
  .object [("mcc", .string plmn.mcc), ("mnc", .string plmn.mnc)]

def read (value : ν) : Option PlmnId := do
  let record ← record? ["mcc", "mnc"] value
  let mcc ← record.required "mcc" text?
  let mnc ← record.required "mnc" text?
  return { mcc, mnc }

end PlmnId

namespace Guami

def toJson (guami : Guami) : Json :=
  .object [("plmnId", guami.plmnId.toJson), ("amfId", .string guami.amfId)]

def read (value : ν) : Option Guami := do
  let record ← record? ["plmnId", "amfId"] value
  let plmnId ← record.required "plmnId" PlmnId.read
  let amfId ← record.required "amfId" text?
  return { plmnId, amfId }

end Guami

namespace Tai

def toJson (tai : Tai) : Json :=
  .object [("plmnId", tai.plmnId.toJson), ("tac", .string tai.tac)]

def read (value : ν) : Option Tai := do
  let record ← record? ["plmnId", "tac"] value
  let plmnId ← record.required "plmnId" PlmnId.read
  let tac ← record.required "tac" text?
  return { plmnId, tac }

end Tai

namespace Snssai

def toJson (slice : Snssai) : Json :=
  .object ([("sst", .integer slice.sst.toNat)] ++ Json.optional "sd" .string slice.sd)

def read (value : ν) : Option Snssai := do
  let record ← record? ["sst", "sd"] value
  let sst ← record.required "sst" uint8?
  let sd ← record.optional "sd" text?
  return { sst, sd }

end Snssai

namespace PlmnSnssai

def toJson (support : PlmnSnssai) : Json :=
  .object [("plmnId", support.plmnId.toJson),
    ("sNssaiList", Json.listOf Snssai.toJson support.slices)]

def read (value : ν) : Option PlmnSnssai := do
  let record ← record? ["plmnId", "sNssaiList"] value
  let plmnId ← record.required "plmnId" PlmnId.read
  let slices ← record.withDefault "sNssaiList" [] (listOf? Snssai.read)
  return { plmnId, slices }

end PlmnSnssai

namespace GlobalRanNodeId

def toJson (id : GlobalRanNodeId) : Json :=
  .object ([("plmnId", id.plmnId.toJson)]
    ++ Json.optional "gnbId" .string id.gnbId
    ++ Json.optional "ngEnbId" .string id.ngEnbId
    ++ Json.optional "n3iwfId" .string id.n3iwfId)

def read (value : ν) : Option GlobalRanNodeId := do
  let record ← record? ["plmnId", "gnbId", "ngEnbId", "n3iwfId"] value
  let plmnId ← record.required "plmnId" PlmnId.read
  let gnbId ← record.optional "gnbId" text?
  let ngEnbId ← record.optional "ngEnbId" text?
  let n3iwfId ← record.optional "n3iwfId" text?
  return { plmnId, gnbId, ngEnbId, n3iwfId }

end GlobalRanNodeId

namespace Ncgi

def toJson (cell : Ncgi) : Json :=
  .object [("plmnId", cell.plmnId.toJson), ("nrCellId", .string cell.nrCellId)]

def read (value : ν) : Option Ncgi := do
  let record ← record? ["plmnId", "nrCellId"] value
  let plmnId ← record.required "plmnId" PlmnId.read
  let nrCellId ← record.required "nrCellId" text?
  return { plmnId, nrCellId }

end Ncgi

namespace Ecgi

def toJson (cell : Ecgi) : Json :=
  .object [("plmnId", cell.plmnId.toJson), ("eutraCellId", .string cell.eutraCellId)]

def read (value : ν) : Option Ecgi := do
  let record ← record? ["plmnId", "eutraCellId"] value
  let plmnId ← record.required "plmnId" PlmnId.read
  let eutraCellId ← record.required "eutraCellId" text?
  return { plmnId, eutraCellId }

end Ecgi

namespace AccessType

def toJson (access : AccessType) : Json :=
  .string access.text

def ofJson? (json : Json) : Option AccessType :=
  json.variant?.bind fun name => all.find? fun access => access.text = name

end AccessType

end AccessMobility
