import AccessMobility.Document

/-!
# Access and mobility policy associations

The policies in force for a UE, together with the events on which the AMF asks for new ones.
-/

namespace AccessMobility

open Document

/-- What makes the AMF ask for new policies. -/
inductive RequestTrigger where
  | locationChange
  | presenceAreaChange
  | serviceAreaChange
  | rfspChange
  | allowedNssaiChange
  | ueAmbrChange
  deriving DecidableEq

namespace RequestTrigger

def all : List RequestTrigger :=
  [locationChange, presenceAreaChange, serviceAreaChange, rfspChange, allowedNssaiChange,
    ueAmbrChange]

def text : RequestTrigger → String
  | locationChange => "LOC_CH"
  | presenceAreaChange => "PRA_CH"
  | serviceAreaChange => "SERV_AREA_CH"
  | rfspChange => "RFSP_CH"
  | allowedNssaiChange => "ALLOWED_NSSAI_CH"
  | ueAmbrChange => "UE_AMBR_CH"

def toJson (trigger : RequestTrigger) : Json :=
  .string trigger.text

def ofJson? (json : Json) : Option RequestTrigger :=
  json.variant?.bind fun name => all.find? fun trigger => trigger.text = name

end RequestTrigger

/-- A policy association as the policy control function returned it. -/
structure PolicyAssociation where
  triggers : List RequestTrigger
  rfsp : Option Int32
  serviceAreaRestricted : Bool
  supportedFeatures : String
  deriving DecidableEq, Inhabited

namespace PolicyAssociation

def toJson (policy : PolicyAssociation) : Json :=
  .object ([("triggers", Json.listOf RequestTrigger.toJson policy.triggers)]
    ++ Json.optional "rfsp" (fun rfsp => .integer rfsp.toInt) policy.rfsp
    ++ [("servAreaRes", .bool policy.serviceAreaRestricted),
      ("suppFeat", .string policy.supportedFeatures)])

def ofJson? (json : Json) : Option PolicyAssociation := do
  let record ← record? ["triggers", "rfsp", "servAreaRes", "suppFeat"] json
  let triggers ← record.withDefault "triggers" [] (listOf? RequestTrigger.ofJson?)
  let rfsp ← record.optional "rfsp" int32?
  let serviceAreaRestricted ← record.withDefault "servAreaRes" false Json.bool?
  let supportedFeatures ← record.withDefault "suppFeat" "" text?
  return { triggers, rfsp, serviceAreaRestricted, supportedFeatures }

end PolicyAssociation

end AccessMobility
