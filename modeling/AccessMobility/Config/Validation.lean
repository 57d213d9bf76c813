import AccessMobility.Config.Basic

/-!
# Validation of configurations

The first fault found is reported: served identities in their order, then tracking areas, then
identifier ranges, then pool limits.
-/

namespace AccessMobility

/-- Why a configuration is refused. -/
inductive ConfigFault where
  | noServedGuami
  | invalidMcc (mcc : String)
  | invalidMnc (mnc : String)
  | invalidAmfId (amfId : String)
  | invalidRange (name : String) (range : IdRange)
  | tmsiRangeTooLarge (max : Int64)
  | zeroLimit
  deriving DecidableEq

namespace ConfigFault

/-- The cause, without saying that it is a fault of validation. -/
def cause : ConfigFault → String
  | noServedGuami => "No served GUAMI"
  | invalidMcc mcc => s!"Invalid MCC [{mcc}]"
  | invalidMnc mnc => s!"Invalid MNC [{mnc}]"
  | invalidAmfId amfId => s!"Invalid AMF ID [{amfId}]"
  | invalidRange name range => s!"Invalid {name} range [{range.min.toInt}..{range.max.toInt}]"
  | tmsiRangeTooLarge max => s!"TMSI range upper bound {max.toInt} exceeds {Tmsi.largest}"
  | zeroLimit => "Pool limits must be non-zero"

def message (fault : ConfigFault) : String :=
  "Configuration validation error: " ++ fault.cause

end ConfigFault

namespace PlmnId

/-- Three decimal digits, and two or three decimal digits. -/
def validate (plmn : PlmnId) : Except ConfigFault Unit :=
  if ¬(plmn.mcc.utf8ByteSize = 3 ∧ AllDigits plmn.mcc) then
    .error (.invalidMcc plmn.mcc)
  else if ¬(2 ≤ plmn.mnc.utf8ByteSize ∧ plmn.mnc.utf8ByteSize ≤ 3 ∧ AllDigits plmn.mnc) then
    .error (.invalidMnc plmn.mnc)
  else
    .ok ()

end PlmnId

namespace Guami

def validate (guami : Guami) : Except ConfigFault Unit := do
  guami.plmnId.validate
  if guami.amfId.utf8ByteSize ≠ 6 ∨ (Hex.decode? guami.amfId).isNone then
    throw (.invalidAmfId guami.amfId)

end Guami

namespace IdRange

/-- The bounds are in order and not negative. -/
def validate (range : IdRange) (name : String) : Except ConfigFault Unit :=
  if range.max < range.min ∨ range.min < 0 then
    .error (.invalidRange name range)
  else
    .ok ()

end IdRange

namespace Config

/-- Check a list in order, stopping at the first fault. -/
def validateAll (check : α → Except ConfigFault Unit) : List α → Except ConfigFault Unit
  | [] => .ok ()
  | item :: rest =>
    match check item with
    | .ok _ => validateAll check rest
    | .error fault => .error fault

def validate (config : Config) : Except ConfigFault Unit := do
  if config.servedGuamis = [] then
    throw .noServedGuami
  validateAll Guami.validate config.servedGuamis
  validateAll (fun tai => tai.plmnId.validate) config.supportedTais
  config.tmsis.validate "tmsi"
  config.ngapIds.validate "amf_ue_ngap_id"
  if Tmsi.largest < config.tmsis.max.toInt then
    throw (.tmsiRangeTooLarge config.tmsis.max)
  if config.limits.radioNodes = 0 ∨ config.limits.ranUesPerNode = 0 then
    throw .zeroLimit

end Config

end AccessMobility
