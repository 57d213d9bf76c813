import AccessMobility.Registry.State
import AccessMobility.Text.Quoted

/-!
# Summary of a registry

One line that tells operators the name of the AMF and how much its registry holds.
-/

namespace AccessMobility

/-- A name in quotes, or that there is none. -/
def Registry.nameSummary (registry : Registry) : String :=
  match registry.amfName with
  | none => "None"
  | some name => "Some(" ++ Text.quoted name ++ ")"

/-- The name and the sizes of the pools in one line. -/
def Registry.summary (registry : Registry) : String :=
  "AmfContext \x7b amf_name: " ++ registry.nameSummary
    ++ ", amf_ran: " ++ toString registry.nodes.size
    ++ ", ran_ue: " ++ toString registry.ranUes.size
    ++ ", amf_ue: " ++ toString registry.ues.size
    ++ ", event_subscription: " ++ toString registry.subscriptions.size ++ " \x7d"

end AccessMobility
