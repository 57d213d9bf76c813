import AccessMobility.Instant

/-!
# Event subscriptions

A consumer subscribes to events of one UE, of a group or of any UE.  The registry keeps an entry
for each subscription, and every UE it names keeps one of its own with the reports left for it.
-/

namespace AccessMobility

open Document

/-- What is reported about a UE. -/
inductive ReportKind where
  | location
  | presenceInArea
  | timezone
  | accessType
  | registrationState
  | connectivityState
  | reachability
  | communicationFailure
  | uesInArea
  | subscriptionIdChange
  | subscriptionIdAddition
  | lossOfConnectivity
  deriving DecidableEq

namespace ReportKind

def all : List ReportKind :=
  [location, presenceInArea, timezone, accessType, registrationState, connectivityState,
    reachability, communicationFailure, uesInArea, subscriptionIdChange, subscriptionIdAddition,
    lossOfConnectivity]

def text : ReportKind → String
  | location => "LOCATION_REPORT"
  | presenceInArea => "PRESENCE_IN_AOI_REPORT"
  | timezone => "TIMEZONE_REPORT"
  | accessType => "ACCESS_TYPE_REPORT"
  | registrationState => "REGISTRATION_STATE_REPORT"
  | connectivityState => "CONNECTIVITY_STATE_REPORT"
  | reachability => "REACHABILITY_REPORT"
  | communicationFailure => "COMMUNICATION_FAILURE_REPORT"
  | uesInArea => "UES_IN_AREA_REPORT"
  | subscriptionIdChange => "SUBSCRIPTION_ID_CHANGE"
  | subscriptionIdAddition => "SUBSCRIPTION_ID_ADDITION"
  | lossOfConnectivity => "LOSS_OF_CONNECTIVITY"

def toJson (kind : ReportKind) : Json :=
  .string kind.text

def ofJson? (json : Json) : Option ReportKind :=
  json.variant?.bind fun name => all.find? fun kind => kind.text = name

end ReportKind

/-- When a report is sent. -/
inductive ReportTrigger where
  | oneTime
  | continuous
  | periodic
  deriving DecidableEq

namespace ReportTrigger

def all : List ReportTrigger := [oneTime, continuous, periodic]

def text : ReportTrigger → String
  | oneTime => "ONE_TIME"
  | continuous => "CONTINUOUS"
  | periodic => "PERIODIC"

def toJson (trigger : ReportTrigger) : Json :=
  .string trigger.text

def ofJson? (json : Json) : Option ReportTrigger :=
  json.variant?.bind fun name => all.find? fun trigger => trigger.text = name

end ReportTrigger

/-- A subscribed event. -/
structure SubscribedEvent where
  kind : ReportKind
  immediate : Bool
  deriving DecidableEq

namespace SubscribedEvent

def toJson (event : SubscribedEvent) : Json :=
  .object [("type", event.kind.toJson), ("immediateFlag", .bool event.immediate)]

def ofJson? (json : Json) : Option SubscribedEvent := do
  let record ← record? ["type", "immediateFlag"] json
  let kind ← record.required "type" ReportKind.ofJson?
  let immediate ← record.withDefault "immediateFlag" false Json.bool?
  return { kind, immediate }

end SubscribedEvent

/-- How often events are reported. -/
structure ReportMode where
  trigger : ReportTrigger
  maxReports : Option Int32
  deriving DecidableEq

namespace ReportMode

def toJson (mode : ReportMode) : Json :=
  .object ([("trigger", mode.trigger.toJson)]
    ++ Json.optional "maxReports" (fun count => .integer count.toInt) mode.maxReports)

def ofJson? (json : Json) : Option ReportMode := do
  let record ← record? ["trigger", "maxReports"] json
  let trigger ← record.required "trigger" ReportTrigger.ofJson?
  let maxReports ← record.optional "maxReports" int32?
  return { trigger, maxReports }

end ReportMode

/-- A subscription as its consumer sent it. -/
structure Subscription where
  events : List SubscribedEvent
  notifyUri : String
  correlationId : String
  nfId : String
  supi : Option String
  groupId : Option String
  anyUe : Bool
  mode : Option ReportMode
  deriving DecidableEq, Inhabited

namespace Subscription

def toJson (subscription : Subscription) : Json :=
  .object ([("eventList", Json.listOf SubscribedEvent.toJson subscription.events),
      ("eventNotifyUri", .string subscription.notifyUri),
      ("notifyCorrelationId", .string subscription.correlationId),
      ("nfId", .string subscription.nfId)]
    ++ Json.optional "supi" .string subscription.supi
    ++ Json.optional "groupId" .string subscription.groupId
    ++ [("anyUE", .bool subscription.anyUe)]
    ++ Json.optional "options" ReportMode.toJson subscription.mode)

def ofJson? (json : Json) : Option Subscription := do
  let record ← record?
    ["eventList", "eventNotifyUri", "notifyCorrelationId", "nfId", "supi", "groupId", "anyUE",
      "options"] json
  let events ← record.required "eventList" (listOf? SubscribedEvent.ofJson?)
  let notifyUri ← record.required "eventNotifyUri" text?
  let correlationId ← record.required "notifyCorrelationId" text?
  let nfId ← record.required "nfId" text?
  let supi ← record.optional "supi" text?
  let groupId ← record.optional "groupId" text?
  let anyUe ← record.withDefault "anyUE" false Json.bool?
  let mode ← record.optional "options" ReportMode.ofJson?
  return { events, notifyUri, correlationId, nfId, supi, groupId, anyUe, mode }

end Subscription

/-- What the registry keeps of a subscription. -/
structure SubscriptionEntry where
  anyUe : Bool
  groupUe : Bool
  /-- The UEs the subscription applies to. -/
  supis : List String
  /-- Advisory: an entry is never dropped on its own. -/
  expiry : Option Instant
  subscription : Subscription
  deriving DecidableEq

namespace SubscriptionEntry

/-- The list of UEs starts with the one the subscription names. -/
def new (subscription : Subscription) (expiry : Option Instant) : SubscriptionEntry :=
  { anyUe := subscription.anyUe
    groupUe := subscription.groupId.isSome
    supis := subscription.supi.toList
    expiry
    subscription }

/-- An entry without an expiry never expires. -/
def Expired (entry : SubscriptionEntry) (now : Instant) : Prop :=
  ∃ expiry ∈ entry.expiry, expiry.NotAfter now

instance (entry : SubscriptionEntry) (now : Instant) : Decidable (entry.Expired now) :=
  match h : entry.expiry with
  | none => .isFalse (by simp [Expired, h])
  | some expiry => decidable_of_iff (expiry.NotAfter now) (by simp [Expired, h])

end SubscriptionEntry

/-- What a UE keeps of a subscription that names it. -/
structure UeSubscription where
  since : Instant
  anyUe : Bool
  /-- The reports left; without a limit there is no number. -/
  remaining : Option Int32
  subscription : Subscription
  deriving DecidableEq

def UeSubscription.new (subscription : Subscription) (now : Instant) : UeSubscription :=
  { since := now
    anyUe := subscription.anyUe
    remaining := subscription.mode.bind ReportMode.maxReports
    subscription }

end AccessMobility
