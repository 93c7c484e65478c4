import MetricAlerts.Analysis
import MetricAlerts.Rule
import MetricAlerts.Timestamp

/-! Alerts, how rules and anomalies give rise to them, and their JSON form. -/

namespace MetricAlerts

inductive AlertStatus where
  | firing
  | acknowledged
  | resolved
  deriving DecidableEq, Repr

namespace AlertStatus

def name : AlertStatus → String
  | .firing => "firing"
  | .acknowledged => "acknowledged"
  | .resolved => "resolved"

def ofName? : String → Option AlertStatus
  | "firing" => some .firing
  | "acknowledged" => some .acknowledged
  | "resolved" => some .resolved
  | _ => none

end AlertStatus

structure Alert where
  id : String
  ruleId : String
  ruleName : String
  severity : Severity
  status : AlertStatus
  startsAt : Timestamp
  resolvedAt : Option Timestamp
  acknowledgedAt : Option Timestamp
  resolutionReason : Option String
  value : Option Float
  metrics : Json
  labels : Dict String
  annotations : Dict Json
  source : String
  anomalyDetails : Option Anomaly
  explanation : Option String

namespace Alert

/-- The label with the type of resource that an anomaly was looked for in. -/
def resourceTypeLabel : String := "resourceType"

/-- The annotations of a rule, with its description among them unless it is empty or they have one
already. -/
def ruleAnnotations (rule : Rule) : Dict Json :=
  let own : Dict Json := Dict.ofList (rule.annotations.entries.map fun e => (e.1, .string e.2))
  if rule.description.isEmpty || (own.get? "description").isSome then own
  else own.insert "description" (.string rule.description)

/-- A new alert of a rule. -/
def firing (rule : Rule) (source : String) (severity : Severity) (metrics : Json) (id : String)
    (now : Timestamp) : Alert where
  id := id
  ruleId := rule.id
  ruleName := rule.name
  severity := severity
  status := .firing
  startsAt := now
  resolvedAt := none
  acknowledgedAt := none
  resolutionReason := none
  value := none
  metrics := metrics
  labels := rule.labels
  annotations := ruleAnnotations rule
  source := source
  anomalyDetails := none
  explanation := none

/-- A new alert of a rule whose condition held of `value`. -/
def ofRule (rule : Rule) (source : String) (value : Float) (metrics : Json) (id : String)
    (now : Timestamp) : Alert :=
  { firing rule source rule.severity metrics id now with value := some value }

/-- The labels of an alert for an anomaly: those of the rule, the metric and the resource type. -/
def anomalyLabels (rule : Rule) (anomaly : Anomaly) : Dict String :=
  let labels := match anomaly.metric with
    | some metric => rule.labels.insert "metric" metric
    | none => rule.labels
  match rule.kind with
  | .anomaly (some resourceType) _ => labels.insert resourceTypeLabel resourceType
  | _ => labels

/-- A new alert for an anomaly that was found on behalf of a rule. -/
def ofAnomaly (rule : Rule) (source : String) (anomaly : Anomaly) (metrics : Json) (id : String)
    (now : Timestamp) : Alert :=
  { firing rule source anomaly.severity metrics id now with
    value := anomaly.value
    explanation := some anomaly.description
    anomalyDetails := some anomaly
    labels := anomalyLabels rule anomaly }

/-- What the alert is about: its explanation, or the annotation `summary` or else `description` if
that is a string, or the name of its rule. -/
def subject (a : Alert) : String :=
  let annotation := (a.annotations.get? "summary").orElse fun _ => a.annotations.get? "description"
  match a.explanation, annotation.bind Json.string? with
  | some text, _ => text
  | none, some text => text
  | none, none => "Rule '" ++ a.ruleName ++ "' triggered"

def valueText (x : Float) : String := String.ofList (Number.twoPlaces x)

/-- One line about the alert. -/
def summary (a : Alert) : String :=
  match a.value with
  | some value => a.subject ++ " (value: " ++ valueText value ++ ")"
  | none => a.subject

/-- The members of the JSON form. Neither a value nor metrics are left out where there are none. -/
def members (a : Alert) : List (String × Json) :=
  [("id", .string a.id), ("ruleId", .string a.ruleId), ("ruleName", .string a.ruleName),
    ("severity", a.severity.toJson), ("status", .string a.status.name),
    ("startsAt", a.startsAt.toJson), ("value", (a.value.map Json.ofFloat).getD .null),
    ("metrics", a.metrics), ("labels", Json.ofStrings a.labels),
    ("annotations", Json.ofDict a.annotations), ("source", .string a.source)] ++
  Json.optional "resolvedAt" (a.resolvedAt.map Timestamp.toJson) ++
  Json.optional "acknowledgedAt" (a.acknowledgedAt.map Timestamp.toJson) ++
  Json.optional "resolutionReason" (a.resolutionReason.map .string) ++
  Json.optional "anomalyDetails" (a.anomalyDetails.map Anomaly.toJson) ++
  Json.optional "explanation" (a.explanation.map .string)

def toJson (a : Alert) : Json := Json.ofMembers a.members

def fields : List String :=
  ["id", "ruleId", "ruleName", "severity", "status", "startsAt", "resolvedAt", "acknowledgedAt",
    "resolutionReason", "value", "metrics", "labels", "annotations", "source", "anomalyDetails",
    "explanation"]

def read? (d : Document) : Option Alert := do
  let r ← Record.read? fields [("timestamp", "startsAt")] d
  let id ← r.required "id" Document.string?
  let ruleId ← r.required "ruleId" Document.string?
  let ruleName ← r.required "ruleName" Document.string?
  let severity ← r.required "severity" Severity.read?
  let status ← r.required "status" (Document.choice? AlertStatus.ofName?)
  let startsAt ← r.required "startsAt" Timestamp.read?
  let resolvedAt ← r.optional "resolvedAt" Timestamp.read?
  let acknowledgedAt ← r.optional "acknowledgedAt" Timestamp.read?
  let resolutionReason ← r.optional "resolutionReason" Document.string?
  let value ← r.optional "value" Document.float?
  let metrics ← r.withDefault "metrics" Document.toJson? .null
  let labels ← r.withDefault "labels" (Document.dictWith? Document.string?) .empty
  let annotations ← r.withDefault "annotations" (Document.dictWith? Document.toJson?) .empty
  let source ← r.required "source" Document.string?
  let anomalyDetails ← r.optional "anomalyDetails" Anomaly.read?
  let explanation ← r.optional "explanation" Document.string?
  return { id, ruleId, ruleName, severity, status, startsAt, resolvedAt, acknowledgedAt,
           resolutionReason, value, metrics, labels, annotations, source, anomalyDetails,
           explanation }

end Alert

/-- Metrics that a collector delivers from one source. -/
structure Snapshot where
  source : String
  metrics : Json
  collectedAt : Timestamp

/-- A snapshot; without a time of its own it is as of `now`. -/
def Snapshot.read? (now : Timestamp) (d : Document) : Option Snapshot := do
  let r ← Record.read? ["source", "metrics", "collectedAt"] [] d
  let source ← r.required "source" Document.string?
  let metrics ← r.required "metrics" Document.toJson?
  let collectedAt ← r.withDefault "collectedAt" Timestamp.read? now
  return { source, metrics, collectedAt }

end MetricAlerts
