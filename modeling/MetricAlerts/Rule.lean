import MetricAlerts.Comparison
import MetricAlerts.Severity
import MetricAlerts.Query.Parser

/-! Alert rules and their JSON form, in which the members that depend on the type stand beside the
others. -/

namespace MetricAlerts

/-- A query with the comparison that its number must pass. -/
structure Condition where
  query : Query
  comparison : Comparison
  threshold : Float
  deriving DecidableEq

inductive RuleKind where
  | threshold (condition : Condition)
  /-- Accepted but never evaluated. -/
  | rateOfChange (condition : Condition)
  | anomaly (resourceType : Option String) (minSeverity : Severity)
  deriving DecidableEq

structure Rule where
  id : String
  name : String
  description : String
  source : String
  severity : Severity
  enabled : Bool
  labels : Dict String
  annotations : Dict String
  kind : RuleKind
  deriving DecidableEq

namespace RuleKind

def typeName : RuleKind → String
  | .threshold _ => "threshold"
  | .rateOfChange _ => "rate_of_change"
  | .anomaly _ _ => "ai_anomaly"

end RuleKind

namespace Rule

/-- The source that stands for every source. -/
def allSources : String := "all"

/-- Whether the rule looks at snapshots of a source. -/
def appliesTo (r : Rule) (source : String) : Bool :=
  r.enabled && (r.source == source || r.source == allSources)

/-- Whether the rule has at most one active alert, which is kept under the rule's id. -/
def isKeyedByRule (r : Rule) : Bool :=
  match r.kind with
  | .anomaly _ _ => false
  | _ => true

def conditionMembers (c : Condition) : List (String × Json) :=
  [("query", c.query.toJson), ("condition", c.comparison.toJson),
    ("threshold", Json.ofFloat c.threshold)]

def kindMembers : RuleKind → List (String × Json)
  | .threshold c => conditionMembers c
  | .rateOfChange c => conditionMembers c
  | .anomaly resourceType minSeverity =>
    Json.optional "resourceType" (resourceType.map .string) ++
      [("minSeverity", minSeverity.toJson)]

def toJson (r : Rule) : Json :=
  Json.ofMembers <|
    [("id", .string r.id), ("name", .string r.name), ("description", .string r.description),
      ("source", .string r.source), ("severity", r.severity.toJson), ("enabled", .bool r.enabled),
      ("labels", Json.ofStrings r.labels), ("annotations", Json.ofStrings r.annotations),
      ("type", .string r.kind.typeName)] ++ kindMembers r.kind

/-- The value that a name stands for; nothing in an object may be an empty object here. -/
def looseChoice? {α : Type} (named : String → Option α) : Document → Option α
  | .object [(name, .object [])] => named name
  | d => d.choice? named

def conditionOf? (r : Record) : Option Condition := do
  let query ← r.required "query" Query.read?
  let comparison ← r.required "condition" (looseChoice? Comparison.ofSymbol?)
  let threshold ← r.required "threshold" Document.float?
  return { query, comparison, threshold }

/-- The kind that a type names, by its name or its place among the types. -/
def kindOf? (members : List (String × Document)) : Option RuleKind := do
  let tagged ← Record.read? ["type"] [] (.object members)
  let condition? : Option Condition := do
    conditionOf? (← Record.read? ["query", "condition", "threshold"] [] (.object members))
  let anomaly? : Option RuleKind := do
    let r ← Record.read? ["resourceType", "minSeverity"] [] (.object members)
    let resourceType ← r.optional "resourceType" Document.string?
    let minSeverity ← r.withDefault "minSeverity" (looseChoice? Severity.ofName?) default
    return .anomaly resourceType minSeverity
  match tagged.field? "type" with
  | some (.string "threshold") | some (.int 0) => condition?.map .threshold
  | some (.string "rate_of_change") | some (.int 1) => condition?.map .rateOfChange
  | some (.string "ai_anomaly") | some (.int 2) => anomaly?
  | _ => none

def commonFields : List String :=
  ["id", "name", "description", "source", "severity", "enabled", "labels", "annotations"]

/-- A rule from an object. Members that belong to no rule are passed over, but must be readable. -/
def read? (d : Document) : Option Rule := do
  let members ← d.members?
  let r ← Record.read? commonFields [] d
  let others := members.filter fun m => !commonFields.contains m.1
  let _ ← Document.membersJson? others
  let id ← r.required "id" Document.string?
  let name ← r.required "name" Document.string?
  let description ← r.withDefault "description" Document.string? ""
  let source ← r.withDefault "source" Document.string? allSources
  let severity ← r.withDefault "severity" Severity.read? default
  let enabled ← r.withDefault "enabled" Document.bool? true
  let labels ← r.withDefault "labels" (Document.dictWith? Document.string?) .empty
  let annotations ← r.withDefault "annotations" (Document.dictWith? Document.string?) .empty
  let kind ← kindOf? others
  return { id, name, description, source, severity, enabled, labels, annotations, kind }

/-- What the text of a rule holds. Nothing is said of the members that depend on the type. -/
def form : Json.Form :=
  .object
    [.required "id" .text, .required "name" .text, .withDefault "description" .text,
      .withDefault "source" .text, .withDefault "severity" Severity.form,
      .withDefault "enabled" .bool, .withDefault "labels" (.dict .text),
      .withDefault "annotations" (.dict .text)]
    .anything

end Rule

end MetricAlerts
