import MetricAlerts.Severity
import MetricAlerts.Json.Printer

/-! What an analyzer answers: anomalies in metrics, recommendations and correlations for an alert,
and patterns in the history of alerts. -/

namespace MetricAlerts

/-- An unusual metric. -/
structure Anomaly where
  metric : Option String
  value : Option Float
  severity : Severity
  description : String
  confidence : Option Float
  deriving DecidableEq, Inhabited

namespace Anomaly

def toJson (a : Anomaly) : Json :=
  Json.ofMembers <|
    Json.optional "metric" (a.metric.map .string) ++
    Json.optional "value" (a.value.map Json.ofFloat) ++
    [("severity", a.severity.toJson), ("description", .string a.description)] ++
    Json.optional "confidence" (a.confidence.map Json.ofFloat)

def read? (d : Document) : Option Anomaly := do
  let r ← Record.read? ["metric", "value", "severity", "description", "confidence"] [] d
  let metric ← r.optional "metric" Document.string?
  let value ← r.optional "value" Document.float?
  let severity ← r.withDefault "severity" Severity.read? default
  let description ← r.withDefault "description" Document.string? ""
  let confidence ← r.optional "confidence" Document.float?
  return { metric, value, severity, description, confidence }

end Anomaly

/-- The anomalies found in one set of metrics. -/
structure Explanation where
  anomalies : List Anomaly
  explanation : String
  severity : Option Severity
  deriving DecidableEq, Inhabited

namespace Explanation

/-- Nothing found. -/
def neutral : Explanation := ⟨[], "", none⟩

def toJson (e : Explanation) : Json :=
  Json.ofMembers <|
    [("anomalies", .array (e.anomalies.map Anomaly.toJson)),
      ("explanation", .string e.explanation)] ++
    Json.optional "severity" (e.severity.map Severity.toJson)

def read? (d : Document) : Option Explanation := do
  let r ← Record.read? ["anomalies", "explanation", "severity"] [] d
  let anomalies ← r.withDefault "anomalies" (Document.listWith? Anomaly.read?) []
  let explanation ← r.withDefault "explanation" Document.string? ""
  let severity ← r.optional "severity" Severity.read?
  return { anomalies, explanation, severity }

end Explanation

/-- Something to do about an alert. -/
structure Recommendation where
  action : String
  priority : Option String
  rationale : Option String
  deriving DecidableEq, Inhabited

namespace Recommendation

def toJson (x : Recommendation) : Json :=
  Json.ofMembers <|
    ("action", .string x.action) ::
    (Json.optional "priority" (x.priority.map .string) ++
      Json.optional "rationale" (x.rationale.map .string))

def read? (d : Document) : Option Recommendation := do
  let r ← Record.read? ["action", "priority", "rationale"] [] d
  let action ← r.withDefault "action" Document.string? ""
  let priority ← r.optional "priority" Document.string?
  let rationale ← r.optional "rationale" Document.string?
  return { action, priority, rationale }

end Recommendation

structure Recommendations where
  recommendations : List Recommendation
  deriving DecidableEq, Inhabited

namespace Recommendations

/-- Nothing to recommend. -/
def neutral : Recommendations := ⟨[]⟩

def toJson (x : Recommendations) : Json :=
  .object [("recommendations", .array (x.recommendations.map Recommendation.toJson))]

def read? (d : Document) : Option Recommendations := do
  let r ← Record.read? ["recommendations"] [] d
  let recommendations ←
    r.withDefault "recommendations" (Document.listWith? Recommendation.read?) []
  return { recommendations }

end Recommendations

/-- A metric that moved together with the one of an alert. -/
structure Correlation where
  metric : String
  coefficient : Option Float
  description : String
  deriving DecidableEq, Inhabited

namespace Correlation

def toJson (x : Correlation) : Json :=
  Json.ofMembers <|
    [("metric", .string x.metric), ("description", .string x.description)] ++
    Json.optional "coefficient" (x.coefficient.map Json.ofFloat)

def read? (d : Document) : Option Correlation := do
  let r ← Record.read? ["metric", "coefficient", "description"] [] d
  let metric ← r.withDefault "metric" Document.string? ""
  let coefficient ← r.optional "coefficient" Document.float?
  let description ← r.withDefault "description" Document.string? ""
  return { metric, coefficient, description }

end Correlation

structure Correlations where
  correlations : List Correlation
  deriving DecidableEq, Inhabited

namespace Correlations

/-- No correlation known. -/
def neutral : Correlations := ⟨[]⟩

def toJson (x : Correlations) : Json :=
  .object [("correlations", .array (x.correlations.map Correlation.toJson))]

def read? (d : Document) : Option Correlations := do
  let r ← Record.read? ["correlations"] [] d
  let correlations ← r.withDefault "correlations" (Document.listWith? Correlation.read?) []
  return { correlations }

end Correlations

/-- Alerts that occur together or again and again. -/
structure AlertPattern where
  description : String
  frequency : Option Nat
  ruleIds : List String
  deriving DecidableEq, Inhabited

namespace AlertPattern

def toJson (x : AlertPattern) : Json :=
  Json.ofMembers <|
    [("description", .string x.description), ("ruleIds", .array (x.ruleIds.map .string))] ++
    Json.optional "frequency" (x.frequency.map fun n => .int n)

def read? (d : Document) : Option AlertPattern := do
  let r ← Record.read? ["description", "frequency", "ruleIds"] [] d
  let description ← r.withDefault "description" Document.string? ""
  let frequency ← r.optional "frequency" (Document.nat? UInt64.size)
  let ruleIds ← r.withDefault "ruleIds" (Document.listWith? Document.string?) []
  return { description, frequency, ruleIds }

end AlertPattern

structure PatternAnalysis where
  patterns : List AlertPattern
  insights : List String
  deriving DecidableEq, Inhabited

namespace PatternAnalysis

/-- Nothing noticed. -/
def neutral : PatternAnalysis := ⟨[], []⟩

def isEmpty (x : PatternAnalysis) : Bool := x.patterns.isEmpty && x.insights.isEmpty

def toJson (x : PatternAnalysis) : Json :=
  .object [("insights", .array (x.insights.map .string)),
    ("patterns", .array (x.patterns.map AlertPattern.toJson))]

def read? (d : Document) : Option PatternAnalysis := do
  let r ← Record.read? ["patterns", "insights"] [] d
  let patterns ← r.withDefault "patterns" (Document.listWith? AlertPattern.read?) []
  let insights ← r.withDefault "insights" (Document.listWith? Document.string?) []
  return { patterns, insights }

end PatternAnalysis

end MetricAlerts
