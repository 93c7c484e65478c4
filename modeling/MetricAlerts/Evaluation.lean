import MetricAlerts.Alert
import MetricAlerts.Query.Resolve
import MetricAlerts.Text.LowerCase

/-! What a rule does with a snapshot, and the report about all rules. -/

namespace MetricAlerts

inductive EvaluationError where
  | nonFiniteThreshold (ruleId : String)
  | nonObjectSnapshot (ruleId resourceType : String)
  deriving DecidableEq, Repr

def EvaluationError.message : EvaluationError → String
  | .nonFiniteThreshold ruleId => "Rule '" ++ ruleId ++ "' has a non-finite threshold"
  | .nonObjectSnapshot ruleId resourceType =>
    "Rule '" ++ ruleId ++ "' needs an object snapshot to select '" ++ resourceType ++ "' metrics"

inductive RuleOutcome where
  | fired (count : Nat)
  | resolved
  | unchanged
  /-- The query addresses no number. -/
  | skipped
  /-- Rules of this type do nothing. -/
  | notEvaluated
  /-- Left to the detection of anomalies in the background. -/
  | deferred
  deriving DecidableEq, Repr

structure EvaluationReport where
  source : String
  evaluated : Nat
  fired : Nat
  resolved : Nat
  skipped : Nat
  failed : Nat
  deferred : Nat
  deriving DecidableEq, Repr

namespace EvaluationReport

def start (source : String) (evaluated : Nat) : EvaluationReport where
  source := source
  evaluated := evaluated
  fired := 0
  resolved := 0
  skipped := 0
  failed := 0
  deferred := 0

/-- The report with the outcome of one more rule. -/
def count (r : EvaluationReport) : Except EvaluationError RuleOutcome → EvaluationReport
  | .ok (.fired n) => { r with fired := r.fired + n }
  | .ok .resolved => { r with resolved := r.resolved + 1 }
  | .ok .skipped => { r with skipped := r.skipped + 1 }
  | .ok .notEvaluated => { r with skipped := r.skipped + 1 }
  | .ok .deferred => { r with deferred := r.deferred + 1 }
  | .ok .unchanged => r
  | .error _ => { r with failed := r.failed + 1 }

def toJson (r : EvaluationReport) : Json :=
  let number (n : Nat) : Json := .int n
  Json.ofMembers
    [("source", .string r.source), ("evaluated", number r.evaluated), ("fired", number r.fired),
      ("resolved", number r.resolved), ("skipped", number r.skipped), ("failed", number r.failed),
      ("deferred", number r.deferred)]

end EvaluationReport

/-- An anomaly rule with the metrics in which it looks for anomalies. -/
structure AnomalyCheck where
  rule : Rule
  resourceType : Option String
  minSeverity : Severity
  subset : Json

namespace AnomalyCheck

/-- The type of resource that stands for the whole snapshot. -/
def generalResource : String := "general"

/-- The type of resource in lower case, if it stands for a part of the snapshot. -/
def narrowType? (resourceType : Option String) : Option (List Char) :=
  resourceType.bind fun name =>
    let ascii := name.toList.map Number.asciiLower
    if name.isEmpty || ascii == generalResource.toList then none
    else some (Text.lowerCase name.toList)

/-- The metrics whose names hold the type of resource, or the whole snapshot where none is given. -/
def selectMetrics (ruleId : String) (metrics : Json) (resourceType : Option String) :
    Except EvaluationError Json :=
  match narrowType? resourceType with
  | none => .ok metrics
  | some wanted =>
    match metrics with
    | .object members =>
      .ok (.object (members.filter fun m => Text.contains wanted (Text.lowerCase m.1.toList)))
    | _ => .error (.nonObjectSnapshot ruleId (String.ofList wanted))

/-- What an anomaly rule has to look at; nothing for other rules. -/
def ofRule? (rule : Rule) (metrics : Json) : Option (Except EvaluationError AnomalyCheck) :=
  match rule.kind with
  | .anomaly resourceType minSeverity =>
    some ((selectMetrics rule.id metrics resourceType).map fun subset =>
      { rule, resourceType, minSeverity, subset })
  | _ => none

/-- The anomalies of an answer that are severe enough for the rule. -/
def qualifying (c : AnomalyCheck) (answer : Explanation) : List Anomaly :=
  answer.anomalies.filter fun a => c.minSeverity ≤ a.severity

end AnomalyCheck

end MetricAlerts
