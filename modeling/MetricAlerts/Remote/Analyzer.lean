import MetricAlerts.Json.Parser
import MetricAlerts.Json.Printer
import MetricAlerts.Remote.Network

/-! An analyzer that is a service: every kind of call is posted to a path of its own. -/

namespace MetricAlerts

/-- Why a call of an analyzer has no answer. -/
inductive AnalyzerError where
  | request
  | status (code : Nat)
  | invalidResponse
  | timeout (seconds : Nat)
  deriving DecidableEq, Repr

/-- The wording of a failure, where it is this library's own. -/
def AnalyzerError.message? : AnalyzerError → Option String
  | .status code => some ("Analyzer returned status " ++ String.ofList (Number.intText code))
  | .timeout seconds =>
    some ("Analyzer timed out after " ++ String.ofList (Number.intText seconds) ++ "s")
  | .request => none
  | .invalidResponse => none

structure RemoteAnalyzer where
  endpoint : String
  key : Option String
  model : Option String
  timeoutSecs : Nat

namespace RemoteAnalyzer

/-- The endpoint without slashes at its end. -/
def root (a : RemoteAnalyzer) : String :=
  String.ofList (a.endpoint.toList.reverse.dropWhile (· = '/')).reverse

/-- The post for a call, with the name of the model if there is one. -/
def request (a : RemoteAnalyzer) (path : String) (members : List (String × Json)) : Post where
  url := a.root ++ "/" ++ path
  key := a.key
  body := Json.ofMembers (members ++ Json.optional "model" (a.model.map .string))

/-- The answer to a call, which is a JSON text with a status of success. -/
def call {α : Type} (a : RemoteAnalyzer) (network : Network) (read? : Document → Option α)
    (path : String) (members : List (String × Json)) : Except AnalyzerError α :=
  match network.post (a.request path members) with
  | .unreachable => .error .request
  | .timeout => .error (.timeout a.timeoutSecs)
  | .response status body =>
    if !Network.isSuccess status then .error (.status status)
    else
      match (Json.document? body).bind read? with
      | some answer => .ok answer
      | none => .error .invalidResponse

def explain (a : RemoteAnalyzer) (network : Network) (metrics : Json)
    (resourceType : Option String) : Except AnalyzerError Explanation :=
  a.call network Explanation.read? "explain-anomaly"
    [("metrics", metrics), ("resourceType", (resourceType.map Json.string).getD .null)]

/-- What is sent about an alert. -/
def alertMembers (alert : Alert) (history : List Alert) (metrics : Json) : List (String × Json) :=
  [("alert", alert.toJson), ("recentHistory", .array (history.map Alert.toJson)),
    ("metrics", metrics)]

def recommend (a : RemoteAnalyzer) (network : Network) (alert : Alert) (history : List Alert)
    (metrics : Json) : Except AnalyzerError Recommendations :=
  a.call network Recommendations.read? "recommendations" (alertMembers alert history metrics)

def correlate (a : RemoteAnalyzer) (network : Network) (alert : Alert) (history : List Alert)
    (metrics : Json) : Except AnalyzerError Correlations :=
  a.call network Correlations.read? "correlations" (alertMembers alert history metrics)

def findPatterns (a : RemoteAnalyzer) (network : Network) (history : List Alert) :
    Except AnalyzerError PatternAnalysis :=
  a.call network PatternAnalysis.read? "patterns" [("history", .array (history.map Alert.toJson))]

end RemoteAnalyzer

end MetricAlerts
