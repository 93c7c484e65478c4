import MetricAlerts.Alert

/-! Analyzers and transports, given by how they will answer. Times are in milliseconds. -/

namespace MetricAlerts

/-- How a call of the analyzer ends. -/
inductive Reply (α : Type) where
  | answer (value : α)
  | failure
  | silence

/-- A reply and how long it takes. -/
structure TimedReply (α : Type) where
  reply : Reply α
  delay : Nat

/-- The time that a call with a limit takes and what comes of it: a late or failed call is worth a
neutral answer. -/
def TimedReply.within {α : Type} (limit : Nat) (neutral : α) (r : TimedReply α) : Nat × α :=
  match r.reply with
  | .answer value => if r.delay ≤ limit then (r.delay, value) else (limit, neutral)
  | .failure => (min r.delay limit, neutral)
  | .silence => (limit, neutral)

/-- An analyzer by its replies to the calls of each kind, one after another. Past the end of a list
it has nothing to say. -/
structure Analyzer where
  explanations : List (TimedReply Explanation)
  recommendations : List (TimedReply Recommendations)
  correlations : List (TimedReply Correlations)
  patterns : List (TimedReply PatternAnalysis)

/-- An analyzer that never finds anything. -/
def Analyzer.neutral : Analyzer := ⟨[], [], [], []⟩

/-- The next reply and those after it. -/
def nextReply {α : Type} (neutral : α) : List (TimedReply α) → TimedReply α × List (TimedReply α)
  | [] => (⟨.answer neutral, 0⟩, [])
  | reply :: replies => (reply, replies)

/-- A call of the analyzer. -/
inductive AnalyzerCall where
  | explain (metrics : Json) (resourceType : Option String)
  | recommend (alert : Alert) (history : List Alert)
  | correlate (alert : Alert) (history : List Alert)
  | patterns (history : List Alert)

/-- A transport by the channels that it fails to reach and the time that a delivery takes. -/
structure Transport where
  failing : List String
  delays : List (String × Nat)

/-- A transport that delivers everything at once. -/
def Transport.reliable : Transport := ⟨[], []⟩

end MetricAlerts
