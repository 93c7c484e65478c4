import MetricAlerts.Event
import MetricAlerts.Text.Quoted

/-! The lines that console channels write. -/

namespace MetricAlerts

inductive ConsoleLine where
  | alert (channel : String) (event : String) (alert : Alert)
  | patterns (channel : String) (patterns insights : Nat)
  | pattern (pattern : AlertPattern)

namespace ConsoleLine

/-- Lines about urgent alerts are warnings. -/
def isWarning : ConsoleLine → Bool
  | .alert _ _ about => Severity.error ≤ about.severity
  | _ => false

def frequencyText : Option Nat → String
  | some n => "Some(" ++ String.ofList (Number.intText n) ++ ")"
  | none => "None"

def fields : ConsoleLine → List (String × Json)
  | .alert channel event about =>
    [("channel_id", .string channel), ("event", .string event), ("alert_id", .string about.id),
      ("rule_id", .string about.ruleId), ("severity", .string about.severity.name),
      ("source", .string about.source), ("message", .string about.summary)]
  | .patterns channel count insights =>
    [("channel_id", .string channel), ("patterns", .int count), ("insights", .int insights),
      ("message", .string "Alert patterns detected")]
  | .pattern found =>
    [("frequency", .string (frequencyText found.frequency)),
      ("rules", .string (Text.quotedList found.ruleIds)),
      ("message", .string ("Pattern: " ++ found.description))]

/-- The lines about an event. -/
def ofEvent (channel : String) (event : Event) : List ConsoleLine :=
  match event with
  | .patternsDetected analysis =>
    .patterns channel analysis.patterns.length analysis.insights.length ::
      analysis.patterns.map .pattern
  | event => (event.alert?.map fun a => ConsoleLine.alert channel event.kind a).toList

end ConsoleLine

end MetricAlerts
