import MetricAlerts.Channel
import MetricAlerts.Rule

/-! The rules and channels that are used where no others are given, with the documents that say what
they are. -/

namespace MetricAlerts.Definitions

/-- A threshold rule on every source with one label and one annotation. -/
def builtinThreshold (id name description : String) (query : Query) (comparison : Comparison)
    (threshold : Float) (severity : Severity) (category summary : String) : Rule where
  id := id
  name := name
  description := description
  source := Rule.allSources
  severity := severity
  enabled := true
  labels := Dict.ofList [("category", category)]
  annotations := Dict.ofList [("summary", summary)]
  kind := .threshold { query, comparison, threshold }

def builtinRules : List Rule :=
  [builtinThreshold "cpu_high" "High CPU usage" "CPU usage above 80%" (.key "system_cpu_usage")
      .greater (Float.ofInt 80) .warning "system" "CPU usage is above 80%",
    builtinThreshold "memory_high" "High memory usage" "Memory usage above 90%"
      (.key "system_memory_usage") .greater (Float.ofInt 90) .critical "system"
      "Memory usage is above 90%",
    builtinThreshold "disk_space_low" "Low disk space" "Free disk space below 10%"
      (.path ["system", "disk", "free_percent"]) .less (Float.ofInt 10) .error "storage"
      "Less than 10% disk space left",
    { id := "general_anomaly"
      name := "AI detected anomaly"
      description := "Anomalies reported by the AI analyzer"
      source := Rule.allSources
      severity := .warning
      enabled := false
      labels := .empty
      annotations := .empty
      kind := .anomaly (some "general") .warning }]

/-- The built-in rules as they are written down. What an entry leaves out has its default. -/
def builtinRulesDocument : Json :=
  .ofMembers [("rules", .array
    [.ofMembers
      [("id", .string "cpu_high"), ("name", .string "High CPU usage"),
        ("description", .string "CPU usage above 80%"), ("type", .string "threshold"),
        ("source", .string "all"), ("query", .string "system_cpu_usage"),
        ("condition", .string ">"), ("threshold", .int 80), ("severity", .string "warning"),
        ("labels", .ofMembers [("category", .string "system")]),
        ("annotations", .ofMembers [("summary", .string "CPU usage is above 80%")])],
      .ofMembers
        [("id", .string "memory_high"), ("name", .string "High memory usage"),
          ("description", .string "Memory usage above 90%"), ("type", .string "threshold"),
          ("source", .string "all"), ("query", .string "system_memory_usage"),
          ("condition", .string ">"), ("threshold", .int 90), ("severity", .string "critical"),
          ("labels", .ofMembers [("category", .string "system")]),
          ("annotations", .ofMembers [("summary", .string "Memory usage is above 90%")])],
      .ofMembers
        [("id", .string "disk_space_low"), ("name", .string "Low disk space"),
          ("description", .string "Free disk space below 10%"), ("type", .string "threshold"),
          ("source", .string "all"), ("query", .string "system.disk.free_percent"),
          ("condition", .string "<"), ("threshold", .int 10), ("severity", .string "error"),
          ("labels", .ofMembers [("category", .string "storage")]),
          ("annotations", .ofMembers [("summary", .string "Less than 10% disk space left")])],
      .ofMembers
        [("id", .string "general_anomaly"), ("name", .string "AI detected anomaly"),
          ("description", .string "Anomalies reported by the AI analyzer"),
          ("type", .string "ai_anomaly"), ("source", .string "all"),
          ("resourceType", .string "general"), ("minSeverity", .string "warning"),
          ("severity", .string "warning"), ("enabled", .bool false)]])]

def builtinChannels : List Channel :=
  [{ id := "console", name := "Console", type := .console, enabled := true, config := .empty },
    { id := "websocket", name := "Dashboard", type := .websocket, enabled := true,
      config := .empty }]

/-- The built-in channels as they are written down. -/
def builtinChannelsDocument : Json :=
  .ofMembers [("channels", .array
    [.ofMembers
      [("id", .string "console"), ("name", .string "Console"), ("type", .string "console"),
        ("enabled", .bool true)],
      .ofMembers
        [("id", .string "websocket"), ("name", .string "Dashboard"), ("type", .string "websocket"),
          ("enabled", .bool true)]])]

/-- What the array under `key` holds, if every entry of it can be read. -/
def readAll? {α : Type} (read : Document → Option α) (key : String) (document : Json) :
    Option (List α) :=
  Document.listWith? read (.ofJson ((document.get? key).getD (.array [])))

end MetricAlerts.Definitions
