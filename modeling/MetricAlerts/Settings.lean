import MetricAlerts.Json.Record
import MetricAlerts.Schedule
import MetricAlerts.Toml.Parser

/-! The settings of the service, read from a TOML file and overridden by the environment. -/

namespace MetricAlerts

structure ServerSettings where
  httpPort : Nat := 3001
  deriving Repr, DecidableEq

/-- Where definitions are kept, and the limits of the alert store. -/
structure AlertingSettings where
  rulesPath : String := "config/alert-rules.json"
  channelsPath : String := "config/notification-channels.json"
  historyLimit : Nat := 1000
  eventBuffer : Nat := 1024
  anomalyLimit : Nat := 50
  deriving Repr, DecidableEq

structure AnalyzerSettings where
  enabled : Bool := false
  endpoint : String := "http://localhost:8000/api/ai"
  apiKey : Option String := none
  model : Option String := none
  timeoutSecs : Nat := 15
  historyWindow : Nat := 20
  deriving Repr, DecidableEq

structure PatternSettings where
  enabled : Bool := true
  intervalSecs : Nat := 3600
  startupDelaySecs : Nat := 60
  historyWindow : Nat := 100
  minHistory : Nat := 10
  deriving Repr, DecidableEq

structure RealtimeSettings where
  clientBuffer : Nat := 256
  maxMetricsBytes : Nat := 65536
  deriving Repr, DecidableEq

structure Settings where
  server : ServerSettings := {}
  alerting : AlertingSettings := {}
  analyzer : AnalyzerSettings := {}
  patterns : PatternSettings := {}
  realtime : RealtimeSettings := {}
  deriving Repr, DecidableEq

/-- The schedule of the settings, with a second between runs at least. -/
def PatternSettings.schedule (p : PatternSettings) : PatternSchedule where
  interval := 1000 * max p.intervalSecs 1
  startupDelay := 1000 * p.startupDelaySecs
  window := p.historyWindow
  minHistory := p.minHistory

namespace Settings

mutual

/-- A TOML value for the reader of records; nothing can be read from a date or time. -/
def toDocument : Toml → Document
  | .string s => .string s
  | .int n => .int n
  | .float x => .float x
  | .bool b => .bool b
  | .dateTime => .object []
  | .array items => .array (itemDocuments items)
  | .table entries => .object (entryDocuments entries)

def itemDocuments : List Toml → List Document
  | [] => []
  | item :: items => toDocument item :: itemDocuments items

def entryDocuments : List (String × Toml) → List (String × Document)
  | [] => []
  | (key, value) :: entries => (key, toDocument value) :: entryDocuments entries

end

/-- The fields of a section. Items of an array beyond the fields are passed over. -/
def fields? (names : List String) : Document → Option Record
  | .array items => Record.read? names [] (.array (items.take names.length))
  | d => Record.read? names [] d

/-- A number that fits a machine word. -/
def word? : Document → Option Nat := Document.nat? UInt64.size

def server? (d : Document) : Option ServerSettings := do
  let r ← fields? ["http_port"] d
  let default : ServerSettings := {}
  let httpPort ← r.withDefault "http_port" (Document.nat? UInt16.size) default.httpPort
  return { httpPort }

def alerting? (d : Document) : Option AlertingSettings := do
  let names := ["rules_path", "channels_path", "history_limit", "event_buffer", "anomaly_limit"]
  let r ← fields? names d
  let default : AlertingSettings := {}
  let rulesPath ← r.withDefault "rules_path" Document.string? default.rulesPath
  let channelsPath ← r.withDefault "channels_path" Document.string? default.channelsPath
  let historyLimit ← r.withDefault "history_limit" word? default.historyLimit
  let eventBuffer ← r.withDefault "event_buffer" word? default.eventBuffer
  let anomalyLimit ← r.withDefault "anomaly_limit" word? default.anomalyLimit
  return { rulesPath, channelsPath, historyLimit, eventBuffer, anomalyLimit }

def analyzer? (d : Document) : Option AnalyzerSettings := do
  let r ← fields? ["enabled", "endpoint", "api_key", "model", "timeout_secs", "history_window"] d
  let default : AnalyzerSettings := {}
  let enabled ← r.withDefault "enabled" Document.bool? default.enabled
  let endpoint ← r.withDefault "endpoint" Document.string? default.endpoint
  let apiKey ← r.optional "api_key" Document.string?
  let model ← r.optional "model" Document.string?
  let timeoutSecs ← r.withDefault "timeout_secs" word? default.timeoutSecs
  let historyWindow ← r.withDefault "history_window" word? default.historyWindow
  return { enabled, endpoint, apiKey, model, timeoutSecs, historyWindow }

def patterns? (d : Document) : Option PatternSettings := do
  let r ← fields?
    ["enabled", "interval_secs", "startup_delay_secs", "history_window", "min_history"] d
  let default : PatternSettings := {}
  let enabled ← r.withDefault "enabled" Document.bool? default.enabled
  let intervalSecs ← r.withDefault "interval_secs" word? default.intervalSecs
  let startupDelaySecs ← r.withDefault "startup_delay_secs" word? default.startupDelaySecs
  let historyWindow ← r.withDefault "history_window" word? default.historyWindow
  let minHistory ← r.withDefault "min_history" word? default.minHistory
  return { enabled, intervalSecs, startupDelaySecs, historyWindow, minHistory }

def realtime? (d : Document) : Option RealtimeSettings := do
  let r ← fields? ["client_buffer", "max_metrics_bytes"] d
  let default : RealtimeSettings := {}
  let clientBuffer ← r.withDefault "client_buffer" word? default.clientBuffer
  let maxMetricsBytes ← r.withDefault "max_metrics_bytes" word? default.maxMetricsBytes
  return { clientBuffer, maxMetricsBytes }

def ofDocument? (d : Document) : Option Settings := do
  let r ← Record.read? ["server", "alerting", "ai", "patterns", "realtime"] [] d
  let server ← r.withDefault "server" server? {}
  let alerting ← r.withDefault "alerting" alerting? {}
  let analyzer ← r.withDefault "ai" analyzer? {}
  let patterns ← r.withDefault "patterns" patterns? {}
  let realtime ← r.withDefault "realtime" realtime? {}
  return { server, alerting, analyzer, patterns, realtime }

/-- The settings that a text gives. -/
def parse? (text : String) : Option Settings :=
  (Toml.parse? text).bind fun entries => ofDocument? (.object (entryDocuments entries))

/-- The settings with the analyzer that environment variables name. -/
def override (s : Settings) (environment : String → Option String) : Settings :=
  let analyzer := s.analyzer
  let analyzer := match environment "AI_ANALYZER_URL" with
    | some url => { analyzer with endpoint := url, enabled := true }
    | none => analyzer
  let analyzer := match environment "AI_ANALYZER_KEY" with
    | some key => { analyzer with apiKey := some key }
    | none => analyzer
  { s with analyzer }

/-- The settings of a file, which are the default ones if there is no file and none if it cannot be
read. -/
def load? (file : Option ByteArray) (environment : String → Option String) : Option Settings :=
  let settings := match file with
    | none => some ({} : Settings)
    | some bytes => (String.fromUTF8? bytes).bind parse?
  settings.map fun s => s.override environment

end Settings

end MetricAlerts
