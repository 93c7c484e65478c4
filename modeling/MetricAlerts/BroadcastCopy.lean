import MetricAlerts.Alert

/-! The copy of an alert that is sent to realtime clients. -/

namespace MetricAlerts.Alert

/-- What stands for metrics whose text has too many bytes. -/
def oversizedMetrics (bytes : Nat) : Json :=
  .object [("bytes", .int bytes), ("error", .string "metrics too large to broadcast")]

/-- The JSON form of an alert, with a mark in the place of metrics whose text is longer than
`maxBytes`. The metrics are put into the form of an alert that has none. -/
def broadcastCopy (maxBytes : Nat) (a : Alert) : Json :=
  let size := a.metrics.byteSize
  let shown := if size ≤ maxBytes then a.metrics else oversizedMetrics size
  { a with metrics := .null }.toJson.insert "metrics" shown

end MetricAlerts.Alert
