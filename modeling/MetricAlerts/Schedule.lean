/-! When the history is searched for patterns. -/

namespace MetricAlerts

/-- How often patterns are looked for and how long after the start for the first time, in
milliseconds; over how much of the history; and how much of it there must be for the first run. -/
structure PatternSchedule where
  interval : Nat
  startupDelay : Nat
  window : Nat
  minHistory : Nat
  deriving Repr, DecidableEq

/-- The end of the clock, which counts seconds below `2^63`. -/
def clockEnd : Nat := 9223372036854775807000

/-- Whether the schedule can be kept: there is an interval, and the clock does not end within it. -/
def PatternSchedule.isPossible (schedule : PatternSchedule) : Bool :=
  0 < schedule.interval && schedule.interval < clockEnd

/-- Once an hour, and first after a minute. -/
def PatternSchedule.default : PatternSchedule := ⟨3600000, 60000, 100, 10⟩

end MetricAlerts
