import MetricAlerts.Engine
import MetricAlerts.Schedule
import MetricAlerts.System.Script

/-! Activities that take time: the evaluation of snapshots, detection of anomalies, enrichment,
feedback, the dispatch of events and the search for patterns. A task is what an activity is waiting
for. -/

namespace MetricAlerts

/-- A moment to wait for. Of two waits for the same time the one with the lower number was there
first. -/
structure Wait where
  due : Nat
  number : Nat
  deriving Repr, DecidableEq

/-- A value that is there or will be there at some time. -/
inductive Slot (α : Type) where
  | waiting (wait : Wait) (value : α)
  | ready (value : α)

namespace Slot

/-- The value, if it is there at a time. -/
def valueAt? {α : Type} (time : Nat) : Slot α → Option α
  | .waiting wait value => if wait.due ≤ time then some value else none
  | .ready value => some value

/-- The slot without a wait that is over. -/
def settledAt {α : Type} (time : Nat) : Slot α → Slot α
  | .waiting wait value => if wait.due ≤ time then .ready value else .waiting wait value
  | .ready value => .ready value

def waits {α : Type} : Slot α → List Wait
  | .waiting wait _ => [wait]
  | .ready _ => []

def map {α β : Type} (f : α → β) : Slot α → Slot β
  | .waiting wait value => .waiting wait (f value)
  | .ready value => .ready (f value)

end Slot

inductive ChannelOutcome where
  | delivered
  | failed
  | skipped
  deriving DecidableEq, Repr

/-- The delivery of an event to one channel: settled, or handed to the transport and `arrives` or
not when the wait is over, or still to be announced to the clients, or announced to them with some
still to be dropped. -/
inductive Delivery where
  | settled (outcome : ChannelOutcome)
  | underway (wait : Wait) (notification : Notification) (arrives : Bool)
  | announcing
  | dropping

namespace Delivery

def waits : Delivery → List Wait
  | .underway wait _ _ => [wait]
  | _ => []

def outcome? : Delivery → Option ChannelOutcome
  | .settled outcome => some outcome
  | _ => none

end Delivery

/-- A notification as it is handed to the transport, and whether it arrives. -/
structure Handover where
  notification : Notification
  arrives : Bool

/-- How far the dispatch of an event is: the channels are still to be looked up, or there is a
delivery for each of them. -/
inductive DispatchState where
  | taken (event : Event)
  | handedOut (event : Event) (deliveries : List Delivery)

namespace DispatchState

def waits : DispatchState → List Wait
  | .taken _ => []
  | .handedOut _ deliveries => deliveries.flatMap Delivery.waits

/-- The report about deliveries that are all settled. -/
def report? : DispatchState → Option DispatchReport
  | .taken _ => none
  | .handedOut _ deliveries =>
    (deliveries.mapM Delivery.outcome?).map fun outcomes =>
      { delivered := outcomes.count .delivered
        failed := outcomes.count .failed
        skipped := outcomes.count .skipped }

end DispatchState

/-- Activities that can be started. -/
inductive Work where
  | evaluate (source : String) (metrics : Json)
  | detect (source : String) (checks : List AnomalyCheck)
  | enrich (alert : Alert)
  | feedback (alert : Alert) (type : FeedbackType)
  | explain (metrics : Json) (resourceType : Option String)
  | recommend (alert : Alert)
  | correlate (alert : Alert)
  | analyzePatterns (window : Nat)
  | dispatch (event : Event)
  /-- Dispatch of all events from a place on the bus. -/
  | dispatchLoop (place : Nat)
  | patternJob (schedule : PatternSchedule)
  /-- The end of dispatch loops and pattern jobs, one after another. -/
  | stop (tasks : List Nat)

/-- The evaluation of a snapshot: the rules that are left, how often the store has been visited for
the first of them, and what has come of the others. -/
structure EvaluationState where
  source : String
  metrics : Json
  rules : List Rule
  visits : Nat
  report : EvaluationReport
  checks : List AnomalyCheck

/-- How far a check is: the analyzer has been asked, or alerts for anomalies are still to be
raised. -/
inductive CheckState where
  | asked (answer : Slot Explanation)
  | raising (anomalies : List Anomaly)

namespace CheckState

def waits : CheckState → List Wait
  | .asked answer => answer.waits
  | .raising _ => []

/-- The anomalies for which alerts are to be raised, if they are known at a time. -/
def anomaliesAt? (time : Nat) (check : AnomalyCheck) : CheckState → Option (List Anomaly)
  | .asked answer => (answer.valueAt? time).map check.qualifying
  | .raising anomalies => some anomalies

def isFinished : CheckState → Bool
  | .raising [] => true
  | _ => false

end CheckState

/-- A dispatch loop: the place of the next event, how many events it has missed so far, and the
dispatch of the event before. -/
structure LoopState where
  place : Nat
  missed : Nat := 0
  stopping : Bool
  current : Option DispatchState

/-- How far a search for patterns is: the length of the history is to be looked up, or the history
is to be read, or the analyzer has been asked. -/
inductive PatternRun where
  | sizing
  | reading
  | asked (answer : Slot PatternAnalysis)

namespace PatternRun

def waits : PatternRun → List Wait
  | .asked answer => answer.waits
  | _ => []

end PatternRun

/-- A pattern job: the wait for its first run; when the next regular run is due, and the wait for
it, which starts when the run before has ended; and the run that is on. -/
structure JobState where
  schedule : PatternSchedule
  stopping : Bool
  startup : Option Wait
  tickDue : Nat
  tick : Option Wait
  run : Option PatternRun

inductive Task where
  | fresh (work : Work)
  /-- The store was closed when the work was to start. -/
  | held (work : Work)
  | evaluation (state : EvaluationState)
  | detection (source : String) (fired : Nat) (checks : List (AnomalyCheck × CheckState))
  | enrichment (alert : Alert) (recommendations : Slot Recommendations)
      (correlations : Slot Correlations)
  | feedback (alert : Alert) (answer : Slot Enrichment.FeedbackAnswer)
  | explanation (answer : Slot Explanation)
  | recommendations (answer : Slot Recommendations)
  | correlations (answer : Slot Correlations)
  | patternRun (answer : Slot PatternAnalysis)
  | dispatch (state : DispatchState)
  | dispatchLoop (state : LoopState)
  | patternJob (state : JobState)
  | stopping (current : Nat) (later : List Nat)

/-- What a task has come to at its end. -/
inductive TaskResult where
  | nothing
  | evaluated (report : EvaluationReport)
  | fired (count : Nat)
  | alert (alert : Option Alert)
  | explanation (x : Explanation)
  | recommendations (x : Recommendations)
  | correlations (x : Correlations)
  | analysis (x : Option PatternAnalysis)
  | report (r : DispatchReport)

namespace Task

/-- The moments that a task waits for. -/
def waits : Task → List Wait
  | .fresh _ => []
  | .held _ => []
  | .evaluation _ => []
  | .detection _ _ checks => checks.flatMap fun c => c.2.waits
  | .enrichment _ r c => r.waits ++ c.waits
  | .feedback _ answer => answer.waits
  | .explanation answer => answer.waits
  | .recommendations answer => answer.waits
  | .correlations answer => answer.waits
  | .patternRun answer => answer.waits
  | .dispatch state => state.waits
  | .dispatchLoop state => state.current.toList.flatMap DispatchState.waits
  | .patternJob state =>
    match state.run with
    | some run => run.waits
    | none => state.startup.toList ++ state.tick.toList
  | .stopping _ _ => []

/-- So many checks go on all together whenever one of them can. -/
def fewChecks : Nat := 30

/-- Whether only those strands of a task go on that have been woken. -/
def wakesByStrand : Task → Bool
  | .detection _ _ checks => fewChecks < checks.length
  | _ => false

/-- Whether a task is a dispatch loop that waits for an event. -/
def isIdleLoop : Task → Bool
  | .dispatchLoop state => state.current.isNone
  | _ => false

end Task

end MetricAlerts
