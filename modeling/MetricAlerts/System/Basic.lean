import MetricAlerts.System.Gate
import MetricAlerts.System.Task

/-! An engine with its analyzer, its transport and its tasks, in virtual time. Tasks that can go on
stand in a queue, and a task that has been woken goes to its end. A task that has made too many
visits in one turn puts off the rest, and keeps its place at the gate of the store. -/

namespace MetricAlerts

structure System where
  engine : Engine
  analyzer : Analyzer
  transport : Transport
  /-- How long a call of the analyzer may take. -/
  callLimit : Nat
  /-- How much of the history goes with a call about one alert. -/
  historyWindow : Nat
  calls : Array AnalyzerCall
  /-- All that the transport has been handed, whether it arrives or not. -/
  handed : Array Handover := #[]
  /-- What has arrived. -/
  sent : Array Notification
  time : Nat
  tasks : List (Nat × Task)
  ready : List Nat
  /-- Those who have put off the rest of their turn. -/
  deferred : List Visitor
  /-- The strands that can go on when their task does. -/
  awake : List Visitor
  gate : Gate
  /-- The task whose turn it is, and how many visits it has made in this turn: to the store, the
  bus, the definitions or the clients. -/
  current : Nat
  visits : Nat
  nextTask : Nat
  nextWait : Nat
  /-- The task that somebody waits for, and what it has come to. -/
  foreground : Option Nat
  result : Option TaskResult
  /-- How often the store has been visited on behalf of the foreground before its turn. -/
  looks : Nat
  loopTask : Option Nat
  jobTask : Option Nat

namespace System

def task? (s : System) (id : Nat) : Option Task := s.tasks.lookup id

/-- The system in which a task can go on. -/
def wake (s : System) (id : Nat) : System :=
  if s.ready.contains id then s else { s with ready := s.ready ++ [id] }

def wakeAll (s : System) (ids : List Nat) : System := ids.foldl wake s

/-- The system in which a strand can go on. -/
def wakeStrand (s : System) (visitor : Visitor) : System :=
  let awake := if s.awake.contains visitor then s.awake else s.awake ++ [visitor]
  { s with awake }.wake visitor.task

def wakeStrands (s : System) (visitors : List Visitor) : System := visitors.foldl wakeStrand s

/-- The system without a note of which strands of a task can go on. -/
def forgetStrands (s : System) (id : Nat) : System :=
  { s with awake := s.awake.filter fun v => v.task != id }

/-- The system with a new task, which can start. -/
def spawn (s : System) (work : Work) : Nat × System :=
  (s.nextTask,
    { s with
      tasks := s.tasks ++ [(s.nextTask, .fresh work)]
      ready := s.ready ++ [s.nextTask]
      nextTask := s.nextTask + 1 })

def spawnAll (s : System) (works : List Work) : System := works.foldl (fun s w => (s.spawn w).2) s

/-- The system after a step of the engine. Idle dispatch loops wake when there is a new event. -/
def withEngine (s : System) (e : Engine) : System :=
  let hasNews := s.engine.bus.published.size < e.bus.published.size
  let s := { s with engine := e }
  let isIdle (t : Nat × Task) : Bool := t.2.isIdleLoop && !s.deferred.any fun v => v.task == t.1
  if hasNews then s.wakeAll ((s.tasks.filter isIdle).map Prod.fst) else s

/-! Visits. -/

/-- The greatest number of visits in a turn. -/
def visitLimit : Nat := 128

/-- The system in which a strand of the current task puts off the rest of its turn. -/
def defer (s : System) (strand : Nat) : System :=
  let visitor : Visitor := ⟨s.current, strand⟩
  if s.deferred.getLast? = some visitor then s
  else { s with deferred := s.deferred ++ [visitor] }

/-- A visit to what is never closed, if the current task can make one more. -/
def visitOpen (s : System) : Bool × System :=
  if visitLimit ≤ s.visits then (false, s.defer 0) else (true, { s with visits := s.visits + 1 })

/-- A visit to the store by a strand of the current task, if it can be made now. -/
def visit (s : System) (strand : Nat) (access : Access) : Bool × System :=
  let visitor : Visitor := ⟨s.current, strand⟩
  if visitLimit ≤ s.visits then
    (false, { s with gate := s.gate.reserve visitor access }.defer strand)
  else if s.gate.expects visitor then
    let (visitors, gate) := s.gate.afterVisit visitor
    (true, { s with gate, visits := s.visits + 1 }.wakeStrands visitors)
  else if s.gate.isOpen access then (true, { s with visits := s.visits + 1 })
  else (false, { s with gate := s.gate.lineUp visitor access })

/-- One visit after another, and how many of them can be made now. -/
def visitAll (strand : Nat) : List Access → System → Nat × System
  | [], s => (0, s)
  | access :: later, s =>
    match s.visit strand access with
    | (true, s) =>
      let (made, s) := visitAll strand later s
      (made + 1, s)
    | (false, s) => (0, s)

/-- The system after somebody has looked at the history, at its length and at the active alerts. -/
def observed (s : System) : System := { s with looks := 3 }

/-! Time. -/

/-- A wait for some time. -/
def newWait (s : System) (delay : Nat) : Wait × System :=
  (⟨s.time + delay, s.nextWait⟩, { s with nextWait := s.nextWait + 1 })

/-- A value that will be there after some time. -/
def later {α : Type} (s : System) (delay : Nat) (value : α) : Slot α × System :=
  if delay = 0 then (.ready value, s)
  else
    let (wait, s) := s.newWait delay
    (.waiting wait value, s)

def record (s : System) (call : AnalyzerCall) : System := { s with calls := s.calls.push call }

/-- The system in which a notification has been handed to the transport. -/
def handOver (s : System) (handover : Handover) : System :=
  { s with handed := s.handed.push handover }

/-! Calls of the analyzer. -/

def callExplain (s : System) (metrics : Json) (resourceType : Option String) :
    Slot Explanation × System :=
  let (reply, replies) := nextReply Explanation.neutral s.analyzer.explanations
  let (delay, value) := reply.within s.callLimit Explanation.neutral
  let s := s.record (.explain metrics resourceType)
  { s with analyzer := { s.analyzer with explanations := replies } }.later delay value

def recentHistory (s : System) : List Alert := s.engine.alerts.recentHistory s.historyWindow

def callRecommend (s : System) (alert : Alert) : Slot Recommendations × System :=
  let (reply, replies) := nextReply Recommendations.neutral s.analyzer.recommendations
  let (delay, value) := reply.within s.callLimit Recommendations.neutral
  let s := s.record (.recommend alert s.recentHistory)
  { s with analyzer := { s.analyzer with recommendations := replies } }.later delay value

def callCorrelate (s : System) (alert : Alert) : Slot Correlations × System :=
  let (reply, replies) := nextReply Correlations.neutral s.analyzer.correlations
  let (delay, value) := reply.within s.callLimit Correlations.neutral
  let s := s.record (.correlate alert s.recentHistory)
  { s with analyzer := { s.analyzer with correlations := replies } }.later delay value

/-- A call about the last entries of the history; an empty history is not worth one. -/
def callPatterns (s : System) (window : Nat) : Slot PatternAnalysis × System :=
  let history := s.engine.alerts.getHistory window
  if history.isEmpty then (.ready PatternAnalysis.neutral, s)
  else
    let (reply, replies) := nextReply PatternAnalysis.neutral s.analyzer.patterns
    let (delay, value) := reply.within s.callLimit PatternAnalysis.neutral
    let s := s.record (.patterns history)
    { s with analyzer := { s.analyzer with patterns := replies } }.later delay value

/-- The call that a feedback channel asks for. -/
def callFeedback (s : System) (alert : Alert) (type : FeedbackType) :
    Slot Enrichment.FeedbackAnswer × System :=
  match type with
  | .explanation =>
    let (slot, s) := s.callExplain alert.metrics (alert.labels.get? Alert.resourceTypeLabel)
    (slot.map .explanation, s)
  | .recommendation =>
    let (slot, s) := s.callRecommend alert
    (slot.map .recommendations, s)
  | .correlation =>
    let (slot, s) := s.callCorrelate alert
    (slot.map .correlations, s)

/-- The calls for a list of checks. -/
def callChecks : List AnomalyCheck → System → List (AnomalyCheck × CheckState) × System
  | [], s => ([], s)
  | check :: checks, s =>
    let (slot, s) := s.callExplain check.subset check.resourceType
    let (slots, s) := callChecks checks s
    ((check, .asked slot) :: slots, s)

end System

end MetricAlerts
