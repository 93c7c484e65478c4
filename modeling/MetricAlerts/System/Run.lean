import MetricAlerts.System.Progress

/-! Running a system: the tasks that can go on, time, and requests whose answer is waited for. Time
stands still while a task can go on. -/

namespace MetricAlerts.System

/-- The system in which those who have put off their turn can go on, the last of them first. -/
def resumeDeferred (s : System) : System := { s with deferred := [] }.wakeStrands s.deferred.reverse

/-- The greatest number of turns in a round. -/
def roundLength : Nat := 61

def isForeground (s : System) (id : Nat) : Bool := s.foreground == some id

/-- The system after the turn of a task that can go on. One that can go on again by then does so
after the others. -/
def takeTurn (s : System) (id : Nat) : System :=
  let s := { s with ready := s.ready.erase id }.turn id
  if s.ready.contains id then { s with ready := s.ready.erase id ++ [id] } else s

/-- The tasks take their turns until none can go on. The foreground goes on at the beginning of a
round, of which `left` turns are left to the others. -/
def settle : Nat → Nat → System → System
  | 0, _, s => s
  | fuel + 1, left, s =>
    match left, s.ready.find? fun id => !s.isForeground id with
    | left + 1, some id => settle fuel left (s.takeTurn id)
    | _, _ =>
      if s.ready.isEmpty && s.deferred.isEmpty then s
      else
        let s := s.resumeDeferred
        match s.ready.find? s.isForeground with
        | some id => settle fuel roundLength (s.takeTurn id)
        | none => settle fuel roundLength s

/-- More turns than any queue needs. -/
def turnLimit : Nat := 1000000000

def settled (s : System) : System := settle turnLimit roundLength s

/-- The waits of all tasks. -/
def waits (s : System) : List (Wait × Nat) :=
  s.tasks.flatMap fun t => t.2.waits.map fun wait => (wait, t.1)

/-- The next time for which a task waits. -/
def nextDue? (s : System) : Option Nat := (s.waits.map fun w => w.1.due).min?

/-- Whether one wait ends before another: the foreground first, then by time, then by number. -/
def endsBefore (s : System) (a b : Wait × Nat) : Bool :=
  let inFront (w : Wait × Nat) : Bool := s.foreground == some w.2
  if inFront a != inFront b then inFront a
  else a.1.due < b.1.due || (a.1.due == b.1.due && a.1.number ≤ b.1.number)

/-- The system at a later time, with the tasks woken whose waits are over. -/
def moveTo (s : System) (time : Nat) : System :=
  let s := { s with time := max s.time time }
  let ended := (s.waits.filter fun w => w.1.due ≤ s.time).mergeSort s.endsBefore
  s.wakeAll (ended.map Prod.snd)

/-- Time goes on to `target`, and everything that was to happen on the way happens. -/
def advanceTo (target : Nat) : Nat → System → System
  | 0, s => (s.moveTo target).settled
  | fuel + 1, s =>
    match s.nextDue? with
    | some due =>
      if due ≤ target then advanceTo target fuel (s.moveTo (max due (s.time + 1))).settled
      else (s.moveTo target).settled
    | none => (s.moveTo target).settled

def advance (s : System) (duration : Nat) : System :=
  advanceTo (s.time + duration) duration s

/-- Time goes on until the foreground has come to its end. -/
def awaitResult : Nat → System → System
  | 0, s => s
  | fuel + 1, s =>
    let s := s.settled
    if s.result.isSome then s
    else
      match s.nextDue? with
      | some due => awaitResult fuel (s.moveTo due)
      | none => s

/-- An activity whose end is waited for. -/
def request (s : System) (work : Work) : TaskResult × System :=
  let (id, s) := s.spawn work
  let s := awaitResult turnLimit { s with foreground := some id, result := none }
  (s.result.getD .nothing, { s with foreground := none, result := none })

/-! Loops and jobs. -/

/-- A dispatch loop for the events from now on, in the place of the one before. -/
def startLoop (s : System) : System :=
  let (id, s) := s.spawn (.dispatchLoop s.engine.bus.tail)
  let s := match s.loopTask with
    | some old => s.signal old
    | none => s
  { s with loopTask := some id }

/-- A pattern job, in the place of the one before. -/
def startJob (s : System) (schedule : PatternSchedule) : System :=
  let (id, s) := s.spawn (.patternJob schedule)
  let s := match s.jobTask with
    | some old => s.signal old
    | none => s
  { s with jobTask := some id }

/-- The end of the dispatch loop, and whether there was one. -/
def stopLoop (s : System) : Bool × System :=
  match s.loopTask with
  | none => (false, s)
  | some id =>
    let (_, s) := s.request (.stop [id])
    (true, { s with loopTask := none })

/-- Whether the pattern job lives, if one has been started. -/
def jobRunning? (s : System) : Option Bool := s.jobTask.map fun id => (s.task? id).isSome

def stopJob (s : System) : System :=
  match s.jobTask with
  | none => s
  | some id => (s.request (.stop [id])).2

def isRunning (s : System) : Bool := s.loopTask.isSome

/-- The dispatch loop starts, and the pattern job where there is a schedule for it, unless they run
already. -/
def start (s : System) (schedule : Option PatternSchedule) : System :=
  if s.isRunning then s
  else
    match schedule with
    | some schedule => s.startLoop.startJob schedule
    | none => s.startLoop

/-- The end of the pattern job and then of the dispatch loop. -/
def shutdown (s : System) : System :=
  match s.loopTask with
  | none => s
  | some loop =>
    let (_, s) := s.request (.stop (s.jobTask.toList ++ [loop]))
    { s with loopTask := none, jobTask := none }

/-- The report about a snapshot; what it leaves to be checked is checked in the background. -/
def ingest (s : System) (source : String) (metrics : Json) : EvaluationReport × System :=
  match s.request (.evaluate source metrics) with
  | (.evaluated report, s) => (report, s)
  | (_, s) => (EvaluationReport.start source 0, s)

/-- A rule on its own. A check for anomalies is waited for. -/
def evaluateRule (s : System) (rule : Rule) (source : String) (metrics : Json) :
    Except EvaluationError RuleOutcome × System :=
  let (outcome, check, e) := s.engine.evaluateRule rule source metrics
  let s := s.withEngine e
  match check with
  | none => (outcome, s)
  | some check =>
    match s.request (.detect source [check]) with
    | (.fired count, s) => (.ok (.fired count), s)
    | (_, s) => (outcome, s)

end MetricAlerts.System
