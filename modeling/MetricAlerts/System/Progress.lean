import MetricAlerts.System.Basic

/-! How tasks start and go on. A task does all that it can at a time and then waits or ends. -/

namespace MetricAlerts.System

/-- What a task has come to for now. -/
inductive Progress where
  | waits (task : Task)
  | ends (result : TaskResult)

/-! Evaluation of snapshots. -/

/-- How the evaluation of a rule visits the store. -/
def visitsFor (e : Engine) (metrics : Json) (rule : Rule) : List Access :=
  match rule.kind with
  | .threshold c =>
    if !c.threshold.isFinite then []
    else
      match c.query.resolve? metrics with
      | none => []
      | some value =>
        if c.comparison.holds value c.threshold then [.write]
        else if (lookup? rule.id e.alerts.active).isSome then [.read, .write]
        else [.read]
  | _ => []

/-- How many rules can be evaluated now, and how often the store has been visited for the next
one. -/
def visitForRules (metrics : Json) : List Rule → Nat → System → Nat × Nat × System
  | [], _, s => (0, 0, s)
  | rule :: rules, before, s =>
    let wanted := (visitsFor s.engine metrics rule).drop before
    let (made, s) := s.visitAll 0 wanted
    if made < wanted.length then (0, before + made, s)
    else
      let (count, next, s) := visitForRules metrics rules 0 s
      (count + 1, next, s)

/-- An evaluation goes on as far as it gets. Its checks are made in the background. -/
def continueEvaluation (s : System) (state : EvaluationState) : Progress × System :=
  let (count, visits, s) := visitForRules state.metrics state.rules state.visits s
  let (report, checks, e) := s.engine.evaluateRules state.source state.metrics
    (state.rules.take count) state.report
  let s := s.withEngine e
  let checks := state.checks ++ checks
  match state.rules.drop count with
  | [] =>
    let s := if checks.isEmpty then s else (s.spawn (.detect state.source checks)).2
    (.ends (.evaluated report), s)
  | rules => (.waits (.evaluation { state with rules, visits, report, checks }), s)

/-! Detection of anomalies. -/

/-- The alerts of a check for the anomalies that are known and can be raised now: how many there
are, and how far the check is. -/
def raiseAlerts (s : System) (source : String) (strand : Nat) (check : AnomalyCheck)
    (state : CheckState) : Nat × CheckState × System :=
  match state.anomaliesAt? s.time check with
  | some anomalies =>
    let (count, s) := s.visitAll strand (anomalies.map fun _ => .write)
    let (alerts, e) := s.engine.raiseAnomalies check source (anomalies.take count)
    (count, .raising (anomalies.drop count), (s.withEngine e).spawnAll (alerts.map .enrich))
  | none => (0, state, s)

/-- All checks go on, one after another. Each of them is a strand. -/
def raiseAll (source : String) : Nat → List (AnomalyCheck × CheckState) → System →
    Nat × List (AnomalyCheck × CheckState) × System
  | _, [], s => (0, [], s)
  | strand, (check, state) :: checks, s =>
    let (count, state, s) := s.raiseAlerts source strand check state
    let (more, checks, s) := raiseAll source (strand + 1) checks s
    (count + more, (check, state) :: checks, s)

def isOpen (check : AnomalyCheck × CheckState) : Bool := !check.2.isFinished

/-- The checks that are awake go on in the order in which they woke. When as many in a row as are
left have got stuck, the others have to wait for the next turn. -/
def raiseAwake (source : String) : Nat → Nat → List (AnomalyCheck × CheckState) → System →
    Nat × List (AnomalyCheck × CheckState) × System
  | 0, _, checks, s => (0, checks, s)
  | fuel + 1, stuck, checks, s =>
    match s.awake.find? fun v => v.task == s.current with
    | none => (0, checks, s)
    | some visitor =>
      let s := { s with awake := s.awake.erase visitor }
      match checks[visitor.strand]? with
      | none => raiseAwake source fuel stuck checks s
      | some (check, before) =>
        let left := (checks.filter isOpen).length
        let (count, state, s) := s.raiseAlerts source visitor.strand check before
        let checks := checks.set visitor.strand (check, state)
        if !state.isFinished && left ≤ stuck + 1 then (count, checks, s.wake s.current)
        else
          let (more, checks, s) :=
            raiseAwake source fuel (if state.isFinished then 0 else stuck + 1) checks s
          (count + more, checks, s)

/-- The system in which the checks are awake whose answers have come. -/
def wakeAnswered (s : System) (checks : List (AnomalyCheck × CheckState)) : System :=
  let answered := checks.zipIdx.filter fun (check, _) => match check.2 with
    | .asked answer => (answer.valueAt? s.time).isSome
    | .raising _ => false
  s.wakeStrands (answered.map fun (_, strand) => ⟨s.current, strand⟩)

/-- Checks go on as far as they get. -/
def continueChecks (s : System) (source : String) (checks : List (AnomalyCheck × CheckState)) :
    Nat × List (AnomalyCheck × CheckState) × System :=
  if checks.length ≤ Task.fewChecks then raiseAll source 0 checks s
  else
    let fuel := (checks.length + 1) * (checks.length + 1)
    raiseAwake source fuel 0 checks (s.wakeAnswered checks)

/-! Enrichment of alerts. -/

/-- The end of an activity that changes an alert, for which it has to get at the store. -/
def changeAlert (s : System) (task : Task) (change : Engine → Option Alert × Engine) :
    Progress × System :=
  match s.visit 0 .write with
  | (true, s) =>
    let (updated, e) := change s.engine
    (.ends (.alert updated), s.withEngine e)
  | (false, s) => (.waits task, s)

/-! Dispatch of events. -/

/-- The outcome of a delivery by the transport. -/
def settleDelivery (s : System) (notification : Notification) (arrives : Bool) :
    Delivery × System :=
  if arrives then (.settled .delivered, { s with sent := s.sent.push notification })
  else (.settled .failed, s)

/-- The clients whose queues did not take an event are dropped, for which it takes one more visit.
The registry has lost them with the announcement already: if the visit has to be put off, the
delivery waits for it, but nobody finds such a client in the registry, or counts it, any more. -/
def dropFailed (s : System) : Delivery × System :=
  match s.visitOpen with
  | (true, s) => (.settled .delivered, s)
  | (false, s) => (.dropping, s)

/-- The announcement of an event to the clients. Those whose queues do not take it leave the
registry at once. -/
def announce (s : System) (event : Event) : Delivery × System :=
  match s.visitOpen with
  | (true, s) =>
    let before := s.engine.hub.clientCount
    let s := { s with engine := s.engine.perform event .broadcast }
    if s.engine.hub.clientCount < before then s.dropFailed else (.settled .delivered, s)
  | (false, s) => (.announcing, s)

/-- The start of the delivery of an event to a channel. -/
def deliverTo (s : System) (event : Event) (channel : Channel) : Delivery × System :=
  let action := Engine.actionFor channel event
  match action with
  | .write _ => (.settled .delivered, { s with engine := s.engine.perform event action })
  | .broadcast => s.announce event
  | .skip => (.settled .skipped, s)
  | .fail _ => (.settled .failed, s)
  | .feedback alert type => (.settled .delivered, (s.spawn (.feedback alert type)).2)
  | .notify notification =>
    let arrives := !s.transport.failing.contains channel.id
    let s := s.handOver ⟨notification, arrives⟩
    match (s.transport.delays.lookup channel.id).getD 0 with
    | 0 => s.settleDelivery notification arrives
    | delay =>
      let (wait, s) := s.newWait delay
      (.underway wait notification arrives, s)

def deliverToAll (event : Event) : List Channel → System → List Delivery × System
  | [], s => ([], s)
  | channel :: channels, s =>
    let (delivery, s) := s.deliverTo event channel
    let (deliveries, s) := deliverToAll event channels s
    (delivery :: deliveries, s)

/-- A delivery goes on if its time has come. -/
def continueDelivery (s : System) (event : Event) (delivery : Delivery) : Delivery × System :=
  match delivery with
  | .settled outcome => (.settled outcome, s)
  | .underway wait notification arrives =>
    if wait.due ≤ s.time then s.settleDelivery notification arrives
    else (.underway wait notification arrives, s)
  | .announcing => s.announce event
  | .dropping => s.dropFailed

def continueDeliveries (event : Event) : List Delivery → System → List Delivery × System
  | [], s => ([], s)
  | delivery :: deliveries, s =>
    let (delivery, s) := s.continueDelivery event delivery
    let (deliveries, s) := continueDeliveries event deliveries s
    (delivery :: deliveries, s)

/-- The dispatch of an event to all enabled channels goes on. -/
def continueDispatch (s : System) (state : DispatchState) : DispatchState × System :=
  match state with
  | .taken event =>
    match s.visitOpen with
    | (true, s) =>
      let (deliveries, s) := deliverToAll event s.engine.definitions.enabledChannels s
      (.handedOut event deliveries, s)
    | (false, s) => (.taken event, s)
  | .handedOut event deliveries =>
    let (deliveries, s) := continueDeliveries event deliveries s
    (.handedOut event deliveries, s)

/-- A dispatch loop goes from event to event until it has to wait. It heeds a request to stop
before the next event. -/
def runLoop : Nat → LoopState → System → Progress × System
  | 0, state, s => (.waits (.dispatchLoop state), s)
  | fuel + 1, state, s =>
    match state.current with
    | some dispatch =>
      let (dispatch, s) := s.continueDispatch dispatch
      if dispatch.report?.isSome then runLoop fuel { state with current := none } s
      else (.waits (.dispatchLoop { state with current := some dispatch }), s)
    | none =>
      if state.stopping then (.ends .nothing, s)
      else
        match s.visitOpen with
        | (false, s) => (.waits (.dispatchLoop state), s)
        | (true, visited) =>
          match s.engine.bus.receive state.place with
          | .lagged missed =>
            runLoop fuel
              { state with place := state.place + missed, missed := state.missed + missed } visited
          | .event event =>
            runLoop fuel { state with place := state.place + 1, current := some (.taken event) }
              visited
          | .empty => (.waits (.dispatchLoop state), s)

/-- Enough turns of a dispatch loop for the events that wait for it. -/
def loopFuel (s : System) (state : LoopState) : Nat :=
  2 * (s.engine.bus.tail - state.place) + 4

/-! The search for patterns. -/

/-- How late a regular run may be without putting off the ones after it. -/
def tolerance : Nat := 5

/-- When the run after the one that is due is due itself. -/
def nextTick (s : System) (state : JobState) : Nat :=
  let start := if state.tickDue + tolerance < s.time then s.time else state.tickDue
  start + state.schedule.interval

/-- A pattern job goes on until it has to wait. It heeds a request to stop before the next run. -/
def runJob : Nat → JobState → System → Progress × System
  | 0, state, s => (.waits (.patternJob state), s)
  | fuel + 1, state, s =>
    match state.run with
    | some .sizing =>
      match s.visit 0 .read with
      | (true, s) =>
        let isWorthwhile := state.schedule.minHistory ≤ s.engine.alerts.history.length
        runJob fuel { state with run := if isWorthwhile then some .reading else none } s
      | (false, s) => (.waits (.patternJob state), s)
    | some .reading =>
      match s.visit 0 .read with
      | (true, s) =>
        let (answer, s) := s.callPatterns state.schedule.window
        runJob fuel { state with run := some (.asked answer) } s
      | (false, s) => (.waits (.patternJob state), s)
    | some (.asked answer) =>
      match answer.valueAt? s.time with
      | some analysis =>
        runJob fuel { state with run := none } (s.withEngine (s.engine.announcePatterns analysis).2)
      | none => (.waits (.patternJob state), s)
    | none =>
      if state.stopping then (.ends .nothing, s)
      else if state.startup.any fun wait => wait.due ≤ s.time then
        runJob fuel { state with startup := none, run := some .sizing } s
      else if state.tickDue ≤ s.time then
        runJob fuel { state with tickDue := s.nextTick state, tick := none, run := some .reading } s
      else
        match state.tick with
        | some _ => (.waits (.patternJob state), s)
        | none =>
          let (wait, s) := s.newWait (state.tickDue - s.time)
          (.waits (.patternJob { state with tick := some wait }), s)

/-- Enough turns of a pattern job: a late run is followed by at most `tolerance` more at once. -/
def jobFuel : Nat := 4 * tolerance + 20

/-! Tasks in general. -/

/-- The system in which a loop or job has been asked to stop. -/
def signal (s : System) (id : Nat) : System :=
  let stop (t : Task) : Task := match t with
    | .dispatchLoop state => .dispatchLoop { state with stopping := true }
    | .patternJob state => .patternJob { state with stopping := true }
    | t => t
  if (s.task? id).isSome then
    let tasks := s.tasks.map fun t => if t.1 = id then (id, stop t.2) else t
    { s with tasks }.wake id
  else s

/-- The end of loops and jobs: one after another is asked to stop and waited for. -/
def runStop (s : System) (current : Nat) : List Nat → Progress × System
  | [] =>
    if (s.task? current).isSome then (.waits (.stopping current []), s) else (.ends .nothing, s)
  | next :: later =>
    if (s.task? current).isSome then (.waits (.stopping current (next :: later)), s)
    else runStop (s.signal next) next later

/-- A task goes on. -/
def continueTask (s : System) (task : Task) : Progress × System :=
  match task with
  | .fresh _ => (.ends .nothing, s)
  | .held _ => (.ends .nothing, s)
  | .evaluation state => s.continueEvaluation state
  | .detection source fired checks =>
    let (more, rest, s) := s.continueChecks source checks
    if !rest.any isOpen then (.ends (.fired (fired + more)), s)
    else (.waits (.detection source (fired + more) rest), s)
  | .enrichment alert r c =>
    let task := .enrichment alert (r.settledAt s.time) (c.settledAt s.time)
    match r.valueAt? s.time, c.valueAt? s.time with
    | some recommendations, some correlations =>
      if recommendations.recommendations.isEmpty && correlations.correlations.isEmpty then
        (.ends (.alert none), s)
      else s.changeAlert task fun e => e.enrich alert recommendations correlations
    | _, _ => (.waits task, s)
  | .feedback alert answer =>
    match answer.valueAt? s.time with
    | some x =>
      if (Enrichment.feedbackFields x).isEmpty then (.ends (.alert none), s)
      else s.changeAlert task fun e => e.giveFeedback alert x
    | none => (.waits task, s)
  | .explanation answer =>
    match answer.valueAt? s.time with
    | some x => (.ends (.explanation x), s)
    | none => (.waits task, s)
  | .recommendations answer =>
    match answer.valueAt? s.time with
    | some x => (.ends (.recommendations x), s)
    | none => (.waits task, s)
  | .correlations answer =>
    match answer.valueAt? s.time with
    | some x => (.ends (.correlations x), s)
    | none => (.waits task, s)
  | .patternRun answer =>
    match answer.valueAt? s.time with
    | some x =>
      let (analysis, e) := s.engine.announcePatterns x
      (.ends (.analysis analysis), s.withEngine e)
    | none => (.waits task, s)
  | .dispatch state =>
    let (state, s) := s.continueDispatch state
    match state.report? with
    | some report => (.ends (.report report), s)
    | none => (.waits (.dispatch state), s)
  | .dispatchLoop state => runLoop (s.loopFuel state) state s
  | .patternJob state => runJob jobFuel state s
  | .stopping current later => s.runStop current later

/-- The first thing that an activity does. A pattern job whose schedule is impossible cannot
live. -/
def startWork (s : System) (work : Work) : Progress × System :=
  match work with
  | .evaluate source metrics =>
    let rules := s.engine.definitions.rulesFor source
    let report := EvaluationReport.start source rules.length
    { s with visits := s.visits + 1 }.continueEvaluation
      { source, metrics, rules, visits := 0, report, checks := [] }
  | .detect source checks =>
    let (checks, s) := callChecks checks s
    s.continueTask (.detection source 0 checks)
  | .enrich alert =>
    let (recommendations, s) := s.callRecommend alert
    let (correlations, s) := s.callCorrelate alert
    s.continueTask (.enrichment alert recommendations correlations)
  | .feedback alert type =>
    let (answer, s) := s.callFeedback alert type
    s.continueTask (.feedback alert answer)
  | .explain metrics resourceType =>
    let (answer, s) := s.callExplain metrics resourceType
    s.continueTask (.explanation answer)
  | .recommend alert =>
    let (answer, s) := s.callRecommend alert
    s.continueTask (.recommendations answer)
  | .correlate alert =>
    let (answer, s) := s.callCorrelate alert
    s.continueTask (.correlations answer)
  | .analyzePatterns window =>
    let (answer, s) := s.callPatterns window
    s.continueTask (.patternRun answer)
  | .dispatch event => s.continueTask (.dispatch (.taken event))
  | .dispatchLoop place =>
    s.continueTask (.dispatchLoop { place, stopping := false, current := none })
  | .patternJob schedule =>
    if !schedule.isPossible then (.ends .nothing, s)
    else
      let (startup, s) := s.newWait schedule.startupDelay
      let (tick, s) := s.newWait schedule.interval
      s.continueTask (.patternJob
        { schedule, stopping := false, startup := some startup, tickDue := tick.due,
          tick := some tick, run := none })
  | .stop [] => (.ends .nothing, s)
  | .stop (first :: later) => (s.signal first).runStop first later

/-- Whether an activity reads the history at once, for the sake of an alert. -/
def readsFirst : Work → Bool
  | .enrich _ => true
  | .feedback _ type => type ≠ .explanation
  | _ => false

/-- An activity that has been held up at the gate goes on. Of two calls it makes the second one
first. -/
def resumeWork (s : System) (work : Work) : Progress × System :=
  match work with
  | .enrich alert =>
    let (correlations, s) := s.callCorrelate alert
    let (recommendations, s) := s.callRecommend alert
    s.continueTask (.enrichment alert recommendations correlations)
  | work => s.startWork work

/-- An activity starts, `how` it is to, unless it has to wait for the store. -/
def enter (s : System) (work : Work) (how : System → Work → Progress × System) :
    Progress × System :=
  if readsFirst work then
    match s.visit 0 .read with
    | (true, s) => how s work
    | (false, s) => (.waits (.held work), s)
  else how s work

/-- The system without a task that has ended. Those who wait for its end can go on. -/
def finish (s : System) (id : Nat) (result : TaskResult) : System :=
  let s := { s with tasks := s.tasks.filter fun t => t.1 != id }.forgetStrands id
  let s := if s.foreground = some id then { s with result := some result } else s
  let waiting := s.tasks.filter fun t => match t.2 with
    | .stopping current _ => current == id
    | _ => false
  s.wakeAll (waiting.map Prod.fst)

/-- A task of the queue takes its turn. The turn of the foreground has begun before it starts. -/
def turn (s : System) (id : Nat) : System :=
  match s.task? id with
  | none => s
  | some task =>
    let s := { s with current := id, visits := 0 }
    let s := if task.wakesByStrand then s else s.forgetStrands id
    let (progress, s) := match task with
      | .fresh work =>
        let s := if s.foreground = some id then { s with visits := s.looks } else s
        s.enter work startWork
      | .held work => s.enter work resumeWork
      | task => s.continueTask task
    match progress with
    | .waits task => { s with tasks := s.tasks.map fun t => if t.1 = id then (id, task) else t }
    | .ends result => s.finish id result

end MetricAlerts.System
