import MetricAlerts.AlertStore
import MetricAlerts.Console
import MetricAlerts.Definitions.Basic
import MetricAlerts.Enrichment
import MetricAlerts.Evaluation
import MetricAlerts.Notification
import MetricAlerts.Realtime.Hub

/-! The state of the alerting engine and its atomic steps. A step changes the store and publishes
what it has changed; the work that it leaves to the background is part of its result. -/

namespace MetricAlerts

/-- Where new alert ids and times come from: the n-th of either. -/
structure Environment where
  alertId : Nat → String
  clock : Nat → Timestamp

structure Engine where
  environment : Environment
  definitions : Definitions
  alerts : AlertStore
  bus : Bus
  hub : Hub
  console : Array ConsoleLine
  idsUsed : Nat
  readings : Nat

namespace Engine

def autoResolveReason : String := "condition no longer met"

def manualResolveReason : String := "manually resolved"

def ruleDeletedReason : String := "rule deleted"

/-- The id of the next alert. -/
def nextId (e : Engine) : String := e.environment.alertId e.idsUsed

/-- The time. -/
def now (e : Engine) : Timestamp := e.environment.clock e.readings

/-- The engine after a reading of the clock. -/
def tick (e : Engine) : Engine := { e with readings := e.readings + 1 }

def publish (e : Engine) (event : Event) : Engine := { e with bus := e.bus.publish event }

/-! Changes of the store that are not announced. -/

/-- A new alert of a rule, unless it has one. -/
def storeCreate (e : Engine) (rule : Rule) (source : String) (value : Float) (metrics : Json) :
    CreateOutcome × Engine :=
  match e.alerts.create rule source value metrics e.nextId e.now with
  | (.created alert, alerts) =>
    (.created alert, { e with alerts, idsUsed := e.idsUsed + 1 }.tick)
  | (.existing alert, _) => (.existing alert, e)

/-- A new alert for an anomaly, and the one that had to make way for it. -/
def storeCreateAnomaly (e : Engine) (rule : Rule) (source : String) (anomaly : Anomaly)
    (metrics : Json) : Alert × Option Alert × Engine :=
  let (alert, superseded, alerts) :=
    e.alerts.createAnomaly rule source anomaly metrics e.nextId e.now e.tick.now
  (alert, superseded, { e with alerts, idsUsed := e.idsUsed + 1 }.tick.tick)

/-- The engine with the outcome of a change of the store, which took a reading of the clock. -/
def withAlerts (e : Engine) (changed : Option (Alert × AlertStore)) : Option (Alert × Engine) :=
  changed.map fun (alert, alerts) => (alert, { e with alerts }.tick)

def storeResolve? (e : Engine) (name reason : String) : Option (Alert × Engine) :=
  e.withAlerts (e.alerts.resolve? name reason e.now)

def storeResolveRule? (e : Engine) (ruleId reason : String) : Option (Alert × Engine) :=
  e.withAlerts (e.alerts.resolveRule? ruleId reason e.now)

def storeAcknowledge? (e : Engine) (name : String) : Option (Alert × Engine) :=
  e.withAlerts (e.alerts.acknowledge? name e.now)

def storeMerge? (e : Engine) (name : String) (fields : Dict Json) : Option (Alert × Engine) :=
  e.withAlerts (e.alerts.mergeAnnotations? name fields)

def storeClear (e : Engine) : Engine := { e with alerts := e.alerts.clear }

/-! What operators do. -/

/-- The acknowledged alert that a key or an id names. -/
def acknowledge? (e : Engine) (name : String) : Option (Alert × Engine) :=
  (e.storeAcknowledge? name).map fun (alert, e) => (alert, e.publish (.updated alert))

/-- The resolved alert that a key or an id names. -/
def resolve? (e : Engine) (name : String) (reason : Option String) : Option (Alert × Engine) :=
  (e.storeResolve? name (reason.getD manualResolveReason)).map fun (alert, e) =>
    (alert, e.publish (.resolved alert))

def withRules (e : Engine) (rules : List Rule) : Engine :=
  { e with definitions := { e.definitions with rules } }

def withChannels (e : Engine) (channels : List Channel) : Engine :=
  { e with definitions := { e.definitions with channels } }

def addRule (e : Engine) (rule : Rule) : Except DefinitionError Engine :=
  (Registry.add e.definitions.rules rule).map e.withRules

def updateRule (e : Engine) (id : String) (rule : Rule) : Except DefinitionError Engine :=
  (Registry.update e.definitions.rules id rule).map e.withRules

/-- The engine without a rule, and that rule. -/
def removeRule (e : Engine) (id : String) : Except DefinitionError (Rule × Engine) :=
  (Registry.delete e.definitions.rules id).map fun (rules, rule) => (rule, e.withRules rules)

/-- The engine without a rule and without the alert that is active under its id. -/
def deleteRule (e : Engine) (id : String) : Except DefinitionError (Rule × Engine) :=
  (e.removeRule id).map fun (rule, e) =>
    match e.storeResolveRule? rule.id ruleDeletedReason with
    | some (alert, e) => (rule, e.publish (.resolved alert))
    | none => (rule, e)

def addChannel (e : Engine) (channel : Channel) : Except DefinitionError Engine :=
  (Registry.add e.definitions.channels channel).map e.withChannels

def updateChannel (e : Engine) (id : String) (channel : Channel) : Except DefinitionError Engine :=
  (Registry.update e.definitions.channels id channel).map e.withChannels

def deleteChannel (e : Engine) (id : String) : Except DefinitionError (Channel × Engine) :=
  (Registry.delete e.definitions.channels id).map fun (channels, channel) =>
    (channel, e.withChannels channels)

/-! Evaluation of snapshots. -/

/-- What a condition has to say about metrics: an alert fires while it holds and is resolved when
it holds no longer. -/
def evaluateCondition (e : Engine) (rule : Rule) (source : String) (metrics : Json)
    (c : Condition) : Except EvaluationError RuleOutcome × Engine :=
  if !c.threshold.isFinite then (.error (.nonFiniteThreshold rule.id), e)
  else
    match c.query.resolve? metrics with
    | none => (.ok .skipped, e)
    | some value =>
      if c.comparison.holds value c.threshold then
        match e.storeCreate rule source value (.object [(c.query.text, Json.ofFloat value)]) with
        | (.created alert, e) => (.ok (.fired 1), e.publish (.created alert))
        | (.existing _, e) => (.ok .unchanged, e)
      else
        match e.storeResolveRule? rule.id autoResolveReason with
        | some (alert, e) => (.ok .resolved, e.publish (.resolved alert))
        | none => (.ok .unchanged, e)

/-- What a rule does with metrics, and what is left to be checked for anomalies. -/
def evaluateRule (e : Engine) (rule : Rule) (source : String) (metrics : Json) :
    Except EvaluationError RuleOutcome × Option AnomalyCheck × Engine :=
  match rule.kind with
  | .threshold c =>
    let (outcome, e) := e.evaluateCondition rule source metrics c
    (outcome, none, e)
  | .rateOfChange _ => (.ok .notEvaluated, none, e)
  | .anomaly _ _ =>
    match AnomalyCheck.ofRule? rule metrics with
    | some (.ok check) => (.ok .deferred, some check, e)
    | some (.error failure) => (.error failure, none, e)
    | none => (.ok .notEvaluated, none, e)

/-- One rule after another, with the checks that they leave in their order. -/
def evaluateRules (source : String) (metrics : Json) :
    List Rule → EvaluationReport → Engine → EvaluationReport × List AnomalyCheck × Engine
  | [], report, e => (report, [], e)
  | rule :: rules, report, e =>
    let (outcome, check, e) := e.evaluateRule rule source metrics
    let (report, checks, e) := evaluateRules source metrics rules (report.count outcome) e
    (report, check.toList ++ checks, e)

/-- The evaluation of a snapshot by all rules that look at its source. The checks are to be made in
the background. -/
def evaluate (e : Engine) (source : String) (metrics : Json) :
    EvaluationReport × List AnomalyCheck × Engine :=
  let rules := e.definitions.rulesFor source
  evaluateRules source metrics rules (EvaluationReport.start source rules.length) e

/-- One alert for each of the anomalies, in their order. Each of them is to be enriched in the
background. -/
def raiseAnomalies (check : AnomalyCheck) (source : String) :
    List Anomaly → Engine → List Alert × Engine
  | [], e => ([], e)
  | anomaly :: anomalies, e =>
    let (alert, superseded, e) := e.storeCreateAnomaly check.rule source anomaly check.subset
    let e := match superseded with
      | some old => e.publish (.resolved old)
      | none => e
    let (alerts, e) := raiseAnomalies check source anomalies (e.publish (.created alert))
    (alert :: alerts, e)

/-! Enrichment of alerts and analysis of patterns. -/

/-- An alert with further annotations, provided that there are any and that it is still active. -/
def annotate (e : Engine) (alert : Alert) (fields : List (String × Json)) : Option Alert × Engine :=
  match Enrichment.stamped? fields e.now with
  | none => (none, e)
  | some stamped =>
    match e.tick.storeMerge? alert.id stamped with
    | some (updated, e) => (some updated, e.publish (.updated updated))
    | none => (none, e.tick)

/-- An alert with the analyzer's recommendations and correlations. -/
def enrich (e : Engine) (alert : Alert) (recommendations : Recommendations)
    (correlations : Correlations) : Option Alert × Engine :=
  e.annotate alert
    (Enrichment.recommendationFields recommendations ++ Enrichment.correlationFields correlations)

/-- An alert with the analyzer's answer on behalf of a feedback channel. -/
def giveFeedback (e : Engine) (alert : Alert) (answer : Enrichment.FeedbackAnswer) :
    Option Alert × Engine :=
  e.annotate alert (Enrichment.feedbackFields answer)

/-- What the analyzer noticed in the history, which is announced unless it is nothing. -/
def announcePatterns (e : Engine) (analysis : PatternAnalysis) : Option PatternAnalysis × Engine :=
  if analysis.isEmpty then (none, e) else (some analysis, e.publish (.patternsDetected analysis))

/-! Dispatch of events to channels. -/

/-- What is to be done about an event for a channel. -/
inductive ChannelAction where
  /-- Lines to be written. -/
  | write (lines : List ConsoleLine)
  /-- The event goes to the realtime clients. -/
  | broadcast
  /-- A notification to be handed to the transport. -/
  | notify (notification : Notification)
  /-- Feedback to be asked for in the background. -/
  | feedback (alert : Alert) (type : FeedbackType)
  | skip
  | fail (error : ChannelError)

/-- What an event means for a channel. -/
def actionFor (channel : Channel) (event : Event) : ChannelAction :=
  match channel.type with
  | .console => .write (ConsoleLine.ofEvent channel.id event)
  | .websocket => .broadcast
  | .aiFeedback =>
    match event with
    | .created alert =>
      match channel.config.minSeverity with
      | some least => if alert.severity < least then .skip else .feedback alert channel.feedback
      | none => .feedback alert channel.feedback
    | _ => .skip
  | _ =>
    let notify (alert : Alert) : ChannelAction :=
      match Notification.build channel alert with
      | .ok notification => .notify notification
      | .error failure => .fail failure
    match event with
    | .created alert => notify alert
    | .resolved alert => notify alert
    | _ => .skip

/-- The part of an action that is done at once. -/
def perform (e : Engine) (event : Event) : ChannelAction → Engine
  | .write lines => { e with console := e.console ++ lines.toArray }
  | .broadcast => { e with hub := (e.hub.broadcastEvent event).2 }
  | _ => e

end Engine

/-- How many channels an event reached. -/
structure DispatchReport where
  delivered : Nat
  failed : Nat
  skipped : Nat
  deriving DecidableEq, Repr

namespace DispatchReport

def toJson (r : DispatchReport) : Json :=
  .object [("delivered", .int r.delivered), ("failed", .int r.failed), ("skipped", .int r.skipped)]

end DispatchReport

end MetricAlerts
