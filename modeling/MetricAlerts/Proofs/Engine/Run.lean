import Mathlib.Logic.Relation
import MetricAlerts.Engine
import MetricAlerts.Proofs.Definitions.Changes
import MetricAlerts.Proofs.Store.Run

/-! Runs of an engine. An engine does one thing at a time, and whatever it is given for that may
come at any time and in any order: requests, snapshots, and answers of the analyzer, however
late. -/

namespace MetricAlerts

namespace Event

def isCreated : Event → Bool
  | .created _ => true
  | _ => false

def isUpdated : Event → Bool
  | .updated _ => true
  | _ => false

def isResolved : Event → Bool
  | .resolved _ => true
  | _ => false

end Event

/-- Whether an event is about the alert with an id. -/
def Event.isAbout (id : String) (event : Event) : Bool := event.alert?.any fun a => a.id == id

/-- No event is about the alert with an id. -/
def IsUnknown (events : List Event) (id : String) : Prop :=
  ∀ event ∈ events, event.isAbout id = false

instance (events : List Event) (id : String) : Decidable (IsUnknown events id) :=
  inferInstanceAs (Decidable (∀ event ∈ events, event.isAbout id = false))

namespace Engine

/-- An engine without alerts and clients. -/
def initial (environment : Environment) (definitions : Definitions)
    (historyLimit anomalyLimit eventBuffer clientBuffer maxMetricsBytes : Nat) : Engine where
  environment := environment
  definitions := definitions
  alerts := .empty historyLimit anomalyLimit
  bus := .empty eventBuffer
  hub := .empty clientBuffer maxMetricsBytes
  console := #[]
  idsUsed := 0
  readings := 0

/-- The events that have been published. -/
def events (e : Engine) : List Event := e.bus.published.toList

/-- The engine without the alert that is active under the id of a removed rule. -/
def retire (e : Engine) (ruleId : String) : Engine :=
  match e.storeResolveRule? ruleId ruleDeletedReason with
  | some (alert, e) => e.publish (.resolved alert)
  | none => e

/-- What an engine does at a time. The evaluation of a snapshot does so for each rule, a check for
each anomaly. -/
inductive Action where
  | acknowledge (name : String)
  | resolve (name : String) (reason : Option String)
  | addRule (rule : Rule)
  | updateRule (id : String) (rule : Rule)
  | removeRule (id : String)
  | retire (ruleId : String)
  | addChannel (channel : Channel)
  | updateChannel (id : String) (channel : Channel)
  | deleteChannel (id : String)
  | evaluate (rule : Rule) (source : String) (metrics : Json)
  | raise (check : AnomalyCheck) (source : String) (anomaly : Anomaly)
  | enrich (alert : Alert) (recommendations : Recommendations) (correlations : Correlations)
  | giveFeedback (alert : Alert) (answer : Enrichment.FeedbackAnswer)
  | announcePatterns (analysis : PatternAnalysis)

/-- The engine after an action. A request that is refused leaves it as it was. -/
def after (e : Engine) : Action → Engine
  | .acknowledge name => ((e.acknowledge? name).map Prod.snd).getD e
  | .resolve name reason => ((e.resolve? name reason).map Prod.snd).getD e
  | .addRule rule => (e.addRule rule).toOption.getD e
  | .updateRule id rule => (e.updateRule id rule).toOption.getD e
  | .removeRule id => ((e.removeRule id).toOption.map Prod.snd).getD e
  | .retire ruleId => e.retire ruleId
  | .addChannel channel => (e.addChannel channel).toOption.getD e
  | .updateChannel id channel => (e.updateChannel id channel).toOption.getD e
  | .deleteChannel id => ((e.deleteChannel id).toOption.map Prod.snd).getD e
  | .evaluate rule source metrics => (e.evaluateRule rule source metrics).2.2
  | .raise check source anomaly => (raiseAnomalies check source [anomaly] e).2
  | .enrich alert recommendations correlations => (e.enrich alert recommendations correlations).2
  | .giveFeedback alert answer => (e.giveFeedback alert answer).2
  | .announcePatterns analysis => (e.announcePatterns analysis).2

/-- The engine after one action after another. -/
def run (e : Engine) (actions : List Action) : Engine := actions.foldl after e

/-- A snapshot is evaluated by one rule after another. -/
theorem evaluateRules_eq_run (source : String) (metrics : Json) (rules : List Rule)
    (report : EvaluationReport) (e : Engine) :
    (evaluateRules source metrics rules report e).2.2 =
      e.run (rules.map fun rule => .evaluate rule source metrics) := by
  induction rules generalizing report e with
  | nil => rfl
  | cons rule rules ih => exact ih _ _

/-- The alerts of a check are raised one after another. -/
theorem raiseAnomalies_eq_run (check : AnomalyCheck) (source : String) (anomalies : List Anomaly)
    (e : Engine) :
    (raiseAnomalies check source anomalies e).2 = e.run (anomalies.map (.raise check source)) := by
  induction anomalies generalizing e with
  | nil => rfl
  | cons anomaly anomalies ih => exact ih _

/-- The deletion of a rule removes it first and then retires it. -/
theorem eq_run_of_deleteRule {e e' : Engine} {id : String} {rule : Rule}
    (h : e.deleteRule id = .ok (rule, e')) : e' = e.run [.removeRule id, .retire rule.id] := by
  simp only [deleteRule] at h
  cases hRemove : e.removeRule id with
  | error => rw [hRemove] at h; cases h
  | ok removed =>
    obtain ⟨found, e₁⟩ := removed
    rw [hRemove] at h
    simp only [Except.map, Except.ok.injEq] at h
    have hRetire : (found, e₁.retire found.id) = (rule, e') := by
      rw [← h, retire]
      cases e₁.storeResolveRule? found.id ruleDeletedReason <;> rfl
    cases hRetire
    simp [run, after, hRemove, Except.toOption]

/-! Requests for changes of the definitions. -/

/-- The change of the definitions that an action asks for. -/
def Action.request? : Action → Option Definitions.Request
  | .addRule rule => some (.rule (.add rule))
  | .updateRule id rule => some (.rule (.update id rule))
  | .removeRule id => some (.rule (.delete id))
  | .addChannel channel => some (.channel (.add channel))
  | .updateChannel id channel => some (.channel (.update id channel))
  | .deleteChannel id => some (.channel (.delete id))
  | _ => none

theorem after_of_rule_request {e : Engine} {action : Action}
    {change : Registry.Change Rule} (h : action.request? = some (.rule change)) :
    e.after action = e.withRules (Registry.after e.definitions.rules change) := by
  cases action with
  | addRule rule =>
    cases h
    simp only [after, addRule, Registry.after, Registry.apply]
    cases Registry.add e.definitions.rules rule <;> rfl
  | updateRule id rule =>
    cases h
    simp only [after, updateRule, Registry.after, Registry.apply]
    cases Registry.update e.definitions.rules id rule <;> rfl
  | removeRule id =>
    cases h
    simp only [after, removeRule, Registry.after, Registry.apply]
    cases Registry.delete e.definitions.rules id <;> rfl
  | _ => cases h

theorem after_of_channel_request {e : Engine} {action : Action}
    {change : Registry.Change Channel} (h : action.request? = some (.channel change)) :
    e.after action = e.withChannels (Registry.after e.definitions.channels change) := by
  cases action with
  | addChannel channel =>
    cases h
    simp only [after, addChannel, Registry.after, Registry.apply]
    cases Registry.add e.definitions.channels channel <;> rfl
  | updateChannel id channel =>
    cases h
    simp only [after, updateChannel, Registry.after, Registry.apply]
    cases Registry.update e.definitions.channels id channel <;> rfl
  | deleteChannel id =>
    cases h
    simp only [after, deleteChannel, Registry.after, Registry.apply]
    cases Registry.delete e.definitions.channels id <;> rfl
  | _ => cases h

/-! Steps. -/

/-- The next id is new, and the time is later than the beginning of all active alerts. -/
structure IsFresh (e : Engine) : Prop where
  unused : e.alerts.IsUnused e.nextId
  unknown : IsUnknown e.events e.nextId
  later : ∀ entry ∈ e.alerts.active, entry.2.startsAt < e.now

instance (e : Engine) : Decidable e.IsFresh :=
  decidable_of_iff (_ ∧ _ ∧ _) ⟨fun ⟨h, h', h''⟩ => ⟨h, h', h''⟩, fun ⟨h, h', h''⟩ => ⟨h, h', h''⟩⟩

/-- An engine does something, or it serves clients, writes lines and reads the clock. -/
inductive Step (e : Engine) : Engine → Prop
  | work (action : Action) : Step e (e.after action)
  | serve (hub : Hub) (console : Array ConsoleLine) (readings : Nat) :
      Step e { e with hub, console, readings }

/-- A step in which the id and the time of a new alert are new. -/
structure FreshStep (e e' : Engine) : Prop where
  step : e.Step e'
  fresh : e.idsUsed < e'.idsUsed → e.IsFresh

/-- A run leads from one engine to the other. -/
abbrev Reaches : Engine → Engine → Prop := Relation.ReflTransGen FreshStep

/-- A step in which no active alert has the id of a new alert or is kept under it. -/
structure UnusedStep (e e' : Engine) : Prop where
  step : e.Step e'
  unused : e.idsUsed < e'.idsUsed → e.alerts.IsUnused e.nextId

/-- A run of which no more is known than that new ids are not in use. -/
abbrev Leads : Engine → Engine → Prop := Relation.ReflTransGen UnusedStep

theorem FreshStep.unusedStep {e e' : Engine} (step : e.FreshStep e') : e.UnusedStep e' :=
  ⟨step.step, fun used => (step.fresh used).unused⟩

theorem Reaches.leads {e e' : Engine} (reaches : Reaches e e') : Leads e e' :=
  Relation.ReflTransGen.mono (fun _ _ step => step.unusedStep) _ _ reaches

/-- Where an action of a sequence needs a new alert, its id and its time are new. -/
def IsFreshRun : Engine → List Action → Prop
  | _, [] => True
  | e, action :: actions =>
    (e.idsUsed < (e.after action).idsUsed → e.IsFresh) ∧ IsFreshRun (e.after action) actions

instance decidableIsFreshRun : (e : Engine) → (actions : List Action) →
    Decidable (IsFreshRun e actions)
  | _, [] => inferInstanceAs (Decidable True)
  | e, action :: actions =>
    have := decidableIsFreshRun (e.after action) actions
    inferInstanceAs (Decidable (_ ∧ _))

theorem reaches_run {e : Engine} {actions : List Action} (fresh : IsFreshRun e actions) :
    Reaches e (e.run actions) := by
  induction actions generalizing e with
  | nil => exact .refl
  | cons action actions ih => exact .head ⟨.work action, fresh.1⟩ (ih fresh.2)

/-- An engine with one rule, of which one anomaly alert may be active. -/
def diskEngine : Engine :=
  initial ⟨fun n => if n = 0 then "first" else "second", fun n => ⟨n, 0⟩⟩
    ⟨[AlertStore.diskRule], []⟩ 2 1 4 2 100

def raiseDisk : Action :=
  .raise ⟨AlertStore.diskRule, none, .error, .null⟩ "node" ⟨none, none, .error, "slow", none⟩

/-- A rule that looks at the load of a processor. -/
def cpuRule (id : String) : Rule where
  id := id
  name := "Processor"
  description := ""
  source := Rule.allSources
  severity := .error
  enabled := true
  labels := .empty
  annotations := .empty
  kind := .threshold ⟨.key "cpu", .greater, 80⟩

/-- The rule looks at a snapshot of the load. -/
def evaluateCpu (id : String) (load : Int) : Action :=
  .evaluate (cpuRule id) "node" (.object [("cpu", .int load)])

end Engine

end MetricAlerts
