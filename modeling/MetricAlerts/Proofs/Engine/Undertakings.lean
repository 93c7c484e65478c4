import MetricAlerts.Proofs.Definitions.Registry
import MetricAlerts.Proofs.Engine.Outcome

/-! Rules at work. A rule is looked up when a snapshot comes and acts on it later: when the rules
before it have been evaluated, or when the analyzer has answered. It then acts as the copy that has
been looked up, whatever has become of the rules meanwhile. -/

namespace MetricAlerts

/-- What becomes of the rules: at most one of them is added, replaced or removed. -/
inductive RuleChange (rules : List Rule) : Engine.Action → List Rule → Prop
  | kept (action : Engine.Action) : RuleChange rules action rules
  | added {rule : Rule} {changed : List Rule} (h : Registry.add rules rule = .ok changed) :
      RuleChange rules (.addRule rule) changed
  | replaced {id : String} {rule : Rule} {changed : List Rule}
      (h : Registry.update rules id rule = .ok changed) :
      RuleChange rules (.updateRule id rule) changed
  | removed {id : String} {rule : Rule} {changed : List Rule}
      (h : Registry.delete rules id = .ok (changed, rule)) :
      RuleChange rules (.removeRule id) changed

namespace Engine

/-- The rule that acts on a snapshot. -/
def Action.rule? : Action → Option Rule
  | .evaluate rule _ _ => some rule
  | .raise check _ _ => some check.rule
  | _ => none

/-- The addition of a rule with an id. -/
def Action.Adds (id : String) : Action → Prop
  | .addRule rule => rule.id = id
  | _ => False

instance (id : String) : (action : Action) → Decidable (action.Adds id)
  | .addRule rule => inferInstanceAs (Decidable (rule.id = id))
  | .acknowledge _ | .resolve _ _ | .updateRule _ _ | .removeRule _ | .retire _ | .addChannel _
  | .updateChannel _ _ | .deleteChannel _ | .evaluate _ _ _ | .raise _ _ _ | .enrich _ _ _
  | .giveFeedback _ _ | .announcePatterns _ => inferInstanceAs (Decidable False)

end Engine

variable {rules changed : List Rule} {action : Engine.Action} {id : String}

theorem RuleChange.distinct (h : RuleChange rules action changed)
    (distinct : (Registry.ids rules).Nodup) : (Registry.ids changed).Nodup := by
  cases h with
  | kept => exact distinct
  | added h => exact Registry.nodup_of_add distinct h
  | replaced h => exact Registry.ids_of_update h ▸ distinct
  | removed h => exact (Registry.sublist_of_delete h).nodup distinct

/-- No id comes to be in use but by the addition of its rule. -/
theorem RuleChange.notMem (h : RuleChange rules action changed) (other : ¬action.Adds id)
    (absent : id ∉ Registry.ids rules) : id ∉ Registry.ids changed := by
  cases h with
  | kept => exact absent
  | added h =>
    rw [Registry.ids_of_add h, List.mem_append, List.mem_singleton, not_or]
    exact ⟨absent, Ne.symm other⟩
  | replaced h => exact Registry.ids_of_update h ▸ absent
  | removed h => exact fun mem => absent ((Registry.sublist_of_delete h).subset mem)

namespace Engine

/-- What an action does to the rules and to the alerts. A new alert belongs to the rule that
acts. -/
inductive Does (e : Engine) (action : Action) (e' : Engine) : Prop
  | defines (change : RuleChange e.definitions.rules action e'.definitions.rules)
      (alerts : e'.alerts = e.alerts)
  | edits {event : Event} (definitions : e'.definitions = e.definitions)
      (edit : e.alerts.Edit event e'.alerts) (old : ∀ a, event ≠ .created a)
  | opens {rule : Rule} {a : Alert} {middle : AlertStore}
      (definitions : e'.definitions = e.definitions) (acts : action.rule? = some rule)
      (ofRule : a.ruleId = rule.id) (opens : e.alerts.Opens a middle)
      (closes : e'.alerts = middle ∨ ∃ old, middle.Edit (.resolved old) e'.alerts)

variable {e e' : Engine}

theorem Does.quiet (definitions : e'.definitions = e.definitions) (alerts : e'.alerts = e.alerts) :
    e.Does action e' :=
  .defines (definitions ▸ .kept action) alerts

theorem Does.change (h : e.Does action e') :
    RuleChange e.definitions.rules action e'.definitions.rules := by
  cases h with
  | defines change => exact change
  | edits definitions => exact definitions ▸ .kept action
  | opens definitions => exact definitions ▸ .kept action

theorem does_retire (sound : e.alerts.Sound) (ruleId : String) :
    e.Does action (e.retire ruleId) := by
  unfold retire
  split
  · next h =>
    obtain ⟨alerts, hChanged, rfl⟩ := eq_of_withAlerts h
    exact .edits rfl (AlertStore.edit_of_resolveRule? sound.keys_nodup hChanged) fun _ => nofun
  · exact .quiet rfl rfl

theorem does_annotate (e : Engine) (alert : Alert) (fields : List (String × Json)) :
    e.Does action (e.annotate alert fields).2 := by
  unfold annotate
  split
  · exact .quiet rfl rfl
  · split
    · next h =>
      obtain ⟨alerts, hChanged, rfl⟩ := eq_of_withAlerts h
      exact .edits rfl (AlertStore.edit_of_mergeAnnotations? hChanged) fun _ => nofun
    · exact .quiet rfl rfl

theorem does_evaluateCondition (sound : e.alerts.Sound) {rule : Rule} (source : String)
    (metrics : Json) (c : Condition) (acts : action.rule? = some rule)
    (unused : e.idsUsed < (e.evaluateCondition rule source metrics c).2.idsUsed →
      e.alerts.IsUnused e.nextId) :
    e.Does action (e.evaluateCondition rule source metrics c).2 := by
  revert unused
  unfold evaluateCondition
  split
  · exact fun _ => .quiet rfl rfl
  · split
    · exact fun _ => .quiet rfl rfl
    · split
      · split
        · next h =>
          obtain ⟨alerts, hCreate, rfl⟩ := eq_of_storeCreate h
          intro unused
          have ofRule := congrArg Alert.ruleId (AlertStore.opened_of_create hCreate).1
          exact .opens rfl acts ofRule
            (AlertStore.opens_of_create (unused (Nat.lt_succ_self _)).2 hCreate) (.inl rfl)
        · next h =>
          obtain rfl := eq_of_storeCreate_existing h
          exact fun _ => .quiet rfl rfl
      · intro _
        split
        · next h =>
          obtain ⟨alerts, hChanged, rfl⟩ := eq_of_withAlerts h
          exact .edits rfl (AlertStore.edit_of_resolveRule? sound.keys_nodup hChanged)
            fun _ => nofun
        · exact .quiet rfl rfl

theorem does_evaluateRule (sound : e.alerts.Sound) {rule : Rule} (source : String) (metrics : Json)
    (acts : action.rule? = some rule)
    (unused : e.idsUsed < (e.evaluateRule rule source metrics).2.2.idsUsed →
      e.alerts.IsUnused e.nextId) :
    e.Does action (e.evaluateRule rule source metrics).2.2 := by
  revert unused
  unfold evaluateRule
  split
  · exact does_evaluateCondition sound source metrics _ acts
  · exact fun _ => .quiet rfl rfl
  · split <;> exact fun _ => .quiet rfl rfl

theorem does_raise (unused : e.alerts.IsUnused e.nextId) (check : AnomalyCheck) (source : String)
    (anomaly : Anomaly) (acts : action.rule? = some check.rule) (sound : e.alerts.Sound) :
    e.Does action (e.after (.raise check source anomaly)) := by
  simp only [after, raiseAnomalies, storeCreateAnomaly]
  generalize hResult :
    e.alerts.createAnomaly check.rule source anomaly check.subset e.nextId e.now e.tick.now = result
  obtain ⟨a, superseded, alerts⟩ := result
  obtain ⟨hAlert, hCases⟩ := AlertStore.createAnomaly_cases unused hResult
  have ofRule : a.ruleId = check.rule.id := hAlert ▸ rfl
  have opens : e.alerts.Opens a (e.alerts.opened e.nextId a) :=
    hAlert ▸ AlertStore.opens_ofAnomaly unused
  obtain ⟨-, rfl, rfl⟩ | ⟨key, old, surplus, rfl, hResolve⟩ := hCases
  · exact .opens rfl acts ofRule opens (.inl rfl)
  · have middle := sound.edit opens.edit
    exact .opens rfl acts ofRule opens
      (.inr ⟨old, AlertStore.edit_of_resolveKey? middle.keys_nodup hResolve⟩)

theorem does_after (sound : e.alerts.Sound) (action : Action)
    (unused : e.idsUsed < (e.after action).idsUsed → e.alerts.IsUnused e.nextId) :
    e.Does action (e.after action) := by
  cases action with
  | acknowledge name =>
    simp only [after, acknowledge?]
    cases h : e.storeAcknowledge? name with
    | none => exact .quiet rfl rfl
    | some result =>
      obtain ⟨a, e'⟩ := result
      obtain ⟨alerts, hChanged, rfl⟩ := eq_of_withAlerts h
      exact .edits rfl (AlertStore.edit_of_acknowledge? hChanged) fun _ h => by cases h
  | resolve name reason =>
    simp only [after, resolve?]
    cases h : e.storeResolve? name (reason.getD manualResolveReason) with
    | none => exact .quiet rfl rfl
    | some result =>
      obtain ⟨a, e'⟩ := result
      obtain ⟨alerts, hChanged, rfl⟩ := eq_of_withAlerts h
      exact .edits rfl (AlertStore.edit_of_resolve? sound.keys_nodup hChanged) fun _ h => by cases h
  | retire ruleId => exact does_retire sound ruleId
  | evaluate rule source metrics => exact does_evaluateRule sound source metrics rfl unused
  | raise check source anomaly =>
    exact does_raise (unused (lt_idsUsed_raise e check source anomaly)) check source anomaly rfl
      sound
  | enrich alert => exact does_annotate e alert _
  | giveFeedback alert => exact does_annotate e alert _
  | announcePatterns analysis =>
    simp only [after, announcePatterns]
    split <;> exact .quiet rfl rfl
  | addRule rule =>
    simp only [after, addRule]
    cases h : Registry.add e.definitions.rules rule with
    | error => exact .quiet rfl rfl
    | ok rules => exact .defines (.added h) rfl
  | updateRule id rule =>
    simp only [after, updateRule]
    cases h : Registry.update e.definitions.rules id rule with
    | error => exact .quiet rfl rfl
    | ok rules => exact .defines (.replaced h) rfl
  | removeRule id =>
    simp only [after, removeRule]
    cases h : Registry.delete e.definitions.rules id with
    | error => exact .quiet rfl rfl
    | ok removed => exact .defines (.removed h) rfl
  | addChannel | updateChannel | deleteChannel =>
    rw [after_of_channel_request rfl]
    exact .defines (.kept _) rfl

/-- A check is made on behalf of the rule that has been evaluated. -/
theorem rule_of_check {e : Engine} {rule : Rule} {source : String} {metrics : Json}
    {check : AnomalyCheck} (h : (e.evaluateRule rule source metrics).2.1 = some check) :
    check.rule = rule := by
  unfold evaluateRule at h
  split at h
  · cases h
  · cases h
  · next resourceType minSeverity hKind =>
    simp only [AnomalyCheck.ofRule?, hKind] at h
    cases hSelect : AnomalyCheck.selectMetrics rule.id metrics resourceType with
    | error =>
      rw [hSelect] at h
      cases h
    | ok subset =>
      rw [hSelect] at h
      cases h
      rfl

end Engine

/-- What a rule is at with a snapshot: it is still to be evaluated, or its check is being made. -/
inductive Undertaking where
  | evaluation (rule : Rule) (source : String) (metrics : Json)
  | detection (check : AnomalyCheck) (source : String)

/-- The rule as it has been looked up. -/
def Undertaking.rule : Undertaking → Rule
  | .evaluation rule _ _ => rule
  | .detection check _ => check.rule

/-- An engine and what its rules are at. -/
structure AtWork where
  engine : Engine
  underway : List Undertaking

namespace AtWork

open Engine (Action Leads)

/-- The rules that are defined. -/
abbrev ruleIds (w : AtWork) : List String := Registry.ids w.engine.definitions.rules

/-- Requests are carried out as far as they are allowed. Snapshots come, and their evaluations and
checks act when it suits them, once or again and again, until they are over. -/
inductive Goes (allowed : Action → Prop) (w : AtWork) : AtWork → Prop
  | request (action : Action) (isRequest : action.rule? = none) (isAllowed : allowed action) :
      Goes allowed w { w with engine := w.engine.after action }
  | serve (hub : Hub) (console : Array ConsoleLine) (readings : Nat) :
      Goes allowed w { w with engine := { w.engine with hub, console, readings } }
  | ingest (source : String) (metrics : Json) :
      Goes allowed w { w with
        underway := w.underway ++
          (w.engine.definitions.rulesFor source).map (.evaluation · source metrics) }
  | evaluate {rule : Rule} {source : String} {metrics : Json}
      (mem : .evaluation rule source metrics ∈ w.underway) :
      Goes allowed w
        { engine := w.engine.after (.evaluate rule source metrics)
          underway := w.underway ++
            (w.engine.evaluateRule rule source metrics).2.1.toList.map (.detection · source) }
  | raise {check : AnomalyCheck} {source : String} (mem : .detection check source ∈ w.underway)
      (anomaly : Anomaly) :
      Goes allowed w { w with engine := w.engine.after (.raise check source anomaly) }
  | finish (left : List Undertaking) (subset : left ⊆ w.underway) :
      Goes allowed w { w with underway := left }

/-- One step after another. -/
abbrev Steps (allowed : Action → Prop) : AtWork → AtWork → Prop :=
  Relation.ReflTransGen (Goes allowed)

/-- A step in which a new alert gets an id that is not in use. -/
structure Proceeds (allowed : Action → Prop) (w w' : AtWork) : Prop where
  goes : w.Goes allowed w'
  unused : w.engine.idsUsed < w'.engine.idsUsed → w.engine.alerts.IsUnused w.engine.nextId

/-- A run in which all requests are allowed. -/
abbrev Runs (allowed : Action → Prop) : AtWork → AtWork → Prop :=
  Relation.ReflTransGen (Proceeds allowed)

variable {allowed : Action → Prop} {w w' : AtWork}

theorem Proceeds.request {action : Action} (isRequest : action.rule? = none)
    (isAllowed : allowed action) (same : (w.engine.after action).idsUsed = w.engine.idsUsed) :
    w.Proceeds allowed { w with engine := w.engine.after action } :=
  ⟨.request action isRequest isAllowed, fun used => absurd used (same ▸ Nat.lt_irrefl _)⟩

theorem Proceeds.leads (h : w.Proceeds allowed w') : Leads w.engine w'.engine := by
  obtain ⟨goes, unused⟩ := h
  cases goes with
  | request action => exact .single ⟨.work action, unused⟩
  | serve hub console readings => exact .single ⟨.serve hub console readings, unused⟩
  | @evaluate rule source metrics =>
    exact .single ⟨.work (.evaluate rule source metrics), unused⟩
  | @raise check source _ anomaly => exact .single ⟨.work (.raise check source anomaly), unused⟩
  | ingest | finish => exact .refl

theorem leads_of_runs (runs : Runs allowed w w') : Leads w.engine w'.engine := by
  induction runs with
  | refl => exact .refl
  | tail _ last ih => exact ih.trans last.leads

/-- A run keeps whatever every step keeps while the alerts are sound. -/
theorem keeps_of_runs {P : AtWork → Prop}
    (step : ∀ {w w'}, w.Proceeds allowed w' → w.engine.alerts.Sound → P w → P w')
    (runs : Runs allowed w w') (sound : w.engine.alerts.Sound) (h : P w) : P w' := by
  induction runs with
  | refl => exact h
  | tail first last ih => exact step last ((leads_of_runs first).sound sound) ih

/-- Who may be behind an action: a request that is allowed, or a rule that is at work. -/
def Permits (allowed : Action → Prop) (w : AtWork) (action : Action) : Prop :=
  match action.rule? with
  | none => allowed action
  | some rule => ∃ undertaking ∈ w.underway, undertaking.rule = rule

/-- A step does nothing to rules and alerts, or what an action does. -/
theorem Proceeds.does (h : w.Proceeds allowed w') (sound : w.engine.alerts.Sound) :
    w'.engine.definitions = w.engine.definitions ∧ w'.engine.alerts = w.engine.alerts ∨
      ∃ action, w.engine.Does action w'.engine ∧ w.Permits allowed action := by
  obtain ⟨goes, unused⟩ := h
  cases goes with
  | serve | ingest | finish => exact .inl ⟨rfl, rfl⟩
  | request action isRequest isAllowed =>
    refine .inr ⟨action, Engine.does_after sound action unused, ?_⟩
    rw [Permits, isRequest]
    exact isAllowed
  | @evaluate rule source metrics mem =>
    exact .inr ⟨.evaluate rule source metrics, Engine.does_after sound _ unused, _, mem, rfl⟩
  | raise mem anomaly =>
    exact .inr ⟨_, Engine.does_after sound _ unused, _, mem, rfl⟩

theorem Proceeds.distinct (h : w.Proceeds allowed w') (sound : w.engine.alerts.Sound)
    (distinct : w.ruleIds.Nodup) : w'.ruleIds.Nodup := by
  obtain ⟨same, -⟩ | ⟨action, does, -⟩ := h.does sound
  · rwa [ruleIds, same]
  · exact does.change.distinct distinct

/-! What is left of a rule. -/

/-- No rule with an id is added. -/
abbrev IsNotAdding (id : String) (action : Action) : Prop := ¬action.Adds id

/-- There is no rule with an id, and what is at work under the id holds a copy from the past. -/
structure IsLeft (id : String) (past : List Undertaking) (w : AtWork) : Prop where
  absent : id ∉ w.ruleIds
  held : ∀ u ∈ w.underway, u.rule.id = id → ∃ v ∈ past, v.rule = u.rule

theorem not_adds_of_permits {action : Action} (h : w.Permits (IsNotAdding id) action) :
    ¬action.Adds id := by
  cases action with
  | addRule rule => exact h
  | _ => exact not_false

theorem Proceeds.absent (h : w.Proceeds (IsNotAdding id) w') (sound : w.engine.alerts.Sound)
    (absent : id ∉ w.ruleIds) : id ∉ w'.ruleIds := by
  obtain ⟨same, -⟩ | ⟨action, does, permits⟩ := h.does sound
  · rwa [ruleIds, same]
  · exact does.change.notMem (not_adds_of_permits permits) absent

/-- What is at work after a step is what was at work before or the check of a rule that was, unless
a rule that is defined has been looked up. -/
theorem Goes.exists_rule (h : w.Goes allowed w') {u : Undertaking} (mem : u ∈ w'.underway)
    (absent : u.rule.id ∉ w.ruleIds) : ∃ v ∈ w.underway, v.rule = u.rule := by
  cases h with
  | request | serve | raise => exact ⟨u, mem, rfl⟩
  | ingest source metrics =>
    rcases List.mem_append.mp mem with mem | mem
    · exact ⟨u, mem, rfl⟩
    · obtain ⟨rule, hRule, rfl⟩ := List.mem_map.mp mem
      exact absurd (List.mem_map_of_mem (List.mem_of_mem_filter hRule)) absent
  | @evaluate rule source metrics evaluation =>
    rcases List.mem_append.mp mem with mem | mem
    · exact ⟨u, mem, rfl⟩
    · obtain ⟨check, hCheck, rfl⟩ := List.mem_map.mp mem
      exact ⟨_, evaluation, (Engine.rule_of_check (Option.mem_toList.mp hCheck)).symm⟩
  | finish left subset => exact ⟨u, subset mem, rfl⟩

theorem IsLeft.proceeds {past : List Undertaking} (h : w.IsLeft id past)
    (proceeds : w.Proceeds (IsNotAdding id) w') (sound : w.engine.alerts.Sound) :
    w'.IsLeft id past := by
  refine ⟨proceeds.absent sound h.absent, fun u mem ofRule => ?_⟩
  obtain ⟨v, hv, same⟩ := proceeds.goes.exists_rule mem (ofRule ▸ h.absent)
  exact same ▸ h.held v hv (same ▸ ofRule)

end AtWork

end MetricAlerts
