import MetricAlerts.Proofs.Engine.Definitions
import MetricAlerts.Proofs.Store.View

/-! What the actions of an engine do to its alerts are operations of the store. By this, what is
known of an operation is known of the action that makes it, here of what becomes of one alert. -/

namespace MetricAlerts

namespace Engine

/-- The alert to which an action adds annotations, and what it adds, where it is the end of an
enrichment or of feedback. -/
def Action.annotation? : Action → Option (Alert × List (String × Json))
  | .enrich alert recommendations correlations =>
    some (alert, Enrichment.recommendationFields recommendations ++
      Enrichment.correlationFields correlations)
  | .giveFeedback alert answer => some (alert, Enrichment.feedbackFields answer)
  | _ => none

/-- The operation that the evaluation of a rule comes to. -/
def evaluation? (e : Engine) (rule : Rule) (source : String) (metrics : Json) :
    Option AlertStore.Operation :=
  match rule.kind with
  | .threshold c =>
    if c.threshold.isFinite then
      (c.query.resolve? metrics).map fun value =>
        if c.comparison.holds value c.threshold then
          .create rule source value (.object [(c.query.text, Json.ofFloat value)]) e.nextId e.now
        else .resolveRule rule.id autoResolveReason e.now
    else none
  | _ => none

/-- The operation of the store that an action makes. -/
def operation? (e : Engine) : Action → Option AlertStore.Operation
  | .acknowledge name => some (.acknowledge name e.now)
  | .resolve name reason => some (.resolve name (reason.getD manualResolveReason) e.now)
  | .retire ruleId => some (.resolveRule ruleId ruleDeletedReason e.now)
  | .evaluate rule source metrics => e.evaluation? rule source metrics
  | .raise check source anomaly =>
    some (.createAnomaly check.rule source anomaly check.subset e.nextId e.now e.tick.now)
  | action =>
    action.annotation?.bind fun (alert, fields) =>
      (Enrichment.stamped? fields e.now).map (.mergeAnnotations alert.id)

variable {e e' : Engine} {operation : AlertStore.Operation} {action : Action}

theorem alerts_annotate (e : Engine) (alert : Alert) (fields : List (String × Json)) :
    (e.annotate alert fields).2.alerts = (((Enrichment.stamped? fields e.now).map
      (.mergeAnnotations alert.id)).map e.alerts.after).getD e.alerts := by
  unfold annotate
  cases Enrichment.stamped? fields e.now with
  | none => rfl
  | some stamped =>
    simp only [storeMerge?, withAlerts, Option.map_some, Option.getD_some, AlertStore.after,
      AlertStore.orSame]
    show _ = ((e.alerts.mergeAnnotations? alert.id stamped).map Prod.snd).getD e.alerts
    have same : e.tick.alerts = e.alerts := rfl
    rw [same]
    cases e.alerts.mergeAnnotations? alert.id stamped <;> rfl

theorem alerts_storeCreate (e : Engine) (rule : Rule) (source : String) (value : Float)
    (metrics : Json) : (e.storeCreate rule source value metrics).2.alerts =
      (e.alerts.create rule source value metrics e.nextId e.now).2 := by
  unfold storeCreate
  split
  · next h => rw [h]; rfl
  · next h =>
    rw [h]
    exact (AlertStore.eq_of_create h).symm

theorem alerts_evaluateRule (e : Engine) (rule : Rule) (source : String) (metrics : Json) :
    (e.evaluateRule rule source metrics).2.2.alerts =
      ((e.evaluation? rule source metrics).map e.alerts.after).getD e.alerts := by
  unfold evaluateRule evaluation?
  cases rule.kind with
  | rateOfChange => rfl
  | anomaly =>
    simp only
    rcases AnomalyCheck.ofRule? rule metrics with _ | _ | _ <;> rfl
  | threshold c =>
    simp only [evaluateCondition]
    by_cases finite : c.threshold.isFinite
    · cases hFound : c.query.resolve? metrics with
      | none => simp [finite]
      | some value =>
        have created := e.alerts_storeCreate rule source value
          (.object [(c.query.text, Json.ofFloat value)])
        by_cases holds : c.comparison.holds value c.threshold
        · simp only [finite, holds, Bool.not_true, Bool.false_eq_true, if_false, if_true,
            Option.map_some, Option.getD_some]
          rw [AlertStore.after, ← created]
          split
          · next h => rw [h]; rfl
          · next h => rw [h]
        · simp only [finite, holds, Bool.not_true, Bool.false_eq_true, if_false, if_true,
            Option.map_some, Option.getD_some]
          rw [AlertStore.after, AlertStore.orSame, storeResolveRule?]
          cases e.alerts.resolveRule? rule.id autoResolveReason e.now <;> rfl
    · simp [finite]

theorem alerts_raise (e : Engine) (check : AnomalyCheck) (source : String) (anomaly : Anomaly) :
    (e.after (.raise check source anomaly)).alerts =
      (e.alerts.createAnomaly check.rule source anomaly check.subset e.nextId e.now
        e.tick.now).2.2 := by
  simp only [after, raiseAnomalies, storeCreateAnomaly]
  generalize e.alerts.createAnomaly check.rule source anomaly check.subset e.nextId e.now
    e.tick.now = result
  obtain ⟨a, superseded, alerts⟩ := result
  cases superseded <;> rfl

/-- An action does to the alerts what its operation does, and without one it does nothing. -/
theorem alerts_after (e : Engine) (action : Action) :
    (e.after action).alerts = ((e.operation? action).map e.alerts.after).getD e.alerts := by
  cases action with
  | acknowledge name =>
    simp only [after, operation?, acknowledge?, storeAcknowledge?, Option.map_some,
      Option.getD_some, AlertStore.after, AlertStore.orSame]
    cases e.alerts.acknowledge? name e.now <;> rfl
  | resolve name reason =>
    simp only [after, operation?, resolve?, storeResolve?, Option.map_some, Option.getD_some,
      AlertStore.after, AlertStore.orSame]
    cases e.alerts.resolve? name (reason.getD manualResolveReason) e.now <;> rfl
  | retire ruleId =>
    simp only [after, operation?, retire, storeResolveRule?, Option.map_some, Option.getD_some,
      AlertStore.after, AlertStore.orSame]
    cases e.alerts.resolveRule? ruleId ruleDeletedReason e.now <;> rfl
  | evaluate rule source metrics => exact e.alerts_evaluateRule rule source metrics
  | raise check source anomaly => exact e.alerts_raise check source anomaly
  | enrich alert recommendations correlations => exact e.alerts_annotate alert _
  | giveFeedback alert answer => exact e.alerts_annotate alert _
  | announcePatterns analysis =>
    simp only [after, announcePatterns]
    split <;> rfl
  | addRule | updateRule | removeRule =>
    rw [after_of_rule_request rfl]
    rfl
  | addChannel | updateChannel | deleteChannel =>
    rw [after_of_channel_request rfl]
    rfl

/-- The operations of the store that actions make one after another. -/
def operations : Engine → List Action → List AlertStore.Operation
  | _, [] => []
  | e, action :: actions => (e.operation? action).toList ++ operations (e.after action) actions

theorem alerts_run (e : Engine) (actions : List Action) :
    (e.run actions).alerts = e.alerts.run (e.operations actions) := by
  induction actions generalizing e with
  | nil => rfl
  | cons action actions ih =>
    show ((e.after action).run actions).alerts = _
    rw [ih, alerts_after, operations, AlertStore.run_append]
    cases e.operation? action <;> rfl

/-! What is known of the operations of actions. -/

variable {rule : Rule} {source : String} {metrics : Json} {a : Alert}

/-- An evaluation makes a new alert or resolves the one that is kept under the id of the rule. -/
theorem evaluation?_cases (h : e.evaluation? rule source metrics = some operation) :
    (∃ value metrics, operation = .create rule source value metrics e.nextId e.now) ∨
      operation = .resolveRule rule.id autoResolveReason e.now := by
  unfold evaluation? at h
  split at h
  · split at h
    · obtain ⟨value, -, h⟩ := Option.map_eq_some_iff.mp h
      split at h
      · exact .inl ⟨value, _, h.symm⟩
      · exact .inr h.symm
    · cases h
  · cases h

theorem lt_idsUsed_evaluate (h : e.evaluation? rule source metrics = some operation)
    (mem : a ∈ e.alerts.createdBy operation) :
    a.id = e.nextId ∧ e.idsUsed < (e.after (.evaluate rule source metrics)).idsUsed := by
  unfold evaluation? at h
  split at h
  · next c kind =>
    split at h
    · next finite =>
      obtain ⟨value, found, h⟩ := Option.map_eq_some_iff.mp h
      split at h
      · next holds =>
        subst h
        simp only [AlertStore.createdBy] at mem
        generalize hResult : e.alerts.create _ _ _ _ _ _ = result at mem
        obtain ⟨b | _, alerts⟩ := result
        · cases mem
          refine ⟨congrArg Alert.id (AlertStore.opened_of_create hResult).1, ?_⟩
          simp [after, evaluateRule, kind, evaluateCondition, finite, found, holds, storeCreate,
            hResult, publish, tick]
        · cases mem
      · subst h
        cases mem
    · cases h
  · cases h

theorem operation?_ne_clear (h : e.operation? action = some operation) : operation ≠ .clear := by
  rintro rfl
  cases action with
  | evaluate => obtain ⟨_, _, clears⟩ | clears := evaluation?_cases h <;> cases clears
  | enrich | giveFeedback =>
    obtain ⟨stamped, -, clears⟩ := Option.map_eq_some_iff.mp h
    cases clears
  | _ => cases h

/-- The id of a new alert is in no use. -/
theorem unused_createdBy
    (unused : e.idsUsed < (e.after action).idsUsed → e.alerts.IsUnused e.nextId)
    (h : e.operation? action = some operation) :
    ∀ a ∈ e.alerts.createdBy operation, e.alerts.IsUnused a.id := by
  intro a mem
  cases action with
  | evaluate =>
    obtain ⟨same, used⟩ := lt_idsUsed_evaluate h mem
    exact same ▸ unused used
  | raise check source anomaly =>
    cases h
    simp only [AlertStore.createdBy, AlertStore.createAnomaly_fst, Option.mem_some] at mem
    exact mem ▸ unused (lt_idsUsed_raise e check source anomaly)
  | enrich | giveFeedback =>
    obtain ⟨stamped, -, rfl⟩ := Option.map_eq_some_iff.mp h
    cases mem
  | _ => cases h <;> cases mem

theorem operation?_ne_mergeAnnotations (plain : action.annotation? = none)
    (h : e.operation? action = some operation) (name : String) (fields : Dict Json) :
    operation ≠ .mergeAnnotations name fields := by
  rintro rfl
  cases action with
  | evaluate => obtain ⟨_, _, merges⟩ | merges := evaluation?_cases h <;> cases merges
  | enrich | giveFeedback => cases plain
  | _ => cases h

end Engine

end MetricAlerts
