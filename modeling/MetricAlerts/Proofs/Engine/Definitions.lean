import MetricAlerts.Proofs.Engine.Outcome

/-! What actions do to the definitions: only those that are for it change them, as the requests that
they carry, and the ids of channels stay distinct. -/

namespace MetricAlerts.Engine

variable {e e' : Engine}

/-- Whether an action is there to change the definitions. -/
def Action.defines : Action → Bool
  | .addRule _ | .updateRule .. | .removeRule _ => true
  | .addChannel _ | .updateChannel .. | .deleteChannel _ => true
  | _ => false

theorem definitions_of_withAlerts {changed : Option (Alert × AlertStore)} {a : Alert}
    (h : e.withAlerts changed = some (a, e')) : e'.definitions = e.definitions := by
  obtain ⟨alerts, -, rfl⟩ := eq_of_withAlerts h
  rfl

theorem definitions_retire (e : Engine) (ruleId : String) :
    (e.retire ruleId).definitions = e.definitions := by
  unfold retire
  split
  · next h => exact (definitions_of_withAlerts h :)
  · rfl

theorem definitions_annotate (e : Engine) (alert : Alert) (fields : List (String × Json)) :
    (e.annotate alert fields).2.definitions = e.definitions := by
  unfold annotate
  split
  · rfl
  · split
    · next h => exact (definitions_of_withAlerts h :)
    · rfl

theorem definitions_storeCreate (e : Engine) (rule : Rule) (source : String) (value : Float)
    (metrics : Json) : (e.storeCreate rule source value metrics).2.definitions = e.definitions := by
  unfold storeCreate
  split <;> rfl

theorem definitions_evaluateCondition (e : Engine) (rule : Rule) (source : String) (metrics : Json)
    (c : Condition) :
    (e.evaluateCondition rule source metrics c).2.definitions = e.definitions := by
  unfold evaluateCondition
  split
  · rfl
  · split
    · rfl
    · next value _ =>
      have created := definitions_storeCreate e rule source value
        (.object [(c.query.text, Json.ofFloat value)])
      split
      · split
        · next h => rw [h] at created; exact created
        · next h => rw [h] at created; exact created
      · split
        · next h => exact (definitions_of_withAlerts h :)
        · rfl

theorem definitions_evaluateRule (e : Engine) (rule : Rule) (source : String) (metrics : Json) :
    (e.evaluateRule rule source metrics).2.2.definitions = e.definitions := by
  unfold evaluateRule
  split
  · exact definitions_evaluateCondition e rule source metrics _
  · rfl
  · split <;> rfl

theorem definitions_raise (e : Engine) (check : AnomalyCheck) (source : String)
    (anomaly : Anomaly) :
    (e.after (.raise check source anomaly)).definitions = e.definitions := by
  simp only [after, raiseAnomalies, storeCreateAnomaly]
  generalize e.alerts.createAnomaly _ _ _ _ _ _ _ = result
  obtain ⟨a, superseded, alerts⟩ := result
  cases superseded <;> rfl

theorem definitions_after {action : Action} (other : action.defines = false) :
    (e.after action).definitions = e.definitions := by
  cases action with
  | addRule | updateRule | removeRule | addChannel | updateChannel | deleteChannel => cases other
  | acknowledge name =>
    simp only [after, acknowledge?]
    cases h : e.storeAcknowledge? name with
    | none => rfl
    | some result => exact (definitions_of_withAlerts h :)
  | resolve name reason =>
    simp only [after, resolve?]
    cases h : e.storeResolve? name (reason.getD manualResolveReason) with
    | none => rfl
    | some result => exact (definitions_of_withAlerts h :)
  | retire ruleId => exact definitions_retire e ruleId
  | evaluate rule source metrics => exact definitions_evaluateRule e rule source metrics
  | raise check source anomaly => exact definitions_raise e check source anomaly
  | enrich alert => exact definitions_annotate e alert _
  | giveFeedback alert => exact definitions_annotate e alert _
  | announcePatterns analysis =>
    simp only [after, announcePatterns]
    split <;> rfl

variable {action : Action}

theorem defines_of_request? (none : action.request? = none) : action.defines = false := by
  cases action <;> first | rfl | cases none

theorem definitions_after_eq (e : Engine) (action : Action) :
    (e.after action).definitions = e.definitions.run action.request?.toList := by
  cases h : action.request? with
  | none => exact definitions_after (defines_of_request? h)
  | some request =>
    cases request with
    | rule change =>
      rw [after_of_rule_request h]
      exact (Definitions.after_rule ..).symm
    | channel change =>
      rw [after_of_channel_request h]
      exact (Definitions.after_channel ..).symm

/-- The ids of channels stay distinct. -/
theorem nodup_channels_after (distinct : (Registry.ids e.definitions.channels).Nodup)
    (action : Action) : (Registry.ids (e.after action).definitions.channels).Nodup := by
  cases h : action.request? with
  | none =>
    rw [definitions_after (defines_of_request? h)]
    exact distinct
  | some request =>
    cases request with
    | rule change =>
      rw [after_of_rule_request h]
      exact distinct
    | channel change =>
      rw [after_of_channel_request h]
      exact Registry.nodup_after distinct change

/-- The definitions of an engine are what the requests among its actions make of them. -/
theorem definitions_run (e : Engine) (actions : List Action) :
    (e.run actions).definitions = e.definitions.run (actions.filterMap Action.request?) := by
  induction actions generalizing e with
  | nil => rfl
  | cons action actions ih =>
    change ((e.after action).run actions).definitions = _
    rw [ih, definitions_after_eq, List.filterMap_cons]
    cases action.request? <;> rfl

end MetricAlerts.Engine
