import MetricAlerts.Proofs.Engine.Outcome
import MetricAlerts.Proofs.Store.Addressing

/-! What the ids of alerts and rules stand for in an engine that has been running. Rules come with
ids of their own and may come at any time, so nothing keeps a rule from having the id of an alert
that is active. If one does, then the operations on that alert may act on the alert of the rule, and
what the rule does may concern that alert. If none does, this does not happen. -/

namespace MetricAlerts

namespace Engine

/-- What a rule does concerns its own alerts and no others. -/
structure IsConfined (e : Engine) (rule : Rule) : Prop where
  /-- What is reported as existing is an alert of the rule. -/
  existing {source : String} {value : Float} {metrics : Json} {id : String} {now : Timestamp}
    {a : Alert} {alerts : AlertStore} :
    e.alerts.create rule source value metrics id now = (.existing a, alerts) → a.ruleId = rule.id
  /-- Where none of its alerts is active, the rule fires when its condition holds. -/
  fires {source : String} {metrics : Json} {c : Condition} {value : Float} :
    rule.kind = .threshold c → c.threshold.isFinite → c.query.resolve? metrics = some value →
      c.comparison.holds value c.threshold → (∀ entry ∈ e.alerts.active, entry.2.ruleId ≠ rule.id) →
      (e.evaluateRule rule source metrics).1 = .ok (.fired 1)
  evaluate (source : String) (metrics : Json) :
    e.alerts.KeepsOthers rule.id (e.after (.evaluate rule source metrics)).alerts
  raise {check : AnomalyCheck} (source : String) (anomaly : Anomaly) :
    check.rule = rule → e.alerts.IsUnused e.nextId →
      e.alerts.KeepsOthers rule.id (e.after (.raise check source anomaly)).alerts
  delete {id : String} {e' : Engine} :
    e.deleteRule id = .ok (rule, e') → e.alerts.KeepsOthers rule.id e'.alerts

variable {e e' : Engine} {rule : Rule}

theorem keepsOthers_storeResolveRule (sound : e.alerts.Sound) {ruleId reason : String} {a : Alert}
    (only : e.alerts.IsRuleOnly ruleId) (h : e.storeResolveRule? ruleId reason = some (a, e')) :
    e.alerts.KeepsOthers ruleId (e'.publish (.resolved a)).alerts := by
  obtain ⟨alerts, hChanged, rfl⟩ := eq_of_withAlerts h
  exact AlertStore.keepsOthers_of_resolveRule? sound.keys_nodup only hChanged

theorem keepsOthers_retire (sound : e.alerts.Sound) {ruleId : String}
    (only : e.alerts.IsRuleOnly ruleId) : e.alerts.KeepsOthers ruleId (e.retire ruleId).alerts := by
  unfold retire
  split
  · next h => exact keepsOthers_storeResolveRule sound only h
  · exact .refl _ _

theorem keepsOthers_evaluateCondition (sound : e.alerts.Sound) (only : e.alerts.IsRuleOnly rule.id)
    (source : String) (metrics : Json) (c : Condition) :
    e.alerts.KeepsOthers rule.id (e.evaluateCondition rule source metrics c).2.alerts := by
  unfold evaluateCondition
  split
  · exact .refl _ _
  · split
    · exact .refl _ _
    · split
      · split
        · next h =>
          obtain ⟨alerts, hCreate, rfl⟩ := eq_of_storeCreate h
          obtain ⟨-, -, rfl⟩ := AlertStore.opened_of_create hCreate
          exact AlertStore.keepsOthers_opened _ _ _ _
        · next h =>
          obtain rfl := eq_of_storeCreate_existing h
          exact .refl _ _
      · split
        · next h => exact keepsOthers_storeResolveRule sound only h
        · exact .refl _ _

theorem keepsOthers_evaluate (sound : e.alerts.Sound) (only : e.alerts.IsRuleOnly rule.id)
    (source : String) (metrics : Json) :
    e.alerts.KeepsOthers rule.id (e.after (.evaluate rule source metrics)).alerts := by
  simp only [after]
  unfold evaluateRule
  split
  · exact keepsOthers_evaluateCondition sound only source metrics _
  · exact .refl _ _
  · split <;> exact .refl _ _

/-- A new anomaly alert makes no alert of another rule go, whatever the id of the rule. -/
theorem keepsOthers_raise (sound : e.alerts.Sound) (unused : e.alerts.IsUnused e.nextId)
    (check : AnomalyCheck) (source : String) (anomaly : Anomaly) :
    e.alerts.KeepsOthers check.rule.id (e.after (.raise check source anomaly)).alerts := by
  have keeps := AlertStore.keepsOthers_createAnomaly sound unused check.rule source anomaly
    check.subset e.now e.tick.now
  revert keeps
  simp only [after, raiseAnomalies, storeCreateAnomaly]
  split <;> exact fun keeps => keeps

theorem alerts_removeRule (e : Engine) (id : String) :
    (e.after (.removeRule id)).alerts = e.alerts := by
  rw [after_of_rule_request rfl]
  rfl

theorem keepsOthers_deleteRule (sound : e.alerts.Sound) (only : e.alerts.IsRuleOnly rule.id)
    {id : String} (h : e.deleteRule id = .ok (rule, e')) :
    e.alerts.KeepsOthers rule.id e'.alerts := by
  obtain rfl := eq_run_of_deleteRule h
  have same := alerts_removeRule e id
  have keeps := keepsOthers_retire (same ▸ sound) (same ▸ only)
  rw [same] at keeps
  exact keeps

/-- Where nothing is active under its id, a rule fires when its condition holds. -/
theorem fires_of_free {source : String} {metrics : Json} {c : Condition} {value : Float}
    (kind : rule.kind = .threshold c) (finite : c.threshold.isFinite)
    (resolved : c.query.resolve? metrics = some value)
    (holds : c.comparison.holds value c.threshold) (free : rule.id ∉ keys e.alerts.active) :
    (e.evaluateRule rule source metrics).1 = .ok (.fired 1) := by
  have absent : lookup? rule.id e.alerts.active = none := lookup?_eq_none_iff.mpr free
  simp [evaluateRule, kind, evaluateCondition, finite, resolved, holds, storeCreate,
    AlertStore.create, absent]

/-- A rule keeps to its own alerts if and only if no other alert is kept under its id. -/
theorem isConfined_iff (sound : e.alerts.Sound) (rule : Rule) :
    e.IsConfined rule ↔ e.alerts.IsRuleOnly rule.id := by
  constructor
  · intro confined entry mem hKey
    obtain ⟨key, a⟩ := entry
    obtain rfl : key = rule.id := hKey
    have blocked : e.alerts.create rule "" 0 .null "" ⟨0, 0⟩ = (.existing a, e.alerts) :=
      AlertStore.create_of_mem sound.keys_nodup mem
    exact confined.existing blocked
  · intro only
    refine ⟨fun h => only _ (AlertStore.mem_of_create h) rfl, ?_, keepsOthers_evaluate sound only,
      ?_, keepsOthers_deleteRule sound only⟩
    · intro source metrics c value kind finite resolved holds idle
      have free : rule.id ∉ keys e.alerts.active := by
        intro isKey
        obtain ⟨entry, mem, hKey⟩ := List.mem_map.mp isKey
        exact idle entry mem (only entry mem hKey)
      exact fires_of_free kind finite resolved holds free
    · rintro check source anomaly rfl unused
      exact keepsOthers_raise sound unused check source anomaly

variable {environment : Environment} {definitions : Definitions}
  {historyLimit anomalyLimit eventBuffer clientBuffer maxMetricsBytes : Nat}

/-- At any point of any run, the id of an active alert stands for that alert if and only if no other
alert is kept under it, and a rule keeps to its own alerts if and only if no alert of another rule
is kept under its id. What is kept under a name is an alert of the rule or the alert with this id,
so both are the case unless a rule that has been added has the id of an active alert. -/
theorem actsOn_iff_and_isConfined_iff (leads : Leads (initial environment definitions historyLimit
    anomalyLimit eventBuffer clientBuffer maxMetricsBytes) e) :
    (∀ key a, (key, a) ∈ e.alerts.active → (e.alerts.ActsOn a.id a ↔ e.alerts.IsIdOnly a.id)) ∧
      (∀ rule, e.IsConfined rule ↔ e.alerts.IsRuleOnly rule.id) ∧
      ∀ entry ∈ e.alerts.active, entry.1 = entry.2.ruleId ∨ entry.1 = entry.2.id := by
  have sound : e.alerts.Sound := leads.sound (AlertStore.sound_empty ..)
  exact ⟨fun _ _ mem => sound.actsOn_id_iff mem, isConfined_iff sound, sound.key_eq⟩

/-- An alert of a rule and an anomaly alert. -/
def apartActions : List Action := [evaluateCpu "cpu" 90, raiseDisk]

theorem actsOn_iff_and_isConfined_iff_apartActions :
    (diskEngine.run apartActions).alerts.ids = ["first", "second"] ∧
      (∀ entry ∈ (diskEngine.run apartActions).alerts.active,
        (diskEngine.run apartActions).alerts.ActsOn entry.2.id entry.2) ∧
      (diskEngine.run apartActions).IsConfined (cpuRule "cpu") := by
  have reaches : Reaches diskEngine (diskEngine.run apartActions) := reaches_run (by decide)
  have settled := actsOn_iff_and_isConfined_iff reaches.leads
  have only : ∀ entry ∈ (diskEngine.run apartActions).alerts.active,
      (diskEngine.run apartActions).alerts.IsIdOnly entry.2.id := by decide
  exact ⟨by decide, fun entry mem => (settled.1 entry.1 entry.2 mem).mpr (only entry mem),
    (settled.2.1 _).mpr (by decide)⟩

/-- An anomaly alert, and then a rule that has the id of the alert. -/
def blockedActions : List Action := [raiseDisk, .addRule (cpuRule "first"), evaluateCpu "first" 90]

/-- An alert of a rule, and then an alert of another rule that has the id of the first alert. -/
def hiddenActions : List Action :=
  [evaluateCpu "cpu" 90, .addRule (cpuRule "first"), evaluateCpu "first" 90]

/-- A rule with the id of an alert does not fire, and its deletion has the alert resolved. If it
does fire, the id of the alert stands for the alert of the rule. -/
theorem not_isConfined_and_not_actsOn :
    ¬(diskEngine.run blockedActions).IsConfined (cpuRule "first") ∧
      ((diskEngine.run (blockedActions ++ [.removeRule "first", .retire "first"])).events.map
        fun event => (event.kind, event.alert?.map Alert.ruleId)) =
        [("created", some "disk"), ("resolved", some "disk")] ∧
      ((diskEngine.run hiddenActions).alerts.get? "first").map Alert.id = some "second" ∧
      ∃ entry ∈ (diskEngine.run hiddenActions).alerts.active, entry.2.id = "first" ∧
        ¬(diskEngine.run hiddenActions).alerts.ActsOn "first" entry.2 := by
  have reaches : Reaches diskEngine (diskEngine.run blockedActions) := reaches_run (by decide)
  have sound : (diskEngine.run blockedActions).alerts.Sound :=
    reaches.leads.sound (AlertStore.sound_empty ..)
  have there : ∃ entry ∈ (diskEngine.run hiddenActions).alerts.active, entry.2.id = "first" := by
    decide
  have hidden : ((diskEngine.run hiddenActions).alerts.get? "first").map Alert.id =
      some "second" := by decide
  refine ⟨fun confined => ?_, by decide, hidden, ?_⟩
  · have only := (isConfined_iff sound _).mp confined
    revert only
    decide
  · obtain ⟨entry, mem, hId⟩ := there
    refine ⟨entry, mem, hId, ?_⟩
    rintro ⟨before, key, after, acts⟩
    rw [acts.get, Option.map_some, hId] at hidden
    revert hidden
    decide

end Engine

end MetricAlerts
