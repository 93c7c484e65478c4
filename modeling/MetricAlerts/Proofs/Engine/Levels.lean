import MetricAlerts.Proofs.Engine.Addressing

/-! What the evaluation of a snapshot comes to. It goes by the level of each number and not by its
changes: afterwards an alert is active under the id of a rule if and only if the condition of the
rule holds, so that the same snapshot makes no difference when it is evaluated again. -/

namespace MetricAlerts

/-- The condition of a rule that looks at a source, with the number that it finds in the metrics. -/
def Rule.finding? (rule : Rule) (source : String) (metrics : Json) : Option (Condition × Float) :=
  match rule.kind with
  | .threshold c =>
    if rule.appliesTo source && c.threshold.isFinite then
      (c.query.resolve? metrics).map fun value => (c, value)
    else none
  | _ => none

/-- What becomes of the alert that is active under the id of a rule, and the events that tell of
it. -/
inductive Judged (rule : Rule) (source : String) (metrics : Json) :
    Option Alert → Option Alert → List Event → Prop
  | kept {c : Condition} {value : Float} {old : Alert}
      (finds : rule.finding? source metrics = some (c, value))
      (holds : c.comparison.holds value c.threshold) :
      Judged rule source metrics (some old) (some old) []
  | fired {c : Condition} {value : Float} {new : Alert}
      (finds : rule.finding? source metrics = some (c, value))
      (holds : c.comparison.holds value c.threshold) (id : String) (now : Timestamp)
      (eq : new = Alert.ofRule rule source value (.object [(c.query.text, .float value)]) id now) :
      Judged rule source metrics none (some new) [.created new]
  | resolved {c : Condition} {value : Float} {old : Alert}
      (finds : rule.finding? source metrics = some (c, value))
      (fails : c.comparison.holds value c.threshold = false) (now : Timestamp) :
      Judged rule source metrics (some old) none
        [.resolved (AlertStore.resolvedCopy old Engine.autoResolveReason now)]
  | idle {c : Condition} {value : Float}
      (finds : rule.finding? source metrics = some (c, value))
      (fails : c.comparison.holds value c.threshold = false) :
      Judged rule source metrics none none []
  | silent {alert : Option Alert} (finds : rule.finding? source metrics = none) :
      Judged rule source metrics alert alert []

variable {rule : Rule} {source : String} {metrics : Json} {c : Condition} {value : Float}

theorem Rule.finding?_eq_some_iff : rule.finding? source metrics = some (c, value) ↔
    rule.kind = .threshold c ∧ rule.appliesTo source ∧ c.threshold.isFinite ∧
      c.query.resolve? metrics = some value := by
  unfold finding?
  cases rule.kind with
  | threshold other =>
    dsimp only
    constructor
    · intro h
      split at h
      · next applies =>
        obtain ⟨found, hFound, h⟩ := Option.map_eq_some_iff.mp h
        cases h
        rw [Bool.and_eq_true] at applies
        exact ⟨rfl, applies.1, applies.2, hFound⟩
      · cases h
    · rintro ⟨hKind, applies, finite, hFound⟩
      cases hKind
      simp [applies, finite, hFound]
  | rateOfChange other => simp
  | anomaly resourceType minSeverity => simp

/-- What is found is a number. -/
theorem Query.isFinite_of_resolve? {q : Query} (h : q.resolve? metrics = some value) :
    value.isFinite := by
  obtain ⟨node, -, h⟩ := Option.bind_eq_some_iff.mp h
  exact (Option.filter_eq_some_iff.mp h).2

namespace Engine

variable {e e' : Engine} {published : List Event}

/-- What the evaluation of a snapshot by a rule does. -/
structure Judges (e : Engine) (rule : Rule) (source : String) (metrics : Json)
    (published : List Event) (e' : Engine) : Prop where
  events : e'.events = e.events ++ published
  definitions : e'.definitions = e.definitions
  judged : Judged rule source metrics (lookup? rule.id e.alerts.active)
    (lookup? rule.id e'.alerts.active) published
  others : ∀ key, key ≠ rule.id →
    lookup? key e'.alerts.active = lookup? key e.alerts.active

/-- The outcome counts as nothing fired and nothing resolved. -/
def IsQuiet (outcome : Except EvaluationError RuleOutcome) : Prop :=
  ∀ report : EvaluationReport,
    (report.count outcome).fired = report.fired ∧ (report.count outcome).resolved = report.resolved

/-- A rule that finds nothing does nothing. -/
theorem evaluateRule_of_finding?_eq_none (applies : rule.appliesTo source)
    (h : rule.finding? source metrics = none) :
    (e.evaluateRule rule source metrics).2.2 = e ∧
      IsQuiet (e.evaluateRule rule source metrics).1 := by
  cases hKind : rule.kind with
  | threshold c =>
    by_cases finite : c.threshold.isFinite
    · have hFound : c.query.resolve? metrics = none := by
        simpa [Rule.finding?, hKind, applies, finite] using h
      have hRule : e.evaluateRule rule source metrics = (.ok .skipped, none, e) := by
        simp [evaluateRule, hKind, evaluateCondition, finite, hFound]
      rw [hRule]
      exact ⟨rfl, fun _ => ⟨rfl, rfl⟩⟩
    · have hRule : e.evaluateRule rule source metrics =
          (.error (.nonFiniteThreshold rule.id), none, e) := by
        simp [evaluateRule, hKind, evaluateCondition, finite]
      rw [hRule]
      exact ⟨rfl, fun _ => ⟨rfl, rfl⟩⟩
  | rateOfChange c =>
    have hRule : e.evaluateRule rule source metrics = (.ok .notEvaluated, none, e) := by
      simp [evaluateRule, hKind]
    rw [hRule]
    exact ⟨rfl, fun _ => ⟨rfl, rfl⟩⟩
  | anomaly resourceType minSeverity =>
    simp only [evaluateRule, hKind]
    rcases AnomalyCheck.ofRule? rule metrics with _ | _ | _ <;>
      exact ⟨rfl, fun _ => ⟨rfl, rfl⟩⟩

/-- A rule does nothing where its alert is as its condition wants it. -/
theorem evaluateRule_of_settled (hFinding : rule.finding? source metrics = some (c, value))
    (settled : c.comparison.holds value c.threshold = (lookup? rule.id e.alerts.active).isSome) :
    (e.evaluateRule rule source metrics).2.2 = e ∧
      IsQuiet (e.evaluateRule rule source metrics).1 := by
  obtain ⟨hKind, -, finite, hFound⟩ := Rule.finding?_eq_some_iff.mp hFinding
  have hRule : e.evaluateRule rule source metrics = (.ok .unchanged, none, e) := by
    cases hAlert : lookup? rule.id e.alerts.active with
    | none =>
      simp [evaluateRule, hKind, evaluateCondition, finite, hFound, settled, hAlert,
        storeResolveRule?, AlertStore.resolveRule?_eq_resolveKey?, AlertStore.resolveKey?,
        withAlerts]
    | some old =>
      simp [evaluateRule, hKind, evaluateCondition, finite, hFound, settled, hAlert, storeCreate,
        AlertStore.create]
  rw [hRule]
  exact ⟨rfl, fun _ => ⟨rfl, rfl⟩⟩

/-- A condition that holds creates an alert under the id of its rule where there is none. -/
theorem evaluateRule_of_fires (hFinding : rule.finding? source metrics = some (c, value))
    (holds : c.comparison.holds value c.threshold) (free : lookup? rule.id e.alerts.active = none) :
    ∃ new, new = Alert.ofRule rule source value (.object [(c.query.text, .float value)]) e.nextId
        e.now ∧
      (e.evaluateRule rule source metrics).2.2 = ({ e with
        alerts := e.alerts.opened rule.id new, idsUsed := e.idsUsed + 1 }.tick).publish
          (.created new) := by
  obtain ⟨hKind, -, finite, hFound⟩ := Rule.finding?_eq_some_iff.mp hFinding
  have hValue : Json.ofFloat value = .float value := if_pos (Query.isFinite_of_resolve? hFound)
  have hFree : rule.id ∉ keys e.alerts.active := lookup?_eq_none_iff.mp free
  refine ⟨_, rfl, ?_⟩
  simp [evaluateRule, hKind, evaluateCondition, finite, hFound, holds, storeCreate,
    AlertStore.create, free, hValue, AlertStore.setEntry_of_notMem hFree, AlertStore.opened]

/-- A condition that holds no longer has the alert under the id of its rule resolved. -/
theorem evaluateRule_of_resolves (hFinding : rule.finding? source metrics = some (c, value))
    (fails : c.comparison.holds value c.threshold = false) {old : Alert}
    (found : lookup? rule.id e.alerts.active = some old) :
    ∃ resolved, resolved = AlertStore.resolvedCopy old autoResolveReason e.now ∧
      (e.evaluateRule rule source metrics).2.2 = ({ e with
        alerts := e.alerts.closed (e.alerts.active.filter fun entry => entry.1 != rule.id)
          resolved }.tick).publish (.resolved resolved) := by
  obtain ⟨hKind, -, finite, hFound⟩ := Rule.finding?_eq_some_iff.mp hFinding
  refine ⟨_, rfl, ?_⟩
  simp [evaluateRule, hKind, evaluateCondition, finite, hFound, fails, storeResolveRule?,
    AlertStore.resolveRule?_eq_resolveKey?, AlertStore.resolveKey?, found, withAlerts,
    AlertStore.closed]

theorem Judges.refl (h : Judged rule source metrics (lookup? rule.id e.alerts.active)
    (lookup? rule.id e.alerts.active) []) : e.Judges rule source metrics [] e :=
  ⟨(List.append_nil _).symm, rfl, h, fun _ _ => rfl⟩

theorem judges_evaluateRule (e : Engine) (metrics : Json) (applies : rule.appliesTo source) :
    ∃ published,
      e.Judges rule source metrics published (e.evaluateRule rule source metrics).2.2 := by
  cases hFinding : rule.finding? source metrics with
  | none =>
    rw [(evaluateRule_of_finding?_eq_none applies hFinding).1]
    exact ⟨[], .refl (.silent hFinding)⟩
  | some finding =>
    obtain ⟨c, value⟩ := finding
    cases holds : c.comparison.holds value c.threshold <;>
      cases hAlert : lookup? rule.id e.alerts.active
    · rw [(evaluateRule_of_settled hFinding (by rw [holds, hAlert]; rfl)).1]
      exact ⟨[], .refl (hAlert ▸ .idle hFinding holds)⟩
    · next old =>
      obtain ⟨resolved, rfl, hEngine⟩ := evaluateRule_of_resolves hFinding holds hAlert
      rw [hEngine]
      refine ⟨_, events_publish .., rfl, ?_, fun key other => ?_⟩
      · have gone : lookup? rule.id (e.alerts.active.filter fun entry => entry.1 != rule.id) =
            none := lookup?_eq_none_iff.mpr (by simp [keys])
        rw [hAlert]
        show Judged rule source metrics _ (lookup? rule.id (e.alerts.active.filter _)) _
        rw [gone]
        exact .resolved hFinding holds e.now
      · exact lookup?_filter (fun k => k != rule.id) (by simpa using other) e.alerts.active
    · obtain ⟨new, hNew, hEngine⟩ := evaluateRule_of_fires hFinding holds hAlert
      rw [hEngine]
      refine ⟨_, events_publish .., rfl, ?_, fun key other => ?_⟩
      · have there : lookup? rule.id (e.alerts.active ++ [(rule.id, new)]) = some new := by
          rw [lookup?_append, hAlert, Option.none_or, lookup?, if_pos rfl]
        rw [hAlert]
        show Judged rule source metrics _ (lookup? rule.id (e.alerts.active ++ _)) _
        rw [there]
        exact .fired hFinding holds _ _ hNew
      · show lookup? key (e.alerts.active ++ [(rule.id, new)]) = _
        rw [lookup?_append, lookup?, if_neg (Ne.symm other), lookup?, Option.or_none]
    · rw [(evaluateRule_of_settled hFinding (by rw [holds, hAlert]; rfl)).1]
      exact ⟨[], .refl (hAlert ▸ .kept hFinding holds)⟩

/-- What the evaluation of a snapshot by all rules does that look at its source. The events come in
the order of the rules. -/
structure JudgesAll (e : Engine) (rules : List Rule) (source : String) (metrics : Json)
    (published : Rule → List Event) (e' : Engine) : Prop where
  events : e'.events = e.events ++ rules.flatMap published
  definitions : e'.definitions = e.definitions
  judged : ∀ rule ∈ rules, Judged rule source metrics (lookup? rule.id e.alerts.active)
    (lookup? rule.id e'.alerts.active) (published rule)
  others : ∀ key, key ∉ Registry.ids rules →
    lookup? key e'.alerts.active = lookup? key e.alerts.active

variable {rules : List Rule}

/-- No rule meddles with what another one has judged, as the ids of rules are distinct. -/
theorem Judges.cons {middle : Engine} {first : List Event} {rest : Rule → List Event}
    (hFirst : e.Judges rule source metrics first middle)
    (hRest : middle.JudgesAll rules source metrics rest e') (other : rule.id ∉ Registry.ids rules) :
    ∃ published, e.JudgesAll (rule :: rules) source metrics published e' := by
  have hOther (r : Rule) (hr : r ∈ rules) : r.id ≠ rule.id := by
    intro same
    exact other (same ▸ List.mem_map_of_mem hr)
  refine ⟨fun r => if r.id = rule.id then first else rest r, ?_, ?_, ?_, ?_⟩
  · have hEvents : rules.flatMap (fun r => if r.id = rule.id then first else rest r) =
        rules.flatMap rest :=
      List.flatMap_congr fun r hr => if_neg (hOther r hr)
    rw [hRest.events, hFirst.events, List.flatMap_cons, if_pos rfl, hEvents, List.append_assoc]
  · rw [hRest.definitions, hFirst.definitions]
  · intro r hr
    rcases List.mem_cons.mp hr with rfl | hr
    · rw [if_pos rfl, hRest.others r.id other]
      exact hFirst.judged
    · rw [if_neg (hOther r hr), ← hFirst.others r.id (hOther r hr)]
      exact hRest.judged r hr
  · intro key hKey
    rw [Registry.ids, List.map_cons, List.mem_cons, not_or] at hKey
    obtain ⟨otherKey, hKey⟩ := hKey
    rw [hRest.others key hKey, hFirst.others key otherKey]

theorem exists_judgesAll (rules : List Rule) (distinct : (Registry.ids rules).Nodup)
    (report : EvaluationReport) (e : Engine) :
    ∃ published, e.JudgesAll rules source metrics published
      (evaluateRules source metrics (rules.filter fun r => r.appliesTo source) report e).2.2 := by
  induction rules generalizing report e with
  | nil => exact ⟨fun _ => [], (List.append_nil _).symm, rfl, by simp, fun _ _ => rfl⟩
  | cons rule rules ih =>
    obtain ⟨other, distinct⟩ := List.nodup_cons.mp distinct
    by_cases applies : rule.appliesTo source
    · rw [List.filter_cons, if_pos applies]
      obtain ⟨first, hFirst⟩ := judges_evaluateRule e metrics applies
      obtain ⟨rest, hRest⟩ := ih distinct (report.count (e.evaluateRule rule source metrics).1)
        (e.evaluateRule rule source metrics).2.2
      exact hFirst.cons hRest other
    · rw [List.filter_cons, if_neg applies]
      have hFinding : rule.finding? source metrics = none := by
        cases hKind : rule.kind <;> simp [Rule.finding?, hKind, applies]
      obtain ⟨rest, hRest⟩ := ih distinct report e
      exact (Judges.refl (.silent hFinding)).cons hRest other

end Engine

/-- What has been judged is as the condition wants it. -/
theorem Judged.settled {before after : Option Alert} {published : List Event}
    (h : Judged rule source metrics before after published)
    (hFinding : rule.finding? source metrics = some (c, value)) :
    c.comparison.holds value c.threshold = after.isSome := by
  cases h with
  | kept finds holds | fired finds holds =>
    rw [finds] at hFinding
    cases hFinding
    exact holds
  | resolved finds fails | idle finds fails =>
    rw [finds] at hFinding
    cases hFinding
    exact fails
  | silent finds =>
    rw [finds] at hFinding
    cases hFinding

namespace Engine

variable {e : Engine} {rules : List Rule}

theorem evaluateRules_of_settled (settled : ∀ rule ∈ rules, ∀ c value,
      rule.finding? source metrics = some (c, value) →
        c.comparison.holds value c.threshold = (lookup? rule.id e.alerts.active).isSome)
    (applies : ∀ rule ∈ rules, rule.appliesTo source) (report : EvaluationReport) :
    (evaluateRules source metrics rules report e).2.2 = e ∧
      (evaluateRules source metrics rules report e).1.fired = report.fired ∧
      (evaluateRules source metrics rules report e).1.resolved = report.resolved := by
  induction rules generalizing report with
  | nil => exact ⟨rfl, rfl, rfl⟩
  | cons rule rules ih =>
    obtain ⟨hEngine, quiet⟩ : (e.evaluateRule rule source metrics).2.2 = e ∧
        IsQuiet (e.evaluateRule rule source metrics).1 := by
      cases hFinding : rule.finding? source metrics with
      | none =>
        exact evaluateRule_of_finding?_eq_none (applies rule List.mem_cons_self) hFinding
      | some finding =>
        exact evaluateRule_of_settled hFinding (settled rule List.mem_cons_self _ _ hFinding)
    generalize hResult : e.evaluateRule rule source metrics = result at hEngine quiet
    obtain ⟨outcome, check, e'⟩ := result
    obtain rfl : e' = e := hEngine
    obtain ⟨hRest, hFired, hResolved⟩ :=
      ih (fun r hr => settled r (List.mem_cons_of_mem _ hr))
        (fun r hr => applies r (List.mem_cons_of_mem _ hr)) (report.count outcome)
    rw [evaluateRules, hResult]
    exact ⟨hRest, hFired.trans (quiet report).1, hResolved.trans (quiet report).2⟩

/-- The evaluation of a snapshot has every rule's say done, whatever has happened before. Evaluated
again, the snapshot fires nothing, resolves nothing and leaves the engine as it is. -/
theorem judgesAll_evaluate (distinct : (Registry.ids e.definitions.rules).Nodup) (source : String)
    (metrics : Json) :
    let e' := (e.evaluate source metrics).2.2
    (∃ published, e.JudgesAll e.definitions.rules source metrics published e') ∧
      (e'.evaluate source metrics).2.2 = e' ∧
      (e'.evaluate source metrics).1.fired = 0 ∧ (e'.evaluate source metrics).1.resolved = 0 := by
  intro e'
  obtain ⟨published, judgesAll⟩ := exists_judgesAll e.definitions.rules distinct
    (EvaluationReport.start source (e.definitions.rulesFor source).length) e
  refine ⟨⟨published, judgesAll⟩, ?_⟩
  have hRules : e'.definitions.rulesFor source = e.definitions.rulesFor source :=
    congrArg (Definitions.rulesFor · source) judgesAll.definitions
  have settled : ∀ rule ∈ e'.definitions.rulesFor source, ∀ c value,
      rule.finding? source metrics = some (c, value) →
        c.comparison.holds value c.threshold = (lookup? rule.id e'.alerts.active).isSome := by
    intro rule hRule c value hFinding
    rw [hRules] at hRule
    exact (judgesAll.judged rule (List.mem_of_mem_filter hRule)).settled hFinding
  exact evaluateRules_of_settled settled (fun rule hRule => (List.mem_filter.mp hRule).2) _

theorem judgesAll_evaluate_cpu :
    let e := diskEngine.run [.addRule (cpuRule "cpu")]
    let e' := (e.evaluate "node" (.object [("cpu", .int 95)])).2.2
    (Registry.ids e.definitions.rules).Nodup ∧
      (lookup? "cpu" e'.alerts.active).map Alert.value = some (some 95) ∧
      (e'.evaluate "node" (.object [("cpu", .int 95)])).2.2 = e' := by
  intro e e'
  have distinct : (Registry.ids e.definitions.rules).Nodup := by decide
  exact ⟨distinct, by decide, (judgesAll_evaluate distinct _ _).2.1⟩

end Engine

end MetricAlerts
