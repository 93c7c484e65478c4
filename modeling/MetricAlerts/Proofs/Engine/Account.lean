import MetricAlerts.Proofs.Engine.Operations
import MetricAlerts.Proofs.Store.Addressing
import MetricAlerts.Proofs.Store.Log

/-! The account that an evaluation gives of itself. Every rule counts as one thing, and what is
counted as fired or resolved is what is published, what comes to the active alerts or leaves them,
and what is logged. -/

namespace MetricAlerts

/-- What a rule counts as in a report, or that it does not. -/
inductive Tally where
  | fired
  | resolved
  | skipped
  | failed
  | deferred
  | unchanged
  deriving DecidableEq

namespace Tally

def of : Except EvaluationError RuleOutcome → Tally
  | .ok (.fired _) => .fired
  | .ok .resolved => .resolved
  | .ok .skipped => .skipped
  | .ok .notEvaluated => .skipped
  | .ok .deferred => .deferred
  | .ok .unchanged => .unchanged
  | .error _ => .failed

end Tally

/-- The report with what more rules count as. -/
def EvaluationReport.adding (r : EvaluationReport) (tallies : List Tally) : EvaluationReport where
  source := r.source
  evaluated := r.evaluated
  fired := r.fired + tallies.count .fired
  resolved := r.resolved + tallies.count .resolved
  skipped := r.skipped + tallies.count .skipped
  failed := r.failed + tallies.count .failed
  deferred := r.deferred + tallies.count .deferred

theorem EvaluationReport.adding_append (r : EvaluationReport) (first second : List Tally) :
    r.adding (first ++ second) = (r.adding first).adding second := by
  simp only [adding, List.count_append, Nat.add_assoc]

/-- A rule that fires does so once. -/
theorem EvaluationReport.count_eq_adding (r : EvaluationReport)
    {outcome : Except EvaluationError RuleOutcome}
    (once : ∀ n, outcome = .ok (.fired n) → n = 1) :
    r.count outcome = r.adding [Tally.of outcome] := by
  obtain failure | (n | _ | _ | _ | _ | _) := outcome
  · rfl
  · rw [once n rfl]
    rfl
  all_goals rfl

/-- Everything counts as one of six things. -/
theorem length_tallies (tallies : List Tally) :
    tallies.length = tallies.count .fired + tallies.count .resolved + tallies.count .skipped +
      tallies.count .failed + tallies.count .deferred + tallies.count .unchanged := by
  induction tallies with
  | nil => rfl
  | cons tally tallies ih =>
    rw [List.length_cons, ih]
    cases tally <;> simp <;> omega

namespace Engine

/-- From the one engine to the other alerts come and leave, which is published and logged. -/
structure Accounts (e : Engine) (published : List Event) (e' : Engine) : Prop where
  events : e'.events = e.events ++ published
  told : ∀ event ∈ published, event.isCreated = true ∨ event.isResolved = true
  active : e'.alerts.activeCount + published.countP Event.isResolved =
    e.alerts.activeCount + published.countP Event.isCreated
  logged : ∃ operations, e'.alerts = e.alerts.run operations ∧
    ∀ log, e.alerts.logFrom log operations = log ++ published.filterMap Event.alert?
  distinct : (keys e'.alerts.active).Nodup

variable {e e' e'' : Engine} {published more : List Event} {rule : Rule} {source : String}
  {metrics : Json}

theorem Accounts.refl (distinct : (keys e.alerts.active).Nodup) : e.Accounts [] e where
  events := (List.append_nil _).symm
  told := List.forall_mem_nil _
  active := rfl
  logged := ⟨[], rfl, fun log => (List.append_nil log).symm⟩
  distinct := distinct

theorem Accounts.trans (h : e.Accounts published e') (h' : e'.Accounts more e'') :
    e.Accounts (published ++ more) e'' where
  events := by rw [h'.events, h.events, List.append_assoc]
  told := List.forall_mem_append.mpr ⟨h.told, h'.told⟩
  active := by
    have first := h.active
    have second := h'.active
    rw [List.countP_append, List.countP_append]
    omega
  logged := by
    obtain ⟨operations, hRun, hLog⟩ := h.logged
    obtain ⟨later, hRun', hLog'⟩ := h'.logged
    refine ⟨operations ++ later, ?_, fun log => ?_⟩
    · rw [AlertStore.run_append, ← hRun, hRun']
    · rw [AlertStore.logFrom_append, hLog, ← hRun, hLog', List.filterMap_append, List.append_assoc]
  distinct := h'.distinct

theorem logged_of_operation {s s' : AlertStore} {a : Alert} (operation : AlertStore.Operation)
    (eq : s' = s.after operation) (kept : operation ≠ .clear) (copies : s.copies operation = [a]) :
    ∃ operations, s' = s.run operations ∧ ∀ log, s.logFrom log operations = log ++ [a] :=
  ⟨[operation], eq, fun log => by rw [s.logFrom_singleton log kept, copies]⟩

/-- A new alert of a rule is one more, and the one that is logged. -/
theorem accounts_created {value : Float} {a : Alert} (distinct : (keys e.alerts.active).Nodup)
    (h : e.storeCreate rule source value metrics = (.created a, e')) :
    e.Accounts [.created a] (e'.publish (.created a)) := by
  obtain ⟨alerts, hCreate, rfl⟩ := eq_of_storeCreate h
  have hAfter : alerts = e.alerts.after (.create rule source value metrics e.nextId e.now) := by
    rw [AlertStore.after, hCreate]
  have hCopies : e.alerts.copies (.create rule source value metrics e.nextId e.now) = [a] := by
    simp only [AlertStore.copies, AlertStore.createdBy, AlertStore.resolvedBy, hCreate]
    rfl
  obtain ⟨-, free, rfl⟩ := AlertStore.opened_of_create hCreate
  refine ⟨events_publish .., by simp [Event.isCreated], List.length_append,
    logged_of_operation _ hAfter (fun clears => by cases clears) hCopies, ?_⟩
  · show (keys (e.alerts.active ++ [(rule.id, a)])).Nodup
    rw [keys_append, List.nodup_append]
    refine ⟨distinct, List.nodup_singleton _, ?_⟩
    rintro key mem other single rfl
    obtain rfl : key = rule.id := by simpa using single
    exact free mem

/-- A resolved alert is one less, and the one that is logged. -/
theorem accounts_resolved {ruleId reason : String} {a : Alert}
    (distinct : (keys e.alerts.active).Nodup)
    (h : e.storeResolveRule? ruleId reason = some (a, e')) :
    e.Accounts [.resolved a] (e'.publish (.resolved a)) := by
  obtain ⟨⟨_, alerts⟩, hResolve, h⟩ := Option.map_eq_some_iff.mp h
  cases h
  have hAfter : alerts = e.alerts.after (.resolveRule ruleId reason e.now) := by
    rw [AlertStore.after, hResolve]
    rfl
  have hCopies : e.alerts.copies (.resolveRule ruleId reason e.now) = [a] := by
    simp only [AlertStore.copies, AlertStore.createdBy, AlertStore.resolvedBy, hResolve]
    rfl
  rw [AlertStore.resolveRule?_eq_resolveKey?] at hResolve
  obtain ⟨before, old, after, split, rfl, rfl⟩ :=
    AlertStore.split_of_resolveKey? distinct hResolve
  refine ⟨events_publish .., by simp [Event.isResolved], ?_,
    logged_of_operation _ hAfter (fun clears => by cases clears) hCopies, ?_⟩
  · show (before ++ after).length + 1 = e.alerts.active.length
    rw [split, List.length_append, List.length_append, List.length_cons]
    rfl
  · show (keys (before ++ after)).Nodup
    rw [split] at distinct
    exact distinct.sublist ((List.Sublist.append_left (List.sublist_cons_self _ _) _).map _)

/-! ### Evaluations of rules -/

/-- The outcome of the evaluation of a rule by an engine. -/
def ruleOutcome (source : String) (metrics : Json) (evaluation : Engine × Rule) :
    Except EvaluationError RuleOutcome :=
  (evaluation.1.evaluateRule evaluation.2 source metrics).1

def tallyOf (source : String) (metrics : Json) (evaluation : Engine × Rule) : Tally :=
  .of (ruleOutcome source metrics evaluation)

/-- The rules that an engine evaluates one after another, each with the engine as it is then. -/
def evaluations (source : String) (metrics : Json) : List Rule → Engine → List (Engine × Rule)
  | [], _ => []
  | rule :: rules, e =>
    (e, rule) :: evaluations source metrics rules (e.evaluateRule rule source metrics).2.2

theorem map_snd_evaluations (source : String) (metrics : Json) (rules : List Rule) (e : Engine) :
    (evaluations source metrics rules e).map Prod.snd = rules := by
  induction rules generalizing e with
  | nil => rfl
  | cons rule rules ih => exact congrArg (rule :: ·) (ih _)

/-- The check that an anomaly rule leaves to the background. -/
def checkOf? (metrics : Json) (rule : Rule) : Option AnomalyCheck :=
  (AnomalyCheck.ofRule? rule metrics).bind Except.toOption

/-- The evaluation of a rule counts as one thing. It publishes an event just where that is an alert
that is fired or resolved, and leaves a check just where it is a check that is deferred. -/
structure RuleAccount (e : Engine) (rule : Rule) (source : String) (metrics : Json)
    (published : List Event) : Prop where
  accounts : e.Accounts published (e.evaluateRule rule source metrics).2.2
  created : published.countP Event.isCreated =
    [tallyOf source metrics (e, rule)].count .fired
  resolved : published.countP Event.isResolved =
    [tallyOf source metrics (e, rule)].count .resolved
  report : ∀ report : EvaluationReport, report.count (ruleOutcome source metrics (e, rule)) =
    report.adding [tallyOf source metrics (e, rule)]
  check : (e.evaluateRule rule source metrics).2.1 = checkOf? metrics rule
  deferred : (checkOf? metrics rule).isSome ↔ tallyOf source metrics (e, rule) = .deferred

/-- The account of a rule that leaves everything as it is. -/
theorem ruleAccount_of_quiet {outcome : Except EvaluationError RuleOutcome}
    {check : Option AnomalyCheck} (distinct : (keys e.alerts.active).Nodup)
    (eq : e.evaluateRule rule source metrics = (outcome, check, e))
    (quiet : Tally.of outcome ≠ .fired ∧ Tally.of outcome ≠ .resolved)
    (same : checkOf? metrics rule = check)
    (deferred : check.isSome ↔ Tally.of outcome = .deferred) :
    e.RuleAccount rule source metrics [] := by
  have hOutcome : ruleOutcome source metrics (e, rule) = outcome := congrArg Prod.fst eq
  have hTally : tallyOf source metrics (e, rule) = Tally.of outcome := congrArg Tally.of hOutcome
  refine ⟨?_, ?_, ?_, fun report => ?_, ?_, ?_⟩
  · rw [eq]
    exact .refl distinct
  · rw [hTally, List.count_singleton, beq_false_of_ne quiet.1]
    rfl
  · rw [hTally, List.count_singleton, beq_false_of_ne quiet.2]
    rfl
  · rw [hOutcome, hTally]
    refine report.count_eq_adding fun n fires => ?_
    rw [fires] at quiet
    exact absurd rfl quiet.1
  · rw [eq, same]
  · rw [hTally, same]
    exact deferred

/-- The account of a rule whose condition has one event published. -/
theorem ruleAccount_of_event {outcome : Except EvaluationError RuleOutcome} {event : Event}
    (accounts : e.Accounts [event] e')
    (eq : e.evaluateRule rule source metrics = (outcome, none, e'))
    (same : checkOf? metrics rule = none)
    (tells : outcome = .ok (.fired 1) ∧ event.isCreated = true ∧ event.isResolved = false ∨
      outcome = .ok .resolved ∧ event.isCreated = false ∧ event.isResolved = true) :
    e.RuleAccount rule source metrics [event] := by
  have hOutcome : ruleOutcome source metrics (e, rule) = outcome := congrArg Prod.fst eq
  have hTally : tallyOf source metrics (e, rule) = Tally.of outcome := congrArg Tally.of hOutcome
  obtain ⟨rfl, created, resolved⟩ | ⟨rfl, created, resolved⟩ := tells <;>
    refine ⟨eq ▸ accounts, ?_, ?_, fun report => ?_, by rw [eq, same], ?_⟩ <;>
      simp only [hTally, hOutcome, same, Tally.of, List.countP_singleton, created, resolved]
  all_goals first | rfl | decide

theorem ruleAccount_threshold (distinct : (keys e.alerts.active).Nodup) (rule : Rule)
    (source : String) (metrics : Json) {c : Condition} (kind : rule.kind = .threshold c) :
    ∃ published, e.RuleAccount rule source metrics published := by
  have hCheck : checkOf? metrics rule = none := by simp [checkOf?, AnomalyCheck.ofRule?, kind]
  have hEq : e.evaluateRule rule source metrics =
      ((e.evaluateCondition rule source metrics c).1, none,
        (e.evaluateCondition rule source metrics c).2) := by
    rw [evaluateRule, kind]
  have quiet (outcome : Except EvaluationError RuleOutcome)
      (eq : e.evaluateCondition rule source metrics c = (outcome, e))
      (tally : Tally.of outcome ≠ .fired ∧ Tally.of outcome ≠ .resolved ∧
        Tally.of outcome ≠ .deferred) : ∃ published, e.RuleAccount rule source metrics published :=
    ⟨[], ruleAccount_of_quiet distinct (by rw [hEq, eq]) ⟨tally.1, tally.2.1⟩ hCheck
      (by simp [tally.2.2])⟩
  by_cases finite : c.threshold.isFinite = true
  · cases found : c.query.resolve? metrics with
    | none => exact quiet (.ok .skipped) (by simp [evaluateCondition, finite, found]) (by decide)
    | some value =>
      by_cases holds : c.comparison.holds value c.threshold = true
      · generalize hCreate : e.storeCreate rule source value
          (.object [(c.query.text, Json.ofFloat value)]) = result
        obtain ⟨a | a, e'⟩ := result
        · refine ⟨_, ruleAccount_of_event (accounts_created distinct hCreate) ?_ hCheck
            (.inl ⟨rfl, rfl, rfl⟩)⟩
          simp [hEq, evaluateCondition, finite, found, holds, hCreate]
        · obtain rfl := eq_of_storeCreate_existing hCreate
          exact quiet (.ok .unchanged)
            (by simp [evaluateCondition, finite, found, holds, hCreate]) (by decide)
      · cases hResolve : e.storeResolveRule? rule.id autoResolveReason with
        | none =>
          exact quiet (.ok .unchanged)
            (by simp [evaluateCondition, finite, found, holds, hResolve]) (by decide)
        | some result =>
          obtain ⟨a, e'⟩ := result
          refine ⟨_, ruleAccount_of_event (accounts_resolved distinct hResolve) ?_ hCheck
            (.inr ⟨rfl, rfl, rfl⟩)⟩
          simp [hEq, evaluateCondition, finite, found, holds, hResolve]
  · exact quiet (.error (.nonFiniteThreshold rule.id)) (by simp [evaluateCondition, finite])
      (by simp [Tally.of])

theorem ruleAccount (distinct : (keys e.alerts.active).Nodup) (rule : Rule) (source : String)
    (metrics : Json) : ∃ published, e.RuleAccount rule source metrics published := by
  cases kind : rule.kind with
  | threshold c => exact ruleAccount_threshold distinct rule source metrics kind
  | rateOfChange c =>
    have hCheck : checkOf? metrics rule = none := by simp [checkOf?, AnomalyCheck.ofRule?, kind]
    refine ⟨[], ruleAccount_of_quiet distinct (by rw [evaluateRule, kind]) ?_ hCheck ?_⟩ <;>
      simp [Tally.of]
  | anomaly resourceType minSeverity =>
    cases found : AnomalyCheck.ofRule? rule metrics with
    | none => simp [AnomalyCheck.ofRule?, kind] at found
    | some result =>
      have hCheck : checkOf? metrics rule = result.toOption := by rw [checkOf?, found]; rfl
      cases result with
      | ok check =>
        refine ⟨[], ruleAccount_of_quiet distinct (by simp only [evaluateRule, kind, found]; rfl) ?_
          hCheck ?_⟩ <;> simp [Tally.of, Except.toOption]
      | error failure =>
        refine ⟨[], ruleAccount_of_quiet distinct (by simp only [evaluateRule, kind, found]; rfl) ?_
          hCheck ?_⟩ <;> simp [Tally.of, Except.toOption]

/-- The account of the evaluations of rules, from one engine to another. -/
structure Account (source : String) (metrics : Json) (e : Engine)
    (evaluated : List (Engine × Rule)) (published : List Event) (e' : Engine) : Prop where
  accounts : e.Accounts published e'
  created : published.countP Event.isCreated =
    (evaluated.map (tallyOf source metrics)).count .fired
  resolved : published.countP Event.isResolved =
    (evaluated.map (tallyOf source metrics)).count .resolved
  deferred : (evaluated.filterMap fun evaluation => checkOf? metrics evaluation.2).length =
    (evaluated.map (tallyOf source metrics)).count .deferred

variable {evaluated later : List (Engine × Rule)}

theorem Account.refl (distinct : (keys e.alerts.active).Nodup) :
    Account source metrics e [] [] e :=
  ⟨.refl distinct, rfl, rfl, rfl⟩

theorem Account.trans (h : Account source metrics e evaluated published e')
    (h' : Account source metrics e' later more e'') :
    Account source metrics e (evaluated ++ later) (published ++ more) e'' where
  accounts := h.accounts.trans h'.accounts
  created := by rw [List.countP_append, List.map_append, List.count_append, h.created, h'.created]
  resolved := by
    rw [List.countP_append, List.map_append, List.count_append, h.resolved, h'.resolved]
  deferred := by
    rw [List.filterMap_append, List.length_append, List.map_append, List.count_append, h.deferred,
      h'.deferred]

theorem RuleAccount.account (h : e.RuleAccount rule source metrics published) :
    Account source metrics e [(e, rule)] published (e.evaluateRule rule source metrics).2.2 where
  accounts := h.accounts
  created := h.created
  resolved := h.resolved
  deferred := by
    have hDeferred := h.deferred
    cases found : checkOf? metrics rule with
    | none =>
      have other : tallyOf source metrics (e, rule) ≠ .deferred := fun same => by
        rw [found] at hDeferred
        cases hDeferred.mpr same
      simp [found, other]
    | some check =>
      rw [found] at hDeferred
      simp [found, hDeferred.mp rfl]

/-- The account of one rule after another, with the report and the checks. -/
theorem account_evaluateRules (source : String) (metrics : Json)
    (distinct : (keys e.alerts.active).Nodup) (rules : List Rule) (report : EvaluationReport) :
    (evaluateRules source metrics rules report e).1 =
        report.adding ((evaluations source metrics rules e).map (tallyOf source metrics)) ∧
      (evaluateRules source metrics rules report e).2.1 = rules.filterMap (checkOf? metrics) ∧
      ∃ published, Account source metrics e (evaluations source metrics rules e) published
        (evaluateRules source metrics rules report e).2.2 := by
  induction rules generalizing e report with
  | nil => exact ⟨rfl, rfl, [], .refl distinct⟩
  | cons rule rules ih =>
    obtain ⟨published, first⟩ := ruleAccount distinct rule source metrics
    obtain ⟨hReport, hChecks, more, rest⟩ := ih first.accounts.distinct
      (report.count (ruleOutcome source metrics (e, rule)))
    refine ⟨?_, ?_, published ++ more, first.account.trans rest⟩
    · refine hReport.trans ?_
      rw [first.report, ← report.adding_append]
      rfl
    · rw [List.filterMap_eq_flatMap_toList, List.flatMap_cons,
        ← List.filterMap_eq_flatMap_toList, ← hChecks, ← first.check]
      rfl

end Engine

end MetricAlerts
