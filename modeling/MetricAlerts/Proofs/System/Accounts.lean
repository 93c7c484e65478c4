import Mathlib.Algebra.Ring.Int.Defs
import MetricAlerts.Proofs.Engine.Account
import MetricAlerts.Proofs.System.Operations
import MetricAlerts.Proofs.System.Turns

/-! The report of an evaluation. An evaluation may take several turns, between which anything may
happen; what it reports is what has come of its own turns all together. -/

namespace MetricAlerts.System

open Engine (Account evaluations tallyOf checkOf?)

/-- How far a task has got that evaluates a snapshot. -/
inductive IsEvaluation (d : Definitions) : Task → EvaluationState → Prop
  | fresh (source : String) (metrics : Json) :
      IsEvaluation d (.fresh (.evaluate source metrics))
        { source, metrics, rules := d.rulesFor source, visits := 0,
          report := .start source (d.rulesFor source).length, checks := [] }
  | evaluation (state : EvaluationState) : IsEvaluation d (.evaluation state) state

/-- The tallies of rules that are evaluated in a turn. -/
def tallies (source : String) (metrics : Json) (s : System) (rules : List Rule) : List Tally :=
  (evaluations source metrics rules s.engine).map (tallyOf source metrics)

/-- What is handed to the background. -/
def detections (source : String) (checks : List AnomalyCheck) : List Work :=
  if checks.isEmpty then [] else [.detect source checks]

/-- A turn in which an evaluation goes on by some of its rules, or by all of them and ends. -/
inductive EvaluationTurn (s : System) (state : EvaluationState) :
    List Rule → Progress × System → Prop
  | waits {rules left : List Rule} {s' : System} {published : List Event} (visits : Nat)
      (split : state.rules = rules ++ left)
      (account : Account state.source state.metrics s.engine
        (evaluations state.source state.metrics rules s.engine) published s'.engine)
      (tasks : s'.tasks = s.tasks) :
      EvaluationTurn s state rules (.waits (.evaluation
        { state with
          rules := left
          visits := visits
          report := state.report.adding (tallies state.source state.metrics s rules)
          checks := state.checks ++ rules.filterMap (checkOf? state.metrics) }), s')
  | ends {s' : System} {published : List Event}
      (account : Account state.source state.metrics s.engine
        (evaluations state.source state.metrics state.rules s.engine) published s'.engine)
      (tasks : s'.tasks = s.tasks ++ freshTasks s.nextTask (detections state.source
        (state.checks ++ state.rules.filterMap (checkOf? state.metrics)))) :
      EvaluationTurn s state state.rules (.ends (.evaluated
        (state.report.adding (tallies state.source state.metrics s state.rules))), s')

variable {between : System → System → Prop} {s s' : System} {task : Task} {source : String}
  {metrics : Json} {state : EvaluationState} {rules : List Rule} {result : TaskResult}
  {turns : List (System × System)}

theorem evaluationTurn_continueEvaluation (distinct : (keys s.engine.alerts.active).Nodup)
    (state : EvaluationState) :
    ∃ rules, EvaluationTurn s state rules (s.continueEvaluation state) := by
  have visited := begins_visitForRules state.metrics state.rules state.visits s
  have same := engine_visitForRules state.metrics state.rules state.visits s
  simp only [continueEvaluation]
  generalize visitForRules state.metrics state.rules state.visits s = visits at visited same ⊢
  obtain ⟨count, next, middle⟩ := visits
  replace same : middle.engine = s.engine := same
  obtain ⟨hReport, hChecks, published, account⟩ := Engine.account_evaluateRules
    state.source state.metrics distinct (state.rules.take count) state.report
  simp only [same]
  generalize s.engine.evaluateRules state.source state.metrics (state.rules.take count)
    state.report = evaluated at hReport hChecks account ⊢
  obtain ⟨report, checks, e⟩ := evaluated
  obtain rfl : report = _ := hReport
  obtain rfl : checks = _ := hChecks
  have begun : Begins { s with engine := e } [] (middle.withEngine e) :=
    (visited.replace e).nil_trans (begins_replaced middle e)
  have engine : (middle.withEngine e).engine = e := engine_withEngine ..
  rw [← engine] at account
  split
  · next hLeft =>
    rw [List.take_of_length_le (List.drop_eq_nil_iff.mp hLeft)] at account ⊢
    split
    · next none => exact ⟨_, .ends account (by rw [detections, if_pos none]; exact begun.tasks)⟩
    · next some =>
      refine ⟨_, .ends account ?_⟩
      rw [detections, if_neg some]
      exact (begun.trans (begins_spawn ..)).tasks
  · exact ⟨_, .waits next (List.take_append_drop ..).symm account begun.tasks_eq⟩

/-- A task that evaluates a snapshot goes on with the evaluation in each of its turns. -/
theorem IsEvaluation.turn (evaluates : IsEvaluation s.engine.definitions task state)
    (distinct : (keys s.engine.alerts.active).Nodup) :
    ∃ rules, EvaluationTurn s state rules (s.goOn task) := by
  cases evaluates with
  | evaluation state => exact evaluationTurn_continueEvaluation distinct state
  | fresh source metrics =>
    obtain ⟨rules, turn⟩ := evaluationTurn_continueEvaluation
      (s := { s with visits := s.visits + 1 }) distinct
      { source, metrics, rules := s.engine.definitions.rulesFor source, visits := 0,
        report := .start source (s.engine.definitions.rulesFor source).length, checks := [] }
    refine ⟨rules, ?_⟩
    show EvaluationTurn s _ rules (continueEvaluation { s with visits := s.visits + 1 } _)
    generalize continueEvaluation _ _ = result at turn ⊢
    cases turn with
    | waits visits split account tasks => exact .waits visits split account tasks
    | ends account tasks => exact .ends account tasks

/-- The rules that are evaluated in the turns, each with the engine as it is then. -/
def evaluatedIn (source : String) (metrics : Json) (turns : List (System × System))
    (groups : List (List Rule)) : List (Engine × Rule) :=
  (turns.zip groups).flatMap fun (turn, rules) => evaluations source metrics rules turn.1.engine

/-- What has come of turns in which rules have been evaluated. -/
structure Totals (source : String) (metrics : Json) (turns : List (System × System))
    (evaluated : List (Engine × Rule)) : Prop where
  events : ∀ turn ∈ turns, turn.1.engine.events <+: turn.2.engine.events
  told : ∀ event ∈ gained (·.engine.events) turns,
    event.isCreated = true ∨ event.isResolved = true
  created : (gained (·.engine.events) turns).countP Event.isCreated =
    (evaluated.map (tallyOf source metrics)).count .fired
  resolved : (gained (·.engine.events) turns).countP Event.isResolved =
    (evaluated.map (tallyOf source metrics)).count .resolved
  active : (turns.map fun turn => (turn.2.engine.alerts.activeCount : Int) -
      turn.1.engine.alerts.activeCount).sum =
    (gained (·.engine.events) turns).countP Event.isCreated -
      (gained (·.engine.events) turns).countP Event.isResolved
  logged : ∀ turn ∈ turns, ∃ operations,
    turn.2.engine.alerts = turn.1.engine.alerts.run operations ∧
      ∀ log, turn.1.engine.alerts.logFrom log operations =
        log ++ (gained (·.engine.events) [turn]).filterMap Event.alert?
  deferred : (evaluated.filterMap fun evaluation => checkOf? metrics evaluation.2).length =
    (evaluated.map (tallyOf source metrics)).count .deferred

variable {evaluated later : List (Engine × Rule)} {published : List Event}

theorem totals_nil : Totals source metrics [] [] where
  events := List.forall_mem_nil _
  told := List.forall_mem_nil _
  created := rfl
  resolved := rfl
  active := rfl
  logged := List.forall_mem_nil _
  deferred := rfl

theorem Totals.cons (totals : Totals source metrics turns later)
    (account : Account source metrics s.engine evaluated published s'.engine) :
    Totals source metrics ((s, s') :: turns) (evaluated ++ later) := by
  have hGained : gained (·.engine.events) ((s, s') :: turns) =
      published ++ gained (·.engine.events) turns := gained_cons account.accounts.events
  have hSingle : gained (·.engine.events) [(s, s')] = published :=
    gained_singleton account.accounts.events
  refine ⟨?_, ?_, ?_, ?_, ?_, ?_, ?_⟩
  · exact List.forall_mem_cons.mpr ⟨⟨published, account.accounts.events.symm⟩, totals.events⟩
  · rw [hGained]
    exact List.forall_mem_append.mpr ⟨account.accounts.told, totals.told⟩
  · rw [hGained, List.countP_append, List.map_append, List.count_append, account.created,
      totals.created]
  · rw [hGained, List.countP_append, List.map_append, List.count_append, account.resolved,
      totals.resolved]
  · have first := account.accounts.active
    have rest := totals.active
    rw [hGained, List.countP_append, List.countP_append]
    simp only [List.map_cons, List.sum_cons]
    omega
  · refine List.forall_mem_cons.mpr ⟨?_, totals.logged⟩
    rw [hSingle]
    exact account.accounts.logged
  · rw [List.filterMap_append, List.length_append, List.map_append, List.count_append,
      account.deferred, totals.deferred]

theorem map_snd_evaluatedIn (source : String) (metrics : Json) {groups : List (List Rule)}
    (length : groups.length = turns.length) :
    (evaluatedIn source metrics turns groups).map Prod.snd = groups.flatten := by
  induction turns generalizing groups with
  | nil => rw [List.length_eq_zero_iff.mp length]; rfl
  | cons turn turns ih =>
    cases groups with
    | nil => cases length
    | cons rules groups =>
      have first := Engine.map_snd_evaluations source metrics rules turn.1.engine
      rw [List.flatten_cons, ← ih (Nat.succ.inj length), evaluatedIn, List.zip_cons_cons,
        List.flatMap_cons, List.map_append, first]
      rfl

/-- New and resolved alerts are alerts, one each. -/
theorem length_alerts_of_told {events : List Event}
    (told : ∀ event ∈ events, event.isCreated = true ∨ event.isResolved = true) :
    (events.filterMap Event.alert?).length =
      events.countP Event.isCreated + events.countP Event.isResolved := by
  induction events with
  | nil => rfl
  | cons event events ih =>
    obtain ⟨first, rest⟩ := List.forall_mem_cons.mp told
    have hRest := ih rest
    cases event with
    | created a | resolved a =>
      simp only [List.filterMap_cons, Event.alert?, List.length_cons, hRest, List.countP_cons,
        Event.isCreated, Event.isResolved]
      simp only [if_true, Bool.false_eq_true, if_false]
      omega
    | updated a | patternsDetected x => rcases first with new | new <;> cases new

/-- What the turns of an evaluation come to. -/
theorem IsEvaluation.completes (completes : Completes between s task turns result)
    (evaluates : IsEvaluation s.engine.definitions task state)
    (distinct : ∀ turn ∈ turns, (keys turn.1.engine.alerts.active).Nodup) :
    ∃ groups : List (List Rule), groups.length = turns.length ∧ groups.flatten = state.rules ∧
      Totals state.source state.metrics turns
        (evaluatedIn state.source state.metrics turns groups) ∧
      result = .evaluated (state.report.adding
        ((evaluatedIn state.source state.metrics turns groups).map
          (tallyOf state.source state.metrics))) ∧
      (∀ turn ∈ turns, turn.1.tasks <+: turn.2.tasks) ∧
      (gained tasks turns).map Prod.snd = (detections state.source
        (state.checks ++ state.rules.filterMap (checkOf? state.metrics))).map .fresh := by
  induction completes generalizing state with
  | @ends s s' task result goes =>
    obtain ⟨rules, turn⟩ := evaluates.turn (distinct _ List.mem_cons_self)
    rw [goes] at turn
    cases turn with
    | ends account tasks =>
      have hEvaluated : evaluatedIn state.source state.metrics [(s, s')] [state.rules] =
          evaluations state.source state.metrics state.rules s.engine := List.append_nil _
      have totals := totals_nil.cons account
      rw [List.append_nil] at totals
      refine ⟨[state.rules], rfl, List.append_nil _, ?_, ?_, ?_, ?_⟩
      · rw [hEvaluated]
        exact totals
      · rw [hEvaluated]
        rfl
      · exact List.forall_mem_singleton.mpr ⟨_, tasks.symm⟩
      · rw [gained_singleton tasks, works_freshTasks]
  | @waits s s' later task next turns result goes passes rest ih =>
    obtain ⟨rules, turn⟩ := evaluates.turn (distinct _ List.mem_cons_self)
    rw [goes] at turn
    cases turn with
    | waits visits split account tasks =>
      obtain ⟨groups, hLength, hFlatten, totals, hResult, grows, works⟩ :=
        ih (.evaluation _) fun turn mem => distinct turn (List.mem_cons_of_mem _ mem)
      refine ⟨rules :: groups, congrArg (· + 1) hLength, ?_, totals.cons account, ?_, ?_, ?_⟩
      · rw [List.flatten_cons, hFlatten, split]
      · rw [hResult, ← EvaluationReport.adding_append, tallies, ← List.map_append]
        rfl
      · exact List.forall_mem_cons.mpr ⟨⟨[], (List.append_nil _).trans tasks.symm⟩, grows⟩
      · rw [gained_cons (tasks.trans (List.append_nil _).symm), List.nil_append, works, split,
          List.filterMap_append, List.append_assoc]

/-! ### The end of an evaluation -/

theorem length_visitsFor_le (e : Engine) (metrics : Json) (rule : Rule) :
    (visitsFor e metrics rule).length ≤ 2 := by
  unfold visitsFor
  split
  · split
    · exact Nat.zero_le _
    · split
      · exact Nat.zero_le _
      · split
        · exact Nat.le_succ 1
        · split
          · exact Nat.le_refl 2
          · exact Nat.le_succ 1
  · exact Nat.zero_le _

/-- An evaluation that does not get through has visited the store at most once for its next rule,
and where it is let in it has made some headway. -/
theorem visitForRules_stops (metrics : Json) (rules : List Rule) (before : Nat) (s : System) :
    (visitForRules metrics rules before s).1 = rules.length ∨
      (visitForRules metrics rules before s).1 < rules.length ∧
        (visitForRules metrics rules before s).2.1 ≤ 1 ∧
        (s.LetsIn 0 → 0 < (visitForRules metrics rules before s).1 ∨
          before < (visitForRules metrics rules before s).2.1) := by
  induction rules generalizing before s with
  | nil => exact .inl rfl
  | cons rule rules ih =>
    simp only [visitForRules]
    have short := length_visitsFor_le s.engine metrics rule
    generalize hWanted : (visitsFor s.engine metrics rule).drop before = wanted
    have hLength : wanted.length = (visitsFor s.engine metrics rule).length - before := by
      rw [← hWanted, List.length_drop]
    split
    · next less =>
      refine .inr ⟨Nat.succ_pos _, ?_, fun lets => .inr ?_⟩
      · simp only
        omega
      · have made := lets.visitAll_pos (List.ne_nil_of_length_pos (Nat.zero_lt_of_lt less))
        simp only
        omega
    · rcases ih 0 (visitAll 0 wanted s).2 with all | ⟨less, next, -⟩
      · exact .inl (congrArg (· + 1) all)
      · exact .inr ⟨Nat.succ_lt_succ less, next, fun _ => .inl (Nat.succ_pos _)⟩

/-- An evaluation that has rules left, of which it has visited the store for the next one once at
most. -/
def Task.IsUnfinished (task : Task) : Prop :=
  ∃ state, task = .evaluation state ∧ 0 < state.rules.length ∧ state.visits ≤ 1

/-- How often an evaluation may still have to visit the store. -/
def Task.visitsLeft : Task → Nat
  | .evaluation state => 2 * state.rules.length - state.visits
  | _ => 0

theorem waits_of_continueEvaluation {next : Task}
    (goes : s.continueEvaluation state = (.waits next, s')) :
    Task.IsUnfinished next ∧ (s.LetsIn 0 → 0 < state.rules.length → state.visits ≤ 1 →
      Task.visitsLeft next < 2 * state.rules.length - state.visits) := by
  have stops := visitForRules_stops state.metrics state.rules state.visits s
  simp only [continueEvaluation] at goes
  generalize visitForRules state.metrics state.rules state.visits s = visits at goes stops
  obtain ⟨count, visits, visited⟩ := visits
  simp only at goes stops
  split at goes
  · cases goes
  · next left =>
    cases goes
    have hLength : (state.rules.drop count).length = state.rules.length - count :=
      List.length_drop
    have some : 0 < (state.rules.drop count).length := List.length_pos_iff.mpr left
    obtain all | ⟨less, once, headway⟩ := stops
    · omega
    · refine ⟨⟨_, rfl, some, once⟩, fun lets _ before => ?_⟩
      have := headway lets
      simp only [Task.visitsLeft]
      omega

/-- An evaluation comes to its end if it is let in again and again. -/
theorem exists_completes_evaluate (supply : ∀ s, ∃ later, between s later ∧ later.LetsIn 0)
    (s : System) (source : String) (metrics : Json) :
    ∃ turns result, Completes between s (.fresh (.evaluate source metrics)) turns result := by
  refine exists_completes Task.IsUnfinished Task.visitsLeft supply ?_ ?_ ?_
  · rintro s s' _ next ⟨state, rfl, -, -⟩ goes
    exact (waits_of_continueEvaluation goes).1
  · rintro s s' _ next ⟨state, rfl, some, before⟩ lets goes
    exact (waits_of_continueEvaluation goes).2 lets some before
  · intro next s' goes
    exact (waits_of_continueEvaluation (s := { s with visits := s.visits + 1 }) goes).1

/-- An evaluation ends if it is let in again and again, and its report accounts for all that it has
done. Each enabled rule that looks at the source has been evaluated once, and counts as fired,
resolved, skipped, failed, deferred or unchanged; fired and resolved are the new and the resolved
alerts that its turns have published, brought to the active alerts or taken from them, and logged.
The rules that are deferred are handed to the background together, if there are any. -/
theorem evaluation_report (source : String) (metrics : Json) :
    (∀ between : System → System → Prop,
      (∀ s, ∃ later, between s later ∧ later.LetsIn 0) → ∀ s, ∃ turns result,
        Completes between s (.fresh (.evaluate source metrics)) turns result) ∧
    ∀ (between : System → System → Prop) (s : System) (turns : List (System × System))
      (result : TaskResult),
      Completes between s (.fresh (.evaluate source metrics)) turns result →
      (∀ turn ∈ turns, (keys turn.1.engine.alerts.active).Nodup) →
      ∃ report groups checks, result = .evaluated report ∧
        let published := gained (·.engine.events) turns
        let evaluated := evaluatedIn source metrics turns groups
        let tallies := evaluated.map (tallyOf source metrics)
        groups.length = turns.length ∧
        groups.flatten = s.engine.definitions.rulesFor source ∧
        evaluated.map Prod.snd = s.engine.definitions.rulesFor source ∧
        report.source = source ∧
        report.evaluated = s.engine.definitions.rules.countP (fun rule =>
          rule.enabled && (rule.source == source || rule.source == "all")) ∧
        report.fired = tallies.count .fired ∧ report.resolved = tallies.count .resolved ∧
        report.skipped = tallies.count .skipped ∧ report.failed = tallies.count .failed ∧
        report.deferred = tallies.count .deferred ∧
        report.evaluated = report.fired + report.resolved + report.skipped + report.failed +
          report.deferred + tallies.count .unchanged ∧
        (∀ turn ∈ turns, turn.1.engine.events <+: turn.2.engine.events) ∧
        (∀ event ∈ published, event.isCreated = true ∨ event.isResolved = true) ∧
        report.fired = published.countP Event.isCreated ∧
        report.resolved = published.countP Event.isResolved ∧
        (turns.map fun turn => (turn.2.engine.alerts.activeCount : Int) -
          turn.1.engine.alerts.activeCount).sum = report.fired - report.resolved ∧
        (∀ turn ∈ turns, ∃ operations,
          turn.2.engine.alerts = turn.1.engine.alerts.run operations ∧
            ∀ log, turn.1.engine.alerts.logFrom log operations =
              log ++ (gained (·.engine.events) [turn]).filterMap Event.alert?) ∧
        (published.filterMap Event.alert?).length = report.fired + report.resolved ∧
        checks = (s.engine.definitions.rulesFor source).filterMap (checkOf? metrics) ∧
        checks.length = report.deferred ∧
        (∀ turn ∈ turns, turn.1.tasks <+: turn.2.tasks) ∧
        (gained tasks turns).map Prod.snd =
          if 0 < report.deferred then [.fresh (.detect source checks)] else [] := by
  refine ⟨fun between supply s => exists_completes_evaluate supply s source metrics,
    fun between s turns result completes distinct => ?_⟩
  obtain ⟨groups, hLength, hFlatten, totals, hResult, grows, works⟩ :=
    (IsEvaluation.fresh source metrics).completes completes distinct
  dsimp only at hFlatten totals hResult works
  have hRules := (map_snd_evaluatedIn source metrics hLength).trans hFlatten
  have hEvaluated : (s.engine.definitions.rulesFor source).length =
      s.engine.definitions.rules.countP (fun rule =>
        rule.enabled && (rule.source == source || rule.source == "all")) :=
    List.countP_eq_length_filter.symm
  have hTallies := length_tallies
    ((evaluatedIn source metrics turns groups).map (tallyOf source metrics))
  have hChecks : ((s.engine.definitions.rulesFor source).filterMap (checkOf? metrics)).length =
      ((evaluatedIn source metrics turns groups).map (tallyOf source metrics)).count .deferred := by
    rw [← totals.deferred, ← hRules, List.filterMap_map]
    rfl
  have hPublished := length_alerts_of_told totals.told
  have hLengths := congrArg List.length hRules
  rw [List.length_map] at hLengths hTallies
  rw [totals.created, totals.resolved] at hPublished
  refine ⟨_, groups, _, hResult, hLength, hFlatten, hRules, rfl, hEvaluated, Nat.zero_add _,
    Nat.zero_add _, Nat.zero_add _, Nat.zero_add _, Nat.zero_add _, ?_, totals.events, totals.told,
    ?_, ?_, ?_, totals.logged, ?_, rfl, ?_, grows, ?_⟩
  all_goals simp only [EvaluationReport.adding, EvaluationReport.start, Nat.zero_add]
  · rw [← hLengths, hTallies]
  · exact totals.created.symm
  · exact totals.resolved.symm
  · rw [totals.active, totals.created, totals.resolved]
  · exact hPublished
  · exact hChecks
  · rw [works, List.nil_append, detections, ← hChecks]
    cases (s.engine.definitions.rulesFor source).filterMap (checkOf? metrics) <;> simp

/-- A system whose rules look at the load of a processor, for anomalies, and at what a snapshot need
not have. -/
def loadSystem : System :=
  initial (Engine.initial ⟨fun _ => "first", fun n => ⟨n, 0⟩⟩
    ⟨[Engine.cpuRule "cpu", AlertStore.diskRule, { Engine.cpuRule "gpu" with
      kind := .threshold ⟨.key "gpu", .greater, 80⟩ }], []⟩ 2 1 4 2 100) .neutral 1

theorem evaluation_report_loadSystem :
    let metrics : Json := .object [("cpu", .int 90)]
    let turns := [(loadSystem, (loadSystem.goOn (.fresh (.evaluate "node" metrics))).2)]
    let report : EvaluationReport := ⟨"node", 3, 1, 0, 1, 0, 1⟩
    Completes (fun _ _ => False) loadSystem (.fresh (.evaluate "node" metrics)) turns
        (.evaluated report) ∧
      (∀ turn ∈ turns, (keys turn.1.engine.alerts.active).Nodup) ∧
      (gained (·.engine.events) turns).countP Event.isCreated = 1 ∧
      ∃ checks, checks.length = 1 ∧
        (gained tasks turns).map Prod.snd = [.fresh (.detect "node" checks)] := by
  intro metrics turns report
  have completes : Completes (fun _ _ => False) loadSystem (.fresh (.evaluate "node" metrics)) turns
      (.evaluated report) := .ends rfl
  have distinct : ∀ turn ∈ turns, (keys turn.1.engine.alerts.active).Nodup :=
    List.forall_mem_singleton.mpr List.nodup_nil
  obtain ⟨_, groups, checks, same, -, -, -, -, -, -, -, -, -, -, -, -, -, fired, -, -, -, -, -,
    deferred, -, works⟩ := (evaluation_report "node" metrics).2 _ _ _ _ completes distinct
  cases same
  exact ⟨completes, distinct, fired.symm, checks, deferred, works⟩

end MetricAlerts.System
