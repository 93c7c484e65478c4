import MetricAlerts.Proofs.System.Patterns

/-! The turns of tasks on duty. Whatever a task does in its turn, apart from the dispatch loop and
those who stop it, is a part of a watch. -/

namespace MetricAlerts.System

/-- A part of a watch in which the loop stays as it is and a task does what it does by itself. -/
abbrev Tends : Option Loop → Bool → System → List Duty → System → List Duty → Prop :=
  Cares fun deed => deed.isOwn

variable {s s' : System} {duties duties' : List Duty} {loop : Option Loop} {stopping : Bool}
  {works : List Work} {e : Engine} {task : Task}

/-- An action from which nothing follows. -/
theorem tends_act (s : System) {action : Engine.Action} (due : action.IsDue duties)
    (other : action.defines = false) (last : s.engine.duties action = []) :
    Tends loop stopping s duties (s.withEngine (s.engine.after action)) duties := by
  have acted : Watch.Step ⟨s.engine, duties, loop, stopping⟩ (.act action) _ := .act due
  rw [last, List.append_nil] at acted
  have own : (Watch.Deed.act action).isOwn := by
    rw [Watch.Deed.isOwn, other]
    rfl
  exact .of_runs (.cons acted (.nil _)) (List.forall_mem_singleton.mpr own) (List.Subset.refl _)

/-! Rules. -/

theorem tends_continueEvaluation (s : System) {state : EvaluationState}
    (due : (Task.evaluation state).IsDue duties) :
    ∃ duties', Tends loop stopping s duties (s.continueEvaluation state).2 duties' ∧
      (s.continueEvaluation state).1.IsDue duties' := by
  obtain ⟨rules, checked⟩ := due
  have visited := begins_visitForRules state.metrics state.rules state.visits s
  have same := engine_visitForRules state.metrics state.rules state.visits s
  simp only [continueEvaluation]
  generalize visitForRules state.metrics state.rules state.visits s = visits at visited same ⊢
  obtain ⟨count, next, later⟩ := visits
  obtain ⟨trace, runs, own⟩ := @exists_runs_evaluateRules loop stopping state.source state.metrics
    (state.rules.take count) state.report later.engine duties
    fun rule mem => rules rule (List.mem_of_mem_take mem)
  simp only at same ⊢
  generalize later.engine.evaluateRules state.source state.metrics (state.rules.take count)
    state.report = result at runs ⊢
  obtain ⟨report, checks, e⟩ := result
  let duties' := duties ++ checks.map fun check => Duty.rule (.detection check state.source)
  have subset : duties ⊆ duties' := List.subset_append_left ..
  have evaluated : Tends loop stopping s duties (later.withEngine e) duties' :=
    .trans (.of_begins visited same) (.of_runs runs own subset)
  have detections : ∀ check ∈ state.checks ++ checks,
      .rule (.detection check state.source) ∈ duties' :=
    List.forall_mem_append.mpr ⟨fun check mem => subset (checked check mem), fun check mem =>
      List.mem_append_right _ (List.mem_map_of_mem mem)⟩
  refine ⟨duties', ?_⟩
  split
  · split
    · exact ⟨evaluated, trivial⟩
    · exact ⟨evaluated.trans (.of_works (begins_spawn ..) (engine_spawn ..)
        (List.forall_mem_singleton.mpr ⟨detections, rfl⟩)), trivial⟩
  · exact ⟨evaluated, ⟨fun rule mem => subset (rules rule (List.mem_of_mem_drop mem)), detections⟩,
      rfl⟩

theorem tends_raiseAlerts (s : System) {source : String} (strand : Nat) {check : AnomalyCheck}
    (state : CheckState) (due : .rule (.detection check source) ∈ duties) :
    ∃ duties', Tends loop stopping s duties (s.raiseAlerts source strand check state).2.2
      duties' := by
  unfold raiseAlerts
  split
  · next anomalies _ =>
    have visited : Tends loop stopping s duties
        (visitAll strand (anomalies.map fun _ => .write) s).2 duties :=
      .of_begins (begins_visitAll ..) (engine_visitAll ..)
    generalize visitAll strand (anomalies.map fun _ => .write) s = visits at visited ⊢
    obtain ⟨count, later⟩ := visits
    obtain ⟨trace, runs, own⟩ := @exists_runs_raiseAnomalies loop stopping check source
      (anomalies.take count) later.engine duties due
    simp only
    generalize later.engine.raiseAnomalies check source (anomalies.take count) = result at runs ⊢
    obtain ⟨alerts, e⟩ := result
    refine ⟨_, (visited.trans (.of_runs runs own (List.subset_append_left ..))).trans
      (.of_works (begins_spawnAll ..) (engine_spawnAll ..) fun work mem => ?_)⟩
    obtain ⟨alert, hAlert, rfl⟩ := List.mem_map.mp mem
    exact ⟨List.mem_append_right _ (List.mem_map_of_mem hAlert), rfl⟩
  · exact ⟨duties, .refl ..⟩

theorem CheckSteps.tends {source : String} {c c' : Checking} (steps : CheckSteps source c c')
    (due : ∀ check ∈ c.1.map Prod.fst, .rule (.detection check source) ∈ duties) :
    ∃ duties', Tends loop stopping c.2 duties c'.2 duties' := by
  induction steps with
  | refl => exact ⟨duties, .refl ..⟩
  | tail steps last ih =>
    obtain ⟨duties', before⟩ := ih
    cases last with
    | arrange begins engine => exact ⟨duties', before.trans (.of_begins begins engine)⟩
    | @check checks s strand check state found =>
      have mem : check ∈ checks.map Prod.fst := List.mem_map_of_mem (List.mem_of_getElem? found)
      rw [CheckSteps.checks steps] at mem
      obtain ⟨duties'', raised⟩ := @tends_raiseAlerts duties' loop stopping s source strand check
        state (before.subset (due check mem))
      exact ⟨duties'', before.trans raised⟩

theorem tends_detection (s : System) {source : String} (fired : Nat)
    {checks : List (AnomalyCheck × CheckState)}
    (due : (Task.detection source fired checks).IsDue duties) :
    ∃ duties', Tends loop stopping s duties
        (s.continueTask (.detection source fired checks)).2 duties' ∧
      (s.continueTask (.detection source fired checks)).1.IsDue duties' := by
  have steps : CheckSteps source (checks, s) _ := checkSteps_continueChecks s checks
  obtain ⟨duties', checked⟩ : ∃ duties', Tends loop stopping s duties _ duties' := steps.tends due
  have same := steps.checks
  simp only [continueTask]
  generalize s.continueChecks source checks = result at checked same ⊢
  obtain ⟨more, rest, later⟩ := result
  refine ⟨duties', ?_⟩
  split
  · exact ⟨checked, trivial⟩
  · refine ⟨checked, fun check mem => checked.subset (due check ?_), rfl⟩
    rw [show rest.map Prod.fst = checks.map Prod.fst from same] at mem
    exact mem

/-! Answers of the analyzer. -/

/-- At its end an activity changes an alert, or it waits for the store. -/
theorem tends_changeAlert (s : System) {change : Engine → Option Alert × Engine}
    (due : task.IsDue duties) (other : task.isLoop = false)
    (acts : ∀ e : Engine, ∃ action : Engine.Action, action.IsDue duties ∧ action.defines = false ∧
      e.duties action = [] ∧ (change e).2 = e.after action) :
    Tends loop stopping s duties (s.changeAlert task change).2 duties ∧
      (s.changeAlert task change).1.IsDue duties := by
  have hVisit := engine_visit s 0 .write
  have begins := begins_visit s 0 .write
  unfold changeAlert
  split
  · next visited found =>
    rw [found] at hVisit begins
    obtain ⟨action, isDue, own, last, same⟩ := acts visited.engine
    refine ⟨?_, trivial⟩
    show Tends loop stopping s duties (visited.withEngine (change visited.engine).2) duties
    rw [same]
    exact .trans (.of_begins begins hVisit) (tends_act visited isDue own last)
  · next visited found =>
    rw [found] at hVisit begins
    exact ⟨.of_begins begins hVisit, due, other⟩

/-! Tasks. -/

/-- What a task comes to, or an activity that begins, when there are duties. -/
def IsTended (loop : Option Loop) (stopping : Bool) (s : System) (duties : List Duty)
    (result : Progress × System) : Prop :=
  ∃ duties', Tends loop stopping s duties result.2 duties' ∧ result.1.IsDue duties'

variable {result : Progress × System}

theorem isTended_self {progress : Progress} (due : progress.IsDue duties) :
    IsTended loop stopping s duties (progress, s) :=
  ⟨duties, .refl .., due⟩

theorem IsTended.of_begins (begins : s.Begins [] s') (engine : s'.engine = s.engine)
    (tended : IsTended loop stopping s' duties result) :
    IsTended loop stopping s duties result := by
  obtain ⟨duties', tends, due⟩ := tended
  exact ⟨duties', .trans (.of_begins begins engine) tends, due⟩

/-- A task goes on. -/
theorem isTended_continueTask (s : System) (due : task.IsDue duties) (other : task.isLoop = false)
    (noStop : task.isStop = false) : IsTended loop stopping s duties (s.continueTask task) := by
  cases task with
  | fresh | held => exact isTended_self trivial
  | evaluation state => exact tends_continueEvaluation s due
  | detection source fired checks => exact tends_detection s fired due
  | enrichment alert r c =>
    simp only [continueTask]
    split
    · split
      · exact isTended_self trivial
      · exact ⟨duties, tends_changeAlert s due rfl fun e => ⟨.enrich .., due, rfl, rfl, rfl⟩⟩
    · exact isTended_self ⟨due, rfl⟩
  | feedback alert answer =>
    simp only [continueTask]
    split
    · next x found =>
      split
      · exact isTended_self trivial
      · have same := Slot.eq_value_of_valueAt? found
        exact ⟨duties, tends_changeAlert s due rfl fun e =>
          ⟨.giveFeedback alert x, same ▸ due, rfl, rfl, rfl⟩⟩
    · exact isTended_self ⟨due, rfl⟩
  | explanation | recommendations | correlations =>
    simp only [continueTask]
    split
    · exact isTended_self trivial
    · exact isTended_self ⟨due, rfl⟩
  | patternRun answer =>
    simp only [continueTask]
    split
    · next x found =>
      have announced : Searches loop stopping s duties _ duties :=
        searches_announcePatterns s due found
      exact ⟨duties, announced.of_allowed fun _ own => own.2, trivial⟩
    · exact isTended_self ⟨due, rfl⟩
  | dispatch state => exact due.elim
  | dispatchLoop state => cases other
  | patternJob state =>
    obtain ⟨duties', searches, due'⟩ := @searches_runJob duties loop stopping jobFuel state s due
    exact ⟨duties', searches.of_allowed fun _ own => own.2, due'⟩
  | stopping current later => cases noStop

theorem type_callFeedback (s : System) (alert : Alert) (type : FeedbackType) :
    (s.callFeedback alert type).1.value.type = type := by
  cases type <;> simp only [callFeedback, Slot.value_map] <;> rfl

/-- An activity begins. -/
theorem isTended_startWork (s : System) {work : Work} (due : work.IsDue duties)
    (other : work.isLoop = false) (noStop : (Task.fresh work).isStop = false) :
    IsTended loop stopping s duties (s.startWork work) := by
  cases work with
  | evaluate source metrics =>
    have ingested : Watch.Step ⟨s.engine, duties, loop, stopping⟩ (.ingest source metrics) _ :=
      .ingest source metrics
    have looked : s.Begins [] { s with visits := s.visits + 1 } :=
      .of_eq rfl rfl rfl rfl rfl rfl rfl
    have first : Tends loop stopping s duties { s with visits := s.visits + 1 } _ :=
      ⟨⟨_, .cons ingested (.nil _), List.forall_mem_singleton.mpr rfl⟩,
        List.subset_append_left .., [], looked, List.forall_mem_nil _⟩
    let state : EvaluationState := ⟨source, metrics, s.engine.definitions.rulesFor source, 0,
      EvaluationReport.start source (s.engine.definitions.rulesFor source).length, []⟩
    have lookedUp : (Task.evaluation state).IsDue (duties ++
        (s.engine.definitions.rulesFor source).map fun rule =>
          .rule (.evaluation rule source metrics)) :=
      ⟨fun rule mem => List.mem_append_right _ (List.mem_map_of_mem mem), List.forall_mem_nil _⟩
    obtain ⟨duties', evaluated, due'⟩ := @tends_continueEvaluation _ loop stopping
      { s with visits := s.visits + 1 } state lookedUp
    exact ⟨duties', first.trans evaluated, due'⟩
  | detect source checks =>
    refine .of_begins (begins_callChecks checks s) (engine_callChecks checks s) ?_
    refine isTended_continueTask _ ?_ rfl rfl
    show ∀ check ∈ (callChecks checks s).1.map Prod.fst, _
    rw [checks_callChecks]
    exact due
  | enrich alert =>
    refine .of_begins (begins_callRecommend s alert) (engine_callRecommend s alert) ?_
    refine .of_begins (begins_callCorrelate _ alert) (engine_callCorrelate _ alert) ?_
    exact isTended_continueTask _ due rfl rfl
  | feedback alert type =>
    refine .of_begins (begins_callFeedback s alert type) (engine_callFeedback s alert type) ?_
    refine isTended_continueTask _ ?_ rfl rfl
    show .feedback alert (s.callFeedback alert type).1.value.type ∈ duties
    rw [type_callFeedback]
    exact due
  | explain metrics resourceType =>
    refine .of_begins (begins_callExplain s metrics resourceType) (engine_callExplain ..) ?_
    exact isTended_continueTask _ trivial rfl rfl
  | recommend alert =>
    refine .of_begins (begins_callRecommend s alert) (engine_callRecommend s alert) ?_
    exact isTended_continueTask _ trivial rfl rfl
  | correlate alert =>
    refine .of_begins (begins_callCorrelate s alert) (engine_callCorrelate s alert) ?_
    exact isTended_continueTask _ trivial rfl rfl
  | analyzePatterns window =>
    obtain ⟨duties₁, asked, due₁⟩ := @searches_callPatterns duties loop stopping s window
    obtain ⟨duties', answered, due'⟩ := @isTended_continueTask duties₁ loop stopping
      (.patternRun (s.callPatterns window).1) (s.callPatterns window).2 due₁ rfl rfl
    exact ⟨duties', .trans (asked.of_allowed fun _ own => own.2) answered, due'⟩
  | dispatch event => exact due.elim
  | dispatchLoop place => cases other
  | patternJob schedule =>
    simp only [startWork]
    split
    · exact isTended_self trivial
    · have waiting : s.Begins []
          ((s.newWait schedule.startupDelay).2.newWait schedule.interval).2 :=
        .of_eq rfl rfl rfl rfl rfl rfl rfl
      refine .of_begins waiting rfl ?_
      exact isTended_continueTask _ (by rintro run ⟨⟩) rfl rfl
  | stop tasks => cases noStop

theorem isTended_resumeWork (s : System) {work : Work} (due : work.IsDue duties)
    (other : work.isLoop = false) (noStop : (Task.fresh work).isStop = false) :
    IsTended loop stopping s duties (s.resumeWork work) := by
  unfold resumeWork
  split
  · next alert =>
    refine .of_begins (begins_callCorrelate s alert) (engine_callCorrelate s alert) ?_
    refine .of_begins (begins_callRecommend _ alert) (engine_callRecommend _ alert) ?_
    exact isTended_continueTask _ due rfl rfl
  · exact isTended_startWork s due other noStop

theorem isTended_enter (s : System) {work : Work} {how : System → Work → Progress × System}
    (due : work.IsDue duties) (other : work.isLoop = false)
    (tended : ∀ s, IsTended loop stopping s duties (how s work)) :
    IsTended loop stopping s duties (s.enter work how) := by
  have hVisit := engine_visit s 0 .read
  have begins := begins_visit s 0 .read
  unfold enter
  split
  · split
    · next visited found =>
      rw [found] at hVisit begins
      exact .of_begins begins hVisit (tended visited)
    · next visited found =>
      rw [found] at hVisit begins
      exact .of_begins begins hVisit (isTended_self ⟨due, other⟩)
  · exact tended s

/-- What a task does in its turn. -/
theorem isTended_goOn (s : System) (due : task.IsDue duties) (other : task.isLoop = false)
    (noStop : task.isStop = false) : IsTended loop stopping s duties (s.goOn task) := by
  cases task with
  | fresh work =>
    exact isTended_enter s due other fun s => isTended_startWork s due other noStop
  | held work =>
    refine isTended_enter s due other fun s => isTended_resumeWork s due other ?_
    cases work with
    | stop => cases noStop
    | _ => rfl
  | _ => exact isTended_continueTask s due other noStop

end MetricAlerts.System
