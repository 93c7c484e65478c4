import MetricAlerts.Proofs.System.Checks
import MetricAlerts.Proofs.System.Operations

/-! Whatever the tasks of a system do in whatever order, its engine goes on by steps. -/

namespace MetricAlerts

namespace Engine

variable {e : Engine}

/-- One step after another. -/
abbrev Steps : Engine → Engine → Prop := Relation.ReflTransGen Step

theorem steps_run (e : Engine) (actions : List Action) : Steps e (e.run actions) := by
  induction actions generalizing e with
  | nil => exact .refl
  | cons action actions ih => exact .head (.work action) (ih _)

theorem steps_evaluateRules (e : Engine) (source : String) (metrics : Json) (rules : List Rule)
    (report : EvaluationReport) : Steps e (evaluateRules source metrics rules report e).2.2 := by
  rw [evaluateRules_eq_run]
  exact steps_run ..

theorem steps_raiseAnomalies (e : Engine) (check : AnomalyCheck) (source : String)
    (anomalies : List Anomaly) : Steps e (raiseAnomalies check source anomalies e).2 := by
  rw [raiseAnomalies_eq_run]
  exact steps_run ..

theorem steps_announcePatterns (e : Engine) (analysis : PatternAnalysis) :
    Steps e (e.announcePatterns analysis).2 :=
  .single (.work (.announcePatterns analysis))

end Engine

namespace System

variable {s s' s'' : System}

/-- The engine of one system goes on by steps to that of the other. -/
def Advances (s s' : System) : Prop := Engine.Steps s.engine s'.engine

theorem Advances.of_eq (h : s'.engine = s.engine) : s.Advances s' := by
  rw [Advances, h]

theorem Advances.refl (s : System) : s.Advances s := Relation.ReflTransGen.refl

theorem Advances.trans (first : s.Advances s') (second : s'.Advances s'') : s.Advances s'' :=
  Relation.ReflTransGen.trans first second

/-- Without a change of the alerts there is nothing but clients and lines to change. -/
theorem Spawns.advances {works : List Work} (spawns : s.Spawns works s') : s.Advances s' := by
  obtain ⟨hub, console, same⟩ := spawns.engine
  rw [Advances, same]
  exact .single (.serve hub console s.engine.readings)

theorem advances_withEngine {e : Engine} (h : Engine.Steps s.engine e) :
    s.Advances (s.withEngine e) := by
  rw [Advances, engine_withEngine]
  exact h

theorem advances_continueEvaluation (s : System) (state : EvaluationState) :
    s.Advances (s.continueEvaluation state).2 := by
  simp only [continueEvaluation]
  generalize hVisits : visitForRules state.metrics state.rules state.visits s = visits
  obtain ⟨count, next, visited⟩ := visits
  have hEngine : visited.engine = s.engine := by
    have hSame := engine_visitForRules state.metrics state.rules state.visits s
    rwa [hVisits] at hSame
  have evaluated := (Advances.of_eq hEngine).trans (advances_withEngine
    (Engine.steps_evaluateRules visited.engine state.source state.metrics (state.rules.take count)
      state.report))
  split
  · split <;> exact evaluated
  · exact evaluated

theorem advances_raiseAlerts (s : System) (source : String) (strand : Nat) (check : AnomalyCheck)
    (state : CheckState) : s.Advances (s.raiseAlerts source strand check state).2.2 := by
  unfold raiseAlerts
  split
  · next anomalies _ =>
    have visited := Advances.of_eq (engine_visitAll strand (anomalies.map fun _ => .write) s)
    have raised := visited.trans (advances_withEngine (Engine.steps_raiseAnomalies _ check source
      (anomalies.take (visitAll strand (anomalies.map fun _ => .write) s).1)))
    exact raised.trans (.of_eq (engine_spawnAll ..))
  · exact .refl s

theorem CheckSteps.advances {source : String} {c c' : Checking} (steps : CheckSteps source c c') :
    c.2.Advances c'.2 := by
  induction steps with
  | refl => exact .refl _
  | tail _ last ih =>
    refine ih.trans ?_
    cases last with
    | arrange begins => exact begins.advances
    | check => exact advances_raiseAlerts ..

theorem advances_changeAlert (s : System) (task : Task) {change : Engine → Option Alert × Engine}
    (steps : ∀ e, Engine.Steps e (change e).2) : s.Advances (s.changeAlert task change).2 := by
  have hVisit := engine_visit s 0 .write
  unfold changeAlert
  split
  · next visited found =>
    rw [found] at hVisit
    exact (Advances.of_eq hVisit).trans (advances_withEngine (steps _))
  · next visited found =>
    rw [found] at hVisit
    exact .of_eq hVisit

theorem advances_continueDispatch (s : System) (state : DispatchState) :
    s.Advances (s.continueDispatch state).2 := by
  cases state with
  | taken event =>
    obtain ⟨-, begins⟩ | ⟨deliveries, -, spawns⟩ := continueDispatch_taken_cases s event
    · exact begins.advances
    · exact spawns.advances
  | handedOut event deliveries => exact (spawns_continueDeliveries ..).advances

theorem advances_runLoop (fuel : Nat) (state : LoopState) (s : System) :
    s.Advances (runLoop fuel state s).2 := by
  induction fuel generalizing state s with
  | zero => exact .refl s
  | succ fuel ih =>
    have hVisit := engine_visitOpen s
    unfold runLoop
    split
    · next dispatch _ =>
      have dispatched := advances_continueDispatch s dispatch
      simp only
      split
      · exact dispatched.trans (ih ..)
      · exact dispatched
    · split
      · exact .refl s
      · split
        · next visited found => rw [found] at hVisit; exact .of_eq hVisit
        · next visited found =>
          rw [found] at hVisit
          have going := Advances.of_eq hVisit
          split
          · exact going.trans (ih ..)
          · exact going.trans (ih ..)
          · exact .refl s

theorem advances_runJob (fuel : Nat) (state : JobState) (s : System) :
    s.Advances (runJob fuel state s).2 := by
  induction fuel generalizing state s with
  | zero => exact .refl s
  | succ fuel ih =>
    have hVisit := engine_visit s 0 .read
    unfold runJob
    split
    · split
      · next visited found => rw [found] at hVisit; exact (Advances.of_eq hVisit).trans (ih ..)
      · next visited found => rw [found] at hVisit; exact .of_eq hVisit
    · split
      · next visited found =>
        rw [found] at hVisit
        exact (Advances.of_eq hVisit).trans
          (Advances.trans (.of_eq (engine_callPatterns visited state.schedule.window)) (ih ..))
      · next visited found => rw [found] at hVisit; exact .of_eq hVisit
    · split
      · exact (advances_withEngine (Engine.steps_announcePatterns ..)).trans (ih ..)
      · exact .refl s
    · split
      · exact .refl s
      · split
        · exact ih ..
        · split
          · exact ih ..
          · split
            · exact .refl s
            · exact .of_eq rfl

theorem advances_continueTask (s : System) (task : Task) : s.Advances (s.continueTask task).2 := by
  cases task with
  | fresh | held => exact .refl s
  | evaluation state => exact advances_continueEvaluation ..
  | detection source fired checks =>
    have steps : CheckSteps source (checks, s) _ := checkSteps_continueChecks s checks
    have checked := steps.advances
    simp only [continueTask]
    split <;> exact checked
  | enrichment alert r c =>
    simp only [continueTask]
    split
    · split
      · exact .refl s
      · exact advances_changeAlert _ _ fun _ => .single (.work (.enrich ..))
    · exact .refl s
  | feedback alert answer =>
    simp only [continueTask]
    split
    · split
      · exact .refl s
      · exact advances_changeAlert _ _ fun _ => .single (.work (.giveFeedback ..))
    · exact .refl s
  | explanation | recommendations | correlations =>
    simp only [continueTask]
    split <;> exact .refl s
  | patternRun answer =>
    simp only [continueTask]
    split
    · exact advances_withEngine (Engine.steps_announcePatterns ..)
    · exact .refl s
  | dispatch state =>
    have dispatched := advances_continueDispatch s state
    simp only [continueTask]
    split <;> exact dispatched
  | dispatchLoop state => exact advances_runLoop ..
  | patternJob state => exact advances_runJob ..
  | stopping current later => exact .of_eq (engine_runStop ..)

theorem advances_startWork (s : System) (work : Work) : s.Advances (s.startWork work).2 := by
  cases work with
  | evaluate source metrics =>
    exact advances_continueEvaluation { s with visits := s.visits + 1 } _
  | detect source checks =>
    exact (Advances.of_eq (engine_callChecks checks s)).trans (advances_continueTask ..)
  | enrich alert =>
    exact ((Advances.of_eq (engine_callRecommend s alert)).trans
      (.of_eq (engine_callCorrelate _ alert))).trans (advances_continueTask ..)
  | feedback alert type =>
    exact (Advances.of_eq (engine_callFeedback s alert type)).trans (advances_continueTask ..)
  | explain metrics resourceType =>
    exact (Advances.of_eq (engine_callExplain s metrics resourceType)).trans
      (advances_continueTask ..)
  | recommend alert =>
    exact (Advances.of_eq (engine_callRecommend s alert)).trans (advances_continueTask ..)
  | correlate alert =>
    exact (Advances.of_eq (engine_callCorrelate s alert)).trans (advances_continueTask ..)
  | analyzePatterns window =>
    exact (Advances.of_eq (engine_callPatterns s window)).trans (advances_continueTask ..)
  | dispatch event => exact advances_continueTask ..
  | dispatchLoop place => exact advances_continueTask ..
  | patternJob schedule =>
    simp only [startWork]
    split
    · exact .refl s
    · exact advances_continueTask
        ((s.newWait schedule.startupDelay).2.newWait schedule.interval).2 _
  | stop tasks =>
    cases tasks with
    | nil => exact .refl s
    | cons first later =>
      exact (Advances.of_eq (engine_signal s first)).trans (.of_eq (engine_runStop ..))

theorem advances_resumeWork (s : System) (work : Work) : s.Advances (s.resumeWork work).2 := by
  unfold resumeWork
  split
  · next alert =>
    exact ((Advances.of_eq (engine_callCorrelate s alert)).trans
      (.of_eq (engine_callRecommend _ alert))).trans (advances_continueTask ..)
  · exact advances_startWork ..

theorem advances_enter (s : System) (work : Work) {how : System → Work → Progress × System}
    (advances : ∀ s, Advances s (how s work).2) : s.Advances (s.enter work how).2 := by
  have hVisit := engine_visit s 0 .read
  unfold enter
  split
  · split
    · next visited found =>
      rw [found] at hVisit
      exact (Advances.of_eq hVisit).trans (advances visited)
    · next visited found =>
      rw [found] at hVisit
      exact .of_eq hVisit
  · exact advances s

/-- A task takes its turn. -/
theorem advances_turn (s : System) (id : Nat) : s.Advances (s.turn id) := by
  cases hTask : s.task? id with
  | none =>
    simp only [turn, hTask]
    exact .refl s
  | some task =>
    obtain ⟨begun, hasBegun, hTurn⟩ := turn_eq_conclude hTask
    rw [hTurn]
    have concluded : ∀ result : Progress × System, begun.Advances result.2 →
        s.Advances (conclude id result) := by
      rintro ⟨progress, later⟩ went
      have reached := (Advances.of_eq hasBegun.engine).trans went
      cases progress with
      | waits task => exact reached
      | ends value => exact reached.trans (.of_eq (engine_finish ..))
    cases task with
    | fresh work =>
      exact concluded _ (advances_enter begun work fun s => advances_startWork s work)
    | held work =>
      exact concluded _ (advances_enter begun work fun s => advances_resumeWork s work)
    | _ => exact concluded _ (advances_continueTask begun _)

theorem Unattended.advances (goes : s.Unattended s') : s.Advances s' := by
  cases goes with
  | turn id => exact advances_turn s id
  | arrange begins => exact begins.advances

theorem Background.advances (goes : s.Background s') : s.Advances s' := by
  cases goes with
  | unattended goes => exact goes.advances
  | signal id => exact .of_eq (engine_signal s id)
  | begins begins => exact begins.advances

/-- In a run with whatever operations the engine goes on by steps. -/
theorem Runs.advances {operations : List Operation} (runs : s.Runs operations s') :
    s.Advances s' := by
  induction runs with
  | nil => exact .refl s
  | background _ goesOn ih => exact ih.trans goesOn.advances
  | act _ _ action ih => exact ih.trans (advances_withEngine (.single (.work action)))
  | ingest _ _ source metrics ih => exact ih.trans (begins_spawn ..).advances

end System

end MetricAlerts
