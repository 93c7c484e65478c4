import MetricAlerts.Proofs.Engine.Undertakings
import MetricAlerts.Proofs.System.Checks

/-! The tasks in which rules are at work. An evaluation looks up its rules when it starts and leaves
checks behind, and a detection raises alerts for them; in each of their turns they do nothing but
what undertakings may do. -/

namespace MetricAlerts

namespace AtWork

open Engine (Action)

variable {allowed : Action → Prop} {u left : List Undertaking} {source : String} {metrics : Json}

theorem steps_of_subset (e : Engine) (subset : left ⊆ u) : Steps allowed ⟨e, u⟩ ⟨e, left⟩ :=
  .single (.finish left subset)

/-- Rules that are evaluated one after another leave their checks behind. -/
theorem steps_evaluateRules (rules : List Rule) (report : EvaluationReport) (e : Engine)
    (mem : ∀ rule ∈ rules, .evaluation rule source metrics ∈ u) :
    Steps allowed ⟨e, u⟩
      ⟨(e.evaluateRules source metrics rules report).2.2,
        u ++ (e.evaluateRules source metrics rules report).2.1.map (.detection · source)⟩ := by
  induction rules generalizing report e u with
  | nil => exact steps_of_subset e (by simp [Engine.evaluateRules])
  | cons rule rules ih =>
    have evaluated : Goes allowed ⟨e, u⟩ _ := .evaluate (mem rule List.mem_cons_self)
    have rest := ih (report.count (e.evaluateRule rule source metrics).1)
      (e.evaluateRule rule source metrics).2.2
      fun r hr => List.mem_append_left
        ((e.evaluateRule rule source metrics).2.1.toList.map (.detection · source))
        (mem r (List.mem_cons_of_mem _ hr))
    rw [List.append_assoc, ← List.map_append] at rest
    exact .head evaluated rest

/-- The alerts of a check are raised one after another. -/
theorem steps_raiseAnomalies {check : AnomalyCheck} (mem : .detection check source ∈ u)
    (anomalies : List Anomaly) (e : Engine) :
    Steps allowed ⟨e, u⟩ ⟨(Engine.raiseAnomalies check source anomalies e).2, u⟩ := by
  induction anomalies generalizing e with
  | nil => exact .refl
  | cons anomaly anomalies ih =>
    have raised : Goes allowed ⟨e, u⟩ _ := .raise mem anomaly
    exact .head raised (ih _)

end AtWork

/-- What rules are at in an activity that has not begun. -/
def Work.undertakings : Work → List Undertaking
  | .detect source checks => checks.map (.detection · source)
  | _ => []

/-- What rules are at in a task. -/
def Task.undertakings : Task → List Undertaking
  | .fresh work | .held work => work.undertakings
  | .evaluation state =>
    state.rules.map (.evaluation · state.source state.metrics) ++
      state.checks.map (.detection · state.source)
  | .detection source _ checks => checks.map fun c => .detection c.1 source
  | _ => []

def Work.isOfRules : Work → Bool
  | .evaluate _ _ | .detect _ _ => true
  | _ => false

/-- Whether rules are at work in a task, or come to be. -/
def Task.isOfRules : Task → Bool
  | .fresh work | .held work => work.isOfRules
  | .evaluation _ | .detection _ _ _ => true
  | _ => false

namespace System

/-- What rules are at in a task after its turn. -/
def Progress.undertakings : Progress → List Undertaking
  | .waits task => task.undertakings
  | .ends _ => []

/-- What rules are at in all tasks. -/
def underway (s : System) : List Undertaking := s.tasks.flatMap fun t => t.2.undertakings

variable {allowed : Engine.Action → Prop} {s s' : System} {u : List Undertaking} {source : String}

theorem underway_congr (h : s'.tasks = s.tasks) : s'.underway = s.underway := by
  rw [underway, h, underway]

theorem underway_spawn (s : System) (work : Work) :
    (s.spawn work).2.underway = s.underway ++ work.undertakings := by
  simp [underway, spawn, Task.undertakings]

/-- Alerts that are to be enriched are no matter of their rules. -/
theorem underway_spawnAll_enrich (alerts : List Alert) (s : System) :
    (s.spawnAll (alerts.map .enrich)).underway = s.underway := by
  induction alerts generalizing s with
  | nil => rfl
  | cons alert alerts ih => exact (ih _).trans ((underway_spawn ..).trans (List.append_nil _))

theorem subset_underway {id : Nat} {task : Task} (h : s.task? id = some task) :
    task.undertakings ⊆ s.underway := by
  intro x mem
  obtain ⟨before, after, split, -⟩ := List.lookup_eq_some_iff.mp h
  exact List.mem_flatMap.mpr ⟨(id, task), by simp [split], mem⟩

/-! Evaluations. -/

theorem steps_continueEvaluation (s : System) (state : EvaluationState)
    (own : (Task.evaluation state).undertakings ⊆ u) (others : s.underway ⊆ u) :
    AtWork.Steps allowed ⟨s.engine, u⟩
      ⟨(s.continueEvaluation state).2.engine,
        (s.continueEvaluation state).2.underway ++
          (s.continueEvaluation state).1.undertakings⟩ := by
  obtain ⟨ownRules, ownChecks⟩ := List.append_subset.mp own
  simp only [continueEvaluation]
  generalize hVisits : visitForRules state.metrics state.rules state.visits s = visits
  obtain ⟨count, next, visited⟩ := visits
  have hEngine : visited.engine = s.engine := by
    have hSame := engine_visitForRules state.metrics state.rules state.visits s
    rwa [hVisits] at hSame
  have hTasks : visited.underway = s.underway := by
    have hSame := begins_visitForRules state.metrics state.rules state.visits s
    rw [hVisits] at hSame
    exact underway_congr hSame.tasks_eq
  have evaluated : AtWork.Steps allowed ⟨s.engine, u⟩ _ :=
    AtWork.steps_evaluateRules (state.rules.take count) state.report s.engine fun rule hr =>
      ownRules (List.mem_map_of_mem (List.mem_of_mem_take hr))
  simp only [hEngine]
  generalize s.engine.evaluateRules state.source state.metrics (state.rules.take count)
    state.report = result at evaluated ⊢
  obtain ⟨report, checks, e⟩ := result
  have hLater : (visited.withEngine e).underway = s.underway :=
    (underway_congr (begins_replaced ..).tasks_eq).trans hTasks
  have hChecks : (state.checks ++ checks).map (.detection · state.source) ⊆
      u ++ checks.map (.detection · state.source) := by
    rw [List.map_append]
    exact List.append_subset.mpr
      ⟨List.subset_append_of_subset_left _ ownChecks, List.subset_append_right ..⟩
  have hOthers : s.underway ⊆ u ++ checks.map (.detection · state.source) :=
    List.subset_append_of_subset_left _ others
  refine evaluated.trans ?_
  split
  · split
    · rw [engine_withEngine, hLater]
      exact AtWork.steps_of_subset e (by simpa [Progress.undertakings] using hOthers)
    · rw [engine_spawn, engine_withEngine, underway_spawn, hLater]
      exact AtWork.steps_of_subset e
        (List.append_subset.mpr ⟨List.append_subset.mpr ⟨hOthers, hChecks⟩, List.nil_subset _⟩)
  · rw [engine_withEngine, hLater]
    have hRules : (state.rules.drop count).map (.evaluation · state.source state.metrics) ⊆
        u ++ checks.map (.detection · state.source) :=
      List.subset_append_of_subset_left _
        (List.Subset.trans ((List.drop_sublist ..).map _).subset ownRules)
    exact AtWork.steps_of_subset e
      (List.append_subset.mpr ⟨hOthers, List.append_subset.mpr ⟨hRules, hChecks⟩⟩)

/-! Detections. -/

/-- Alerts are raised for checks that are under way, and nothing else is begun. -/
structure RaisesFor (allowed : Engine.Action → Prop) (u : List Undertaking) (s s' : System) :
    Prop where
  underway : s'.underway = s.underway
  steps : AtWork.Steps allowed ⟨s.engine, u⟩ ⟨s'.engine, u⟩

theorem RaisesFor.of_begins (begins : s.Begins [] s') (engine : s'.engine = s.engine) :
    RaisesFor allowed u s s' :=
  ⟨underway_congr begins.tasks_eq, engine ▸ .refl⟩

theorem RaisesFor.trans {s'' : System} (first : RaisesFor allowed u s s')
    (second : RaisesFor allowed u s' s'') : RaisesFor allowed u s s'' :=
  ⟨second.underway.trans first.underway, first.steps.trans second.steps⟩

theorem raisesFor_raiseAlerts {check : AnomalyCheck} (mem : .detection check source ∈ u)
    (s : System) (strand : Nat) (state : CheckState) :
    RaisesFor allowed u s (s.raiseAlerts source strand check state).2.2 := by
  unfold raiseAlerts
  split
  · next anomalies _ =>
    have visited : RaisesFor allowed u s (visitAll strand (anomalies.map fun _ => .write) s).2 :=
      .of_begins (begins_visitAll ..) (engine_visitAll ..)
    refine visited.trans ⟨?_, ?_⟩
    · exact (underway_spawnAll_enrich ..).trans (underway_congr (begins_replaced ..).tasks_eq)
    · simp only [engine_spawnAll, engine_withEngine]
      exact AtWork.steps_raiseAnomalies mem ..
  · exact .of_begins (.refl s) rfl

theorem CheckSteps.raisesFor {c c' : Checking} (steps : CheckSteps source c c')
    (mem : ∀ check ∈ c.1.map Prod.fst, .detection check source ∈ u) :
    RaisesFor allowed u c.2 c'.2 := by
  induction steps with
  | refl => exact .of_begins (.refl _) rfl
  | tail steps last ih =>
    refine ih.trans ?_
    cases last with
    | arrange begins engine => exact .of_begins begins engine
    | @check checks s strand check before found =>
      refine raisesFor_raiseAlerts (mem check ?_) s strand before
      rw [← CheckSteps.checks steps]
      exact List.mem_map_of_mem (List.mem_of_getElem? found)

theorem undertakings_detection (fired : Nat) (checks : List (AnomalyCheck × CheckState)) :
    (Task.detection source fired checks).undertakings =
      (checks.map Prod.fst).map (.detection · source) := by
  simp [Task.undertakings]

theorem steps_detection (s : System) (fired : Nat) (checks : List (AnomalyCheck × CheckState))
    (own : (Task.detection source fired checks).undertakings ⊆ u) (others : s.underway ⊆ u) :
    AtWork.Steps allowed ⟨s.engine, u⟩
      ⟨(s.continueTask (.detection source fired checks)).2.engine,
        (s.continueTask (.detection source fired checks)).2.underway ++
          (s.continueTask (.detection source fired checks)).1.undertakings⟩ := by
  rw [undertakings_detection] at own
  have steps : CheckSteps source (checks, s) _ := checkSteps_continueChecks s checks
  have same := steps.checks
  have raised : RaisesFor allowed u s _ :=
    steps.raisesFor fun check hc => own (List.mem_map_of_mem hc)
  simp only [continueTask]
  generalize s.continueChecks source checks = result at raised same ⊢
  obtain ⟨more, rest, later⟩ := result
  refine raised.steps.trans ?_
  have hOthers : later.underway ⊆ u := raised.underway ▸ others
  split
  · exact AtWork.steps_of_subset _ (List.append_subset.mpr ⟨hOthers, List.nil_subset _⟩)
  · refine AtWork.steps_of_subset _ (List.append_subset.mpr ⟨hOthers, ?_⟩)
    rw [Progress.undertakings, undertakings_detection, same]
    exact own

/-! Turns. -/

theorem steps_startWork (s : System) {work : Work} (ofRules : work.isOfRules)
    (own : work.undertakings ⊆ s.underway) :
    AtWork.Steps allowed ⟨s.engine, s.underway⟩
      ⟨(s.startWork work).2.engine,
        (s.startWork work).2.underway ++ (s.startWork work).1.undertakings⟩ := by
  cases work with
  | evaluate source metrics =>
    have ingested : AtWork.Goes allowed ⟨s.engine, s.underway⟩ _ := .ingest source metrics
    refine .head ingested (steps_continueEvaluation { s with visits := s.visits + 1 } _ ?_ ?_)
    · simp [Task.undertakings]
    · exact List.subset_append_left ..
  | detect source checks =>
    have hUnderway : (callChecks checks s).2.underway = s.underway :=
      underway_congr (begins_callChecks checks s).tasks_eq
    have hOwn : (Task.detection source 0 (callChecks checks s).1).undertakings ⊆ s.underway := by
      rw [undertakings_detection, checks_callChecks]
      exact own
    rw [← engine_callChecks checks s]
    exact steps_detection (callChecks checks s).2 0 (callChecks checks s).1 hOwn
      (hUnderway ▸ List.Subset.refl _)
  | _ => cases ofRules

/-- Rules do not have to wait for the store before they begin. -/
theorem enter_startWork (s : System) {work : Work} (ofRules : work.isOfRules) :
    s.enter work startWork = s.startWork work := by
  cases work with
  | evaluate | detect => rfl
  | _ => cases ofRules

theorem enter_resumeWork (s : System) {work : Work} (ofRules : work.isOfRules) :
    s.enter work resumeWork = s.startWork work := by
  cases work with
  | evaluate | detect => rfl
  | _ => cases ofRules

theorem underway_finish_subset (s : System) (id : Nat) (result : TaskResult) :
    (s.finish id result).underway ⊆ s.underway := by
  have hTasks : (s.finish id result).tasks = s.tasks.filter fun t => t.1 != id := by
    simp only [finish]
    rw [(begins_wakeAll ..).tasks_eq]
    split <;> rfl
  intro x mem
  rw [underway, hTasks] at mem
  obtain ⟨t, ht, hx⟩ := List.mem_flatMap.mp mem
  exact List.mem_flatMap.mpr ⟨t, List.mem_of_mem_filter ht, hx⟩

/-- A task that goes on to wait takes its own place. -/
theorem underway_replace_subset (s : System) (id : Nat) (task : Task) :
    underway { s with tasks := s.tasks.map fun t => if t.1 = id then (id, task) else t } ⊆
      s.underway ++ task.undertakings := by
  intro x mem
  obtain ⟨t, ht, hx⟩ := List.mem_flatMap.mp mem
  obtain ⟨old, hOld, rfl⟩ := List.mem_map.mp ht
  split at hx
  · exact List.mem_append_right _ hx
  · exact List.mem_append_left _ (List.mem_flatMap.mpr ⟨old, hOld, hx⟩)

theorem steps_conclude {e : Engine} (id : Nat) (result : Progress × System)
    (went : AtWork.Steps allowed ⟨e, u⟩
      ⟨result.2.engine, result.2.underway ++ result.1.undertakings⟩) :
    AtWork.Steps allowed ⟨e, u⟩ ⟨(conclude id result).engine, (conclude id result).underway⟩ := by
  obtain ⟨progress, later⟩ := result
  refine went.trans ?_
  cases progress with
  | waits task => exact AtWork.steps_of_subset _ (underway_replace_subset later id task)
  | ends value =>
    rw [conclude, engine_finish later id value]
    exact AtWork.steps_of_subset _
      (List.subset_append_of_subset_left _ (underway_finish_subset later id value))

/-- In the turn of a task in which rules are at work, the rules do what undertakings may do. -/
theorem steps_turn {id : Nat} {task : Task} (h : s.task? id = some task)
    (ofRules : task.isOfRules) :
    AtWork.Steps allowed ⟨s.engine, s.underway⟩ ⟨(s.turn id).engine, (s.turn id).underway⟩ := by
  obtain ⟨begun, hasBegun, hTurn⟩ := turn_eq_conclude h
  have own := subset_underway h
  have hUnderway : begun.underway = s.underway := underway_congr hasBegun.tasks
  rw [hTurn, ← hasBegun.engine, ← hUnderway]
  rw [← hUnderway] at own
  cases task with
  | evaluation state =>
    exact steps_conclude id _ (steps_continueEvaluation begun state own (List.Subset.refl _))
  | detection source fired checks =>
    exact steps_conclude id _ (steps_detection begun fired checks own (List.Subset.refl _))
  | fresh work =>
    refine steps_conclude id _ ?_
    rw [goOn, enter_startWork _ ofRules]
    exact steps_startWork begun ofRules own
  | held work =>
    refine steps_conclude id _ ?_
    rw [goOn, enter_resumeWork _ ofRules]
    exact steps_startWork begun ofRules own
  | _ => cases ofRules

end System

end MetricAlerts
