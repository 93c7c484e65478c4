import MetricAlerts.Proofs.System.Hushed

/-! A broken analyzer is as good as none. In the background tasks take their turns in any order,
time goes on, clients come and go; what becomes of the alerts is up to the operations alone,
whenever the broken calls come to their end. -/

namespace MetricAlerts

/-- The rules that a task is yet to evaluate. -/
def Task.evaluations (d : Definitions) : Task → List Engine.Action
  | .fresh (.evaluate source metrics) | .held (.evaluate source metrics) =>
    (d.rulesFor source).map (.evaluate · source metrics)
  | .evaluation state => state.rules.map (.evaluate · state.source state.metrics)
  | _ => []

namespace System

variable {s s' : System} {id : Nat} {task : Task} {e : Engine}

/-! The turn of an evaluation. -/

/-- What is done in the turn of an evaluation: it evaluates some of its rules and waits to evaluate
the others, or it evaluates them all. -/
inductive Evaluated (s : System) (actions : List Engine.Action) : Progress × System → Prop
  | waits {done left : List Engine.Action} {task : Task} {later : System}
      (split : actions = done ++ left) (evaluation : task.isEvaluation)
      (rest : ∀ d, task.evaluations d = left)
      (begins : Begins { s with engine := s.engine.run done } [] later) :
      Evaluated s actions (.waits task, later)
  | ends {works : List Work} {result : TaskResult} {later : System}
      (none : ∀ work ∈ works, work.isEvaluation = false)
      (begins : Begins { s with engine := s.engine.run actions } works later) :
      Evaluated s actions (.ends result, later)

theorem evaluated_continueEvaluation (s : System) (state : EvaluationState) :
    Evaluated s (state.rules.map (.evaluate · state.source state.metrics))
      (s.continueEvaluation state) := by
  have visited := begins_visitForRules state.metrics state.rules state.visits s
  have same := engine_visitForRules state.metrics state.rules state.visits s
  simp only [continueEvaluation]
  generalize visitForRules state.metrics state.rules state.visits s = visits at visited same ⊢
  obtain ⟨count, next, later⟩ := visits
  replace same : later.engine = s.engine := same
  have hRun := Engine.evaluateRules_eq_run state.source state.metrics (state.rules.take count)
    state.report s.engine
  simp only [same]
  generalize s.engine.evaluateRules state.source state.metrics (state.rules.take count)
    state.report = result at hRun ⊢
  obtain ⟨report, checks, e⟩ := result
  have evaluated : Begins { s with engine := e } [] (later.withEngine e) :=
    (visited.replace e).nil_trans (begins_replaced later e)
  rw [show e = _ from hRun] at evaluated ⊢
  split
  · next hLeft =>
    rw [List.take_of_length_le (List.drop_eq_nil_iff.mp hLeft)] at evaluated ⊢
    split
    · exact .ends (List.forall_mem_nil _) evaluated
    · exact .ends (List.forall_mem_singleton.mpr rfl) (evaluated.trans (begins_spawn ..))
  · refine .waits ?_ rfl (fun _ => rfl) evaluated
    rw [← List.map_append, List.take_append_drop]

theorem Evaluated.of_begins {actions : List Engine.Action} {result : Progress × System}
    (begins : s.Begins [] s') (evaluated : Evaluated s' actions result) :
    Evaluated s actions result := by
  have replaced : ∀ done, Begins { s with engine := s.engine.run done } []
      { s' with engine := s'.engine.run done } := fun done =>
    { begins with engine := begins.engine.run done }
  cases evaluated with
  | waits split evaluation rest went =>
    exact .waits split evaluation rest ((replaced _).nil_trans went)
  | ends none went => exact .ends none ((replaced _).nil_trans went)

/-- An evaluation looks up its rules when it begins. -/
theorem evaluated_startWork (s : System) (source : String) (metrics : Json) :
    Evaluated s ((s.engine.definitions.rulesFor source).map (.evaluate · source metrics))
      (s.startWork (.evaluate source metrics)) := by
  have looked : s.Begins [] { s with visits := s.visits + 1 } := .of_eq rfl rfl rfl rfl rfl rfl rfl
  exact .of_begins looked (evaluated_continueEvaluation { s with visits := s.visits + 1 }
    ⟨source, metrics, s.engine.definitions.rulesFor source, 0, _, []⟩)

/-- The turn of an evaluation. -/
theorem exists_evaluated (h : s.task? id = some task) (evaluation : task.isEvaluation) :
    ∃ result, Evaluated s (task.evaluations s.engine.definitions) result ∧
      s.turn id = conclude id result := by
  obtain ⟨begun, hasBegun, hTurn⟩ := turn_eq_conclude h
  refine ⟨_, ?_, hTurn⟩
  refine .of_begins hasBegun.begins ?_
  rw [← hasBegun.engine]
  cases task with
  | evaluation state => exact evaluated_continueEvaluation begun state
  | fresh work =>
    cases work with
    | evaluate source metrics => exact evaluated_startWork ..
    | _ => cases evaluation
  | held work =>
    cases work with
    | evaluate source metrics => exact evaluated_startWork ..
    | _ => cases evaluation
  | _ => cases evaluation

/-! What a system comes to. -/

/-- The alerts of a system are to be those of an engine when the evaluation that is under way, if
there is one, has come to its end. -/
inductive ComesTo (s : System) (e : Engine) : Prop
  | mute (mute : s.IsMute) (agrees : s.engine.Agrees e)
  | evaluates {id : Nat} {task : Task} (evaluation : task.isEvaluation)
      (evaluates : s.Evaluates id task)
      (agrees : (s.engine.run (task.evaluations s.engine.definitions)).Agrees e)

theorem ComesTo.hushed (h : s.ComesTo e) (hushed : s.Hushed s') : s'.ComesTo e := by
  cases h with
  | mute mute agrees => exact .mute (hushed.mute mute) (hushed.engine.symm.trans agrees)
  | evaluates evaluation evaluates agrees =>
    refine .evaluates evaluation (hushed.evaluates evaluation evaluates) ?_
    rw [hushed.engine.definitions]
    exact (hushed.engine.symm.run _).trans agrees

/-- An evaluation goes on to what it was to come to. What has been done by then is the engine's, and
the check for anomalies that is left behind evaluates nothing itself. -/
theorem comesTo_of_evaluated {result : Progress × System} (h : s.Evaluates id task)
    (evaluated : Evaluated s (task.evaluations s.engine.definitions) result)
    (agrees : (s.engine.run (task.evaluations s.engine.definitions)).Agrees e) :
    (conclude id result).ComesTo e := by
  have concluded := (begins_conclude id result).hushed_nil
  refine ComesTo.hushed ?_ concluded
  cases evaluated with
  | @waits done left after later split evaluation rest begins =>
    have hTasks : later.tasks = s.tasks := begins.tasks_eq
    have numbered := begins.isNumbered (h.numbered.of_sublist (.refl _) rfl)
    have own : later.tasks.lookup id = some task := by
      rw [hTasks]
      exact h.own
    have waiting :
        Evaluates { later with tasks := later.tasks.map (placeAs id after) } id after := by
      refine ⟨begins.broken h.broken, isNumbered_place numbered id (.waits after),
        lookup_map_of_eq own (fst_placeAs id after) (if_pos rfl), fun t mem ne => ?_⟩
      obtain ⟨old, hOld, rfl⟩ := List.mem_map.mp mem
      rw [fst_placeAs] at ne
      rw [placeAs, if_neg ne]
      exact h.others old (hTasks ▸ hOld) ne
    refine .evaluates evaluation waiting ?_
    rw [rest]
    rw [split, Engine.run_append] at agrees
    exact (begins.engine.symm.run left).trans agrees
  | ends none begins =>
    have numbered := begins.isNumbered (h.numbered.of_sublist (.refl _) rfl)
    refine .mute ⟨begins.broken h.broken, isNumbered_place numbered id _, fun t mem => ?_⟩
      (begins.engine.symm.trans agrees)
    have ne : t.1 ≠ id := by simpa using List.of_mem_filter mem
    obtain old | new := List.mem_append.mp (begins.tasks ▸ List.mem_of_mem_filter mem)
    · exact h.others t old ne
    · obtain ⟨work, hw, found⟩ := mem_freshTasks new
      exact found ▸ none work hw

/-! Runs. -/

theorem ComesTo.turn (h : s.ComesTo e) (id : Nat) : (s.turn id).ComesTo e := by
  cases hTask : s.task? id with
  | none => rwa [System.turn, hTask]
  | some task =>
    have mem := mem_of_task? hTask
    cases h with
    | mute mute agrees =>
      exact ComesTo.hushed (.mute mute agrees)
        (hushed_turn s hTask (mute.quiet _ mem) mute.broken)
    | @evaluates own _ evaluation evaluates agrees =>
      by_cases same : id = own
      · subst same
        obtain ⟨result, evaluated, hTurn⟩ := exists_evaluated evaluates.own evaluation
        rw [hTurn]
        exact comesTo_of_evaluated evaluates evaluated agrees
      · exact ComesTo.hushed (.evaluates evaluation evaluates agrees)
          (hushed_turn s hTask (evaluates.others _ mem same) evaluates.broken)

theorem ComesTo.background (h : s.ComesTo e) (background : s.Background s') : s'.ComesTo e := by
  cases background with
  | unattended goes =>
    cases goes with
    | turn id => exact h.turn id
    | arrange begins _ => exact h.hushed begins.hushed_nil
  | signal id => exact h.hushed (hushed_signal s id)
  | begins begins others => exact h.hushed (begins.hushed others)

/-- When nothing is being evaluated, the alerts are what they were to be. -/
theorem ComesTo.of_isIdle (h : s.ComesTo e) (idle : s.IsIdle) : s.IsMute ∧ s.engine.Agrees e := by
  cases h with
  | mute mute agrees => exact ⟨mute, agrees⟩
  | evaluates evaluation evaluates =>
    exact absurd evaluation (by simp [idle _ (mem_of_task? evaluates.own)])

theorem ComesTo.act (h : s.ComesTo e) (idle : s.IsIdle) (action : Engine.Action) :
    (s.withEngine (s.engine.after action)).ComesTo (e.after action) := by
  obtain ⟨mute, agrees⟩ := h.of_isIdle idle
  have acted : IsMute { s with engine := s.engine.after action } :=
    ⟨mute.broken, mute.numbered.of_sublist (.refl _) rfl, mute.quiet⟩
  refine .mute ((begins_replaced s _).hushed_nil.mute acted) ?_
  rw [engine_withEngine]
  exact agrees.after action

theorem ComesTo.ingest (h : s.ComesTo e) (idle : s.IsIdle) (source : String) (metrics : Json) :
    (s.spawn (.evaluate source metrics)).2.ComesTo (e.evaluate source metrics).2.2 := by
  obtain ⟨mute, agrees⟩ := h.of_isIdle idle
  have begins := begins_spawn s (.evaluate source metrics)
  have unknown : s.tasks.lookup s.nextTask = none := by
    refine List.lookup_eq_none_iff.mpr fun t mem => ?_
    have less := mute.numbered.below t.1 (List.mem_map_of_mem mem)
    simpa using Nat.ne_of_gt less
  have evaluates : Evaluates (s.spawn (.evaluate source metrics)).2 s.nextTask
      (.fresh (.evaluate source metrics)) := by
    refine ⟨begins.broken mute.broken, begins.isNumbered mute.numbered, ?_, fun t mem ne => ?_⟩
    · rw [task?, spawn, List.lookup_append, unknown, Option.none_or]
      simp
    · obtain old | new := List.mem_append.mp mem
      · exact mute.quiet t old
      · exact absurd (congrArg Prod.fst (List.mem_singleton.mp new)) ne
  refine .evaluates rfl evaluates ?_
  rw [Engine.evaluate, Engine.evaluateRules_eq_run, agrees.definitions]
  exact agrees.run _

/-- What becomes of the alerts is up to the operations, one after another. -/
theorem comesTo_of_runs {operations : List Operation} {t : System} (runs : s.Runs operations t)
    (h : s.ComesTo e) : t.ComesTo (operations.foldl Operation.on e) := by
  induction runs with
  | nil => exact h
  | background _ goesOn ih => exact ih.background goesOn
  | act _ idle action ih =>
    rw [List.foldl_append]
    exact ih.act idle action
  | ingest _ idle source metrics ih =>
    rw [List.foldl_append]
    exact ih.ingest idle source metrics

/-- An engine whose analyzer is broken has the same alerts and publishes the same events as one with
an analyzer that never finds anything. -/
theorem alerts_and_events_eq_neutral {operations : List Operation} {t t' : System}
    (noTasks : s.tasks = []) (broken : s.analyzer.IsBroken s.callLimit)
    (runs : s.Runs operations t) (idle : t.IsIdle)
    (runs' : Runs { s with analyzer := .neutral } operations t') (idle' : t'.IsIdle) :
    t.engine.alerts.active = t'.engine.alerts.active ∧
      t.engine.alerts.history = t'.engine.alerts.history ∧ t.engine.events = t'.engine.events := by
  have numbered : s.IsNumbered := by constructor <;> simp [noTasks]
  have quiet : ∀ t ∈ s.tasks, t.2.IsQuiet := by simp [noTasks]
  obtain ⟨-, agrees⟩ := (comesTo_of_runs runs
    (.mute ⟨broken, numbered, quiet⟩ (.refl _))).of_isIdle idle
  obtain ⟨-, agrees'⟩ := (comesTo_of_runs runs' (e := s.engine)
    (.mute ⟨Analyzer.isBroken_neutral _, numbered.of_sublist (.refl _) rfl, quiet⟩
      (.refl _))).of_isIdle idle'
  have both := agrees.trans agrees'.symm
  exact ⟨(congrArg AlertStore.active both.alerts).symm,
    (congrArg AlertStore.history both.alerts).symm, both.events.symm⟩

/-! Two runs in which an alert is acknowledged and a snapshot is handed in. -/

/-- An alert is active, and the next call of the analyzer fails after a while. -/
def diskSystem : System :=
  initial (Engine.diskEngine.run [Engine.raiseDisk]) ⟨[⟨.failure, 3⟩], [], [], []⟩ 5

def diskRequests : List Operation := [.act (.acknowledge "first"), .ingest "node" .null]

/-- A system that has been asked to do so, and has evaluated the snapshot. -/
def afterDiskRequests (s : System) : System :=
  ((s.withEngine (s.engine.after (.acknowledge "first"))).spawn (.evaluate "node" .null)).2.turn 0

theorem runs_diskRequests {s : System} (idle : s.IsIdle)
    (idle' : (s.withEngine (s.engine.after (.acknowledge "first"))).IsIdle) :
    s.Runs diskRequests s.afterDiskRequests :=
  .background (.ingest (.act .nil idle (.acknowledge "first")) idle' "node" .null)
    (.unattended (.turn 0))

/-- The check for anomalies comes to its end when the call has failed. -/
def diskEnd : System := { diskSystem.afterDiskRequests.turn 1 with time := 3 }.turn 1

/-- Without an analyzer it ends at once. -/
def neutralDiskEnd : System := (afterDiskRequests { diskSystem with analyzer := .neutral }).turn 1

theorem runs_diskEnd : diskSystem.Runs diskRequests diskEnd := by
  have asked := (runs_diskRequests (s := diskSystem) (by decide) (by decide)).background
    (.unattended (.turn 1))
  have later : Begins (diskSystem.afterDiskRequests.turn 1) []
      { diskSystem.afterDiskRequests.turn 1 with time := 3 } :=
    .of_eq rfl rfl rfl rfl rfl rfl rfl
  exact (asked.background (.unattended (.arrange later rfl))).background (.unattended (.turn 1))

theorem runs_neutralDiskEnd :
    Runs { diskSystem with analyzer := .neutral } diskRequests neutralDiskEnd :=
  (runs_diskRequests (s := { diskSystem with analyzer := .neutral }) (by decide)
    (by decide)).background (.unattended (.turn 1))

theorem alerts_and_events_eq_neutral_disk :
    diskEnd.engine.alerts.active = neutralDiskEnd.engine.alerts.active ∧
      diskEnd.engine.alerts.history = neutralDiskEnd.engine.alerts.history ∧
      diskEnd.engine.events = neutralDiskEnd.engine.events :=
  alerts_and_events_eq_neutral rfl (by constructor <;> decide) runs_diskEnd (by decide)
    runs_neutralDiskEnd (by decide)

end System

end MetricAlerts
