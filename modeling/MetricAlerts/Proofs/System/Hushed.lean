import MetricAlerts.Proofs.System.Mute

/-! Turns of tasks that nothing will come of. Whatever they dispatch, look for, ask in vain or stop,
they leave the alerts alone, and an evaluation that is under way besides. -/

namespace MetricAlerts.System

variable {s s' : System} {id : Nat} {task : Task}

/-- An entry is still the first of its number when all entries keep their numbers. -/
theorem lookup_map_of_eq {tasks : List (Nat × Task)} {f : Nat × Task → Nat × Task} {next : Task}
    (h : tasks.lookup id = some task) (numbers : ∀ t, (f t).1 = t.1)
    (becomes : f (id, task) = (id, next)) : (tasks.map f).lookup id = some next := by
  obtain ⟨before, after, rfl, unlike⟩ := List.lookup_eq_some_iff.mp h
  refine List.lookup_eq_some_iff.mpr ⟨before.map f, after.map f, by simp [becomes], ?_⟩
  intro t mem
  obtain ⟨old, hOld, rfl⟩ := List.mem_map.mp mem
  rw [numbers]
  exact unlike old hOld

theorem lookup_filter_of_eq {tasks : List (Nat × Task)} {p : Nat × Task → Bool}
    (h : tasks.lookup id = some task) (stays : p (id, task)) :
    (tasks.filter p).lookup id = some task := by
  obtain ⟨before, after, rfl, unlike⟩ := List.lookup_eq_some_iff.mp h
  refine List.lookup_eq_some_iff.mpr ⟨before.filter p, after.filter p, by simp [stays], ?_⟩
  exact fun t mem => unlike t (List.mem_of_mem_filter mem)

theorem isQuiet_heed (quiet : task.IsQuiet) : (heed task).IsQuiet := by
  cases task <;> exact quiet

/-- An evaluation does not heed a request to stop. -/
theorem heedAs_of_isEvaluation (n : Nat) {t : Nat × Task} (h : t.2.isEvaluation) :
    heedAs n t = t := by
  obtain ⟨m, task⟩ := t
  cases task with
  | fresh | held | evaluation => simp [heedAs, heed]
  | _ => cases h

theorem hushed_signal (s : System) (id : Nat) : s.Hushed (s.signal id) := by
  refine Hushed.trans ?_ (begins_signal s id).hushed_nil
  have quiet : ∀ {t : Nat × Task}, t.2.IsQuiet → (heedAs id t).2.IsQuiet := by
    intro t quiet
    rw [heedAs]
    split
    · exact isQuiet_heed quiet
    · exact quiet
  refine ⟨.refl _, fun h => h,
    fun h => ⟨h.broken, isNumbered_heedAs h.numbered id, fun t mem => ?_⟩,
    fun ev h => ⟨h.broken, isNumbered_heedAs h.numbered id,
      lookup_map_of_eq h.own (fst_heedAs id) (heedAs_of_isEvaluation id ev), fun t mem ne => ?_⟩⟩
  · obtain ⟨old, hOld, rfl⟩ := List.mem_map.mp mem
    exact quiet (h.quiet old hOld)
  · obtain ⟨old, hOld, rfl⟩ := List.mem_map.mp mem
    exact quiet (h.others old hOld (fst_heedAs id old ▸ ne))

theorem hushed_runStop (s : System) (current : Nat) (later : List Nat) :
    s.Hushed (s.runStop current later).2 ∧ (s.runStop current later).1.IsQuiet := by
  induction later generalizing s current with
  | nil =>
    unfold runStop
    split <;> exact ⟨.refl s, trivial⟩
  | cons next later ih =>
    unfold runStop
    split
    · exact ⟨.refl s, trivial⟩
    · obtain ⟨stopped, quiet⟩ := ih (s.signal next) next
      exact ⟨(hushed_signal ..).trans stopped, quiet⟩

/-! The end of a turn. -/

theorem hushed_conclude {result : Progress × System} (h : s.task? id = some task)
    (own : task.IsQuiet) (went : s.Hushed result.2) (quiet : result.1.IsQuiet) :
    s.Hushed (conclude id result) := by
  have placed := (begins_conclude id result).hushed_nil
  have stays : ∀ {next}, result.1 = .waits next → next.IsQuiet := by
    intro next waits
    rw [waits] at quiet
    exact quiet
  refine ⟨went.engine.trans placed.engine, placed.broken ∘ went.broken, fun hMute => ?_,
    fun ev hEvaluates => ?_⟩
  · have later := went.mute hMute
    refine placed.mute ⟨later.broken, isNumbered_place later.numbered id _, fun t mem => ?_⟩
    exact (mem_place mem).elim (fun h => stays h.2) fun h => later.quiet t h.2
  · next n _ =>
    have later := went.evaluates ev hEvaluates
    have ne : n ≠ id := by
      rintro rfl
      cases h.symm.trans hEvaluates.own
      exact absurd ev (by simp [own.isEvaluation])
    refine placed.evaluates ev
      ⟨later.broken, isNumbered_place later.numbered id _, ?_, fun t mem hne => ?_⟩
    · cases hProgress : result.1 with
      | waits after => exact lookup_map_of_eq later.own (fst_placeAs id after) (if_neg ne)
      | ends => exact lookup_filter_of_eq later.own (by simpa using ne)
    · exact (mem_place mem).elim (fun h => stays h.2) fun h => later.others t h.2 hne

/-! Dispatch. -/

theorem hushed_continueDispatch (s : System) (state : DispatchState) :
    s.Hushed (s.continueDispatch state).2 := by
  cases state with
  | taken event =>
    obtain ⟨-, kept⟩ | ⟨_, -, handed⟩ := continueDispatch_taken_cases s event
    · exact kept.hushed_nil
    · refine handed.hushed fun work mem => ?_
      obtain ⟨_, _, rfl⟩ := exists_of_mem_feedbackWorks mem
      rfl
  | handedOut event deliveries => exact (spawns_continueDeliveries ..).hushed_nil

theorem hushed_runLoop (fuel : Nat) (state : LoopState) (s : System) :
    s.Hushed (runLoop fuel state s).2 ∧ (runLoop fuel state s).1.IsQuiet := by
  induction fuel generalizing state s with
  | zero => exact ⟨.refl s, trivial⟩
  | succ fuel ih =>
    have visited := (begins_visitOpen s).hushed_nil
    have goes : ∀ state {s'}, s.Hushed s' →
        s.Hushed (runLoop fuel state s').2 ∧ (runLoop fuel state s').1.IsQuiet :=
      fun state _ before => ⟨before.trans (ih state _).1, (ih state _).2⟩
    unfold runLoop
    split
    · next dispatch _ =>
      have dispatched := hushed_continueDispatch s dispatch
      simp only
      split
      · exact goes _ dispatched
      · exact ⟨dispatched, trivial⟩
    · split
      · exact ⟨.refl s, trivial⟩
      · split
        · next found => rw [found] at visited; exact ⟨visited, trivial⟩
        · next found =>
          rw [found] at visited
          split
          · exact goes _ visited
          · exact goes _ visited
          · exact ⟨.refl s, trivial⟩

/-! The search for patterns. -/

/-- An analysis without content is not announced. -/
theorem hushed_announcePatterns (s : System) {analysis : PatternAnalysis}
    (empty : analysis.isEmpty) :
    s.Hushed (s.withEngine (s.engine.announcePatterns analysis).2) := by
  rw [Engine.announcePatterns, if_pos empty]
  exact (begins_withEngine (.refl _)).hushed_nil

theorem hushed_runJob (fuel : Nat) (state : JobState) (s : System)
    (broken : s.analyzer.IsBroken s.callLimit) (quiet : ∀ run ∈ state.run, run.IsQuiet) :
    s.Hushed (runJob fuel state s).2 ∧ (runJob fuel state s).1.IsQuiet := by
  induction fuel generalizing state s with
  | zero => exact ⟨.refl s, quiet⟩
  | succ fuel ih =>
    have visited := (begins_visit s 0 .read).hushed_nil
    have goes : ∀ {state s'}, s.Hushed s' → (∀ run ∈ state.run, run.IsQuiet) →
        s.Hushed (runJob fuel state s').2 ∧ (runJob fuel state s').1.IsQuiet :=
      fun before quiet =>
        ⟨before.trans (ih _ _ (before.broken broken) quiet).1,
          (ih _ _ (before.broken broken) quiet).2⟩
    unfold runJob
    split
    · split
      · next found =>
        rw [found] at visited
        refine goes visited fun run mem => ?_
        simp only at mem
        split at mem
        · cases mem; trivial
        · cases mem
      · next found => rw [found] at visited; exact ⟨visited, quiet⟩
    · split
      · next later found =>
        rw [found] at visited
        refine goes (visited.trans (begins_callPatterns later state.schedule.window).hushed_nil) ?_
        intro run mem
        cases mem
        exact congrArg PatternAnalysis.isEmpty
          (value_callPatterns (visited.broken broken) state.schedule.window)
      · next found => rw [found] at visited; exact ⟨visited, quiet⟩
    · next answer hRun =>
      split
      · next analysis found =>
        have empty : analysis.isEmpty := by
          rw [Slot.eq_value_of_valueAt? found]
          exact quiet _ hRun
        exact goes (hushed_announcePatterns s empty) fun _ mem => absurd mem (by simp)
      · exact ⟨.refl s, quiet⟩
    · split
      · exact ⟨.refl s, trivial⟩
      · split
        · refine goes (.refl s) fun run mem => ?_
          cases mem
          trivial
        · split
          · refine goes (.refl s) fun run mem => ?_
            cases mem
            trivial
          · split
            · exact ⟨.refl s, quiet⟩
            · refine ⟨Spawns.hushed_nil (.of_eq rfl rfl rfl rfl rfl), ?_⟩
              exact quiet

/-! Tasks. -/

theorem hushed_continueTask (s : System) {task : Task} (broken : s.analyzer.IsBroken s.callLimit)
    (quiet : task.IsQuiet) :
    s.Hushed (s.continueTask task).2 ∧ (s.continueTask task).1.IsQuiet := by
  cases task with
  | fresh | held => exact ⟨.refl s, trivial⟩
  | evaluation => exact quiet.elim
  | detection source fired checks =>
    have steps : CheckSteps source (checks, s) _ := checkSteps_continueChecks s checks
    obtain ⟨checked, left⟩ := steps.quiet quiet
    simp only [continueTask]
    split
    · exact ⟨checked.hushed_nil, trivial⟩
    · exact ⟨checked.hushed_nil, left⟩
  | enrichment alert r c =>
    have still : (Task.enrichment alert (r.settledAt s.time) (c.settledAt s.time)).IsQuiet := by
      simpa [Task.IsQuiet] using quiet
    simp only [continueTask]
    split
    · next x y hx hy =>
      have empty : (x.recommendations.isEmpty && y.correlations.isEmpty) = true := by
        rw [Slot.eq_value_of_valueAt? hx, Slot.eq_value_of_valueAt? hy, quiet.1, quiet.2]
        rfl
      rw [if_pos empty]
      exact ⟨.refl s, trivial⟩
    · exact ⟨.refl s, still⟩
  | feedback alert answer =>
    simp only [continueTask]
    split
    · next x hx =>
      have empty : (Enrichment.feedbackFields x).isEmpty = true := by
        rw [Slot.eq_value_of_valueAt? hx, quiet, List.isEmpty_nil]
      rw [if_pos empty]
      exact ⟨.refl s, trivial⟩
    · exact ⟨.refl s, quiet⟩
  | explanation | recommendations | correlations =>
    simp only [continueTask]
    split <;> exact ⟨.refl s, trivial⟩
  | patternRun answer =>
    simp only [continueTask]
    split
    · next x hx =>
      have empty : x.isEmpty := by
        rw [Slot.eq_value_of_valueAt? hx]
        exact quiet
      exact ⟨hushed_announcePatterns s empty, trivial⟩
    · exact ⟨.refl s, quiet⟩
  | dispatch state =>
    have dispatched := hushed_continueDispatch s state
    simp only [continueTask]
    split <;> exact ⟨dispatched, trivial⟩
  | dispatchLoop state => exact hushed_runLoop ..
  | patternJob state => exact hushed_runJob _ _ _ broken quiet
  | stopping current later => exact hushed_runStop ..

/-- A task goes on from where nothing has happened yet. -/
theorem hushed_of_begins (broken : s.analyzer.IsBroken s.callLimit) (begins : s.Begins [] s')
    (quiet : task.IsQuiet) :
    s.Hushed (s'.continueTask task).2 ∧ (s'.continueTask task).1.IsQuiet := by
  obtain ⟨went, ends⟩ := hushed_continueTask s' (begins.broken broken) quiet
  exact ⟨begins.hushed_nil.trans went, ends⟩

/-- An activity that evaluates nothing begins, and whatever it asks the analyzer is asked in
vain. -/
theorem hushed_startWork (s : System) {work : Work} (broken : s.analyzer.IsBroken s.callLimit)
    (quiet : work.isEvaluation = false) :
    s.Hushed (s.startWork work).2 ∧ (s.startWork work).1.IsQuiet := by
  cases work with
  | evaluate => cases quiet
  | detect source checks =>
    exact hushed_of_begins broken (begins_callChecks ..) (isQuiet_callChecks broken checks)
  | enrich alert =>
    have recommended := begins_callRecommend s alert
    refine hushed_of_begins broken (recommended.trans (begins_callCorrelate ..)) ⟨?_, ?_⟩
    · exact congrArg Recommendations.recommendations (value_callRecommend broken alert)
    · exact congrArg Correlations.correlations
        (value_callCorrelate (recommended.broken broken) alert)
  | feedback alert type =>
    exact hushed_of_begins broken (begins_callFeedback ..) (fields_callFeedback broken alert type)
  | explain | recommend | correlate =>
    first
    | exact hushed_of_begins broken (begins_callExplain ..) trivial
    | exact hushed_of_begins broken (begins_callRecommend ..) trivial
    | exact hushed_of_begins broken (begins_callCorrelate ..) trivial
  | analyzePatterns window =>
    exact hushed_of_begins broken (begins_callPatterns ..)
      (congrArg PatternAnalysis.isEmpty (value_callPatterns broken window))
  | dispatch event => exact hushed_of_begins broken (.refl s) trivial
  | dispatchLoop place => exact hushed_of_begins broken (.refl s) trivial
  | patternJob schedule =>
    simp only [startWork]
    split
    · exact ⟨.refl s, trivial⟩
    · exact hushed_of_begins broken (.of_eq rfl rfl rfl rfl rfl rfl rfl)
        fun _ mem => absurd mem (by simp)
  | stop tasks =>
    cases tasks with
    | nil => exact ⟨.refl s, trivial⟩
    | cons first later =>
      obtain ⟨stopped, quiet⟩ := hushed_runStop (s.signal first) first later
      exact ⟨(hushed_signal ..).trans stopped, quiet⟩

theorem hushed_resumeWork (s : System) {work : Work} (broken : s.analyzer.IsBroken s.callLimit)
    (quiet : work.isEvaluation = false) :
    s.Hushed (s.resumeWork work).2 ∧ (s.resumeWork work).1.IsQuiet := by
  unfold resumeWork
  split
  · next alert =>
    have correlated := begins_callCorrelate s alert
    refine hushed_of_begins broken (correlated.trans (begins_callRecommend _ alert)) ⟨?_, ?_⟩
    · exact congrArg Recommendations.recommendations
        (value_callRecommend (correlated.broken broken) alert)
    · exact congrArg Correlations.correlations (value_callCorrelate broken alert)
  · exact hushed_startWork s broken quiet

theorem hushed_enter (s : System) {work : Work} {how : System → Work → Progress × System}
    (broken : s.analyzer.IsBroken s.callLimit) (quiet : work.isEvaluation = false)
    (goes : ∀ s : System, s.analyzer.IsBroken s.callLimit →
      s.Hushed (how s work).2 ∧ (how s work).1.IsQuiet) :
    s.Hushed (s.enter work how).2 ∧ (s.enter work how).1.IsQuiet := by
  have visited := begins_visit s 0 .read
  unfold enter
  split
  · split
    · next found =>
      rw [found] at visited
      obtain ⟨went, ends⟩ := goes _ (visited.broken broken)
      exact ⟨visited.hushed_nil.trans went, ends⟩
    · next found =>
      rw [found] at visited
      exact ⟨visited.hushed_nil, quiet⟩
  · exact goes s broken

/-- In the turn of a task that is quiet nothing happens to the alerts. -/
theorem hushed_turn (s : System) (h : s.task? id = some task) (quiet : task.IsQuiet)
    (broken : s.analyzer.IsBroken s.callLimit) : s.Hushed (s.turn id) := by
  obtain ⟨begun, hasBegun, hTurn⟩ := turn_eq_conclude h
  have begins := hasBegun.begins
  have hBroken := begins.broken broken
  have concluded : ∀ {result : Progress × System},
      begun.Hushed result.2 ∧ result.1.IsQuiet → s.Hushed (conclude id result) :=
    fun ⟨went, ends⟩ => hushed_conclude h quiet (begins.hushed_nil.trans went) ends
  rw [hTurn]
  cases task with
  | fresh work =>
    exact concluded (hushed_enter begun hBroken quiet fun s h => hushed_startWork s h quiet)
  | held work =>
    exact concluded (hushed_enter begun hBroken quiet fun s h => hushed_resumeWork s h quiet)
  | _ => exact concluded (hushed_continueTask begun hBroken quiet)

end MetricAlerts.System
