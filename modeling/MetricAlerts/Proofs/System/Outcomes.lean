import MetricAlerts.Proofs.System.Payments

/-! What the turn of a calm task comes to. Besides paying its bill a task may publish that an alert
has been updated, and it may ask loops to stop. -/

namespace MetricAlerts

namespace Engine

/-- An alert is updated, or it is not active any more. -/
theorem exists_events_annotate (e : Engine) (alert : Alert) (fields : List (String × Json)) :
    ∃ published, (e.annotate alert fields).2.events = e.events ++ published ∧
      published.length ≤ 1 ∧ ∀ event ∈ published, event.isUpdated := by
  unfold annotate
  split
  · exact ⟨[], (List.append_nil _).symm, Nat.zero_le 1, List.forall_mem_nil _⟩
  · next stamped _ =>
    simp only [storeMerge?]
    cases e.tick.alerts.mergeAnnotations? alert.id stamped with
    | none => exact ⟨[], (List.append_nil _).symm, Nat.zero_le 1, List.forall_mem_nil _⟩
    | some merged =>
      refine ⟨[.updated merged.1], ?_, Nat.le_refl 1, List.forall_mem_singleton.mpr rfl⟩
      simp [withAlerts, events, publish, Bus.publish, tick]

end Engine

namespace System

variable {s s' : System} {works : List Work} {task next : Task} {progress : Progress}
  {result : Progress × System}

/-- What a task has come to in its turn: it has asked some tasks to stop, has published some events,
has begun some activities and goes on, or it stays as it is. -/
inductive Outcome (s : System) (task : Task) (result : Progress × System) : Prop
  | intro {asked : Nat × Task → Nat × Task} {e : Engine} {published : List Event}
      {works : List Work} (names : ∀ t, (asked t).1 = t.1)
      (heeds : ∀ t, (asked t).2 = t.2 ∨ (asked t).2 = heed t.2)
      (definitions : e.definitions = s.engine.definitions)
      (events : e.events = s.engine.events ++ published)
      (spawns : Spawns { s with tasks := s.tasks.map asked, engine := e } works result.2)
      (bill : Bill s task published works result.1)
      (goesOn : (result.1 = .waits task ∧ works = [] ∧ result.2.tasks = s.tasks ∧
          result.2.engine = s.engine) ∨
        published ≠ [] ∨ Lessens s task works result.1)

theorem Pays.outcome (pays : Pays s task works result) : Outcome s task result := by
  have hTasks : s.tasks.map id = s.tasks := List.map_id _
  refine @Outcome.intro s task result id s.engine [] works (fun _ => rfl) (fun _ => .inl rfl) rfl
    (List.append_nil _).symm ?_ pays.bill ?_
  · rw [hTasks]
    exact pays.spawns
  · obtain ⟨same, none, engine⟩ | less := pays.goesOn
    · refine .inl ⟨same, none, ?_, engine⟩
      rw [pays.spawns.tasks, none]
      exact List.append_nil _
    · exact .inr (.inr less)

theorem heed_heed (task : Task) : heed (heed task) = heed task := by
  cases task <;> rfl

/-- A task that has made an effort, with which it may have asked others to stop, goes on. -/
theorem Outcome.of_asked {asked : Nat × Task → Nat × Task} (names : ∀ t, (asked t).1 = t.1)
    (heeds : ∀ t, (asked t).2 = t.2 ∨ (asked t).2 = heed t.2)
    (spawns : Spawns { s with tasks := s.tasks.map asked } [] s')
    (enriching : next.enriching ≤ task.enriching)
    (undispatched : s.undispatchedOf next ≤ s.undispatchedOf task)
    (effort : (next = task ∧ s'.tasks = s.tasks ∧ s'.engine = s.engine) ∨
      s.effortOf next < s.effortOf task)
    (outcome : Outcome s' next result) : Outcome s task result := by
  have agrees : s.engine.Agrees s'.engine := spawns.engine
  obtain @⟨asked', e, published, works, names', heeds', definitions, events, began, bill, goesOn⟩ :=
    outcome
  have hTasks : s'.tasks = s.tasks.map asked := spawns.tasks_eq
  have started : Spawns { s with tasks := s.tasks.map (asked' ∘ asked), engine := e } []
      { s' with tasks := s'.tasks.map asked', engine := e } := by
    refine ⟨.refl e, ?_, spawns.nextTask, spawns.callLimit, spawns.analyzer⟩
    rw [hTasks, List.map_map]
    exact (List.append_nil _).symm
  refine @Outcome.intro s task result (asked' ∘ asked) e published works
    (fun t => (names' _).trans (names t)) (fun t => ?_) (definitions.trans agrees.definitions)
    (events.trans (by rw [agrees.events])) (started.nil_trans began) ?_ ?_
  · obtain same | hHeed := heeds t <;> obtain same' | hHeed' := heeds' (asked t)
    · exact .inl (same'.trans same)
    · exact .inr (hHeed'.trans (congrArg heed same))
    · exact .inr (same'.trans hHeed)
    · exact .inr (hHeed'.trans ((congrArg heed hHeed).trans (heed_heed _)))
  · obtain ⟨updated, feedback, calm, price, less⟩ := bill.congr agrees
    refine ⟨updated, feedback, calm, ?_, Nat.le_trans less undispatched⟩
    have paid := Nat.mul_le_mul_left s.feedbackChannels undispatched
    omega
  · obtain ⟨same, none, tasks, engine⟩ | news | less := goesOn
    · rw [same]
      obtain ⟨rfl, tasks', engine'⟩ | effort := effort
      · exact .inl ⟨rfl, none, tasks.trans tasks', engine.trans engine'⟩
      · exact .inr (.inr (.inr ⟨none, effort⟩))
    · exact .inr (.inl news)
    · refine .inr (.inr ?_)
      obtain less | ⟨none, less⟩ := less.congr agrees
      · exact .inl (Nat.lt_of_lt_of_le less undispatched)
      · refine .inr ⟨none, Nat.lt_of_lt_of_le less ?_⟩
        obtain ⟨rfl, -⟩ | effort := effort
        · exact Nat.le_refl _
        · exact Nat.le_of_lt effort

theorem Outcome.of_spawns (spawns : s.Spawns [] s') (enriching : next.enriching ≤ task.enriching)
    (undispatched : s.undispatchedOf next ≤ s.undispatchedOf task)
    (effort : (next = task ∧ s'.tasks = s.tasks ∧ s'.engine = s.engine) ∨
      s.effortOf next < s.effortOf task)
    (outcome : Outcome s' next result) : Outcome s task result := by
  have hTasks : s.tasks.map id = s.tasks := List.map_id _
  refine @Outcome.of_asked s s' task next result id (fun _ => rfl) (fun _ => .inl rfl) ?_ enriching
    undispatched effort outcome
  rwa [hTasks]

/-- What a task comes to is no matter of what has been arranged before. -/
theorem Outcome.of_arranged (spawns : s.Spawns [] s') (engine : s'.engine = s.engine)
    (outcome : Outcome s' task result) : Outcome s task result := by
  have tasks : s'.tasks = s.tasks := spawns.tasks_eq
  exact .of_spawns spawns (Nat.le_refl _) (Nat.le_refl _) (.inl ⟨rfl, tasks, engine⟩) outcome

theorem Outcome.of_signal (id : Nat) (enriching : next.enriching ≤ task.enriching)
    (undispatched : s.undispatchedOf next ≤ s.undispatchedOf task)
    (effort : s.effortOf next < s.effortOf task) (outcome : Outcome (s.signal id) next result) :
    Outcome s task result := by
  refine .of_asked (fst_heedAs id) (fun t => ?_) (begins_signal s id).toSpawns enriching
    undispatched (.inr effort) outcome
  rw [heedAs]
  split
  · exact .inr rfl
  · exact .inl rfl

/-! Tasks. -/

theorem effortOf_pos (s : System) (task : Task) : 0 < s.effortOf task := by
  cases task <;> exact Nat.succ_pos _

/-- A task ends without another word. -/
theorem Outcome.ends (spawns : s.Spawns [] s') (value : TaskResult) :
    Outcome s task (.ends value, s') :=
  Pays.outcome (.of_effort trivial spawns (Nat.zero_le _) (Nat.zero_le _)
    (effortOf_pos s task))

/-- A task that could wait may as well end. -/
theorem Pays.ends (pays : Pays s task works (.waits next, s')) (value : TaskResult) :
    Pays s task works (.ends value, s') := by
  obtain ⟨spawns, ⟨updated, feedback, -, price, undispatched⟩, goesOn⟩ := pays
  refine ⟨spawns, ⟨updated, feedback, trivial, ?_, Nat.zero_le _⟩, .inr ?_⟩
  · simp only [Progress.worth] at price ⊢
    omega
  · obtain ⟨-, none, -⟩ | less | ⟨none, -⟩ := goesOn
    · exact .inr ⟨none, effortOf_pos s task⟩
    · exact .inl (Nat.lt_of_le_of_lt (Nat.zero_le _) less)
    · exact .inr ⟨none, effortOf_pos s task⟩

theorem outcome_dispatch (s : System) (state : DispatchState) :
    Outcome s (.dispatch state) (s.continueTask (.dispatch state)) := by
  obtain ⟨works, pays⟩ := pays_continueDispatch s state
  simp only [continueTask]
  split
  · exact (pays.ends _).outcome
  · exact pays.outcome

/-- Enrichment that gets at the store pays for what it publishes with itself. -/
theorem outcome_changeAlert {alert : Alert} {fields : List (String × Json)}
    (enriches : task.enriching = 1) (calm : next.isCalm)
    (enriching : next.enriching ≤ task.enriching)
    (undispatched : s.undispatchedOf next ≤ s.undispatchedOf task)
    (goesOn : next = task ∨ s.effortOf next < s.effortOf task) :
    Outcome s task (s.changeAlert next fun e => e.annotate alert fields) := by
  have visited := (begins_visit s 0 .write).toSpawns
  have engine := engine_visit s 0 .write
  unfold changeAlert
  split
  · next begun found =>
    rw [found] at visited engine
    obtain ⟨published, events, length, updated⟩ :=
      begun.engine.exists_events_annotate alert fields
    have hTasks : s.tasks.map id = s.tasks := List.map_id _
    have started := (visited.replace (begun.engine.annotate alert fields).2).nil_trans
      (begins_replaced ..).toSpawns
    refine @Outcome.intro s task _ id _ published [] (fun _ => rfl) (fun _ => .inl rfl) ?_ ?_
      (by rw [hTasks]; exact started) ?_ ?_
    · exact (Engine.definitions_annotate ..).trans (congrArg Engine.definitions engine)
    · exact events.trans (by rw [engine])
    · refine ⟨updated, List.forall_mem_nil _, trivial, ?_, Nat.zero_le _⟩
      simp only [Progress.worth, enriches, List.length_nil]
      omega
    · exact .inr (.inr (.inr ⟨rfl, effortOf_pos s task⟩))
  · next found =>
    rw [found] at visited engine
    obtain rfl | effort := goesOn
    · exact Pays.outcome (.same calm visited engine)
    · exact Pays.outcome (.of_effort calm visited enriching
        undispatched effort)

theorem settledAt_eq_or_lt {α : Type} (slot : Slot α) (time : Nat) :
    slot.settledAt time = slot ∨ (slot.settledAt time).waits.length < slot.waits.length := by
  cases slot with
  | waiting wait value =>
    rw [Slot.settledAt]
    split
    · exact .inr Nat.one_pos
    · exact .inl rfl
  | ready value => exact .inl rfl

theorem outcome_enrichment (s : System) (alert : Alert) (r : Slot Recommendations)
    (c : Slot Correlations) :
    Outcome s (.enrichment alert r c) (s.continueTask (.enrichment alert r c)) := by
  have goesOn : Task.enrichment alert (r.settledAt s.time) (c.settledAt s.time) =
        .enrichment alert r c ∨
      s.effortOf (.enrichment alert (r.settledAt s.time) (c.settledAt s.time)) <
        s.effortOf (.enrichment alert r c) := by
    simp only [effortOf, Task.effort]
    obtain same | less := settledAt_eq_or_lt r s.time <;>
      obtain same' | less' := settledAt_eq_or_lt c s.time
    · exact .inl (by rw [same, same'])
    · exact .inr (by rw [same]; omega)
    · exact .inr (by rw [same']; omega)
    · exact .inr (by omega)
  simp only [continueTask]
  split
  · split
    · exact .ends (.refl s) _
    · exact outcome_changeAlert rfl rfl (Nat.le_refl _) (Nat.le_refl _) goesOn
  · obtain same | less := goesOn
    · rw [same]
      exact Pays.outcome (.same rfl (.refl s) rfl)
    · exact Pays.outcome (.of_effort rfl (.refl s) (Nat.le_refl _)
        (Nat.le_refl _) less)

/-- The end of loops and jobs: each of them is asked to stop in its turn. -/
theorem outcome_runStop (s : System) (current : Nat) (later : List Nat) :
    Outcome s (.stopping current later) (s.runStop current later) := by
  induction later generalizing s current with
  | nil =>
    unfold runStop
    split
    · exact Pays.outcome (.same rfl (.refl s) rfl)
    · exact .ends (.refl s) _
  | cons next later ih =>
    unfold runStop
    split
    · exact Pays.outcome (.same rfl (.refl s) rfl)
    · have stopped : Outcome (s.signal next) (.stopping next later) _ := ih (s.signal next) next
      refine .of_signal next ?_ ?_ (Nat.lt_succ_self _) stopped
      · exact Nat.le_refl 0
      · exact Nat.le_refl 0

/-- What a task comes to when it goes on. -/
theorem outcome_continueTask (s : System) {task : Task} (calm : task.isCalm) :
    Outcome s task (s.continueTask task) := by
  cases task with
  | fresh | held => exact .ends (.refl s) _
  | evaluation | detection | patternRun | patternJob => cases calm
  | enrichment => exact outcome_enrichment ..
  | feedback alert answer =>
    simp only [continueTask]
    split
    · split
      · exact .ends (.refl s) _
      · exact outcome_changeAlert rfl rfl (Nat.le_refl _) (Nat.le_refl _) (.inl rfl)
    · exact Pays.outcome (.same rfl (.refl s) rfl)
  | explanation | recommendations | correlations =>
    simp only [continueTask]
    split
    · exact .ends (.refl s) _
    · exact Pays.outcome (.same rfl (.refl s) rfl)
  | dispatch state => exact outcome_dispatch ..
  | dispatchLoop state =>
    obtain ⟨works, pays⟩ := pays_runLoop (s.loopFuel state) state s
    exact pays.outcome
  | stopping current later => exact outcome_runStop ..

/-! The beginning of an activity. -/

/-- A task whose activity is still to begin: it takes more effort than afterwards. -/
structure IsBeginning (s : System) (work : Work) (task : Task) : Prop where
  enriching : task.enriching = work.isEnriching.toNat
  undispatched : s.undispatchedOf task = work.undispatched s.engine.events
  effort : work.effort s.engine.definitions.enabledChannels.length s.engine.events + 2 ≤
    s.effortOf task

theorem isBeginning_fresh (s : System) (work : Work) : s.IsBeginning work (.fresh work) :=
  ⟨rfl, rfl, Nat.le_succ _⟩

theorem isBeginning_held (s : System) (work : Work) : s.IsBeginning work (.held work) :=
  ⟨rfl, rfl, Nat.le_refl _⟩

theorem IsBeginning.continueTask {work : Work} (beginning : s.IsBeginning work task)
    (spawns : s.Spawns [] s') (calm : next.isCalm)
    (enriching : next.enriching = work.isEnriching.toNat)
    (undispatched : s.undispatchedOf next = work.undispatched s.engine.events)
    (effort : s.effortOf next ≤
      work.effort s.engine.definitions.enabledChannels.length s.engine.events + 1) :
    Outcome s task (s'.continueTask next) :=
  .of_spawns spawns (Nat.le_of_eq (enriching.trans beginning.enriching.symm))
    (Nat.le_of_eq (undispatched.trans beginning.undispatched.symm))
    (.inr (Nat.lt_of_le_of_lt effort beginning.effort)) (outcome_continueTask s' calm)

theorem length_waits_le {α : Type} (slot : Slot α) : slot.waits.length ≤ 1 := by
  cases slot with
  | waiting => exact Nat.le_refl 1
  | ready => exact Nat.zero_le 1

theorem effortOf_enrichment_le (s : System) (alert : Alert) (r : Slot Recommendations)
    (c : Slot Correlations) : s.effortOf (.enrichment alert r c) ≤ 2 + 1 :=
  Nat.add_le_add_right (Nat.add_le_add (length_waits_le r) (length_waits_le c)) 1

theorem outcome_startWork {work : Work} (beginning : s.IsBeginning work task)
    (calm : work.isCalm) : Outcome s task (s.startWork work) := by
  cases work with
  | evaluate | detect | analyzePatterns | patternJob => cases calm
  | enrich alert =>
    simp only [startWork]
    refine beginning.continueTask
      ((begins_callRecommend ..).trans (begins_callCorrelate ..)).toSpawns rfl rfl rfl ?_
    exact effortOf_enrichment_le ..
  | feedback alert type =>
    simp only [startWork]
    exact beginning.continueTask (begins_callFeedback ..).toSpawns rfl rfl rfl (Nat.le_refl _)
  | explain metrics resourceType =>
    simp only [startWork]
    exact beginning.continueTask (begins_callExplain ..).toSpawns rfl rfl rfl (Nat.le_refl _)
  | recommend alert =>
    simp only [startWork]
    exact beginning.continueTask (begins_callRecommend ..).toSpawns rfl rfl rfl (Nat.le_refl _)
  | correlate alert =>
    simp only [startWork]
    exact beginning.continueTask (begins_callCorrelate ..).toSpawns rfl rfl rfl (Nat.le_refl _)
  | dispatch event =>
    simp only [startWork]
    exact beginning.continueTask (.refl s) rfl rfl rfl (Nat.le_refl _)
  | dispatchLoop place =>
    simp only [startWork]
    refine beginning.continueTask (.refl s) rfl rfl (Nat.zero_add _) ?_
    exact Nat.le_of_eq (congrArg (· + 1) (Nat.zero_add _))
  | stop tasks =>
    cases tasks with
    | nil => exact .ends (.refl s) _
    | cons first later =>
      have effort : s.effortOf (.stopping first later) < s.effortOf task :=
        Nat.lt_of_lt_of_le (Nat.lt_add_of_pos_right Nat.two_pos) beginning.effort
      exact .of_signal first (Nat.zero_le _) (Nat.zero_le _) effort (outcome_runStop ..)

theorem outcome_resumeWork {work : Work} (beginning : s.IsBeginning work task)
    (calm : work.isCalm) : Outcome s task (s.resumeWork work) := by
  unfold resumeWork
  split
  · next alert =>
    simp only
    refine beginning.continueTask
      ((begins_callCorrelate ..).trans (begins_callRecommend ..)).toSpawns rfl rfl rfl ?_
    exact effortOf_enrichment_le ..
  · exact outcome_startWork beginning calm

/-! The turn. -/

/-- An activity that has to wait for the store is held. -/
theorem outcome_enter {work : Work} {how : System → Work → Progress × System}
    (goes : ∀ begun : System, Outcome begun task (how begun work))
    (held : Outcome s task (.waits (.held work), (s.visit 0 .read).2)) :
    Outcome s task (s.enter work how) := by
  have visited := (begins_visit s 0 .read).toSpawns
  have engine := engine_visit s 0 .read
  unfold enter
  split
  · split
    · next begun found =>
      rw [found] at visited engine
      exact .of_arranged visited engine (goes begun)
    · next found =>
      rwa [found] at held
  · exact goes s

theorem outcome_fresh (s : System) {work : Work} (calm : work.isCalm) :
    Outcome s (.fresh work) (s.enter work startWork) := by
  refine outcome_enter (fun begun => outcome_startWork (isBeginning_fresh begun work) calm) ?_
  exact Pays.outcome (.of_effort calm (begins_visit ..).toSpawns
    (Nat.le_refl _) (Nat.le_refl _) (Nat.lt_succ_self _))

theorem outcome_held (s : System) {work : Work} (calm : work.isCalm) :
    Outcome s (.held work) (s.enter work resumeWork) := by
  refine outcome_enter (fun begun => outcome_resumeWork (isBeginning_held begun work) calm) ?_
  exact Pays.outcome (.same calm (begins_visit ..).toSpawns (engine_visit ..))

/-- What a calm task comes to in its turn. -/
theorem outcome_turn {id : Nat} (h : s.task? id = some task) (calm : task.isCalm) :
    ∃ result, Outcome s task result ∧ s.turn id = conclude id result := by
  obtain ⟨begun, hasBegun, hTurn⟩ := turn_eq_conclude h
  refine ⟨_, ?_, hTurn⟩
  refine .of_arranged hasBegun.begins.toSpawns hasBegun.engine ?_
  cases task with
  | fresh work => exact outcome_fresh begun calm
  | held work => exact outcome_held begun calm
  | _ => exact outcome_continueTask begun calm

end System

end MetricAlerts
