import MetricAlerts.Proofs.System.Operations
import MetricAlerts.Proofs.System.Watched

/-! The service of a system. Requests, snapshots and clients come, the loop and the job start and
stop, and tasks take their turns; from the first moment on all of it is a part of a watch
(`exists_watch`). -/

namespace MetricAlerts.System

/-- What goes on in a system: tasks take their turns, activities begin, and loops and jobs are asked
to stop. Enrichment and feedback begin in the turns of tasks alone. -/
inductive Goes (s : System) : System → Prop
  | unattended {s' : System} (goes : s.Unattended s') : Goes s s'
  | begins {works : List Work} {s' : System} (begins : s.Begins works s')
      (engine : s'.engine = s.engine) (due : ∀ work ∈ works, work.IsDue [] ∧ work.isLoop = false) :
      Goes s s'
  /-- A rule is evaluated on its own, and its check begins. -/
  | examine (rule : Rule) (source : String) (metrics : Json) :
      Goes s ((s.withEngine (s.engine.evaluateRule rule source metrics).2.2).spawnAll
        ((s.engine.evaluateRule rule source metrics).2.1.toList.map fun check =>
          .detect source [check]))
  | signal (id : Nat) : Goes s (s.signal id)

/-- A system goes on for a while. -/
abbrev CarriesOn : System → System → Prop := Relation.ReflTransGen Goes

/-- What happens in a system. It goes on, does what it is asked to and serves clients, and a loop
starts when there is none. -/
inductive Happens (s : System) : System → Prop
  | goes {s' : System} (goes : s.Goes s') : Happens s s'
  | act {action : Engine.Action} (due : action.IsDue []) :
      Happens s (s.withEngine (s.engine.after action))
  | serve {s' : System} (begins : s.Begins [] s') : Happens s s'
  | start (free : ∀ t ∈ s.tasks, t.2.isLoop = false) :
      Happens s (s.spawn (.dispatchLoop s.engine.bus.tail)).2

/-- One thing happens after another. -/
abbrev Unfolds : System → System → Prop := Relation.ReflTransGen Happens

variable {s s' : System} {w : Watch}

/-- A loop starts, at the end of what has been published. -/
theorem IsWatched.start (h : s.IsWatched w) (free : ∀ t ∈ s.tasks, t.2.isLoop = false) :
    w.Step .start { w with loop := some ⟨w.engine.bus.tail, 0, none⟩ } ∧
      (s.spawn (.dispatchLoop s.engine.bus.tail)).2.IsWatched
        { w with loop := some ⟨w.engine.bus.tail, 0, none⟩ } := by
  obtain ⟨e, duties, running, stopping⟩ := w
  obtain rfl : e = s.engine := h.engine
  have among : LoopAmong s.tasks running stopping := h.loop
  cases among with
  | on mem carries =>
    have none := free _ mem
    rw [carries.isLoop] at none
    cases none
  | off =>
    have begins := begins_spawn s (.dispatchLoop s.engine.bus.tail)
    refine ⟨.start rfl, rfl, begins.isNumbered h.numbered, ?_, ?_⟩
    · rw [begins.tasks]
      exact List.forall_mem_append.mpr ⟨h.due, List.forall_mem_singleton.mpr trivial⟩
    · rw [begins.tasks]
      refine .on (List.mem_append_right _ (List.mem_singleton.mpr rfl)) (.fresh _)
        (List.forall_mem_append.mpr ⟨fun t mem isLoop => ?_, List.forall_mem_singleton.mpr ?_⟩)
      · rw [free t mem] at isLoop
        cases isLoop
      · exact fun _ => rfl

/-- A request for an action is done at once. -/
theorem IsWatched.act (h : s.IsWatched w) {action : Engine.Action} (due : action.IsDue []) :
    let w' := { w with
      engine := w.engine.after action
      duties := w.duties ++ w.engine.duties action }
    w.Step (.act action) w' ∧ (s.withEngine (s.engine.after action)).IsWatched w' := by
  obtain ⟨e, duties, loop, stopping⟩ := w
  obtain rfl : e = s.engine := h.engine
  exact ⟨.act (due.mono (List.nil_subset _)), h.spawns (begins_replaced s _).toSpawns
    (engine_withEngine ..) (List.subset_append_left ..) (List.forall_mem_nil _)⟩

/-- Clients are served. -/
theorem IsWatched.serve (h : s.IsWatched w) (begins : s.Begins [] s') :
    w.Step (.serve w.engine.readings) { w with engine := s'.engine } ∧
      s'.IsWatched { w with engine := s'.engine } := by
  obtain ⟨e, duties, loop, stopping⟩ := w
  obtain rfl : e = s.engine := h.engine
  refine ⟨?_, h.spawns (begins.replace s'.engine).toSpawns rfl (List.Subset.refl _)
    (List.forall_mem_nil _)⟩
  obtain ⟨hub, console, same⟩ := begins.engine
  rw [same]
  exact .serve hub console s.engine.readings

/-- Whatever goes on is a part of a watch. -/
theorem IsWatched.goes (h : s.IsWatched w) (goes : s.Goes s') :
    ∃ trace w', Passage s w trace s' w' := by
  cases goes with
  | unattended goes =>
    cases goes with
    | turn id => exact h.turn id
    | arrange begins engine =>
      exact ⟨[], w, .of_leavesMail begins.leavesMail (.nil w) (h.arranged begins engine)
        (List.forall_mem_nil _)⟩
  | begins begins engine due =>
    have tends : Tends w.loop w.stopping s w.duties s' w.duties :=
      .of_works begins engine fun work mem =>
        (due work mem).imp_left fun isDue => isDue.mono (List.nil_subset _)
    obtain ⟨trace, passage⟩ := h.tends tends
    exact ⟨trace, _, passage⟩
  | examine rule source metrics =>
    obtain ⟨e, duties, loop, stopping⟩ := w
    obtain rfl : e = s.engine := h.engine
    have asked : Watch.Step ⟨s.engine, duties, loop, stopping⟩
      (.examine rule source metrics) _ := .examine rule source metrics
    have acted : Watch.Step ⟨s.engine, duties ++ [.rule (.evaluation rule source metrics)],
        loop, stopping⟩ (.act (.evaluate rule source metrics)) _ :=
      .act (List.mem_append_right _ (List.mem_singleton.mpr rfl))
    have begins := (begins_replaced s (s.engine.evaluateRule rule source metrics).2.2).trans
      (begins_spawnAll _ ((s.engine.evaluateRule rule source metrics).2.1.toList.map fun check =>
        .detect source [check]))
    refine ⟨_, _, .of_leavesMail begins.leavesMail.of_engine (.cons asked (.cons acted (.nil _)))
      (h.spawns begins.toSpawns ?_ ?_ ?_) ?_⟩
    · rw [engine_spawnAll, engine_withEngine]
      rfl
    · exact List.subset_append_of_subset_left _ (List.subset_append_left ..)
    · intro work mem
      obtain ⟨check, hCheck, rfl⟩ := List.mem_map.mp mem
      exact ⟨List.forall_mem_singleton.mpr (List.mem_append_right _ (List.mem_map_of_mem hCheck)),
        rfl⟩
    · exact List.forall_mem_cons.mpr ⟨⟨rfl, rfl⟩, List.forall_mem_singleton.mpr ⟨rfl, rfl⟩⟩
  | signal id =>
    obtain ⟨trace, stopping, runs, quiet, watched⟩ := h.signal id
    exact ⟨trace, _, .of_leavesMail (leavesMail_signal s id) runs watched quiet⟩

/-- Whatever happens is a part of a watch. -/
theorem IsWatched.happens (h : s.IsWatched w) (happens : s.Happens s') :
    ∃ trace w', Watch.Runs w trace w' ∧ s'.IsWatched w' := by
  cases happens with
  | goes goes =>
    obtain ⟨trace, w', passage⟩ := h.goes goes
    exact ⟨trace, w', passage.runs, passage.watched⟩
  | act due =>
    obtain ⟨step, watched⟩ := h.act due
    exact ⟨_, _, .cons step (.nil _), watched⟩
  | serve begins =>
    obtain ⟨step, watched⟩ := h.serve begins
    exact ⟨_, _, .cons step (.nil _), watched⟩
  | start free =>
    obtain ⟨step, watched⟩ := h.start free
    exact ⟨_, _, .cons step (.nil _), watched⟩

theorem IsWatched.unfolds (h : s.IsWatched w) (unfolds : s.Unfolds s') :
    ∃ trace w', Watch.Runs w trace w' ∧ s'.IsWatched w' := by
  induction unfolds with
  | refl => exact ⟨[], w, .nil w, h⟩
  | tail _ last ih =>
    obtain ⟨trace, w₁, runs, watched⟩ := ih
    obtain ⟨later, w₂, rest, watched'⟩ := watched.happens last
    exact ⟨trace ++ later, w₂, runs.append rest, watched'⟩

theorem isWatched_initial (engine : Engine) (analyzer : Analyzer) (callLimit : Nat) :
    (initial engine analyzer callLimit).IsWatched (.idle engine) :=
  ⟨rfl, ⟨List.nodup_nil, List.forall_mem_nil _⟩, List.forall_mem_nil _,
    .off (List.forall_mem_nil _)⟩

/-- Whatever has happened in a system since its first moment has been a watch. -/
theorem exists_watch {engine : Engine} {analyzer : Analyzer} {callLimit : Nat}
    (unfolds : (initial engine analyzer callLimit).Unfolds s) :
    ∃ trace w, Watch.Runs (.idle engine) trace w ∧ s.IsWatched w :=
  (isWatched_initial engine analyzer callLimit).unfolds unfolds

/-! Running a system. -/

theorem GoesOn.carriesOn (goesOn : s.GoesOn s') : s.CarriesOn s' :=
  Relation.ReflTransGen.mono (fun _ _ => .unattended) _ _ goesOn

theorem CarriesOn.unfolds (carriesOn : s.CarriesOn s') : s.Unfolds s' :=
  Relation.ReflTransGen.mono (fun _ _ => .goes) _ _ carriesOn

theorem carriesOn_of_begins (begins : s.Begins [] s') (engine : s'.engine = s.engine) :
    s.CarriesOn s' :=
  .single (.unattended (.arrange begins engine))

theorem carriesOn_spawn (s : System) {work : Work} (due : work.IsDue [])
    (other : work.isLoop = false) : s.CarriesOn (s.spawn work).2 :=
  .single (.begins (begins_spawn s work) (engine_spawn ..)
    (List.forall_mem_singleton.mpr ⟨due, other⟩))

theorem carriesOn_advance (s : System) (duration : Nat) : s.CarriesOn (s.advance duration) :=
  (goesOn_advance s duration).carriesOn

theorem carriesOn_request (s : System) {work : Work} (due : work.IsDue [])
    (other : work.isLoop = false) : s.CarriesOn (s.request work).2 :=
  (carriesOn_spawn s due other).trans (goesOn_request s work).carriesOn

theorem carriesOn_ingest (s : System) (source : String) (metrics : Json) :
    s.CarriesOn (s.ingest source metrics).2 := by
  have requested := @carriesOn_request s (.evaluate source metrics) trivial rfl
  unfold ingest
  split <;> next found => rw [found] at requested; exact requested

theorem carriesOn_evaluateRule (s : System) (rule : Rule) (source : String) (metrics : Json) :
    s.CarriesOn (s.evaluateRule rule source metrics).2 := by
  have examined : s.Goes _ := .examine rule source metrics
  simp only [evaluateRule]
  generalize s.engine.evaluateRule rule source metrics = result at examined ⊢
  obtain ⟨outcome, check, e⟩ := result
  cases check with
  | none => exact .single examined
  | some check =>
    have requested : CarriesOn _ _ :=
      .head examined (goesOn_request (s.withEngine e) (.detect source [check])).carriesOn
    simp only
    split <;> next found => rw [found] at requested; exact requested

/-- A pattern job starts, in the place of the one before. -/
theorem carriesOn_startJob (s : System) (schedule : PatternSchedule) :
    s.CarriesOn (s.startJob schedule) := by
  have job : s.CarriesOn (s.spawn (.patternJob schedule)).2 := carriesOn_spawn s trivial rfl
  simp only [startJob]
  split
  · exact (job.tail (.signal _)).trans
      (carriesOn_of_begins (.of_eq rfl rfl rfl rfl rfl rfl rfl) rfl)
  · exact job.trans (carriesOn_of_begins (.of_eq rfl rfl rfl rfl rfl rfl rfl) rfl)

/-- When no loop has been started before, a start is that of a loop, and then the job starts. -/
theorem carriesOn_start (s : System) (schedule : Option PatternSchedule)
    (idle : s.loopTask = none) :
    (s.spawn (.dispatchLoop s.engine.bus.tail)).2.CarriesOn (s.start schedule) := by
  have loop : (s.spawn (.dispatchLoop s.engine.bus.tail)).2.CarriesOn s.startLoop := by
    simp only [startLoop, show (s.spawn _).2.loopTask = none from idle]
    exact carriesOn_of_begins (.of_eq rfl rfl rfl rfl rfl rfl rfl) rfl
  unfold start isRunning
  rw [idle]
  cases schedule with
  | none => exact loop
  | some schedule => exact loop.trans (carriesOn_startJob ..)

/-- The loop and the job start, when the loop before has come to its end. -/
theorem unfolds_start (s : System) (schedule : Option PatternSchedule)
    (free : s.loopTask = none → ∀ t ∈ s.tasks, t.2.isLoop = false) :
    s.Unfolds (s.start schedule) := by
  cases found : s.loopTask with
  | some id =>
    unfold start isRunning
    rw [found]
    exact .refl
  | none => exact .head (.start (free found)) (carriesOn_start s schedule found).unfolds

/-- The job and the loop are asked to stop and waited for. -/
theorem carriesOn_shutdown (s : System) : s.CarriesOn s.shutdown := by
  unfold shutdown
  split
  · exact .refl
  · exact (@carriesOn_request s (.stop _) trivial rfl).trans
      (carriesOn_of_begins (.of_eq rfl rfl rfl rfl rfl rfl rfl) rfl)

end MetricAlerts.System
