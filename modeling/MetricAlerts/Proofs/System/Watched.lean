import MetricAlerts.Proofs.System.DispatchLoop
import MetricAlerts.Proofs.System.Tasks

/-! Systems are on watch. A system that leaves events to its dispatch loop, and runs one loop at a
time, is at each moment where a watch is: the watch has its engine, duties for what its tasks wait
to do, and the loop that one of the tasks carries. Whichever task takes its turn then, the turn is a
part of the watch, and what the transport is handed meanwhile is what the deeds of that part hand
over (`IsWatched.turn`). -/

namespace MetricAlerts.System

/-- A task carries a loop of a watch. -/
inductive Carries : Task → Loop → Bool → Prop
  | fresh (place : Nat) : Carries (.fresh (.dispatchLoop place)) ⟨place, 0, none⟩ false
  | running {state : LoopState} {current : Option Dispatch}
      (same : Matches state.current current) :
      Carries (.dispatchLoop state) ⟨state.place, state.missed, current⟩ state.stopping

/-- Among some tasks there is the loop of a watch, if it has one, and no other. -/
inductive LoopAmong (tasks : List (Nat × Task)) : Option Loop → Bool → Prop
  | off (free : ∀ t ∈ tasks, t.2.isLoop = false) : LoopAmong tasks none false
  | on {id : Nat} {task : Task} {loop : Loop} {stopping : Bool} (mem : (id, task) ∈ tasks)
      (carries : Carries task loop stopping) (single : ∀ t ∈ tasks, t.2.isLoop → t.1 = id) :
      LoopAmong tasks (some loop) stopping

/-- A system is on a watch. -/
structure IsWatched (s : System) (w : Watch) : Prop where
  engine : w.engine = s.engine
  numbered : s.IsNumbered
  due : ∀ t ∈ s.tasks, t.2.IsDue w.duties
  loop : LoopAmong s.tasks w.loop w.stopping

/-- Between the one system and the other there is a part of a watch. The transport is handed what
its deeds hand over, of which nothing is lost, and everything is done in an orderly way unless the
loop ends. -/
structure Passage (s : System) (w : Watch) (trace : List (Watch.Deed × Watch)) (s' : System)
    (w' : Watch) : Prop where
  runs : Watch.Runs w trace w'
  watched : s'.IsWatched w'
  handed : s'.notifications = s.notifications ++ Watch.notifications trace
  balanced : s.IsBalanced → s'.IsBalanced
  orderly : (w.loop.isSome → w'.loop.isSome) → ∀ entry ∈ trace, entry.1.isOrderly

variable {s s' s'' : System} {w w' : Watch} {id : Nat} {task : Task} {tasks : List (Nat × Task)}
  {loop : Loop} {running : Option Loop} {stopping : Bool} {duties : List Duty}
  {progress : Progress} {works : List Work} {e : Engine} {trace : List (Watch.Deed × Watch)}

theorem Carries.isLoop (carries : Carries task loop stopping) : task.isLoop := by
  cases carries <;> rfl

theorem LoopAmong.number_eq (among : LoopAmong tasks running stopping) {t t' : Nat × Task}
    (mem : t ∈ tasks) (isLoop : t.2.isLoop) (mem' : t' ∈ tasks) (isLoop' : t'.2.isLoop) :
    t.1 = t'.1 := by
  cases among with
  | off free =>
    rw [free t mem] at isLoop
    cases isLoop
  | on _ _ single => exact (single t mem isLoop).trans (single t' mem' isLoop').symm

/-! Activities begin. -/

theorem LoopAmong.begins (among : LoopAmong tasks running stopping) (next : Nat)
    (others : ∀ work ∈ works, work.isLoop = false) :
    LoopAmong (tasks ++ freshTasks next works) running stopping := by
  have fresh : ∀ t ∈ freshTasks next works, t.2.isLoop = false := by
    intro t mem
    obtain ⟨work, hw, found⟩ := mem_freshTasks mem
    exact found ▸ others work hw
  cases among with
  | off free => exact .off (List.forall_mem_append.mpr ⟨free, fresh⟩)
  | on mem carries single =>
    refine .on (List.mem_append_left _ mem) carries (List.forall_mem_append.mpr ⟨single, ?_⟩)
    intro t mem isLoop
    rw [fresh t mem] at isLoop
    cases isLoop

/-- Activities begin that there are duties for, whatever the engine does meanwhile. -/
theorem IsWatched.spawns (h : s.IsWatched w) (spawns : Spawns { s with engine := e } works s')
    (engine : s'.engine = e) (subset : w.duties ⊆ duties)
    (due : ∀ work ∈ works, work.IsDue duties ∧ work.isLoop = false) :
    s'.IsWatched { w with engine := e, duties } where
  engine := engine.symm
  numbered := spawns.isNumbered ⟨h.numbered.nodup, h.numbered.below⟩
  due := by
    rw [spawns.tasks]
    refine List.forall_mem_append.mpr ⟨fun t mem => (h.due t mem).mono subset, fun t mem => ?_⟩
    obtain ⟨work, hw, found⟩ := mem_freshTasks mem
    rw [found]
    exact (due work hw).1
  loop := by
    rw [spawns.tasks]
    exact h.loop.begins _ fun work mem => (due work mem).2

/-- Nothing is handed over, and nothing under way changes. -/
theorem Passage.of_leavesMail (leaves : s.LeavesMail s') (runs : Watch.Runs w trace w')
    (watched : s'.IsWatched w') (quiet : Watch.IsQuiet trace) : Passage s w trace s' w' where
  runs := runs
  watched := watched
  handed := by rw [quiet.notifications_eq_nil, List.append_nil, leaves.notifications]
  balanced := leaves.isBalanced
  orderly _ entry mem := (quiet entry mem).1

theorem Passage.of_leaves_left (leaves : s.LeavesMail s') (passage : Passage s' w trace s'' w') :
    Passage s w trace s'' w' :=
  { passage with
    handed := leaves.notifications ▸ passage.handed
    balanced := fun h => passage.balanced (leaves.isBalanced h) }

/-- A task that tends to its own work leaves the system on watch. -/
theorem IsWatched.tends (h : s.IsWatched w)
    (tends : Tends w.loop w.stopping s w.duties s' duties) :
    ∃ trace, Passage s w trace s' { w with engine := s'.engine, duties } := by
  obtain ⟨⟨trace, runs, own⟩, subset, works, begins, due⟩ := tends
  rw [← h.engine] at runs
  exact ⟨trace, .of_leavesMail begins.leavesMail.of_engine runs
    (h.spawns begins.toSpawns rfl subset due) (Watch.isQuiet_of_isOwn own)⟩

/-! A task comes to wait or to its end. -/

theorem IsNumbered.eq_of_mem (h : s.IsNumbered) {t t' : Nat × Task} (mem : t ∈ s.tasks)
    (mem' : t' ∈ s.tasks) (same : t.1 = t'.1) : t = t' :=
  List.inj_on_of_nodup_map h.nodup mem mem' same

theorem mem_place_of_ne {t : Nat × Task} (mem : t ∈ tasks) (ne : t.1 ≠ id)
    (progress : Progress) : t ∈ progress.place id tasks := by
  cases progress with
  | waits task => exact List.mem_map.mpr ⟨t, mem, if_neg ne⟩
  | ends value => exact List.mem_filter.mpr ⟨mem, by simpa using ne⟩

theorem tasks_conclude (id : Nat) (progress : Progress) (s : System) :
    (conclude id (progress, s)).tasks = progress.place id s.tasks :=
  (begins_conclude id (progress, s)).tasks_eq

theorem engine_conclude (id : Nat) (progress : Progress) (s : System) :
    (conclude id (progress, s)).engine = s.engine := by
  cases progress with
  | waits task => rfl
  | ends value => exact engine_finish ..

/-- When a task has had its turn, what is left to see to is the loop. -/
theorem IsWatched.conclude_of_loop (h : s.IsWatched w) (due : ∀ task, progress = .waits task →
      task.IsDue w.duties) (id : Nat) {w' : Watch} (engine : w'.engine = w.engine)
    (same : w'.duties = w.duties)
    (among : LoopAmong (progress.place id s.tasks) w'.loop w'.stopping) :
    (conclude id (progress, s)).IsWatched w' where
  engine := by rw [engine, h.engine, engine_conclude]
  numbered :=
    (begins_conclude id (progress, s)).isNumbered (isNumbered_place h.numbered id progress)
  due := by
    rw [tasks_conclude, same]
    intro t mem
    obtain ⟨-, waits⟩ | ⟨-, old⟩ := mem_place mem
    · exact due t.2 waits
    · exact h.due t old
  loop := by
    rw [tasks_conclude]
    exact among

theorem LoopAmong.place (among : LoopAmong tasks running stopping)
    (own : ∀ t ∈ tasks, t.1 = id → t.2.isLoop = false)
    (other : ∀ task, progress = .waits task → task.isLoop = false) :
    LoopAmong (progress.place id tasks) running stopping := by
  cases among with
  | off free =>
    refine .off fun t mem => ?_
    obtain ⟨-, waits⟩ | ⟨-, old⟩ := mem_place mem
    · exact other t.2 waits
    · exact free t old
  | @on loopId task loop _ mem carries single =>
    have ne : loopId ≠ id := by
      intro same
      have none := own _ mem same
      rw [carries.isLoop] at none
      cases none
    refine .on (mem_place_of_ne mem ne progress) carries fun t mem isLoop => ?_
    obtain ⟨-, waits⟩ | ⟨-, old⟩ := mem_place mem
    · rw [other t.2 waits] at isLoop
      cases isLoop
    · exact single t old isLoop

/-- A task that is not the loop has had its turn. -/
theorem IsWatched.conclude (h : s.IsWatched w) (mem : (id, task) ∈ s.tasks)
    (other : task.isLoop = false) (due : progress.IsDue w.duties) :
    (conclude id (progress, s)).IsWatched w := by
  have waits : ∀ task, progress = .waits task → task.IsDue w.duties ∧ task.isLoop = false := by
    rintro task rfl
    exact due
  refine h.conclude_of_loop (fun task found => (waits task found).1) id rfl rfl
    (h.loop.place ?_ fun task found => (waits task found).2)
  intro t hMem same
  obtain rfl := h.numbered.eq_of_mem hMem mem same
  exact other

/-! The loop is asked to stop. -/

theorem isLoop_heed (task : Task) : (heed task).isLoop = task.isLoop := by
  cases task <;> rfl

theorem isDue_heed (due : task.IsDue duties) : (heed task).IsDue duties := by
  cases task <;> exact due

theorem mem_signal {t : Nat × Task} (mem : t ∈ s.tasks) (deaf : heed t.2 = t.2) (id : Nat) :
    t ∈ (s.signal id).tasks := by
  rw [(begins_signal s id).tasks_eq]
  refine List.mem_map.mpr ⟨t, mem, ?_⟩
  rw [heedAs]
  split
  · rw [deaf]
  · rfl

/-- Of all tasks that may be asked to stop it is the loop that the watch cares for. -/
theorem LoopAmong.signal (among : LoopAmong tasks running stopping) (id : Nat) :
    LoopAmong (tasks.map (heedAs id)) running stopping ∨
      running.isSome ∧ LoopAmong (tasks.map (heedAs id)) running true := by
  have same : ∀ t, (heedAs id t).2.isLoop = t.2.isLoop := by
    intro t
    rw [heedAs]
    split
    · exact isLoop_heed t.2
    · rfl
  cases among with
  | off free =>
    refine .inl (.off fun t mem => ?_)
    obtain ⟨old, hOld, rfl⟩ := List.mem_map.mp mem
    rw [same]
    exact free old hOld
  | @on loopId task loop _ mem carries single =>
    have own : (loopId, (heedAs id (loopId, task)).2) ∈ tasks.map (heedAs id) :=
      List.mem_map.mpr ⟨_, mem, Prod.ext (fst_heedAs ..) rfl⟩
    have still : ∀ t ∈ tasks.map (heedAs id), t.2.isLoop → t.1 = loopId := by
      intro t hMem isLoop
      obtain ⟨old, hOld, rfl⟩ := List.mem_map.mp hMem
      rw [same] at isLoop
      rw [fst_heedAs]
      exact single old hOld isLoop
    by_cases asked : loopId = id
    · rw [show (heedAs id (loopId, task)).2 = heed task by rw [heedAs, if_pos asked]] at own
      cases carries with
      | fresh place => exact .inl (.on own (.fresh place) still)
      | running matching => exact .inr ⟨rfl, .on own (.running matching) still⟩
    · rw [show (heedAs id (loopId, task)).2 = task by rw [heedAs, if_neg asked]] at own
      exact .inl (.on own carries still)

/-- A task is asked to stop. -/
theorem IsWatched.signal (h : s.IsWatched w) (id : Nat) :
    ∃ trace stopping, Watch.Runs w trace { w with stopping } ∧ Watch.IsQuiet trace ∧
      (s.signal id).IsWatched { w with stopping } := by
  have begins := begins_signal s id
  have numbered := begins.isNumbered (isNumbered_heedAs h.numbered id)
  have engine : w.engine = (s.signal id).engine := h.engine.trans (engine_signal s id).symm
  have due : ∀ t ∈ (s.signal id).tasks, t.2.IsDue w.duties := by
    rw [begins.tasks_eq]
    intro t mem
    obtain ⟨old, hOld, rfl⟩ := List.mem_map.mp mem
    rw [heedAs]
    split
    · exact isDue_heed (h.due old hOld)
    · exact h.due old hOld
  obtain still | ⟨isSome, asked⟩ := h.loop.signal id
  · exact ⟨[], w.stopping, .nil w, List.forall_mem_nil _, engine, numbered, due,
      begins.tasks_eq ▸ still⟩
  · exact ⟨_, true, .cons (.shutdown isSome) (.nil _), List.forall_mem_singleton.mpr ⟨rfl, rfl⟩,
      engine, numbered, due, begins.tasks_eq ▸ asked⟩

/-- Loops and jobs are asked to stop one after another. -/
theorem IsWatched.runStop (h : s.IsWatched w) (current : Nat) (later : List Nat)
    {t : Nat × Task} (mem : t ∈ s.tasks) (deaf : heed t.2 = t.2) :
    ∃ trace stopping, Watch.Runs w trace { w with stopping } ∧ Watch.IsQuiet trace ∧
      (s.runStop current later).2.IsWatched { w with stopping } ∧
      t ∈ (s.runStop current later).2.tasks ∧ (s.runStop current later).1.IsDue w.duties := by
  induction later generalizing s w current with
  | nil =>
    unfold System.runStop
    split
    · exact ⟨[], w.stopping, .nil w, List.forall_mem_nil _, h, mem, trivial, rfl⟩
    · exact ⟨[], w.stopping, .nil w, List.forall_mem_nil _, h, mem, trivial⟩
  | cons next later ih =>
    unfold System.runStop
    split
    · exact ⟨[], w.stopping, .nil w, List.forall_mem_nil _, h, mem, trivial, rfl⟩
    · obtain ⟨trace, stopping, runs, quiet, watched⟩ := h.signal next
      obtain ⟨trace', stopping', runs', quiet', rest⟩ := ih watched next (mem_signal mem deaf next)
      exact ⟨trace ++ trace', stopping', runs.append runs', quiet.append quiet', rest⟩

/-! Turns. -/

/-- Nothing happens but scheduling. -/
theorem IsWatched.arranged (h : s.IsWatched w) (begins : s.Begins [] s')
    (engine : s'.engine = s.engine) : s'.IsWatched w where
  engine := h.engine.trans engine.symm
  numbered := begins.isNumbered h.numbered
  due := begins.tasks_eq ▸ h.due
  loop := begins.tasks_eq ▸ h.loop

/-- Feedback that a move gives cause for is left to the background as a duty. -/
theorem isDue_of_moves {moves : List Loop.Move} {work : Work}
    (mem : work ∈ moves.filterMap Loop.Move.work?) :
    work.IsDue (moves.flatMap Loop.Move.duties) ∧ work.isLoop = false := by
  obtain ⟨move, hMove, found⟩ := List.mem_filterMap.mp mem
  cases move with
  | deliver event channel =>
    rw [Loop.Move.work?, feedbackFor?] at found
    split at found
    · next alert type gives =>
      cases found
      refine ⟨List.mem_flatMap.mpr ⟨_, hMove, ?_⟩, rfl⟩
      rw [Loop.Move.duties, gives]
      exact List.mem_singleton.mpr rfl
    · cases found
  | _ => cases found

/-- The task of a loop goes from event to event. -/
theorem Carries.exists_runLoop (carries : Carries task loop stopping) (s : System) :
    ∃ fuel state current, s.goOn task = runLoop fuel state s ∧
      loop = ⟨state.place, state.missed, current⟩ ∧ Matches state.current current ∧
      state.stopping = stopping ∧ task.inTransit = (Task.dispatchLoop state).inTransit := by
  cases carries with
  | fresh place => exact ⟨_, ⟨place, 0, false, none⟩, none, rfl, rfl, .idle, rfl, rfl⟩
  | @running state current same => exact ⟨_, state, current, rfl, rfl, same, rfl, rfl⟩

/-- The loop takes its turn. -/
theorem IsWatched.turn_of_loop (h : s.IsWatched w) (mem : (id, task) ∈ s.tasks)
    (isLoop : task.isLoop) :
    ∃ trace w', Passage s w trace (System.conclude id (s.goOn task)) w' := by
  obtain ⟨e, duties, running, stopping⟩ := w
  obtain rfl : e = s.engine := h.engine
  have among : LoopAmong s.tasks running stopping := h.loop
  cases among with
  | off free =>
    rw [free _ mem] at isLoop
    cases isLoop
  | @on loopId own loop _ hOwn carries single =>
    obtain rfl : id = loopId := single _ mem isLoop
    cases h.numbered.eq_of_mem mem hOwn rfl
    obtain ⟨fuel, state, current, hGoOn, rfl, same, rfl, hTransit⟩ := carries.exists_runLoop s
    obtain ⟨loop', ⟨post, ⟨moves, rounds, spawns, hPost⟩, mails⟩, isAt⟩ :=
      moves_runLoop fuel state s same
    obtain ⟨trace, runs, deeds⟩ := Watch.runs_of_rounds rounds duties state.stopping
    rw [← hTransit] at mails
    rw [hGoOn]
    generalize runLoop fuel state s = result at spawns mails runs isAt ⊢
    obtain ⟨progress, later⟩ := result
    let duties' := duties ++ moves.flatMap Loop.Move.duties
    have moved : later.IsWatched ⟨later.engine, duties', _, state.stopping⟩ :=
      h.spawns (spawns.replace later.engine) rfl (List.subset_append_left ..) fun work mem =>
        (isDue_of_moves mem).imp_left fun due => due.mono (List.subset_append_right ..)
    have kept : (id, task) ∈ later.tasks := spawns.tasks ▸ List.mem_append_left _ mem
    have lone : ∀ t ∈ later.tasks, t.2.isLoop → t.1 = id := fun t hMem hLoop =>
      moved.loop.number_eq hMem hLoop kept isLoop
    have handed : (System.conclude id (progress, later)).notifications =
        s.notifications ++ Watch.notifications trace := by
      rw [Watch.notifications_of_moves deeds, ← hPost, ← mails.notifications]
      exact (begins_conclude id (progress, later)).leavesMail.notifications
    have balanced : s.IsBalanced → (System.conclude id (progress, later)).IsBalanced :=
      mails.isBalanced h.numbered mem (spawns.replace later.engine)
    cases progress with
    | waits after =>
      cases after with
      | dispatchLoop state' =>
        obtain ⟨place, missed, current'⟩ := loop'
        obtain ⟨rfl, rfl, hStopping, same'⟩ := isAt
        refine ⟨trace, _, runs, moved.conclude_of_loop ?_ id rfl rfl ?_, handed, balanced,
          fun _ => Watch.isOrderly_of_moves deeds⟩
        · rintro _ ⟨⟩
          trivial
        · rw [← hStopping]
          refine .on (List.mem_map.mpr ⟨_, kept, if_pos rfl⟩) (.running same')
            fun t hMem hLoop => ?_
          obtain ⟨hId, -⟩ | ⟨-, old⟩ := mem_place hMem
          · exact hId
          · exact lone t old hLoop
      | _ => exact isAt.elim
    | ends value =>
      obtain ⟨idle, stopping⟩ := isAt
      refine ⟨_, _, runs.append (.cons (.stop rfl idle stopping) (.nil _)),
        moved.conclude_of_loop (by rintro _ ⟨⟩) id rfl rfl (.off fun t hMem => ?_), ?_, balanced,
        fun lasting => nomatch lasting rfl⟩
      · obtain ⟨-, waits⟩ | ⟨ne, old⟩ := mem_place hMem
        · cases waits
        · exact Bool.eq_false_iff.mpr fun hLoop => ne (lone t old hLoop)
      · rw [handed, Watch.notifications_append]
        exact congrArg (s.notifications ++ ·) (List.append_nil _).symm

/-- Only loops, and activities that leave no watch, have notifications under way. -/
theorem inTransit_of_isDue (due : task.IsDue duties) (other : task.isLoop = false) :
    task.inTransit = [] := by
  cases task with
  | dispatch => exact due.elim
  | dispatchLoop => cases other
  | _ => rfl

theorem inTransit_of_due (due : progress.IsDue duties) : progress.inTransit = [] := by
  cases progress with
  | waits task => exact inTransit_of_isDue due.1 due.2
  | ends => rfl

/-- Another task has done what there was to do, and has had its turn. -/
theorem Passage.conclude (passage : Passage s w trace s' w') (mem : (id, task) ∈ s'.tasks)
    (other : task.isLoop = false) (due : progress.IsDue w'.duties) :
    Passage s w trace (System.conclude id (progress, s')) w' := by
  have leaves : s'.LeavesMail (System.conclude id (progress, s')) :=
    leavesMail_conclude passage.watched.numbered mem
      (inTransit_of_isDue (passage.watched.due _ mem) other) (inTransit_of_due due)
  exact { passage with
    watched := passage.watched.conclude mem other due
    handed := leaves.notifications.trans passage.handed
    balanced := fun h => leaves.isBalanced (passage.balanced h) }

/-- A task that stops loops and jobs takes its turn. -/
theorem IsWatched.turn_of_stop (h : s.IsWatched w) (mem : (id, task) ∈ s.tasks)
    (isStop : task.isStop) :
    ∃ trace w', Passage s w trace (System.conclude id (s.goOn task)) w' := by
  have goes : ∀ current later, heed task = task → s.goOn task = s.runStop current later →
      task.isLoop = false →
      ∃ trace w', Passage s w trace (System.conclude id (s.goOn task)) w' := by
    intro current later deaf hGoOn other
    obtain ⟨trace, stopping, runs, quiet, watched, mem', due⟩ := h.runStop current later mem deaf
    rw [hGoOn]
    exact ⟨trace, _, .conclude
      (.of_leavesMail (leavesMail_runStop current later s) runs watched quiet) mem' other due⟩
  have begins : ∀ ids, heed task = task → s.goOn task = s.startWork (.stop ids) →
      task.isLoop = false →
      ∃ trace w', Passage s w trace (System.conclude id (s.goOn task)) w' := by
    intro ids deaf hGoOn other
    rw [hGoOn]
    cases ids with
    | nil =>
      exact ⟨[], w, .conclude (.of_leavesMail (.refl s) (.nil w) h (List.forall_mem_nil _)) mem
        other trivial⟩
    | cons first later =>
      obtain ⟨trace, stopping, runs, quiet, watched⟩ := h.signal first
      obtain ⟨trace', stopping', runs', quiet', watched', mem', due⟩ :=
        watched.runStop first later (mem_signal mem deaf first) deaf
      have leaves := (leavesMail_signal s first).trans (leavesMail_runStop first later _)
      exact ⟨_, _, .conclude
        (.of_leavesMail leaves (runs.append runs') watched' (quiet.append quiet')) mem' other due⟩
  cases task with
  | fresh work =>
    cases work with
    | stop ids => exact begins ids rfl rfl rfl
    | _ => cases isStop
  | held work =>
    cases work with
    | stop ids => exact begins ids rfl rfl rfl
    | _ => cases isStop
  | stopping current later => exact goes current later rfl rfl rfl
  | _ => cases isStop

/-- Any task takes its turn. -/
theorem IsWatched.turn (h : s.IsWatched w) (id : Nat) :
    ∃ trace w', Passage s w trace (s.turn id) w' := by
  cases hTask : s.task? id with
  | none =>
    simp only [System.turn, hTask]
    exact ⟨[], w, .of_leavesMail (.refl s) (.nil w) h (List.forall_mem_nil _)⟩
  | some task =>
    obtain ⟨begun, hasBegun, hTurn⟩ := turn_eq_conclude hTask
    rw [hTurn]
    have watched := h.arranged hasBegun.begins hasBegun.engine
    have mem : (id, task) ∈ begun.tasks := hasBegun.tasks ▸ mem_of_task? hTask
    have turned : ∃ trace w', Passage begun w trace (System.conclude id (begun.goOn task)) w' := by
      cases isLoop : task.isLoop with
      | true => exact watched.turn_of_loop mem isLoop
      | false =>
        cases isStop : task.isStop with
        | true => exact watched.turn_of_stop mem isStop
        | false =>
          obtain ⟨duties, tends, due⟩ := @isTended_goOn w.duties w.loop w.stopping task begun
            (watched.due _ mem) isLoop isStop
          obtain ⟨trace, passage⟩ := watched.tends tends
          obtain ⟨works, begins, -⟩ := tends.begins
          refine ⟨trace, _, passage.conclude ?_ isLoop due⟩
          rw [begins.tasks]
          exact List.mem_append_left _ mem
    obtain ⟨trace, w', passage⟩ := turned
    exact ⟨trace, w', .of_leaves_left hasBegun.begins.leavesMail passage⟩

end MetricAlerts.System
