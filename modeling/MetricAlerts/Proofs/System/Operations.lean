import Mathlib.Logic.Relation
import MetricAlerts.Proofs.System.Begins

/-! What happens in a system while nobody asks it for anything, in the background, and on request.
Whatever is done by running a system is done by such steps. -/

namespace MetricAlerts

def Work.isEvaluation : Work → Bool
  | .evaluate _ _ => true
  | _ => false

/-- Whether a task is the evaluation of a snapshot, or comes to be. -/
def Task.isEvaluation : Task → Bool
  | .fresh work | .held work => work.isEvaluation
  | .evaluation _ => true
  | _ => false

namespace System

variable {s s' : System}

/-- What happens while nobody asks for anything: tasks take their turns in any order, time goes on,
and queues change. -/
inductive Unattended (s : System) : System → Prop
  | turn (id : Nat) : Unattended s (s.turn id)
  | arrange {s' : System} (begins : s.Begins [] s') (engine : s'.engine = s.engine) :
      Unattended s s'

/-- One thing after another while nobody asks for anything. -/
abbrev GoesOn : System → System → Prop := Relation.ReflTransGen Unattended

theorem goesOn_of_begins (begins : s.Begins [] s') (engine : s'.engine = s.engine) :
    s.GoesOn s' :=
  .single (.arrange begins engine)

theorem goesOn_takeTurn (s : System) (id : Nat) : s.GoesOn (s.takeTurn id) := by
  have first : s.GoesOn { s with ready := s.ready.erase id } :=
    goesOn_of_begins (.of_eq rfl rfl rfl rfl rfl rfl rfl) rfl
  have turned := first.tail (.turn id)
  simp only [takeTurn]
  split
  · exact turned.trans (goesOn_of_begins (.of_eq rfl rfl rfl rfl rfl rfl rfl) rfl)
  · exact turned

theorem goesOn_resumeDeferred (s : System) : s.GoesOn s.resumeDeferred := by
  refine goesOn_of_begins (.nil_trans ?_ (begins_wakeStrands ..)) (engine_wakeStrands ..)
  exact .of_eq rfl rfl rfl rfl rfl rfl rfl

theorem goesOn_settle (fuel left : Nat) (s : System) : s.GoesOn (settle fuel left s) := by
  induction fuel generalizing left s with
  | zero => exact .refl
  | succ fuel ih =>
    unfold settle
    split
    · exact (goesOn_takeTurn ..).trans (ih ..)
    · split
      · exact .refl
      · have resumed := goesOn_resumeDeferred s
        simp only
        split
        · exact (resumed.trans (goesOn_takeTurn ..)).trans (ih ..)
        · exact resumed.trans (ih ..)

theorem goesOn_settled (s : System) : s.GoesOn s.settled := goesOn_settle ..

theorem goesOn_moveTo (s : System) (time : Nat) : s.GoesOn (s.moveTo time) := by
  refine goesOn_of_begins (.nil_trans ?_ (begins_wakeAll ..)) (engine_wakeAll ..)
  exact .of_eq rfl rfl rfl rfl rfl rfl rfl

theorem goesOn_advanceTo (target fuel : Nat) (s : System) : s.GoesOn (advanceTo target fuel s) := by
  induction fuel generalizing s with
  | zero => exact (goesOn_moveTo ..).trans (goesOn_settled _)
  | succ fuel ih =>
    unfold advanceTo
    split
    · split
      · exact ((goesOn_moveTo ..).trans (goesOn_settled _)).trans (ih _)
      · exact (goesOn_moveTo ..).trans (goesOn_settled _)
    · exact (goesOn_moveTo ..).trans (goesOn_settled _)

/-- Time goes on, and the tasks with it. -/
theorem goesOn_advance (s : System) (duration : Nat) : s.GoesOn (s.advance duration) :=
  goesOn_advanceTo ..

theorem goesOn_awaitResult (fuel : Nat) (s : System) : s.GoesOn (awaitResult fuel s) := by
  induction fuel generalizing s with
  | zero => exact .refl
  | succ fuel ih =>
    have settled := goesOn_settled s
    simp only [awaitResult]
    split
    · exact settled
    · split
      · exact settled.trans ((goesOn_moveTo ..).trans (ih _))
      · exact settled

/-- An activity is waited for while all others go on. -/
theorem goesOn_request (s : System) (work : Work) : (s.spawn work).2.GoesOn (s.request work).2 := by
  have awaited : (s.spawn work).2.GoesOn
      { (s.spawn work).2 with foreground := some s.nextTask, result := none } :=
    goesOn_of_begins (.of_eq rfl rfl rfl rfl rfl rfl rfl) rfl
  exact (awaited.trans (goesOn_awaitResult ..)).trans
    (goesOn_of_begins (.of_eq rfl rfl rfl rfl rfl rfl rfl) rfl)

/-! In the background. -/

/-- What goes on in the background: activities that evaluate nothing begin, loops and jobs are asked
to stop, and clients come, are served and go. -/
inductive Background (s : System) : System → Prop
  | unattended {s' : System} (goes : s.Unattended s') : Background s s'
  | signal (id : Nat) : Background s (s.signal id)
  | begins {works : List Work} {s' : System} (begins : s.Begins works s')
      (others : ∀ work ∈ works, work.isEvaluation = false) : Background s s'

/-- One thing after another in the background. -/
abbrev WorksOn : System → System → Prop := Relation.ReflTransGen Background

theorem GoesOn.worksOn (goesOn : s.GoesOn s') : s.WorksOn s' :=
  Relation.ReflTransGen.mono (fun _ _ => .unattended) _ _ goesOn

theorem worksOn_of_begins (begins : s.Begins [] s') : s.WorksOn s' :=
  .single (.begins begins (List.forall_mem_nil _))

theorem worksOn_spawn (s : System) {work : Work} (other : work.isEvaluation = false) :
    s.WorksOn (s.spawn work).2 :=
  .single (.begins (begins_spawn s work) (List.forall_mem_singleton.mpr other))

theorem worksOn_request (s : System) {work : Work} (other : work.isEvaluation = false) :
    s.WorksOn (s.request work).2 :=
  (worksOn_spawn s other).trans (GoesOn.worksOn (goesOn_request s work))

/-- A loop or job begins, in the place of the one before. -/
theorem worksOn_replace (s : System) {work : Work} (other : work.isEvaluation = false)
    (old : Option Nat) :
    s.WorksOn (match old with
      | some old => (s.spawn work).2.signal old
      | none => (s.spawn work).2) := by
  cases old with
  | none => exact worksOn_spawn s other
  | some old => exact (worksOn_spawn s other).tail (.signal old)

theorem worksOn_startLoop (s : System) : s.WorksOn s.startLoop := by
  refine (@worksOn_replace s (.dispatchLoop s.engine.bus.tail) rfl s.loopTask).trans ?_
  exact worksOn_of_begins (.of_eq rfl rfl rfl rfl rfl rfl rfl)

theorem worksOn_startJob (s : System) (schedule : PatternSchedule) :
    s.WorksOn (s.startJob schedule) := by
  refine (@worksOn_replace s (.patternJob schedule) rfl s.jobTask).trans ?_
  exact worksOn_of_begins (.of_eq rfl rfl rfl rfl rfl rfl rfl)

theorem worksOn_stopLoop (s : System) : s.WorksOn s.stopLoop.2 := by
  unfold stopLoop
  split
  · exact .refl
  · exact (worksOn_request s rfl).trans (worksOn_of_begins (.of_eq rfl rfl rfl rfl rfl rfl rfl))

theorem worksOn_stopJob (s : System) : s.WorksOn s.stopJob := by
  unfold stopJob
  split
  · exact .refl
  · exact worksOn_request s rfl

theorem worksOn_start (s : System) (schedule : Option PatternSchedule) :
    s.WorksOn (s.start schedule) := by
  unfold start
  split
  · exact .refl
  · split
    · exact (worksOn_startLoop s).trans (worksOn_startJob ..)
    · exact worksOn_startLoop s

theorem worksOn_shutdown (s : System) : s.WorksOn s.shutdown := by
  unfold shutdown
  split
  · exact .refl
  · exact (worksOn_request s rfl).trans (worksOn_of_begins (.of_eq rfl rfl rfl rfl rfl rfl rfl))

/-! On request. -/

/-- A request to an engine: something that it does at once, or a snapshot, which is evaluated rule
by rule. -/
inductive Operation where
  | act (action : Engine.Action)
  | ingest (source : String) (metrics : Json)

/-- The engine after an operation. -/
def Operation.on (e : Engine) : Operation → Engine
  | .act action => e.after action
  | .ingest source metrics => (e.evaluate source metrics).2.2

/-- No snapshot is being evaluated. -/
def IsIdle (s : System) : Prop := ∀ t ∈ s.tasks, t.2.isEvaluation = false

instance (s : System) : Decidable s.IsIdle :=
  inferInstanceAs (Decidable (∀ t ∈ s.tasks, t.2.isEvaluation = false))

/-- A run with one operation after another: the next one comes when the snapshot before has been
evaluated, but whatever else is under way. -/
inductive Runs (s : System) : List Operation → System → Prop
  | nil : Runs s [] s
  | background {operations : List Operation} {t t' : System} (runs : Runs s operations t)
      (goesOn : t.Background t') : Runs s operations t'
  | act {operations : List Operation} {t : System} (runs : Runs s operations t) (idle : t.IsIdle)
      (action : Engine.Action) :
      Runs s (operations ++ [.act action]) (t.withEngine (t.engine.after action))
  | ingest {operations : List Operation} {t : System} (runs : Runs s operations t)
      (idle : t.IsIdle) (source : String) (metrics : Json) :
      Runs s (operations ++ [.ingest source metrics]) (t.spawn (.evaluate source metrics)).2

theorem Runs.worksOn {operations : List Operation} {t t' : System} (runs : s.Runs operations t)
    (worksOn : t.WorksOn t') : s.Runs operations t' := by
  induction worksOn with
  | refl => exact runs
  | tail _ goesOn ih => exact ih.background goesOn

/-- A snapshot is handed in, and its evaluation is waited for. -/
theorem runs_ingest {operations : List Operation} {t : System} (runs : s.Runs operations t)
    (idle : t.IsIdle) (source : String) (metrics : Json) :
    s.Runs (operations ++ [.ingest source metrics]) (t.ingest source metrics).2 := by
  have requested := (runs.ingest idle source metrics).worksOn
    (GoesOn.worksOn (goesOn_request t (.evaluate source metrics)))
  unfold System.ingest
  split <;> next found => rw [found] at requested; exact requested

/-- A rule is evaluated on its own, and the check that it leaves is waited for. -/
theorem runs_evaluateRule {operations : List Operation} {t : System} (runs : s.Runs operations t)
    (idle : t.IsIdle) (rule : Rule) (source : String) (metrics : Json) :
    s.Runs (operations ++ [.act (.evaluate rule source metrics)])
      (t.evaluateRule rule source metrics).2 := by
  have evaluated := runs.act idle (.evaluate rule source metrics)
  simp only [System.evaluateRule]
  split
  · exact evaluated
  · next check _ =>
    have requested := evaluated.worksOn (@worksOn_request _ (.detect source [check]) rfl)
    split <;> next found => rw [Engine.after, found] at requested; exact requested

/-- A system in which nothing has happened yet. -/
def initial (engine : Engine) (analyzer : Analyzer) (callLimit : Nat) : System where
  engine := engine
  analyzer := analyzer
  transport := .reliable
  callLimit := callLimit
  historyWindow := 0
  calls := #[]
  sent := #[]
  time := 0
  tasks := []
  ready := []
  deferred := []
  awake := []
  gate := .empty
  current := 0
  visits := 0
  nextTask := 0
  nextWait := 0
  foreground := none
  result := none
  looks := 0
  loopTask := none
  jobTask := none

end System

end MetricAlerts
