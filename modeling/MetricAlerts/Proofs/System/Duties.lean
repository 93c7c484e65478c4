import MetricAlerts.Proofs.Dispatch.Handovers
import MetricAlerts.Proofs.System.Checks

/-! Tasks on duty. In its turn a task does what there is a duty to do, and what begins then is left
to the background as a duty. The dispatch loop and those who stop it are not among these tasks. -/

namespace MetricAlerts

/-- Whether there is a duty to begin an activity, if it takes one. Events are left to the dispatch
loop. -/
def Work.IsDue (duties : List Duty) : Work → Prop
  | .detect source checks => ∀ check ∈ checks, .rule (.detection check source) ∈ duties
  | .enrich alert => .enrichment alert ∈ duties
  | .feedback alert type => .feedback alert type ∈ duties
  | .dispatch _ => False
  | _ => True

/-- An answer is on its way only if the analyzer has been asked; else it has nothing to say. -/
def PatternRun.IsDue (duties : List Duty) : PatternRun → Prop
  | .asked answer => (∃ history, .patterns history ∈ duties) ∨ answer = .ready .neutral
  | _ => True

/-- Whether there is a duty to do what a task is waiting to do. -/
def Task.IsDue (duties : List Duty) : Task → Prop
  | .fresh work | .held work => work.IsDue duties
  | .evaluation state =>
    (∀ rule ∈ state.rules, .rule (.evaluation rule state.source state.metrics) ∈ duties) ∧
      ∀ check ∈ state.checks, .rule (.detection check state.source) ∈ duties
  | .detection source _ checks =>
    ∀ check ∈ checks.map Prod.fst, .rule (.detection check source) ∈ duties
  | .enrichment alert _ _ => .enrichment alert ∈ duties
  | .feedback alert answer => .feedback alert answer.value.type ∈ duties
  | .patternRun answer => (PatternRun.asked answer).IsDue duties
  | .patternJob state => ∀ run ∈ state.run, run.IsDue duties
  | .dispatch _ => False
  | _ => True

def Work.isLoop : Work → Bool
  | .dispatchLoop _ => true
  | _ => false

/-- Whether a task is a dispatch loop, or comes to be. -/
def Task.isLoop : Task → Bool
  | .fresh work | .held work => work.isLoop
  | .dispatchLoop _ => true
  | _ => false

/-- Whether a task stops loops and jobs, or comes to. -/
def Task.isStop : Task → Bool
  | .fresh (.stop _) | .held (.stop _) | .stopping _ _ => true
  | _ => false

variable {duties later : List Duty}

theorem Engine.Action.IsDue.mono {action : Engine.Action} (due : action.IsDue duties)
    (subset : duties ⊆ later) : action.IsDue later := by
  cases action with
  | evaluate | raise | enrich | giveFeedback => exact subset due
  | announcePatterns =>
    obtain ⟨history, mem⟩ := due
    exact ⟨history, subset mem⟩
  | _ => trivial

theorem Work.IsDue.mono {work : Work} (due : work.IsDue duties) (subset : duties ⊆ later) :
    work.IsDue later := by
  cases work with
  | detect source checks => exact fun check mem => subset (due check mem)
  | enrich | feedback => exact subset due
  | dispatch => exact due
  | _ => trivial

theorem PatternRun.IsDue.mono {run : PatternRun} (due : run.IsDue duties)
    (subset : duties ⊆ later) : run.IsDue later := by
  cases run with
  | asked answer => exact due.imp_left fun ⟨history, mem⟩ => ⟨history, subset mem⟩
  | _ => trivial

theorem Task.IsDue.mono {task : Task} (due : task.IsDue duties) (subset : duties ⊆ later) :
    task.IsDue later := by
  cases task with
  | fresh work | held work => exact Work.IsDue.mono due subset
  | evaluation state =>
    exact ⟨fun rule mem => subset (due.1 rule mem), fun check mem => subset (due.2 check mem)⟩
  | detection source fired checks => exact fun check mem => subset (due check mem)
  | enrichment | feedback => exact subset due
  | patternRun answer =>
    have asked : (PatternRun.asked answer).IsDue duties := due
    exact asked.mono subset
  | patternJob state => exact fun run mem => (due run mem).mono subset
  | dispatch => exact due
  | _ => trivial

namespace System

/-- Whether there is a duty to do what a task waits to do after its turn. -/
def Progress.IsDue (duties : List Duty) : Progress → Prop
  | .waits task => task.IsDue duties ∧ task.isLoop = false
  | .ends _ => True

/-- A part of a watch in which the loop stays as it is, with deeds of some kind, in a system in
which activities begin meanwhile as it is due. -/
structure Cares (allowed : Watch.Deed → Prop) (loop : Option Loop) (stopping : Bool) (s : System)
    (duties : List Duty) (s' : System) (duties' : List Duty) : Prop where
  runs : ∃ trace, Watch.Runs ⟨s.engine, duties, loop, stopping⟩ trace
    ⟨s'.engine, duties', loop, stopping⟩ ∧ ∀ entry ∈ trace, allowed entry.1
  subset : duties ⊆ duties'
  begins : ∃ works, Begins { s with engine := s'.engine } works s' ∧
    ∀ work ∈ works, work.IsDue duties' ∧ work.isLoop = false

variable {allowed : Watch.Deed → Prop} {loop : Option Loop} {stopping : Bool}
  {s s' s'' : System} {duties' duties'' : List Duty} {e : Engine}

theorem Cares.of_begins (begins : s.Begins [] s') (engine : s'.engine = s.engine) :
    Cares allowed loop stopping s duties s' duties := by
  refine ⟨⟨[], engine ▸ .nil _, List.forall_mem_nil _⟩, List.Subset.refl _, [], ?_,
    List.forall_mem_nil _⟩
  rw [engine]
  exact begins

theorem Cares.refl (s : System) (duties : List Duty) :
    Cares allowed loop stopping s duties s duties :=
  .of_begins (.refl s) rfl

theorem Cares.trans (first : Cares allowed loop stopping s duties s' duties')
    (second : Cares allowed loop stopping s' duties' s'' duties'') :
    Cares allowed loop stopping s duties s'' duties'' := by
  obtain ⟨⟨trace, runs, kind⟩, subset, works, begins, due⟩ := first
  obtain ⟨⟨trace', runs', kind'⟩, subset', works', begins', due'⟩ := second
  refine ⟨⟨_, runs.append runs', List.forall_mem_append.mpr ⟨kind, kind'⟩⟩,
    List.Subset.trans subset subset', _, (begins.replace s''.engine).trans begins',
    List.forall_mem_append.mpr ⟨fun work mem => ?_, due'⟩⟩
  obtain ⟨isDue, other⟩ := due work mem
  exact ⟨isDue.mono subset', other⟩

/-- An engine goes on by deeds. -/
theorem Cares.of_runs {trace : List (Watch.Deed × Watch)}
    (runs : Watch.Runs ⟨s.engine, duties, loop, stopping⟩ trace ⟨e, duties', loop, stopping⟩)
    (kind : ∀ entry ∈ trace, allowed entry.1) (subset : duties ⊆ duties') :
    Cares allowed loop stopping s duties (s.withEngine e) duties' := by
  refine ⟨⟨trace, ?_, kind⟩, subset, [], ?_, List.forall_mem_nil _⟩
  · rw [engine_withEngine]
    exact runs
  · rw [engine_withEngine]
    exact begins_replaced s e

/-- Activities begin that there is a duty for. -/
theorem Cares.of_works {works : List Work} (begins : s.Begins works s')
    (engine : s'.engine = s.engine)
    (due : ∀ work ∈ works, work.IsDue duties ∧ work.isLoop = false) :
    Cares allowed loop stopping s duties s' duties := by
  refine ⟨⟨[], engine ▸ .nil _, List.forall_mem_nil _⟩, List.Subset.refl _, works, ?_, due⟩
  rw [engine]
  exact begins

theorem Cares.of_allowed {kind : Watch.Deed → Prop}
    (cares : Cares kind loop stopping s duties s' duties') (h : ∀ deed, kind deed → allowed deed) :
    Cares allowed loop stopping s duties s' duties' := by
  obtain ⟨⟨trace, runs, ofKind⟩, subset, begins⟩ := cares
  exact ⟨⟨trace, runs, fun entry mem => h entry.1 (ofKind entry mem)⟩, subset, begins⟩

/-! Rules at work. -/

theorem exists_runs_evaluateRules {source : String} {metrics : Json} (rules : List Rule)
    (report : EvaluationReport) (e : Engine) (duties : List Duty)
    (due : ∀ rule ∈ rules, .rule (.evaluation rule source metrics) ∈ duties) :
    ∃ trace, Watch.Runs ⟨e, duties, loop, stopping⟩ trace
      ⟨(e.evaluateRules source metrics rules report).2.2,
        duties ++ (e.evaluateRules source metrics rules report).2.1.map fun check =>
          .rule (.detection check source), loop, stopping⟩ ∧ ∀ entry ∈ trace, entry.1.isOwn := by
  induction rules generalizing report e duties with
  | nil =>
    refine ⟨[], ?_, List.forall_mem_nil _⟩
    rw [Engine.evaluateRules, List.map_nil, List.append_nil]
    exact .nil _
  | cons rule rules ih =>
    obtain ⟨first, rest⟩ := List.forall_mem_cons.mp due
    have evaluated : Watch.Step ⟨e, duties, loop, stopping⟩ (.act (.evaluate rule source metrics))
      _ := .act first
    obtain ⟨trace, runs, own⟩ := ih (report.count (e.evaluateRule rule source metrics).1)
      (e.evaluateRule rule source metrics).2.2
      (duties ++ e.duties (.evaluate rule source metrics))
      fun rule mem => List.mem_append_left _ (rest rule mem)
    rw [List.append_assoc, Engine.duties, ← List.map_append] at runs
    exact ⟨_, .cons evaluated runs, List.forall_mem_cons.mpr ⟨rfl, own⟩⟩

theorem exists_runs_raiseAnomalies {check : AnomalyCheck} {source : String}
    (anomalies : List Anomaly) (e : Engine) (duties : List Duty)
    (due : .rule (.detection check source) ∈ duties) :
    ∃ trace, Watch.Runs ⟨e, duties, loop, stopping⟩ trace
      ⟨(Engine.raiseAnomalies check source anomalies e).2,
        duties ++ (Engine.raiseAnomalies check source anomalies e).1.map .enrichment, loop,
        stopping⟩ ∧ ∀ entry ∈ trace, entry.1.isOwn := by
  induction anomalies generalizing e duties with
  | nil =>
    refine ⟨[], ?_, List.forall_mem_nil _⟩
    rw [Engine.raiseAnomalies, List.map_nil, List.append_nil]
    exact .nil _
  | cons anomaly anomalies ih =>
    have raised : Watch.Step ⟨e, duties, loop, stopping⟩ (.act (.raise check source anomaly)) _ :=
      .act due
    obtain ⟨trace, runs, own⟩ := ih (e.after (.raise check source anomaly))
      (duties ++ e.duties (.raise check source anomaly)) (List.mem_append_left _ due)
    rw [List.append_assoc, Engine.duties, ← List.map_append] at runs
    exact ⟨_, .cons raised runs, List.forall_mem_cons.mpr ⟨rfl, own⟩⟩

end System

end MetricAlerts
