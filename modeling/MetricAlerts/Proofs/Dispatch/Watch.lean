import MetricAlerts.Proofs.Dispatch.Loop
import MetricAlerts.Proofs.Engine.Agreement
import MetricAlerts.Proofs.Engine.Undertakings
import MetricAlerts.System.Script

/-! An engine that keeps watch, with the work that it has left to the background and its dispatch
loop, which starts and stops. Requests and snapshots come, work in the background is done and the
loop moves at any time and in any order. What the analyzer answers is up to the analyzer. -/

namespace MetricAlerts

/-- What is left to the background. -/
inductive Duty where
  | rule (undertaking : Undertaking)
  | enrichment (alert : Alert)
  | feedback (alert : Alert) (type : FeedbackType)
  /-- Patterns are to be announced if the analyzer has noticed any in these entries. -/
  | patterns (history : List Alert)

/-- The kind of feedback that an answer gives. -/
def Enrichment.FeedbackAnswer.type : FeedbackAnswer → FeedbackType
  | .explanation _ => .explanation
  | .recommendations _ => .recommendation
  | .correlations _ => .correlation

namespace Engine

/-- Whether an action may be done now: requests may be, everything else is done on duty. -/
def Action.IsDue (duties : List Duty) : Action → Prop
  | .evaluate rule source metrics => .rule (.evaluation rule source metrics) ∈ duties
  | .raise check source _ => .rule (.detection check source) ∈ duties
  | .enrich alert _ _ => .enrichment alert ∈ duties
  | .giveFeedback alert answer => .feedback alert answer.type ∈ duties
  | .announcePatterns _ => ∃ history, .patterns history ∈ duties
  | _ => True

/-- What an action leaves to the background. -/
def duties (e : Engine) : Action → List Duty
  | .evaluate rule source metrics =>
    (e.evaluateRule rule source metrics).2.1.toList.map fun check => .rule (.detection check source)
  | .raise check source anomaly => (raiseAnomalies check source [anomaly] e).1.map .enrichment
  | _ => []

/-- Whether somebody asks the analyzer this: about an alert, to which recent history is added, or
about the last entries of the history, as long as there are any. -/
def Asks (e : Engine) : AnalyzerCall → Prop
  | .explain _ _ => True
  | .recommend _ history | .correlate _ history => ∃ n, history = e.alerts.recentHistory n
  | .patterns history => history ≠ [] ∧ ∃ window, history = e.alerts.getHistory window

end Engine

/-- What a call of the analyzer leaves to the background. -/
def AnalyzerCall.duties : AnalyzerCall → List Duty
  | .patterns history => [.patterns history]
  | _ => []

/-- What a move of the dispatch loop leaves to the background. -/
def Loop.Move.duties : Move → List Duty
  | .deliver event channel =>
    match Engine.actionFor channel event with
    | .feedback alert type => [.feedback alert type]
    | _ => []
  | _ => []

/-- An engine with what is left to the background and its dispatch loop, if that is running. -/
structure Watch where
  engine : Engine
  duties : List Duty
  loop : Option Loop
  /-- The loop has been asked to stop. -/
  stopping : Bool

namespace Watch

/-- An engine whose loop has not started, with nothing in the background. -/
def idle (e : Engine) : Watch := ⟨e, [], none, false⟩

/-- What is done at a time. -/
inductive Deed where
  | act (action : Engine.Action)
  | ingest (source : String) (metrics : Json)
  /-- A rule is to be evaluated on its own. -/
  | examine (rule : Rule) (source : String) (metrics : Json)
  | ask (call : AnalyzerCall)
  /-- Clients come, read and go, and the clock is read. -/
  | serve (readings : Nat)
  /-- Duties are over. -/
  | leaveOff
  | start
  /-- A start while the loop is there, which does nothing. -/
  | startAgain
  /-- The loop is asked to stop. -/
  | shutdown
  /-- A shutdown without a loop, which does nothing. -/
  | shutdownAgain
  | move (move : Loop.Move)
  /-- The loop ends, and with it the shutdown that has asked for it. -/
  | stop

inductive Step (w : Watch) : Deed → Watch → Prop
  | act {action : Engine.Action} (isDue : action.IsDue w.duties) :
      Step w (.act action) { w with
        engine := w.engine.after action
        duties := w.duties ++ w.engine.duties action }
  | ingest (source : String) (metrics : Json) :
      Step w (.ingest source metrics) { w with
        duties := w.duties ++ (w.engine.definitions.rulesFor source).map
          fun rule => .rule (.evaluation rule source metrics) }
  | examine (rule : Rule) (source : String) (metrics : Json) :
      Step w (.examine rule source metrics) { w with
        duties := w.duties ++ [.rule (.evaluation rule source metrics)] }
  | ask {call : AnalyzerCall} (asks : w.engine.Asks call) :
      Step w (.ask call) { w with duties := w.duties ++ call.duties }
  | serve (hub : Hub) (console : Array ConsoleLine) (readings : Nat) :
      Step w (.serve readings) { w with engine := { w.engine with hub, console, readings } }
  | leaveOff {left : List Duty} (subset : left ⊆ w.duties) :
      Step w .leaveOff { w with duties := left }
  | start (idle : w.loop = none) :
      Step w .start { w with loop := some ⟨w.engine.bus.tail, 0, none⟩ }
  | startAgain (running : w.loop.isSome) : Step w .startAgain w
  | shutdown (running : w.loop.isSome) : Step w .shutdown { w with stopping := true }
  | shutdownAgain (idle : w.loop = none) : Step w .shutdownAgain w
  | move {move : Loop.Move} {loop loop' : Loop} {e : Engine} (running : w.loop = some loop)
      (goes : loop.Goes w.engine move e loop') :
      Step w (.move move) { w with
        engine := e
        duties := w.duties ++ move.duties
        loop := some loop' }
  | stop {loop : Loop} (running : w.loop = some loop) (free : loop.current = none)
      (asked : w.stopping) :
      Step w .stop { w with loop := none, stopping := false }

/-- A run with its deeds, and what the watch has come to after each of them. -/
inductive Runs : Watch → List (Deed × Watch) → Watch → Prop
  | nil (w : Watch) : Runs w [] w
  | cons {w w' w'' : Watch} {deed : Deed} {later : List (Deed × Watch)}
      (step : w.Step deed w') (rest : Runs w' later w'') : Runs w ((deed, w') :: later) w''

variable {w w' : Watch} {deed : Deed} {trace before after : List (Deed × Watch)}

theorem Runs.split (runs : Runs w (before ++ after) w') :
    ∃ middle, Runs w before middle ∧ Runs middle after w' := by
  induction before generalizing w with
  | nil => exact ⟨w, .nil w, runs⟩
  | cons entry before ih =>
    cases runs with
    | cons step rest =>
      obtain ⟨middle, first, second⟩ := ih rest
      exact ⟨middle, .cons step first, second⟩

theorem Runs.append {middle : Watch} (first : Runs w before middle)
    (second : Runs middle after w') : Runs w (before ++ after) w' := by
  induction first with
  | nil => exact second
  | cons step _ ih => exact .cons step (ih second)

/-- The moves of a loop are deeds on watch, whatever else there is to do. -/
theorem runs_of_rounds {p q : Engine × Loop} {moves : List Loop.Move}
    (rounds : Loop.Rounds p moves q) (duties : List Duty) (stopping : Bool) :
    ∃ trace, Runs ⟨p.1, duties, some p.2, stopping⟩ trace
        ⟨q.1, duties ++ moves.flatMap Loop.Move.duties, some q.2, stopping⟩ ∧
      trace.map Prod.fst = moves.map .move := by
  induction rounds generalizing duties with
  | nil => exact ⟨[], by rw [List.flatMap_nil, List.append_nil]; exact .nil _, rfl⟩
  | @cons p q r move moves goes _ ih =>
    obtain ⟨trace, runs, deeds⟩ := ih (duties ++ move.duties)
    rw [List.append_assoc, ← List.flatMap_cons] at runs
    exact ⟨_, .cons (.move rfl goes) runs, congrArg (Deed.move move :: ·) deeds⟩

/-- Events are published and stay. -/
theorem Step.events (step : w.Step deed w') :
    ∃ published, w'.engine.events = w.engine.events ++ published := by
  cases step with
  | @act action => exact w.engine.events_after action
  | move _ goes => exact ⟨[], by rw [List.append_nil]; exact goes.events⟩
  | ingest | examine | ask | serve | leaveOff | start | startAgain | shutdown | shutdownAgain
  | stop =>
    exact ⟨[], (List.append_nil _).symm⟩

theorem Runs.events (runs : Runs w trace w') :
    ∃ published, w'.engine.events = w.engine.events ++ published := by
  induction runs with
  | nil => exact ⟨[], (List.append_nil _).symm⟩
  | cons step _ ih =>
    obtain ⟨first, hFirst⟩ := step.events
    obtain ⟨later, hLater⟩ := ih
    exact ⟨first ++ later, by rw [hLater, hFirst, List.append_assoc]⟩

/-- The loop is not ahead of the events. -/
def IsInStep (w : Watch) : Prop := ∀ loop ∈ w.loop, loop.place ≤ w.engine.events.length

theorem isInStep_of_idle (idle : w.loop = none) : w.IsInStep := by
  intro loop mem
  rw [idle] at mem
  cases mem

theorem Step.isInStep (step : w.Step deed w') (inStep : w.IsInStep) : w'.IsInStep := by
  have grows : w.engine.events.length ≤ w'.engine.events.length := by
    obtain ⟨published, hEvents⟩ := step.events
    rw [hEvents, List.length_append]
    exact Nat.le_add_right ..
  intro loop mem
  cases step with
  | move running goes =>
    cases mem
    exact Nat.le_trans (goes.place_le (inStep _ running)) grows
  | start => cases mem; exact Nat.le_refl _
  | stop => cases mem
  | act | ingest | examine | ask | serve | leaveOff | startAgain | shutdown | shutdownAgain =>
    exact Nat.le_trans (inStep loop mem) grows

end Watch

end MetricAlerts
