import Mathlib.Algebra.Order.BigOperators.Group.List
import Mathlib.Algebra.Order.Ring.Nat
import MetricAlerts.Proofs.System.Operations

/-! What the tasks of a system may still bring about: the feedback and enrichment that is under way,
the new alerts that are still to be dispatched, and the effort that is left otherwise. -/

namespace MetricAlerts

/-- The feedback channels that are enabled. -/
def Definitions.feedbackChannels (d : Definitions) : Nat :=
  d.enabledChannels.countP fun c => c.type = .aiFeedback

theorem length_feedbackWorks_le (event : Event) (d : Definitions) :
    (feedbackWorks event d.enabledChannels).length ≤
      if event.isCreated then d.feedbackChannels else 0 := by
  cases event with
  | created alert =>
    rw [feedbackWorks, List.length_map, ← List.countP_eq_length_filter]
    refine List.countP_mono_left fun c _ asks => ?_
    exact (Bool.and_eq_true_iff.mp asks).1
  | _ => exact Nat.le_refl 0

/-! Kinds of tasks. -/

/-- Whether an activity enriches an alert. -/
def Work.isEnriching : Work → Bool
  | .enrich _ | .feedback _ _ => true
  | _ => false

/-- Whether a task enriches an alert, or comes to. -/
def Task.isEnriching : Task → Bool
  | .fresh work | .held work => work.isEnriching
  | .enrichment _ _ _ | .feedback _ _ => true
  | _ => false

/-- How much enrichment a task is: one, or none. -/
def Task.enriching (task : Task) : Nat := task.isEnriching.toNat

/-- Whether an activity raises no alerts and looks for no patterns. -/
def Work.isCalm : Work → Bool
  | .evaluate _ _ | .detect _ _ | .analyzePatterns _ | .patternJob _ => false
  | _ => true

def Task.isCalm : Task → Bool
  | .fresh work | .held work => work.isCalm
  | .evaluation _ | .detection _ _ _ | .patternRun _ | .patternJob _ => false
  | _ => true

/-! New alerts that are still to be dispatched. -/

def DispatchState.undispatched : DispatchState → Nat
  | .taken event => if event.isCreated then 1 else 0
  | .handedOut _ _ => 0

def Work.undispatched (events : List Event) : Work → Nat
  | .dispatch event => (DispatchState.taken event).undispatched
  | .dispatchLoop place => (events.drop place).countP Event.isCreated
  | _ => 0

/-- How many events about new alerts a task is yet to hand out. A loop that has been asked to stop
takes no more events. -/
def Task.undispatched (events : List Event) : Task → Nat
  | .fresh work | .held work => work.undispatched events
  | .dispatch state => state.undispatched
  | .dispatchLoop state =>
    (state.current.elim 0 DispatchState.undispatched) +
      if state.stopping then 0 else (events.drop state.place).countP Event.isCreated
  | _ => 0

/-! Effort. -/

def Delivery.effort : Delivery → Nat
  | .settled _ => 0
  | .underway _ _ _ | .dropping => 1
  | .announcing => 2

/-- The effort that a dispatch to so many channels takes. -/
def DispatchState.effort (channels : Nat) : DispatchState → Nat
  | .taken _ => 2 * channels + 1
  | .handedOut _ deliveries => (deliveries.map Delivery.effort).sum

/-- The effort that the events from a place on take. -/
def loopEffort (channels : Nat) (events : List Event) (place : Nat) : Nat :=
  (events.length - place) * (2 * channels + 3)

def Work.effort (channels : Nat) (events : List Event) : Work → Nat
  | .enrich _ => 2
  | .dispatch event => (DispatchState.taken event).effort channels
  | .dispatchLoop place => loopEffort channels events place
  | .stop tasks => tasks.length
  | _ => 0

/-- The effort that a task takes as long as no more events are published. -/
def Task.effort (channels : Nat) (events : List Event) : Task → Nat
  | .fresh work => work.effort channels events + 3
  | .held work => work.effort channels events + 2
  | .enrichment _ r c => r.waits.length + c.waits.length + 1
  | .dispatch state => state.effort channels + 1
  | .dispatchLoop state =>
    state.current.elim 0 (fun dispatch => dispatch.effort channels + 1) +
      loopEffort channels events state.place + 1
  | .stopping _ later => later.length + 1
  | _ => 1

namespace System

/-- What a task is worth when it has come to wait; nothing when it has ended. -/
def Progress.worth (f : Task → Nat) : Progress → Nat
  | .waits task => f task
  | .ends _ => 0

/-- A task is calm when it has come to wait. -/
def Progress.IsCalm : Progress → Prop
  | .waits task => task.isCalm
  | .ends _ => True

/-- What all tasks are worth. -/
def total (f : Task → Nat) (tasks : List (Nat × Task)) : Nat := (tasks.map fun t => f t.2).sum

variable {s s' : System} {works : List Work} {id : Nat} {task : Task}

@[simp] theorem total_append (f : Task → Nat) (tasks later : List (Nat × Task)) :
    total f (tasks ++ later) = total f tasks + total f later := by
  simp [total]

@[simp] theorem total_cons (f : Task → Nat) (t : Nat × Task) (tasks : List (Nat × Task)) :
    total f (t :: tasks) = f t.2 + total f tasks := by
  simp [total]

theorem total_entries (f : Task → Nat) (id : Nat) (progress : Progress) :
    total f (progress.entries id) = progress.worth f := by
  cases progress with
  | waits task => simp [Progress.entries, Progress.worth, total]
  | ends => rfl

/-! The worth of a task in a system. -/

def feedbackChannels (s : System) : Nat := s.engine.definitions.feedbackChannels

def undispatchedOf (s : System) (task : Task) : Nat := task.undispatched s.engine.events

def effortOf (s : System) (task : Task) : Nat :=
  task.effort s.engine.definitions.enabledChannels.length s.engine.events

theorem feedbackChannels_congr (agrees : s.engine.Agrees s'.engine) :
    s'.feedbackChannels = s.feedbackChannels := by
  rw [feedbackChannels, agrees.definitions, feedbackChannels]

theorem undispatchedOf_congr (agrees : s.engine.Agrees s'.engine) :
    s'.undispatchedOf = s.undispatchedOf := by
  funext task
  rw [undispatchedOf, agrees.events, undispatchedOf]

theorem effortOf_congr (agrees : s.engine.Agrees s'.engine) : s'.effortOf = s.effortOf := by
  funext task
  rw [effortOf, agrees.events, agrees.definitions, effortOf]

end System

end MetricAlerts
