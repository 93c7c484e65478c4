import MetricAlerts.Proofs.Dispatch.Outbox
import MetricAlerts.Proofs.Dispatch.Watch
import MetricAlerts.Proofs.Engine.Definitions
import MetricAlerts.Proofs.Engine.Newness

/-! What a watch hands to the transport. As long as its loop neither starts nor ends it goes on as a
feed does, and hands over the notifications of its moves (`Watch.Runs.outbox`). -/

namespace MetricAlerts.Watch

/-- The notification that a deed hands to the transport. -/
def Deed.notification? : Deed → Option Notification
  | .move made => made.notification?
  | _ => none

/-- Whether a task does this by itself: it takes up work, asks the analyzer and does what it has a
duty to do. -/
def Deed.isOwn : Deed → Bool
  | .act action => !action.defines
  | .ingest _ _ | .ask _ => true
  | _ => false

/-- Whether a deed leaves it at that whether the loop is running, and the clients and the
definitions as they are but for the moves of the loop. -/
def Deed.isOrderly : Deed → Bool
  | .act action => !action.defines
  | .serve _ | .start | .stop => false
  | _ => true

/-- A watch as a feed, with what has been handed to the transport. -/
def outbox (w : Watch) (past : Nat → List RealtimeMessage) (handed : List Notification) : Outbox :=
  ⟨⟨w.engine, w.loop, past⟩, handed⟩

/-- What the deeds of a run hand to the transport. -/
def notifications (trace : List (Deed × Watch)) : List Notification :=
  trace.filterMap fun entry => entry.1.notification?

/-- Everything is done in an orderly way, and the transport is handed nothing. -/
def IsQuiet (trace : List (Deed × Watch)) : Prop :=
  ∀ entry ∈ trace, entry.1.isOrderly ∧ entry.1.notification? = none

variable {w w' : Watch} {deed : Deed} {trace later : List (Deed × Watch)}
  {holds : Bool → Definitions → Prop}

theorem isQuiet_of_isOwn (own : ∀ entry ∈ trace, entry.1.isOwn) : IsQuiet trace := by
  rintro ⟨deed, w⟩ mem
  have own : deed.isOwn := own _ mem
  cases deed with
  | act | ingest | ask => exact ⟨own, rfl⟩
  | _ => cases own

theorem IsQuiet.append (first : IsQuiet trace) (second : IsQuiet later) :
    IsQuiet (trace ++ later) :=
  List.forall_mem_append.mpr ⟨first, second⟩

theorem IsQuiet.notifications_eq_nil (quiet : IsQuiet trace) : notifications trace = [] :=
  List.filterMap_eq_nil_iff.mpr fun entry mem => (quiet entry mem).2

theorem notifications_append (trace later : List (Deed × Watch)) :
    notifications (trace ++ later) = notifications trace ++ notifications later :=
  List.filterMap_append

theorem notifications_of_moves {moves : List Loop.Move}
    (deeds : trace.map Prod.fst = moves.map .move) :
    notifications trace = moves.filterMap Loop.Move.notification? := by
  have same : (trace.map Prod.fst).filterMap Deed.notification? = _ :=
    congrArg (List.filterMap Deed.notification?) deeds
  rw [List.filterMap_map, List.filterMap_map] at same
  exact same

theorem isOrderly_of_moves {moves : List Loop.Move} (deeds : trace.map Prod.fst = moves.map .move) :
    ∀ entry ∈ trace, entry.1.isOrderly := by
  intro entry mem
  obtain ⟨move, -, made⟩ := List.mem_map.mp (deeds ▸ List.mem_map_of_mem mem)
  rw [← made]
  rfl

/-- The watches agree on the definitions and on whether the loop is running. -/
structure Resembles (w w' : Watch) : Prop where
  isSome : w'.loop.isSome = w.loop.isSome
  definitions : w'.engine.definitions = w.engine.definitions

theorem Step.resembles (step : w.Step deed w') (orderly : deed.isOrderly) : w.Resembles w' := by
  cases step with
  | act => exact ⟨rfl, Engine.definitions_after (by simpa [Deed.isOrderly] using orderly)⟩
  | ingest | examine | ask | leaveOff | startAgain | shutdown | shutdownAgain => exact ⟨rfl, rfl⟩
  | move running goes => exact ⟨by rw [running]; rfl, goes.agrees.definitions⟩
  | serve | start | stop => cases orderly

theorem Runs.resembles (runs : Runs w trace w') (orderly : ∀ entry ∈ trace, entry.1.isOrderly) :
    w.Resembles w' := by
  induction runs with
  | nil => exact ⟨rfl, rfl⟩
  | cons step rest ih =>
    obtain ⟨first, others⟩ := List.forall_mem_cons.mp orderly
    have before := step.resembles first
    have after := ih others
    exact ⟨after.isSome.trans before.isSome, after.definitions.trans before.definitions⟩

theorem Step.isGrounded (step : w.Step deed w') (h : w.engine.IsGrounded)
    (new : AreNew w'.engine.events) : w'.engine.IsGrounded := by
  cases step with
  | act => exact h.after new
  | move running goes => exact h.of_same goes.agrees.alerts goes.agrees.events
  | serve => exact h.of_same rfl rfl
  | ingest | examine | ask | leaveOff | start | startAgain | shutdown | shutdownAgain | stop =>
    exact h

theorem Runs.isGrounded (runs : Runs w trace w') (h : w.engine.IsGrounded)
    (new : AreNew w'.engine.events) : w'.engine.IsGrounded := by
  induction runs with
  | nil => exact h
  | cons step rest ih =>
    obtain ⟨published, hEvents⟩ := rest.events
    exact ih (step.isGrounded h (hEvents ▸ new).of_append) new

/-- What is done in an orderly way is a step of the outbox, or nothing to it. -/
theorem Step.outbox (step : w.Step deed w') (orderly : deed.isOrderly) (h : w.engine.IsGrounded)
    (new : AreNew w'.engine.events) (past : Nat → List RealtimeMessage)
    (handed : List Notification) :
    Relation.ReflGen Outbox.Step (w.outbox past handed)
      (w'.outbox past (handed ++ deed.notification?.toList)) := by
  have quiet {w' : Watch} (own : Relation.ReflGen Outbox.Step (w.outbox past handed)
      (w'.outbox past handed)) : Relation.ReflGen Outbox.Step (w.outbox past handed)
      (w'.outbox past (handed ++ (none : Option Notification).toList)) := by
    rw [Option.toList_none, List.append_nil]
    exact own
  cases step with
  | @act action =>
    have acted : Feed.Step ⟨w.engine, w.loop, past⟩ _ := .work action (h.fresh new)
    exact quiet (.single (.other acted (Nat.le_refl _)))
  | ingest | examine | ask | leaveOff | startAgain | shutdown | shutdownAgain =>
    exact quiet .refl
  | move running goes =>
    rw [Watch.outbox, running]
    exact .single (goes.outbox past handed)
  | serve | start | stop => cases orderly

/-- What is done in an orderly way is a run of an outbox, with what it hands to the transport. -/
theorem Runs.outbox (runs : Runs w trace w') (orderly : ∀ entry ∈ trace, entry.1.isOrderly)
    (h : w.engine.IsGrounded) (new : AreNew w'.engine.events)
    (meets : holds w.loop.isSome w.engine.definitions) (past : Nat → List RealtimeMessage)
    (handed : List Notification) :
    Outbox.StepsWhile holds (w.outbox past handed)
      (w'.outbox past (handed ++ notifications trace)) := by
  induction runs generalizing handed with
  | nil =>
    rw [notifications, List.filterMap_nil, List.append_nil]
  | @cons w middle w' deed later step rest ih =>
    obtain ⟨first, others⟩ := List.forall_mem_cons.mp orderly
    obtain ⟨published, hEvents⟩ := rest.events
    have before : AreNew middle.engine.events := (hEvents ▸ new).of_append
    have resembles := step.resembles first
    have goesOn := ih others (step.isGrounded h before) new
      (by rw [resembles.isSome, resembles.definitions]; exact meets)
      (handed ++ deed.notification?.toList)
    simp only [notifications, List.filterMap_eq_flatMap_toList, List.append_assoc] at goesOn ⊢
    obtain same | next := (Relation.reflGen_iff ..).mp (step.outbox first h before past handed)
    · rw [← same]
      exact goesOn
    · exact .head ⟨meets, next⟩ goesOn

end MetricAlerts.Watch
