import MetricAlerts.Proofs.Dispatch.Loop
import MetricAlerts.Proofs.Dispatch.Notices

/-! A feed with the notifications that its dispatch loop hands to the transport. The loop hands them
over by its moves, and by nothing else. -/

namespace MetricAlerts

/-- The notification that a move of a loop hands to the transport. -/
def Loop.Move.notification? : Move → Option Notification
  | .deliver event channel => Engine.handedFor channel event
  | _ => none

/-- The channels that the event of a dispatch is still to be handed to, if they are known. -/
def Feed.owed (f : Feed) : List Channel :=
  match f.loop with
  | some ⟨_, _, some ⟨_, some channels⟩⟩ => channels
  | _ => []

/-- A feed and what has been handed to the transport so far. -/
structure Outbox where
  feed : Feed
  handed : List Notification

namespace Outbox

/-- What happens at a time: an event is handed to a channel, and a notification to the transport if
the channel is one for which there is any; or something else that takes no channel off. -/
inductive Step (p : Outbox) : Outbox → Prop
  | deliver {loop : Loop} {event : Event} {before after : List Channel} {channel : Channel}
      (running : p.feed.loop = some loop)
      (current : loop.current = some ⟨event, some (before ++ channel :: after)⟩) :
      Step p
        ⟨{ p.feed with
            engine := p.feed.engine.perform event (Engine.actionFor channel event) }.withLoop
            ⟨loop.place, loop.missed, some ⟨event, some (before ++ after)⟩⟩,
          p.handed ++ (Engine.handedFor channel event).toList⟩
  | other {f : Feed} (step : p.feed.Step f) (none : p.feed.owed.length ≤ f.owed.length) :
      Step p ⟨f, p.handed⟩

/-- One step after another. -/
abbrev Steps : Outbox → Outbox → Prop := Relation.ReflTransGen Step

/-- One step after another, while something holds of the definitions and of whether the loop is
running. -/
abbrev StepsWhile (holds : Bool → Definitions → Prop) : Outbox → Outbox → Prop :=
  Relation.ReflTransGen fun p p' =>
    holds p.feed.loop.isSome p.feed.engine.definitions ∧ p.Step p'

variable {p p' : Outbox} {f : Feed}

theorem owed_of_running {loop : Loop} {event : Event} {channels : List Channel}
    (running : f.loop = some loop) (current : loop.current = some ⟨event, some channels⟩) :
    f.owed = channels := by
  obtain ⟨place, missed, _⟩ := loop
  obtain rfl := current
  rw [Feed.owed, running]

theorem owed_of_idle {loop : Loop} (running : f.loop = some loop)
    (idle : ∀ event channels, loop.current ≠ some ⟨event, some channels⟩) : f.owed = [] := by
  obtain ⟨place, missed, current⟩ := loop
  rw [Feed.owed, running]
  split
  · next h =>
    cases h
    exact absurd rfl (idle _ _)
  · rfl

/-- Whatever happens, a feed does it. -/
theorem Step.feed (step : p.Step p') : p.feed.Step p'.feed := by
  cases step with
  | deliver running current => exact .deliver running current
  | other step => exact step

end Outbox

namespace Loop

variable {e e' : Engine} {loop loop' : Loop} {move : Move}

/-- A move of a loop hands over its notification. -/
theorem Goes.outbox (goes : Goes e loop move e' loop') (past : Nat → List RealtimeMessage)
    (handed : List Notification) :
    Outbox.Step ⟨⟨e, some loop, past⟩, handed⟩
      ⟨⟨e', some loop', past⟩, handed ++ move.notification?.toList⟩ := by
  have running : (Feed.mk e (some loop) past).loop = some loop := rfl
  have quiet (nothing : move.notification? = none)
      (less : (Feed.mk e (some loop) past).owed.length ≤
        (Feed.mk e' (some loop') past).owed.length) :
      Outbox.Step ⟨⟨e, some loop, past⟩, handed⟩
        ⟨⟨e', some loop', past⟩, handed ++ move.notification?.toList⟩ := by
    rw [nothing, Option.toList, List.append_nil]
    exact .other (goes.feed past) less
  have idle (nothing : move.notification? = none)
      (nil : (Feed.mk e (some loop) past).owed = []) :=
    quiet nothing (by rw [nil]; exact Nat.zero_le _)
  cases goes with
  | deliver current => exact .deliver running current
  | receive free => exact idle rfl (Outbox.owed_of_idle running (by simp [free]))
  | lag free => exact idle rfl (Outbox.owed_of_idle running (by simp [free]))
  | lookUp current => exact idle rfl (Outbox.owed_of_idle running (by simp [current]))
  | finish current => exact idle rfl (Outbox.owed_of_running running current)

theorem Rounds.outbox {p q : Engine × Loop} {moves : List Move} (rounds : Rounds p moves q)
    (past : Nat → List RealtimeMessage) (handed : List Notification) :
    Outbox.Steps ⟨⟨p.1, some p.2, past⟩, handed⟩
      ⟨⟨q.1, some q.2, past⟩, handed ++ moves.filterMap Move.notification?⟩ := by
  induction rounds generalizing handed with
  | nil =>
    rw [List.filterMap_nil, List.append_nil]
  | @cons _ _ _ move moves goes _ ih =>
    have later := ih (handed ++ move.notification?.toList)
    simp only [List.filterMap_eq_flatMap_toList, List.append_assoc] at later ⊢
    exact .head (goes.outbox past handed) later

end Loop

end MetricAlerts
