import MetricAlerts.Proofs.Engine.Agreement
import MetricAlerts.Proofs.Realtime.Feed

/-! The moves of a dispatch loop. A loop takes one event after another off the bus and hands it to
the channels before it takes the next one. It passes over events that have been overwritten, and
over no others. -/

namespace MetricAlerts

namespace Loop

/-- What a dispatch loop does at a time. -/
inductive Move where
  | receive (place : Nat) (event : Event)
  | lag (place missed : Nat)
  | lookUp (event : Event)
  | deliver (event : Event) (channel : Channel)
  | finish (event : Event)

/-- A move of a loop, which may change the engine: what is done about an event at once. -/
inductive Goes (e : Engine) (loop : Loop) : Move → Engine → Loop → Prop
  | receive {event : Event} (idle : loop.current = none)
      (received : e.bus.receive loop.place = .event event) :
      Goes e loop (.receive loop.place event) e ⟨loop.place + 1, loop.missed, some ⟨event, none⟩⟩
  | lag {missed : Nat} (idle : loop.current = none)
      (received : e.bus.receive loop.place = .lagged missed) :
      Goes e loop (.lag loop.place missed) e ⟨loop.place + missed, loop.missed + missed, none⟩
  | lookUp {event : Event} (current : loop.current = some ⟨event, none⟩) :
      Goes e loop (.lookUp event) e
        ⟨loop.place, loop.missed, some ⟨event, some e.definitions.enabledChannels⟩⟩
  | deliver {event : Event} {before after : List Channel} {channel : Channel}
      (current : loop.current = some ⟨event, some (before ++ channel :: after)⟩) :
      Goes e loop (.deliver event channel) (e.perform event (Engine.actionFor channel event))
        ⟨loop.place, loop.missed, some ⟨event, some (before ++ after)⟩⟩
  | finish {event : Event} (current : loop.current = some ⟨event, some []⟩) :
      Goes e loop (.finish event) e ⟨loop.place, loop.missed, none⟩

/-- One move after another. -/
inductive Rounds : Engine × Loop → List Move → Engine × Loop → Prop
  | nil (p : Engine × Loop) : Rounds p [] p
  | cons {p q r : Engine × Loop} {move : Move} {moves : List Move}
      (goes : Goes p.1 p.2 move q.1 q.2) (rest : Rounds q moves r) : Rounds p (move :: moves) r

namespace Move

/-- The event that is taken off the bus, with its place. -/
def handed? : Move → Option (Nat × Event)
  | .receive place event => some (place, event)
  | _ => none

/-- The places of events that have been overwritten before they could be taken. -/
def missed : Move → List Nat
  | .lag place missed => List.range' place missed
  | _ => []

/-- The places that the loop leaves behind, and whether the event at each of them is taken. -/
def passed : Move → List (Nat × Bool)
  | .receive place _ => [(place, true)]
  | .lag place missed => (List.range' place missed).map (·, false)
  | _ => []

end Move

variable {e e' : Engine} {loop loop' : Loop} {move : Move}

/-- A loop changes nothing but clients and lines. -/
theorem Goes.agrees (goes : Goes e loop move e' loop') : e.Agrees e' := by
  cases goes with
  | deliver => exact Engine.agrees_perform ..
  | receive | lag | lookUp | finish => exact .refl e

theorem Goes.events (goes : Goes e loop move e' loop') : e'.events = e.events :=
  goes.agrees.events

/-- The loop stays behind the events, or with them. -/
theorem Goes.place_le (goes : Goes e loop move e' loop') (bound : loop.place ≤ e.events.length) :
    loop'.place ≤ e.events.length := by
  cases goes with
  | receive _ received => exact (Engine.drop_of_receive received).1
  | lag _ received => exact (Engine.bounds_of_lagged received).2
  | lookUp | deliver | finish => exact bound

/-- The loop leaves the next places behind and does not jump. -/
theorem Goes.passed (goes : Goes e loop move e' loop') :
    ∃ count, loop'.place = loop.place + count ∧
      move.passed.map Prod.fst = List.range' loop.place count := by
  cases goes with
  | receive => exact ⟨1, rfl, rfl⟩
  | @lag missed =>
    refine ⟨missed, rfl, ?_⟩
    rw [Move.passed, List.map_map]
    exact List.map_id _
  | lookUp | deliver | finish => exact ⟨0, rfl, rfl⟩

theorem Goes.handed (goes : Goes e loop move e' loop') {place : Nat} {event : Event}
    (handed : move.handed? = some (place, event)) : e.events[place]? = some event := by
  cases goes with
  | receive _ received =>
    cases handed
    exact (Bus.receive_eq_event_iff.mp received).2
  | lag | lookUp | deliver | finish => cases handed

/-- The loop of a feed moves like any other. -/
theorem Goes.feed (goes : Goes e loop move e' loop') (past : Nat → List RealtimeMessage) :
    Feed.Step ⟨e, some loop, past⟩ ⟨e', some loop', past⟩ := by
  have running : (Feed.mk e (some loop) past).loop = some loop := rfl
  cases goes with
  | receive idle received => exact .receive running idle received
  | lag idle received => exact .lag running idle received
  | lookUp current => exact .lookUp running current
  | deliver current => exact .deliver running current
  | finish current => exact .finish running current

theorem Rounds.append {p q r : Engine × Loop} {moves later : List Move} (first : Rounds p moves q)
    (second : Rounds q later r) : Rounds p (moves ++ later) r := by
  induction first with
  | nil => exact second
  | cons goes _ ih => exact .cons goes (ih second)

theorem Rounds.feed {p q : Engine × Loop} {moves : List Move} (rounds : Rounds p moves q)
    (past : Nat → List RealtimeMessage) :
    Feed.Steps ⟨p.1, some p.2, past⟩ ⟨q.1, some q.2, past⟩ := by
  induction rounds with
  | nil => exact .refl
  | cons goes _ ih => exact .head (goes.feed past) ih

end Loop

end MetricAlerts
