import MetricAlerts.Proofs.Engine.Run
import MetricAlerts.Proofs.Realtime.Clients

/-! An engine whose events a dispatch loop hands to channels, while clients come, read and go. -/

namespace MetricAlerts

/-- Events go to the clients through the websocket channels and no others. -/
theorem Engine.actionFor_eq_broadcast_iff {channel : Channel} {event : Event} :
    actionFor channel event = .broadcast ↔ channel.type = .websocket := by
  constructor
  · intro h
    cases hType : channel.type with
    | websocket => rfl
    | console => simp [actionFor, hType] at h
    | aiFeedback =>
      simp only [actionFor, hType] at h
      split at h
      · split at h
        · split at h <;> cases h
        · cases h
      · cases h
    | email | slack | pagerDuty =>
      simp only [actionFor, hType] at h
      split at h
      · split at h <;> cases h
      · split at h <;> cases h
      · cases h
  · intro h
    unfold actionFor
    rw [h]

/-- What is received is the event at a place, unless it has been overwritten. -/
theorem Bus.receive_eq_event_iff {b : Bus} {place : Nat} {event : Event} :
    b.receive place = .event event ↔
      b.published.toList.length ≤ place + b.capacity ∧ b.published.toList[place]? = some event := by
  rw [receive, Array.getElem?_toList, Array.length_toList]
  by_cases late : place < b.oldest
  · rw [if_pos late]
    simp only [oldest] at late
    exact iff_of_false (by simp) fun inTime => by omega
  · rw [if_neg late]
    simp only [oldest] at late
    have inTime : b.published.size ≤ place + b.capacity := by omega
    cases b.published[place]? <;> simp [inTime]

/-- What is received is the first of the events from a place on. -/
theorem Engine.drop_of_receive {e : Engine} {place : Nat} {event : Event}
    (received : e.bus.receive place = .event event) :
    place < e.events.length ∧ e.events.drop place = event :: e.events.drop (place + 1) := by
  have hEvent : e.events[place]? = some event := (Bus.receive_eq_event_iff.mp received).2
  obtain ⟨less, hGet⟩ := List.getElem?_eq_some_iff.mp hEvent
  exact ⟨less, by rw [List.drop_eq_getElem_cons less, hGet]⟩

/-- Nothing is received when there are no events from a place on. -/
theorem Engine.drop_of_empty {e : Engine} {place : Nat}
    (drained : e.bus.receive place = .empty) : e.events.drop place = [] := by
  rw [List.drop_eq_nil_iff]
  simp only [Bus.receive] at drained
  split at drained
  · cases drained
  · split at drained
    · cases drained
    · next notFound => exact Array.getElem?_eq_none_iff.mp notFound

/-- The events that have been overwritten are some of those from a place on. -/
theorem Engine.bounds_of_lagged {e : Engine} {place missed : Nat}
    (lagged : e.bus.receive place = .lagged missed) :
    0 < missed ∧ place + missed ≤ e.events.length := by
  simp only [Bus.receive] at lagged
  split at lagged
  · cases lagged
    rw [Engine.events, Array.length_toList]
    simp only [Bus.oldest] at *
    omega
  · split at lagged <;> cases lagged

/-- What an event does at once leaves alerts, events and definitions as they are. -/
theorem Engine.perform_keeps (e : Engine) (event : Event) (action : ChannelAction) :
    (e.perform event action).alerts = e.alerts ∧ (e.perform event action).events = e.events ∧
      (e.perform event action).definitions = e.definitions := by
  cases action <;> exact ⟨rfl, rfl, rfl⟩

/-- The dispatch of an event, with the channels that it is still to be handed to once they have been
looked up. -/
structure Dispatch where
  event : Event
  channels : Option (List Channel)

/-- A dispatch loop: the place of the next event, how many events it has missed so far, and the
dispatch that is on. -/
structure Loop where
  place : Nat
  missed : Nat
  current : Option Dispatch

/-- An engine with its dispatch loop, and the messages that have left the queue of each client. -/
structure Feed where
  engine : Engine
  loop : Option Loop
  past : Nat → List RealtimeMessage

namespace Feed

def initial (e : Engine) : Feed := ⟨e, none, fun _ => []⟩

/-- The feed with other clients. -/
def withHub (f : Feed) (hub : Hub) : Feed := { f with engine := { f.engine with hub } }

def withLoop (f : Feed) (loop : Loop) : Feed := { f with loop := some loop }

/-- The feed in which some messages have left the queue of a client. -/
def withPast (f : Feed) (client : Nat) (messages : List RealtimeMessage) : Feed :=
  { f with past := fun id => if id = client then f.past id ++ messages else f.past id }

/-- What happens at a time. The loop starts before the first alert, takes one event after another,
looks up the channels and hands the event to them in any order. Messages that a client has not read
are lost with its receiver. -/
inductive Step (f : Feed) : Feed → Prop
  | work (action : Engine.Action)
      (fresh : f.engine.idsUsed < (f.engine.after action).idsUsed → f.engine.IsFresh) :
      Step f { f with engine := f.engine.after action }
  | connect : Step f (f.withHub (f.engine.hub.connect f.engine.alerts.activeAlerts).2)
  | disconnect (client : Nat) : Step f (f.withHub (f.engine.hub.disconnect client).2)
  | text (client : Nat) (text : String) : Step f (f.withHub (f.engine.hub.handleText client text))
  | read (client n : Nat) :
      Step f ((f.withHub (f.engine.hub.read client n)).withPast client
        ((f.engine.hub.queueOf client).take n))
  | hangUp (client : Nat) :
      Step f ((f.withHub (f.engine.hub.dropReceiver client).2).withPast client
        (f.engine.hub.queueOf client))
  | start (idle : f.loop = none) (early : ∀ event ∈ f.engine.events, event.alert? = none) :
      Step f (f.withLoop ⟨f.engine.bus.tail, 0, none⟩)
  | receive {loop : Loop} {event : Event} (running : f.loop = some loop)
      (idle : loop.current = none) (received : f.engine.bus.receive loop.place = .event event) :
      Step f (f.withLoop ⟨loop.place + 1, loop.missed, some ⟨event, none⟩⟩)
  | lag {loop : Loop} {missed : Nat} (running : f.loop = some loop) (idle : loop.current = none)
      (received : f.engine.bus.receive loop.place = .lagged missed) :
      Step f (f.withLoop ⟨loop.place + missed, loop.missed + missed, none⟩)
  | lookUp {loop : Loop} {event : Event} (running : f.loop = some loop)
      (current : loop.current = some ⟨event, none⟩) :
      Step f (f.withLoop
        ⟨loop.place, loop.missed, some ⟨event, some f.engine.definitions.enabledChannels⟩⟩)
  | deliver {loop : Loop} {event : Event} {before after : List Channel} {channel : Channel}
      (running : f.loop = some loop)
      (current : loop.current = some ⟨event, some (before ++ channel :: after)⟩) :
      Step f
        ({ f with engine := f.engine.perform event (Engine.actionFor channel event) }.withLoop
          ⟨loop.place, loop.missed, some ⟨event, some (before ++ after)⟩⟩)
  | finish {loop : Loop} {event : Event} (running : f.loop = some loop)
      (current : loop.current = some ⟨event, some []⟩) :
      Step f (f.withLoop ⟨loop.place, loop.missed, none⟩)

/-- One step after another. -/
abbrev Steps : Feed → Feed → Prop := Relation.ReflTransGen Step

/-- Events go to the clients. -/
def HasWebsocket (f : Feed) : Prop :=
  ∃ channel ∈ f.engine.definitions.enabledChannels, channel.type = .websocket

instance (f : Feed) : Decidable f.HasWebsocket :=
  inferInstanceAs (Decidable (∃ channel ∈ _, _))

/-- A run in which events go to the clients all the time. -/
abbrev Reaches : Feed → Feed → Prop :=
  Relation.ReflTransGen fun f f' => f.HasWebsocket ∧ f.Step f'

/-- What a client knows from the messages that it has been sent, whether it has read them or not. -/
def viewOf (f : Feed) (client : Nat) : View Json :=
  clientView (f.past client ++ f.engine.hub.queueOf client)

/-- The dispatch loop has missed events. -/
def HasLagged (f : Feed) : Prop := ∃ loop, f.loop = some loop ∧ 0 < loop.missed

/-- A subscription that is behind the oldest event has missed some. -/
theorem hasLagged_of_receive {f : Feed} {loop : Loop} {missed : Nat}
    (received : f.engine.bus.receive loop.place = .lagged missed) :
    HasLagged (f.withLoop ⟨loop.place + missed, loop.missed + missed, none⟩) := by
  refine ⟨_, rfl, ?_⟩
  simp only [Bus.receive] at received
  split at received
  · next less =>
    cases received
    simp only
    omega
  · split at received <;> cases received

end Feed

/-- Whether an event has yet to be handed to the clients. -/
def Dispatch.isDue (d : Dispatch) : Bool :=
  match d.channels with
  | some channels => channels.any fun channel => channel.type = .websocket
  | none => true

namespace Dispatch

variable {event : Event} {before after : List Channel} {channel : Channel}

theorem isDue_of_websocket (h : channel.type = .websocket) :
    isDue ⟨event, some (before ++ channel :: after)⟩ := by
  simp [isDue, h]

/-- An event that has been handed to another channel is due if it was before. -/
theorem isDue_of_ne (h : channel.type ≠ .websocket) :
    isDue ⟨event, some (before ++ channel :: after)⟩ = isDue ⟨event, some (before ++ after)⟩ := by
  simp [isDue, h]

end Dispatch

/-- The events that are due at some point of a dispatch loop, where the one that is being dispatched
may be due or not. -/
def Loop.dueBy (isDue : Dispatch → Bool) (loop : Loop) (events : List Event) : List Event :=
  ((loop.current.toList.filter isDue).map Dispatch.event) ++ events.drop loop.place

theorem Loop.dueBy_some {isDue : Dispatch → Bool} {place missed : Nat} {d : Dispatch}
    {events : List Event} :
    dueBy isDue ⟨place, missed, some d⟩ events =
      if isDue d then d.event :: events.drop place else events.drop place := by
  cases h : isDue d <;> simp [dueBy, h]

/-- The events that are due to the clients at some point of a dispatch loop. -/
def Loop.due (loop : Loop) (events : List Event) : List Event := loop.dueBy Dispatch.isDue events

namespace Loop

variable {place missed : Nat} {d : Dispatch} {events : List Event}

theorem due_idle : due ⟨place, missed, none⟩ events = events.drop place := rfl

theorem due_some :
    due ⟨place, missed, some d⟩ events =
      if d.isDue then d.event :: events.drop place else events.drop place :=
  dueBy_some

theorem due_of_isDue (h : d.isDue) :
    due ⟨place, missed, some d⟩ events = d.event :: events.drop place :=
  due_some.trans (if_pos h)

theorem due_of_not_isDue (h : d.isDue = false) :
    due ⟨place, missed, some d⟩ events = events.drop place :=
  due_some.trans (if_neg (by simp [h]))

end Loop

namespace Feed

/-- The events that are due to the clients. Before the loop starts none of them has been handed to
anybody. -/
def due (f : Feed) : List Event :=
  match f.loop with
  | some loop => loop.due f.engine.events
  | none => f.engine.events

end Feed

end MetricAlerts
