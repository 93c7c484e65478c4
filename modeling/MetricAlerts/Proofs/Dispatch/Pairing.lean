import Mathlib.Data.List.Forall2
import MetricAlerts.Proofs.Dispatch.Outbox
import MetricAlerts.Proofs.Engine.Definitions
import MetricAlerts.Proofs.Engine.Lifecycle
import MetricAlerts.Proofs.Realtime.Convergence

/-! The notifications for a channel that stays complete and enabled are those of the events that
open and close alerts, in their order, as long as the dispatch loop misses none. -/

namespace MetricAlerts

/-- Whether an event has yet to be handed to the channel with an id. -/
def Dispatch.owes (id : String) (d : Dispatch) : Bool :=
  match d.channels with
  | some channels => channels.any fun channel => channel.id = id
  | none => true

namespace Dispatch

variable {id : String} {event : Event} {before after : List Channel} {channel : Channel}

theorem owes_of_id (own : channel.id = id) :
    owes id ⟨event, some (before ++ channel :: after)⟩ = true := by
  simp [owes, own]

theorem owes_of_ne (other : channel.id ≠ id) :
    owes id ⟨event, some (before ++ channel :: after)⟩ =
      owes id ⟨event, some (before ++ after)⟩ := by
  simp [owes, other]

/-- Nothing is owed to a channel that is not there a second time. -/
theorem owes_of_nodup (own : channel.id = id)
    (nodup : (Registry.ids (before ++ channel :: after)).Nodup) :
    owes id ⟨event, some (before ++ after)⟩ = false := by
  have absent : channel.id ∉ Registry.ids (before ++ after) := by
    rw [Registry.ids, List.map_append] at nodup ⊢
    exact (List.nodup_middle.mp nodup).notMem
  refine List.any_eq_false.mpr fun d hd same => absent ?_
  exact List.mem_map.mpr ⟨d, hd, (of_decide_eq_true same).trans own.symm⟩

end Dispatch

/-- The events that have not been handed to the channel with an id yet. Before the dispatch loop
starts none of them has been handed to anybody. -/
def Feed.dueTo (f : Feed) (id : String) : List Event :=
  match f.loop with
  | some loop => loop.dueBy (Dispatch.owes id) f.engine.events
  | none => f.engine.events

/-- The channel is enabled, whatever its name is. -/
def Definitions.Enables (definitions : Definitions) (c : Channel) : Prop :=
  ∃ d ∈ definitions.enabledChannels, d.SameSettings c

namespace Outbox

/-- The notifications that have been handed to the transport for the channel with an id. -/
def handedTo (p : Outbox) (id : String) : List Notification :=
  p.handed.filter fun n => n.channel = id

/-- A run in which a channel is enabled as long as the dispatch loop runs. -/
abbrev Reaches (c : Channel) : Outbox → Outbox → Prop :=
  StepsWhile fun running definitions => running → definitions.Enables c

/-- What holds as long as no event has been missed: the events that are not due to the channel any
more have led to the notifications for it. -/
structure Keeps (c : Channel) (p : Outbox) : Prop where
  sound : p.feed.engine.alerts.Sound
  told : ∀ id, IsTold p.feed.engine.alerts id (story id p.feed.engine.events)
  distinct : (Registry.ids p.feed.engine.definitions.channels).Nodup
  place : ∀ loop, p.feed.loop = some loop → loop.place ≤ p.feed.engine.events.length
  owed_nodup : (Registry.ids p.feed.owed).Nodup
  owed_same : ∀ d ∈ p.feed.owed, d.id = c.id → d.SameSettings c
  handed : ∃ dispatched, p.feed.engine.events = dispatched ++ p.feed.dueTo c.id ∧
    List.Forall₂ (Engine.Tells c) (dispatched.filter Event.isNotable) (p.handedTo c.id)

variable {c : Channel} {p p' : Outbox} {f : Feed}

theorem dueTo_of_running {loop : Loop} (running : f.loop = some loop) (id : String) :
    f.dueTo id = loop.dueBy (Dispatch.owes id) f.engine.events := by
  rw [Feed.dueTo, running]

/-- A step of the loop, with an engine in which alerts, events and definitions are the same. -/
theorem Keeps.ofEngine (h : Keeps c p) {e : Engine} (alerts : e.alerts = p.feed.engine.alerts)
    (events : e.events = p.feed.engine.events)
    (definitions : e.definitions = p.feed.engine.definitions) {loop : Loop}
    (place : loop.place ≤ p.feed.engine.events.length)
    (owed_nodup : (Registry.ids (p.feed.withLoop loop).owed).Nodup)
    (owed_same : ∀ d ∈ (p.feed.withLoop loop).owed, d.id = c.id → d.SameSettings c)
    {notifications : List Notification}
    (handed : ∃ dispatched, p.feed.engine.events =
        dispatched ++ loop.dueBy (Dispatch.owes c.id) p.feed.engine.events ∧
      List.Forall₂ (Engine.Tells c) (dispatched.filter Event.isNotable)
        (p.handedTo c.id ++ notifications.filter fun n => n.channel = c.id)) :
    Keeps c ⟨{ p.feed with engine := e }.withLoop loop, p.handed ++ notifications⟩ where
  sound := (congrArg AlertStore.Sound alerts).mpr h.sound
  told id := by
    have told := h.told id
    rw [← alerts, ← events] at told
    exact told
  distinct := (congrArg (fun d : Definitions => (Registry.ids d.channels).Nodup) definitions).mpr
    h.distinct
  place other running := by
    cases running
    exact (congrArg (loop.place ≤ ·) (congrArg List.length events)).mpr place
  owed_nodup := owed_nodup
  owed_same := owed_same
  handed := by
    obtain ⟨dispatched, hEvents, hHanded⟩ := handed
    refine ⟨dispatched, ?_, ?_⟩
    · rw [dueTo_of_running rfl]
      rw [← events] at hEvents
      exact hEvents
    · rw [handedTo, List.filter_append]
      exact hHanded

/-- A step of the loop that leaves the engine as it is. -/
theorem Keeps.ofLoop (h : Keeps c p) {loop : Loop}
    (place : loop.place ≤ p.feed.engine.events.length)
    (owed_nodup : (Registry.ids (p.feed.withLoop loop).owed).Nodup)
    (owed_same : ∀ d ∈ (p.feed.withLoop loop).owed, d.id = c.id → d.SameSettings c)
    (due : (p.feed.withLoop loop).dueTo c.id = p.feed.dueTo c.id) :
    Keeps c ⟨p.feed.withLoop loop, p.handed⟩ := by
  obtain ⟨dispatched, hEvents, hHanded⟩ := h.handed
  rw [← due] at hEvents
  have keeps : Keeps c ⟨p.feed.withLoop loop, p.handed ++ []⟩ :=
    h.ofEngine rfl rfl rfl place owed_nodup owed_same
      ⟨dispatched, hEvents, by simpa using hHanded⟩
  rw [List.append_nil] at keeps
  exact keeps

/-- Clients come, read and go. -/
theorem Keeps.ofHub (h : Keeps c p) (hub : Hub) (past : Nat → List RealtimeMessage) :
    Keeps c ⟨{ p.feed.withHub hub with past }, p.handed⟩ :=
  ⟨h.sound, h.told, h.distinct, h.place, h.owed_nodup, h.owed_same, h.handed⟩

theorem Keeps.work (h : Keeps c p) (action : Engine.Action)
    (fresh : p.feed.engine.idsUsed < (p.feed.engine.after action).idsUsed → p.feed.engine.IsFresh) :
    Keeps c ⟨{ p.feed with engine := p.feed.engine.after action }, p.handed⟩ := by
  obtain ⟨published, outcome⟩ := Engine.outcome_after h.sound action fresh
  have step : p.feed.engine.FreshStep (p.feed.engine.after action) := ⟨.work action, fresh⟩
  obtain ⟨sound, told⟩ := step.keeps follows_isTold h.sound h.told
  refine ⟨sound, told, Engine.nodup_channels_after h.distinct action, ?_, h.owed_nodup,
    h.owed_same, ?_⟩
  · intro loop running
    show loop.place ≤ (p.feed.engine.after action).events.length
    rw [outcome.events, List.length_append]
    exact Nat.le_add_right_of_le (h.place loop running)
  · obtain ⟨dispatched, hEvents, hHanded⟩ := h.handed
    refine ⟨dispatched, ?_, hHanded⟩
    have due : Feed.dueTo { p.feed with engine := p.feed.engine.after action } c.id =
        p.feed.dueTo c.id ++ published := by
      cases running : p.feed.loop with
      | none => simp only [Feed.dueTo, running, outcome.events]
      | some loop =>
        simp only [Feed.dueTo, running, outcome.events, Loop.dueBy, List.append_assoc]
        rw [List.drop_append_of_le_length (h.place loop running)]
    show (p.feed.engine.after action).events = _
    rw [due, outcome.events, ← List.append_assoc, ← hEvents]

/-- The events before the start of the loop, which are handed to nobody, are not about alerts. -/
theorem Keeps.start (h : Keeps c p) (idle : p.feed.loop = none)
    (early : ∀ event ∈ p.feed.engine.events, event.alert? = none) :
    Keeps c ⟨p.feed.withLoop ⟨p.feed.engine.bus.tail, 0, none⟩, p.handed⟩ := by
  obtain ⟨dispatched, hEvents, hHanded⟩ := h.handed
  have none : dispatched = [] := by
    have due : p.feed.dueTo c.id = p.feed.engine.events := by rw [Feed.dueTo, idle]
    rw [due] at hEvents
    exact List.append_left_eq_self.mp hEvents.symm
  have dull : p.feed.engine.events.filter Event.isNotable = [] := by
    refine List.filter_eq_nil_iff.mpr fun event he => ?_
    have := early event he
    cases event <;> simp_all [Event.alert?, Event.isNotable]
  refine ⟨h.sound, h.told, h.distinct, ?_, List.nodup_nil, ?_, ?_⟩
  · intro loop running
    cases running
    exact Nat.le_refl _
  · exact fun d hd => absurd hd List.not_mem_nil
  · refine ⟨p.feed.engine.events, ?_, ?_⟩
    · show _ = _ ++ List.drop p.feed.engine.bus.tail p.feed.engine.events
      have hTail : p.feed.engine.bus.tail = p.feed.engine.events.length := rfl
      rw [hTail, List.drop_length, List.append_nil]
      rfl
    · rw [dull]
      rw [none] at hHanded
      exact hHanded

theorem Keeps.receive (h : Keeps c p) {loop : Loop} {event : Event}
    (running : p.feed.loop = some loop) (idle : loop.current = none)
    (received : p.feed.engine.bus.receive loop.place = .event event) :
    Keeps c ⟨p.feed.withLoop ⟨loop.place + 1, loop.missed, some ⟨event, none⟩⟩, p.handed⟩ := by
  obtain ⟨less, hDrop⟩ := Engine.drop_of_receive received
  refine h.ofLoop less List.nodup_nil (fun d hd => absurd hd List.not_mem_nil) ?_
  rw [dueTo_of_running running, Loop.dueBy, idle, hDrop]
  rfl

theorem Keeps.lookUp (h : Keeps c p) (enabled : p.feed.engine.definitions.Enables c) {loop : Loop}
    {event : Event} (running : p.feed.loop = some loop)
    (current : loop.current = some ⟨event, none⟩) :
    Keeps c ⟨p.feed.withLoop
      ⟨loop.place, loop.missed, some ⟨event, some p.feed.engine.definitions.enabledChannels⟩⟩,
      p.handed⟩ := by
  have part : p.feed.engine.definitions.enabledChannels.Sublist
      p.feed.engine.definitions.channels := List.filter_sublist
  obtain ⟨own, hOwn, same⟩ := enabled
  refine h.ofLoop (h.place loop running) (h.distinct.sublist (part.map _)) ?_ ?_
  · intro d hd hId
    have hSame : d = own := List.inj_on_of_nodup_map h.distinct (part.subset hd)
      (part.subset hOwn) (hId.trans same.id.symm)
    exact hSame ▸ same
  · obtain ⟨place, missed, _⟩ := loop
    obtain rfl := current
    have owes : Dispatch.owes c.id
        ⟨event, some p.feed.engine.definitions.enabledChannels⟩ = true :=
      List.any_eq_true.mpr ⟨own, hOwn, by simpa using same.id⟩
    rw [dueTo_of_running running, Loop.dueBy_some, dueTo_of_running rfl, Loop.dueBy_some,
      if_pos owes]
    rfl

theorem Keeps.finish (h : Keeps c p) {loop : Loop} {event : Event}
    (running : p.feed.loop = some loop) (current : loop.current = some ⟨event, some []⟩) :
    Keeps c ⟨p.feed.withLoop ⟨loop.place, loop.missed, none⟩, p.handed⟩ := by
  refine h.ofLoop (h.place loop running) List.nodup_nil
    (fun d hd => absurd hd List.not_mem_nil) ?_
  rw [dueTo_of_running running, Loop.dueBy, current]
  rfl

/-- What is handed to another channel is not for the channel with an id. -/
theorem filter_handedFor_of_ne {channel : Channel} (event : Event) (ne : channel.id ≠ c.id) :
    ((Engine.handedFor channel event).toList.filter fun n => n.channel = c.id) = [] := by
  refine List.filter_eq_nil_iff.mpr fun n hn => ?_
  have own := (Engine.tells_of_handedFor (Option.mem_toList.mp hn)).channel
  simpa [own] using ne

/-- A complete channel is told of an event that opens or closes an alert, and of no other. -/
theorem forall₂_handedFor {channel : Channel} (same : channel.SameSettings c)
    (complete : c.IsComplete) (event : Event) :
    List.Forall₂ (Engine.Tells c) ([event].filter Event.isNotable)
      ((Engine.handedFor channel event).toList.filter fun n => n.channel = c.id) := by
  cases notable : event.isNotable with
  | true =>
    obtain ⟨n, handed, tells⟩ :=
      Engine.handedFor_of_isNotable (same.isComplete complete) notable
    have own : n.channel = c.id := tells.channel.trans same.id
    simp [notable, handed, own, tells.ofSameSettings same]
  | false =>
    have handed := Engine.handedFor_of_not_isNotable (same.isComplete complete) notable
    simp [notable, handed]

/-- An event is handed to a channel. If that is the channel in question, it has been told now. -/
theorem Keeps.deliver (h : Keeps c p) (complete : c.IsComplete) {loop : Loop} {event : Event}
    {before after : List Channel} {channel : Channel} (running : p.feed.loop = some loop)
    (current : loop.current = some ⟨event, some (before ++ channel :: after)⟩) :
    Keeps c
      ⟨{ p.feed with
          engine := p.feed.engine.perform event (Engine.actionFor channel event) }.withLoop
          ⟨loop.place, loop.missed, some ⟨event, some (before ++ after)⟩⟩,
        p.handed ++ (Engine.handedFor channel event).toList⟩ := by
  obtain ⟨alerts, events, definitions⟩ :=
    Engine.perform_keeps p.feed.engine event (Engine.actionFor channel event)
  have nodup := h.owed_nodup
  have same := h.owed_same
  rw [owed_of_running running current] at nodup same
  have less : (before ++ after).Sublist (before ++ channel :: after) :=
    List.Sublist.append_left (List.sublist_cons_self _ _) _
  have hPlace := h.place loop running
  obtain ⟨place, missed, _⟩ := loop
  obtain rfl := current
  obtain ⟨dispatched, hEvents, hHanded⟩ := h.handed
  rw [dueTo_of_running running, Loop.dueBy_some] at hEvents
  refine h.ofEngine alerts events definitions
    (show Loop.place ⟨place, missed, some ⟨event, some (before ++ after)⟩⟩ ≤ _ from hPlace)
    (nodup.sublist (less.map _)) (fun d hd => same d (less.subset hd)) ?_
  rw [Loop.dueBy_some]
  by_cases own : channel.id = c.id
  · rw [if_pos (Dispatch.owes_of_id own), List.append_cons] at hEvents
    refine ⟨dispatched ++ [event], ?_, ?_⟩
    · rw [Dispatch.owes_of_nodup own nodup]
      exact hEvents
    · rw [List.filter_append]
      exact List.rel_append hHanded
        (forall₂_handedFor (same channel (by simp) own) complete event)
  · rw [Dispatch.owes_of_ne own] at hEvents
    refine ⟨dispatched, hEvents, ?_⟩
    rw [filter_handedFor_of_ne event own, List.append_nil]
    exact hHanded

theorem Step.keeps (step : p.Step p')
    (enabled : p.feed.loop.isSome → p.feed.engine.definitions.Enables c) (complete : c.IsComplete)
    (h : Keeps c p) : p'.feed.HasLagged ∨ Keeps c p' := by
  cases step with
  | deliver running current => exact .inr (h.deliver complete running current)
  | other step none =>
    cases step with
    | work action fresh => exact .inr (h.work action fresh)
    | connect => exact .inr (h.ofHub _ _)
    | disconnect client => exact .inr (h.ofHub _ _)
    | text client said => exact .inr (h.ofHub _ _)
    | read client n => exact .inr (h.ofHub _ _)
    | hangUp client => exact .inr (h.ofHub _ _)
    | start idle early => exact .inr (h.start idle early)
    | receive running idle received => exact .inr (h.receive running idle received)
    | lag running idle received => exact .inl (Feed.hasLagged_of_receive received)
    | lookUp running current =>
      exact .inr (h.lookUp (enabled (by rw [running]; rfl)) running current)
    | deliver running current =>
      rw [owed_of_running running current, owed_of_running rfl rfl] at none
      simp only [List.length_append, List.length_cons] at none
      omega
    | finish running current => exact .inr (h.finish running current)

theorem Reaches.keeps (reaches : Reaches c p p') (complete : c.IsComplete) (h : Keeps c p) :
    p'.feed.HasLagged ∨ Keeps c p' := by
  induction reaches with
  | refl => exact .inr h
  | tail _ step ih =>
    obtain ⟨enabled, step⟩ := step
    rcases ih with lagged | h
    · exact .inl (lagged.step step.feed)
    · exact step.keeps enabled complete h

variable {environment : Environment} {definitions : Definitions} {rules : List Rule}
  {channels : List Channel}
  {historyLimit anomalyLimit eventBuffer clientBuffer maxMetricsBytes : Nat}

theorem keeps_initial (loaded : Definitions.ofLists rules channels = .ok definitions) :
    Keeps c ⟨.initial (.initial environment definitions historyLimit anomalyLimit eventBuffer
      clientBuffer maxMetricsBytes), []⟩ where
  sound := AlertStore.sound_empty ..
  told _ := ⟨fun active => absurd active List.not_mem_nil, fun _ => .inl rfl⟩
  distinct := Definitions.nodup_channels_of_ofLists loaded
  place _ running := nomatch running
  owed_nodup := List.nodup_nil
  owed_same _ hd := absurd hd List.not_mem_nil
  handed := ⟨[], rfl, .nil⟩

end Outbox

end MetricAlerts
