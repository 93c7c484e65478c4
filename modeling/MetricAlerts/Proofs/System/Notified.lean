import MetricAlerts.Proofs.Dispatch.Incidents
import MetricAlerts.Proofs.System.Attended

/-! The notifications that a system hands to the transport for a channel that stays complete and
enabled. Whatever the transport makes of them and whatever else happens, they are those of the
events that open and close alerts (`Station.notifications_pair`). -/

namespace MetricAlerts

/-- An event whose channels have yet to be looked up. -/
def DispatchState.pending : DispatchState → List Event
  | .taken event => [event]
  | .handedOut _ _ => []

/-- The events that a dispatch loop has yet to hand to the channels. -/
def LoopState.pending (state : LoopState) (events : List Event) : List Event :=
  state.current.toList.flatMap DispatchState.pending ++ events.drop state.place

namespace System

/-- The events that have not been handed to the channels yet. Before the dispatch loop starts none
of them has been. -/
def pending (s : System) : List Event :=
  match s.loop? with
  | some state => state.pending s.engine.events
  | none => s.engine.events

/-- The notifications that the transport has been handed for the channel with an id. -/
def handedTo (s : System) (id : String) : List Notification :=
  s.notifications.filter fun n => n.channel = id

/-- Those of them that arrive, sooner or later. -/
def expectedAt (s : System) (id : String) : List Notification :=
  s.expected.filter fun n => n.channel = id

/-- What has arrived at the channel with an id. -/
def sentTo (s : System) (id : String) : List Notification :=
  s.sent.toList.filter fun n => n.channel = id

/-- What is under way to the channel with an id. -/
def inTransitTo (s : System) (id : String) : List Notification :=
  s.inTransit.filter fun n => n.channel = id

variable {s : System} {state : Option LoopState} {loop : Option Loop}

theorem IsBalanced.at (h : s.IsBalanced) (id : String) :
    (s.expectedAt id).Perm (s.sentTo id ++ s.inTransitTo id) := by
  rw [expectedAt, sentTo, inTransitTo, ← List.filter_append]
  exact h.filter _

/-- Only announcements are put off. -/
theorem Owes.websocket {deliveries : List Delivery} {channels : List Channel}
    (owes : Owes deliveries channels) : ∀ d ∈ channels, d.type = .websocket := by
  induction owes with
  | nil => exact List.forall_mem_nil _
  | announcing websocket _ ih => exact List.forall_mem_cons.mpr ⟨websocket, ih⟩
  | handed _ _ ih => exact ih

end System

namespace Outbox

variable {c : Channel} {s : System} {loop : Option Loop} {past : Nat → List RealtimeMessage}
  {handed : List Notification}

/-- What is due to a channel outside is what has not been handed to any channel. -/
theorem Keeps.dueTo_eq_pending (h : Keeps c ⟨⟨s.engine, loop, past⟩, handed⟩)
    (external : c.IsExternal) (isLoop : System.IsLoop s.loop? loop) :
    Feed.dueTo ⟨s.engine, loop, past⟩ c.id = s.pending := by
  have same := h.owed_same
  unfold System.pending
  generalize s.loop? = state at isLoop ⊢
  cases isLoop with
  | off => rfl
  | @on state current matching =>
    have current_eq : ((current.toList.filter (Dispatch.owes c.id)).map Dispatch.event) =
        state.current.toList.flatMap DispatchState.pending := by
      generalize state.current = taken at matching
      cases matching with
      | idle => rfl
      | taken event => rfl
      | @handedOut event deliveries channels owes =>
        have none : Dispatch.owes c.id ⟨event, some channels⟩ = false := by
          refine List.any_eq_false.mpr fun d mem own => ?_
          have websocket := owes.websocket d mem
          rw [(same d mem (of_decide_eq_true own)).type] at websocket
          rcases external with type | type | type <;> rw [type] at websocket <;> cases websocket
        simp [none, DispatchState.pending]
    exact congrArg (· ++ s.engine.events.drop state.place) current_eq

end Outbox

namespace Station

/-- A run in which a channel is enabled as long as there is a dispatch loop. -/
abbrev Reaches (c : Channel) : Station → Station → Prop :=
  StepsWhile fun running definitions => running → definitions.Enables c

variable {c : Channel} {t : Station} {environment : Environment} {definitions : Definitions}
  {rules : List Rule} {channels : List Channel} {analyzer : Analyzer}
  {historyLimit anomalyLimit eventBuffer clientBuffer maxMetricsBytes callLimit : Nat}

/-- Take any run of a system in which all alerts are new, whose dispatch loop starts before the
first alert, goes on and misses no event, and a channel for external notifications that is complete
and enabled all the time. The transport may do with the notifications what it likes. Those that it
is handed for the channel are those about the events that open or close an alert, in their order,
and none about others. For PagerDuty every alert whose opening has been dispatched has one
notification that triggers and then at most one that resolves, which carry its key, there are no
others, and no two alerts share a key. Of all these the ones that arrive have arrived or are under
way. -/
theorem notifications_pair (loaded : Definitions.ofLists rules channels = .ok definitions)
    (complete : c.IsComplete)
    (reaches : Reaches c (.initial (.initial environment definitions historyLimit anomalyLimit
      eventBuffer clientBuffer maxMetricsBytes) analyzer callLimit) t)
    (new : AreNew t.system.engine.events)
    (onTime : ∀ state ∈ t.system.loop?, state.missed = 0) :
    ∃ dispatched, t.system.engine.events = dispatched ++ t.system.pending ∧
      List.Forall₂ (Engine.Tells c) (dispatched.filter Event.isNotable) (t.system.handedTo c.id) ∧
      (c.type = .pagerDuty → Notification.Pair dispatched (t.system.handedTo c.id)) ∧
      (t.system.expectedAt c.id).Perm (t.system.sentTo c.id ++ t.system.inTransitTo c.id) := by
  obtain ⟨loop, isLoop, balanced, steps⟩ := exists_outbox reaches (Engine.isGrounded_initial ..) new
  have punctual : ¬ Feed.HasLagged ⟨t.system.engine, loop, t.past⟩ := by
    rintro ⟨running, found, missed⟩
    generalize t.system.loop? = state at isLoop onTime
    cases isLoop with
    | off => cases found
    | on same =>
      cases found
      exact absurd missed (by simp [onTime])
  have run : Outbox.Reaches c _ _ := steps
  have h := (run.keeps complete (Outbox.keeps_initial loaded)).resolve_left punctual
  obtain ⟨dispatched, hEvents, told⟩ := h.handed
  rw [h.dueTo_eq_pending complete.isExternal isLoop] at hEvents
  exact ⟨dispatched, hEvents, told, fun type => h.pair type ⟨_, hEvents.symm⟩ told,
    balanced.at c.id⟩

/-- What the analyzer says about a slow disk. -/
def slowDisk : Explanation :=
  { Explanation.neutral with anomalies := [⟨none, none, .error, "slow", none⟩] }

/-- A station that pages about disks. -/
def diskStation : Station :=
  .initial
    (.initial Engine.diskEngine.environment ⟨[AlertStore.diskRule], [Outbox.pager]⟩ 2 1 4 4 100)
    { Analyzer.neutral with explanations := [⟨.answer slowDisk, 0⟩] } 1

/-- An alert is raised while the transport fails, and resolved when it does not fail any more. -/
def pagedRun : Nat → System
  | 0 => diskStation.system
  | n + 1 =>
    let s := pagedRun n
    match n with
    | 0 => { s with transport := { s.transport with failing := ["pager"] } }
    | 1 => (s.spawn (.dispatchLoop s.engine.bus.tail)).2
    | 2 =>
      (s.withEngine (s.engine.evaluateRule AlertStore.diskRule "node" .null).2.2).spawnAll
        ((s.engine.evaluateRule AlertStore.diskRule "node" .null).2.1.toList.map fun check =>
          .detect "node" [check])
    | 3 => s.turn 1
    | 5 => { s with transport := .reliable }
    | 6 => s.withEngine (s.engine.after (.resolve "first" none))
    | _ => s.turn 0

theorem step_pagedRun : ∀ n < 8,
    (pagedRun n).engine.definitions = ⟨[AlertStore.diskRule], [Outbox.pager]⟩ ∧
      Step ⟨pagedRun n, fun _ => []⟩ ⟨pagedRun (n + 1), fun _ => []⟩
  | 0, _ => ⟨rfl, .goes (.unattended (.arrange (.of_eq rfl rfl rfl rfl rfl rfl rfl) rfl)) nofun⟩
  | 1, _ => ⟨rfl, .start rfl (by decide)⟩
  | 2, _ => ⟨rfl, .goes (.examine AlertStore.diskRule "node" .null) fun _ => rfl⟩
  | 3, _ => ⟨rfl, .goes (.unattended (.turn 1)) fun _ => rfl⟩
  | 4, _ => ⟨rfl, .goes (.unattended (.turn 0)) fun _ => rfl⟩
  | 5, _ =>
    ⟨rfl, .goes (.unattended (.arrange (.of_eq rfl rfl rfl rfl rfl rfl rfl) rfl)) fun _ => rfl⟩
  | 6, _ => ⟨rfl, @Step.act _ (.resolve "first" none) trivial⟩
  | 7, _ => ⟨rfl, .goes (.unattended (.turn 0)) fun _ => rfl⟩
  | n + 8, less => absurd less (by omega)

theorem reaches_pagedRun (n : Nat) (le : n ≤ 8) :
    Reaches Outbox.pager diskStation ⟨pagedRun n, fun _ => []⟩ := by
  induction n with
  | zero => exact .refl
  | succ n ih =>
    obtain ⟨definitions, step⟩ := step_pagedRun n le
    refine (ih (Nat.le_of_succ_le le)).tail ⟨fun _ => ?_, step⟩
    rw [definitions]
    exact ⟨Outbox.pager, by simp [Definitions.enabledChannels, Outbox.pager], .refl _⟩

/-- Both notifications are handed to the transport, of which one arrives. -/
theorem notifications_pair_pager :
    Definitions.ofLists [AlertStore.diskRule] [Outbox.pager] =
        .ok ⟨[AlertStore.diskRule], [Outbox.pager]⟩ ∧
      Outbox.pager.IsComplete ∧ Reaches Outbox.pager diskStation ⟨pagedRun 8, fun _ => []⟩ ∧
      AreNew (pagedRun 8).engine.events ∧ (∀ state ∈ (pagedRun 8).loop?, state.missed = 0) ∧
      (pagedRun 8).engine.events.map Event.kind = ["created", "resolved"] ∧
      ((pagedRun 8).handedTo "pager").map Notification.action? = [some "trigger", some "resolve"] ∧
      ((pagedRun 8).sentTo "pager").map Notification.action? = [some "resolve"] := by
  have loaded : Definitions.ofLists [AlertStore.diskRule] [Outbox.pager] =
    .ok ⟨[AlertStore.diskRule], [Outbox.pager]⟩ := rfl
  have complete : Outbox.pager.IsComplete := ⟨"key", rfl, by decide⟩
  have new : AreNew (pagedRun 8).engine.events := by decide
  have onTime : ∀ state ∈ (pagedRun 8).loop?, state.missed = 0 := by decide
  have reaches := reaches_pagedRun 8 (Nat.le_refl 8)
  have paired := notifications_pair loaded complete reaches new onTime
  obtain ⟨dispatched, hEvents, -, pages, -⟩ := paired
  have actions := Outbox.actions_of_pages (pages rfl).pages
  have all : dispatched = _ := (List.append_nil _).symm.trans hEvents.symm
  rw [all] at actions
  exact ⟨loaded, complete, reaches, new, onTime, by decide, actions, by decide⟩

end Station

end MetricAlerts
