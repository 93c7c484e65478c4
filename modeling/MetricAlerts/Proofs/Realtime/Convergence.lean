import MetricAlerts.Proofs.Engine.Replay
import MetricAlerts.Proofs.Realtime.Feed

/-! What a client knows runs behind the alerts by the events that are still due. It does not matter
that what it was greeted with runs ahead of those: a due event may say something that is no longer
so, but then a later one about the same alert is due as well. -/

namespace MetricAlerts.Feed

/-- What holds as long as no event has been missed: a registered client knows all but the due
events, and of some alerts what those will tell about them. -/
structure Invariant (maxMetricsBytes : Nat) (f : Feed) : Prop where
  sound : f.engine.alerts.Sound
  replay : MetricAlerts.replay f.engine.events = f.engine.alerts.view
  bytes : f.engine.hub.maxMetricsBytes = maxMetricsBytes
  numbered : f.engine.hub.Numbered
  past : ∀ id, f.engine.hub.nextId ≤ id → f.past id = []
  place : ∀ loop, f.loop = some loop → loop.place ≤ f.engine.events.length
  due : f.due <:+ f.engine.events
  view : ∀ id, f.engine.hub.isConnected id → ∃ w : View Alert,
    f.viewOf id = w.map f.engine.hub.copyOf ∧
      replayFrom w f.due = MetricAlerts.replay f.engine.events

variable {f f' : Feed} {maxMetricsBytes : Nat}

theorem due_of_running {loop : Loop} (running : f.loop = some loop) :
    f.due = loop.due f.engine.events := by
  rw [due, running]

theorem due_of_idle (idle : f.loop = none) : f.due = f.engine.events := by
  rw [due, idle]

/-- Whatever is due has been known before, so it changes nothing of what all events tell. -/
theorem Invariant.replayFrom_due (h : f.Invariant maxMetricsBytes) :
    replayFrom f.engine.alerts.view f.due = MetricAlerts.replay f.engine.events := by
  obtain ⟨before, hBefore⟩ := h.due
  rw [← h.replay, ← hBefore, replay_append, replayFrom_replayFrom]

/-- The clients change, and none of those who stay learns or forgets anything. -/
theorem Invariant.ofHub (h : f.Invariant maxMetricsBytes) {hub : Hub}
    {past : Nat → List RealtimeMessage} (frame : f.engine.hub.Frame hub)
    (hPast : ∀ id, hub.nextId ≤ id → past id = [])
    (hView : ∀ id, hub.isConnected id → clientView (past id ++ hub.queueOf id) = f.viewOf id) :
    Invariant maxMetricsBytes { f.withHub hub with past } where
  sound := h.sound
  replay := h.replay
  bytes := frame.maxMetricsBytes.trans h.bytes
  numbered := frame.numbered h.numbered
  past := hPast
  place := h.place
  due := h.due
  view id connected := by
    obtain ⟨w, hW, hDue⟩ := h.view id (frame.isConnected connected)
    refine ⟨w, ?_, hDue⟩
    show clientView (past id ++ hub.queueOf id) = w.map hub.copyOf
    rw [hView id connected, hW, frame.copyOf]

theorem Invariant.ofQuiet (h : f.Invariant maxMetricsBytes) {hub : Hub}
    (quiet : f.engine.hub.Quiet hub) : Invariant maxMetricsBytes (f.withHub hub) :=
  h.ofHub quiet.toFrame (fun id hId => h.past id (quiet.nextId ▸ hId))
    fun id connected => quiet.view id (f.past id) connected

/-- Messages move from the queue of a client to its past. -/
theorem Invariant.ofMoved (h : f.Invariant maxMetricsBytes) {hub : Hub} {client : Nat}
    {messages : List RealtimeMessage} (frame : f.engine.hub.Frame hub)
    (moved : messages ++ hub.queueOf client = f.engine.hub.queueOf client)
    (others : ∀ id, id ≠ client → hub.queueOf id = f.engine.hub.queueOf id) :
    Invariant maxMetricsBytes ((f.withHub hub).withPast client messages) := by
  refine h.ofHub frame ?_ ?_
  · intro id hId
    rw [frame.nextId] at hId
    show (if id = client then f.past id ++ messages else f.past id) = []
    split
    · next same =>
      subst same
      rw [Hub.queueOf_of_le h.numbered hId] at moved
      rw [h.past id hId, (List.append_eq_nil_iff.mp moved).1]
      rfl
    · exact h.past id hId
  · intro id _
    show clientView
      ((if id = client then f.past id ++ messages else f.past id) ++ hub.queueOf id) = _
    split
    · next same =>
      subst same
      rw [List.append_assoc, moved, viewOf]
    · next ne => rw [others id ne, viewOf]

/-- The new client is greeted with what is active, which is what all events tell. -/
theorem Invariant.connect (h : f.Invariant maxMetricsBytes) :
    Invariant maxMetricsBytes
      (f.withHub (f.engine.hub.connect f.engine.alerts.activeAlerts).2) where
  sound := h.sound
  replay := h.replay
  bytes := h.bytes
  numbered := Hub.numbered_connect h.numbered
  past id hId := h.past id (Nat.le_of_succ_le hId)
  place := h.place
  due := h.due
  view id connected := by
    let hub := (f.engine.hub.connect f.engine.alerts.activeAlerts).2
    show ∃ w : View Alert, clientView (f.past id ++ hub.queueOf id) = w.map f.engine.hub.copyOf ∧ _
    by_cases same : id = f.engine.hub.nextId
    · subst same
      refine ⟨f.engine.alerts.view, ?_, h.replayFrom_due⟩
      rw [h.past _ (Nat.le_refl _), Hub.queueOf_connect h.numbered]
      exact Hub.clientView_greeting _ h.sound
    · have before : f.engine.hub.isConnected id := by
        have hMem := Hub.isConnected_iff.mp connected
        rw [withHub, Hub.clientIds_connect] at hMem
        rcases List.mem_append.mp hMem with hMem | hMem
        · exact Hub.isConnected_iff.mpr hMem
        · exact absurd (List.mem_singleton.mp hMem) same
      obtain ⟨w, hW, hDue⟩ := h.view id before
      refine ⟨w, ?_, hDue⟩
      rw [Hub.queueOf_connect_of_ne same]
      exact hW

/-- The events that an action publishes are due after those that were due before. -/
theorem due_work {e : Engine} {published : List Event} (outcome : f.engine.Outcome published e)
    (place : ∀ loop, f.loop = some loop → loop.place ≤ f.engine.events.length) :
    due { f with engine := e } = f.due ++ published := by
  cases running : f.loop with
  | none => simp only [due, running, outcome.events]
  | some loop =>
    simp only [due, running, outcome.events, Loop.due, Loop.dueBy, List.append_assoc]
    rw [List.drop_append_of_le_length (place loop running)]

theorem Invariant.work (h : f.Invariant maxMetricsBytes) (action : Engine.Action)
    (fresh : f.engine.idsUsed < (f.engine.after action).idsUsed → f.engine.IsFresh) :
    Invariant maxMetricsBytes { f with engine := f.engine.after action } := by
  obtain ⟨published, outcome⟩ := Engine.outcome_after h.sound action fresh
  have step : f.engine.FreshStep (f.engine.after action) := ⟨.work action, fresh⟩
  obtain ⟨sound, replay⟩ := step.keeps follows_view h.sound h.replay
  have hDue := due_work outcome h.place
  refine ⟨sound, replay, ?_, ?_, ?_, ?_, ?_, ?_⟩
  · exact outcome.hub ▸ h.bytes
  · exact outcome.hub ▸ h.numbered
  · exact outcome.hub ▸ h.past
  · intro loop running
    show loop.place ≤ (f.engine.after action).events.length
    rw [outcome.events, List.length_append]
    exact Nat.le_add_right_of_le (h.place loop running)
  · rw [hDue]
    show _ <:+ (f.engine.after action).events
    rw [outcome.events]
    obtain ⟨before, hBefore⟩ := h.due
    exact ⟨before, by rw [← List.append_assoc, hBefore]⟩
  · intro id connected
    obtain ⟨w, hW, hReplay⟩ := h.view id (outcome.hub ▸ connected)
    refine ⟨w, ?_, ?_⟩
    · simp only [viewOf] at hW ⊢
      rw [outcome.hub]
      exact hW
    · rw [hDue, replayFrom_append, hReplay, ← replay_append]
      exact congrArg MetricAlerts.replay outcome.events.symm

/-- The dispatch loop goes on without a difference to what is due. -/
theorem Invariant.ofLoop (h : f.Invariant maxMetricsBytes) {loop : Loop}
    (place : loop.place ≤ f.engine.events.length) (same : loop.due f.engine.events = f.due) :
    Invariant maxMetricsBytes (f.withLoop loop) := by
  have hDue : (f.withLoop loop).due = f.due := same
  refine ⟨h.sound, h.replay, h.bytes, h.numbered, h.past, ?_, ?_, ?_⟩
  · intro other running
    cases running
    exact place
  · rw [hDue]
    exact h.due
  · rw [hDue]
    exact h.view

/-- The events before the start of the loop, which nobody is told, are not about alerts. -/
theorem Invariant.start (h : f.Invariant maxMetricsBytes) (idle : f.loop = none)
    (early : ∀ event ∈ f.engine.events, event.alert? = none) :
    Invariant maxMetricsBytes (f.withLoop ⟨f.engine.bus.tail, 0, none⟩) := by
  have hTail : f.engine.bus.tail = f.engine.events.length := rfl
  have hDue : (f.withLoop ⟨f.engine.bus.tail, 0, none⟩).due = [] := by
    show List.drop f.engine.bus.tail f.engine.events = []
    rw [hTail, List.drop_length]
  refine ⟨h.sound, h.replay, h.bytes, h.numbered, h.past, ?_, ?_, ?_⟩
  · intro loop running
    cases running
    exact Nat.le_of_eq hTail
  · rw [hDue]
    exact List.nil_suffix
  · intro id connected
    obtain ⟨w, hW, hReplay⟩ := h.view id connected
    refine ⟨w, hW, ?_⟩
    rw [due_of_idle idle, replayFrom_of_no_alert w early] at hReplay
    rw [hDue]
    exact hReplay

theorem Invariant.receive (h : f.Invariant maxMetricsBytes) {loop : Loop} {event : Event}
    (running : f.loop = some loop) (idle : loop.current = none)
    (received : f.engine.bus.receive loop.place = .event event) :
    Invariant maxMetricsBytes (f.withLoop ⟨loop.place + 1, loop.missed, some ⟨event, none⟩⟩) := by
  obtain ⟨place, missed, current⟩ := loop
  obtain rfl : current = none := idle
  obtain ⟨less, hDrop⟩ := Engine.drop_of_receive received
  refine h.ofLoop less ?_
  rw [due_of_running running, Loop.due_idle, Loop.due_of_isDue rfl, hDrop]

theorem Invariant.lookUp (h : f.Invariant maxMetricsBytes) (hasWebsocket : f.HasWebsocket)
    {loop : Loop} {event : Event} (running : f.loop = some loop)
    (current : loop.current = some ⟨event, none⟩) :
    Invariant maxMetricsBytes (f.withLoop
      ⟨loop.place, loop.missed, some ⟨event, some f.engine.definitions.enabledChannels⟩⟩) := by
  obtain ⟨place, missed, _⟩ := loop
  obtain rfl := current
  have hPlace := h.place _ running
  have hDue : f.due = event :: f.engine.events.drop place :=
    (due_of_running running).trans (Loop.due_of_isDue rfl)
  refine h.ofLoop hPlace ?_
  obtain ⟨channel, hChannel, hType⟩ := hasWebsocket
  obtain ⟨before, after, hSplit⟩ := List.append_of_mem hChannel
  rw [hDue, hSplit, Loop.due_of_isDue (Dispatch.isDue_of_websocket hType)]

theorem Invariant.finish (h : f.Invariant maxMetricsBytes) {loop : Loop} {event : Event}
    (running : f.loop = some loop) (current : loop.current = some ⟨event, some []⟩) :
    Invariant maxMetricsBytes (f.withLoop ⟨loop.place, loop.missed, none⟩) := by
  obtain ⟨place, missed, _⟩ := loop
  obtain rfl := current
  have hPlace := h.place _ running
  refine h.ofLoop hPlace ?_
  rw [due_of_running running, Loop.due_of_not_isDue rfl, Loop.due_idle]

theorem perform_of_websocket (e : Engine) (event : Event) {channel : Channel}
    (h : channel.type = .websocket) :
    e.perform event (Engine.actionFor channel event) =
      { e with hub := (e.hub.broadcastEvent event).2 } := by
  rw [Engine.actionFor_eq_broadcast_iff.mpr h]
  rfl

/-- Other channels change at most what has been written. -/
theorem perform_of_ne (e : Engine) (event : Event) {channel : Channel}
    (h : channel.type ≠ .websocket) :
    ∃ console, e.perform event (Engine.actionFor channel event) = { e with console } := by
  cases hAction : Engine.actionFor channel event with
  | broadcast => exact absurd (Engine.actionFor_eq_broadcast_iff.mp hAction) h
  | write | notify | feedback | skip | fail => exact ⟨_, rfl⟩

/-- The first of several broadcasts of an event tells the clients all of it. -/
theorem Invariant.broadcast (h : f.Invariant maxMetricsBytes) {event : Event} {rest : List Event}
    {loop : Loop} (place : loop.place ≤ f.engine.events.length) (before : f.due = event :: rest)
    (after : loop.due f.engine.events = event :: rest ∨ loop.due f.engine.events = rest) :
    Invariant maxMetricsBytes
      ((f.withHub (f.engine.hub.broadcastEvent event).2).withLoop loop) := by
  have frame := Hub.frame_broadcastEvent f.engine.hub event
  refine ⟨h.sound, h.replay, frame.maxMetricsBytes.trans h.bytes, frame.numbered h.numbered, ?_, ?_,
    ?_, ?_⟩
  · intro id hId
    exact h.past id (frame.nextId ▸ hId)
  · intro other running
    cases running
    exact place
  · show loop.due f.engine.events <:+ f.engine.events
    have hSuffix := h.due
    rw [before] at hSuffix
    obtain hAfter | hAfter := after
    · exact hAfter ▸ hSuffix
    · exact hAfter ▸ (List.suffix_cons event rest).trans hSuffix
  · intro id connected
    obtain ⟨w, hW, hReplay⟩ := h.view id (frame.isConnected connected)
    refine ⟨event.applyTo w, ?_, ?_⟩
    · show clientView (f.past id ++ (f.engine.hub.broadcastEvent event).2.queueOf id) =
        (event.applyTo w).map (f.engine.hub.broadcastEvent event).2.copyOf
      rw [Hub.clientView_broadcastEvent (f.past id) connected, frame.copyOf,
        ← Hub.applyTo_messageOf, ← hW]
      rfl
    · rw [before, replayFrom_cons] at hReplay
      show replayFrom (event.applyTo w) (loop.due f.engine.events) = _
      obtain hAfter | hAfter := after
      · rw [hAfter, replayFrom_cons, Event.applyTo_applyTo]
        exact hReplay
      · rw [hAfter]
        exact hReplay

theorem Invariant.deliver (h : f.Invariant maxMetricsBytes) {loop : Loop} {event : Event}
    {before after : List Channel} {channel : Channel} (running : f.loop = some loop)
    (current : loop.current = some ⟨event, some (before ++ channel :: after)⟩) :
    Invariant maxMetricsBytes
      ({ f with engine := f.engine.perform event (Engine.actionFor channel event) }.withLoop
        ⟨loop.place, loop.missed, some ⟨event, some (before ++ after)⟩⟩) := by
  obtain ⟨place, missed, _⟩ := loop
  obtain rfl := current
  have hPlace := h.place _ running
  have hDue := due_of_running running
  by_cases websocket : channel.type = .websocket
  · rw [perform_of_websocket _ _ websocket]
    rw [Loop.due_of_isDue (Dispatch.isDue_of_websocket websocket)] at hDue
    refine h.broadcast hPlace hDue ?_
    cases hAfter : Dispatch.isDue ⟨event, some (before ++ after)⟩ with
    | true => exact .inl (Loop.due_of_isDue hAfter)
    | false => exact .inr (Loop.due_of_not_isDue hAfter)
  · obtain ⟨console, hPerform⟩ := perform_of_ne f.engine event websocket
    rw [hPerform]
    have same : Loop.due ⟨place, missed, some ⟨event, some (before ++ after)⟩⟩ f.engine.events =
        f.due := by
      rw [hDue, Loop.due_some, Loop.due_some, Dispatch.isDue_of_ne websocket]
    have next : Invariant maxMetricsBytes
        (f.withLoop ⟨place, missed, some ⟨event, some (before ++ after)⟩⟩) := h.ofLoop hPlace same
    exact ⟨next.sound, next.replay, next.bytes, next.numbered, next.past, next.place, next.due,
      next.view⟩

theorem Step.keeps (step : f.Step f') (hasWebsocket : f.HasWebsocket)
    (h : f.Invariant maxMetricsBytes) : f'.HasLagged ∨ f'.Invariant maxMetricsBytes := by
  cases step with
  | work action fresh => exact .inr (h.work action fresh)
  | connect => exact .inr h.connect
  | disconnect client => exact .inr (h.ofQuiet (Hub.quiet_disconnect _ client))
  | text client text => exact .inr (h.ofQuiet (Hub.quiet_handleText _ client text))
  | read client n =>
    refine .inr (h.ofMoved (Hub.frame_read _ client n) ?_ fun id ne => Hub.queueOf_read_of_ne n ne)
    rw [Hub.queueOf_read, List.take_append_drop]
  | hangUp client =>
    refine .inr (h.ofMoved (Hub.frame_dropReceiver _ client) ?_
      fun id ne => Hub.queueOf_dropReceiver_of_ne ne)
    rw [Hub.queueOf_dropReceiver, List.append_nil]
  | start idle early => exact .inr (h.start idle early)
  | receive running idle received => exact .inr (h.receive running idle received)
  | lag running idle received => exact .inl (hasLagged_of_receive received)
  | lookUp running current => exact .inr (h.lookUp hasWebsocket running current)
  | deliver running current => exact .inr (h.deliver running current)
  | finish running current => exact .inr (h.finish running current)

/-- What has been missed stays missed. -/
theorem HasLagged.step (h : f.HasLagged) (step : f.Step f') : f'.HasLagged := by
  obtain ⟨loop, hLoop, hMissed⟩ := h
  cases step with
  | start idle => rw [idle] at hLoop; cases hLoop
  | receive running | lookUp running | deliver running | finish running =>
    rw [running] at hLoop
    cases hLoop
    exact ⟨_, rfl, hMissed⟩
  | lag running =>
    rw [running] at hLoop
    cases hLoop
    exact ⟨_, rfl, Nat.lt_add_right _ hMissed⟩
  | work | connect | disconnect | text | read | hangUp => exact ⟨loop, hLoop, hMissed⟩

theorem Reaches.invariant (reaches : f.Reaches f') (h : f.Invariant maxMetricsBytes) :
    f'.HasLagged ∨ f'.Invariant maxMetricsBytes := by
  induction reaches with
  | refl => exact .inr h
  | tail _ step ih =>
    obtain ⟨hasWebsocket, step⟩ := step
    obtain hLagged | h := ih
    · exact .inl (hLagged.step step)
    · exact step.keeps hasWebsocket h

/-- Nothing is due when the bus is drained. -/
theorem due_of_drained {loop : Loop} (running : f.loop = some loop) (idle : loop.current = none)
    (drained : f.engine.bus.receive loop.place = .empty) : f.due = [] := by
  obtain ⟨place, missed, _⟩ := loop
  obtain rfl := idle
  rw [due_of_running running, Loop.due_idle, Engine.drop_of_empty drained]

variable {environment : Environment} {definitions : Definitions}
  {historyLimit anomalyLimit eventBuffer clientBuffer : Nat}

theorem invariant_initial : Invariant maxMetricsBytes (initial (.initial environment definitions
    historyLimit anomalyLimit eventBuffer clientBuffer maxMetricsBytes)) where
  sound := AlertStore.sound_empty ..
  replay := rfl
  bytes := rfl
  numbered := Hub.numbered_empty ..
  past _ _ := rfl
  place _ running := nomatch running
  due := List.suffix_refl _
  view _ connected := nomatch connected

/-- Take any run of an engine whose dispatch loop starts before the first alert and never misses an
event, while events go to the clients all the time. Whenever no dispatch is on and no event waits
for one, every registered client, whenever it came, knows exactly the active alerts. -/
theorem viewOf_drained (reaches : Reaches (initial (.initial environment definitions historyLimit
      anomalyLimit eventBuffer clientBuffer maxMetricsBytes)) f) {loop : Loop}
    (running : f.loop = some loop) (onTime : loop.missed = 0) (idle : loop.current = none)
    (drained : f.engine.bus.receive loop.place = .empty) {client : Nat}
    (connected : f.engine.hub.isConnected client) (id : String) (copy : Json) :
    f.viewOf client id = some copy ↔
      ∃ key a, (key, a) ∈ f.engine.alerts.active ∧ a.id = id ∧
        copy = a.broadcastCopy maxMetricsBytes := by
  have h : f.Invariant maxMetricsBytes := by
    refine (reaches.invariant invariant_initial).resolve_left ?_
    rintro ⟨other, hOther, hMissed⟩
    rw [running] at hOther
    cases hOther
    omega
  obtain ⟨w, hW, hReplay⟩ := h.view client connected
  rw [due_of_drained running idle drained, replayFrom_nil, h.replay] at hReplay
  rw [hW, hReplay, View.map, Option.map_eq_some_iff]
  simp only [AlertStore.view_eq_some_iff h.sound.ids_nodup, Hub.copyOf, h.bytes]
  constructor
  · rintro ⟨a, ⟨key, hMem, hId⟩, rfl⟩
    exact ⟨key, a, hMem, hId, rfl⟩
  · rintro ⟨key, a, hMem, hId, rfl⟩
    exact ⟨a, ⟨key, hMem, hId⟩, rfl⟩

/-- An engine that writes its events and hands them to clients. -/
def diskFeed : Feed :=
  initial (.initial Engine.diskEngine.environment
    ⟨[AlertStore.diskRule], Definitions.builtinChannels⟩ 2 1 4 4 100)

/-- A second client comes while the event is on its way that it is greeted with already. -/
theorem viewOf_drained_diskFeed :
    ∃ (f : Feed) (loop : Loop), Reaches diskFeed f ∧ f.loop = some loop ∧ loop.missed = 0 ∧
      loop.current = none ∧ f.engine.bus.receive loop.place = .empty ∧
      f.engine.hub.isConnected 2 ∧ (f.viewOf 2 "first").isSome := by
  have reaches : Reaches diskFeed _ :=
    .head ⟨by decide, .start rfl (by decide)⟩ <|
    .head ⟨by decide, .connect⟩ <|
    .head ⟨by decide, .work Engine.raiseDisk (by decide)⟩ <|
    .head ⟨by decide, .receive rfl rfl rfl⟩ <|
    .head ⟨by decide, .connect⟩ <|
    .head ⟨by decide, .lookUp rfl rfl⟩ <|
    .head ⟨by decide, @Step.deliver _ _ _ (Definitions.builtinChannels.take 1) [] _ rfl rfl⟩ <|
    .head ⟨by decide, @Step.deliver _ _ _ [] [] _ rfl rfl⟩ <|
    .head ⟨by decide, .finish rfl rfl⟩ .refl
  refine ⟨_, _, reaches, rfl, rfl, rfl, rfl, rfl, ?_⟩
  rw [Option.isSome_iff_exists]
  exact ⟨_, (viewOf_drained reaches rfl rfl rfl rfl rfl "first" _).mpr
    ⟨"first", _, List.mem_of_mem_head? rfl, rfl, rfl⟩⟩

end MetricAlerts.Feed
