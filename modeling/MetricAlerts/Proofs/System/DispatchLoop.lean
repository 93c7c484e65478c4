import MetricAlerts.Proofs.Dispatch.Outbox
import MetricAlerts.Proofs.Dispatch.Watch
import MetricAlerts.Proofs.System.Mail

/-! The dispatch loop of a system goes from event to event as that of a feed does, however often it
has to put off the rest of its turn. What it hands to the transport on the way are the notifications
of its moves, whether they arrive or not (`moves_runLoop`, `outbox_runLoop`). -/

namespace MetricAlerts

/-- The feedback that a move of a loop gives cause for. -/
def Loop.Move.work? : Move → Option Work
  | .deliver event channel => feedbackFor? event channel
  | _ => none

namespace System

/-- A dispatch loop goes on by moves. The feedback that they give cause for begins, and their
notifications are what the transport is handed. -/
def MovesWith (s : System) (loop : Loop) (post : List Handover) (s' : System) (loop' : Loop) :
    Prop :=
  ∃ moves, Loop.Rounds (s.engine, loop) moves (s'.engine, loop') ∧
    s.Spawns (moves.filterMap Loop.Move.work?) s' ∧
    post.map Handover.notification = moves.filterMap Loop.Move.notification?

/-- A dispatch loop goes on by moves, with some notifications under way at first and at last. -/
def Moves (s : System) (loop : Loop) (transit : List Notification) (s' : System) (loop' : Loop)
    (transit' : List Notification) : Prop :=
  ∃ post, s.MovesWith loop post s' loop' ∧ s.Mails transit post s' transit'

/-- The channels that deliveries have yet to reach: those whose announcement has been put off. -/
inductive Owes : List Delivery → List Channel → Prop
  | nil : Owes [] []
  | announcing {deliveries : List Delivery} {channel : Channel} {channels : List Channel}
      (websocket : channel.type = .websocket) (later : Owes deliveries channels) :
      Owes (.announcing :: deliveries) (channel :: channels)
  | handed {delivery : Delivery} {deliveries : List Delivery} {channels : List Channel}
      (ne : delivery ≠ .announcing) (later : Owes deliveries channels) :
      Owes (delivery :: deliveries) channels

/-- A dispatch as a system and as a feed have it. -/
inductive Matches : Option DispatchState → Option Dispatch → Prop
  | idle : Matches none none
  | taken (event : Event) : Matches (some (.taken event)) (some ⟨event, none⟩)
  | handedOut {event : Event} {deliveries : List Delivery} {channels : List Channel}
      (owes : Owes deliveries channels) :
      Matches (some (.handedOut event deliveries)) (some ⟨event, some channels⟩)

variable {s s' s'' : System} {loop loop' loop'' : Loop} {past : Nat → List RealtimeMessage}
  {place missed : Nat} {event : Event} {transit transit' transit'' more more' : List Notification}

theorem MovesWith.trans {post later : List Handover} (first : s.MovesWith loop post s' loop')
    (second : s'.MovesWith loop' later s'' loop'') :
    s.MovesWith loop (post ++ later) s'' loop'' := by
  obtain ⟨moves, rounds, spawns, same⟩ := first
  obtain ⟨moves', rest, spawns', same'⟩ := second
  refine ⟨moves ++ moves', rounds.append rest, ?_, ?_⟩
  · rw [List.filterMap_append]
    exact spawns.trans spawns'
  · rw [List.map_append, List.filterMap_append, same, same']

theorem Moves.trans (first : s.Moves loop transit s' loop' transit')
    (second : s'.Moves loop' transit' s'' loop'' transit'') :
    s.Moves loop transit s'' loop'' transit'' := by
  obtain ⟨post, moves, mails⟩ := first
  obtain ⟨later, moves', mails'⟩ := second
  exact ⟨post ++ later, moves.trans moves', mails.trans mails'⟩

/-- What is under way after the first stretch stays under way. -/
theorem Moves.beside (first : s.Moves loop transit s' loop' transit')
    (second : s'.Moves loop' more s'' loop'' more') :
    s.Moves loop (transit ++ more) s'' loop'' (transit' ++ more') := by
  obtain ⟨post, moves, mails⟩ := first
  obtain ⟨later, moves', mails'⟩ := second
  exact ⟨post ++ later, moves.trans moves', mails.beside mails'⟩

/-- The loop stays where it is. -/
theorem Moves.rest (spawns : s.Spawns [] s') (mails : s.Mails transit [] s' transit')
    (engine : s'.engine = s.engine) : s.Moves loop transit s' loop transit' :=
  ⟨[], ⟨[], engine ▸ .nil _, spawns, rfl⟩, mails⟩

theorem Moves.of_begins (begins : s.Begins [] s') (engine : s'.engine = s.engine) :
    s.Moves loop transit s' loop transit :=
  .rest begins.toSpawns begins.mails engine

theorem Moves.refl (s : System) (loop : Loop) (transit : List Notification) :
    s.Moves loop transit s loop transit :=
  .of_begins (.refl s) rfl

theorem Moves.single (move : Loop.Move) (goes : loop.Goes s.engine move s'.engine loop')
    (spawns : s.Spawns move.work?.toList s') {handover : Option Handover}
    (mails : s.Mails transit handover.toList s' transit')
    (same : handover.map Handover.notification = move.notification?) :
    s.Moves loop transit s' loop' transit' := by
  refine ⟨handover.toList, ⟨[move], .cons goes (.nil _), ?_, ?_⟩, mails⟩
  · rw [List.filterMap_eq_flatMap_toList, List.flatMap_singleton]
    exact spawns
  · rw [List.filterMap_eq_flatMap_toList, List.flatMap_singleton, ← same]
    cases handover <;> rfl

/-- A move of which nobody is notified. -/
theorem Moves.quiet (move : Loop.Move) (goes : loop.Goes s.engine move s'.engine loop')
    (begins : s.Begins move.work?.toList s') (nothing : move.notification? = none) :
    s.Moves loop transit s' loop' transit :=
  .single move goes begins.toSpawns (show s.Mails _ (none : Option Handover).toList _ _ from
    begins.mails) nothing.symm

/-- An announcement is put off or made. -/
theorem announce_cases (s : System) (event : Event) :
    (s.announce event).1 = .announcing ∧ (s.announce event).2.engine = s.engine ∨
      (s.announce event).1 ≠ .announcing ∧
        (s.announce event).2.engine = s.engine.perform event .broadcast := by
  have hVisit := engine_visitOpen s
  unfold announce
  split
  · next visited found =>
    rw [found] at hVisit
    refine .inr ?_
    simp only
    split
    · refine ⟨?_, (engine_dropFailed _).trans (congrArg (Engine.perform · event .broadcast) hVisit)⟩
      unfold dropFailed
      split <;> simp
    · exact ⟨by simp, congrArg (Engine.perform · event .broadcast) hVisit⟩
  · next visited found =>
    rw [found] at hVisit
    exact .inl ⟨rfl, hVisit⟩

/-- A delivery to a channel is an announcement that is put off, or does what there is to do. -/
theorem deliverTo_cases (s : System) (event : Event) (channel : Channel) :
    (s.deliverTo event channel).1 = .announcing ∧ channel.type = .websocket ∧
        (s.deliverTo event channel).2.engine = s.engine ∨
      (s.deliverTo event channel).1 ≠ .announcing ∧
        (s.deliverTo event channel).2.engine =
          s.engine.perform event (Engine.actionFor channel event) := by
  simp only [deliverTo]
  split
  · next found => exact .inr ⟨by simp, by rw [found]⟩
  · next found =>
    have websocket := Engine.actionFor_eq_broadcast_iff.mp found
    rw [found]
    exact (announce_cases s event).imp_left fun h => ⟨h.1, websocket, h.2⟩
  · next found => exact .inr ⟨by simp, by rw [found]; rfl⟩
  · next found => exact .inr ⟨by simp, by rw [found]; rfl⟩
  · next found => exact .inr ⟨by simp, by rw [found]; rfl⟩
  · next found =>
    refine .inr ?_
    rw [found]
    split
    · refine ⟨?_, engine_settleDelivery ..⟩
      unfold settleDelivery
      split <;> simp
    · exact ⟨by simp, rfl⟩

/-! Dispatch. -/

theorem notification_handoverFor? (s : System) (event : Event) (channel : Channel) :
    (s.handoverFor? event channel).map Handover.notification = Engine.handedFor channel event := by
  rw [handoverFor?, Option.map_map]
  exact Option.map_id'

/-- There is no notification for a websocket channel. -/
theorem handedFor_of_websocket {channel : Channel} (websocket : channel.type = .websocket)
    (event : Event) : Engine.handedFor channel event = none := by
  rw [Engine.handedFor, Engine.actionFor_eq_broadcast_iff.mpr websocket]

/-- An event is handed to the channels one after another, except for announcements that are put
off. -/
theorem moves_deliverToAll (place missed : Nat) (event : Event) (channels kept : List Channel)
    (s : System) :
    ∃ owed, Owes (deliverToAll event channels s).1 owed ∧
      s.Moves ⟨place, missed, some ⟨event, some (kept ++ channels)⟩⟩ []
        (deliverToAll event channels s).2 ⟨place, missed, some ⟨event, some (kept ++ owed)⟩⟩
        ((deliverToAll event channels s).1.flatMap Delivery.inTransit) := by
  induction channels generalizing kept s with
  | nil => exact ⟨[], .nil, .refl ..⟩
  | cons channel channels ih =>
    have spawns := spawns_deliverTo s event channel
    have mails := mails_deliverTo s event channel
    obtain ⟨hAnnouncing, websocket, hEngine⟩ | ⟨ne, hEngine⟩ := deliverTo_cases s event channel
    · obtain ⟨owed, owes, rest⟩ := ih (kept ++ [channel]) (s.deliverTo event channel).2
      refine ⟨channel :: owed, ?_, ?_⟩
      · show Owes ((s.deliverTo event channel).1 :: _) _
        rw [hAnnouncing]
        exact .announcing websocket owes
      · rw [feedbackFor?, Engine.actionFor_eq_broadcast_iff.mpr websocket] at spawns
        rw [handoverFor?, handedFor_of_websocket websocket] at mails
        rw [List.append_assoc, List.append_assoc] at rest
        exact Moves.beside (.rest spawns mails hEngine) rest
    · obtain ⟨owed, owes, rest⟩ := ih kept (s.deliverTo event channel).2
      refine ⟨owed, .handed ne owes, Moves.beside (.single (.deliver event channel) ?_ spawns mails
        (notification_handoverFor? s event channel)) rest⟩
      rw [hEngine]
      exact .deliver rfl

theorem continueDelivery_of_ne (s : System) (event : Event) {delivery : Delivery}
    (ne : delivery ≠ .announcing) :
    (s.continueDelivery event delivery).1 ≠ .announcing ∧
      (s.continueDelivery event delivery).2.engine = s.engine := by
  cases delivery with
  | settled => exact ⟨ne, rfl⟩
  | underway wait notification arrives =>
    simp only [continueDelivery]
    split
    · refine ⟨?_, engine_settleDelivery ..⟩
      unfold settleDelivery
      split <;> simp
    · exact ⟨ne, rfl⟩
  | announcing => exact absurd rfl ne
  | dropping =>
    refine ⟨?_, engine_dropFailed s⟩
    simp only [continueDelivery, dropFailed]
    split <;> simp

/-- Deliveries go on, and announcements that have been put off are made. -/
theorem moves_continueDeliveries {deliveries : List Delivery} {channels : List Channel}
    (owes : Owes deliveries channels) (kept : List Channel) (s : System) :
    ∃ owed, Owes (continueDeliveries event deliveries s).1 owed ∧
      s.Moves ⟨place, missed, some ⟨event, some (kept ++ channels)⟩⟩
        (deliveries.flatMap Delivery.inTransit) (continueDeliveries event deliveries s).2
        ⟨place, missed, some ⟨event, some (kept ++ owed)⟩⟩
        ((continueDeliveries event deliveries s).1.flatMap Delivery.inTransit) := by
  induction owes generalizing kept s with
  | nil => exact ⟨[], .nil, .refl ..⟩
  | @announcing deliveries channel channels websocket _ ih =>
    have begins := begins_announce s event
    have mails : s.Mails [] [] (s.announce event).2 (s.announce event).1.inTransit :=
      mails_continueDelivery s event .announcing
    obtain ⟨hAnnouncing, hEngine⟩ | ⟨ne, hEngine⟩ := announce_cases s event
    · obtain ⟨owed, owes, rest⟩ := ih (kept ++ [channel]) (s.announce event).2
      refine ⟨channel :: owed, ?_, ?_⟩
      · show Owes ((s.announce event).1 :: _) _
        rw [hAnnouncing]
        exact .announcing websocket owes
      · rw [List.append_assoc, List.append_assoc] at rest
        exact Moves.beside (.rest begins.toSpawns mails hEngine) rest
    · have broadcast : Engine.actionFor channel event = .broadcast :=
        Engine.actionFor_eq_broadcast_iff.mpr websocket
      obtain ⟨owed, owes, rest⟩ := ih kept (s.announce event).2
      refine ⟨owed, .handed ne owes, Moves.beside (.single (.deliver event channel) ?_ ?_
        (show s.Mails _ (none : Option Handover).toList _ _ from mails)
        (handedFor_of_websocket websocket event).symm) rest⟩
      · rw [hEngine, ← broadcast]
        exact .deliver rfl
      · rw [Loop.Move.work?, feedbackFor?, broadcast]
        exact begins.toSpawns
  | @handed delivery deliveries channels ne _ ih =>
    obtain ⟨ne', hEngine⟩ := continueDelivery_of_ne s event ne
    obtain ⟨owed, owes, rest⟩ := ih kept (s.continueDelivery event delivery).2
    exact ⟨owed, .handed ne' owes,
      Moves.beside (.rest (spawns_continueDelivery ..) (mails_continueDelivery ..) hEngine) rest⟩

/-- The dispatch of an event goes on. -/
theorem moves_continueDispatch {state : DispatchState} {dispatch : Dispatch}
    (same : Matches (some state) (some dispatch)) (s : System) :
    ∃ dispatch', Matches (some (s.continueDispatch state).1) (some dispatch') ∧
      s.Moves ⟨place, missed, some dispatch⟩ state.inTransit (s.continueDispatch state).2
        ⟨place, missed, some dispatch'⟩ (s.continueDispatch state).1.inTransit := by
  cases same with
  | taken event =>
    have hVisit := engine_visitOpen s
    have begins := begins_visitOpen s
    simp only [continueDispatch]
    split
    · next visited found =>
      rw [found] at hVisit begins
      obtain ⟨owed, owes, rest⟩ := moves_deliverToAll place missed event
        visited.engine.definitions.enabledChannels [] visited
      refine ⟨_, .handedOut owes, .trans (.quiet (.lookUp event) ?_ begins rfl) rest⟩
      rw [hVisit]
      exact .lookUp rfl
    · next visited found =>
      rw [found] at hVisit begins
      exact ⟨_, .taken event, .of_begins begins hVisit⟩
  | handedOut owes =>
    obtain ⟨owed, owes', moves⟩ := moves_continueDeliveries owes [] s
    exact ⟨_, .handedOut owes', moves⟩

/-- Where there is a report, all deliveries are settled. -/
theorem exists_outcome {deliveries : List Delivery}
    (settled : (DispatchState.handedOut event deliveries).report?.isSome) :
    ∀ delivery ∈ deliveries, ∃ outcome, delivery = .settled outcome := by
  have hSettled : (deliveries.mapM Delivery.outcome?).isSome := by
    simpa [DispatchState.report?] using settled
  clear settled
  induction deliveries with
  | nil => exact List.forall_mem_nil _
  | cons delivery deliveries ih =>
    cases hLater : deliveries.mapM Delivery.outcome? with
    | none => simp [hLater] at hSettled
    | some outcomes =>
      refine List.forall_mem_cons.mpr ⟨?_, ih (by rw [hLater]; rfl)⟩
      cases delivery with
      | settled outcome => exact ⟨outcome, rfl⟩
      | underway | announcing | dropping => simp [Delivery.outcome?] at hSettled

/-- Deliveries that are all settled owe nothing to any channel. -/
theorem Owes.eq_nil {deliveries : List Delivery} {channels : List Channel}
    (owes : Owes deliveries channels)
    (settled : ∀ delivery ∈ deliveries, ∃ outcome, delivery = .settled outcome) :
    channels = [] := by
  induction owes with
  | nil => rfl
  | announcing =>
    obtain ⟨outcome, announced⟩ := settled _ List.mem_cons_self
    cases announced
  | handed ne later ih => exact ih (List.forall_mem_cons.mp settled).2

theorem inTransit_of_settled {deliveries : List Delivery}
    (settled : ∀ delivery ∈ deliveries, ∃ outcome, delivery = .settled outcome) :
    deliveries.flatMap Delivery.inTransit = [] := by
  refine List.flatMap_eq_nil_iff.mpr fun delivery mem => ?_
  obtain ⟨outcome, rfl⟩ := settled delivery mem
  rfl

/-- Where a loop is after its turn: where its task waits, or without an event, when it has ended
because it was asked to. -/
def Progress.IsAt (stopping : Bool) (loop : Loop) : Progress → Prop
  | .waits (.dispatchLoop state) =>
    state.place = loop.place ∧ state.missed = loop.missed ∧ state.stopping = stopping ∧
      Matches state.current loop.current
  | .waits _ => False
  | .ends _ => loop.current = none ∧ stopping

/-- The dispatch loop of a system goes on by moves of a loop. -/
theorem moves_runLoop (fuel : Nat) (state : LoopState) (s : System) {current : Option Dispatch}
    (same : Matches state.current current) :
    ∃ loop', s.Moves ⟨state.place, state.missed, current⟩ (Task.dispatchLoop state).inTransit
        (runLoop fuel state s).2 loop' (runLoop fuel state s).1.inTransit ∧
      (runLoop fuel state s).1.IsAt state.stopping loop' := by
  induction fuel generalizing state s current with
  | zero => exact ⟨_, .refl .., rfl, rfl, rfl, same⟩
  | succ fuel ih =>
    have hVisit := engine_visitOpen s
    have begins := begins_visitOpen s
    unfold runLoop
    split
    · next dispatch hCurrent =>
      rw [hCurrent] at same
      obtain ⟨taken, rfl⟩ : ∃ taken, current = some taken := by cases same <;> exact ⟨_, rfl⟩
      obtain ⟨dispatch', same', moves⟩ := moves_continueDispatch same s
      rw [Task.inTransit, hCurrent, Option.toList_some, List.flatMap_singleton]
      simp only
      split
      · next settled =>
        obtain ⟨event, rfl, idle⟩ : ∃ event, dispatch' = ⟨event, some []⟩ ∧
            (s.continueDispatch dispatch).1.inTransit = [] := by
          generalize s.continueDispatch dispatch = result at same' settled
          obtain ⟨_, after⟩ := result
          cases same' with
          | taken => cases settled
          | handedOut owes =>
            have outcomes := exists_outcome settled
            exact ⟨_, by rw [owes.eq_nil outcomes], inTransit_of_settled outcomes⟩
        obtain ⟨loop', later, isAt⟩ :=
          ih { state with current := none } (s.continueDispatch dispatch).2 .idle
        rw [idle] at moves
        have finished := moves.trans (.quiet (.finish event) (.finish rfl) (.refl _) rfl)
        exact ⟨loop', finished.trans later, isAt⟩
      · refine ⟨⟨state.place, state.missed, some dispatch'⟩, ?_, rfl, rfl, rfl, same'⟩
        rw [Progress.inTransit, Task.inTransit, Option.toList_some, List.flatMap_singleton]
        exact moves
    · next hCurrent =>
      rw [hCurrent] at same
      cases same
      have rests : Matches state.current none := hCurrent ▸ .idle
      have idle : (Task.dispatchLoop state).inTransit = [] := by
        rw [Task.inTransit, hCurrent]
        rfl
      rw [idle]
      split
      · next stopping => exact ⟨_, .refl .., rfl, stopping⟩
      · have waits {s' : System} (begins : s.Begins [] s') (engine : s'.engine = s.engine) :
            s.Moves ⟨state.place, state.missed, none⟩ [] s' ⟨state.place, state.missed, none⟩
              (Progress.waits (.dispatchLoop state)).inTransit := by
          rw [Progress.inTransit, idle]
          exact .of_begins begins engine
        split
        · next visited found =>
          rw [found] at hVisit begins
          exact ⟨_, waits begins hVisit, rfl, rfl, rfl, rests⟩
        · next visited found =>
          rw [found] at hVisit begins
          split
          · next more received =>
            obtain ⟨loop', moves, isAt⟩ := ih { state with
              place := state.place + more
              missed := state.missed + more } visited rests
            have moves := idle ▸ moves
            refine ⟨loop', .trans (.quiet (.lag state.place more) ?_ begins rfl) moves, isAt⟩
            rw [show visited.engine = s.engine from hVisit]
            exact .lag rfl received
          · next event received =>
            obtain ⟨loop', moves, isAt⟩ := ih
              ⟨state.place + 1, state.missed, state.stopping, some (.taken event)⟩ visited
              (.taken event)
            refine ⟨loop', .trans (.quiet (.receive state.place event) ?_ begins rfl) moves, isAt⟩
            rw [show visited.engine = s.engine from hVisit]
            exact .receive rfl received
          · exact ⟨_, waits (.refl s) rfl, rfl, rfl, rfl, rests⟩

/-- The dispatch loop of a system hands to the transport what that of a feed does, whatever the
transport does with it. -/
theorem outbox_runLoop (fuel : Nat) (state : LoopState) (s : System) {current : Option Dispatch}
    (same : Matches state.current current) :
    ∃ loop', Outbox.Steps
        ⟨⟨s.engine, some ⟨state.place, state.missed, current⟩, past⟩, s.notifications⟩
        ⟨⟨(runLoop fuel state s).2.engine, some loop', past⟩,
          (runLoop fuel state s).2.notifications⟩ ∧
      (runLoop fuel state s).1.IsAt state.stopping loop' := by
  obtain ⟨loop', ⟨post, ⟨moves, rounds, -, same⟩, mails⟩, isAt⟩ := moves_runLoop fuel state s same
  rw [mails.notifications, same]
  exact ⟨loop', rounds.outbox past s.notifications, isAt⟩

end System

end MetricAlerts
