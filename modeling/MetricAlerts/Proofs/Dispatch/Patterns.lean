import MetricAlerts.Proofs.Dispatch.Feedback
import MetricAlerts.Proofs.Dispatch.Watch

/-! The search for patterns is no matter to alerts. Whatever is done about patterns can be left out
of a run: the others do the same without it, to the same alerts and with the same events about them
(`Runs.withoutPatterns`). What differs are places on the bus, and clients that the announcements
cost their connection. -/

namespace MetricAlerts

/-- An element that is kept comes after those of the elements before it that are kept. -/
theorem getElem?_filter_countP {α : Type} {l : List α} {i : Nat} {x : α} (p : α → Bool)
    (h : l[i]? = some x) (kept : p x) : (l.filter p)[(l.take i).countP p]? = some x := by
  obtain ⟨less, hx⟩ := List.getElem?_eq_some_iff.mp h
  have split : l = l.take i ++ x :: l.drop (i + 1) := by
    rw [← hx, ← List.drop_eq_getElem_cons less, List.take_append_drop]
  have filtered : l.filter p = (l.take i).filter p ++ x :: (l.drop (i + 1)).filter p := by
    rw [← List.filter_cons_of_pos kept, ← List.filter_append, ← split]
  rw [filtered, List.countP_eq_length_filter, List.getElem?_append_right (Nat.le_refl _),
    Nat.sub_self]
  rfl

namespace Bus

/-- The bus as if no patterns had been announced on it. -/
def withoutPatterns (b : Bus) : Bus :=
  { b with published := b.published.filter (·.alert?.isSome) }

theorem toList_withoutPatterns (b : Bus) :
    b.withoutPatterns.published.toList = b.published.toList.filter (·.alert?.isSome) :=
  Array.toList_filter

theorem tail_withoutPatterns (b : Bus) :
    b.withoutPatterns.tail = (b.published.toList.take b.tail).countP (·.alert?.isSome) := by
  rw [tail, tail, ← Array.length_toList, ← Array.length_toList, toList_withoutPatterns,
    List.take_length, List.countP_eq_length_filter]

theorem withoutPatterns_publish (b : Bus) {event : Event} (h : event.alert?.isSome) :
    (b.publish event).withoutPatterns = b.withoutPatterns.publish event := by
  simp [withoutPatterns, publish, h]

theorem withoutPatterns_publish_patterns (b : Bus) (analysis : PatternAnalysis) :
    (b.publish (.patternsDetected analysis)).withoutPatterns = b.withoutPatterns := by
  simp [withoutPatterns, publish, Event.alert?]

/-- The place of an event about an alert is then given by those before it, and no more events follow
than did on the bus itself. -/
theorem receive_withoutPatterns {b : Bus} {place : Nat} {event : Event}
    (received : b.receive place = .event event) (h : event.alert?.isSome) :
    b.withoutPatterns.receive ((b.published.toList.take place).countP (·.alert?.isSome)) =
      .event event := by
  obtain ⟨inTime, found⟩ := receive_eq_event_iff.mp received
  refine receive_eq_event_iff.mpr ⟨?_, ?_⟩
  · have total : b.published.toList.countP (·.alert?.isSome) =
        (b.published.toList.take place).countP (·.alert?.isSome) +
          (b.published.toList.drop place).countP (·.alert?.isSome) := by
      rw [← List.countP_append, List.take_append_drop]
    have later := (b.published.toList.drop place).countP_le_length (p := (·.alert?.isSome))
    rw [List.length_drop] at later
    rw [toList_withoutPatterns, ← List.countP_eq_length_filter, total]
    show _ ≤ _ + b.capacity
    omega
  · rw [toList_withoutPatterns]
    exact getElem?_filter_countP _ found h

end Bus

namespace Engine

variable {e e' : Engine} {action : Action} (hub : Hub) (console : Array ConsoleLine)

/-- The events about alerts. -/
def lifecycle (e : Engine) : List Event := e.events.filter (·.alert?.isSome)

theorem events_withoutPatterns (e : Engine) :
    (e.recast Bus.withoutPatterns hub console).events = e.lifecycle :=
  Bus.toList_withoutPatterns e.bus

/-- Whether patterns are announced. -/
def Action.announces : Action → Bool
  | .announcePatterns _ => true
  | _ => false

theorem after_withoutPatterns (e : Engine) (other : action.announces = false) :
    (e.recast Bus.withoutPatterns hub console).after action =
      (e.after action).recast Bus.withoutPatterns hub console := by
  refine after_recast e hub console action fun bus event publishes => ?_
  have ofAlert : event.alert?.isSome := by
    cases action with
    | announcePatterns => cases other
    | _ => exact publishes
  exact bus.withoutPatterns_publish ofAlert

theorem after_announcePatterns (e : Engine) (analysis : PatternAnalysis) :
    (e.after (.announcePatterns analysis)).recast Bus.withoutPatterns hub console =
      e.recast Bus.withoutPatterns hub console := by
  simp only [after, announcePatterns]
  split
  · rfl
  · rw [recast, publish, Bus.withoutPatterns_publish_patterns, recast]

theorem checks_evaluateRule (e e' : Engine) (rule : Rule) (source : String) (metrics : Json) :
    (e.evaluateRule rule source metrics).2.1 = (e'.evaluateRule rule source metrics).2.1 := by
  unfold evaluateRule
  split
  · rfl
  · rfl
  · split <;> rfl

theorem duties_withoutPatterns (e : Engine) (action : Action) :
    (e.recast Bus.withoutPatterns hub console).duties action = e.duties action := by
  cases action with
  | evaluate => exact congrArg _ (congrArg Option.toList (checks_evaluateRule ..))
  | raise check source anomaly =>
    have raised := raiseAnomalies_recast e hub console (fun bus _ => bus.withoutPatterns_publish)
      check source anomaly
    exact congrArg (fun result => result.1.map Duty.enrichment) raised
  | _ => rfl

end Engine

/-! Duties. -/

def Duty.isOfPatterns : Duty → Bool
  | .patterns _ => true
  | _ => false

/-- Duties that have nothing to do with patterns. -/
def Duty.others (duties : List Duty) : List Duty := duties.filter (!·.isOfPatterns)

theorem Duty.others_append (duties later : List Duty) :
    others (duties ++ later) = others duties ++ others later :=
  List.filter_append ..

theorem Duty.others_map {α : Type} {duty : α → Duty} (other : ∀ a, (duty a).isOfPatterns = false)
    (l : List α) : others (l.map duty) = l.map duty := by
  refine List.filter_eq_self.mpr fun d mem => ?_
  obtain ⟨a, -, rfl⟩ := List.mem_map.mp mem
  rw [other a]
  rfl

namespace Engine.Action

theorem others_duties (e : Engine) (action : Action) :
    Duty.others (e.duties action) = e.duties action := by
  cases action with
  | evaluate | raise => exact Duty.others_map (fun _ => rfl) _
  | _ => rfl

theorem IsDue.others {action : Action} {duties : List Duty} (isDue : action.IsDue duties)
    (other : action.announces = false) : action.IsDue (Duty.others duties) := by
  cases action with
  | announcePatterns => cases other
  | evaluate | raise | enrich | giveFeedback => exact List.mem_filter.mpr ⟨isDue, rfl⟩
  | _ => trivial

end Engine.Action

namespace Loop

variable {e e' : Engine} {loop loop' : Loop} {move : Move}

/-- The loop where it is when there are no patterns on the bus. -/
def withoutPatterns (events : List Event) (loop : Loop) : Loop where
  place := (events.take loop.place).countP (·.alert?.isSome)
  missed := loop.missed
  current := loop.current.filter (·.event.alert?.isSome)

/-- Whether an event that announces patterns is taken and handed out. -/
def Move.isOfPatterns : Move → Bool
  | .receive _ event | .lookUp event | .deliver event _ | .finish event => event.alert?.isNone
  | .lag _ _ => false

/-- The move, wherever the event is on the bus. -/
def Move.placeless : Move → Move
  | .receive _ event => .receive 0 event
  | move => move

/-- Patterns are no cause for feedback. -/
theorem Move.duties_of_patterns (h : move.isOfPatterns) : move.duties = [] := by
  cases move with
  | deliver event channel =>
    cases event with
    | patternsDetected analysis =>
      have none := feedbackFor?_eq (.patternsDetected analysis) channel
      simp only [duties]
      split
      · next found => rw [feedbackFor?, found] at none; cases none
      · rfl
    | _ => cases h
  | _ => rfl

theorem Move.others_duties (move : Move) : Duty.others move.duties = move.duties := by
  cases move with
  | deliver event channel =>
    simp only [duties]
    split <;> rfl
  | _ => rfl

theorem withoutPatterns_of_patterns {event : Event} (h : event.alert?.isNone)
    (channels : Option (List Channel)) (place missed : Nat) (events : List Event) :
    withoutPatterns events ⟨place, missed, some ⟨event, channels⟩⟩ =
      withoutPatterns events ⟨place, missed, none⟩ :=
  congrArg (Loop.mk _ missed) (if_neg (by simp [Option.isNone_iff_eq_none.mp h]))

theorem withoutPatterns_of_alert {d : Dispatch} (h : d.event.alert?.isSome) (place missed : Nat)
    (events : List Event) :
    withoutPatterns events ⟨place, missed, some d⟩ =
      ⟨(events.take place).countP (·.alert?.isSome), missed, some d⟩ :=
  congrArg (Loop.mk _ missed) (if_pos h)

/-- A loop that has taken one event more. -/
theorem countP_take_succ {place : Nat} {event : Event}
    (received : e.bus.receive place = .event event) :
    (e.events.take (place + 1)).countP (·.alert?.isSome) =
      (e.events.take place).countP (·.alert?.isSome) + if event.alert?.isSome then 1 else 0 := by
  have found : e.events[place]? = some event := (Bus.receive_eq_event_iff.mp received).2
  rw [List.take_add_one, found, List.countP_append, Option.toList_some, List.countP_singleton]

/-- A move that hands out patterns is no move where there are none. -/
theorem Goes.withoutPatterns_of_patterns (goes : Goes e loop move e' loop')
    (h : move.isOfPatterns) (hub : Hub) (console : Array ConsoleLine) :
    e'.recast Bus.withoutPatterns hub console = e.recast Bus.withoutPatterns hub console ∧
      loop'.withoutPatterns e.events = loop.withoutPatterns e.events := by
  obtain ⟨place, missed, current⟩ := loop
  cases goes with
  | lag => cases h
  | @receive event idle received =>
    obtain rfl := idle
    refine ⟨rfl, ?_⟩
    rw [Loop.withoutPatterns_of_patterns h]
    simp [Loop.withoutPatterns, countP_take_succ received, Option.isNone_iff_eq_none.mp h]
  | lookUp current =>
    obtain rfl := current
    refine ⟨rfl, ?_⟩
    rw [Loop.withoutPatterns_of_patterns h, Loop.withoutPatterns_of_patterns h]
  | @deliver event _ _ channel current =>
    obtain rfl := current
    obtain ⟨_, _, same⟩ := e.agrees_perform event (Engine.actionFor channel event)
    refine ⟨by rw [same]; rfl, ?_⟩
    rw [Loop.withoutPatterns_of_patterns h, Loop.withoutPatterns_of_patterns h]
  | finish current =>
    obtain rfl := current
    exact ⟨rfl, (Loop.withoutPatterns_of_patterns h ..).symm⟩

/-- Any other move is made without patterns as it is with them. -/
theorem Goes.withoutPatterns (goes : Goes e loop move e' loop') (h : move.isOfPatterns = false)
    (steady : ∀ place missed, move ≠ .lag place missed) (hub : Hub)
    (console : Array ConsoleLine) :
    ∃ move₀ hub' console', move₀.placeless = move.placeless ∧ move₀.duties = move.duties ∧
      Goes (e.recast Bus.withoutPatterns hub console) (loop.withoutPatterns e.events) move₀
        (e'.recast Bus.withoutPatterns hub' console') (loop'.withoutPatterns e.events) := by
  obtain ⟨place, missed, current⟩ := loop
  cases goes with
  | lag => exact absurd rfl (steady _ _)
  | @receive event idle received =>
    obtain rfl := idle
    have isSome := Option.isNone_eq_false_iff.mp h
    refine ⟨.receive ((e.events.take place).countP (·.alert?.isSome)) event, hub, console, rfl, rfl,
      ?_⟩
    rw [Loop.withoutPatterns_of_alert isSome, countP_take_succ received, if_pos isSome]
    exact .receive rfl (Bus.receive_withoutPatterns received isSome)
  | @lookUp event current =>
    obtain rfl := current
    have isSome := Option.isNone_eq_false_iff.mp h
    refine ⟨_, hub, console, rfl, rfl, ?_⟩
    rw [Loop.withoutPatterns_of_alert isSome, Loop.withoutPatterns_of_alert isSome]
    exact .lookUp rfl
  | @deliver event _ _ channel current =>
    obtain rfl := current
    have isSome := Option.isNone_eq_false_iff.mp h
    let e₀ := (e.recast Bus.withoutPatterns hub console).perform event
      (Engine.actionFor channel event)
    have same : e₀ = (e.perform event (Engine.actionFor channel event)).recast
        Bus.withoutPatterns e₀.hub e₀.console := by
      obtain ⟨_, _, h⟩ := e.agrees_perform event (Engine.actionFor channel event)
      obtain ⟨_, _, h₀⟩ := Engine.agrees_perform (e.recast Bus.withoutPatterns hub console) event
        (Engine.actionFor channel event)
      rw [h]
      simp only [e₀, h₀]
      rfl
    refine ⟨_, e₀.hub, e₀.console, rfl, rfl, ?_⟩
    rw [← same, Loop.withoutPatterns_of_alert isSome, Loop.withoutPatterns_of_alert isSome]
    exact .deliver rfl
  | @finish event current =>
    obtain rfl := current
    have isSome := Option.isNone_eq_false_iff.mp h
    refine ⟨_, hub, console, rfl, rfl, ?_⟩
    rw [Loop.withoutPatterns_of_alert isSome]
    exact .finish rfl

end Loop

namespace Watch

variable {w w' : Watch} {deed : Deed} {trace : List (Deed × Watch)}

/-- The deed, wherever the event that it is about is on the bus. -/
def Deed.placeless : Deed → Deed
  | .move made => .move made.placeless
  | deed => deed

/-- Whether a deed is done for the search for patterns: the analyzer is asked for them, or they are
announced, or the announcement is handed out. -/
def Deed.isOfPatterns : Deed → Bool
  | .act action => action.announces
  | .ask (.patterns _) => true
  | .move made => made.isOfPatterns
  | _ => false

theorem Deed.isOfPatterns_placeless (deed : Deed) :
    deed.placeless.isOfPatterns = deed.isOfPatterns := by
  cases deed with
  | move made => cases made <;> rfl
  | _ => rfl

/-- What is left when there are no patterns, with any clients and lines. -/
def withoutPatterns (w : Watch) (hub : Hub) (console : Array ConsoleLine) : Watch where
  engine := w.engine.recast Bus.withoutPatterns hub console
  duties := Duty.others w.duties
  loop := w.loop.map (Loop.withoutPatterns w.engine.events)
  stopping := w.stopping

/-- The loop is where it was when more events have been published. -/
theorem loop_withoutPatterns (inStep : w.IsInStep) (published : List Event) :
    w.loop.map (Loop.withoutPatterns (w.engine.events ++ published)) =
      w.loop.map (Loop.withoutPatterns w.engine.events) := by
  cases running : w.loop with
  | none => rfl
  | some loop =>
    rw [Option.map_some, Option.map_some, Loop.withoutPatterns, Loop.withoutPatterns,
      List.take_append_of_le_length (inStep loop running)]

/-- What is done for the search for patterns is nothing without it. -/
theorem Step.withoutPatterns_of_patterns (step : w.Step deed w') (inStep : w.IsInStep)
    (h : deed.isOfPatterns) (hub : Hub) (console : Array ConsoleLine) :
    w'.withoutPatterns hub console = w.withoutPatterns hub console := by
  cases step with
  | @act action =>
    obtain ⟨published, hEvents⟩ := w.engine.events_after action
    simp only [withoutPatterns]
    rw [hEvents, loop_withoutPatterns inStep]
    cases action with
    | announcePatterns analysis =>
      rw [Engine.after_announcePatterns, Duty.others_append]
      exact congrArg (Watch.mk _ · _ _) (List.append_nil _)
    | _ => cases h
  | @ask call =>
    cases call with
    | patterns history =>
      simp only [withoutPatterns, Duty.others_append]
      exact congrArg (Watch.mk _ · _ _) (List.append_nil _)
    | _ => cases h
  | move running goes =>
    obtain ⟨hEngine, hLoop⟩ := goes.withoutPatterns_of_patterns h hub console
    simp only [withoutPatterns]
    rw [goes.events, running, Loop.Move.duties_of_patterns h, List.append_nil, hEngine,
      Option.map_some, Option.map_some, hLoop]
  | _ => cases h

/-- Everything else is done without it as it is with it. -/
theorem Step.withoutPatterns (step : w.Step deed w') (inStep : w.IsInStep)
    (h : deed.isOfPatterns = false) (steady : ∀ place missed, deed ≠ .move (.lag place missed))
    (hub : Hub) (console : Array ConsoleLine) :
    ∃ deed₀ hub' console', deed₀.placeless = deed.placeless ∧
      (w.withoutPatterns hub console).Step deed₀ (w'.withoutPatterns hub' console') := by
  cases step with
  | @act action isDue =>
    obtain ⟨published, hEvents⟩ := w.engine.events_after action
    refine ⟨_, hub, console, rfl, ?_⟩
    have acted : (w.withoutPatterns hub console).Step (.act action) _ := .act (isDue.others h)
    simp only [Watch.withoutPatterns, Engine.after_withoutPatterns hub console w.engine h,
      Engine.duties_withoutPatterns] at acted
    simp only [Watch.withoutPatterns]
    rw [hEvents, loop_withoutPatterns inStep, Duty.others_append, Engine.Action.others_duties]
    exact acted
  | ingest source metrics =>
    refine ⟨_, hub, console, rfl, ?_⟩
    simp only [Watch.withoutPatterns]
    rw [Duty.others_append, Duty.others_map fun _ => rfl]
    exact .ingest source metrics
  | examine rule source metrics =>
    refine ⟨_, hub, console, rfl, ?_⟩
    simp only [Watch.withoutPatterns]
    rw [Duty.others_append]
    exact .examine rule source metrics
  | @ask call asks =>
    refine ⟨_, hub, console, rfl, ?_⟩
    have quiet : call.duties = [] := by
      cases call with
      | patterns => cases h
      | _ => rfl
    have asked : (w.withoutPatterns hub console).Step (.ask call) _ := .ask asks
    rw [quiet, List.append_nil] at asked ⊢
    exact asked
  | serve hub' console' readings => exact ⟨_, hub', console', rfl, .serve hub' console' readings⟩
  | leaveOff subset =>
    exact ⟨_, hub, console, rfl, .leaveOff (List.filter_subset _ subset)⟩
  | start idle =>
    have begun : (w.withoutPatterns hub console).Step .start _ :=
      .start (Option.map_eq_none_iff.mpr idle)
    refine ⟨_, hub, console, rfl, ?_⟩
    simp only [Watch.withoutPatterns, Engine.recast, Bus.tail_withoutPatterns] at begun
    exact begun
  | startAgain running =>
    exact ⟨_, hub, console, rfl, .startAgain (Option.isSome_map.trans running)⟩
  | shutdown running =>
    exact ⟨_, hub, console, rfl, .shutdown (Option.isSome_map.trans running)⟩
  | shutdownAgain idle =>
    exact ⟨_, hub, console, rfl, .shutdownAgain (Option.map_eq_none_iff.mpr idle)⟩
  | @move move loop loop' e running goes =>
    obtain ⟨move₀, hub', console', same, hDuties, goes₀⟩ := goes.withoutPatterns h
      (fun place missed isLag => steady place missed (congrArg Deed.move isLag)) hub console
    have running₀ : (w.withoutPatterns hub console).loop =
        some (loop.withoutPatterns w.engine.events) := by
      simp only [Watch.withoutPatterns, running, Option.map_some]
    refine ⟨.move move₀, hub', console', congrArg Deed.move same, ?_⟩
    have moved := Step.move running₀ goes₀
    rw [hDuties] at moved
    simp only [Watch.withoutPatterns] at moved ⊢
    rw [Duty.others_append, Loop.Move.others_duties, goes.events]
    exact moved
  | @stop loop running free asked =>
    have running₀ : (w.withoutPatterns hub console).loop =
        some (loop.withoutPatterns w.engine.events) := by
      simp only [Watch.withoutPatterns, running, Option.map_some]
    refine ⟨_, hub, console, rfl, .stop running₀ ?_ asked⟩
    simp [Loop.withoutPatterns, free]

/-- What a run is to alerts: its deeds, wherever events are on the bus, and after each of them the
store and the events about alerts that have been published. -/
def outline (trace : List (Deed × Watch)) : List (Deed × AlertStore × List Event) :=
  trace.map fun entry => (entry.1.placeless, entry.2.engine.alerts, entry.2.engine.lifecycle)

theorem lifecycle_withoutPatterns (w : Watch) (hub : Hub) (console : Array ConsoleLine) :
    (w.withoutPatterns hub console).engine.lifecycle = w.engine.lifecycle := by
  rw [Engine.lifecycle, withoutPatterns, Engine.events_withoutPatterns, Engine.lifecycle,
    List.filter_filter]
  simp only [Bool.and_self]

/-- The search for patterns leaves alerts, and the events about them, as they are. -/
theorem Step.keeps_of_patterns (step : w.Step deed w') (inStep : w.IsInStep)
    (h : deed.isOfPatterns) :
    w'.engine.alerts = w.engine.alerts ∧ w'.engine.lifecycle = w.engine.lifecycle := by
  have same := step.withoutPatterns_of_patterns inStep h w.engine.hub w.engine.console
  refine ⟨congrArg (·.engine.alerts) same, ?_⟩
  rw [← lifecycle_withoutPatterns w', same, lifecycle_withoutPatterns]

theorem Runs.keeps_of_patterns (runs : Runs w trace w') (inStep : w.IsInStep)
    (h : ∀ entry ∈ trace, entry.1.isOfPatterns) :
    w'.engine.alerts = w.engine.alerts ∧ w'.engine.lifecycle = w.engine.lifecycle := by
  induction runs with
  | nil => exact ⟨rfl, rfl⟩
  | cons step _ ih =>
    obtain ⟨first, later⟩ := List.forall_mem_cons.mp h
    obtain ⟨hAlerts, hLifecycle⟩ := step.keeps_of_patterns inStep first
    obtain ⟨hAlerts', hLifecycle'⟩ := ih (step.isInStep inStep) later
    exact ⟨hAlerts'.trans hAlerts, hLifecycle'.trans hLifecycle⟩

/-- A run goes on without the search for patterns as it does with it. -/
theorem Runs.withoutPatterns (runs : Runs w trace w') (inStep : w.IsInStep)
    (steady : ∀ entry ∈ trace, ∀ place missed, entry.1 ≠ .move (.lag place missed)) (hub : Hub)
    (console : Array ConsoleLine) :
    ∃ trace₀ hub' console',
      Runs (w.withoutPatterns hub console) trace₀ (w'.withoutPatterns hub' console') ∧
      (∀ entry ∈ trace₀, entry.1.isOfPatterns = false) ∧
      outline trace₀ = outline (trace.filter fun entry => !entry.1.isOfPatterns) := by
  induction runs generalizing hub console with
  | nil w => exact ⟨[], hub, console, .nil _, List.forall_mem_nil _, rfl⟩
  | @cons w middle w' deed later step rest ih =>
    obtain ⟨first, steady⟩ := List.forall_mem_cons.mp steady
    cases h : deed.isOfPatterns with
    | true =>
      have same := step.withoutPatterns_of_patterns inStep h hub console
      obtain ⟨trace₀, hub', console', runs₀, others, hOutline⟩ :=
        ih (step.isInStep inStep) steady hub console
      rw [same] at runs₀
      rw [List.filter_cons_of_neg (by simp [h])]
      exact ⟨trace₀, hub', console', runs₀, others, hOutline⟩
    | false =>
      obtain ⟨deed₀, hub₁, console₁, hDeed, step₀⟩ :=
        step.withoutPatterns inStep h first hub console
      obtain ⟨trace₀, hub', console', runs₀, others, hOutline⟩ :=
        ih (step.isInStep inStep) steady hub₁ console₁
      have other : deed₀.isOfPatterns = false := by
        rw [← deed₀.isOfPatterns_placeless, hDeed, deed.isOfPatterns_placeless, h]
      refine ⟨_, hub', console', .cons step₀ runs₀, List.forall_mem_cons.mpr ⟨other, others⟩, ?_⟩
      rw [List.filter_cons_of_pos (by simp [h]), outline, outline, List.map_cons, List.map_cons,
        hDeed, lifecycle_withoutPatterns]
      exact congrArg _ hOutline

end Watch

end MetricAlerts
