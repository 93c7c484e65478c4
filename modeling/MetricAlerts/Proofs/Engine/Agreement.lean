import MetricAlerts.Proofs.Engine.Run

/-! Clients and written lines are no matter to what an engine does with its alerts: two engines that
differ in nothing else do the same. -/

namespace MetricAlerts.Engine

variable {e e' e'' : Engine}

/-- The engine with other clients and other lines. -/
def withClients (e : Engine) (hub : Hub) (console : Array ConsoleLine) : Engine :=
  { e with hub, console }

/-- Two engines agree if they differ in nothing but their clients and lines. -/
def Agrees (e e' : Engine) : Prop := ∃ hub console, e' = e.withClients hub console

theorem Agrees.refl (e : Engine) : e.Agrees e := ⟨e.hub, e.console, rfl⟩

theorem Agrees.of_eq (h : e' = e) : e.Agrees e' := h ▸ .refl e

theorem Agrees.symm (h : e.Agrees e') : e'.Agrees e := by
  obtain ⟨hub, console, rfl⟩ := h
  exact ⟨e.hub, e.console, rfl⟩

theorem Agrees.trans (first : e.Agrees e') (second : e'.Agrees e'') : e.Agrees e'' := by
  obtain ⟨_, _, rfl⟩ := first
  obtain ⟨hub, console, rfl⟩ := second
  exact ⟨hub, console, rfl⟩

theorem Agrees.definitions (h : e.Agrees e') : e'.definitions = e.definitions := by
  obtain ⟨_, _, rfl⟩ := h
  rfl

theorem Agrees.alerts (h : e.Agrees e') : e'.alerts = e.alerts := by
  obtain ⟨_, _, rfl⟩ := h
  rfl

theorem Agrees.bus (h : e.Agrees e') : e'.bus = e.bus := by
  obtain ⟨_, _, rfl⟩ := h
  rfl

theorem Agrees.events (h : e.Agrees e') : e'.events = e.events := by
  rw [Engine.events, h.bus, Engine.events]

theorem agrees_perform (e : Engine) (event : Event) (action : ChannelAction) :
    e.Agrees (e.perform event action) := by
  cases action with
  | write lines => exact ⟨e.hub, e.console ++ lines.toArray, rfl⟩
  | broadcast => exact ⟨(e.hub.broadcastEvent event).2, e.console, rfl⟩
  | notify | feedback | skip | fail => exact .refl e

/-! What is done about alerts does not depend on the events that have been published either: a bus
in the place of the own one, which takes new events as that does, is all that differs then. -/

/-- The engine with other clients and lines, and with another bus in the place of its own. -/
def recast (e : Engine) (f : Bus → Bus) (hub : Hub) (console : Array ConsoleLine) : Engine :=
  { e with bus := f e.bus, hub, console }

/-- The events that an action may publish. -/
def Action.MayPublish : Action → Event → Prop
  | .announcePatterns analysis, event => event = .patternsDetected analysis
  | _, event => event.alert?.isSome

section

variable (e : Engine) {f : Bus → Bus} (hub : Hub) (console : Array ConsoleLine)

@[simp] theorem alerts_recast : (e.recast f hub console).alerts = e.alerts := rfl

@[simp] theorem definitions_recast : (e.recast f hub console).definitions = e.definitions := rfl

@[simp] theorem now_recast : (e.recast f hub console).now = e.now := rfl

@[simp] theorem nextId_recast : (e.recast f hub console).nextId = e.nextId := rfl

@[simp] theorem tick_recast :
    (e.recast f hub console).tick = e.tick.recast f hub console := rfl

theorem withAlerts_recast (changed : Option (Alert × AlertStore)) :
    (e.recast f hub console).withAlerts changed =
      (e.withAlerts changed).map fun found => (found.1, found.2.recast f hub console) := by
  cases changed <;> rfl

theorem publish_recast {event : Event} (keeps : f (e.bus.publish event) = (f e.bus).publish event) :
    (e.recast f hub console).publish event = (e.publish event).recast f hub console := by
  rw [publish, publish, recast, recast, keeps]

section

variable (keeps : ∀ (bus : Bus) (event : Event), event.alert?.isSome →
  f (bus.publish event) = (f bus).publish event)

include keeps

theorem evaluateCondition_recast (rule : Rule) (source : String) (metrics : Json) (c : Condition) :
    ((e.recast f hub console).evaluateCondition rule source metrics c).2 =
      (e.evaluateCondition rule source metrics c).2.recast f hub console := by
  unfold evaluateCondition
  split
  · rfl
  · split
    · rfl
    · next value _ =>
      simp only [storeCreate, storeResolveRule?, alerts_recast, nextId_recast, now_recast]
      split
      · generalize e.alerts.create rule source value _ e.nextId e.now = created
        obtain ⟨outcome, alerts⟩ := created
        cases outcome with
        | created alert =>
          exact publish_recast { e with alerts, idsUsed := e.idsUsed + 1 }.tick hub console
            (keeps e.bus (.created alert) rfl)
        | existing => rfl
      · rw [withAlerts_recast]
        cases e.withAlerts (e.alerts.resolveRule? rule.id autoResolveReason e.now) with
        | some found =>
          exact publish_recast found.2 hub console (keeps _ (.resolved found.1) rfl)
        | none => rfl

theorem evaluateRule_recast (rule : Rule) (source : String) (metrics : Json) :
    ((e.recast f hub console).evaluateRule rule source metrics).2.2 =
      (e.evaluateRule rule source metrics).2.2.recast f hub console := by
  unfold evaluateRule
  split
  · exact evaluateCondition_recast e hub console keeps ..
  · rfl
  · split <;> rfl

theorem annotate_recast (alert : Alert) (fields : List (String × Json)) :
    ((e.recast f hub console).annotate alert fields).2 =
      (e.annotate alert fields).2.recast f hub console := by
  simp only [annotate, now_recast]
  cases Enrichment.stamped? fields e.now with
  | none => rfl
  | some stamped =>
    simp only [storeMerge?, tick_recast, alerts_recast, withAlerts_recast]
    cases e.tick.withAlerts (e.tick.alerts.mergeAnnotations? alert.id stamped) with
    | some found => exact publish_recast found.2 hub console (keeps _ (.updated found.1) rfl)
    | none => rfl

theorem raiseAnomalies_recast (check : AnomalyCheck) (source : String) (anomaly : Anomaly) :
    raiseAnomalies check source [anomaly] (e.recast f hub console) =
      ((raiseAnomalies check source [anomaly] e).1,
        (raiseAnomalies check source [anomaly] e).2.recast f hub console) := by
  simp only [raiseAnomalies, storeCreateAnomaly, alerts_recast, nextId_recast, now_recast,
    tick_recast]
  generalize e.alerts.createAnomaly check.rule source anomaly check.subset _ _ _ = created
  obtain ⟨alert, superseded, alerts⟩ := created
  let e' : Engine := { e with alerts, idsUsed := e.idsUsed + 1 }.tick.tick
  cases superseded with
  | none =>
    have published := publish_recast e' hub console (keeps e'.bus (.created alert) rfl)
    exact congrArg (Prod.mk [alert]) published
  | some old =>
    have resolved := publish_recast e' hub console (keeps e'.bus (.resolved old) rfl)
    have published := publish_recast (e'.publish (.resolved old)) hub console
      (keeps _ (.created alert) rfl)
    rw [← resolved] at published
    exact congrArg (Prod.mk [alert]) published

end

theorem after_recast (action : Action)
    (keeps : ∀ (bus : Bus) (event : Event), action.MayPublish event →
      f (bus.publish event) = (f bus).publish event) :
    (e.recast f hub console).after action = (e.after action).recast f hub console := by
  cases action with
  | acknowledge name =>
    simp only [after, acknowledge?, storeAcknowledge?, alerts_recast, now_recast,
      withAlerts_recast]
    cases e.withAlerts (e.alerts.acknowledge? name e.now) with
    | some found => exact publish_recast found.2 hub console (keeps _ (.updated found.1) rfl)
    | none => rfl
  | resolve name reason =>
    simp only [after, resolve?, storeResolve?, alerts_recast, now_recast, withAlerts_recast]
    cases e.withAlerts (e.alerts.resolve? name (reason.getD manualResolveReason) e.now) with
    | some found => exact publish_recast found.2 hub console (keeps _ (.resolved found.1) rfl)
    | none => rfl
  | addRule | updateRule | removeRule =>
    rw [after_of_rule_request rfl, after_of_rule_request rfl]
    rfl
  | retire ruleId =>
    simp only [after, retire, storeResolveRule?, alerts_recast, now_recast, withAlerts_recast]
    cases e.withAlerts (e.alerts.resolveRule? ruleId ruleDeletedReason e.now) with
    | some found => exact publish_recast found.2 hub console (keeps _ (.resolved found.1) rfl)
    | none => rfl
  | addChannel | updateChannel | deleteChannel =>
    rw [after_of_channel_request rfl, after_of_channel_request rfl]
    rfl
  | evaluate rule source metrics => exact evaluateRule_recast e hub console keeps ..
  | raise check source anomaly =>
    exact congrArg Prod.snd (raiseAnomalies_recast e hub console keeps ..)
  | enrich => exact annotate_recast e hub console keeps ..
  | giveFeedback => exact annotate_recast e hub console keeps ..
  | announcePatterns analysis =>
    simp only [after, announcePatterns]
    split
    · rfl
    · exact publish_recast _ _ _ (keeps _ _ rfl)

theorem after_withClients (action : Action) :
    (e.withClients hub console).after action = (e.after action).withClients hub console :=
  @after_recast e id hub console action fun _ _ _ => rfl

end

/-- Events are published after those that have been published before: an engine is one that has just
begun, with all of these before it. -/
theorem events_after (e : Engine) (action : Action) :
    ∃ published, (e.after action).events = e.events ++ published := by
  let fresh : Engine := { e with bus := ⟨e.bus.capacity, #[]⟩ }
  let before (bus : Bus) : Bus := ⟨bus.capacity, e.bus.published ++ bus.published⟩
  have same : fresh.recast before e.hub e.console = e := by
    simp [recast, before, fresh]
  have keeps (bus : Bus) (event : Event) :
      before (bus.publish event) = (before bus).publish event := by
    simp [before, Bus.publish]
  have done := after_recast fresh e.hub e.console action fun bus event _ => keeps bus event
  rw [same] at done
  exact ⟨(fresh.after action).events, by rw [done]; exact Array.toList_append⟩

theorem Agrees.after (h : e.Agrees e') (action : Action) :
    (e.after action).Agrees (e'.after action) := by
  obtain ⟨hub, console, rfl⟩ := h
  exact ⟨hub, console, after_withClients ..⟩

theorem run_append (e : Engine) (actions later : List Action) :
    e.run (actions ++ later) = (e.run actions).run later :=
  List.foldl_append

theorem Agrees.run (h : e.Agrees e') (actions : List Action) :
    (e.run actions).Agrees (e'.run actions) := by
  induction actions generalizing e e' with
  | nil => exact h
  | cons action actions ih => exact ih (h.after action)

end MetricAlerts.Engine
