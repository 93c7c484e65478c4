import MetricAlerts.Proofs.Engine.Run

/-! What actions do. Every action makes no change of the alerts, one edit, or two where an anomaly
alert has to make way, and publishes the events that say so: `Announces` tells this of all actions
whose new ids are not in use, and `Effect` of those whose new ids and times are new. `Leads.keeps`
and `Reaches.keeps` carry over to runs what all of them keep. -/

namespace MetricAlerts

/-- What may become of the alerts after some events, and the new events that say so. An alert that
makes way for a new one is announced first, though it is resolved when the new one is there. -/
inductive Effect (past : List Event) (s : AlertStore) : List Event → AlertStore → Prop
  | quiet : Effect past s [] s
  | noticed (analysis : PatternAnalysis) : Effect past s [.patternsDetected analysis] s
  | created {alert : Alert} {s' : AlertStore} (edit : s.Edit (.created alert) s')
      (unknown : IsUnknown past alert.id) : Effect past s [.created alert] s'
  | updated {alert : Alert} {s' : AlertStore} (edit : s.Edit (.updated alert) s') :
      Effect past s [.updated alert] s'
  | resolved {alert : Alert} {s' : AlertStore} (edit : s.Edit (.resolved alert) s') :
      Effect past s [.resolved alert] s'
  | superseded {alert old : Alert} {middle s' : AlertStore}
      (opening : s.Edit (.created alert) middle) (unknown : IsUnknown past alert.id)
      (closing : middle.Edit (.resolved old) s') (other : old.id ≠ alert.id) :
      Effect past s [.resolved old, .created alert] s'

namespace Engine

/-- The outcome of an action that publishes events. -/
structure Outcome (e : Engine) (published : List Event) (e' : Engine) : Prop where
  events : e'.events = e.events ++ published
  hub : e'.hub = e.hub
  effect : Effect e.events e.alerts published e'.alerts

/-- The new alert has got the next id. -/
structure Uses (e : Engine) (alert : Alert) (e' : Engine) : Prop where
  id : alert.id = e.nextId
  less : e.idsUsed < e'.idsUsed

/-- What becomes of the alerts, and the events that tell of it. The alert that makes way for a new
one is another one, provided that the new one is the later of them. -/
inductive Announces (e e' : Engine) : List Event → Prop
  | quiet (same : e'.alerts = e.alerts) : Announces e e' []
  | noticed (analysis : PatternAnalysis) (same : e'.alerts = e.alerts) :
      Announces e e' [.patternsDetected analysis]
  | created {alert : Alert} (opens : e.alerts.Opens alert e'.alerts) (used : e.Uses alert e') :
      Announces e e' [.created alert]
  | updated {alert : Alert} (edit : e.alerts.Edit (.updated alert) e'.alerts) :
      Announces e e' [.updated alert]
  | resolved {alert : Alert} (edit : e.alerts.Edit (.resolved alert) e'.alerts) :
      Announces e e' [.resolved alert]
  | superseded {alert old : Alert} {middle : AlertStore} (opens : e.alerts.Opens alert middle)
      (used : e.Uses alert e') (isAnomaly : alert.anomalyDetails.isSome)
      (closing : middle.Edit (.resolved old) e'.alerts)
      (other : (∀ entry ∈ e.alerts.active, entry.2.startsAt < e.now) → old.id ≠ alert.id) :
      Announces e e' [.resolved old, .created alert]

/-- An action publishes the events that tell what it has done. -/
structure Report (e : Engine) (published : List Event) (e' : Engine) : Prop where
  events : e'.events = e.events ++ published
  hub : e'.hub = e.hub
  announces : e.Announces e' published

variable {e e' : Engine} {a : Alert} {alerts : AlertStore} {published : List Event}

/-- Where new ids and times are new, nothing has been heard of the new alert, and it is another
alert that makes way for it. -/
theorem Report.outcome (report : e.Report published e')
    (fresh : e.idsUsed < e'.idsUsed → e.IsFresh) : e.Outcome published e' := by
  refine ⟨report.events, report.hub, ?_⟩
  cases report.announces with
  | quiet same => exact same ▸ .quiet
  | noticed analysis same => exact same ▸ .noticed analysis
  | created opens used =>
    exact .created opens.edit (used.id ▸ (fresh used.less).unknown)
  | updated edit => exact .updated edit
  | resolved edit => exact .resolved edit
  | superseded opens used isAnomaly closing other =>
    have hFresh := fresh used.less
    exact .superseded opens.edit (used.id ▸ hFresh.unknown) closing (other hFresh.later)

@[simp] theorem events_publish (e : Engine) (event : Event) :
    (e.publish event).events = e.events ++ [event] :=
  Array.toList_push

@[simp] theorem events_tick (e : Engine) : e.tick.events = e.events := rfl

theorem Report.quiet (events : e'.events = e.events) (hub : e'.hub = e.hub)
    (alerts : e'.alerts = e.alerts) : e.Report [] e' :=
  ⟨by rw [events, List.append_nil], hub, .quiet alerts⟩

theorem Report.refl (e : Engine) : e.Report [] e := .quiet rfl rfl rfl

theorem eq_of_withAlerts {changed : Option (Alert × AlertStore)}
    (h : e.withAlerts changed = some (a, e')) :
    ∃ alerts, changed = some (a, alerts) ∧ e' = { e with alerts }.tick := by
  obtain ⟨⟨a, alerts⟩, hChanged, h⟩ := Option.map_eq_some_iff.mp h
  cases h
  exact ⟨alerts, hChanged, rfl⟩

theorem report_of_updated (edit : e.alerts.Edit (.updated a) alerts) :
    e.Report [.updated a] ({ e with alerts }.tick.publish (.updated a)) :=
  ⟨events_publish .., rfl, .updated edit⟩

theorem report_of_resolved (edit : e.alerts.Edit (.resolved a) alerts) :
    e.Report [.resolved a] ({ e with alerts }.tick.publish (.resolved a)) :=
  ⟨events_publish .., rfl, .resolved edit⟩

theorem report_acknowledge (e : Engine) (name : String) :
    ∃ published, e.Report published (e.after (.acknowledge name)) := by
  simp only [after, acknowledge?]
  cases h : e.storeAcknowledge? name with
  | none => exact ⟨_, .refl e⟩
  | some result =>
    obtain ⟨a, e'⟩ := result
    obtain ⟨alerts, hChanged, rfl⟩ := eq_of_withAlerts h
    exact ⟨_, report_of_updated (AlertStore.edit_of_acknowledge? hChanged)⟩

theorem report_resolve (sound : e.alerts.Sound) (name : String) (reason : Option String) :
    ∃ published, e.Report published (e.after (.resolve name reason)) := by
  simp only [after, resolve?]
  cases h : e.storeResolve? name (reason.getD manualResolveReason) with
  | none => exact ⟨_, .refl e⟩
  | some result =>
    obtain ⟨a, e'⟩ := result
    obtain ⟨alerts, hChanged, rfl⟩ := eq_of_withAlerts h
    exact ⟨_, report_of_resolved (AlertStore.edit_of_resolve? sound.keys_nodup hChanged)⟩

theorem report_storeResolveRule (sound : e.alerts.Sound) {ruleId reason : String}
    (h : e.storeResolveRule? ruleId reason = some (a, e')) :
    e.Report [.resolved a] (e'.publish (.resolved a)) := by
  obtain ⟨alerts, hChanged, rfl⟩ := eq_of_withAlerts h
  exact report_of_resolved (AlertStore.edit_of_resolveRule? sound.keys_nodup hChanged)

theorem report_retire (sound : e.alerts.Sound) (ruleId : String) :
    ∃ published, e.Report published (e.retire ruleId) := by
  unfold retire
  split
  · next h => exact ⟨_, report_storeResolveRule sound h⟩
  · exact ⟨_, .refl e⟩

theorem report_annotate (e : Engine) (alert : Alert) (fields : List (String × Json)) :
    ∃ published, e.Report published (e.annotate alert fields).2 := by
  unfold annotate
  split
  · exact ⟨_, .refl e⟩
  · next stamped _ =>
    split
    · next h =>
      obtain ⟨alerts, hChanged, rfl⟩ := eq_of_withAlerts h
      exact ⟨_, events_publish .., rfl, .updated (AlertStore.edit_of_mergeAnnotations? hChanged)⟩
    · exact ⟨_, .quiet rfl rfl rfl⟩

theorem report_announcePatterns (e : Engine) (analysis : PatternAnalysis) :
    ∃ published, e.Report published (e.announcePatterns analysis).2 := by
  unfold announcePatterns
  split
  · exact ⟨_, .refl e⟩
  · exact ⟨_, events_publish .., rfl, .noticed analysis rfl⟩

theorem eq_of_storeCreate {rule : Rule} {source : String} {value : Float} {metrics : Json}
    (h : e.storeCreate rule source value metrics = (.created a, e')) :
    ∃ alerts, e.alerts.create rule source value metrics e.nextId e.now = (.created a, alerts) ∧
      e' = { e with alerts, idsUsed := e.idsUsed + 1 }.tick := by
  unfold storeCreate at h
  split at h
  · next alerts hCreate =>
    cases h
    exact ⟨alerts, hCreate, rfl⟩
  · cases h

theorem eq_of_storeCreate_existing {rule : Rule} {source : String} {value : Float} {metrics : Json}
    (h : e.storeCreate rule source value metrics = (.existing a, e')) : e' = e := by
  unfold storeCreate at h
  split at h <;> cases h
  rfl

theorem report_evaluateCondition (sound : e.alerts.Sound) (rule : Rule) (source : String)
    (metrics : Json) (c : Condition)
    (unused : e.idsUsed < (e.evaluateCondition rule source metrics c).2.idsUsed →
      e.alerts.IsUnused e.nextId) :
    ∃ published, e.Report published (e.evaluateCondition rule source metrics c).2 := by
  revert unused
  unfold evaluateCondition
  split
  · exact fun _ => ⟨_, .refl e⟩
  · split
    · exact fun _ => ⟨_, .refl e⟩
    · next value _ =>
      split
      · split
        · next h =>
          obtain ⟨alerts, hCreate, rfl⟩ := eq_of_storeCreate h
          intro unused
          have hUnused := unused (Nat.lt_succ_self _)
          have opens := AlertStore.opens_of_create hUnused.2 hCreate
          have hId : _ = e.nextId := congrArg Alert.id (AlertStore.opened_of_create hCreate).1
          exact ⟨_, events_publish .., rfl, .created opens ⟨hId, Nat.lt_succ_self _⟩⟩
        · next h =>
          obtain rfl := eq_of_storeCreate_existing h
          exact fun _ => ⟨_, .refl _⟩
      · intro _
        split
        · next h => exact ⟨_, report_storeResolveRule sound h⟩
        · exact ⟨_, .refl e⟩

theorem report_evaluateRule (sound : e.alerts.Sound) (rule : Rule) (source : String)
    (metrics : Json)
    (unused : e.idsUsed < (e.evaluateRule rule source metrics).2.2.idsUsed →
      e.alerts.IsUnused e.nextId) :
    ∃ published, e.Report published (e.evaluateRule rule source metrics).2.2 := by
  revert unused
  unfold evaluateRule
  split
  · exact report_evaluateCondition sound rule source metrics _
  · exact fun _ => ⟨_, .refl e⟩
  · split <;> exact fun _ => ⟨_, .refl e⟩

theorem lt_idsUsed_raise (e : Engine) (check : AnomalyCheck) (source : String)
    (anomaly : Anomaly) : e.idsUsed < (e.after (.raise check source anomaly)).idsUsed := by
  simp only [after, raiseAnomalies, storeCreateAnomaly]
  split <;> exact Nat.lt_succ_self _

theorem report_raise (sound : e.alerts.Sound) (unused : e.alerts.IsUnused e.nextId)
    (check : AnomalyCheck) (source : String) (anomaly : Anomaly) :
    ∃ published, e.Report published (e.after (.raise check source anomaly)) := by
  have less := lt_idsUsed_raise e check source anomaly
  revert less
  simp only [after, raiseAnomalies, storeCreateAnomaly]
  generalize hResult :
    e.alerts.createAnomaly check.rule source anomaly check.subset e.nextId e.now e.tick.now = result
  obtain ⟨a, superseded, alerts⟩ := result
  obtain ⟨hAlert, hCases⟩ := AlertStore.createAnomaly_cases unused hResult
  have hId : a.id = e.nextId := hAlert ▸ rfl
  have hStart : a.startsAt = e.now := hAlert ▸ rfl
  have isAnomaly : a.anomalyDetails.isSome := hAlert ▸ rfl
  have opens : e.alerts.Opens a (e.alerts.opened e.nextId a) :=
    hAlert ▸ AlertStore.opens_ofAnomaly unused
  intro less
  obtain ⟨-, rfl, rfl⟩ | ⟨key, old, surplus, rfl, hResolve⟩ := hCases
  · exact ⟨_, events_publish .., rfl, .created opens ⟨hId, less⟩⟩
  · have middle := sound.edit opens.edit
    obtain ⟨before, found, after, -, -, -, hKey, rfl, -⟩ :=
      AlertStore.split_of_surplusAnomaly? middle surplus hResolve
    have closing := AlertStore.edit_of_resolveKey? middle.keys_nodup hResolve
    refine ⟨_, ?_, rfl, .superseded opens ⟨hId, less⟩ isAnomaly closing ?_⟩
    · rw [events_publish, events_publish, List.append_assoc]
      rfl
    · intro later
      rw [← hId] at middle surplus
      rw [← hStart] at later
      have other : key ≠ a.id := AlertStore.ne_of_surplusAnomaly? middle later surplus
      exact hKey.symm ▸ other

/-- Every action announces what it does to the alerts. -/
theorem report_after (sound : e.alerts.Sound) (action : Action)
    (unused : e.idsUsed < (e.after action).idsUsed → e.alerts.IsUnused e.nextId) :
    ∃ published, e.Report published (e.after action) := by
  cases action with
  | acknowledge name => exact report_acknowledge e name
  | resolve name reason => exact report_resolve sound name reason
  | retire ruleId => exact report_retire sound ruleId
  | evaluate rule source metrics => exact report_evaluateRule sound rule source metrics unused
  | raise check source anomaly =>
    exact report_raise sound (unused (lt_idsUsed_raise e check source anomaly)) check source anomaly
  | enrich alert => exact report_annotate e alert _
  | giveFeedback alert => exact report_annotate e alert _
  | announcePatterns analysis => exact report_announcePatterns e analysis
  | addRule | updateRule | removeRule =>
    rw [after_of_rule_request rfl]
    exact ⟨_, .quiet rfl rfl rfl⟩
  | addChannel | updateChannel | deleteChannel =>
    rw [after_of_channel_request rfl]
    exact ⟨_, .quiet rfl rfl rfl⟩

theorem outcome_after (sound : e.alerts.Sound) (action : Action)
    (fresh : e.idsUsed < (e.after action).idsUsed → e.IsFresh) :
    ∃ published, e.Outcome published (e.after action) := by
  obtain ⟨published, report⟩ := report_after sound action fun used => (fresh used).unused
  exact ⟨published, report.outcome fresh⟩

end Engine

/-! What runs keep. -/

/-- A property of alerts and of the events so far that every edit keeps with its event. Where two
events are about different alerts, their order does not matter to it. -/
structure Follows (P : AlertStore → List Event → Prop) : Prop where
  edit {s s' : AlertStore} {past : List Event} {event : Event} (sound : s.Sound) (h : P s past)
    (edit : s.Edit event s') (unknown : ∀ alert, event = .created alert → IsUnknown past alert.id) :
    P s' (past ++ [event])
  noticed {s : AlertStore} {past : List Event} (h : P s past) (analysis : PatternAnalysis) :
    P s (past ++ [.patternsDetected analysis])
  swap {s : AlertStore} {past : List Event} {alert old : Alert} (other : old.id ≠ alert.id)
    (h : P s (past ++ [.created alert, .resolved old])) :
    P s (past ++ [.resolved old, .created alert])

variable {P : AlertStore → List Event → Prop} {s s' : AlertStore} {past new : List Event}

theorem Effect.keeps (effect : Effect past s new s') (follows : Follows P) (sound : s.Sound)
    (h : P s past) : P s' (past ++ new) := by
  cases effect with
  | quiet => rwa [List.append_nil]
  | noticed analysis => exact follows.noticed h analysis
  | created edit unknown =>
    exact follows.edit sound h edit fun alert same => by cases same; exact unknown
  | updated edit => exact follows.edit sound h edit fun alert same => by cases same
  | resolved edit => exact follows.edit sound h edit fun alert same => by cases same
  | superseded opening unknown closing other =>
    have hOpened := follows.edit sound h opening fun alert same => by cases same; exact unknown
    have hClosed := follows.edit (sound.edit opening) hOpened closing
      fun alert same => by cases same
    rw [List.append_assoc] at hClosed
    exact follows.swap other hClosed

namespace Engine

variable {e e' : Engine}

theorem Announces.sound (announces : e.Announces e' new) (sound : e.alerts.Sound) :
    e'.alerts.Sound := by
  cases announces with
  | quiet same => exact same ▸ sound
  | noticed analysis same => exact same ▸ sound
  | created opens => exact sound.edit opens.edit
  | updated edit => exact sound.edit edit
  | resolved edit => exact sound.edit edit
  | superseded opens _ _ closing => exact (sound.edit opens.edit).edit closing

theorem UnusedStep.announces (step : e.UnusedStep e') (sound : e.alerts.Sound) :
    ∃ published, e'.events = e.events ++ published ∧ e.Announces e' published := by
  obtain ⟨step, unused⟩ := step
  cases step with
  | work action =>
    obtain ⟨published, report⟩ := report_after sound action unused
    exact ⟨published, report.events, report.announces⟩
  | serve => exact ⟨[], (List.append_nil _).symm, .quiet rfl⟩

theorem UnusedStep.sound (step : e.UnusedStep e') (sound : e.alerts.Sound) : e'.alerts.Sound := by
  obtain ⟨published, -, announces⟩ := step.announces sound
  exact announces.sound sound

theorem Leads.sound (leads : Leads e e') (sound : e.alerts.Sound) : e'.alerts.Sound := by
  induction leads with
  | refl => exact sound
  | tail _ last ih => exact last.sound ih

/-- A run keeps whatever is kept by all that can be announced while the alerts are sound. -/
theorem Leads.keeps
    (step : ∀ {e e' : Engine} {new : List Event}, e.alerts.Sound → P e.alerts e.events →
      e.Announces e' new → P e'.alerts (e.events ++ new))
    (leads : Leads e e') (sound : e.alerts.Sound) (h : P e.alerts e.events) :
    P e'.alerts e'.events := by
  induction leads with
  | refl => exact h
  | tail first last ih =>
    have middle := Leads.sound first sound
    obtain ⟨new, hEvents, announces⟩ := last.announces middle
    exact hEvents ▸ step middle ih announces

theorem FreshStep.keeps (follows : Follows P) (step : e.FreshStep e') (sound : e.alerts.Sound)
    (h : P e.alerts e.events) : e'.alerts.Sound ∧ P e'.alerts e'.events := by
  refine ⟨step.unusedStep.sound sound, ?_⟩
  obtain ⟨step, fresh⟩ := step
  cases step with
  | work action =>
    obtain ⟨new, outcome⟩ := outcome_after sound action fresh
    rw [outcome.events]
    exact outcome.effect.keeps follows sound h
  | serve => exact h

/-- A run keeps sound alerts and whatever edits keep. -/
theorem Reaches.keeps (follows : Follows P) (reaches : Reaches e e') (sound : e.alerts.Sound)
    (h : P e.alerts e.events) : e'.alerts.Sound ∧ P e'.alerts e'.events := by
  induction reaches with
  | refl => exact ⟨sound, h⟩
  | tail _ step ih => exact step.keeps follows ih.1 ih.2

end Engine

end MetricAlerts
