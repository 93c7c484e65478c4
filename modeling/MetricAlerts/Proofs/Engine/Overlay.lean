import MetricAlerts.Proofs.Engine.Annotations
import MetricAlerts.Proofs.Store.Conservation

/-! The annotations of an active alert, at any point of a run. They are those with which it has been
created, under the layers that the tasks that ended while it was active have left. This is kept by
every step: a task leaves a layer, a new alert has none, and else annotations do not change. -/

namespace MetricAlerts.Engine

/-- The alerts that have been announced as new. -/
def created (e : Engine) : List Alert := e.events.filterMap Event.created?

/-- The next id is in no use and has never been given to an alert. -/
structure HasNewId (e : Engine) : Prop where
  unused : e.alerts.IsUnused e.nextId
  new : e.nextId ∉ e.created.map Alert.id

/-- What an engine has done in a run, each time with the engine as it was before. -/
inductive Trace (start : Engine) : List (Engine × Action) → Engine → Prop
  | start : Trace start [] start
  | work {past : List (Engine × Action)} {e : Engine} (before : Trace start past e)
      (action : Action) (fresh : e.idsUsed < (e.after action).idsUsed → e.HasNewId) :
      Trace start (past ++ [(e, action)]) (e.after action)
  | serve {past : List (Engine × Action)} {e : Engine} (before : Trace start past e) (hub : Hub)
      (console : Array ConsoleLine) (readings : Nat) :
      Trace start past { e with hub, console, readings }

/-- An engine in which nothing has happened yet. -/
structure IsBlank (e : Engine) : Prop where
  sound : e.alerts.Sound
  active : e.alerts.active = []
  events : e.events = []

theorem isBlank_initial (environment : Environment) (definitions : Definitions)
    (historyLimit anomalyLimit eventBuffer clientBuffer maxMetricsBytes : Nat) :
    (initial environment definitions historyLimit anomalyLimit eventBuffer clientBuffer
      maxMetricsBytes).IsBlank :=
  ⟨AlertStore.sound_empty .., rfl, rfl⟩

/-- The layers that have been left on the alert with an id, in the order in which they came. -/
def layers (id : String) (past : List (Engine × Action)) : List (Dict Json) :=
  past.filterMap fun p => p.1.layer? id p.2

/-- No alert is of a rule that has the id of an alert for which annotations have been made. -/
def IsApart (past : List (Engine × Action)) (e : Engine) : Prop :=
  ∀ p ∈ past, ∀ annotation ∈ p.2.annotation?, ∀ a ∈ e.created, a.ruleId ≠ annotation.1.id

instance (past : List (Engine × Action)) (e : Engine) : Decidable (IsApart past e) :=
  inferInstanceAs (Decidable (∀ p ∈ past, ∀ annotation ∈ p.2.annotation?, ∀ a ∈ e.created,
    a.ruleId ≠ annotation.1.id))

variable {start e e' : Engine} {past : List (Engine × Action)} {p : Engine × Action}
  {action : Action} {alert a b first : Alert} {fields : List (String × Json)} {id name : String}
  {new : List Event}

/-! What a step does. -/

/-- Where an alert becomes active, it is announced and has the next id. An update does not open it:
what is updated was active. -/
theorem Announces.created_of_absent (announces : e.Announces e' new) (sound : e.alerts.Sound)
    (absent : id ∉ e.alerts.ids) (h : e'.alerts.view id = some b) :
    .created b ∈ new ∧ b.id = id ∧ e.Uses b e' := by
  have before : e.alerts.view id = none := sound.view_eq_none_iff.mpr absent
  cases announces with
  | quiet same | noticed _ same =>
    rw [same, before] at h
    cases h
  | created opens used =>
    rw [sound.view_edit opens.edit, Event.applyTo, View.set] at h
    split at h
    · next same =>
      cases h
      exact ⟨List.mem_singleton.mpr rfl, same.symm, used⟩
    · rw [before] at h
      cases h
  | updated edit =>
    have known := (sound.edit edit).mem_ids_of_view h
    generalize e'.alerts = alerts at edit known
    cases edit with
    | changed split revision =>
      rw [AlertStore.ids_changed split revision.id] at known
      exact absurd known absent
  | resolved edit =>
    rw [sound.view_edit edit, Event.applyTo, View.set, before, ite_self] at h
    cases h
  | superseded opens used isAnomaly closing other =>
    rw [(sound.edit opens.edit).view_edit closing, sound.view_edit opens.edit] at h
    simp only [Event.applyTo, View.set] at h
    split at h
    · cases h
    · split at h
      · next same =>
        cases h
        exact ⟨List.mem_cons_of_mem _ (List.mem_singleton.mpr rfl), same.symm, used⟩
      · rw [before] at h
        cases h

/-- At most one alert is announced as new, and it has the next id. -/
theorem Announces.created_eq (announces : e.Announces e' new) :
    new.filterMap Event.created? = [] ∨
      ∃ a, new.filterMap Event.created? = [a] ∧ e.Uses a e' := by
  cases announces with
  | created opens used => exact .inr ⟨_, rfl, used⟩
  | superseded opens used => exact .inr ⟨_, rfl, used⟩
  | _ => exact .inl rfl

/-- What is made of an active alert is of the same rule, and an action that is there for something
else leaves its annotations. -/
theorem exists_view_before (sound : e.alerts.Sound)
    (unused : e.idsUsed < (e.after action).idsUsed → e.alerts.IsUnused e.nextId)
    (known : id ∈ e.alerts.ids) (h : (e.after action).alerts.view id = some b) :
    ∃ a, e.alerts.view id = some a ∧ b.ruleId = a.ruleId ∧
      (action.annotation? = none → b.annotations = a.annotations) := by
  rw [alerts_after] at h
  cases hOperation : e.operation? action with
  | none =>
    rw [hOperation] at h
    exact ⟨b, h, rfl, fun _ => rfl⟩
  | some operation =>
    rw [hOperation] at h
    have isNew := unused_createdBy unused hOperation
    rcases sound.view_after isNew (operation?_ne_clear hOperation) h with
      same | ⟨created | updated, own⟩
    · exact ⟨b, same, rfl, fun _ => rfl⟩
    · obtain ⟨entry, mem, hId⟩ := List.mem_map.mp known
      exact absurd (hId.trans own.symm) ((isNew b created).2 entry mem)
    · obtain ⟨key, old, mem, revision, kept⟩ := AlertStore.exists_revision updated
      refine ⟨old, (AlertStore.view_eq_some_iff sound.ids_nodup).mpr
        ⟨key, mem, revision.id.symm.trans own⟩, revision.ruleId, fun plain => kept ?_⟩
      exact operation?_ne_mergeAnnotations plain hOperation

/-! What a trace tells. -/

theorem Trace.leads (trace : Trace start past e) : Leads start e := by
  induction trace with
  | start => exact .refl
  | work _ action fresh ih => exact ih.tail ⟨.work action, fun used => (fresh used).unused⟩
  | serve _ hub console readings ih =>
    exact ih.tail ⟨.serve hub console readings, fun used => absurd used (Nat.lt_irrefl _)⟩

theorem IsFresh.hasNewId (fresh : e.IsFresh) : e.HasNewId := by
  refine ⟨fresh.unused, fun old => ?_⟩
  obtain ⟨a, mem, same⟩ := List.mem_map.mp old
  obtain ⟨event, told, isCreated⟩ := List.mem_filterMap.mp mem
  cases event with
  | created b =>
    cases isCreated
    have silent : (a.id == e.nextId) = false := fresh.unknown _ told
    exact beq_eq_false_iff_ne.mp silent same
  | _ => cases isCreated

/-- Every run leaves a trace. -/
theorem Reaches.exists_trace (reaches : Reaches start e) : ∃ past, Trace start past e := by
  induction reaches with
  | refl => exact ⟨[], .start⟩
  | tail _ last ih =>
    obtain ⟨past, trace⟩ := ih
    obtain ⟨step, fresh⟩ := last
    cases step with
    | work action => exact ⟨_, trace.work action fun used => (fresh used).hasNewId⟩
    | serve hub console readings => exact ⟨past, trace.serve hub console readings⟩

/-- What actions come to, one after another, each with the engine as it was before. -/
def pastOf (e : Engine) : List Action → List (Engine × Action)
  | [] => []
  | action :: actions => (e, action) :: pastOf (e.after action) actions

theorem Trace.run (trace : Trace start past e) {actions : List Action}
    (fresh : IsFreshRun e actions) : Trace start (past ++ pastOf e actions) (e.run actions) := by
  induction actions generalizing past e with
  | nil => exact (List.append_nil past).symm ▸ trace
  | cons action actions ih =>
    rw [pastOf, ← List.singleton_append, ← List.append_assoc]
    exact ih (trace.work action fun used => (fresh.1 used).hasNewId) fresh.2

/-- What an action announces comes after everything that has been announced. -/
theorem exists_announces (sound : e.alerts.Sound)
    (fresh : e.idsUsed < (e.after action).idsUsed → e.HasNewId) :
    ∃ new, (e.after action).events = e.events ++ new ∧ e.Announces (e.after action) new ∧
      (e.after action).created = e.created ++ new.filterMap Event.created? := by
  obtain ⟨new, report⟩ := report_after sound action fun used => (fresh used).unused
  refine ⟨new, report.events, report.announces, ?_⟩
  rw [created, report.events, List.filterMap_append]
  rfl

theorem Trace.exists_before (trace : Trace start past e) (sound : start.alerts.Sound)
    (mem : p ∈ past) :
    ∃ earlier, Trace start earlier p.1 ∧ earlier ⊆ past ∧ p.1.created ⊆ e.created := by
  induction trace with
  | start => cases mem
  | @work past e before action fresh ih =>
    obtain ⟨new, -, -, hCreated⟩ := exists_announces (before.leads.sound sound) fresh
    have grows : e.created ⊆ (e.after action).created :=
      hCreated ▸ List.subset_append_left _ _
    rcases List.mem_append.mp mem with mem | mem
    · obtain ⟨earlier, there, subset, later⟩ := ih mem
      exact ⟨earlier, there, List.subset_append_of_subset_left _ subset,
        fun a mem => grows (later mem)⟩
    · obtain rfl := List.mem_singleton.mp mem
      exact ⟨past, before, List.subset_append_left _ _, grows⟩
  | serve _ _ _ _ ih => exact ih mem

/-- No two alerts have been created with the same id. -/
theorem Trace.nodup_created (trace : Trace start past e) (blank : start.IsBlank) :
    (e.created.map Alert.id).Nodup := by
  induction trace with
  | start =>
    rw [created, blank.events]
    exact List.nodup_nil
  | @work past e before action fresh ih =>
    obtain ⟨new, -, announces, hCreated⟩ :=
      exists_announces (before.leads.sound blank.sound) fresh
    rw [hCreated]
    rcases announces.created_eq with none | ⟨a, one, used⟩
    · rwa [none, List.append_nil]
    · rw [one, List.map_append, List.map_singleton]
      refine List.nodup_append.mpr ⟨ih, List.nodup_singleton _, ?_⟩
      rintro old mem _ last rfl
      rw [List.mem_singleton.mp last, used.id] at mem
      exact (fresh used.less).new mem
  | serve _ _ _ _ ih => exact ih

/-- An active alert has been created, by the rule that it still has. -/
theorem Trace.exists_created (trace : Trace start past e) (blank : start.IsBlank)
    (h : e.alerts.view id = some b) :
    ∃ first ∈ e.created, first.id = id ∧ first.ruleId = b.ruleId := by
  induction trace generalizing b with
  | start =>
    rw [AlertStore.view, blank.active] at h
    cases h
  | @work past e before action fresh ih =>
    have sound := before.leads.sound blank.sound
    obtain ⟨new, -, announces, hCreated⟩ := exists_announces sound fresh
    rw [hCreated]
    by_cases known : id ∈ e.alerts.ids
    · obtain ⟨a, found, same, -⟩ :=
        exists_view_before sound (fun used => (fresh used).unused) known h
      obtain ⟨first, mem, own, ofRule⟩ := ih found
      exact ⟨first, List.mem_append_left _ mem, own, ofRule.trans same.symm⟩
    · obtain ⟨told, own, -⟩ := announces.created_of_absent sound known h
      exact ⟨b, List.mem_append_right _ (List.mem_filterMap.mpr ⟨_, told, rfl⟩), own, rfl⟩
  | serve _ _ _ _ ih => exact ih h

/-- An id that no rule has stands for its own alert only. -/
theorem Trace.isIdOnly (trace : Trace start past e) (blank : start.IsBlank)
    (apart : ∀ a ∈ e.created, a.ruleId ≠ name) : e.alerts.IsIdOnly name := by
  have sound := trace.leads.sound blank.sound
  intro entry mem hKey
  rcases sound.key_eq entry mem with ofRule | own
  · have found : e.alerts.view entry.2.id = some entry.2 :=
      (AlertStore.view_eq_some_iff sound.ids_nodup).mpr ⟨entry.1, mem, rfl⟩
    obtain ⟨first, hFirst, -, same⟩ := trace.exists_created blank found
    exact absurd (same.trans (ofRule.symm.trans hKey)) (apart first hFirst)
  · exact own.symm.trans hKey

theorem layers_append (id : String) (past : List (Engine × Action)) (e : Engine)
    (action : Action) :
    layers id (past ++ [(e, action)]) = layers id past ++ (e.layer? id action).toList := by
  rw [layers, List.filterMap_append, List.filterMap_cons]
  cases e.layer? id action <;> rfl

/-- Nothing has been left on an alert that has not been created yet. -/
theorem Trace.layers_eq_nil (trace : Trace start past e) (blank : start.IsBlank)
    (new : id ∉ e.created.map Alert.id) : layers id past = [] := by
  rw [layers, List.filterMap_eq_nil_iff]
  intro p mem
  obtain ⟨earlier, before, -, later⟩ := trace.exists_before blank.sound mem
  have absent : id ∉ p.1.alerts.ids := by
    intro active
    obtain ⟨entry, hEntry, rfl⟩ := List.mem_map.mp active
    have found : p.1.alerts.view entry.2.id = some entry.2 :=
      (AlertStore.view_eq_some_iff (before.leads.sound blank.sound).ids_nodup).mpr
        ⟨entry.1, hEntry, rfl⟩
    obtain ⟨first, hFirst, own, -⟩ := before.exists_created blank found
    exact new (List.mem_map.mpr ⟨first, later hFirst, own⟩)
  rw [layer?]
  cases p.2.annotation? with
  | none => rfl
  | some => exact if_neg fun active => absent active.2

/-- The annotations of an active alert are those of its creation under the layers on it. Where it
was not active before, it is new, and no task can have left a layer on it. -/
theorem Trace.annotations (trace : Trace start past e) (blank : start.IsBlank)
    (apart : IsApart past e) (h : e.alerts.view id = some b) :
    ∃ first ∈ e.created, first.id = id ∧
      b.annotations = overlay (layers id past) first.annotations := by
  induction trace generalizing b with
  | start =>
    rw [AlertStore.view, blank.active] at h
    cases h
  | @work past e before action fresh ih =>
    have sound := before.leads.sound blank.sound
    obtain ⟨new, -, announces, hCreated⟩ := exists_announces sound fresh
    have grows : e.created ⊆ (e.after action).created :=
      hCreated ▸ List.subset_append_left _ _
    have earlier : IsApart past e := fun p mem annotation made a told =>
      apart p (List.mem_append_left _ mem) annotation made a (grows told)
    rw [layers_append]
    cases hTask : action.annotation? with
    | some annotation =>
      obtain ⟨alert, fields⟩ := annotation
      have only : e.alerts.IsIdOnly alert.id := before.isIdOnly blank fun a told =>
        apart (e, action) (by simp) (alert, fields) hTask a (grows told)
      rw [view_task sound hTask only] at h
      obtain ⟨a, found, rfl⟩ := Option.map_eq_some_iff.mp h
      obtain ⟨first, mem, own, same⟩ := ih earlier found
      exact ⟨first, grows mem, own, by rw [overlay_append, ← same]⟩
    | none =>
      have silent : e.layer? id action = none := by rw [layer?, hTask]; rfl
      rw [silent, Option.toList_none, List.append_nil]
      by_cases known : id ∈ e.alerts.ids
      · obtain ⟨a, found, -, kept⟩ :=
          exists_view_before sound (fun used => (fresh used).unused) known h
        obtain ⟨first, mem, own, same⟩ := ih earlier found
        exact ⟨first, grows mem, own, (kept hTask).trans same⟩
      · obtain ⟨told, own, used⟩ := announces.created_of_absent sound known h
        have isNew : id ∉ e.created.map Alert.id := by
          rw [← own, used.id]
          exact (fresh used.less).new
        rw [before.layers_eq_nil blank isNew, hCreated]
        exact ⟨b, List.mem_append_right _ (List.mem_filterMap.mpr ⟨_, told, rfl⟩), own, rfl⟩
  | serve _ _ _ _ ih => exact ih apart h

/-- Each task does something only about its own alert, and only while that is active. -/
theorem Trace.annotates (trace : Trace start past e) (blank : start.IsBlank)
    (apart : IsApart past e) (mem : p ∈ past) (h : p.2.annotation? = some (alert, fields)) :
    p.1.Annotates p.2 alert fields := by
  obtain ⟨earlier, before, -, later⟩ := trace.exists_before blank.sound mem
  exact Engine.annotates h (before.isIdOnly blank fun a told =>
    apart p mem (alert, fields) h a (later told))

end MetricAlerts.Engine
