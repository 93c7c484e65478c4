import MetricAlerts.Proofs.Engine.Outcome
import MetricAlerts.Proofs.Store.Conservation
import MetricAlerts.Proofs.Store.Supersession

/-! That the ids and times of new alerts are new can be seen in the events. Where every alert that
is created is new next to those before it, the next id and the time have been new whenever an engine
made use of them (`isFresh_of_areNew`). -/

namespace MetricAlerts

/-- The second of two alerts begins later, and its id is new next to the first, which neither has it
nor can be kept under it. -/
def Alert.Precedes (a b : Alert) : Prop :=
  a.id ≠ b.id ∧ a.ruleId ≠ b.id ∧ a.startsAt < b.startsAt

instance (a b : Alert) : Decidable (a.Precedes b) :=
  inferInstanceAs (Decidable (_ ∧ _ ∧ _))

/-- Every alert that is created is new next to those before it. -/
def AreNew (events : List Event) : Prop :=
  (events.filterMap Event.created?).Pairwise Alert.Precedes

instance (events : List Event) : Decidable (AreNew events) :=
  inferInstanceAs (Decidable (List.Pairwise _ _))

/-- All alerts that are active or have been heard of have been created. -/
structure Stems (s : AlertStore) (events : List Event) : Prop where
  active : ∀ entry ∈ s.active, ∃ first, .created first ∈ events ∧ first.id = entry.2.id ∧
    first.startsAt = entry.2.startsAt ∧ (entry.1 = first.ruleId ∨ entry.1 = first.id)
  named : ∀ event ∈ events, ∀ alert ∈ event.alert?, ∃ first, .created first ∈ events ∧
    first.id = alert.id

variable {s s' : AlertStore} {events past published : List Event} {event : Event}
  {a b alert old : Alert}

theorem AreNew.of_append (new : AreNew (past ++ published)) : AreNew past := by
  rw [AreNew, List.filterMap_append] at new
  exact (List.pairwise_append.mp new).1

theorem AreNew.precedes (new : AreNew (past ++ published)) (before : .created a ∈ past)
    (after : .created b ∈ published) : a.Precedes b := by
  rw [AreNew, List.filterMap_append] at new
  exact (List.pairwise_append.mp new).2.2 a (List.mem_filterMap.mpr ⟨_, before, rfl⟩) b
    (List.mem_filterMap.mpr ⟨_, after, rfl⟩)

theorem Stems.edit (h : Stems s past) (edit : s.Edit event s') : Stems s' (past ++ [event]) := by
  have older {P : Alert → Prop} : (∃ first, .created first ∈ past ∧ P first) →
      ∃ first, .created first ∈ past ++ [event] ∧ P first :=
    fun ⟨first, mem, holds⟩ => ⟨first, List.mem_append_left _ mem, holds⟩
  have named (own : ∀ alert ∈ event.alert?, ∃ first, .created first ∈ past ++ [event] ∧
      first.id = alert.id) : ∀ told ∈ past ++ [event], ∀ alert ∈ told.alert?,
      ∃ first, .created first ∈ past ++ [event] ∧ first.id = alert.id :=
    List.forall_mem_append.mpr ⟨fun told mem alert about => older (h.named told mem alert about),
      List.forall_mem_singleton.mpr own⟩
  cases edit with
  | @opened key alert free unused name isNew =>
    have self : .created alert ∈ past ++ [.created alert] :=
      List.mem_append_right _ List.mem_cons_self
    refine ⟨List.forall_mem_append.mpr ⟨fun entry mem => older (h.active entry mem),
      List.forall_mem_singleton.mpr ⟨alert, self, rfl, rfl, name⟩⟩, named ?_⟩
    rintro _ ⟨⟩
    exact ⟨alert, self, rfl⟩
  | @changed before after key old new split revision =>
    have entries := h.active
    rw [split] at entries
    obtain ⟨first, mem, id, startsAt, name⟩ :=
      entries (key, old) (List.mem_append_right _ List.mem_cons_self)
    refine ⟨?_, named ?_⟩
    · intro entry hEntry
      rcases List.mem_append.mp hEntry with hBefore | hEntry
      · exact older (entries entry (List.mem_append_left _ hBefore))
      · rcases List.mem_cons.mp hEntry with rfl | hAfter
        · exact older ⟨first, mem, id.trans revision.id.symm,
            startsAt.trans revision.startsAt.symm, name⟩
        · exact older (entries entry (List.mem_append_right _ (List.mem_cons_of_mem _ hAfter)))
    · rintro _ ⟨⟩
      exact older ⟨first, mem, id.trans revision.id.symm⟩
  | @closed before after key old split reason now =>
    have entries := h.active
    rw [split] at entries
    obtain ⟨first, mem, id, -⟩ := entries (key, old) (List.mem_append_right _ List.mem_cons_self)
    refine ⟨?_, named ?_⟩
    · intro entry hEntry
      refine older (entries entry ?_)
      exact (List.mem_append.mp hEntry).elim (List.mem_append_left _)
        fun hAfter => List.mem_append_right _ (List.mem_cons_of_mem _ hAfter)
    · rintro _ ⟨⟩
      exact older ⟨first, mem, id⟩

theorem Stems.of_mem_iff (h : Stems s past) (same : ∀ event, event ∈ past ↔ event ∈ events) :
    Stems s events where
  active entry mem := by
    obtain ⟨first, created, rest⟩ := h.active entry mem
    exact ⟨first, (same _).mp created, rest⟩
  named event mem alert about := by
    obtain ⟨first, created, id⟩ := h.named event ((same _).mpr mem) alert about
    exact ⟨first, (same _).mp created, id⟩

/-- Whatever edits do, all alerts stem from events. -/
theorem follows_stems : Follows Stems where
  edit _ h edit _ := h.edit edit
  noticed h analysis := by
    refine ⟨fun entry mem => ?_, List.forall_mem_append.mpr ⟨fun event mem alert about => ?_, ?_⟩⟩
    · obtain ⟨first, created, rest⟩ := h.active entry mem
      exact ⟨first, List.mem_append_left _ created, rest⟩
    · obtain ⟨first, created, id⟩ := h.named event mem alert about
      exact ⟨first, List.mem_append_left _ created, id⟩
    · refine List.forall_mem_singleton.mpr ?_
      rintro _ ⟨⟩
  swap _ h := h.of_mem_iff fun event => ((List.Perm.swap ..).append_left _).mem_iff

namespace Engine

variable {e : Engine} {action : Action}

/-- An event tells of a new alert, which has the next id and begins now. -/
def Opening (e e' : Engine) : Prop :=
  ∃ published alert, e'.events = e.events ++ published ∧ .created alert ∈ published ∧
    alert.id = e.nextId ∧ alert.startsAt = e.now

theorem opening_evaluateCondition (rule : Rule) (source : String) (metrics : Json) (c : Condition)
    (used : e.idsUsed < (e.evaluateCondition rule source metrics c).2.idsUsed) :
    e.Opening (e.evaluateCondition rule source metrics c).2 := by
  revert used
  unfold evaluateCondition
  split
  · exact fun used => absurd used (Nat.lt_irrefl _)
  · split
    · exact fun used => absurd used (Nat.lt_irrefl _)
    · split
      · split
        · next h =>
          obtain ⟨alerts, hCreate, rfl⟩ := eq_of_storeCreate h
          obtain ⟨rfl, -⟩ := AlertStore.opened_of_create hCreate
          exact fun _ => ⟨_, _, events_publish .., List.mem_cons_self, rfl, rfl⟩
        · next h =>
          obtain rfl := eq_of_storeCreate_existing h
          exact fun used => absurd used (Nat.lt_irrefl _)
      · split
        · next h =>
          obtain ⟨alerts, -, rfl⟩ := eq_of_withAlerts h
          exact fun used => absurd used (Nat.lt_irrefl _)
        · exact fun used => absurd used (Nat.lt_irrefl _)

theorem opening_raise (e : Engine) (check : AnomalyCheck) (source : String) (anomaly : Anomaly) :
    e.Opening (e.after (.raise check source anomaly)) := by
  have same := AlertStore.createAnomaly_fst e.alerts check.rule source anomaly check.subset
    e.nextId e.now e.tick.now
  simp only [after, raiseAnomalies, storeCreateAnomaly]
  generalize e.alerts.createAnomaly check.rule source anomaly check.subset e.nextId e.now
    e.tick.now = result at same ⊢
  obtain ⟨alert, superseded, alerts⟩ := result
  obtain rfl : alert = _ := same
  let alert := Alert.ofAnomaly check.rule source anomaly check.subset e.nextId e.now
  cases superseded with
  | none => exact ⟨[.created alert], alert, events_publish .., List.mem_cons_self, rfl, rfl⟩
  | some old =>
    refine ⟨[.resolved old, .created alert], alert, ?_, List.mem_cons_of_mem _ List.mem_cons_self,
      rfl, rfl⟩
    simp only [events_publish, List.append_assoc]
    rfl

theorem idsUsed_of_withAlerts {changed : Option (Alert × AlertStore)} {a : Alert} {e' : Engine}
    (h : e.withAlerts changed = some (a, e')) : e'.idsUsed = e.idsUsed := by
  obtain ⟨alerts, -, rfl⟩ := eq_of_withAlerts h
  rfl

theorem idsUsed_annotate (e : Engine) (alert : Alert) (fields : List (String × Json)) :
    (e.annotate alert fields).2.idsUsed = e.idsUsed := by
  unfold annotate
  split
  · rfl
  · split
    · next updated e' h =>
      have same : e'.idsUsed = e.tick.idsUsed := idsUsed_of_withAlerts h
      exact same
    · rfl

theorem idsUsed_retire (e : Engine) (ruleId : String) : (e.retire ruleId).idsUsed = e.idsUsed := by
  unfold retire
  split
  · next resolved e' h =>
    have same : e'.idsUsed = e.idsUsed := idsUsed_of_withAlerts h
    exact same
  · rfl

/-- An operator's change of an alert uses no id. -/
theorem idsUsed_getD {changed : Option (Alert × AlertStore)} {published : Alert → Event} :
    ((((e.withAlerts changed).map fun (alert, e) => (alert, e.publish (published alert))).map
      Prod.snd).getD e).idsUsed = e.idsUsed := by
  cases changed <;> rfl

/-- When an id is used up, an event tells of a new alert that has it. -/
theorem opening_after (used : e.idsUsed < (e.after action).idsUsed) :
    e.Opening (e.after action) := by
  have unused {e' : Engine} (same : (e.after action).idsUsed = e.idsUsed) : e.Opening e' :=
    absurd used (same ▸ Nat.lt_irrefl _)
  cases action with
  | evaluate rule source metrics =>
    simp only [after, evaluateRule] at used ⊢
    split at used
    · exact opening_evaluateCondition _ _ _ _ used
    · exact absurd used (Nat.lt_irrefl _)
    · split at used <;> exact absurd used (Nat.lt_irrefl _)
  | raise check source anomaly => exact opening_raise e check source anomaly
  | acknowledge | resolve => exact unused idsUsed_getD
  | retire ruleId => exact unused (idsUsed_retire e ruleId)
  | enrich | giveFeedback => exact unused (idsUsed_annotate ..)
  | announcePatterns =>
    refine unused ?_
    simp only [after, announcePatterns]
    split <;> rfl
  | addRule | updateRule | removeRule =>
    refine unused ?_
    rw [after_of_rule_request rfl]
    rfl
  | addChannel | updateChannel | deleteChannel =>
    refine unused ?_
    rw [after_of_channel_request rfl]
    rfl

/-- Where alerts are new in the events, the id and the time that an action has made use of were
new. -/
theorem isFresh_of_areNew (stems : Stems e.alerts e.events) (new : AreNew (e.after action).events)
    (used : e.idsUsed < (e.after action).idsUsed) : e.IsFresh := by
  obtain ⟨published, alert, hEvents, created, hId, hStart⟩ := opening_after used
  rw [hEvents] at new
  have precedes {first : Alert} (mem : .created first ∈ e.events) : first.Precedes alert :=
    new.precedes mem created
  refine ⟨⟨fun mem => ?_, fun entry mem same => ?_⟩, fun event mem => ?_, fun entry mem => ?_⟩
  · obtain ⟨entry, hEntry, hKey⟩ := List.mem_map.mp mem
    obtain ⟨first, opens, -, -, name⟩ := stems.active entry hEntry
    obtain ⟨otherId, otherRule, -⟩ := precedes opens
    rw [← hId] at hKey
    exact name.elim (fun name => otherRule (name.symm.trans hKey))
      fun name => otherId (name.symm.trans hKey)
  · obtain ⟨first, opens, id, -⟩ := stems.active entry mem
    exact (precedes opens).1 (id.trans (same.trans hId.symm))
  · cases about : event.alert? with
    | none => simp [Event.isAbout, about]
    | some told =>
      obtain ⟨first, opens, id⟩ := stems.named event mem told about
      have other : told.id ≠ e.nextId := fun same =>
        (precedes opens).1 (id.trans (same.trans hId.symm))
      simpa [Event.isAbout, about] using other
  · obtain ⟨first, opens, -, startsAt, -⟩ := stems.active entry mem
    rw [← startsAt, ← hStart]
    exact (precedes opens).2.2

/-- The alerts of an engine are sound, and all of them stem from its events. -/
structure IsGrounded (e : Engine) : Prop where
  sound : e.alerts.Sound
  stems : Stems e.alerts e.events

theorem isGrounded_initial (environment : Environment) (definitions : Definitions)
    (historyLimit anomalyLimit eventBuffer clientBuffer maxMetricsBytes : Nat) :
    (initial environment definitions historyLimit anomalyLimit eventBuffer clientBuffer
      maxMetricsBytes).IsGrounded where
  sound := AlertStore.sound_empty ..
  stems := ⟨List.forall_mem_nil _, List.forall_mem_nil _⟩

theorem IsGrounded.of_same {e' : Engine} (h : e.IsGrounded) (alerts : e'.alerts = e.alerts)
    (events : e'.events = e.events) : e'.IsGrounded := by
  obtain ⟨sound, stems⟩ := h
  rw [← alerts] at sound stems
  rw [← events] at stems
  exact ⟨sound, stems⟩

/-- An action that makes use of a new id does so with one that is fresh. -/
theorem IsGrounded.fresh (h : e.IsGrounded) (new : AreNew (e.after action).events) :
    e.idsUsed < (e.after action).idsUsed → e.IsFresh :=
  isFresh_of_areNew h.stems new

theorem IsGrounded.after (h : e.IsGrounded) (new : AreNew (e.after action).events) :
    (e.after action).IsGrounded := by
  have step : e.FreshStep (e.after action) := ⟨.work action, h.fresh new⟩
  obtain ⟨sound, stems⟩ := step.keeps follows_stems h.sound h.stems
  exact ⟨sound, stems⟩

end Engine

end MetricAlerts
