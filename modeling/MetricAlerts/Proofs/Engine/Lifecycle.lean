import MetricAlerts.Proofs.Engine.Outcome
import MetricAlerts.Proofs.Store.View

/-! The events about an alert tell its life: it is created, updated any number of times while it is
active, and resolved at most once, after which nothing is heard of it. -/

namespace MetricAlerts

/-- The events about the alert with an id, in their order. -/
def story (id : String) (events : List Event) : List Event := events.filter (Event.isAbout id)

/-- A firing alert is created, and updated while it is firing or acknowledged. -/
def IsOpening (events : List Event) : Prop :=
  ∃ (first : Alert) (later : List Alert), events = .created first :: later.map .updated ∧
    first.status = .firing ∧ ∀ a ∈ later, a.status = .firing ∨ a.status = .acknowledged

/-- In the end the alert is resolved at some time for some reason. -/
def IsEnded (events : List Event) : Prop :=
  ∃ opening last, events = opening ++ [.resolved last] ∧ IsOpening opening ∧
    last.status = .resolved ∧ last.resolvedAt.isSome ∧ last.resolutionReason.isSome

def IsLifecycle (events : List Event) : Prop := IsOpening events ∨ IsEnded events

/-- An alert with the id is active or in the history. -/
def AlertStore.Holds (s : AlertStore) (id : String) : Prop :=
  id ∈ s.ids ∨ id ∈ s.history.map Alert.id

instance (s : AlertStore) (id : String) : Decidable (s.Holds id) :=
  inferInstanceAs (Decidable (_ ∨ _))

namespace Event

variable {id : String} {alert : Alert}

@[simp] theorem isAbout_created : (created alert).isAbout id = (alert.id == id) := rfl

@[simp] theorem isAbout_updated : (updated alert).isAbout id = (alert.id == id) := rfl

@[simp] theorem isAbout_resolved : (resolved alert).isAbout id = (alert.id == id) := rfl

end Event

variable {id : String} {events past : List Event} {event : Event} {a alert old : Alert}

theorem story_append (first second : List Event) :
    story id (first ++ second) = story id first ++ story id second :=
  List.filter_append ..

theorem story_of_isAbout (h : event.isAbout id) : story id [event] = [event] :=
  List.filter_cons_of_pos h

theorem story_of_not_isAbout (h : event.isAbout id = false) : story id [event] = [] :=
  List.filter_cons_of_neg (by simp [h])

theorem story_of_isUnknown (h : IsUnknown events id) : story id events = [] := by
  refine List.filter_eq_nil_iff.mpr fun event he => ?_
  simp [h event he]

/-- Events about different alerts may change places. -/
theorem story_swap (other : old.id ≠ alert.id) (id : String) (past : List Event) :
    story id (past ++ [.created alert, .resolved old]) =
      story id (past ++ [.resolved old, .created alert]) := by
  rw [story_append, story_append]
  by_cases h : alert.id = id
  · have hOld : old.id ≠ id := h ▸ other
    simp [story, h, hOld]
  · simp [story, List.filter_cons, h]

theorem isOpening_created (isNew : a.IsNew) : IsOpening [.created a] :=
  ⟨a, [], rfl, isNew.status, by simp⟩

theorem IsOpening.updated (h : IsOpening events) (isOpen : a.IsOpen) :
    IsOpening (events ++ [.updated a]) := by
  obtain ⟨first, later, rfl, hFirst, hLater⟩ := h
  refine ⟨first, later ++ [a], by simp, hFirst, ?_⟩
  intro b hb
  rcases List.mem_append.mp hb with hb | hb
  · exact hLater b hb
  · exact List.mem_singleton.mp hb ▸ isOpen.status

/-- What has been told about an id: nothing before there is such an alert, an opening as long as it
is active, and all of its life after that. -/
def IsTold (s : AlertStore) (id : String) (events : List Event) : Prop :=
  (id ∈ s.ids → IsOpening events) ∧ (id ∉ s.ids → events = [] ∨ IsEnded events)

namespace AlertStore

variable {s s' : AlertStore} {key : String} {before after : List (String × Alert)}

theorem mem_ids_of_split (split : s.active = before ++ (key, old) :: after) : old.id ∈ s.ids := by
  simp [ids, split]

theorem Sound.mem_ids_closed (sound : s.Sound) (split : s.active = before ++ (key, old) :: after)
    (resolved : Alert) (id : String) :
    id ∈ (s.closed (before ++ after) resolved).ids ↔ id ∈ s.ids ∧ id ≠ old.id := by
  obtain ⟨hBefore, hAfter⟩ := sound.id_ne_of_split split
  have hNe : ∀ e ∈ before ++ after, e.2.id ≠ old.id := fun e he =>
    (List.mem_append.mp he).elim (hBefore e) (hAfter e)
  show id ∈ (before ++ after).map _ ↔ _
  rw [ids, split]
  constructor
  · intro h
    obtain ⟨e, he, rfl⟩ := List.mem_map.mp h
    refine ⟨List.mem_map.mpr ⟨e, ?_, rfl⟩, hNe e he⟩
    rcases List.mem_append.mp he with he | he
    · exact List.mem_append_left _ he
    · exact List.mem_append_right _ (List.mem_cons_of_mem _ he)
  · rintro ⟨h, other⟩
    simp only [List.map_append, List.map_cons, List.mem_append, List.mem_cons] at h ⊢
    obtain h | h | h := h
    · exact .inl h
    · exact absurd h other
    · exact .inr h

theorem not_holds_empty (historyLimit anomalyLimit : Nat) (id : String) :
    ¬(empty historyLimit anomalyLimit).Holds id := by
  simp [Holds, ids, empty]

/-- An edit puts no alert in the store but the one that its event is about. -/
theorem Edit.holds (edit : s.Edit event s') (h : s'.Holds id) : s.Holds id ∨ event.isAbout id := by
  cases edit with
  | @opened key alert =>
    obtain h | h := h
    · rw [ids_opened] at h
      exact (List.mem_append.mp h).imp .inl fun h => by simp [List.mem_singleton.mp h]
    · obtain ⟨a, ha, rfl⟩ := List.mem_map.mp h
      obtain ha | rfl := mem_history_remember ha
      · exact .inl (.inr (List.mem_map_of_mem ha))
      · exact .inr (by simp)
  | changed split revision =>
    rw [Holds, ids_changed split revision.id] at h
    exact .inl h
  | @closed before after key old split reason now =>
    obtain h | h := h
    · have part : (before ++ after).Sublist s.active :=
        split ▸ List.Sublist.append_left (List.sublist_cons_self _ _) _
      exact .inl (.inl ((part.map _).subset h))
    · obtain ⟨a, ha, rfl⟩ := List.mem_map.mp h
      obtain ha | rfl := mem_history_remember ha
      · exact .inl (.inr (List.mem_map_of_mem ha))
      · exact .inr (by simp)

end AlertStore

theorem IsTold.of_not_isAbout {s s' : AlertStore} (h : IsTold s id (story id past))
    (other : event.isAbout id = false) (same : id ∈ s'.ids ↔ id ∈ s.ids) :
    IsTold s' id (story id (past ++ [event])) := by
  rw [story_append, story_of_not_isAbout other, List.append_nil, IsTold, same]
  exact h

/-- An event about an alert takes its story further and leaves the other stories as they are. -/
theorem IsTold.edit {s s' : AlertStore} (sound : s.Sound) (h : ∀ id, IsTold s id (story id past))
    (edit : s.Edit event s') (unknown : ∀ alert, event = .created alert → IsUnknown past alert.id)
    (id : String) : IsTold s' id (story id (past ++ [event])) := by
  cases edit with
  | @opened key alert free unused name isNew =>
    by_cases same : alert.id = id
    · subst same
      rw [story_append, story_of_isUnknown (unknown alert rfl), story_of_isAbout (by simp)]
      exact ⟨fun _ => isOpening_created isNew, fun h => absurd (by simp [AlertStore.ids_opened]) h⟩
    · refine (h id).of_not_isAbout (by simpa using same) ?_
      simp [AlertStore.ids_opened, Ne.symm same]
  | @changed before after key old new split revision =>
    have hIds := AlertStore.ids_changed split revision.id
    have hMem : new.id ∈ s.ids := revision.id ▸ AlertStore.mem_ids_of_split split
    have isOpen := revision.isOpen (sound.isOpen (key, old) (by simp [split]))
    by_cases same : new.id = id
    · subst same
      rw [story_append, story_of_isAbout (by simp), IsTold, hIds]
      exact ⟨fun _ => ((h new.id).1 hMem).updated isOpen, fun absent => absurd hMem absent⟩
    · exact (h id).of_not_isAbout (by simpa using same) (by rw [hIds])
  | @closed before after key old split reason now =>
    have hIds := sound.mem_ids_closed split (AlertStore.resolvedCopy old reason now)
    have hMem := AlertStore.mem_ids_of_split split
    by_cases same : old.id = id
    · subst same
      rw [story_append, story_of_isAbout (by simp [AlertStore.resolvedCopy]), IsTold, hIds]
      exact ⟨fun active => absurd rfl active.2,
        fun _ => .inr ⟨_, _, rfl, (h old.id).1 hMem, rfl, rfl, rfl⟩⟩
    · refine (h id).of_not_isAbout (by simpa [AlertStore.resolvedCopy] using same) ?_
      rw [hIds, and_iff_left (Ne.symm same)]

theorem follows_isTold : Follows fun s past => ∀ id, IsTold s id (story id past) where
  edit sound h edit unknown := IsTold.edit sound h edit unknown
  noticed h _ id := (h id).of_not_isAbout rfl .rfl
  swap other h id := story_swap other id _ ▸ h id

/-- There has been an event about an id. -/
def IsKnown (id : String) (events : List Event) : Prop := ∃ event ∈ events, event.isAbout id

theorem IsKnown.append (h : IsKnown id past) (later : List Event) : IsKnown id (past ++ later) := by
  obtain ⟨event, hMem, hAbout⟩ := h
  exact ⟨event, List.mem_append_left _ hMem, hAbout⟩

theorem IsKnown.swap {first second : Event} (h : IsKnown id (past ++ [first, second])) :
    IsKnown id (past ++ [second, first]) := by
  obtain ⟨event, hMem, hAbout⟩ := h
  exact ⟨event, by simpa [or_comm] using hMem, hAbout⟩

theorem IsKnown.last (h : event.isAbout id) : IsKnown id (past ++ [event]) :=
  ⟨event, by simp, h⟩

theorem IsKnown.story_ne_nil (h : IsKnown id events) : story id events ≠ [] := by
  obtain ⟨event, hMem, hAbout⟩ := h
  exact List.ne_nil_of_mem (List.mem_filter.mpr ⟨hMem, hAbout⟩)

theorem follows_isKnown (id : String) : Follows fun _ past => IsKnown id past where
  edit _ h _ _ := h.append _
  noticed h _ := h.append _
  swap _ h := h.swap

/-- There have been events about all alerts that are active or in the history. -/
theorem follows_holds : Follows fun s past => ∀ id, s.Holds id → IsKnown id past where
  edit _ h edit _ id holds := (edit.holds holds).elim (fun holds => (h id holds).append _) .last
  noticed h _ id holds := (h id holds).append _
  swap _ h id holds := (h id holds).swap

namespace Engine

variable {environment : Environment} {definitions : Definitions}
  {historyLimit anomalyLimit eventBuffer clientBuffer maxMetricsBytes : Nat} {middle e : Engine}

/-- For every alert that a run puts in the store, the events that the whole run publishes about it
are a lifecycle: the alert is created while it is firing, then updated while it is firing or
acknowledged, and at last it may be resolved. -/
theorem isLifecycle_story (before : Reaches (initial environment definitions historyLimit
    anomalyLimit eventBuffer clientBuffer maxMetricsBytes) middle) (after : Reaches middle e)
    (holds : middle.alerts.Holds id) : IsLifecycle (story id e.events) := by
  have sound := AlertStore.sound_empty historyLimit anomalyLimit
  obtain ⟨hMiddle, hHolds⟩ := before.keeps follows_holds sound fun id holds =>
    absurd holds (AlertStore.not_holds_empty _ _ id)
  obtain ⟨-, hKnown⟩ := after.keeps (follows_isKnown id) hMiddle (hHolds id holds)
  have whole : Reaches _ e := before.trans after
  obtain ⟨-, hTold⟩ := whole.keeps follows_isTold sound fun id =>
    ⟨fun active => absurd active List.not_mem_nil, fun _ => .inl rfl⟩
  by_cases active : id ∈ e.alerts.ids
  · exact .inl ((hTold id).1 active)
  · exact .inr (((hTold id).2 active).resolve_left hKnown.story_ne_nil)

/-- The first anomaly alert is acknowledged before it has to make way for the second. -/
theorem isLifecycle_story_diskActions :
    let middle := diskEngine.run [raiseDisk]
    let e := middle.run [.acknowledge "first", raiseDisk]
    Reaches diskEngine middle ∧ Reaches middle e ∧ middle.alerts.Holds "first" ∧
      IsLifecycle (story "first" e.events) ∧
      (story "first" e.events).map Event.kind = ["created", "updated", "resolved"] := by
  have before : Reaches diskEngine (diskEngine.run [raiseDisk]) := reaches_run (by decide)
  have after : Reaches (diskEngine.run [raiseDisk])
      ((diskEngine.run [raiseDisk]).run [.acknowledge "first", raiseDisk]) :=
    reaches_run (by decide)
  have holds : (diskEngine.run [raiseDisk]).alerts.Holds "first" := by decide
  exact ⟨before, after, holds, isLifecycle_story before after holds, by decide⟩

end Engine

end MetricAlerts
