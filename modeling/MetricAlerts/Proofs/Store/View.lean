import Mathlib.Data.List.Nodup
import MetricAlerts.Proofs.Store.Sound

/-! What is known under each id, and how events change it. Of several events about an id the last
one counts, so events that are applied again change nothing. An edit of the store changes what is
known of the active alerts as its event says. -/

namespace MetricAlerts

/-- What is known under each id. -/
abbrev View (α : Type) := String → Option α

namespace View

variable {α : Type}

def empty : View α := fun _ => none

/-- The view with something else known under an id. -/
def set (v : View α) (id : String) (known : Option α) : View α := fun i =>
  if i = id then known else v i

theorem set_self (v : View α) (id : String) (known : Option α) : v.set id known id = known :=
  if_pos rfl

theorem set_of_ne (v : View α) {id other : String} (h : other ≠ id) (known : Option α) :
    v.set id known other = v other :=
  if_neg h

theorem set_comm (v : View α) {id other : String} (h : id ≠ other) (known known' : Option α) :
    (v.set id known).set other known' = (v.set other known').set id known := by
  funext i
  simp only [set]
  split <;> split <;> simp_all

end View

namespace Event

/-- A created or updated alert is known by its id, and a resolved one no longer. -/
def applyTo (v : View Alert) : Event → View Alert
  | .created alert => v.set alert.id (some alert)
  | .updated alert => v.set alert.id (some alert)
  | .resolved alert => v.set alert.id none
  | .patternsDetected _ => v

/-- What an event says about an id. -/
def outcome? (id : String) : Event → Option (Option Alert)
  | .created alert => if id = alert.id then some (some alert) else none
  | .updated alert => if id = alert.id then some (some alert) else none
  | .resolved alert => if id = alert.id then some none else none
  | .patternsDetected _ => none

theorem applyTo_eq (v : View Alert) (event : Event) (id : String) :
    event.applyTo v id = (event.outcome? id).getD (v id) := by
  cases event with
  | patternsDetected => rfl
  | _ =>
    simp only [applyTo, outcome?, View.set]
    split <;> rfl

end Event

/-- A view after events, one after another. -/
def replayFrom (v : View Alert) (events : List Event) : View Alert := events.foldl Event.applyTo v

/-- What is known from events alone. -/
def replay (events : List Event) : View Alert := replayFrom .empty events

@[simp] theorem replayFrom_nil (v : View Alert) : replayFrom v [] = v := rfl

@[simp] theorem replayFrom_cons (v : View Alert) (event : Event) (events : List Event) :
    replayFrom v (event :: events) = replayFrom (event.applyTo v) events :=
  rfl

theorem replayFrom_append (v : View Alert) (first second : List Event) :
    replayFrom v (first ++ second) = replayFrom (replayFrom v first) second :=
  List.foldl_append

theorem replay_append (first second : List Event) :
    replay (first ++ second) = replayFrom (replay first) second :=
  replayFrom_append ..

/-- What the last event about an id says about it. -/
def lastOutcome? (id : String) : List Event → Option (Option Alert)
  | [] => none
  | event :: events => (lastOutcome? id events).or (event.outcome? id)

theorem replayFrom_eq (v : View Alert) (events : List Event) (id : String) :
    replayFrom v events id = (lastOutcome? id events).getD (v id) := by
  induction events generalizing v with
  | nil => rfl
  | cons event events ih =>
    rw [replayFrom_cons, ih, Event.applyTo_eq, lastOutcome?]
    cases lastOutcome? id events <;> rfl

/-- What is known after events was known before, or one of them says it. -/
theorem mem_of_replayFrom {v : View Alert} {events : List Event} {id : String} {a : Alert}
    (h : replayFrom v events id = some a) :
    v id = some a ∨ a.id = id ∧ (.created a ∈ events ∨ .updated a ∈ events) := by
  induction events generalizing v with
  | nil => exact .inl h
  | cons event events ih =>
    rw [replayFrom_cons] at h
    rcases ih h with before | ⟨same, said⟩
    · cases event with
      | patternsDetected => exact .inl before
      | created b =>
        simp only [Event.applyTo, View.set] at before
        split at before
        · next same =>
          cases before
          exact .inr ⟨same.symm, .inl List.mem_cons_self⟩
        · exact .inl before
      | updated b =>
        simp only [Event.applyTo, View.set] at before
        split at before
        · next same =>
          cases before
          exact .inr ⟨same.symm, .inr List.mem_cons_self⟩
        · exact .inl before
      | resolved b =>
        simp only [Event.applyTo, View.set] at before
        split at before
        · cases before
        · exact .inl before
    · exact .inr ⟨same, said.imp (List.mem_cons_of_mem _) (List.mem_cons_of_mem _)⟩

/-- Events that are applied again change nothing. -/
theorem replayFrom_replayFrom (v : View Alert) (events : List Event) :
    replayFrom (replayFrom v events) events = replayFrom v events := by
  funext id
  rw [replayFrom_eq, replayFrom_eq]
  cases lastOutcome? id events <;> rfl

/-- An event that is applied again changes nothing. -/
theorem Event.applyTo_applyTo (event : Event) (v : View Alert) :
    event.applyTo (event.applyTo v) = event.applyTo v :=
  replayFrom_replayFrom v [event]

theorem replayFrom_of_no_alert (v : View Alert) {events : List Event}
    (h : ∀ event ∈ events, event.alert? = none) : replayFrom v events = v := by
  induction events with
  | nil => rfl
  | cons event events ih =>
    have hEvent := h event List.mem_cons_self
    rw [replayFrom_cons]
    cases event with
    | patternsDetected analysis => exact ih fun event he => h event (List.mem_cons_of_mem _ he)
    | _ => cases hEvent

namespace AlertStore

/-- The active alert with each id. -/
def view (s : AlertStore) : View Alert := fun id =>
  (s.active.find? fun e => e.2.id == id).map Prod.snd

variable {s s' : AlertStore} {id : String} {a : Alert}

theorem view_eq_some_iff (h : s.ids.Nodup) :
    s.view id = some a ↔ ∃ key, (key, a) ∈ s.active ∧ a.id = id := by
  constructor
  · intro hView
    obtain ⟨⟨key, found⟩, hFind, rfl⟩ := Option.map_eq_some_iff.mp hView
    exact ⟨key, List.mem_of_find?_eq_some hFind, by simpa using List.find?_some hFind⟩
  · rintro ⟨key, hMem, rfl⟩
    have hSome : (s.active.find? fun e => e.2.id == a.id).isSome :=
      List.find?_isSome.mpr ⟨(key, a), hMem, beq_self_eq_true _⟩
    obtain ⟨e, hFind⟩ := Option.isSome_iff_exists.mp hSome
    have hId : e.2.id = a.id := by simpa using List.find?_some hFind
    have same : e = (key, a) :=
      List.inj_on_of_nodup_map h (List.mem_of_find?_eq_some hFind) hMem hId
    rw [view, hFind, same]
    rfl

/-- No other entry has the id of an entry's alert. -/
theorem Sound.id_ne_of_split (h : s.Sound) {before after : List (String × Alert)} {key : String}
    (split : s.active = before ++ (key, a) :: after) :
    (∀ e ∈ before, e.2.id ≠ a.id) ∧ ∀ e ∈ after, e.2.id ≠ a.id := by
  have hIds := h.ids_nodup
  rw [ids, split, List.map_append, List.map_cons, List.nodup_append, List.nodup_cons] at hIds
  constructor
  · intro e he
    exact hIds.2.2 e.2.id (List.mem_map_of_mem he) a.id List.mem_cons_self
  · intro e he same
    exact hIds.2.1.1 (same ▸ List.mem_map_of_mem he)

/-- What is known of the active alerts changes as the event of an edit says. -/
theorem Sound.view_edit (h : s.Sound) {event : Event} (edit : s.Edit event s') :
    s'.view = event.applyTo s.view := by
  funext id
  cases edit with
  | @opened key alert free unused name isNew =>
    show ((s.active ++ [(key, alert)]).find? fun e => e.2.id == id).map Prod.snd = _
    simp only [Event.applyTo, View.set]
    split
    · next same =>
      have hNone : (s.active.find? fun e => e.2.id == id) = none :=
        List.find?_eq_none.mpr fun e he => by simpa [same] using unused e he
      rw [List.find?_append, hNone]
      simp [same]
    · next other => simp [List.find?_append, view, Ne.symm other]
  | @changed before after key old new split revision =>
    obtain ⟨hBefore, -⟩ := h.id_ne_of_split split
    show ((before ++ (key, new) :: after).find? fun e => e.2.id == id).map Prod.snd = _
    simp only [Event.applyTo, View.set, revision.id]
    split
    · next same =>
      have hNone : (before.find? fun e => e.2.id == id) = none :=
        List.find?_eq_none.mpr fun e he => by simpa [same] using hBefore e he
      rw [List.find?_append, hNone]
      simp [revision.id, same]
    · next other => simp [view, split, List.find?_append, revision.id, Ne.symm other]
  | @closed before after key old split reason now =>
    obtain ⟨hBefore, hAfter⟩ := h.id_ne_of_split split
    show ((before ++ after).find? fun e => e.2.id == id).map Prod.snd = _
    have hId : (resolvedCopy old reason now).id = old.id := rfl
    simp only [Event.applyTo, View.set, hId]
    split
    · next same =>
      rw [Option.map_eq_none_iff, List.find?_eq_none]
      intro e he
      have hNe := (List.mem_append.mp he).elim (hBefore e) (hAfter e)
      simpa [same] using hNe
    · next other => simp [view, split, List.find?_append, Ne.symm other]

theorem Sound.view_edits (h : s.Sound) {events : List Event} (edits : Edits s events s') :
    s'.view = replayFrom s.view events := by
  induction edits with
  | none => rfl
  | next edit _ ih => rw [ih (h.edit edit), h.view_edit edit, replayFrom_cons]

end AlertStore

end MetricAlerts
