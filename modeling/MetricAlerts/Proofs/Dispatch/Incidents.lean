import MetricAlerts.Proofs.Dispatch.Pairing

/-! The notifications about one alert: one that opens an incident and at most one that closes it.
Whether a notification opens or closes is read off the status of the alert, which agrees with the
kind of the event. -/

namespace MetricAlerts

/-- The event that opens an alert, if there is one, and the one that closes it. -/
inductive IsIncident : List Event → Prop
  | none : IsIncident []
  | opened {first : Alert} (firing : first.status = .firing) : IsIncident [.created first]
  | closed {first last : Alert} (firing : first.status = .firing)
      (resolved : last.status = .resolved) : IsIncident [.created first, .resolved last]

theorem IsIncident.of_prefix {events before : List Event} (h : IsIncident events)
    (part : before <+: events) : IsIncident before := by
  cases h with
  | none => exact List.prefix_nil.mp part ▸ .none
  | @opened first firing =>
    rcases List.prefix_cons_iff.mp part with rfl | ⟨_, rfl, rest⟩
    · exact .none
    · exact List.prefix_nil.mp rest ▸ .opened firing
  | @closed first last firing resolved =>
    rcases List.prefix_cons_iff.mp part with rfl | ⟨before, rfl, rest⟩
    · exact .none
    · rcases List.prefix_cons_iff.mp rest with rfl | ⟨before, rfl, last⟩
      · exact .opened firing
      · exact List.prefix_nil.mp last ▸ .closed firing resolved

theorem filter_isNotable_opening {events : List Event} (h : IsOpening events) :
    ∃ first : Alert, events.filter Event.isNotable = [.created first] ∧
      first.status = .firing := by
  obtain ⟨first, later, rfl, hFirst, -⟩ := h
  refine ⟨first, ?_, hFirst⟩
  have dull : (later.map Event.updated).filter Event.isNotable = [] := by
    simp [List.filter_map, Function.comp_def, Event.isNotable]
  rw [List.filter_cons_of_pos rfl, dull]

/-- Of the events about one alert, one opens it and at most one closes it. -/
theorem IsTold.isIncident {s : AlertStore} {id : String} {events : List Event}
    (told : IsTold s id events) : IsIncident (events.filter Event.isNotable) := by
  have ofOpening (opening : IsOpening events) : IsIncident (events.filter Event.isNotable) := by
    obtain ⟨first, hFilter, hFirst⟩ := filter_isNotable_opening opening
    exact hFilter ▸ .opened hFirst
  by_cases active : id ∈ s.ids
  · exact ofOpening (told.1 active)
  · rcases told.2 active with rfl | ⟨opening, last, rfl, isOpening, hLast, -, -⟩
    · exact .none
    · obtain ⟨first, hFilter, hFirst⟩ := filter_isNotable_opening isOpening
      rw [List.filter_append, hFilter]
      exact .closed hFirst hLast

/-- An incident has an event that opens the alert. -/
theorem exists_created {events : List Event} {event : Event} {alert : Alert}
    (incident : IsIncident ((story alert.id events).filter Event.isNotable))
    (mem : event ∈ events.filter Event.isNotable) (about : event.alert? = some alert) :
    ∃ first : Alert, .created first ∈ events ∧ first.id = alert.id := by
  have listed : event ∈ (story alert.id events).filter Event.isNotable := by
    rw [story, List.filter_comm]
    exact List.mem_filter.mpr ⟨mem, by simp [Event.isAbout, about]⟩
  have opens : ∃ first : Alert,
      .created first ∈ (story alert.id events).filter Event.isNotable := by
    generalize (story alert.id events).filter Event.isNotable = notable at incident listed
    cases incident with
    | none => exact absurd listed List.not_mem_nil
    | opened => exact ⟨_, List.mem_cons_self⟩
    | closed => exact ⟨_, List.mem_cons_self⟩
  obtain ⟨first, mem⟩ := opens
  obtain ⟨mem, isAbout⟩ := List.mem_filter.mp (List.mem_filter.mp mem).1
  exact ⟨first, mem, by simpa using isAbout⟩

theorem exists_of_forall₂ {α β : Type} {R : α → β → Prop} {as : List α} {bs : List β}
    (h : List.Forall₂ R as bs) {b : β} (mem : b ∈ bs) : ∃ a ∈ as, R a b := by
  induction h with
  | nil => exact absurd mem List.not_mem_nil
  | cons first _ ih =>
    rcases List.mem_cons.mp mem with rfl | mem
    · exact ⟨_, List.mem_cons_self, first⟩
    · obtain ⟨a, ha, related⟩ := ih mem
      exact ⟨a, List.mem_cons_of_mem _ ha, related⟩

/-- What PagerDuty is to do about an event that opens or closes an alert. -/
def Event.pagerAction : Event → String
  | .created _ => "trigger"
  | _ => "resolve"

/-- A notification is about the alert of an event and does what the kind of the event asks for. -/
def Notification.Pages (event : Event) (n : Notification) : Prop :=
  ∃ alert, event.alert? = some alert ∧ n.dedupKey? = some (dedupKey alert) ∧
    n.action? = some event.pagerAction

/-- The notifications for PagerDuty about some events. For every alert that is opened one of them
triggers, and then at most one resolves. -/
structure Notification.Pair (dispatched : List Event) (notifications : List Notification) :
    Prop where
  /-- They are about the events that open or close an alert, in their order, and about no others. -/
  pages : List.Forall₂ Pages (dispatched.filter Event.isNotable) notifications
  incidents : ∀ alert, .created alert ∈ dispatched →
    let incident := notifications.filter fun n => n.dedupKey? = some (dedupKey alert)
    incident.map action? = [some "trigger"] ∨
      incident.map action? = [some "trigger", some "resolve"]
  /-- There are none but for an alert that is opened. -/
  known : ∀ n ∈ notifications, ∃ alert, .created alert ∈ dispatched ∧
    n.dedupKey? = some (dedupKey alert)
  /-- No two alerts share a key. -/
  distinct : ∀ a b : Alert, dedupKey a = dedupKey b → a.id = b.id

namespace Outbox

variable {c : Channel} {p : Outbox}

/-- The statuses of the alerts that notable events carry. -/
theorem Keeps.status (h : Keeps c p) {event : Event} (mem : event ∈ p.feed.engine.events)
    (notable : event.isNotable) {alert : Alert} (about : event.alert? = some alert) :
    (if alert.status = .resolved then "resolve" else "trigger") = event.pagerAction := by
  have incident := (h.told alert.id).isIncident
  have listed : event ∈ (story alert.id p.feed.engine.events).filter Event.isNotable := by
    refine List.mem_filter.mpr ⟨List.mem_filter.mpr ⟨mem, ?_⟩, notable⟩
    simp [Event.isAbout, about]
  generalize (story alert.id p.feed.engine.events).filter Event.isNotable = events
    at incident listed
  cases incident with
  | none => exact absurd listed List.not_mem_nil
  | opened firing =>
    obtain rfl := List.mem_singleton.mp listed
    cases about
    simp [firing, Event.pagerAction]
  | closed firing resolved =>
    rcases List.mem_cons.mp listed with rfl | listed
    · cases about
      simp [firing, Event.pagerAction]
    · obtain rfl := List.mem_singleton.mp listed
      cases about
      simp [resolved, Event.pagerAction]

theorem forall₂_pages (h : Keeps c p) (type : c.type = .pagerDuty) {dispatched : List Event}
    (part : dispatched <+: p.feed.engine.events)
    (told : List.Forall₂ (Engine.Tells c) (dispatched.filter Event.isNotable)
      (p.handedTo c.id)) :
    List.Forall₂ Notification.Pages (dispatched.filter Event.isNotable) (p.handedTo c.id) := by
  have known : ∀ event ∈ dispatched.filter Event.isNotable,
      event ∈ p.feed.engine.events ∧ event.isNotable := fun event mem =>
    ⟨part.subset (List.mem_filter.mp mem).1, (List.mem_filter.mp mem).2⟩
  refine ((List.forall₂_and_left _ _).mpr ⟨known, told⟩).imp ?_
  rintro event n ⟨⟨mem, notable⟩, alert, about, built⟩
  obtain ⟨key, action⟩ := Notification.texts_of_build type built
  exact ⟨alert, about, key, action.trans (congrArg some (h.status mem notable about))⟩

theorem actions_of_pages {events : List Event} {notifications : List Notification}
    (pages : List.Forall₂ Notification.Pages events notifications) :
    notifications.map Notification.action? = events.map fun event => some event.pagerAction := by
  induction pages with
  | nil => rfl
  | cons first _ ih =>
    obtain ⟨alert, -, -, action⟩ := first
    rw [List.map_cons, List.map_cons, ih, action]

/-- The notifications with the key of an alert are those of the events about it. -/
theorem forall₂_incident {events : List Event} {notifications : List Notification}
    (pages : List.Forall₂ Notification.Pages (events.filter Event.isNotable) notifications)
    (alert : Alert) :
    List.Forall₂ Notification.Pages ((story alert.id events).filter Event.isNotable)
      (notifications.filter fun n => n.dedupKey? = some (Notification.dedupKey alert)) := by
  rw [story, List.filter_comm]
  refine List.rel_filter ?_ pages
  rintro event n ⟨other, about, key, -⟩
  simp only [Event.isAbout, about, key, Option.any_some, beq_iff_eq, decide_eq_true_eq,
    Option.some.injEq]
  exact ⟨fun same => by rw [Notification.dedupKey, same]; rfl, Notification.dedupKey_inj⟩

/-- The notifications for PagerDuty pair up. -/
theorem Keeps.pair (h : Keeps c p) (type : c.type = .pagerDuty) {dispatched : List Event}
    (part : dispatched <+: p.feed.engine.events)
    (told : List.Forall₂ (Engine.Tells c) (dispatched.filter Event.isNotable)
      (p.handedTo c.id)) :
    Notification.Pair dispatched (p.handedTo c.id) := by
  have pages := forall₂_pages h type part told
  have incident (id : String) : IsIncident ((story id dispatched).filter Event.isNotable) :=
    (h.told id).isIncident.of_prefix ((part.filter _).filter _)
  refine ⟨pages, fun alert mem => ?_, fun n hn => ?_, fun a b => Notification.dedupKey_inj⟩
  · have actions := actions_of_pages (forall₂_incident pages alert)
    have opens : .created alert ∈ (story alert.id dispatched).filter Event.isNotable :=
      List.mem_filter.mpr ⟨List.mem_filter.mpr ⟨mem, by simp⟩, rfl⟩
    have incident := incident alert.id
    generalize (story alert.id dispatched).filter Event.isNotable = events
      at actions opens incident
    cases incident with
    | none => exact absurd opens List.not_mem_nil
    | opened => exact .inl actions
    | closed => exact .inr actions
  · obtain ⟨event, mem, alert, about, key, -⟩ := exists_of_forall₂ pages hn
    obtain ⟨first, opens, same⟩ := exists_created (incident alert.id) mem about
    exact ⟨first, opens, key.trans (by rw [Notification.dedupKey, Notification.dedupKey, same])⟩

/-- A channel for PagerDuty. -/
def pager : Channel where
  id := "pager"
  name := "On call"
  type := .pagerDuty
  enabled := true
  config := { ChannelConfig.empty with routingKey := some "key" }

end Outbox

end MetricAlerts
