import MetricAlerts.Engine
import MetricAlerts.Proofs.Realtime.Messages

/-! What external channels are notified of. A channel with all settings that its type needs has a
notification for every event that opens or closes an alert, and for no other. -/

namespace MetricAlerts

namespace Event

/-- Whether an event opens or closes an alert. -/
def isNotable : Event → Bool
  | .created _ => true
  | .resolved _ => true
  | .updated _ => false
  | .patternsDetected _ => false

end Event

namespace Channel

/-- A setting is there and not blank. -/
def IsGiven (value : Option String) : Prop :=
  ∃ text, value = some text ∧ (Text.trim text.toList).isEmpty = false

/-- An external channel with all settings that its type needs. -/
def IsComplete (c : Channel) : Prop :=
  match c.type with
  | .email =>
    c.config.recipients ≠ [] ∧ IsGiven c.config.smtpHost ∧ IsGiven c.config.fromAddress
  | .slack => IsGiven c.config.webhookUrl
  | .pagerDuty => IsGiven c.config.routingKey
  | _ => False

/-- Channels that notify a service outside. -/
def IsExternal (c : Channel) : Prop :=
  c.type = .email ∨ c.type = .slack ∨ c.type = .pagerDuty

/-- The channels differ in their names at most, and in whether they are enabled. -/
structure SameSettings (c d : Channel) : Prop where
  id : c.id = d.id
  type : c.type = d.type
  config : c.config = d.config

variable {c d : Channel} {event : Event} {alert : Alert} {notification : Notification}

theorem SameSettings.refl (c : Channel) : SameSettings c c := ⟨rfl, rfl, rfl⟩

theorem IsComplete.isExternal (complete : c.IsComplete) : c.IsExternal := by
  unfold IsComplete at complete
  unfold IsExternal
  split at complete <;> simp_all

theorem IsGiven.required {value : Option String} (given : IsGiven value) (c : Channel)
    (setting : Setting) : ∃ text, Notification.required c value setting = .ok text := by
  obtain ⟨text, rfl, full⟩ := given
  exact ⟨text, by simp [Notification.required, full]⟩

/-- A complete channel has a notification about every alert. -/
theorem IsComplete.exists_build (complete : c.IsComplete) (alert : Alert) :
    ∃ notification, Notification.build c alert = .ok notification := by
  unfold IsComplete at complete
  unfold Notification.build
  generalize c.type = type at complete ⊢
  cases type with
  | email =>
    obtain ⟨recipients, smtpHost, fromAddress⟩ := complete
    obtain ⟨host, hHost⟩ := smtpHost.required c .smtpHost
    obtain ⟨sender, hSender⟩ := fromAddress.required c .fromAddress
    simp only [List.isEmpty_iff, recipients, if_false, hHost, hSender]
    exact ⟨_, rfl⟩
  | slack =>
    obtain ⟨url, hUrl⟩ := complete.required c .webhookUrl
    simp only [hUrl]
    exact ⟨_, rfl⟩
  | pagerDuty =>
    obtain ⟨key, hKey⟩ := complete.required c .routingKey
    simp only [hKey]
    exact ⟨_, rfl⟩
  | console | websocket | aiFeedback => exact complete.elim

theorem SameSettings.build (same : SameSettings c d) (alert : Alert) :
    Notification.build c alert = Notification.build d alert := by
  simp only [Notification.build, Notification.required, same.id, same.type, same.config]

theorem SameSettings.isComplete (same : SameSettings c d) (complete : d.IsComplete) :
    c.IsComplete := by
  simpa only [IsComplete, same.type, same.config] using complete

end Channel

namespace Notification

variable {c : Channel} {alert : Alert} {notification : Notification}

theorem exists_of_bind_eq_ok {ε α β : Type} {x : Except ε α} {f : α → Except ε β} {b : β}
    (h : x >>= f = .ok b) : ∃ a, x = .ok a ∧ f a = .ok b := by
  cases x with
  | error => cases h
  | ok a => exact ⟨a, rfl, h⟩

theorem isGiven_of_required {value : Option String} {setting : Setting} {text : String}
    (h : required c value setting = .ok text) : Channel.IsGiven value := by
  cases value with
  | none => cases h
  | some own =>
    refine ⟨own, rfl, ?_⟩
    rw [required] at h
    split at h
    · cases h
    · next full => exact Bool.eq_false_iff.mpr full

/-- Only a complete channel has notifications. -/
theorem isComplete_of_build (built : build c alert = .ok notification) : c.IsComplete := by
  unfold Channel.IsComplete
  simp only [build] at built
  cases type : c.type with
  | email =>
    rw [type] at built
    simp only at built
    split at built
    · cases built
    · next some =>
      obtain ⟨host, hHost, built⟩ := exists_of_bind_eq_ok built
      obtain ⟨sender, hSender, -⟩ := exists_of_bind_eq_ok built
      exact ⟨mt List.isEmpty_iff.mpr some, isGiven_of_required hHost, isGiven_of_required hSender⟩
  | slack =>
    rw [type] at built
    obtain ⟨url, hUrl, -⟩ := exists_of_bind_eq_ok built
    exact isGiven_of_required hUrl
  | pagerDuty =>
    rw [type] at built
    obtain ⟨key, hKey, -⟩ := exists_of_bind_eq_ok built
    exact isGiven_of_required hKey
  | console | websocket | aiFeedback =>
    rw [type] at built
    cases built

/-- A notification is for the channel that it has been built for. -/
theorem channel_of_build (built : build c alert = .ok notification) :
    notification.channel = c.id := by
  simp only [build] at built
  split at built
  · split at built
    · cases built
    · obtain ⟨host, -, built⟩ := exists_of_bind_eq_ok built
      obtain ⟨sender, -, built⟩ := exists_of_bind_eq_ok built
      cases built
      rfl
  · obtain ⟨url, -, built⟩ := exists_of_bind_eq_ok built
    cases built
    rfl
  · obtain ⟨key, -, built⟩ := exists_of_bind_eq_ok built
    cases built
    rfl
  · cases built

/-- A text of the payload for PagerDuty. -/
def text? (key : String) : Notification → Option String
  | .pagerDuty _ payload => (payload.get? key).bind Json.string?
  | _ => none

/-- What PagerDuty is to do. -/
def action? : Notification → Option String := text? "event_action"

/-- The key of the incident that PagerDuty is to do it with. -/
def dedupKey? : Notification → Option String := text? "dedup_key"

theorem texts_of_build (type : c.type = .pagerDuty) (built : build c alert = .ok notification) :
    notification.dedupKey? = some (dedupKey alert) ∧
      notification.action? =
        some (if alert.status = .resolved then "resolve" else "trigger") := by
  simp only [build, type] at built
  obtain ⟨key, -, built⟩ := exists_of_bind_eq_ok built
  cases built
  constructor
  · simp [dedupKey?, text?, pagerDutyPayload, Json.ofMembers, Json.get?, sortEntries,
      Dict.lookup?_insertEntry, Json.string?]
  · simp [action?, text?, pagerDutyPayload, Json.ofMembers, Json.get?, sortEntries,
      Dict.lookup?_insertEntry, Json.string?]

/-- Different alerts have different keys. -/
theorem dedupKey_inj {a b : Alert} (same : dedupKey a = dedupKey b) : a.id = b.id := by
  simpa [dedupKey] using same

end Notification

namespace Engine

/-- The notification that is handed to the transport when an event is handed to a channel. -/
def handedFor (channel : Channel) (event : Event) : Option Notification :=
  match actionFor channel event with
  | .notify notification => some notification
  | _ => none

variable {c d : Channel} {event : Event} {notification : Notification}

/-- An event is told to a channel by the notification about its alert. -/
def Tells (c : Channel) (event : Event) (notification : Notification) : Prop :=
  ∃ alert, event.alert? = some alert ∧ Notification.build c alert = .ok notification

theorem actionFor_of_isNotable (external : c.IsExternal) (notable : event.isNotable = true) :
    ∃ alert, event.alert? = some alert ∧
      (∀ notification, Notification.build c alert = .ok notification →
        actionFor c event = .notify notification) ∧
      ∀ failure, Notification.build c alert = .error failure →
        actionFor c event = .fail failure := by
  cases event with
  | created alert | resolved alert =>
    refine ⟨alert, rfl, fun notification built => ?_, fun failure built => ?_⟩ <;>
      rcases external with type | type | type <;> simp only [actionFor, type, built]
  | updated | patternsDetected => cases notable

theorem actionFor_of_not_isNotable (external : c.IsExternal) (dull : event.isNotable = false) :
    actionFor c event = .skip := by
  cases event with
  | created | resolved => cases dull
  | updated | patternsDetected =>
    rcases external with type | type | type <;> simp only [actionFor, type]

theorem actionFor_of_isComplete (complete : c.IsComplete) (notable : event.isNotable = true) :
    ∃ notification, Tells c event notification ∧ actionFor c event = .notify notification := by
  obtain ⟨alert, hAlert, notifies, -⟩ := actionFor_of_isNotable complete.isExternal notable
  obtain ⟨notification, built⟩ := complete.exists_build alert
  exact ⟨notification, ⟨alert, hAlert, built⟩, notifies notification built⟩

theorem actionFor_of_not_isComplete (external : c.IsExternal) (notable : event.isNotable = true)
    (incomplete : ¬ c.IsComplete) : ∃ failure, actionFor c event = .fail failure := by
  obtain ⟨alert, -, -, fails⟩ := actionFor_of_isNotable external notable
  cases built : Notification.build c alert with
  | ok notification => exact absurd (Notification.isComplete_of_build built) incomplete
  | error failure => exact ⟨failure, fails failure built⟩

theorem handedFor_of_isNotable (complete : c.IsComplete) (notable : event.isNotable = true) :
    ∃ notification, handedFor c event = some notification ∧ Tells c event notification := by
  obtain ⟨notification, tells, hAction⟩ := actionFor_of_isComplete complete notable
  exact ⟨notification, by rw [handedFor, hAction], tells⟩

theorem handedFor_of_not_isNotable (complete : c.IsComplete) (dull : event.isNotable = false) :
    handedFor c event = none := by
  rw [handedFor, actionFor_of_not_isNotable complete.isExternal dull]

/-- Only notifications that have been built for a channel are handed to the transport for it. -/
theorem tells_of_handedFor (handed : handedFor c event = some notification) :
    Tells c event notification := by
  unfold handedFor at handed
  split at handed
  · next hAction =>
    cases handed
    unfold actionFor at hAction
    split at hAction
    · cases hAction
    · cases hAction
    · split at hAction
      · split at hAction
        · split at hAction <;> cases hAction
        · cases hAction
      · cases hAction
    · simp only at hAction
      split at hAction
      · next alert =>
        split at hAction
        · next built =>
          cases hAction
          exact ⟨alert, rfl, built⟩
        · cases hAction
      · next alert =>
        split at hAction
        · next built =>
          cases hAction
          exact ⟨alert, rfl, built⟩
        · cases hAction
      · cases hAction
  · cases handed

theorem Tells.channel (tells : Tells c event notification) : notification.channel = c.id := by
  obtain ⟨alert, -, built⟩ := tells
  exact Notification.channel_of_build built

theorem Tells.unique {first second : Notification} (tells : Tells c event first)
    (tells' : Tells c event second) : first = second := by
  obtain ⟨alert, hAlert, built⟩ := tells
  obtain ⟨alert', hAlert', built'⟩ := tells'
  cases hAlert.symm.trans hAlert'
  exact Except.ok.inj (built.symm.trans built')

theorem Tells.ofSameSettings (same : c.SameSettings d) (tells : Tells c event notification) :
    Tells d event notification := by
  obtain ⟨alert, hAlert, built⟩ := tells
  exact ⟨alert, hAlert, (same.build alert).symm.trans built⟩

end Engine

end MetricAlerts
