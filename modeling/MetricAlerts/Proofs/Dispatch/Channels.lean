import MetricAlerts.Proofs.Definitions.Registry
import MetricAlerts.Proofs.Dispatch.Feedback
import MetricAlerts.Proofs.Dispatch.Notices

/-! What becomes of an event at a channel. It is a matter of the channel, of the event and of the
answer that the transport has for the channel, and of nothing else. -/

namespace MetricAlerts

/-- The outcome of an event at a channel and the notification that is handed to the transport,
where `arrives` is what the transport makes of it. -/
inductive Channel.Takes (c : Channel) (arrives : Bool) :
    Event → ChannelOutcome → Option Notification → Prop
  | console {event : Event} (type : c.type = .console) : Takes c arrives event .delivered none
  | websocket {event : Event} (type : c.type = .websocket) : Takes c arrives event .delivered none
  | dull {event : Event} (external : c.IsExternal) (dull : event.isNotable = false) :
      Takes c arrives event .skipped none
  | incomplete {event : Event} (external : c.IsExternal) (notable : event.isNotable = true)
      (incomplete : ¬ c.IsComplete) : Takes c arrives event .failed none
  | notified {event : Event} {notification : Notification} (complete : c.IsComplete)
      (notable : event.isNotable = true) (tells : Engine.Tells c event notification) :
      Takes c arrives event (if arrives then .delivered else .failed) (some notification)
  | asked {alert : Alert} (asks : c.asksAbout alert = true) :
      Takes c arrives (.created alert) .delivered none
  | unasked {event : Event} (type : c.type = .aiFeedback)
      (asksNot : ∀ alert, event = .created alert → c.asksAbout alert = false) :
      Takes c arrives event .skipped none

/-- The outcome of an action, where `arrives` is what the transport makes of a notification. -/
def Engine.ChannelAction.outcome (arrives : Bool) : Engine.ChannelAction → ChannelOutcome
  | .write _ | .broadcast | .feedback .. => .delivered
  | .notify _ => if arrives then .delivered else .failed
  | .skip => .skipped
  | .fail _ => .failed

namespace Engine

variable {c : Channel} {event : Event} {alert : Alert}

theorem actionFor_of_asksAbout (asks : c.asksAbout alert = true) :
    actionFor c (.created alert) = .feedback alert c.feedback := by
  have hFeedback := feedbackFor?_eq (.created alert) c
  simp only [asks, if_true, feedbackFor?] at hFeedback
  split at hFeedback
  · next hAction => cases hFeedback; exact hAction
  · cases hFeedback

theorem actionFor_of_aiFeedback (type : c.type = .aiFeedback)
    (asksNot : ∀ alert, event = .created alert → c.asksAbout alert = false) :
    actionFor c event = .skip := by
  cases event with
  | created alert =>
    have mild := asksNot alert rfl
    simp only [Channel.asksAbout, type, decide_true, Bool.true_and] at mild
    rw [actionFor, type]
    cases least : c.config.minSeverity with
    | none => rw [least] at mild; cases mild
    | some severity =>
      rw [least, Option.all_some, decide_eq_false_iff_not] at mild
      exact if_pos (Nat.not_le.mp mild)
  | resolved | updated | patternsDetected => unfold actionFor; rw [type]

/-- What arrives at a channel of an event, where `arrives` is what the transport makes of it. -/
def arrival? (arrives : Bool) (event : Event) (channel : Channel) : Option Notification :=
  if arrives then handedFor channel event else none

/-- What arrives at channels of an event, where `answers` is what the transport makes of it for
each of them. -/
def arrivalsAt (answers : Channel → Bool) (event : Event) (channels : List Channel) :
    List Notification :=
  channels.filterMap fun c => arrival? (answers c) event c

variable {answer : Bool} {answers : Channel → Bool} {channels : List Channel}

theorem arrival?_of_notify {notification : Notification}
    (notify : actionFor c event = .notify notification) (answer : Bool) :
    (arrival? answer event c).toList = if answer then [notification] else [] := by
  rw [arrival?, handedFor, notify]
  cases answer <;> rfl

theorem arrival?_of_ne (other : ∀ notification, actionFor c event ≠ .notify notification)
    (answer : Bool) : arrival? answer event c = none := by
  rw [arrival?, handedFor]
  split
  · split
    · next notify => exact absurd notify (other _)
    · rfl
  · rfl

theorem arrivalsAt_cons (answers : Channel → Bool) (event : Event) (c : Channel)
    (channels : List Channel) : arrivalsAt answers event (c :: channels) =
      (arrival? (answers c) event c).toList ++ arrivalsAt answers event channels := by
  rw [arrivalsAt, List.filterMap_cons]
  cases arrival? (answers c) event c <;> rfl

theorem channel_of_arrival? {notification : Notification}
    (arrived : arrival? answer event c = some notification) : notification.channel = c.id := by
  unfold arrival? at arrived
  split at arrived
  · exact (tells_of_handedFor arrived).channel
  · cases arrived

/-- What arrives at another channel is not for the channel with an id. -/
theorem filter_arrival?_of_ne {d : Channel} (ne : d.id ≠ c.id) (answer : Bool) (event : Event) :
    ((arrival? answer event d).toList.filter fun n => n.channel = c.id) = [] := by
  refine List.filter_eq_nil_iff.mpr fun n hn => ?_
  simpa [channel_of_arrival? (Option.mem_toList.mp hn)] using ne

theorem filter_arrivalsAt_of_ne (others : ∀ d ∈ channels, d.id ≠ c.id) :
    ((arrivalsAt answers event channels).filter fun n => n.channel = c.id) = [] := by
  refine List.filter_eq_nil_iff.mpr fun n hn => ?_
  obtain ⟨d, mem, arrived⟩ := List.mem_filterMap.mp hn
  simpa [channel_of_arrival? arrived] using others d mem

/-- What arrives for the id of a channel is what arrives at the channel. -/
theorem filter_arrivalsAt (distinct : (Registry.ids channels).Nodup) (mem : c ∈ channels) :
    ((arrivalsAt answers event channels).filter fun n => n.channel = c.id) =
      (arrival? (answers c) event c).toList := by
  induction channels with
  | nil => cases mem
  | cons d channels ih =>
    obtain ⟨other, distinct⟩ := List.nodup_cons.mp distinct
    rw [arrivalsAt_cons, List.filter_append]
    cases mem with
    | head =>
      have own : ∀ n ∈ (arrival? (answers c) event c).toList, decide (n.channel = c.id) = true :=
        fun n hn => decide_eq_true (channel_of_arrival? (Option.mem_toList.mp hn))
      have others : ∀ d ∈ channels, d.id ≠ c.id :=
        fun d mem same => other (Registry.mem_ids.mpr ⟨d, mem, same⟩)
      rw [List.filter_eq_self.mpr own, filter_arrivalsAt_of_ne others, List.append_nil]
    | tail _ mem =>
      have ne : d.id ≠ c.id := fun same => other (Registry.mem_ids.mpr ⟨c, mem, same.symm⟩)
      rw [filter_arrival?_of_ne ne, ih distinct mem, List.nil_append]

end Engine

namespace Channel

variable {c : Channel} {arrives : Bool} {event : Event} {outcome : ChannelOutcome}
  {handed : Option Notification}

theorem Takes.eq_actionFor (takes : c.Takes arrives event outcome handed) :
    outcome = (Engine.actionFor c event).outcome arrives ∧
      handed = Engine.handedFor c event := by
  unfold Engine.handedFor
  cases takes with
  | console type =>
    have hAction : Engine.actionFor c event = .write (ConsoleLine.ofEvent c.id event) := by
      unfold Engine.actionFor
      rw [type]
    rw [hAction]
    exact ⟨rfl, rfl⟩
  | websocket type =>
    have hAction : Engine.actionFor c event = .broadcast := by
      unfold Engine.actionFor
      rw [type]
    rw [hAction]
    exact ⟨rfl, rfl⟩
  | dull external dull =>
    rw [Engine.actionFor_of_not_isNotable external dull]
    exact ⟨rfl, rfl⟩
  | incomplete external notable incomplete =>
    obtain ⟨failure, hAction⟩ := Engine.actionFor_of_not_isComplete external notable incomplete
    rw [hAction]
    exact ⟨rfl, rfl⟩
  | notified complete notable tells =>
    obtain ⟨notification, tells', hAction⟩ := Engine.actionFor_of_isComplete complete notable
    rw [hAction, tells.unique tells']
    exact ⟨rfl, rfl⟩
  | asked asks =>
    rw [Engine.actionFor_of_asksAbout asks]
    exact ⟨rfl, rfl⟩
  | unasked type asksNot =>
    rw [Engine.actionFor_of_aiFeedback type asksNot]
    exact ⟨rfl, rfl⟩

/-- The channel, the event and the answer of the transport decide. -/
theorem Takes.unique {outcome' : ChannelOutcome} {handed' : Option Notification}
    (takes : c.Takes arrives event outcome handed)
    (takes' : c.Takes arrives event outcome' handed') : outcome = outcome' ∧ handed = handed' := by
  obtain ⟨rfl, rfl⟩ := takes.eq_actionFor
  obtain ⟨rfl, rfl⟩ := takes'.eq_actionFor
  exact ⟨rfl, rfl⟩

theorem exists_takes (c : Channel) (arrives : Bool) (event : Event) :
    ∃ outcome handed, c.Takes arrives event outcome handed := by
  cases type : c.type with
  | console => exact ⟨_, _, .console type⟩
  | websocket => exact ⟨_, _, .websocket type⟩
  | email | slack | pagerDuty =>
    have external : c.IsExternal := by simp [IsExternal, type]
    cases notable : event.isNotable with
    | false => exact ⟨_, _, .dull external notable⟩
    | true =>
      by_cases complete : c.IsComplete
      · obtain ⟨notification, tells, -⟩ := Engine.actionFor_of_isComplete complete notable
        exact ⟨_, _, .notified complete notable tells⟩
      · exact ⟨_, _, .incomplete external notable complete⟩
  | aiFeedback =>
    by_cases asks : ∃ alert, event = .created alert ∧ c.asksAbout alert = true
    · obtain ⟨alert, rfl, asks⟩ := asks
      exact ⟨_, _, .asked asks⟩
    · refine ⟨_, _, .unasked type fun alert created => Bool.eq_false_iff.mpr fun asks' => ?_⟩
      exact asks ⟨alert, created, asks'⟩

/-- What is done about an event for a channel comes to what the channel takes it for, and there is
nothing else that it could come to. -/
theorem takes_iff : c.Takes arrives event outcome handed ↔
    outcome = (Engine.actionFor c event).outcome arrives ∧
      handed = Engine.handedFor c event := by
  constructor
  · exact Takes.eq_actionFor
  · rintro ⟨rfl, rfl⟩
    obtain ⟨outcome, handed, takes⟩ := exists_takes c arrives event
    obtain ⟨rfl, rfl⟩ := takes.eq_actionFor
    exact takes

end Channel

end MetricAlerts
