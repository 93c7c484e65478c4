import MetricAlerts.System.Task

/-! The feedback that is asked for when an event is dispatched. Only alerts that have just been
created give cause for it, so that feedback, which updates alerts, is no cause for more of it. -/

namespace MetricAlerts

/-- Whether a channel asks for feedback about a new alert: it is a feedback channel, and the alert
is severe enough for it. -/
def Channel.asksAbout (c : Channel) (alert : Alert) : Bool :=
  c.type = .aiFeedback && c.config.minSeverity.all fun least => least ≤ alert.severity

/-- The feedback to be asked for when a channel is given an event. -/
def feedbackFor? (event : Event) (channel : Channel) : Option Work :=
  match Engine.actionFor channel event with
  | .feedback alert type => some (.feedback alert type)
  | _ => none

/-- All feedback to be asked for when channels are given an event. -/
def feedbackWorks (event : Event) (channels : List Channel) : List Work :=
  match event with
  | .created alert =>
    (channels.filter (·.asksAbout alert)).map fun c => .feedback alert c.feedback
  | _ => []

/-- A feedback channel gives cause for feedback about the new alerts that are severe enough. -/
theorem feedbackFor?_eq (event : Event) (channel : Channel) :
    feedbackFor? event channel = match event with
      | .created alert =>
        if channel.asksAbout alert then some (.feedback alert channel.feedback) else none
      | _ => none := by
  unfold feedbackFor? Engine.actionFor Channel.asksAbout
  cases type : channel.type with
  | console | websocket => cases event <;> simp
  | aiFeedback =>
    cases event with
    | created alert =>
      cases least : channel.config.minSeverity with
      | none => simp
      | some severity =>
        by_cases less : alert.severity < severity
        · have above : ¬ severity ≤ alert.severity := Nat.not_le.mpr less
          simp [less, above]
        · have within : severity ≤ alert.severity := Nat.not_lt.mp less
          simp [less, within]
    | _ => simp
  | email | slack | pagerDuty =>
    cases event with
    | created alert | resolved alert =>
      cases built : Notification.build channel alert <;> simp [built]
    | _ => simp

theorem exists_of_mem_feedbackWorks {event : Event} {channels : List Channel} {work : Work}
    (mem : work ∈ feedbackWorks event channels) : ∃ alert type, work = .feedback alert type := by
  cases event with
  | created alert =>
    obtain ⟨channel, -, rfl⟩ := List.mem_map.mp mem
    exact ⟨alert, channel.feedback, rfl⟩
  | _ => cases mem

theorem filterMap_feedbackFor? (event : Event) (channels : List Channel) :
    channels.filterMap (feedbackFor? event) = feedbackWorks event channels := by
  cases event with
  | created alert =>
    rw [feedbackWorks, ← List.filterMap_eq_map, List.filterMap_filter]
    exact congrArg (List.filterMap · channels) (funext fun channel => feedbackFor?_eq ..)
  | _ => exact List.filterMap_eq_nil_iff.mpr fun channel _ => feedbackFor?_eq ..

end MetricAlerts
