import MetricAlerts.Proofs.Engine.Outcome

/-! The alerts that the condition of a rule gives rise to come one after another. Each of them is
resolved before the next one is created, whatever happens to the rule and to its alerts in
between. -/

namespace MetricAlerts

namespace Alert

/-- Whether the alert is due to the condition of a rule, and not to an anomaly. -/
def isConditionOf (ruleId : String) (a : Alert) : Bool :=
  a.ruleId == ruleId && a.anomalyDetails.isNone

theorem key_of_isConditionOf {ruleId : String} {a : Alert} (h : a.isConditionOf ruleId) :
    a.key = ruleId := by
  simp only [isConditionOf, Bool.and_eq_true, beq_iff_eq, Option.isNone_iff_eq_none] at h
  simp [key, h.1, h.2]

theorem isConditionOf_of_isAnomaly {a : Alert} (h : a.anomalyDetails.isSome) (ruleId : String) :
    a.isConditionOf ruleId = false := by
  simp [isConditionOf, Option.isNone_eq_false_iff.mpr h]

end Alert

/-- Whether the event is the creation or the resolution of an alert that is due to the condition of
a rule. -/
def Event.isTurnOf (ruleId : String) : Event → Bool
  | .created alert => alert.isConditionOf ruleId
  | .resolved alert => alert.isConditionOf ruleId
  | _ => false

/-- The creations and resolutions of the alerts that are due to the condition of a rule. -/
def turns (ruleId : String) (events : List Event) : List Event :=
  events.filter (Event.isTurnOf ruleId)

/-- Creations and resolutions take turns, and what is resolved is what has been created. In the end
the alerts with the given ids are unresolved. -/
inductive TakeTurns : List Event → List String → Prop
  | none : TakeTurns [] []
  | created {events : List Event} (h : TakeTurns events []) (alert : Alert) :
      TakeTurns (events ++ [.created alert]) [alert.id]
  | resolved {events : List Event} {id : String} (h : TakeTurns events [id]) (alert : Alert)
      (same : alert.id = id) : TakeTurns (events ++ [.resolved alert]) []

variable {events past : List Event} {event : Event} {ids : List String} {ruleId : String}

theorem turns_append (first second : List Event) :
    turns ruleId (first ++ second) = turns ruleId first ++ turns ruleId second :=
  List.filter_append ..

theorem turns_of_isTurnOf (h : event.isTurnOf ruleId) : turns ruleId [event] = [event] :=
  List.filter_cons_of_pos h

theorem turns_of_not_isTurnOf (h : event.isTurnOf ruleId = false) : turns ruleId [event] = [] :=
  List.filter_cons_of_neg (by simp [h])

/-- The kind of the event at a position. -/
def turnKind (i : Nat) : String := if i % 2 = 0 then "created" else "resolved"

theorem kind_append (kinds : ∀ i e, events[i]? = some e → e.kind = turnKind i)
    (last : event.kind = turnKind events.length) :
    ∀ i e, (events ++ [event])[i]? = some e → e.kind = turnKind i := by
  intro i e hGet
  rcases Nat.lt_trichotomy i events.length with less | rfl | greater
  · exact kinds i e (by rwa [List.getElem?_append_left less] at hGet)
  · rw [List.getElem?_concat_length] at hGet
    cases hGet
    exact last
  · have outside : (events ++ [event]).length ≤ i := by
      rw [List.length_append]
      exact greater
    rw [List.getElem?_eq_none outside] at hGet
    cases hGet

/-- The first event is a creation, and so is every other one after that. -/
theorem TakeTurns.kind (h : TakeTurns events ids) :
    events.length % 2 = ids.length ∧ ∀ i e, events[i]? = some e → e.kind = turnKind i := by
  induction h with
  | none => exact ⟨rfl, by simp⟩
  | @created events h alert ih =>
    obtain ⟨parity, kinds⟩ := ih
    have even : events.length % 2 = 0 := parity
    have last : (Event.created alert).kind = turnKind events.length := (if_pos even).symm
    refine ⟨?_, kind_append kinds last⟩
    simp only [List.length_append, List.length_singleton]
    omega
  | @resolved events id h alert same ih =>
    obtain ⟨parity, kinds⟩ := ih
    have odd : ¬events.length % 2 = 0 := by
      rw [parity]
      exact Nat.one_ne_zero
    have last : (Event.resolved alert).kind = turnKind events.length := (if_neg odd).symm
    refine ⟨?_, kind_append kinds last⟩
    simp only [List.length_append, List.length_singleton, List.length_nil]
    omega

/-- No more than one alert is unresolved, and it is so if the last event is a creation. -/
theorem TakeTurns.length_eq_one_iff (h : TakeTurns events ids) :
    ids.length ≤ 1 ∧ (ids.length = 1 ↔ ∃ a, events.getLast? = some (.created a)) := by
  cases h <;> simp

namespace AlertStore

/-- The active alerts that are due to the condition of a rule. -/
def conditionAlerts (s : AlertStore) (ruleId : String) : List Alert :=
  (s.active.map Prod.snd).filter (Alert.isConditionOf ruleId)

variable {s s' : AlertStore} {a old new : Alert} {key : String}
  {before after : List (String × Alert)}

theorem conditionAlerts_opened (s : AlertStore) (key : String) (a : Alert) (ruleId : String) :
    (s.opened key a).conditionAlerts ruleId =
      s.conditionAlerts ruleId ++ [a].filter (Alert.isConditionOf ruleId) := by
  show ((s.active ++ [(key, a)]).map Prod.snd).filter _ = _
  rw [List.map_append, List.filter_append]
  rfl

theorem conditionAlerts_of_split (split : s.active = before ++ (key, old) :: after) :
    s.conditionAlerts ruleId =
      (before.map Prod.snd).filter (Alert.isConditionOf ruleId) ++
        ([old].filter (Alert.isConditionOf ruleId) ++
          (after.map Prod.snd).filter (Alert.isConditionOf ruleId)) := by
  rw [conditionAlerts, split, List.map_append, List.map_cons, List.filter_append,
    ← List.singleton_append, List.filter_append]

/-- A rule whose id is free has no alert that is due to its condition. -/
theorem Filed.conditionAlerts_eq_nil (h : s.Filed) (free : ruleId ∉ keys s.active) :
    s.conditionAlerts ruleId = [] := by
  refine List.filter_eq_nil_iff.mpr fun a ha hCondition => ?_
  obtain ⟨e, he, rfl⟩ := List.mem_map.mp ha
  have hKey : e.1 = ruleId := (h e he).trans (Alert.key_of_isConditionOf hCondition)
  exact free (hKey ▸ List.mem_map_of_mem he)

theorem Revision.isConditionOf (h : Revision old new) (ruleId : String) :
    new.isConditionOf ruleId = old.isConditionOf ruleId := by
  rw [Alert.isConditionOf, Alert.isConditionOf, h.ruleId, h.anomalyDetails]

theorem ids_conditionAlerts_updated (edit : s.Edit (.updated a) s') (ruleId : String) :
    (s'.conditionAlerts ruleId).map Alert.id = (s.conditionAlerts ruleId).map Alert.id := by
  cases edit with
  | @changed before after key old new split revision =>
    have hChanged : conditionAlerts { s with active := before ++ (key, a) :: after } ruleId = _ :=
      conditionAlerts_of_split rfl
    have hSingle : ([a].filter (Alert.isConditionOf ruleId)).map Alert.id =
        ([old].filter (Alert.isConditionOf ruleId)).map Alert.id := by
      simp only [List.filter_cons, revision.isConditionOf]
      split <;> simp [revision.id]
    rw [hChanged, conditionAlerts_of_split split]
    simp only [List.map_append, hSingle]

end AlertStore

/-- Alerts are kept under their keys, and for every rule the events have taken turns up to the
alerts that are active. -/
structure InTurn (s : AlertStore) (past : List Event) : Prop where
  filed : s.Filed
  turns : ∀ ruleId, TakeTurns (turns ruleId past) ((s.conditionAlerts ruleId).map Alert.id)

variable {s s' : AlertStore} {a : Alert}

theorem InTurn.of_not_isTurnOf (h : InTurn s past) (filed : s'.Filed)
    (other : ∀ ruleId, event.isTurnOf ruleId = false)
    (same : ∀ ruleId, (s'.conditionAlerts ruleId).map Alert.id =
      (s.conditionAlerts ruleId).map Alert.id) : InTurn s' (past ++ [event]) := by
  refine ⟨filed, fun ruleId => ?_⟩
  rw [turns_append, turns_of_not_isTurnOf (other ruleId), List.append_nil, same ruleId]
  exact h.turns ruleId

/-- A new alert under the id of its rule is the only one of its condition. -/
theorem InTurn.created (h : InTurn s past) (opens : s.Opens a s') :
    InTurn s' (past ++ [.created a]) := by
  refine ⟨h.filed.opens opens, fun ruleId => ?_⟩
  rw [turns_append, opens.eq, AlertStore.conditionAlerts_opened]
  by_cases hCondition : a.isConditionOf ruleId
  · have free : ruleId ∉ keys s.active := Alert.key_of_isConditionOf hCondition ▸ opens.free
    have hTurns := h.turns ruleId
    rw [h.filed.conditionAlerts_eq_nil free] at hTurns ⊢
    have hTurn : (Event.created a).isTurnOf ruleId := hCondition
    rw [turns_of_isTurnOf hTurn, List.filter_cons_of_pos hCondition]
    exact .created hTurns a
  · have other : (Event.created a).isTurnOf ruleId = false := eq_false_of_ne_true hCondition
    rw [turns_of_not_isTurnOf other, List.filter_cons_of_neg hCondition, List.filter_nil,
      List.append_nil, List.append_nil]
    exact h.turns ruleId

/-- An alert that is resolved was the only one of its condition, as there is room for one. -/
theorem InTurn.resolved (h : InTurn s past) (edit : s.Edit (.resolved a) s') :
    InTurn s' (past ++ [.resolved a]) := by
  refine ⟨h.filed.resolved edit, fun ruleId => ?_⟩
  cases edit with
  | @closed before after key old split reason now =>
    have hTurns := h.turns ruleId
    have hLeft : (s.closed (before ++ after)
        (AlertStore.resolvedCopy old reason now)).conditionAlerts ruleId =
        (before.map Prod.snd).filter (Alert.isConditionOf ruleId) ++
          (after.map Prod.snd).filter (Alert.isConditionOf ruleId) := by
      show ((before ++ after).map Prod.snd).filter _ = _
      rw [List.map_append, List.filter_append]
    rw [AlertStore.conditionAlerts_of_split split] at hTurns
    rw [turns_append, hLeft]
    by_cases hCondition : old.isConditionOf ruleId
    · have hTurn : (Event.resolved (AlertStore.resolvedCopy old reason now)).isTurnOf ruleId :=
        hCondition
      rw [List.filter_cons_of_pos hCondition, List.filter_nil] at hTurns
      have hLength := hTurns.length_eq_one_iff.1
      simp only [List.map_append, List.length_append, List.length_map, List.length_cons,
        List.length_nil] at hLength
      have hBefore := List.eq_nil_of_length_eq_zero (l := (before.map Prod.snd).filter
        (Alert.isConditionOf ruleId)) (by omega)
      have hAfter := List.eq_nil_of_length_eq_zero (l := (after.map Prod.snd).filter
        (Alert.isConditionOf ruleId)) (by omega)
      rw [hBefore, hAfter] at hTurns ⊢
      rw [turns_of_isTurnOf hTurn]
      exact .resolved hTurns _ rfl
    · have other : (Event.resolved (AlertStore.resolvedCopy old reason now)).isTurnOf ruleId =
          false := eq_false_of_ne_true hCondition
      rw [List.filter_cons_of_neg hCondition, List.filter_nil, List.nil_append] at hTurns
      rw [turns_of_not_isTurnOf other, List.append_nil]
      exact hTurns

namespace Engine

variable {e e' : Engine} {published : List Event}

/-- Whatever is announced, the events go on to take turns. -/
theorem Announces.inTurn (announces : e.Announces e' published) (h : InTurn e.alerts past) :
    InTurn e'.alerts (past ++ published) := by
  cases announces with
  | quiet same =>
    rw [same, List.append_nil]
    exact h
  | noticed analysis same =>
    rw [same]
    exact h.of_not_isTurnOf h.filed (fun _ => rfl) fun _ => rfl
  | created opens => exact h.created opens
  | updated edit =>
    exact h.of_not_isTurnOf (h.filed.updated edit) (fun _ => rfl)
      (AlertStore.ids_conditionAlerts_updated edit)
  | @superseded alert old middle opens used isAnomaly closing other =>
    have hCreated : ∀ ruleId, turns ruleId [.created alert] = [] := fun ruleId =>
      turns_of_not_isTurnOf (Alert.isConditionOf_of_isAnomaly isAnomaly ruleId)
    have hOpened := h.created opens
    have hMiddle : InTurn middle past := by
      refine ⟨hOpened.filed, fun ruleId => ?_⟩
      have hTurns := hOpened.turns ruleId
      rwa [turns_append, hCreated, List.append_nil] at hTurns
    have hClosed := hMiddle.resolved closing
    refine ⟨hClosed.filed, fun ruleId => ?_⟩
    have hTurns := hClosed.turns ruleId
    rw [turns_append] at hTurns ⊢
    rw [← List.singleton_append, turns_append, hCreated, List.append_nil]
    exact hTurns
  | resolved edit => exact h.resolved edit

/-- An acknowledgement is no creation, and the alert stays where it is. -/
theorem turns_acknowledge (e : Engine) (name : String) (ruleId : String) :
    turns ruleId (e.after (.acknowledge name)).events = turns ruleId e.events ∧
      ((e.after (.acknowledge name)).alerts.conditionAlerts ruleId).map Alert.id =
        (e.alerts.conditionAlerts ruleId).map Alert.id := by
  simp only [after, acknowledge?]
  cases h : e.storeAcknowledge? name with
  | none => exact ⟨rfl, rfl⟩
  | some result =>
    obtain ⟨a, e'⟩ := result
    obtain ⟨alerts, hChanged, rfl⟩ := eq_of_withAlerts h
    have edit := AlertStore.edit_of_acknowledge? hChanged
    refine ⟨?_, AlertStore.ids_conditionAlerts_updated edit ruleId⟩
    show turns ruleId (Engine.events (publish _ (.updated a))) = _
    rw [events_publish, turns_append, turns_of_not_isTurnOf rfl, List.append_nil]
    rfl

variable {environment : Environment} {definitions : Definitions}
  {historyLimit anomalyLimit eventBuffer clientBuffer maxMetricsBytes : Nat}

/-- At any point of any run, the alerts that the condition of a rule has given rise to have been
created and resolved in turn, beginning with a creation. At most one of them is active, and one is
if the last of the events is a creation. An acknowledgement makes no difference to that. -/
theorem takeTurns_conditionAlerts (leads : Leads (initial environment definitions historyLimit
    anomalyLimit eventBuffer clientBuffer maxMetricsBytes) e) (ruleId : String) :
    TakeTurns (turns ruleId e.events) ((e.alerts.conditionAlerts ruleId).map Alert.id) ∧
      (∀ i event, (turns ruleId e.events)[i]? = some event → event.kind = turnKind i) ∧
      (e.alerts.conditionAlerts ruleId).length ≤ 1 ∧
      ((e.alerts.conditionAlerts ruleId).length = 1 ↔
        ∃ a, (turns ruleId e.events).getLast? = some (.created a)) ∧
      ∀ name, turns ruleId (e.after (.acknowledge name)).events = turns ruleId e.events ∧
        ((e.after (.acknowledge name)).alerts.conditionAlerts ruleId).map Alert.id =
          (e.alerts.conditionAlerts ruleId).map Alert.id := by
  have start : InTurn (AlertStore.empty historyLimit anomalyLimit) [] :=
    ⟨fun e he => absurd he List.not_mem_nil, fun _ => .none⟩
  have inTurn : InTurn e.alerts e.events :=
    leads.keeps (fun _ h announces => announces.inTurn h) (AlertStore.sound_empty ..) start
  have hTurns := inTurn.turns ruleId
  have hLength := hTurns.length_eq_one_iff
  rw [List.length_map] at hLength
  exact ⟨hTurns, hTurns.kind.2, hLength.1, hLength.2, fun name => turns_acknowledge e name ruleId⟩

def cpuActions : List Action :=
  [.addRule (cpuRule "cpu"), evaluateCpu "cpu" 90, .acknowledge "cpu", evaluateCpu "cpu" 95,
    evaluateCpu "cpu" 70, .removeRule "cpu", .addRule (cpuRule "cpu"), evaluateCpu "cpu" 90]

theorem takeTurns_conditionAlerts_cpuActions :
    (turns "cpu" (diskEngine.run cpuActions).events).map Event.kind =
        ["created", "resolved", "created"] ∧
      ((diskEngine.run cpuActions).alerts.conditionAlerts "cpu").map Alert.id = ["second"] ∧
      TakeTurns (turns "cpu" (diskEngine.run cpuActions).events)
        (((diskEngine.run cpuActions).alerts.conditionAlerts "cpu").map Alert.id) :=
  ⟨by decide, by decide, (takeTurns_conditionAlerts (reaches_run (by decide)).leads "cpu").1⟩

end Engine

end MetricAlerts
