import MetricAlerts.Proofs.Engine.Outcome
import MetricAlerts.Proofs.Store.View

/-! The events that have been published tell all about the active alerts: at any point of a run,
what is known from them is what the store holds. -/

namespace MetricAlerts

/-- What is known from the events is what is active. -/
theorem follows_view : Follows fun s past => replay past = s.view where
  edit sound h edit _ := by
    rw [replay_append, h, sound.view_edit edit, replayFrom_cons, replayFrom_nil]
  noticed h _ := by rw [replay_append, h]; rfl
  swap other h := by
    rw [← h, replay_append, replay_append]
    exact View.set_comm _ other _ _

namespace Engine

variable {environment : Environment} {definitions : Definitions}
  {historyLimit anomalyLimit eventBuffer clientBuffer maxMetricsBytes : Nat} {e : Engine}

theorem Reaches.sound_and_view (reaches : Reaches (initial environment definitions historyLimit
    anomalyLimit eventBuffer clientBuffer maxMetricsBytes) e) :
    e.alerts.Sound ∧ replay e.events = e.alerts.view :=
  reaches.keeps follows_view (AlertStore.sound_empty ..) rfl

/-- At any point of any run of an engine, the events that have been published so far tell under each
id the alert that is active with it, and no two active alerts share an id. -/
theorem replay_events (reaches : Reaches (initial environment definitions historyLimit anomalyLimit
    eventBuffer clientBuffer maxMetricsBytes) e) :
    e.alerts.ids.Nodup ∧ ∀ id a,
      replay e.events id = some a ↔ ∃ key, (key, a) ∈ e.alerts.active ∧ a.id = id := by
  obtain ⟨sound, view⟩ := reaches.sound_and_view
  refine ⟨sound.ids_nodup, fun id a => ?_⟩
  rw [view]
  exact AlertStore.view_eq_some_iff sound.ids_nodup

/-- The second anomaly alert takes the place of the first and is acknowledged. -/
def diskActions : List Action := [raiseDisk, raiseDisk, .acknowledge "second"]

theorem replay_events_diskActions :
    let e := diskEngine.run diskActions
    Reaches diskEngine e ∧ e.events.map Event.kind = ["created", "resolved", "created", "updated"] ∧
      ∃ a, replay e.events "second" = some a ∧ a.status = .acknowledged := by
  have reaches : Reaches diskEngine (diskEngine.run diskActions) := reaches_run (by decide)
  obtain ⟨-, known⟩ := replay_events reaches
  have hHead : ("second", _) ∈ (diskEngine.run diskActions).alerts.active :=
    List.mem_of_mem_head? rfl
  exact ⟨reaches, by decide, _, (known "second" _).mpr ⟨"second", hHead, rfl⟩, rfl⟩

end Engine

end MetricAlerts
