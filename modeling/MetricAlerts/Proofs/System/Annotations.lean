import MetricAlerts.Proofs.Engine.Overlay
import MetricAlerts.Proofs.System.Mute

/-! Enrichment and feedback in a run of an engine. Tasks may end in any order and at any time, with
old copies of their alerts and with answers of which some are missing. -/

namespace MetricAlerts

open Enrichment

namespace Engine

/-- One task yields what the other does, but for what there is under a key. -/
def Action.LacksOnly (key : String) (task full : Action) : Prop :=
  ∀ other value, task.Yields other value ↔ full.Yields other value ∧ other ≠ key

variable {environment : Environment} {definitions : Definitions}
  {historyLimit anomalyLimit eventBuffer clientBuffer maxMetricsBytes : Nat} {e : Engine}
  {past : List (Engine × Action)}

theorem lacksOnly_recommendations {limit : Nat} {reply : TimedReply Recommendations}
    (broken : reply.IsBroken limit) (alert : Alert) (r : Recommendations) (c : Correlations) :
    Action.LacksOnly recommendationsKey (.enrich alert (reply.within limit .neutral).2 c)
      (.enrich alert r c) := by
  intro key value
  rw [within_of_isBroken broken]
  constructor
  · rintro (some | some)
    · exact absurd rfl some
    · exact ⟨.correlations some, by decide⟩
  · rintro ⟨_ | some, other⟩
    · exact absurd rfl other
    · exact .correlations some

theorem lacksOnly_correlations {limit : Nat} {reply : TimedReply Correlations}
    (broken : reply.IsBroken limit) (alert : Alert) (r : Recommendations) (c : Correlations) :
    Action.LacksOnly correlationsKey (.enrich alert r (reply.within limit .neutral).2)
      (.enrich alert r c) := by
  intro key value
  rw [within_of_isBroken broken]
  constructor
  · rintro (some | some)
    · exact ⟨.recommendations some, by decide⟩
    · exact absurd rfl some
  · rintro ⟨some | _, other⟩
    · exact .recommendations some
    · exact absurd rfl other

/-- In any run in which no rule has the id of an alert that is enriched, the annotations of an
active alert are those with which it has been created, under the layers that the tasks for it that
ended while it was active have left, the last of them on top. A layer has the time and the results
that are not empty; a call that fails takes away its own result only. Other annotations stay as they
are. A task without results or without an active alert does nothing, and tasks whose results have
different keys may end in either order. -/
theorem annotations_eq_overlay (trace : Trace (initial environment definitions historyLimit
    anomalyLimit eventBuffer clientBuffer maxMetricsBytes) past e) (apart : IsApart past e) :
    (∀ entry ∈ e.alerts.active, ∃ first ∈ e.created, first.id = entry.2.id ∧
      (∀ other ∈ e.created, other.id = entry.2.id → other = first) ∧
      entry.2.annotations = overlay (layers entry.2.id past) first.annotations ∧
      ∀ key ∉ enrichedAtKey :: resultKeys,
        entry.2.annotations.get? key = first.annotations.get? key) ∧
      (∀ p ∈ past, ∀ alert fields, p.2.annotation? = some (alert, fields) →
        p.1.Annotates p.2 alert fields) ∧
      (∀ limit alert r c (recommend : TimedReply Recommendations)
        (correlate : TimedReply Correlations),
        (recommend.IsBroken limit → Action.LacksOnly recommendationsKey
          (.enrich alert (recommend.within limit .neutral).2 c) (.enrich alert r c)) ∧
        (correlate.IsBroken limit → Action.LacksOnly correlationsKey
          (.enrich alert r (correlate.within limit .neutral).2) (.enrich alert r c))) ∧
      ∀ task task', task.annotation?.isSome → task'.annotation?.isSome →
        IsApart [(e, task), (e, task')] e →
        (∀ key value value', task.Yields key value → ¬task'.Yields key value') →
        ∀ id, ∀ key ≠ enrichedAtKey,
          ((e.run [task, task']).alerts.view id).map (fun a => a.annotations.get? key) =
            ((e.run [task', task]).alerts.view id).map (fun a => a.annotations.get? key) := by
  have blank := isBlank_initial environment definitions historyLimit anomalyLimit eventBuffer
    clientBuffer maxMetricsBytes
  have sound := trace.leads.sound blank.sound
  refine ⟨fun entry mem => ?_, fun p mem alert fields h => trace.annotates blank apart mem h,
    fun limit alert r c recommend correlate =>
      ⟨fun broken => lacksOnly_recommendations broken alert r c,
        fun broken => lacksOnly_correlations broken alert r c⟩, ?_⟩
  · have found : e.alerts.view entry.2.id = some entry.2 :=
      (AlertStore.view_eq_some_iff sound.ids_nodup).mpr ⟨entry.1, mem, rfl⟩
    obtain ⟨first, hFirst, own, annotations⟩ := trace.annotations blank apart found
    refine ⟨first, hFirst, own, fun other hOther same => ?_, annotations, fun key other => ?_⟩
    · exact List.inj_on_of_nodup_map (trace.nodup_created blank) hOther hFirst
        (same.trans own.symm)
    · rw [annotations]
      refine get?_overlay_of_forall (fun layer left => ?_) _
      obtain ⟨p, -, hLayer⟩ := List.mem_filterMap.mp left
      exact get?_eq_none_of_layer? hLayer other
  · intro task task' some some' apart disjoint id key other
    obtain ⟨⟨alert, fields⟩, h⟩ := Option.isSome_iff_exists.mp some
    obtain ⟨⟨alert', fields'⟩, h'⟩ := Option.isSome_iff_exists.mp some'
    have only := trace.isIdOnly blank (apart (e, task) (by simp) (alert, fields) h)
    have only' := trace.isIdOnly blank (apart (e, task') (by simp) (alert', fields') h')
    exact annotations_comm sound h h' only only' disjoint id other

/-- An alert as it was when it was new. -/
def diskAlert (id : String) : Alert :=
  .ofAnomaly AlertStore.diskRule "node" ⟨none, none, .error, "slow", none⟩ .null id ⟨0, 0⟩

/-- The first alert has made way for the second when its enrichment ends. The second one gets other
recommendations from an enrichment without correlations than from feedback. -/
def diskTasks : List Action :=
  [raiseDisk, raiseDisk, .enrich (diskAlert "first") ⟨[⟨"restart", none, none⟩]⟩ ⟨[]⟩,
    .giveFeedback (diskAlert "second") (.recommendations ⟨[⟨"restart", none, none⟩]⟩),
    .enrich (diskAlert "second") ⟨[⟨"drain", none, none⟩]⟩ ⟨[]⟩]

theorem annotations_eq_overlay_diskTasks :
    let past := pastOf diskEngine diskTasks
    let e := diskEngine.run diskTasks
    Trace diskEngine past e ∧ IsApart past e ∧ layers "first" past = [] ∧
      (layers "second" past).map (fun layer => keys layer.entries) =
        [[recommendationsKey, enrichedAtKey], [recommendationsKey, enrichedAtKey]] ∧
      ∃ a ∈ e.alerts.activeAlerts, a.annotations.get? recommendationsKey =
        some (.array [Recommendation.toJson ⟨"drain", none, none⟩]) ∧
        ∃ first ∈ e.created, first.id = "second" ∧
          a.annotations = overlay (layers "second" past) first.annotations := by
  intro past e
  have fresh : IsFreshRun diskEngine diskTasks := by decide
  have trace : Trace diskEngine past e := Trace.start.run fresh
  have apart : IsApart past e := by decide
  obtain ⟨annotations, -⟩ := annotations_eq_overlay trace apart
  have mem : ("second", _) ∈ e.alerts.active := List.mem_of_mem_head? rfl
  obtain ⟨first, created, own, -, same, -⟩ := annotations _ mem
  exact ⟨trace, apart, by decide, by decide, _,
    (List.mergeSort_perm ..).symm.subset (List.mem_map_of_mem mem), rfl, first, created, own, same⟩

end Engine

end MetricAlerts
