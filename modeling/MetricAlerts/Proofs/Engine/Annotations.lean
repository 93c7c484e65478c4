import MetricAlerts.Proofs.Engine.Operations
import MetricAlerts.Proofs.Store.Annotations

/-! What the end of an enrichment or of feedback does. The results that are not empty come to the
alert, if it is still active, each under its own key, together with the time. -/

namespace MetricAlerts

namespace Enrichment

/-- The keys of results. -/
def resultKeys : List String := [recommendationsKey, correlationsKey, explanationKey, anomaliesKey]

variable {key : String} {value : Json} {fields : List (String × Json)} {now : Timestamp}

theorem mem_recommendationFields {x : Recommendations} :
    (key, value) ∈ recommendationFields x ↔ x.recommendations ≠ [] ∧ key = recommendationsKey ∧
      value = .array (x.recommendations.map Recommendation.toJson) := by
  unfold recommendationFields
  cases x.recommendations <;> simp

theorem mem_correlationFields {x : Correlations} :
    (key, value) ∈ correlationFields x ↔ x.correlations ≠ [] ∧ key = correlationsKey ∧
      value = .array (x.correlations.map Correlation.toJson) := by
  unfold correlationFields
  cases x.correlations <;> simp

theorem mem_explanationFields {x : Explanation} :
    (key, value) ∈ explanationFields x ↔
      x.explanation ≠ "" ∧ key = explanationKey ∧ value = .string x.explanation ∨
      x.anomalies ≠ [] ∧ key = anomaliesKey ∧
        value = .array (x.anomalies.map Anomaly.toJson) := by
  unfold explanationFields
  rw [List.mem_append]
  refine or_congr ?_ ?_
  · by_cases empty : x.explanation = "" <;> simp [empty]
  · cases x.anomalies <;> simp

theorem keys_recommendationFields (x : Recommendations) :
    (keys (recommendationFields x)).Sublist [recommendationsKey] := by
  unfold recommendationFields
  split
  · exact List.nil_sublist _
  · exact .refl _

theorem keys_correlationFields (x : Correlations) :
    (keys (correlationFields x)).Sublist [correlationsKey] := by
  unfold correlationFields
  split
  · exact List.nil_sublist _
  · exact .refl _

theorem keys_explanationFields (x : Explanation) :
    (keys (explanationFields x)).Sublist [explanationKey, anomaliesKey] := by
  unfold explanationFields
  rw [keys_append]
  show List.Sublist _ ([explanationKey] ++ [anomaliesKey])
  refine List.Sublist.append ?_ ?_ <;> split
  · exact List.nil_sublist _
  · exact .refl _
  · exact List.nil_sublist _
  · exact .refl _

theorem stamped?_of_ne_nil (some : fields ≠ []) (now : Timestamp) :
    stamped? fields now =
      .some ((Dict.ofList fields).insert enrichedAtKey (.string now.offsetText)) := by
  cases fields with
  | nil => exact absurd rfl some
  | cons => rfl

end Enrichment

open Enrichment

namespace Engine

/-- What an enrichment or feedback has found out, and under which key it is to be annotated. -/
inductive Action.Yields : Action → String → Json → Prop
  | recommendations {alert : Alert} {r : Recommendations} {c : Correlations}
      (some : r.recommendations ≠ []) : Yields (.enrich alert r c) recommendationsKey
        (.array (r.recommendations.map Recommendation.toJson))
  | correlations {alert : Alert} {r : Recommendations} {c : Correlations}
      (some : c.correlations ≠ []) : Yields (.enrich alert r c) correlationsKey
        (.array (c.correlations.map Correlation.toJson))
  | explanation {alert : Alert} {x : Explanation} (some : x.explanation ≠ "") :
      Yields (.giveFeedback alert (.explanation x)) explanationKey (.string x.explanation)
  | anomalies {alert : Alert} {x : Explanation} (some : x.anomalies ≠ []) :
      Yields (.giveFeedback alert (.explanation x)) anomaliesKey
        (.array (x.anomalies.map Anomaly.toJson))
  | recommended {alert : Alert} {r : Recommendations} (some : r.recommendations ≠ []) :
      Yields (.giveFeedback alert (.recommendations r)) recommendationsKey
        (.array (r.recommendations.map Recommendation.toJson))
  | correlated {alert : Alert} {c : Correlations} (some : c.correlations ≠ []) :
      Yields (.giveFeedback alert (.correlations c)) correlationsKey
        (.array (c.correlations.map Correlation.toJson))

variable {e e' : Engine} {task task' action : Action} {alert alert' a : Alert} {key id : String}
  {value : Json} {fields fields' : List (String × Json)}

theorem Action.Yields.mem_resultKeys (h : action.Yields key value) : key ∈ resultKeys := by
  cases h <;> decide

theorem Action.Yields.ne_enrichedAtKey (h : action.Yields key value) : key ≠ enrichedAtKey := by
  rintro rfl
  exact absurd h.mem_resultKeys (by decide)

theorem mem_fields_iff (h : task.annotation? = some (alert, fields)) :
    (key, value) ∈ fields ↔ task.Yields key value := by
  cases task with
  | enrich alert r c =>
    cases h
    rw [List.mem_append, mem_recommendationFields, mem_correlationFields]
    constructor
    · rintro (⟨some, rfl, rfl⟩ | ⟨some, rfl, rfl⟩)
      · exact .recommendations some
      · exact .correlations some
    · rintro (some | some)
      · exact .inl ⟨some, rfl, rfl⟩
      · exact .inr ⟨some, rfl, rfl⟩
  | giveFeedback alert answer =>
    cases h
    cases answer with
    | explanation x =>
      rw [feedbackFields, mem_explanationFields]
      constructor
      · rintro (⟨some, rfl, rfl⟩ | ⟨some, rfl, rfl⟩)
        · exact .explanation some
        · exact .anomalies some
      · rintro (_ | _ | some | some)
        · exact .inl ⟨some, rfl, rfl⟩
        · exact .inr ⟨some, rfl, rfl⟩
    | recommendations r =>
      rw [feedbackFields, mem_recommendationFields]
      constructor
      · rintro ⟨some, rfl, rfl⟩
        exact .recommended some
      · rintro ⟨⟩
        exact ⟨‹_›, rfl, rfl⟩
    | correlations c =>
      rw [feedbackFields, mem_correlationFields]
      constructor
      · rintro ⟨some, rfl, rfl⟩
        exact .correlated some
      · rintro ⟨⟩
        exact ⟨‹_›, rfl, rfl⟩
  | _ => cases h

theorem keys_fields (h : task.annotation? = some (alert, fields)) :
    (keys fields).Sublist resultKeys := by
  cases task with
  | enrich alert r c =>
    cases h
    rw [keys_append]
    exact (keys_recommendationFields r).append
      ((keys_correlationFields c).trans (List.sublist_append_left _ [explanationKey, anomaliesKey]))
  | giveFeedback alert answer =>
    cases h
    cases answer with
    | explanation x =>
      exact (keys_explanationFields x).trans
        (List.sublist_append_right [recommendationsKey, correlationsKey] _)
    | recommendations r =>
      exact (keys_recommendationFields r).trans (List.sublist_append_left _ _)
    | correlations c =>
      exact (keys_correlationFields c).trans
        ((List.sublist_append_left _ _).trans (List.sublist_append_right [recommendationsKey] _))
  | _ => cases h

theorem lookup?_fields (h : task.annotation? = some (alert, fields)) :
    lookup? key fields.reverse = some value ↔ task.Yields key value := by
  have distinct : (keys fields.reverse).Nodup := by
    rw [keys, List.map_reverse, List.nodup_reverse]
    exact (keys_fields h).nodup (by decide)
  rw [← mem_fields_iff h, ← List.mem_reverse]
  constructor
  · exact mem_of_lookup?
  · exact lookup?_of_mem distinct

theorem after_of_annotation? (h : task.annotation? = some (alert, fields)) :
    e.after task = (e.annotate alert fields).2 := by
  cases task with
  | enrich | giveFeedback =>
    cases h
    rfl
  | _ => cases h

theorem operation?_of_annotation? (h : task.annotation? = some (alert, fields)) :
    e.operation? task = (stamped? fields e.now).map (.mergeAnnotations alert.id) := by
  cases task with
  | enrich | giveFeedback =>
    cases h
    rfl
  | _ => cases h

/-- What is annotated to the alert with an id when an action is done, provided that it is active. -/
def layer? (id : String) (e : Engine) (action : Action) : Option (Dict Json) :=
  action.annotation?.bind fun (alert, fields) =>
    if alert.id = id ∧ id ∈ e.alerts.ids then stamped? fields e.now else none

theorem layer?_of_annotation? (h : task.annotation? = some (alert, fields)) (id : String) :
    e.layer? id task =
      if alert.id = id ∧ id ∈ e.alerts.ids then stamped? fields e.now else none := by
  rw [layer?, h]
  rfl

/-- A task leaves a layer of annotations on its alert and nothing on others. -/
theorem view_task (sound : e.alerts.Sound) (h : task.annotation? = some (alert, fields))
    (only : e.alerts.IsIdOnly alert.id) (id : String) :
    (e.after task).alerts.view id = (e.alerts.view id).map fun a =>
      { a with annotations := overlay (e.layer? id task).toList a.annotations } := by
  rw [alerts_after, operation?_of_annotation? h, layer?_of_annotation? h]
  cases hFound : e.alerts.view id with
  | none =>
    cases stamped? fields e.now with
    | none => exact hFound
    | some stamped =>
      show (e.alerts.after (.mergeAnnotations alert.id stamped)).view id = none
      rw [sound.view_mergeAnnotations only, hFound]
      rfl
  | some a =>
    have known : id ∈ e.alerts.ids := sound.mem_ids_of_view hFound
    cases stamped? fields e.now with
    | none =>
      rw [ite_self]
      exact hFound
    | some stamped =>
      show (e.alerts.after (.mergeAnnotations alert.id stamped)).view id = _
      rw [sound.view_mergeAnnotations only, hFound, Option.map_some, Option.map_some]
      by_cases same : id = alert.id
      · rw [if_pos same, if_pos ⟨same.symm, known⟩]
        rfl
      · rw [if_neg same, if_neg fun own => same own.1.symm]
        rfl

/-- What a task says about an alert under a key does not depend on when it ends. -/
theorem get?_layer (h : task.annotation? = some (alert, fields)) (known : id ∈ e.alerts.ids)
    (other : key ≠ enrichedAtKey) :
    ((e.layer? id task).bind fun layer => layer.get? key) =
      if alert.id = id then lookup? key fields.reverse else none := by
  rw [layer?_of_annotation? h]
  by_cases same : alert.id = id
  · rw [if_pos ⟨same, known⟩, if_pos same]
    cases fields with
    | nil => rfl
    | cons field fields =>
      rw [stamped?_of_ne_nil (List.cons_ne_nil _ _), Option.bind_some, Dict.get?_insert,
        if_neg other.symm, Dict.get?_ofList]
  · rw [if_neg fun own => same own.1, if_neg same]
    rfl

theorem get?_eq_none_of_layer? {layer : Dict Json} (h : e.layer? id action = some layer)
    (other : key ∉ enrichedAtKey :: resultKeys) : layer.get? key = none := by
  rw [List.mem_cons, not_or] at other
  obtain ⟨⟨alert, fields⟩, made, -⟩ := Option.bind_eq_some_iff.mp h
  rw [layer?_of_annotation? made] at h
  split at h
  · cases fields with
    | nil => cases h
    | cons field fields =>
      rw [stamped?_of_ne_nil (List.cons_ne_nil _ _)] at h
      obtain rfl := Option.some.inj h
      rw [Dict.get?_insert, if_neg (Ne.symm other.1), Dict.get?_ofList, lookup?_eq_none_iff,
        keys, List.map_reverse, List.mem_reverse]
      exact fun mem => other.2 ((keys_fields made).subset mem)
  · cases h

theorem sound_task (sound : e.alerts.Sound) (h : task.annotation? = some (alert, fields)) :
    (e.after task).alerts.Sound := by
  rw [alerts_after, operation?_of_annotation? h]
  cases stamped? fields e.now with
  | none => exact sound
  | some stamped =>
    have fresh : (AlertStore.Operation.mergeAnnotations alert.id stamped).IsFresh e.alerts :=
      trivial
    exact sound.after fresh

theorem isIdOnly_task {name : String} (h : task.annotation? = some (alert, fields))
    (only : e.alerts.IsIdOnly name) : (e.after task).alerts.IsIdOnly name := by
  rw [alerts_after, operation?_of_annotation? h]
  cases stamped? fields e.now with
  | none => exact only
  | some =>
    exact AlertStore.orSame_of only fun _ _ changed =>
      (AlertStore.edit_of_mergeAnnotations? changed).isIdOnly only

/-- What a task may do about an alert, at the time of its end. -/
structure Annotates (e : Engine) (task : Action) (alert : Alert) (fields : List (String × Json)) :
    Prop where
  idle : (∀ key value, ¬task.Yields key value) →
    stamped? fields e.now = none ∧ e.after task = e
  results : (∃ key value, task.Yields key value) →
    ∃ stamped, stamped? fields e.now = some stamped ∧ ∀ key value,
      stamped.get? key = some value ↔
        key = enrichedAtKey ∧ value = .string e.now.offsetText ∨ task.Yields key value
  /-- Where the alert is no longer active, nothing happens but that the clock is read. -/
  late : alert.id ∉ e.alerts.ids → e.after task = { e with readings := (e.after task).readings }

theorem annotates (h : task.annotation? = some (alert, fields))
    (only : e.alerts.IsIdOnly alert.id) : e.Annotates task alert fields where
  idle none := by
    have empty : fields = [] := by
      refine List.eq_nil_iff_forall_not_mem.mpr fun field mem => ?_
      exact none field.1 field.2 ((mem_fields_iff h).mp mem)
    rw [after_of_annotation? h, empty]
    exact ⟨rfl, rfl⟩
  results := by
    rintro ⟨key, value, yields⟩
    have some : fields ≠ [] := List.ne_nil_of_mem ((mem_fields_iff h).mpr yields)
    refine ⟨_, stamped?_of_ne_nil some e.now, fun key value => ?_⟩
    rw [Dict.get?_insert, Dict.get?_ofList]
    split
    · next same =>
      constructor
      · intro found
        exact .inl ⟨same.symm, (Option.some.inj found).symm⟩
      · rintro (⟨-, rfl⟩ | yields)
        · rfl
        · exact absurd same.symm yields.ne_enrichedAtKey
    · next other =>
      rw [lookup?_fields h]
      constructor
      · exact .inr
      · rintro (⟨rfl, -⟩ | yields)
        · exact absurd rfl other
        · exact yields
  late gone := by
    rw [after_of_annotation? h, annotate]
    cases stamped? fields e.now with
    | none => rfl
    | some stamped =>
      have dropped : e.tick.storeMerge? alert.id stamped = none := by
        rw [storeMerge?, withAlerts]
        show (e.alerts.mergeAnnotations? alert.id stamped).map _ = none
        rw [AlertStore.mergeAnnotations?_eq_none gone only]
        rfl
      simp only [dropped]
      rfl

/-- Tasks whose results have different keys may end in either order: under each key, at most one of
them has something to say. -/
theorem annotations_comm (sound : e.alerts.Sound) (h : task.annotation? = some (alert, fields))
    (h' : task'.annotation? = some (alert', fields')) (only : e.alerts.IsIdOnly alert.id)
    (only' : e.alerts.IsIdOnly alert'.id)
    (disjoint : ∀ key value value', task.Yields key value → ¬task'.Yields key value')
    (id : String) (other : key ≠ enrichedAtKey) :
    ((e.run [task, task']).alerts.view id).map (fun a => a.annotations.get? key) =
      ((e.run [task', task]).alerts.view id).map (fun a => a.annotations.get? key) := by
  have there := view_task sound h only id
  have there' := view_task sound h' only' id
  show (((e.after task).after task').alerts.view id).map _ =
    (((e.after task').after task).alerts.view id).map _
  rw [view_task (sound_task sound h) h' (isIdOnly_task h only') id,
    view_task (sound_task sound h') h (isIdOnly_task h' only) id, there, there']
  cases hFound : e.alerts.view id with
  | none => rfl
  | some a =>
    rw [hFound] at there there'
    have known := sound.mem_ids_of_view hFound
    have known' := (sound_task sound h).mem_ids_of_view there
    have known'' := (sound_task sound h').mem_ids_of_view there'
    have seen (layer : Option (Dict Json)) (base : Dict Json) :
        (overlay layer.toList base).get? key =
          (layer.bind fun layer => layer.get? key).or (base.get? key) := by
      rw [get?_overlay]
      cases layer with
      | none => rfl
      | some layer => rw [Option.toList_some, List.reverse_singleton, List.findSome?_singleton]; rfl
    simp only [Option.map_some, seen, get?_layer h known other, get?_layer h' known other,
      get?_layer h' known' other, get?_layer h known'' other]
    cases hFirst : lookup? key fields.reverse with
    | none => simp
    | some value =>
      cases hSecond : lookup? key fields'.reverse with
      | none => simp
      | some value' =>
        exact absurd ((lookup?_fields h').mp hSecond)
          (disjoint key value value' ((lookup?_fields h).mp hFirst))

end Engine

end MetricAlerts
