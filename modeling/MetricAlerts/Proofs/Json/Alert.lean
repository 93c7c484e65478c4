import MetricAlerts.Alert
import MetricAlerts.Proofs.Json.Ordered
import MetricAlerts.Proofs.Time.Reading

/-! Anomalies and alerts read back from their JSON form: they come back exactly if it has room for
what is in them, which is so of every alert that is read or is new and has finite floats. -/

namespace MetricAlerts

theorem AlertStatus.ofName?_name (s : AlertStatus) : ofName? s.name = some s := by cases s <;> rfl

theorem Timestamp.read?_toJson (t : Timestamp) : read? (.ofJson t.toJson) = parse? t.text := by
  rw [read?, toJson, Document.ofJson, Document.string?, Option.bind_some]

theorem Timestamp.isInstant_of_read? {d : Document} {t : Timestamp} (read : read? d = some t) :
    t.IsInstant := by
  obtain ⟨text, -, hText⟩ := Option.bind_eq_some_iff.mp read
  exact isInstant_of_parse? hText

namespace Anomaly

/-- No float in an anomaly is infinite or no number. -/
structure IsFinite (a : Anomaly) : Prop where
  value : ∀ x ∈ a.value, x.isFinite
  confidence : ∀ x ∈ a.confidence, x.isFinite

def slots (a : Anomaly) : List (String × Option Json) :=
  [("metric", a.metric.map .string), ("value", a.value.map Json.ofFloat),
    ("severity", some a.severity.toJson), ("description", some (.string a.description)),
    ("confidence", a.confidence.map Json.ofFloat)]

theorem toJson_eq (a : Anomaly) : a.toJson = .ofMembers (Json.present a.slots) := by
  simp [toJson, slots, Json.present, Json.optional]

theorem read?_eq_some_iff {d : Document} {r : Record} {a : Anomaly}
    (hRead : Record.read? ["metric", "value", "severity", "description", "confidence"] [] d =
      some r) :
    read? d = some a ↔ r.optional "metric" Document.string? = some a.metric ∧
      r.optional "value" Document.float? = some a.value ∧
      r.withDefault "severity" Severity.read? default = some a.severity ∧
      r.withDefault "description" Document.string? "" = some a.description ∧
      r.optional "confidence" Document.float? = some a.confidence := by
  rw [read?, hRead]
  simp only [Option.bind_eq_bind, Option.bind_some, Option.bind_eq_some_iff]
  constructor
  · rintro ⟨metric, hMetric, value, hValue, severity, hSeverity, description, hDescription,
      confidence, hConfidence, h⟩
    cases h
    exact ⟨hMetric, hValue, hSeverity, hDescription, hConfidence⟩
  · rintro ⟨hMetric, hValue, hSeverity, hDescription, hConfidence⟩
    exact ⟨_, hMetric, _, hValue, _, hSeverity, _, hDescription, _, hConfidence, rfl⟩

theorem read?_toJson_iff {a : Anomaly} : read? (.ofJson a.toJson) = some a ↔ a.IsFinite := by
  have distinct : ["metric", "value", "severity", "description", "confidence"].Nodup := by decide
  obtain ⟨r, hRead, hFields⟩ := Record.exists_read?_present a.slots [] distinct
    (List.Subset.refl _) fun _ _ => List.not_mem_nil
  rw [← toJson_eq] at hRead
  simp only [slots, List.forall_mem_cons] at hFields
  obtain ⟨metric, value, severity, description, confidence, -⟩ := hFields
  rw [read?_eq_some_iff hRead, Record.optional_eq_some_iff metric rfl,
    Record.optional_eq_some_iff value rfl, Record.withDefault_eq_some_iff severity,
    Record.withDefault_eq_some_iff description, Record.optional_eq_some_iff confidence rfl]
  simp only [Document.float?_ofFloat_iff]
  constructor
  · rintro ⟨-, value, -, -, confidence⟩
    exact ⟨value, confidence⟩
  · intro finite
    exact ⟨fun _ _ => rfl, finite.value, a.severity.ofName?_name, rfl, finite.confidence⟩

end Anomaly

namespace Alert

/-- The instants that an alert tells of. -/
def times (a : Alert) : List Timestamp :=
  a.startsAt :: (a.resolvedAt.toList ++ a.acknowledgedAt.toList)

/-- The JSON form of an alert has room for everything in it: its floats are finite, its values are
in order, and its instants are those that their texts are read as. -/
structure IsExact (a : Alert) : Prop where
  value : ∀ x ∈ a.value, x.isFinite
  anomaly : ∀ anomaly ∈ a.anomalyDetails, anomaly.IsFinite
  metrics : a.metrics.IsOrdered
  annotations : ∀ entry ∈ a.annotations.entries, entry.2.IsOrdered
  times : ∀ t ∈ a.times, Timestamp.parse? t.text = some t

def slots (a : Alert) : List (String × Option Json) :=
  [("id", some (.string a.id)), ("ruleId", some (.string a.ruleId)),
    ("ruleName", some (.string a.ruleName)), ("severity", some a.severity.toJson),
    ("status", some (.string a.status.name)), ("startsAt", some a.startsAt.toJson),
    ("value", some ((a.value.map Json.ofFloat).getD .null)), ("metrics", some a.metrics),
    ("labels", some (Json.ofStrings a.labels)), ("annotations", some (Json.ofDict a.annotations)),
    ("source", some (.string a.source)), ("resolvedAt", a.resolvedAt.map Timestamp.toJson),
    ("acknowledgedAt", a.acknowledgedAt.map Timestamp.toJson),
    ("resolutionReason", a.resolutionReason.map .string),
    ("anomalyDetails", a.anomalyDetails.map Anomaly.toJson),
    ("explanation", a.explanation.map .string)]

/-- The names of the members, in the order in which they are written. -/
def memberNames : List String :=
  ["id", "ruleId", "ruleName", "severity", "status", "startsAt", "value", "metrics", "labels",
    "annotations", "source", "resolvedAt", "acknowledgedAt", "resolutionReason", "anomalyDetails",
    "explanation"]

theorem keys_slots (a : Alert) : keys a.slots = memberNames := rfl

theorem members_eq (a : Alert) : a.members = Json.present a.slots := by
  simp [members, slots, Json.present, Json.optional]

theorem toJson_eq (a : Alert) : a.toJson = .ofMembers (Json.present a.slots) :=
  congrArg Json.ofMembers a.members_eq

theorem exists_record (a : Alert) :
    ∃ r, Record.read? fields [("timestamp", "startsAt")] (.ofJson a.toJson) = some r ∧
      ∀ slot ∈ a.slots, r.field? slot.1 = slot.2.map .ofJson := by
  have distinct : memberNames.Nodup := by decide
  have known : memberNames ⊆ fields := by decide
  have fresh : ∀ name ∈ memberNames, name ∉ ["timestamp"] := by decide
  rw [toJson_eq]
  rw [← keys_slots a] at distinct known fresh
  exact Record.exists_read?_present a.slots _ distinct known fresh

theorem read?_eq_some_iff {d : Document} {r : Record} {a : Alert}
    (hRead : Record.read? fields [("timestamp", "startsAt")] d = some r) :
    read? d = some a ↔ r.required "id" Document.string? = some a.id ∧
      r.required "ruleId" Document.string? = some a.ruleId ∧
      r.required "ruleName" Document.string? = some a.ruleName ∧
      r.required "severity" Severity.read? = some a.severity ∧
      r.required "status" (Document.choice? AlertStatus.ofName?) = some a.status ∧
      r.required "startsAt" Timestamp.read? = some a.startsAt ∧
      r.optional "resolvedAt" Timestamp.read? = some a.resolvedAt ∧
      r.optional "acknowledgedAt" Timestamp.read? = some a.acknowledgedAt ∧
      r.optional "resolutionReason" Document.string? = some a.resolutionReason ∧
      r.optional "value" Document.float? = some a.value ∧
      r.withDefault "metrics" Document.toJson? .null = some a.metrics ∧
      r.withDefault "labels" (Document.dictWith? Document.string?) .empty = some a.labels ∧
      r.withDefault "annotations" (Document.dictWith? Document.toJson?) .empty =
        some a.annotations ∧
      r.required "source" Document.string? = some a.source ∧
      r.optional "anomalyDetails" Anomaly.read? = some a.anomalyDetails ∧
      r.optional "explanation" Document.string? = some a.explanation := by
  rw [read?]
  constructor
  · intro h
    rw [hRead] at h
    obtain ⟨_, hr, h⟩ := Option.bind_eq_some_iff.mp h
    cases hr
    obtain ⟨id, hId, h⟩ := Option.bind_eq_some_iff.mp h
    obtain ⟨ruleId, hRuleId, h⟩ := Option.bind_eq_some_iff.mp h
    obtain ⟨ruleName, hRuleName, h⟩ := Option.bind_eq_some_iff.mp h
    obtain ⟨severity, hSeverity, h⟩ := Option.bind_eq_some_iff.mp h
    obtain ⟨status, hStatus, h⟩ := Option.bind_eq_some_iff.mp h
    obtain ⟨startsAt, hStartsAt, h⟩ := Option.bind_eq_some_iff.mp h
    obtain ⟨resolvedAt, hResolvedAt, h⟩ := Option.bind_eq_some_iff.mp h
    obtain ⟨acknowledgedAt, hAcknowledgedAt, h⟩ := Option.bind_eq_some_iff.mp h
    obtain ⟨reason, hReason, h⟩ := Option.bind_eq_some_iff.mp h
    obtain ⟨value, hValue, h⟩ := Option.bind_eq_some_iff.mp h
    obtain ⟨metrics, hMetrics, h⟩ := Option.bind_eq_some_iff.mp h
    obtain ⟨labels, hLabels, h⟩ := Option.bind_eq_some_iff.mp h
    obtain ⟨annotations, hAnnotations, h⟩ := Option.bind_eq_some_iff.mp h
    obtain ⟨source, hSource, h⟩ := Option.bind_eq_some_iff.mp h
    obtain ⟨anomaly, hAnomaly, h⟩ := Option.bind_eq_some_iff.mp h
    obtain ⟨explanation, hExplanation, h⟩ := Option.bind_eq_some_iff.mp h
    cases h
    exact ⟨hId, hRuleId, hRuleName, hSeverity, hStatus, hStartsAt, hResolvedAt, hAcknowledgedAt,
      hReason, hValue, hMetrics, hLabels, hAnnotations, hSource, hAnomaly, hExplanation⟩
  · rintro ⟨hId, hRuleId, hRuleName, hSeverity, hStatus, hStartsAt, hResolvedAt, hAcknowledgedAt,
      hReason, hValue, hMetrics, hLabels, hAnnotations, hSource, hAnomaly, hExplanation⟩
    rw [hRead, Option.bind_eq_bind, Option.bind_some, hId, hRuleId, hRuleName, hSeverity, hStatus,
      hStartsAt, hResolvedAt, hAcknowledgedAt, hReason, hValue, hMetrics, hLabels, hAnnotations,
      hSource, hAnomaly, hExplanation]
    rfl

theorem forall_mem_times {a : Alert} {p : Timestamp → Prop} :
    (∀ t ∈ a.times, p t) ↔
      p a.startsAt ∧ (∀ t ∈ a.resolvedAt, p t) ∧ ∀ t ∈ a.acknowledgedAt, p t := by
  simp [times, or_imp, forall_and]

theorem read?_toJson_iff {a : Alert} : read? (.ofJson a.toJson) = some a ↔ a.IsExact := by
  obtain ⟨r, hRead, hFields⟩ := exists_record a
  simp only [slots, List.forall_mem_cons] at hFields
  obtain ⟨id, ruleId, ruleName, severity, status, startsAt, value, metrics, labels, annotations,
    source, resolvedAt, acknowledgedAt, reason, anomaly, explanation, -⟩ := hFields
  rw [read?_eq_some_iff hRead, Record.required_eq_some_iff id, Record.required_eq_some_iff ruleId,
    Record.required_eq_some_iff ruleName, Record.required_eq_some_iff severity,
    Record.required_eq_some_iff status, Record.required_eq_some_iff startsAt,
    Record.optional_eq_some_iff resolvedAt rfl, Record.optional_eq_some_iff acknowledgedAt rfl,
    Record.optional_eq_some_iff reason rfl, Record.optional_eq_some_iff_of_nullable value rfl,
    Record.withDefault_eq_some_iff metrics, Record.withDefault_eq_some_iff labels,
    Record.withDefault_eq_some_iff annotations, Record.required_eq_some_iff source,
    Record.optional_eq_some_iff anomaly rfl, Record.optional_eq_some_iff explanation rfl]
  simp only [Timestamp.read?_toJson, Document.float?_ofFloat_iff, Document.toJson?_ofJson_iff,
    Document.dictWith?_ofDict_iff, Anomaly.read?_toJson_iff]
  constructor
  · rintro ⟨-, -, -, -, -, startsAt, resolvedAt, acknowledgedAt, -, value, metrics, -, annotations,
      -, anomaly, -⟩
    exact ⟨value, anomaly, metrics, annotations,
      forall_mem_times.mpr ⟨startsAt, resolvedAt, acknowledgedAt⟩⟩
  · intro h
    obtain ⟨startsAt, resolvedAt, acknowledgedAt⟩ := forall_mem_times.mp h.times
    exact ⟨rfl, rfl, rfl, a.severity.ofName?_name, a.status.ofName?_name, startsAt, resolvedAt,
      acknowledgedAt, fun _ _ => rfl, h.value, h.metrics, Document.dictWith?_ofStrings a.labels,
      h.annotations, rfl, h.anomaly, fun _ _ => rfl⟩

/-- The values of an alert are in order, and its times are instants. -/
structure IsWellFormed (a : Alert) : Prop where
  metrics : a.metrics.IsOrdered
  annotations : ∀ entry ∈ a.annotations.entries, entry.2.IsOrdered
  times : ∀ t ∈ a.times, t.IsInstant

/-- No float of an alert is infinite or no number. -/
structure IsFinite (a : Alert) : Prop where
  value : ∀ x ∈ a.value, x.isFinite
  anomaly : ∀ anomaly ∈ a.anomalyDetails, anomaly.IsFinite

theorem isExact_iff {a : Alert} : a.IsExact ↔ a.IsWellFormed ∧ a.IsFinite := by
  constructor
  · intro exact
    exact ⟨⟨exact.metrics, exact.annotations,
      fun t ht => Timestamp.parse?_text_iff.mp (exact.times t ht)⟩, exact.value, exact.anomaly⟩
  · rintro ⟨wellFormed, finite⟩
    exact ⟨finite.value, finite.anomaly, wellFormed.metrics, wellFormed.annotations,
      fun t ht => Timestamp.parse?_text_iff.mpr (wellFormed.times t ht)⟩

/-- Every alert that is read is well formed. -/
theorem isWellFormed_of_read? {d : Document} {a : Alert} (read : read? d = some a) :
    a.IsWellFormed := by
  have hRecord := read
  rw [Alert.read?] at hRecord
  obtain ⟨r, hRecord, -⟩ := Option.bind_eq_some_iff.mp hRecord
  obtain ⟨-, -, -, -, -, startsAt, resolvedAt, acknowledgedAt, -, -, metrics, -, annotations, -⟩ :=
    (read?_eq_some_iff hRecord).mp read
  obtain ⟨_, -, hStartsAt⟩ := Option.bind_eq_some_iff.mp startsAt
  have onNull : Json.null.IsOrdered := by simp [Json.IsOrdered]
  have onEmpty : ∀ entry ∈ (Dict.empty : Dict Json).entries, entry.2.IsOrdered :=
    List.forall_mem_nil _
  exact {
    metrics :=
      Record.forall_of_withDefault onNull (fun _ _ => Document.isOrdered_of_toJson?) metrics
    annotations :=
      Record.forall_of_withDefault onEmpty (fun _ _ => Document.isOrdered_of_dictWith?) annotations
    times := forall_mem_times.mpr ⟨Timestamp.isInstant_of_read? hStartsAt,
      Record.forall_of_optional (fun _ _ => Timestamp.isInstant_of_read?) resolvedAt,
      Record.forall_of_optional (fun _ _ => Timestamp.isInstant_of_read?) acknowledgedAt⟩ }

theorem isOrdered_of_mem_ruleAnnotations {rule : Rule} {entry : String × Json}
    (h : entry ∈ (ruleAnnotations rule).entries) : entry.2.IsOrdered := by
  have hText (text : String) : (Json.string text).IsOrdered := by simp [Json.IsOrdered]
  let own := Dict.ofList (rule.annotations.entries.map fun e => (e.1, Json.string e.2))
  have hOwn : ∀ entry ∈ own.entries, entry.2.IsOrdered := by
    intro entry hMem
    rw [Dict.entries_ofList] at hMem
    obtain ⟨e, -, rfl⟩ := List.mem_map.mp (mem_of_mem_sortEntries hMem)
    exact hText e.2
  rw [ruleAnnotations] at h
  split at h
  · exact hOwn entry h
  · rcases mem_insertEntry h with rfl | hMem
    · exact hText rule.description
    · exact hOwn entry hMem

/-- Every new alert of a rule is well formed. -/
theorem isWellFormed_firing {metrics : Json} {now : Timestamp} (ordered : metrics.IsOrdered)
    (instant : now.IsInstant) (rule : Rule) (source : String) (severity : Severity) (id : String) :
    (firing rule source severity metrics id now).IsWellFormed where
  metrics := ordered
  annotations _ := isOrdered_of_mem_ruleAnnotations
  times := forall_mem_times.mpr ⟨instant, by simp [firing], by simp [firing]⟩

end Alert

end MetricAlerts
