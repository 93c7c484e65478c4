import MetricAlerts.Proofs.Json.Records
import MetricAlerts.Proofs.Query.Canonical
import MetricAlerts.Rule

/-! Rules read back from their JSON form. Everything about a rule comes back but its query, which is
what its text is read as (`Rule.read?_toJson`). -/

namespace MetricAlerts

namespace RuleKind

/-- The condition of a kind that has one. -/
def condition? : RuleKind → Option Condition
  | .threshold c => some c
  | .rateOfChange c => some c
  | .anomaly _ _ => none

/-- The kind with the query that its query's text is read as. -/
def reread? : RuleKind → Option RuleKind
  | .threshold c =>
    (Query.read? (.ofJson c.query.toJson)).map fun query => .threshold { c with query }
  | .rateOfChange c =>
    (Query.read? (.ofJson c.query.toJson)).map fun query => .rateOfChange { c with query }
  | .anomaly resourceType minSeverity => some (.anomaly resourceType minSeverity)

theorem reread?_eq_some_iff {c : Condition} {kind : RuleKind} (h : kind.condition? = some c) :
    kind.reread? = some kind ↔ Query.parse c.query.text = .ok c.query := by
  have hRead : Query.read? (.ofJson c.query.toJson) = (Query.parse c.query.text).toOption := rfl
  obtain ⟨query, comparison, threshold⟩ := c
  cases kind <;> cases h <;> rw [reread?, hRead] <;> cases Query.parse query.text <;>
    simp [Except.toOption]

end RuleKind

namespace Rule

variable {c : Condition} {kind : RuleKind} {members : List (String × Document)} {record : Record}

/-- The members that every rule has. -/
def commonMembers (r : Rule) : List (String × Json) :=
  [("id", .string r.id), ("name", .string r.name), ("description", .string r.description),
    ("source", .string r.source), ("severity", r.severity.toJson), ("enabled", .bool r.enabled),
    ("labels", .ofStrings r.labels), ("annotations", .ofStrings r.annotations)]

/-- The members that depend on the type. -/
def typedMembers (kind : RuleKind) : List (String × Json) :=
  ("type", .string kind.typeName) :: kindMembers kind

theorem toJson_eq (r : Rule) : r.toJson = .ofMembers (commonMembers r ++ typedMembers r.kind) := rfl

theorem notMem_keys_typedMembers (kind : RuleKind) :
    ∀ name ∈ commonFields, name ∉ keys (typedMembers kind) := by
  have hCondition : ∀ name ∈ commonFields,
      name ∉ ["type", "query", "condition", "threshold"] := by decide
  have hUntyped : ∀ name ∈ commonFields, name ∉ ["type", "minSeverity"] := by decide
  have hTyped : ∀ name ∈ commonFields, name ∉ ["type", "resourceType", "minSeverity"] := by decide
  cases kind with
  | threshold c => exact hCondition
  | rateOfChange c => exact hCondition
  | anomaly resourceType minSeverity =>
    cases resourceType with
    | none => exact hUntyped
    | some resourceType => exact hTyped

/-- The members that depend on the type stand among others, each once. -/
structure Holds (members : List (String × Document)) (kind : RuleKind) : Prop where
  distinct : (keys members).Nodup
  found : ∀ name, name ∉ commonFields →
    lookup? name members = (lookup? name (typedMembers kind).reverse).map Document.ofJson

theorem conditionOf?_eq (h : Holds members kind) (hCondition : kind.condition? = some c)
    (finite : c.threshold.isFinite)
    (fields : ∀ name ∈ ["query", "condition", "threshold"],
      record.field? name = lookup? name members) :
    conditionOf? record =
      (Query.read? (.ofJson c.query.toJson)).map fun query => { c with query } := by
  have hKind : kindMembers kind = conditionMembers c := by
    cases kind <;> cases hCondition <;> rfl
  have hQuery : record.field? "query" = some (.ofJson c.query.toJson) := by
    rw [fields "query" (by decide), h.found "query" (by decide), typedMembers, hKind]
    rfl
  have hComparison : record.field? "condition" = some (.ofJson c.comparison.toJson) := by
    rw [fields "condition" (by decide), h.found "condition" (by decide), typedMembers, hKind]
    rfl
  have hThreshold : record.field? "threshold" = some (.float c.threshold) := by
    rw [fields "threshold" (by decide), h.found "threshold" (by decide), typedMembers, hKind,
      conditionMembers, Json.ofFloat, if_pos finite]
    rfl
  have hSymbol : looseChoice? Comparison.ofSymbol? (.ofJson c.comparison.toJson) =
      some c.comparison := Comparison.ofSymbol?_symbol c.comparison
  simp only [conditionOf?, Record.required, hQuery, hComparison, hThreshold, Option.bind_some,
    hSymbol, Document.float?]
  cases Query.read? (.ofJson c.query.toJson) <;> rfl

theorem kindOf?_eq (h : Holds members kind)
    (finite : ∀ c ∈ kind.condition?, c.threshold.isFinite) : kindOf? members = kind.reread? := by
  obtain ⟨tagged, hTagged, hType⟩ := Record.exists_read? h.distinct ["type"]
  obtain ⟨condition, hCondition, hFields⟩ :=
    Record.exists_read? h.distinct ["query", "condition", "threshold"]
  obtain ⟨anomaly, hAnomaly, hOptions⟩ :=
    Record.exists_read? h.distinct ["resourceType", "minSeverity"]
  have hTag : tagged.field? "type" = some (.string kind.typeName) := by
    rw [hType "type" (by decide), h.found "type" (by decide)]
    cases kind with
    | anomaly resourceType minSeverity => cases resourceType <;> rfl
    | _ => rfl
  simp only [kindOf?, hTagged, hCondition, hAnomaly, Option.bind_eq_bind, Option.bind_some, hTag]
  cases kind with
  | threshold c =>
    rw [conditionOf?_eq h rfl (finite c rfl) hFields]
    exact Option.map_map ..
  | rateOfChange c =>
    rw [conditionOf?_eq h rfl (finite c rfl) hFields]
    exact Option.map_map ..
  | anomaly resourceType minSeverity =>
    have hType : anomaly.optional "resourceType" Document.string? = some resourceType := by
      rw [Record.optional, Record.withDefault, hOptions "resourceType" (by decide),
        h.found "resourceType" (by decide)]
      cases resourceType <;> rfl
    have hSeverity : anomaly.withDefault "minSeverity" (looseChoice? Severity.ofName?) default =
        some minSeverity := by
      rw [Record.withDefault, hOptions "minSeverity" (by decide), h.found "minSeverity" (by decide)]
      cases resourceType <;> exact Severity.ofName?_name minSeverity
    rw [hType, hSeverity]
    rfl

theorem lookup?_members_of_common (r : Rule) {name : String} (common : name ∈ commonFields) :
    lookup? name (commonMembers r ++ typedMembers r.kind).reverse =
      lookup? name (commonMembers r).reverse := by
  have hTyped : lookup? name (typedMembers r.kind).reverse = none := by
    rw [lookup?_eq_none_iff, keys, List.map_reverse, List.mem_reverse]
    exact notMem_keys_typedMembers r.kind name common
  rw [List.reverse_append, lookup?_append, hTyped, Option.none_or]

theorem lookup?_members_of_not_common (r : Rule) {name : String} (other : name ∉ commonFields) :
    lookup? name (commonMembers r ++ typedMembers r.kind).reverse =
      lookup? name (typedMembers r.kind).reverse := by
  have hCommon : lookup? name (commonMembers r).reverse = none := by
    rw [lookup?_eq_none_iff, keys, List.map_reverse, List.mem_reverse]
    exact other
  rw [List.reverse_append, lookup?_append, hCommon, Option.or_none]

/-- What is read of a rule before its members are looked at. -/
theorem exists_members (r : Rule) : ∃ members, Document.ofJson r.toJson = .object members ∧
    (keys members).Nodup ∧
    (∀ name ∈ commonFields,
      lookup? name members = (lookup? name (commonMembers r).reverse).map Document.ofJson) ∧
    Holds (members.filter fun m => !commonFields.contains m.1) r.kind ∧
    (Document.membersJson? (members.filter fun m => !commonFields.contains m.1)).isSome := by
  obtain ⟨distinct, hLookup⟩ := Document.lookup?_ofMembers_sortEntries
    (commonMembers r ++ typedMembers r.kind)
  refine ⟨_, by rw [toJson_eq, Json.ofMembers, Document.ofJson], distinct, ?_, ⟨?_, ?_⟩, ?_⟩
  · intro name common
    rw [hLookup, lookup?_members_of_common r common]
  · exact distinct.sublist (keys_filter_sublist _ _)
  · intro name other
    rw [lookup?_filter (fun name => !commonFields.contains name) (by simpa using other), hLookup,
      lookup?_members_of_not_common r other]
  · refine Document.isSome_membersJson? fun m hm => ?_
    have hMem := List.mem_of_mem_filter hm
    rw [Document.ofMembers_eq_map] at hMem
    obtain ⟨written, -, rfl⟩ := List.mem_map.mp hMem
    exact Document.isSome_toJson?_ofJson written.2

theorem read?_toJson (r : Rule) (finite : ∀ c ∈ r.kind.condition?, c.threshold.isFinite) :
    read? (.ofJson r.toJson) = r.kind.reread?.map fun kind => { r with kind } := by
  obtain ⟨members, hRead, distinct, hCommon, hOthers, hKnown⟩ := exists_members r
  obtain ⟨known, hKnown⟩ := Option.isSome_iff_exists.mp hKnown
  have hKind := kindOf?_eq hOthers finite
  obtain ⟨record, hRecord, hFields⟩ := Record.exists_read? distinct commonFields
  have hRequired {α : Type} {name : String} {read : Document → Option α} {value : α}
      (common : name ∈ commonFields)
      (found : ((lookup? name (commonMembers r).reverse).map Document.ofJson).bind read =
        some value) : record.required name read = some value := by
    rw [Record.required, hFields name common, hCommon name common, found]
  have hDefault {α : Type} {name : String} {read : Document → Option α} {value default : α}
      (common : name ∈ commonFields)
      (found : ((lookup? name (commonMembers r).reverse).map Document.ofJson).bind read =
        some value) : record.withDefault name read default = some value :=
    Record.withDefault_of_required (hRequired common found) default
  have hId : record.required "id" Document.string? = some r.id := hRequired (by decide) rfl
  have hName : record.required "name" Document.string? = some r.name := hRequired (by decide) rfl
  have hDescription : record.withDefault "description" Document.string? "" = some r.description :=
    hDefault (by decide) rfl
  have hSource : record.withDefault "source" Document.string? allSources = some r.source :=
    hDefault (by decide) rfl
  have hSeverity : record.withDefault "severity" Severity.read? default = some r.severity :=
    hDefault (by decide) (Severity.ofName?_name r.severity)
  have hEnabled : record.withDefault "enabled" Document.bool? true = some r.enabled :=
    hDefault (by decide) rfl
  have hLabels : record.withDefault "labels" (Document.dictWith? Document.string?) .empty =
      some r.labels := hDefault (by decide) (Document.dictWith?_ofStrings r.labels)
  have hAnnotations : record.withDefault "annotations" (Document.dictWith? Document.string?)
      .empty = some r.annotations :=
    hDefault (by decide) (Document.dictWith?_ofStrings r.annotations)
  simp only [read?, hRead, Document.members?, hRecord, hKnown, hId, hName, hDescription, hSource,
    hSeverity, hEnabled, hLabels, hAnnotations, hKind, Option.bind_eq_bind, Option.bind_some]
  cases r.kind.reread? <;> rfl

/-- A rule with a condition comes back exactly if its query is read back from its text. -/
theorem read?_toJson_eq_some_iff {r : Rule} (hCondition : r.kind.condition? = some c)
    (finite : c.threshold.isFinite) :
    read? (.ofJson r.toJson) = some r ↔ Query.parse c.query.text = .ok c.query := by
  have hFinite : ∀ c ∈ r.kind.condition?, c.threshold.isFinite := by
    rw [hCondition]
    rintro _ ⟨⟩
    exact finite
  have hSame (kind : RuleKind) : { r with kind } = r ↔ kind = r.kind := by
    cases r
    simp
  rw [read?_toJson r hFinite, ← RuleKind.reread?_eq_some_iff hCondition]
  simp [Option.map_eq_some_iff, hSame]

theorem isFinite_of_kindOf? (h : Holds members kind) (hCondition : kind.condition? = some c)
    (read : kindOf? members = some kind) : c.threshold.isFinite := by
  obtain ⟨tagged, hTagged, hType⟩ := Record.exists_read? h.distinct ["type"]
  obtain ⟨condition, hRecord, hFields⟩ :=
    Record.exists_read? h.distinct ["query", "condition", "threshold"]
  have hTag : tagged.field? "type" = some (.string kind.typeName) := by
    rw [hType "type" (by decide), h.found "type" (by decide)]
    cases kind <;> cases hCondition <;> rfl
  have hRead : conditionOf? condition = some c := by
    simp only [kindOf?, hTagged, hRecord, Option.bind_eq_bind, Option.bind_some, hTag] at read
    cases kind <;> cases hCondition <;> simpa [RuleKind.typeName] using read
  have hThreshold : condition.field? "threshold" = some (.ofJson (Json.ofFloat c.threshold)) := by
    rw [hFields "threshold" (by decide), h.found "threshold" (by decide), typedMembers]
    cases kind <;> cases hCondition <;> rfl
  simp only [conditionOf?, Option.bind_eq_bind, Option.bind_eq_some_iff] at hRead
  obtain ⟨query, -, comparison, -, threshold, hRead, same⟩ := hRead
  cases same
  rw [Record.required, hThreshold] at hRead
  exact Document.float?_ofFloat_iff.mp hRead

theorem kindOf?_of_read? {r : Rule} (read : read? (.object members) = some r) :
    kindOf? (members.filter fun m => !commonFields.contains m.1) = some r.kind := by
  simp only [read?, Document.members?, Option.bind_eq_bind, Option.bind_some,
    Option.bind_eq_some_iff] at read
  obtain ⟨_, -, _, -, _, -, _, -, _, -, _, -, _, -, _, -, _, -, _, -, kind, hKind, same⟩ := read
  cases same
  exact hKind

/-- A rule comes back exactly if the threshold of its condition is finite and the query is read back
from its text. A rule without a condition has no query that could come back as another. -/
theorem read?_toJson_iff {r : Rule} : read? (.ofJson r.toJson) = some r ↔
    ∀ c ∈ r.kind.condition?, c.threshold.isFinite ∧ Query.parse c.query.text = .ok c.query := by
  constructor
  · intro read c hCondition
    obtain ⟨members, hRead, -, -, hOthers, -⟩ := exists_members r
    have finite : c.threshold.isFinite :=
      isFinite_of_kindOf? hOthers hCondition (kindOf?_of_read? (hRead ▸ read))
    exact ⟨finite, (read?_toJson_eq_some_iff hCondition finite).mp read⟩
  · intro h
    cases hCondition : r.kind.condition? with
    | some c =>
      obtain ⟨finite, hQuery⟩ := h c hCondition
      exact (read?_toJson_eq_some_iff hCondition finite).mpr hQuery
    | none =>
      have hKind : r.kind.reread? = some r.kind := by
        cases hKind : r.kind with
        | anomaly resourceType minSeverity => rfl
        | _ =>
          rw [hKind] at hCondition
          cases hCondition
      rw [read?_toJson r fun c hc => (h c hc).1, hKind]
      rfl

end Rule

namespace Query

/-- A query that has been read is read back from its text, and comes back with every rule that has
it, exactly if its text falls apart into its labels. -/
theorem parse_text_iff {text : String} {q : Query} (read : parse text = .ok q) :
    (parse q.text = .ok q ↔ q.IsLegible) ∧
      ∀ (r : Rule) (c : Condition), r.kind.condition? = some c → c.query = q →
        c.threshold.isFinite → (Rule.read? (.ofJson r.toJson) = some r ↔ q.IsLegible) := by
  have hText := parse_text_iff_of_isRead (isRead_of_parse read)
  refine ⟨hText, fun r c hCondition hQuery finite => ?_⟩
  rw [Rule.read?_toJson_eq_some_iff hCondition finite, hQuery, hText]

theorem parse_text_iff_quoted :
    let q : Query := .selector "cpu" (.ofList [("host", "a,b")])
    parse "cpu\x7bhost='a,b'\x7d" = .ok q ∧ q.IsLegible ∧ parse q.text = .ok q := by
  intro q
  have read : parse "cpu\x7bhost='a,b'\x7d" = .ok q := by rfl
  have legible : q.IsLegible := by decide
  exact ⟨read, legible, (parse_text_iff read).1.mpr legible⟩

/-- A double quote in a value is a quote like the others in the text, so that other labels may be
read from it. -/
theorem parse_text_of_quote_in_value :
    let q : Query := .selector "cpu" (.ofList [("a", "x\",b=\"y")])
    let other : Query := .selector "cpu" (.ofList [("a", "x"), ("b", "y")])
    parse "cpu\x7ba='x\",b=\"y'\x7d" = .ok q ∧ parse q.text = .ok other ∧ other ≠ q := by
  refine ⟨rfl, rfl, by decide⟩

end Query

end MetricAlerts
