import MetricAlerts.Event
import MetricAlerts.Proofs.Store.Entries

/-! What the operations of the store do. Each of them makes no change, one `Edit`, or two, where an
anomaly alert has to make way for a new one; an edit goes with the event that announces it. -/

namespace MetricAlerts

namespace Timestamp

variable {a b c : Timestamp}

theorem lt_iff : a < b ↔ a.seconds < b.seconds ∨ a.seconds = b.seconds ∧ a.nanos < b.nanos :=
  Iff.rfl

theorem lt_irrefl : ¬a < a := by
  rw [lt_iff]
  omega

theorem lt_asymm (h : a < b) : ¬b < a := by
  rw [lt_iff] at h ⊢
  omega

theorem lt_of_not_lt_of_lt (h : ¬b < a) (h' : b < c) : a < c := by
  rw [lt_iff] at h h' ⊢
  omega

end Timestamp

namespace Alert

/-- The key of an active alert: an alert for an anomaly is kept under its own id, any other under
the id of its rule. -/
def key (a : Alert) : String := if a.anomalyDetails.isSome then a.id else a.ruleId

theorem key_eq (a : Alert) : a.key = a.ruleId ∨ a.key = a.id := by
  unfold key
  split
  · exact .inr rfl
  · exact .inl rfl

/-- A firing alert that nobody has taken notice of. -/
structure IsNew (a : Alert) : Prop where
  status : a.status = .firing
  acknowledgedAt : a.acknowledgedAt = none
  resolvedAt : a.resolvedAt = none
  resolutionReason : a.resolutionReason = none

theorem isNew_ofRule (rule : Rule) (source : String) (value : Float) (metrics : Json) (id : String)
    (now : Timestamp) : (ofRule rule source value metrics id now).IsNew :=
  ⟨rfl, rfl, rfl, rfl⟩

theorem isNew_ofAnomaly (rule : Rule) (source : String) (anomaly : Anomaly) (metrics : Json)
    (id : String) (now : Timestamp) : (ofAnomaly rule source anomaly metrics id now).IsNew :=
  ⟨rfl, rfl, rfl, rfl⟩

end Alert

namespace AlertStore

/-- A copy that may take the place of an active alert. -/
inductive Revision (old : Alert) : Alert → Prop
  | acknowledged (now : Timestamp) : Revision old (acknowledgedCopy now old)
  | annotated (fields : Dict Json) : Revision old (annotatedCopy fields old)

theorem Revision.id {old new : Alert} (h : Revision old new) : new.id = old.id := by
  cases h
  · unfold acknowledgedCopy
    split <;> rfl
  · rfl

theorem Revision.ruleId {old new : Alert} (h : Revision old new) : new.ruleId = old.ruleId := by
  cases h
  · unfold acknowledgedCopy
    split <;> rfl
  · rfl

theorem Revision.anomalyDetails {old new : Alert} (h : Revision old new) :
    new.anomalyDetails = old.anomalyDetails := by
  cases h
  · unfold acknowledgedCopy
    split <;> rfl
  · rfl

theorem Revision.key {old new : Alert} (h : Revision old new) : new.key = old.key := by
  rw [Alert.key, Alert.key, h.anomalyDetails, h.id, h.ruleId]

/-- The store with a new alert after all others. -/
def opened (s : AlertStore) (key : String) (alert : Alert) : AlertStore :=
  { s with active := s.active ++ [(key, alert)] }.remember alert

/-- The store in which a resolved copy has left the entries for the history. -/
def closed (s : AlertStore) (left : List (String × Alert)) (resolved : Alert) : AlertStore :=
  { s with active := left }.remember resolved

/-- An id under which nothing is active and that no active alert has. -/
def IsUnused (s : AlertStore) (id : String) : Prop :=
  id ∉ keys s.active ∧ ∀ e ∈ s.active, e.2.id ≠ id

instance (s : AlertStore) (id : String) : Decidable (s.IsUnused id) :=
  inferInstanceAs (Decidable (_ ∧ _))

/-- A change of the store, with the event that announces it. -/
inductive Edit (s : AlertStore) : Event → AlertStore → Prop
  | opened {key : String} {alert : Alert} (free : key ∉ keys s.active)
      (unused : ∀ e ∈ s.active, e.2.id ≠ alert.id) (name : key = alert.ruleId ∨ key = alert.id)
      (isNew : alert.IsNew) : Edit s (.created alert) (s.opened key alert)
  | changed {before after : List (String × Alert)} {key : String} {old new : Alert}
      (split : s.active = before ++ (key, old) :: after) (revision : Revision old new) :
      Edit s (.updated new) { s with active := before ++ (key, new) :: after }
  | closed {before after : List (String × Alert)} {key : String} {old : Alert}
      (split : s.active = before ++ (key, old) :: after) (reason : String) (now : Timestamp) :
      Edit s (.resolved (resolvedCopy old reason now))
        (s.closed (before ++ after) (resolvedCopy old reason now))

/-- The store to which a new alert has come under its key. -/
structure Opens (s : AlertStore) (alert : Alert) (s' : AlertStore) : Prop where
  free : alert.key ∉ keys s.active
  unused : ∀ e ∈ s.active, e.2.id ≠ alert.id
  isNew : alert.IsNew
  eq : s' = s.opened alert.key alert

variable {s s' : AlertStore} {name key reason : String} {now : Timestamp} {a : Alert}

theorem Opens.edit (h : s.Opens a s') : s.Edit (.created a) s' :=
  h.eq ▸ .opened h.free h.unused a.key_eq h.isNew

theorem edit_of_change? {f : Alert → Alert} (revises : ∀ old, Revision old (f old))
    (h : s.change? name f = some (a, s')) : Edit s (.updated a) s' := by
  obtain ⟨key, -, h⟩ := Option.bind_eq_some_iff.mp h
  obtain ⟨old, hOld, h⟩ := Option.map_eq_some_iff.mp h
  obtain ⟨before, after, split, hBefore⟩ := exists_split_of_lookup? hOld
  cases h
  rw [split, setEntry_split hBefore]
  exact .changed split (revises old)

theorem edit_of_acknowledge? (h : s.acknowledge? name now = some (a, s')) :
    Edit s (.updated a) s' :=
  edit_of_change? (fun _ => .acknowledged now) h

theorem edit_of_mergeAnnotations? {fields : Dict Json}
    (h : s.mergeAnnotations? name fields = some (a, s')) : Edit s (.updated a) s' :=
  edit_of_change? (fun _ => .annotated fields) h

theorem split_of_resolveKey? (distinct : (keys s.active).Nodup)
    (h : s.resolveKey? key reason now = some (a, s')) :
    ∃ before old after, s.active = before ++ (key, old) :: after ∧
      a = resolvedCopy old reason now ∧ s' = s.closed (before ++ after) a := by
  obtain ⟨old, hOld, h⟩ := Option.map_eq_some_iff.mp h
  obtain ⟨before, after, split, -⟩ := exists_split_of_lookup? hOld
  cases h
  rw [split] at distinct
  refine ⟨before, old, after, split, rfl, ?_⟩
  rw [closed, split, filter_split distinct]

theorem edit_of_resolveKey? (distinct : (keys s.active).Nodup)
    (h : s.resolveKey? key reason now = some (a, s')) : Edit s (.resolved a) s' := by
  obtain ⟨before, old, after, split, rfl, rfl⟩ := split_of_resolveKey? distinct h
  exact .closed split reason now

theorem edit_of_resolve? (distinct : (keys s.active).Nodup)
    (h : s.resolve? name reason now = some (a, s')) : Edit s (.resolved a) s' := by
  obtain ⟨key, -, h⟩ := Option.bind_eq_some_iff.mp h
  exact edit_of_resolveKey? distinct h

theorem edit_of_resolveRule? (distinct : (keys s.active).Nodup)
    (h : s.resolveRule? name reason now = some (a, s')) : Edit s (.resolved a) s' := by
  unfold resolveRule? at h
  split at h
  · exact edit_of_resolve? distinct h
  · cases h

variable {rule : Rule} {source id : String} {metrics : Json}

/-- Where a rule gets a new alert, nothing was active under the id of the rule. -/
theorem opened_of_create {value : Float}
    (h : s.create rule source value metrics id now = (.created a, s')) :
    a = Alert.ofRule rule source value metrics id now ∧ rule.id ∉ keys s.active ∧
      s' = s.opened rule.id a := by
  unfold create at h
  split at h
  · cases h
  · next absent =>
    have free : rule.id ∉ keys s.active := lookup?_eq_none_iff.mp absent
    cases h
    rw [setEntry_of_notMem free]
    exact ⟨rfl, free, rfl⟩

theorem opens_of_create {value : Float} (unused : ∀ e ∈ s.active, e.2.id ≠ id)
    (h : s.create rule source value metrics id now = (.created a, s')) : s.Opens a s' := by
  obtain ⟨rfl, free, eq⟩ := opened_of_create h
  exact ⟨free, unused, Alert.isNew_ofRule .., eq⟩

/-- Nothing changes where the rule has an active alert. -/
theorem eq_of_create {value : Float}
    (h : s.create rule source value metrics id now = (.existing a, s')) : s' = s := by
  unfold create at h
  split at h <;> cases h
  rfl

/-! The anomaly alerts of a rule, and the earliest of them. -/

theorem mem_anomalyAlerts_iff {ruleId : String} :
    a ∈ s.anomalyAlerts ruleId ↔ (a.id, a) ∈ s.active ∧ a.ruleId = ruleId := by
  simp only [anomalyAlerts, List.mem_map, List.mem_filter, Bool.and_eq_true, beq_iff_eq,
    Prod.exists, exists_eq_right]
  constructor
  · rintro ⟨key, hMem, hRule, rfl⟩
    exact ⟨hMem, hRule⟩
  · rintro ⟨hMem, hRule⟩
    exact ⟨a.id, hMem, hRule, rfl⟩

theorem eq_nil_of_earliest? {alerts : List Alert} (h : earliest? alerts = none) : alerts = [] := by
  cases alerts with
  | nil => rfl
  | cons alert alerts =>
    simp only [earliest?] at h
    split at h
    · split at h <;> cases h
    · cases h

theorem mem_of_earliest? {alerts : List Alert} (h : earliest? alerts = some a) : a ∈ alerts := by
  induction alerts generalizing a with
  | nil => cases h
  | cons alert alerts ih =>
    simp only [earliest?] at h
    split at h
    · next other hOther =>
      split at h
      · exact List.mem_cons_of_mem _ (Option.some.inj h ▸ ih hOther)
      · exact Option.some.inj h ▸ List.mem_cons_self
    · exact Option.some.inj h ▸ List.mem_cons_self

/-- No alert is earlier than the earliest. -/
theorem not_lt_of_earliest? {alerts : List Alert} (h : earliest? alerts = some a) {b : Alert}
    (mem : b ∈ alerts) : ¬b.startsAt < a.startsAt := by
  induction alerts generalizing a with
  | nil => cases h
  | cons alert alerts ih =>
    simp only [earliest?] at h
    split at h
    · next other hOther =>
      split at h
      · next less =>
        obtain rfl := Option.some.inj h
        rcases List.mem_cons.mp mem with rfl | mem
        · exact Timestamp.lt_asymm less
        · exact ih hOther mem
      · next notLess =>
        obtain rfl := Option.some.inj h
        rcases List.mem_cons.mp mem with rfl | mem
        · exact Timestamp.lt_irrefl
        · exact fun less => notLess (Timestamp.lt_of_not_lt_of_lt (ih hOther mem) less)
    · next hNone =>
      obtain rfl := Option.some.inj h
      rw [eq_nil_of_earliest? hNone, List.mem_singleton] at mem
      exact mem ▸ Timestamp.lt_irrefl

variable {anomaly : Anomaly} {later : Timestamp} {superseded : Option Alert}

/-- A surplus alert is active under its own id. -/
theorem mem_of_surplusAnomaly? {ruleId : String} (h : s.surplusAnomaly? ruleId = some key) :
    ∃ old ∈ s.anomalyAlerts ruleId, old.id = key ∧ (key, old) ∈ s.active ∧
      earliest? (s.anomalyAlerts ruleId) = some old := by
  unfold surplusAnomaly? at h
  simp only at h
  split at h
  · cases h
  · obtain ⟨old, hOld, rfl⟩ := Option.map_eq_some_iff.mp h
    have hMem := mem_of_earliest? hOld
    refine ⟨old, hMem, rfl, ?_, hOld⟩
    exact (mem_anomalyAlerts_iff.mp hMem).1

/-- A new anomaly alert is opened, and the surplus alert that there is then, if any, is resolved. -/
theorem createAnomaly_cases (unused : s.IsUnused id)
    (h : s.createAnomaly rule source anomaly metrics id now later = (a, superseded, s')) :
    a = Alert.ofAnomaly rule source anomaly metrics id now ∧
    ((s.opened id a).surplusAnomaly? rule.id = none ∧ superseded = none ∧ s' = s.opened id a ∨
      ∃ key old, (s.opened id a).surplusAnomaly? rule.id = some key ∧ superseded = some old ∧
        (s.opened id a).resolveKey? key supersededReason later = some (old, s')) := by
  have hSet : setEntry id (Alert.ofAnomaly rule source anomaly metrics id now) s.active =
      s.active ++ [(id, Alert.ofAnomaly rule source anomaly metrics id now)] :=
    setEntry_of_notMem unused.1
  have hId : (Alert.ofAnomaly rule source anomaly metrics id now).id = id := rfl
  have hOpened : { s with active := s.active ++
        [(id, Alert.ofAnomaly rule source anomaly metrics id now)] }.remember
          (Alert.ofAnomaly rule source anomaly metrics id now) =
      s.opened id (Alert.ofAnomaly rule source anomaly metrics id now) :=
    rfl
  simp only [createAnomaly, hId, hSet, hOpened] at h
  split at h
  · next old closed hBind =>
    cases h
    obtain ⟨key, hKey, hResolve⟩ := Option.bind_eq_some_iff.mp hBind
    exact ⟨rfl, .inr ⟨key, old, hKey, rfl, hResolve⟩⟩
  · next hBind =>
    cases h
    refine ⟨rfl, .inl ⟨?_, rfl, rfl⟩⟩
    rw [Option.eq_none_iff_forall_ne_some]
    intro key hKey
    obtain ⟨old, -, -, hMem, -⟩ := mem_of_surplusAnomaly? hKey
    have hFound : key ∈ keys (s.opened id _).active := List.mem_map_of_mem hMem
    rw [← isSome_lookup?_iff, Option.isSome_iff_exists] at hFound
    obtain ⟨found, hFound⟩ := hFound
    simp [hKey, resolveKey?, hFound] at hBind

theorem opens_ofAnomaly (unused : s.IsUnused id) :
    s.Opens (Alert.ofAnomaly rule source anomaly metrics id now)
      (s.opened id (Alert.ofAnomaly rule source anomaly metrics id now)) :=
  ⟨unused.1, unused.2, Alert.isNew_ofAnomaly .., rfl⟩

theorem createAnomaly_fst (s : AlertStore) (rule : Rule) (source : String) (anomaly : Anomaly)
    (metrics : Json) (id : String) (now later : Timestamp) :
    (s.createAnomaly rule source anomaly metrics id now later).1 =
      Alert.ofAnomaly rule source anomaly metrics id now := by
  simp only [createAnomaly]
  split <;> rfl

end AlertStore

end MetricAlerts
