import Mathlib.Data.List.Nodup
import MetricAlerts.Proofs.Store.Sound

/-! Which alert a name stands for. A name may be a key or the id of an alert, and keys are ids of
rules or of alerts, so a name stands for what its giver has in mind as long as nothing else is kept
under it. -/

namespace MetricAlerts

namespace AlertStore

/-- What the operations do that are given a name for an alert among others: they find it, put a
changed copy in its place or take it out, and leave the others as they are. -/
structure ActsAt (s : AlertStore) (name : String) (before : List (String × Alert)) (key : String)
    (a : Alert) (after : List (String × Alert)) : Prop where
  split : s.active = before ++ (key, a) :: after
  get : s.get? name = some a
  acknowledge (now : Timestamp) :
    s.acknowledge? name now = some (acknowledgedCopy now a,
      { s with active := before ++ (key, acknowledgedCopy now a) :: after })
  mergeAnnotations (fields : Dict Json) :
    s.mergeAnnotations? name fields = some (annotatedCopy fields a,
      { s with active := before ++ (key, annotatedCopy fields a) :: after })
  resolve (reason : String) (now : Timestamp) :
    s.resolve? name reason now = some (resolvedCopy a reason now,
      s.closed (before ++ after) (resolvedCopy a reason now))

/-- The operations that are given a name act on an alert and on no other. -/
def ActsOn (s : AlertStore) (name : String) (a : Alert) : Prop :=
  ∃ before key after, s.ActsAt name before key a after

/-- What is kept under a name, if anything, is the alert with this id. -/
def IsIdOnly (s : AlertStore) (name : String) : Prop := ∀ e ∈ s.active, e.1 = name → e.2.id = name

instance (s : AlertStore) (name : String) : Decidable (s.IsIdOnly name) :=
  inferInstanceAs (Decidable (∀ e ∈ s.active, e.1 = name → e.2.id = name))

/-- What is kept under a name, if anything, is an alert of the rule with this id. -/
def IsRuleOnly (s : AlertStore) (name : String) : Prop :=
  ∀ e ∈ s.active, e.1 = name → e.2.ruleId = name

instance (s : AlertStore) (name : String) : Decidable (s.IsRuleOnly name) :=
  inferInstanceAs (Decidable (∀ e ∈ s.active, e.1 = name → e.2.ruleId = name))

/-- The alerts of all rules but one are still there. -/
def KeepsOthers (s : AlertStore) (ruleId : String) (s' : AlertStore) : Prop :=
  ∀ e ∈ s.active, e.2.ruleId ≠ ruleId → e ∈ s'.active

variable {s s' middle : AlertStore} {name key ruleId reason : String} {now : Timestamp}
  {a b old : Alert} {before after : List (String × Alert)}

/-- A key comes first. -/
theorem keyOf?_of_mem_keys (h : name ∈ keys s.active) : s.keyOf? name = some name :=
  if_pos (isSome_lookup?_iff.mpr h)

/-- The id of a rule stands for what is kept under it, and for nothing where that is nothing. -/
theorem resolveRule?_eq_resolveKey? (s : AlertStore) (ruleId reason : String) (now : Timestamp) :
    s.resolveRule? ruleId reason now = s.resolveKey? ruleId reason now := by
  unfold resolveRule?
  split
  · next found =>
    rw [resolve?, keyOf?_of_mem_keys (isSome_lookup?_iff.mp found)]
    rfl
  · next absent =>
    rw [resolveKey?, Option.not_isSome_iff_eq_none.mp absent]
    rfl

/-- An id that is no key stands for the key of its alert, as no other entry has it. -/
theorem keyOf?_of_id (ids : s.ids.Nodup) (mem : (key, a) ∈ s.active) (free : a.id ∉ keys s.active) :
    s.keyOf? a.id = some key := by
  have absent : ¬(lookup? a.id s.active).isSome := fun found => free (isSome_lookup?_iff.mp found)
  rw [keyOf?, if_neg absent]
  cases hFind : s.active.find? fun e => e.2.id == a.id with
  | none =>
    have other := List.find?_eq_none.mp hFind (key, a) mem
    simp at other
  | some found =>
    have same : found.2.id = a.id := by simpa using List.find?_some hFind
    have only : found = (key, a) :=
      List.inj_on_of_nodup_map ids (List.mem_of_find?_eq_some hFind) mem same
    rw [only]
    rfl

theorem change?_of_keyOf? (h : s.keyOf? name = some key)
    (split : s.active = before ++ (key, a) :: after) (first : key ∉ keys before)
    (f : Alert → Alert) :
    s.change? name f = some (f a, { s with active := before ++ (key, f a) :: after }) := by
  have found : lookup? key (before ++ (key, a) :: after) = some a := by
    rw [lookup?_append_of_notMem first, lookup?, if_pos rfl]
  rw [change?, h, split]
  simp [found, setEntry_split first]

/-- The operations act on the alert under the key that a name stands for. -/
theorem actsOn_of_keyOf? (distinct : (keys s.active).Nodup) (h : s.keyOf? name = some key)
    (mem : (key, a) ∈ s.active) : s.ActsOn name a := by
  have found : lookup? key s.active = some a := lookup?_of_mem distinct mem
  obtain ⟨before, after, split, first⟩ := exists_split_of_lookup? found
  refine ⟨before, key, after, split, ?_, fun now => change?_of_keyOf? h split first _,
    fun fields => change?_of_keyOf? h split first _, fun reason now => ?_⟩
  · rw [get?, h]
    exact found
  · rw [resolve?, h]
    show s.resolveKey? key reason now = _
    rw [split] at distinct
    rw [resolveKey?, found, split, filter_split distinct]
    rfl

/-- The id of an active alert stands for that alert if and only if no other is kept under it. Keys
come first, so that an id that is one must be the key of its own alert. -/
theorem Sound.actsOn_id_iff (sound : s.Sound) (mem : (key, a) ∈ s.active) :
    s.ActsOn a.id a ↔ s.IsIdOnly a.id := by
  constructor
  · rintro ⟨before, key', after, acts⟩ e he hKey
    have isKey : a.id ∈ keys s.active := hKey ▸ List.mem_map_of_mem he
    have found : lookup? a.id s.active = some e.2 := lookup?_of_mem sound.keys_nodup (hKey ▸ he)
    have hGet := acts.get
    rw [get?, keyOf?_of_mem_keys isKey] at hGet
    have same : e.2 = a := Option.some.inj (found.symm.trans hGet)
    rw [same]
  · intro only
    by_cases isKey : a.id ∈ keys s.active
    · obtain ⟨e, he, hKey⟩ := List.mem_map.mp isKey
      obtain rfl := List.inj_on_of_nodup_map sound.ids_nodup he mem (only e he hKey)
      exact actsOn_of_keyOf? sound.keys_nodup (keyOf?_of_mem_keys isKey) (hKey ▸ mem)
    · exact actsOn_of_keyOf? sound.keys_nodup (keyOf?_of_id sound.ids_nodup mem isKey) mem

/-! The alerts of other rules. -/

theorem KeepsOthers.refl (s : AlertStore) (ruleId : String) : s.KeepsOthers ruleId s :=
  fun _ he _ => he

theorem KeepsOthers.trans (h : s.KeepsOthers ruleId middle) (h' : middle.KeepsOthers ruleId s') :
    s.KeepsOthers ruleId s' :=
  fun e he other => h' e (h e he other) other

theorem keepsOthers_opened (s : AlertStore) (ruleId key : String) (a : Alert) :
    s.KeepsOthers ruleId (s.opened key a) :=
  fun _ he _ => List.mem_append_left _ he

theorem keepsOthers_closed (split : s.active = before ++ (key, old) :: after)
    (own : old.ruleId = ruleId) (a : Alert) :
    s.KeepsOthers ruleId (s.closed (before ++ after) a) := by
  intro e he other
  rw [split] at he
  show e ∈ before ++ after
  rcases List.mem_append.mp he with he | he
  · exact List.mem_append_left _ he
  · rcases List.mem_cons.mp he with rfl | he
    · exact absurd own other
    · exact List.mem_append_right _ he

/-- A rule whose id stands for its own alert only has no other alert resolved. -/
theorem keepsOthers_of_resolveRule? (distinct : (keys s.active).Nodup) (only : s.IsRuleOnly ruleId)
    (h : s.resolveRule? ruleId reason now = some (a, s')) : s.KeepsOthers ruleId s' := by
  rw [resolveRule?_eq_resolveKey?] at h
  obtain ⟨before, old, after, split, rfl, rfl⟩ := split_of_resolveKey? distinct h
  exact keepsOthers_closed split (only (ruleId, old) (by simp [split]) rfl) _

/-- The alert that makes way for a new one is an alert of the same rule. -/
theorem keepsOthers_createAnomaly (sound : s.Sound) {id : String} (unused : s.IsUnused id)
    (rule : Rule) (source : String) (anomaly : Anomaly) (metrics : Json) (now later : Timestamp) :
    s.KeepsOthers rule.id (s.createAnomaly rule source anomaly metrics id now later).2.2 := by
  generalize hResult : s.createAnomaly rule source anomaly metrics id now later = result
  obtain ⟨a, superseded, s'⟩ := result
  obtain ⟨rfl, hCases⟩ := createAnomaly_cases unused hResult
  have opens : s.Opens (Alert.ofAnomaly rule source anomaly metrics id now) _ :=
    opens_ofAnomaly unused
  have opening := keepsOthers_opened s rule.id id
    (Alert.ofAnomaly rule source anomaly metrics id now)
  obtain ⟨-, -, rfl⟩ | ⟨key, old, surplus, -, hResolve⟩ := hCases
  · exact opening
  · obtain ⟨before, found, after, split, among, -, -, -, rfl⟩ :=
      split_of_surplusAnomaly? (sound.edit opens.edit) surplus hResolve
    have own : found.ruleId = rule.id := (mem_anomalyAlerts_iff.mp among).2
    exact opening.trans (keepsOthers_closed split own _)

variable {rule : Rule} {source id : String} {value : Float} {metrics : Json}

/-- What is reported as existing is kept under the id of the rule. -/
theorem mem_of_create (h : s.create rule source value metrics id now = (.existing a, s')) :
    (rule.id, a) ∈ s.active := by
  unfold create at h
  split at h
  · next found =>
    cases h
    exact mem_of_lookup? found
  · cases h

theorem create_of_mem (distinct : (keys s.active).Nodup) (mem : (rule.id, a) ∈ s.active) :
    s.create rule source value metrics id now = (.existing a, s) := by
  rw [create, lookup?_of_mem distinct mem]

end AlertStore

end MetricAlerts
