import MetricAlerts.Proofs.Store.Sound

/-! Sequences of store operations. Whatever the limits and the arguments are, every state that a
sequence leads to is sound, and no rule has more anomaly alerts than allowed. -/

namespace MetricAlerts.AlertStore

/-- An operation of the store with its arguments, among them the id of a new alert and readings of
the clock. -/
inductive Operation where
  | create (rule : Rule) (source : String) (value : Float) (metrics : Json) (id : String)
      (now : Timestamp)
  | createAnomaly (rule : Rule) (source : String) (anomaly : Anomaly) (metrics : Json) (id : String)
      (now later : Timestamp)
  | resolve (name reason : String) (now : Timestamp)
  | resolveRule (ruleId reason : String) (now : Timestamp)
  | acknowledge (name : String) (now : Timestamp)
  | mergeAnnotations (name : String) (fields : Dict Json)
  | clear

/-- The store after a change, or as it was if there was none. -/
def orSame (s : AlertStore) (changed : Option (Alert × AlertStore)) : AlertStore :=
  (changed.map Prod.snd).getD s

/-- The store after an operation. -/
def after (s : AlertStore) : Operation → AlertStore
  | .create rule source value metrics id now => (s.create rule source value metrics id now).2
  | .createAnomaly rule source anomaly metrics id now later =>
    (s.createAnomaly rule source anomaly metrics id now later).2.2
  | .resolve name reason now => s.orSame (s.resolve? name reason now)
  | .resolveRule ruleId reason now => s.orSame (s.resolveRule? ruleId reason now)
  | .acknowledge name now => s.orSame (s.acknowledge? name now)
  | .mergeAnnotations name fields => s.orSame (s.mergeAnnotations? name fields)
  | .clear => s.clear

/-- The alert that an operation returns as new. -/
def createdBy (s : AlertStore) : Operation → Option Alert
  | .create rule source value metrics id now =>
    match (s.create rule source value metrics id now).1 with
    | .created alert => some alert
    | .existing _ => none
  | .createAnomaly rule source anomaly metrics id now later =>
    some (s.createAnomaly rule source anomaly metrics id now later).1
  | _ => none

/-- The alert that an operation returns as resolved, or as superseded by a new one. -/
def resolvedBy (s : AlertStore) : Operation → Option Alert
  | .createAnomaly rule source anomaly metrics id now later =>
    (s.createAnomaly rule source anomaly metrics id now later).2.1
  | .resolve name reason now => (s.resolve? name reason now).map Prod.fst
  | .resolveRule ruleId reason now => (s.resolveRule? ruleId reason now).map Prod.fst
  | _ => none

/-- The alert that an operation returns as changed. -/
def updatedBy (s : AlertStore) : Operation → Option Alert
  | .acknowledge name now => (s.acknowledge? name now).map Prod.fst
  | .mergeAnnotations name fields => (s.mergeAnnotations? name fields).map Prod.fst
  | _ => none

/-- The id of a new alert is new: nothing is active under it, no active alert has it, and it is not
the id of the rule that the alert is kept under. -/
def Operation.IsFresh (s : AlertStore) : Operation → Prop
  | .create rule _ _ _ id _ => s.IsUnused id ∧ id ≠ rule.id
  | .createAnomaly _ _ _ _ id _ _ => s.IsUnused id
  | _ => True

/-- The store after one operation after another. -/
def run (s : AlertStore) (operations : List Operation) : AlertStore := operations.foldl after s

/-- Every generated id is new when it is generated. -/
def IsFreshRun : AlertStore → List Operation → Prop
  | _, [] => True
  | s, operation :: operations =>
    operation.IsFresh s ∧ IsFreshRun (s.after operation) operations

instance (s : AlertStore) : (operation : Operation) → Decidable (operation.IsFresh s)
  | .create .. => inferInstanceAs (Decidable (_ ∧ _))
  | .createAnomaly _ _ _ _ id _ _ => inferInstanceAs (Decidable (s.IsUnused id))
  | .resolve .. | .resolveRule .. | .acknowledge .. | .mergeAnnotations .. | .clear =>
    inferInstanceAs (Decidable True)

instance decidableIsFreshRun : (s : AlertStore) → (operations : List Operation) →
    Decidable (IsFreshRun s operations)
  | _, [] => inferInstanceAs (Decidable True)
  | s, operation :: operations =>
    have := decidableIsFreshRun (s.after operation) operations
    inferInstanceAs (Decidable (_ ∧ _))

variable {s s' : AlertStore} {rule : Rule} {source id : String} {metrics : Json} {now : Timestamp}

/-- A property of the store before a change that the change keeps. -/
theorem orSame_of {P : AlertStore → Prop} {changed : Option (Alert × AlertStore)} (h : P s)
    (step : ∀ a s', changed = some (a, s') → P s') : P (s.orSame changed) := by
  cases changed with
  | none => exact h
  | some result => exact step result.1 result.2 rfl

/-! What an operation can do. -/

/-- The events that tell which alert is new, which one is resolved and which one has changed. -/
def announcement (created resolved updated : Option Alert) : List Event :=
  created.toList.map .created ++ resolved.toList.map .resolved ++ updated.toList.map .updated

theorem edits_create {value : Float}
    (unused : ∀ a ∈ s.createdBy (.create rule source value metrics id now), s.IsUnused a.id) :
    Edits s (announcement (s.createdBy (.create rule source value metrics id now)) none none)
      (s.create rule source value metrics id now).2 := by
  simp only [createdBy] at unused ⊢
  generalize hResult : s.create rule source value metrics id now = result at unused ⊢
  obtain ⟨a | _, s'⟩ := result
  · have hUnused : s.IsUnused a.id := unused a rfl
    obtain ⟨rfl, -, -⟩ := opened_of_create hResult
    exact (opens_of_create hUnused.2 hResult).edit.edits
  · obtain rfl := eq_of_create hResult
    exact .none _

theorem edits_createAnomaly (h : s.Sound) {anomaly : Anomaly} {later : Timestamp} {a : Alert}
    {superseded : Option Alert} (unused : s.IsUnused id)
    (hResult : s.createAnomaly rule source anomaly metrics id now later = (a, superseded, s')) :
    Edits s (announcement (some a) superseded none) s' := by
  obtain ⟨rfl, hCases⟩ := createAnomaly_cases unused hResult
  have opens : s.Opens (Alert.ofAnomaly rule source anomaly metrics id now) _ :=
    opens_ofAnomaly unused
  have opening := opens.edit
  obtain ⟨-, rfl, rfl⟩ | ⟨key, old, -, rfl, hResolve⟩ := hCases
  · exact opening.edits
  · exact .next opening (edit_of_resolveKey? (h.edit opening).keys_nodup hResolve).edits

/-- Where there was a change, it was an edit, and else nothing has happened. -/
theorem edits_orSame {changed : Option (Alert × AlertStore)} {tell : Alert → Event}
    (step : ∀ a s', changed = some (a, s') → s.Edit (tell a) s') :
    Edits s ((changed.map Prod.fst).toList.map tell) (s.orSame changed) := by
  cases changed with
  | none => exact .none s
  | some result => exact (step result.1 result.2 rfl).edits

/-- Unless everything is cleared, an operation makes the edits that its results tell of. -/
theorem edits_announced (h : s.Sound) {operation : Operation}
    (unused : ∀ a ∈ s.createdBy operation, s.IsUnused a.id) (kept : operation ≠ .clear) :
    Edits s (announcement (s.createdBy operation) (s.resolvedBy operation) (s.updatedBy operation))
      (s.after operation) := by
  have resolved {changed : Option (Alert × AlertStore)}
      (step : ∀ a s', changed = some (a, s') → s.Edit (.resolved a) s') :
      Edits s (announcement none (changed.map Prod.fst) none) (s.orSame changed) := by
    simpa [announcement] using edits_orSame step
  have updated {changed : Option (Alert × AlertStore)}
      (step : ∀ a s', changed = some (a, s') → s.Edit (.updated a) s') :
      Edits s (announcement none none (changed.map Prod.fst)) (s.orSame changed) :=
    edits_orSame step
  cases operation with
  | create => exact edits_create unused
  | createAnomaly =>
    have hUnused := unused _ rfl
    rw [createAnomaly_fst] at hUnused
    exact edits_createAnomaly h hUnused rfl
  | resolve => exact resolved fun _ _ e => edit_of_resolve? h.keys_nodup e
  | resolveRule => exact resolved fun _ _ e => edit_of_resolveRule? h.keys_nodup e
  | acknowledge => exact updated fun _ _ e => edit_of_acknowledge? e
  | mergeAnnotations => exact updated fun _ _ e => edit_of_mergeAnnotations? e
  | clear => exact absurd rfl kept

theorem edits_after (h : s.Sound) {operation : Operation}
    (unused : ∀ a ∈ s.createdBy operation, s.IsUnused a.id) :
    operation = .clear ∨ ∃ updated,
      Edits s (announcement (s.createdBy operation) (s.resolvedBy operation) updated)
        (s.after operation) := by
  by_cases clears : operation = .clear
  · exact .inl clears
  · exact .inr ⟨_, edits_announced h unused clears⟩

/-- An id that is new is unused by the alert that gets it. -/
theorem Operation.IsFresh.unused {operation : Operation} (fresh : operation.IsFresh s) :
    ∀ a ∈ s.createdBy operation, s.IsUnused a.id := by
  intro a ha
  cases operation with
  | create rule source value metrics id now =>
    simp only [createdBy] at ha
    generalize hResult : s.create rule source value metrics id now = result at ha
    obtain ⟨b | _, s'⟩ := result
    · obtain ⟨rfl, -, -⟩ := opened_of_create hResult
      cases ha
      exact fresh.1
    · cases ha
  | createAnomaly =>
    simp only [createdBy, createAnomaly_fst, Option.mem_some] at ha
    exact ha ▸ fresh
  | _ => cases ha

theorem Sound.clear (h : s.Sound) : s.clear.Sound := sound_of_no_alerts h.limits_pos rfl rfl

theorem Sound.after (h : s.Sound) {operation : Operation} (fresh : operation.IsFresh s) :
    (s.after operation).Sound := by
  obtain rfl | ⟨updated, edits⟩ := edits_after h fresh.unused
  · exact h.clear
  · exact h.edits edits

theorem limits_after (h : s.Sound) {operation : Operation} (fresh : operation.IsFresh s) :
    (s.after operation).historyLimit = s.historyLimit ∧
      (s.after operation).anomalyLimit = s.anomalyLimit := by
  obtain rfl | ⟨updated, edits⟩ := edits_after h fresh.unused
  · exact ⟨rfl, rfl⟩
  · exact edits.limits

/-! The limit on anomaly alerts. -/

/-- The alert of a condition is kept under the id of its rule, and so is no anomaly alert. -/
theorem Capped.create (h : s.Capped) {value : Float} (other : id ≠ rule.id) :
    (s.create rule source value metrics id now).2.Capped := by
  generalize hResult : s.create rule source value metrics id now = result
  obtain ⟨_ | _, s'⟩ := result
  · obtain ⟨rfl, -, rfl⟩ := opened_of_create hResult
    intro ruleId
    have hKey : (rule.id == (Alert.ofRule rule source value metrics id now).id) = false :=
      beq_eq_false_iff_ne.mpr (Ne.symm other)
    rw [length_anomalyAlerts_opened, hKey, Bool.and_false]
    exact h ruleId
  · exact eq_of_create hResult ▸ h

theorem length_of_resolveKey?_surplus (sound : s.Sound) {ruleId key reason : String} {a : Alert}
    (surplus : s.surplusAnomaly? ruleId = some key)
    (h : s.resolveKey? key reason now = some (a, s')) :
    (s'.anomalyAlerts ruleId).length + 1 = (s.anomalyAlerts ruleId).length := by
  obtain ⟨before, old, after, split, hOld, -, rfl, rfl, rfl⟩ :=
    split_of_surplusAnomaly? sound surplus h
  have hRule := (mem_anomalyAlerts_iff.mp hOld).2
  rw [length_anomalyAlerts, length_anomalyAlerts, split, List.countP_append, List.countP_cons]
  show (before ++ after).countP _ + 1 = _
  simp only [List.countP_append, hRule, beq_self_eq_true, Bool.and_self, if_true]
  omega

/-- Only the rule of the new alert can have had one too many, until the earliest has left. -/
theorem Capped.createAnomaly (h : s.Capped) (sound : s.Sound) {anomaly : Anomaly}
    {later : Timestamp} (unused : s.IsUnused id) :
    (s.createAnomaly rule source anomaly metrics id now later).2.2.Capped := by
  generalize hResult : s.createAnomaly rule source anomaly metrics id now later = result
  obtain ⟨a, superseded, s'⟩ := result
  obtain ⟨hAlert, hCases⟩ := createAnomaly_cases unused hResult
  have middle : (s.opened id a).Sound := hAlert ▸ sound.edit (opens_ofAnomaly unused).edit
  have hRule : a.ruleId = rule.id := hAlert ▸ rfl
  intro ruleId
  show (s'.anomalyAlerts ruleId).length ≤ s'.anomalyLimit
  have hCap := h ruleId
  have hCount := length_anomalyAlerts_opened s id a ruleId
  rw [hRule] at hCount
  obtain ⟨hNone, -, rfl⟩ | ⟨key, old, hSome, -, hResolve⟩ := hCases
  · show _ ≤ s.anomalyLimit
    by_cases same : rule.id = ruleId
    · exact same ▸ length_le_of_surplusAnomaly? hNone
    · rw [hCount, beq_eq_false_iff_ne.mpr same]
      exact hCap
  · have edit := edit_of_resolveKey? middle.keys_nodup hResolve
    rw [edit.limits.2]
    show _ ≤ s.anomalyLimit
    by_cases same : rule.id = ruleId
    · have hLess := length_of_resolveKey?_surplus middle hSome hResolve
      rw [same] at hLess
      split at hCount <;> omega
    · have hLess := length_anomalyAlerts_resolved edit ruleId
      rw [hCount, beq_eq_false_iff_ne.mpr same] at hLess
      exact Nat.le_trans hLess hCap

theorem Capped.after (h : s.Capped) (sound : s.Sound) {operation : Operation}
    (fresh : operation.IsFresh s) : (s.after operation).Capped := by
  cases operation with
  | create => exact h.create fresh.2
  | createAnomaly => exact h.createAnomaly sound fresh
  | resolve => exact orSame_of h fun _ _ e => h.resolved (edit_of_resolve? sound.keys_nodup e)
  | resolveRule =>
    exact orSame_of h fun _ _ e => h.resolved (edit_of_resolveRule? sound.keys_nodup e)
  | acknowledge => exact orSame_of h fun _ _ e => h.updated (edit_of_acknowledge? e)
  | mergeAnnotations => exact orSame_of h fun _ _ e => h.updated (edit_of_mergeAnnotations? e)
  | clear => exact fun _ => Nat.zero_le _

/-- What a sequence of operations keeps, from what each of them keeps. -/
theorem run_of_after {P : AlertStore → Prop}
    (step : ∀ {s operation}, P s → operation.IsFresh s → P (s.after operation)) (h : P s)
    {operations : List Operation} (fresh : IsFreshRun s operations) : P (s.run operations) := by
  induction operations generalizing s with
  | nil => exact h
  | cons operation operations ih => exact ih (step h fresh.1) fresh.2

theorem run_append (s : AlertStore) (operations more : List Operation) :
    s.run (operations ++ more) = (s.run operations).run more :=
  List.foldl_append

theorem isFreshRun_append {operations more : List Operation} :
    IsFreshRun s (operations ++ more) ↔
      IsFreshRun s operations ∧ IsFreshRun (s.run operations) more := by
  induction operations generalizing s with
  | nil => exact ⟨fun h => ⟨trivial, h⟩, And.right⟩
  | cons operation operations ih =>
    rw [List.cons_append, IsFreshRun, ih, IsFreshRun, and_assoc]
    rfl

/-- At most one entry stands under a key. -/
theorem Sound.length_filter_le (h : s.Sound) (key : String) :
    (s.active.filter fun e => e.1 == key).length ≤ 1 := by
  rw [← List.countP_eq_length_filter]
  calc s.active.countP (fun e => e.1 == key) = (keys s.active).count key := by
        rw [keys, List.count, List.countP_map]
        rfl
    _ ≤ 1 := List.nodup_iff_count.mp h.keys_nodup key

/-- Every state that operations lead to from the empty store is sound: keys and ids are distinct,
active alerts are open, and the history holds firing and resolved copies. Of the alerts of a rule
at most one is kept under the id of the rule, and at most `anomalyLimit` (or one) under their
own. -/
theorem sound_run (historyLimit anomalyLimit : Nat) {operations : List Operation}
    (fresh : IsFreshRun (empty historyLimit anomalyLimit) operations) :
    let s := (empty historyLimit anomalyLimit).run operations
    s.Sound ∧ s.history.length ≤ max 1 historyLimit ∧
      ∀ ruleId, (s.active.filter fun e => e.1 == ruleId).length ≤ 1 ∧
        (s.anomalyAlerts ruleId).length ≤ max 1 anomalyLimit := by
  obtain ⟨sound, capped, hHistory, hAnomaly⟩ := run_of_after
    (P := fun s => s.Sound ∧ s.Capped ∧ s.historyLimit = max historyLimit 1 ∧
      s.anomalyLimit = max anomalyLimit 1)
    (fun ⟨sound, capped, limits⟩ fresh => by
      obtain ⟨hHistory, hAnomaly⟩ := limits_after sound fresh
      rw [hHistory, hAnomaly]
      exact ⟨sound.after fresh, capped.after sound fresh, limits⟩)
    ⟨sound_empty .., fun _ => Nat.zero_le _, rfl, rfl⟩ fresh
  refine ⟨sound, ?_, fun ruleId => ⟨sound.length_filter_le ruleId, ?_⟩⟩
  · rw [Nat.max_comm, ← hHistory]
    exact sound.length_history
  · rw [Nat.max_comm, ← hAnomaly]
    exact capped ruleId

/-- A rule under whose id an alert is kept beside two anomaly alerts. -/
def diskRule : Rule where
  id := "disk"
  name := "Disk"
  description := "Disks of all nodes"
  source := Rule.allSources
  severity := .warning
  enabled := true
  labels := .empty
  annotations := .empty
  kind := .anomaly none .warning

/-- The second anomaly alert takes the place of the first. -/
def diskOperations : List Operation :=
  let anomaly : Anomaly := ⟨none, none, .error, "slow", none⟩
  [.createAnomaly diskRule "node" anomaly .null "first" ⟨1, 0⟩ ⟨1, 0⟩,
    .createAnomaly diskRule "node" anomaly .null "second" ⟨2, 0⟩ ⟨2, 0⟩,
    .create diskRule "node" 1.0 .null "third" ⟨3, 0⟩,
    .acknowledge "disk" ⟨4, 0⟩,
    .mergeAnnotations "second" .empty,
    .resolveRule "disk" "done" ⟨5, 0⟩]

theorem sound_run_diskOperations :
    IsFreshRun (empty 2 1) diskOperations ∧
      ((empty 2 1).run diskOperations).Sound ∧
      ((empty 2 1).run diskOperations).history.length ≤ 2 ∧
      (((empty 2 1).run diskOperations).anomalyAlerts "disk").length ≤ 1 := by
  have fresh : IsFreshRun (empty 2 1) diskOperations := by decide
  obtain ⟨sound, hHistory, hRules⟩ := sound_run 2 1 fresh
  exact ⟨fresh, sound, hHistory, (hRules "disk").2⟩

end MetricAlerts.AlertStore
