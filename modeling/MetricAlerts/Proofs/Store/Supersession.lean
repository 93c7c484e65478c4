import MetricAlerts.Proofs.Store.Log

/-! Which anomaly alert makes way for a new one. Where every new alert starts after those that are
active, the active alerts are kept in the order in which they started, and the anomaly alerts of a
rule are the newest of those that it has had: `anomaliesOf_createAnomaly`. -/

namespace MetricAlerts

/-- Whether the alert is due to an anomaly that was found on behalf of a rule. -/
def Alert.isAnomalyOf (ruleId : String) (a : Alert) : Bool :=
  a.ruleId == ruleId && a.anomalyDetails.isSome

namespace AlertStore

/-- The active alerts that are due to anomalies of a rule. -/
def anomaliesOf (s : AlertStore) (ruleId : String) : List Alert :=
  (s.active.map Prod.snd).filter (Alert.isAnomalyOf ruleId)

/-- When the active alerts have started. -/
def starts (s : AlertStore) : List Timestamp := s.active.map fun e => e.2.startsAt

/-- Every alert is kept under its key, which is its own id only if the alert is for an anomaly, and
has started after those that are kept before it. -/
structure Chronological (s : AlertStore) : Prop where
  filed : s.Filed
  apart : ∀ e ∈ s.active, e.2.anomalyDetails = none → e.2.id ≠ e.2.ruleId
  sorted : s.starts.Pairwise (· < ·)

/-- A new alert starts after those that are active. -/
def Operation.IsTimely (s : AlertStore) (operation : Operation) : Prop :=
  ∀ a ∈ s.createdBy operation, ∀ e ∈ s.active, e.2.startsAt < a.startsAt

/-- Every alert starts after those that are active when it is created. -/
def IsTimelyRun : AlertStore → List Operation → Prop
  | _, [] => True
  | s, operation :: operations =>
    operation.IsTimely s ∧ IsTimelyRun (s.after operation) operations

instance (s : AlertStore) (operation : Operation) : Decidable (operation.IsTimely s) :=
  inferInstanceAs (Decidable (∀ a ∈ s.createdBy operation, _))

instance decidableIsTimelyRun : (s : AlertStore) → (operations : List Operation) →
    Decidable (IsTimelyRun s operations)
  | _, [] => inferInstanceAs (Decidable True)
  | s, operation :: operations =>
    have := decidableIsTimelyRun (s.after operation) operations
    inferInstanceAs (Decidable (_ ∧ _))

variable {s s' : AlertStore} {a : Alert} {rule : Rule} {source id ruleId : String} {metrics : Json}
  {anomaly : Anomaly} {now later : Timestamp}

theorem isTimely_createAnomaly_iff :
    (Operation.createAnomaly rule source anomaly metrics id now later).IsTimely s ↔
      ∀ e ∈ s.active, e.2.startsAt < now := by
  simp only [Operation.IsTimely, createdBy, createAnomaly_fst, Option.mem_some,
    forall_eq']
  rfl

/-! ### The order of the active alerts -/

theorem Revision.startsAt {old new : Alert} (h : Revision old new) :
    new.startsAt = old.startsAt := by
  cases h
  · unfold acknowledgedCopy
    split <;> rfl
  · rfl

theorem chronological_of_no_alerts (active : s.active = []) : s.Chronological := by
  refine ⟨?_, ?_, ?_⟩ <;> simp [Filed, starts, active]

theorem Chronological.opens (h : s.Chronological) (opens : s.Opens a s')
    (apart : a.anomalyDetails = none → a.id ≠ a.ruleId)
    (latest : ∀ e ∈ s.active, e.2.startsAt < a.startsAt) : s'.Chronological where
  filed := h.filed.opens opens
  apart e he := by
    rw [opens.eq] at he
    rcases List.mem_append.mp he with he | he
    · exact h.apart e he
    · rw [List.mem_singleton.mp he]
      exact apart
  sorted := by
    rw [opens.eq]
    show ((s.active ++ [(a.key, a)]).map _).Pairwise _
    rw [List.map_append, List.pairwise_append]
    refine ⟨h.sorted, List.pairwise_singleton _ _, fun t ht u hu => ?_⟩
    obtain ⟨e, he, rfl⟩ := List.mem_map.mp ht
    rw [List.mem_singleton.mp hu]
    exact latest e he

theorem Chronological.updated (h : s.Chronological) (edit : s.Edit (.updated a) s') :
    s'.Chronological where
  filed := h.filed.updated edit
  apart e he := by
    cases edit with
    | @changed before after key old new split revision =>
      simp only [List.mem_append, List.mem_cons] at he
      rcases he with he | rfl | he
      · exact h.apart e (by simp [split, he])
      · rw [revision.anomalyDetails, revision.id, revision.ruleId]
        exact h.apart (key, old) (by simp [split])
      · exact h.apart e (by simp [split, he])
  sorted := by
    cases edit with
    | @changed before after key old new split revision =>
      have hStarts := h.sorted
      rw [starts, split] at hStarts
      simpa [starts, revision.startsAt] using hStarts

theorem Chronological.resolved (h : s.Chronological) (edit : s.Edit (.resolved a) s') :
    s'.Chronological where
  filed := h.filed.resolved edit
  apart e he := by
    cases edit with
    | @closed before after key old split reason now =>
      rcases List.mem_append.mp he with he | he
      · exact h.apart e (by simp [split, he])
      · exact h.apart e (by simp [split, he])
  sorted := by
    cases edit with
    | @closed before after key old split reason now =>
      have part : (before ++ after).Sublist s.active :=
        split ▸ List.Sublist.append_left (List.sublist_cons_self _ _) _
      exact h.sorted.sublist (part.map _)

theorem Chronological.createAnomaly (h : s.Chronological) (sound : s.Sound)
    (unused : s.IsUnused id) (latest : ∀ e ∈ s.active, e.2.startsAt < now) :
    (s.createAnomaly rule source anomaly metrics id now later).2.2.Chronological := by
  have opens : s.Opens (Alert.ofAnomaly rule source anomaly metrics id now) _ :=
    opens_ofAnomaly unused
  have middle := h.opens opens (fun none => nomatch none) latest
  generalize hResult : s.createAnomaly rule source anomaly metrics id now later = result
  obtain ⟨a, superseded, s'⟩ := result
  obtain ⟨rfl, ⟨-, -, rfl⟩ | ⟨key, old, -, -, hResolve⟩⟩ := createAnomaly_cases unused hResult
  · exact middle
  · exact middle.resolved (edit_of_resolveKey? (sound.edit opens.edit).keys_nodup hResolve)

theorem Chronological.create (h : s.Chronological) {value : Float}
    (fresh : (Operation.create rule source value metrics id now).IsFresh s)
    (timely : (Operation.create rule source value metrics id now).IsTimely s) :
    (s.create rule source value metrics id now).2.Chronological := by
  generalize hResult : s.create rule source value metrics id now = result
  obtain ⟨a | _, s'⟩ := result
  · obtain ⟨rfl, -, -⟩ := opened_of_create hResult
    have latest := timely _ (by rw [createdBy, hResult]; rfl)
    exact h.opens (opens_of_create fresh.1.2 hResult) (fun _ => fresh.2) latest
  · exact eq_of_create hResult ▸ h

theorem Chronological.after (h : s.Chronological) (sound : s.Sound) {operation : Operation}
    (fresh : operation.IsFresh s) (timely : operation.IsTimely s) :
    (s.after operation).Chronological := by
  cases operation with
  | create => exact h.create fresh timely
  | createAnomaly rule source anomaly metrics id now later =>
    exact h.createAnomaly sound fresh (isTimely_createAnomaly_iff.mp timely)
  | resolve => exact orSame_of h fun _ _ e => h.resolved (edit_of_resolve? sound.keys_nodup e)
  | resolveRule =>
    exact orSame_of h fun _ _ e => h.resolved (edit_of_resolveRule? sound.keys_nodup e)
  | acknowledge => exact orSame_of h fun _ _ e => h.updated (edit_of_acknowledge? e)
  | mergeAnnotations => exact orSame_of h fun _ _ e => h.updated (edit_of_mergeAnnotations? e)
  | clear => exact chronological_of_no_alerts rfl

/-- A sound store in order, in which no rule has more anomaly alerts than allowed. -/
structure Orderly (s : AlertStore) : Prop where
  sound : s.Sound
  capped : s.Capped
  chronological : s.Chronological

theorem orderly_empty (historyLimit anomalyLimit : Nat) :
    (empty historyLimit anomalyLimit).Orderly where
  sound := sound_empty ..
  capped _ := Nat.zero_le _
  chronological := chronological_of_no_alerts rfl

theorem Orderly.after (h : s.Orderly) {operation : Operation} (fresh : operation.IsFresh s)
    (timely : operation.IsTimely s) : (s.after operation).Orderly where
  sound := h.sound.after fresh
  capped := h.capped.after h.sound fresh
  chronological := h.chronological.after h.sound fresh timely

theorem isTimelyRun_append {operations more : List Operation} :
    IsTimelyRun s (operations ++ more) ↔
      IsTimelyRun s operations ∧ IsTimelyRun (s.run operations) more := by
  induction operations generalizing s with
  | nil => exact ⟨fun h => ⟨trivial, h⟩, And.right⟩
  | cons operation operations ih =>
    rw [List.cons_append, IsTimelyRun, ih, IsTimelyRun, and_assoc]
    rfl

theorem Orderly.run (h : s.Orderly) {operations : List Operation}
    (fresh : IsFreshRun s operations) (timely : IsTimelyRun s operations) :
    (s.run operations).Orderly ∧ (s.run operations).anomalyLimit = s.anomalyLimit := by
  induction operations generalizing s with
  | nil => exact ⟨h, rfl⟩
  | cons operation operations ih =>
    obtain ⟨orderly, hLimit⟩ := ih (h.after fresh.1 timely.1) fresh.2 timely.2
    exact ⟨orderly, hLimit.trans (limits_after h.sound fresh.1).2⟩

/-! ### The alert that makes way -/

/-- The alerts under their own ids are those for anomalies. -/
theorem Chronological.none_iff (h : s.Chronological) {e : String × Alert} (he : e ∈ s.active) :
    e.2.anomalyDetails = none ↔ e.1 = e.2.ruleId ∧ e.1 ≠ e.2.id := by
  have hKey := h.filed e he
  rw [Alert.key] at hKey
  constructor
  · intro hNone
    rw [hNone, Option.isSome_none, if_neg Bool.false_ne_true] at hKey
    exact ⟨hKey, hKey ▸ (h.apart e he hNone).symm⟩
  · rintro ⟨-, other⟩
    split at hKey
    · exact absurd hKey other
    · next hNone => exact Option.not_isSome_iff_eq_none.mp hNone

/-- The anomaly alerts of a rule can be told by their keys. -/
theorem Chronological.anomalyAlerts_eq (h : s.Chronological) (ruleId : String) :
    s.anomalyAlerts ruleId = s.anomaliesOf ruleId := by
  rw [anomalyAlerts, anomaliesOf, List.filter_map]
  refine congrArg (List.map Prod.snd) (List.filter_congr fun e he => ?_)
  show _ = (e.2.ruleId == ruleId && e.2.anomalyDetails.isSome)
  congr 1
  rw [Bool.eq_iff_iff, beq_iff_eq, Option.isSome_iff_ne_none, ne_eq, h.none_iff he]
  constructor
  · exact fun own other => other.2 own
  · intro same
    by_cases own : e.1 = e.2.id
    · exact own
    · exact absurd ⟨(h.filed e he).trans (e.2.key_eq.resolve_right fun hId =>
        own ((h.filed e he).trans hId)), own⟩ same

theorem anomaliesOf_opened (s : AlertStore) (key : String) (a : Alert) (ruleId : String) :
    (s.opened key a).anomaliesOf ruleId =
      s.anomaliesOf ruleId ++ [a].filter (Alert.isAnomalyOf ruleId) := by
  show ((s.active ++ [(key, a)]).map Prod.snd).filter _ = _
  rw [List.map_append, List.filter_append]
  rfl

theorem filter_ofAnomaly :
    [Alert.ofAnomaly rule source anomaly metrics id now].filter (Alert.isAnomalyOf rule.id) =
      [Alert.ofAnomaly rule source anomaly metrics id now] :=
  List.filter_cons_of_pos (by simp [Alert.isAnomalyOf, Alert.ofAnomaly, Alert.firing])

theorem Chronological.pairwise_anomaliesOf (h : s.Chronological) (ruleId : String) :
    (s.anomaliesOf ruleId).Pairwise fun a b => a.startsAt < b.startsAt := by
  have hStarts : s.starts = (s.active.map Prod.snd).map Alert.startsAt := by
    rw [starts, List.map_map]
    rfl
  have hSorted := h.sorted
  rw [hStarts, List.pairwise_map] at hSorted
  exact hSorted.filter _

theorem mem_anomaliesOf_iff : a ∈ s.anomaliesOf ruleId ↔
    (∃ e ∈ s.active, e.2 = a) ∧ a.isAnomalyOf ruleId = true := by
  rw [anomaliesOf, List.mem_filter, List.mem_map]

theorem anomaliesOf_of_split {before after : List (String × Alert)} {key : String} {old : Alert}
    (split : s.active = before ++ (key, old) :: after)
    (first : (before.map Prod.snd).filter (Alert.isAnomalyOf ruleId) = [])
    (ofRule : old.isAnomalyOf ruleId = true) :
    s.anomaliesOf ruleId = old :: (after.map Prod.snd).filter (Alert.isAnomalyOf ruleId) := by
  rw [anomaliesOf, split, List.map_append, List.filter_append, first, List.nil_append,
    List.map_cons, List.filter_cons_of_pos ofRule]

/-- An entry other than the last one stands before it. -/
theorem split_before_last {α : Type} {entries before rest : List α} {entry last : α}
    (split : entries ++ [last] = before ++ entry :: rest) (other : entry ≠ last) :
    ∃ after, rest = after ++ [last] ∧ entries = before ++ entry :: after := by
  obtain rfl | ⟨after, end_, rfl⟩ := List.eq_nil_or_concat rest
  · have hLast := (List.append_inj' split rfl).2
    exact absurd (List.singleton_inj.mp hLast).symm other
  · rw [List.concat_eq_append] at split ⊢
    rw [← List.cons_append, ← List.append_assoc] at split
    obtain ⟨hEntries, hLast⟩ := List.append_inj' split rfl
    exact ⟨after, by rw [hLast], hEntries⟩

theorem Orderly.length_anomaliesOf_le (h : s.Orderly) (ruleId : String) :
    (s.anomaliesOf ruleId).length ≤ s.anomalyLimit :=
  h.chronological.anomalyAlerts_eq ruleId ▸ h.capped ruleId

/-- A new anomaly alert is opened, as the last one. If the rule has as many as allowed, the first of
them leaves, since it has started before the others. -/
theorem Orderly.createAnomaly_cases (h : s.Orderly) (unused : s.IsUnused id)
    (latest : ∀ e ∈ s.active, e.2.startsAt < now) (rule : Rule) (source : String)
    (anomaly : Anomaly) (metrics : Json) (later : Timestamp) :
    let new := Alert.ofAnomaly rule source anomaly metrics id now
    (s.anomaliesOf rule.id).length < s.anomalyLimit ∧
        s.createAnomaly rule source anomaly metrics id now later = (new, none, s.opened id new) ∨
      ∃ before old after, s.active = before ++ (old.id, old) :: after ∧
        (s.anomaliesOf rule.id).length = s.anomalyLimit ∧
        (before.map Prod.snd).filter (Alert.isAnomalyOf rule.id) = [] ∧
        old.isAnomalyOf rule.id = true ∧
        s.createAnomaly rule source anomaly metrics id now later =
          (new, some (resolvedCopy old supersededReason later),
            (s.opened id new).closed (before ++ after ++ [(id, new)])
              (resolvedCopy old supersededReason later)) := by
  intro new
  have opens : s.Opens new (s.opened id new) := opens_ofAnomaly unused
  have sound := h.sound.edit opens.edit
  have middle := h.chronological.opens opens (fun none => nomatch none) latest
  have hAmong : (s.opened id new).anomaliesOf rule.id = s.anomaliesOf rule.id ++ [new] := by
    rw [anomaliesOf_opened, filter_ofAnomaly]
  generalize hResult : s.createAnomaly rule source anomaly metrics id now later = result
  obtain ⟨a, superseded, s'⟩ := result
  obtain ⟨rfl, ⟨hNone, rfl, rfl⟩ | ⟨key, a, hSome, rfl, hResolve⟩⟩ :=
    AlertStore.createAnomaly_cases unused hResult
  · have hLength := length_le_of_surplusAnomaly? hNone
    rw [middle.anomalyAlerts_eq, hAmong, List.length_append] at hLength
    exact .inl ⟨hLength, rfl⟩
  · have hLength := lt_length_of_surplusAnomaly? hSome
    rw [middle.anomalyAlerts_eq, hAmong, List.length_append] at hLength
    have hNew : key ≠ id := ne_of_surplusAnomaly? (a := new) sound latest hSome
    obtain ⟨before, old, rest, split, hOld, hEarliest, rfl, rfl, rfl⟩ :=
      split_of_surplusAnomaly? sound hSome hResolve
    obtain ⟨after, rfl, hActive⟩ : ∃ after, rest = after ++ [(id, new)] ∧
        s.active = before ++ (old.id, old) :: after :=
      split_before_last split fun same => hNew (congrArg Prod.fst same)
    have hBefore : (before.map Prod.snd).filter (Alert.isAnomalyOf rule.id) = [] := by
      refine List.filter_eq_nil_iff.mpr fun b hb ofRule => ?_
      obtain ⟨e, he, rfl⟩ := List.mem_map.mp hb
      have hSorted := h.chronological.sorted
      rw [starts, hActive, List.map_append, List.pairwise_append] at hSorted
      have earlier : e.2.startsAt < old.startsAt :=
        hSorted.2.2 _ (List.mem_map_of_mem he) _ List.mem_cons_self
      refine not_lt_of_earliest? hEarliest ?_ earlier
      rw [middle.anomalyAlerts_eq, mem_anomaliesOf_iff, split]
      exact ⟨⟨e, List.mem_append_left _ he, rfl⟩, ofRule⟩
    have ofRule : old.isAnomalyOf rule.id = true := by
      rw [middle.anomalyAlerts_eq] at hOld
      exact (mem_anomaliesOf_iff.mp hOld).2
    have hCap := h.length_anomaliesOf_le rule.id
    refine .inr ⟨before, old, after, hActive, Nat.le_antisymm hCap (Nat.le_of_lt_succ hLength),
      hBefore, ofRule, ?_⟩
    rw [List.append_assoc]

/-- The anomaly alerts of a rule are then the newest of the old ones and the new one together. -/
theorem Orderly.anomaliesOf_createAnomaly (h : s.Orderly) (unused : s.IsUnused id)
    (latest : ∀ e ∈ s.active, e.2.startsAt < now) :
    (s.createAnomaly rule source anomaly metrics id now later).2.2.anomaliesOf rule.id =
      lastEntries s.anomalyLimit
        (s.anomaliesOf rule.id ++ [Alert.ofAnomaly rule source anomaly metrics id now]) := by
  obtain ⟨less, eq⟩ | ⟨before, old, after, split, full, first, ofRule, eq⟩ :=
    h.createAnomaly_cases unused latest rule source anomaly metrics later
  · have room : (s.anomaliesOf rule.id ++
        [Alert.ofAnomaly rule source anomaly metrics id now]).length ≤ s.anomalyLimit := by
      rw [List.length_append, List.length_singleton]
      exact less
    rw [eq, anomaliesOf_opened, filter_ofAnomaly, lastEntries, Nat.sub_eq_zero_of_le room,
      List.drop_zero]
  · have hLength : (s.anomaliesOf rule.id ++
        [Alert.ofAnomaly rule source anomaly metrics id now]).length - s.anomalyLimit = 1 := by
      rw [List.length_append, List.length_singleton, full, Nat.add_sub_cancel_left]
    rw [lastEntries, hLength, anomaliesOf_of_split split first ofRule, eq]
    show ((before ++ after ++ [(id, _)]).map Prod.snd).filter _ = _
    rw [List.map_append, List.map_append, List.filter_append, List.filter_append, first]
    exact congrArg _ filter_ofAnomaly

/-- The first anomaly alert of a rule has started before its other ones. -/
theorem Chronological.startsAt_lt (h : s.Chronological) {old other : Alert} {rest : List Alert}
    (first : s.anomaliesOf ruleId = old :: rest) (mem : other ∈ s.anomaliesOf ruleId)
    (ne : other ≠ old) : old.startsAt < other.startsAt := by
  have hPairwise := h.pairwise_anomaliesOf ruleId
  rw [first] at hPairwise mem
  exact (List.pairwise_cons.mp hPairwise).1 other ((List.mem_cons.mp mem).resolve_left ne)

/-- What stays where an anomaly alert of a rule leaves. -/
theorem mem_of_split {before after : List (String × Alert)} {old : Alert}
    (split : s.active = before ++ (old.id, old) :: after)
    (ofRule : old.isAnomalyOf ruleId = true) {e : String × Alert} (he : e ∈ s.active)
    (kept : e.2.ruleId ≠ ruleId ∨ e.1 ≠ e.2.id) : e ∈ before ++ after := by
  rw [Alert.isAnomalyOf, Bool.and_eq_true, beq_iff_eq] at ofRule
  rw [split, List.mem_append, List.mem_cons] at he
  rcases he with he | rfl | he
  · exact List.mem_append_left _ he
  · exact absurd kept (by simp [ofRule.1])
  · exact List.mem_append_right _ he

/-- The key of an entry that has left is not used again at once. -/
theorem notMem_keys_of_split {before after : List (String × Alert)} {key : String} {old : Alert}
    (new : Alert) (distinct : (keys s.active).Nodup) (unused : id ∉ keys s.active)
    (split : s.active = before ++ (key, old) :: after) :
    key ≠ id ∧ key ∉ keys (before ++ after ++ [(id, new)]) := by
  rw [split, keys_append, keys_cons, List.nodup_append, List.nodup_cons] at distinct
  rw [split, keys_append, keys_cons, List.mem_append, List.mem_cons, not_or, not_or] at unused
  have other : key ≠ id := Ne.symm unused.2.1
  simp only [keys_append, keys_cons, keys_nil, List.mem_append, List.mem_singleton, not_or]
  exact ⟨other, ⟨fun hMem => distinct.2.2 _ hMem _ List.mem_cons_self rfl, distinct.2.1.1⟩, other⟩

/-- A new anomaly alert is active, and supersedes another one exactly when its rule has as many of
them as allowed. -/
theorem Orderly.superseded_iff (h : s.Orderly) (unused : s.IsUnused id)
    (latest : ∀ e ∈ s.active, e.2.startsAt < now) {new : Alert} {superseded : Option Alert}
    (hResult : s.createAnomaly rule source anomaly metrics id now later = (new, superseded, s')) :
    (id, new) ∈ s'.active ∧ (s.anomaliesOf rule.id).length ≤ s.anomalyLimit ∧
      (superseded.isSome = true ↔ (s.anomaliesOf rule.id).length = s.anomalyLimit) ∧
      (superseded = none → s'.active = s.active ++ [(id, new)]) ∧
      (∀ resolved, superseded = some resolved → ∃ before old after,
        s.active = before ++ (old.id, old) :: after ∧ s'.active = before ++ after ++ [(id, new)] ∧
          old ∈ s.anomaliesOf rule.id ∧
          (∀ other ∈ s.anomaliesOf rule.id, other ≠ old → old.startsAt < other.startsAt) ∧
          old.id ≠ id ∧ old.id ∉ keys s'.active ∧
          resolved = resolvedCopy old supersededReason later) ∧
      ∀ e ∈ s.active, e.2.ruleId ≠ rule.id ∨ e.1 ≠ e.2.id → e ∈ s'.active := by
  obtain ⟨less, eq⟩ | ⟨before, old, after, split, full, first, ofRule, eq⟩ :=
    h.createAnomaly_cases unused latest rule source anomaly metrics later
  · cases hResult.symm.trans eq
    refine ⟨List.mem_append_right _ List.mem_cons_self, Nat.le_of_lt less, ?_, fun _ => rfl, ?_,
      fun e he _ => List.mem_append_left _ he⟩
    · constructor
      · intro none
        cases none
      · intro full
        exact absurd full (Nat.ne_of_lt less)
    · intro resolved none
      cases none
  · cases hResult.symm.trans eq
    have hOlds := anomaliesOf_of_split split first ofRule
    obtain ⟨other, left⟩ := notMem_keys_of_split
      (Alert.ofAnomaly rule source anomaly metrics id now) h.sound.keys_nodup unused.1 split
    refine ⟨List.mem_append_right _ List.mem_cons_self, Nat.le_of_eq full,
      ⟨fun _ => full, fun _ => rfl⟩, ?_, ?_,
      fun e he kept => List.mem_append_left _ (mem_of_split split ofRule he kept)⟩
    · intro none
      cases none
    · intro resolved hResolved
      cases hResolved
      exact ⟨before, old, after, split, rfl, hOlds ▸ List.mem_cons_self,
        fun _ mem ne => h.chronological.startsAt_lt hOlds mem ne, other, left, rfl⟩

/-- Whatever has been done to the store, a new anomaly alert is active, and it supersedes another
one exactly when its rule had as many of them as allowed, which is never exceeded. The superseded
one is the earliest of them: it is resolved and has left, and every other alert stays as it was. In
particular those of other rules do, and those that are kept under the id of their rule, which are
the alerts that are not for anomalies. -/
theorem createAnomaly_supersedes (historyLimit anomalyLimit : Nat) {operations : List Operation}
    {rule : Rule} {source id : String} {anomaly : Anomaly} {metrics : Json} {now later : Timestamp}
    (fresh : IsFreshRun (empty historyLimit anomalyLimit)
      (operations ++ [.createAnomaly rule source anomaly metrics id now later]))
    (timely : IsTimelyRun (empty historyLimit anomalyLimit)
      (operations ++ [.createAnomaly rule source anomaly metrics id now later])) :
    let s := (empty historyLimit anomalyLimit).run operations
    let olds := s.anomaliesOf rule.id
    let result := s.createAnomaly rule source anomaly metrics id now later
    let new := result.1
    let superseded := result.2.1
    let s' := result.2.2
    new = Alert.ofAnomaly rule source anomaly metrics id now ∧ (id, new) ∈ s'.active ∧
      olds.length ≤ max 1 anomalyLimit ∧
      (superseded.isSome = true ↔ olds.length = max 1 anomalyLimit) ∧
      (superseded = none → s'.active = s.active ++ [(id, new)]) ∧
      (∀ resolved, superseded = some resolved → ∃ before old after,
        s.active = before ++ (old.id, old) :: after ∧ s'.active = before ++ after ++ [(id, new)] ∧
          old ∈ olds ∧ (∀ other ∈ olds, other ≠ old → old.startsAt < other.startsAt) ∧
          old.id ≠ id ∧ old.id ∉ keys s'.active ∧
          resolved = resolvedCopy old supersededReason later) ∧
      (∀ e ∈ s.active, e.2.ruleId ≠ rule.id ∨ e.1 ≠ e.2.id → e ∈ s'.active) ∧
      ∀ e ∈ s.active, e.2.anomalyDetails = none ↔ e.1 = e.2.ruleId ∧ e.1 ≠ e.2.id := by
  obtain ⟨freshRun, unused, -⟩ := isFreshRun_append.mp fresh
  obtain ⟨timelyRun, latest, -⟩ := isTimelyRun_append.mp timely
  obtain ⟨h, hLimit⟩ := (orderly_empty historyLimit anomalyLimit).run freshRun timelyRun
  replace hLimit := hLimit.trans (Nat.max_comm anomalyLimit 1)
  rw [← hLimit]
  obtain ⟨active, capped, full, opened, closed, kept⟩ :=
    h.superseded_iff unused (isTimely_createAnomaly_iff.mp latest) rfl
  exact ⟨createAnomaly_fst .., active, capped, full, opened, closed, kept,
    fun e he => h.chronological.none_iff he⟩

/-- Beside an alert that is kept under the id of the rule, one for an anomaly makes way. -/
theorem createAnomaly_supersedes_diskOperations :
    let operations := diskOperations.take 5
    let anomaly : Anomaly := ⟨none, none, .error, "slow", none⟩
    let s := (empty 2 1).run operations
    let result := s.createAnomaly diskRule "node" anomaly .null "fourth" ⟨5, 0⟩ ⟨6, 0⟩
    IsFreshRun (empty 2 1) (operations ++
        [.createAnomaly diskRule "node" anomaly .null "fourth" ⟨5, 0⟩ ⟨6, 0⟩]) ∧
      IsTimelyRun (empty 2 1) (operations ++
        [.createAnomaly diskRule "node" anomaly .null "fourth" ⟨5, 0⟩ ⟨6, 0⟩]) ∧
      result.2.1.isSome = true ∧ keys s.active = ["second", "disk"] ∧
      ∀ e ∈ s.active, e.2.ruleId ≠ "disk" ∨ e.1 ≠ e.2.id → e ∈ result.2.2.active := by
  intro operations anomaly s result
  have fresh : IsFreshRun (empty 2 1) (operations ++
      [.createAnomaly diskRule "node" anomaly .null "fourth" ⟨5, 0⟩ ⟨6, 0⟩]) := by decide
  have timely : IsTimelyRun (empty 2 1) (operations ++
      [.createAnomaly diskRule "node" anomaly .null "fourth" ⟨5, 0⟩ ⟨6, 0⟩]) := by decide
  obtain ⟨-, -, -, full, -, -, kept, -⟩ := createAnomaly_supersedes 2 1 fresh timely
  exact ⟨fresh, timely, full.mpr (by decide), by decide, kept⟩

end AlertStore

end MetricAlerts
