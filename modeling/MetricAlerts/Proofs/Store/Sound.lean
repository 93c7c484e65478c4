import MetricAlerts.Proofs.Store.Edit

/-! What holds of the store after any sequence of operations. `Sound` is kept by every edit.
The limit on the anomaly alerts of a rule is exceeded for a moment when a new one is opened, so it
is kept by operations only. -/

namespace MetricAlerts

namespace Alert

/-- An alert that is firing or acknowledged, with a time of acknowledgement in the second case. -/
structure IsOpen (a : Alert) : Prop where
  status : a.status = .firing ∨ a.status = .acknowledged
  acknowledgedAt : a.acknowledgedAt.isSome ↔ a.status = .acknowledged
  resolvedAt : a.resolvedAt = none
  resolutionReason : a.resolutionReason = none

/-- An alert as the history has it: firing, or resolved at some time for some reason. -/
def IsRecord (a : Alert) : Prop :=
  a.status = .firing ∧ a.resolvedAt = none ∧ a.resolutionReason = none ∨
    a.status = .resolved ∧ a.resolvedAt.isSome ∧ a.resolutionReason.isSome

theorem IsNew.isOpen {a : Alert} (h : a.IsNew) : a.IsOpen where
  status := .inl h.status
  acknowledgedAt := by simp [h.acknowledgedAt, h.status]
  resolvedAt := h.resolvedAt
  resolutionReason := h.resolutionReason

theorem IsNew.isRecord {a : Alert} (h : a.IsNew) : a.IsRecord :=
  .inl ⟨h.status, h.resolvedAt, h.resolutionReason⟩

end Alert

theorem length_lastEntries {α : Type} (n : Nat) (l : List α) :
    (lastEntries n l).length = min n l.length := by
  simp only [lastEntries, List.length_drop]
  omega

theorem length_lastEntries_le {α : Type} (n : Nat) (l : List α) : (lastEntries n l).length ≤ n := by
  rw [length_lastEntries]
  exact Nat.min_le_left _ _

namespace AlertStore

theorem isRecord_resolvedCopy (a : Alert) (reason : String) (now : Timestamp) :
    (resolvedCopy a reason now).IsRecord :=
  .inr ⟨rfl, rfl, rfl⟩

theorem Revision.isOpen {old new : Alert} (h : Revision old new) (isOpen : old.IsOpen) :
    new.IsOpen := by
  cases h with
  | acknowledged now =>
    unfold acknowledgedCopy
    split
    · exact isOpen
    · exact ⟨.inr rfl, by simp, isOpen.resolvedAt, isOpen.resolutionReason⟩
  | annotated fields =>
    exact ⟨isOpen.status, isOpen.acknowledgedAt, isOpen.resolvedAt, isOpen.resolutionReason⟩

/-- The ids of the active alerts. -/
def ids (s : AlertStore) : List String := s.active.map fun e => e.2.id

theorem ids_opened (s : AlertStore) (key : String) (alert : Alert) :
    (s.opened key alert).ids = s.ids ++ [alert.id] :=
  List.map_append

theorem ids_changed {s : AlertStore} {before after : List (String × Alert)} {key : String}
    {old new : Alert} (split : s.active = before ++ (key, old) :: after) (same : new.id = old.id) :
    ids { s with active := before ++ (key, new) :: after } = s.ids := by
  simp [ids, split, same]

/-- What holds of a store at any time. -/
structure Sound (s : AlertStore) : Prop where
  limits_pos : 0 < s.historyLimit ∧ 0 < s.anomalyLimit
  keys_nodup : (keys s.active).Nodup
  ids_nodup : s.ids.Nodup
  key_eq : ∀ e ∈ s.active, e.1 = e.2.ruleId ∨ e.1 = e.2.id
  isOpen : ∀ e ∈ s.active, e.2.IsOpen
  length_history : s.history.length ≤ s.historyLimit
  isRecord : ∀ a ∈ s.history, a.IsRecord

theorem sound_of_no_alerts {s : AlertStore} (limits : 0 < s.historyLimit ∧ 0 < s.anomalyLimit)
    (active : s.active = []) (history : s.history = []) : s.Sound := by
  refine ⟨limits, ?_, ?_, ?_, ?_, ?_, ?_⟩ <;> simp [ids, active, history]

theorem sound_empty (historyLimit anomalyLimit : Nat) : (empty historyLimit anomalyLimit).Sound :=
  sound_of_no_alerts ⟨Nat.le_max_right .., Nat.le_max_right ..⟩ rfl rfl

theorem mem_history_remember {s : AlertStore} {alert a : Alert}
    (h : a ∈ (s.remember alert).history) : a ∈ s.history ∨ a = alert :=
  (List.mem_append.mp (List.mem_of_mem_drop h)).imp_right List.mem_singleton.mp

theorem isRecord_remember {s : AlertStore} (h : ∀ a ∈ s.history, a.IsRecord) {alert : Alert}
    (isRecord : alert.IsRecord) : ∀ a ∈ (s.remember alert).history, a.IsRecord := by
  intro a ha
  obtain ha | rfl := mem_history_remember ha
  · exact h a ha
  · exact isRecord

theorem Edit.limits {s s' : AlertStore} {event : Event} (edit : s.Edit event s') :
    s'.historyLimit = s.historyLimit ∧ s'.anomalyLimit = s.anomalyLimit := by
  cases edit <;> exact ⟨rfl, rfl⟩

/-- Every edit keeps the store sound. -/
theorem Sound.edit {s s' : AlertStore} {event : Event} (h : s.Sound) (edit : s.Edit event s') :
    s'.Sound := by
  cases edit with
  | @opened key alert free unused name isNew =>
    have each : ∀ e ∈ s.active ++ [(key, alert)], e ∈ s.active ∨ e = (key, alert) := by simp
    refine ⟨h.limits_pos, ?_, ?_, ?_, ?_, length_lastEntries_le _ _,
      isRecord_remember h.isRecord isNew.isRecord⟩
    · show (keys (s.active ++ [(key, alert)])).Nodup
      rw [keys_append]
      refine List.nodup_append.mpr ⟨h.keys_nodup, by simp, ?_⟩
      rintro k hk k' hk' rfl
      obtain rfl : k = key := by simpa using hk'
      exact free hk
    · show ((s.active ++ [(key, alert)]).map fun e => e.2.id).Nodup
      rw [List.map_append]
      refine List.nodup_append.mpr ⟨h.ids_nodup, by simp, ?_⟩
      rintro id hId id' hId' rfl
      obtain ⟨e, he, rfl⟩ := List.mem_map.mp hId
      exact unused e he (by simpa using hId')
    · intro e he
      obtain he | rfl := each e he
      · exact h.key_eq e he
      · exact name
    · intro e he
      obtain he | rfl := each e he
      · exact h.isOpen e he
      · exact isNew.isOpen
  | @changed before after key old new split revision =>
    have hMem : (key, old) ∈ s.active := by simp [split]
    have each : ∀ e ∈ before ++ (key, new) :: after, e ∈ s.active ∨ e = (key, new) := by
      simp only [split, List.mem_append, List.mem_cons]
      grind
    have hKeys := h.keys_nodup
    have hIds := h.ids_nodup
    rw [split] at hKeys
    rw [ids, split] at hIds
    refine ⟨h.limits_pos, by simpa using hKeys, by simpa [ids, revision.id] using hIds, ?_, ?_,
      h.length_history, h.isRecord⟩
    · intro e he
      obtain he | rfl := each e he
      · exact h.key_eq e he
      · simpa [revision.id, revision.ruleId] using h.key_eq _ hMem
    · intro e he
      obtain he | rfl := each e he
      · exact h.isOpen e he
      · exact revision.isOpen (h.isOpen _ hMem)
  | @closed before after key old split reason now =>
    have part : (before ++ after).Sublist s.active :=
      split ▸ List.Sublist.append_left (List.sublist_cons_self _ _) _
    exact ⟨h.limits_pos, h.keys_nodup.sublist (part.map _), h.ids_nodup.sublist (part.map _),
      fun e he => h.key_eq e (part.subset he), fun e he => h.isOpen e (part.subset he),
      length_lastEntries_le _ _,
      isRecord_remember h.isRecord (isRecord_resolvedCopy old reason now)⟩

/-- Edits one after another, with the events that announce them. -/
inductive Edits : AlertStore → List Event → AlertStore → Prop
  | none (s : AlertStore) : Edits s [] s
  | next {s middle s' : AlertStore} {event : Event} {events : List Event}
      (edit : s.Edit event middle) (edits : Edits middle events s') : Edits s (event :: events) s'

theorem Edit.edits {s s' : AlertStore} {event : Event} (edit : s.Edit event s') :
    Edits s [event] s' :=
  .next edit (.none s')

theorem Sound.edits {s s' : AlertStore} {events : List Event} (h : s.Sound)
    (edits : Edits s events s') : s'.Sound := by
  induction edits with
  | none => exact h
  | next edit _ ih => exact ih (h.edit edit)

/-! The limit on the anomaly alerts of a rule. -/

theorem length_anomalyAlerts (s : AlertStore) (ruleId : String) :
    (s.anomalyAlerts ruleId).length =
      s.active.countP fun e => e.2.ruleId == ruleId && e.1 == e.2.id := by
  rw [anomalyAlerts, List.length_map, List.countP_eq_length_filter]

/-- No rule has more anomaly alerts than allowed. -/
def Capped (s : AlertStore) : Prop := ∀ ruleId, (s.anomalyAlerts ruleId).length ≤ s.anomalyLimit

theorem Edits.limits {s s' : AlertStore} {events : List Event} (edits : Edits s events s') :
    s'.historyLimit = s.historyLimit ∧ s'.anomalyLimit = s.anomalyLimit := by
  induction edits with
  | none => exact ⟨rfl, rfl⟩
  | next edit _ ih => exact ⟨ih.1.trans edit.limits.1, ih.2.trans edit.limits.2⟩

/-- Only a new alert that is kept under its own id adds to the anomaly alerts. -/
theorem length_anomalyAlerts_opened (s : AlertStore) (key : String) (alert : Alert)
    (ruleId : String) :
    ((s.opened key alert).anomalyAlerts ruleId).length =
      (s.anomalyAlerts ruleId).length +
        if alert.ruleId == ruleId && key == alert.id then 1 else 0 := by
  simp only [length_anomalyAlerts]
  show (s.active ++ [(key, alert)]).countP _ = _
  rw [List.countP_append, List.countP_singleton]

theorem length_anomalyAlerts_updated {s s' : AlertStore} {a : Alert} (edit : s.Edit (.updated a) s')
    (ruleId : String) : (s'.anomalyAlerts ruleId).length = (s.anomalyAlerts ruleId).length := by
  cases edit with
  | changed split revision =>
    simp only [length_anomalyAlerts, split, List.countP_append, List.countP_cons, revision.id,
      revision.ruleId]

theorem length_anomalyAlerts_resolved {s s' : AlertStore} {a : Alert}
    (edit : s.Edit (.resolved a) s') (ruleId : String) :
    (s'.anomalyAlerts ruleId).length ≤ (s.anomalyAlerts ruleId).length := by
  cases edit with
  | @closed before after key old split reason now =>
    have part : (before ++ after).Sublist s.active :=
      split ▸ List.Sublist.append_left (List.sublist_cons_self _ _) _
    simp only [length_anomalyAlerts]
    exact part.countP_le

/-- A rule with no surplus has no more anomaly alerts than allowed. -/
theorem length_le_of_surplusAnomaly? {s : AlertStore} {ruleId : String}
    (h : s.surplusAnomaly? ruleId = none) :
    (s.anomalyAlerts ruleId).length ≤ s.anomalyLimit := by
  unfold surplusAnomaly? at h
  simp only at h
  split at h
  · assumption
  · rw [eq_nil_of_earliest? (Option.map_eq_none_iff.mp h)]
    exact Nat.zero_le _

theorem lt_length_of_surplusAnomaly? {s : AlertStore} {ruleId key : String}
    (h : s.surplusAnomaly? ruleId = some key) :
    s.anomalyLimit < (s.anomalyAlerts ruleId).length := by
  unfold surplusAnomaly? at h
  simp only at h
  split at h
  · cases h
  · next notLe => exact Nat.lt_of_not_le notLe

/-- What is resolved as surplus is the earliest of the anomaly alerts of the rule. -/
theorem split_of_surplusAnomaly? {s s' : AlertStore} (sound : s.Sound) {ruleId key reason : String}
    {now : Timestamp} {a : Alert} (surplus : s.surplusAnomaly? ruleId = some key)
    (h : s.resolveKey? key reason now = some (a, s')) :
    ∃ before old after, s.active = before ++ (key, old) :: after ∧ old ∈ s.anomalyAlerts ruleId ∧
      earliest? (s.anomalyAlerts ruleId) = some old ∧ old.id = key ∧
      a = resolvedCopy old reason now ∧ s' = s.closed (before ++ after) a := by
  obtain ⟨old, hOld, rfl, hMem, hEarliest⟩ := mem_of_surplusAnomaly? surplus
  obtain ⟨before, found, after, split, hResolved, hClosed⟩ :=
    split_of_resolveKey? sound.keys_nodup h
  have hFound : (old.id, found) ∈ s.active := by simp [split]
  have hLookup := lookup?_of_mem sound.keys_nodup hFound
  rw [lookup?_of_mem sound.keys_nodup hMem] at hLookup
  obtain rfl := Option.some.inj hLookup
  exact ⟨before, old, after, split, hOld, hEarliest, rfl, hResolved, hClosed⟩

/-- An alert that has begun after all others does not make way for itself. There is room for one
alert, so that one of those that were there before is too many. -/
theorem ne_of_surplusAnomaly? {s : AlertStore} {a : Alert} (sound : (s.opened a.id a).Sound)
    (later : ∀ e ∈ s.active, e.2.startsAt < a.startsAt) {ruleId key : String}
    (surplus : (s.opened a.id a).surplusAnomaly? ruleId = some key) : key ≠ a.id := by
  rintro rfl
  obtain ⟨old, -, -, hMem, hEarliest⟩ := mem_of_surplusAnomaly? surplus
  have hNew : (a.id, a) ∈ (s.opened a.id a).active := List.mem_append_right _ List.mem_cons_self
  have hLookup := lookup?_of_mem sound.keys_nodup hMem
  rw [lookup?_of_mem sound.keys_nodup hNew] at hLookup
  obtain rfl := Option.some.inj hLookup
  have hLength := lt_length_of_surplusAnomaly? surplus
  have hCount := length_anomalyAlerts_opened s a.id a ruleId
  have hPos : 0 < (s.opened a.id a).anomalyLimit := sound.limits_pos.2
  have hOthers : 0 < (s.anomalyAlerts ruleId).length := by
    split at hCount <;> omega
  obtain ⟨b, hb⟩ := List.exists_mem_of_length_pos hOthers
  obtain ⟨hActive, hRule⟩ := mem_anomalyAlerts_iff.mp hb
  have hAmong : b ∈ (s.opened a.id a).anomalyAlerts ruleId :=
    mem_anomalyAlerts_iff.mpr ⟨List.mem_append_left _ hActive, hRule⟩
  exact not_lt_of_earliest? hEarliest hAmong (later _ hActive)

theorem Capped.updated {s s' : AlertStore} {a : Alert} (h : s.Capped)
    (edit : s.Edit (.updated a) s') : s'.Capped := fun ruleId => by
  rw [length_anomalyAlerts_updated edit, edit.limits.2]
  exact h ruleId

theorem Capped.resolved {s s' : AlertStore} {a : Alert} (h : s.Capped)
    (edit : s.Edit (.resolved a) s') : s'.Capped := fun ruleId => by
  rw [edit.limits.2]
  exact Nat.le_trans (length_anomalyAlerts_resolved edit ruleId) (h ruleId)

/-! The keys of the alerts. -/

/-- Every alert is kept under its key. -/
def Filed (s : AlertStore) : Prop := ∀ e ∈ s.active, e.1 = e.2.key

variable {s s' : AlertStore} {a : Alert}

theorem Filed.opens (h : s.Filed) (opens : s.Opens a s') : s'.Filed := by
  intro e he
  rw [opens.eq] at he
  rcases List.mem_append.mp he with he | he
  · exact h e he
  · rw [List.mem_singleton.mp he]

theorem Filed.updated (h : s.Filed) (edit : s.Edit (.updated a) s') : s'.Filed := by
  cases edit with
  | @changed before after key old new split revision =>
    have hOld : key = old.key := h (key, old) (by simp [split])
    intro e he
    simp only [List.mem_append, List.mem_cons] at he
    rcases he with he | rfl | he
    · exact h e (by simp [split, he])
    · rw [revision.key]
      exact hOld
    · exact h e (by simp [split, he])

theorem Filed.resolved (h : s.Filed) (edit : s.Edit (.resolved a) s') : s'.Filed := by
  cases edit with
  | @closed before after key old split reason now =>
    intro e he
    rcases List.mem_append.mp he with he | he
    · exact h e (by simp [split, he])
    · exact h e (by simp [split, he])

end AlertStore

end MetricAlerts
