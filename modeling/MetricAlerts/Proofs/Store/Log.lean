import MetricAlerts.Proofs.Store.Run

/-! The log of all copies that operations make of new and of resolved alerts. No limit cuts it, and
the history is its end. -/

namespace MetricAlerts

/-- An alert that has been resolved at some time for some reason. -/
structure Alert.IsResolved (a : Alert) : Prop where
  status : a.status = .resolved
  resolvedAt : a.resolvedAt.isSome
  resolutionReason : a.resolutionReason.isSome

variable {α : Type}

theorem lastEntries_suffix (n : Nat) (l : List α) : lastEntries n l <:+ l := List.drop_suffix _ _

/-- What has been cut from a list makes no difference to the last entries of a longer one. -/
theorem lastEntries_append (n : Nat) (l added : List α) :
    lastEntries n (lastEntries n l ++ added) = lastEntries n (l ++ added) := by
  have hLe : l.length - n ≤ l.length := Nat.sub_le _ _
  have hDrop : lastEntries n l ++ added = (l ++ added).drop (l.length - n) := by
    rw [lastEntries, List.drop_append_of_le_length hLe]
  have hLength : (lastEntries n l ++ added).length = min n l.length + added.length := by
    rw [List.length_append, length_lastEntries]
  rw [lastEntries, hLength, hDrop, List.drop_drop, lastEntries, List.length_append]
  congr 1
  omega

namespace AlertStore

/-- The copies that an operation adds to the log: the new alert first, then the resolved one. -/
def copies (s : AlertStore) (operation : Operation) : List Alert :=
  (s.createdBy operation).toList ++ (s.resolvedBy operation).toList

/-- The log after an operation. Only `clear` takes something out of it, and that is everything. -/
def logAfter (s : AlertStore) (log : List Alert) : Operation → List Alert
  | .clear => []
  | operation => log ++ s.copies operation

/-- The log after one operation after another. -/
def logFrom (s : AlertStore) (log : List Alert) : List Operation → List Alert
  | [] => log
  | operation :: operations =>
    logFrom (s.after operation) (s.logAfter log operation) operations

/-- All that operations record, since everything was cleared for the last time. -/
def log (s : AlertStore) (operations : List Operation) : List Alert := s.logFrom [] operations

variable {s s' middle : AlertStore} {key reason : String} {now : Timestamp} {a : Alert}
  {operation : Operation} {added more log : List Alert}

/-- A new alert is logged as it is created. -/
theorem isNew_of_createdBy (h : s.createdBy operation = some a) : a.IsNew := by
  cases operation with
  | create rule source value metrics id now =>
    simp only [createdBy] at h
    generalize hResult : s.create rule source value metrics id now = result at h
    obtain ⟨created | existing, s'⟩ := result
    · cases h
      exact (opened_of_create hResult).1 ▸ Alert.isNew_ofRule ..
    · cases h
  | createAnomaly rule source anomaly metrics id now later =>
    simp only [createdBy, createAnomaly_fst, Option.some.injEq] at h
    exact h ▸ Alert.isNew_ofAnomaly ..
  | _ => cases h

theorem isResolved_of_resolveKey? (h : s.resolveKey? key reason now = some (a, s')) :
    a.IsResolved := by
  obtain ⟨old, -, h⟩ := Option.map_eq_some_iff.mp h
  cases h
  exact ⟨rfl, rfl, rfl⟩

theorem isResolved_of_resolve? {name : String} (h : s.resolve? name reason now = some (a, s')) :
    a.IsResolved := by
  obtain ⟨key, -, h⟩ := Option.bind_eq_some_iff.mp h
  exact isResolved_of_resolveKey? h

theorem isResolved_of_resolvedBy (h : s.resolvedBy operation = some a) : a.IsResolved := by
  cases operation with
  | createAnomaly rule source anomaly metrics id now later =>
    simp only [resolvedBy, createAnomaly] at h
    split at h
    · next hBind =>
      cases h
      obtain ⟨key, -, hResolve⟩ := Option.bind_eq_some_iff.mp hBind
      exact isResolved_of_resolveKey? hResolve
    · cases h
  | resolve name reason now =>
    obtain ⟨⟨a, s'⟩, hResolve, rfl⟩ := Option.map_eq_some_iff.mp h
    exact isResolved_of_resolve? hResolve
  | resolveRule ruleId reason now =>
    obtain ⟨⟨a, s'⟩, hResolve, rfl⟩ := Option.map_eq_some_iff.mp h
    unfold resolveRule? at hResolve
    split at hResolve
    · exact isResolved_of_resolve? hResolve
    · cases hResolve
  | _ => cases h

/-- The history is the end of the log. -/
def Ends (s : AlertStore) (log : List Alert) : Prop := s.history = lastEntries s.historyLimit log

theorem ends_nil (history : s.history = []) : s.Ends [] := history.trans List.drop_nil.symm

/-- A change of the store by which copies get into the history. -/
structure Records (s : AlertStore) (added : List Alert) (s' : AlertStore) : Prop where
  limit : s'.historyLimit = s.historyLimit
  ends : ∀ log, s.Ends log → s'.Ends (log ++ added)

theorem Records.none (limit : s'.historyLimit = s.historyLimit) (history : s'.history = s.history) :
    s.Records [] s' where
  limit := limit
  ends log h := by
    rw [Ends, List.append_nil, history, limit]
    exact h

theorem Records.trans (h : s.Records added middle) (h' : middle.Records more s') :
    s.Records (added ++ more) s' where
  limit := h'.limit.trans h.limit
  ends log hLog := by
    rw [← List.append_assoc]
    exact h'.ends _ (h.ends log hLog)

/-- Whatever happens to the active alerts, the copy that is remembered gets into the history. -/
theorem records_remember (s : AlertStore) (active : List (String × Alert)) (a : Alert) :
    s.Records [a] (remember { s with active } a) where
  limit := rfl
  ends log h := by
    show lastEntries s.historyLimit (s.history ++ [a]) = _
    rw [h]
    exact lastEntries_append _ _ _

theorem records_resolveKey? (h : s.resolveKey? key reason now = some (a, s')) :
    s.Records [a] s' := by
  obtain ⟨old, -, h⟩ := Option.map_eq_some_iff.mp h
  cases h
  exact records_remember s _ _

theorem records_resolve? {name : String} (h : s.resolve? name reason now = some (a, s')) :
    s.Records [a] s' := by
  obtain ⟨key, -, h⟩ := Option.bind_eq_some_iff.mp h
  exact records_resolveKey? h

theorem records_resolveRule? {ruleId : String}
    (h : s.resolveRule? ruleId reason now = some (a, s')) : s.Records [a] s' := by
  unfold resolveRule? at h
  split at h
  · exact records_resolve? h
  · cases h

theorem records_change? {name : String} {f : Alert → Alert} (h : s.change? name f = some (a, s')) :
    s.Records [] s' := by
  obtain ⟨key, -, h⟩ := Option.bind_eq_some_iff.mp h
  obtain ⟨old, -, h⟩ := Option.map_eq_some_iff.mp h
  cases h
  exact .none rfl rfl

theorem records_create (s : AlertStore) (rule : Rule) (source : String) (value : Float)
    (metrics : Json) (id : String) (now : Timestamp) :
    s.Records (s.copies (.create rule source value metrics id now))
      (s.after (.create rule source value metrics id now)) := by
  simp only [copies, createdBy, resolvedBy, after, create]
  cases lookup? rule.id s.active with
  | none => exact records_remember s _ _
  | some existing => exact .none rfl rfl

theorem records_createAnomaly (s : AlertStore) (rule : Rule) (source : String) (anomaly : Anomaly)
    (metrics : Json) (id : String) (now later : Timestamp) :
    s.Records (s.copies (.createAnomaly rule source anomaly metrics id now later))
      (s.after (.createAnomaly rule source anomaly metrics id now later)) := by
  simp only [copies, createdBy, resolvedBy, after, createAnomaly]
  split
  · next superseded s' hBind =>
    obtain ⟨key, -, hResolve⟩ := Option.bind_eq_some_iff.mp hBind
    exact (records_remember s _ _).trans (records_resolveKey? hResolve)
  · exact records_remember s _ _

/-- Where there was a change, its copy is recorded, and else nothing is. -/
theorem records_orSame {changed : Option (Alert × AlertStore)}
    (records : ∀ a s', changed = some (a, s') → s.Records [a] s') :
    s.Records (changed.map Prod.fst).toList (s.orSame changed) := by
  cases changed with
  | none => exact .none rfl rfl
  | some result => exact records _ _ rfl

theorem records_of_change {changed : Option (Alert × AlertStore)}
    (records : ∀ a s', changed = some (a, s') → s.Records [] s') :
    s.Records [] (s.orSame changed) :=
  orSame_of (P := fun s' => s.Records [] s') (.none rfl rfl) records

/-- Unless everything is cleared, an operation gets its copies into the history. -/
theorem records_after (s : AlertStore) (kept : operation ≠ .clear) :
    s.Records (s.copies operation) (s.after operation) := by
  cases operation with
  | create => exact records_create ..
  | createAnomaly => exact records_createAnomaly ..
  | resolve => exact records_orSame fun _ _ e => records_resolve? e
  | resolveRule => exact records_orSame fun _ _ e => records_resolveRule? e
  | acknowledge => exact records_of_change fun _ _ e => records_change? e
  | mergeAnnotations => exact records_of_change fun _ _ e => records_change? e
  | clear => exact absurd rfl kept

theorem logAfter_eq (s : AlertStore) (log : List Alert) (kept : operation ≠ .clear) :
    s.logAfter log operation = log ++ s.copies operation := by
  cases operation with
  | clear => exact absurd rfl kept
  | _ => rfl

/-- Every operation takes a store whose history is the end of the log to such a store again. -/
theorem Ends.after (h : s.Ends log) (operation : Operation) :
    (s.after operation).historyLimit = s.historyLimit ∧
      (s.after operation).Ends (s.logAfter log operation) := by
  by_cases clears : operation = .clear
  · subst clears
    exact ⟨rfl, ends_nil rfl⟩
  · have records := s.records_after clears
    rw [logAfter_eq s log clears]
    exact ⟨records.limit, records.ends log h⟩

theorem Ends.run (h : s.Ends log) (operations : List Operation) :
    (s.run operations).historyLimit = s.historyLimit ∧
      (s.run operations).Ends (s.logFrom log operations) := by
  induction operations generalizing s log with
  | nil => exact ⟨rfl, h⟩
  | cons operation operations ih =>
    obtain ⟨limit, ends⟩ := h.after operation
    obtain ⟨limits, result⟩ := ih ends
    exact ⟨limits.trans limit, result⟩

theorem logFrom_singleton (s : AlertStore) (log : List Alert) (kept : operation ≠ .clear) :
    s.logFrom log [operation] = log ++ s.copies operation :=
  s.logAfter_eq log kept

theorem logFrom_append (s : AlertStore) (log : List Alert) (operations more : List Operation) :
    s.logFrom log (operations ++ more) =
      (s.run operations).logFrom (s.logFrom log operations) more := by
  induction operations generalizing s log with
  | nil => rfl
  | cons operation operations ih => exact ih _ _

theorem recentHistory_eq (s : AlertStore) (n : Nat) :
    s.recentHistory n = (s.getHistory n).reverse := by
  rw [recentHistory, getHistory, lastEntries, List.take_reverse]

/-- Whatever operations do, the next one logs its new alert as it is created and its resolved alert
as it is resolved. The history is the end of the log, as long as the limit allows, and the readers
give the end of the history, as long as they are asked for. -/
theorem suffix_log_run (historyLimit anomalyLimit : Nat) (operations : List Operation) :
    let s := (empty historyLimit anomalyLimit).run operations
    let log := (empty historyLimit anomalyLimit).log operations
    (∀ operation, (∀ a ∈ s.createdBy operation, a.IsNew) ∧
        ∀ a ∈ s.resolvedBy operation, a.IsResolved) ∧
      (s.history <:+ log ∧ s.history.length = min (max 1 historyLimit) log.length) ∧
      ∀ n, s.getHistory n <:+ s.history ∧ (s.getHistory n).length = min n s.history.length ∧
        s.recentHistory n = (s.getHistory n).reverse := by
  have start : (empty historyLimit anomalyLimit).Ends [] := ends_nil rfl
  obtain ⟨limit, ends⟩ := start.run operations
  have hLimit : ((empty historyLimit anomalyLimit).run operations).historyLimit =
      max 1 historyLimit := limit.trans (Nat.max_comm ..)
  intro s log
  have hHistory : s.history = lastEntries (max 1 historyLimit) log := hLimit ▸ ends
  refine ⟨fun operation => ⟨fun a h => isNew_of_createdBy h, fun a h => isResolved_of_resolvedBy h⟩,
    ⟨?_, ?_⟩, ?_⟩
  · rw [hHistory]
    exact lastEntries_suffix _ _
  · rw [hHistory]
    exact length_lastEntries _ _
  · intro n
    exact ⟨lastEntries_suffix _ _, length_lastEntries _ _, recentHistory_eq s n⟩

end AlertStore

end MetricAlerts
