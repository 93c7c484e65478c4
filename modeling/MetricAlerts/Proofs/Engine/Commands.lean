import MetricAlerts.Proofs.Engine.Outcome
import MetricAlerts.Proofs.Store.Addressing

/-! What operators ask of an engine: for which reasons they are refused (`execute_eq_error_iff`),
and which events tell of what was done (`reports_of_execute`). -/

namespace MetricAlerts

/-- What an operator asks for. -/
inductive Command where
  | acknowledge (name : String)
  | resolve (name : String) (reason : Option String)
  | change (request : Definitions.Request)

/-- Why nothing is done. -/
inductive Refusal where
  | unknownAlert
  | definition (error : DefinitionError)

namespace AlertStore

variable {s : AlertStore} {name key : String}

theorem isSome_lookup?_of_keyOf? (h : s.keyOf? name = some key) :
    (lookup? key s.active).isSome := by
  rw [keyOf?] at h
  split at h
  · next isKey =>
    cases h
    exact isKey
  · obtain ⟨entry, hEntry, rfl⟩ := Option.map_eq_some_iff.mp h
    exact isSome_lookup?_iff.mpr (List.mem_map_of_mem (List.mem_of_find?_eq_some hEntry))

/-- A name stands for an active alert exactly if it is a key or an id. -/
theorem get?_eq_none_iff : s.get? name = none ↔ name ∉ keys s.active ∧ name ∉ s.ids := by
  have hKey : s.get? name = none ↔ s.keyOf? name = none := by
    rw [get?]
    cases h : s.keyOf? name with
    | none => simp
    | some key => simpa using Option.isSome_iff_ne_none.mp (isSome_lookup?_of_keyOf? h)
  have hFind : (s.active.find? fun e => e.2.id == name) = none ↔ name ∉ s.ids := by
    rw [List.find?_eq_none, ids, List.mem_map]
    simp
  rw [hKey, keyOf?]
  split
  · next isKey => simp [isSome_lookup?_iff.mp isKey]
  · next noKey => rw [Option.map_eq_none_iff, hFind, and_iff_right (noKey ∘ isSome_lookup?_iff.mpr)]

theorem fst_resolve? (s : AlertStore) (name reason : String) (now : Timestamp) :
    (s.resolve? name reason now).map Prod.fst =
      (s.get? name).map fun a => resolvedCopy a reason now := by
  rw [resolve?, get?]
  cases s.keyOf? name with
  | none => rfl
  | some key => simp [resolveKey?, Function.comp_def]

theorem fst_acknowledge? (s : AlertStore) (name : String) (now : Timestamp) :
    (s.acknowledge? name now).map Prod.fst = (s.get? name).map (acknowledgedCopy now) := by
  rw [acknowledge?, change?, get?]
  cases s.keyOf? name with
  | none => rfl
  | some key => simp [Function.comp_def]

theorem fst_resolveRule? (s : AlertStore) (ruleId reason : String) (now : Timestamp) :
    (s.resolveRule? ruleId reason now).map Prod.fst =
      (lookup? ruleId s.active).map fun a => resolvedCopy a reason now := by
  rw [resolveRule?_eq_resolveKey?, resolveKey?]
  simp [Function.comp_def]

end AlertStore

namespace Registry

variable {α : Type} [Identified α] {items : List α} {change : Change α} {error : DefinitionError}

theorem refuses_of_apply (h : apply items change = .error error) : Refuses items change error := by
  cases change with
  | add item =>
    rw [apply, add] at h
    split at h
    · next old =>
      cases h
      exact .present (List.contains_iff_mem.mp old)
    · cases h
  | update path item =>
    rw [apply, update] at h
    split at h
    · next other =>
      cases h
      exact .mismatch other
    · next same =>
      split at h
      · cases h
      · next missing =>
        cases h
        exact .absent (not_not.mp same) fun found => missing (List.contains_iff_mem.mpr found)
  | delete id =>
    rw [apply, delete] at h
    split at h
    · cases h
    · next missing =>
      cases h
      exact .missing (get?_eq_none_iff.mp missing)

end Registry

namespace Engine

variable {e e' : Engine} {a : Alert} {command : Command} {refusal : Refusal}

/-- The outcome of a change of one alert. -/
def outcomeOf : Option (Alert × Engine) → Except Refusal Engine
  | some (_, e) => .ok e
  | none => .error .unknownAlert

/-- The engine after a command, or why it is as before. -/
def execute (e : Engine) : Command → Except Refusal Engine
  | .acknowledge name => outcomeOf (e.acknowledge? name)
  | .resolve name reason => outcomeOf (e.resolve? name reason)
  | .change (.rule (.add rule)) => (e.addRule rule).mapError .definition
  | .change (.rule (.update id rule)) => (e.updateRule id rule).mapError .definition
  | .change (.rule (.delete id)) => ((e.deleteRule id).map Prod.snd).mapError .definition
  | .change (.channel (.add channel)) => (e.addChannel channel).mapError .definition
  | .change (.channel (.update id channel)) => (e.updateChannel id channel).mapError .definition
  | .change (.channel (.delete id)) => ((e.deleteChannel id).map Prod.snd).mapError .definition

/-- Why a command is refused. -/
inductive Refuses (e : Engine) : Command → Refusal → Prop
  | acknowledge {name : String} (noKey : name ∉ keys e.alerts.active) (noId : name ∉ e.alerts.ids) :
    Refuses e (.acknowledge name) .unknownAlert
  | resolve {name : String} {reason : Option String} (noKey : name ∉ keys e.alerts.active)
      (noId : name ∉ e.alerts.ids) : Refuses e (.resolve name reason) .unknownAlert
  | change {request : Definitions.Request} {error : DefinitionError}
      (refuses : e.definitions.Refuses request error) :
    Refuses e (.change request) (.definition error)

/-- The events that tell of a command. With a rule goes the alert that is active under its id. -/
inductive Reports (e : Engine) : Command → List Event → Prop
  | acknowledged {name : String} {a : Alert} (found : e.alerts.get? name = some a) :
    Reports e (.acknowledge name) [.updated (AlertStore.acknowledgedCopy e.now a)]
  | resolved {name : String} {reason : Option String} {a : Alert}
      (found : e.alerts.get? name = some a) :
    Reports e (.resolve name reason)
      [.resolved (AlertStore.resolvedCopy a (reason.getD manualResolveReason) e.now)]
  | retired {id : String} {a : Alert} (found : lookup? id e.alerts.active = some a) :
    Reports e (.change (.rule (.delete id)))
      [.resolved (AlertStore.resolvedCopy a ruleDeletedReason e.now)]
  | unheld {id : String} (free : id ∉ keys e.alerts.active) :
    Reports e (.change (.rule (.delete id))) []
  | quiet {request : Definitions.Request} (other : ∀ id, request ≠ .rule (.delete id)) :
    Reports e (.change request) []

/-! Alerts. -/

theorem eq_none_of_outcomeOf {changed : Option (Alert × Engine)}
    (h : outcomeOf changed = .error refusal) : changed = none ∧ refusal = .unknownAlert := by
  cases changed with
  | none =>
    cases h
    exact ⟨rfl, rfl⟩
  | some result => cases h

theorem exists_of_outcomeOf {changed : Option (Alert × Engine)} (h : outcomeOf changed = .ok e') :
    ∃ a, changed = some (a, e') := by
  cases changed with
  | none => cases h
  | some result =>
    cases h
    exact ⟨result.1, rfl⟩

theorem acknowledge?_eq_none_iff {name : String} :
    e.acknowledge? name = none ↔ name ∉ keys e.alerts.active ∧ name ∉ e.alerts.ids := by
  rw [← AlertStore.get?_eq_none_iff, acknowledge?, storeAcknowledge?, withAlerts,
    Option.map_eq_none_iff, Option.map_eq_none_iff, ← Option.map_eq_none_iff (f := Prod.fst),
    AlertStore.fst_acknowledge?, Option.map_eq_none_iff]

theorem resolve?_eq_none_iff {name : String} {reason : Option String} :
    e.resolve? name reason = none ↔ name ∉ keys e.alerts.active ∧ name ∉ e.alerts.ids := by
  rw [← AlertStore.get?_eq_none_iff, resolve?, storeResolve?, withAlerts,
    Option.map_eq_none_iff, Option.map_eq_none_iff, ← Option.map_eq_none_iff (f := Prod.fst),
    AlertStore.fst_resolve?, Option.map_eq_none_iff]

theorem events_of_acknowledge? {name : String} (h : e.acknowledge? name = some (a, e')) :
    ∃ old, e.alerts.get? name = some old ∧
      e'.events = e.events ++ [.updated (AlertStore.acknowledgedCopy e.now old)] := by
  obtain ⟨⟨changed, e₁⟩, hStore, same⟩ := Option.map_eq_some_iff.mp h
  obtain ⟨alerts, hChanged, rfl⟩ := eq_of_withAlerts hStore
  cases same
  have hFst := e.alerts.fst_acknowledge? name e.now
  rw [hChanged, Option.map_some, eq_comm, Option.map_eq_some_iff] at hFst
  obtain ⟨old, found, rfl⟩ := hFst
  exact ⟨old, found, events_publish ..⟩

theorem events_of_resolve? {name : String} {reason : Option String}
    (h : e.resolve? name reason = some (a, e')) :
    ∃ old, e.alerts.get? name = some old ∧ e'.events = e.events ++
      [.resolved (AlertStore.resolvedCopy old (reason.getD manualResolveReason) e.now)] := by
  obtain ⟨⟨changed, e₁⟩, hStore, same⟩ := Option.map_eq_some_iff.mp h
  obtain ⟨alerts, hChanged, rfl⟩ := eq_of_withAlerts hStore
  cases same
  have hFst := e.alerts.fst_resolve? name (reason.getD manualResolveReason) e.now
  rw [hChanged, Option.map_some, eq_comm, Option.map_eq_some_iff] at hFst
  obtain ⟨old, found, rfl⟩ := hFst
  exact ⟨old, found, events_publish ..⟩

/-- The alert that is active under the id of a removed rule is resolved, and nothing is told where
there is none. -/
theorem events_retire (e : Engine) (ruleId : String) :
    (e.retire ruleId).events = e.events ++ ((lookup? ruleId e.alerts.active).map fun a =>
      Event.resolved (AlertStore.resolvedCopy a ruleDeletedReason e.now)).toList := by
  have hFst := e.alerts.fst_resolveRule? ruleId ruleDeletedReason e.now
  rw [retire]
  split
  · next changed e₁ hStore =>
    obtain ⟨alerts, hChanged, rfl⟩ := eq_of_withAlerts hStore
    rw [hChanged, Option.map_some] at hFst
    cases found : lookup? ruleId e.alerts.active with
    | none =>
      rw [found] at hFst
      cases hFst
    | some old =>
      rw [found] at hFst
      cases hFst
      exact events_publish ..
  · next hStore =>
    have hNone : e.alerts.resolveRule? ruleId ruleDeletedReason e.now = none :=
      Option.map_eq_none_iff.mp hStore
    rw [hNone, Option.map_none] at hFst
    have free : lookup? ruleId e.alerts.active = none := Option.map_eq_none_iff.mp hFst.symm
    rw [free]
    simp

/-! Definitions. -/

theorem deleteRule_eq (e : Engine) (id : String) :
    e.deleteRule id = (e.removeRule id).map fun found => (found.1, found.2.retire found.1.id) := by
  rw [deleteRule]
  congr 1
  funext found
  simp only [retire]
  cases found.2.storeResolveRule? found.1.id ruleDeletedReason <;> rfl

/-- A change of the rules is made by their list, and a deleted rule is retired. -/
theorem execute_rule (e : Engine) (change : Registry.Change Rule) :
    e.execute (.change (.rule change)) =
      match Registry.apply e.definitions.rules change with
      | .ok (rules, rule) =>
        .ok (if change.deleted?.isSome then (e.withRules rules).retire rule.id
          else e.withRules rules)
      | .error error => .error (.definition error) := by
  cases change with
  | add rule =>
    rw [execute, addRule, Registry.apply]
    cases Registry.add e.definitions.rules rule <;> rfl
  | update id rule =>
    rw [execute, updateRule, Registry.apply]
    cases Registry.update e.definitions.rules id rule <;> rfl
  | delete id =>
    rw [execute, deleteRule_eq, removeRule, Registry.apply]
    cases Registry.delete e.definitions.rules id <;> rfl

theorem execute_channel (e : Engine) (change : Registry.Change Channel) :
    e.execute (.change (.channel change)) =
      match Registry.apply e.definitions.channels change with
      | .ok (channels, _) => .ok (e.withChannels channels)
      | .error error => .error (.definition error) := by
  cases change with
  | add channel =>
    rw [execute, addChannel, Registry.apply]
    cases Registry.add e.definitions.channels channel <;> rfl
  | update id channel =>
    rw [execute, updateChannel, Registry.apply]
    cases Registry.update e.definitions.channels id channel <;> rfl
  | delete id =>
    rw [execute, deleteChannel, Registry.apply]
    cases Registry.delete e.definitions.channels id <;> rfl

/-! Commands. -/

theorem refuses_of_execute (h : e.execute command = .error refusal) :
    e.Refuses command refusal := by
  cases command with
  | acknowledge name =>
    obtain ⟨hNone, rfl⟩ := eq_none_of_outcomeOf h
    obtain ⟨noKey, noId⟩ := acknowledge?_eq_none_iff.mp hNone
    exact .acknowledge noKey noId
  | resolve name reason =>
    obtain ⟨hNone, rfl⟩ := eq_none_of_outcomeOf h
    obtain ⟨noKey, noId⟩ := resolve?_eq_none_iff.mp hNone
    exact .resolve noKey noId
  | change request =>
    cases request with
    | rule change =>
      rw [execute_rule] at h
      split at h
      · cases h
      · next hApply =>
        cases h
        exact .change (Registry.refuses_of_apply hApply)
    | channel change =>
      rw [execute_channel] at h
      split at h
      · cases h
      · next hApply =>
        cases h
        exact .change (Registry.refuses_of_apply hApply)

theorem execute_of_refuses (h : e.Refuses command refusal) :
    e.execute command = .error refusal := by
  cases h with
  | acknowledge noKey noId =>
    rw [execute, acknowledge?_eq_none_iff.mpr ⟨noKey, noId⟩]
    rfl
  | resolve noKey noId =>
    rw [execute, resolve?_eq_none_iff.mpr ⟨noKey, noId⟩]
    rfl
  | @change request error refuses =>
    cases request with
    | rule change => rw [execute_rule, Registry.apply_of_refuses refuses]
    | channel change => rw [execute_channel, Registry.apply_of_refuses refuses]

theorem execute_eq_error_iff : e.execute command = .error refusal ↔ e.Refuses command refusal :=
  ⟨refuses_of_execute, execute_of_refuses⟩

theorem reports_retire (e : Engine) (rules : List Rule) (id : String) :
    ∃ published, e.Reports (.change (.rule (.delete id))) published ∧
      ((e.withRules rules).retire id).events = e.events ++ published := by
  refine ⟨_, ?_, events_retire (e.withRules rules) id⟩
  show e.Reports _ ((lookup? id e.alerts.active).map _).toList
  cases found : lookup? id e.alerts.active with
  | none => exact .unheld (lookup?_eq_none_iff.mp found)
  | some a => exact .retired found

/-- What was done is told by the events that it should be told by, and by no others. -/
theorem reports_of_execute (h : e.execute command = .ok e') :
    ∃ published, e.Reports command published ∧ e'.events = e.events ++ published := by
  cases command with
  | acknowledge name =>
    obtain ⟨a, hChanged⟩ := exists_of_outcomeOf h
    obtain ⟨old, found, hEvents⟩ := events_of_acknowledge? hChanged
    exact ⟨_, .acknowledged found, hEvents⟩
  | resolve name reason =>
    obtain ⟨a, hChanged⟩ := exists_of_outcomeOf h
    obtain ⟨old, found, hEvents⟩ := events_of_resolve? hChanged
    exact ⟨_, .resolved found, hEvents⟩
  | change request =>
    cases request with
    | rule change =>
      rw [execute_rule] at h
      split at h
      · next rules rule hApply =>
        cases h
        cases change with
        | delete id =>
          have foundUnder : rule.id = id := by
            rw [Registry.apply, Registry.delete] at hApply
            split at hApply
            · next hGet =>
              cases hApply
              exact Registry.id_of_get? hGet
            · cases hApply
          rw [← foundUnder]
          exact reports_retire e rules rule.id
        | add rule => exact ⟨[], .quiet (by simp), (List.append_nil _).symm⟩
        | update id rule => exact ⟨[], .quiet (by simp), (List.append_nil _).symm⟩
      · cases h
    | channel change =>
      rw [execute_channel] at h
      split at h
      · cases h
        exact ⟨[], .quiet (by simp), (List.append_nil _).symm⟩
      · cases h

end Engine

end MetricAlerts
