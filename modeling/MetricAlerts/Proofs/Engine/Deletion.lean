import MetricAlerts.Proofs.Engine.Newness
import MetricAlerts.Proofs.Engine.Turns
import MetricAlerts.Proofs.Engine.Undertakings
import MetricAlerts.Proofs.Store.Addressing

/-! What is left of a rule that has been deleted. The alert of its condition is resolved, and its
alerts for anomalies stay active. Evaluations and checks that hold a copy of the rule may still give
it alerts, but no new ones begin. -/

namespace MetricAlerts

namespace AlertStore

/-- All active alerts of a rule have been active before. -/
def AddsNone (s : AlertStore) (ruleId : String) (s' : AlertStore) : Prop :=
  ∀ entry ∈ s'.active, entry.2.ruleId = ruleId →
    ∃ old ∈ s.active, old.2.id = entry.2.id ∧ old.2.ruleId = ruleId

variable {s s' s'' : AlertStore} {ruleId : String}

theorem AddsNone.of_subset (subset : s'.active ⊆ s.active) : s.AddsNone ruleId s' :=
  fun entry mem ofRule => ⟨entry, subset mem, rfl, ofRule⟩

theorem AddsNone.refl (s : AlertStore) (ruleId : String) : s.AddsNone ruleId s :=
  .of_subset (List.Subset.refl _)

theorem AddsNone.trans (first : s.AddsNone ruleId s') (second : s'.AddsNone ruleId s'') :
    s.AddsNone ruleId s'' := by
  intro entry mem ofRule
  obtain ⟨middle, hMiddle, sameId, ofRule⟩ := second entry mem ofRule
  obtain ⟨old, hOld, sameId', ofRule⟩ := first middle hMiddle ofRule
  exact ⟨old, hOld, sameId'.trans sameId, ofRule⟩

theorem Edit.addsNone {event : Event} (edit : s.Edit event s')
    (other : ∀ a, event = .created a → a.ruleId ≠ ruleId) : s.AddsNone ruleId s' := by
  cases edit with
  | @opened key alert =>
    intro entry mem ofRule
    rcases List.mem_append.mp mem with mem | mem
    · exact ⟨entry, mem, rfl, ofRule⟩
    · rw [List.mem_singleton.mp mem] at ofRule
      exact absurd ofRule (other alert rfl)
  | @changed before after key old new split revision =>
    intro entry mem ofRule
    rw [split]
    rcases List.mem_append.mp mem with mem | mem
    · exact ⟨entry, List.mem_append_left _ mem, rfl, ofRule⟩
    · rcases List.mem_cons.mp mem with rfl | mem
      · exact ⟨(key, old), List.mem_append_right _ List.mem_cons_self, revision.id.symm,
          revision.ruleId.symm.trans ofRule⟩
      · exact ⟨entry, List.mem_append_right _ (List.mem_cons_of_mem _ mem), rfl, ofRule⟩
  | @closed before after key old split =>
    exact .of_subset (split ▸ ((List.sublist_cons_self ..).append_left before).subset)

/-- Nothing is active under an id that has been freed. -/
theorem notMem_keys_of_resolveKey? {key reason : String} {now : Timestamp} {a : Alert}
    (h : s.resolveKey? key reason now = some (a, s')) : key ∉ keys s'.active := by
  obtain ⟨old, -, h⟩ := Option.map_eq_some_iff.mp h
  cases h
  simp [remember, keys]

end AlertStore

namespace Engine

variable {e e' : Engine} {action : Action} {ruleId : String}

/-- An action adds alerts only to the rule that acts. -/
theorem Does.addsNone (h : e.Does action e')
    (other : ∀ rule, action.rule? = some rule → rule.id ≠ ruleId) :
    e.alerts.AddsNone ruleId e'.alerts := by
  cases h with
  | defines change same => exact same ▸ .refl e.alerts ruleId
  | edits definitions edit old => exact edit.addsNone fun a created => absurd created (old a)
  | @opens rule a middle definitions acts ofRule opens closes =>
    have opened : e.alerts.AddsNone ruleId middle := opens.edit.addsNone fun a created => by
      cases created
      exact ofRule ▸ other _ acts
    rcases closes with same | ⟨old, closing⟩
    · exact same ▸ opened
    · exact opened.trans (closing.addsNone fun a => nofun)

theorem free_retire (e : Engine) (ruleId : String) :
    ruleId ∉ keys (e.retire ruleId).alerts.active := by
  unfold retire
  split
  · next h =>
    obtain ⟨alerts, hResolve, rfl⟩ := eq_of_withAlerts h
    rw [AlertStore.resolveRule?_eq_resolveKey?] at hResolve
    exact AlertStore.notMem_keys_of_resolveKey? hResolve
  · next h =>
    rw [storeResolveRule?, AlertStore.resolveRule?_eq_resolveKey?] at h
    have absent : lookup? ruleId e.alerts.active = none := by
      simpa [withAlerts, AlertStore.resolveKey?] using h
    exact lookup?_eq_none_iff.mp absent

theorem idsUsed_removeRule (e : Engine) (id : String) :
    (e.after (.removeRule id)).idsUsed = e.idsUsed := by
  rw [after_of_rule_request rfl]
  rfl

theorem notMem_removeRule {id : String} (distinct : (Registry.ids e.definitions.rules).Nodup)
    (found : id ∈ Registry.ids e.definitions.rules) :
    id ∉ Registry.ids (e.after (.removeRule id)).definitions.rules := by
  obtain ⟨rules, rule, hDelete⟩ := Registry.exists_delete found
  simp only [after, removeRule, hDelete]
  exact Registry.notMem_of_delete distinct hDelete

theorem filed_of_leads {environment : Environment} {definitions : Definitions}
    {historyLimit anomalyLimit eventBuffer clientBuffer maxMetricsBytes : Nat}
    (leads : Leads (initial environment definitions historyLimit anomalyLimit eventBuffer
      clientBuffer maxMetricsBytes) e) : e.alerts.Filed := by
  have start : InTurn (AlertStore.empty historyLimit anomalyLimit) [] :=
    ⟨fun e he => absurd he List.not_mem_nil, fun _ => .none⟩
  have inTurn : InTurn e.alerts e.events :=
    leads.keeps (fun _ h announces => announces.inTurn h) (AlertStore.sound_empty ..) start
  exact inTurn.filed

end Engine

namespace AtWork

open AlertStore (diskRule)
open Engine (Action Leads cpuRule diskEngine)

variable {id : String} {w w' : AtWork}

/-- Nothing that is at work is at work under an id. -/
def IsIdle (id : String) (w : AtWork) : Prop := ∀ u ∈ w.underway, u.rule.id ≠ id

/-- The deletion of a rule: it is removed first, and its alert is resolved later. -/
inductive Deletes (id : String) (w : AtWork) : AtWork → Prop
  | intro {w' : AtWork} (found : id ∈ w.ruleIds)
      (between : Runs (IsNotAdding id) { w with engine := w.engine.after (.removeRule id) } w') :
      Deletes id w { w' with engine := w'.engine.after (.retire id) }

/-- Nothing happens between the parts of a deletion that is made at once. -/
theorem deletes_of_deleteRule {rule : Rule} {e : Engine}
    (h : w.engine.deleteRule id = .ok (rule, e)) : Deletes id w { w with engine := e } := by
  have hRun := Engine.eq_run_of_deleteRule h
  obtain ⟨found, hId⟩ : id ∈ w.ruleIds ∧ rule.id = id := by
    unfold Engine.deleteRule Engine.removeRule at h
    cases hDelete : Registry.delete w.engine.definitions.rules id with
    | error =>
      rw [hDelete] at h
      cases h
    | ok removed =>
      obtain ⟨rules, found⟩ := removed
      obtain ⟨mem, hFound⟩ := Registry.id_of_delete hDelete
      rw [hDelete] at h
      have hRule : rule = found := by
        simp only [Except.map, Except.ok.injEq] at h
        split at h <;> exact (congrArg Prod.fst h).symm
      exact ⟨Registry.mem_ids.mpr ⟨found, mem, hFound⟩, hRule ▸ hFound⟩
  rw [hRun, hId]
  exact .intro found .refl

theorem distinct_of_runs {allowed : Action → Prop} (runs : Runs allowed w w')
    (sound : w.engine.alerts.Sound) (distinct : w.ruleIds.Nodup) : w'.ruleIds.Nodup :=
  keeps_of_runs (fun proceeds sound h => proceeds.distinct sound h) runs sound distinct

theorem proceeds_removeRule (w : AtWork) (id : String) :
    w.Proceeds (IsNotAdding id) { w with engine := w.engine.after (.removeRule id) } :=
  .request rfl not_false (Engine.idsUsed_removeRule ..)

theorem proceeds_retire (w : AtWork) (id : String) :
    w.Proceeds (IsNotAdding id) { w with engine := w.engine.after (.retire id) } :=
  .request rfl not_false (Engine.idsUsed_retire ..)

theorem Deletes.runs (h : Deletes id w w') : Runs (IsNotAdding id) w w' := by
  cases h with
  | @intro middle found between =>
    exact .head (proceeds_removeRule w id) (between.tail (proceeds_retire middle id))

/-- What is left active under the id of the rule is not due to its condition. -/
theorem Deletes.free (h : Deletes id w w') : id ∉ keys w'.engine.alerts.active := by
  cases h with
  | @intro middle => exact Engine.free_retire middle.engine id

theorem IsLeft.runs {past : List Undertaking} (h : w.IsLeft id past)
    (runs : Runs (IsNotAdding id) w w') (sound : w.engine.alerts.Sound) : w'.IsLeft id past :=
  keeps_of_runs (fun proceeds sound h => IsLeft.proceeds h proceeds sound) runs sound h

/-- A rule that has been deleted is no longer looked up. -/
theorem Deletes.isLeft (h : Deletes id w w') (sound : w.engine.alerts.Sound)
    (distinct : w.ruleIds.Nodup) : w'.IsLeft id w.underway := by
  cases h with
  | @intro middle found between =>
    have removed : IsLeft id w.underway { w with engine := w.engine.after (.removeRule id) } :=
      ⟨Engine.notMem_removeRule distinct found, fun u mem _ => ⟨u, mem, rfl⟩⟩
    exact removed.runs (between.tail (proceeds_retire middle id))
      ((proceeds_removeRule w id).leads.sound sound)

/-- Whoever works under other ids adds no alert. -/
theorem Proceeds.addsNone {allowed : Action → Prop} (h : w.Proceeds allowed w')
    (sound : w.engine.alerts.Sound) (idle : w.IsIdle id) :
    w.engine.alerts.AddsNone id w'.engine.alerts := by
  obtain ⟨-, same⟩ | ⟨action, does, permits⟩ := h.does sound
  · exact same ▸ .refl w.engine.alerts id
  · refine does.addsNone fun rule acts => ?_
    rw [Permits, acts] at permits
    obtain ⟨u, mem, rfl⟩ := permits
    exact idle u mem

/-- Where nobody is at work for a rule that is not defined, it gets no alert any more. -/
theorem addsNone_of_runs (absent : id ∉ w.ruleIds) (idle : w.IsIdle id)
    (runs : Runs (IsNotAdding id) w w') (sound : w.engine.alerts.Sound) :
    w.engine.alerts.AddsNone id w'.engine.alerts := by
  have start : w.IsLeft id [] := ⟨absent, fun u mem ofRule => absurd ofRule (idle u mem)⟩
  have step {v v' : AtWork} (proceeds : v.Proceeds (IsNotAdding id) v')
      (sound : v.engine.alerts.Sound)
      (h : v.IsLeft id [] ∧ w.engine.alerts.AddsNone id v.engine.alerts) :
      v'.IsLeft id [] ∧ w.engine.alerts.AddsNone id v'.engine.alerts := by
    obtain ⟨left, addsNone⟩ := h
    have idle : v.IsIdle id := fun u mem ofRule => by simpa using left.held u mem ofRule
    exact ⟨left.proceeds proceeds sound, addsNone.trans (proceeds.addsNone sound idle)⟩
  exact (keeps_of_runs step runs sound ⟨start, .refl w.engine.alerts id⟩).2

variable {environment : Environment} {definitions : Definitions}
  {historyLimit anomalyLimit eventBuffer clientBuffer maxMetricsBytes : Nat}
  {rules : List Rule} {channels : List Channel} {w₁ : AtWork}

/-- The deletion of a rule leaves none of its alerts active but those for anomalies. After that
nobody looks up the rule until one with its id is added, those who are at work for it have been
so before, and when they have come to an end it gets no alert any more. -/
theorem isOver_of_deletes (loaded : Definitions.ofLists rules channels = .ok definitions)
    (runs : Runs (fun _ => True) ⟨.initial environment definitions historyLimit anomalyLimit
      eventBuffer clientBuffer maxMetricsBytes, []⟩ w)
    (deletes : Deletes id w w₁) :
    (∀ entry ∈ w₁.engine.alerts.active, entry.2.ruleId = id → entry.2.anomalyDetails.isSome) ∧
      ∀ w₂, Runs (IsNotAdding id) w₁ w₂ →
        (∀ u ∈ w₂.underway, u.rule.id = id → ∃ v ∈ w.underway, v.rule = u.rule) ∧
        (w₂.IsIdle id → ∀ w₃, Runs (IsNotAdding id) w₂ w₃ →
          w₂.engine.alerts.AddsNone id w₃.engine.alerts) := by
  have start : (Engine.initial environment definitions historyLimit anomalyLimit eventBuffer
      clientBuffer maxMetricsBytes).alerts.Sound := AlertStore.sound_empty ..
  have sound : w.engine.alerts.Sound := (leads_of_runs runs).sound start
  have sound₁ : w₁.engine.alerts.Sound := (leads_of_runs deletes.runs).sound sound
  have left : w₁.IsLeft id w.underway :=
    deletes.isLeft sound (distinct_of_runs runs start (Definitions.nodup_of_ofLists loaded))
  refine ⟨fun entry mem ofRule => ?_, fun w₂ runs₂ => ?_⟩
  · have filed := Engine.filed_of_leads ((leads_of_runs runs).trans (leads_of_runs deletes.runs))
    by_contra ofCondition
    have hKey : entry.1 = id := by rw [filed entry mem, Alert.key, if_neg ofCondition, ofRule]
    exact deletes.free (hKey ▸ List.mem_map_of_mem mem)
  · have left₂ := left.runs runs₂ sound₁
    have sound₂ := (leads_of_runs runs₂).sound sound₁
    exact ⟨left₂.held, fun idle w₃ runs₃ => addsNone_of_runs left₂.absent idle runs₃ sound₂⟩

/-! A snapshot that two rules look at, one of which has raised an alert for an anomaly. -/

def load : Json := .object [("cpu", .int 90)]

def diskCheck : AnomalyCheck := ⟨diskRule, none, .warning, load⟩

def raiseSlow : Action := .raise diskCheck "node" ⟨none, none, .error, "slow", none⟩

def evaluateLoad : Action := .evaluate (cpuRule "cpu") "node" load

def loadUnderway : List Undertaking :=
  [.evaluation diskRule "node" load, .evaluation (cpuRule "cpu") "node" load,
    .detection diskCheck "node"]

def busy : AtWork where
  engine := diskEngine.run [.addRule (cpuRule "cpu"), .evaluate diskRule "node" load, raiseSlow]
  underway := loadUnderway

theorem detection_mem : .detection diskCheck "node" ∈ loadUnderway :=
  List.mem_of_getElem? (i := 2) rfl

theorem runs_busy : Runs (fun _ => True) ⟨diskEngine, []⟩ busy := by
  refine .head ⟨.request (.addRule (cpuRule "cpu")) rfl trivial, by decide⟩ ?_
  refine .head ⟨.ingest "node" load, by decide⟩ ?_
  have lookedUp : .evaluation diskRule "node" load ∈ loadUnderway.take 2 := List.mem_cons_self
  refine .head ⟨.evaluate lookedUp, by decide⟩ ?_
  exact .single ⟨.raise detection_mem _, by decide⟩

theorem isOver_of_deletes_busy :
    let w₁ : AtWork := ⟨busy.engine.run [.removeRule "disk", .retire "disk"], busy.underway⟩
    Deletes "disk" busy w₁ ∧ w₁.engine.alerts.active.map Prod.fst = ["first"] ∧
      ∀ entry ∈ w₁.engine.alerts.active, entry.2.ruleId = "disk" →
        entry.2.anomalyDetails.isSome := by
  intro w₁
  have hDelete : busy.engine.deleteRule "disk" = .ok (diskRule, w₁.engine) := rfl
  have deletes : Deletes "disk" busy w₁ := deletes_of_deleteRule hDelete
  have loaded : Definitions.ofLists [diskRule] [] = .ok ⟨[diskRule], []⟩ := rfl
  exact ⟨deletes, by decide, (isOver_of_deletes loaded runs_busy deletes).1⟩

/-- The alert for an anomaly outlives its rule, and a check that is under way raises another one.
The evaluation of a condition that is under way has an alert fire for a rule that is gone. -/
theorem active_after_deletion_busy :
    let activeAt (e : Engine) := e.alerts.active.map fun entry => (entry.1, entry.2.ruleId)
    let e := busy.engine.run [.removeRule "disk", .retire "disk"]
    let e' := busy.engine.run [.removeRule "cpu", .retire "cpu"]
    Runs (fun _ => True) ⟨diskEngine, []⟩ busy ∧
      busy.engine.deleteRule "disk" = .ok (diskRule, e) ∧ activeAt e = [("first", "disk")] ∧
      Runs (IsNotAdding "disk") ⟨e, busy.underway⟩ ⟨e.after raiseSlow, busy.underway⟩ ∧
      activeAt (e.after raiseSlow) = [("second", "disk")] ∧
      busy.engine.deleteRule "cpu" = .ok (cpuRule "cpu", e') ∧
      Runs (IsNotAdding "cpu") ⟨e', busy.underway⟩ ⟨e'.after evaluateLoad, busy.underway⟩ ∧
      activeAt (e'.after evaluateLoad) = [("first", "disk"), ("cpu", "cpu")] := by
  intro activeAt e e'
  have raised : Goes (IsNotAdding "disk") ⟨e, busy.underway⟩ ⟨e.after raiseSlow, busy.underway⟩ :=
    .raise detection_mem _
  have mem : .evaluation (cpuRule "cpu") "node" load ∈ loadUnderway :=
    List.mem_cons_of_mem _ List.mem_cons_self
  have evaluated : Goes (IsNotAdding "cpu") ⟨e', busy.underway⟩
      ⟨e'.after evaluateLoad, busy.underway⟩ :=
    .evaluate mem
  exact ⟨runs_busy, rfl, by decide, .single ⟨raised, by decide⟩, by decide, rfl,
    .single ⟨evaluated, by decide⟩, by decide⟩

end AtWork

end MetricAlerts
