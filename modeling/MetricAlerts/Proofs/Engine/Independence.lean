import Mathlib.Data.List.Perm.Basic
import MetricAlerts.Proofs.Definitions.Registry
import MetricAlerts.Proofs.Engine.Levels

/-! Rules do not influence one another when a snapshot is evaluated. What a rule does is decided by
the one entry under its id, which no other rule looks at or changes, so that its share in an
evaluation is the one it would have on its own, up to the ids that are given and the times that are
read. -/

namespace MetricAlerts

/-- An alert but for its id and the time at which it was created. -/
def Alert.stamped (id : String) (now : Timestamp) (a : Alert) : Alert :=
  { a with id, startsAt := now }

/-- An event but for the ids and times that it brings with it. -/
def Event.stamped (id : String) (now : Timestamp) : Event → Event
  | .created a => .created (a.stamped id now)
  | .resolved a => .resolved { a with resolvedAt := some now }
  | event => event

/-- What a rule makes of metrics where a given alert is active under its id. -/
inductive Verdict where
  | stays (outcome : Except EvaluationError RuleOutcome) (check : Option AnomalyCheck)
  | fires (value : Float) (metrics : Json)
  | clears (old : Alert)

namespace Verdict

def ofCondition (ruleId : String) (metrics : Json) (c : Condition) (entry : Option Alert) :
    Verdict :=
  if !c.threshold.isFinite then .stays (.error (.nonFiniteThreshold ruleId)) none
  else
    match c.query.resolve? metrics, entry with
    | none, _ => .stays (.ok .skipped) none
    | some value, none =>
      if c.comparison.holds value c.threshold then
        .fires value (.object [(c.query.text, Json.ofFloat value)])
      else .stays (.ok .unchanged) none
    | some value, some old =>
      if c.comparison.holds value c.threshold then .stays (.ok .unchanged) none else .clears old

def ofRule (rule : Rule) (metrics : Json) (entry : Option Alert) : Verdict :=
  match rule.kind with
  | .threshold c => ofCondition rule.id metrics c entry
  | .rateOfChange _ => .stays (.ok .notEvaluated) none
  | .anomaly _ _ =>
    match AnomalyCheck.ofRule? rule metrics with
    | some (.ok check) => .stays (.ok .deferred) (some check)
    | some (.error failure) => .stays (.error failure) none
    | none => .stays (.ok .notEvaluated) none

def outcome : Verdict → Except EvaluationError RuleOutcome
  | .stays outcome _ => outcome
  | .fires _ _ => .ok (.fired 1)
  | .clears _ => .ok .resolved

def check : Verdict → Option AnomalyCheck
  | .stays _ check => check
  | _ => none

end Verdict

namespace Engine

/-- The engine in which a verdict about a rule has been carried out. -/
def carryOut (e : Engine) (rule : Rule) (source : String) : Verdict → Engine
  | .stays _ _ => e
  | .fires value metrics =>
    let new := Alert.ofRule rule source value metrics e.nextId e.now
    ({ e with alerts := e.alerts.opened rule.id new, idsUsed := e.idsUsed + 1 }.tick).publish
      (.created new)
  | .clears old =>
    let resolved := AlertStore.resolvedCopy old autoResolveReason e.now
    ({ e with
      alerts := e.alerts.closed (e.alerts.active.filter fun entry => entry.1 != rule.id) resolved
    }.tick).publish (.resolved resolved)

theorem evaluateCondition_eq (e : Engine) (rule : Rule) (source : String) (metrics : Json)
    (c : Condition) :
    let verdict := Verdict.ofCondition rule.id metrics c (lookup? rule.id e.alerts.active)
    e.evaluateCondition rule source metrics c =
        (verdict.outcome, e.carryOut rule source verdict) ∧ verdict.check = none := by
  intro verdict
  unfold evaluateCondition
  by_cases finite : c.threshold.isFinite
  · cases hFound : c.query.resolve? metrics with
    | none => simp [verdict, Verdict.ofCondition, finite, hFound, Verdict.outcome, Verdict.check,
        carryOut]
    | some value =>
      by_cases holds : c.comparison.holds value c.threshold
      · cases hEntry : lookup? rule.id e.alerts.active with
        | none =>
          have free : rule.id ∉ keys e.alerts.active := lookup?_eq_none_iff.mp hEntry
          simp [verdict, Verdict.ofCondition, finite, hFound, holds, hEntry, Verdict.outcome,
            Verdict.check, carryOut, storeCreate, AlertStore.create, AlertStore.opened,
            AlertStore.setEntry_of_notMem free]
        | some old =>
          simp [verdict, Verdict.ofCondition, finite, hFound, holds, hEntry, Verdict.outcome,
            Verdict.check, carryOut, storeCreate, AlertStore.create]
      · cases hEntry : lookup? rule.id e.alerts.active with
        | none =>
          simp [verdict, Verdict.ofCondition, finite, hFound, holds, hEntry, Verdict.outcome,
            Verdict.check, carryOut, storeResolveRule?, AlertStore.resolveRule?_eq_resolveKey?,
            AlertStore.resolveKey?, withAlerts]
        | some old =>
          simp [verdict, Verdict.ofCondition, finite, hFound, holds, hEntry, Verdict.outcome,
            Verdict.check, carryOut, storeResolveRule?, AlertStore.resolveRule?_eq_resolveKey?,
            AlertStore.resolveKey?, withAlerts, AlertStore.closed]
  · simp [verdict, Verdict.ofCondition, finite, Verdict.outcome, Verdict.check, carryOut]

/-- A rule looks at nothing in the store but the entry under its id. -/
theorem evaluateRule_eq (e : Engine) (rule : Rule) (source : String) (metrics : Json) :
    let verdict := Verdict.ofRule rule metrics (lookup? rule.id e.alerts.active)
    e.evaluateRule rule source metrics =
      (verdict.outcome, verdict.check, e.carryOut rule source verdict) := by
  intro verdict
  unfold evaluateRule
  cases hKind : rule.kind with
  | threshold c =>
    obtain ⟨hCondition, hCheck⟩ := e.evaluateCondition_eq rule source metrics c
    simp only [verdict, Verdict.ofRule, hKind, hCondition, hCheck]
  | rateOfChange c => simp only [verdict, Verdict.ofRule, hKind, Verdict.outcome, Verdict.check,
      carryOut]
  | anomaly resourceType minSeverity =>
    simp only [verdict, Verdict.ofRule, hKind]
    rcases AnomalyCheck.ofRule? rule metrics with _ | failure | check <;> rfl

/-! The share of one rule. -/

/-- What one rule has to do with an evaluation. -/
structure Share where
  rule : Rule
  outcome : Except EvaluationError RuleOutcome
  check : Option AnomalyCheck
  /-- What is active under the id of the rule afterwards. -/
  entry : Option Alert
  published : List Event

/-- A share but for the ids and times in it. -/
def Share.stamped (id : String) (now : Timestamp) (s : Share) : Share :=
  { s with
    entry := s.entry.map (Alert.stamped id now)
    published := s.published.map (Event.stamped id now) }

/-- The share of a rule that is evaluated on its own. -/
def share (e : Engine) (source : String) (metrics : Json) (rule : Rule) : Share :=
  let (outcome, check, e') := e.evaluateRule rule source metrics
  { rule, outcome, check
    entry := lookup? rule.id e'.alerts.active
    published := e'.events.drop e.events.length }

/-- The shares of rules that are evaluated one after another. -/
def shares (source : String) (metrics : Json) : List Rule → Engine → List Share
  | [], _ => []
  | rule :: rules, e =>
    e.share source metrics rule ::
      shares source metrics rules (e.evaluateRule rule source metrics).2.2

variable {e e' : Engine} {rule : Rule} {rules rules' : List Rule} {source : String} {metrics : Json}
  {report : EvaluationReport} {key : String}

/-- The events that tell of a verdict. -/
def announced (e : Engine) (rule : Rule) (source : String) : Verdict → List Event
  | .stays _ _ => []
  | .fires value metrics => [.created (Alert.ofRule rule source value metrics e.nextId e.now)]
  | .clears old => [.resolved (AlertStore.resolvedCopy old autoResolveReason e.now)]

theorem events_carryOut (e : Engine) (rule : Rule) (source : String) (verdict : Verdict) :
    (e.carryOut rule source verdict).events = e.events ++ e.announced rule source verdict := by
  cases verdict with
  | stays => exact (List.append_nil _).symm
  | fires => exact events_publish ..
  | clears => exact events_publish ..

theorem lookup?_carryOut_of_ne (e : Engine) (rule : Rule) (source : String) (verdict : Verdict)
    (other : key ≠ rule.id) :
    lookup? key (e.carryOut rule source verdict).alerts.active = lookup? key e.alerts.active := by
  cases verdict with
  | stays => rfl
  | fires value metrics =>
    show lookup? key (e.alerts.active ++ [(rule.id, _)]) = _
    rw [lookup?_append, lookup?, if_neg (Ne.symm other), lookup?, Option.or_none]
  | clears old =>
    exact lookup?_filter (fun k => k != rule.id) (by simpa using other) e.alerts.active

theorem lookup?_evaluateRule_of_ne (e : Engine) (metrics : Json) (other : key ≠ rule.id) :
    lookup? key (e.evaluateRule rule source metrics).2.2.alerts.active =
      lookup? key e.alerts.active := by
  rw [evaluateRule_eq]
  exact lookup?_carryOut_of_ne e rule source _ other

/-- What a verdict leaves active under the id of a rule, where an entry was. -/
def entryAfter (e : Engine) (rule : Rule) (source : String) (entry : Option Alert) :
    Verdict → Option Alert
  | .stays _ _ => entry
  | .fires value metrics =>
    entry.or (some (Alert.ofRule rule source value metrics e.nextId e.now))
  | .clears _ => none

theorem lookup?_carryOut_self (e : Engine) (rule : Rule) (source : String) (verdict : Verdict) :
    lookup? rule.id (e.carryOut rule source verdict).alerts.active =
      e.entryAfter rule source (lookup? rule.id e.alerts.active) verdict := by
  cases verdict with
  | stays => rfl
  | fires value metrics =>
    show lookup? rule.id (e.alerts.active ++ [(rule.id, _)]) = _
    rw [lookup?_append, lookup?, if_pos rfl]
    rfl
  | clears old =>
    show lookup? rule.id (e.alerts.active.filter fun entry => entry.1 != rule.id) = none
    exact lookup?_eq_none_iff.mpr (by simp [keys])

theorem share_eq (e : Engine) (source : String) (metrics : Json) (rule : Rule) :
    let entry := lookup? rule.id e.alerts.active
    let verdict := Verdict.ofRule rule metrics entry
    e.share source metrics rule =
      ⟨rule, verdict.outcome, verdict.check, e.entryAfter rule source entry verdict,
        e.announced rule source verdict⟩ := by
  intro entry verdict
  unfold share
  rw [evaluateRule_eq]
  simp only [lookup?_carryOut_self, events_carryOut, List.drop_left]
  rfl

theorem events_evaluateRule (e : Engine) (rule : Rule) (source : String) (metrics : Json) :
    (e.evaluateRule rule source metrics).2.2.events =
      e.events ++ (e.share source metrics rule).published := by
  rw [share_eq, evaluateRule_eq]
  exact events_carryOut ..

/-- The share of a rule depends on nothing but the entry under its id, up to the ids that are given
and the times that are read. -/
theorem share_congr (same : lookup? rule.id e.alerts.active = lookup? rule.id e'.alerts.active)
    (id : String) (now : Timestamp) :
    (e.share source metrics rule).stamped id now =
      (e'.share source metrics rule).stamped id now := by
  rw [share_eq, share_eq, ← same]
  generalize lookup? rule.id e.alerts.active = entry
  cases Verdict.ofRule rule metrics entry with
  | stays => rfl
  | fires => cases entry <;> rfl
  | clears => rfl

/-- An alert that was there before stays as it is or goes. -/
theorem entry_share_of_some {old : Alert} (h : lookup? rule.id e.alerts.active = some old)
    (same : lookup? rule.id e.alerts.active = lookup? rule.id e'.alerts.active) :
    (e.share source metrics rule).entry = (e'.share source metrics rule).entry := by
  rw [share_eq, share_eq, ← same, h]
  cases Verdict.ofRule rule metrics (some old) <;> rfl

/-! The shares of all rules. -/

theorem lookup?_evaluateRules_of_notMem (e : Engine) (source : String) (metrics : Json)
    (report : EvaluationReport) (h : key ∉ Registry.ids rules) :
    lookup? key (evaluateRules source metrics rules report e).2.2.alerts.active =
      lookup? key e.alerts.active := by
  induction rules generalizing e report with
  | nil => rfl
  | cons rule rules ih =>
    rw [Registry.ids, List.map_cons, List.mem_cons, not_or] at h
    exact (ih _ _ h.2).trans (lookup?_evaluateRule_of_ne e metrics h.1)

/-- The shares of rules with distinct ids are those that they have on their own. -/
theorem shares_stamped (distinct : (Registry.ids rules).Nodup) (e : Engine) (id : String)
    (now : Timestamp) :
    (shares source metrics rules e).map (Share.stamped id now) =
      rules.map fun rule => (e.share source metrics rule).stamped id now := by
  induction rules generalizing e with
  | nil => rfl
  | cons rule rules ih =>
    obtain ⟨other, distinct⟩ := List.nodup_cons.mp distinct
    rw [shares, List.map_cons, List.map_cons, ih distinct]
    congr 1
    refine List.map_congr_left fun later mem => share_congr ?_ id now
    exact lookup?_evaluateRule_of_ne e metrics fun same =>
      other (Registry.mem_ids.mpr ⟨later, mem, same⟩)

theorem rules_shares (source : String) (metrics : Json) (rules : List Rule) (e : Engine) :
    (shares source metrics rules e).map Share.rule = rules := by
  induction rules generalizing e with
  | nil => rfl
  | cons rule rules ih => exact congrArg (rule :: ·) (ih _)

theorem entry_of_mem_shares (distinct : (Registry.ids rules).Nodup) {s : Share} {old : Alert}
    (mem : s ∈ shares source metrics rules e)
    (found : lookup? s.rule.id e.alerts.active = some old) :
    s.entry = (e.share source metrics s.rule).entry := by
  induction rules generalizing e with
  | nil => cases mem
  | cons rule rules ih =>
    obtain ⟨other, distinct⟩ := List.nodup_cons.mp distinct
    rw [shares, List.mem_cons] at mem
    rcases mem with rfl | mem
    · rfl
    · have here : s.rule ∈ rules := by
        rw [← rules_shares source metrics rules]
        exact List.mem_map_of_mem mem
      have same : lookup? s.rule.id (e.evaluateRule rule source metrics).2.2.alerts.active =
          lookup? s.rule.id e.alerts.active :=
        lookup?_evaluateRule_of_ne e metrics fun same =>
          other (Registry.mem_ids.mpr ⟨s.rule, here, same⟩)
      rw [ih distinct mem (same.trans found)]
      exact entry_share_of_some (same.trans found) same

theorem lookup?_of_mem_shares (distinct : (Registry.ids rules).Nodup) (report : EvaluationReport)
    {s : Share} (mem : s ∈ shares source metrics rules e) :
    lookup? s.rule.id (evaluateRules source metrics rules report e).2.2.alerts.active =
      s.entry := by
  induction rules generalizing e report with
  | nil => cases mem
  | cons rule rules ih =>
    obtain ⟨other, distinct⟩ := List.nodup_cons.mp distinct
    rw [shares, List.mem_cons] at mem
    rcases mem with rfl | mem
    · exact lookup?_evaluateRules_of_notMem _ _ _ _ other
    · exact ih distinct _ mem

theorem report_evaluateRules (rules : List Rule) (report : EvaluationReport) (e : Engine) :
    (evaluateRules source metrics rules report e).1 =
      ((shares source metrics rules e).map Share.outcome).foldl EvaluationReport.count report := by
  induction rules generalizing e report with
  | nil => rfl
  | cons rule rules ih => exact ih _ _

theorem checks_evaluateRules (rules : List Rule) (report : EvaluationReport) (e : Engine) :
    (evaluateRules source metrics rules report e).2.1 =
      (shares source metrics rules e).filterMap Share.check := by
  induction rules generalizing e report with
  | nil => rfl
  | cons rule rules ih =>
    let later := (e.evaluateRule rule source metrics).2.2
    show (e.share source metrics rule).check.toList ++
        (evaluateRules source metrics rules _ later).2.1 =
      (e.share source metrics rule :: shares source metrics rules later).filterMap Share.check
    rw [ih, List.filterMap_cons]
    cases (e.share source metrics rule).check <;> rfl

theorem events_evaluateRules (rules : List Rule) (report : EvaluationReport) (e : Engine) :
    (evaluateRules source metrics rules report e).2.2.events =
      e.events ++ (shares source metrics rules e).flatMap Share.published := by
  induction rules generalizing e report with
  | nil => exact (List.append_nil _).symm
  | cons rule rules ih =>
    rw [shares, List.flatMap_cons, ← List.append_assoc, ← events_evaluateRule]
    exact ih _ _

/-- The shares of the rules that look at a source, if an engine has these rules. -/
def sharesOf (e : Engine) (rules : List Rule) (source : String) (metrics : Json) : List Share :=
  shares source metrics (rules.filter fun rule => rule.appliesTo source) (e.withRules rules)

/-- What an evaluation comes to is made up of shares. -/
structure Comprises (e : Engine) (source : String) (shares : List Share)
    (result : EvaluationReport × List AnomalyCheck × Engine) : Prop where
  report : result.1 = (shares.map Share.outcome).foldl EvaluationReport.count
    (.start source shares.length)
  checks : result.2.1 = shares.filterMap Share.check
  events : result.2.2.events = e.events ++ shares.flatMap Share.published
  entries : ∀ s ∈ shares, lookup? s.rule.id result.2.2.alerts.active = s.entry
  others : ∀ key, key ∉ shares.map (·.rule.id) →
    lookup? key result.2.2.alerts.active = lookup? key e.alerts.active

theorem nodup_filter (distinct : (Registry.ids rules).Nodup) (keep : Rule → Bool) :
    (Registry.ids (rules.filter keep)).Nodup :=
  distinct.sublist (List.filter_sublist.map _)

theorem ids_sharesOf (e : Engine) (rules : List Rule) (source : String) (metrics : Json) :
    (e.sharesOf rules source metrics).map (·.rule.id) =
      Registry.ids (rules.filter fun rule => rule.appliesTo source) := by
  rw [Registry.ids, ← rules_shares source metrics (rules.filter _) (e.withRules rules),
    List.map_map]
  rfl

theorem comprises_evaluate (distinct : (Registry.ids rules).Nodup) (e : Engine) (source : String)
    (metrics : Json) :
    e.Comprises source (e.sharesOf rules source metrics)
      ((e.withRules rules).evaluate source metrics) := by
  have distinct' := nodup_filter distinct fun rule => rule.appliesTo source
  refine ⟨?_, checks_evaluateRules .., events_evaluateRules .., ?_, ?_⟩
  · have count : (e.sharesOf rules source metrics).length =
        (rules.filter fun rule => rule.appliesTo source).length := by
      rw [← List.length_map Share.rule, sharesOf, rules_shares]
    rw [count]
    exact report_evaluateRules ..
  · exact fun s mem => lookup?_of_mem_shares distinct' _ mem
  · rw [ids_sharesOf]
    exact fun key other => lookup?_evaluateRules_of_notMem (e.withRules rules) _ _ _ other

theorem sharesOf_stamped (distinct : (Registry.ids rules).Nodup) (e : Engine) (source : String)
    (metrics : Json) (id : String) (now : Timestamp) :
    (e.sharesOf rules source metrics).map (Share.stamped id now) =
      (rules.filter fun rule => rule.appliesTo source).map fun rule =>
        (e.share source metrics rule).stamped id now := by
  rw [sharesOf, shares_stamped (nodup_filter distinct _)]
  have same (rule : Rule) : lookup? rule.id (e.withRules rules).alerts.active =
      lookup? rule.id e.alerts.active := rfl
  exact List.map_congr_left fun rule _ => share_congr (same rule) id now

/-- What is active under a key in two engines that come from the same one: what it was before has
become of the same in both, and what is new is so but for its id and its time. -/
structure AgreeAt (e first second : Engine) (key : String) : Prop where
  kept : key ∈ keys e.alerts.active →
    lookup? key second.alerts.active = lookup? key first.alerts.active
  new : ∀ id now, (lookup? key second.alerts.active).map (Alert.stamped id now) =
    (lookup? key first.alerts.active).map (Alert.stamped id now)

theorem AgreeAt.of_eq {first second : Engine}
    (h : lookup? key second.alerts.active = lookup? key first.alerts.active) :
    e.AgreeAt first second key :=
  ⟨fun _ => h, fun _ _ => congrArg _ h⟩

theorem AgreeAt.of_common {first second alone : Engine} (h : e.AgreeAt alone first key)
    (h' : e.AgreeAt alone second key) : e.AgreeAt first second key :=
  ⟨fun there => (h'.kept there).trans (h.kept there).symm,
    fun id now => (h'.new id now).trans (h.new id now).symm⟩

/-- The evaluation of all rules agrees with that of one of them about its entry. -/
theorem agreeAt_evaluateRule (distinct : (Registry.ids rules).Nodup) (mem : rule ∈ rules)
    (applies : rule.appliesTo source) (metrics : Json) :
    e.AgreeAt (e.evaluateRule rule source metrics).2.2
      ((e.withRules rules).evaluate source metrics).2.2 rule.id := by
  have distinct' := nodup_filter distinct fun rule => rule.appliesTo source
  obtain ⟨s, hShare, rfl⟩ : ∃ s ∈ e.sharesOf rules source metrics, s.rule = rule := by
    apply List.mem_map.mp
    rw [sharesOf, rules_shares]
    exact List.mem_filter.mpr ⟨mem, applies⟩
  have hEntry := (comprises_evaluate distinct e source metrics).entries s hShare
  constructor
  · intro there
    obtain ⟨old, found⟩ := Option.isSome_iff_exists.mp (isSome_lookup?_iff.mpr there)
    have same : lookup? s.rule.id (e.withRules rules).alerts.active =
        lookup? s.rule.id e.alerts.active := rfl
    rw [hEntry, entry_of_mem_shares distinct' hShare (same.trans found)]
    exact entry_share_of_some (same.trans found) same
  · intro id now
    have stamped : (e.sharesOf rules source metrics).map (Share.stamped id now) =
        (e.sharesOf rules source metrics).map fun s =>
          (e.share source metrics s.rule).stamped id now := by
      rw [sharesOf_stamped distinct,
        ← rules_shares source metrics (rules.filter _) (e.withRules rules), List.map_map]
      rfl
    rw [hEntry]
    exact congrArg Share.entry (List.map_inj_left.mp stamped s hShare)

/-- Whether other rules are there makes no difference to the entry under an id. -/
theorem agreeAt_evaluate (distinct : (Registry.ids rules).Nodup)
    (distinct' : (Registry.ids rules').Nodup)
    (same : ∀ rule : Rule, rule.id = key → (rule ∈ rules ↔ rule ∈ rules')) (e : Engine)
    (source : String) (metrics : Json) :
    e.AgreeAt ((e.withRules rules).evaluate source metrics).2.2
      ((e.withRules rules').evaluate source metrics).2.2 key := by
  by_cases h : ∃ rule ∈ rules, rule.appliesTo source ∧ rule.id = key
  · obtain ⟨rule, mem, applies, rfl⟩ := h
    exact (agreeAt_evaluateRule distinct mem applies metrics).of_common
      (agreeAt_evaluateRule distinct' ((same rule rfl).mp mem) applies metrics)
  · apply AgreeAt.of_eq
    have absent : ∀ rules'' : List Rule, (∀ rule ∈ rules'', rule.id = key → rule ∈ rules) →
        key ∉ Registry.ids (rules''.filter fun rule => rule.appliesTo source) := by
      intro rules'' sub hKey
      obtain ⟨rule, mem, hId⟩ := Registry.mem_ids.mp hKey
      obtain ⟨mem, applies⟩ := List.mem_filter.mp mem
      exact h ⟨rule, sub rule mem hId, applies, hId⟩
    have left := lookup?_evaluateRules_of_notMem (e.withRules rules) source metrics
      (.start source (rules.filter fun rule => rule.appliesTo source).length)
      (absent rules fun _ mem _ => mem)
    have right := lookup?_evaluateRules_of_notMem (e.withRules rules') source metrics
      (.start source (rules'.filter fun rule => rule.appliesTo source).length)
      (absent rules' fun rule mem hId => (same rule hId).mpr mem)
    exact right.trans left.symm

end Engine

namespace EvaluationReport

theorem count_count (r : EvaluationReport) (first second : Except EvaluationError RuleOutcome) :
    (r.count first).count second = (r.count second).count first := by
  rcases first with _ | (_ | _ | _ | _ | _ | _) <;>
    rcases second with _ | (_ | _ | _ | _ | _ | _) <;> simp only [count, Nat.add_right_comm]

instance : RightCommutative count := ⟨count_count⟩

theorem count_evaluated (r : EvaluationReport) (n : Nat)
    (outcome : Except EvaluationError RuleOutcome) :
    { r with evaluated := n }.count outcome = { r.count outcome with evaluated := n } := by
  rcases outcome with _ | (_ | _ | _ | _ | _ | _) <;> rfl

/-- The report with one more rule that has been evaluated. -/
def withRule (r : EvaluationReport) (outcome : Except EvaluationError RuleOutcome) :
    EvaluationReport :=
  { r with evaluated := r.evaluated + 1 }.count outcome

theorem foldl_count_evaluated (outcomes : List (Except EvaluationError RuleOutcome))
    (r : EvaluationReport) (n : Nat) :
    outcomes.foldl count { r with evaluated := n } =
      { outcomes.foldl count r with evaluated := n } := by
  induction outcomes generalizing r with
  | nil => rfl
  | cons outcome outcomes ih => rw [List.foldl_cons, count_evaluated, ih, List.foldl_cons]

theorem evaluated_foldl_count (outcomes : List (Except EvaluationError RuleOutcome))
    (r : EvaluationReport) : (outcomes.foldl count r).evaluated = r.evaluated :=
  congrArg (·.evaluated) (foldl_count_evaluated outcomes r r.evaluated)

theorem foldl_count_middle (source : String)
    (first last : List (Except EvaluationError RuleOutcome))
    (outcome : Except EvaluationError RuleOutcome) :
    (first ++ outcome :: last).foldl count (start source (first ++ outcome :: last).length) =
      ((first ++ last).foldl count (start source (first ++ last).length)).withRule outcome := by
  have perm : (first ++ outcome :: last).Perm (first ++ last ++ [outcome]) :=
    List.perm_middle.trans (List.perm_append_singleton _ _).symm
  have more : start source (first ++ outcome :: last).length =
      { start source (first ++ last).length with evaluated := (first ++ last).length + 1 } :=
    congrArg (start source) (perm.length_eq.trans List.length_append)
  rw [perm.foldl_eq, List.foldl_concat, more, foldl_count_evaluated, withRule,
    evaluated_foldl_count]
  rfl

end EvaluationReport

namespace Engine

variable {e : Engine} {rule : Rule} {rules rules' : List Rule} {source : String} {metrics : Json}

theorem outcomes_sharesOf (distinct : (Registry.ids rules).Nodup) (e : Engine) (source : String)
    (metrics : Json) :
    (e.sharesOf rules source metrics).map Share.outcome =
      (rules.filter fun rule => rule.appliesTo source).map fun rule =>
        (e.evaluateRule rule source metrics).1 := by
  have stamped := congrArg (List.map Share.outcome)
    (sharesOf_stamped distinct e source metrics "" e.now)
  rw [List.map_map, List.map_map] at stamped
  exact stamped

/-- The report of an evaluation counts what each rule would do on its own. -/
theorem report_evaluate (distinct : (Registry.ids rules).Nodup) (e : Engine) (source : String)
    (metrics : Json) :
    let outcomes := (rules.filter fun rule => rule.appliesTo source).map fun rule =>
      (e.evaluateRule rule source metrics).1
    ((e.withRules rules).evaluate source metrics).1 =
      outcomes.foldl EvaluationReport.count (.start source outcomes.length) := by
  intro outcomes
  rw [(comprises_evaluate distinct e source metrics).report, ← List.length_map Share.outcome,
    outcomes_sharesOf distinct]

/-- Two evaluations that start from the same engine come to the same. -/
structure Matches (e : Engine) (first second : EvaluationReport × List AnomalyCheck × Engine) :
    Prop where
  report : second.1 = first.1
  checks : second.2.1.Perm first.2.1
  active : ∀ key, e.AgreeAt first.2.2 second.2.2 key
  events : ∃ published published', first.2.2.events = e.events ++ published ∧
    second.2.2.events = e.events ++ published' ∧
    ∀ id now, (published'.map (Event.stamped id now)).Perm (published.map (Event.stamped id now))

theorem matches_of_perm (distinct : (Registry.ids rules).Nodup) (perm : rules'.Perm rules)
    (e : Engine) (source : String) (metrics : Json) :
    e.Matches ((e.withRules rules).evaluate source metrics)
      ((e.withRules rules').evaluate source metrics) := by
  have distinct' : (Registry.ids rules').Nodup := (perm.map Identified.id).nodup_iff.mpr distinct
  have whole := comprises_evaluate distinct e source metrics
  have whole' := comprises_evaluate distinct' e source metrics
  have applying := perm.filter fun rule => rule.appliesTo source
  have shares (id : String) (now : Timestamp) :
      ((e.sharesOf rules' source metrics).map (Share.stamped id now)).Perm
        ((e.sharesOf rules source metrics).map (Share.stamped id now)) := by
    rw [sharesOf_stamped distinct, sharesOf_stamped distinct']
    exact applying.map _
  have same (rule : Rule) : rule ∈ rules ↔ rule ∈ rules' := perm.mem_iff.symm
  refine ⟨?_, ?_, fun key => agreeAt_evaluate distinct distinct' (fun rule _ => same rule) ..,
    _, _, whole.events, whole'.events, fun id now => ?_⟩
  · rw [report_evaluate distinct, report_evaluate distinct', (applying.map _).length_eq]
    exact (applying.map _).foldl_eq _
  · have checks := (shares "" e.now).filterMap Share.check
    rw [List.filterMap_map, List.filterMap_map] at checks
    rw [whole.checks, whole'.checks]
    exact checks
  · have published := (shares id now).flatMap_right Share.published
    rw [List.flatMap_map, List.flatMap_map] at published
    rw [List.map_flatMap, List.map_flatMap]
    exact published

/-- The evaluation by `part` is that by `whole` without one rule. -/
structure Omits (e : Engine) (source : String) (metrics : Json) (rule : Rule)
    (whole part : List Rule) : Prop where
  shares : ∀ id now, (e.sharesOf part source metrics).map (Share.stamped id now) =
    ((e.sharesOf whole source metrics).filter fun s => s.rule.id ≠ rule.id).map
      (Share.stamped id now)
  report : ((e.withRules whole).evaluate source metrics).1 =
    if rule.appliesTo source then
      ((e.withRules part).evaluate source metrics).1.withRule (e.evaluateRule rule source metrics).1
    else ((e.withRules part).evaluate source metrics).1
  active : ∀ key, key ≠ rule.id → e.AgreeAt ((e.withRules whole).evaluate source metrics).2.2
    ((e.withRules part).evaluate source metrics).2.2 key
  own : lookup? rule.id ((e.withRules part).evaluate source metrics).2.2.alerts.active =
    lookup? rule.id e.alerts.active

section

variable {before after : List Rule}

theorem nodup_append (distinct : (Registry.ids (before ++ rule :: after)).Nodup) :
    (Registry.ids (before ++ after)).Nodup ∧ ∀ r ∈ before ++ after, r.id ≠ rule.id := by
  have perm : (before ++ rule :: after).Perm (rule :: (before ++ after)) := List.perm_middle
  obtain ⟨other, rest⟩ := List.nodup_cons.mp ((perm.map Identified.id).nodup_iff.mp distinct)
  exact ⟨rest, fun r mem same => other (Registry.mem_ids.mpr ⟨r, mem, same⟩)⟩

theorem filter_other (others : ∀ r ∈ before ++ after, r.id ≠ rule.id) :
    ((before ++ rule :: after).filter fun r => r.id ≠ rule.id) = before ++ after := by
  rw [List.filter_append, List.filter_cons_of_neg (by simp), ← List.filter_append]
  exact List.filter_eq_self.mpr fun r mem => decide_eq_true (others r mem)

/-- A stamp leaves the rule of a share alone, so that the others may be stamped before or after. -/
theorem shares_omitted (distinct : (Registry.ids (before ++ rule :: after)).Nodup) (e : Engine)
    (source : String) (metrics : Json) (id : String) (now : Timestamp) :
    (e.sharesOf (before ++ after) source metrics).map (Share.stamped id now) =
      ((e.sharesOf (before ++ rule :: after) source metrics).filter
        fun s => s.rule.id ≠ rule.id).map (Share.stamped id now) := by
  obtain ⟨rest, others⟩ := nodup_append distinct
  have commutes (shares : List Share) :
      (shares.filter fun s => s.rule.id ≠ rule.id).map (Share.stamped id now) =
        (shares.map (Share.stamped id now)).filter fun s => s.rule.id ≠ rule.id := by
    rw [List.filter_map]
    rfl
  rw [commutes, sharesOf_stamped rest, sharesOf_stamped distinct, List.filter_map]
  congr 1
  rw [← filter_other others, List.filter_filter, List.filter_filter]
  refine List.filter_congr fun r _ => ?_
  rw [Bool.and_comm]
  rfl

theorem report_omitted (distinct : (Registry.ids (before ++ rule :: after)).Nodup) (e : Engine)
    (source : String) (metrics : Json) :
    ((e.withRules (before ++ rule :: after)).evaluate source metrics).1 =
      if rule.appliesTo source then
        ((e.withRules (before ++ after)).evaluate source metrics).1.withRule
          (e.evaluateRule rule source metrics).1
      else ((e.withRules (before ++ after)).evaluate source metrics).1 := by
  rw [report_evaluate distinct, report_evaluate (nodup_append distinct).1]
  rw [List.filter_append, List.filter_append]
  by_cases applies : rule.appliesTo source
  · rw [List.filter_cons, if_pos applies, if_pos applies, List.map_append, List.map_cons,
      List.map_append]
    exact EvaluationReport.foldl_count_middle ..
  · rw [List.filter_cons, if_neg applies, if_neg applies]

theorem omits_middle (distinct : (Registry.ids (before ++ rule :: after)).Nodup) (e : Engine)
    (source : String) (metrics : Json) :
    e.Omits source metrics rule (before ++ rule :: after) (before ++ after) := by
  obtain ⟨rest, others⟩ := nodup_append distinct
  refine ⟨shares_omitted distinct e source metrics, report_omitted distinct e source metrics,
    fun key other => ?_, ?_⟩
  · refine agreeAt_evaluate distinct rest (fun r same => ?_) e source metrics
    have apart : r ≠ rule := by
      rintro rfl
      exact other same.symm
    simp [apart]
  · refine (comprises_evaluate rest e source metrics).others rule.id ?_
    rw [ids_sharesOf]
    intro again
    obtain ⟨r, mem, same⟩ := Registry.mem_ids.mp again
    exact others r (List.mem_of_mem_filter mem) same

end

/-- Rules with distinct ids do not influence one another when a snapshot is evaluated. What the
evaluation comes to is made up of the shares of the rules. Evaluated in another order, from whatever
state, they come to the same; and without one of them, each other one has the share that it had,
while the report lacks just what that one does. -/
theorem rules_apart (distinct : (Registry.ids rules).Nodup) (e : Engine) (source : String)
    (metrics : Json) :
    e.Comprises source (e.sharesOf rules source metrics)
        ((e.withRules rules).evaluate source metrics) ∧
      (∀ rules' : List Rule, rules'.Perm rules →
        e.Matches ((e.withRules rules).evaluate source metrics)
          ((e.withRules rules').evaluate source metrics)) ∧
      ∀ before rule after, rules = before ++ rule :: after →
        e.Comprises source (e.sharesOf (before ++ after) source metrics)
            ((e.withRules (before ++ after)).evaluate source metrics) ∧
          e.Omits source metrics rule rules (before ++ after) := by
  refine ⟨comprises_evaluate distinct e source metrics,
    fun rules' perm => matches_of_perm distinct perm e source metrics, ?_⟩
  rintro before rule after rfl
  exact ⟨comprises_evaluate (nodup_append distinct).1 e source metrics,
    omits_middle distinct e source metrics⟩

/-- A rule that fails, one that fires and one whose check is left to the background. -/
def mixedRules : List Rule :=
  [{ cpuRule "broken" with kind := .threshold ⟨.key "cpu", .greater, 1 / 0⟩ }, cpuRule "cpu",
    AlertStore.diskRule]

theorem rules_apart_mixedRules :
    let evaluate (rules : List Rule) :=
      (diskEngine.withRules rules).evaluate "node" (.object [("cpu", .int 95)])
    (Registry.ids mixedRules).Nodup ∧
      (evaluate mixedRules).1 = ⟨"node", 3, 1, 0, 0, 1, 1⟩ ∧
      (evaluate mixedRules.reverse).1 = (evaluate mixedRules).1 := by
  intro evaluate
  have distinct : (Registry.ids mixedRules).Nodup := by decide
  have apart := rules_apart distinct diskEngine "node" (.object [("cpu", .int 95)])
  exact ⟨distinct, by decide, (apart.2.1 _ (List.reverse_perm _)).report⟩

end Engine

end MetricAlerts
