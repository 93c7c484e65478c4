import MetricAlerts.Proofs.System.Checks
import MetricAlerts.Proofs.System.Operations

/-! An analyzer that is broken. Whatever its calls are made for, they come to the neutral answer,
and then a task ends without a change of an alert and without an event. -/

namespace MetricAlerts

/-- A call that fails, or that is not answered before its limit. -/
def TimedReply.IsBroken {α : Type} (limit : Nat) (r : TimedReply α) : Prop :=
  match r.reply with
  | .answer _ => limit < r.delay
  | .failure => True
  | .silence => True

instance {α : Type} (limit : Nat) (r : TimedReply α) : Decidable (r.IsBroken limit) := by
  unfold TimedReply.IsBroken
  split <;> infer_instance

/-- An analyzer all of whose calls are broken. -/
structure Analyzer.IsBroken (limit : Nat) (a : Analyzer) : Prop where
  explanations : ∀ r ∈ a.explanations, r.IsBroken limit
  recommendations : ∀ r ∈ a.recommendations, r.IsBroken limit
  correlations : ∀ r ∈ a.correlations, r.IsBroken limit
  patterns : ∀ r ∈ a.patterns, r.IsBroken limit

theorem Analyzer.isBroken_neutral (limit : Nat) : Analyzer.neutral.IsBroken limit := by
  constructor <;> exact List.forall_mem_nil _

theorem Analyzer.UsesUp.isBroken {a a' : Analyzer} {limit : Nat} (usesUp : a.UsesUp a')
    (broken : a.IsBroken limit) : a'.IsBroken limit where
  explanations r mem := broken.explanations r (usesUp.explanations.subset mem)
  recommendations r mem := broken.recommendations r (usesUp.recommendations.subset mem)
  correlations r mem := broken.correlations r (usesUp.correlations.subset mem)
  patterns r mem := broken.patterns r (usesUp.patterns.subset mem)

/-- A broken call is worth the neutral answer. -/
theorem within_of_isBroken {α : Type} {limit : Nat} {neutral : α} {r : TimedReply α}
    (broken : r.IsBroken limit) : (r.within limit neutral).2 = neutral := by
  simp only [TimedReply.IsBroken] at broken
  rw [TimedReply.within]
  cases hReply : r.reply with
  | answer value =>
    simp only [hReply] at broken
    simp [Nat.not_le.mpr broken]
  | failure | silence => rfl

/-- So is one to which there is nothing to say. -/
theorem within_nextReply {α : Type} {limit : Nat} {neutral : α} {replies : List (TimedReply α)}
    (broken : ∀ r ∈ replies, r.IsBroken limit) :
    ((nextReply neutral replies).1.within limit neutral).2 = neutral := by
  cases replies with
  | nil => simp [nextReply, TimedReply.within]
  | cons r replies => exact within_of_isBroken (broken r List.mem_cons_self)

/-! Tasks that nothing will come of. -/

/-- There is no alert to be raised for a check. -/
def CheckState.IsQuiet : CheckState → Prop
  | .asked answer => answer.value.anomalies = []
  | .raising anomalies => anomalies = []

/-- There are no patterns to be announced. -/
def PatternRun.IsQuiet : PatternRun → Prop
  | .asked answer => answer.value.isEmpty
  | _ => True

/-- A task that has no answer with which something could be done, and that evaluates no rules. -/
def Task.IsQuiet : Task → Prop
  | .fresh work | .held work => work.isEvaluation = false
  | .evaluation _ => False
  | .detection _ _ checks => ∀ c ∈ checks, c.2.IsQuiet
  | .enrichment _ r c => r.value.recommendations = [] ∧ c.value.correlations = []
  | .feedback _ answer => Enrichment.feedbackFields answer.value = []
  | .patternRun answer => answer.value.isEmpty
  | .patternJob state => ∀ run ∈ state.run, run.IsQuiet
  | _ => True

theorem Task.IsQuiet.isEvaluation {task : Task} (quiet : task.IsQuiet) :
    task.isEvaluation = false := by
  cases task with
  | fresh work | held work => exact quiet
  | evaluation => exact quiet.elim
  | _ => rfl

namespace System

def Progress.IsQuiet : Progress → Prop
  | .waits task => task.IsQuiet
  | .ends _ => True

/-- A system whose analyzer is broken, and of whose tasks nothing will come. -/
structure IsMute (s : System) : Prop where
  broken : s.analyzer.IsBroken s.callLimit
  numbered : s.IsNumbered
  quiet : ∀ t ∈ s.tasks, t.2.IsQuiet

/-- A system that is mute but for the evaluation of a snapshot. -/
structure Evaluates (s : System) (id : Nat) (task : Task) : Prop where
  broken : s.analyzer.IsBroken s.callLimit
  numbered : s.IsNumbered
  own : s.task? id = some task
  others : ∀ t ∈ s.tasks, t.1 ≠ id → t.2.IsQuiet

/-- From the one system to the other nothing happens to the alerts; the analyzer stays broken, and
the evaluation that is under way stays as it is. -/
structure Hushed (s s' : System) : Prop where
  engine : s.engine.Agrees s'.engine
  broken : s.analyzer.IsBroken s.callLimit → s'.analyzer.IsBroken s'.callLimit
  mute : s.IsMute → s'.IsMute
  evaluates : ∀ {id task}, task.isEvaluation → s.Evaluates id task → s'.Evaluates id task

variable {s s' s'' : System} {works : List Work} {id : Nat} {task : Task}

theorem Hushed.refl (s : System) : s.Hushed s := ⟨.refl _, id, id, fun _ h => h⟩

theorem Hushed.trans (first : s.Hushed s') (second : s'.Hushed s'') : s.Hushed s'' :=
  ⟨first.engine.trans second.engine, second.broken ∘ first.broken, second.mute ∘ first.mute,
    fun h h' => second.evaluates h (first.evaluates h h')⟩

theorem Spawns.broken (spawns : s.Spawns works s') (broken : s.analyzer.IsBroken s.callLimit) :
    s'.analyzer.IsBroken s'.callLimit :=
  spawns.callLimit ▸ spawns.analyzer.isBroken broken

/-- Activities that begin are quiet, unless they are evaluations. -/
theorem Spawns.hushed (spawns : s.Spawns works s')
    (none : ∀ work ∈ works, work.isEvaluation = false) : s.Hushed s' where
  engine := spawns.engine
  broken := spawns.broken
  mute h := by
    refine ⟨spawns.broken h.broken, spawns.isNumbered h.numbered, fun t mem => ?_⟩
    obtain old | new := List.mem_append.mp (spawns.tasks ▸ mem)
    · exact h.quiet t old
    · obtain ⟨work, hw, found⟩ := mem_freshTasks new
      exact found ▸ none work hw
  evaluates _ h := by
    refine ⟨spawns.broken h.broken, spawns.isNumbered h.numbered, ?_, fun t mem ne => ?_⟩
    · have own : s.tasks.lookup _ = some _ := h.own
      rw [task?, spawns.tasks, List.lookup_append, own, Option.some_or]
    · obtain old | new := List.mem_append.mp (spawns.tasks ▸ mem)
      · exact h.others t old ne
      · obtain ⟨work, hw, found⟩ := mem_freshTasks new
        exact found ▸ none work hw

theorem Spawns.hushed_nil (spawns : s.Spawns [] s') : s.Hushed s' :=
  spawns.hushed (List.forall_mem_nil _)

/-! What calls of a broken analyzer come to. -/

theorem value_callExplain (broken : s.analyzer.IsBroken s.callLimit) (metrics : Json)
    (resourceType : Option String) :
    (s.callExplain metrics resourceType).1.value = .neutral :=
  (value_later ..).trans (within_nextReply broken.explanations)

theorem value_callRecommend (broken : s.analyzer.IsBroken s.callLimit) (alert : Alert) :
    (s.callRecommend alert).1.value = .neutral :=
  (value_later ..).trans (within_nextReply broken.recommendations)

theorem value_callCorrelate (broken : s.analyzer.IsBroken s.callLimit) (alert : Alert) :
    (s.callCorrelate alert).1.value = .neutral :=
  (value_later ..).trans (within_nextReply broken.correlations)

theorem value_callPatterns (broken : s.analyzer.IsBroken s.callLimit) (window : Nat) :
    (s.callPatterns window).1.value = .neutral := by
  simp only [callPatterns]
  split
  · rfl
  · exact (value_later ..).trans (within_nextReply broken.patterns)

theorem fields_callFeedback (broken : s.analyzer.IsBroken s.callLimit) (alert : Alert)
    (type : FeedbackType) : Enrichment.feedbackFields (s.callFeedback alert type).1.value = [] := by
  cases type with
  | explanation =>
    simp only [callFeedback, Slot.value_map, value_callExplain broken]
    rfl
  | recommendation =>
    simp only [callFeedback, Slot.value_map, value_callRecommend broken]
    rfl
  | correlation =>
    simp only [callFeedback, Slot.value_map, value_callCorrelate broken]
    rfl

theorem isQuiet_callChecks (broken : s.analyzer.IsBroken s.callLimit)
    (checks : List AnomalyCheck) : ∀ c ∈ (callChecks checks s).1, c.2.IsQuiet := by
  induction checks generalizing s with
  | nil => exact List.forall_mem_nil _
  | cons check checks ih =>
    intro c mem
    obtain rfl | mem := List.mem_cons.mp mem
    · exact congrArg Explanation.anomalies
        (value_callExplain broken check.subset check.resourceType)
    · exact ih ((begins_callExplain ..).broken broken) c mem

/-! Detection of anomalies. -/

/-- No alert is raised for a check that is quiet, and it stays so. -/
theorem raiseAlerts_of_isQuiet (s : System) (source : String) (strand : Nat) (check : AnomalyCheck)
    {state : CheckState} (quiet : state.IsQuiet) :
    s.Begins [] (s.raiseAlerts source strand check state).2.2 ∧
      (s.raiseAlerts source strand check state).2.1.IsQuiet := by
  have none : ∀ anomalies, state.anomaliesAt? s.time check = some anomalies → anomalies = [] := by
    intro anomalies found
    cases state with
    | asked answer =>
      obtain ⟨x, hx, rfl⟩ := Option.map_eq_some_iff.mp found
      rw [AnomalyCheck.qualifying, Slot.eq_value_of_valueAt? hx, quiet, List.filter_nil]
    | raising => exact (Option.some.inj found).symm.trans quiet
  unfold raiseAlerts
  split
  · next anomalies found =>
    cases none anomalies found
    exact ⟨begins_withEngine (.refl _), rfl⟩
  · exact ⟨.refl s, quiet⟩

theorem CheckSteps.quiet {source : String} {c c' : Checking} (steps : CheckSteps source c c')
    (quiet : ∀ check ∈ c.1, check.2.IsQuiet) :
    c.2.Begins [] c'.2 ∧ ∀ check ∈ c'.1, check.2.IsQuiet := by
  induction steps with
  | refl => exact ⟨.refl _, quiet⟩
  | tail _ last ih =>
    obtain ⟨begins, quiet⟩ := ih
    cases last with
    | arrange arranged => exact ⟨begins.trans arranged, quiet⟩
    | @check checks s strand check before found =>
      obtain ⟨raised, hState⟩ := raiseAlerts_of_isQuiet s source strand check
        (quiet _ (List.mem_of_getElem? found))
      exact ⟨begins.trans raised, fun c mem =>
        (List.mem_or_eq_of_mem_set mem).elim (quiet c) fun h => h ▸ hState⟩

end System

end MetricAlerts
