import MetricAlerts.Proofs.Dispatch.Feedback
import MetricAlerts.Proofs.Engine.Agreement
import MetricAlerts.Proofs.System.Frame

/-! What a system does without a change of its alerts. Tasks wake, visit, wait, call the analyzer
and dispatch events; all that comes of it are activities that begin, replies of the analyzer that
are used up, and what clients and lines are given. -/

namespace MetricAlerts

/-- Of the replies of one analyzer those from some on are left in the other. -/
structure Analyzer.UsesUp (a a' : Analyzer) : Prop where
  explanations : a'.explanations <:+ a.explanations
  recommendations : a'.recommendations <:+ a.recommendations
  correlations : a'.correlations <:+ a.correlations
  patterns : a'.patterns <:+ a.patterns

theorem Analyzer.UsesUp.refl (a : Analyzer) : a.UsesUp a :=
  ⟨List.suffix_rfl, List.suffix_rfl, List.suffix_rfl, List.suffix_rfl⟩

theorem Analyzer.UsesUp.trans {a a' a'' : Analyzer} (first : a.UsesUp a') (second : a'.UsesUp a'') :
    a.UsesUp a'' :=
  ⟨second.explanations.trans first.explanations,
    second.recommendations.trans first.recommendations,
    second.correlations.trans first.correlations, second.patterns.trans first.patterns⟩

theorem suffix_nextReply {α : Type} (neutral : α) (replies : List (TimedReply α)) :
    (nextReply neutral replies).2 <:+ replies := by
  cases replies with
  | nil => exact List.suffix_rfl
  | cons reply replies => exact List.suffix_cons ..

namespace System

/-- The tasks of activities that have begun, with their numbers. -/
def freshTasks (next : Nat) (works : List Work) : List (Nat × Task) :=
  (works.zipIdx next).map fun (work, id) => (id, .fresh work)

theorem freshTasks_append (next : Nat) (works later : List Work) :
    freshTasks next (works ++ later) =
      freshTasks next works ++ freshTasks (next + works.length) later := by
  rw [freshTasks, List.zipIdx_append, List.map_append, freshTasks, freshTasks]

/-- From the one system to the other activities begin, and nothing happens to the alerts. -/
structure Spawns (s : System) (works : List Work) (s' : System) : Prop where
  engine : s.engine.Agrees s'.engine
  tasks : s'.tasks = s.tasks ++ freshTasks s.nextTask works
  nextTask : s'.nextTask = s.nextTask + works.length
  callLimit : s'.callLimit = s.callLimit
  analyzer : s.analyzer.UsesUp s'.analyzer

/-- Activities begin, while the transport is handed nothing and nothing arrives. -/
structure Begins (s : System) (works : List Work) (s' : System) : Prop
    extends s.Spawns works s' where
  handed : s'.handed = s.handed
  sent : s'.sent = s.sent

variable {s s' s'' : System} {works later : List Work}

/-- What a matter of scheduling leaves alone. -/
theorem Spawns.of_eq (engine : s'.engine = s.engine) (tasks : s'.tasks = s.tasks)
    (nextTask : s'.nextTask = s.nextTask) (callLimit : s'.callLimit = s.callLimit)
    (analyzer : s'.analyzer = s.analyzer) : s.Spawns [] s' :=
  ⟨.of_eq engine, tasks.trans (List.append_nil _).symm, nextTask, callLimit,
    analyzer ▸ .refl s.analyzer⟩

theorem Begins.of_eq (engine : s'.engine = s.engine) (tasks : s'.tasks = s.tasks)
    (nextTask : s'.nextTask = s.nextTask) (callLimit : s'.callLimit = s.callLimit)
    (analyzer : s'.analyzer = s.analyzer) (handed : s'.handed = s.handed)
    (sent : s'.sent = s.sent) : s.Begins [] s' :=
  ⟨.of_eq engine tasks nextTask callLimit analyzer, handed, sent⟩

theorem Spawns.refl (s : System) : s.Spawns [] s := .of_eq rfl rfl rfl rfl rfl

theorem Begins.refl (s : System) : s.Begins [] s := ⟨.refl s, rfl, rfl⟩

theorem Spawns.trans (first : s.Spawns works s') (second : s'.Spawns later s'') :
    s.Spawns (works ++ later) s'' where
  engine := first.engine.trans second.engine
  tasks := by
    rw [second.tasks, first.tasks, first.nextTask, freshTasks_append, List.append_assoc]
  nextTask := by rw [second.nextTask, first.nextTask, List.length_append, Nat.add_assoc]
  callLimit := second.callLimit.trans first.callLimit
  analyzer := first.analyzer.trans second.analyzer

theorem Begins.trans (first : s.Begins works s') (second : s'.Begins later s'') :
    s.Begins (works ++ later) s'' :=
  ⟨first.toSpawns.trans second.toSpawns, second.handed.trans first.handed,
    second.sent.trans first.sent⟩

theorem Spawns.nil_trans (first : s.Spawns [] s') (second : s'.Spawns works s'') :
    s.Spawns works s'' :=
  first.trans second

theorem Begins.nil_trans (first : s.Begins [] s') (second : s'.Begins works s'') :
    s.Begins works s'' :=
  first.trans second

theorem Spawns.tasks_eq (spawns : s.Spawns [] s') : s'.tasks = s.tasks :=
  spawns.tasks.trans (List.append_nil _)

theorem mem_freshTasks {next : Nat} {t : Nat × Task} (mem : t ∈ freshTasks next works) :
    ∃ work ∈ works, t.2 = .fresh work := by
  obtain ⟨⟨work, n⟩, hw, rfl⟩ := List.mem_map.mp mem
  exact ⟨work, List.fst_mem_of_mem_zipIdx hw, rfl⟩

theorem numbers_freshTasks (next : Nat) (works : List Work) :
    (freshTasks next works).map Prod.fst = List.range' next works.length := by
  rw [freshTasks, List.map_map, ← List.zipIdx_map_snd]
  rfl

theorem works_freshTasks (next : Nat) (works : List Work) :
    (freshTasks next works).map Prod.snd = works.map .fresh := by
  conv_rhs => rw [← List.zipIdx_map_fst next works, List.map_map]
  rw [freshTasks, List.map_map]
  rfl

/-- Every task has a number of its own, from those that have been given out. -/
structure IsNumbered (s : System) : Prop where
  nodup : (s.tasks.map Prod.fst).Nodup
  below : ∀ n ∈ s.tasks.map Prod.fst, n < s.nextTask

theorem IsNumbered.of_sublist (h : s.IsNumbered)
    (sublist : (s'.tasks.map Prod.fst).Sublist (s.tasks.map Prod.fst))
    (next : s'.nextTask = s.nextTask) : s'.IsNumbered :=
  ⟨h.nodup.sublist sublist, fun n mem => next ▸ h.below n (sublist.subset mem)⟩

theorem Spawns.isNumbered (spawns : s.Spawns works s') (h : s.IsNumbered) : s'.IsNumbered := by
  have numbers : s'.tasks.map Prod.fst =
      s.tasks.map Prod.fst ++ List.range' s.nextTask works.length := by
    rw [spawns.tasks, List.map_append, numbers_freshTasks]
  refine ⟨?_, fun n mem => ?_⟩
  · rw [numbers]
    refine h.nodup.append List.nodup_range' fun n old new => ?_
    have hOld := h.below n old
    have hNew := List.left_le_of_mem_range' new
    omega
  · rw [numbers, List.mem_append, List.mem_range'_1] at mem
    rw [spawns.nextTask]
    obtain old | ⟨-, new⟩ := mem
    · exact Nat.lt_add_right _ (h.below n old)
    · exact new

theorem mem_of_task? {id : Nat} {task : Task} (h : s.task? id = some task) :
    (id, task) ∈ s.tasks := by
  obtain ⟨before, after, split, -⟩ := List.lookup_eq_some_iff.mp h
  simp [split]

/-- Scheduling is no matter of what the engine has done meanwhile. -/
theorem Spawns.replace (spawns : s.Spawns works s') (e : Engine) :
    Spawns { s with engine := e } works { s' with engine := e } :=
  { spawns with engine := .refl e }

theorem Begins.replace (begins : s.Begins works s') (e : Engine) :
    Begins { s with engine := e } works { s' with engine := e } :=
  { begins with engine := .refl e }

/-! Scheduling. -/

theorem begins_wake (s : System) (id : Nat) : s.Begins [] (s.wake id) := by
  unfold wake
  split
  · exact .refl s
  · exact .of_eq rfl rfl rfl rfl rfl rfl rfl

theorem begins_wakeAll (s : System) (ids : List Nat) : s.Begins [] (s.wakeAll ids) := by
  unfold wakeAll
  induction ids generalizing s with
  | nil => exact .refl s
  | cons id ids ih => exact (begins_wake s id).trans (ih _)

theorem begins_wakeStrand (s : System) (visitor : Visitor) :
    s.Begins [] (s.wakeStrand visitor) := by
  refine .nil_trans ?_ (begins_wake ..)
  exact .of_eq rfl rfl rfl rfl rfl rfl rfl

theorem begins_wakeStrands (s : System) (visitors : List Visitor) :
    s.Begins [] (s.wakeStrands visitors) := by
  unfold wakeStrands
  induction visitors generalizing s with
  | nil => exact .refl s
  | cons visitor visitors ih => exact (begins_wakeStrand s visitor).trans (ih _)

theorem begins_spawn (s : System) (work : Work) : s.Begins [work] (s.spawn work).2 :=
  ⟨⟨.refl _, rfl, rfl, rfl, .refl _⟩, rfl, rfl⟩

theorem begins_spawnAll (s : System) (works : List Work) : s.Begins works (s.spawnAll works) := by
  unfold spawnAll
  induction works generalizing s with
  | nil => exact .refl s
  | cons work works ih => exact (begins_spawn s work).trans (ih _)

/-- After a step of the engine idle loops may wake. -/
theorem begins_replaced (s : System) (e : Engine) :
    Begins { s with engine := e } [] (s.withEngine e) := by
  simp only [withEngine]
  split
  · exact begins_wakeAll ..
  · exact .refl _

theorem begins_withEngine {e : Engine} (agrees : s.engine.Agrees e) :
    s.Begins [] (s.withEngine e) := by
  refine .nil_trans ?_ (begins_replaced s e)
  exact ⟨⟨agrees, (List.append_nil _).symm, rfl, rfl, .refl _⟩, rfl, rfl⟩

theorem begins_defer (s : System) (strand : Nat) : s.Begins [] (s.defer strand) := by
  simp only [defer]
  split
  · exact .refl s
  · exact .of_eq rfl rfl rfl rfl rfl rfl rfl

theorem begins_visitOpen (s : System) : s.Begins [] s.visitOpen.2 := by
  unfold visitOpen
  split
  · exact begins_defer ..
  · exact .of_eq rfl rfl rfl rfl rfl rfl rfl

theorem begins_visit (s : System) (strand : Nat) (access : Access) :
    s.Begins [] (s.visit strand access).2 := by
  simp only [visit]
  split
  · refine .nil_trans ?_ (begins_defer ..)
    exact .of_eq rfl rfl rfl rfl rfl rfl rfl
  · split
    · refine .nil_trans ?_ (begins_wakeStrands ..)
      exact .of_eq rfl rfl rfl rfl rfl rfl rfl
    · split <;> exact .of_eq rfl rfl rfl rfl rfl rfl rfl

theorem begins_visitAll (strand : Nat) (accesses : List Access) (s : System) :
    s.Begins [] (visitAll strand accesses s).2 := by
  induction accesses generalizing s with
  | nil => exact .refl s
  | cons access accesses ih =>
    have visited := begins_visit s strand access
    unfold visitAll
    split
    · next found => rw [found] at visited; exact visited.trans (ih _)
    · next found => rw [found] at visited; exact visited

theorem begins_visitForRules (metrics : Json) (rules : List Rule) (before : Nat) (s : System) :
    s.Begins [] (visitForRules metrics rules before s).2.2 := by
  induction rules generalizing before s with
  | nil => exact .refl s
  | cons rule rules ih =>
    simp only [visitForRules]
    split
    · exact begins_visitAll ..
    · exact (begins_visitAll ..).trans (ih ..)

/-! Calls of the analyzer. -/

theorem begins_later {α : Type} (s : System) (delay : Nat) (value : α) :
    s.Begins [] (s.later delay value).2 := by
  unfold later
  split <;> exact .of_eq rfl rfl rfl rfl rfl rfl rfl

/-- A call is noted down and takes a reply. -/
theorem Begins.of_call {analyzer : Analyzer} {calls : Array AnalyzerCall}
    (usesUp : s.analyzer.UsesUp analyzer) : s.Begins [] { s with analyzer, calls } :=
  ⟨⟨.refl _, (List.append_nil _).symm, rfl, rfl, usesUp⟩, rfl, rfl⟩

theorem begins_callExplain (s : System) (metrics : Json) (resourceType : Option String) :
    s.Begins [] (s.callExplain metrics resourceType).2 := by
  refine .nil_trans (.of_call ?_) (begins_later ..)
  exact { Analyzer.UsesUp.refl s.analyzer with explanations := suffix_nextReply .. }

theorem begins_callRecommend (s : System) (alert : Alert) :
    s.Begins [] (s.callRecommend alert).2 := by
  refine .nil_trans (.of_call ?_) (begins_later ..)
  exact { Analyzer.UsesUp.refl s.analyzer with recommendations := suffix_nextReply .. }

theorem begins_callCorrelate (s : System) (alert : Alert) :
    s.Begins [] (s.callCorrelate alert).2 := by
  refine .nil_trans (.of_call ?_) (begins_later ..)
  exact { Analyzer.UsesUp.refl s.analyzer with correlations := suffix_nextReply .. }

theorem begins_callPatterns (s : System) (window : Nat) :
    s.Begins [] (s.callPatterns window).2 := by
  simp only [callPatterns]
  split
  · exact .refl s
  · refine .nil_trans (.of_call ?_) (begins_later ..)
    exact { Analyzer.UsesUp.refl s.analyzer with patterns := suffix_nextReply .. }

theorem begins_callFeedback (s : System) (alert : Alert) (type : FeedbackType) :
    s.Begins [] (s.callFeedback alert type).2 := by
  cases type with
  | explanation => exact begins_callExplain ..
  | recommendation => exact begins_callRecommend ..
  | correlation => exact begins_callCorrelate ..

theorem begins_callChecks (checks : List AnomalyCheck) (s : System) :
    s.Begins [] (callChecks checks s).2 := by
  induction checks generalizing s with
  | nil => exact .refl s
  | cons check checks ih => exact (begins_callExplain ..).trans (ih _)

/-! Dispatch. -/

theorem spawns_settleDelivery (s : System) (notification : Notification) (arrives : Bool) :
    s.Spawns [] (s.settleDelivery notification arrives).2 := by
  unfold settleDelivery
  split <;> exact .of_eq rfl rfl rfl rfl rfl

theorem begins_dropFailed (s : System) : s.Begins [] s.dropFailed.2 := by
  have visited := begins_visitOpen s
  unfold dropFailed
  split <;> next found => rw [found] at visited; exact visited

theorem begins_perform (s : System) (event : Event) (action : Engine.ChannelAction) :
    s.Begins [] { s with engine := s.engine.perform event action } :=
  ⟨⟨Engine.agrees_perform .., (List.append_nil _).symm, rfl, rfl, .refl _⟩, rfl, rfl⟩

theorem begins_announce (s : System) (event : Event) : s.Begins [] (s.announce event).2 := by
  have visited := begins_visitOpen s
  unfold announce
  split
  · next found =>
    rw [found] at visited
    have told := visited.trans (begins_perform _ event .broadcast)
    simp only
    split
    · exact told.trans (begins_dropFailed _)
    · exact told
  · next found =>
    rw [found] at visited
    exact visited

theorem spawns_handOver (s : System) (handover : Handover) :
    s.Spawns [] (s.handOver handover) :=
  .of_eq rfl rfl rfl rfl rfl

theorem spawns_deliverTo (s : System) (event : Event) (channel : Channel) :
    s.Spawns (feedbackFor? event channel).toList (s.deliverTo event channel).2 := by
  simp only [deliverTo, feedbackFor?]
  cases Engine.actionFor channel event with
  | write lines => exact (begins_perform ..).toSpawns
  | broadcast => exact (begins_announce ..).toSpawns
  | skip | fail => exact .refl s
  | feedback alert type => exact (begins_spawn ..).toSpawns
  | notify notification =>
    simp only
    split
    · exact (spawns_handOver ..).trans (spawns_settleDelivery ..)
    · exact .of_eq rfl rfl rfl rfl rfl

theorem spawns_deliverToAll (event : Event) (channels : List Channel) (s : System) :
    s.Spawns (feedbackWorks event channels) (deliverToAll event channels s).2 := by
  rw [← filterMap_feedbackFor?]
  induction channels generalizing s with
  | nil => exact .refl s
  | cons channel channels ih =>
    have both := (spawns_deliverTo s event channel).trans (ih (s.deliverTo event channel).2)
    cases found : feedbackFor? event channel <;>
      simpa only [found, List.filterMap_cons, Option.toList, List.nil_append, List.singleton_append,
        deliverToAll] using both

theorem spawns_continueDelivery (s : System) (event : Event) (delivery : Delivery) :
    s.Spawns [] (s.continueDelivery event delivery).2 := by
  cases delivery with
  | settled => exact .refl s
  | underway wait notification arrives =>
    simp only [continueDelivery]
    split
    · exact spawns_settleDelivery ..
    · exact .refl s
  | announcing => exact (begins_announce ..).toSpawns
  | dropping => exact (begins_dropFailed s).toSpawns

theorem spawns_continueDeliveries (event : Event) (deliveries : List Delivery) (s : System) :
    s.Spawns [] (continueDeliveries event deliveries s).2 := by
  induction deliveries generalizing s with
  | nil => exact .refl s
  | cons delivery deliveries ih => exact (spawns_continueDelivery ..).trans (ih _)

/-- An event that is handed out is handed to the channels that are enabled then. -/
theorem continueDispatch_taken_cases (s : System) (event : Event) :
    (s.continueDispatch (.taken event)).1 = .taken event ∧
        s.Begins [] (s.continueDispatch (.taken event)).2 ∨
      ∃ deliveries, (s.continueDispatch (.taken event)).1 = .handedOut event deliveries ∧
        s.Spawns (feedbackWorks event s.engine.definitions.enabledChannels)
          (s.continueDispatch (.taken event)).2 := by
  have visited := begins_visitOpen s
  simp only [continueDispatch]
  split
  · next later found =>
    rw [found] at visited
    have handed := spawns_deliverToAll event later.engine.definitions.enabledChannels later
    refine .inr ⟨_, rfl, visited.toSpawns.nil_trans ?_⟩
    rwa [← visited.engine.definitions]
  · next found =>
    rw [found] at visited
    exact .inl ⟨rfl, visited⟩

/-! Requests to stop. -/

/-- A task that has been asked to stop, which loops and jobs heed. -/
def heed : Task → Task
  | .dispatchLoop state => .dispatchLoop { state with stopping := true }
  | .patternJob state => .patternJob { state with stopping := true }
  | task => task

/-- The entry of a task when the one with a number is asked to stop. -/
def heedAs (id : Nat) (t : Nat × Task) : Nat × Task := if t.1 = id then (t.1, heed t.2) else t

@[simp] theorem fst_heedAs (id : Nat) (t : Nat × Task) : (heedAs id t).1 = t.1 := by
  rw [heedAs]
  split <;> rfl

theorem begins_signal (s : System) (id : Nat) :
    Begins { s with tasks := s.tasks.map (heedAs id) } [] (s.signal id) := by
  simp only [signal]
  split
  · have hStop : s.tasks.map (heedAs id) = s.tasks.map _ :=
      List.map_congr_left fun t _ => show heedAs id t = if t.1 = id then (id, _) else t by
        rw [heedAs]
        split
        · next same => rw [same]
        · rfl
    rw [hStop]
    exact begins_wake ..
  · next unknown =>
    have unlike : ∀ t ∈ s.tasks, t.1 ≠ id := by
      rintro ⟨n, task⟩ mem rfl
      have none : ∀ task, (n, task) ∉ s.tasks := by simpa [task?] using unknown
      exact none task mem
    have same : s.tasks.map (heedAs id) = s.tasks :=
      (List.map_congr_left fun t mem => if_neg (unlike t mem)).trans (List.map_id _)
    exact .of_eq rfl same.symm rfl rfl rfl rfl rfl

theorem isNumbered_heedAs (h : s.IsNumbered) (id : Nat) :
    IsNumbered { s with tasks := s.tasks.map (heedAs id) } := by
  refine h.of_sublist ?_ rfl
  rw [List.map_map, show Prod.fst ∘ heedAs id = Prod.fst from funext (fst_heedAs id)]

/-! Turns. -/

/-- The entry of a task when the one with a number has come to wait. -/
def placeAs (id : Nat) (task : Task) (t : Nat × Task) : Nat × Task :=
  if t.1 = id then (id, task) else t

@[simp] theorem fst_placeAs (id : Nat) (task : Task) (t : Nat × Task) :
    (placeAs id task t).1 = t.1 := by
  rw [placeAs]
  split
  · next same => exact same.symm
  · rfl

/-- The tasks when one of them has come to wait or to its end. -/
def Progress.place (id : Nat) (tasks : List (Nat × Task)) : Progress → List (Nat × Task)
  | .waits task => tasks.map (placeAs id task)
  | .ends _ => tasks.filter fun t => t.1 != id

/-- A task by its number, with the tasks before and after it. -/
theorem exists_split (numbered : s.IsNumbered) {id : Nat} {task : Task}
    (mem : (id, task) ∈ s.tasks) :
    ∃ before after, s.tasks = before ++ (id, task) :: after ∧
      ∀ t ∈ before ++ after, t.1 ≠ id := by
  obtain ⟨before, after, split⟩ := List.append_of_mem mem
  refine ⟨before, after, split, fun t mem same => ?_⟩
  have nodup := numbered.nodup
  rw [split, List.map_append, List.map_cons, List.nodup_middle, ← List.map_append] at nodup
  exact (List.nodup_cons.mp nodup).1 (List.mem_map.mpr ⟨t, mem, same⟩)

/-- What is left of a task in its place after a turn. -/
def Progress.entries (id : Nat) : Progress → List (Nat × Task)
  | .waits task => [(id, task)]
  | .ends _ => []

theorem place_eq {id : Nat} {task : Task} {before after : List (Nat × Task)}
    (unlike : ∀ t ∈ before ++ after, t.1 ≠ id)
    (progress : Progress) :
    progress.place id (before ++ (id, task) :: after) =
      before ++ (progress.entries id ++ after) := by
  obtain ⟨hBefore, hAfter⟩ := List.forall_mem_append.mp unlike
  cases progress with
  | waits next =>
    have same : ∀ tasks : List (Nat × Task), (∀ t ∈ tasks, t.1 ≠ id) →
        tasks.map (placeAs id next) = tasks := fun tasks unlike =>
      (List.map_congr_left fun t mem => if_neg (unlike t mem)).trans (List.map_id _)
    rw [Progress.place, List.map_append, List.map_cons, same before hBefore, same after hAfter,
      placeAs, if_pos rfl]
    rfl
  | ends result =>
    have same : ∀ tasks : List (Nat × Task), (∀ t ∈ tasks, t.1 ≠ id) →
        tasks.filter (fun t => t.1 != id) = tasks := fun tasks unlike =>
      List.filter_eq_self.mpr fun t mem => by simpa using unlike t mem
    rw [Progress.place, List.filter_append, List.filter_cons_of_neg (by simp), same before hBefore,
      same after hAfter]
    rfl

theorem mem_place {id : Nat} {tasks : List (Nat × Task)} {progress : Progress} {t : Nat × Task}
    (mem : t ∈ progress.place id tasks) :
    t.1 = id ∧ progress = .waits t.2 ∨ t.1 ≠ id ∧ t ∈ tasks := by
  cases progress with
  | waits task =>
    obtain ⟨old, hOld, rfl⟩ := List.mem_map.mp mem
    rw [placeAs]
    split
    · exact .inl ⟨rfl, rfl⟩
    · next unlike => exact .inr ⟨unlike, hOld⟩
  | ends =>
    obtain ⟨old, unlike⟩ := List.mem_filter.mp mem
    exact .inr ⟨by simpa using unlike, old⟩

theorem begins_conclude (id : Nat) (result : Progress × System) :
    Begins { result.2 with tasks := result.1.place id result.2.tasks } []
      (conclude id result) := by
  obtain ⟨progress, later⟩ := result
  cases progress with
  | waits task => exact .refl _
  | ends value =>
    simp only [conclude, finish]
    refine .nil_trans ?_ (begins_wakeAll ..)
    split <;> exact .of_eq rfl rfl rfl rfl rfl rfl rfl

/-- When the tasks are what they were, the task whose turn it was has stayed as it is. -/
theorem eq_waits_of_same {id : Nat} {task : Task} {result : Progress × System}
    (h : s.task? id = some task) (same : (conclude id result).tasks = s.tasks) :
    result.1 = .waits task := by
  have placed : (conclude id result).tasks = result.1.place id result.2.tasks :=
    (begins_conclude id result).tasks_eq
  have mem : (id, task) ∈ result.1.place id result.2.tasks := by
    rw [← placed, same]
    exact mem_of_task? h
  exact ((mem_place mem).resolve_right fun other => other.1 rfl).2

/-- A task that comes to wait keeps its number, and one that ends gives it up. -/
theorem numbers_place_sublist (id : Nat) (tasks : List (Nat × Task)) (progress : Progress) :
    ((progress.place id tasks).map Prod.fst).Sublist (tasks.map Prod.fst) := by
  cases progress with
  | waits task =>
    rw [Progress.place, List.map_map, show Prod.fst ∘ placeAs id task = Prod.fst from
      funext (fst_placeAs id task)]
  | ends => exact (List.filter_sublist ..).map _

theorem isNumbered_place (h : s.IsNumbered) (id : Nat) (progress : Progress) :
    IsNumbered { s with tasks := progress.place id s.tasks } :=
  h.of_sublist (numbers_place_sublist ..) rfl

theorem HasBegun.begins {begun : System} (h : s.HasBegun begun) : s.Begins [] begun :=
  .of_eq h.engine h.tasks h.nextTask h.callLimit h.analyzer h.handed h.sent

end System

end MetricAlerts
