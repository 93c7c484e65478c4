import MetricAlerts.Proofs.Engine.Detection
import MetricAlerts.Proofs.System.Operations
import MetricAlerts.Proofs.System.Turns

/-! The detection of anomalies. A check is a strand of its detection. It raises as many alerts at a
time as the store lets it, and goes on until there is one for each of its anomalies. -/

namespace MetricAlerts.System

open Engine (raiseAnomalies)

/-- A check goes on, again and again, until there is nothing left for it to raise. Listed are the
systems before and after each time, and counted are the alerts. -/
inductive Detects (between : System → System → Prop) (source : String) (strand : Nat)
    (check : AnomalyCheck) : System → CheckState → List (System × System) → Nat → Prop
  | ends {s s' : System} {state : CheckState} {count : Nat}
      (goes : s.raiseAlerts source strand check state = (count, .raising [], s')) :
      Detects between source strand check s state [(s, s')] count
  | waits {s s' later : System} {state next : CheckState} {turns : List (System × System)}
      {count more : Nat} (goes : s.raiseAlerts source strand check state = (count, next, s'))
      (unfinished : next.isFinished = false) (passes : between s' later)
      (rest : Detects between source strand check later next turns more) :
      Detects between source strand check s state ((s, s') :: turns) (count + more)

variable {between : System → System → Prop} {s s' : System} {source : String} {strand fired k : Nat}
  {check : AnomalyCheck} {state : CheckState} {anomalies : List Anomaly}
  {turns : List (System × System)} {result : TaskResult}

/-! ### Detections with one check -/

theorem goOn_detection {count : Nat} {next : CheckState}
    (goes : s.raiseAlerts source 0 check state = (count, next, s')) (fired : Nat) :
    s.goOn (.detection source fired [(check, state)]) =
      if next.isFinished then (.ends (.fired (fired + count)), s')
      else (.waits (.detection source (fired + count) [(check, next)]), s') := by
  have few : s.continueChecks source [(check, state)] = raiseAll source 0 [(check, state)] s :=
    if_pos (show 1 ≤ Task.fewChecks by decide)
  simp only [goOn, continueTask, few, raiseAll, goes, List.any_cons, List.any_nil, Bool.or_false,
    isOpen, Bool.not_not, Nat.add_zero]

theorem eq_nil_of_isFinished {next : CheckState} (finished : next.isFinished = true) :
    next = .raising [] := by
  obtain _ | _ | _ := next
  · cases finished
  · rfl
  · cases finished

/-- A detection that has only one check takes the turns of this check, and tells how many alerts
there have been. -/
theorem completes_detection_iff :
    Completes between s (.detection source fired [(check, state)]) turns result ↔
      ∃ k, result = .fired (fired + k) ∧ Detects between source 0 check s state turns k := by
  constructor
  · intro completes
    generalize same : Task.detection source fired [(check, state)] = task at completes
    induction completes generalizing fired state with
    | @ends s s' task result goes =>
      subst same
      generalize raised : s.raiseAlerts source 0 check state = step
      obtain ⟨count, next, later⟩ := step
      rw [goOn_detection raised] at goes
      split at goes
      · next finished =>
        cases goes
        exact ⟨count, rfl, .ends (eq_nil_of_isFinished finished ▸ raised)⟩
      · cases goes
    | @waits s s' later task next turns result goes passes rest ih =>
      subst same
      generalize raised : s.raiseAlerts source 0 check state = step
      obtain ⟨count, state', s''⟩ := step
      rw [goOn_detection raised] at goes
      split at goes
      · cases goes
      · next unfinished =>
        cases goes
        obtain ⟨more, rfl, detects⟩ := ih rfl
        exact ⟨count + more, by rw [Nat.add_assoc],
          .waits raised (Bool.eq_false_iff.mpr unfinished) passes detects⟩
  · rintro ⟨k, rfl, detects⟩
    induction detects generalizing fired with
    | ends goes => exact .ends (goOn_detection goes fired)
    | waits goes unfinished passes rest ih =>
      refine .waits ?_ passes (Nat.add_assoc .. ▸ ih)
      rw [goOn_detection goes, unfinished]
      rfl

/-! ### What a check does at a time -/

theorem visitAll_le (strand : Nat) (accesses : List Access) (s : System) :
    (visitAll strand accesses s).1 ≤ accesses.length := by
  induction accesses generalizing s with
  | nil => exact Nat.le_refl 0
  | cons access accesses ih =>
    unfold visitAll
    split
    · exact Nat.succ_le_succ (ih _)
    · exact Nat.zero_le _

/-- Alerts have been raised for the first anomalies, and the others are left. -/
structure RaisesSome (s : System) (source : String) (check : AnomalyCheck)
    (anomalies : List Anomaly) (count : Nat) (s' : System) : Prop where
  count_le : count ≤ anomalies.length
  engine : s'.engine = (raiseAnomalies check source (anomalies.take count) s.engine).2
  tasks : s'.tasks = s.tasks ++ freshTasks s.nextTask
    ((raiseAnomalies check source (anomalies.take count) s.engine).1.map .enrich)

theorem raiseAlerts_of_known (known : state.anomaliesAt? s.time check = some anomalies)
    (source : String) (strand : Nat) :
    ∃ count s', s.raiseAlerts source strand check state =
        (count, .raising (anomalies.drop count), s') ∧
      RaisesSome s source check anomalies count s' ∧
      (s.LetsIn strand → anomalies ≠ [] → 0 < count) := by
  have few := visitAll_le strand (anomalies.map fun _ => .write) s
  have some : s.LetsIn strand → anomalies ≠ [] →
      0 < (visitAll strand (anomalies.map fun _ => .write) s).1 :=
    fun lets some => lets.visitAll_pos (mt List.map_eq_nil_iff.mp some)
  have visited := begins_visitAll strand (anomalies.map fun _ => .write) s
  have same := engine_visitAll strand (anomalies.map fun _ => .write) s
  simp only [raiseAlerts, known]
  generalize visitAll strand (anomalies.map fun _ => .write) s = visits at few some visited same ⊢
  obtain ⟨count, middle⟩ := visits
  replace same : middle.engine = s.engine := same
  rw [List.length_map] at few
  simp only [same]
  generalize hRaised : raiseAnomalies check source (anomalies.take count) s.engine = raised
  obtain ⟨alerts, e⟩ := raised
  have begun : Begins { s with engine := e } (alerts.map .enrich)
      ((middle.withEngine e).spawnAll (alerts.map .enrich)) :=
    (visited.replace e).nil_trans ((begins_replaced middle e).nil_trans (begins_spawnAll ..))
  refine ⟨count, _, rfl, ⟨few, ?_, ?_⟩, some⟩
  · rw [hRaised, engine_spawnAll, engine_withEngine]
  · rw [hRaised]
    exact begun.tasks

/-! ### What a check does altogether -/

/-- In the turns alerts have been raised for all anomalies, and the engine is left with them. -/
structure RaisesAll (s : System) (source : String) (check : AnomalyCheck)
    (anomalies : List Anomaly) (turns : List (System × System)) : Prop where
  last : ∃ last, turns.getLast? = some last ∧
    last.2.engine = (raiseAnomalies check source anomalies s.engine).2
  events : s.engine.events ++ gained (·.engine.events) turns =
    (raiseAnomalies check source anomalies s.engine).2.events
  eventsGrow : ∀ turn ∈ turns, turn.1.engine.events <+: turn.2.engine.events
  works : (gained tasks turns).map Prod.snd =
    (raiseAnomalies check source anomalies s.engine).1.map fun a => .fresh (.enrich a)
  tasksGrow : ∀ turn ∈ turns, turn.1.tasks <+: turn.2.tasks

theorem RaisesSome.eventsGrow {count : Nat}
    (raises : RaisesSome s source check anomalies count s') :
    s.engine.events <+: s'.engine.events :=
  raises.engine ▸ Engine.events_raiseAnomalies_grow ..

theorem RaisesSome.all (raises : RaisesSome s source check anomalies anomalies.length s') :
    RaisesAll s source check anomalies [(s, s')] := by
  have engine := raises.engine
  have tasks := raises.tasks
  rw [List.take_length] at engine tasks
  obtain ⟨published, hEvents⟩ := raises.eventsGrow
  refine ⟨⟨_, rfl, engine⟩, ?_, List.forall_mem_singleton.mpr raises.eventsGrow, ?_,
    List.forall_mem_singleton.mpr ⟨_, tasks.symm⟩⟩
  · rw [gained_singleton hEvents.symm, hEvents, engine]
  · rw [gained_singleton tasks, works_freshTasks, List.map_map]
    rfl

theorem RaisesSome.cons {count : Nat} {later : System}
    (raises : RaisesSome s source check anomalies count s') (same : later.engine = s'.engine)
    (rest : RaisesAll later source check (anomalies.drop count) turns) :
    RaisesAll s source check anomalies ((s, s') :: turns) := by
  have split := s.engine.raiseAnomalies_append check source (anomalies.take count)
    (anomalies.drop count)
  rw [List.take_append_drop] at split
  obtain ⟨published, hEvents⟩ := raises.eventsGrow
  obtain ⟨last, hLast, hEngine⟩ := rest.last
  have events := rest.events
  have works := rest.works
  rw [same, raises.engine] at hEngine events works
  refine ⟨⟨last, ?_, ?_⟩, ?_, List.forall_mem_cons.mpr ⟨raises.eventsGrow, rest.eventsGrow⟩, ?_,
    List.forall_mem_cons.mpr ⟨⟨_, raises.tasks.symm⟩, rest.tasksGrow⟩⟩
  · rw [List.getLast?_cons, hLast]
    rfl
  · rw [hEngine, split]
  · rw [gained_cons hEvents.symm, ← List.append_assoc, hEvents, raises.engine, events, split]
  · rw [gained_cons raises.tasks, List.map_append, works_freshTasks, works, split, List.map_append,
      List.map_map]
    rfl

/-- A check raises an alert for each anomaly, provided that the engine is left alone between. -/
theorem Detects.raisesAll (detects : Detects between source strand check s state turns k)
    (known : state.anomaliesAt? s.time check = some anomalies)
    (still : ∀ {s t : System}, between s t → t.engine = s.engine) :
    k = anomalies.length ∧ RaisesAll s source check anomalies turns := by
  induction detects generalizing anomalies with
  | @ends s s' state count goes =>
    obtain ⟨made, later, eq, raises, -⟩ := raiseAlerts_of_known known source strand
    rw [goes] at eq
    simp only [Prod.mk.injEq, CheckState.raising.injEq] at eq
    obtain ⟨rfl, none, rfl⟩ := eq
    obtain rfl : count = anomalies.length :=
      Nat.le_antisymm raises.count_le (List.drop_eq_nil_iff.mp none.symm)
    exact ⟨rfl, raises.all⟩
  | @waits s s' later state next turns count more goes unfinished passes rest ih =>
    obtain ⟨made, middle, eq, raises, -⟩ := raiseAlerts_of_known known source strand
    rw [goes] at eq
    simp only [Prod.mk.injEq] at eq
    obtain ⟨rfl, rfl, rfl⟩ := eq
    obtain ⟨rfl, all⟩ := ih rfl
    refine ⟨?_, raises.cons (still passes) all⟩
    have few := raises.count_le
    rw [List.length_drop]
    omega

/-! ### The end of a check -/

/-- A check comes to its end if it does so where it goes on with what is left. -/
theorem exists_detects_of_goes {count : Nat} {left : List Anomaly}
    (goes : s.raiseAlerts source strand check state = (count, .raising left, s'))
    (rest : left ≠ [] → ∃ later turns more, between s' later ∧
      Detects between source strand check later (.raising left) turns more) :
    ∃ turns k, Detects between source strand check s state turns k := by
  cases left with
  | nil => exact ⟨_, count, .ends goes⟩
  | cons anomaly left =>
    obtain ⟨later, turns, more, passes, detects⟩ := rest (List.cons_ne_nil _ _)
    exact ⟨_, _, .waits goes rfl passes detects⟩

theorem exists_detects_raising (supply : ∀ s, ∃ later, between s later ∧ later.LetsIn strand)
    (anomalies : List Anomaly) (lets : s.LetsIn strand) :
    ∃ turns k, Detects between source strand check s (.raising anomalies) turns k := by
  induction hLength : anomalies.length using Nat.strongRecOn generalizing s anomalies with
  | ind n ih =>
    have known : (CheckState.raising anomalies).anomaliesAt? s.time check = some anomalies := rfl
    obtain ⟨count, s', goes, -, headway⟩ := raiseAlerts_of_known known source strand
    refine exists_detects_of_goes goes fun left => ?_
    have some : anomalies ≠ [] := fun none => left (by rw [none, List.drop_nil])
    have less : (anomalies.drop count).length < n := by
      have := headway lets some
      have := List.length_pos_iff.mpr some
      rw [List.length_drop]
      omega
    obtain ⟨later, passes, lets'⟩ := supply s'
    obtain ⟨turns, more, detects⟩ := ih _ less _ lets' rfl
    exact ⟨later, turns, more, passes, detects⟩

/-- A check whose anomalies are known comes to its end if it is let in again and again. Its first
turn may be in vain. -/
theorem exists_detects (supply : ∀ s, ∃ later, between s later ∧ later.LetsIn strand)
    (known : state.anomaliesAt? s.time check = some anomalies) :
    ∃ turns k, Detects between source strand check s state turns k := by
  obtain ⟨count, s', goes, -, -⟩ := raiseAlerts_of_known known source strand
  refine exists_detects_of_goes goes fun _ => ?_
  obtain ⟨later, passes, lets⟩ := supply s'
  obtain ⟨turns, more, detects⟩ := exists_detects_raising supply _ lets
  exact ⟨later, turns, more, passes, detects⟩

/-- A check whose answer has come raises one alert for each anomaly that is severe enough, in the
order of the answer, and comes to its end if it is let in again and again. The alerts join those
that the rule has; as long as nothing else is done, each of them makes the first one leave where
there is no room, which is announced right before it, and the last ones are left in the end. -/
theorem detection_raises_qualifying (between : System → System → Prop)
    (still : ∀ {s t : System}, between s t → t.engine = s.engine) (source : String) (strand : Nat)
    {check : AnomalyCheck} {s : System} {slot : Slot Explanation} {answer : Explanation}
    (answered : slot.valueAt? s.time = some answer) {historyLimit anomalyLimit : Nat}
    {operations : List AlertStore.Operation}
    (reached : s.engine.alerts = (AlertStore.empty historyLimit anomalyLimit).run operations)
    (fresh : AlertStore.IsFreshRun (.empty historyLimit anomalyLimit)
      (operations ++ s.engine.operations ((check.qualifying answer).map (.raise check source))))
    (timely : AlertStore.IsTimelyRun (.empty historyLimit anomalyLimit)
      (operations ++ s.engine.operations ((check.qualifying answer).map (.raise check source)))) :
    ((∀ s, ∃ later, between s later ∧ later.LetsIn strand) →
      ∃ turns k, Detects between source strand check s (.asked slot) turns k) ∧
    (∀ fired turns result,
      Completes between s (.detection source fired [(check, .asked slot)]) turns result ↔
        ∃ k, result = .fired (fired + k) ∧
          Detects between source 0 check s (.asked slot) turns k) ∧
    ∀ turns k, Detects between source strand check s (.asked slot) turns k →
      let anomalies := answer.anomalies.filter fun a => check.minSeverity ≤ a.severity
      let limit := max 1 anomalyLimit
      let olds := s.engine.alerts.anomaliesOf check.rule.id
      let published := gained (·.engine.events) turns
      k = anomalies.length ∧ ∃ alerts last, turns.getLast? = some last ∧
        anomalies.Forall₂ (Alert.TellsOf check source) alerts ∧
        last.2.engine.alerts = s.engine.alerts.run
          (s.engine.operations (anomalies.map (.raise check source))) ∧
        (∀ turn ∈ turns, turn.1.tasks <+: turn.2.tasks) ∧
        (gained tasks turns).map Prod.snd = alerts.map (fun a => .fresh (.enrich a)) ∧
        (∀ turn ∈ turns, turn.1.engine.events <+: turn.2.engine.events) ∧
        published = arrivals limit
          (fun i => s.engine.environment.clock (s.engine.readings + 2 * i + 1)) olds alerts ∧
        published.filter Event.isCreated = alerts.map .created ∧
        published.countP Event.isResolved = olds.length + k - limit ∧
        last.2.engine.alerts.anomaliesOf check.rule.id = lastEntries limit (olds ++ alerts) ∧
        (last.2.engine.alerts.anomaliesOf check.rule.id).length = min limit (olds.length + k) ∧
        (olds ++ alerts).Pairwise fun a b => a.startsAt < b.startsAt := by
  have known : (CheckState.asked slot).anomaliesAt? s.time check =
      some (check.qualifying answer) := by
    rw [CheckState.anomaliesAt?, answered]
    rfl
  refine ⟨fun supply => exists_detects supply known, fun _ _ _ => completes_detection_iff,
    fun turns k detects => ?_⟩
  obtain ⟨freshBefore, fresh⟩ := AlertStore.isFreshRun_append.mp fresh
  obtain ⟨timelyBefore, timely⟩ := AlertStore.isTimelyRun_append.mp timely
  obtain ⟨orderly, hLimit⟩ :=
    (AlertStore.orderly_empty historyLimit anomalyLimit).run freshBefore timelyBefore
  rw [← reached] at fresh timely orderly hLimit
  replace hLimit : s.engine.alerts.anomalyLimit = max 1 anomalyLimit :=
    hLimit.trans (Nat.max_comm anomalyLimit 1)
  obtain ⟨rfl, all⟩ := detects.raisesAll known still
  have lines := Engine.linesUp_raiseAnomalies orderly fresh timely
  obtain ⟨last, hLast, hEngine⟩ := all.last
  have published := List.append_cancel_left (all.events.trans lines.events)
  have room := orderly.length_anomaliesOf_le check.rule.id
  have length := lines.tells.length_eq
  have kept := lines.kept
  rw [hLimit] at published room kept
  rw [← hEngine] at kept
  refine ⟨rfl, _, last, hLast, lines.tells, ?_, all.tasksGrow, all.works, all.eventsGrow,
    published, ?_, ?_, kept, ?_, lines.sorted⟩
  · rw [hEngine, Engine.raiseAnomalies_eq_run, Engine.alerts_run]
    rfl
  · rw [published, filter_isCreated_arrivals]
  · rw [published, countP_isResolved_arrivals room, length]
  · rw [kept, length_lastEntries, List.length_append, length]

/-- A system whose rule has an anomaly alert already, which is as many as it may have. -/
def probedEngine : Engine :=
  .initial ⟨fun n => ["first", "second"].getD n "third", fun n => ⟨n, 0⟩⟩
    ⟨[AlertStore.diskRule], []⟩ 2 1 4 2 100

def probedSystem : System := .initial (probedEngine.run [Engine.raiseDisk]) .neutral 1

/-- Of three anomalies one is not severe enough. -/
def probe : Explanation :=
  ⟨[⟨none, none, .error, "slow", none⟩, ⟨none, none, .warning, "warm", none⟩,
    ⟨none, none, .critical, "full", none⟩], "", none⟩

/-- As long as nothing else is done, the other two make first the alert that is there leave and then
one another. -/
theorem detection_raises_qualifying_probe :
    let check : AnomalyCheck := ⟨AlertStore.diskRule, none, .error, .null⟩
    let slot : Slot Explanation := .ready probe
    ∃ turns, Detects (fun s t => t.engine = s.engine) "node" 0 check probedSystem (.asked slot)
        turns 2 ∧
      (gained (·.engine.events) turns).countP Event.isResolved = 2 ∧
      ∃ last, turns.getLast? = some last ∧
        (last.2.engine.alerts.anomaliesOf "disk").length = 1 := by
  intro check slot
  let before := probedEngine.operations [Engine.raiseDisk]
  let raised := (check.qualifying probe).map (Engine.Action.raise check "node")
  have answered : slot.valueAt? probedSystem.time = some probe := rfl
  have reached : probedSystem.engine.alerts = (AlertStore.empty 2 1).run before :=
    Engine.alerts_run ..
  have fresh : AlertStore.IsFreshRun (.empty 2 1)
      (before ++ probedSystem.engine.operations raised) := by decide
  have timely : AlertStore.IsTimelyRun (.empty 2 1)
      (before ++ probedSystem.engine.operations raised) := by decide
  obtain ⟨ends, -, raises⟩ := detection_raises_qualifying (fun s t => t.engine = s.engine)
    (fun same => same) "node" 0 answered reached fresh timely
  obtain ⟨turns, k, detects⟩ := ends fun s => s.exists_letsIn 0
  obtain ⟨rfl, alerts, last, hLast, -, -, -, -, -, -, -, resolved, -, length, -⟩ :=
    raises turns k detects
  exact ⟨turns, detects, resolved, last, hLast, length⟩

end MetricAlerts.System
