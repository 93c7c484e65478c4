import MetricAlerts.System.Run

/-! What a system does without its engine: tasks wake, visit, wait, call the analyzer and end. The
turn of a task is what the task does, and what is done with what it has come to. -/

namespace MetricAlerts

namespace Slot

variable {α : Type}

/-- What a slot holds, also if it is not there yet. -/
def value : Slot α → α
  | .waiting _ value => value
  | .ready value => value

theorem eq_value_of_valueAt? {slot : Slot α} {time : Nat} {x : α}
    (h : slot.valueAt? time = some x) : x = slot.value := by
  cases slot with
  | waiting wait value =>
    rw [valueAt?] at h
    split at h
    · exact (Option.some.inj h).symm
    · cases h
  | ready value => exact (Option.some.inj h).symm

@[simp] theorem value_settledAt (slot : Slot α) (time : Nat) :
    (slot.settledAt time).value = slot.value := by
  cases slot with
  | waiting wait value =>
    rw [settledAt]
    split <;> rfl
  | ready value => rfl

@[simp] theorem value_map {β : Type} (f : α → β) (slot : Slot α) :
    (slot.map f).value = f slot.value := by
  cases slot <;> rfl

end Slot

namespace System

@[simp] theorem engine_wake (s : System) (id : Nat) : (s.wake id).engine = s.engine := by
  unfold wake
  split <;> rfl

@[simp] theorem engine_wakeAll (s : System) (ids : List Nat) :
    (s.wakeAll ids).engine = s.engine := by
  unfold wakeAll
  induction ids generalizing s with
  | nil => rfl
  | cons id ids ih => rw [List.foldl_cons, ih, engine_wake]

@[simp] theorem engine_wakeStrand (s : System) (visitor : Visitor) :
    (s.wakeStrand visitor).engine = s.engine :=
  engine_wake ..

@[simp] theorem engine_wakeStrands (s : System) (visitors : List Visitor) :
    (s.wakeStrands visitors).engine = s.engine := by
  unfold wakeStrands
  induction visitors generalizing s with
  | nil => rfl
  | cons visitor visitors ih => rw [List.foldl_cons, ih, engine_wakeStrand]

@[simp] theorem engine_forgetStrands (s : System) (id : Nat) :
    (s.forgetStrands id).engine = s.engine :=
  rfl

@[simp] theorem engine_spawn (s : System) (work : Work) : (s.spawn work).2.engine = s.engine := rfl

@[simp] theorem engine_spawnAll (s : System) (works : List Work) :
    (s.spawnAll works).engine = s.engine := by
  unfold spawnAll
  induction works generalizing s with
  | nil => rfl
  | cons work works ih => rw [List.foldl_cons, ih, engine_spawn]

@[simp] theorem engine_withEngine (s : System) (e : Engine) : (s.withEngine e).engine = e := by
  simp only [withEngine]
  split
  · exact engine_wakeAll ..
  · rfl

@[simp] theorem engine_defer (s : System) (strand : Nat) : (s.defer strand).engine = s.engine := by
  simp only [defer]
  split <;> rfl

@[simp] theorem engine_visitOpen (s : System) : s.visitOpen.2.engine = s.engine := by
  unfold visitOpen
  split
  · exact engine_defer ..
  · rfl

@[simp] theorem engine_visit (s : System) (strand : Nat) (access : Access) :
    (s.visit strand access).2.engine = s.engine := by
  simp only [visit]
  split
  · exact engine_defer ..
  · split
    · exact engine_wakeStrands ..
    · split <;> rfl

@[simp] theorem engine_visitAll (strand : Nat) (accesses : List Access) (s : System) :
    (visitAll strand accesses s).2.engine = s.engine := by
  induction accesses generalizing s with
  | nil => rfl
  | cons access accesses ih =>
    have hVisit := engine_visit s strand access
    unfold visitAll
    split
    · next visited found => rw [found] at hVisit; exact (ih visited).trans hVisit
    · next visited found => rw [found] at hVisit; exact hVisit

@[simp] theorem engine_later {α : Type} (s : System) (delay : Nat) (value : α) :
    (s.later delay value).2.engine = s.engine := by
  unfold later
  split <;> rfl

@[simp] theorem value_later {α : Type} (s : System) (delay : Nat) (value : α) :
    (s.later delay value).1.value = value := by
  unfold later
  split <;> rfl

@[simp] theorem engine_callExplain (s : System) (metrics : Json) (resourceType : Option String) :
    (s.callExplain metrics resourceType).2.engine = s.engine :=
  engine_later ..

@[simp] theorem engine_callRecommend (s : System) (alert : Alert) :
    (s.callRecommend alert).2.engine = s.engine :=
  engine_later ..

@[simp] theorem engine_callCorrelate (s : System) (alert : Alert) :
    (s.callCorrelate alert).2.engine = s.engine :=
  engine_later ..

@[simp] theorem engine_callPatterns (s : System) (window : Nat) :
    (s.callPatterns window).2.engine = s.engine := by
  simp only [callPatterns]
  split
  · rfl
  · exact engine_later ..

@[simp] theorem engine_callFeedback (s : System) (alert : Alert) (type : FeedbackType) :
    (s.callFeedback alert type).2.engine = s.engine := by
  cases type with
  | explanation => exact engine_callExplain ..
  | recommendation => exact engine_callRecommend ..
  | correlation => exact engine_callCorrelate ..

@[simp] theorem engine_callChecks (checks : List AnomalyCheck) (s : System) :
    (callChecks checks s).2.engine = s.engine := by
  induction checks generalizing s with
  | nil => rfl
  | cons check checks ih => exact (ih _).trans (engine_callExplain ..)

@[simp] theorem engine_wakeAnswered (s : System) (checks : List (AnomalyCheck × CheckState)) :
    (s.wakeAnswered checks).engine = s.engine :=
  engine_wakeStrands ..

@[simp] theorem engine_visitForRules (metrics : Json) (rules : List Rule) (before : Nat)
    (s : System) : (visitForRules metrics rules before s).2.2.engine = s.engine := by
  induction rules generalizing before s with
  | nil => rfl
  | cons rule rules ih =>
    simp only [visitForRules]
    split
    · exact engine_visitAll ..
    · exact (ih ..).trans (engine_visitAll ..)

@[simp] theorem engine_settleDelivery (s : System) (notification : Notification) (arrives : Bool) :
    (s.settleDelivery notification arrives).2.engine = s.engine := by
  unfold settleDelivery
  split <;> rfl

@[simp] theorem engine_dropFailed (s : System) : s.dropFailed.2.engine = s.engine := by
  have hVisit := engine_visitOpen s
  unfold dropFailed
  split
  · next found => rw [found] at hVisit; exact hVisit
  · next found => rw [found] at hVisit; exact hVisit

@[simp] theorem engine_signal (s : System) (id : Nat) : (s.signal id).engine = s.engine := by
  simp only [signal]
  split
  · exact engine_wake ..
  · rfl

@[simp] theorem engine_runStop (s : System) (current : Nat) (later : List Nat) :
    (s.runStop current later).2.engine = s.engine := by
  induction later generalizing s current with
  | nil =>
    unfold runStop
    split <;> rfl
  | cons next later ih =>
    unfold runStop
    split
    · rfl
    · exact (ih ..).trans (engine_signal ..)

@[simp] theorem engine_finish (s : System) (id : Nat) (result : TaskResult) :
    (s.finish id result).engine = s.engine := by
  simp only [finish]
  split <;> exact engine_wakeAll ..

/-! Turns. -/

/-- What a task does in its turn. -/
def goOn (s : System) : Task → Progress × System
  | .fresh work => s.enter work startWork
  | .held work => s.enter work resumeWork
  | task => s.continueTask task

/-- The system after a turn in which the task has come to wait or to its end. -/
def conclude (id : Nat) (result : Progress × System) : System :=
  match result.1 with
  | .waits task =>
    { result.2 with tasks := result.2.tasks.map fun t => if t.1 = id then (id, task) else t }
  | .ends value => result.2.finish id value

/-- A turn has begun: nothing has been visited in it, except on behalf of the foreground. -/
structure HasBegun (s begun : System) : Prop where
  engine : begun.engine = s.engine
  analyzer : begun.analyzer = s.analyzer
  callLimit : begun.callLimit = s.callLimit
  time : begun.time = s.time
  tasks : begun.tasks = s.tasks
  nextTask : begun.nextTask = s.nextTask
  gate : begun.gate = s.gate
  handed : begun.handed = s.handed
  sent : begun.sent = s.sent
  visits : begun.visits = 0 ∨ begun.visits = s.looks

/-- The turn of a task: how it begins, and what is done with what it comes to. -/
theorem turn_eq_conclude {s : System} {id : Nat} {task : Task} (h : s.task? id = some task) :
    ∃ begun, s.HasBegun begun ∧ s.turn id = conclude id (begun.goOn task) := by
  unfold turn
  simp only [h]
  generalize hBegun : (if task.wakesByStrand = true then _ else _ : System) = begun
  have hasBegun : s.HasBegun begun ∧ begun.looks = s.looks := by
    rw [← hBegun]
    split <;> exact ⟨⟨rfl, rfl, rfl, rfl, rfl, rfl, rfl, rfl, rfl, .inl rfl⟩, rfl⟩
  clear hBegun
  obtain ⟨hasBegun, looks⟩ := hasBegun
  cases task with
  | fresh work =>
    refine ⟨if begun.foreground = some id then { begun with visits := begun.looks } else begun,
      ?_, rfl⟩
    split
    · exact { hasBegun with visits := .inr looks }
    · exact hasBegun
  | _ => exact ⟨begun, hasBegun, rfl⟩

end System

end MetricAlerts
