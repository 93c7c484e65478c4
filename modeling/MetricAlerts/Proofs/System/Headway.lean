import MetricAlerts.Proofs.System.Payments

/-! Tasks that can go on make headway. When nobody is at the gate of the store and all that they
wait for is there, enrichment comes to its end and new alerts are handed out. -/

namespace MetricAlerts

theorem Slot.exists_valueAt? {α : Type} {slot : Slot α} {time : Nat}
    (elapsed : ∀ wait ∈ slot.waits, wait.due ≤ time) :
    ∃ value, slot.valueAt? time = some value := by
  cases slot with
  | waiting wait value => exact ⟨value, if_pos (elapsed wait (List.mem_singleton_self wait))⟩
  | ready value => exact ⟨value, rfl⟩

/-- Whether the activity of a task is still to begin. -/
def Task.isBeginning : Task → Bool
  | .fresh _ | .held _ => true
  | _ => false

namespace System

variable {s : System} {state : LoopState} {work : Work} {task next : Task}

/-- Whoever comes can get at everything. -/
structure IsOpen (s : System) : Prop where
  gate : s.gate = .empty
  visits : s.visits < visitLimit

/-- Nobody is at the gate, and all that a task waits for is there. -/
structure CanGoOn (s : System) (task : Task) : Prop where
  gate : s.gate = .empty
  looks : s.looks < visitLimit
  elapsed : ∀ wait ∈ task.waits, wait.due ≤ s.time

theorem HasBegun.isOpen {begun : System} (hasBegun : s.HasBegun begun) (h : s.CanGoOn task) :
    begun.IsOpen := by
  refine ⟨hasBegun.gate.trans h.gate, ?_⟩
  obtain none | looks := hasBegun.visits
  · rw [none]
    exact Nat.succ_pos _
  · rw [looks]
    exact h.looks

theorem IsOpen.exists_visit (h : s.IsOpen) (strand : Nat) (access : Access) :
    ∃ visited, s.visit strand access = (true, visited) := by
  have visits : ¬ visitLimit ≤ s.visits := Nat.not_le.mpr h.visits
  have unexpected : s.gate.expects ⟨s.current, strand⟩ = false := by rw [h.gate]; rfl
  have free : s.gate.isOpen access = true := by rw [h.gate]; cases access <;> rfl
  exact ⟨_, by simp only [visit, if_neg visits, unexpected, free]; rfl⟩

theorem visitOpen_eq (visits : s.visits < visitLimit) :
    s.visitOpen = (true, { s with visits := s.visits + 1 }) :=
  if_neg (Nat.not_le.mpr visits)

/-! Enrichment. -/

theorem IsOpen.changeAlert_ends (h : s.IsOpen) (task : Task)
    (change : Engine → Option Alert × Engine) :
    ∃ value, (s.changeAlert task change).1 = .ends value := by
  obtain ⟨visited, found⟩ := h.exists_visit 0 .write
  exact ⟨_, by rw [changeAlert, found]⟩

theorem IsOpen.enrichment_ends (h : s.IsOpen) {alert : Alert} {r : Slot Recommendations}
    {c : Slot Correlations}
    (elapsed : ∀ wait ∈ (Task.enrichment alert r c).waits, wait.due ≤ s.time) :
    ∃ value, (s.continueTask (.enrichment alert r c)).1 = .ends value := by
  obtain ⟨elapsedR, elapsedC⟩ := List.forall_mem_append.mp elapsed
  obtain ⟨recommendations, hR⟩ := Slot.exists_valueAt? elapsedR
  obtain ⟨correlations, hC⟩ := Slot.exists_valueAt? elapsedC
  simp only [continueTask, hR, hC]
  split
  · exact ⟨_, rfl⟩
  · exact h.changeAlert_ends ..

theorem IsOpen.feedback_ends (h : s.IsOpen) {alert : Alert}
    {answer : Slot Enrichment.FeedbackAnswer}
    (elapsed : ∀ wait ∈ (Task.feedback alert answer).waits, wait.due ≤ s.time) :
    ∃ value, (s.continueTask (.feedback alert answer)).1 = .ends value := by
  obtain ⟨value, found⟩ := Slot.exists_valueAt? elapsed
  simp only [continueTask, found]
  split
  · exact ⟨_, rfl⟩
  · exact h.changeAlert_ends ..

/-! Dispatch. -/

/-- A delivery that stays as it is is settled. -/
theorem settled_of_same (visits : s.visits < visitLimit) {event : Event} {delivery : Delivery}
    (elapsed : ∀ wait ∈ delivery.waits, wait.due ≤ s.time)
    (same : (s.continueDelivery event delivery).1 = delivery) :
    ∃ outcome, delivery = .settled outcome := by
  have visited := visitOpen_eq visits
  cases delivery with
  | settled outcome => exact ⟨outcome, rfl⟩
  | underway wait notification arrives =>
    have ended := elapsed wait (List.mem_singleton_self wait)
    rw [continueDelivery, if_pos ended, settleDelivery] at same
    split at same <;> cases same
  | announcing =>
    simp only [continueDelivery, announce, visited, dropFailed] at same
    split at same
    · split at same <;> cases same
    · cases same
  | dropping =>
    simp only [continueDelivery, dropFailed, visited] at same
    cases same

theorem all_settled_of_same (visits : s.visits < visitLimit) {event : Event}
    {deliveries : List Delivery}
    (elapsed : ∀ wait ∈ deliveries.flatMap Delivery.waits, wait.due ≤ s.time)
    (same : (continueDeliveries event deliveries s).1 = deliveries) :
    ∃ outcomes, deliveries.mapM Delivery.outcome? = some outcomes := by
  induction deliveries with
  | nil => exact ⟨[], rfl⟩
  | cons delivery deliveries ih =>
    rw [List.flatMap_cons] at elapsed
    obtain ⟨elapsedFirst, elapsedRest⟩ := List.forall_mem_append.mp elapsed
    simp only [continueDeliveries] at same
    obtain ⟨first, rest⟩ := List.cons.inj same
    obtain ⟨outcome, rfl⟩ := settled_of_same visits elapsedFirst first
    obtain ⟨outcomes, found⟩ := ih elapsedRest rest
    exact ⟨outcome :: outcomes, by simp [found, Delivery.outcome?]⟩

/-- A dispatch that stays as it is has come to its end. -/
theorem report?_of_same (visits : s.visits < visitLimit) {dispatch : DispatchState}
    (elapsed : ∀ wait ∈ dispatch.waits, wait.due ≤ s.time)
    (same : (s.continueDispatch dispatch).1 = dispatch) : dispatch.report?.isSome := by
  cases dispatch with
  | taken event =>
    simp only [continueDispatch, visitOpen_eq visits] at same
    cases same
  | handedOut event deliveries =>
    simp only [continueDispatch, DispatchState.handedOut.injEq, true_and] at same
    obtain ⟨outcomes, found⟩ := all_settled_of_same visits elapsed same
    simp [DispatchState.report?, found]

theorem IsOpen.dispatch_ne (h : s.IsOpen) {dispatch : DispatchState}
    (elapsed : ∀ wait ∈ dispatch.waits, wait.due ≤ s.time) :
    (s.continueTask (.dispatch dispatch)).1 ≠ .waits (.dispatch dispatch) := by
  intro same
  simp only [continueTask] at same
  split at same
  · cases same
  · next unreported =>
    have same : (s.continueDispatch dispatch).1 = dispatch := by simpa using same
    have reported := report?_of_same h.visits elapsed same
    rw [same] at unreported
    simp [unreported] at reported

/-! The dispatch loop. -/

/-- A loop does not go back to an event, nor to a dispatch after its end: this is shown by induction
on the fuel, of which a loop that goes on has less. -/
theorem exists_of_runLoop (fuel : Nat) (state : LoopState) (s : System)
    (h : (runLoop fuel state s).1 = .waits task) :
    ∃ later, task = .dispatchLoop later ∧ state.place ≤ later.place ∧
      (state.current = none → later.place = state.place → later.current = none) := by
  induction fuel generalizing state s with
  | zero =>
    cases h
    exact ⟨state, rfl, Nat.le_refl _, fun idle _ => idle⟩
  | succ fuel ih =>
    unfold runLoop at h
    split at h
    · next dispatch current =>
      simp only at h
      split at h
      · obtain ⟨later, hTask, ahead, -⟩ := ih _ _ h
        exact ⟨later, hTask, ahead, fun idle => by simp [current] at idle⟩
      · cases h
        exact ⟨_, rfl, Nat.le_refl _, fun idle => by simp [current] at idle⟩
    · next idle =>
      split at h
      · cases h
      · split at h
        · cases h
          exact ⟨state, rfl, Nat.le_refl _, fun idle _ => idle⟩
        · split at h
          · next missed _ =>
            obtain ⟨later, hTask, ahead, idle'⟩ := ih _ _ h
            simp only at ahead idle'
            refine ⟨later, hTask, by omega, fun _ same => idle' idle ?_⟩
            omega
          · obtain ⟨later, hTask, ahead, -⟩ := ih _ _ h
            simp only at ahead
            exact ⟨later, hTask, by omega, fun _ same => absurd same (by omega)⟩
          · cases h
            exact ⟨state, rfl, Nat.le_refl _, fun idle _ => idle⟩

/-- A loop goes on with its dispatch, and from there to the next new alert. Whatever it receives,
unless that is nothing, it is at another place afterwards. -/
theorem IsOpen.runLoop_ne (h : s.IsOpen)
    (elapsed : ∀ wait ∈ (Task.dispatchLoop state).waits, wait.due ≤ s.time)
    (undispatched : 0 < s.undispatchedOf (.dispatchLoop state)) (fuel : Nat) :
    (runLoop (fuel + 1) state s).1 ≠ .waits (.dispatchLoop state) := by
  intro same
  unfold runLoop at same
  split at same
  · next dispatch current =>
    have elapsedDispatch : ∀ wait ∈ dispatch.waits, wait.due ≤ s.time := by
      simpa [Task.waits, current] using elapsed
    simp only at same
    split at same
    · obtain ⟨later, hTask, -, idle⟩ := exists_of_runLoop _ _ _ same
      cases hTask
      simp [current] at idle
    · next unreported =>
      obtain ⟨place, missed, stopping, _⟩ := state
      cases current
      have same : (s.continueDispatch dispatch).1 = dispatch := by simpa using same
      rw [same] at unreported
      exact unreported (report?_of_same h.visits elapsedDispatch same)
  · next idle =>
    have ahead : 0 < s.ahead state := by simpa [idle] using undispatched
    split at same
    · cases same
    · next running =>
      rw [System.ahead, if_neg running] at ahead
      rw [visitOpen_eq h.visits] at same
      simp only at same
      split at same
      · next missed received =>
        obtain ⟨later, hTask, less, -⟩ := exists_of_runLoop _ _ _ same
        have lagged := Engine.bounds_of_lagged received
        cases hTask
        simp only at less
        omega
      · obtain ⟨later, hTask, less, -⟩ := exists_of_runLoop _ _ _ same
        cases hTask
        exact absurd less (Nat.not_succ_le_self _)
      · next received =>
        rw [Engine.drop_of_empty received] at ahead
        exact absurd ahead (Nat.lt_irrefl 0)

/-! The beginning of an activity. -/

theorem eq_of_changeAlert {change : Engine → Option Alert × Engine}
    (h : (s.changeAlert task change).1 = .waits next) : next = task := by
  unfold changeAlert at h
  split at h <;> cases h
  rfl

theorem isBeginning_runStop {current : Nat} {later : List Nat}
    (h : (s.runStop current later).1 = .waits next) : next.isBeginning = false := by
  induction later generalizing s current with
  | nil =>
    unfold runStop at h
    split at h <;> cases h
    rfl
  | cons first later ih =>
    unfold runStop at h
    split at h
    · cases h
      rfl
    · exact ih h

/-- An activity begins only once. -/
theorem isBeginning_continueTask (calm : task.isCalm)
    (h : (s.continueTask task).1 = .waits next) : next.isBeginning = false := by
  cases task with
  | fresh | held => cases h
  | evaluation | detection | patternRun | patternJob => cases calm
  | enrichment =>
    simp only [continueTask] at h
    split at h
    · split at h
      · cases h
      · cases eq_of_changeAlert h
        rfl
    · cases h
      rfl
  | feedback =>
    simp only [continueTask] at h
    split at h
    · split at h
      · cases h
      · cases eq_of_changeAlert h
        rfl
    · cases h
      rfl
  | explanation | recommendations | correlations | dispatch =>
    simp only [continueTask] at h
    split at h <;> cases h
    rfl
  | dispatchLoop state =>
    obtain ⟨later, rfl, -⟩ := exists_of_runLoop _ _ _ h
    rfl
  | stopping => exact isBeginning_runStop h

theorem isBeginning_startWork (calm : work.isCalm) (h : (s.startWork work).1 = .waits next) :
    next.isBeginning = false := by
  cases work with
  | evaluate | detect | analyzePatterns | patternJob => cases calm
  | enrich | feedback | explain | recommend | correlate | dispatch | dispatchLoop =>
    simp only [startWork] at h
    exact isBeginning_continueTask rfl h
  | stop tasks =>
    cases tasks with
    | nil => cases h
    | cons => exact isBeginning_runStop h

theorem isBeginning_resumeWork (calm : work.isCalm) (h : (s.resumeWork work).1 = .waits next) :
    next.isBeginning = false := by
  unfold resumeWork at h
  split at h
  · exact isBeginning_continueTask rfl h
  · exact isBeginning_startWork calm h

theorem IsOpen.enter_eq (h : s.IsOpen) (work : Work) (how : System → Work → Progress × System) :
    ∃ entered, s.enter work how = how entered work := by
  obtain ⟨visited, found⟩ := h.exists_visit 0 .read
  unfold enter
  split
  · exact ⟨visited, by rw [found]⟩
  · exact ⟨s, rfl⟩

/-- When a task can go on, its turn does something about the enrichment that it is, or about the new
alerts that it is yet to hand out. -/
theorem CanGoOn.tasks_turn_ne {id : Nat} (goes : s.CanGoOn task) (h : s.task? id = some task)
    (calm : task.isCalm) (left : 0 < task.enriching ∨ 0 < s.undispatchedOf task) :
    (s.turn id).tasks ≠ s.tasks := by
  intro same
  obtain ⟨begun, hasBegun, hTurn⟩ := turn_eq_conclude h
  rw [hTurn] at same
  have stays := eq_waits_of_same h same
  have isOpen := hasBegun.isOpen goes
  have elapsed := goes.elapsed
  rw [← hasBegun.time] at elapsed
  cases task with
  | fresh work =>
    obtain ⟨entered, found⟩ := isOpen.enter_eq work startWork
    rw [goOn, found] at stays
    cases isBeginning_startWork calm stays
  | held work =>
    obtain ⟨entered, found⟩ := isOpen.enter_eq work resumeWork
    rw [goOn, found] at stays
    cases isBeginning_resumeWork calm stays
  | enrichment =>
    obtain ⟨value, ends⟩ := isOpen.enrichment_ends elapsed
    cases ends.symm.trans stays
  | feedback =>
    obtain ⟨value, ends⟩ := isOpen.feedback_ends elapsed
    cases ends.symm.trans stays
  | dispatch => exact isOpen.dispatch_ne elapsed stays
  | dispatchLoop state =>
    have undispatched : 0 < begun.undispatchedOf (.dispatchLoop state) := by
      rw [undispatchedOf, hasBegun.engine]
      exact left.resolve_left (Nat.lt_irrefl 0)
    exact isOpen.runLoop_ne elapsed undispatched _ stays
  | evaluation | detection | patternRun | patternJob => cases calm
  | explanation | recommendations | correlations | stopping =>
    exact left.elim (Nat.lt_irrefl 0) (Nat.lt_irrefl 0)

end System

end MetricAlerts
