import MetricAlerts.Proofs.System.Balance
import MetricAlerts.Proofs.Engine.Definitions
import MetricAlerts.Proofs.Realtime.Feed

/-! What the turn of a calm task costs. A task pays for the events that it publishes and for the
feedback that it asks for: with the enrichment that it has been, or with the new alerts that it has
handed out. -/

namespace MetricAlerts.System

variable {s s' : System} {works later : List Work} {task next : Task} {progress : Progress}

/-- What a task has come to is worth no more than before, with what it has published and the
activities that it has begun. -/
structure Bill (s : System) (task : Task) (published : List Event) (works : List Work)
    (progress : Progress) : Prop where
  updated : ∀ event ∈ published, event.isUpdated
  feedback : ∀ work ∈ works, ∃ alert type, work = .feedback alert type
  calm : progress.IsCalm
  price : published.length + works.length +
    (progress.worth Task.enriching + s.feedbackChannels * progress.worth s.undispatchedOf) ≤
      task.enriching + s.feedbackChannels * s.undispatchedOf task
  undispatched : progress.worth s.undispatchedOf ≤ s.undispatchedOf task

/-- A task has handed out a new alert, or has made an effort without beginning anything. -/
def Lessens (s : System) (task : Task) (works : List Work) (progress : Progress) : Prop :=
  progress.worth s.undispatchedOf < s.undispatchedOf task ∨
    works = [] ∧ progress.worth s.effortOf < s.effortOf task

/-- A task that publishes nothing goes on, or it stays as it is. -/
structure Pays (s : System) (task : Task) (works : List Work) (result : Progress × System) :
    Prop where
  spawns : s.Spawns works result.2
  bill : Bill s task [] works result.1
  goesOn : (result.1 = .waits task ∧ works = [] ∧ result.2.engine = s.engine) ∨
    Lessens s task works result.1

theorem Bill.congr {published : List Event} (agrees : s.engine.Agrees s'.engine)
    (bill : Bill s' task published works progress) : Bill s task published works progress := by
  obtain ⟨updated, feedback, calm, price, undispatched⟩ := bill
  rw [feedbackChannels_congr agrees, undispatchedOf_congr agrees] at price
  rw [undispatchedOf_congr agrees] at undispatched
  exact ⟨updated, feedback, calm, price, undispatched⟩

theorem Lessens.congr (agrees : s.engine.Agrees s'.engine)
    (lessens : Lessens s' task works progress) : Lessens s task works progress := by
  rwa [Lessens, undispatchedOf_congr agrees, effortOf_congr agrees] at lessens

theorem Pays.trans {result : Progress × System} (first : Pays s task works (.waits next, s'))
    (second : Pays s' next later result) : Pays s task (works ++ later) result where
  spawns := first.spawns.trans second.spawns
  bill := by
    obtain ⟨-, feedback, -, price, undispatched⟩ := first.bill
    obtain ⟨-, feedback', calm, price', undispatched'⟩ := second.bill.congr first.spawns.engine
    refine ⟨List.forall_mem_nil _, List.forall_mem_append.mpr ⟨feedback, feedback'⟩, calm, ?_,
      Nat.le_trans undispatched' undispatched⟩
    simp only [List.length_append, Progress.worth] at price price' ⊢
    omega
  goesOn := by
    have bill := (second.bill.congr first.spawns.engine).undispatched
    rcases first.goesOn with ⟨same, none, engine⟩ | less
    · cases same
      subst none
      rcases second.goesOn with ⟨same', none', engine'⟩ | less'
      · exact .inl ⟨same', none', engine'.trans engine⟩
      · exact .inr (less'.congr first.spawns.engine)
    · refine .inr ?_
      rcases second.goesOn with ⟨same', none', -⟩ | less'
      · rw [same', none', List.append_nil]
        exact less
      · have less' := less'.congr first.spawns.engine
        rcases less with less | ⟨none, less⟩
        · exact .inl (Nat.lt_of_le_of_lt bill less)
        · rcases less' with less' | ⟨none', less'⟩
          · exact .inl (Nat.lt_of_lt_of_le less' first.bill.undispatched)
          · exact .inr ⟨by rw [none, none', List.append_nil], Nat.lt_trans less' less⟩

/-- Nothing is to be paid for when nothing is published and nothing begins. -/
theorem Bill.of_le (calm : progress.IsCalm)
    (enriching : progress.worth Task.enriching ≤ task.enriching)
    (undispatched : progress.worth s.undispatchedOf ≤ s.undispatchedOf task) :
    Bill s task [] [] progress := by
  refine ⟨List.forall_mem_nil _, List.forall_mem_nil _, calm, ?_, undispatched⟩
  have price := Nat.mul_le_mul_left s.feedbackChannels undispatched
  simp only [List.length_nil]
  omega

theorem Pays.same (calm : task.isCalm) (spawns : s.Spawns [] s') (engine : s'.engine = s.engine) :
    Pays s task [] (.waits task, s') :=
  ⟨spawns, .of_le calm (Nat.le_refl _) (Nat.le_refl _),
    .inl ⟨rfl, rfl, engine⟩⟩

/-- A task has made an effort. -/
theorem Pays.of_effort (calm : progress.IsCalm)
    (spawns : s.Spawns [] s') (enriching : progress.worth Task.enriching ≤ task.enriching)
    (undispatched : progress.worth s.undispatchedOf ≤ s.undispatchedOf task)
    (effort : progress.worth s.effortOf < s.effortOf task) : Pays s task [] (progress, s') :=
  ⟨spawns, .of_le calm enriching undispatched, .inr (.inr ⟨rfl, effort⟩)⟩

/-! Deliveries. -/

/-- The effort that deliveries take. -/
def effort (deliveries : List Delivery) : Nat := (deliveries.map Delivery.effort).sum

/-- An announcement is put off, or it takes less effort from then on. -/
theorem effort_announce (s : System) (event : Event) :
    (s.announce event).1 = .announcing ∧ (s.announce event).2.engine = s.engine ∨
      (s.announce event).1.effort < Delivery.announcing.effort := by
  have visited := engine_visitOpen s
  unfold announce
  split
  · refine .inr ?_
    simp only
    split
    · unfold dropFailed
      split <;> simp [Delivery.effort]
    · simp [Delivery.effort]
  · next found =>
    rw [found] at visited
    exact .inl ⟨rfl, visited⟩

/-- A delivery stays as it is, or it takes less effort from then on. -/
theorem effort_continueDelivery (s : System) (event : Event) (delivery : Delivery) :
    (s.continueDelivery event delivery).1 = delivery ∧
        (s.continueDelivery event delivery).2.engine = s.engine ∨
      (s.continueDelivery event delivery).1.effort < delivery.effort := by
  cases delivery with
  | settled => exact .inl ⟨rfl, rfl⟩
  | underway wait notification arrives =>
    simp only [continueDelivery]
    split
    · refine .inr ?_
      unfold settleDelivery
      split <;> exact Nat.one_pos
    · exact .inl ⟨rfl, rfl⟩
  | announcing => exact effort_announce ..
  | dropping =>
    have visited := engine_visitOpen s
    simp only [continueDelivery, dropFailed]
    split
    · exact .inr Nat.one_pos
    · next found =>
      rw [found] at visited
      exact .inl ⟨rfl, visited⟩

theorem effort_continueDeliveries (event : Event) (deliveries : List Delivery) (s : System) :
    (continueDeliveries event deliveries s).1 = deliveries ∧
        (continueDeliveries event deliveries s).2.engine = s.engine ∨
      effort (continueDeliveries event deliveries s).1 < effort deliveries := by
  induction deliveries generalizing s with
  | nil => exact .inl ⟨rfl, rfl⟩
  | cons delivery deliveries ih =>
    simp only [continueDeliveries, effort, List.map_cons, List.sum_cons]
    obtain ⟨same, engine⟩ | less := effort_continueDelivery s event delivery
    · obtain ⟨same', engine'⟩ | less' := ih (s.continueDelivery event delivery).2
      · exact .inl ⟨by rw [same, same'], engine'.trans engine⟩
      · rw [same]
        exact .inr (Nat.add_lt_add_left less' _)
    · obtain ⟨same', -⟩ | less' := ih (s.continueDelivery event delivery).2
      · rw [same']
        exact .inr (Nat.add_lt_add_right less _)
      · exact .inr (Nat.add_lt_add less less')

theorem effort_deliverToAll_le (event : Event) (channels : List Channel) (s : System) :
    effort (deliverToAll event channels s).1 ≤ 2 * channels.length := by
  induction channels generalizing s with
  | nil => exact Nat.le_refl 0
  | cons channel channels ih =>
    have first : (s.deliverTo event channel).1.effort ≤ 2 := by
      cases (s.deliverTo event channel).1 <;> simp [Delivery.effort]
    have rest := ih (s.deliverTo event channel).2
    simp only [deliverToAll, effort, List.map_cons, List.sum_cons, List.length_cons] at rest ⊢
    omega

/-! Dispatch. -/

@[simp] theorem enriching_dispatch (state : DispatchState) :
    (Task.dispatch state).enriching = 0 :=
  rfl

@[simp] theorem undispatchedOf_dispatch (s : System) (state : DispatchState) :
    s.undispatchedOf (.dispatch state) = state.undispatched :=
  rfl

/-- An event that is handed out pays for the feedback that it gives cause for. -/
theorem pays_deliverToAll {begun : System} (event : Event) (visited : s.Spawns [] begun) :
    Pays s (.dispatch (.taken event)) (feedbackWorks event s.engine.definitions.enabledChannels)
      (.waits (.dispatch (.handedOut event
        (deliverToAll event s.engine.definitions.enabledChannels begun).1)),
        (deliverToAll event s.engine.definitions.enabledChannels begun).2) := by
  have length := length_feedbackWorks_le event s.engine.definitions
  refine ⟨visited.nil_trans (spawns_deliverToAll ..), ⟨List.forall_mem_nil _,
    fun _ => exists_of_mem_feedbackWorks, rfl, ?_, Nat.zero_le _⟩, .inr ?_⟩
  · by_cases created : event.isCreated <;>
      simpa [Progress.worth, DispatchState.undispatched, feedbackChannels, created] using length
  · by_cases created : event.isCreated
    · exact .inl (by simp [Progress.worth, DispatchState.undispatched, created])
    · rw [if_neg created] at length
      refine .inr ⟨List.eq_nil_of_length_eq_zero (Nat.le_zero.mp length), ?_⟩
      exact Nat.add_lt_add_right (Nat.lt_succ_of_le (effort_deliverToAll_le event _ begun)) 1

/-- A dispatch stays as it is, hands out its event, or makes an effort. -/
theorem pays_continueDispatch (s : System) (state : DispatchState) :
    ∃ works, Pays s (.dispatch state) works
      (.waits (.dispatch (s.continueDispatch state).1), (s.continueDispatch state).2) := by
  cases state with
  | taken event =>
    have visited := (begins_visitOpen s).toSpawns
    have engine := engine_visitOpen s
    simp only [continueDispatch]
    split
    · next later found =>
      rw [found] at visited
      rw [visited.engine.definitions]
      exact ⟨_, pays_deliverToAll event visited⟩
    · next found =>
      rw [found] at visited engine
      exact ⟨[], .same rfl visited engine⟩
  | handedOut event deliveries =>
    have spawns := spawns_continueDeliveries event deliveries s
    obtain ⟨same, engine⟩ | less := effort_continueDeliveries event deliveries s
    · simp only [continueDispatch, same]
      exact ⟨[], .same rfl spawns engine⟩
    · exact ⟨[], .of_effort rfl spawns (Nat.le_refl _) (Nat.le_refl _)
        (Nat.add_lt_add_right less 1)⟩

/-! The dispatch loop. -/

variable {state : LoopState}

/-- The new alerts that a loop is yet to take from the bus. -/
def ahead (s : System) (state : LoopState) : Nat :=
  if state.stopping then 0 else (s.engine.events.drop state.place).countP Event.isCreated

@[simp] theorem enriching_dispatchLoop (state : LoopState) :
    (Task.dispatchLoop state).enriching = 0 :=
  rfl

@[simp] theorem undispatchedOf_dispatchLoop (s : System) (state : LoopState) :
    s.undispatchedOf (.dispatchLoop state) =
      state.current.elim 0 DispatchState.undispatched + s.ahead state :=
  rfl

/-- A loop pays for what its dispatch does. -/
theorem Pays.dispatchLoop {dispatch dispatch' : DispatchState}
    (current : state.current = some dispatch)
    (pays : Pays s (.dispatch dispatch) works (.waits (.dispatch dispatch'), s')) :
    Pays s (.dispatchLoop state) works
      (.waits (.dispatchLoop { state with current := some dispatch' }), s') := by
  obtain ⟨place, missed, stopping, _⟩ := state
  cases current
  obtain ⟨spawns, ⟨updated, feedback, -, price, undispatched⟩, goesOn⟩ := pays
  simp only [Progress.worth, enriching_dispatch, undispatchedOf_dispatch] at price undispatched
  refine ⟨spawns, ⟨updated, feedback, rfl, ?_, ?_⟩, ?_⟩
  · simp only [Progress.worth, enriching_dispatchLoop, undispatchedOf_dispatchLoop, Option.elim,
      ahead, Nat.mul_add]
    omega
  · exact Nat.add_le_add_right undispatched _
  · rcases goesOn with ⟨same, none, engine⟩ | less | ⟨none, less⟩
    · cases same
      exact .inl ⟨rfl, none, engine⟩
    · exact .inr (.inl (Nat.add_lt_add_right less _))
    · refine .inr (.inr ⟨none, ?_⟩)
      exact Nat.add_lt_add_right (Nat.add_lt_add_right less _) 1

/-- A loop has come to the end of a dispatch. -/
theorem Pays.endDispatch {dispatch : DispatchState} (current : state.current = some dispatch) :
    Pays s (.dispatchLoop state) [] (.waits (.dispatchLoop { state with current := none }), s) := by
  obtain ⟨place, missed, stopping, _⟩ := state
  cases current
  refine .of_effort rfl (.refl s) (Nat.le_refl _) ?_ ?_
  · exact Nat.add_le_add_right (Nat.zero_le _) _
  · exact Nat.add_lt_add_right (Nat.add_lt_add_right (Nat.succ_pos _) _) 1

/-- A loop takes an event from the bus. -/
theorem Pays.receive {event : Event} (idle : state.current = none)
    (running : ¬ state.stopping = true)
    (received : s.engine.bus.receive state.place = .event event) (spawns : s.Spawns [] s') :
    Pays s (.dispatchLoop state) []
      (.waits (.dispatchLoop
        { state with place := state.place + 1, current := some (.taken event) }), s') := by
  obtain ⟨place, missed, stopping, _⟩ := state
  cases idle
  obtain ⟨less, drop⟩ := Engine.drop_of_receive received
  simp only at less running drop
  refine .of_effort rfl spawns (Nat.le_refl _) ?_ ?_
  · simp only [Progress.worth, undispatchedOf_dispatchLoop, Option.elim, ahead, if_neg running,
      drop, List.countP_cons, DispatchState.undispatched]
    omega
  · have left : s.engine.events.length - place = s.engine.events.length - (place + 1) + 1 := by
      omega
    simp only [Progress.worth, effortOf, Task.effort, Option.elim, loopEffort, DispatchState.effort,
      left, Nat.succ_mul]
    omega

/-- A loop finds that events have been overwritten. -/
theorem Pays.lag {missed : Nat} (idle : state.current = none)
    (received : s.engine.bus.receive state.place = .lagged missed) (spawns : s.Spawns [] s') :
    Pays s (.dispatchLoop state) []
      (.waits (.dispatchLoop
        { state with place := state.place + missed, missed := state.missed + missed }), s') := by
  obtain ⟨place, before, stopping, _⟩ := state
  cases idle
  obtain ⟨less, within⟩ := Engine.bounds_of_lagged received
  simp only at within
  refine .of_effort rfl spawns (Nat.le_refl _) ?_ ?_
  · have fewer : (s.engine.events.drop (place + missed)).countP Event.isCreated ≤
        (s.engine.events.drop place).countP Event.isCreated :=
      (List.drop_sublist_drop_left _ (Nat.le_add_right ..)).countP_le
    simp only [Progress.worth, undispatchedOf_dispatchLoop, Option.elim, ahead]
    split
    · exact Nat.le_refl _
    · exact Nat.add_le_add_left fewer 0
  · have left : s.engine.events.length - place =
        s.engine.events.length - (place + missed) + missed := by
      omega
    simp only [Progress.worth, effortOf, Task.effort, Option.elim, loopEffort, left, Nat.add_mul]
    have paid : 0 < missed * (2 * s.engine.definitions.enabledChannels.length + 3) :=
      Nat.mul_pos less (Nat.succ_pos _)
    omega

/-- Each round of the loop pays for itself, and by induction on the fuel the loop pays for all. -/
theorem pays_runLoop (fuel : Nat) (state : LoopState) (s : System) :
    ∃ works, Pays s (.dispatchLoop state) works (runLoop fuel state s) := by
  induction fuel generalizing state s with
  | zero => exact ⟨[], .same rfl (.refl s) rfl⟩
  | succ fuel ih =>
    have goes : ∀ {works next s'},
        Pays s (.dispatchLoop state) works (.waits (.dispatchLoop next), s') →
        ∃ works, Pays s (.dispatchLoop state) works (runLoop fuel next s') := by
      intro works next s' first
      obtain ⟨later, second⟩ := ih next s'
      exact ⟨works ++ later, first.trans second⟩
    have visited := (begins_visitOpen s).toSpawns
    have engine := engine_visitOpen s
    unfold runLoop
    split
    · next dispatch current =>
      obtain ⟨works, pays⟩ := pays_continueDispatch s dispatch
      have went := pays.dispatchLoop current
      simp only
      split
      · exact goes (went.trans (.endDispatch rfl))
      · exact ⟨works, went⟩
    · next current =>
      split
      · exact ⟨[], .of_effort trivial (.refl s) (Nat.zero_le _) (Nat.zero_le _)
          (Nat.succ_pos _)⟩
      · next running =>
        split
        · next found =>
          rw [found] at visited engine
          exact ⟨[], .same rfl visited engine⟩
        · next later found =>
          rw [found] at visited
          split
          · next missed received => exact goes (.lag current received visited)
          · next event received => exact goes (.receive current running received visited)
          · exact ⟨[], .same rfl (.refl s) rfl⟩

end MetricAlerts.System
