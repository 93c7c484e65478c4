import MetricAlerts.Proofs.Dispatch.Watch

/-! What a dispatch loop has handed out when it has been started and stopped any number of times. A
loop begins behind the last event and leaves one place after the other behind, so that no place is
met twice (`handed_in_order`). -/

namespace MetricAlerts.Watch

variable {w w' : Watch} {deed : Deed} {trace : List (Deed × Watch)} {loop : Loop}

/-- The event that is taken off the bus, with its place. -/
def Deed.handed? : Deed → Option (Nat × Event)
  | .move made => made.handed?
  | _ => none

/-- The places of events that have been overwritten before they could be taken. -/
def Deed.missed : Deed → List Nat
  | .move made => made.missed
  | _ => []

/-- The places that the loop leaves behind, and whether the event at each of them is taken. -/
def Deed.passed : Deed → List (Nat × Bool)
  | .move made => made.passed
  | _ => []

/-- The events of a run that are handed to the dispatcher, with their places on the bus. -/
def handed (trace : List (Deed × Watch)) : List (Nat × Event) :=
  trace.filterMap fun entry => entry.1.handed?

/-- The places of events that the loop is told to have missed. -/
def missed (trace : List (Deed × Watch)) : List Nat := trace.flatMap fun entry => entry.1.missed

def passed (trace : List (Deed × Watch)) : List (Nat × Bool) :=
  trace.flatMap fun entry => entry.1.passed

@[simp] theorem passed_nil : passed [] = [] := rfl

@[simp] theorem passed_cons (entry : Deed × Watch) (later : List (Deed × Watch)) :
    passed (entry :: later) = entry.1.passed ++ passed later := rfl

theorem Deed.handed?_eq (deed : Deed) :
    deed.handed?.toList.map Prod.fst = (deed.passed.filter (·.2)).map Prod.fst := by
  cases deed with
  | move made => cases made <;> simp [handed?, passed, Loop.Move.handed?, Loop.Move.passed]
  | _ => rfl

theorem Deed.missed_eq (deed : Deed) :
    deed.missed = (deed.passed.filter (!·.2)).map Prod.fst := by
  cases deed with
  | move made =>
    cases made <;>
      simp [missed, passed, Loop.Move.missed, Loop.Move.passed, List.filter_map, Function.comp_def]
  | _ => rfl

theorem places_handed (trace : List (Deed × Watch)) :
    (handed trace).map Prod.fst = ((passed trace).filter (·.2)).map Prod.fst := by
  induction trace with
  | nil => rfl
  | cons entry later ih =>
    have split : handed (entry :: later) = entry.1.handed?.toList ++ handed later := by
      cases h : entry.1.handed? <;> simp [handed, h]
    rw [split, List.map_append, ih, entry.1.handed?_eq, passed_cons, List.filter_append,
      List.map_append]

theorem missed_eq (trace : List (Deed × Watch)) :
    missed trace = ((passed trace).filter (!·.2)).map Prod.fst := by
  induction trace with
  | nil => rfl
  | cons entry later ih =>
    show entry.1.missed ++ missed later = _
    rw [ih, entry.1.missed_eq, passed_cons, List.filter_append, List.map_append]

/-- Of places that are met once each, those are handed out that are not missed. -/
theorem handed_of_nodup (nodup : ((passed trace).map Prod.fst).Nodup) :
    (handed trace).map Prod.fst =
      ((passed trace).map Prod.fst).filter (· ∉ missed trace) := by
  rw [places_handed, missed_eq, List.filter_map]
  refine congrArg _ (List.filter_congr fun ⟨place, taken⟩ mem => ?_)
  have once {other : Bool} (also : (place, other) ∈ passed trace) : other = taken :=
    congrArg Prod.snd (List.inj_on_of_nodup_map nodup also mem rfl)
  cases taken with
  | true =>
    refine (decide_eq_true ?_).symm
    intro unmet
    obtain ⟨⟨_, other⟩, h, rfl⟩ := List.mem_map.mp unmet
    obtain ⟨also, isMissed⟩ := List.mem_filter.mp h
    rw [once also] at isMissed
    cases isMissed
  | false =>
    refine (decide_eq_false ?_).symm
    exact not_not.mpr (List.mem_map.mpr ⟨(place, false), List.mem_filter.mpr ⟨mem, rfl⟩, rfl⟩)

/-! One deed after another. -/

/-- The place of the next event that can be handed out: where the loop is, or where one that starts
now begins. -/
def next (w : Watch) : Nat :=
  match w.loop with
  | some loop => loop.place
  | none => w.engine.events.length

/-- What the next event can be moves on by the places that are left behind, or by more. -/
theorem Step.passed (step : w.Step deed w') (inStep : w.IsInStep) :
    ∃ count, w.next + count ≤ w'.next ∧
      deed.passed.map Prod.fst = List.range' w.next count := by
  have grows : w.engine.events.length ≤ w'.engine.events.length := by
    obtain ⟨published, hEvents⟩ := step.events
    rw [hEvents, List.length_append]
    exact Nat.le_add_right ..
  cases step with
  | move running goes =>
    obtain ⟨count, hPlace, hPassed⟩ := goes.passed
    refine ⟨count, ?_, ?_⟩
    · simp only [next, running]
      omega
    · simp only [next, running]
      exact hPassed
  | start idle =>
    refine ⟨0, ?_, rfl⟩
    simp only [next, idle]
    exact Nat.le_refl _
  | stop running =>
    refine ⟨0, ?_, rfl⟩
    simp only [next, running]
    exact inStep _ running
  | act | ingest | examine | ask | serve | leaveOff | startAgain | shutdown | shutdownAgain =>
    refine ⟨0, ?_, rfl⟩
    unfold next
    cases w.loop with
    | some loop => exact Nat.le_refl _
    | none => exact grows

/-- Without a loop nothing is left behind until the next start. -/
theorem Step.passed_of_idle (step : w.Step deed w') (idle : w.loop = none)
    (waits : deed ≠ .start) : w'.loop = none ∧ deed.passed = [] := by
  cases step with
  | start => exact absurd rfl waits
  | move running => rw [idle] at running; cases running
  | act | ingest | examine | ask | serve | leaveOff | startAgain | shutdown | shutdownAgain =>
    exact ⟨idle, rfl⟩
  | stop => exact ⟨rfl, rfl⟩

/-- A loop goes on where it is, or it stops. -/
theorem Step.passed_of_running (step : w.Step deed w') (running : w.loop = some loop) :
    w'.loop = none ∧ deed.passed = [] ∨
      ∃ loop' count, w'.loop = some loop' ∧ loop'.place = loop.place + count ∧
        deed.passed.map Prod.fst = List.range' loop.place count := by
  cases step with
  | stop => exact .inl ⟨rfl, rfl⟩
  | start idle => rw [running] at idle; cases idle
  | move same goes =>
    cases running.symm.trans same
    obtain ⟨count, hPlace, hPassed⟩ := goes.passed
    exact .inr ⟨_, count, rfl, hPlace, hPassed⟩
  | act | ingest | examine | ask | serve | leaveOff | startAgain | shutdown | shutdownAgain =>
    exact .inr ⟨loop, 0, running, rfl, rfl⟩

/-! Runs. -/

theorem Runs.passed_of_idle (runs : Runs w trace w') (idle : w.loop = none)
    (waits : ∀ entry ∈ trace, entry.1 ≠ .start) : passed trace = [] := by
  induction runs with
  | nil => rfl
  | cons step _ ih =>
    obtain ⟨first, later⟩ := List.forall_mem_cons.mp waits
    obtain ⟨idle', hPassed⟩ := step.passed_of_idle idle first
    rw [passed_cons, hPassed, ih idle' later]
    rfl

/-- Until the next start a loop leaves behind the next places, as far as events are published. -/
theorem Runs.passed_of_running (runs : Runs w trace w') (running : w.loop = some loop)
    (inStep : w.IsInStep) (waits : ∀ entry ∈ trace, entry.1 ≠ .start) :
    ∃ count, loop.place + count ≤ w'.engine.events.length ∧
      (passed trace).map Prod.fst = List.range' loop.place count := by
  induction runs generalizing loop with
  | nil => exact ⟨0, inStep loop running, rfl⟩
  | @cons w middle w' deed later step rest ih =>
    obtain ⟨-, waits⟩ := List.forall_mem_cons.mp waits
    obtain ⟨idle, hPassed⟩ | ⟨loop', count, running', hPlace, hPassed⟩ :=
      step.passed_of_running running
    · refine ⟨0, ?_, ?_⟩
      · obtain ⟨published, hEvents⟩ := (Runs.cons step rest).events
        rw [hEvents, List.length_append]
        exact Nat.le_add_right_of_le (inStep loop running)
      · rw [passed_cons, hPassed, rest.passed_of_idle idle waits]
        rfl
    · obtain ⟨more, bound, hLater⟩ := ih running' (step.isInStep inStep) waits
      rw [hPlace] at bound hLater
      refine ⟨count + more, by omega, ?_⟩
      rw [passed_cons, List.map_append, hPassed, hLater, List.range'_append_1]

/-- The places that a run leaves behind come one after another, from the next one on. -/
theorem Runs.pairwise_passed (runs : Runs w trace w') (inStep : w.IsInStep) :
    ((passed trace).map Prod.fst).Pairwise (· < ·) ∧
      ∀ place ∈ (passed trace).map Prod.fst, w.next ≤ place := by
  induction runs with
  | nil => exact ⟨List.Pairwise.nil, List.forall_mem_nil _⟩
  | cons step _ ih =>
    obtain ⟨count, bound, hPassed⟩ := step.passed inStep
    obtain ⟨increasing, above⟩ := ih (step.isInStep inStep)
    rw [passed_cons, List.map_append, hPassed]
    constructor
    · refine List.pairwise_append.mpr ⟨List.pairwise_lt_range', increasing, ?_⟩
      intro place first other later
      have hFirst := (List.mem_range'_1.mp first).2
      have hLater := above other later
      omega
    · intro place mem
      obtain first | later := List.mem_append.mp mem
      · exact (List.mem_range'_1.mp first).1
      · have hLater := above place later
        omega

/-- What is handed out is the event at its place, then and for ever. -/
theorem Runs.handed (runs : Runs w trace w') {place : Nat} {event : Event}
    (mem : (place, event) ∈ handed trace) : w'.engine.events[place]? = some event := by
  induction runs with
  | nil => cases mem
  | @cons w middle w' deed later step rest ih =>
    obtain ⟨entry, hEntry, hHanded⟩ := List.mem_filterMap.mp mem
    obtain rfl | isLater := List.mem_cons.mp hEntry
    · cases step with
      | move running goes =>
        obtain ⟨published, hEvents⟩ := rest.events
        have found := goes.handed hHanded
        obtain ⟨less, -⟩ := List.getElem?_eq_some_iff.mp found
        rw [hEvents]
        show (_ ++ published)[place]? = _
        rw [goes.events, List.getElem?_append_left less]
        exact found
      | _ => cases hHanded
    · exact ih (List.mem_filterMap.mpr ⟨entry, isLater, hHanded⟩)

/-- However often the loop is started and stopped, each event is handed to the dispatcher at most
once and in the order of publishing. Between a start and the stop that follows, these are the
events published meanwhile, up to some that are pending when the loop stops, and but for those that
the loop is told to have missed. Otherwise no event is handed out. -/
theorem handed_in_order (runs : Runs w trace w') (idle : w.loop = none) :
    ((handed trace).map Prod.fst).Pairwise (· < ·) ∧
      (∀ entry ∈ handed trace, w'.engine.events[entry.1]? = some entry.2) ∧
      (∀ before started middle stopped after,
        trace = before ++ (.start, started) :: (middle ++ (.stop, stopped) :: after) →
        (∀ entry ∈ middle, entry.1 ≠ .start) →
        ∃ count, started.engine.events.length + count ≤ stopped.engine.events.length ∧
          missed middle ⊆ List.range' started.engine.events.length count ∧
          (handed middle).map Prod.fst =
            (List.range' started.engine.events.length count).filter (· ∉ missed middle)) ∧
      ∀ before middle after, trace = before ++ middle ++ after →
        (before = [] ∨ ∃ earlier stopped, before = earlier ++ [(.stop, stopped)]) →
        (∀ entry ∈ middle, entry.1 ≠ .start) → handed middle = [] := by
  refine ⟨?_, fun entry mem => runs.handed mem, ?_, ?_⟩
  · rw [places_handed]
    exact (runs.pairwise_passed (isInStep_of_idle idle)).1.sublist (List.filter_sublist.map _)
  · intro before started middle stopped after split waits
    subst split
    obtain ⟨w₁, -, rest⟩ := runs.split
    cases rest with
    | cons start rest =>
      cases start with
      | start off =>
        obtain ⟨w₂, first, rest⟩ := rest.split
        cases rest with
        | cons stop _ =>
          cases stop with
          | stop =>
            have inStep := (Step.start off).isInStep (isInStep_of_idle off)
            obtain ⟨count, bound, hPassed⟩ := first.passed_of_running rfl inStep waits
            refine ⟨count, bound, ?_, ?_⟩
            · intro place mem
              rw [missed_eq] at mem
              exact hPassed ▸ (List.filter_sublist.map _).subset mem
            · have nodup : ((passed middle).map Prod.fst).Nodup := hPassed ▸ List.nodup_range'
              rw [handed_of_nodup nodup, hPassed]
              rfl
  · intro before middle after split off waits
    subst split
    obtain ⟨w₂, first, -⟩ := runs.split
    obtain ⟨w₁, earlier, run⟩ := first.split
    have off₁ : w₁.loop = none := by
      obtain rfl | ⟨earlier', stopped, rfl⟩ := off
      · cases earlier
        exact idle
      · obtain ⟨_, -, last⟩ := earlier.split
        cases last with
        | cons stop last =>
          cases last
          cases stop
          rfl
    have hPlaces := places_handed middle
    rw [run.passed_of_idle off₁ waits] at hPlaces
    exact List.map_eq_nil_iff.mp hPlaces

/-- The alert of a disk is acknowledged before the loop starts and while it runs, and resolved when
the loop has been asked to stop. -/
def diskWatch : List (Deed × Watch) :=
  let e := (Engine.diskEngine.after Engine.raiseDisk).after (.acknowledge "first")
  let e₁ := e.after (.acknowledge "first")
  let e₂ := e₁.after (.resolve "first" none)
  let event := e₁.events.getD 2 (.patternsDetected .neutral)
  [(.act (.acknowledge "first"), ⟨e, [], none, false⟩),
    (.start, ⟨e, [], some ⟨2, 0, none⟩, false⟩),
    (.act (.acknowledge "first"), ⟨e₁, [], some ⟨2, 0, none⟩, false⟩),
    (.move (.receive 2 event), ⟨e₁, [], some ⟨3, 0, some ⟨event, none⟩⟩, false⟩),
    (.move (.lookUp event), ⟨e₁, [], some ⟨3, 0, some ⟨event, some []⟩⟩, false⟩),
    (.shutdown, ⟨e₁, [], some ⟨3, 0, some ⟨event, some []⟩⟩, true⟩),
    (.act (.resolve "first" none), ⟨e₂, [], some ⟨3, 0, some ⟨event, some []⟩⟩, true⟩),
    (.move (.finish event), ⟨e₂, [], some ⟨3, 0, none⟩, true⟩),
    (.stop, ⟨e₂, [], none, false⟩)]

theorem runs_diskWatch :
    ∃ w, Runs (idle (Engine.diskEngine.after Engine.raiseDisk)) diskWatch w :=
  ⟨_, .cons (.act trivial) <| .cons (.start rfl) <| .cons (.act trivial) <|
    .cons (.move rfl (.receive rfl rfl)) <| .cons (.move rfl (.lookUp rfl)) <|
    .cons (.shutdown rfl) <| .cons (.act trivial) <| .cons (.move rfl (.finish rfl)) <|
    .cons (.stop rfl rfl rfl) <| .nil _⟩

/-- Of two events that are published while the loop runs, the second one is pending at its end. -/
theorem handed_in_order_disk :
    (handed diskWatch).map Prod.fst = [2] ∧ ((handed diskWatch).map Prod.fst).Pairwise (· < ·) ∧
      handed (diskWatch.take 1) = [] ∧
      ∃ count, 2 + count ≤ 4 ∧ missed ((diskWatch.drop 2).take 6) ⊆ List.range' 2 count ∧
        (handed ((diskWatch.drop 2).take 6)).map Prod.fst =
          (List.range' 2 count).filter (· ∉ missed ((diskWatch.drop 2).take 6)) := by
  obtain ⟨w, runs⟩ := runs_diskWatch
  obtain ⟨increasing, -, between, outside⟩ := handed_in_order runs rfl
  have early : ∀ entry ∈ diskWatch.take 1, entry.1 ≠ .start := by
    simp [diskWatch]
  have waits : ∀ entry ∈ (diskWatch.drop 2).take 6, entry.1 ≠ .start := by
    simp [diskWatch]
  exact ⟨rfl, increasing, outside [] _ (diskWatch.drop 1) rfl (.inl rfl) early,
    between (diskWatch.take 1) _ ((diskWatch.drop 2).take 6) _ [] rfl waits⟩

end MetricAlerts.Watch
