import MetricAlerts.Proofs.Dispatch.Patterns
import MetricAlerts.Proofs.Store.Log
import MetricAlerts.Proofs.System.Duties
import MetricAlerts.Proofs.System.Operations

/-! The search for patterns in a system. Whatever a pattern job does in its turns is done for that
search (`searches_runJob`), and one search announces at most what the analyzer has noticed in the
last entries of the history (`pattern_search_is_read_only`). -/

namespace MetricAlerts.System

variable {s s' : System}

/-- A part of a watch in which a task does by itself what there is to do in a search for
patterns. -/
abbrev Searches : Option Loop → Bool → System → List Duty → System → List Duty → Prop :=
  Cares fun deed => deed.isOfPatterns ∧ deed.isOwn

variable {duties : List Duty} {loop : Option Loop} {stopping : Bool}

/-- The analyzer is asked about the last entries of the history, if there are any. -/
theorem searches_callPatterns (s : System) (window : Nat) :
    ∃ duties', Searches loop stopping s duties (s.callPatterns window).2 duties' ∧
      PatternRun.IsDue duties' (.asked (s.callPatterns window).1) := by
  have begins := begins_callPatterns s window
  have same := engine_callPatterns s window
  by_cases none : s.engine.alerts.getHistory window = []
  · refine ⟨duties, .of_begins begins same, .inr ?_⟩
    simp only [callPatterns, none, List.isEmpty_nil, if_true]
  · have asked : Watch.Step ⟨s.engine, duties, loop, stopping⟩
        (.ask (.patterns (s.engine.alerts.getHistory window))) _ := .ask ⟨none, window, rfl⟩
    refine ⟨duties ++ [.patterns (s.engine.alerts.getHistory window)], ?_,
      .inl ⟨_, List.mem_append_right _ (List.mem_singleton.mpr rfl)⟩⟩
    refine ⟨⟨_, .cons asked ?_, List.forall_mem_singleton.mpr ⟨rfl, rfl⟩⟩,
      List.subset_append_left .., [], ?_, List.forall_mem_nil _⟩
    · rw [same]
      exact .nil _
    · rw [same]
      exact begins

/-- What the analyzer has answered is announced. -/
theorem searches_announcePatterns (s : System) {answer : Slot PatternAnalysis} {time : Nat}
    {analysis : PatternAnalysis} (due : PatternRun.IsDue duties (.asked answer))
    (found : answer.valueAt? time = some analysis) :
    Searches loop stopping s duties (s.withEngine (s.engine.announcePatterns analysis).2)
      duties := by
  obtain asked | rfl := due
  · have announced : Watch.Step ⟨s.engine, duties, loop, stopping⟩
        (.act (.announcePatterns analysis)) _ := .act asked
    rw [show s.engine.duties (.announcePatterns analysis) = [] from rfl, List.append_nil]
      at announced
    exact .of_runs (.cons announced (.nil _)) (List.forall_mem_singleton.mpr ⟨rfl, rfl⟩)
      (List.Subset.refl _)
  · cases found
    exact .of_runs (.nil _) (List.forall_mem_nil _) (List.Subset.refl _)

/-- Whatever a pattern job does in a turn is done for the search for patterns. -/
theorem searches_runJob (fuel : Nat) (state : JobState) (s : System)
    (due : (Task.patternJob state).IsDue duties) :
    ∃ duties', Searches loop stopping s duties (runJob fuel state s).2 duties' ∧
      (runJob fuel state s).1.IsDue duties' := by
  induction fuel generalizing state s duties with
  | zero => exact ⟨duties, .refl .., due, rfl⟩
  | succ fuel ih =>
    have hVisit := engine_visit s 0 .read
    have begins := begins_visit s 0 .read
    unfold runJob
    split
    · split
      · next visited found =>
        rw [found] at hVisit begins
        let isWorthwhile := state.schedule.minHistory ≤ visited.engine.alerts.history.length
        have sized : (Task.patternJob
            { state with run := if isWorthwhile then some .reading else none }).IsDue duties := by
          by_cases h : isWorthwhile
          · rw [if_pos h]
            rintro run ⟨⟩
            trivial
          · rw [if_neg h]
            rintro run ⟨⟩
        obtain ⟨duties', later, due'⟩ := ih _ visited sized
        exact ⟨duties', .trans (.of_begins begins hVisit) later, due'⟩
      · next visited found =>
        rw [found] at hVisit begins
        exact ⟨duties, .of_begins begins hVisit, due, rfl⟩
    · split
      · next visited found =>
        rw [found] at hVisit begins
        obtain ⟨duties₁, first, due₁⟩ :=
          @searches_callPatterns duties loop stopping visited state.schedule.window
        obtain ⟨duties', later, due'⟩ :=
          ih { state with run := some (.asked (visited.callPatterns state.schedule.window).1) }
            (visited.callPatterns state.schedule.window).2 (by rintro run ⟨⟩; exact due₁)
        exact ⟨duties', .trans (.of_begins begins hVisit) (first.trans later), due'⟩
      · next visited found =>
        rw [found] at hVisit begins
        exact ⟨duties, .of_begins begins hVisit, due, rfl⟩
    · next answer hRun =>
      split
      · next analysis found =>
        obtain ⟨duties', later, due'⟩ := @ih duties { state with run := none }
          (s.withEngine (s.engine.announcePatterns analysis).2) nofun
        exact ⟨duties', (searches_announcePatterns s (due _ hRun) found).trans later, due'⟩
      · exact ⟨duties, .refl .., due, rfl⟩
    · split
      · exact ⟨duties, .refl .., trivial⟩
      · split
        · exact ih _ _ (by rintro run ⟨⟩; trivial)
        · split
          · exact ih _ _ (by rintro run ⟨⟩; trivial)
          · split
            · exact ⟨duties, .refl .., due, rfl⟩
            · exact ⟨duties, .of_begins (.of_eq rfl rfl rfl rfl rfl rfl rfl) rfl, due, rfl⟩

/-- A pattern job leaves alerts, and the events about them, as they are. -/
theorem runJob_keeps (fuel : Nat) (state : JobState) (s : System) :
    (runJob fuel state s).2.engine.alerts = s.engine.alerts ∧
      (runJob fuel state s).2.engine.lifecycle = s.engine.lifecycle := by
  have due : (Task.patternJob state).IsDue [.patterns []] := by
    intro run _
    cases run with
    | asked answer => exact .inl ⟨[], List.mem_singleton.mpr rfl⟩
    | _ => trivial
  obtain ⟨duties', searches, -⟩ := @searches_runJob _ none false fuel state s due
  obtain ⟨trace, runs, ofPatterns⟩ := searches.runs
  exact runs.keeps_of_patterns (Watch.isInStep_of_idle rfl) fun entry mem =>
    (ofPatterns entry mem).1

/-- When the answer is there, it is announced unless there is nothing in it. -/
theorem engine_patternRun {answer : Slot PatternAnalysis} {x : PatternAnalysis}
    (found : answer.valueAt? s.time = some x) :
    (s.continueTask (.patternRun answer)).2.engine = (s.engine.announcePatterns x).2 := by
  simp only [continueTask, found]
  exact engine_withEngine ..

theorem events_announcePatterns (e : Engine) (x : PatternAnalysis) :
    (e.announcePatterns x).2.events =
      e.events ++ if x.isEmpty then [] else [.patternsDetected x] := by
  unfold Engine.announcePatterns
  by_cases empty : x.isEmpty
  · rw [if_pos empty, if_pos empty, List.append_nil]
  · rw [if_neg empty, if_neg empty]
    exact Engine.events_publish ..

theorem calls_callPatterns (s : System) (window : Nat) :
    (s.callPatterns window).2.calls.toList = s.calls.toList ++
      if (s.engine.alerts.getHistory window).isEmpty then []
      else [.patterns (s.engine.alerts.getHistory window)] := by
  have calls_later {α : Type} (s : System) (delay : Nat) (value : α) :
      (s.later delay value).2.calls = s.calls := by
    unfold later
    split <;> rfl
  simp only [callPatterns]
  split
  · rw [List.append_nil]
  · rw [calls_later]
    exact Array.toList_push

/-- A search for patterns asks the analyzer about the last entries of the history, the oldest first,
if there are any, and announces what it has noticed if it has noticed anything. Alerts are left as
they are, and in whole runs: without all that is done for the search, the rest goes on as it does
with it, as long as the dispatch loop does not lag. -/
theorem pattern_search_is_read_only :
    (∀ (s t : System) (window : Nat) (x : PatternAnalysis),
      (s.callPatterns window).1.valueAt? t.time = some x →
      ∃ older asked, s.engine.alerts.history = older ++ asked ∧
        asked.length = min window s.engine.alerts.history.length ∧
        (s.callPatterns window).2.engine = s.engine ∧
        (s.callPatterns window).2.calls.toList =
          s.calls.toList ++ (if asked.isEmpty then [] else [.patterns asked]) ∧
        (t.continueTask (.patternRun (s.callPatterns window).1)).2.engine.alerts =
          t.engine.alerts ∧
        (t.continueTask (.patternRun (s.callPatterns window).1)).2.engine.events =
          t.engine.events ++
            if asked.isEmpty || (x.patterns.isEmpty && x.insights.isEmpty) then []
            else [.patternsDetected x]) ∧
    (∀ (fuel : Nat) (state : JobState) (s : System),
      (runJob fuel state s).2.engine.alerts = s.engine.alerts ∧
        (runJob fuel state s).2.engine.lifecycle = s.engine.lifecycle) ∧
    (∀ (w w' : Watch) (deed : Watch.Deed), w.IsInStep → w.Step deed w' → deed.isOfPatterns →
      w'.engine.alerts = w.engine.alerts ∧ w'.engine.lifecycle = w.engine.lifecycle) ∧
    ∀ (e : Engine) (trace : List (Watch.Deed × Watch)) (w : Watch),
      (∀ event ∈ e.events, event.alert?.isSome) → Watch.Runs (.idle e) trace w →
      (∀ entry ∈ trace, ∀ place missed, entry.1 ≠ .move (.lag place missed)) →
      ∃ trace₀ w₀, Watch.Runs (.idle e) trace₀ w₀ ∧
        (∀ entry ∈ trace₀, entry.1.isOfPatterns = false) ∧
        Watch.outline trace₀ = Watch.outline (trace.filter fun entry => !entry.1.isOfPatterns) ∧
        w₀.engine.alerts = w.engine.alerts ∧ w₀.engine.lifecycle = w.engine.lifecycle := by
  refine ⟨?_, runJob_keeps, fun _ _ _ inStep step h => step.keeps_of_patterns inStep h, ?_⟩
  · intro s t window x found
    obtain ⟨older, split⟩ := lastEntries_suffix window s.engine.alerts.history
    refine ⟨older, _, split.symm, length_lastEntries window _, engine_callPatterns s window,
      calls_callPatterns s window, ?_, ?_⟩
    · rw [engine_patternRun found]
      simp only [Engine.announcePatterns]
      split <;> rfl
    · rw [engine_patternRun found]
      cases empty : (lastEntries window s.engine.alerts.history).isEmpty with
      | true =>
        have neutral : (s.callPatterns window).1 = .ready .neutral := by
          simp only [callPatterns, AlertStore.getHistory, empty, if_true]
        rw [neutral] at found
        cases found
        exact (List.append_nil _).symm
      | false =>
        exact events_announcePatterns t.engine x
  · intro e trace w quiet runs steady
    have same : (Watch.idle e).withoutPatterns e.hub e.console = .idle e := by
      have none : e.bus.withoutPatterns = e.bus := by
        rw [Bus.withoutPatterns, Array.filter_eq_self.mpr]
        exact fun event mem => quiet event (Array.mem_toList_iff.mpr mem)
      simp only [Watch.withoutPatterns, Watch.idle, Engine.recast, none]
      rfl
    obtain ⟨trace₀, hub, console, runs₀, others, hOutline⟩ :=
      runs.withoutPatterns (Watch.isInStep_of_idle rfl) steady e.hub e.console
    rw [same] at runs₀
    exact ⟨trace₀, _, runs₀, others, hOutline, rfl, Watch.lifecycle_withoutPatterns ..⟩

/-- An analyzer that notices something at once. -/
def busyAnswer : PatternAnalysis := ⟨[], ["busy"]⟩

/-- A system with an alert of a disk, and an analyzer that notices something when it is asked. -/
def busySystem : System :=
  .initial (Engine.diskEngine.after Engine.raiseDisk)
    { Analyzer.neutral with patterns := [⟨.answer busyAnswer, 0⟩] } 1

/-- The alert is acknowledged while patterns are searched for, found and announced. -/
def busyWatch : List (Watch.Deed × Watch) :=
  let e := Engine.diskEngine.after Engine.raiseDisk
  let history := e.alerts.getHistory 10
  let e₁ := e.after (.announcePatterns busyAnswer)
  let e₂ := e₁.after (.acknowledge "first")
  let updated := e₂.events.getD 2 (.patternsDetected .neutral)
  let loop (place : Nat) (current : Option Dispatch) : Option Loop := some ⟨place, 0, current⟩
  [(.start, ⟨e, [], loop 1 none, false⟩),
    (.ask (.patterns history), ⟨e, [.patterns history], loop 1 none, false⟩),
    (.act (.announcePatterns busyAnswer), ⟨e₁, [.patterns history], loop 1 none, false⟩),
    (.act (.acknowledge "first"), ⟨e₂, [.patterns history], loop 1 none, false⟩),
    (.move (.receive 1 (.patternsDetected busyAnswer)),
      ⟨e₂, [.patterns history], loop 2 (some ⟨.patternsDetected busyAnswer, none⟩), false⟩),
    (.move (.lookUp (.patternsDetected busyAnswer)),
      ⟨e₂, [.patterns history], loop 2 (some ⟨.patternsDetected busyAnswer, some []⟩), false⟩),
    (.move (.finish (.patternsDetected busyAnswer)),
      ⟨e₂, [.patterns history], loop 2 none, false⟩),
    (.move (.receive 2 updated),
      ⟨e₂, [.patterns history], loop 3 (some ⟨updated, none⟩), false⟩)]

theorem runs_busyWatch :
    ∃ w, Watch.Runs (.idle (Engine.diskEngine.after Engine.raiseDisk)) busyWatch w := by
  have asks : (Engine.diskEngine.after Engine.raiseDisk).Asks
      (.patterns ((Engine.diskEngine.after Engine.raiseDisk).alerts.getHistory 10)) :=
    ⟨List.cons_ne_nil _ _, 10, rfl⟩
  exact ⟨_, .cons (.start rfl) <| .cons (.ask asks) <|
    .cons (.act ⟨_, List.mem_singleton.mpr rfl⟩) <| .cons (.act trivial) <|
    .cons (.move rfl (.receive rfl rfl)) <| .cons (.move rfl (.lookUp rfl)) <|
    .cons (.move rfl (.finish rfl)) <| .cons (.move rfl (.receive rfl rfl)) <| .nil _⟩

theorem pattern_search_is_read_only_disk :
    (∃ older asked, busySystem.engine.alerts.history = older ++ asked ∧
      (busySystem.callPatterns 10).2.calls.toList = [.patterns asked] ∧
      (busySystem.continueTask (.patternRun (busySystem.callPatterns 10).1)).2.engine.events =
        busySystem.engine.events ++ [.patternsDetected busyAnswer]) ∧
    ∃ trace₀ w₀, Watch.Runs (.idle (Engine.diskEngine.after Engine.raiseDisk)) trace₀ w₀ ∧
      (∀ entry ∈ trace₀, entry.1.isOfPatterns = false) ∧
      Watch.outline trace₀ = Watch.outline (busyWatch.filter fun entry => !entry.1.isOfPatterns) ∧
      trace₀.length = 3 := by
  obtain ⟨search, -, -, without⟩ := pattern_search_is_read_only
  obtain ⟨w, runs⟩ := runs_busyWatch
  refine ⟨?_, ?_⟩
  · obtain ⟨older, asked, split, hLength, -, hCalls, -, hEvents⟩ :=
      search busySystem busySystem 10 busyAnswer rfl
    have some : asked.isEmpty = false := by
      cases asked with
      | nil => exact absurd hLength (by decide)
      | cons => rfl
    rw [some] at hCalls hEvents
    exact ⟨older, asked, split, hCalls, hEvents⟩
  · have quiet : ∀ event ∈ (Engine.diskEngine.after Engine.raiseDisk).events,
        event.alert?.isSome := by
      show ∀ event ∈ [_], _
      exact List.forall_mem_singleton.mpr rfl
    have steady : ∀ entry ∈ busyWatch, ∀ place missed, entry.1 ≠ .move (.lag place missed) := by
      simp [busyWatch]
    obtain ⟨trace₀, w₀, runs₀, others, hOutline, -⟩ := without _ _ _ quiet runs steady
    have hLength := congrArg List.length hOutline
    rw [Watch.outline, List.length_map] at hLength
    exact ⟨trace₀, w₀, runs₀, others, hOutline, hLength⟩

end MetricAlerts.System
