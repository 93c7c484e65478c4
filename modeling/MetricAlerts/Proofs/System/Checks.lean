import Mathlib.Logic.Relation
import MetricAlerts.Proofs.System.Begins

/-! The checks of a detection. In a turn they go on one at a time, few of them in their order and
many in the order in which they have woken; in between there is nothing but scheduling. -/

namespace MetricAlerts.System

/-- The checks of a detection, and the system in which they are made. -/
abbrev Checking := List (AnomalyCheck × CheckState) × System

/-- One of the checks goes on, or something is scheduled. -/
inductive CheckStep (source : String) : Checking → Checking → Prop
  | arrange {checks : List (AnomalyCheck × CheckState)} {s s' : System} (begins : s.Begins [] s')
      (engine : s'.engine = s.engine) : CheckStep source (checks, s) (checks, s')
  | check {checks : List (AnomalyCheck × CheckState)} (s : System) {strand : Nat}
      {check : AnomalyCheck} {before : CheckState}
      (found : checks[strand]? = some (check, before)) :
      CheckStep source (checks, s)
        (checks.set strand (check, (s.raiseAlerts source strand check before).2.1),
          (s.raiseAlerts source strand check before).2.2)

/-- One step after another. -/
abbrev CheckSteps (source : String) : Checking → Checking → Prop :=
  Relation.ReflTransGen (CheckStep source)

variable {source : String} {c c' : Checking}

theorem checkSteps_raiseAll (before checks : List (AnomalyCheck × CheckState)) (s : System) :
    CheckSteps source (before ++ checks, s)
      (before ++ (raiseAll source before.length checks s).2.1,
        (raiseAll source before.length checks s).2.2) := by
  induction checks generalizing before s with
  | nil => exact .refl
  | cons check checks ih =>
    obtain ⟨check, state⟩ := check
    have found : (before ++ (check, state) :: checks)[before.length]? = some (check, state) := by
      rw [List.getElem?_append_right (Nat.le_refl _), Nat.sub_self]
      rfl
    have first : CheckStep source (before ++ (check, state) :: checks, s) _ := .check s found
    have rest := ih (before ++ [(check, (s.raiseAlerts source before.length check state).2.1)])
      (s.raiseAlerts source before.length check state).2.2
    rw [List.set_append_right _ _ (Nat.le_refl _), Nat.sub_self, List.set_cons_zero] at first
    rw [List.length_append, List.append_assoc, List.append_assoc] at rest
    exact .head first rest

theorem checkSteps_raiseAwake (fuel stuck : Nat) (checks : List (AnomalyCheck × CheckState))
    (s : System) :
    CheckSteps source (checks, s) (raiseAwake source fuel stuck checks s).2 := by
  induction fuel generalizing stuck checks s with
  | zero => exact .refl
  | succ fuel ih =>
    simp only [raiseAwake]
    split
    · exact .refl
    · next visitor _ =>
      have chosen : CheckStep source (checks, s)
          (checks, { s with awake := s.awake.erase visitor }) :=
        .arrange (.of_eq rfl rfl rfl rfl rfl rfl rfl) rfl
      split
      · exact .head chosen (ih ..)
      · next check before found =>
        refine .head chosen (.head (.check _ found) ?_)
        split
        · exact .single (.arrange (begins_wake ..) (engine_wake ..))
        · exact ih ..

/-- Checks that go on in a turn do so one at a time. -/
theorem checkSteps_continueChecks (s : System) (checks : List (AnomalyCheck × CheckState)) :
    CheckSteps source (checks, s) (s.continueChecks source checks).2 := by
  unfold continueChecks
  split
  · exact checkSteps_raiseAll [] checks s
  · exact .head (.arrange (begins_wakeStrands ..) (engine_wakeAnswered ..))
      (checkSteps_raiseAwake ..)

/-- A check stays the one it is, however far it gets. -/
theorem CheckStep.checks (step : CheckStep source c c') :
    c'.1.map Prod.fst = c.1.map Prod.fst := by
  cases step with
  | arrange => rfl
  | @check checks s strand check before found =>
    have hCheck : (checks.map Prod.fst)[strand]? = some check := by simp [found]
    obtain ⟨less, hGet⟩ := List.getElem?_eq_some_iff.mp hCheck
    rw [List.map_set]
    exact hGet ▸ List.set_getElem_self less

theorem CheckSteps.checks (steps : CheckSteps source c c') :
    c'.1.map Prod.fst = c.1.map Prod.fst := by
  induction steps with
  | refl => rfl
  | tail _ last ih => exact last.checks.trans ih

theorem checks_callChecks (checks : List AnomalyCheck) (s : System) :
    (callChecks checks s).1.map Prod.fst = checks := by
  induction checks generalizing s with
  | nil => rfl
  | cons check checks ih => exact congrArg (check :: ·) (ih _)

end MetricAlerts.System
