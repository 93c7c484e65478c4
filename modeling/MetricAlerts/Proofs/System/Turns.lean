import MetricAlerts.Proofs.System.Frame

/-! The turns that a task takes, from the first one to its end. What happens between two of them is
left to a relation: anything at all where a statement is about the turns themselves, nothing but
scheduling where others are to keep still. -/

namespace MetricAlerts.System

/-- A task takes one turn after another until it ends. Listed are the systems before and after each
turn. -/
inductive Completes (between : System → System → Prop) :
    System → Task → List (System × System) → TaskResult → Prop
  | ends {s s' : System} {task : Task} {result : TaskResult}
      (goes : s.goOn task = (.ends result, s')) : Completes between s task [(s, s')] result
  | waits {s s' later : System} {task next : Task} {turns : List (System × System)}
      {result : TaskResult} (goes : s.goOn task = (.waits next, s')) (passes : between s' later)
      (rest : Completes between later next turns result) :
      Completes between s task ((s, s') :: turns) result

/-- What a list has got in the turns, where it only grows. -/
def gained {α : Type} (list : System → List α) (turns : List (System × System)) : List α :=
  turns.flatMap fun turn => (list turn.2).drop (list turn.1).length

variable {between : System → System → Prop} {s s' : System} {task : Task} {α : Type}
  {list : System → List α} {turns : List (System × System)}

theorem gained_cons {added : List α} (grows : list s' = list s ++ added) :
    gained list ((s, s') :: turns) = added ++ gained list turns := by
  rw [gained, List.flatMap_cons, grows, List.drop_left]
  rfl

theorem gained_singleton {added : List α} (grows : list s' = list s ++ added) :
    gained list [(s, s')] = added :=
  (gained_cons grows).trans (List.append_nil _)

/-- Tasks whose first turns are the same take the same turns. -/
theorem Completes.congr {task' : Task} {result : TaskResult} (same : s.goOn task = s.goOn task')
    (completes : Completes between s task turns result) :
    Completes between s task' turns result := by
  cases completes with
  | ends goes => exact .ends (same ▸ goes)
  | waits goes passes rest => exact .waits (same ▸ goes) passes rest

/-- The store lets a strand of the current task in. -/
def LetsIn (s : System) (strand : Nat) : Prop := ∀ access, (s.visit strand access).1 = true

/-- It does so in a new turn when nobody is at the gate. -/
theorem exists_letsIn (s : System) (strand : Nat) :
    ∃ later : System, later.engine = s.engine ∧ later.LetsIn strand :=
  ⟨{ s with gate := .empty, visits := 0 }, rfl, fun access => by cases access <;> rfl⟩

theorem LetsIn.visitAll_pos {strand : Nat} (lets : s.LetsIn strand) {accesses : List Access}
    (some : accesses ≠ []) : 0 < (visitAll strand accesses s).1 := by
  cases accesses with
  | nil => exact absurd rfl some
  | cons access accesses =>
    have entered := lets access
    generalize hVisit : s.visit strand access = visited at entered
    obtain ⟨isIn, s'⟩ := visited
    obtain rfl : isIn = true := entered
    simp only [visitAll, hVisit]
    exact Nat.succ_pos _

/-- A task that is let in again and again comes to its end, provided that there is less to do
whenever it is. -/
theorem exists_completes_of_live (live : Task → Prop) (left : Task → Nat)
    (supply : ∀ s, ∃ later, between s later ∧ later.LetsIn 0)
    (keeps : ∀ {s s' : System} {task next : Task}, live task →
      s.goOn task = (.waits next, s') → live next)
    (lessens : ∀ {s s' : System} {task next : Task}, live task → s.LetsIn 0 →
      s.goOn task = (.waits next, s') → left next < left task)
    (isLive : live task) (lets : s.LetsIn 0) :
    ∃ turns result, Completes between s task turns result := by
  induction hLeft : left task using Nat.strongRecOn generalizing s task with
  | ind n ih =>
    generalize goes : s.goOn task = result
    obtain ⟨next | value, s'⟩ := result
    · obtain ⟨later, passes, lets'⟩ := supply s'
      obtain ⟨turns, value, rest⟩ :=
        ih _ (hLeft ▸ lessens isLive lets goes) (keeps isLive goes) lets' rfl
      exact ⟨_, value, .waits goes passes rest⟩
    · exact ⟨_, value, .ends goes⟩

/-- The same where the first turn may be in vain. -/
theorem exists_completes (live : Task → Prop) (left : Task → Nat)
    (supply : ∀ s, ∃ later, between s later ∧ later.LetsIn 0)
    (keeps : ∀ {s s' : System} {task next : Task}, live task →
      s.goOn task = (.waits next, s') → live next)
    (lessens : ∀ {s s' : System} {task next : Task}, live task → s.LetsIn 0 →
      s.goOn task = (.waits next, s') → left next < left task)
    (starts : ∀ {next : Task} {s' : System}, s.goOn task = (.waits next, s') → live next) :
    ∃ turns result, Completes between s task turns result := by
  generalize goes : s.goOn task = result
  obtain ⟨next | value, s'⟩ := result
  · obtain ⟨later, passes, lets⟩ := supply s'
    obtain ⟨turns, value, rest⟩ :=
      exists_completes_of_live live left supply keeps lessens (starts goes) lets
    exact ⟨_, value, .waits goes passes rest⟩
  · exact ⟨_, value, .ends goes⟩

end MetricAlerts.System
