import Mathlib.Data.Prod.Lex
import Mathlib.Order.WellFounded
import MetricAlerts.Proofs.System.Headway
import MetricAlerts.Proofs.System.Outcomes

/-! Feedback does not feed itself. Enrichment publishes on the bus from which new alerts are
dispatched to the channels that ask for feedback, but it publishes nothing that gives cause for
more. So what happens while nobody asks for anything comes to its end, and not many events are
published until then. -/

namespace MetricAlerts

/-! Updates of alerts do not add to what is to be dispatched. -/

variable {published : List Event}

theorem countP_drop_append (updated : ∀ event ∈ published, event.isUpdated) (events : List Event)
    (place : Nat) :
    ((events ++ published).drop place).countP Event.isCreated =
      (events.drop place).countP Event.isCreated := by
  have none : (published.drop (place - events.length)).countP Event.isCreated = 0 := by
    refine List.countP_eq_zero.mpr fun event mem created => ?_
    have found := updated event (List.mem_of_mem_drop mem)
    cases event <;> simp [Event.isUpdated, Event.isCreated] at found created
  rw [List.drop_append, List.countP_append, none, Nat.add_zero]

theorem Work.undispatched_append (updated : ∀ event ∈ published, event.isUpdated)
    (events : List Event) (work : Work) :
    work.undispatched (events ++ published) = work.undispatched events := by
  cases work with
  | dispatchLoop place => exact countP_drop_append updated events place
  | _ => rfl

theorem Task.undispatched_append (updated : ∀ event ∈ published, event.isUpdated)
    (events : List Event) (task : Task) :
    task.undispatched (events ++ published) = task.undispatched events := by
  cases task with
  | fresh work | held work => exact work.undispatched_append updated events
  | dispatchLoop state => simp only [undispatched, countP_drop_append updated]
  | _ => rfl

namespace System

variable {s s' s'' : System} {id : Nat} {task : Task} {works : List Work}

/-! Requests to stop. -/

theorem enriching_heed (task : Task) : (heed task).enriching = task.enriching := by
  cases task <;> rfl

theorem undispatchedOf_heed_le (s : System) (task : Task) :
    s.undispatchedOf (heed task) ≤ s.undispatchedOf task := by
  cases task with
  | dispatchLoop state => exact Nat.add_le_add_left (Nat.zero_le _) _
  | _ => exact Nat.le_refl _

theorem effortOf_heed (s : System) (task : Task) : s.effortOf (heed task) = s.effortOf task := by
  cases task <;> rfl

theorem isCalm_heed (task : Task) : (heed task).isCalm = task.isCalm := by
  cases task <;> rfl

/-! The tasks after a turn. -/

section

variable {asked : Nat × Task → Nat × Task} {f : Task → Nat}

theorem total_map_le (heeds : ∀ t, (asked t).2 = t.2 ∨ (asked t).2 = heed t.2)
    (heed_le : ∀ task, f (heed task) ≤ f task) (tasks : List (Nat × Task)) :
    total f (tasks.map asked) ≤ total f tasks := by
  rw [total, List.map_map, total]
  refine List.sum_le_sum fun t _ => ?_
  obtain same | heeded := heeds t
  · exact Nat.le_of_eq (congrArg f same)
  · exact (congrArg f heeded).trans_le (heed_le t.2)

/-- What a task was worth is replaced by what it has come to and by what it has begun. -/
theorem total_turn_le (numbered : s.IsNumbered) (h : s.task? id = some task)
    (names : ∀ t, (asked t).1 = t.1) (heeds : ∀ t, (asked t).2 = t.2 ∨ (asked t).2 = heed t.2)
    (heed_le : ∀ task, f (heed task) ≤ f task) (progress : Progress) (works : List Work) :
    total f (progress.place id (s.tasks.map asked ++ freshTasks s.nextTask works)) + f task ≤
      total f s.tasks + progress.worth f + total f (freshTasks s.nextTask works) := by
  obtain ⟨before, after, split, unlike⟩ := exists_split numbered (mem_of_task? h)
  obtain ⟨hBefore, hAfter⟩ := List.forall_mem_append.mp unlike
  have hFresh : ∀ t ∈ freshTasks s.nextTask works, t.1 ≠ id := by
    intro t mem same
    have old := numbered.below id (List.mem_map_of_mem (mem_of_task? h))
    have new : t.1 ∈ List.range' s.nextTask works.length :=
      numbers_freshTasks s.nextTask works ▸ List.mem_map_of_mem mem
    rw [same] at new
    exact absurd (List.left_le_of_mem_range' new) (Nat.not_le.mpr old)
  have hAsked : ∀ tasks : List (Nat × Task), (∀ t ∈ tasks, t.1 ≠ id) →
      ∀ t ∈ tasks.map asked, t.1 ≠ id := by
    intro tasks unlike t mem
    obtain ⟨old, hOld, rfl⟩ := List.mem_map.mp mem
    rw [names]
    exact unlike old hOld
  have own : asked (id, task) = (id, (asked (id, task)).2) := Prod.ext (names _) rfl
  rw [split, List.map_append, List.map_cons, own, List.append_assoc, List.cons_append, place_eq]
  · have less := total_map_le heeds heed_le before
    have less' := total_map_le heeds heed_le after
    simp only [total_append, total_cons, total_entries]
    omega
  · refine List.forall_mem_append.mpr ⟨hAsked before hBefore, ?_⟩
    exact List.forall_mem_append.mpr ⟨hAsked after hAfter, hFresh⟩

/-- Feedback that has just begun. -/
theorem total_freshTasks_le {cost : Nat}
    (bound : ∀ alert type, f (.fresh (.feedback alert type)) ≤ cost)
    (feedback : ∀ work ∈ works, ∃ alert type, work = .feedback alert type) (next : Nat) :
    total f (freshTasks next works) ≤ cost * works.length := by
  have less : ∀ x ∈ (freshTasks next works).map fun t => f t.2, x ≤ cost := by
    intro x mem
    obtain ⟨t, hT, rfl⟩ := List.mem_map.mp mem
    obtain ⟨work, hWork, found⟩ := mem_freshTasks hT
    obtain ⟨alert, type, rfl⟩ := feedback work hWork
    rw [found]
    exact bound alert type
  have sum := List.sum_le_card_nsmul _ cost less
  rwa [List.length_map, ← List.length_map Prod.fst, numbers_freshTasks, List.length_range',
    Nat.nsmul_eq_mul, Nat.mul_comm] at sum

end

/-! Calm systems. -/

/-- No alerts are being raised and no patterns are being looked for. -/
structure IsCalm (s : System) : Prop where
  numbered : s.IsNumbered
  calm : ∀ t ∈ s.tasks, t.2.isCalm

/-- The enrichment and feedback that is under way. -/
def outstanding (s : System) : Nat := s.tasks.countP fun t => t.2.isEnriching

/-- The new alerts that are still to be handed out to channels. -/
def undispatched (s : System) : Nat := total s.undispatchedOf s.tasks

/-- How many events may still be published. -/
def balance (s : System) : Nat := s.outstanding + s.feedbackChannels * s.undispatched

/-- What is left to be done: what is published comes first, then what is handed out. -/
def remainder (s : System) : ℕ ×ₗ ℕ ×ₗ ℕ :=
  toLex (s.balance, toLex (s.undispatched, total s.effortOf s.tasks))

theorem total_enriching (tasks : List (Nat × Task)) :
    total Task.enriching tasks = tasks.countP fun t => t.2.isEnriching := by
  induction tasks with
  | nil => rfl
  | cons t tasks ih =>
    rw [total_cons, ih, List.countP_cons, Task.enriching, Nat.add_comm]
    cases t.2.isEnriching <;> rfl

/-- A calm system goes on to another one, and has published updates of alerts meanwhile. -/
structure Settles (s : System) (published : List Event) (s' : System) : Prop where
  calm : s'.IsCalm
  definitions : s'.engine.definitions = s.engine.definitions
  events : s'.engine.events = s.engine.events ++ published
  updated : ∀ event ∈ published, event.isUpdated
  price : published.length + s'.balance ≤ s.balance
  undispatched : s'.undispatched ≤ s.undispatched

theorem outstanding_congr (tasks : s'.tasks = s.tasks) : s'.outstanding = s.outstanding := by
  rw [outstanding, tasks, outstanding]

theorem undispatched_congr (tasks : s'.tasks = s.tasks) (engine : s'.engine = s.engine) :
    s'.undispatched = s.undispatched := by
  rw [undispatched, tasks, undispatchedOf_congr (.of_eq engine), undispatched]

theorem balance_congr (tasks : s'.tasks = s.tasks) (engine : s'.engine = s.engine) :
    s'.balance = s.balance := by
  rw [balance, outstanding_congr tasks, undispatched_congr tasks engine,
    feedbackChannels_congr (.of_eq engine), balance]

theorem remainder_congr (tasks : s'.tasks = s.tasks) (engine : s'.engine = s.engine) :
    s'.remainder = s.remainder := by
  rw [remainder, balance_congr tasks engine, undispatched_congr tasks engine, tasks,
    effortOf_congr (.of_eq engine), remainder]

theorem Settles.of_same (calm : s'.IsCalm) (tasks : s'.tasks = s.tasks)
    (engine : s'.engine = s.engine) : Settles s [] s' := by
  refine ⟨calm, by rw [engine], by rw [engine, List.append_nil],
    List.forall_mem_nil _, ?_, (undispatched_congr tasks engine).le⟩
  rw [balance_congr tasks engine]
  exact (Nat.zero_add _).le

theorem Settles.trans {published later : List Event} (first : Settles s published s')
    (second : Settles s' later s'') : Settles s (published ++ later) s'' where
  calm := second.calm
  definitions := second.definitions.trans first.definitions
  events := by rw [second.events, first.events, List.append_assoc]
  updated := List.forall_mem_append.mpr ⟨first.updated, second.updated⟩
  price := by
    have := first.price
    have := second.price
    rw [List.length_append]
    omega
  undispatched := Nat.le_trans second.undispatched first.undispatched

/-! Steps. -/

theorem remainder_lt_of_balance (less : s'.balance < s.balance) : s'.remainder < s.remainder :=
  Prod.Lex.toLex_lt_toLex'.mpr ⟨less.le, fun same => absurd same less.ne⟩

theorem remainder_lt_of_undispatched (balance : s'.balance ≤ s.balance)
    (less : s'.undispatched < s.undispatched) : s'.remainder < s.remainder :=
  Prod.Lex.toLex_lt_toLex'.mpr ⟨balance, fun _ =>
    Prod.Lex.toLex_lt_toLex'.mpr ⟨less.le, fun same => absurd same less.ne⟩⟩

theorem remainder_lt_of_effort (balance : s'.balance ≤ s.balance)
    (undispatched : s'.undispatched ≤ s.undispatched)
    (less : total s'.effortOf s'.tasks < total s.effortOf s.tasks) : s'.remainder < s.remainder :=
  Prod.Lex.toLex_lt_toLex'.mpr ⟨balance, fun _ =>
    Prod.Lex.toLex_lt_toLex'.mpr ⟨undispatched, fun _ => less⟩⟩

/-- What a system comes to when a task has come to something in its turn, has published some events
and has begun some activities. -/
structure Turned (s : System) (task : Task) (published : List Event) (works : List Work)
    (progress : Progress) (s' : System) : Prop where
  calm : s'.IsCalm
  definitions : s'.engine.definitions = s.engine.definitions
  events : s'.engine.events = s.engine.events ++ published
  outstanding : s'.outstanding + task.enriching ≤
    s.outstanding + progress.worth Task.enriching + works.length
  undispatched : s'.undispatched + s.undispatchedOf task ≤
    s.undispatched + progress.worth s.undispatchedOf
  effort : published = [] → works = [] → total s'.effortOf s'.tasks + s.effortOf task ≤
    total s.effortOf s.tasks + progress.worth s.effortOf

variable {published : List Event} {progress : Progress}

theorem Turned.settles (turned : Turned s task published works progress s')
    (bill : Bill s task published works progress) : Settles s published s' := by
  have less := turned.undispatched
  refine ⟨turned.calm, turned.definitions, turned.events, bill.updated, ?_, ?_⟩
  · have price := bill.price
    have outstanding := turned.outstanding
    have paid := Nat.mul_le_mul_left s.feedbackChannels less
    have channels : s'.feedbackChannels = s.feedbackChannels := by
      rw [feedbackChannels, turned.definitions, feedbackChannels]
    rw [balance, balance, channels]
    simp only [Nat.mul_add] at paid
    omega
  · have := bill.undispatched
    omega

/-- Updates add to the effort of the loops that are to take them. Efforts are therefore compared
only where there are none, as else the balance has gone down. -/
theorem Turned.remainder_lt (turned : Turned s task published works progress s')
    (bill : Bill s task published works progress)
    (goesOn : published ≠ [] ∨ Lessens s task works progress) : s'.remainder < s.remainder := by
  have settles := turned.settles bill
  by_cases silent : published = []
  · have balance : s'.balance ≤ s.balance := by
      have := settles.price
      omega
    obtain less | ⟨none, less⟩ := goesOn.resolve_left (absurd silent)
    · refine remainder_lt_of_undispatched balance ?_
      have := turned.undispatched
      omega
    · refine remainder_lt_of_effort balance settles.undispatched ?_
      have := turned.effort silent none
      omega
  · have news := List.length_pos_iff.mpr silent
    refine remainder_lt_of_balance ?_
    have := settles.price
    omega

/-- Whatever a task has asked for, each task stays calm. -/
theorem isCalm_conclude {asked : Nat × Task → Nat × Task} {e : Engine} {published : List Event}
    {result : Progress × System} (calm : s.IsCalm) (names : ∀ t, (asked t).1 = t.1)
    (heeds : ∀ t, (asked t).2 = t.2 ∨ (asked t).2 = heed t.2)
    (spawns : Spawns { s with tasks := s.tasks.map asked, engine := e } works result.2)
    (bill : Bill s task published works result.1) : (conclude id result).IsCalm := by
  have concluded := begins_conclude id result
  have hNames : (s.tasks.map asked).map Prod.fst = s.tasks.map Prod.fst := by
    rw [List.map_map]
    exact List.map_congr_left fun t _ => names t
  have numbered : IsNumbered { s with tasks := s.tasks.map asked, engine := e } :=
    calm.numbered.of_sublist (hNames ▸ .refl _) rfl
  refine ⟨concluded.isNumbered (isNumbered_place (spawns.isNumbered numbered) id result.1),
    fun t mem => ?_⟩
  rw [concluded.tasks, show freshTasks _ [] = [] from rfl, List.append_nil] at mem
  obtain ⟨-, waits⟩ | ⟨-, mem⟩ := mem_place mem
  · have calm := bill.calm
    rw [waits] at calm
    exact calm
  · rw [spawns.tasks] at mem
    obtain old | new := List.mem_append.mp mem
    · obtain ⟨before, hBefore, rfl⟩ := List.mem_map.mp old
      have own := calm.calm before hBefore
      obtain same | heeded := heeds before
      · rwa [same]
      · rwa [heeded, isCalm_heed]
    · obtain ⟨work, hWork, found⟩ := mem_freshTasks new
      obtain ⟨alert, type, rfl⟩ := bill.feedback work hWork
      rw [found]
      rfl

theorem turned_conclude {asked : Nat × Task → Nat × Task} {e : Engine} {published : List Event}
    {result : Progress × System} (calm : s.IsCalm) (h : s.task? id = some task)
    (names : ∀ t, (asked t).1 = t.1) (heeds : ∀ t, (asked t).2 = t.2 ∨ (asked t).2 = heed t.2)
    (definitions : e.definitions = s.engine.definitions)
    (events : e.events = s.engine.events ++ published)
    (spawns : Spawns { s with tasks := s.tasks.map asked, engine := e } works result.2)
    (bill : Bill s task published works result.1) :
    Turned s task published works result.1 (conclude id result) := by
  have concluded := begins_conclude id result
  have agrees : e.Agrees (conclude id result).engine := spawns.engine.trans concluded.engine
  have hDefinitions := agrees.definitions.trans definitions
  have hEvents := agrees.events.trans events
  have tasks : (conclude id result).tasks =
      result.1.place id (s.tasks.map asked ++ freshTasks s.nextTask works) := by
    rw [concluded.tasks, spawns.tasks]
    exact List.append_nil _
  have undispatchedOf : (conclude id result).undispatchedOf = s.undispatchedOf := by
    funext task
    rw [System.undispatchedOf, hEvents, task.undispatched_append bill.updated,
      System.undispatchedOf]
  refine ⟨isCalm_conclude calm names heeds spawns bill, hDefinitions, hEvents, ?_, ?_, ?_⟩
  · have turned := total_turn_le calm.numbered h names heeds
      (fun task => (enriching_heed task).le) result.1 works
    have fresh := total_freshTasks_le (f := Task.enriching) (fun _ _ => Nat.le_refl 1)
      bill.feedback s.nextTask
    rw [← tasks, total_enriching, total_enriching] at turned
    rw [outstanding, outstanding]
    omega
  · have turned := total_turn_le calm.numbered h names heeds s.undispatchedOf_heed_le result.1 works
    have fresh := total_freshTasks_le (f := s.undispatchedOf) (fun _ _ => Nat.le_refl 0)
      bill.feedback s.nextTask
    rw [← tasks] at turned
    rw [undispatched, undispatched, undispatchedOf]
    omega
  · rintro rfl rfl
    have effortOf : (conclude id result).effortOf = s.effortOf := by
      funext task
      rw [System.effortOf, hEvents, hDefinitions, List.append_nil, System.effortOf]
    have turned := total_turn_le calm.numbered h names heeds (fun task => (s.effortOf_heed task).le)
      result.1 []
    rw [← tasks] at turned
    rwa [effortOf]

/-- In its turn a calm task leaves everything as it is, or less is left to be done. -/
theorem settles_turn (calm : s.IsCalm) (h : s.task? id = some task) :
    ∃ published, Settles s published (s.turn id) ∧
      (((s.turn id).tasks = s.tasks ∧ (s.turn id).engine = s.engine) ∨
        (s.turn id).remainder < s.remainder) := by
  obtain ⟨result, outcome, hTurn⟩ := outcome_turn h (calm.calm _ (mem_of_task? h))
  obtain @⟨asked, e, published, works, names, heeds, definitions, events, spawns, bill, goesOn⟩ :=
    outcome
  rw [hTurn]
  have turned := turned_conclude calm h names heeds definitions events spawns bill
  refine ⟨published, turned.settles bill, ?_⟩
  obtain ⟨same, -, tasks, engine⟩ | goesOn := goesOn
  · obtain ⟨progress, later⟩ := result
    cases same
    refine .inl ⟨?_, engine⟩
    obtain ⟨before, after, split, unlike⟩ := exists_split calm.numbered (mem_of_task? h)
    have putBack := @place_eq id task before after unlike (.waits task)
    simp only at tasks
    rw [← split, ← tasks] at putBack
    rw [split]
    exact putBack
  · exact .inr (turned.remainder_lt bill goesOn)

theorem settles_unattended (calm : s.IsCalm) (goes : s.Unattended s') :
    ∃ published, Settles s published s' ∧
      ((s'.tasks = s.tasks ∧ s'.engine = s.engine) ∨ s'.remainder < s.remainder) := by
  cases goes with
  | turn id =>
    cases hTask : s.task? id with
    | none =>
      have hTurn : s.turn id = s := by rw [System.turn, hTask]
      rw [hTurn]
      exact ⟨[], .of_same calm rfl rfl, .inl ⟨rfl, rfl⟩⟩
    | some task => exact settles_turn calm hTask
  | arrange begins engine =>
    have tasks : s'.tasks = s.tasks := begins.tasks_eq
    have calm' : s'.IsCalm := ⟨begins.isNumbered calm.numbered, tasks ▸ calm.calm⟩
    exact ⟨[], .of_same calm' tasks engine, .inl ⟨tasks, engine⟩⟩

/-! Runs. -/

theorem exists_settles (calm : s.IsCalm) (goesOn : s.GoesOn s') :
    ∃ published, Settles s published s' := by
  induction goesOn with
  | refl => exact ⟨[], .of_same calm rfl rfl⟩
  | tail _ goes ih =>
    obtain ⟨published, settles⟩ := ih
    obtain ⟨later, settles', -⟩ := settles_unattended settles.calm goes
    exact ⟨published ++ later, settles.trans settles'⟩

/-- A run in which nobody asks for anything comes to rest, which begins where as little as possible
is left to be done. -/
theorem exists_rest {run : ℕ → System} (calm : (run 0).IsCalm)
    (goes : ∀ n, (run n).Unattended (run (n + 1))) :
    ∃ m, (run m).IsCalm ∧
      ∀ n ≥ m, (run n).tasks = (run m).tasks ∧ (run n).engine = (run m).engine := by
  have calms : ∀ n, (run n).IsCalm := by
    intro n
    induction n with
    | zero => exact calm
    | succ n ih =>
      obtain ⟨published, settles, -⟩ := settles_unattended ih (goes n)
      exact settles.calm
  refine ⟨Function.argmin fun n => (run n).remainder, calms _, fun n after => ?_⟩
  induction n, after using Nat.le_induction with
  | base => exact ⟨rfl, rfl⟩
  | succ n _ ih =>
    obtain ⟨published, -, ⟨tasks, engine⟩ | less⟩ := settles_unattended (calms n) (goes n)
    · exact ⟨tasks.trans ih.1, engine.trans ih.2⟩
    · rw [remainder_congr ih.1 ih.2] at less
      exact absurd less (Function.not_lt_argmin (fun n => (run n).remainder) (n + 1))

/-- Every task takes its turn again and again when it can go on. -/
def IsFair (run : ℕ → System) : Prop :=
  ∀ id m, ∃ n ≥ m, run (n + 1) = (run n).turn id ∧
    ∀ task, (run n).task? id = some task → (run n).CanGoOn task

theorem task?_of_mem {t : Nat × Task} (numbered : s.IsNumbered) (mem : t ∈ s.tasks) :
    s.task? t.1 = some t.2 := by
  obtain ⟨before, after, split⟩ := List.append_of_mem mem
  have nodup := numbered.nodup
  rw [split, List.map_append, List.map_cons, List.nodup_middle] at nodup
  refine List.lookup_eq_some_iff.mpr ⟨before, after, split, fun old hOld => ?_⟩
  have unlike : t.1 ≠ old.1 := fun same => (List.nodup_cons.mp nodup).1
    (List.mem_append_left _ (same ▸ List.mem_map_of_mem hOld))
  simpa using unlike

/-- Where a fair run has come to rest, nothing is under way any more that could update an alert: the
task would take a turn after the rest has begun, and do something in it. -/
theorem IsFair.nothing_left {run : ℕ → System} (fair : IsFair run) {m : Nat}
    (calm : (run m).IsCalm)
    (rest : ∀ n ≥ m, (run n).tasks = (run m).tasks ∧ (run n).engine = (run m).engine) :
    (run m).outstanding = 0 ∧ (run m).undispatched = 0 := by
  have none : ∀ t ∈ (run m).tasks, ¬ (0 < t.2.enriching ∨ 0 < (run m).undispatchedOf t.2) := by
    intro t mem left
    obtain ⟨n, after, turn, goes⟩ := fair t.1 m
    obtain ⟨tasks, engine⟩ := rest n after
    have found : (run n).task? t.1 = some t.2 := by
      rw [task?, tasks]
      exact task?_of_mem calm.numbered mem
    rw [← undispatchedOf_congr (.of_eq engine)] at left
    refine (goes t.2 found).tasks_turn_ne found (calm.calm t mem) left ?_
    rw [← turn, (rest (n + 1) (Nat.le_succ_of_le after)).1, tasks]
  refine ⟨List.countP_eq_zero.mpr fun t mem enriching => none t mem (.inl ?_), ?_⟩
  · rw [Task.enriching, enriching]
    exact Nat.one_pos
  · refine List.sum_eq_zero fun x mem => ?_
    obtain ⟨t, hT, rfl⟩ := List.mem_map.mp mem
    exact Nat.eq_zero_of_not_pos fun positive => none t hT (.inr positive)

/-- Feedback does not feed itself. While nobody asks for anything, a calm system publishes nothing
but updates of alerts, no more of them than enrichment is under way or to be asked for; and it comes
to rest, with nothing left when all tasks get their turns. A dispatch starts tasks only when it
hands out a new alert, one for each channel that asks for feedback about it. -/
theorem updates_end (calm : s.IsCalm) :
    (∀ s', s.GoesOn s' → ∃ published, s'.engine.events = s.engine.events ++ published ∧
        published.length ≤ s.outstanding + s.undispatched * s.feedbackChannels ∧
        ∀ event ∈ published, event.isUpdated) ∧
      (∀ run : ℕ → System, run 0 = s → (∀ n, (run n).Unattended (run (n + 1))) →
        ∃ m, (∀ n ≥ m, (run n).tasks = (run m).tasks ∧ (run n).engine = (run m).engine) ∧
          (IsFair run → (run m).outstanding = 0 ∧ (run m).undispatched = 0)) ∧
      ∀ (t : System) (event : Event),
        (∀ deliveries, ∃ left,
          (t.continueDispatch (.handedOut event deliveries)).1 = .handedOut event left ∧
            (t.continueDispatch (.handedOut event deliveries)).2.tasks = t.tasks) ∧
        ((t.continueDispatch (.taken event)).1 = .taken event ∧
            (t.continueDispatch (.taken event)).2.tasks = t.tasks ∨
          ∃ left, (t.continueDispatch (.taken event)).1 = .handedOut event left ∧
            (t.continueDispatch (.taken event)).2.tasks = t.tasks ++ freshTasks t.nextTask
              (feedbackWorks event t.engine.definitions.enabledChannels)) := by
  refine ⟨fun s' goesOn => ?_, fun run start goes => ?_, fun t event => ⟨fun deliveries => ?_, ?_⟩⟩
  · obtain ⟨published, settles⟩ := exists_settles calm goesOn
    refine ⟨published, settles.events, ?_, settles.updated⟩
    rw [Nat.mul_comm]
    exact (Nat.le_add_right ..).trans settles.price
  · subst start
    obtain ⟨m, calm, rest⟩ := exists_rest calm goes
    exact ⟨m, rest, fun fair => fair.nothing_left calm rest⟩
  · exact ⟨_, rfl, (spawns_continueDeliveries event deliveries t).tasks_eq⟩
  · obtain ⟨same, begins⟩ | ⟨left, handedOut, spawns⟩ := continueDispatch_taken_cases t event
    · exact .inl ⟨same, begins.tasks_eq⟩
    · exact .inr ⟨left, handedOut, spawns.tasks⟩

/-! A channel asks for feedback about an alert, and the answer comes after a while. -/

def adviser : Channel where
  id := "adviser"
  name := "Adviser"
  type := .aiFeedback
  enabled := true
  config := ChannelConfig.empty

/-- An alert has been raised, and a loop is about to dispatch it. -/
def adviserSystem : System :=
  let engine : Engine :=
    .initial Engine.diskEngine.environment ⟨[AlertStore.diskRule], [adviser]⟩ 2 1 4 2 100
  let analyzer : Analyzer := ⟨[⟨.answer ⟨[], "Full disk", none⟩, 3⟩], [], [], []⟩
  { initial (engine.run [Engine.raiseDisk]) analyzer 5 with
    tasks := [(0, .dispatchLoop ⟨0, 0, false, none⟩)]
    nextTask := 1 }

/-- The loop, the feedback and time go on in turn. -/
def adviserRun : ℕ → System
  | 0 => adviserSystem
  | n + 1 =>
    match n % 3 with
    | 0 => (adviserRun n).turn 0
    | 1 => (adviserRun n).turn 1
    | _ => { adviserRun n with time := 3 }

theorem unattended_adviserRun (n : ℕ) : (adviserRun n).Unattended (adviserRun (n + 1)) := by
  rw [adviserRun]
  split
  · exact .turn 0
  · exact .turn 1
  · exact .arrange (.of_eq rfl rfl rfl rfl rfl rfl rfl) rfl

theorem adviserRun_eq {n : ℕ} (h : 10 ≤ n) : adviserRun n = adviserRun 10 := by
  induction n, h using Nat.le_induction with
  | base => rfl
  | succ n _ ih =>
    rw [adviserRun, ih]
    split <;> rfl

theorem isFair_adviserRun : IsFair adviserRun := by
  intro id m
  refine ⟨m + 10, Nat.le_add_right m 10, ?_, fun task => ?_⟩
  · rw [adviserRun_eq (Nat.le_add_left 10 (m + 1)), adviserRun_eq (Nat.le_add_left 10 m)]
    cases id <;> rfl
  · rw [adviserRun_eq (Nat.le_add_left 10 m)]
    cases id with
    | zero =>
      rintro ⟨⟩
      exact ⟨rfl, by decide, by decide⟩
    | succ => exact nofun

/-- As many updates are published as there may be. -/
theorem updates_end_adviser :
    adviserSystem.IsCalm ∧ adviserSystem.outstanding = 0 ∧ adviserSystem.undispatched = 1 ∧
      adviserSystem.feedbackChannels = 1 ∧
      (∃ published, (adviserRun 10).engine.events = adviserSystem.engine.events ++ published ∧
        published.length ≤ 0 + 1 * 1 ∧ ∀ event ∈ published, event.isUpdated) ∧
      (adviserRun 10).engine.events.map Event.kind = ["created", "updated"] ∧
      ∃ m, (adviserRun m).outstanding = 0 ∧ (adviserRun m).undispatched = 0 ∧
        ∀ n ≥ m, (adviserRun n).engine = (adviserRun m).engine := by
  have calm : adviserSystem.IsCalm := ⟨⟨by decide, by decide⟩, by decide⟩
  obtain ⟨bounded, ends, -⟩ := updates_end calm
  obtain ⟨m, rest, nothing⟩ := ends adviserRun rfl unattended_adviserRun
  obtain ⟨outstanding, undispatched⟩ := nothing isFair_adviserRun
  have goesOn : ∀ n, adviserSystem.GoesOn (adviserRun n) := by
    intro n
    induction n with
    | zero => exact .refl
    | succ n ih => exact ih.tail (unattended_adviserRun n)
  exact ⟨calm, by decide, by decide, by decide, bounded _ (goesOn 10), by decide, m, outstanding,
    undispatched, fun n after => (rest n after).2⟩

end System

end MetricAlerts
