import MetricAlerts.Proofs.Dispatch.Notices
import MetricAlerts.Proofs.System.Begins

/-! What becomes of the notifications that the transport is handed. Each of them that is to arrive
is under way until it has arrived, and every other one is handed over all the same. -/

namespace MetricAlerts

/-- The notification that arrives, if it does. -/
def Handover.arrival? (h : Handover) : Option Notification :=
  if h.arrives then some h.notification else none

/-- What is under way to a channel and arrives there. -/
def Delivery.inTransit : Delivery → List Notification
  | .underway _ notification arrives => (Handover.arrival? ⟨notification, arrives⟩).toList
  | _ => []

def DispatchState.inTransit : DispatchState → List Notification
  | .taken _ => []
  | .handedOut _ deliveries => deliveries.flatMap Delivery.inTransit

def Task.inTransit : Task → List Notification
  | .dispatch state => state.inTransit
  | .dispatchLoop state => state.current.toList.flatMap DispatchState.inTransit
  | _ => []

namespace System

/-- What is under way when a task has had its turn. -/
def Progress.inTransit : Progress → List Notification
  | .waits task => task.inTransit
  | .ends _ => []

/-- The notifications that are under way and arrive. -/
def inTransit (s : System) : List Notification := s.tasks.flatMap fun t => t.2.inTransit

/-- The notifications that the transport has been handed. -/
def notifications (s : System) : List Notification := s.handed.toList.map Handover.notification

/-- Those of them that arrive, sooner or later. -/
def expected (s : System) : List Notification := s.handed.toList.filterMap Handover.arrival?

/-- What the transport is handed for a channel: the notification, which arrives unless the transport
fails on the channel. -/
def handoverFor? (s : System) (event : Event) (channel : Channel) : Option Handover :=
  (Engine.handedFor channel event).map fun notification =>
    ⟨notification, !s.transport.failing.contains channel.id⟩

/-- Between the one system and the other the transport is handed something. Of what was under way
and of what has been handed over none is lost: it arrives, or is under way still. -/
structure Mails (s : System) (transit : List Notification) (post : List Handover) (s' : System)
    (transit' : List Notification) : Prop where
  handed : s'.handed.toList = s.handed.toList ++ post
  sent : ∃ arrived, s'.sent.toList = s.sent.toList ++ arrived ∧
    (transit ++ post.filterMap Handover.arrival?).Perm (arrived ++ transit')

/-- Whatever arrives has arrived or is under way. -/
def IsBalanced (s : System) : Prop := s.expected.Perm (s.sent.toList ++ s.inTransit)

variable {s s' s'' : System} {works : List Work} {event : Event}
  {transit transit' transit'' more more' : List Notification} {post later : List Handover}

theorem Mails.of_eq (handed : s'.handed = s.handed) (sent : s'.sent = s.sent) :
    s.Mails transit [] s' transit where
  handed := by rw [handed, List.append_nil]
  sent := ⟨[], by rw [sent, List.append_nil], by simp⟩

theorem Begins.mails (begins : s.Begins works s') : s.Mails transit [] s' transit :=
  .of_eq begins.handed begins.sent

theorem Mails.trans (first : s.Mails transit post s' transit')
    (second : s'.Mails transit' later s'' transit'') :
    s.Mails transit (post ++ later) s'' transit'' where
  handed := by rw [second.handed, first.handed, List.append_assoc]
  sent := by
    obtain ⟨arrived, hSent, balance⟩ := first.sent
    obtain ⟨arrived', hSent', balance'⟩ := second.sent
    refine ⟨arrived ++ arrived', by rw [hSent', hSent, List.append_assoc], ?_⟩
    rw [List.filterMap_append, ← List.append_assoc]
    refine (balance.append_right _).trans ?_
    rw [List.append_assoc, List.append_assoc]
    exact balance'.append_left _

/-- Whatever else is under way stays under way. -/
theorem Mails.frame (mails : s.Mails transit post s' transit') (others : List Notification) :
    s.Mails (others ++ transit) post s' (others ++ transit') where
  handed := mails.handed
  sent := by
    obtain ⟨arrived, hSent, balance⟩ := mails.sent
    refine ⟨arrived, hSent, ?_⟩
    rw [List.append_assoc]
    exact (balance.append_left _).trans (List.perm_append_comm_assoc ..)

theorem Mails.of_perm (mails : s.Mails transit post s' transit') (before : more.Perm transit)
    (after : more'.Perm transit') : s.Mails more post s' more' where
  handed := mails.handed
  sent := by
    obtain ⟨arrived, hSent, balance⟩ := mails.sent
    exact ⟨arrived, hSent, ((before.append_right _).trans balance).trans (after.symm.append_left _)⟩

/-- First something happens to what is under way, and then to something else. -/
theorem Mails.beside (first : s.Mails transit post s' transit')
    (second : s'.Mails more later s'' more') :
    s.Mails (transit ++ more) (post ++ later) s'' (transit' ++ more') :=
  ((first.frame more).of_perm List.perm_append_comm List.perm_append_comm).trans
    (second.frame transit')

/-! Deliveries. -/

theorem mails_handOver (s : System) (handover : Handover) :
    s.Mails [] [handover] (s.handOver handover) handover.arrival?.toList where
  handed := Array.toList_push ..
  sent := ⟨[], (List.append_nil _).symm, by cases h : handover.arrival? <;> simp [h]⟩

/-- A notification arrives or does not, and is not under way any more. -/
theorem mails_settleDelivery (s : System) (notification : Notification) (arrives : Bool) :
    s.Mails (Handover.arrival? ⟨notification, arrives⟩).toList []
      (s.settleDelivery notification arrives).2
      (s.settleDelivery notification arrives).1.inTransit := by
  cases arrives with
  | true =>
    refine ⟨(List.append_nil _).symm, [notification], Array.toList_push .., ?_⟩
    exact .refl _
  | false => exact .of_eq rfl rfl

theorem inTransit_dropFailed (s : System) : s.dropFailed.1.inTransit = [] := by
  unfold dropFailed
  split <;> rfl

theorem inTransit_announce (s : System) (event : Event) : (s.announce event).1.inTransit = [] := by
  unfold announce
  split
  · simp only
    split
    · exact inTransit_dropFailed _
    · rfl
  · rfl

/-- When an event is handed to a channel, the transport is handed the notification that there is for
it, whether that arrives or not. -/
theorem mails_deliverTo (s : System) (event : Event) (channel : Channel) :
    s.Mails [] (s.handoverFor? event channel).toList (s.deliverTo event channel).2
      (s.deliverTo event channel).1.inTransit := by
  simp only [deliverTo, handoverFor?, Engine.handedFor]
  cases Engine.actionFor channel event with
  | write | skip | fail => exact .of_eq rfl rfl
  | feedback alert type => exact (begins_spawn ..).mails
  | broadcast =>
    simp only [inTransit_announce]
    exact (begins_announce ..).mails
  | notify notification =>
    have handed := mails_handOver s ⟨notification, !s.transport.failing.contains channel.id⟩
    simp only [Option.map_some, Option.toList_some]
    split
    · exact handed.trans (mails_settleDelivery ..)
    · exact handed.trans (.of_eq rfl rfl)

/-- A delivery goes on, for which the transport is handed nothing more. -/
theorem mails_continueDelivery (s : System) (event : Event) (delivery : Delivery) :
    s.Mails delivery.inTransit [] (s.continueDelivery event delivery).2
      (s.continueDelivery event delivery).1.inTransit := by
  cases delivery with
  | settled => exact .of_eq rfl rfl
  | underway wait notification arrives =>
    simp only [continueDelivery]
    split
    · exact mails_settleDelivery ..
    · exact .of_eq rfl rfl
  | announcing =>
    simp only [continueDelivery, inTransit_announce]
    exact (begins_announce ..).mails
  | dropping =>
    simp only [continueDelivery, inTransit_dropFailed]
    exact (begins_dropFailed ..).mails

/-! Tasks. -/

theorem Mails.notifications (mails : s.Mails transit post s' transit') :
    s'.notifications = s.notifications ++ post.map Handover.notification := by
  rw [System.notifications, mails.handed, List.map_append, System.notifications]

/-- What begins has nothing under way. -/
theorem inTransit_freshTasks (next : Nat) (works : List Work) :
    ((freshTasks next works).flatMap fun t => t.2.inTransit) = [] := by
  rw [List.flatMap_eq_nil_iff]
  intro t mem
  obtain ⟨work, -, found⟩ := mem_freshTasks mem
  rw [found]
  rfl

theorem Spawns.inTransit (spawns : s.Spawns works s') : s'.inTransit = s.inTransit := by
  rw [System.inTransit, spawns.tasks, List.flatMap_append, inTransit_freshTasks, List.append_nil,
    System.inTransit]

theorem inTransit_heed (task : Task) : (heed task).inTransit = task.inTransit := by
  cases task <;> rfl

/-- Nothing happens to the notifications. -/
structure LeavesMail (s s' : System) : Prop where
  handed : s'.handed = s.handed
  sent : s'.sent = s.sent
  inTransit : s'.inTransit = s.inTransit

theorem LeavesMail.refl (s : System) : s.LeavesMail s := ⟨rfl, rfl, rfl⟩

theorem LeavesMail.trans (first : s.LeavesMail s') (second : s'.LeavesMail s'') :
    s.LeavesMail s'' :=
  ⟨second.handed.trans first.handed, second.sent.trans first.sent,
    second.inTransit.trans first.inTransit⟩

theorem LeavesMail.notifications (leaves : s.LeavesMail s') :
    s'.notifications = s.notifications := by
  rw [System.notifications, leaves.handed, System.notifications]

theorem LeavesMail.isBalanced (leaves : s.LeavesMail s') (h : s.IsBalanced) : s'.IsBalanced := by
  rw [IsBalanced, expected, leaves.handed, leaves.sent, leaves.inTransit]
  exact h

theorem Begins.leavesMail (begins : s.Begins works s') : s.LeavesMail s' :=
  ⟨begins.handed, begins.sent, begins.inTransit⟩

/-- Whatever the engine does, it leaves the notifications alone. -/
theorem LeavesMail.of_engine {e : Engine} (leaves : LeavesMail { s with engine := e } s') :
    s.LeavesMail s' :=
  ⟨leaves.handed, leaves.sent, leaves.inTransit⟩

theorem leavesMail_signal (s : System) (id : Nat) : s.LeavesMail (s.signal id) := by
  have begins := begins_signal s id
  refine ⟨begins.handed, begins.sent, ?_⟩
  rw [inTransit, begins.tasks_eq, List.flatMap_map, inTransit]
  refine congrArg (List.flatMap · s.tasks) (funext fun t => ?_)
  rw [heedAs]
  split
  · exact inTransit_heed t.2
  · rfl

theorem leavesMail_runStop (current : Nat) (later : List Nat) (s : System) :
    s.LeavesMail (s.runStop current later).2 := by
  induction later generalizing current s with
  | nil =>
    unfold runStop
    split <;> exact .refl s
  | cons next later ih =>
    unfold runStop
    split
    · exact .refl s
    · exact (leavesMail_signal s next).trans (ih ..)

theorem inTransit_entries (id : Nat) (progress : Progress) :
    ((progress.entries id).flatMap fun t => t.2.inTransit) = progress.inTransit := by
  cases progress with
  | waits task => exact List.append_nil _
  | ends => rfl

/-- What is under way before and after a turn of a task: what the task has, and what others have. -/
theorem exists_inTransit (numbered : s.IsNumbered) {id : Nat} {task : Task}
    (mem : (id, task) ∈ s.tasks) :
    ∃ before after, s.inTransit = before ++ (task.inTransit ++ after) ∧ ∀ progress : Progress,
      inTransit { s with tasks := progress.place id s.tasks } =
        before ++ (progress.inTransit ++ after) := by
  obtain ⟨before, after, split, unlike⟩ := exists_split numbered mem
  refine ⟨before.flatMap fun t => t.2.inTransit, after.flatMap fun t => t.2.inTransit, ?_,
    fun progress => ?_⟩
  · rw [inTransit, split, List.flatMap_append, List.flatMap_cons]
  · rw [inTransit, split, place_eq unlike, List.flatMap_append, List.flatMap_append,
      inTransit_entries]

/-- A task with nothing under way has had its turn, and has nothing under way after it. -/
theorem leavesMail_conclude (numbered : s.IsNumbered) {id : Nat} {task : Task} {progress : Progress}
    (mem : (id, task) ∈ s.tasks) (before : task.inTransit = []) (after : progress.inTransit = []) :
    s.LeavesMail (conclude id (progress, s)) := by
  obtain ⟨_, _, hBefore, hAfter⟩ := exists_inTransit numbered mem
  have placed : s.LeavesMail { s with tasks := progress.place id s.tasks } :=
    ⟨rfl, rfl, by rw [hAfter, hBefore, before, after]⟩
  exact placed.trans (begins_conclude id (progress, s)).leavesMail

/-- A task has had its turn, in which no notification has been lost. -/
theorem Mails.isBalanced {id : Nat} {task : Task} {progress : Progress}
    (mails : s.Mails task.inTransit post s' progress.inTransit) (numbered : s.IsNumbered)
    (mem : (id, task) ∈ s.tasks) (spawns : Spawns { s with engine := s'.engine } works s')
    (h : s.IsBalanced) : (conclude id (progress, s')).IsBalanced := by
  have kept : (id, task) ∈ s'.tasks := spawns.tasks ▸ List.mem_append_left _ mem
  obtain ⟨before, after, hBefore, hAfter⟩ := exists_inTransit
    (spawns.isNumbered ⟨numbered.nodup, numbered.below⟩) kept
  refine (begins_conclude id (progress, s')).leavesMail.isBalanced ?_
  have same : s'.inTransit = s.inTransit := spawns.inTransit
  obtain ⟨arrived, hSent, balance⟩ := (mails.frame (before ++ after)).sent
  have around (own : List Notification) :
      (before ++ (own ++ after)).Perm (before ++ after ++ own) := by
    rw [List.append_assoc]
    exact List.perm_append_comm.append_left _
  have old : s.expected.Perm (s.sent.toList ++ (before ++ after ++ task.inTransit)) := by
    refine h.trans (List.Perm.append_left _ ?_)
    rw [← same, hBefore]
    exact around _
  show (s'.handed.toList.filterMap Handover.arrival?).Perm (s'.sent.toList ++ inTransit _)
  rw [mails.handed, List.filterMap_append, hSent, List.append_assoc, hAfter]
  refine (old.append_right _).trans ?_
  rw [List.append_assoc]
  exact (balance.trans ((around _).symm.append_left _)).append_left _

end System

end MetricAlerts
