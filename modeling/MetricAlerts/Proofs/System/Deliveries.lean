import MetricAlerts.Proofs.Dispatch.Channels
import MetricAlerts.Proofs.System.Begins

/-! The deliveries of an event to channels. Each goes on by itself: an event is given to every
channel once, and the notification for it arrives when its time has come. -/

namespace MetricAlerts

/-- The engine after an event has been given to channels. -/
def Engine.served (event : Event) (channels : List Channel) (e : Engine) : Engine :=
  channels.foldl (fun e channel => e.perform event (actionFor channel event)) e

namespace System

open Engine (actionFor served arrival? arrivalsAt arrival?_of_notify arrival?_of_ne arrivalsAt_cons)

/-- What the transport makes of a notification for a channel. -/
def arrives (s : System) (channel : Channel) : Bool := !s.transport.failing.contains channel.id

/-! ### One step of a delivery -/

/-- An event has been given to channels, and notifications have arrived. -/
structure Serves (event : Event) (s : System) (told : List Channel) (sent : List Notification)
    (s' : System) : Prop where
  engine : s'.engine = served event told s.engine
  sent : s'.sent.toList = s.sent.toList ++ sent
  transport : s'.transport = s.transport

/-- How far a delivery to a channel is, with the channel if the event is still to be given to it,
and with the notification if that is still to arrive. -/
inductive Stands (arrives : Bool) (event : Event) (c : Channel) :
    Delivery → List Channel → List Notification → Prop
  | settled : Stands arrives event c (.settled ((actionFor c event).outcome arrives)) [] []
  | underway {notification : Notification} (notify : actionFor c event = .notify notification)
      (wait : Wait) : Stands arrives event c (.underway wait notification arrives) []
        (if arrives then [notification] else [])
  | announcing (broadcast : actionFor c event = .broadcast) :
      Stands arrives event c .announcing [c] []
  | dropping (broadcast : actionFor c event = .broadcast) : Stands arrives event c .dropping [] []

/-- A delivery goes on. Part of what it owes is done in this step, and the rest is left. -/
def Delivers (arrives : Bool) (event : Event) (c : Channel) (owed : List Channel)
    (due : List Notification) (s : System) (result : Delivery × System) : Prop :=
  ∃ told sent owed' due', Serves event s told sent result.2 ∧
    Stands arrives event c result.1 owed' due' ∧ owed = told ++ owed' ∧ due = sent ++ due'

variable {s s' s'' : System} {event : Event} {c : Channel}
  {told told' owed owed' channels : List Channel} {sent sent' due due' : List Notification}
  {answer : Bool} {delivery : Delivery} {deliveries : List Delivery}

theorem served_append (event : Event) (channels later : List Channel) (e : Engine) :
    served event (channels ++ later) e = served event later (served event channels e) :=
  List.foldl_append

theorem Serves.of_eq (engine : s'.engine = s.engine) (sent : s'.sent = s.sent)
    (transport : s'.transport = s.transport) : Serves event s [] [] s' :=
  ⟨engine, by rw [sent, List.append_nil], transport⟩

theorem Serves.refl (event : Event) (s : System) : Serves event s [] [] s := .of_eq rfl rfl rfl

theorem Serves.trans (first : Serves event s told sent s')
    (second : Serves event s' told' sent' s'') :
    Serves event s (told ++ told') (sent ++ sent') s'' where
  engine := by rw [second.engine, first.engine, served_append]
  sent := by rw [second.sent, first.sent, List.append_assoc]
  transport := second.transport.trans first.transport

theorem Serves.arrives (serves : Serves event s told sent s') : s'.arrives = s.arrives := by
  funext c
  rw [System.arrives, serves.transport, System.arrives]

theorem serves_defer (s : System) (strand : Nat) : Serves event s [] [] (s.defer strand) := by
  simp only [defer]
  split
  · exact .refl event s
  · exact .of_eq rfl rfl rfl

theorem serves_visitOpen (event : Event) (s : System) : Serves event s [] [] s.visitOpen.2 := by
  unfold visitOpen
  split
  · exact serves_defer s 0
  · exact .of_eq rfl rfl rfl

theorem serves_perform (s : System) (event : Event) (c : Channel) :
    Serves event s [c] [] { s with engine := s.engine.perform event (actionFor c event) } :=
  ⟨rfl, (List.append_nil _).symm, rfl⟩

/-- An action that leaves the engine alone is done as soon as it has been looked at. -/
theorem serves_self (same : s.engine.perform event (actionFor c event) = s.engine) :
    Serves event s [c] [] s :=
  ⟨same.symm, (List.append_nil _).symm, rfl⟩

theorem stands_settled {action : Engine.ChannelAction} (does : actionFor c event = action) :
    Stands answer event c (.settled (action.outcome answer)) [] [] :=
  does ▸ .settled

theorem Serves.delivers (serves : Serves event s told sent s')
    (stands : Stands answer event c delivery owed due) :
    Delivers answer event c (told ++ owed) (sent ++ due) s (delivery, s') :=
  ⟨told, sent, owed, due, serves, stands, rfl, rfl⟩

/-- What comes after a step in which some has been done. -/
theorem Delivers.after {result : Delivery × System} (first : Serves event s told sent s')
    (rest : Delivers answer event c owed due s' result) :
    Delivers answer event c (told ++ owed) (sent ++ due) s result := by
  obtain ⟨told', sent', owed', due', serves, stands, rfl, rfl⟩ := rest
  exact ⟨_, _, owed', due', first.trans serves, stands, (List.append_assoc ..).symm,
    (List.append_assoc ..).symm⟩

theorem delivers_settleDelivery {notification : Notification}
    (notify : actionFor c event = .notify notification) (s : System) :
    Delivers answer event c [] (if answer then [notification] else []) s
      (s.settleDelivery notification answer) := by
  unfold settleDelivery
  cases answer with
  | true =>
    have arrived : Serves event s [] [notification] { s with sent := s.sent.push notification } :=
      ⟨rfl, Array.toList_push, rfl⟩
    exact arrived.delivers (stands_settled notify)
  | false => exact (Serves.refl event s).delivers (stands_settled notify)

theorem delivers_dropFailed (broadcast : actionFor c event = .broadcast) (s : System) :
    Delivers answer event c [] [] s s.dropFailed := by
  have visited := serves_visitOpen event s
  unfold dropFailed
  split
  · next found =>
    rw [found] at visited
    exact visited.delivers (stands_settled broadcast)
  · next found =>
    rw [found] at visited
    exact visited.delivers (.dropping broadcast)

theorem delivers_announce (broadcast : actionFor c event = .broadcast) (s : System) :
    Delivers answer event c [c] [] s (s.announce event) := by
  have visited := serves_visitOpen event s
  unfold announce
  split
  · next visited' found =>
    rw [found] at visited
    have told := visited.trans (serves_perform visited' event c)
    rw [broadcast] at told
    simp only
    split
    · exact .after told (delivers_dropFailed broadcast _)
    · exact told.delivers (stands_settled broadcast)
  · next found =>
    rw [found] at visited
    exact visited.delivers (.announcing broadcast)

theorem delivers_continueDelivery (stands : Stands answer event c delivery owed due) (s : System) :
    Delivers answer event c owed due s (s.continueDelivery event delivery) := by
  cases stands with
  | settled => exact (Serves.refl event s).delivers .settled
  | @underway notification notify wait =>
    by_cases passed : wait.due ≤ s.time
    · rw [continueDelivery, if_pos passed]
      exact delivers_settleDelivery notify s
    · rw [continueDelivery, if_neg passed]
      exact (Serves.refl event s).delivers (.underway notify wait)
  | announcing broadcast => exact delivers_announce broadcast s
  | dropping broadcast => exact delivers_dropFailed broadcast s

theorem delivers_deliverTo (s : System) (event : Event) (c : Channel) :
    Delivers (s.arrives c) event c [c] (arrival? (s.arrives c) event c).toList s
      (s.deliverTo event c) := by
  cases does : actionFor c event with
  | write lines =>
    have told := serves_perform s event c
    rw [does] at told
    rw [arrival?_of_ne (by simp [does])]
    simp only [deliverTo, does]
    exact told.delivers (stands_settled does)
  | broadcast =>
    rw [arrival?_of_ne (by simp [does])]
    simp only [deliverTo, does]
    exact delivers_announce does s
  | skip | fail failure =>
    rw [arrival?_of_ne (by simp [does])]
    simp only [deliverTo, does]
    exact (serves_self (by rw [does]; rfl)).delivers (stands_settled does)
  | feedback alert type =>
    have told : Serves event s [c] [] s := serves_self (by rw [does]; rfl)
    have spawned : Serves event s [c] [] (s.spawn (.feedback alert type)).2 :=
      told.trans (.of_eq rfl rfl rfl)
    rw [arrival?_of_ne (by simp [does])]
    simp only [deliverTo, does]
    exact spawned.delivers (stands_settled does)
  | notify notification =>
    have told : Serves event s [c] [] s := serves_self (by rw [does]; rfl)
    have handed : Serves event s [c] [] (s.handOver ⟨notification, s.arrives c⟩) :=
      told.trans (.of_eq rfl rfl rfl)
    rw [arrival?_of_notify does]
    cases hDelay : (s.transport.delays.lookup c.id).getD 0 with
    | zero =>
      simp only [deliverTo, does, handOver, hDelay]
      exact .after handed (delivers_settleDelivery does _)
    | succ delay =>
      have waits : Serves event s [c] []
          ((s.handOver ⟨notification, s.arrives c⟩).newWait (delay + 1)).2 :=
        handed.trans (.of_eq rfl rfl rfl)
      simp only [deliverTo, does, handOver, hDelay]
      exact waits.delivers (.underway does _)

/-! ### All deliveries of an event -/

/-- How far the deliveries to channels are, with the channels and notifications that are left. -/
inductive Remains (answer : Channel → Bool) (event : Event) :
    List Channel → List Delivery → List Channel → List Notification → Prop
  | nil : Remains answer event [] [] [] []
  | cons {c : Channel} {channels owed owed' : List Channel} {delivery : Delivery}
      {deliveries : List Delivery} {due due' : List Notification}
      (first : Stands (answer c) event c delivery owed due)
      (rest : Remains answer event channels deliveries owed' due') :
      Remains answer event (c :: channels) (delivery :: deliveries) (owed ++ owed') (due ++ due')

/-- Deliveries go on. Part of what they owe is done in this step, and the rest is left. -/
def DeliversAll (answer : Channel → Bool) (event : Event) (channels owed : List Channel)
    (due : List Notification) (s : System) (result : List Delivery × System) : Prop :=
  ∃ told sent owed' due', Serves event s told sent result.2 ∧
    Remains answer event channels result.1 owed' due' ∧ owed.Perm (told ++ owed') ∧
    due.Perm (sent ++ due')

theorem perm_append_append {α : Type} (a b c d : List α) :
    ((a ++ b) ++ (c ++ d)).Perm ((a ++ c) ++ (b ++ d)) := by
  rw [List.append_assoc, List.append_assoc]
  exact (List.perm_append_comm_assoc b c d).append_left a

variable {answers : Channel → Bool} {outcomes : List ChannelOutcome}

theorem deliversAll_nil (s : System) : DeliversAll answers event [] [] [] s ([], s) :=
  ⟨[], [], [], [], .refl event s, .nil, .refl _, .refl _⟩

theorem DeliversAll.cons {first : Delivery × System} {rest : List Delivery × System}
    (head : Delivers (answers c) event c owed due s first)
    (tail : DeliversAll answers event channels owed' due' first.2 rest) :
    DeliversAll answers event (c :: channels) (owed ++ owed') (due ++ due') s
      (first.1 :: rest.1, rest.2) := by
  obtain ⟨told, sent, left, rem, serves, stands, rfl, rfl⟩ := head
  obtain ⟨told', sent', left', rem', serves', remains, hOwed, hDue⟩ := tail
  refine ⟨_, _, _, _, serves.trans serves', .cons stands remains, ?_, ?_⟩
  · exact (hOwed.append_left _).trans (perm_append_append ..)
  · exact (hDue.append_left _).trans (perm_append_append ..)

theorem delivers_deliverToAll (hAnswers : s.arrives = answers) (event : Event)
    (channels : List Channel) :
    DeliversAll answers event channels channels (arrivalsAt answers event channels) s
      (deliverToAll event channels s) := by
  induction channels generalizing s with
  | nil => exact deliversAll_nil s
  | cons c channels ih =>
    have head := delivers_deliverTo s event c
    have hNext : (s.deliverTo event c).2.arrives = answers := by
      obtain ⟨told, sent, owed, due, serves, -⟩ := head
      exact serves.arrives.trans hAnswers
    rw [hAnswers] at head
    rw [arrivalsAt_cons]
    exact DeliversAll.cons head (ih hNext)

theorem delivers_continueDeliveries
    (remains : Remains answers event channels deliveries owed due) (s : System) :
    DeliversAll answers event channels owed due s (continueDeliveries event deliveries s) := by
  induction remains generalizing s with
  | nil => exact deliversAll_nil s
  | cons stands remains ih => exact .cons (delivers_continueDelivery stands s) (ih _)

/-- Deliveries that are settled have come to what there was to do for the channels. -/
theorem Remains.of_settled (remains : Remains answers event channels deliveries owed due)
    (settled : deliveries.mapM Delivery.outcome? = some outcomes) :
    owed = [] ∧ due = [] ∧
      channels.Forall₂ (fun c outcome => outcome = (actionFor c event).outcome (answers c))
        outcomes := by
  induction remains generalizing outcomes with
  | nil =>
    cases settled
    exact ⟨rfl, rfl, .nil⟩
  | cons stands remains ih =>
    rw [List.mapM_cons] at settled
    obtain ⟨outcome, first, settled⟩ := Option.bind_eq_some_iff.mp settled
    obtain ⟨later, rest, settled⟩ := Option.bind_eq_some_iff.mp settled
    cases settled
    obtain ⟨rfl, rfl, hLater⟩ := ih rest
    cases stands with
    | settled =>
      cases first
      exact ⟨rfl, rfl, .cons rfl hLater⟩
    | _ => cases first

end System

end MetricAlerts
