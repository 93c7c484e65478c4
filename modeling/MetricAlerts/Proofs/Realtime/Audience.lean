import MetricAlerts.Proofs.Realtime.Operations
import Mathlib.Data.List.Induction

/-! What each client of the hub is sent over any sequence of operations. As long as a client is
registered it is sent the greeting, the snapshot and then every message that is addressed to it;
what it has read, what is queued and what its receiver left unread make up all of these. -/

namespace MetricAlerts

open Hub

/-- The subscriptions of a client after some operations. -/
def subscriptions (id : Nat) (ops : List HubOperation) : List String :=
  ops.foldl (fun channels op => op.channelsOf id channels) []

/-- The messages of some operations that are addressed to a client with some subscriptions at the
start. -/
def addressedTo (id : Nat) (channels : List String) : List HubOperation → List RealtimeMessage
  | [] => []
  | op :: ops => op.messagesFor id channels ++ addressedTo id (op.channelsOf id channels) ops

/-- A hub with a record of what its clients have read and of what their receivers have left. -/
structure Audience where
  hub : Hub
  heard : Nat → List RealtimeMessage
  left : Nat → List RealtimeMessage

namespace Audience

def empty (clientBuffer maxMetricsBytes : Nat) : Audience :=
  ⟨.empty clientBuffer maxMetricsBytes, fun _ => [], fun _ => []⟩

def after (a : Audience) (op : HubOperation) : Audience where
  hub := a.hub.after op
  heard id := a.heard id ++ op.readBy a.hub id
  left id := op.leftBy a.hub id ++ a.left id

def run (a : Audience) (ops : List HubOperation) : Audience := ops.foldl after a

/-- What a client has been sent: what it has read, what is queued, and what was queued when its
receiver went. -/
def sentTo (a : Audience) (id : Nat) : List RealtimeMessage :=
  a.heard id ++ (a.hub.queueOf id ++ a.left id)

/-- The ids that some operations give out. -/
def idsGiven (a : Audience) : List HubOperation → List Nat
  | [] => []
  | op :: ops => op.idsGiven a.hub ++ (a.after op).idsGiven ops

theorem run_append (a : Audience) (ops more : List HubOperation) :
    a.run (ops ++ more) = (a.run ops).run more := List.foldl_append

end Audience

theorem subscriptions_concat (id : Nat) (ops : List HubOperation) (op : HubOperation) :
    subscriptions id (ops ++ [op]) = op.channelsOf id (subscriptions id ops) := by
  rw [subscriptions, List.foldl_append]
  rfl

theorem addressedTo_concat (id : Nat) (ops : List HubOperation) (op : HubOperation) :
    addressedTo id [] (ops ++ [op]) =
      addressedTo id [] ops ++ op.messagesFor id (subscriptions id ops) := by
  have general (channels : List String) : addressedTo id channels (ops ++ [op]) =
      addressedTo id channels ops ++
        op.messagesFor id (ops.foldl (fun channels op => op.channelsOf id channels) channels) := by
    induction ops generalizing channels with
    | nil => simp [addressedTo]
    | cons first rest ih => simp [addressedTo, ih]
  exact general []


/-! One operation. -/

namespace HubOperation

variable {h : Hub} {id : Nat} {channels : List String} {op : HubOperation}

theorem readBy_of_sends (sends : op.Sends) : op.readBy h id = [] := by
  cases op <;> first | rfl | exact sends.elim

theorem leftBy_of_sends (sends : op.Sends) : op.leftBy h id = [] := by
  cases op <;> first | rfl | exact sends.elim

theorem readBy_of_queueOf (empty : h.queueOf id = []) : op.readBy h id = [] := by
  cases op <;> simp [readBy, empty]

theorem leftBy_of_queueOf (empty : h.queueOf id = []) : op.leftBy h id = [] := by
  cases op <;> simp [leftBy, empty]

theorem messagesFor_of_not_sends (silent : ¬ op.Sends) : op.messagesFor id channels = [] := by
  cases op <;> first | rfl | exact absurd trivial silent

theorem length_messagesFor_le (op : HubOperation) : (op.messagesFor id channels).length ≤ 1 := by
  cases op <;> simp only [messagesFor] <;> (repeat' split) <;> simp

theorem mem_idsGiven (given : id ∈ op.idsGiven h) :
    ∃ active, op = .connect active ∧ id = h.nextId := by
  cases op with
  | connect active => exact ⟨active, rfl, List.mem_singleton.mp given⟩
  | _ => exact absurd given List.not_mem_nil

theorem notMem_idsGiven (lt : id < h.nextId) : id ∉ op.idsGiven h := fun given => by
  obtain ⟨-, -, rfl⟩ := mem_idsGiven given
  exact Nat.lt_irrefl _ lt

theorem lt_nextId (lt : id < (h.after op).nextId) (old : id ∉ op.idsGiven h) : id < h.nextId := by
  cases op with
  | connect active =>
    have ne : id ≠ h.nextId := fun same => old (same ▸ List.mem_singleton_self _)
    have next : id < h.nextId + 1 := lt
    omega
  | _ => exact Nat.lt_of_lt_of_eq lt (nextId_after h _)

/-- Where nothing is sent, a queue is what is read of it, what is left of it and what stays. -/
theorem queueOf_of_not_sends (old : id ∉ op.idsGiven h) (silent : ¬ op.Sends) :
    op.readBy h id ++ ((h.after op).queueOf id ++ op.leftBy h id) = h.queueOf id := by
  cases op with
  | connect active =>
    have ne : id ≠ h.nextId := fun same => old (same ▸ List.mem_singleton_self _)
    simpa [readBy, leftBy, Hub.after] using queueOf_connect_of_ne ne
  | disconnect c =>
    simp only [readBy, leftBy, List.nil_append, List.append_nil]
    rfl
  | read c n =>
    by_cases same : c = id
    · simp [readBy, leftBy, Hub.after, queueOf_read, same]
    · simpa [readBy, leftBy, Hub.after, same] using queueOf_read_of_ne n (Ne.symm same)
  | hangUp c =>
    by_cases same : c = id
    · simp [readBy, leftBy, Hub.after, queueOf_dropReceiver, same]
    · simpa [readBy, leftBy, Hub.after, same] using queueOf_dropReceiver_of_ne (Ne.symm same)
  | _ => exact absurd trivial silent

/-- An operation after which a receiver is there has left nothing of its queue. -/
theorem leftBy_of_isSome (there : ((h.after op).mailbox? id).isSome) : op.leftBy h id = [] := by
  cases op with
  | hangUp c =>
    have kept := receiverIds_dropReceiver.mp (mem_receiverIds_iff.mpr there)
    exact if_neg (Ne.symm kept.2)
  | _ => rfl

theorem isSome_mailbox?_of_after (there : ((h.after op).mailbox? id).isSome) :
    (h.mailbox? id).isSome ∨ id ∈ op.idsGiven h := by
  rw [← mem_receiverIds_iff] at there ⊢
  by_cases old : ∀ active, op ≠ .connect active
  · exact .inl ((frame_after old).receivers.subset there)
  · simp only [not_forall, not_not] at old
    obtain ⟨active, rfl⟩ := old
    rw [after, receiverIds_connect] at there
    exact List.mem_append.mp there

end HubOperation

namespace Audience

variable {a : Audience} {id : Nat} {channels : List String}

/-- What holds of an audience at any time. -/
structure Sound (a : Audience) : Prop where
  numbered : a.hub.Numbered
  two_le : 2 ≤ a.hub.capacity
  queues : ∀ id, (a.hub.queueOf id).length ≤ a.hub.capacity
  /-- Nothing has been left of a queue that is still there. -/
  left : ∀ id, (a.hub.mailbox? id).isSome → a.left id = []
  fresh : ∀ id, a.hub.nextId ≤ id → a.heard id = [] ∧ a.left id = []

theorem sound_empty (clientBuffer maxMetricsBytes : Nat) :
    (empty clientBuffer maxMetricsBytes).Sound where
  numbered := numbered_empty clientBuffer maxMetricsBytes
  two_le := Nat.le_max_right clientBuffer 2
  queues _ := Nat.zero_le _
  left _ _ := rfl
  fresh _ _ := ⟨rfl, rfl⟩

/-- A client that has an id is sent what an operation has for it if it is registered and there is
room. -/
theorem sentTo_after (sound : a.Sound) (given : id < a.hub.nextId)
    (follows : a.hub.Follows id channels) (op : HubOperation) :
    (a.after op).sentTo id = a.sentTo id ++
      if a.hub.isConnected id ∧ a.hub.hasRoom id then op.messagesFor id channels else [] := by
  simp only [sentTo, after]
  by_cases sends : op.Sends
  · rw [HubOperation.readBy_of_sends sends, HubOperation.leftBy_of_sends sends,
      (handles_after follows sends).queue]
    split
    · next taken => simp [sound.left id (hasRoom_iff.mp taken.2).1]
    · simp
  · have same := HubOperation.queueOf_of_not_sends (HubOperation.notMem_idsGiven given) sends
    rw [HubOperation.messagesFor_of_not_sends sends, ite_self, ← same]
    simp

theorem exists_follows (h : Hub) (id : Nat) : ∃ channels, h.Follows id channels := by
  refine ⟨(h.clients.filter fun c => c.id == id).flatMap Client.channels, fun _ channel => ?_⟩
  simp [IsSubscribed, and_assoc]

theorem Sound.after (sound : a.Sound) (op : HubOperation) : (a.after op).Sound where
  numbered := numbered_after sound.numbered op
  two_le := by
    show 2 ≤ (a.hub.after op).capacity
    rw [capacity_after]
    exact sound.two_le
  queues id := by
    show ((a.hub.after op).queueOf id).length ≤ (a.hub.after op).capacity
    rw [capacity_after]
    have bound := sound.queues id
    by_cases sends : op.Sends
    · obtain ⟨channels, follows⟩ := exists_follows a.hub id
      rw [(handles_after follows sends).queue, List.length_append]
      split
      · next taken =>
        have room := (hasRoom_iff.mp taken.2).2
        have one : (op.messagesFor id channels).length ≤ 1 := op.length_messagesFor_le
        omega
      · simpa using bound
    · by_cases old : id ∈ op.idsGiven a.hub
      · obtain ⟨active, rfl, rfl⟩ := HubOperation.mem_idsGiven old
        have greeted : ((a.hub.after (.connect active)).queueOf a.hub.nextId).length = 2 :=
          congrArg List.length (queueOf_connect sound.numbered)
        rw [greeted]
        exact sound.two_le
      · rw [← HubOperation.queueOf_of_not_sends old sends] at bound
        simp only [List.length_append] at bound
        omega
  left id there := by
    show op.leftBy a.hub id ++ a.left id = []
    rw [HubOperation.leftBy_of_isSome there, List.nil_append]
    rcases HubOperation.isSome_mailbox?_of_after there with before | new
    · exact sound.left id before
    · refine (sound.fresh id ?_).2
      exact Nat.not_lt.mp fun given => HubOperation.notMem_idsGiven given new
  fresh id le := by
    have next : (a.after op).hub.nextId = _ := nextId_after a.hub op
    have before : a.hub.nextId ≤ id := by omega
    have empty := queueOf_of_le sound.numbered before
    exact ⟨by simp [Audience.after, HubOperation.readBy_of_queueOf empty, sound.fresh id before],
      by simp [Audience.after, HubOperation.leftBy_of_queueOf empty, sound.fresh id before]⟩

theorem Sound.run (sound : a.Sound) (ops : List HubOperation) : (a.run ops).Sound := by
  induction ops generalizing a with
  | nil => exact sound
  | cons op ops ih => exact ih (sound.after op)

/-- The size of queues and of copies is settled at the start. -/
theorem settings_run (a : Audience) (ops : List HubOperation) :
    (a.run ops).hub.capacity = a.hub.capacity ∧
      (a.run ops).hub.maxMetricsBytes = a.hub.maxMetricsBytes := by
  induction ops generalizing a with
  | nil => exact ⟨rfl, rfl⟩
  | cons op ops ih =>
    obtain ⟨capacity, bytes⟩ := ih (a.after op)
    exact ⟨capacity.trans capacity_after, bytes.trans maxMetricsBytes_after⟩

theorem nextId_le_run (a : Audience) (ops : List HubOperation) :
    a.hub.nextId ≤ (a.run ops).hub.nextId := by
  induction ops generalizing a with
  | nil => exact Nat.le_refl _
  | cons op ops ih =>
    have next : (a.after op).hub.nextId = _ := nextId_after a.hub op
    exact Nat.le_trans (by omega) (ih (a.after op))

/-- The ids that operations give out lie between the next id at the start and that at the end. -/
theorem idsGiven_bounds {ops : List HubOperation} (given : id ∈ a.idsGiven ops) :
    a.hub.nextId ≤ id ∧ id < (a.run ops).hub.nextId := by
  induction ops generalizing a with
  | nil => exact absurd given List.not_mem_nil
  | cons op ops ih =>
    have next : (a.after op).hub.nextId = _ := nextId_after a.hub op
    rcases List.mem_append.mp given with now | later
    · obtain ⟨active, rfl, rfl⟩ := HubOperation.mem_idsGiven now
      exact ⟨Nat.le_refl _, nextId_le_run (a.after (.connect active)) ops⟩
    · obtain ⟨lower, upper⟩ := ih later
      exact ⟨by omega, upper⟩

/-- No id is given out twice. -/
theorem nodup_idsGiven (a : Audience) (ops : List HubOperation) : (a.idsGiven ops).Nodup := by
  induction ops generalizing a with
  | nil => exact List.nodup_nil
  | cons op ops ih =>
    refine List.nodup_append.mpr ⟨?_, ih (a.after op), fun id now id' later => ?_⟩
    · cases op <;> simp [HubOperation.idsGiven]
    · obtain ⟨active, rfl, rfl⟩ := HubOperation.mem_idsGiven now
      exact Nat.ne_of_lt (idsGiven_bounds later).1

/-- A new client is sent the greeting and the snapshot. -/
theorem sentTo_connect (sound : a.Sound) (active : List Alert) :
    (a.after (.connect active)).sentTo a.hub.nextId =
      [.connected, .activeAlerts (active.map (·.broadcastCopy a.hub.maxMetricsBytes))] := by
  obtain ⟨heard, left⟩ := sound.fresh a.hub.nextId (Nat.le_refl _)
  have queue : (a.hub.after (.connect active)).queueOf a.hub.nextId = _ :=
    queueOf_connect sound.numbered
  simp only [sentTo, after, HubOperation.readBy, HubOperation.leftBy, heard, left, queue]
  rfl

/-- A registered client owes its id to a connection and has been sent the greeting, the snapshot
and whatever has been addressed to it since. -/
theorem exists_connect {clientBuffer maxMetricsBytes : Nat} {ops : List HubOperation}
    (connected : ((empty clientBuffer maxMetricsBytes).run ops).hub.isConnected id) :
    ∃ before active since, ops = before ++ .connect active :: since ∧
      (((empty clientBuffer maxMetricsBytes).run before).hub.connect active).1 = id ∧
      ((empty clientBuffer maxMetricsBytes).run ops).sentTo id =
        [.connected, .activeAlerts (active.map (·.broadcastCopy maxMetricsBytes))] ++
          addressedTo id [] since ∧
      ((empty clientBuffer maxMetricsBytes).run ops).hub.Follows id (subscriptions id since) := by
  induction ops using List.reverseRecOn with
  | nil => exact absurd connected (by simp [run, empty, Hub.empty, isConnected])
  | append_singleton ops op ih =>
    rw [run_append] at connected ⊢
    have sound := (sound_empty clientBuffer maxMetricsBytes).run ops
    have bytes := (settings_run (empty clientBuffer maxMetricsBytes) ops).2
    generalize hNow : (empty clientBuffer maxMetricsBytes).run ops = a at *
    by_cases new : id ∈ op.idsGiven a.hub
    · obtain ⟨active, rfl, rfl⟩ := HubOperation.mem_idsGiven new
      refine ⟨ops, active, [], rfl, by rw [hNow]; rfl, ?_, ?_⟩
      · refine (sentTo_connect sound active).trans ?_
        rw [bytes]
        rfl
      · intro _ channel
        refine isSubscribed_connect.trans
          ⟨fun subscribed => ?_, fun none => absurd none List.not_mem_nil⟩
        have less := sound.numbered.clients_lt _ (isConnected_iff.mp subscribed.isConnected)
        exact absurd less (Nat.lt_irrefl _)
    · have lt : id < a.hub.nextId := HubOperation.lt_nextId
        ((numbered_after sound.numbered op).clients_lt id (isConnected_iff.mp connected)) new
      obtain ⟨channels, anyway⟩ := exists_follows a.hub id
      have before := ((isConnected_after lt anyway op).mp connected).1
      obtain ⟨earlier, active, since, hOps, hId, hSent, follows⟩ := ih before
      refine ⟨earlier, active, since ++ [op], by simp [hOps], hId, ?_, ?_⟩
      · have taken := ((isConnected_after lt follows op).mp connected).2.2
        have all : (if a.hub.isConnected id ∧ a.hub.hasRoom id then
            op.messagesFor id (subscriptions id since) else []) =
            op.messagesFor id (subscriptions id since) := by
          split
          · rfl
          · next missed => exact (taken.resolve_right fun room => missed ⟨before, room⟩).symm
        refine (sentTo_after sound lt follows op).trans ?_
        rw [all, hSent, addressedTo_concat, List.append_assoc]
      · rw [subscriptions_concat]
        exact follows_after lt follows op

/-- A client that is gone stays away and is sent nothing any more. -/
theorem gone_run (sound : a.Sound) (given : id < a.hub.nextId) (gone : ¬ a.hub.isConnected id)
    (later : List HubOperation) :
    ¬ (a.run later).hub.isConnected id ∧ (a.run later).sentTo id = a.sentTo id := by
  induction later generalizing a with
  | nil => exact ⟨gone, rfl⟩
  | cons op later ih =>
    obtain ⟨channels, follows⟩ := exists_follows a.hub id
    have goneAfter : ¬ (a.hub.after op).isConnected id :=
      fun connected => gone ((isConnected_after given follows op).mp connected).1
    have same : (a.after op).sentTo id = a.sentTo id := by
      rw [sentTo_after sound given follows, if_neg fun both => gone both.1, List.append_nil]
    have next : a.hub.nextId ≤ (a.hub.after op).nextId := by
      rw [nextId_after]
      omega
    obtain ⟨away, sent⟩ := ih (sound.after op) (Nat.lt_of_lt_of_le given next) goneAfter
    exact ⟨away, sent.trans same⟩

/-- A client of the hub misses nothing. Over any operations, every connection has an id of its own
and no queue grows past its limit. A registered client has been sent the greeting, the snapshot and
all that was addressed to it, and the next message for it is sent too or ends its registration,
which depends on its own queue only. A client that is gone is sent nothing any more. Broadcasts
count the queues that take the message. -/
theorem no_gaps (clientBuffer maxMetricsBytes : Nat) (ops : List HubOperation) :
    let start := empty clientBuffer maxMetricsBytes
    let a := start.run ops
    (start.idsGiven ops).Nodup ∧
    (∀ id, (a.hub.queueOf id).length ≤ max 2 clientBuffer) ∧
    (∀ id, a.hub.isConnected id →
      ∃ before active since, ops = before ++ .connect active :: since ∧
        ((start.run before).hub.connect active).1 = id ∧
        a.heard id ++ (a.hub.queueOf id ++ a.left id) =
          [.connected, .activeAlerts (active.map (·.broadcastCopy maxMetricsBytes))] ++
            addressedTo id [] since ∧
        ((a.hub.mailbox? id).isSome → a.left id = []) ∧
        ∀ op : HubOperation,
          let messages := op.messagesFor id (subscriptions id since)
          let room := (a.hub.mailbox? id).isSome ∧ (a.hub.queueOf id).length < max 2 clientBuffer
          ((a.after op).hub.isConnected id ↔ op ≠ .disconnect id ∧ (messages = [] ∨ room)) ∧
          (a.after op).sentTo id = a.sentTo id ++ if room then messages else []) ∧
    (∀ id ∈ start.idsGiven ops, ¬ a.hub.isConnected id → ∀ later,
      ¬ (a.run later).hub.isConnected id ∧ (a.run later).sentTo id = a.sentTo id) ∧
    (∀ message, (a.hub.broadcast message).1 = a.hub.grownCount (a.hub.broadcast message).2) ∧
    ∀ channel message, (a.hub.broadcastTo channel message).1 =
      a.hub.grownCount (a.hub.broadcastTo channel message).2 := by
  intro start a
  have sound : a.Sound := (sound_empty clientBuffer maxMetricsBytes).run ops
  have capacity : a.hub.capacity = max 2 clientBuffer :=
    (settings_run start ops).1.trans (Nat.max_comm _ _)
  refine ⟨nodup_idsGiven start ops, fun id => capacity ▸ sound.queues id, ?_, ?_,
    fun message => fst_deliver sound.numbered _ message,
    fun channel message => fst_deliver sound.numbered _ message⟩
  · intro id connected
    have given : id < a.hub.nextId :=
      sound.numbered.clients_lt id (isConnected_iff.mp connected)
    obtain ⟨before, active, since, hOps, hId, hSent, follows⟩ := exists_connect connected
    refine ⟨before, active, since, hOps, hId, hSent, sound.left id, fun op => ?_⟩
    simp only [← capacity, ← hasRoom_iff]
    refine ⟨(isConnected_after given follows op).trans (and_iff_right connected), ?_⟩
    simpa [connected] using sentTo_after sound given follows op
  · intro id given gone later
    exact gone_run sound (idsGiven_bounds given).2 gone later

/-- Of two clients one reads its greeting and takes two more messages. The other does not, and the
second message that it has no room for is not sent either. -/
theorem no_gaps_of_two :
    let ops : List HubOperation := [.connect [], .connect [], .subscribe 1 "a", .read 1 2,
      .broadcastTo "a" .connected, .broadcast (.subscribed "b")]
    let a := (empty 0 0).run ops
    a.hub.isConnected 1 ∧
    (∃ (active : List Alert) (since : List HubOperation), a.sentTo 1 =
      [.connected, .activeAlerts (active.map (·.broadcastCopy 0))] ++ addressedTo 1 [] since) ∧
    a.sentTo 1 = [.connected, .activeAlerts [], .connected, .subscribed "b"] ∧
    2 ∈ (empty 0 0).idsGiven ops ∧ ¬ a.hub.isConnected 2 ∧
    (a.run [.sendTo 2 .connected]).sentTo 2 = a.sentTo 2 := by
  intro ops a
  obtain ⟨-, -, registered, gone, -⟩ := no_gaps 0 0 ops
  have first : a.hub.isConnected 1 := by decide
  have given : 2 ∈ (empty 0 0).idsGiven ops := by decide
  have second : ¬ a.hub.isConnected 2 := by decide
  obtain ⟨before, active, since, -, -, sent, -⟩ := registered 1 first
  exact ⟨first, ⟨active, since, sent⟩, rfl, given, second,
    (gone 2 given second [.sendTo 2 .connected]).2⟩

end Audience

end MetricAlerts
