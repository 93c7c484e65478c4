import MetricAlerts.Proofs.Realtime.Deliveries

/-! The operations on the hub, and what one of them does for one client: which messages are
addressed to it, whether it stays registered and what it has subscribed to afterwards. -/

namespace MetricAlerts

open Hub

/-- An operation on the hub, or of a client on its own queue. -/
inductive HubOperation where
  /-- A connection, with the alerts that are active at the time. -/
  | connect (active : List Alert)
  | disconnect (id : Nat)
  | subscribe (id : Nat) (channel : String)
  | unsubscribe (id : Nat) (channel : String)
  | broadcast (message : RealtimeMessage)
  | broadcastTo (channel : String) (message : RealtimeMessage)
  | sendTo (id : Nat) (message : RealtimeMessage)
  | text (id : Nat) (text : String)
  /-- A client reads some messages from the front of its queue. -/
  | read (id n : Nat)
  /-- The receiver of a client goes. -/
  | hangUp (id : Nat)

def Hub.after (h : Hub) : HubOperation → Hub
  | .connect active => (h.connect active).2
  | .disconnect id => (h.disconnect id).2
  | .subscribe id channel => (h.subscribe id channel).2
  | .unsubscribe id channel => (h.unsubscribe id channel).2
  | .broadcast message => (h.broadcast message).2
  | .broadcastTo channel message => (h.broadcastTo channel message).2
  | .sendTo id message => (h.sendTo id message).2
  | .text id text => h.handleText id text
  | .read id n => h.read id n
  | .hangUp id => (h.dropReceiver id).2

namespace HubOperation

/-- The subscriptions of a client after an operation, from those before. -/
def channelsOf (id : Nat) (channels : List String) : HubOperation → List String
  | .subscribe c channel => if c = id then channel :: channels else channels
  | .unsubscribe c channel => if c = id then channels.filter (· != channel) else channels
  | .text c said =>
    if c = id then
      match ClientRequest.parse? said with
      | some (.subscribe channel) => channel :: channels
      | some (.unsubscribe channel) => channels.filter (· != channel)
      | none => channels
    else channels
  | _ => channels

/-- The messages of an operation that are addressed to a client with some subscriptions. -/
def messagesFor (id : Nat) (channels : List String) : HubOperation → List RealtimeMessage
  | .broadcast message => [message]
  | .broadcastTo channel message => if channel ∈ channels then [message] else []
  | .sendTo c message => if c = id then [message] else []
  | .text c said =>
    if c = id then
      match ClientRequest.parse? said with
      | some (.subscribe channel) => [.subscribed channel]
      | some (.unsubscribe _) => []
      | none => [.unrecognized]
    else []
  | _ => []

/-- What a client reads in an operation. -/
def readBy (h : Hub) (id : Nat) : HubOperation → List RealtimeMessage
  | .read c n => if c = id then (h.queueOf id).take n else []
  | _ => []

/-- What the receiver of a client leaves unread in an operation. -/
def leftBy (h : Hub) (id : Nat) : HubOperation → List RealtimeMessage
  | .hangUp c => if c = id then h.queueOf id else []
  | _ => []

/-- The operations in which the hub may send messages to clients that it has. -/
def Sends : HubOperation → Prop
  | .connect _ | .disconnect _ | .read .. | .hangUp _ => False
  | _ => True

/-- The id that a connection is given. -/
def idsGiven (h : Hub) : HubOperation → List Nat
  | .connect active => [(h.connect active).1]
  | _ => []

end HubOperation

/-! One operation. -/

namespace Hub

variable {h : Hub} {id : Nat} {channels : List String} {op : HubOperation}

/-- A subscription that a client asks for is a subscription and the answer to it. -/
theorem handleText_of_subscribe {text channel : String}
    (asks : ClientRequest.parse? text = some (.subscribe channel)) :
    h.handleText id text = ((h.subscribe id channel).2.sendTo id (.subscribed channel)).2 := by
  simp only [handleText, asks, subscribe]
  split
  · next found => rw [(Prod.mk.inj found).2]
  · next found =>
    have absent : ¬ h.isConnected id := by simp [(Prod.mk.inj found).1]
    rw [← (Prod.mk.inj found).2, setChannels_of_not_isConnected absent]
    refine (deliver_of_addressees_eq_nil (List.eq_nil_iff_forall_not_mem.mpr fun other => ?_)).symm
    rw [mem_addressees_id]
    rintro ⟨connected, rfl⟩
    exact absent connected

theorem handleText_of_unsubscribe {text channel : String}
    (asks : ClientRequest.parse? text = some (.unsubscribe channel)) :
    h.handleText id text = (h.unsubscribe id channel).2 := by
  simp only [handleText, asks]

theorem handleText_of_none {text : String} (asks : ClientRequest.parse? text = none) :
    h.handleText id text = (h.sendTo id .unrecognized).2 := by
  simp only [handleText, asks]

theorem capacity_after : (h.after op).capacity = h.capacity := by
  cases op with
  | text c said =>
    cases asks : ClientRequest.parse? said with
    | none => rw [after, handleText_of_none asks]; rfl
    | some request =>
      cases request with
      | subscribe channel => rw [after, handleText_of_subscribe asks]; rfl
      | unsubscribe channel => rw [after, handleText_of_unsubscribe asks]; rfl
  | _ => rfl

theorem frame_after (old : ∀ active, op ≠ .connect active) : Frame h (h.after op) := by
  cases op with
  | connect active => exact absurd rfl (old active)
  | disconnect c => exact frame_dropClients h [c]
  | subscribe c channel => exact (quiet_subscribe h c channel).toFrame
  | unsubscribe c channel => exact (quiet_unsubscribe h c channel).toFrame
  | broadcast m => exact frame_deliver ..
  | broadcastTo channel m => exact frame_deliver ..
  | sendTo c m => exact frame_deliver ..
  | text c said => exact (quiet_handleText h c said).toFrame
  | read c n => exact frame_read h c n
  | hangUp c => exact frame_dropReceiver h c

theorem numbered_after (numbered : h.Numbered) (op : HubOperation) : (h.after op).Numbered := by
  by_cases old : ∀ active, op ≠ .connect active
  · exact (frame_after old).numbered numbered
  · simp only [not_forall, not_not] at old
    obtain ⟨active, rfl⟩ := old
    exact numbered_connect numbered

theorem nextId_after (h : Hub) (op : HubOperation) :
    (h.after op).nextId = h.nextId + (op.idsGiven h).length := by
  cases op with
  | connect active => rfl
  | text c said => exact (quiet_handleText h c said).nextId
  | _ => rfl

theorem maxMetricsBytes_after : (h.after op).maxMetricsBytes = h.maxMetricsBytes := by
  cases op with
  | connect active => rfl
  | text c said => exact (quiet_handleText h c said).maxMetricsBytes
  | _ => rfl

/-- The subscriptions of a client, as long as it is registered. -/
def Follows (h : Hub) (id : Nat) (channels : List String) : Prop :=
  h.isConnected id → ∀ channel, h.IsSubscribed id channel ↔ channel ∈ channels

/-- A hub after some messages for a client. They find room and are queued, or there is none and
the client is dropped. -/
structure Handles (h h' : Hub) (id : Nat) (messages : List RealtimeMessage) : Prop where
  connected : h'.isConnected id ↔ h.isConnected id ∧ (messages = [] ∨ h.hasRoom id)
  queue : h'.queueOf id =
    h.queueOf id ++ if h.isConnected id ∧ h.hasRoom id then messages else []

theorem handles_deliver {wanted : Client → Bool} {message : RealtimeMessage} :
    Handles h (h.deliver wanted message).2 id
      (if id ∈ h.addressees wanted then [message] else []) where
  connected := by
    rw [isConnected_deliver, imp_iff_not_or]
    simp
  queue := by
    rw [queueOf_deliver_eq]
    by_cases addressed : id ∈ h.addressees wanted
    · simp only [addressed, isConnected_of_mem_addressees addressed, true_and, if_true]
      split <;> simp
    · simp [addressed]

theorem handles_setChannels (c : Nat) (f : List String → List String) :
    Handles h (h.setChannels c f) id [] where
  connected := by rw [isConnected_setChannels]; simp
  queue := by rw [ite_self, List.append_nil]; rfl

/-- Messages are handled as in the hub with other subscriptions. -/
theorem Handles.of_setChannels {h' : Hub} {c : Nat} {f : List String → List String}
    {messages : List RealtimeMessage} (handles : Handles (h.setChannels c f) h' id messages) :
    Handles h h' id messages where
  connected := handles.connected.trans (and_congr (isConnected_setChannels f) Iff.rfl)
  queue := by
    have := handles.queue
    simp only [isConnected_setChannels] at this
    exact this

/-- What is handled matters for a registered client only. -/
theorem Handles.congr {h' : Hub} {messages messages' : List RealtimeMessage}
    (handles : Handles h h' id messages) (same : h.isConnected id → messages' = messages) :
    Handles h h' id messages' := by
  by_cases connected : h.isConnected id
  · rwa [same connected]
  · exact ⟨handles.connected.trans (by simp [connected]),
      handles.queue.trans (by simp [connected])⟩

theorem handles_sendTo (c : Nat) (message : RealtimeMessage) :
    Handles h (h.sendTo c message).2 id (if c = id then [message] else []) := by
  have delivered : Handles h (h.deliver (fun client => client.id == c) message).2 id _ :=
    handles_deliver
  exact delivered.congr fun connected => by simp [mem_addressees_id, connected, eq_comm]

theorem handles_subscribe (c : Nat) (channel : String) :
    Handles h (h.subscribe c channel).2 id [] := by
  simp only [subscribe]
  exact handles_setChannels ..

theorem handles_unsubscribe (c : Nat) (channel : String) :
    Handles h (h.unsubscribe c channel).2 id [] := by
  simp only [unsubscribe]
  exact handles_setChannels ..

theorem handles_after (follows : h.Follows id channels) (sends : op.Sends) :
    Handles h (h.after op) id (op.messagesFor id channels) := by
  cases op with
  | connect | disconnect | read | hangUp => exact sends.elim
  | subscribe c channel => exact handles_subscribe c channel
  | unsubscribe c channel => exact handles_unsubscribe c channel
  | broadcast m =>
    exact handles_deliver.congr fun connected => (if_pos (mem_addressees_true.mpr connected)).symm
  | broadcastTo channel m =>
    refine handles_deliver.congr fun connected => ?_
    simp only [mem_addressees_channel, follows connected]
    rfl
  | sendTo c m => exact handles_sendTo c m
  | text c said =>
    cases asks : ClientRequest.parse? said with
    | none =>
      rw [after, handleText_of_none asks]
      simp only [HubOperation.messagesFor, asks]
      exact handles_sendTo c .unrecognized
    | some request =>
      cases request with
      | subscribe channel =>
        rw [after, handleText_of_subscribe asks]
        simp only [subscribe, HubOperation.messagesFor, asks]
        exact (handles_sendTo c (.subscribed channel)).of_setChannels
      | unsubscribe channel =>
        rw [after, handleText_of_unsubscribe asks]
        simp only [HubOperation.messagesFor, asks, ite_self]
        exact handles_unsubscribe c channel

/-- A client stays registered unless it is disconnected or a message for it finds no room. -/
theorem isConnected_after (given : id < h.nextId) (follows : h.Follows id channels)
    (op : HubOperation) : (h.after op).isConnected id ↔
      h.isConnected id ∧ op ≠ .disconnect id ∧
        (op.messagesFor id channels = [] ∨ h.hasRoom id) := by
  cases op with
  | connect active =>
    simp [after, isConnected_connect, HubOperation.messagesFor, Nat.ne_of_lt given]
  | disconnect c =>
    refine isConnected_dropClients.trans (and_congr_right fun _ => ?_)
    simp only [List.mem_singleton, HubOperation.messagesFor, true_or, and_true, ne_eq,
      HubOperation.disconnect.injEq, eq_comm (a := id)]
  | read c n => simp [after, HubOperation.messagesFor]; rfl
  | hangUp c => simp [after, HubOperation.messagesFor]; rfl
  | _ =>
    refine (handles_after follows ?_).connected.trans ?_
    · trivial
    · simp

/-- A client that a delivery does not drop keeps its subscriptions. -/
theorem isSubscribed_deliver_of_isConnected {wanted : Client → Bool} {message : RealtimeMessage}
    {channel : String} (connected : (h.deliver wanted message).2.isConnected id) :
    (h.deliver wanted message).2.IsSubscribed id channel ↔ h.IsSubscribed id channel :=
  isSubscribed_deliver.trans (and_iff_left (isConnected_deliver.mp connected).2)

theorem follows_subscribe (follows : h.Follows id channels) (c : Nat) (name : String) :
    (h.subscribe c name).2.Follows id (if c = id then name :: channels else channels) := by
  intro connected channel
  have before := (isConnected_setChannels _).mp connected
  rw [isSubscribed_subscribe, follows before]
  by_cases same : c = id
  · simp [same, before, or_comm]
  · simp [same, Ne.symm same]

theorem follows_unsubscribe (follows : h.Follows id channels) (c : Nat) (name : String) :
    (h.unsubscribe c name).2.Follows id
      (if c = id then channels.filter (· != name) else channels) := by
  intro connected channel
  rw [isSubscribed_unsubscribe, follows ((isConnected_setChannels _).mp connected)]
  by_cases same : c = id
  · simp [same]
  · simp [same, Ne.symm same]

theorem Follows.deliver (follows : h.Follows id channels) (wanted : Client → Bool)
    (message : RealtimeMessage) : (h.deliver wanted message).2.Follows id channels :=
  fun connected channel => (isSubscribed_deliver_of_isConnected connected).trans
    (follows (isConnected_deliver.mp connected).1 channel)

/-- A client that stays registered has the subscriptions that it has asked for. -/
theorem follows_after (given : id < h.nextId) (follows : h.Follows id channels)
    (op : HubOperation) : (h.after op).Follows id (op.channelsOf id channels) := by
  cases op with
  | connect active =>
    intro connected channel
    have before := (isConnected_connect.mp connected).resolve_right (Nat.ne_of_lt given)
    exact isSubscribed_connect.trans (follows before channel)
  | disconnect c =>
    intro connected channel
    have before := isConnected_dropClients.mp connected
    exact (isSubscribed_dropClients.trans (and_iff_left before.2)).trans (follows before.1 channel)
  | read c n => exact follows
  | hangUp c => exact follows
  | subscribe c name => exact follows_subscribe follows c name
  | unsubscribe c name => exact follows_unsubscribe follows c name
  | broadcast m => exact follows.deliver _ _
  | broadcastTo c m => exact follows.deliver _ _
  | sendTo c m => exact follows.deliver _ _
  | text c said =>
    cases asks : ClientRequest.parse? said with
    | none =>
      rw [after, handleText_of_none asks]
      simp only [HubOperation.channelsOf, asks, ite_self]
      exact follows.deliver _ _
    | some request =>
      cases request with
      | subscribe channel =>
        rw [after, handleText_of_subscribe asks]
        simp only [HubOperation.channelsOf, asks]
        exact (follows_subscribe follows c channel).deliver _ _
      | unsubscribe channel =>
        rw [after, handleText_of_unsubscribe asks]
        simp only [HubOperation.channelsOf, asks]
        exact follows_unsubscribe follows c channel

end Hub

end MetricAlerts
