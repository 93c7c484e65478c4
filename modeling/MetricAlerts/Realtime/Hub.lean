import MetricAlerts.BroadcastCopy
import MetricAlerts.Event
import MetricAlerts.Realtime.Message

/-! The registry of realtime clients. Every client has a queue of limited length; a client is
dropped when a message for it finds the queue full or its receiver gone. -/

namespace MetricAlerts

/-- A registered client and the channels it has subscribed to. -/
structure Client where
  id : Nat
  channels : List String

/-- The messages that a client has not read yet. There is a mailbox as long as the client's
receiver exists, also after the client has been dropped from the registry. -/
structure Mailbox where
  client : Nat
  queue : List RealtimeMessage

structure Hub where
  /-- The id of the next client. It is never used up; a counter of 64 bits would give the same ids
  up to the connection with number 2 ^ 64. -/
  nextId : Nat
  capacity : Nat
  maxMetricsBytes : Nat
  clients : List Client
  mailboxes : List Mailbox

namespace Hub

/-- The channel for pattern analyses. -/
def patternsChannel : String := "alert_patterns"

/-- A hub without clients. A queue has room for the two messages that greet a client. -/
def empty (clientBuffer maxMetricsBytes : Nat) : Hub where
  nextId := 1
  capacity := max clientBuffer 2
  maxMetricsBytes := maxMetricsBytes
  clients := []
  mailboxes := []

def isConnected (h : Hub) (id : Nat) : Bool := h.clients.any fun c => c.id == id

def clientCount (h : Hub) : Nat := h.clients.length

def mailbox? (h : Hub) (id : Nat) : Option Mailbox := h.mailboxes.find? fun m => m.client == id

/-- Whether a message for a client can be queued. -/
def hasRoom (h : Hub) (id : Nat) : Bool :=
  match h.mailbox? id with
  | some m => m.queue.length < h.capacity
  | none => false

/-- The hub with a message at the end of the queue of every client in a list. -/
def enqueue (h : Hub) (ids : List Nat) (message : RealtimeMessage) : Hub :=
  { h with mailboxes := h.mailboxes.map fun m =>
      if ids.contains m.client then { m with queue := m.queue ++ [message] } else m }

/-- The hub without the clients in a list. -/
def dropClients (h : Hub) (ids : List Nat) : Hub :=
  { h with clients := h.clients.filter fun c => !ids.contains c.id }

/-- A message for every client that `wanted` picks: the number of clients whose queue took it, and
the hub without those whose queue did not. -/
def deliver (h : Hub) (wanted : Client → Bool) (message : RealtimeMessage) : Nat × Hub :=
  let addressed := (h.clients.filter wanted).map Client.id
  let reached := addressed.filter h.hasRoom
  let failed := addressed.filter fun id => !h.hasRoom id
  (reached.length, (h.enqueue reached message).dropClients failed)

def broadcast (h : Hub) (message : RealtimeMessage) : Nat × Hub := h.deliver (fun _ => true) message

/-- A message for the subscribers of a channel. -/
def broadcastTo (h : Hub) (channel : String) (message : RealtimeMessage) : Nat × Hub :=
  h.deliver (fun c => c.channels.contains channel) message

/-- A message for one client, and whether its queue took it. -/
def sendTo (h : Hub) (id : Nat) (message : RealtimeMessage) : Bool × Hub :=
  let (reached, h) := h.deliver (fun c => c.id == id) message
  (reached == 1, h)

def copyOf (h : Hub) (alert : Alert) : Json := alert.broadcastCopy h.maxMetricsBytes

/-- A new client, whose queue starts with a greeting and the active alerts. -/
def connect (h : Hub) (active : List Alert) : Nat × Hub :=
  let queue := [.connected, .activeAlerts (active.map h.copyOf)]
  (h.nextId,
    { h with
      nextId := h.nextId + 1
      clients := h.clients ++ [⟨h.nextId, []⟩]
      mailboxes := h.mailboxes ++ [⟨h.nextId, queue⟩] })

def disconnect (h : Hub) (id : Nat) : Bool × Hub := (h.isConnected id, h.dropClients [id])

/-- The hub in which a client has other subscriptions. -/
def setChannels (h : Hub) (id : Nat) (f : List String → List String) : Hub :=
  { h with clients := h.clients.map fun c =>
      if c.id = id then { c with channels := f c.channels } else c }

/-- The subscription of a client to a channel, and whether there is such a client. -/
def subscribe (h : Hub) (id : Nat) (channel : String) : Bool × Hub :=
  (h.isConnected id,
    h.setChannels id fun channels =>
      if channels.contains channel then channels else channels ++ [channel])

/-- The end of a subscription, and whether there was one. -/
def unsubscribe (h : Hub) (id : Nat) (channel : String) : Bool × Hub :=
  (h.clients.any fun c => c.id == id && c.channels.contains channel,
    h.setChannels id fun channels => channels.filter (· != channel))

/-- The message that an event becomes. -/
def messageOf (h : Hub) : Event → RealtimeMessage
  | .created alert => .alert (h.copyOf alert)
  | .updated alert => .alertUpdate (h.copyOf alert)
  | .resolved alert => .resolve (h.copyOf alert)
  | .patternsDetected analysis => .alertPatterns analysis

/-- An event for all clients, or a pattern analysis for those who have subscribed to such. -/
def broadcastEvent (h : Hub) (event : Event) : Nat × Hub :=
  match event with
  | .patternsDetected _ => h.broadcastTo patternsChannel (h.messageOf event)
  | _ => h.broadcast (h.messageOf event)

/-- What the hub does about a text that a client sends. -/
def handleText (h : Hub) (id : Nat) (text : String) : Hub :=
  match ClientRequest.parse? text with
  | some (.subscribe channel) =>
    match h.subscribe id channel with
    | (true, h) => (h.sendTo id (.subscribed channel)).2
    | (false, h) => h
  | some (.unsubscribe channel) => (h.unsubscribe id channel).2
  | none => (h.sendTo id .unrecognized).2

/-- The messages that a client reads, and whether it has been dropped, so that none will follow. -/
def drain? (h : Hub) (id : Nat) : Option (List RealtimeMessage × Bool × Hub) :=
  (h.mailbox? id).map fun m =>
    (m.queue, !h.isConnected id,
      { h with mailboxes := h.mailboxes.map fun m =>
          if m.client = id then { m with queue := [] } else m })

/-- The end of a client's receiver, and whether it was there. -/
def dropReceiver (h : Hub) (id : Nat) : Bool × Hub :=
  ((h.mailbox? id).isSome, { h with mailboxes := h.mailboxes.filter fun m => m.client != id })

end Hub

end MetricAlerts
