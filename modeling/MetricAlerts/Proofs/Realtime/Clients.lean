import MetricAlerts.Proofs.Realtime.Messages

/-! What the operations of the hub do to its clients. A client that stays registered is sent every
message for an event about an alert; whatever else comes to its queue tells nothing of alerts. -/

namespace MetricAlerts

namespace Hub

/-- The messages in the queue of a client. -/
def queueOf (h : Hub) (id : Nat) : List RealtimeMessage :=
  ((h.mailbox? id).map Mailbox.queue).getD []

/-- The hub after a client has read some messages from the front of its queue. -/
def read (h : Hub) (id n : Nat) : Hub :=
  { h with mailboxes := h.mailboxes.map fun m =>
      if m.client = id then { m with queue := m.queue.drop n } else m }

/-- The ids of the registered clients. -/
def clientIds (h : Hub) : List Nat := h.clients.map Client.id

/-- The ids of those who have a mailbox. -/
def receiverIds (h : Hub) : List Nat := h.mailboxes.map Mailbox.client

/-- A hub in which no client and no mailbox is new. -/
structure Frame (h h' : Hub) : Prop where
  nextId : h'.nextId = h.nextId
  maxMetricsBytes : h'.maxMetricsBytes = h.maxMetricsBytes
  clients : h'.clientIds.Sublist h.clientIds
  receivers : h'.receiverIds.Sublist h.receiverIds

/-- Clients and mailboxes have ids that have been given out, each of them one of its own. -/
structure Numbered (h : Hub) : Prop where
  clients_nodup : h.clientIds.Nodup
  clients_lt : ∀ id ∈ h.clientIds, id < h.nextId
  receivers_nodup : h.receiverIds.Nodup
  receivers_lt : ∀ id ∈ h.receiverIds, id < h.nextId

variable {h h' h'' : Hub} {id other : Nat} {ids : List Nat} {message : RealtimeMessage}

theorem isConnected_iff : h.isConnected id ↔ id ∈ h.clientIds := by
  simp [isConnected, clientIds]

namespace Frame

theorem refl (h : Hub) : Frame h h := ⟨rfl, rfl, List.Sublist.refl _, List.Sublist.refl _⟩

theorem trans (first : Frame h h') (second : Frame h' h'') : Frame h h'' :=
  ⟨second.nextId.trans first.nextId, second.maxMetricsBytes.trans first.maxMetricsBytes,
    second.clients.trans first.clients, second.receivers.trans first.receivers⟩

theorem numbered (frame : Frame h h') (numbered : h.Numbered) : h'.Numbered where
  clients_nodup := numbered.clients_nodup.sublist frame.clients
  clients_lt id hId := frame.nextId ▸ numbered.clients_lt id (frame.clients.subset hId)
  receivers_nodup := numbered.receivers_nodup.sublist frame.receivers
  receivers_lt id hId := frame.nextId ▸ numbered.receivers_lt id (frame.receivers.subset hId)

theorem isConnected (frame : Frame h h') (connected : h'.isConnected id) : h.isConnected id :=
  isConnected_iff.mpr (frame.clients.subset (isConnected_iff.mp connected))

theorem copyOf (frame : Frame h h') : h'.copyOf = h.copyOf := by
  funext a
  rw [Hub.copyOf, frame.maxMetricsBytes, Hub.copyOf]

end Frame

theorem numbered_empty (clientBuffer maxMetricsBytes : Nat) :
    (empty clientBuffer maxMetricsBytes).Numbered := by
  refine ⟨?_, ?_, ?_, ?_⟩ <;> simp [clientIds, receiverIds, empty]

/-! Changes of mailboxes. -/

theorem frame_mapMailboxes {f : Mailbox → Mailbox} (keep : ∀ m, (f m).client = m.client) (h : Hub) :
    Frame h { h with mailboxes := h.mailboxes.map f } where
  nextId := rfl
  maxMetricsBytes := rfl
  clients := List.Sublist.refl _
  receivers := by simp [receiverIds, Function.comp_def, keep]

theorem mailbox?_mapMailboxes {f : Mailbox → Mailbox} (keep : ∀ m, (f m).client = m.client)
    (h : Hub) (id : Nat) :
    mailbox? { h with mailboxes := h.mailboxes.map f } id = (h.mailbox? id).map f := by
  have same : ((fun m : Mailbox => m.client == id) ∘ f) = fun m => m.client == id := by
    funext m
    simp [keep]
  rw [mailbox?, List.find?_map, same]
  rfl

theorem client_of_mailbox? {m : Mailbox} (found : h.mailbox? id = some m) : m.client = id := by
  simpa using List.find?_some found

theorem frame_enqueue (h : Hub) (ids : List Nat) (message : RealtimeMessage) :
    Frame h (h.enqueue ids message) :=
  frame_mapMailboxes (fun m => by split <;> rfl) h

theorem queueOf_enqueue (isThere : (h.mailbox? id).isSome) (mem : id ∈ ids) :
    (h.enqueue ids message).queueOf id = h.queueOf id ++ [message] := by
  obtain ⟨m, hm⟩ := Option.isSome_iff_exists.mp isThere
  have hClient := client_of_mailbox? hm
  rw [queueOf, enqueue, mailbox?_mapMailboxes (fun m => by split <;> rfl), queueOf, hm]
  simp [hClient, mem]

theorem queueOf_enqueue_of_notMem (absent : id ∉ ids) :
    (h.enqueue ids message).queueOf id = h.queueOf id := by
  rw [queueOf, enqueue, mailbox?_mapMailboxes (fun m => by split <;> rfl), queueOf]
  cases hm : h.mailbox? id with
  | none => rfl
  | some m => simp [client_of_mailbox? hm, absent]

theorem frame_read (h : Hub) (id n : Nat) : Frame h (h.read id n) :=
  frame_mapMailboxes (fun m => by split <;> rfl) h

theorem queueOf_read (h : Hub) (id n : Nat) : (h.read id n).queueOf id = (h.queueOf id).drop n := by
  rw [queueOf, read, mailbox?_mapMailboxes (fun m => by split <;> rfl), queueOf]
  cases hm : h.mailbox? id with
  | none => simp
  | some m => simp [client_of_mailbox? hm]

theorem queueOf_read_of_ne (n : Nat) (ne : other ≠ id) :
    (h.read id n).queueOf other = h.queueOf other := by
  rw [queueOf, read, mailbox?_mapMailboxes (fun m => by split <;> rfl), queueOf]
  cases hm : h.mailbox? other with
  | none => rfl
  | some m => simp [client_of_mailbox? hm, ne]

/-- A client that reads all messages at once empties its queue. -/
theorem eq_read_of_drain? (numbered : h.Numbered) {messages : List RealtimeMessage} {dropped : Bool}
    (drained : h.drain? id = some (messages, dropped, h')) :
    messages = h.queueOf id ∧ h' = h.read id messages.length := by
  obtain ⟨m, hm, hResult⟩ := Option.map_eq_some_iff.mp drained
  cases hResult
  refine ⟨by rw [queueOf, hm]; rfl, ?_⟩
  rw [read]
  congr 1
  refine List.map_congr_left fun m' hm' => ?_
  split
  · next same =>
    have hSame : m' = m :=
      List.inj_on_of_nodup_map numbered.receivers_nodup hm' (List.mem_of_find?_eq_some hm)
        (same.trans (client_of_mailbox? hm).symm)
    rw [hSame, List.drop_length]
  · rfl

theorem frame_dropReceiver (h : Hub) (id : Nat) : Frame h (h.dropReceiver id).2 :=
  ⟨rfl, rfl, List.Sublist.refl _, List.filter_sublist.map _⟩

theorem queueOf_dropReceiver (h : Hub) (id : Nat) : (h.dropReceiver id).2.queueOf id = [] := by
  have hNone : (h.dropReceiver id).2.mailbox? id = none := by
    refine List.find?_eq_none.mpr fun m hm => ?_
    simpa using (List.mem_filter.mp hm).2
  rw [queueOf, hNone]
  rfl

theorem queueOf_dropReceiver_of_ne (ne : other ≠ id) :
    (h.dropReceiver id).2.queueOf other = h.queueOf other := by
  have hSame : (h.dropReceiver id).2.mailbox? other = h.mailbox? other := by
    simp only [mailbox?, dropReceiver, List.find?_filter]
    congr 1
    funext m
    by_cases hm : m.client = other
    · simp [hm, ne]
    · simp [hm]
  rw [queueOf, hSame, queueOf]

/-! Changes of clients. -/

theorem frame_dropClients (h : Hub) (ids : List Nat) : Frame h (h.dropClients ids) :=
  ⟨rfl, rfl, List.filter_sublist.map _, List.Sublist.refl _⟩

theorem notMem_of_isConnected_dropClients (connected : (h.dropClients ids).isConnected id) :
    id ∉ ids := by
  obtain ⟨c, hc, rfl⟩ := List.mem_map.mp (isConnected_iff.mp connected)
  simpa using (List.mem_filter.mp hc).2

theorem frame_setChannels (h : Hub) (id : Nat) (f : List String → List String) :
    Frame h (h.setChannels id f) where
  nextId := rfl
  maxMetricsBytes := rfl
  clients := by
    have keep (c : Client) :
        (if c.id = id then { c with channels := f c.channels } else c).id = c.id := by
      split <;> rfl
    simp [clientIds, setChannels, Function.comp_def, keep]
  receivers := List.Sublist.refl _

/-! Messages for several clients. -/

theorem frame_deliver (h : Hub) (wanted : Client → Bool) (message : RealtimeMessage) :
    Frame h (h.deliver wanted message).2 :=
  (frame_enqueue h _ message).trans (frame_dropClients _ _)

/-- A client that is registered after a delivery has the message if it was for the client. -/
theorem queueOf_deliver {wanted : Client → Bool}
    (connected : (h.deliver wanted message).2.isConnected id) :
    (h.deliver wanted message).2.queueOf id =
      if id ∈ (h.clients.filter wanted).map Client.id then h.queueOf id ++ [message]
      else h.queueOf id := by
  have notFailed := notMem_of_isConnected_dropClients connected
  show (h.enqueue _ message).queueOf id = _
  split
  · next addressed =>
    have room : h.hasRoom id = true := by
      have := fun less => notFailed (List.mem_filter.mpr ⟨addressed, less⟩)
      simpa using this
    refine queueOf_enqueue ?_ (List.mem_filter.mpr ⟨addressed, room⟩)
    unfold hasRoom at room
    split at room
    · next found => rw [found]; rfl
    · cases room
  · next notAddressed =>
    exact queueOf_enqueue_of_notMem fun reached => notAddressed (List.mem_filter.mp reached).1

theorem clientView_deliver {wanted : Client → Bool} (past : List RealtimeMessage)
    (connected : (h.deliver wanted message).2.isConnected id) :
    clientView (past ++ (h.deliver wanted message).2.queueOf id) =
      if id ∈ (h.clients.filter wanted).map Client.id then
        message.applyTo (clientView (past ++ h.queueOf id))
      else clientView (past ++ h.queueOf id) := by
  rw [queueOf_deliver connected]
  split
  · rw [← List.append_assoc, clientView_append]
  · rfl

theorem frame_broadcastEvent (h : Hub) (event : Event) : Frame h (h.broadcastEvent event).2 := by
  unfold broadcastEvent
  split <;> exact frame_deliver ..

/-- Every client that is registered after an event has been told what there is to tell. Of alerts, a
pattern analysis tells nothing, whoever has subscribed to it. -/
theorem clientView_broadcastEvent {event : Event} (past : List RealtimeMessage)
    (connected : (h.broadcastEvent event).2.isConnected id) :
    clientView (past ++ (h.broadcastEvent event).2.queueOf id) =
      (h.messageOf event).applyTo (clientView (past ++ h.queueOf id)) := by
  have hMem := isConnected_iff.mp ((frame_broadcastEvent h event).isConnected connected)
  cases event with
  | patternsDetected analysis =>
    refine (clientView_deliver past connected).trans ?_
    split <;> rfl
  | created a | updated a | resolved a =>
    refine (clientView_deliver past connected).trans (if_pos ?_)
    rwa [List.filter_true]

/-- A hub after which a registered client knows of alerts what it knew before. -/
structure Quiet (h h' : Hub) : Prop extends Frame h h' where
  view : ∀ id past, h'.isConnected id →
    clientView (past ++ h'.queueOf id) = clientView (past ++ h.queueOf id)

theorem Quiet.refl (h : Hub) : Quiet h h := ⟨.refl h, fun _ _ _ => rfl⟩

theorem Quiet.trans (first : Quiet h h') (second : Quiet h' h'') : Quiet h h'' where
  toFrame := first.toFrame.trans second.toFrame
  view id past connected :=
    (second.view id past connected).trans (first.view id past (second.isConnected connected))

theorem quiet_sendTo (h : Hub) (id : Nat) (silent : ∀ v, message.applyTo v = v) :
    Quiet h (h.sendTo id message).2 where
  toFrame := frame_deliver ..
  view id past connected := by
    refine (clientView_deliver past connected).trans ?_
    rw [silent, ite_self]

theorem quiet_setChannels (h : Hub) (id : Nat) (f : List String → List String) :
    Quiet h (h.setChannels id f) :=
  ⟨frame_setChannels h id f, fun _ _ _ => rfl⟩

theorem quiet_disconnect (h : Hub) (id : Nat) : Quiet h (h.disconnect id).2 :=
  ⟨frame_dropClients h [id], fun _ _ _ => rfl⟩

theorem quiet_subscribe (h : Hub) (id : Nat) (channel : String) :
    Quiet h (h.subscribe id channel).2 := by
  simp only [subscribe]
  exact quiet_setChannels ..

theorem quiet_unsubscribe (h : Hub) (id : Nat) (channel : String) :
    Quiet h (h.unsubscribe id channel).2 := by
  simp only [unsubscribe]
  exact quiet_setChannels ..

/-- The answers to what clients ask for tell nothing of alerts. -/
theorem quiet_handleText (h : Hub) (id : Nat) (text : String) : Quiet h (h.handleText id text) := by
  unfold handleText
  split
  · next channel _ =>
    have hSubscribe := quiet_subscribe h id channel
    split
    · next found =>
      rw [found] at hSubscribe
      exact hSubscribe.trans (quiet_sendTo _ id fun _ => rfl)
    · next found =>
      rw [found] at hSubscribe
      exact hSubscribe
  · exact quiet_unsubscribe ..
  · exact quiet_sendTo _ id fun _ => rfl

/-! New clients. -/

variable {active : List Alert}

theorem clientIds_connect : (h.connect active).2.clientIds = h.clientIds ++ [h.nextId] :=
  List.map_append

theorem receiverIds_connect : (h.connect active).2.receiverIds = h.receiverIds ++ [h.nextId] :=
  List.map_append

theorem numbered_connect (numbered : h.Numbered) : (h.connect active).2.Numbered := by
  have nodup : ∀ ids : List Nat, ids.Nodup → (∀ id ∈ ids, id < h.nextId) →
      (ids ++ [h.nextId]).Nodup := by
    intro ids distinct less
    refine List.nodup_append.mpr ⟨distinct, List.nodup_singleton _, ?_⟩
    intro id hId id' hId'
    have hLess := less id hId
    have hSame := List.mem_singleton.mp hId'
    omega
  have bounded : ∀ ids : List Nat, (∀ id ∈ ids, id < h.nextId) →
      ∀ id ∈ ids ++ [h.nextId], id < h.nextId + 1 := by
    intro ids less id hId
    rcases List.mem_append.mp hId with hId | hId
    · exact Nat.lt_succ_of_lt (less id hId)
    · have hSame := List.mem_singleton.mp hId
      omega
  constructor
  · rw [clientIds_connect]
    exact nodup _ numbered.clients_nodup numbered.clients_lt
  · rw [clientIds_connect]
    exact bounded _ numbered.clients_lt
  · rw [receiverIds_connect]
    exact nodup _ numbered.receivers_nodup numbered.receivers_lt
  · rw [receiverIds_connect]
    exact bounded _ numbered.receivers_lt

theorem queueOf_connect_of_ne (ne : id ≠ h.nextId) :
    (h.connect active).2.queueOf id = h.queueOf id := by
  have hSame : (h.connect active).2.mailbox? id = h.mailbox? id := by
    simp [mailbox?, connect, List.find?_append, Ne.symm ne]
  rw [queueOf, hSame, queueOf]

/-- There is no mailbox for an id that has not been given out. -/
theorem mailbox?_of_le (numbered : h.Numbered) (le : h.nextId ≤ id) : h.mailbox? id = none := by
  refine List.find?_eq_none.mpr fun m hm => ?_
  have hLess := numbered.receivers_lt m.client (List.mem_map_of_mem hm)
  have hNe : m.client ≠ id := by omega
  simp [hNe]

theorem queueOf_of_le (numbered : h.Numbered) (le : h.nextId ≤ id) : h.queueOf id = [] := by
  rw [queueOf, mailbox?_of_le numbered le]
  rfl

/-- The queue of a new client starts with the greeting. -/
theorem queueOf_connect (numbered : h.Numbered) :
    (h.connect active).2.queueOf h.nextId = [.connected, .activeAlerts (active.map h.copyOf)] := by
  have hNone := mailbox?_of_le numbered (Nat.le_refl h.nextId)
  rw [mailbox?] at hNone
  simp [queueOf, mailbox?, connect, List.find?_append, hNone]

end Hub

end MetricAlerts
