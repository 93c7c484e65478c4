import MetricAlerts.Proofs.Realtime.Clients

/-! What the operations of the hub do for one client: whether it stays registered, what its queue
holds and what it has subscribed to. Of a delivery each client sees only whether it is addressed
and whether its own queue has room. -/

namespace MetricAlerts

namespace Hub

/-- A client is registered and has subscribed to a channel. -/
def IsSubscribed (h : Hub) (id : Nat) (channel : String) : Prop :=
  ∃ c ∈ h.clients, c.id = id ∧ channel ∈ c.channels

/-- The clients that a delivery is for. -/
def addressees (h : Hub) (wanted : Client → Bool) : List Nat :=
  (h.clients.filter wanted).map Client.id

variable {h : Hub} {id other : Nat} {ids : List Nat} {channel name : String}
  {message : RealtimeMessage} {wanted : Client → Bool}

theorem IsSubscribed.isConnected (subscribed : h.IsSubscribed id channel) : h.isConnected id := by
  obtain ⟨c, hc, rfl, -⟩ := subscribed
  exact isConnected_iff.mpr (List.mem_map_of_mem hc)

/-! Who is addressed. -/

theorem isConnected_of_mem_addressees (addressed : id ∈ h.addressees wanted) : h.isConnected id :=
  isConnected_iff.mpr ((List.filter_sublist.map _).subset addressed)

theorem mem_addressees_true : id ∈ h.addressees (fun _ => true) ↔ h.isConnected id := by
  rw [addressees, List.filter_true, isConnected_iff, clientIds]

theorem mem_addressees_channel :
    id ∈ h.addressees (fun c => c.channels.contains channel) ↔ h.IsSubscribed id channel := by
  simp only [addressees, IsSubscribed, List.mem_map, List.mem_filter, List.contains_iff_mem]
  exact ⟨fun ⟨c, ⟨hc, hChannel⟩, hId⟩ => ⟨c, hc, hId, hChannel⟩,
    fun ⟨c, hc, hId, hChannel⟩ => ⟨c, ⟨hc, hChannel⟩, hId⟩⟩

theorem mem_addressees_id :
    id ∈ h.addressees (fun c => c.id == other) ↔ h.isConnected id ∧ id = other := by
  simp only [addressees, isConnected_iff, clientIds, List.mem_map, List.mem_filter, beq_iff_eq]
  constructor
  · rintro ⟨c, ⟨hc, hOther⟩, rfl⟩
    exact ⟨⟨c, hc, rfl⟩, hOther⟩
  · rintro ⟨⟨c, hc, rfl⟩, hOther⟩
    exact ⟨c, ⟨hc, hOther⟩, rfl⟩

theorem nodup_addressees (numbered : h.Numbered) : (h.addressees wanted).Nodup :=
  numbered.clients_nodup.sublist (List.filter_sublist.map _)

/-! Room in queues. -/

/-- A queue has room as long as its receiver exists and it is not full. -/
theorem hasRoom_iff :
    h.hasRoom id ↔ (h.mailbox? id).isSome ∧ (h.queueOf id).length < h.capacity := by
  unfold hasRoom queueOf
  cases h.mailbox? id <;> simp

theorem mem_receiverIds_iff : id ∈ h.receiverIds ↔ (h.mailbox? id).isSome := by
  simp [receiverIds, mailbox?]

/-! Clients that go. -/

theorem isConnected_dropClients :
    (h.dropClients ids).isConnected id ↔ h.isConnected id ∧ id ∉ ids := by
  simp only [isConnected_iff, clientIds, dropClients, List.mem_map, List.mem_filter]
  constructor
  · rintro ⟨c, ⟨hc, kept⟩, rfl⟩
    exact ⟨⟨c, hc, rfl⟩, by simpa using kept⟩
  · rintro ⟨⟨c, hc, rfl⟩, kept⟩
    exact ⟨c, ⟨hc, by simpa using kept⟩, rfl⟩

theorem isSubscribed_dropClients :
    (h.dropClients ids).IsSubscribed id channel ↔ h.IsSubscribed id channel ∧ id ∉ ids := by
  simp only [IsSubscribed, dropClients, List.mem_filter]
  constructor
  · rintro ⟨c, ⟨hc, kept⟩, rfl, hChannel⟩
    exact ⟨⟨c, hc, rfl, hChannel⟩, by simpa using kept⟩
  · rintro ⟨⟨c, hc, rfl, hChannel⟩, kept⟩
    exact ⟨c, ⟨hc, by simpa using kept⟩, rfl, hChannel⟩

/-! Deliveries. -/

theorem mem_failed_iff : id ∈ (h.addressees wanted).filter (fun id => !h.hasRoom id) ↔
    id ∈ h.addressees wanted ∧ h.hasRoom id = false := by
  rw [List.mem_filter, Bool.not_eq_true']

/-- A delivery drops a client exactly if it is addressed and its queue has no room. -/
theorem isConnected_deliver : (h.deliver wanted message).2.isConnected id ↔
    h.isConnected id ∧ (id ∈ h.addressees wanted → h.hasRoom id) := by
  refine isConnected_dropClients.trans (and_congr Iff.rfl ?_)
  rw [← addressees, mem_failed_iff, not_and, Bool.not_eq_false]

theorem isSubscribed_deliver : (h.deliver wanted message).2.IsSubscribed id channel ↔
    h.IsSubscribed id channel ∧ (id ∈ h.addressees wanted → h.hasRoom id) := by
  refine isSubscribed_dropClients.trans (and_congr Iff.rfl ?_)
  rw [← addressees, mem_failed_iff, not_and, Bool.not_eq_false]

/-- A queue takes a message exactly if its client is addressed and there is room. -/
theorem queueOf_deliver_eq : (h.deliver wanted message).2.queueOf id =
    if id ∈ h.addressees wanted ∧ h.hasRoom id then h.queueOf id ++ [message]
    else h.queueOf id := by
  show (h.enqueue ((h.addressees wanted).filter h.hasRoom) message).queueOf id = _
  split
  · next reached =>
    exact queueOf_enqueue (hasRoom_iff.mp reached.2).1 (List.mem_filter.mpr reached)
  · next missed =>
    exact queueOf_enqueue_of_notMem fun reached => missed (List.mem_filter.mp reached)

/-- The number of queues that are longer in another hub. -/
def grownCount (h h' : Hub) : Nat :=
  h.receiverIds.countP fun id => (h.queueOf id).length < (h'.queueOf id).length

/-- A delivery counts the queues that took the message. -/
theorem fst_deliver (numbered : h.Numbered) (wanted : Client → Bool) (message : RealtimeMessage) :
    (h.deliver wanted message).1 = h.grownCount (h.deliver wanted message).2 := by
  have grown (id : Nat) :
      (h.queueOf id).length < ((h.deliver wanted message).2.queueOf id).length ↔
        id ∈ (h.addressees wanted).filter h.hasRoom := by
    rw [queueOf_deliver_eq, List.mem_filter]
    split
    · next reached => simpa using reached
    · next missed => simpa using missed
  rw [grownCount, List.countP_eq_length_filter]
  refine List.Perm.length_eq ((List.perm_ext_iff_of_nodup ?_ ?_).mpr fun id => ?_)
  · exact (nodup_addressees numbered).filter _
  · exact numbered.receivers_nodup.filter _
  · refine Iff.trans ?_ List.mem_filter.symm
    rw [decide_eq_true_iff, grown]
    refine ⟨fun reached => ⟨?_, reached⟩, And.right⟩
    exact mem_receiverIds_iff.mpr (hasRoom_iff.mp (List.mem_filter.mp reached).2).1

/-- A delivery to nobody changes nothing. -/
theorem deliver_of_addressees_eq_nil (none : h.addressees wanted = []) :
    (h.deliver wanted message).2 = h := by
  have noOne (c : Client) : (!([] : List Nat).contains c.id) = true := rfl
  show (h.enqueue ((h.addressees wanted).filter h.hasRoom) message).dropClients
    ((h.addressees wanted).filter fun id => !h.hasRoom id) = h
  simp only [none, List.filter_nil, enqueue, dropClients, noOne, List.filter_true]
  simp

/-! Subscriptions. -/

theorem isConnected_setChannels (f : List String → List String) :
    (h.setChannels other f).isConnected id ↔ h.isConnected id := by
  have keep (c : Client) :
      (if c.id = other then { c with channels := f c.channels } else c).id = c.id := by
    split <;> rfl
  simp [isConnected_iff, clientIds, setChannels, keep]

theorem isSubscribed_setChannels (f : List String → List String) :
    (h.setChannels other f).IsSubscribed id channel ↔
      ∃ c ∈ h.clients, c.id = id ∧ channel ∈ if id = other then f c.channels else c.channels := by
  simp only [IsSubscribed, setChannels, List.mem_map]
  constructor
  · rintro ⟨_, ⟨c, hc, rfl⟩, rfl, hChannel⟩
    refine ⟨c, hc, ?_⟩
    split at hChannel <;> next isOther => simp_all
  · rintro ⟨c, hc, rfl, hChannel⟩
    refine ⟨_, ⟨c, hc, rfl⟩, ?_⟩
    split <;> next isOther => simp_all

theorem isSubscribed_subscribe : (h.subscribe other channel).2.IsSubscribed id name ↔
    h.IsSubscribed id name ∨ h.isConnected id ∧ id = other ∧ name = channel := by
  have mem (channels : List String) :
      (name ∈ if channels.contains channel then channels else channels ++ [channel]) ↔
        name ∈ channels ∨ name = channel := by
    split
    · next there =>
      refine ⟨.inl, fun hName => hName.elim (·) fun same => ?_⟩
      exact same ▸ List.contains_iff_mem.mp there
    · rw [List.mem_append, List.mem_singleton]
  refine (isSubscribed_setChannels _).trans ?_
  rw [isConnected_iff, clientIds, List.mem_map, IsSubscribed]
  by_cases isOther : id = other
  · simp only [isOther, if_true, mem, true_and]
    constructor
    · rintro ⟨c, hc, hId, hName⟩
      exact hName.imp (⟨c, hc, hId, ·⟩) (⟨⟨c, hc, hId⟩, ·⟩)
    · rintro (⟨c, hc, hId, hName⟩ | ⟨⟨c, hc, hId⟩, hName⟩)
      · exact ⟨c, hc, hId, .inl hName⟩
      · exact ⟨c, hc, hId, .inr hName⟩
  · simp [isOther]

theorem isSubscribed_unsubscribe : (h.unsubscribe other channel).2.IsSubscribed id name ↔
    h.IsSubscribed id name ∧ ¬ (id = other ∧ name = channel) := by
  refine (isSubscribed_setChannels _).trans ?_
  rw [IsSubscribed]
  by_cases isOther : id = other
  · simp only [isOther, if_true, true_and, List.mem_filter, bne_iff_ne]
    constructor
    · rintro ⟨c, hc, hId, hName, ne⟩
      exact ⟨⟨c, hc, hId, hName⟩, ne⟩
    · rintro ⟨⟨c, hc, hId, hName⟩, ne⟩
      exact ⟨c, hc, hId, hName, ne⟩
  · simp [isOther]

theorem setChannels_of_not_isConnected (absent : ¬ h.isConnected id)
    (f : List String → List String) : h.setChannels id f = h := by
  have same : ∀ c ∈ h.clients,
      (if c.id = id then { c with channels := f c.channels } else c) = c := fun c hc =>
    if_neg fun isId => absent (isConnected_iff.mpr (List.mem_map.mpr ⟨c, hc, isId⟩))
  rw [setChannels, List.map_congr_left same, List.map_id'']
  exact fun _ => rfl

/-! New clients and their receivers. -/

variable {active : List Alert}

theorem isConnected_connect :
    (h.connect active).2.isConnected id ↔ h.isConnected id ∨ id = h.nextId := by
  rw [isConnected_iff, clientIds_connect, isConnected_iff, List.mem_append, List.mem_singleton]

theorem isSubscribed_connect :
    (h.connect active).2.IsSubscribed id channel ↔ h.IsSubscribed id channel := by
  simp [IsSubscribed, connect, or_and_right, exists_or]

theorem receiverIds_dropReceiver : id ∈ (h.dropReceiver other).2.receiverIds ↔
    id ∈ h.receiverIds ∧ id ≠ other := by
  simp only [receiverIds, dropReceiver, List.mem_map, List.mem_filter, bne_iff_ne]
  constructor
  · rintro ⟨m, ⟨hm, ne⟩, rfl⟩
    exact ⟨⟨m, hm, rfl⟩, ne⟩
  · rintro ⟨⟨m, hm, rfl⟩, ne⟩
    exact ⟨m, ⟨hm, ne⟩, rfl⟩

end Hub

end MetricAlerts
