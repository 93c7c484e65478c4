import MetricAlerts.Proofs.Store.View
import MetricAlerts.Realtime.Hub

/-! What a client knows from the messages it is sent: copies of alerts under the ids they carry. The
message for an event changes that as the event changes what is known of the alerts. -/

namespace MetricAlerts

variable {α β : Type} {key : String} {value : α} {entries : List (String × α)}

theorem lookup?_foldl_insertEntry (h : key ∉ keys entries) (sorted : List (String × α)) :
    lookup? key (entries.foldl (fun sorted entry => insertEntry entry.1 entry.2 sorted) sorted) =
      lookup? key sorted := by
  induction entries generalizing sorted with
  | nil => rfl
  | cons entry entries ih =>
    simp only [keys_cons, List.mem_cons, not_or] at h
    rw [List.foldl_cons, ih h.2, Dict.lookup?_insertEntry, if_neg (Ne.symm h.1)]

/-- A key that does not repeat keeps its value. -/
theorem lookup?_sortEntries_cons (h : key ∉ keys entries) :
    lookup? key (sortEntries ((key, value) :: entries)) = some value := by
  rw [sortEntries, List.foldl_cons, lookup?_foldl_insertEntry h, Dict.lookup?_insertEntry,
    if_pos rfl]

theorem notMem_keys_optional {name : String} (h : key ≠ name) (value : Option Json) :
    key ∉ keys (Json.optional name value) := by
  cases value <;> simp [Json.optional, h]

/-- The alert id that a copy of an alert carries. -/
def copyId? (copy : Json) : Option String := (copy.get? "id").bind Json.string?

theorem copyId?_broadcastCopy (maxBytes : Nat) (a : Alert) :
    copyId? (a.broadcastCopy maxBytes) = some a.id := by
  have hLookup : (a.broadcastCopy maxBytes).get? "id" = some (.string a.id) := by
    rw [Alert.broadcastCopy, Alert.toJson, Json.ofMembers, Json.insert_object, Json.get?,
      Dict.lookup?_insertEntry, if_neg (by decide)]
    refine lookup?_sortEntries_cons ?_
    simp [notMem_keys_optional]
  rw [copyId?, hLookup]
  rfl

namespace View

/-- The view with other values for the same ids. -/
def map (f : α → β) (v : View α) : View β := fun id => (v id).map f

theorem map_set (f : α → β) (v : View α) (id : String) (known : Option α) :
    (v.set id known).map f = (v.map f).set id (known.map f) := by
  funext i
  simp only [map, set]
  split <;> rfl

/-- The view with a copy under the id that it carries. -/
def learn (v : View Json) (copy : Json) : View Json :=
  match copyId? copy with
  | some id => v.set id (some copy)
  | none => v

/-- The view without what is known under the id that a copy carries. -/
def forget (v : View Json) (copy : Json) : View Json :=
  match copyId? copy with
  | some id => v.set id none
  | none => v

end View

namespace RealtimeMessage

/-- What a client knows after a message. -/
def applyTo (v : View Json) : RealtimeMessage → View Json
  | .activeAlerts copies => copies.foldl View.learn .empty
  | .alert copy => v.learn copy
  | .alertUpdate copy => v.learn copy
  | .resolve copy => v.forget copy
  | _ => v

end RealtimeMessage

/-- What a client knows from all messages that it is sent. -/
def clientView (messages : List RealtimeMessage) : View Json :=
  messages.foldl RealtimeMessage.applyTo .empty

theorem clientView_append (messages : List RealtimeMessage) (message : RealtimeMessage) :
    clientView (messages ++ [message]) = message.applyTo (clientView messages) := by
  simp [clientView]

namespace Hub

variable (h : Hub)

theorem learn_copyOf (v : View Json) (a : Alert) :
    v.learn (h.copyOf a) = v.set a.id (some (h.copyOf a)) := by
  rw [View.learn, copyOf, copyId?_broadcastCopy]

theorem forget_copyOf (v : View Json) (a : Alert) : v.forget (h.copyOf a) = v.set a.id none := by
  rw [View.forget, copyOf, copyId?_broadcastCopy]

/-- The message for an event tells what the event tells. -/
theorem applyTo_messageOf (v : View Alert) (event : Event) :
    (h.messageOf event).applyTo (v.map h.copyOf) = (event.applyTo v).map h.copyOf := by
  cases event with
  | created a =>
    show (v.map h.copyOf).learn (h.copyOf a) = (v.set a.id (some a)).map h.copyOf
    rw [learn_copyOf, View.map_set, Option.map_some]
  | updated a =>
    show (v.map h.copyOf).learn (h.copyOf a) = (v.set a.id (some a)).map h.copyOf
    rw [learn_copyOf, View.map_set, Option.map_some]
  | resolved a =>
    show (v.map h.copyOf).forget (h.copyOf a) = (v.set a.id none).map h.copyOf
    rw [forget_copyOf, View.map_set, Option.map_none]
  | patternsDetected analysis => rfl

theorem learnAll_of_forall_ne {alerts : List Alert} {id : String} (v : View Json)
    (other : ∀ a ∈ alerts, a.id ≠ id) : (alerts.map h.copyOf).foldl View.learn v id = v id := by
  induction alerts generalizing v with
  | nil => rfl
  | cons a alerts ih =>
    rw [List.map_cons, List.foldl_cons, ih _ fun b hb => other b (List.mem_cons_of_mem _ hb),
      learn_copyOf]
    exact View.set_of_ne _ (Ne.symm (other a List.mem_cons_self)) _

theorem learnAll_of_mem {alerts : List Alert} (distinct : (alerts.map Alert.id).Nodup) {a : Alert}
    (mem : a ∈ alerts) (v : View Json) :
    (alerts.map h.copyOf).foldl View.learn v a.id = some (h.copyOf a) := by
  induction alerts generalizing v with
  | nil => cases mem
  | cons b alerts ih =>
    rw [List.map_cons, List.nodup_cons] at distinct
    rw [List.map_cons, List.foldl_cons]
    rcases List.mem_cons.mp mem with rfl | mem
    · have other : ∀ b ∈ alerts, b.id ≠ a.id := fun b hb same =>
        distinct.1 (same ▸ List.mem_map_of_mem hb)
      rw [learnAll_of_forall_ne h _ other, learn_copyOf, View.set_self]
    · exact ih distinct.2 mem _

/-- The messages that greet a client tell what is active. -/
theorem clientView_greeting {s : AlertStore} (sound : s.Sound) :
    clientView [.connected, .activeAlerts (s.activeAlerts.map h.copyOf)] = s.view.map h.copyOf := by
  have hPerm : s.activeAlerts.Perm (s.active.map Prod.snd) := List.mergeSort_perm ..
  have distinct : (s.activeAlerts.map Alert.id).Nodup := by
    rw [(hPerm.map _).nodup_iff, List.map_map]
    exact sound.ids_nodup
  funext id
  show (s.activeAlerts.map h.copyOf).foldl View.learn .empty id = (s.view id).map h.copyOf
  cases hView : s.view id with
  | some a =>
    obtain ⟨key, hMem, rfl⟩ := (AlertStore.view_eq_some_iff sound.ids_nodup).mp hView
    exact h.learnAll_of_mem distinct (hPerm.mem_iff.mpr (List.mem_map_of_mem hMem)) _
  | none =>
    refine h.learnAll_of_forall_ne _ fun a ha same => ?_
    obtain ⟨⟨key, b⟩, hMem, rfl⟩ := List.mem_map.mp (hPerm.mem_iff.mp ha)
    rw [(AlertStore.view_eq_some_iff sound.ids_nodup).mpr ⟨key, hMem, same⟩] at hView
    cases hView

end Hub

end MetricAlerts
