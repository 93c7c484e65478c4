import MetricAlerts.Proofs.Dict
import MetricAlerts.Proofs.Store.Addressing
import MetricAlerts.Proofs.Store.Conservation
import MetricAlerts.Proofs.Store.Log
import MetricAlerts.Proofs.Store.View

/-! The copies of an alert that operations give away or keep. They are all made from the one that
was returned as new, and a later one is never behind an earlier one. `Traced` relates the trail of
all copies so far to the store; each edit keeps it. -/

namespace MetricAlerts

/-- How far an alert has got. -/
def AlertStatus.rank : AlertStatus → Nat
  | .firing => 0
  | .acknowledged => 1
  | .resolved => 2

namespace Alert

/-- What does not change about an alert. -/
def fixed (a : Alert) : Alert :=
  { a with
    status := .firing, resolvedAt := none, acknowledgedAt := none, resolutionReason := none
    annotations := .empty }

/-- One copy of an alert may come after another. -/
structure Becomes (a b : Alert) : Prop where
  fixed : b.fixed = a.fixed
  status : a.status.rank ≤ b.status.rank
  acknowledgedAt : ∀ time ∈ a.acknowledgedAt, b.acknowledgedAt = some time
  annotations : ∀ key, (a.annotations.get? key).isSome → (b.annotations.get? key).isSome

variable {a b c old new : Alert}

theorem Becomes.refl (a : Alert) : a.Becomes a :=
  ⟨rfl, Nat.le_refl _, fun _ h => h, fun _ h => h⟩

theorem Becomes.trans (h : a.Becomes b) (h' : b.Becomes c) : a.Becomes c :=
  ⟨h'.fixed.trans h.fixed, Nat.le_trans h.status h'.status,
    fun time set => h'.acknowledgedAt time (h.acknowledgedAt time set),
    fun key there => h'.annotations key (h.annotations key there)⟩

theorem Becomes.id (h : a.Becomes b) : b.id = a.id :=
  show b.fixed.id = a.fixed.id from congrArg Alert.id h.fixed

end Alert

namespace AlertStore

variable {old new : Alert}

theorem isSome_get?_insertAll {α : Type} {d : Dict α} {key : String}
    (h : (d.get? key).isSome) (entries : List (String × α)) :
    ((d.insertAll entries).get? key).isSome := by
  rw [Dict.get?_insertAll, Option.isSome_or, h, Bool.or_true]

theorem Revision.becomes (h : Revision old new) (isOpen : old.IsOpen) : old.Becomes new := by
  cases h with
  | acknowledged now =>
    unfold acknowledgedCopy
    split
    · exact .refl old
    · next other =>
      have firing : old.status = .firing := isOpen.status.resolve_right other
      refine ⟨rfl, ?_, fun time set => ?_, fun _ there => there⟩
      · rw [firing]
        exact Nat.zero_le _
      · exact absurd (isOpen.acknowledgedAt.mp (Option.isSome_of_mem set)) other
  | annotated fields =>
    exact ⟨rfl, Nat.le_refl _, fun _ set => set, fun key there => isSome_get?_insertAll there _⟩

theorem becomes_resolvedCopy (old : Alert) (reason : String) (now : Timestamp) :
    old.Becomes (resolvedCopy old reason now) := by
  refine ⟨rfl, ?_, fun _ set => set, fun _ there => there⟩
  show _ ≤ 2
  cases old.status <;> decide

/-- The active alert that an operation returns instead of a new one. -/
def existingBy (s : AlertStore) : Operation → Option Alert
  | .create rule source value metrics id now =>
    match (s.create rule source value metrics id now).1 with
    | .created _ => none
    | .existing alert => some alert
  | _ => none

/-- The alerts that an operation creates, resolves or changes. -/
def changedBy (s : AlertStore) (operation : Operation) : List Alert :=
  (s.createdBy operation).toList ++ (s.resolvedBy operation).toList ++
    (s.updatedBy operation).toList

/-- All copies that operations return, together with those that are active after each of them, in
the order of time. -/
def copiesIn (s : AlertStore) : List Operation → List Alert
  | [] => []
  | operation :: operations =>
    (s.existingBy operation).toList ++ s.changedBy operation ++
      (s.after operation).active.map Prod.snd ++ copiesIn (s.after operation) operations

/-- What holds of the copies so far, where `created` are the alerts as they were returned as new. -/
structure Traced (created trail : List Alert) (s : AlertStore) : Prop where
  inOrder : trail.Pairwise fun a b => b.id = a.id → a.Becomes b
  /-- What is active is not behind any copy. -/
  newest : ∀ a ∈ trail, ∀ e ∈ s.active, e.2.id = a.id → a.Becomes e.2
  origin : ∀ a ∈ trail, ∃ b ∈ created, b.Becomes a
  active : ∀ e ∈ s.active, e.2 ∈ trail
  history : ∀ a ∈ s.history, a ∈ trail

variable {s s' : AlertStore} {created trail shown : List Alert} {event : Event}
  {events : List Event} {operation : Operation}

theorem traced_empty (historyLimit anomalyLimit : Nat) :
    Traced [] [] (empty historyLimit anomalyLimit) := by
  refine ⟨.nil, ?_, ?_, ?_, ?_⟩ <;> simp [empty]

/-- Looking at active alerts adds nothing that is behind or ahead. -/
theorem Traced.look (h : Traced created trail s)
    (there : ∀ a ∈ shown, ∃ key, (key, a) ∈ s.active) : Traced created (trail ++ shown) s := by
  have among : ∀ a ∈ shown, a ∈ trail := by
    intro a mem
    obtain ⟨key, hActive⟩ := there a mem
    exact h.active _ hActive
  have all : ∀ a ∈ trail ++ shown, a ∈ trail := fun a mem =>
    (List.mem_append.mp mem).elim id (among a)
  refine ⟨?_, fun a mem => h.newest a (all a mem), fun a mem => h.origin a (all a mem),
    fun e mem => List.mem_append_left _ (h.active e mem),
    fun a mem => List.mem_append_left _ (h.history a mem)⟩
  have later : ∀ a ∈ trail, ∀ b ∈ shown, b.id = a.id → a.Becomes b := by
    intro a mem b hShown
    obtain ⟨key, hActive⟩ := there b hShown
    exact h.newest a mem (key, b) hActive
  refine List.pairwise_append.mpr ⟨h.inOrder, ?_, later⟩
  exact List.pairwise_of_forall_mem_list fun a mem b mem' => later a (among a mem) b mem'

/-- One more copy, which is the only thing that is new in the store. -/
theorem Traced.next {a : Alert} {created' : List Alert} (h : Traced created trail s)
    (sub : ∀ b ∈ created, b ∈ created') (later : ∀ b ∈ trail, a.id = b.id → b.Becomes a)
    (origin : ∃ b ∈ created', b.Becomes a)
    (active : ∀ e ∈ s'.active, e ∈ s.active ∧ e.2.id ≠ a.id ∨ e.2 = a)
    (history : ∀ b ∈ s'.history, b ∈ s.history ∨ b = a) :
    Traced created' (trail ++ [a]) s' := by
  refine ⟨?_, ?_, ?_, ?_, ?_⟩
  · exact List.pairwise_append.mpr ⟨h.inOrder, List.pairwise_singleton .., fun b mem _ last =>
      List.mem_singleton.mp last ▸ later b mem⟩
  · intro b mem e hActive same
    rcases active e hActive with ⟨old, other⟩ | new
    · rcases List.mem_append.mp mem with mem | mem
      · exact h.newest b mem e old same
      · obtain rfl := List.mem_singleton.mp mem
        exact absurd same other
    · rw [new] at same ⊢
      rcases List.mem_append.mp mem with mem | mem
      · exact later b mem same
      · rw [List.mem_singleton.mp mem]
        exact .refl a
  · intro b mem
    rcases List.mem_append.mp mem with mem | mem
    · obtain ⟨first, hFirst, becomes⟩ := h.origin b mem
      exact ⟨first, sub first hFirst, becomes⟩
    · exact List.mem_singleton.mp mem ▸ origin
  · intro e hActive
    rcases active e hActive with ⟨old, -⟩ | new
    · exact List.mem_append_left _ (h.active e old)
    · exact List.mem_append_right _ (List.mem_singleton.mpr new)
  · intro b hHistory
    rcases history b hHistory with old | new
    · exact List.mem_append_left _ (h.history b old)
    · exact List.mem_append_right _ (List.mem_singleton.mpr new)

/-- A copy that is made of an active alert. -/
theorem Traced.revise {before after : List (String × Alert)} {key : String} {old a : Alert}
    (h : Traced created trail s) (sound : s.Sound)
    (split : s.active = before ++ (key, old) :: after) (becomes : old.Becomes a)
    (active : ∀ e ∈ s'.active, e ∈ before ++ after ∨ e.2 = a)
    (history : ∀ b ∈ s'.history, b ∈ s.history ∨ b = a) : Traced created (trail ++ [a]) s' := by
  have there : (key, old) ∈ s.active := by simp [split]
  have hOld : old ∈ trail := h.active _ there
  obtain ⟨hBefore, hAfter⟩ := sound.id_ne_of_split split
  refine h.next (fun _ mem => mem) (fun b mem same => ?_) ?_ (fun e hActive => ?_) history
  · exact (h.newest b mem _ there (becomes.id.symm.trans same)).trans becomes
  · obtain ⟨first, hFirst, start⟩ := h.origin old hOld
    exact ⟨first, hFirst, start.trans becomes⟩
  · refine (active e hActive).imp_left fun mem => ?_
    rw [becomes.id]
    rcases List.mem_append.mp mem with mem | mem
    · exact ⟨by simp [split, mem], hBefore e mem⟩
    · exact ⟨by simp [split, mem], hAfter e mem⟩

theorem Traced.edit (h : Traced created trail s) (sound : s.Sound) (edit : s.Edit event s')
    (new : ∀ a ∈ event.created?, a.id ∉ created.map Alert.id) :
    Traced (created ++ event.created?.toList) (trail ++ event.alert?.toList) s' := by
  cases edit with
  | @opened key alert free unused name isNew =>
    refine h.next (fun b mem => List.mem_append_left _ mem) (fun b mem same => ?_)
      ⟨alert, by simp [Event.created?], .refl alert⟩ (fun e hActive => ?_)
      fun b hHistory => mem_history_remember hHistory
    · obtain ⟨first, hFirst, becomes⟩ := h.origin b mem
      have known : alert.id ∈ created.map Alert.id :=
        List.mem_map.mpr ⟨first, hFirst, becomes.id.symm.trans same.symm⟩
      exact absurd known (new alert rfl)
    · rcases List.mem_append.mp hActive with old | last
      · exact .inl ⟨old, unused e old⟩
      · exact .inr (congrArg Prod.snd (List.mem_singleton.mp last))
  | @changed before after key old copy split revision =>
    have isOpen : old.IsOpen := sound.isOpen (key, old) (by simp [split])
    have same : created ++ (Event.updated copy).created?.toList = created := List.append_nil _
    rw [same]
    refine h.revise sound split (revision.becomes isOpen) (fun e hActive => ?_) fun _ => .inl
    rcases List.mem_append.mp hActive with mem | mem
    · exact .inl (List.mem_append_left _ mem)
    · exact (List.mem_cons.mp mem).elim (fun same => .inr (congrArg Prod.snd same))
        fun mem => .inl (List.mem_append_right _ mem)
  | @closed before after key old split reason now =>
    have same : created ++ (Event.resolved (resolvedCopy old reason now)).created?.toList =
        created := List.append_nil _
    rw [same]
    exact h.revise sound split (becomes_resolvedCopy old reason now) (fun _ => .inl)
      fun b hHistory => mem_history_remember hHistory

theorem Traced.edits (h : Traced created trail s) (sound : s.Sound) (edits : Edits s events s')
    (distinct : ((created ++ events.filterMap Event.created?).map Alert.id).Nodup) :
    Traced (created ++ events.filterMap Event.created?)
      (trail ++ events.filterMap Event.alert?) s' := by
  induction edits generalizing created trail with
  | none => simpa using h
  | @next s middle s' event events edit edits ih =>
    have whole {β : Type} (f : Event → Option β) :
        (event :: events).filterMap f = (f event).toList ++ events.filterMap f := by
      rw [List.filterMap_cons]
      cases f event <;> rfl
    rw [whole, ← List.append_assoc] at distinct ⊢
    rw [whole, ← List.append_assoc]
    refine ih (h.edit sound edit fun a hNew => ?_) (sound.edit edit) distinct
    have first : (created.map Alert.id ++ event.created?.toList.map Alert.id).Nodup := by
      rw [List.map_append, List.map_append] at distinct
      exact (List.nodup_append.mp distinct).1
    intro old
    exact (List.nodup_append.mp first).2.2 a.id old a.id
      (List.mem_map_of_mem (Option.mem_toList.mpr hNew)) rfl

/-! What one operation does. -/

theorem filterMap_alert?_announcement (created resolved updated : Option Alert) :
    (announcement created resolved updated).filterMap Event.alert? =
      created.toList ++ resolved.toList ++ updated.toList := by
  cases created <;> cases resolved <;> cases updated <;> rfl

theorem mem_active_of_existingBy {a : Alert} (h : a ∈ s.existingBy operation) :
    ∃ key, (key, a) ∈ s.active := by
  cases operation with
  | create rule source value metrics id now =>
    simp only [existingBy] at h
    generalize hResult : s.create rule source value metrics id now = result at h
    obtain ⟨created | existing, s'⟩ := result
    · cases h
    · cases h
      exact ⟨rule.id, mem_of_create hResult⟩
  | _ => cases h

theorem Traced.after (h : Traced created trail s) (sound : s.Sound)
    (distinct : (created.map Alert.id).Nodup)
    (fresh : ∀ a ∈ s.createdBy operation, s.IsUnused a.id ∧ a.id ∉ created.map Alert.id)
    (kept : operation ≠ .clear) :
    Traced (created ++ (s.createdBy operation).toList)
      (trail ++ ((s.existingBy operation).toList ++ s.changedBy operation ++
        (s.after operation).active.map Prod.snd)) (s.after operation) := by
  have edits := edits_announced sound (fun a mem => (fresh a mem).1) kept
  have existing : ∀ a ∈ (s.existingBy operation).toList, ∃ key, (key, a) ∈ s.active :=
    fun a mem => mem_active_of_existingBy (Option.mem_toList.mp mem)
  have distinct' := nodup_createdBy distinct fun a mem => (fresh a mem).2
  rw [← List.map_append, ← filterMap_created?_announcement _ (s.resolvedBy operation)
    (s.updatedBy operation)] at distinct'
  have done := (h.look existing).edits sound edits distinct'
  rw [filterMap_created?_announcement, filterMap_alert?_announcement] at done
  rw [← List.append_assoc, ← List.append_assoc]
  refine done.look fun a mem => ?_
  obtain ⟨⟨key, a⟩, hActive, rfl⟩ := List.mem_map.mp mem
  exact ⟨key, hActive⟩

theorem Traced.run (h : Traced created trail s) (sound : s.Sound)
    (distinct : (created.map Alert.id).Nodup) {operations : List Operation}
    (fresh : IsNewRun (created.map Alert.id) s operations) (kept : .clear ∉ operations) :
    Traced (created ++ s.createdIn operations) (trail ++ s.copiesIn operations)
      (s.run operations) := by
  induction operations generalizing s created trail with
  | nil => simpa [createdIn, copiesIn, run] using h
  | cons operation operations ih =>
    rw [List.mem_cons, not_or] at kept
    have step := h.after sound distinct fresh.1 (Ne.symm kept.1)
    obtain ⟨-, sound'⟩ := balanced_after sound (fun a mem => (fresh.1 a mem).1) (Ne.symm kept.1)
    have distinct' := nodup_createdBy distinct fun a mem => (fresh.1 a mem).2
    rw [← List.map_append] at distinct'
    rw [createdIn, copiesIn, ← List.append_assoc, ← List.append_assoc]
    refine ih step sound' distinct' ?_ kept.2
    rw [List.map_append]
    exact fresh.2

def Operation.isForAnomaly : Operation → Bool
  | .createAnomaly .. => true
  | _ => false

/-- What one operation leaves alone. -/
structure ActsAlone (s : AlertStore) (operation : Operation) : Prop where
  /-- An alert that it does not return as created, resolved or changed stays as it is. -/
  others : ∀ e, e.2.id ∉ (s.changedBy operation).map Alert.id →
    (e ∈ s.active ↔ e ∈ (s.after operation).active)
  /-- Only a new anomaly alert may have another one resolved. -/
  one : (s.changedBy operation).length ≤ 1 ∨ operation.isForAnomaly ∧
    ∃ new ∈ s.createdBy operation, ∃ old ∈ s.resolvedBy operation,
      s.changedBy operation = [new, old]
  idle : s.changedBy operation = [] → s.after operation = s
  history : ∃ n, (s.after operation).history = (s.history ++ s.copies operation).drop n

theorem Edit.others (edit : s.Edit event s') {e : String × Alert}
    (other : ∀ a ∈ event.alert?, e.2.id ≠ a.id) : e ∈ s.active ↔ e ∈ s'.active := by
  cases edit with
  | @opened key alert free unused name isNew =>
    have apart : e ≠ (key, alert) := by
      rintro rfl
      exact other alert rfl rfl
    show _ ↔ e ∈ s.active ++ [(key, alert)]
    simp [apart]
  | @changed before after key old copy split revision =>
    have apart : e ≠ (key, copy) := by
      rintro rfl
      exact other copy rfl rfl
    have apart' : e ≠ (key, old) := by
      rintro rfl
      exact other copy rfl revision.id.symm
    simp [split, apart, apart']
  | @closed before after key old split reason now =>
    have apart : e ≠ (key, old) := by
      rintro rfl
      exact other _ rfl rfl
    show _ ↔ e ∈ before ++ after
    simp [split, apart]

theorem Edits.others (edits : Edits s events s') {e : String × Alert}
    (other : e.2.id ∉ (events.filterMap Event.alert?).map Alert.id) :
    e ∈ s.active ↔ e ∈ s'.active := by
  induction edits with
  | none => exact Iff.rfl
  | @next s middle s' event events edit edits ih =>
    have step : e ∈ s.active ↔ e ∈ middle.active := by
      refine edit.others fun a hAlert same => other ?_
      exact List.mem_map.mpr ⟨a, List.mem_filterMap.mpr ⟨event, List.mem_cons_self, hAlert⟩,
        same.symm⟩
    refine step.trans (ih fun mem => other ?_)
    rw [List.filterMap_cons]
    split
    · exact mem
    · exact List.mem_cons_of_mem _ mem

theorem Edits.eq_of_nil (edits : Edits s [] s') : s' = s := by
  cases edits
  rfl

theorem announcement_eq_nil {created resolved updated : Option Alert}
    (h : created.toList ++ resolved.toList ++ updated.toList = []) :
    announcement created resolved updated = [] := by
  cases created <;> cases resolved <;> cases updated <;> first | rfl | cases h

theorem length_changedBy (s : AlertStore) (operation : Operation) :
    (s.changedBy operation).length ≤ 1 ∨ operation.isForAnomaly ∧
      ∃ new ∈ s.createdBy operation, ∃ old ∈ s.resolvedBy operation,
        s.changedBy operation = [new, old] := by
  cases operation with
  | createAnomaly rule source anomaly metrics id now later =>
    cases hResolved : s.resolvedBy (.createAnomaly rule source anomaly metrics id now later) with
    | none =>
      rw [changedBy, hResolved]
      exact .inl (Nat.le_refl 1)
    | some old =>
      rw [changedBy, hResolved]
      exact .inr ⟨rfl, _, rfl, old, rfl, rfl⟩
  | create => exact .inl (by simp [changedBy, resolvedBy, updatedBy])
  | resolve | resolveRule => exact .inl (by simp [changedBy, createdBy, updatedBy])
  | _ => exact .inl (by simp [changedBy, createdBy, resolvedBy])

theorem actsAlone (sound : s.Sound) (unused : ∀ a ∈ s.createdBy operation, s.IsUnused a.id)
    (kept : operation ≠ .clear) : s.ActsAlone operation := by
  have edits := edits_announced sound unused kept
  refine ⟨fun e other => edits.others ?_, length_changedBy s operation, fun none => ?_, ?_⟩
  · rw [filterMap_alert?_announcement]
    exact other
  · rw [announcement_eq_nil none] at edits
    exact edits.eq_of_nil
  · have complete : s.Ends s.history := by
      have fits : s.history.length - s.historyLimit = 0 :=
        Nat.sub_eq_zero_of_le sound.length_history
      rw [Ends, lastEntries, fits, List.drop_zero]
    exact ⟨_, (s.records_after kept).ends s.history complete⟩

theorem mem_of_get? {name : String} {a : Alert} (h : s.get? name = some a) :
    ∃ key, (key, a) ∈ s.active := by
  obtain ⟨key, -, found⟩ := Option.bind_eq_some_iff.mp h
  exact ⟨key, mem_of_lookup? found⟩

/-- The operations before any one of a new run are a new run themselves, and the store is sound
when it comes. -/
theorem sound_before (sound : s.Sound) {past : List String} {before after : List Operation}
    (fresh : IsNewRun past s (before ++ operation :: after))
    (kept : .clear ∉ before ++ operation :: after) :
    (s.run before).Sound ∧ (∀ a ∈ (s.run before).createdBy operation,
      (s.run before).IsUnused a.id) ∧ operation ≠ .clear := by
  induction before generalizing s past with
  | nil => exact ⟨sound, fun a mem => (fresh.1 a mem).1, fun clears => kept (by simp [clears])⟩
  | cons first before ih =>
    rw [List.cons_append, List.mem_cons, not_or] at kept
    obtain ⟨-, sound'⟩ := balanced_after sound (fun a mem => (fresh.1 a mem).1) (Ne.symm kept.1)
    exact ih sound' fresh.2 kept.2

/-- Every copy of an alert that operations return or keep is what the alert has become since it was
created, and what it becomes later. It changes in nothing but its annotations, of which none goes
away, and in how far it has got, which is never taken back. Each operation leaves all others alone,
and those that return nothing or an existing alert leave everything as it is. -/
theorem becomes_copiesIn (historyLimit anomalyLimit : Nat) {operations : List Operation}
    (fresh : IsNewRun [] (empty historyLimit anomalyLimit) operations)
    (kept : .clear ∉ operations) :
    let start := empty historyLimit anomalyLimit
    let s := start.run operations
    let copies := start.copiesIn operations
    (∀ a ∈ copies, ∃ b ∈ start.createdIn operations, b.id = a.id) ∧
      (∀ a ∈ start.createdIn operations, ∀ b ∈ copies, b.id = a.id → a.Becomes b) ∧
      (∀ a, a ∈ s.history ∨ a ∈ s.activeAlerts ∨ (∃ name, s.get? name = some a) → a ∈ copies) ∧
      copies.Pairwise (fun a b => b.id = a.id → a.Becomes b) ∧
      ∀ before operation after, operations = before ++ operation :: after →
        (start.run before).ActsAlone operation := by
  intro start s copies
  have sound : start.Sound := sound_empty ..
  have traced : Traced (start.createdIn operations) copies s :=
    (traced_empty historyLimit anomalyLimit).run sound .nil fresh kept
  have distinct : ((start.createdIn operations).map Alert.id).Nodup :=
    nodup_createdIn List.nodup_nil fresh
  refine ⟨fun a mem => ?_, fun a hCreated b mem same => ?_, fun a seen => ?_, traced.inOrder, ?_⟩
  · obtain ⟨b, hCreated, becomes⟩ := traced.origin a mem
    exact ⟨b, hCreated, becomes.id.symm⟩
  · obtain ⟨first, hFirst, becomes⟩ := traced.origin b mem
    have eq : first = a :=
      List.inj_on_of_nodup_map distinct hFirst hCreated (becomes.id.symm.trans same)
    exact eq ▸ becomes
  · rcases seen with old | active | ⟨name, found⟩
    · exact traced.history a old
    · obtain ⟨e, hActive, rfl⟩ := List.mem_map.mp ((List.mergeSort_perm ..).subset active)
      exact traced.active e hActive
    · obtain ⟨key, hActive⟩ := mem_of_get? found
      exact traced.active _ hActive
  · rintro before operation after rfl
    obtain ⟨sound', unused, kept'⟩ := sound_before sound fresh kept
    exact actsAlone sound' unused kept'

/-- The alert of the rule is seen firing, then acknowledged and at last resolved. -/
theorem becomes_copiesIn_diskOperations :
    let copies := (empty 2 1).copiesIn diskOperations
    IsNewRun [] (empty 2 1) diskOperations ∧ .clear ∉ diskOperations ∧
      (copies.filter fun a => a.id == "third").map Alert.status =
        [.firing, .firing, .acknowledged, .acknowledged, .acknowledged, .resolved] ∧
      copies.Pairwise fun a b => b.id = a.id → a.Becomes b := by
  have fresh : IsNewRun [] (empty 2 1) diskOperations := by decide
  have kept : .clear ∉ diskOperations := by simp [diskOperations]
  exact ⟨fresh, kept, by decide, (becomes_copiesIn 2 1 fresh kept).2.2.2.1⟩

end AlertStore

end MetricAlerts
