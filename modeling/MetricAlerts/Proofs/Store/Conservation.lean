import MetricAlerts.Proofs.Store.Run

/-! No alert gets lost. As long as nothing is cleared, an alert that operations have returned as new
either is active or has been returned as resolved, and that only once. -/

namespace MetricAlerts

namespace Event

/-- The alert that is announced as new. -/
def created? : Event → Option Alert
  | .created alert => some alert
  | _ => none

/-- The alert that is announced as resolved. -/
def resolved? : Event → Option Alert
  | .resolved alert => some alert
  | _ => none

end Event

namespace AlertStore

/-- The alerts that operations return as new. -/
def createdIn (s : AlertStore) : List Operation → List Alert
  | [] => []
  | operation :: operations =>
    (s.createdBy operation).toList ++ createdIn (s.after operation) operations

/-- The alerts that operations return as resolved. -/
def resolvedIn (s : AlertStore) : List Operation → List Alert
  | [] => []
  | operation :: operations =>
    (s.resolvedBy operation).toList ++ resolvedIn (s.after operation) operations

/-- Every new alert gets a new id: nothing is active under it, no active alert has it, and no alert
before had it. -/
def IsNewRun (past : List String) (s : AlertStore) : List Operation → Prop
  | [] => True
  | operation :: operations =>
    (∀ a ∈ s.createdBy operation, s.IsUnused a.id ∧ a.id ∉ past) ∧
      IsNewRun (past ++ (s.createdBy operation).toList.map Alert.id) (s.after operation) operations

instance decidableIsNewRun : (past : List String) → (s : AlertStore) →
    (operations : List Operation) → Decidable (IsNewRun past s operations)
  | _, _, [] => inferInstanceAs (Decidable True)
  | past, s, operation :: operations =>
    have := decidableIsNewRun (past ++ (s.createdBy operation).toList.map Alert.id)
      (s.after operation) operations
    inferInstanceAs (Decidable (_ ∧ _))

/-- By their ids, the alerts that are active afterwards or have been resolved are those that were
active before or have been created. -/
def Balanced (s : AlertStore) (created resolved : List Alert) (s' : AlertStore) : Prop :=
  (s'.ids ++ resolved.map Alert.id).Perm (s.ids ++ created.map Alert.id)

variable {s s' middle : AlertStore} {event : Event} {events : List Event}
  {created created' resolved resolved' : List Alert}

theorem Balanced.refl (s : AlertStore) : s.Balanced [] [] s := List.Perm.refl _

theorem Balanced.trans (h : s.Balanced created resolved middle)
    (h' : middle.Balanced created' resolved' s') :
    s.Balanced (created ++ created') (resolved ++ resolved') s' := by
  unfold Balanced at h h' ⊢
  rw [List.perm_iff_count] at h h' ⊢
  intro id
  have hCount := h id
  have hCount' := h' id
  simp only [List.map_append, List.count_append] at hCount hCount' ⊢
  omega

theorem Edit.balanced (edit : s.Edit event s') :
    s.Balanced event.created?.toList event.resolved?.toList s' := by
  cases edit with
  | @opened key alert free unused name isNew =>
    show ((s.opened key alert).ids ++ []).Perm (s.ids ++ [alert.id])
    rw [ids_opened, List.append_nil]
  | @changed before after key old new split revision =>
    show (ids _ ++ []).Perm (s.ids ++ [])
    rw [ids_changed split revision.id]
  | @closed before after key old split reason now =>
    show ((before ++ after).map _ ++ [old.id]).Perm (s.ids ++ [])
    rw [ids, split, List.append_nil, List.map_append, List.map_append, List.append_assoc]
    exact List.Perm.append_left _ (List.perm_append_singleton _ _)

theorem Edits.balanced (edits : Edits s events s') :
    s.Balanced (events.filterMap Event.created?) (events.filterMap Event.resolved?) s' := by
  induction edits with
  | none s => exact .refl s
  | @next s middle s' event events edit edits ih =>
    have whole := edit.balanced.trans ih
    cases event <;> exact whole

theorem filterMap_created?_announcement (created resolved updated : Option Alert) :
    (announcement created resolved updated).filterMap Event.created? = created.toList := by
  cases created <;> cases resolved <;> cases updated <;> rfl

theorem filterMap_resolved?_announcement (created resolved updated : Option Alert) :
    (announcement created resolved updated).filterMap Event.resolved? = resolved.toList := by
  cases created <;> cases resolved <;> cases updated <;> rfl

theorem balanced_after (h : s.Sound) {operation : Operation}
    (unused : ∀ a ∈ s.createdBy operation, s.IsUnused a.id) (kept : operation ≠ .clear) :
    s.Balanced (s.createdBy operation).toList (s.resolvedBy operation).toList
      (s.after operation) ∧ (s.after operation).Sound := by
  obtain rfl | ⟨updated, edits⟩ := edits_after h unused
  · exact absurd rfl kept
  · refine ⟨?_, h.edits edits⟩
    have balanced := edits.balanced
    rwa [filterMap_created?_announcement, filterMap_resolved?_announcement] at balanced

theorem balanced_run (h : s.Sound) {past : List String} {operations : List Operation}
    (fresh : IsNewRun past s operations) (kept : .clear ∉ operations) :
    s.Balanced (s.createdIn operations) (s.resolvedIn operations) (s.run operations) := by
  induction operations generalizing s past with
  | nil => exact .refl s
  | cons operation operations ih =>
    rw [List.mem_cons, not_or] at kept
    obtain ⟨balanced, sound⟩ :=
      balanced_after h (fun a ha => (fresh.1 a ha).1) (Ne.symm kept.1)
    exact balanced.trans (ih sound fresh.2 kept.2)

theorem nodup_createdBy {past : List String} (distinct : past.Nodup) {operation : Operation}
    (new : ∀ a ∈ s.createdBy operation, a.id ∉ past) :
    (past ++ (s.createdBy operation).toList.map Alert.id).Nodup := by
  cases hCreated : s.createdBy operation with
  | none => simpa using distinct
  | some a =>
    exact List.nodup_append.mpr ⟨distinct, by simp, by
      rintro id hId id' hId' rfl
      exact new a hCreated (List.mem_singleton.mp hId' ▸ hId)⟩

/-- New ids are distinct, and none of them is among those of the past. -/
theorem nodup_createdIn {past : List String} (distinct : past.Nodup) {operations : List Operation}
    (fresh : IsNewRun past s operations) :
    (past ++ (s.createdIn operations).map Alert.id).Nodup := by
  induction operations generalizing s past with
  | nil => simpa [createdIn] using distinct
  | cons operation operations ih =>
    rw [createdIn, List.map_append, ← List.append_assoc]
    exact ih (nodup_createdBy distinct fun a mem => (fresh.1 a mem).2) fresh.2

theorem ids_activeAlerts (s : AlertStore) : (s.activeAlerts.map Alert.id).Perm s.ids := by
  have sorted : s.activeAlerts.Perm (s.active.map Prod.snd) := List.mergeSort_perm ..
  have hIds := sorted.map Alert.id
  rwa [List.map_map] at hIds

/-- Where two parts make up distinct ids, the one has what the other has not. -/
theorem mem_part_iff {part other whole : List String} (perm : (part ++ other).Perm whole)
    (distinct : whole.Nodup) (id : String) : id ∈ part ↔ id ∈ whole ∧ id ∉ other := by
  obtain ⟨-, -, apart⟩ := List.nodup_append.mp (perm.nodup_iff.mpr distinct)
  rw [← perm.mem_iff, List.mem_append]
  constructor
  · intro mem
    exact ⟨.inl mem, fun mem' => apart id mem id mem' rfl⟩
  · rintro ⟨mem | mem, notMem⟩
    · exact mem
    · exact absurd mem notMem

/-- Unless something is cleared, no alert is resolved that was not created, none is resolved twice,
and the active alerts are those that have been created and not resolved, each once. -/
theorem ids_activeAlerts_run (historyLimit anomalyLimit : Nat) {operations : List Operation}
    (fresh : IsNewRun [] (empty historyLimit anomalyLimit) operations)
    (kept : .clear ∉ operations) :
    let start := empty historyLimit anomalyLimit
    let created := (start.createdIn operations).map Alert.id
    let resolved := (start.resolvedIn operations).map Alert.id
    let active := (start.run operations).activeAlerts.map Alert.id
    created.Nodup ∧ resolved.Nodup ∧ (∀ id ∈ resolved, id ∈ created) ∧ active.Nodup ∧
      (∀ id, id ∈ active ↔ id ∈ created ∧ id ∉ resolved) ∧
      (start.run operations).activeCount = created.length - resolved.length ∧
      resolved.length ≤ created.length := by
  intro start created resolved active
  have balanced : ((start.run operations).ids ++ resolved).Perm ([] ++ created) :=
    balanced_run (sound_empty _ _) fresh kept
  have hActive : active.Perm (start.run operations).ids := ids_activeAlerts _
  have whole : (active ++ resolved).Perm created := (hActive.append_right resolved).trans balanced
  have hCreated : created.Nodup := nodup_createdIn List.nodup_nil fresh
  obtain ⟨hActiveNodup, hResolvedNodup, -⟩ :=
    List.nodup_append.mp (whole.nodup_iff.mpr hCreated)
  have hLength : active.length + resolved.length = created.length := by
    rw [← List.length_append]
    exact whole.length_eq
  have hCount : (start.run operations).activeCount = active.length := by
    rw [hActive.length_eq, ids, List.length_map]
    rfl
  refine ⟨hCreated, hResolvedNodup, ?_, hActiveNodup, mem_part_iff whole hCreated, by omega,
    by omega⟩
  intro id hId
  exact whole.subset (List.mem_append_right _ hId)

/-- The first anomaly alert has made way for the second, and the alert of the rule is resolved. -/
theorem ids_activeAlerts_run_diskOperations :
    IsNewRun [] (empty 2 1) diskOperations ∧ .clear ∉ diskOperations ∧
      ((empty 2 1).createdIn diskOperations).map Alert.id = ["first", "second", "third"] ∧
      ((empty 2 1).resolvedIn diskOperations).map Alert.id = ["first", "third"] ∧
      ((empty 2 1).run diskOperations).activeCount = 1 ∧
      "second" ∈ ((empty 2 1).run diskOperations).activeAlerts.map Alert.id := by
  have fresh : IsNewRun [] (empty 2 1) diskOperations := by decide
  have kept : .clear ∉ diskOperations := by simp [diskOperations]
  have created : ((empty 2 1).createdIn diskOperations).map Alert.id =
      ["first", "second", "third"] := by decide
  have resolved : ((empty 2 1).resolvedIn diskOperations).map Alert.id = ["first", "third"] := by
    decide
  obtain ⟨-, -, -, -, active, count, -⟩ := ids_activeAlerts_run 2 1 fresh kept
  rw [created, resolved] at active count
  exact ⟨fresh, kept, created, resolved, count, (active "second").mpr (by decide)⟩

end AlertStore

end MetricAlerts
