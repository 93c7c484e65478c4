import Mathlib.Data.List.Nodup
import MetricAlerts.Definitions.Basic

/-! The ids in a list of definitions: they are distinct in a list that has been accepted, and every
change of the list keeps them so. -/

namespace MetricAlerts

namespace Registry

variable {α : Type} [Identified α] {items changed : List α} {item : α} {id path : String}

theorem mem_ids : id ∈ ids items ↔ ∃ item ∈ items, Identified.id item = id := List.mem_map

theorem notMem_seen_of_repeated? {seen : List String} (h : repeated? items seen = none) :
    (ids items).Nodup ∧ ∀ id ∈ ids items, id ∉ seen := by
  induction items generalizing seen with
  | nil => simp [ids]
  | cons item items ih =>
    rw [repeated?] at h
    split at h
    · cases h
    · next new =>
      rw [List.contains_iff_mem] at new
      obtain ⟨distinct, unseen⟩ := ih h
      rw [ids, List.map_cons, ← ids, List.nodup_cons]
      refine ⟨⟨fun again => unseen _ again List.mem_cons_self, distinct⟩, fun id hId => ?_⟩
      rcases List.mem_cons.mp hId with rfl | hId
      · exact new
      · exact fun old => unseen id hId (List.mem_cons_of_mem _ old)

theorem nodup_of_ofList (h : ofList items = .ok changed) : (ids changed).Nodup := by
  unfold ofList at h
  split at h
  · cases h
  · next hRepeated =>
    cases h
    exact (notMem_seen_of_repeated? hRepeated).1

theorem eq_of_ofList (h : ofList items = .ok changed) : items = changed := by
  unfold ofList at h
  split at h
  · cases h
  · exact Except.ok.inj h

theorem eq_of_add (h : add items item = .ok changed) :
    changed = items ++ [item] ∧ Identified.id item ∉ ids items := by
  unfold add at h
  split at h
  · cases h
  · next new =>
    rw [List.contains_iff_mem] at new
    cases h
    exact ⟨rfl, new⟩

theorem ids_of_add (h : add items item = .ok changed) :
    ids changed = ids items ++ [Identified.id item] := by
  rw [(eq_of_add h).1, ids, List.map_append]
  rfl

theorem nodup_of_add (distinct : (ids items).Nodup) (h : add items item = .ok changed) :
    (ids changed).Nodup := by
  obtain ⟨rfl, new⟩ := eq_of_add h
  rw [ids, List.map_append]
  exact List.nodup_append_comm.mpr (List.nodup_cons.mpr ⟨new, distinct⟩)

@[simp] theorem ids_put (item : α) (items : List α) : ids (put item items) = ids items := by
  induction items with
  | nil => rfl
  | cons old items ih =>
    rw [put]
    split
    · next same => simp [ids, same]
    · simpa [ids] using ih

theorem ids_of_update (h : update items path item = .ok changed) : ids changed = ids items := by
  unfold update at h
  split at h
  · cases h
  · split at h
    · cases h
      exact ids_put item items
    · cases h

theorem sublist_of_delete (h : delete items id = .ok (changed, item)) :
    (ids changed).Sublist (ids items) := by
  unfold delete at h
  split at h
  · cases h
    exact List.eraseP_sublist.map _
  · cases h

theorem id_of_delete (h : delete items id = .ok (changed, item)) :
    item ∈ items ∧ Identified.id item = id := by
  unfold delete at h
  split at h
  · next hFound =>
    cases h
    exact ⟨List.mem_of_find?_eq_some hFound, by simpa using List.find?_some hFound⟩
  · cases h

theorem exists_delete (h : id ∈ ids items) :
    ∃ changed item, delete items id = .ok (changed, item) := by
  obtain ⟨item, mem, same⟩ := mem_ids.mp h
  obtain ⟨found, hFound⟩ : ∃ found, get? items id = some found :=
    Option.isSome_iff_exists.mp (List.find?_isSome.mpr ⟨item, mem, by simpa using same⟩)
  exact ⟨_, found, by rw [delete, hFound]⟩

/-- An id that occurs once is gone with its definition. -/
theorem notMem_ids_eraseP (distinct : (ids items).Nodup) (id : String) :
    id ∉ ids (items.eraseP fun item => Identified.id item == id) := by
  induction items with
  | nil => exact List.not_mem_nil
  | cons item items ih =>
    obtain ⟨other, distinct⟩ := List.nodup_cons.mp distinct
    by_cases same : Identified.id item = id
    · rw [List.eraseP_cons_of_pos (by simpa using same)]
      exact same ▸ other
    · rw [List.eraseP_cons_of_neg (by simpa using same), ids, List.map_cons, List.mem_cons, not_or]
      exact ⟨Ne.symm same, ih distinct⟩

theorem notMem_of_delete (distinct : (ids items).Nodup)
    (h : delete items id = .ok (changed, item)) : id ∉ ids changed := by
  unfold delete at h
  split at h
  · cases h
    exact notMem_ids_eraseP distinct id
  · cases h

end Registry

theorem Definitions.eq_of_ofLists {rules : List Rule} {channels : List Channel}
    {definitions : Definitions} (h : ofLists rules channels = .ok definitions) :
    Registry.ofList rules = .ok definitions.rules ∧
      Registry.ofList channels = .ok definitions.channels := by
  unfold ofLists at h
  cases hRules : Registry.ofList rules with
  | error => rw [hRules] at h; cases h
  | ok accepted =>
    cases hChannels : Registry.ofList channels with
    | error => rw [hRules, hChannels] at h; cases h
    | ok others =>
      rw [hRules, hChannels] at h
      cases h
      exact ⟨rfl, rfl⟩

theorem Definitions.nodup_of_ofLists {rules : List Rule} {channels : List Channel}
    {definitions : Definitions} (h : ofLists rules channels = .ok definitions) :
    (Registry.ids definitions.rules).Nodup :=
  Registry.nodup_of_ofList (eq_of_ofLists h).1

theorem Definitions.nodup_channels_of_ofLists {rules : List Rule} {channels : List Channel}
    {definitions : Definitions} (h : ofLists rules channels = .ok definitions) :
    (Registry.ids definitions.channels).Nodup :=
  Registry.nodup_of_ofList (eq_of_ofLists h).2

end MetricAlerts
