import MetricAlerts.AlertStore

/-! Entries under keys: what `lookup?` finds, and what `setEntry` and the removal of a key do to the
entry that it finds. -/

namespace MetricAlerts

variable {α : Type _} {key : String} {value : α} {entries before after : List (String × α)}

/-- The keys of entries, in their order. -/
def keys (entries : List (String × α)) : List String := entries.map Prod.fst

@[simp] theorem keys_nil : keys ([] : List (String × α)) = [] := rfl

@[simp] theorem keys_cons (entry : String × α) :
    keys (entry :: entries) = entry.1 :: keys entries :=
  rfl

@[simp] theorem keys_append : keys (before ++ after) = keys before ++ keys after :=
  List.map_append

theorem lookup?_append (key : String) (before after : List (String × α)) :
    lookup? key (before ++ after) = (lookup? key before).or (lookup? key after) := by
  induction before with
  | nil => rfl
  | cons entry before ih =>
    rw [List.cons_append, lookup?, lookup?]
    split
    · rfl
    · exact ih

theorem lookup?_map {β : Type _} (key : String) (f : α → β) (entries : List (String × α)) :
    lookup? key (entries.map fun e => (e.1, f e.2)) = (lookup? key entries).map f := by
  induction entries with
  | nil => rfl
  | cons entry entries ih =>
    rw [List.map_cons, lookup?, lookup?]
    split
    · rfl
    · exact ih

theorem lookup?_filter (keep : String → Bool) (kept : keep key = true)
    (entries : List (String × α)) :
    lookup? key (entries.filter fun e => keep e.1) = lookup? key entries := by
  induction entries with
  | nil => rfl
  | cons entry entries ih =>
    by_cases same : entry.1 = key
    · rw [List.filter_cons_of_pos (by rw [same, kept]), lookup?, lookup?, if_pos same, if_pos same]
    · rw [List.filter_cons, lookup?, if_neg same, ← ih]
      split
      · rw [lookup?, if_neg same]
      · rfl

theorem lookup?_append_of_notMem (h : key ∉ keys before) :
    lookup? key (before ++ after) = lookup? key after := by
  induction before with
  | nil => rfl
  | cons entry before ih =>
    simp only [keys_cons, List.mem_cons, not_or] at h
    rw [List.cons_append, lookup?, if_neg (Ne.symm h.1), ih h.2]

theorem lookup?_eq_none_iff : lookup? key entries = none ↔ key ∉ keys entries := by
  induction entries with
  | nil => simp [lookup?]
  | cons entry entries ih =>
    simp only [lookup?, keys_cons, List.mem_cons, not_or]
    split
    · next h => simp [h]
    · next h => rw [ih]; simp [Ne.symm h]

theorem isSome_lookup?_iff : (lookup? key entries).isSome ↔ key ∈ keys entries := by
  have h : lookup? key entries = none ↔ key ∉ keys entries := lookup?_eq_none_iff
  rw [Option.isSome_iff_ne_none, ne_eq, h, Decidable.not_not]

/-- What is found is the first entry with the key. -/
theorem exists_split_of_lookup? (h : lookup? key entries = some value) :
    ∃ before after, entries = before ++ (key, value) :: after ∧ key ∉ keys before := by
  induction entries with
  | nil => simp [lookup?] at h
  | cons entry entries ih =>
    simp only [lookup?] at h
    split at h
    · next same =>
      obtain ⟨k, v⟩ := entry
      subst same
      cases h
      exact ⟨[], entries, rfl, by simp⟩
    · next other =>
      obtain ⟨before, after, rfl, hBefore⟩ := ih h
      exact ⟨entry :: before, after, rfl, by simp [hBefore, Ne.symm other]⟩

theorem mem_of_lookup? (h : lookup? key entries = some value) : (key, value) ∈ entries := by
  obtain ⟨before, after, rfl, -⟩ := exists_split_of_lookup? h
  exact List.mem_append_right _ List.mem_cons_self

theorem lookup?_of_mem (distinct : (keys entries).Nodup) (h : (key, value) ∈ entries) :
    lookup? key entries = some value := by
  obtain ⟨before, after, rfl⟩ := List.append_of_mem h
  have hBefore : key ∉ keys before := by
    intro hMem
    rw [keys_append, List.nodup_append] at distinct
    exact distinct.2.2 key hMem key (by simp) rfl
  rw [lookup?_append_of_notMem hBefore, lookup?, if_pos rfl]

namespace AlertStore

variable {alert old new : Alert} {entries before after : List (String × Alert)}

theorem setEntry_of_notMem (h : key ∉ keys entries) :
    setEntry key alert entries = entries ++ [(key, alert)] := by
  induction entries with
  | nil => rfl
  | cons entry entries ih =>
    simp only [keys_cons, List.mem_cons, not_or] at h
    rw [setEntry, if_neg (Ne.symm h.1), ih h.2, List.cons_append]

theorem setEntry_split (h : key ∉ keys before) :
    setEntry key new (before ++ (key, old) :: after) = before ++ (key, new) :: after := by
  induction before with
  | nil => simp [setEntry]
  | cons entry before ih =>
    simp only [keys_cons, List.mem_cons, not_or] at h
    rw [List.cons_append, setEntry, if_neg (Ne.symm h.1), ih h.2, List.cons_append]

/-- Where keys are distinct, the entries without a key are those around its entry. -/
theorem filter_split (distinct : (keys (before ++ (key, old) :: after)).Nodup) :
    ((before ++ (key, old) :: after).filter fun e => e.1 != key) = before ++ after := by
  have hBefore : ∀ e ∈ before, (e.1 != key) = true := by
    intro e he
    have hMem : e.1 ∈ keys before := List.mem_map_of_mem he
    simp only [keys_append, keys_cons, List.nodup_append, List.mem_cons] at distinct
    simpa using distinct.2.2 e.1 hMem key (.inl rfl)
  have hAfter : ∀ e ∈ after, (e.1 != key) = true := by
    intro e he
    have hMem : e.1 ∈ keys after := List.mem_map_of_mem he
    simp only [keys_append, keys_cons, List.nodup_append, List.nodup_cons] at distinct
    have hKey := distinct.2.1.1
    simp only [bne_iff_ne, ne_eq]
    rintro rfl
    exact hKey hMem
  rw [List.filter_append, List.filter_eq_self.mpr hBefore, List.filter_cons]
  simp [List.filter_eq_self.mpr hAfter]

end AlertStore

end MetricAlerts
