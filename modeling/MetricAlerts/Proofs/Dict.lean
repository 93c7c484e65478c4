import Mathlib.Data.List.Perm.Basic
import MetricAlerts.Proofs.Store.Entries

/-! Dictionaries that are made from lists: under each key they hold the last value of the list, and
their entries are those of the list without the ones that others have taken the place of. -/

namespace MetricAlerts

variable {α : Type} {key : String} {value : α} {entries first second : List (String × α)}

/-- An entry that is inserted stays, and at most one other entry goes. -/
theorem exists_perm_insertEntry (key : String) (value : α) (entries : List (String × α)) :
    ∃ gone, ((key, value) :: entries).Perm (insertEntry key value entries ++ gone) := by
  induction entries with
  | nil => exact ⟨[], .refl _⟩
  | cons entry rest ih =>
    rw [insertEntry]
    split
    · exact ⟨[], by rw [List.append_nil]⟩
    · split
      · exact ⟨[entry], ((List.perm_append_singleton entry rest).symm.cons (key, value)).trans
          (.of_eq (List.cons_append ..).symm)⟩
      · obtain ⟨gone, hPerm⟩ := ih
        exact ⟨gone, (List.Perm.swap entry (key, value) rest).trans (hPerm.cons entry)⟩

theorem insertEntry_cons_of_lt {entry : String × α} (less : entry.1 < key) :
    insertEntry key value (entry :: entries) = entry :: insertEntry key value entries := by
  have notLess : ¬key < entry.1 := fun h => String.lt_irrefl _ (String.lt_trans h less)
  have other : key ≠ entry.1 := fun same => String.lt_irrefl _ (same ▸ less)
  rw [insertEntry, if_neg notLess, if_neg other]

theorem insertEntry_of_increasing (h : Increasing (entries ++ [(key, value)])) :
    insertEntry key value entries = entries ++ [(key, value)] := by
  induction entries with
  | nil => rfl
  | cons entry rest ih =>
    obtain ⟨head, tail⟩ := List.pairwise_cons.mp h
    have less : entry.1 < key := head (key, value) (by simp)
    rw [insertEntry_cons_of_lt less, ih tail, List.cons_append]

/-- An entry that is there gives way to one with its key. -/
theorem insertEntry_of_split {old new : α} (h : Increasing (first ++ (key, old) :: second)) :
    insertEntry key new (first ++ (key, old) :: second) = first ++ (key, new) :: second := by
  induction first with
  | nil =>
    rw [List.nil_append, insertEntry, if_neg (String.lt_irrefl key), if_pos rfl, List.nil_append]
  | cons entry rest ih =>
    obtain ⟨head, tail⟩ := List.pairwise_cons.mp h
    have less : entry.1 < key := head (key, old) (by simp)
    rw [List.cons_append, insertEntry_cons_of_lt less, ih tail, List.cons_append]

theorem insertEntry_map {β : Type} (f : String → α → β) (key : String) (value : α)
    (entries : List (String × α)) :
    insertEntry key (f key value) (entries.map fun e => (e.1, f e.1 e.2)) =
      (insertEntry key value entries).map fun e => (e.1, f e.1 e.2) := by
  induction entries with
  | nil => rfl
  | cons entry rest ih =>
    rw [List.map_cons, insertEntry, insertEntry, ih]
    split
    · rfl
    · split <;> rfl

/-- Entries are put in order by their keys alone. -/
theorem sortEntries_map {β : Type} (f : String → α → β) (entries : List (String × α)) :
    sortEntries (entries.map fun e => (e.1, f e.1 e.2)) =
      (sortEntries entries).map fun e => (e.1, f e.1 e.2) := by
  have hFold (sorted : List (String × α)) :
      (entries.map fun e => (e.1, f e.1 e.2)).foldl
          (fun sorted entry => insertEntry entry.1 entry.2 sorted)
          (sorted.map fun e => (e.1, f e.1 e.2)) =
        (entries.foldl (fun sorted entry => insertEntry entry.1 entry.2 sorted) sorted).map
          fun e => (e.1, f e.1 e.2) := by
    induction entries generalizing sorted with
    | nil => rfl
    | cons entry rest ih =>
      rw [List.map_cons, List.foldl_cons, insertEntry_map, ih, List.foldl_cons]
  exact hFold []

theorem Increasing.keys_nodup (h : Increasing entries) : (keys entries).Nodup := by
  refine List.pairwise_map.mpr (h.imp ?_)
  intro a b less same
  rw [same] at less
  exact String.lt_irrefl _ less

open scoped List

namespace Dict

variable {d : Dict α}

@[simp] theorem insertAll_nil (d : Dict α) : d.insertAll [] = d := rfl

@[simp] theorem insertAll_cons (d : Dict α) (entry : String × α) (entries : List (String × α)) :
    d.insertAll (entry :: entries) = (d.insert entry.1 entry.2).insertAll entries :=
  rfl

/-- The last value under a key counts. -/
theorem get?_insertAll (d : Dict α) (entries : List (String × α)) (key : String) :
    (d.insertAll entries).get? key = (lookup? key entries.reverse).or (d.get? key) := by
  induction entries generalizing d with
  | nil => rfl
  | cons entry entries ih =>
    rw [insertAll_cons, ih, get?_insert, List.reverse_cons, lookup?_append, Option.or_assoc]
    congr 1
    rw [lookup?, lookup?]
    split <;> rfl

theorem get?_ofList (entries : List (String × α)) (key : String) :
    (ofList entries).get? key = lookup? key entries.reverse := by
  rw [ofList, get?_insertAll, get?_empty, Option.or_none]

/-- What is inserted stays or has to go. -/
theorem exists_perm_insertAll (d : Dict α) (entries : List (String × α)) :
    ∃ gone, (d.entries ++ entries).Perm ((d.insertAll entries).entries ++ gone) := by
  induction entries generalizing d with
  | nil => exact ⟨[], .refl _⟩
  | cons entry entries ih =>
    obtain ⟨gone, hGone⟩ := exists_perm_insertEntry entry.1 entry.2 d.entries
    obtain ⟨later, hLater⟩ := ih (d.insert entry.1 entry.2)
    have hComm : (gone ++ entries).Perm (entries ++ gone) := List.perm_append_comm
    refine ⟨later ++ gone, ?_⟩
    calc d.entries ++ entry :: entries
        _ ~ entry :: d.entries ++ entries := List.perm_middle
        _ ~ ((d.insert entry.1 entry.2).entries ++ gone) ++ entries := hGone.append_right entries
        _ ~ ((d.insert entry.1 entry.2).entries ++ entries) ++ gone := by
          rw [List.append_assoc, List.append_assoc]
          exact hComm.append_left _
        _ ~ (((d.insert entry.1 entry.2).insertAll entries).entries ++ later) ++ gone :=
          hLater.append_right gone
        _ ~ (d.insertAll (entry :: entries)).entries ++ (later ++ gone) :=
          .of_eq (List.append_assoc ..)

/-- Entries in increasing order go to the end one after another. -/
theorem entries_insertAll (h : Increasing (d.entries ++ entries)) :
    (d.insertAll entries).entries = d.entries ++ entries := by
  induction entries generalizing d with
  | nil => exact (List.append_nil _).symm
  | cons entry entries ih =>
    rw [← List.singleton_append, ← List.append_assoc] at h ⊢
    have hEntry : (d.insert entry.1 entry.2).entries = d.entries ++ [entry] :=
      insertEntry_of_increasing (List.pairwise_append.mp h).1
    rw [← hEntry] at h ⊢
    exact ih h

@[simp] theorem ofList_entries (d : Dict α) : ofList d.entries = d :=
  ext (entries_insertAll (d := empty) d.increasing)

end Dict

end MetricAlerts
