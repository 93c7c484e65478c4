/-! Dictionaries: entries in increasing order of their keys, each key once. The main statement is
`get?_insert`: an insertion changes what is found under its own key and nothing else. -/

namespace MetricAlerts

/-- The entries with `value` under `key`: in the place of an entry with that key, else before the
first greater one. -/
def insertEntry {α : Type _} (key : String) (value : α) : List (String × α) → List (String × α)
  | [] => [(key, value)]
  | entry :: rest =>
    if key < entry.1 then (key, value) :: entry :: rest
    else if key = entry.1 then (key, value) :: rest
    else entry :: insertEntry key value rest

/-- The value of the first entry with a key. -/
def lookup? {α : Type _} (key : String) : List (String × α) → Option α
  | [] => none
  | entry :: rest => if entry.1 = key then some entry.2 else lookup? key rest

/-- Entries in increasing order of keys; of entries with the same key the last one counts. -/
def sortEntries {α : Type _} (entries : List (String × α)) : List (String × α) :=
  entries.foldl (fun sorted entry => insertEntry entry.1 entry.2 sorted) []

/-- The keys increase strictly. -/
def Increasing {α : Type _} (entries : List (String × α)) : Prop :=
  entries.Pairwise fun a b => a.1 < b.1

theorem mem_insertEntry {α : Type _} {key : String} {value : α} {entries : List (String × α)}
    {e : String × α} (h : e ∈ insertEntry key value entries) : e = (key, value) ∨ e ∈ entries := by
  induction entries with
  | nil => simpa [insertEntry] using h
  | cons entry rest ih =>
    simp only [insertEntry] at h
    split at h
    · simpa using h
    · split at h
      · rcases List.mem_cons.mp h with h | h
        · exact .inl h
        · exact .inr (List.mem_cons_of_mem _ h)
      · rcases List.mem_cons.mp h with h | h
        · exact .inr (h ▸ List.mem_cons_self)
        · exact (ih h).imp id (List.mem_cons_of_mem _)

theorem Increasing.insertEntry {α : Type _} {entries : List (String × α)} (h : Increasing entries)
    (key : String) (value : α) : Increasing (insertEntry key value entries) := by
  induction entries with
  | nil => simp [MetricAlerts.insertEntry, Increasing]
  | cons entry rest ih =>
    have ⟨head, tail⟩ := List.pairwise_cons.mp h
    simp only [MetricAlerts.insertEntry]
    split
    · next less =>
      refine List.pairwise_cons.mpr ⟨fun e he => ?_, h⟩
      rcases List.mem_cons.mp he with rfl | he
      · exact less
      · exact String.lt_trans less (head e he)
    · next notLess =>
      split
      · next same => exact List.pairwise_cons.mpr ⟨fun e he => same ▸ head e he, tail⟩
      · next other =>
        refine List.pairwise_cons.mpr ⟨fun e he => ?_, ih tail⟩
        rcases mem_insertEntry he with rfl | he
        · exact Decidable.byContradiction fun h =>
            other (String.le_antisymm (String.not_lt.mp h) (String.not_lt.mp notLess))
        · exact head e he

/-- A map from strings, listed in increasing order of its keys. -/
structure Dict (α : Type) where
  entries : List (String × α)
  increasing : Increasing entries

namespace Dict

variable {α : Type}

def empty : Dict α := ⟨[], List.Pairwise.nil⟩

instance : Inhabited (Dict α) := ⟨empty⟩

instance : EmptyCollection (Dict α) := ⟨empty⟩

instance [BEq α] : BEq (Dict α) := ⟨fun a b => a.entries == b.entries⟩

theorem ext {a b : Dict α} (h : a.entries = b.entries) : a = b := by
  cases a; cases b; cases h; rfl

instance [DecidableEq α] : DecidableEq (Dict α) := fun a b =>
  if h : a.entries = b.entries then isTrue (ext h) else isFalse fun e => h (e ▸ rfl)

def toList (d : Dict α) : List (String × α) := d.entries

def isEmpty (d : Dict α) : Bool := d.entries.isEmpty

def get? (d : Dict α) (key : String) : Option α := lookup? key d.entries

/-- `value` under `key`, in the place of what was there. -/
def insert (d : Dict α) (key : String) (value : α) : Dict α :=
  ⟨insertEntry key value d.entries, d.increasing.insertEntry key value⟩

/-- The dictionary with every entry of a list, the last one where a key repeats. -/
def insertAll (d : Dict α) (entries : List (String × α)) : Dict α :=
  entries.foldl (fun d entry => d.insert entry.1 entry.2) d

def ofList (entries : List (String × α)) : Dict α := empty.insertAll entries

theorem lookup?_insertEntry (key other : String) (value : α) (entries : List (String × α)) :
    lookup? other (insertEntry key value entries) =
      if key = other then some value else lookup? other entries := by
  induction entries with
  | nil => rfl
  | cons entry rest ih =>
    simp only [insertEntry]
    split
    · rfl
    · split
      · next same =>
        subst same
        simp only [lookup?]
        split <;> rfl
      · next different =>
        simp only [lookup?, ih]
        by_cases h : key = other
        · subst h; simp [Ne.symm different]
        · simp [h]

theorem get?_insert (d : Dict α) (key other : String) (value : α) :
    (d.insert key value).get? other = if key = other then some value else d.get? other :=
  lookup?_insertEntry key other value d.entries

@[simp] theorem get?_empty (key : String) : (empty : Dict α).get? key = none := rfl

end Dict

end MetricAlerts
