import MetricAlerts.Proofs.Json.Records

/-! JSON values as they are kept: in every object the names increase. Those are the values that can
be read, and each of them is what it reads back as. -/

namespace MetricAlerts

variable {α : Type}

theorem increasing_sortEntries (entries : List (String × α)) :
    Increasing (sortEntries entries) := by
  rw [← Dict.entries_ofList]
  exact (Dict.ofList entries).increasing

theorem sortEntries_of_increasing {entries : List (String × α)} (h : Increasing entries) :
    sortEntries entries = entries := by
  rw [← Dict.entries_ofList]
  exact congrArg Dict.entries (Dict.ofList_entries ⟨entries, h⟩)

namespace Json

mutual

/-- In every object of a value the names increase. -/
def IsOrdered : Json → Prop
  | .array items => ItemsOrdered items
  | .object members => Increasing members ∧ MembersOrdered members
  | _ => True

def ItemsOrdered : List Json → Prop
  | [] => True
  | item :: items => IsOrdered item ∧ ItemsOrdered items

def MembersOrdered : List (String × Json) → Prop
  | [] => True
  | (_, value) :: members => IsOrdered value ∧ MembersOrdered members

end

theorem membersOrdered_iff {members : List (String × Json)} :
    MembersOrdered members ↔ ∀ m ∈ members, m.2.IsOrdered := by
  induction members with
  | nil => simp [MembersOrdered]
  | cons m members ih => rw [MembersOrdered, ih, List.forall_mem_cons]

theorem itemsOrdered_iff {items : List Json} : ItemsOrdered items ↔ ∀ v ∈ items, v.IsOrdered := by
  induction items with
  | nil => simp [ItemsOrdered]
  | cons item items ih => rw [ItemsOrdered, ih, List.forall_mem_cons]

end Json

namespace Document

mutual

theorem toJson?_ofJson {v : Json} (ordered : v.IsOrdered) : (ofJson v).toJson? = some v := by
  cases v with
  | array items =>
    rw [Json.IsOrdered] at ordered
    rw [ofJson, toJson?, itemsJson?_ofItems ordered]
    rfl
  | object members =>
    rw [Json.IsOrdered] at ordered
    rw [ofJson, toJson?, membersJson?_ofMembers ordered.2, Option.map_some, Json.ofMembers,
      sortEntries_of_increasing ordered.1]
  | _ => rfl

theorem itemsJson?_ofItems {items : List Json} (ordered : Json.ItemsOrdered items) :
    itemsJson? (ofItems items) = some items := by
  cases items with
  | nil => rfl
  | cons item items =>
    rw [Json.ItemsOrdered] at ordered
    rw [ofItems, itemsJson?, toJson?_ofJson ordered.1, itemsJson?_ofItems ordered.2]
    rfl

theorem membersJson?_ofMembers {members : List (String × Json)}
    (ordered : Json.MembersOrdered members) : membersJson? (ofMembers members) = some members := by
  cases members with
  | nil => rfl
  | cons m members =>
    rw [Json.MembersOrdered] at ordered
    rw [ofMembers, membersJson?, toJson?_ofJson ordered.1, membersJson?_ofMembers ordered.2]
    rfl

end

mutual

theorem isOrdered_of_toJson? {d : Document} {v : Json} (read : d.toJson? = some v) :
    v.IsOrdered := by
  cases d with
  | array items =>
    rw [toJson?, Option.map_eq_some_iff] at read
    obtain ⟨values, hItems, rfl⟩ := read
    rw [Json.IsOrdered]
    exact itemsOrdered_of_itemsJson? hItems
  | object members =>
    rw [toJson?, Option.map_eq_some_iff] at read
    obtain ⟨values, hMembers, rfl⟩ := read
    rw [Json.ofMembers, Json.IsOrdered]
    refine ⟨increasing_sortEntries values, Json.membersOrdered_iff.mpr fun m hm => ?_⟩
    exact membersOrdered_of_membersJson? hMembers m (mem_of_mem_sortEntries hm)
  | unreadable => cases read
  | _ =>
    cases read
    trivial

theorem itemsOrdered_of_itemsJson? {items : List Document} {values : List Json}
    (read : itemsJson? items = some values) : Json.ItemsOrdered values := by
  cases items with
  | nil =>
    cases read
    trivial
  | cons item items =>
    rw [itemsJson?] at read
    obtain ⟨value, hItem, read⟩ := Option.bind_eq_some_iff.mp read
    obtain ⟨rest, hItems, read⟩ := Option.bind_eq_some_iff.mp read
    cases read
    rw [Json.ItemsOrdered]
    exact ⟨isOrdered_of_toJson? hItem, itemsOrdered_of_itemsJson? hItems⟩

theorem membersOrdered_of_membersJson? {members : List (String × Document)}
    {values : List (String × Json)} (read : membersJson? members = some values) :
    ∀ m ∈ values, m.2.IsOrdered := by
  cases members with
  | nil =>
    cases read
    exact fun _ hm => absurd hm List.not_mem_nil
  | cons m members =>
    rw [membersJson?] at read
    obtain ⟨value, hMember, read⟩ := Option.bind_eq_some_iff.mp read
    obtain ⟨rest, hMembers, read⟩ := Option.bind_eq_some_iff.mp read
    cases read
    refine List.forall_mem_cons.mpr ⟨isOrdered_of_toJson? hMember, ?_⟩
    exact membersOrdered_of_membersJson? hMembers

end

theorem toJson?_ofJson_iff {v : Json} : (ofJson v).toJson? = some v ↔ v.IsOrdered :=
  ⟨isOrdered_of_toJson?, toJson?_ofJson⟩

/-- The values that are read from documents are those in order. -/
theorem exists_toJson?_iff {v : Json} : (∃ d : Document, d.toJson? = some v) ↔ v.IsOrdered := by
  constructor
  · rintro ⟨d, read⟩
    exact isOrdered_of_toJson? read
  · intro ordered
    exact ⟨ofJson v, toJson?_ofJson ordered⟩

theorem isOrdered_of_mapM {members : List (String × Document)} {entries : List (String × Json)}
    (read : members.mapM (fun m => (toJson? m.2).map fun v => (m.1, v)) = some entries) :
    ∀ entry ∈ entries, entry.2.IsOrdered := by
  induction members generalizing entries with
  | nil =>
    cases read
    exact fun _ hMem => absurd hMem List.not_mem_nil
  | cons m members ih =>
    rw [List.mapM_cons] at read
    obtain ⟨entry, hEntry, read⟩ := Option.bind_eq_some_iff.mp read
    obtain ⟨rest, hRest, read⟩ := Option.bind_eq_some_iff.mp read
    obtain ⟨value, hValue, rfl⟩ := Option.map_eq_some_iff.mp hEntry
    cases read
    exact List.forall_mem_cons.mpr ⟨isOrdered_of_toJson? hValue, ih hRest⟩

theorem mapM_ofMembers {entries : List (String × Json)}
    (ordered : ∀ entry ∈ entries, entry.2.IsOrdered) :
    (ofMembers entries).mapM (fun m => (toJson? m.2).map fun v => (m.1, v)) = some entries := by
  induction entries with
  | nil => rfl
  | cons entry entries ih =>
    obtain ⟨hEntry, hEntries⟩ := List.forall_mem_cons.mp ordered
    rw [ofMembers, List.mapM_cons, ih hEntries, toJson?_ofJson hEntry]
    rfl

theorem isOrdered_of_dictWith? {doc : Document} {d : Dict Json}
    (read : dictWith? toJson? doc = some d) : ∀ entry ∈ d.entries, entry.2.IsOrdered := by
  cases doc with
  | object members =>
    obtain ⟨entries, hEntries, read⟩ := Option.bind_eq_some_iff.mp read
    cases read
    intro entry hMem
    rw [Dict.entries_ofList] at hMem
    exact isOrdered_of_mapM hEntries entry (mem_of_mem_sortEntries hMem)
  | _ => cases read

theorem dictWith?_ofDict_iff {d : Dict Json} :
    dictWith? toJson? (ofJson (Json.ofDict d)) = some d ↔
      ∀ entry ∈ d.entries, entry.2.IsOrdered := by
  constructor
  · exact isOrdered_of_dictWith?
  · intro ordered
    rw [Json.ofDict, ofJson, dictWith?, mapM_ofMembers ordered]
    exact congrArg some (Dict.ofList_entries d)

end Document

end MetricAlerts
