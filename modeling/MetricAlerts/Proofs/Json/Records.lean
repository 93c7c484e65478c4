import MetricAlerts.Json.Record
import MetricAlerts.Proofs.Dict

/-! Records read back from the values that were made from their members: each field is what was
written under its name (`exists_read?`), and where nothing was, none is found
(`exists_read?_present`). -/

namespace MetricAlerts

variable {α β : Type} {key name : String} {names : List String}
  {slots : List (String × Option Json)}

theorem keys_filter_sublist (keep : String × α → Bool) (entries : List (String × α)) :
    (keys (entries.filter keep)).Sublist (keys entries) :=
  List.filter_sublist.map Prod.fst

theorem Dict.entries_ofList (entries : List (String × α)) :
    (Dict.ofList entries).entries = sortEntries entries := by
  have h : ∀ d : Dict α, (d.insertAll entries).entries =
      entries.foldl (fun sorted entry => insertEntry entry.1 entry.2 sorted) d.entries := by
    induction entries with
    | nil => exact fun d => rfl
    | cons entry entries ih => exact fun d => ih (d.insert entry.1 entry.2)
  exact h .empty

theorem lookup?_sortEntries (key : String) (entries : List (String × α)) :
    lookup? key (sortEntries entries) = lookup? key entries.reverse := by
  rw [← Dict.entries_ofList]
  exact Dict.get?_ofList entries key

theorem mem_of_mem_sortEntries {entries : List (String × α)} {entry : String × α}
    (h : entry ∈ sortEntries entries) : entry ∈ entries := by
  rw [← Dict.entries_ofList] at h
  obtain ⟨gone, hPerm⟩ := Dict.exists_perm_insertAll .empty entries
  exact hPerm.mem_iff.mpr (List.mem_append_left gone h)

namespace Document

theorem ofMembers_eq_map (members : List (String × Json)) :
    ofMembers members = members.map fun m => (m.1, ofJson m.2) := by
  induction members with
  | nil => rfl
  | cons m members ih => rw [ofMembers, ih, List.map_cons]

theorem keys_ofMembers (members : List (String × Json)) :
    keys (ofMembers members) = keys members := by
  rw [ofMembers_eq_map, keys, List.map_map]
  rfl

theorem dictWith?_ofStrings (d : Dict String) :
    dictWith? string? (ofJson (Json.ofStrings d)) = some d := by
  have hMembers (entries : List (String × String)) :
      (ofMembers (entries.map fun e => (e.1, Json.string e.2))).mapM
        (fun m => (string? m.2).map fun v => (m.1, v)) = some entries := by
    induction entries with
    | nil => rfl
    | cons e entries ih =>
      rw [List.map_cons, ofMembers, List.mapM_cons, ih]
      rfl
  rw [Json.ofStrings, ofJson, dictWith?, hMembers d.entries]
  exact congrArg some (Dict.ofList_entries d)

/-- A float that is not finite is written as null, which is no float. -/
theorem float?_ofFloat_iff {x : Float} :
    float? (ofJson (Json.ofFloat x)) = some x ↔ x.isFinite := by
  by_cases finite : x.isFinite
  · rw [Json.ofFloat, if_pos finite]
    exact iff_of_true rfl finite
  · rw [Json.ofFloat, if_neg finite]
    exact iff_of_false nofun finite

theorem optionWith?_of_ne_null {d : Document} (h : d ≠ .null) (read : Document → Option α) :
    optionWith? read d = (read d).map some := by
  cases d with
  | null => exact absurd rfl h
  | _ => rfl

theorem isSome_membersJson? {members : List (String × Document)}
    (h : ∀ m ∈ members, m.2.toJson?.isSome) : (membersJson? members).isSome := by
  induction members with
  | nil => rfl
  | cons m members ih =>
    obtain ⟨value, hValue⟩ := Option.isSome_iff_exists.mp (h m List.mem_cons_self)
    obtain ⟨values, hValues⟩ := Option.isSome_iff_exists.mp
      (ih fun m' hm' => h m' (List.mem_cons_of_mem _ hm'))
    rw [membersJson?, hValue, hValues]
    rfl

mutual

/-- Nothing in a value is unreadable. -/
theorem isSome_toJson?_ofJson (v : Json) : (ofJson v).toJson?.isSome := by
  cases v with
  | array items =>
    rw [ofJson, toJson?, Option.isSome_map]
    exact isSome_itemsJson?_ofItems items
  | object members =>
    rw [ofJson, toJson?, Option.isSome_map]
    exact isSome_membersJson?_ofMembers members
  | _ => rfl

theorem isSome_itemsJson?_ofItems (items : List Json) : (itemsJson? (ofItems items)).isSome := by
  cases items with
  | nil => rfl
  | cons item items =>
    obtain ⟨value, hValue⟩ := Option.isSome_iff_exists.mp (isSome_toJson?_ofJson item)
    obtain ⟨values, hValues⟩ := Option.isSome_iff_exists.mp (isSome_itemsJson?_ofItems items)
    rw [ofItems, itemsJson?, hValue, hValues]
    rfl

theorem isSome_membersJson?_ofMembers (members : List (String × Json)) :
    (membersJson? (ofMembers members)).isSome := by
  cases members with
  | nil => rfl
  | cons m members =>
    obtain ⟨value, hValue⟩ := Option.isSome_iff_exists.mp (isSome_toJson?_ofJson m.2)
    obtain ⟨values, hValues⟩ := Option.isSome_iff_exists.mp (isSome_membersJson?_ofMembers members)
    rw [ofMembers, membersJson?, hValue, hValues]
    rfl

end

end Document

namespace Record

theorem canonical_of_notMem {aliases : List (String × String)} (fresh : name ∉ keys aliases) :
    canonical aliases name = name := by
  rw [canonical, lookup?_eq_none_iff.mpr fresh, Option.getD_none]

theorem hasRepeated_eq_false (h : names.Nodup) : hasRepeated names = false := by
  induction names with
  | nil => rfl
  | cons name names ih =>
    obtain ⟨notMem, hRest⟩ := List.nodup_cons.mp h
    simp [hasRepeated, notMem, ih hRest]

/-- Members with distinct names, none of them another name of a field, are a record of any type. -/
theorem exists_read?_of_fresh {members : List (String × Document)}
    {aliases : List (String × String)}
    (distinct : (keys members).Nodup) (fresh : ∀ name ∈ keys members, name ∉ keys aliases)
    (names : List String) :
    ∃ r, read? names aliases (.object members) = some r ∧
      ∀ name ∈ names, r.field? name = lookup? name members := by
  have hKnown : (members.map fun m => (canonical aliases m.1, m.2)) = members := by
    conv => rhs; rw [← List.map_id members]
    refine List.map_congr_left fun m hm => ?_
    rw [canonical_of_notMem (fresh m.1 (List.mem_map_of_mem hm))]
    rfl
  have hDistinct :
      hasRepeated ((members.filter fun m => names.contains m.1).map Prod.fst) = false :=
    hasRepeated_eq_false (distinct.sublist (keys_filter_sublist _ members))
  refine ⟨⟨members.filter fun m => names.contains m.1, false⟩, ?_, ?_⟩
  · simp only [read?, hKnown, hDistinct]
    rfl
  · intro name hName
    exact lookup?_filter names.contains (by simpa using hName) members

theorem exists_read? {members : List (String × Document)} (distinct : (keys members).Nodup)
    (names : List String) :
    ∃ r, read? names [] (.object members) = some r ∧
      ∀ name ∈ names, r.field? name = lookup? name members :=
  exists_read?_of_fresh distinct (fun _ _ => List.not_mem_nil) names

theorem withDefault_of_required {r : Record} {read : Document → Option α} {value : α}
    (h : r.required name read = some value) (default : α) :
    r.withDefault name read default = some value := by
  obtain ⟨d, hField, hRead⟩ := Option.bind_eq_some_iff.mp h
  rw [withDefault, hField]
  exact hRead

end Record

/-- The members of an object as they are read: with distinct names, and what was written last under
each. -/
theorem Document.lookup?_ofMembers_sortEntries (members : List (String × Json)) :
    (keys (ofMembers (sortEntries members))).Nodup ∧
      ∀ name, lookup? name (ofMembers (sortEntries members)) =
        (lookup? name members.reverse).map ofJson := by
  constructor
  · rw [keys_ofMembers, ← Dict.entries_ofList]
    exact (Dict.ofList members).increasing.keys_nodup
  · intro name
    rw [ofMembers_eq_map, lookup?_map, lookup?_sortEntries]

namespace Json

/-- The members that are there, of some that may be left out. -/
def present (slots : List (String × Option Json)) : List (String × Json) :=
  slots.flatMap fun slot => optional slot.1 slot.2

theorem lookup?_optional_reverse (name key : String) (value : Option Json) :
    lookup? name (optional key value).reverse = if key = name then value else none := by
  cases value with
  | none => simp [optional, lookup?]
  | some v => simp [optional, lookup?]

theorem lookup?_present (distinct : (keys slots).Nodup) (name : String) :
    lookup? name (present slots).reverse = (lookup? name slots).join := by
  induction slots with
  | nil => rfl
  | cons slot slots ih =>
    obtain ⟨notMem, distinct⟩ := List.nodup_cons.mp distinct
    rw [present, List.flatMap_cons, List.reverse_append, lookup?_append, lookup?_optional_reverse,
      ← present, ih distinct, lookup?]
    by_cases same : slot.1 = name
    · have noLater : lookup? name slots = none := lookup?_eq_none_iff.mpr (same ▸ notMem)
      rw [noLater, if_pos same, if_pos same]
      rfl
    · rw [if_neg same, if_neg same, Option.or_none]

theorem mem_optional {member : String × Json} {value : Option Json} :
    member ∈ optional name value ↔ member.1 = name ∧ value = some member.2 := by
  obtain ⟨key, v⟩ := member
  cases value <;> simp [optional, eq_comm]

theorem keys_present_subset : keys (present slots) ⊆ keys slots := by
  intro name hName
  obtain ⟨member, hMember, rfl⟩ := List.mem_map.mp hName
  obtain ⟨slot, hSlot, hOptional⟩ := List.mem_flatMap.mp hMember
  rw [(mem_optional.mp hOptional).1]
  exact List.mem_map_of_mem hSlot

end Json

namespace Record

/-- A value whose members may be left out is a record of a type that has fields for all of them and
calls none by another name that one of them has. -/
theorem exists_read?_present (slots : List (String × Option Json))
    (aliases : List (String × String)) (distinct : (keys slots).Nodup)
    (known : keys slots ⊆ names) (fresh : ∀ name ∈ keys slots, name ∉ keys aliases) :
    ∃ r, read? names aliases (.ofJson (.ofMembers (Json.present slots))) = some r ∧
      ∀ slot ∈ slots, r.field? slot.1 = slot.2.map .ofJson := by
  obtain ⟨hDistinct, hLookup⟩ := Document.lookup?_ofMembers_sortEntries (Json.present slots)
  have hFresh : ∀ name ∈ keys (Document.ofMembers (sortEntries (Json.present slots))),
      name ∉ keys aliases := by
    intro name hName
    rw [Document.keys_ofMembers] at hName
    obtain ⟨member, hMember, rfl⟩ := List.mem_map.mp hName
    have hMem : member ∈ Json.present slots := mem_of_mem_sortEntries hMember
    exact fresh _ (Json.keys_present_subset (List.mem_map_of_mem hMem))
  obtain ⟨r, hRead, hFields⟩ := exists_read?_of_fresh hDistinct hFresh names
  refine ⟨r, hRead, fun slot hSlot => ?_⟩
  rw [hFields slot.1 (known (List.mem_map_of_mem hSlot)), hLookup, Json.lookup?_present distinct,
    lookup?_of_mem distinct hSlot]
  rfl

variable {r : Record} {read : Document → Option α}

theorem forall_of_withDefault {p : α → Prop} {value default : α} (onDefault : p default)
    (onRead : ∀ d v, read d = some v → p v)
    (h : r.withDefault name read default = some value) : p value := by
  rw [withDefault] at h
  split at h
  · cases h
    exact onDefault
  · exact onRead _ _ h

theorem forall_of_optional {p : α → Prop} {value : Option α}
    (onRead : ∀ d v, read d = some v → p v) (h : r.optional name read = some value) :
    ∀ v ∈ value, p v := by
  have onNone : ∀ v ∈ (none : Option α), p v := by simp
  refine forall_of_withDefault (p := fun value => ∀ v ∈ value, p v) onNone
    (fun d value hRead => ?_) h
  rw [Document.optionWith?.eq_def] at hRead
  split at hRead
  · cases hRead
    exact onNone
  · obtain ⟨v, hValue, rfl⟩ := Option.map_eq_some_iff.mp hRead
    rintro _ ⟨⟩
    exact onRead _ _ hValue

theorem required_eq_some_iff {value : α} {written : Json}
    (field : r.field? name = (some written).map .ofJson) :
    r.required name read = some value ↔ read (.ofJson written) = some value := by
  rw [required, field]
  rfl

theorem withDefault_eq_some_iff {value default : α} {written : Json}
    (field : r.field? name = (some written).map .ofJson) :
    r.withDefault name read default = some value ↔ read (.ofJson written) = some value := by
  rw [withDefault, field]
  rfl

/-- A field that was left out where there is nothing to tell. What is written as null is nothing. -/
theorem optional_eq_some_iff {value : Option α} {write : α → Json}
    (field : r.field? name = (value.map write).map .ofJson) (onNull : read .null = none) :
    r.optional name read = some value ↔ ∀ x ∈ value, read (.ofJson (write x)) = some x := by
  rw [optional, withDefault, field]
  cases value with
  | none => simp
  | some x =>
    show Document.optionWith? read (.ofJson (write x)) = some (some x) ↔ _
    have hOne : (∀ y ∈ some x, read (.ofJson (write y)) = some y) ↔
        read (.ofJson (write x)) = some x := by simp
    rw [hOne]
    by_cases null : Document.ofJson (write x) = .null
    · rw [null, onNull]
      simp [Document.optionWith?]
    · rw [Document.optionWith?_of_ne_null null, Option.map_eq_some_iff]
      simp

/-- A field that is null where there is nothing to tell. -/
theorem optional_eq_some_iff_of_nullable {value : Option α} {write : α → Json}
    (field : r.field? name = (some ((value.map write).getD .null)).map .ofJson)
    (onNull : read .null = none) :
    r.optional name read = some value ↔ ∀ x ∈ value, read (.ofJson (write x)) = some x := by
  cases value with
  | none =>
    rw [optional, withDefault, field]
    simp [Document.ofJson, Document.optionWith?]
  | some x =>
    have hField : r.field? name = ((some x).map write).map .ofJson := field
    exact optional_eq_some_iff hField onNull

end Record

end MetricAlerts
