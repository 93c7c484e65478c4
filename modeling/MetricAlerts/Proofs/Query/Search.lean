import MetricAlerts.Proofs.Json.Ordered
import MetricAlerts.Query.Resolve

/-! What a label selector finds. A snapshot is gone through in document order, a value before those
that stand within it, and what is found is what the first value has to offer that offers anything.
What a value offers is said here without the search: `Offers` names every record that would do, and
`OffersFirst` the one that is taken. -/

namespace MetricAlerts

namespace Json

/-- A value stands within itself, and within an object or array where it stands within a member or
an item. -/
inductive Within (v : Json) : Json → Prop
  | self : Within v v
  | member {members : List (String × Json)} {name : String} {child : Json}
      (mem : (name, child) ∈ members) (within : Within v child) : Within v (.object members)
  | item {items : List Json} {child : Json} (mem : child ∈ items) (within : Within v child) :
      Within v (.array items)

/-- Neither an object nor an array. -/
def isBare : Json → Bool
  | .object _ | .array _ => false
  | _ => true

mutual

/-- The values within a value in document order: a value comes before those that stand within it,
and members and items come in their order. -/
def parts : Json → List Json
  | .object members => .object members :: memberParts members
  | .array items => .array items :: itemParts items
  | v => [v]

def memberParts : List (String × Json) → List Json
  | [] => []
  | (_, child) :: members => child.parts ++ memberParts members

def itemParts : List Json → List Json
  | [] => []
  | child :: items => child.parts ++ itemParts items

end

/-- Induction over a value with a hypothesis for every member and every item. -/
@[elab_as_elim]
theorem inductionOn {motive : Json → Prop} (root : Json)
    (object : ∀ members : List (String × Json), (∀ m ∈ members, motive m.2) →
      motive (.object members))
    (array : ∀ items : List Json, (∀ item ∈ items, motive item) → motive (.array items))
    (bare : ∀ v : Json, v.isBare = true → motive v) : motive root :=
  match root with
  | .object members => object members fun m _ => inductionOn m.2 object array bare
  | .array items => array items fun item _ => inductionOn item object array bare
  | .null | .bool _ | .int _ | .float _ | .string _ => bare _ rfl
  termination_by sizeOf root
  decreasing_by
    · next hMem =>
      obtain ⟨name, child⟩ := m
      have := List.sizeOf_lt_of_mem hMem
      simp only [Prod.mk.sizeOf_spec, Json.object.sizeOf_spec] at this ⊢
      omega
    · next hMem =>
      have := List.sizeOf_lt_of_mem hMem
      rw [Json.array.sizeOf_spec]
      omega

variable {v root : Json}

theorem parts_object (members : List (String × Json)) :
    (object members).parts = object members :: members.flatMap fun m => m.2.parts := by
  have hMembers : memberParts members = members.flatMap fun m => m.2.parts := by
    induction members with
    | nil => rfl
    | cons m members ih => rw [memberParts, ih, List.flatMap_cons]
  rw [parts, hMembers]

theorem parts_array (items : List Json) :
    (array items).parts = array items :: items.flatMap parts := by
  have hItems : itemParts items = items.flatMap parts := by
    induction items with
    | nil => rfl
    | cons child items ih => rw [itemParts, ih, List.flatMap_cons]
  rw [parts, hItems]

theorem parts_of_isBare (bare : v.isBare = true) : v.parts = [v] := by
  cases v <;> first | rfl | cases bare

theorem mem_parts_of_within (h : v.Within root) : v ∈ root.parts := by
  induction h with
  | self => cases v <;> simp [parts]
  | @member members name child mem _ ih =>
    rw [parts_object]
    exact List.mem_cons_of_mem _ (List.mem_flatMap.mpr ⟨(name, child), mem, ih⟩)
  | @item items child mem _ ih =>
    rw [parts_array]
    exact List.mem_cons_of_mem _ (List.mem_flatMap.mpr ⟨child, mem, ih⟩)

theorem within_of_mem_parts (h : v ∈ root.parts) : v.Within root := by
  induction root using inductionOn with
  | object members ih =>
    rw [parts_object, List.mem_cons, List.mem_flatMap] at h
    obtain rfl | ⟨m, mem, within⟩ := h
    · exact .self
    · exact .member mem (ih m mem within)
  | array items ih =>
    rw [parts_array, List.mem_cons, List.mem_flatMap] at h
    obtain rfl | ⟨item, mem, within⟩ := h
    · exact .self
    · exact .item mem (ih item mem within)
  | bare root bare =>
    rw [parts_of_isBare bare, List.mem_singleton] at h
    exact h ▸ .self

theorem mem_parts_iff : v ∈ root.parts ↔ v.Within root :=
  ⟨within_of_mem_parts, mem_parts_of_within⟩

theorem IsOrdered.of_within (ordered : root.IsOrdered) (h : v.Within root) : v.IsOrdered := by
  induction h with
  | self => exact ordered
  | member mem _ ih =>
    rw [IsOrdered, membersOrdered_iff] at ordered
    exact ih (ordered.2 _ mem)
  | item mem _ ih =>
    rw [IsOrdered, itemsOrdered_iff] at ordered
    exact ih (ordered _ mem)

end Json

namespace Query

/-- The text by which a label value is compared: that of a string, a number or a truth value. -/
inductive HasText : Json → String → Prop
  | string (s : String) : HasText (.string s) s
  | int (n : Int) : HasText (.int n) (String.ofList (Number.intText n))
  | float (x : Float) : HasText (.float x) (String.ofList (Json.floatText x))
  | true : HasText (.bool true) "true"
  | false : HasText (.bool false) "false"

/-- Every selected label stands with its text among the labels of a record. -/
def Carries (selected : Dict String) (record : Json) : Prop :=
  ∀ label ∈ selected.entries, ∃ labels value, record.get? "labels" = some labels ∧
    labels.get? label.1 = some value ∧ HasText value label.2

/-- The value of a record that carries the selected labels. -/
structure Gives (selected : Dict String) (record value : Json) : Prop where
  carries : Carries selected record
  value : record.get? "value" = some value

/-- The value of a record with the metric's name that carries the selected labels. -/
structure GivesNamed (metric : String) (selected : Dict String) (record value : Json) : Prop where
  name : record.get? "name" = some (.string metric)
  gives : Gives selected record value

/-- What a value offers: under the metric's name a record, a record of a list or, where no labels
are selected, a bare value; and in an array a record of that name. -/
inductive Offers (metric : String) (selected : Dict String) : Json → Json → Prop
  | record {part record value : Json} (entry : part.get? metric = some record)
      (gives : Gives selected record value) : Offers metric selected part value
  | listed {part record value : Json} {records : List Json}
      (entry : part.get? metric = some (.array records)) (mem : record ∈ records)
      (gives : Gives selected record value) : Offers metric selected part value
  | bare {part value : Json} (entry : part.get? metric = some value) (bare : value.isBare = true)
      (unselective : selected.entries = []) : Offers metric selected part value
  | named {items : List Json} {record value : Json} (mem : record ∈ items)
      (gives : GivesNamed metric selected record value) :
      Offers metric selected (.array items) value

/-- The first of `items` that has something has `b`. -/
def IsFirst {α β : Type} (has : α → β → Prop) (items : List α) (b : β) : Prop :=
  ∃ before item after, items = before ++ item :: after ∧ has item b ∧
    ∀ other ∈ before, ∀ c, ¬ has other c

/-- What a value offers, in a list the first record that would do. -/
inductive OffersFirst (metric : String) (selected : Dict String) : Json → Json → Prop
  | record {part record value : Json} (entry : part.get? metric = some record)
      (gives : Gives selected record value) : OffersFirst metric selected part value
  | listed {part value : Json} {records : List Json}
      (entry : part.get? metric = some (.array records))
      (first : IsFirst (Gives selected) records value) : OffersFirst metric selected part value
  | bare {part value : Json} (entry : part.get? metric = some value) (bare : value.isBare = true)
      (unselective : selected.entries = []) : OffersFirst metric selected part value
  | named {items : List Json} {value : Json}
      (first : IsFirst (GivesNamed metric selected) items value) :
      OffersFirst metric selected (.array items) value

section First

variable {α β : Type} {has : α → β → Prop} {f : α → Option β} {items : List α} {b : β}

theorem findSome?_eq_some_iff_isFirst (spec : ∀ a b, f a = some b ↔ has a b) :
    items.findSome? f = some b ↔ IsFirst has items b := by
  have hNone (a : α) : f a = none ↔ ∀ c, ¬ has a c := by
    simp only [Option.eq_none_iff_forall_ne_some, ne_eq, spec]
  rw [List.findSome?_eq_some_iff]
  constructor
  · rintro ⟨before, a, after, hItems, hSome, hBefore⟩
    exact ⟨before, a, after, hItems, (spec a b).mp hSome, fun x hx => (hNone x).mp (hBefore x hx)⟩
  · rintro ⟨before, a, after, hItems, hHas, hBefore⟩
    exact ⟨before, a, after, hItems, (spec a b).mpr hHas,
      fun x hx => (hNone x).mpr (hBefore x hx)⟩

theorem IsFirst.exists_mem (h : IsFirst has items b) : ∃ item ∈ items, has item b := by
  obtain ⟨before, item, after, rfl, hHas, -⟩ := h
  exact ⟨item, List.mem_append_right _ List.mem_cons_self, hHas⟩

/-- Where one of the items has something, one of them is the first. -/
theorem IsFirst.exists_of_mem {item : α} (mem : item ∈ items) (hHas : has item b) :
    ∃ c, IsFirst has items c := by
  induction items with
  | nil => cases mem
  | cons head items ih =>
    by_cases hHead : ∃ c, has head c
    · obtain ⟨c, hc⟩ := hHead
      exact ⟨c, [], head, items, rfl, hc, fun _ h => absurd h List.not_mem_nil⟩
    · rw [not_exists] at hHead
      obtain rfl | mem := List.mem_cons.mp mem
      · exact absurd hHas (hHead b)
      · obtain ⟨c, before, first, after, rfl, hFirst, hBefore⟩ := ih mem
        exact ⟨c, head :: before, first, after, rfl, hFirst,
          List.forall_mem_cons.mpr ⟨hHead, hBefore⟩⟩

end First

variable {metric : String} {selected : Dict String} {part record entry root value : Json}

theorem OffersFirst.offers (h : OffersFirst metric selected part value) :
    Offers metric selected part value := by
  cases h with
  | record entry gives => exact .record entry gives
  | listed entry first =>
    obtain ⟨record, mem, gives⟩ := first.exists_mem
    exact .listed entry mem gives
  | bare entry bare unselective => exact .bare entry bare unselective
  | named first =>
    obtain ⟨record, mem, gives⟩ := first.exists_mem
    exact .named mem gives

theorem Offers.exists_offersFirst (h : Offers metric selected part value) :
    ∃ first, OffersFirst metric selected part first := by
  cases h with
  | record entry gives => exact ⟨value, .record entry gives⟩
  | listed entry mem gives =>
    obtain ⟨first, isFirst⟩ := IsFirst.exists_of_mem mem gives
    exact ⟨first, .listed entry isFirst⟩
  | bare entry bare unselective => exact ⟨value, .bare entry bare unselective⟩
  | named mem gives =>
    obtain ⟨first, isFirst⟩ := IsFirst.exists_of_mem mem gives
    exact ⟨first, .named isFirst⟩

/-! ### The search -/

theorem labelText?_eq_some_iff {text : String} : labelText? value = some text ↔
    HasText value text := by
  constructor
  · intro h
    cases value with
    | bool b =>
      cases b <;> cases h
      · exact .false
      · exact .true
    | int n => cases h; exact .int n
    | float x => cases h; exact .float x
    | string s => cases h; exact .string _
    | null | array _ | object _ => cases h
  · intro h
    cases h <;> rfl

theorem labelsMatch_iff : labelsMatch selected (record.get? "labels") = true ↔
    Carries selected record := by
  unfold labelsMatch
  rw [Bool.or_eq_true, Dict.isEmpty, List.isEmpty_iff]
  constructor
  · rintro (hEmpty | hAll)
    · intro label hLabel
      rw [hEmpty] at hLabel
      cases hLabel
    · split at hAll
      · next members hLabels =>
        intro label hLabel
        have hText := List.all_eq_true.mp hAll label hLabel
        obtain ⟨v, hLookup, hText⟩ := Option.bind_eq_some_iff.mp (beq_iff_eq.mp hText)
        exact ⟨.object members, v, hLabels, hLookup, labelText?_eq_some_iff.mp hText⟩
      · cases hAll
  · intro carries
    refine or_iff_not_imp_left.mpr fun hSome => ?_
    obtain ⟨first, hFirst⟩ := List.exists_mem_of_ne_nil _ hSome
    obtain ⟨labels, v, hLabels, hLookup, -⟩ := carries first hFirst
    cases labels with
    | object members =>
      rw [hLabels]
      refine List.all_eq_true.mpr fun label hLabel => ?_
      obtain ⟨_, v, hOwn, hLookup, hText⟩ := carries label hLabel
      cases hLabels.symm.trans hOwn
      exact beq_iff_eq.mpr
        (Option.bind_eq_some_iff.mpr ⟨v, hLookup, labelText?_eq_some_iff.mpr hText⟩)
    | _ => cases hLookup

theorem recordValue?_eq_some_iff : recordValue? selected record = some value ↔
    Gives selected record value := by
  cases record with
  | object members =>
    have hIf : recordValue? selected (.object members) = some value ↔
        labelsMatch selected ((Json.object members).get? "labels") = true ∧
          (Json.object members).get? "value" = some value := by
      rw [recordValue?, Option.ite_none_right_eq_some]
      rfl
    rw [hIf, labelsMatch_iff]
    exact ⟨fun h => ⟨h.1, h.2⟩, fun h => ⟨h.carries, h.value⟩⟩
  | _ =>
    constructor
    · intro h
      cases h
    · intro h
      cases h.value

theorem namedValue?_eq_some_iff : namedValue? metric selected record = some value ↔
    GivesNamed metric selected record value := by
  have hName : (record.get? "name").bind Json.string? = some metric ↔
      record.get? "name" = some (.string metric) := by
    rw [Option.bind_eq_some_iff]
    constructor
    · rintro ⟨v, hFound, hString⟩
      cases v with
      | string s =>
        cases hString
        exact hFound
      | _ => cases hString
    · intro hFound
      exact ⟨_, hFound, rfl⟩
  rw [namedValue?, Option.ite_none_right_eq_some, recordValue?_eq_some_iff, hName]
  exact ⟨fun h => ⟨h.1, h.2⟩, fun h => ⟨h.name, h.gives⟩⟩

theorem entryValue?_of_isBare (bare : entry.isBare = true) :
    entryValue? selected entry = some value ↔ selected.entries = [] ∧ entry = value := by
  have hIf : entryValue? selected entry = if selected.isEmpty then some entry else none := by
    cases entry <;> first | rfl | cases bare
  rw [hIf, Option.ite_none_right_eq_some, Dict.isEmpty, List.isEmpty_iff, Option.some_inj]

/-- What a value offers by itself. -/
def own? (metric : String) (selected : Dict String) : Json → Option Json
  | .object members => (lookup? metric members).bind (entryValue? selected)
  | .array items => items.findSome? (namedValue? metric selected)
  | _ => none

theorem own?_of_entry (found : part.get? metric = some entry) :
    own? metric selected part = entryValue? selected entry := by
  cases part with
  | object members =>
    rw [Json.get?] at found
    rw [own?, found, Option.bind_some]
  | _ => cases found

theorem own?_eq_some_iff : own? metric selected part = some value ↔
    OffersFirst metric selected part value := by
  constructor
  · intro h
    cases part with
    | object members =>
      obtain ⟨entry, hEntry, h⟩ := Option.bind_eq_some_iff.mp h
      cases entry with
      | object fields => exact .record hEntry (recordValue?_eq_some_iff.mp h)
      | array records =>
        exact .listed hEntry
          ((findSome?_eq_some_iff_isFirst fun _ _ => recordValue?_eq_some_iff).mp h)
      | _ =>
        obtain ⟨unselective, rfl⟩ := (entryValue?_of_isBare rfl).mp h
        exact .bare hEntry rfl unselective
    | array items =>
      exact .named ((findSome?_eq_some_iff_isFirst fun _ _ => namedValue?_eq_some_iff).mp h)
    | _ => cases h
  · intro h
    cases h with
    | @record _ record _ found gives =>
      rw [own?_of_entry found]
      cases record with
      | object fields => exact recordValue?_eq_some_iff.mpr gives
      | _ => cases gives.value
    | listed found first =>
      rw [own?_of_entry found]
      exact (findSome?_eq_some_iff_isFirst fun _ _ => recordValue?_eq_some_iff).mpr first
    | bare found bare unselective =>
      rw [own?_of_entry found]
      exact (entryValue?_of_isBare bare).mpr ⟨unselective, rfl⟩
    | named first =>
      exact (findSome?_eq_some_iff_isFirst fun _ _ => namedValue?_eq_some_iff).mpr first

theorem searchMembers?_eq (members : List (String × Json)) :
    searchMembers? metric selected members =
      members.findSome? fun m => search? metric selected m.2 := by
  induction members with
  | nil => rfl
  | cons m members ih =>
    rw [searchMembers?, ih, List.findSome?_cons]
    cases search? metric selected m.2 <;> rfl

theorem searchItems?_eq (items : List Json) :
    searchItems? metric selected items = items.findSome? (search? metric selected) := by
  induction items with
  | nil => rfl
  | cons child items ih =>
    rw [searchItems?, ih, List.findSome?_cons]
    cases search? metric selected child <;> rfl

theorem findSome?_flatMap {α β γ : Type} (f : β → Option γ) (items : List α)
    (inside : α → List β) :
    (items.flatMap inside).findSome? f = items.findSome? fun item => (inside item).findSome? f := by
  induction items with
  | nil => rfl
  | cons item items ih =>
    rw [List.flatMap_cons, List.findSome?_append, ih, List.findSome?_cons]
    cases (inside item).findSome? f <;> rfl

theorem findSome?_congr {α β : Type} {f g : α → Option β} {items : List α}
    (same : ∀ item ∈ items, f item = g item) : items.findSome? f = items.findSome? g := by
  induction items with
  | nil => rfl
  | cons item items ih =>
    obtain ⟨hItem, hItems⟩ := List.forall_mem_cons.mp same
    rw [List.findSome?_cons, List.findSome?_cons, hItem, ih hItems]

/-- The search goes through the parts of a value in their order. -/
theorem search?_eq_findSome?_parts (root : Json) :
    search? metric selected root = root.parts.findSome? (own? metric selected) := by
  induction root using Json.inductionOn with
  | object members ih =>
    rw [Json.parts_object, List.findSome?_cons, findSome?_flatMap, search?, searchMembers?_eq,
      findSome?_congr ih, own?]
    cases (lookup? metric members).bind (entryValue? selected) <;> rfl
  | array items ih =>
    rw [Json.parts_array, List.findSome?_cons, findSome?_flatMap, search?, searchItems?_eq,
      findSome?_congr ih, own?]
    cases items.findSome? (namedValue? metric selected) <;> rfl
  | bare root bare => cases root <;> first | rfl | cases bare

/-- A search finds the first thing in document order that a value within the root offers, and finds
something exactly when one of them offers something. Every value within the root is gone through,
and in a snapshot as it is kept the members of each object are in increasing order of their
names. -/
theorem search?_eq_some_iff (metric : String) (selected : Dict String) (root : Json) :
    (∀ value, search? metric selected root = some value ↔
      IsFirst (OffersFirst metric selected) root.parts value) ∧
    ((search? metric selected root).isSome = true ↔
      ∃ part value, part.Within root ∧ Offers metric selected part value) ∧
    (∀ part, part ∈ root.parts ↔ part.Within root) ∧
    (root.IsOrdered → ∀ members, Json.object members ∈ root.parts → Increasing members) := by
  have hFirst (value : Json) : search? metric selected root = some value ↔
      IsFirst (OffersFirst metric selected) root.parts value := by
    rw [search?_eq_findSome?_parts]
    exact findSome?_eq_some_iff_isFirst fun _ _ => own?_eq_some_iff
  refine ⟨hFirst, ?_, fun _ => Json.mem_parts_iff, fun ordered members hPart => ?_⟩
  · rw [Option.isSome_iff_exists]
    constructor
    · rintro ⟨value, hSome⟩
      obtain ⟨part, hPart, offers⟩ := ((hFirst value).mp hSome).exists_mem
      exact ⟨part, value, Json.mem_parts_iff.mp hPart, offers.offers⟩
    · rintro ⟨part, value, within, offers⟩
      obtain ⟨_, offersFirst⟩ := offers.exists_offersFirst
      obtain ⟨first, isFirst⟩ :=
        IsFirst.exists_of_mem (Json.mem_parts_iff.mpr within) offersFirst
      exact ⟨first, (hFirst first).mpr isFirst⟩
  · have hOrdered := ordered.of_within (Json.mem_parts_iff.mp hPart)
    rw [Json.IsOrdered] at hOrdered
    exact hOrdered.1

/-- The load of two hosts, each in a record with a label. -/
def hostLoads : Json :=
  .object [("load", .array [
    .object [("labels", .object [("host", .string "a")]), ("value", .int 1)],
    .object [("labels", .object [("host", .string "b")]), ("value", .int 2)]])]

def hostB : Dict String := Dict.empty.insert "host" "b"

theorem isOrdered_hostLoads : hostLoads.IsOrdered := by
  simp only [hostLoads, Json.IsOrdered, Json.ItemsOrdered, Json.MembersOrdered, Increasing,
    List.pairwise_cons, List.Pairwise.nil, List.forall_mem_cons, and_true]
  decide

/-- The record of the first host is passed over. -/
theorem search?_hostLoads :
    hostLoads.IsOrdered ∧ search? "load" hostB hostLoads = some (.int 2) ∧
      IsFirst (OffersFirst "load" hostB) hostLoads.parts (.int 2) ∧
      ∀ members, Json.object members ∈ hostLoads.parts → Increasing members :=
  have ⟨found, _, _, increasing⟩ := search?_eq_some_iff "load" hostB hostLoads
  ⟨isOrdered_hostLoads, rfl, (found _).mp rfl, increasing isOrdered_hostLoads⟩

end Query
end MetricAlerts
