import Mathlib.Data.Nat.Find
import MetricAlerts.Proofs.Dict
import MetricAlerts.Proofs.Query.Search

/-! What fewer selected labels find. Which records and bare values a search looks at, and in which
order, is the same whatever labels are selected; the labels only say which of them are passed over.
With fewer labels no more of them are, so that a search ends where it ended before, or earlier. -/

namespace MetricAlerts.Query

/-- The first of `items` for which `f` has something stands at a place. -/
structure FirstAt {α β : Type} (f : α → Option β) (items : List α) (place : Nat) (b : β) :
    Prop where
  found : items[place]?.bind f = some b
  passed : ∀ i < place, items[i]?.bind f = none

section FirstAt

variable {α β : Type} {f g : α → Option β} {items : List α} {place : Nat} {b : β}

theorem findSome?_eq_some_iff_firstAt :
    items.findSome? f = some b ↔ ∃ place, FirstAt f items place b := by
  constructor
  · intro h
    obtain ⟨before, item, after, rfl, hItem, hBefore⟩ := List.findSome?_eq_some_iff.mp h
    refine ⟨before.length, ?_, fun i less => ?_⟩
    · rw [List.getElem?_append_right (Nat.le_refl _), Nat.sub_self]
      exact hItem
    · rw [List.getElem?_append_left less, List.getElem?_eq_getElem less]
      exact hBefore _ (List.getElem_mem less)
  · rintro ⟨place, found, passed⟩
    obtain ⟨item, hPlace, hItem⟩ := Option.bind_eq_some_iff.mp found
    obtain ⟨less, rfl⟩ := List.getElem?_eq_some_iff.mp hPlace
    refine List.findSome?_eq_some_iff.mpr ⟨items.take place, items[place], items.drop (place + 1),
      ?_, hItem, fun other mem => ?_⟩
    · rw [List.getElem_cons_drop, List.take_append_drop]
    · obtain ⟨i, hi, rfl⟩ := List.mem_take_iff_getElem.mp mem
      have hNone := passed i (by omega)
      rwa [List.getElem?_eq_getElem (by omega)] at hNone

/-- Where `g` has what `f` has, and maybe more, its first place is no later. -/
theorem FirstAt.exists_le (more : ∀ item ∈ items, ∀ c, f item = some c → g item = some c)
    (first : FirstAt f items place b) :
    ∃ earlier c, FirstAt g items earlier c ∧ earlier ≤ place ∧ (earlier = place → c = b) := by
  have atPlace : items[place]?.bind g = some b := by
    obtain ⟨item, hPlace, hItem⟩ := Option.bind_eq_some_iff.mp first.found
    exact Option.bind_eq_some_iff.mpr
      ⟨item, hPlace, more item (List.mem_of_getElem? hPlace) b hItem⟩
  have some : ∃ i, (items[i]?.bind g).isSome = true := ⟨place, atPlace ▸ rfl⟩
  obtain ⟨c, found⟩ := Option.isSome_iff_exists.mp (Nat.find_spec some)
  refine ⟨Nat.find some, c, ⟨found, fun i less => ?_⟩, Nat.find_min' some (atPlace ▸ rfl), ?_⟩
  · exact Option.not_isSome_iff_eq_none.mp (Nat.find_min some less)
  · intro same
    rw [same, atPlace] at found
    exact (Option.some.inj found).symm

end FirstAt

/-- What a value has for a metric: the records of a list under its name or another value there, and
in an array the items of that name. -/
def candidatesIn (metric : String) : Json → List Json
  | .object members =>
    match lookup? metric members with
    | some (.array records) => records.filter fun record => record.members?.isSome
    | some entry => [entry]
    | none => []
  | .array items => items.filter fun item => (item.get? "name").bind Json.string? = some metric
  | _ => []

/-- What a search for a metric looks at, in its order. -/
def candidates (metric : String) (root : Json) : List Json :=
  root.parts.flatMap (candidatesIn metric)

variable {metric : String} {selected weak strong : Dict String}
  {candidate record value root : Json}

theorem findSome?_filter {α β : Type} {f g : α → Option β} {keep : α → Bool} (items : List α)
    (kept : ∀ item, f item = if keep item then g item else none) :
    items.findSome? f = (items.filter keep).findSome? g := by
  induction items with
  | nil => rfl
  | cons item items ih =>
    rw [List.filter_cons, List.findSome?_cons, ih, kept]
    by_cases hKeep : keep item = true
    · rw [if_pos hKeep, if_pos hKeep, List.findSome?_cons]
    · rw [if_neg hKeep, if_neg hKeep]

theorem own?_eq_findSome?_candidatesIn (part : Json) :
    own? metric selected part = (candidatesIn metric part).findSome? (entryValue? selected) := by
  cases part with
  | object members =>
    rw [own?, candidatesIn]
    split
    · next records found =>
      rw [found]
      exact findSome?_filter records fun record => by cases record <;> rfl
    · next entry _ found =>
      rw [found, Option.bind_some, List.findSome?_singleton]
    · next missing => rw [missing]; rfl
  | array items =>
    refine findSome?_filter items fun item => ?_
    cases item with
    | object members => simp only [namedValue?, entryValue?, decide_eq_true_eq]
    | _ => rfl
  | _ => rfl

theorem search?_eq_findSome?_candidates (root : Json) :
    search? metric selected root =
      (candidates metric root).findSome? (entryValue? selected) := by
  rw [search?_eq_findSome?_parts, candidates, findSome?_flatMap]
  exact findSome?_congr fun part _ => own?_eq_findSome?_candidatesIn part

/-- A list of records is gone into, and is no candidate itself. -/
theorem ne_array_of_mem_candidatesIn {part : Json} (mem : candidate ∈ candidatesIn metric part)
    (records : List Json) : candidate ≠ .array records := by
  rintro rfl
  cases part with
  | object members =>
    rw [candidatesIn] at mem
    split at mem
    · exact Bool.noConfusion (List.mem_filter.mp mem).2
    · next other _ => exact other records (List.mem_singleton.mp mem).symm
    · cases mem
  | array items => exact absurd (List.mem_filter.mp mem).2 (by simp [Json.get?])
  | _ => cases mem

section Weaker

variable (weaker : ∀ name text, weak.get? name = some text → strong.get? name = some text)

include weaker

theorem mem_entries_of_weaker {label : String × String} (h : label ∈ weak.entries) :
    label ∈ strong.entries :=
  mem_of_lookup? (weaker label.1 label.2 (lookup?_of_mem weak.increasing.keys_nodup h))

theorem Carries.of_weaker (carries : Carries strong record) : Carries weak record :=
  fun label h => carries label (mem_entries_of_weaker weaker h)

theorem entryValue?_of_weaker (single : ∀ records, candidate ≠ .array records)
    (h : entryValue? strong candidate = some value) : entryValue? weak candidate = some value := by
  cases candidate with
  | object members =>
    have gives : Gives strong (.object members) value := recordValue?_eq_some_iff.mp h
    exact recordValue?_eq_some_iff.mpr ⟨gives.carries.of_weaker weaker, gives.value⟩
  | array records => exact absurd rfl (single records)
  | _ =>
    obtain ⟨unselective, hValue⟩ := (entryValue?_of_isBare rfl).mp h
    refine (entryValue?_of_isBare rfl).mpr ⟨List.eq_nil_iff_forall_not_mem.mpr ?_, hValue⟩
    intro label hLabel
    have hStrong := mem_entries_of_weaker weaker hLabel
    rw [unselective] at hStrong
    cases hStrong

end Weaker

/-- Where a search finds something, one for fewer labels finds something too. Both look at the same
candidates in the same order, the second stops no later than the first one, and where it stops at
the same candidate it finds the same value. -/
theorem search?_of_weaker
    (weaker : ∀ name text, weak.get? name = some text → strong.get? name = some text)
    (found : search? metric strong root = some value) :
    ∃ first place earlier, search? metric weak root = some first ∧
      FirstAt (entryValue? strong) (candidates metric root) place value ∧
      FirstAt (entryValue? weak) (candidates metric root) earlier first ∧
      earlier ≤ place ∧ (earlier = place → first = value) := by
  have more : ∀ candidate ∈ candidates metric root, ∀ c,
      entryValue? strong candidate = some c → entryValue? weak candidate = some c := by
    intro candidate mem c h
    obtain ⟨part, _, memPart⟩ := List.mem_flatMap.mp mem
    exact entryValue?_of_weaker weaker (ne_array_of_mem_candidatesIn memPart) h
  rw [search?_eq_findSome?_candidates] at found
  obtain ⟨place, firstStrong⟩ := findSome?_eq_some_iff_firstAt.mp found
  obtain ⟨earlier, first, firstWeak, le, same⟩ := firstStrong.exists_le more
  refine ⟨first, place, earlier, ?_, firstStrong, firstWeak, le, same⟩
  rw [search?_eq_findSome?_candidates]
  exact findSome?_eq_some_iff_firstAt.mpr ⟨earlier, firstWeak⟩

/-- Without labels the record of the first host is found, which was passed over for the second. -/
theorem search?_of_weaker_hostLoads :
    search? "load" hostB hostLoads = some (.int 2) ∧
      search? "load" Dict.empty hostLoads = some (.int 1) ∧
      ∃ place earlier, FirstAt (entryValue? hostB) (candidates "load" hostLoads) place (.int 2) ∧
        FirstAt (entryValue? Dict.empty) (candidates "load" hostLoads) earlier (.int 1) ∧
        earlier < place := by
  have weaker : ∀ name text, (Dict.empty : Dict String).get? name = some text →
      hostB.get? name = some text := fun _ _ h => by cases h
  have found : search? "load" hostB hostLoads = some (.int 2) := rfl
  obtain ⟨first, place, earlier, hFirst, firstStrong, firstWeak, le, same⟩ :=
    search?_of_weaker weaker found
  have hOne : search? "load" Dict.empty hostLoads = some (.int 1) := rfl
  cases hOne.symm.trans hFirst
  refine ⟨found, hOne, place, earlier, firstStrong, firstWeak, Nat.lt_of_le_of_ne le ?_⟩
  intro equal
  cases same equal

end MetricAlerts.Query
