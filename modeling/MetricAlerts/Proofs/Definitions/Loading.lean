import MetricAlerts.Proofs.Definitions.Registry

/-! Definitions loaded from two files. Whatever the files hold, there are definitions: for each file
those that can be read from it, or else all that are built in (`load_eq_ok`). -/

namespace MetricAlerts

namespace Registry

variable {α : Type} [Identified α] {items : List α}

theorem repeated?_eq_none {seen : List String} (distinct : (ids items).Nodup)
    (unseen : ∀ id ∈ ids items, id ∉ seen) : repeated? items seen = none := by
  induction items generalizing seen with
  | nil => rfl
  | cons item items ih =>
    obtain ⟨other, distinct⟩ := List.nodup_cons.mp distinct
    obtain ⟨new, unseen⟩ := List.forall_mem_cons.mp unseen
    rw [repeated?, if_neg (by simpa using new)]
    refine ih distinct fun id hId again => ?_
    rcases List.mem_cons.mp again with rfl | old
    · exact other hId
    · exact unseen id hId old

theorem ofList_of_nodup (distinct : (ids items).Nodup) : ofList items = .ok items := by
  rw [ofList, repeated?_eq_none distinct fun _ _ => List.not_mem_nil]

theorem toOption_ofList_eq_some_iff {accepted : List α} :
    (ofList items).toOption = some accepted ↔ items = accepted ∧ (ids items).Nodup := by
  constructor
  · intro h
    cases hList : ofList items with
    | error => rw [hList] at h; cases h
    | ok found =>
      rw [hList] at h
      cases h
      obtain rfl := eq_of_ofList hList
      exact ⟨rfl, nodup_of_ofList hList⟩
  · rintro ⟨rfl, distinct⟩
    rw [ofList_of_nodup distinct]
    rfl

end Registry

namespace Definitions

/-- The file is a text in UTF-8, and the text is that of a JSON document. -/
def Holds (file : File) (document : Json) : Prop :=
  ∃ text : String, file = some text.toUTF8 ∧ Json.parse? text = some document

theorem fromUTF8?_eq_some_iff {bytes : ByteArray} {text : String} :
    String.fromUTF8? bytes = some text ↔ bytes = text.toUTF8 := by
  constructor
  · intro h
    unfold String.fromUTF8? at h
    split at h
    · cases h
      rfl
    · cases h
  · rintro rfl
    exact dif_pos text.isValidUTF8

theorem document?_eq_some_iff {file : File} {document : Json} :
    document? file = some document ↔ Holds file document := by
  simp only [document?, Option.bind_eq_some_iff, fromUTF8?_eq_some_iff, Holds]
  constructor
  · rintro ⟨text, ⟨bytes, rfl, rfl⟩, parsed⟩
    exact ⟨text, rfl, parsed⟩
  · rintro ⟨text, rfl, parsed⟩
    exact ⟨text, ⟨_, rfl, rfl⟩, parsed⟩

section

variable {α : Type} [Identified α] (read : Document → Option α) (key : String)

/-- The entries that can be read, in their order. -/
def readable (entries : List Json) : List α :=
  entries.filterMap fun entry => read (.ofJson entry)

/-- The document of a file has an array under `key`, `items` are the entries of it that can be read,
and no two of them have the same id. -/
structure Lists (file : File) (items : List α) : Prop where
  listed : ∃ document entries, Holds file document ∧
    document.get? key = some (.array entries) ∧ items = readable read entries
  distinct : (Registry.ids items).Nodup

/-- What a file stands for: the definitions that it lists, or the built-in ones if it lists none. -/
inductive IsSection (builtin : List α) (file : File) : List α → Prop
  | own {items : List α} (lists : Lists read key file items) : IsSection builtin file items
  | builtin (listsNone : ∀ items, ¬Lists read key file items) : IsSection builtin file builtin

variable {read key} {document : Json} {file : File} {items builtin : List α}

theorem section?_eq_some_iff : section? read key document = some items ↔
    (∃ entries, document.get? key = some (.array entries) ∧ items = readable read entries) ∧
      (Registry.ids items).Nodup := by
  rw [section?]
  split
  · next entries found =>
    rw [Registry.toOption_ofList_eq_some_iff, found]
    constructor
    · rintro ⟨rfl, distinct⟩
      exact ⟨⟨entries, rfl, rfl⟩, distinct⟩
    · rintro ⟨⟨_, ⟨⟩, rfl⟩, distinct⟩
      exact ⟨rfl, distinct⟩
  · next noArray =>
    refine iff_of_false nofun ?_
    rintro ⟨⟨entries, found, -⟩, -⟩
    exact noArray entries found

theorem lists_iff :
    (document? file).bind (section? read key) = some items ↔ Lists read key file items := by
  simp only [Option.bind_eq_some_iff, document?_eq_some_iff, section?_eq_some_iff]
  constructor
  · rintro ⟨document, holds, ⟨entries, found, rfl⟩, distinct⟩
    exact ⟨⟨document, entries, holds, found, rfl⟩, distinct⟩
  · rintro ⟨⟨document, entries, holds, found, rfl⟩, distinct⟩
    exact ⟨document, holds, ⟨entries, found, rfl⟩, distinct⟩

theorem isSection_sectionOr (read : Document → Option α) (key : String) (builtin : List α)
    (file : File) : IsSection read key builtin file (sectionOr read key builtin file) := by
  rw [sectionOr]
  cases hSection : (document? file).bind (section? read key) with
  | some items => exact .own (lists_iff.mp hSection)
  | none =>
    refine .builtin fun items lists => ?_
    rw [lists_iff.mpr lists] at hSection
    cases hSection

theorem IsSection.nodup (h : IsSection read key builtin file items)
    (distinct : (Registry.ids builtin).Nodup) : (Registry.ids items).Nodup := by
  cases h with
  | own lists => exact lists.distinct
  | builtin => exact distinct

example : (section? Channel.read? "channels" (.object [("channels", .array [.null,
    .object [("id", .string "log"), ("name", .string ""), ("type", .string "console")]])])).map
      Registry.ids = some ["log"] := by decide

end

/-! The documents of the built-in definitions can be read, every entry of them. -/

theorem readAll?_builtinRulesDocument :
    readAll? Rule.read? "rules" builtinRulesDocument = some builtinRules := by rfl

theorem readAll?_builtinChannelsDocument :
    readAll? Channel.read? "channels" builtinChannelsDocument = some builtinChannels := by rfl

/-- Loading never fails. The rules are those of one file and the channels those of the other, with
distinct ids, where each file either has its own or stands for all that are built in, and these
are what their documents say. -/
theorem load_eq_ok (rulesFile channelsFile : File) :
    let rules := sectionOr Rule.read? "rules" builtinRules rulesFile
    let channels := sectionOr Channel.read? "channels" builtinChannels channelsFile
    load rulesFile channelsFile = .ok ⟨rules, channels⟩ ∧
      (Registry.ids rules).Nodup ∧ (Registry.ids channels).Nodup ∧
      IsSection Rule.read? "rules" builtinRules rulesFile rules ∧
      IsSection Channel.read? "channels" builtinChannels channelsFile channels ∧
      readAll? Rule.read? "rules" builtinRulesDocument = some builtinRules ∧
      readAll? Channel.read? "channels" builtinChannelsDocument = some builtinChannels := by
  intro rules channels
  have ofRules := isSection_sectionOr Rule.read? "rules" builtinRules rulesFile
  have ofChannels := isSection_sectionOr Channel.read? "channels" builtinChannels channelsFile
  have distinctRules : (Registry.ids rules).Nodup := ofRules.nodup (by decide)
  have distinctChannels : (Registry.ids channels).Nodup := ofChannels.nodup (by decide)
  have loaded : load rulesFile channelsFile = .ok ⟨rules, channels⟩ := by
    rw [load, ofLists, Registry.ofList_of_nodup distinctRules,
      Registry.ofList_of_nodup distinctChannels]
    rfl
  exact ⟨loaded, distinctRules, distinctChannels, ofRules, ofChannels,
    readAll?_builtinRulesDocument, readAll?_builtinChannelsDocument⟩

end Definitions

end MetricAlerts
