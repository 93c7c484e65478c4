import MetricAlerts.Proofs.Definitions.Registry

/-! Lists of definitions as maps that keep the order of insertion. What is said of a list here is
said in terms of the changes that it has accepted: which of them is the last about an id, and which
of the ids that they have added they have not deleted again. -/

namespace MetricAlerts

namespace Registry

variable {α : Type} [Identified α]

/-- A change of a list of definitions, as it is asked for. -/
inductive Change (α : Type) where
  | add (item : α)
  | update (path : String) (item : α)
  | delete (id : String)

namespace Change

/-- The id that a change is about. -/
def id : Change α → String
  | .add item => Identified.id item
  | .update path _ => path
  | .delete id => id

/-- What the id of a change stands for after it. -/
def definition? : Change α → Option α
  | .add item => some item
  | .update _ item => some item
  | .delete _ => none

def added? : Change α → Option String
  | .add item => some (Identified.id item)
  | _ => none

def deleted? : Change α → Option String
  | .delete id => some id
  | _ => none

end Change

/-- The list after a change and the definition that the change is answered with. -/
def apply (items : List α) : Change α → Except DefinitionError (List α × α)
  | .add item => (add items item).map fun changed => (changed, item)
  | .update path item => (update items path item).map fun changed => (changed, item)
  | .delete id => delete items id

/-- The list after a change, the same if it is refused. -/
def after (items : List α) (change : Change α) : List α :=
  ((apply items change).toOption.map Prod.fst).getD items

def run (items : List α) (changes : List (Change α)) : List α := changes.foldl after items

/-- Those changes of a run that are not refused. -/
def accepted (items : List α) : List (Change α) → List (Change α)
  | [] => []
  | change :: changes =>
    match apply items change with
    | .ok (changed, _) => change :: accepted changed changes
    | .error _ => accepted items changes

/-! What a change is to do. -/

/-- Why a list refuses a change. That an update brings another id with it is found first. -/
inductive Refuses (items : List α) : Change α → DefinitionError → Prop
  | present {item : α} (h : Identified.id item ∈ ids items) :
    Refuses items (.add item) (.duplicateId (Identified.kind α) (Identified.id item))
  | mismatch {path : String} {item : α} (h : Identified.id item ≠ path) :
    Refuses items (.update path item) (.idMismatch (Identified.kind α) path (Identified.id item))
  | absent {path : String} {item : α} (same : Identified.id item = path) (h : path ∉ ids items) :
    Refuses items (.update path item) (.notFound (Identified.kind α) path)
  | missing {id : String} (h : id ∉ ids items) :
    Refuses items (.delete id) (.notFound (Identified.kind α) id)

/-- A list with a change that it does not refuse: additions go to the end, and all other
definitions stay where they are. -/
def edited (items : List α) : Change α → List α
  | .add item => items ++ [item]
  | .update path item => items.map fun old => if Identified.id old = path then item else old
  | .delete id => items.filter fun old => Identified.id old ≠ id

/-- What a change that is not refused is answered with. -/
def Answers (items : List α) : Change α → α → Prop
  | .add item, answer => answer = item
  | .update _ item, answer => answer = item
  | .delete id, answer => get? items id = some answer

/-- The definition of an id after changes: that of the last of them about it, and without any the
one it had before. -/
def definitionAfter (items : List α) (changes : List (Change α)) (id : String) : Option α :=
  match (changes.filter fun change => change.id == id).getLast? with
  | some change => change.definition?
  | none => get? items id

def deletions (changes : List (Change α)) : List String := changes.filterMap Change.deleted?

/-- The ids that changes add and do not delete again, in the order of their additions. -/
def additions : List (Change α) → List String
  | [] => []
  | change :: changes =>
    change.added?.toList.filter (fun id => id ∉ deletions changes) ++ additions changes

/-- `items` is what the accepted ones of some changes make of `start`. -/
structure Reflects (start : List α) (changes : List (Change α)) (items : List α) : Prop where
  distinct : (ids items).Nodup
  get?_eq : ∀ id, get? items id = definitionAfter start (accepted start changes) id
  ids_eq : ids items =
    (ids start).filter (fun id => id ∉ deletions (accepted start changes)) ++
      additions (accepted start changes)
  entries : items = (ids items).filterMap (get? items)

/-! The list as a map. -/

variable {items changed : List α} {item answer : α} {id path : String} {change : Change α}
  {error : DefinitionError}

theorem get?_cons (item : α) (items : List α) (id : String) :
    get? (item :: items) id = if Identified.id item = id then some item else get? items id := by
  unfold get?
  by_cases same : Identified.id item = id
  · rw [List.find?_cons_of_pos (by simpa using same), if_pos same]
  · rw [List.find?_cons_of_neg (by simpa using same), if_neg same]

theorem id_of_get? (h : get? items id = some item) : Identified.id item = id := by
  simpa using List.find?_some h

theorem get?_eq_none_iff : get? items id = none ↔ id ∉ ids items := by
  rw [mem_ids, get?, List.find?_eq_none]
  simp

theorem exists_get? (h : id ∈ ids items) : ∃ item, get? items id = some item :=
  Option.ne_none_iff_exists'.mp fun none => get?_eq_none_iff.mp none h

theorem get?_of_mem (distinct : (ids items).Nodup) (mem : item ∈ items) :
    get? items (Identified.id item) = some item := by
  induction items with
  | nil => cases mem
  | cons first items ih =>
    obtain ⟨other, distinct⟩ := List.nodup_cons.mp distinct
    rw [get?_cons]
    rcases List.mem_cons.mp mem with rfl | mem
    · exact if_pos rfl
    · rw [if_neg fun same => other (mem_ids.mpr ⟨item, mem, same.symm⟩)]
      exact ih distinct mem

/-- A list is its ids and what they stand for. -/
theorem eq_filterMap_get? (distinct : (ids items).Nodup) :
    items = (ids items).filterMap (get? items) :=
  calc items = items.filterMap some := List.filterMap_some.symm
    _ = items.filterMap (get? items ∘ Identified.id) :=
      List.filterMap_congr fun _ mem => (get?_of_mem distinct mem).symm
    _ = (ids items).filterMap (get? items) := List.filterMap_map.symm

theorem get?_append (items : List α) (item : α) (id : String) :
    get? (items ++ [item]) id =
      (get? items id).or (if Identified.id item = id then some item else none) := by
  rw [get?, List.find?_append]
  exact congrArg _ (get?_cons item [] id)

/-- The new definition has the id of the old one, so that it is found where that was. -/
theorem get?_edited_update (same : Identified.id item = path) (id : String) :
    get? (edited items (.update path item)) id =
      if path = id then (get? items id).map fun _ => item else get? items id := by
  have found : get? (edited items (.update path item)) id =
      (get? items id).map fun old => if Identified.id old = path then item else old := by
    rw [edited, get?, List.find?_map]
    congr 2
    funext old
    by_cases here : Identified.id old = path <;> simp [here, same]
  rw [found]
  cases hOld : get? items id with
  | none => exact (ite_self none).symm
  | some old =>
    rw [Option.map_some, Option.map_some, id_of_get? hOld]
    by_cases here : id = path
    · rw [if_pos here, if_pos here.symm]
    · rw [if_neg here, if_neg (Ne.symm here)]

theorem get?_edited_delete (id other : String) :
    get? (edited items (.delete id)) other = if id = other then none else get? items other := by
  by_cases same : id = other
  · rw [if_pos same, get?_eq_none_iff, mem_ids]
    rintro ⟨item, mem, rfl⟩
    exact absurd same.symm (by simpa [edited] using (List.mem_filter.mp mem).2)
  · rw [if_neg same, get?, edited, List.find?_filter, get?]
    congr 1
    funext item
    by_cases hItem : Identified.id item = other
    · simp [hItem, Ne.symm same]
    · simp [hItem]

/-! One change. -/

theorem put_eq_edited (distinct : (ids items).Nodup) (item : α) :
    put item items = edited items (.update (Identified.id item) item) := by
  induction items with
  | nil => rfl
  | cons old items ih =>
    obtain ⟨other, distinct⟩ := List.nodup_cons.mp distinct
    rw [put, edited, List.map_cons]
    by_cases same : Identified.id old = Identified.id item
    · rw [if_pos same, if_pos same]
      have othersStay : (items.map fun old =>
          if Identified.id old = Identified.id item then item else old) = items :=
        (List.map_congr_left fun other' mem => if_neg fun again =>
          other (mem_ids.mpr ⟨other', mem, again.trans same.symm⟩)).trans (List.map_id _)
      rw [othersStay]
    · rw [if_neg same, if_neg same, ih distinct]
      rfl

theorem eraseP_eq_edited (distinct : (ids items).Nodup) (id : String) :
    items.eraseP (fun item => Identified.id item == id) = edited items (.delete id) := by
  induction items with
  | nil => rfl
  | cons old items ih =>
    obtain ⟨other, distinct⟩ := List.nodup_cons.mp distinct
    by_cases same : Identified.id old = id
    · rw [List.eraseP_cons_of_pos (by simpa using same), edited,
        List.filter_cons_of_neg (by simpa using same)]
      refine (List.filter_eq_self.mpr fun rest mem => ?_).symm
      exact decide_eq_true fun again => other (mem_ids.mpr ⟨rest, mem, again.trans same.symm⟩)
    · rw [List.eraseP_cons_of_neg (by simpa using same), ih distinct, edited, edited,
        List.filter_cons_of_pos (by simpa using same)]

theorem apply_of_refuses (h : Refuses items change error) : apply items change = .error error := by
  cases h with
  | present h => rw [apply, add, if_pos (List.contains_iff_mem.mpr h)]; rfl
  | mismatch h => rw [apply, update, if_pos h]; rfl
  | absent same h =>
    rw [apply, update, if_neg (not_not.mpr same),
      if_neg fun found => h (List.contains_iff_mem.mp found)]
    rfl
  | missing h => rw [apply, delete, get?_eq_none_iff.mpr h]

/-- A change is either refused or made, and then it is answered. -/
theorem apply_cases (distinct : (ids items).Nodup) (change : Change α) :
    (∃ error, Refuses items change error) ∨
      ∃ answer, apply items change = .ok (edited items change, answer) ∧
        Answers items change answer := by
  cases change with
  | add item =>
    by_cases old : Identified.id item ∈ ids items
    · exact .inl ⟨_, .present old⟩
    · refine .inr ⟨item, ?_, rfl⟩
      rw [apply, add, if_neg fun h => old (List.contains_iff_mem.mp h)]
      rfl
  | update path item =>
    by_cases same : Identified.id item = path
    · by_cases found : path ∈ ids items
      · refine .inr ⟨item, ?_, rfl⟩
        rw [apply, update, if_neg (not_not.mpr same), if_pos (List.contains_iff_mem.mpr found),
          put_eq_edited distinct, same]
        rfl
      · exact .inl ⟨_, .absent same found⟩
    · exact .inl ⟨_, .mismatch same⟩
  | delete id =>
    by_cases found : id ∈ ids items
    · obtain ⟨item, hItem⟩ := exists_get? found
      refine .inr ⟨item, ?_, hItem⟩
      rw [apply, delete, hItem]
      simp only
      rw [eraseP_eq_edited distinct]
    · exact .inl ⟨_, .missing found⟩

theorem apply_eq_error_iff (distinct : (ids items).Nodup) :
    apply items change = .error error ↔ Refuses items change error := by
  refine ⟨fun h => ?_, apply_of_refuses⟩
  rcases apply_cases distinct change with ⟨error', refused⟩ | ⟨answer, made, -⟩
  · rw [apply_of_refuses refused] at h
    cases h
    exact refused
  · rw [made] at h
    cases h

theorem eq_of_apply (distinct : (ids items).Nodup)
    (h : apply items change = .ok (changed, answer)) :
    changed = edited items change ∧ Answers items change answer ∧
      ∀ error, ¬ Refuses items change error := by
  have kept : ∀ error, ¬ Refuses items change error := by
    intro error refused
    rw [apply_of_refuses refused] at h
    cases h
  rcases apply_cases distinct change with ⟨error, refused⟩ | ⟨answer', made, hAnswer⟩
  · exact absurd refused (kept error)
  · rw [made] at h
    cases h
    exact ⟨rfl, hAnswer, kept⟩

theorem after_of_refuses (h : Refuses items change error) : after items change = items := by
  rw [after, apply_of_refuses h]
  rfl

theorem after_of_ok (h : apply items change = .ok (changed, answer)) :
    after items change = changed := by
  rw [after, h]
  rfl

/-- The ids of a list with a change that it does not refuse. -/
theorem ids_edited (kept : ∀ error, ¬ Refuses items change error) :
    ids (edited items change) =
      (ids items).filter (fun id => id ∉ change.deleted?) ++ change.added?.toList := by
  cases change with
  | add item => simp [edited, ids, Change.deleted?, Change.added?]
  | update path item =>
    have same : Identified.id item = path := by
      by_contra other
      exact kept _ (.mismatch other)
    have stays : ∀ old : α, Identified.id (if Identified.id old = path then item else old) =
        Identified.id old := by
      intro old
      by_cases here : Identified.id old = path <;> simp [here, same]
    simp [edited, ids, Change.deleted?, Change.added?, stays]
  | delete id =>
    simp only [edited, ids, Change.deleted?, Change.added?, Option.toList_none, List.append_nil,
      List.filter_map]
    congr 2
    funext item
    simp [eq_comm]

theorem nodup_edited (distinct : (ids items).Nodup) (kept : ∀ error, ¬ Refuses items change error) :
    (ids (edited items change)).Nodup := by
  rw [ids_edited kept]
  cases change with
  | add item =>
    have new : Identified.id item ∉ ids items := fun old => kept _ (.present old)
    simpa [Change.deleted?, Change.added?] using
      List.nodup_append_comm.mpr (List.nodup_cons.mpr ⟨new, distinct⟩)
  | _ => simpa [Change.added?] using distinct.filter _

/-- What an id stands for in a list with a change. -/
theorem get?_edited (kept : ∀ error, ¬ Refuses items change error) (id : String) :
    get? (edited items change) id =
      if change.id = id then change.definition? else get? items id := by
  cases change with
  | add item =>
    have new : get? items (Identified.id item) = none :=
      get?_eq_none_iff.mpr fun old => kept _ (.present old)
    rw [edited, get?_append, Change.id, Change.definition?]
    by_cases here : Identified.id item = id
    · rw [← here, new, if_pos rfl]
      rfl
    · rw [if_neg here, if_neg here, Option.or_none]
  | update path item =>
    have same : Identified.id item = path := by
      by_contra other
      exact kept _ (.mismatch other)
    rw [get?_edited_update same, Change.id, Change.definition?]
    by_cases here : path = id
    · have found : path ∈ ids items := by
        by_contra absent
        exact kept _ (.absent same absent)
      obtain ⟨old, hOld⟩ := exists_get? found
      rw [if_pos here, if_pos here, ← here, hOld]
      rfl
    · rw [if_neg here, if_neg here]
  | delete id => exact get?_edited_delete id _

/-! Runs of changes. -/

variable {changes : List (Change α)}

@[simp] theorem run_cons (items : List α) (change : Change α) (changes : List (Change α)) :
    run items (change :: changes) = run (after items change) changes := rfl

theorem accepted_cons_of_refuses (h : Refuses items change error) :
    accepted items (change :: changes) = accepted items changes := by
  rw [accepted, apply_of_refuses h]

theorem accepted_cons_of_ok (h : apply items change = .ok (changed, answer)) :
    accepted items (change :: changes) = change :: accepted changed changes := by
  rw [accepted, h]

/-- The last change about an id decides over those before it. -/
theorem definitionAfter_cons (kept : ∀ error, ¬ Refuses items change error)
    (changes : List (Change α)) (id : String) :
    definitionAfter items (change :: changes) id =
      definitionAfter (edited items change) changes id := by
  have last : ((change :: changes).filter fun change => change.id == id).getLast? =
      ((changes.filter fun change => change.id == id).getLast?).or
        (if change.id = id then some change else none) := by
    by_cases here : change.id = id
    · rw [List.filter_cons_of_pos (by simpa using here), List.getLast?_cons, if_pos here]
      cases (changes.filter fun change => change.id == id).getLast? <;> rfl
    · rw [List.filter_cons_of_neg (by simpa using here), if_neg here, Option.or_none]
  rw [definitionAfter, definitionAfter, last]
  cases (changes.filter fun change => change.id == id).getLast? with
  | some later => rfl
  | none =>
    rw [Option.none_or, get?_edited kept]
    by_cases here : change.id = id
    · rw [if_pos here, if_pos here]
    · rw [if_neg here, if_neg here]

theorem additions_cons (change : Change α) (changes : List (Change α)) :
    additions (change :: changes) =
      change.added?.toList.filter (fun id => id ∉ deletions changes) ++ additions changes := rfl

omit [Identified α] in
theorem mem_deletions_cons (change : Change α) (changes : List (Change α)) (id : String) :
    id ∈ deletions (change :: changes) ↔ id ∈ change.deleted? ∨ id ∈ deletions changes := by
  rw [deletions, List.mem_filterMap, deletions, List.mem_filterMap]
  exact List.exists_mem_cons_iff ..

theorem reflects_nil (distinct : (ids items).Nodup) : Reflects items [] items where
  distinct := distinct
  get?_eq _ := rfl
  ids_eq := by simp [accepted, deletions, additions]
  entries := eq_filterMap_get? distinct

/-- What is said of a run from the list after a change can be said of it from the list before. -/
theorem Reflects.cons {final : List α} (distinct : (ids items).Nodup)
    (h : Reflects (after items change) changes final) :
    Reflects items (change :: changes) final := by
  rcases apply_cases distinct change with ⟨error, refused⟩ | ⟨answer, made, -⟩
  · rw [after_of_refuses refused] at h
    refine ⟨h.distinct, ?_, ?_, h.entries⟩
    · rw [accepted_cons_of_refuses refused]
      exact h.get?_eq
    · rw [accepted_cons_of_refuses refused]
      exact h.ids_eq
  · rw [after_of_ok made] at h
    have kept := (eq_of_apply distinct made).2.2
    refine ⟨h.distinct, fun id => ?_, ?_, h.entries⟩
    · rw [accepted_cons_of_ok made, definitionAfter_cons kept]
      exact h.get?_eq id
    · rw [accepted_cons_of_ok made, additions_cons, h.ids_eq, ids_edited kept, List.filter_append,
        List.filter_filter, List.append_assoc]
      congr 1
      refine List.filter_congr fun id _ => ?_
      rw [Bool.eq_iff_iff, Bool.and_eq_true, decide_eq_true_iff, decide_eq_true_iff,
        decide_eq_true_iff, mem_deletions_cons, not_or, and_comm]

theorem nodup_after (distinct : (ids items).Nodup) (change : Change α) :
    (ids (after items change)).Nodup := by
  rcases apply_cases distinct change with ⟨error, refused⟩ | ⟨answer, made, -⟩
  · rw [after_of_refuses refused]
    exact distinct
  · rw [after_of_ok made]
    exact nodup_edited distinct (eq_of_apply distinct made).2.2

theorem reflects_run (distinct : (ids items).Nodup) (changes : List (Change α)) :
    Reflects items changes (run items changes) := by
  induction changes generalizing items with
  | nil => exact reflects_nil distinct
  | cons change changes ih => exact (ih (nodup_after distinct change)).cons distinct

end Registry

/-! Changes of rules and of channels in one sequence. -/

namespace Definitions

/-- A change of the rules or one of the channels. -/
inductive Request where
  | rule (change : Registry.Change Rule)
  | channel (change : Registry.Change Channel)

def Request.rule? : Request → Option (Registry.Change Rule)
  | .rule change => some change
  | .channel _ => none

def Request.channel? : Request → Option (Registry.Change Channel)
  | .rule _ => none
  | .channel change => some change

def carryOut (d : Definitions) : Request → Except DefinitionError Definitions
  | .rule change => (Registry.apply d.rules change).map fun (rules, _) => { d with rules }
  | .channel change =>
    (Registry.apply d.channels change).map fun (channels, _) => { d with channels }

/-- The definitions after a request, the same if it is refused. -/
def after (d : Definitions) (request : Request) : Definitions :=
  (d.carryOut request).toOption.getD d

def run (d : Definitions) (requests : List Request) : Definitions := requests.foldl after d

def Refuses (d : Definitions) : Request → DefinitionError → Prop
  | .rule change => Registry.Refuses d.rules change
  | .channel change => Registry.Refuses d.channels change

/-- The definitions with a request that is not refused: the other list stays as it is. -/
def edited (d : Definitions) : Request → Definitions
  | .rule change => { d with rules := Registry.edited d.rules change }
  | .channel change => { d with channels := Registry.edited d.channels change }

variable {d d' changed : Definitions} {request : Request} {error : DefinitionError}

theorem after_rule (d : Definitions) (change : Registry.Change Rule) :
    d.after (.rule change) = { d with rules := Registry.after d.rules change } := by
  rw [after, carryOut, Registry.after]
  cases Registry.apply d.rules change <;> rfl

theorem after_channel (d : Definitions) (change : Registry.Change Channel) :
    d.after (.channel change) = { d with channels := Registry.after d.channels change } := by
  rw [after, carryOut, Registry.after]
  cases Registry.apply d.channels change <;> rfl

/-- Each list goes its own way in a run. -/
theorem run_eq (d : Definitions) (requests : List Request) :
    d.run requests =
      ⟨Registry.run d.rules (requests.filterMap Request.rule?),
        Registry.run d.channels (requests.filterMap Request.channel?)⟩ := by
  induction requests generalizing d with
  | nil => rfl
  | cons request requests ih =>
    change (d.after request).run requests = _
    rw [ih]
    cases request with
    | rule change => rw [after_rule]; rfl
    | channel change => rw [after_channel]; rfl

theorem carryOut_eq_error_iff (rules : (Registry.ids d.rules).Nodup)
    (channels : (Registry.ids d.channels).Nodup) :
    d.carryOut request = .error error ↔ d.Refuses request error := by
  cases request with
  | rule change =>
    rw [Refuses, ← Registry.apply_eq_error_iff rules, carryOut]
    cases Registry.apply d.rules change <;> simp [Except.map]
  | channel change =>
    rw [Refuses, ← Registry.apply_eq_error_iff channels, carryOut]
    cases Registry.apply d.channels change <;> simp [Except.map]

theorem eq_of_carryOut (rules : (Registry.ids d.rules).Nodup)
    (channels : (Registry.ids d.channels).Nodup) (h : d.carryOut request = .ok changed) :
    changed = d.edited request := by
  cases request with
  | rule change =>
    cases made : Registry.apply d.rules change with
    | error => rw [carryOut, made] at h; cases h
    | ok result =>
      rw [carryOut, made] at h
      cases h
      rw [edited, ← (Registry.eq_of_apply rules made).1]
  | channel change =>
    cases made : Registry.apply d.channels change with
    | error => rw [carryOut, made] at h; cases h
    | ok result =>
      rw [carryOut, made] at h
      cases h
      rw [edited, ← (Registry.eq_of_apply channels made).1]

/-- From definitions that have been accepted, requests make what they would of two maps that keep
the order of insertion. Each is refused exactly for its reasons and then changes nothing, and a
request about one list leaves the other alone. -/
theorem reflects_requests {rules : List Rule} {channels : List Channel}
    (loaded : ofLists rules channels = .ok d) (requests : List Request)
    (reached : d.run requests = d') :
    Registry.Reflects rules (requests.filterMap Request.rule?) d'.rules ∧
      Registry.Reflects channels (requests.filterMap Request.channel?) d'.channels ∧
      (∀ change, (d'.after (.rule change)).channels = d'.channels) ∧
      (∀ change, (d'.after (.channel change)).rules = d'.rules) ∧
      ∀ request,
        (∀ error, d'.carryOut request = .error error ↔ d'.Refuses request error) ∧
        (∀ error, d'.carryOut request = .error error → d'.after request = d') ∧
        ∀ changed, d'.carryOut request = .ok changed →
          changed = d'.edited request ∧ d'.after request = changed := by
  obtain rfl : rules = d.rules := Registry.eq_of_ofList (eq_of_ofLists loaded).1
  obtain rfl : channels = d.channels := Registry.eq_of_ofList (eq_of_ofLists loaded).2
  have ofRules : Registry.Reflects d.rules (requests.filterMap Request.rule?) d'.rules := by
    rw [← reached, run_eq]
    exact Registry.reflects_run (nodup_of_ofLists loaded) _
  have ofChannels :
      Registry.Reflects d.channels (requests.filterMap Request.channel?) d'.channels := by
    rw [← reached, run_eq]
    exact Registry.reflects_run (nodup_channels_of_ofLists loaded) _
  refine ⟨ofRules, ofChannels, fun change => ?_, fun change => ?_, fun request => ⟨fun error => ?_,
    fun error refused => ?_, fun changed made => ⟨?_, ?_⟩⟩⟩
  · rw [after_rule]
  · rw [after_channel]
  · exact carryOut_eq_error_iff ofRules.distinct ofChannels.distinct
  · rw [after, refused]
    rfl
  · exact eq_of_carryOut ofRules.distinct ofChannels.distinct made
  · rw [after, made]
    rfl

/-- A rule is added again after it has been deleted, an update that would rename a rule to the id of
another is refused, and a channel is deleted in between. -/
def builtinRequests : List Request :=
  [.rule (.delete "cpu_high"), .channel (.delete "console"),
    .rule (.update "general_anomaly" (builtinThreshold "memory_high" "Memory" "" (.key "memory")
      .greater 1.0 .critical "system" "")),
    .rule (.add (builtinThreshold "cpu_high" "CPU" "" (.key "cpu") .greater 1.0 .warning "system"
      ""))]

theorem reflects_requests_builtin :
    ofLists builtinRules builtinChannels = .ok builtin ∧
      Registry.ids (builtin.run builtinRequests).rules =
        ["memory_high", "disk_space_low", "general_anomaly", "cpu_high"] ∧
      Registry.Reflects builtinRules (builtinRequests.filterMap Request.rule?)
        (builtin.run builtinRequests).rules := by
  have loaded : ofLists builtinRules builtinChannels = .ok builtin := rfl
  exact ⟨loaded, by decide, (reflects_requests loaded builtinRequests rfl).1⟩

end Definitions

end MetricAlerts
