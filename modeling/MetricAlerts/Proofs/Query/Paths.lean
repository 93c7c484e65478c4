import MetricAlerts.Proofs.Number
import MetricAlerts.Proofs.Query.Canonical
import MetricAlerts.Proofs.Query.Search

/-! What paths lead to. In a snapshot one goes on from an object by a key and from an array by an
index, and here the two are told apart; in the text of a query they are not. A query for a path has
the number that one comes to by keys in objects and indexes in arrays, and every number that can be
come to by keys fit for a query can be asked for in this way (`resolve?_of_path`). -/

namespace MetricAlerts

namespace Number

variable {cs : List Char} {n bound : Nat}

/-- A whole number in decimal: digits, with a plus sign before them if at all. -/
inductive IsDecimal : List Char → Nat → Prop
  | unsigned {cs : List Char} (someOf : cs ≠ []) (digits : ∀ c ∈ cs, c.isDigit = true) :
      IsDecimal cs (digitsValue cs)
  | signed {cs : List Char} (someOf : cs ≠ []) (digits : ∀ c ∈ cs, c.isDigit = true) :
      IsDecimal ('+' :: cs) (digitsValue cs)

theorem isDecimal_digits (n : Nat) : IsDecimal (digits n) n := by
  have isDecimal : IsDecimal (digits n) (digitsValue (digits n)) :=
    .unsigned Nat.toDigits_ne_nil fun _ => isDigit_of_mem_digits
  rwa [digitsValue_digits] at isDecimal

theorem nat?_of_digits (someOf : cs ≠ []) (digits : ∀ c ∈ cs, c.isDigit = true) :
    nat? bound cs = if digitsValue cs < bound then some (digitsValue cs) else none := by
  have all : cs.all Char.isDigit = true := List.all_eq_true.mpr digits
  unfold nat?
  split
  · exact absurd (digits '+' List.mem_cons_self) (by decide)
  · simp [someOf, all]

theorem nat?_plus (someOf : cs ≠ []) (digits : ∀ c ∈ cs, c.isDigit = true) :
    nat? bound ('+' :: cs) = nat? bound cs := by
  have all : cs.all Char.isDigit = true := List.all_eq_true.mpr digits
  rw [nat?_of_digits someOf digits]
  simp [nat?, someOf, all]

theorem nat?_of_isDecimal (decimal : IsDecimal cs n) (less : n < bound) :
    nat? bound cs = some n := by
  cases decimal with
  | unsigned someOf digits => rw [nat?_of_digits someOf digits, if_pos less]
  | signed someOf digits =>
    rw [nat?_plus someOf digits, nat?_of_digits someOf digits, if_pos less]

theorem isDecimal_of_nat? (read : nat? bound cs = some n) : IsDecimal cs n := by
  have hDigits (ds : List Char) (h : (if ds.isEmpty || !ds.all Char.isDigit then none
      else if digitsValue ds < bound then some (digitsValue ds) else none) = some n) :
      ds ≠ [] ∧ (∀ c ∈ ds, c.isDigit = true) ∧ digitsValue ds = n := by
    split at h
    · cases h
    · next some =>
      simp only [Bool.or_eq_true, List.isEmpty_iff, Bool.not_eq_true', List.all_eq_false,
        not_or, not_exists, not_and, not_not] at some
      exact ⟨some.1, some.2, Option.some.inj (Option.ite_none_right_eq_some.mp h).2⟩
  unfold nat? at read
  split at read
  · obtain ⟨someOf, digits, rfl⟩ := hDigits _ read
    exact .signed someOf digits
  · obtain ⟨someOf, digits, rfl⟩ := hDigits _ read
    exact .unsigned someOf digits

/-- A numeral stands for one number only. -/
theorem IsDecimal.unique {m : Nat} (first : IsDecimal cs m) (second : IsDecimal cs n) : m = n := by
  have hFirst := nat?_of_isDecimal first (Nat.lt_succ_of_le (Nat.le_max_left m n))
  have hSecond := nat?_of_isDecimal second (Nat.lt_succ_of_le (Nat.le_max_right m n))
  exact Option.some.inj (hFirst.symm.trans hSecond)

end Number

namespace Json

/-- One step into a value: by a key into an object, or by an index into an array. -/
inductive Step where
  | key (name : String)
  | index (i : Nat)

/-- What a step leads to. -/
def child? : Json → Step → Option Json
  | .object members, .key name => lookup? name members
  | .array items, .index i => items[i]?
  | _, _ => none

/-- What steps lead to, one after another. -/
def follow? (root : Json) : List Step → Option Json
  | [] => some root
  | step :: path => (root.child? step).bind fun child => child.follow? path

/-- How a step is written in a query: a key as it is, an index in decimal. -/
inductive Step.IsWritten : Step → String → Prop
  | key (name : String) : IsWritten (.key name) name
  | index {i : Nat} {text : String} (decimal : Number.IsDecimal text.toList i) :
      IsWritten (.index i) text

/-- No array has more items than a machine word can count. -/
def IsCountable (root : Json) : Prop :=
  ∀ items, (array items).Within root → items.length ≤ UInt64.size

/-- A number, or a string that is a numeral with blanks around it. -/
inductive Holds : Json → Float → Prop
  | int (n : Int) : Holds (.int n) (Float.ofInt n)
  | float (x : Float) : Holds (.float x) x
  | numeral {s : String} {x : Float} (read : Number.float? (Text.trim s.toList) = some x) :
      Holds (.string s) x

variable {root child node other : Json} {step : Step} {segment : String} {path : List Step}
  {segments : List String} {x : Float}

theorem Within.trans {v w : Json} (inner : v.Within w) (outer : w.Within root) : v.Within root := by
  induction outer with
  | self => exact inner
  | member mem _ ih => exact .member mem ih
  | item mem _ ih => exact .item mem ih

theorem Within.of_child? (h : root.child? step = some child) : child.Within root := by
  unfold child? at h
  split at h
  · exact .member (mem_of_lookup? h) .self
  · exact .item (List.mem_of_getElem? h) .self
  · cases h

theorem IsCountable.of_child? (countable : root.IsCountable) (h : root.child? step = some child) :
    child.IsCountable :=
  fun items within => countable items (within.trans (.of_child? h))

/-- Steps that are written in the same way lead to the same value. -/
theorem child?_unique {step' : Step} {child' : Json} (written : step.IsWritten segment)
    (written' : step'.IsWritten segment) (h : root.child? step = some child)
    (h' : root.child? step' = some child') : child = child' := by
  cases root with
  | object members =>
    cases written with
    | key name =>
      cases written' with
      | key name => exact Option.some.inj (h.symm.trans h')
      | index => cases h'
    | index => cases h
  | array items =>
    cases written with
    | key => cases h
    | index decimal =>
      cases written' with
      | key => cases h'
      | index decimal' =>
        obtain rfl := decimal.unique decimal'
        exact Option.some.inj (h.symm.trans h')
  | _ => cases h

theorem follow?_unique {path' : List Step} {node' : Json}
    (written : List.Forall₂ Step.IsWritten path segments)
    (written' : List.Forall₂ Step.IsWritten path' segments) (h : root.follow? path = some node)
    (h' : root.follow? path' = some node') : node = node' := by
  induction written generalizing root path' with
  | nil =>
    cases written'
    exact Option.some.inj (h.symm.trans h')
  | cons first _ ih =>
    cases written' with
    | cons first' rest' =>
      obtain ⟨child, hChild, h⟩ := Option.bind_eq_some_iff.mp h
      obtain ⟨child', hChild', h'⟩ := Option.bind_eq_some_iff.mp h'
      obtain rfl := child?_unique first first' hChild hChild'
      exact ih rest' h h'

end Json

namespace Query

open MetricAlerts.Text

variable {root child node leaf : Json} {step : Json.Step} {segment : String}
  {path : List Json.Step} {segments texts : List String} {q : Query} {x : Float}

theorem child?_of_isWritten (countable : root.IsCountable) (written : step.IsWritten segment)
    (h : root.child? step = some child) : Query.child? root segment = some child := by
  cases written with
  | key name =>
    cases root with
    | object members => exact h
    | _ => cases h
  | @index i text decimal =>
    cases root with
    | array items =>
      have less : i < items.length := (List.getElem?_eq_some_iff.mp h).1
      have fits : i < UInt64.size := Nat.lt_of_lt_of_le less (countable items .self)
      rw [Query.child?, Number.nat?_of_isDecimal decimal fits]
      exact h
    | _ => cases h

theorem exists_step_of_child? (h : Query.child? root segment = some child) :
    ∃ step : Json.Step, step.IsWritten segment ∧ root.child? step = some child := by
  cases root with
  | object members => exact ⟨.key segment, .key segment, h⟩
  | array items =>
    obtain ⟨i, read, found⟩ := Option.bind_eq_some_iff.mp h
    exact ⟨.index i, .index (Number.isDecimal_of_nat? read), found⟩
  | _ => cases h

theorem walk?_of_follow? (countable : root.IsCountable)
    (written : List.Forall₂ Json.Step.IsWritten path segments)
    (h : root.follow? path = some node) : walk? root segments = some node := by
  induction written generalizing root with
  | nil => exact h
  | cons first _ ih =>
    obtain ⟨child, hChild, h⟩ := Option.bind_eq_some_iff.mp h
    rw [walk?, child?_of_isWritten countable first hChild]
    exact ih (countable.of_child? hChild) h

theorem exists_follow?_of_walk? (h : walk? root segments = some node) :
    ∃ path, List.Forall₂ Json.Step.IsWritten path segments ∧ root.follow? path = some node := by
  induction segments generalizing root with
  | nil => exact ⟨[], .nil, h⟩
  | cons segment segments ih =>
    rw [walk?] at h
    split at h
    · next child hChild =>
      obtain ⟨step, first, hStep⟩ := exists_step_of_child? hChild
      obtain ⟨path, rest, hPath⟩ := ih h
      exact ⟨step :: path, .cons first rest, by rw [Json.follow?, hStep]; exact hPath⟩
    · cases h

/-- The paths whose steps are written in a query. -/
inductive Addresses : Query → List Json.Step → Prop
  | path {segments : List String} {path : List Json.Step}
      (written : List.Forall₂ Json.Step.IsWritten path segments) : Addresses (.path segments) path
  | key (name : String) : Addresses (.key name) [.key name]

theorem node?_of_addresses (countable : root.IsCountable) (addresses : q.Addresses path)
    (h : root.follow? path = some node) : q.node? root = some node := by
  cases addresses with
  | path written => exact walk?_of_follow? countable written h
  | key name =>
    obtain ⟨child, hChild, h⟩ := Option.bind_eq_some_iff.mp h
    cases h
    cases root with
    | object members => exact hChild
    | _ => cases hChild

theorem exists_addresses_of_node? (isPath : ∀ metric labels, q ≠ .selector metric labels)
    (h : q.node? root = some node) :
    ∃ path, q.Addresses path ∧ root.follow? path = some node := by
  cases q with
  | selector metric labels => exact absurd rfl (isPath metric labels)
  | path segments =>
    obtain ⟨path, written, hPath⟩ := exists_follow?_of_walk? h
    exact ⟨path, .path written, hPath⟩
  | key name =>
    cases root with
    | object members => exact ⟨[.key name], .key name, Option.bind_eq_some_iff.mpr ⟨node, h, rfl⟩⟩
    | _ => cases h

theorem Addresses.unique {path' : List Json.Step} {node' : Json} (addresses : q.Addresses path)
    (addresses' : q.Addresses path') (h : root.follow? path = some node)
    (h' : root.follow? path' = some node') : node = node' := by
  cases addresses with
  | path written =>
    cases addresses' with
    | path written' => exact Json.follow?_unique written written' h h'
  | key name =>
    cases addresses'
    exact Option.some.inj (h.symm.trans h')

theorem coerce?_eq_some_iff : coerce? node = some x ↔ node.Holds x ∧ x.isFinite = true := by
  constructor
  · intro h
    obtain ⟨hNumber, finite⟩ := Option.filter_eq_some_iff.mp h
    refine ⟨?_, finite⟩
    cases node with
    | int n => cases hNumber; exact .int n
    | float y => cases hNumber; exact .float x
    | string s => exact .numeral hNumber
    | _ => cases hNumber
  · rintro ⟨holds, finite⟩
    refine Option.filter_eq_some_iff.mpr ⟨?_, finite⟩
    cases holds with
    | numeral read => exact read
    | _ => rfl

/-! ### The text of a path -/

theorem isWord_of_isDecimal {cs : List Char} {i : Nat} (decimal : Number.IsDecimal cs i) :
    IsWord ['.', '{'] cs := by
  have hChars : cs ≠ [] ∧ ∀ c ∈ cs, c.isDigit = true ∨ c = '+' := by
    cases decimal with
    | unsigned someOf digits => exact ⟨someOf, fun c hc => .inl (digits c hc)⟩
    | signed someOf digits =>
      exact ⟨List.cons_ne_nil _ _, fun c hc => (List.mem_cons.mp hc).elim .inr
        fun hc => .inl (digits c hc)⟩
  obtain ⟨someOf, hChars⟩ := hChars
  have noBlank : ∀ c ∈ cs, isBlank c = false := by
    intro c hc
    rcases hChars c hc with digit | rfl
    · exact isBlank_of_isDigit digit
    · decide
  refine ⟨someOf, isTrimmed_iff.mpr ⟨fun c hc => noBlank c (List.mem_of_mem_head? hc),
    fun c hc => noBlank c (List.mem_of_mem_getLast? hc)⟩, ?_⟩
  intro c hc mem
  simp only [List.mem_cons, List.not_mem_nil, or_false] at hc
  rcases hChars c mem with digit | rfl
  · rcases hc with rfl | rfl <;> exact absurd digit (by decide)
  · rcases hc with h | h <;> exact absurd h (by decide)

theorem isWord_of_isWritten (words : ∀ name, .key name ∈ path → IsWord ['.', '{'] name.toList)
    (written : List.Forall₂ Json.Step.IsWritten path texts) :
    ∀ text ∈ texts, IsWord ['.', '{'] text.toList := by
  induction written with
  | nil => exact fun _ h => absurd h List.not_mem_nil
  | cons first _ ih =>
    refine List.forall_mem_cons.mpr ⟨?_, ih fun name h => words name (List.mem_cons_of_mem _ h)⟩
    cases first with
    | key => exact words _ List.mem_cons_self
    | index decimal => exact isWord_of_isDecimal decimal

theorem text_path (segments : List String) :
    (Query.path segments).text = ".".intercalate segments := by
  rw [← String.toList_inj, String.toList_intercalate, Query.text, String.toList_ofList]
  rfl

/-- The steps of a path, joined by points, are read as a query for it. -/
theorem exists_parse (long : 2 ≤ path.length ∨ ∃ name, path = [.key name])
    (words : ∀ name, .key name ∈ path → IsWord ['.', '{'] name.toList)
    (written : List.Forall₂ Json.Step.IsWritten path texts) :
    ∃ q, parse (".".intercalate texts) = .ok q ∧ q.Addresses path := by
  have hWords := isWord_of_isWritten words written
  rcases long with two | ⟨name, rfl⟩
  · rw [← text_path]
    exact ⟨.path texts, parse_text_path (written.length_eq ▸ two) hWords, .path written⟩
  · obtain ⟨text, _, first, rest, rfl⟩ := List.forall₂_cons_left_iff.mp written
    cases rest
    cases first
    rw [String.intercalate_singleton]
    have hKey := parse_text_key (hWords name List.mem_cons_self)
    rw [Query.text, chars, String.ofList_toList] at hKey
    exact ⟨.key name, hKey, .key name⟩

/-- Where a path of keys in objects and indexes in arrays leads to a finite number, the text of its
steps with points between them is a query for this number, provided that its keys are fit for one
and that it has two steps or is a key of the root. A number that a query for a path has is finite,
and is what the one value holds that one comes to on a path written in the query; if there is none,
the query has no number. -/
theorem resolve?_of_path :
    (∀ (root leaf : Json) (path : List Json.Step) (texts : List String) (x : Float),
      root.IsCountable → root.follow? path = some leaf → leaf.Holds x → x.isFinite = true →
      (2 ≤ path.length ∨ ∃ name, path = [.key name]) →
      (∀ name, .key name ∈ path → IsWord ['.', '{'] name.toList) →
      List.Forall₂ Json.Step.IsWritten path texts →
      ∃ q, parse (".".intercalate texts) = .ok q ∧ q.Addresses path ∧
        q.resolve? root = some x) ∧
    ∀ q : Query, (∀ metric labels, q ≠ .selector metric labels) → ∀ root : Json,
      (∀ x, q.resolve? root = some x → x.isFinite = true ∧
        ∃ path node, q.Addresses path ∧ root.follow? path = some node ∧ node.Holds x ∧
          ∀ path' node', q.Addresses path' → root.follow? path' = some node' → node' = node) ∧
      ((∀ path, q.Addresses path → root.follow? path = none) → q.resolve? root = none) := by
  constructor
  · intro root leaf path texts x countable leads holds finite long words written
    obtain ⟨q, hParse, addresses⟩ := exists_parse long words written
    refine ⟨q, hParse, addresses, Option.bind_eq_some_iff.mpr ⟨leaf, ?_, ?_⟩⟩
    · exact node?_of_addresses countable addresses leads
    · exact coerce?_eq_some_iff.mpr ⟨holds, finite⟩
  · intro q isPath root
    constructor
    · intro x h
      obtain ⟨node, hNode, hNumber⟩ := Option.bind_eq_some_iff.mp h
      obtain ⟨holds, finite⟩ := coerce?_eq_some_iff.mp hNumber
      obtain ⟨path, addresses, leads⟩ := exists_addresses_of_node? isPath hNode
      exact ⟨finite, path, node, addresses, leads, holds, fun path' node' addresses' leads' =>
        addresses'.unique addresses leads' leads⟩
    · intro missing
      refine Option.bind_eq_none_iff.mpr fun node hNode => ?_
      obtain ⟨path, addresses, leads⟩ := exists_addresses_of_node? isPath hNode
      rw [missing path addresses] at leads
      cases leads

/-- The errors of a host, whose count is a string. -/
def hostErrors : Json := .object [("hosts", .array [.object [("5xx", .string " 17 ")]])]

theorem isCountable_hostErrors : hostErrors.IsCountable := by
  intro items within
  have hPart := Json.mem_parts_of_within within
  simp only [hostErrors, Json.parts, Json.memberParts, Json.itemParts, List.append_nil,
    List.mem_cons, List.not_mem_nil, or_false, Json.array.injEq, reduceCtorEq, false_or] at hPart
  rw [hPart]
  decide

/-- The key looks like a number, and is one of an object all the same. -/
theorem resolve?_of_path_hostErrors :
    let path : List Json.Step := [.key "hosts", .index 0, .key "5xx"]
    hostErrors.follow? path = some (.string " 17 ") ∧
      List.Forall₂ Json.Step.IsWritten path ["hosts", "0", "5xx"] ∧
      ∃ q, parse "hosts.0.5xx" = .ok q ∧ q.resolve? hostErrors = some 17 ∧
        ∃ path' node, q.Addresses path' ∧ hostErrors.follow? path' = some node ∧ node.Holds 17 := by
  intro path
  have leads : hostErrors.follow? path = some (.string " 17 ") := rfl
  have written : List.Forall₂ Json.Step.IsWritten path ["hosts", "0", "5xx"] :=
    .cons (.key _) (.cons (.index (Number.isDecimal_digits 0)) (.cons (.key _) .nil))
  have holds : (Json.string " 17 ").Holds 17 := .numeral (by decide +kernel)
  have words : ∀ name, .key name ∈ path → IsWord ['.', '{'] name.toList := by
    intro name mem
    simp only [path, List.mem_cons, Json.Step.key.injEq, reduceCtorEq, List.not_mem_nil, false_or,
      or_false] at mem
    rcases mem with rfl | rfl <;> exact ⟨by decide, by decide, by simp⟩
  obtain ⟨reaches, reached⟩ := resolve?_of_path
  obtain ⟨q, hParse, addresses, hNumber⟩ := reaches hostErrors _ path _ 17 isCountable_hostErrors
    leads holds (by decide +kernel) (.inl (by decide)) words written
  have isPath : ∀ metric labels, q ≠ .selector metric labels := by
    rintro metric labels rfl
    cases addresses
  obtain ⟨-, path', node, addresses', leads', holds', -⟩ :=
    (reached q isPath hostErrors).1 17 hNumber
  exact ⟨leads, written, q, hParse, hNumber, path', node, addresses', leads', holds'⟩

end Query
end MetricAlerts
