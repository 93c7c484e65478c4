import MetricAlerts.Proofs.Query.Reading

/-! The texts of selectors as they may be written: a metric, then entries between braces, with
blanks almost anywhere. Each kind of text carries what it has to keep clear of, so that there is no
text here which is not one of the grammar. `parse_selectorText` says that every such text is read,
and as what. -/

namespace MetricAlerts.Query

open MetricAlerts.Text

/-- Blanks that stand around something. -/
abbrev Blanks := {cs : List Char // IsBlankText cs}

theorem Blanks.isPlain (b : Blanks) : IsPlain b.val := by
  intro c hc
  have hBlank := b.property c hc
  refine ⟨?_, ?_, ?_⟩ <;>
  · rintro rfl
    exact absurd hBlank (by decide)

/-! Values. -/

inductive ValueText where
  | quoted (quote : Char) (isQuote : quote = '"' ∨ quote = '\'') (content : List Char)
    (noQuote : quote ∉ content)
  | bare (content : List Char) (plain : IsPlain content)

namespace ValueText

def chars : ValueText → List Char
  | quoted quote _ content _ => quote :: content ++ [quote]
  | bare content _ => content

/-- Between quotes every character counts, else the blanks at the ends do not. -/
def meaning : ValueText → List Char
  | quoted _ _ content _ => content
  | bare content _ => trim content

theorem isClosed_chars (v : ValueText) : IsClosed v.chars := by
  cases v with
  | quoted quote isQuote content noQuote => exact isClosed_quoted isQuote noQuote
  | bare content plain => exact plain.isClosed

theorem unquote_trim_chars (v : ValueText) : unquote (trim v.chars) = v.meaning := by
  cases v with
  | quoted quote isQuote content noQuote =>
    have hBlank : isBlank quote = false := by
      rcases isQuote with rfl | rfl <;> decide
    have hTrim : trim (quote :: content ++ [quote]) = quote :: content ++ [quote] := by
      rw [isTrimmed_iff, List.getLast?_concat]
      simp [hBlank]
    rw [chars, hTrim, meaning]
    rcases isQuote with rfl | rfl
    · exact unquote_doubleQuoted content
    · exact unquote_singleQuoted content
  | bare content plain =>
    have noQuoteAhead : ∀ c, (trim content).head? = some c → c ≠ '"' ∧ c ≠ '\'' := by
      intro c hc
      exact (plain c (mem_of_mem_trim (List.mem_of_head? hc))).2
    exact unquote_of_head? (fun h => (noQuoteAhead _ h).1 rfl) (fun h => (noQuoteAhead _ h).2 rfl)

end ValueText

/-! Matchers. -/

structure MatcherText where
  beforeName : Blanks
  name : List Char
  isName : ¬IsBlankText name
  plain : IsPlain name
  noSign : '=' ∉ name
  afterName : Blanks
  beforeValue : Blanks
  value : ValueText
  afterValue : Blanks

namespace MatcherText

variable (m : MatcherText)

/-- What stands before the sign. -/
def left : List Char := m.beforeName.val ++ (m.name ++ m.afterName.val)

/-- What stands after the sign. -/
def right : List Char := m.beforeValue.val ++ (m.value.chars ++ m.afterValue.val)

def chars : List Char := m.left ++ '=' :: m.right

def label : String × String := (String.ofList (trim m.name), String.ofList m.value.meaning)

theorem trim_left : trim m.left = trim m.name := by
  rw [left, trim_blank_append m.beforeName.property, trim_append_blank _ m.afterName.property]

theorem trim_right : trim m.right = trim m.value.chars := by
  rw [right, trim_blank_append m.beforeValue.property, trim_append_blank _ m.afterValue.property]

theorem noSign_left : '=' ∉ m.left := by
  have noBlank (b : Blanks) : '=' ∉ b.val := fun h => absurd (b.property _ h) (by decide)
  simp [left, noBlank, m.noSign]

theorem isClosed_chars : IsClosed m.chars := by
  have hLeft : IsClosed m.left :=
    (Blanks.isPlain _).isClosed.append (m.plain.isClosed.append (Blanks.isPlain _).isClosed)
  have hRight : IsClosed m.right :=
    (Blanks.isPlain _).isClosed.append
      (m.value.isClosed_chars.append (Blanks.isPlain _).isClosed)
  have hSign : IsClosed ['='] := by decide
  exact hLeft.append (hSign.append hRight)

theorem trim_chars_ne_nil : trim m.chars ≠ [] := by
  rw [ne_eq, trim_eq_nil_iff]
  intro hBlank
  exact absurd (hBlank '=' (by simp [chars])) (by decide)

theorem readMatcher_trim_chars : readMatcher (trim m.chars) = .ok m.label := by
  have isName : trim m.left ≠ [] := by
    rw [trim_left, ne_eq, trim_eq_nil_iff]
    exact m.isName
  rw [chars, readMatcher_trim m.noSign_left isName, trim_left, trim_right,
    m.value.unquote_trim_chars, label]

end MatcherText

/-! Selectors. -/

inductive EntryText where
  | blank (blanks : Blanks)
  | matcher (m : MatcherText)

namespace EntryText

def chars : EntryText → List Char
  | blank blanks => blanks.val
  | matcher m => m.chars

def matcher? : EntryText → Option MatcherText
  | blank _ => none
  | matcher m => some m

theorem isClosed_chars (e : EntryText) : IsClosed e.chars := by
  cases e with
  | blank blanks => exact (Blanks.isPlain blanks).isClosed
  | matcher m => exact m.isClosed_chars

/-- Of the entries only the matchers are left. -/
theorem filter_trim_chars (entries : List EntryText) :
    ((entries.map chars).map trim).filter (fun m => !m.isEmpty) =
      (entries.filterMap matcher?).map fun m => trim m.chars := by
  induction entries with
  | nil => rfl
  | cons e entries ih =>
    cases e with
    | blank blanks =>
      have hBlank : trim blanks.val = [] := trim_eq_nil_iff.mpr blanks.property
      simpa [chars, matcher?, List.filterMap_cons, hBlank] using ih
    | matcher m => simpa [chars, matcher?, List.filterMap_cons, m.trim_chars_ne_nil] using ih

end EntryText

structure SelectorText where
  before : Blanks
  metric : List Char
  isMetric : ¬IsBlankText metric
  noBrace : '{' ∉ metric
  entries : List EntryText
  after : Blanks

namespace SelectorText

variable (s : SelectorText)

def text : String :=
  String.ofList (s.before.val ++ (s.metric ++ '{' ::
    ([','].intercalate (s.entries.map EntryText.chars) ++ ['}'])) ++ s.after.val)

/-- The labels in the order in which they are written. -/
def labels : List (String × String) :=
  (s.entries.filterMap EntryText.matcher?).map MatcherText.label

end SelectorText

example : ∃ s : SelectorText,
    s.text = " http \x7bcode = \"5,x\", \x7d" ∧ s.labels = [("code", "5,x")] := by
  let nothing : Blanks := ⟨[], by decide⟩
  let one : Blanks := ⟨[' '], by decide⟩
  let code : MatcherText :=
    { beforeName := nothing, name := "code".toList, isName := by decide, plain := by decide,
      noSign := by decide, afterName := one, beforeValue := one,
      value := .quoted '"' (.inl rfl) "5,x".toList (by decide), afterValue := nothing }
  exact ⟨{ before := one, metric := "http ".toList, isMetric := by decide, noBrace := by decide,
           entries := [.matcher code, .blank one], after := nothing }, by decide⟩

/-- Every text of the grammar is read as a selector for its metric, with the last value that it
gives to each name. -/
theorem parse_selectorText (s : SelectorText) :
    ∃ labels, parse s.text = .ok (.selector (String.ofList (trim s.metric)) labels) ∧
      ∀ name, labels.get? name = lookup? name s.labels.reverse := by
  have hClosed : ∀ piece ∈ s.entries.map EntryText.chars, IsClosed piece := by
    intro piece hPiece
    obtain ⟨e, -, rfl⟩ := List.mem_map.mp hPiece
    exact e.isClosed_chars
  have hMatchers : matchers ([','].intercalate (s.entries.map EntryText.chars)) =
      (s.entries.filterMap EntryText.matcher?).map fun m => trim m.chars := by
    rw [matchers_intercalate hClosed, EntryText.filter_trim_chars]
  have hRead : readMatchers .empty ((s.entries.filterMap EntryText.matcher?).map
      fun m => trim m.chars) = .ok (Dict.ofList s.labels) :=
    readMatchers_map _ MatcherText.label _ (fun m _ => m.readMatcher_trim_chars) .empty
  refine ⟨Dict.ofList s.labels, ?_, Dict.get?_ofList s.labels⟩
  rw [parse, SelectorText.text, String.toList_ofList, trim_append_blank _ s.after.property,
    trim_blank_append s.before.property, parseTrimmed_trim_brace s.noBrace s.isMetric, hMatchers,
    hRead]
  rfl

end MetricAlerts.Query
