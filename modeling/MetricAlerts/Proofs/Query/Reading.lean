import MetricAlerts.Proofs.Dict
import MetricAlerts.Proofs.Query.Cuts
import MetricAlerts.Proofs.Text.Trim

/-! How the parts of a query are read: a text is taken apart at the first place of a character, a
value loses the quotes around it, and matchers give their labels one after another. -/

namespace MetricAlerts.Query

open MetricAlerts.Text

variable {c q : Char} {cs before after name value : List Char}

theorem splitAt?_append (h : c ∉ before) (after : List Char) :
    splitAt? c (before ++ c :: after) = some (before, after) := by
  have hPass : ∀ d ∈ before, (d != c) = true := fun d hd => by
    rw [bne_iff_ne]
    rintro rfl
    exact h hd
  simp [splitAt?, List.dropWhile_append_of_pos hPass, List.takeWhile_append_of_pos hPass]

theorem splitAt?_eq_none (h : c ∉ cs) : splitAt? c cs = none := by
  have hPass : ∀ d ∈ cs, (d != c) = true := fun d hd => by
    rw [bne_iff_ne]
    rintro rfl
    exact h hd
  rw [splitAt?, List.dropWhile_eq_nil_iff.mpr hPass]

/-- A text is taken apart at the first place of the character, and nowhere if it has none. -/
theorem splitAt?_cases (c : Char) (cs : List Char) :
    splitAt? c cs = none ∧ c ∉ cs ∨
      ∃ before after, splitAt? c cs = some (before, after) ∧ cs = before ++ c :: after ∧
        c ∉ before := by
  by_cases h : c ∈ cs
  · obtain ⟨before, after, rfl, hBefore⟩ := List.eq_append_cons_of_mem h
    exact .inr ⟨before, after, splitAt?_append hBefore after, rfl, hBefore⟩
  · exact .inl ⟨splitAt?_eq_none h, h⟩

/-! Values. -/

theorem unquoteWith?_quoted (q : Char) (cs : List Char) :
    unquoteWith? q (q :: cs ++ [q]) = some cs := by
  simp [unquoteWith?]

theorem unquoteWith?_of_head? (h : cs.head? ≠ some q) : unquoteWith? q cs = none := by
  cases cs with
  | nil => rfl
  | cons c cs => rw [unquoteWith?, if_neg fun same => h (congrArg some same)]

/-- What quotes have been taken from had them at both ends. -/
theorem eq_of_unquoteWith? {inner : List Char} (h : unquoteWith? q cs = some inner) :
    cs = q :: inner ++ [q] := by
  cases cs with
  | nil => cases h
  | cons c rest =>
    simp only [unquoteWith?] at h
    split at h
    · next same =>
      split at h
      · next d middle hReverse =>
        split at h
        · next last =>
          cases h
          rw [same, ← last, List.cons_append, ← List.reverse_cons, ← hReverse,
            List.reverse_reverse]
        · cases h
      · cases h
    · cases h

theorem unquote_doubleQuoted (cs : List Char) : unquote ('"' :: cs ++ ['"']) = cs := by
  rw [unquote, unquoteWith?_quoted]

theorem unquote_singleQuoted (cs : List Char) : unquote ('\'' :: cs ++ ['\'']) = cs := by
  rw [unquote, unquoteWith?_of_head? (by simp), unquoteWith?_quoted]
  rfl

theorem unquote_of_head? (double : cs.head? ≠ some '"') (single : cs.head? ≠ some '\'') :
    unquote cs = cs := by
  rw [unquote, unquoteWith?_of_head? double, unquoteWith?_of_head? single]
  rfl

/-- A value stands between double quotes, or between single quotes, or is the text itself. -/
theorem unquote_cases (cs : List Char) :
    cs = '"' :: unquote cs ++ ['"'] ∨ cs = '\'' :: unquote cs ++ ['\''] ∨ cs = unquote cs := by
  unfold unquote
  cases double : unquoteWith? '"' cs with
  | some inner => exact .inl (eq_of_unquoteWith? double)
  | none =>
    cases single : unquoteWith? '\'' cs with
    | some inner => exact .inr (.inl (eq_of_unquoteWith? single))
    | none => exact .inr (.inr rfl)

/-! Matchers. -/

theorem readMatcher_append (noSign : '=' ∉ name) (isName : trim name ≠ []) (value : List Char) :
    readMatcher (name ++ '=' :: value) =
      .ok (String.ofList (trim name), String.ofList (unquote (trim value))) := by
  simp [readMatcher, splitAt?_append noSign, isName]

/-- The name of a label is what stands before the first sign, and its value what stands after. -/
theorem eq_of_readMatcher {label : String × String} (h : readMatcher cs = .ok label) :
    ∃ name value, cs = name ++ '=' :: value ∧ '=' ∉ name ∧ trim name ≠ [] ∧
      label = (String.ofList (trim name), String.ofList (unquote (trim value))) := by
  obtain ⟨hNone, -⟩ | ⟨name, value, hSome, rfl, noSign⟩ := splitAt?_cases '=' cs
  · simp [readMatcher, hNone] at h
  · by_cases isName : trim name = []
    · simp [readMatcher, hSome, isName] at h
    · rw [readMatcher_append noSign isName] at h
      exact ⟨name, value, rfl, noSign, isName, (Except.ok.inj h).symm⟩

/-- The blanks at the ends of a matcher make no difference. -/
theorem readMatcher_trim (noSign : '=' ∉ name) (isName : trim name ≠ []) (value : List Char) :
    readMatcher (trim (name ++ '=' :: value)) =
      .ok (String.ofList (trim name), String.ofList (unquote (trim value))) := by
  have noSignLeft : '=' ∉ name.dropWhile isBlank :=
    fun h => noSign ((List.dropWhile_suffix _).subset h)
  have isNameLeft : trim (name.dropWhile isBlank) ≠ [] := by rwa [trim_dropWhile]
  rw [trim_append_cons (by decide), readMatcher_append noSignLeft isNameLeft, trim_dropWhile,
    trim_trimEnd]

theorem readMatchers_map {α : Type} (text : α → List Char) (label : α → String × String)
    (items : List α) (reads : ∀ a ∈ items, readMatcher (text a) = .ok (label a))
    (labels : Dict String) :
    readMatchers labels (items.map text) = .ok (labels.insertAll (items.map label)) := by
  induction items generalizing labels with
  | nil => rfl
  | cons a items ih =>
    rw [List.map_cons, readMatchers, reads a List.mem_cons_self]
    exact ih (fun b hb => reads b (List.mem_cons_of_mem _ hb)) _

/-- Matchers that can be read are all read, and their labels go into the dictionary. -/
theorem eq_of_readMatchers {labels result : Dict String} {matchers : List (List Char)}
    (h : readMatchers labels matchers = .ok result) :
    (∀ m ∈ matchers, ∃ label, readMatcher m = .ok label) ∧
      result = labels.insertAll (matchers.filterMap fun m => (readMatcher m).toOption) := by
  induction matchers generalizing labels with
  | nil => exact ⟨by simp, (Except.ok.inj h).symm⟩
  | cons m matchers ih =>
    rw [readMatchers] at h
    split at h
    · cases h
    · next name value hRead =>
      obtain ⟨reads, hResult⟩ := ih h
      refine ⟨?_, by simpa [hRead, Except.toOption] using hResult⟩
      intro m' hm'
      rcases List.mem_cons.mp hm' with rfl | hm'
      · exact ⟨_, hRead⟩
      · exact reads m' hm'

theorem matchers_intercalate {pieces : List (List Char)} (h : ∀ piece ∈ pieces, IsClosed piece) :
    matchers ([','].intercalate pieces) = (pieces.map trim).filter fun m => !m.isEmpty := by
  by_cases noneOf : pieces = []
  · subst noneOf
    rfl
  · rw [matchers_eq, (separable_of_isClosed h noneOf).splitMatchers_intercalate]

/-- A text with a brace is a selector. -/
theorem parseTrimmed_brace (noBrace : '{' ∉ before) (isMetric : trim before ≠ [])
    (body : List Char) :
    parseTrimmed (before ++ '{' :: (body ++ ['}'])) =
      (readMatchers .empty (matchers body)).map (.selector (String.ofList (trim before))) := by
  have hSplit := splitAt?_append noBrace (body ++ ['}'])
  simp only [parseTrimmed, hSplit, parseSelector, List.reverse_append, List.reverse_singleton,
    List.singleton_append, List.reverse_reverse]
  simp only [List.isEmpty_iff, List.append_eq_nil_iff, reduceCtorEq, and_false, if_false, isMetric]
  cases readMatchers .empty (matchers body) <;> rfl

/-- The blanks around a selector make no difference. -/
theorem parseTrimmed_trim_brace (noBrace : '{' ∉ before) (isMetric : ¬IsBlankText before)
    (body : List Char) :
    parseTrimmed (trim (before ++ '{' :: (body ++ ['}']))) =
      (readMatchers .empty (matchers body)).map (.selector (String.ofList (trim before))) := by
  have noBraceLeft : '{' ∉ before.dropWhile isBlank :=
    fun h => noBrace ((List.dropWhile_suffix _).subset h)
  have isMetricLeft : trim (before.dropWhile isBlank) ≠ [] := by
    rwa [trim_dropWhile, ne_eq, trim_eq_nil_iff]
  have hEnd : trimEnd (body ++ ['}']) = body ++ ['}'] := trimEnd_append_cons (by decide) body []
  rw [trim_append_cons (by decide), hEnd, parseTrimmed_brace noBraceLeft isMetricLeft,
    trim_dropWhile]

theorem parseSelector_cases {query : List Char} {q : Query}
    (h : parseSelector query before after = .ok q) :
    trim before ≠ [] ∧ ∃ body labels, after = body ++ ['}'] ∧
      readMatchers .empty (matchers body) = .ok labels ∧
      q = .selector (String.ofList (trim before)) labels := by
  by_cases isMetric : trim before = []
  · simp [parseSelector, isMetric] at h
  · refine ⟨isMetric, ?_⟩
    simp only [parseSelector, List.isEmpty_iff, isMetric, if_false] at h
    split at h
    · next body hReverse =>
      have hAfter : after = body.reverse ++ ['}'] := by
        rw [← List.reverse_cons, ← hReverse, List.reverse_reverse]
      cases hRead : readMatchers .empty (matchers body.reverse) with
      | error e => simp [hRead, bind, Except.bind] at h
      | ok labels =>
        refine ⟨body.reverse, labels, hAfter, hRead, ?_⟩
        simpa [hRead, bind, Except.bind, pure, Except.pure] using h.symm
    · cases h

/-- The three ways in which a text is a query. -/
theorem parseTrimmed_cases {q : Query} (h : parseTrimmed cs = .ok q) :
    (∃ before body labels, cs = before ++ '{' :: (body ++ ['}']) ∧ '{' ∉ before ∧
      trim before ≠ [] ∧ readMatchers .empty (matchers body) = .ok labels ∧
      q = .selector (String.ofList (trim before)) labels) ∨
    ('{' ∉ cs ∧ '.' ∈ cs ∧ (∀ piece ∈ pieces '.' cs, trim piece ≠ []) ∧
      q = .path ((pieces '.' cs).map (String.ofList ∘ trim))) ∨
    ('{' ∉ cs ∧ '.' ∉ cs ∧ cs ≠ [] ∧ q = .key (String.ofList cs)) := by
  unfold parseTrimmed at h
  split at h
  · cases h
  · next someOf =>
    obtain ⟨hNone, noBrace⟩ | ⟨before, after, hSome, hText, noBrace⟩ := splitAt?_cases '{' cs
    · right
      rw [hNone] at h
      by_cases hasPoint : '.' ∈ cs
      · left
        by_cases allSome : ∀ piece ∈ pieces '.' cs, trim piece ≠ []
        · have hSegments : ((pieces '.' cs).map trim).any List.isEmpty = false := by
            simpa using allSome
          simp only [List.contains_iff_mem, hasPoint, if_true, hSegments] at h
          refine ⟨noBrace, hasPoint, allSome, ?_⟩
          simpa using h.symm
        · have hSegments : ((pieces '.' cs).map trim).any List.isEmpty = true := by
            simpa using allSome
          simp [hasPoint, hSegments] at h
      · right
        refine ⟨noBrace, hasPoint, by simpa using someOf, ?_⟩
        simpa [hasPoint] using h.symm
    · left
      rw [hSome] at h
      obtain ⟨isMetric, body, labels, rfl, hRead, rfl⟩ := parseSelector_cases h
      exact ⟨before, body, labels, hText, noBrace, isMetric, hRead, rfl⟩

end MetricAlerts.Query
