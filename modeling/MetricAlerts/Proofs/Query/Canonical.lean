import Mathlib.Data.List.Nodup
import MetricAlerts.Proofs.Query.Weight

/-! The text of a query that has been read. Paths and keys are read back from it. A selector has
each value between double quotes there, whatever is in the value, and is read back exactly if the
text still falls apart into its labels (`parse_text_iff`). -/

namespace MetricAlerts.Query

open MetricAlerts.Text

variable {stops cs : List Char} {text : String} {label : String × String} {labels : Dict String}
  {segments : List String} {q : Query}

/-- Text that is not empty, has no blanks at its ends and some characters nowhere. -/
structure IsWord (stops cs : List Char) : Prop where
  ne_nil : cs ≠ []
  trimmed : trim cs = cs
  clear : ∀ c ∈ stops, c ∉ cs

theorem isWord_trim (someOf : trim cs ≠ []) (clear : ∀ c ∈ stops, c ∉ cs) :
    IsWord stops (trim cs) :=
  ⟨someOf, trim_trim cs, fun c hc h => clear c hc (mem_of_mem_trim h)⟩

/-- What is known of the names in a query that has been read. -/
def IsRead : Query → Prop
  | .selector metric labels =>
    IsWord ['{'] metric.toList ∧ ∀ label ∈ labels.entries, IsWord ['='] label.1.toList
  | .path segments => 2 ≤ segments.length ∧ ∀ s ∈ segments, IsWord ['.', '{'] s.toList
  | .key name => IsWord ['.', '{'] name.toList

theorem isWord_of_readMatchers {matchers : List (List Char)}
    (h : readMatchers .empty matchers = .ok labels) :
    ∀ label ∈ labels.entries, IsWord ['='] label.1.toList := by
  obtain ⟨-, rfl⟩ := eq_of_readMatchers h
  intro label hLabel
  obtain ⟨gone, hPerm⟩ := Dict.exists_perm_insertAll (.empty : Dict String)
    (matchers.filterMap fun m => (readMatcher m).toOption)
  have hMem := hPerm.symm.subset (List.mem_append_left gone hLabel)
  obtain ⟨m, -, hm⟩ := List.mem_filterMap.mp hMem
  cases hRead : readMatcher m with
  | error e => simp [hRead, Except.toOption] at hm
  | ok found =>
    obtain rfl : found = label := by simpa [hRead, Except.toOption] using hm
    obtain ⟨name, value, -, noSign, isName, rfl⟩ := eq_of_readMatcher hRead
    rw [String.toList_ofList]
    exact isWord_trim isName (by simpa using noSign)

theorem isRead_of_parse (h : parse text = .ok q) : q.IsRead := by
  obtain ⟨before, body, labels, -, noBrace, isMetric, hRead, rfl⟩ |
    ⟨noBrace, hasPoint, allSome, rfl⟩ | ⟨noBrace, noPoint, someOf, rfl⟩ := parseTrimmed_cases h
  · refine ⟨?_, isWord_of_readMatchers hRead⟩
    rw [String.toList_ofList]
    exact isWord_trim isMetric (by simpa using noBrace)
  · constructor
    · have hCount : 0 < (trim text.toList).count '.' := List.count_pos_iff.mpr hasPoint
      rw [List.length_map, length_pieces]
      omega
    · intro s hs
      obtain ⟨piece, hPiece, rfl⟩ := List.mem_map.mp hs
      rw [Function.comp_apply, String.toList_ofList]
      refine isWord_trim (allSome piece hPiece) fun c hc hMem => ?_
      obtain ⟨hText, notPoint⟩ := mem_of_mem_pieces hPiece hMem
      simp only [List.mem_cons, List.not_mem_nil, or_false] at hc
      rcases hc with rfl | rfl
      · exact notPoint rfl
      · exact noBrace hText
  · refine ⟨?_, ?_, ?_⟩ <;> rw [String.toList_ofList]
    · exact someOf
    · exact trim_trim _
    · simpa using ⟨noPoint, noBrace⟩

/-! Paths and keys. -/

theorem parse_text_key {name : String} (h : IsWord ['.', '{'] name.toList) :
    parse (Query.key name).text = .ok (.key name) := by
  have noBrace : '{' ∉ name.toList := h.clear '{' (by simp)
  have noPoint : '.' ∉ name.toList := h.clear '.' (by simp)
  have someOf : name.toList ≠ [] := h.ne_nil
  rw [Query.text, parse, String.toList_ofList, chars, h.trimmed, parseTrimmed,
    splitAt?_eq_none noBrace]
  simp [someOf, noPoint]

theorem isTrimmed_intercalate {parts : List (List Char)}
    (trimmed : ∀ part ∈ parts, trim part = part) :
    trim (['.'].intercalate parts) = ['.'].intercalate parts := by
  induction parts with
  | nil => rfl
  | cons part parts ih =>
    have hPart := trimmed part List.mem_cons_self
    have hRest := ih fun p hp => trimmed p (List.mem_cons_of_mem _ hp)
    by_cases single : parts = []
    · rw [single, List.intercalate_singleton, hPart]
    · rw [intercalate_cons _ _ single, trim_append_cons (by decide), dropWhile_of_isTrimmed hPart,
        trimEnd_of_isTrimmed hRest]

theorem parse_text_path (two : 2 ≤ segments.length)
    (words : ∀ s ∈ segments, IsWord ['.', '{'] s.toList) :
    parse (Query.path segments).text = .ok (.path segments) := by
  generalize hParts : segments.map String.toList = parts
  have hWords : ∀ part ∈ parts, IsWord ['.', '{'] part := by
    rw [← hParts]
    simpa using words
  have hLength : 2 ≤ parts.length := by rwa [← hParts, List.length_map]
  have hTrim : trim (['.'].intercalate parts) = ['.'].intercalate parts :=
    isTrimmed_intercalate fun part hPart => (hWords part hPart).trimmed
  have noBrace : '{' ∉ ['.'].intercalate parts :=
    notMem_intercalate (fun part hPart => (hWords part hPart).clear '{' (by simp)) (by decide)
  have hPieces : pieces '.' (['.'].intercalate parts) = parts :=
    pieces_intercalate (fun part hPart => (hWords part hPart).clear '.' (by simp))
      (List.ne_nil_of_length_pos (by omega))
  have hPoint : '.' ∈ ['.'].intercalate parts := by
    have hCount := length_pieces '.' (['.'].intercalate parts)
    rw [hPieces] at hCount
    exact List.count_pos_iff.mp (by omega)
  have hMap : parts.map trim = parts :=
    (List.map_congr_left (g := id) fun part hPart => (hWords part hPart).trimmed).trans
      (List.map_id parts)
  have allSome : parts.any List.isEmpty = false := by
    simpa using fun part hPart => (hWords part hPart).ne_nil
  have hSegments : parts.map String.ofList = segments := by
    rw [← hParts, List.map_map]
    exact (List.map_congr_left (g := id) fun _ _ => String.ofList_toList).trans
      (List.map_id segments)
  rw [Query.text, parse, String.toList_ofList, chars, hParts, hTrim, parseTrimmed,
    splitAt?_eq_none noBrace]
  simp only [List.isEmpty_iff, List.ne_nil_of_mem hPoint, List.contains_iff_mem, hPoint, hPieces,
    hMap, allSome, hSegments, if_true, if_false, Bool.false_eq_true]

/-! Selectors. -/

theorem trim_matcherText (h : IsWord ['='] label.1.toList) :
    trim (matcherText label) = matcherText label := by
  have hName : ∀ c ∈ label.1.toList.head?, isBlank c = false := (isTrimmed_iff.mp h.trimmed).1
  rw [isTrimmed_iff, matcherText, List.getLast?_concat]
  refine ⟨fun c hc => hName c ?_, fun c hc => Option.mem_some.mp hc ▸ rfl⟩
  rwa [List.append_assoc, List.head?_append_of_ne_nil _ h.ne_nil] at hc

theorem readMatcher_matcherText (h : IsWord ['='] label.1.toList) :
    readMatcher (matcherText label) = .ok label := by
  have noSign : '=' ∉ label.1.toList := h.clear '=' (by simp)
  have isName : trim label.1.toList ≠ [] := by
    rw [h.trimmed]
    exact h.ne_nil
  have hValue : trim ('"' :: label.2.toList ++ ['"']) = '"' :: label.2.toList ++ ['"'] := by
    rw [isTrimmed_iff, List.getLast?_concat]
    simp only [List.cons_append, List.head?_cons, Option.mem_some, forall_eq']
    decide
  have hText : matcherText label =
      label.1.toList ++ '=' :: ('"' :: label.2.toList ++ ['"']) := by
    simp [matcherText]
  rw [hText, readMatcher_append noSign isName, h.trimmed, hValue, unquote_doubleQuoted,
    String.ofList_toList, String.ofList_toList]

theorem readMatchers_matcherText (words : ∀ label ∈ labels.entries, IsWord ['='] label.1.toList) :
    readMatchers .empty (labels.entries.map matcherText) = .ok labels := by
  rw [readMatchers_map matcherText id labels.entries
    (fun label hLabel => readMatcher_matcherText (words label hLabel)) .empty, List.map_id]
  exact congrArg Except.ok (Dict.ofList_entries labels)

theorem matchers_of_separable {entries : List (String × String)}
    (words : ∀ label ∈ entries, IsWord ['='] label.1.toList)
    (h : Separable none (entries.map matcherText)) :
    matchers ([','].intercalate (entries.map matcherText)) = entries.map matcherText := by
  have hTrim : (entries.map matcherText).map trim = entries.map matcherText := by
    rw [List.map_map]
    exact List.map_congr_left fun label hLabel => trim_matcherText (words label hLabel)
  have allSome : ∀ text ∈ entries.map matcherText, (!text.isEmpty) = true := by
    intro text hText
    obtain ⟨label, -, rfl⟩ := List.mem_map.mp hText
    simp [matcherText]
  rw [matchers_eq, h.splitMatchers_intercalate, hTrim, List.filter_eq_self.mpr allSome]

/-- Labels in another order give another text, as it begins with the name of the first. -/
theorem eq_of_perm_of_listed_eq {first second : List (String × String)} (perm : first.Perm second)
    (nodup : (keys second).Nodup) (noSign : ∀ label ∈ second, '=' ∉ label.1.toList)
    (same : listed (first.map matcherText) = listed (second.map matcherText)) :
    first = second := by
  induction first generalizing second with
  | nil => exact (List.nil_perm.mp perm).symm
  | cons x first ih =>
    obtain ⟨y, second, rfl⟩ : ∃ y rest, second = y :: rest :=
      List.exists_cons_of_ne_nil (by rintro rfl; simpa using perm.length_eq)
    have hMem : x ∈ y :: second := perm.subset List.mem_cons_self
    have hNames : x.1 = y.1 := by
      simp only [List.map_cons, listed_cons, matcherText, List.cons_append, List.append_assoc,
        List.cons.injEq, true_and] at same
      have hSplit := congrArg (splitAt? '=') same
      rw [splitAt?_append (noSign x hMem), splitAt?_append (noSign y List.mem_cons_self)] at hSplit
      exact String.toList_inj.mp (congrArg Prod.fst (Option.some.inj hSplit))
    obtain rfl : x = y := List.inj_on_of_nodup_map nodup hMem List.mem_cons_self hNames
    rw [ih perm.cons_inv (List.nodup_cons.mp nodup).2
      (fun label hLabel => noSign label (List.mem_cons_of_mem _ hLabel)) (by simpa using same)]

theorem filterMap_matchers (body : List Char) :
    (matchers body).filterMap (fun m => (readMatcher m).toOption) =
      (splitMatchers none body).filterMap pieceLabel? := by
  rw [matchers_eq, List.filterMap_filter, List.filterMap_map]
  refine List.filterMap_congr fun piece _ => ?_
  by_cases isBlank : trim piece = []
  · simp [isBlank, pieceLabel?_of_isBlankText (trim_eq_nil_iff.mp isBlank)]
  · simp [isBlank, pieceLabel?]

/-- Pieces whose labels are those of a text are the texts of these labels. There are as many signs
as labels read, so that none of them has gone. -/
theorem map_matcherText_eq_of_listed_eq {pieces : List (List Char)}
    (reads : ∀ piece ∈ pieces, IsReadable piece)
    (hLabels : labels = .ofList (pieces.filterMap pieceLabel?))
    (noSign : ∀ label ∈ labels.entries, '=' ∉ label.1.toList)
    (hText : listed pieces = listed (labels.entries.map matcherText)) :
    pieces = labels.entries.map matcherText := by
  obtain ⟨gone, hPerm⟩ := Dict.exists_perm_insertAll .empty (pieces.filterMap pieceLabel?)
  change (pieces.filterMap pieceLabel?).Perm ((Dict.ofList _).entries ++ gone) at hPerm
  rw [← hLabels] at hPerm
  have hCount := (listed_perm (hPerm.map matcherText)).count_eq '='
  rw [count_listed reads, hText, List.map_append, listed_append, List.count_append] at hCount
  obtain rfl : gone = [] := by
    cases gone with
    | nil => rfl
    | cons label gone =>
      simp [matcherText] at hCount
  rw [List.append_nil] at hPerm
  rcases eq_or_weight_lt reads with same | less
  · rw [same] at hText
    rw [same, eq_of_perm_of_listed_eq hPerm labels.increasing.keys_nodup noSign hText]
  · rw [hText, weight_perm (listed_perm (hPerm.map matcherText))] at less
    exact absurd less (Int.lt_irrefl _)

theorem separable_of_readMatchers (words : ∀ label ∈ labels.entries, IsWord ['='] label.1.toList)
    (someOf : labels.entries ≠ [])
    (h : readMatchers .empty (matchers ([','].intercalate (labels.entries.map matcherText))) =
      .ok labels) :
    Separable none (labels.entries.map matcherText) := by
  generalize hBody : [','].intercalate (labels.entries.map matcherText) = body at h
  have somePieces := splitMatchers_ne_nil none body
  obtain ⟨hReads, hLabels⟩ := eq_of_readMatchers h
  rw [filterMap_matchers] at hLabels
  rw [matchers_eq] at hReads
  have reads : ∀ piece ∈ splitMatchers none body, IsReadable piece := by
    intro piece hPiece
    by_cases isBlank : trim piece = []
    · exact .inl (trim_eq_nil_iff.mp isBlank)
    · exact .inr (hReads _ (List.mem_filter.mpr
        ⟨List.mem_map_of_mem hPiece, by simpa using isBlank⟩))
  have hText : listed (splitMatchers none body) = listed (labels.entries.map matcherText) := by
    rw [listed, ← cons_intercalate ',' somePieces, intercalate_splitMatchers, ← hBody, listed,
      cons_intercalate ',' (by simpa)]
  rw [← map_matcherText_eq_of_listed_eq reads hLabels
    (fun label hLabel => (words label hLabel).clear '=' (by simp)) hText]
  exact separable_splitMatchers none body

/-- The text of the query falls apart into its labels: no comma of a label's text lies outside
quotes, and no quote is open where the text of the next one begins. -/
def IsLegible : Query → Prop
  | .selector _ labels =>
    labels.entries ≠ [] → Separable none (labels.entries.map matcherText)
  | _ => True

instance (q : Query) : Decidable q.IsLegible :=
  match q with
  | .selector _ labels => inferInstanceAs (Decidable (labels.entries ≠ [] → Separable none _))
  | .path _ => .isTrue trivial
  | .key _ => .isTrue trivial

/-- Names without commas and quotes and values without double quotes are told apart. -/
theorem isLegible_of_plain {metric : String}
    (plain : ∀ label ∈ labels.entries, IsPlain label.1.toList ∧ '"' ∉ label.2.toList) :
    (Query.selector metric labels).IsLegible := by
  intro someOf
  refine separable_of_isClosed (fun piece hPiece => ?_) (by simpa using someOf)
  obtain ⟨label, hLabel, rfl⟩ := List.mem_map.mp hPiece
  obtain ⟨hName, hValue⟩ := plain label hLabel
  have hSign : IsClosed ['='] := by decide
  have hText : matcherText label =
      label.1.toList ++ (['='] ++ ('"' :: label.2.toList ++ ['"'])) := by
    simp [matcherText]
  rw [hText]
  exact hName.isClosed.append (hSign.append (isClosed_quoted (.inl rfl) hValue))

theorem readMatchers_text_iff (words : ∀ label ∈ labels.entries, IsWord ['='] label.1.toList) :
    readMatchers .empty (matchers ([','].intercalate (labels.entries.map matcherText))) =
      .ok labels ↔ (labels.entries ≠ [] → Separable none (labels.entries.map matcherText)) := by
  constructor
  · exact fun h someOf => separable_of_readMatchers words someOf h
  · intro h
    by_cases noneOf : labels.entries = []
    · obtain rfl : labels = .empty := Dict.ext noneOf
      rfl
    · rw [matchers_of_separable words (h noneOf), readMatchers_matcherText words]

/-- A query that has been read is read back from its text exactly if the text falls apart into its
labels. -/
theorem parse_text_iff_of_isRead (h : q.IsRead) : parse q.text = .ok q ↔ q.IsLegible := by
  cases q with
  | selector metric labels =>
    obtain ⟨hMetric, words⟩ := h
    have isMetric : ¬IsBlankText metric.toList := by
      rw [← trim_eq_nil_iff, hMetric.trimmed]
      exact hMetric.ne_nil
    rw [IsLegible, ← readMatchers_text_iff words, Query.text, parse, String.toList_ofList, chars,
      List.append_assoc, List.cons_append,
      parseTrimmed_trim_brace (hMetric.clear '{' (by simp)) isMetric, hMetric.trimmed,
      String.ofList_toList]
    cases readMatchers .empty (matchers ([','].intercalate (labels.entries.map matcherText))) <;>
      simp [Except.map]
  | path segments => exact iff_of_true (parse_text_path h.1 h.2) trivial
  | key name => exact iff_of_true (parse_text_key h) trivial

end MetricAlerts.Query
