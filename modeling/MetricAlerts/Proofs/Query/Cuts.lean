import Mathlib.Data.List.Forall2
import Mathlib.Data.String.Basic
import MetricAlerts.Proofs.Query.Quotes

/-! Where the text between the braces of a selector is cut. The places are counted in bytes, in one
pass over the characters; each of them lies between two characters, and the texts from one to the
next are the pieces (`forall₂_cuts`). `slices_at_outer_commas` says at which commas the text is
cut. -/

namespace MetricAlerts.Query

open MetricAlerts.Text

variable {quote : Option Char} {cs text piece : List Char} {cut : Nat × Nat}

/-! Places in a text. -/

/-- A cut begins and ends where a piece of the text does. -/
def Bounds (text : List Char) (cut : Nat × Nat) (piece : List Char) : Prop :=
  ∃ before after, text = before ++ piece ++ after ∧
    cut = (String.utf8Len before, String.utf8Len before + String.utf8Len piece)

theorem Bounds.slice_eq (h : Bounds text cut piece) :
    slice (String.ofList text) cut = String.ofList piece := by
  obtain ⟨before, after, rfl, rfl⟩ := h
  exact String.extract_of_valid before piece after

/-- The end of a part of a text lies between two characters. -/
theorem isValid_utf8Len (before after : List Char) :
    (String.Pos.Raw.mk (String.utf8Len before)).IsValid (String.ofList (before ++ after)) := by
  rw [String.Pos.Raw.isValid_iff_exists_append]
  exact ⟨_, _, String.ofList_append, (String.rawEndPos_ofList before).symm⟩

theorem Bounds.isValid (h : Bounds text cut piece) :
    cut.1 ≤ cut.2 ∧ (String.Pos.Raw.mk cut.1).IsValid (String.ofList text) ∧
      (String.Pos.Raw.mk cut.2).IsValid (String.ofList text) := by
  obtain ⟨before, after, rfl, rfl⟩ := h
  refine ⟨Nat.le_add_right .., ?_, ?_⟩
  · rw [List.append_assoc]
    exact isValid_utf8Len before (piece ++ after)
  · rw [← String.utf8Len_append]
    exact isValid_utf8Len (before ++ piece) after

/-- Where a pass has read `before` up to the last cut and `opened` after it, what it finds in the
rest are the bounds of the pieces, the first of which begins with `opened`. At a cut a piece is
whole, and the next one begins after the comma, which takes one byte. -/
theorem forall₂_cuts_of_read (before opened cs : List Char) (quote : Option Char)
    {piece : List Char} {pieces : List (List Char)}
    (split : splitMatchers quote cs = piece :: pieces) :
    List.Forall₂ (Bounds (before ++ opened ++ cs))
      (cuts quote (String.utf8Len before) (String.utf8Len before + String.utf8Len opened) cs)
      ((opened ++ piece) :: pieces) := by
  induction cs generalizing before opened quote piece pieces with
  | nil =>
    cases split
    exact .cons ⟨before, [], by simp, by simp⟩ .nil
  | cons c cs ih =>
    by_cases separates : quote = none ∧ c = ','
    · obtain ⟨rfl, rfl⟩ := separates
      have hStart : String.utf8Len (before ++ opened ++ [',']) =
          String.utf8Len before + String.utf8Len opened + 1 := by
        rw [String.utf8Len_append, String.utf8Len_append]
        rfl
      obtain ⟨next, others, hNext⟩ := List.exists_cons_of_ne_nil (splitMatchers_ne_nil none cs)
      have hRest := ih (before ++ opened ++ [',']) [] none hNext
      rw [splitMatchers, if_pos ⟨rfl, rfl⟩, hNext] at split
      cases split
      rw [hStart, List.append_nil, List.append_assoc _ [','], List.singleton_append] at hRest
      rw [cuts, if_pos ⟨rfl, rfl⟩]
      exact .cons ⟨before, ',' :: cs, by simp, by simp⟩ hRest
    · obtain ⟨next, others, hNext, hSplit⟩ := splitMatchers_cons separates cs
      have hHere : String.utf8Len (opened ++ [c]) = String.utf8Len opened + c.utf8Size := by
        rw [String.utf8Len_append, String.utf8Len_cons, String.utf8Len_nil, Nat.zero_add]
      have hRest := ih before (opened ++ [c]) (quoteAfter quote c) hNext
      rw [hSplit] at split
      cases split
      rw [hHere, ← Nat.add_assoc, ← List.append_assoc, List.append_assoc _ [c],
        List.singleton_append, List.append_assoc _ [c], List.singleton_append] at hRest
      rw [cuts, if_neg separates]
      exact hRest

theorem forall₂_cuts (text : List Char) :
    List.Forall₂ (Bounds text) (cuts none 0 0 text) (splitMatchers none text) := by
  obtain ⟨piece, pieces, split⟩ := List.exists_cons_of_ne_nil (splitMatchers_ne_nil none text)
  rw [split]
  exact forall₂_cuts_of_read [] [] text none split

theorem isValid_of_mem_cuts {text : String} (h : cut ∈ cuts none 0 0 text.toList) :
    cut.1 ≤ cut.2 ∧ (String.Pos.Raw.mk cut.1).IsValid text ∧
      (String.Pos.Raw.mk cut.2).IsValid text := by
  have hBounds := forall₂_cuts text.toList
  have hAll := ((List.forall₂_and_left _ _).mp (hBounds.imp fun _ _ b => ⟨b.isValid, b⟩)).1
  simpa only [String.ofList_toList] using hAll cut h

/-- The slices of a text are its pieces. -/
theorem slices_ofList (text : List Char) :
    slices (String.ofList text) = (splitMatchers none text).map String.ofList := by
  rw [slices, String.toList_ofList, ← List.forall₂_eq_eq_eq, List.forall₂_map_left_iff,
    List.forall₂_map_right_iff]
  exact (forall₂_cuts text).imp fun _ _ bounds => bounds.slice_eq

theorem matchers_eq (body : List Char) :
    matchers body = ((splitMatchers none body).map trim).filter fun m => !m.isEmpty := by
  rw [matchers, slices_ofList, List.map_map]
  simp only [Function.comp_def, String.toList_ofList]

/-! Regions in quotes. -/

/-- No quote is open at the end of a text: it is made of characters that are no quotes and of
regions, each of which runs from a quote to the next one of the same kind. -/
inductive NoneOpen : List Char → Prop
  | nil : NoneOpen []
  | plain {c : Char} {rest : List Char} (noQuote : c ≠ '"' ∧ c ≠ '\'') (after : NoneOpen rest) :
      NoneOpen (c :: rest)
  | region {q : Char} {content rest : List Char} (isQuote : q = '"' ∨ q = '\'')
      (inside : q ∉ content) (after : NoneOpen rest) : NoneOpen (q :: content ++ q :: rest)

theorem NoneOpen.openAfter_eq (h : NoneOpen cs) : openAfter none cs = none := by
  induction h with
  | nil => rfl
  | plain noQuote _ ih =>
    rw [openAfter_cons, quoteAfter, if_neg (by simpa using noQuote), ih]
  | @region q content rest isQuote inside _ ih =>
    rw [List.cons_append, openAfter_cons, quoteAfter_of_isQuote isQuote, openAfter_append,
      (isPiece_of_notMem inside).2, openAfter_cons, quoteAfter_self, ih]

/-- What a text is made of at whose end no quote is open. Where one is open at the start, a region
ends in it. -/
theorem noneOpen_of_openAfter (cs : List Char) :
    (openAfter none cs = none → NoneOpen cs) ∧
      ∀ q, openAfter (some q) cs = none →
        ∃ content rest, cs = content ++ q :: rest ∧ q ∉ content ∧ NoneOpen rest := by
  induction cs with
  | nil => exact ⟨fun _ => .nil, fun _ h => absurd h (Option.some_ne_none _)⟩
  | cons c cs ih =>
    obtain ⟨closed, opened⟩ := ih
    refine ⟨fun h => ?_, fun q h => ?_⟩
    · rw [openAfter_cons] at h
      by_cases isQuote : c = '"' ∨ c = '\''
      · rw [quoteAfter_of_isQuote isQuote] at h
        obtain ⟨content, rest, rfl, inside, hRest⟩ := opened c h
        exact .region isQuote inside hRest
      · rw [quoteAfter, if_neg isQuote] at h
        exact .plain (not_or.mp isQuote) (closed h)
    · rw [openAfter_cons] at h
      by_cases closes : c = q
      · subst closes
        rw [quoteAfter_self] at h
        exact ⟨[], cs, rfl, List.not_mem_nil, closed h⟩
      · rw [quoteAfter, if_neg closes] at h
        obtain ⟨content, rest, rfl, inside, hRest⟩ := opened q h
        exact ⟨c :: content, rest, rfl, by simp [inside, Ne.symm closes], hRest⟩

/-- The pass over the characters finds no quote open exactly after texts of that form. -/
theorem openAfter_eq_none_iff : openAfter none cs = none ↔ NoneOpen cs :=
  ⟨(noneOpen_of_openAfter cs).1, NoneOpen.openAfter_eq⟩

instance (cs : List Char) : Decidable (NoneOpen cs) :=
  decidable_of_iff (openAfter none cs = none) openAfter_eq_none_iff

/-! Commas. -/

/-- The comma between two texts lies between two of the pieces. -/
def PartsAt (pieces : List String) (before after : String) : Prop :=
  ∃ left right, left ≠ [] ∧ right ≠ [] ∧ pieces = left ++ right ∧
    ",".intercalate left = before ∧ ",".intercalate right = after

/-- No quote is open where one piece ends and another begins. -/
theorem openAfter_of_split {left right : List (List Char)} (someLeft : left ≠ [])
    (someRight : right ≠ []) (split : splitMatchers quote cs = left ++ right) :
    openAfter quote ([','].intercalate left) = none := by
  have h := separable_splitMatchers quote cs
  rw [split] at h
  clear split
  induction left generalizing quote with
  | nil => exact absurd rfl someLeft
  | cons piece left ih =>
    obtain ⟨next, others, hOthers⟩ : ∃ next others, left ++ right = next :: others :=
      List.exists_cons_of_ne_nil (by simp [someRight])
    rw [List.cons_append, hOthers] at h
    cases h with
    | next whole closed rest =>
      rw [← hOthers] at rest
      by_cases single : left = []
      · rw [single, List.intercalate_singleton]
        exact closed
      · rw [intercalate_cons _ _ single, openAfter_append, closed, openAfter_cons,
          quoteAfter_comma]
        exact ih single rest

theorem intercalate_map_ofList (pieces : List (List Char)) :
    ",".intercalate (pieces.map String.ofList) = String.ofList ([','].intercalate pieces) := by
  rw [← String.toList_inj, String.toList_intercalate, List.map_map, String.toList_ofList]
  simp [Function.comp_def]

/-- A comma lies between two pieces exactly if no quote is open before it. -/
theorem partsAt_slices_iff (before after : List Char) :
    PartsAt (slices (String.ofList (before ++ ',' :: after))) (String.ofList before)
      (String.ofList after) ↔ NoneOpen before := by
  rw [← openAfter_eq_none_iff, slices_ofList]
  constructor
  · rintro ⟨left, right, someLeft, someRight, split, hBefore, -⟩
    obtain ⟨left, right, hSplit, rfl, rfl⟩ := List.map_eq_append_iff.mp split
    rw [intercalate_map_ofList, String.ofList_inj] at hBefore
    rw [← hBefore]
    exact openAfter_of_split (by simpa using someLeft) (by simpa using someRight) hSplit
  · intro closed
    refine ⟨(splitMatchers none before).map String.ofList,
      (splitMatchers none after).map String.ofList, ?_, ?_, ?_, ?_, ?_⟩
    · simpa using splitMatchers_ne_nil none before
    · simpa using splitMatchers_ne_nil none after
    · rw [splitMatchers_append_comma closed, List.map_append]
    · rw [intercalate_map_ofList, intercalate_splitMatchers]
    · rw [intercalate_map_ofList, intercalate_splitMatchers]

/-- The slices of a text, put together with commas, are the text. A comma of the text lies between
two of them exactly if no quote is open before it, and every slice begins and ends between two
characters, however many bytes these have. -/
theorem slices_at_outer_commas (text : String) :
    ",".intercalate (slices text) = text ∧
      (∀ before after, text = before ++ "," ++ after →
        (PartsAt (slices text) before after ↔ NoneOpen before.toList)) ∧
      ∀ cut ∈ cuts none 0 0 text.toList, cut.1 ≤ cut.2 ∧
        (String.Pos.Raw.mk cut.1).IsValid text ∧ (String.Pos.Raw.mk cut.2).IsValid text := by
  refine ⟨?_, ?_, fun cut => isValid_of_mem_cuts⟩
  · have hSlices := slices_ofList text.toList
    rw [String.ofList_toList] at hSlices
    rw [hSlices, intercalate_map_ofList, intercalate_splitMatchers, String.ofList_toList]
  · rintro before after rfl
    have hParts := partsAt_slices_iff before.toList after.toList
    simpa [String.ofList_append, String.append_assoc] using hParts

theorem slices_at_outer_commas_twoHosts :
    let text := "host=\"é,ß\",zone='b"
    slices text = ["host=\"é,ß\"", "zone='b"] ∧
      PartsAt (slices text) "host=\"é,ß\"" "zone='b" ∧
      ¬PartsAt (slices text) "host=\"é" "ß\",zone='b" ∧
      (13, 20) ∈ cuts none 0 0 text.toList ∧ (String.Pos.Raw.mk 13).IsValid text := by
  intro text
  have hCut : (13, 20) ∈ cuts none 0 0 text.toList := by decide
  obtain ⟨-, hCommas, hCuts⟩ := slices_at_outer_commas text
  have hOuter := hCommas "host=\"é,ß\"" "zone='b" (by decide)
  have hInner := hCommas "host=\"é" "ß\",zone='b" (by decide)
  exact ⟨by decide, hOuter.mpr (by decide), fun h => absurd (hInner.mp h) (by decide), hCut,
    (hCuts _ hCut).2.1⟩

end MetricAlerts.Query
