import MetricAlerts.Text.Pieces

/-! Texts taken apart at a separator and put together again. -/

namespace MetricAlerts.Text

variable {separator c : Char} {cs piece : List Char} {parts : List (List Char)}

theorem intercalate_cons (separator : Char) (part : List Char) (h : parts ≠ []) :
    [separator].intercalate (part :: parts) =
      part ++ separator :: [separator].intercalate parts := by
  obtain ⟨next, others, rfl⟩ := List.exists_cons_of_ne_nil h
  simp [List.intercalate_cons_cons]

/-- With one more separator in front, each part has its own. -/
theorem cons_intercalate (separator : Char) (h : parts ≠ []) :
    separator :: [separator].intercalate parts = parts.flatMap (separator :: ·) := by
  induction parts with
  | nil => exact absurd rfl h
  | cons part parts ih =>
    by_cases single : parts = []
    · simp [single]
    · rw [intercalate_cons _ _ single, ih single, List.flatMap_cons, List.cons_append]

theorem notMem_intercalate (clear : ∀ part ∈ parts, c ∉ part) (other : c ≠ separator) :
    c ∉ [separator].intercalate parts := by
  by_cases noneOf : parts = []
  · simp [noneOf]
  · intro h
    have hMem := List.mem_cons_of_mem separator h
    rw [cons_intercalate separator noneOf] at hMem
    obtain ⟨part, hPart, hc⟩ := List.mem_flatMap.mp hMem
    rcases List.mem_cons.mp hc with same | hc
    · exact other same
    · exact clear part hPart hc

theorem pieces_eq_splitOn (separator : Char) (cs : List Char) :
    pieces separator cs = cs.splitOn separator := by
  induction cs with
  | nil => rfl
  | cons c cs ih =>
    obtain ⟨piece, others, hRest⟩ := List.exists_cons_of_ne_nil (pieces_ne_nil separator cs)
    rw [pieces, List.splitOn, List.splitOnP_cons_eq_if_modifyHead, ← List.splitOn, ← ih, hRest]
    simp

theorem pieces_intercalate (clear : ∀ part ∈ parts, separator ∉ part)
    (someOf : parts ≠ []) : pieces separator ([separator].intercalate parts) = parts := by
  rw [pieces_eq_splitOn]
  exact List.splitOn_intercalate separator clear someOf

/-- The characters of the pieces are those of the text, without the separators. -/
theorem mem_of_mem_pieces (h : piece ∈ pieces separator cs) (hc : c ∈ piece) :
    c ∈ cs ∧ c ≠ separator := by
  induction cs generalizing piece with
  | nil =>
    rw [pieces, List.mem_singleton] at h
    simp [h] at hc
  | cons d cs ih =>
    obtain ⟨first, others, hRest⟩ := List.exists_cons_of_ne_nil (pieces_ne_nil separator cs)
    rw [pieces, hRest] at h
    rw [hRest] at ih
    by_cases same : d = separator
    · rw [if_pos same] at h
      rcases List.mem_cons.mp h with rfl | h
      · cases hc
      · exact (ih h hc).imp_left (List.mem_cons_of_mem _)
    · rw [if_neg same] at h
      rcases List.mem_cons.mp h with rfl | h
      · rcases List.mem_cons.mp hc with rfl | hc
        · exact ⟨List.mem_cons_self, same⟩
        · exact (ih List.mem_cons_self hc).imp_left (List.mem_cons_of_mem _)
      · exact (ih (List.mem_cons_of_mem _ h) hc).imp_left (List.mem_cons_of_mem _)

end MetricAlerts.Text
