import Mathlib.Data.List.DropRight
import MetricAlerts.Text.Blank

/-! Text without the blanks at its ends. Blanks that are put there change nothing about it, and a
character that is no blank keeps apart what is trimmed at the front and what is trimmed at the
end. -/

namespace MetricAlerts.Text

variable {cs blanks : List Char} {c : Char}

/-- Every character is a blank. -/
def IsBlankText (cs : List Char) : Prop := ∀ c ∈ cs, isBlank c = true

instance (cs : List Char) : Decidable (IsBlankText cs) :=
  List.decidableBAll (fun c => isBlank c = true) cs

theorem trimEnd_eq_rdropWhile (cs : List Char) : trimEnd cs = cs.rdropWhile isBlank := rfl

theorem trimEnd_append_blank (cs : List Char) (h : IsBlankText blanks) :
    trimEnd (cs ++ blanks) = trimEnd cs := by
  have hReverse : ∀ c ∈ blanks.reverse, isBlank c = true :=
    fun c hc => h c (List.mem_reverse.mp hc)
  rw [trimEnd, List.reverse_append, List.dropWhile_append_of_pos hReverse, trimEnd]

theorem trim_blank_append (h : IsBlankText blanks) (cs : List Char) :
    trim (blanks ++ cs) = trim cs := by
  rw [trim, List.dropWhile_append_of_pos h, trim]

theorem trim_append_blank (cs : List Char) (h : IsBlankText blanks) :
    trim (cs ++ blanks) = trim cs := by
  rw [trim, List.dropWhile_append, trim]
  split
  · next hEmpty =>
    have hNil : blanks.dropWhile isBlank = [] := List.dropWhile_eq_nil_iff.mpr h
    rw [hNil, List.isEmpty_iff.mp hEmpty]
  · exact trimEnd_append_blank _ h

theorem trim_dropWhile (cs : List Char) : trim (cs.dropWhile isBlank) = trim cs := by
  rw [trim, List.dropWhile_idempotent, trim]

/-- Text is what is left of it, with blanks around it. -/
theorem exists_eq_trim (cs : List Char) :
    ∃ before after, IsBlankText before ∧ IsBlankText after ∧ cs = before ++ (trim cs ++ after) := by
  refine ⟨cs.takeWhile isBlank, (cs.dropWhile isBlank).rtakeWhile isBlank,
    fun c hc => List.mem_takeWhile_imp hc, fun c hc => List.mem_rtakeWhile_imp hc, ?_⟩
  rw [trim, trimEnd_eq_rdropWhile, List.rdropWhile_append_rtakeWhile,
    List.takeWhile_append_dropWhile]

theorem trim_eq_nil_iff : trim cs = [] ↔ IsBlankText cs := by
  constructor
  · intro hNil
    obtain ⟨before, after, hBefore, hAfter, hText⟩ := exists_eq_trim cs
    rw [hText, hNil]
    intro c hc
    rcases List.mem_append.mp hc with hc | hc
    · exact hBefore c hc
    · exact hAfter c hc
  · intro h
    have hTrim := trim_blank_append h []
    rwa [List.append_nil] at hTrim

theorem mem_of_mem_trim (h : c ∈ trim cs) : c ∈ cs := by
  obtain ⟨before, after, -, -, hText⟩ := exists_eq_trim cs
  rw [hText]
  simp [h]

/-! Text that has no blanks at its ends. -/

theorem dropWhile_eq_self (h : ∀ c ∈ cs.head?, isBlank c = false) : cs.dropWhile isBlank = cs := by
  cases cs with
  | nil => rfl
  | cons c cs => simp [h c rfl]

theorem trimEnd_eq_self (h : ∀ c ∈ cs.getLast?, isBlank c = false) : trimEnd cs = cs := by
  rw [trimEnd_eq_rdropWhile, List.rdropWhile_eq_self_iff]
  intro hNil
  simp [h _ (List.getLast?_eq_some_getLast hNil)]

theorem isBlank_of_mem_getLast?_trimEnd (h : c ∈ (trimEnd cs).getLast?) : isBlank c = false := by
  have hNil : cs.rdropWhile isBlank ≠ [] := by
    intro hNil
    rw [trimEnd_eq_rdropWhile, hNil] at h
    cases h
  have hNot := List.rdropWhile_last_not isBlank cs hNil
  rw [trimEnd_eq_rdropWhile, List.getLast?_eq_some_getLast hNil, Option.mem_some] at h
  rw [← h]
  simpa using hNot

theorem isBlank_of_mem_head?_trim (h : c ∈ (trim cs).head?) : isBlank c = false := by
  obtain ⟨rest, hRest⟩ : trim cs <+: cs.dropWhile isBlank := List.rdropWhile_prefix isBlank _
  have hHead : (cs.dropWhile isBlank).head? = some c := by
    rw [← hRest, List.head?_append, Option.mem_def.mp h]
    rfl
  have hNot := List.head?_dropWhile_not isBlank cs
  rw [hHead] at hNot
  simpa using hNot

theorem isTrimmed_iff : trim cs = cs ↔
    (∀ c ∈ cs.head?, isBlank c = false) ∧ ∀ c ∈ cs.getLast?, isBlank c = false := by
  constructor
  · intro same
    rw [← same]
    exact ⟨fun _ => isBlank_of_mem_head?_trim, fun _ => isBlank_of_mem_getLast?_trimEnd⟩
  · rintro ⟨hHead, hLast⟩
    rw [trim, dropWhile_eq_self hHead, trimEnd_eq_self hLast]

@[simp] theorem trim_trim (cs : List Char) : trim (trim cs) = trim cs :=
  isTrimmed_iff.mpr ⟨fun _ => isBlank_of_mem_head?_trim, fun _ => isBlank_of_mem_getLast?_trimEnd⟩

/-! Text on both sides of a character that is no blank. -/

theorem dropWhile_append_cons (h : isBlank c = false) (before after : List Char) :
    (before ++ c :: after).dropWhile isBlank = before.dropWhile isBlank ++ c :: after := by
  rw [List.dropWhile_append]
  split
  · next hEmpty => simp [List.isEmpty_iff.mp hEmpty, h]
  · rfl

theorem trimEnd_append_cons (h : isBlank c = false) (before after : List Char) :
    trimEnd (before ++ c :: after) = before ++ c :: trimEnd after := by
  have hBlank : IsBlankText (after.rtakeWhile isBlank) := fun c hc => List.mem_rtakeWhile_imp hc
  have hAfter : trimEnd after ++ after.rtakeWhile isBlank = after :=
    List.rdropWhile_append_rtakeWhile ..
  have hLast : ∀ d ∈ (before ++ c :: trimEnd after).getLast?, isBlank d = false := by
    intro d hd
    rw [List.getLast?_append_cons, List.getLast?_cons, Option.mem_some] at hd
    cases hEnd : (trimEnd after).getLast? with
    | none => rwa [← hd, hEnd]
    | some last =>
      rw [← hd, hEnd]
      exact isBlank_of_mem_getLast?_trimEnd hEnd
  calc trimEnd (before ++ c :: after)
      = trimEnd ((before ++ c :: trimEnd after) ++ after.rtakeWhile isBlank) := by
        rw [List.append_assoc, List.cons_append, hAfter]
    _ = trimEnd (before ++ c :: trimEnd after) := trimEnd_append_blank _ hBlank
    _ = before ++ c :: trimEnd after := trimEnd_eq_self hLast

/-- What is before the character is trimmed at the front and what is after it at the end. -/
theorem trim_append_cons (h : isBlank c = false) (before after : List Char) :
    trim (before ++ c :: after) = before.dropWhile isBlank ++ c :: trimEnd after := by
  rw [trim, dropWhile_append_cons h, trimEnd_append_cons h]

theorem dropWhile_of_isTrimmed (h : trim cs = cs) : cs.dropWhile isBlank = cs :=
  dropWhile_eq_self (isTrimmed_iff.mp h).1

theorem trimEnd_of_isTrimmed (h : trim cs = cs) : trimEnd cs = cs :=
  trimEnd_eq_self (isTrimmed_iff.mp h).2

theorem trim_trimEnd (cs : List Char) : trim (trimEnd cs) = trim cs := by
  have hBlank : IsBlankText (cs.rtakeWhile isBlank) := fun c hc => List.mem_rtakeWhile_imp hc
  have hText : trimEnd cs ++ cs.rtakeWhile isBlank = cs := List.rdropWhile_append_rtakeWhile ..
  rw [← trim_append_blank (trimEnd cs) hBlank, hText]

end MetricAlerts.Text
