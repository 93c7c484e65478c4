/-! Texts taken apart at a separator. Put together again with the separator between them, the pieces
are the text. -/

namespace MetricAlerts.Text

/-- The pieces of a text between the places of `separator`; one piece more than there are places. -/
def pieces (separator : Char) : List Char → List (List Char)
  | [] => [[]]
  | c :: rest =>
    if c = separator then [] :: pieces separator rest
    else
      match pieces separator rest with
      | piece :: others => (c :: piece) :: others
      | [] => [[c]]

theorem pieces_ne_nil (separator : Char) (cs : List Char) : pieces separator cs ≠ [] := by
  cases cs with
  | nil => simp [pieces]
  | cons c rest =>
    rw [pieces]
    split
    · simp
    · split <;> simp

theorem length_pieces (separator : Char) (cs : List Char) :
    (pieces separator cs).length = cs.count separator + 1 := by
  induction cs with
  | nil => rfl
  | cons c rest ih =>
    rw [pieces]
    split
    · next same => simp [ih, same]
    · next other =>
      split
      · next found => rw [found] at ih; simpa [List.count_cons, other] using ih
      · next found => exact absurd found (pieces_ne_nil separator rest)

theorem intercalate_pieces (separator : Char) (cs : List Char) :
    [separator].intercalate (pieces separator cs) = cs := by
  induction cs with
  | nil => rfl
  | cons c rest ih =>
    rw [pieces]
    split
    · next same =>
      obtain ⟨piece, others, found⟩ := List.exists_cons_of_ne_nil (pieces_ne_nil separator rest)
      rw [found] at ih ⊢
      simp only [List.intercalate_cons_cons, List.nil_append, List.singleton_append, ih, same]
    · split
      · next piece others found =>
        rw [found] at ih
        cases others <;> simpa using ih
      · next found => exact absurd found (pieces_ne_nil separator rest)

end MetricAlerts.Text
