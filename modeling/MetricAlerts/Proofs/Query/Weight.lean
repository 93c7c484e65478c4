import MetricAlerts.Proofs.Query.Reading

/-! How much of a text its labels fill. Written with double quotes and without blanks, a label has
as many signs as the piece that it was read from, and it weighs less than that piece unless it is
the same. So labels that weigh as much as the pieces of a text are the pieces. -/

namespace MetricAlerts.Query

open MetricAlerts.Text

variable {cs first second piece : List Char} {label : String × String}
  {pieces : List (List Char)} {labels : List (String × String)}

/-- The length of a text, where each double quote counts against it. -/
def weight (cs : List Char) : Int := cs.length - 2 * cs.count '"'

@[simp] theorem weight_nil : weight [] = 0 := rfl

theorem weight_append (first second : List Char) :
    weight (first ++ second) = weight first + weight second := by
  simp only [weight, List.length_append, List.count_append]
  omega

theorem weight_cons (c : Char) (cs : List Char) : weight (c :: cs) = weight [c] + weight cs :=
  weight_append [c] cs

theorem weight_perm (h : first.Perm second) : weight first = weight second := by
  rw [weight, weight, h.length_eq, h.count_eq]

theorem weight_of_isBlankText (h : IsBlankText cs) : weight cs = cs.length := by
  have noQuote : cs.count '"' = 0 := List.count_eq_zero.mpr fun hc => absurd (h _ hc) (by decide)
  rw [weight, noQuote]
  omega

/-- The first text is the second one, or weighs less. -/
def Fills (first second : List Char) : Prop := first = second ∨ weight first < weight second

namespace Fills

theorem refl (cs : List Char) : Fills cs cs := .inl rfl

theorem trans {third : List Char} (h1 : Fills first second) (h2 : Fills second third) :
    Fills first third := by
  rcases h1 with rfl | h1
  · exact h2
  · rcases h2 with rfl | h2
    · exact .inr h1
    · exact .inr (Int.lt_trans h1 h2)

theorem append {first' second' : List Char} (h : Fills first second) (h' : Fills first' second') :
    Fills (first ++ first') (second ++ second') := by
  simp only [Fills, weight_append]
  rcases h with rfl | h <;> rcases h' with rfl | h'
  · exact .inl rfl
  all_goals exact .inr (by omega)

end Fills

theorem fills_trim (cs : List Char) : Fills (trim cs) cs := by
  obtain ⟨before, after, hBefore, hAfter, hText⟩ := exists_eq_trim cs
  by_cases noBlanks : before = [] ∧ after = []
  · left
    rw [noBlanks.1, noBlanks.2, List.append_nil, List.nil_append] at hText
    exact hText.symm
  · right
    have someBlanks : 0 < before.length ∨ 0 < after.length := by
      simp only [List.length_pos_iff]
      tauto
    have hWeight := congrArg weight hText
    rw [weight_append, weight_append, weight_of_isBlankText hBefore,
      weight_of_isBlankText hAfter] at hWeight
    omega

/-- No value is written with less weight than in double quotes. -/
theorem fills_unquote (cs : List Char) : Fills ('"' :: unquote cs ++ ['"']) cs := by
  have hDouble : weight ['"'] = -1 := rfl
  have hSingle : weight ['\''] = 1 := rfl
  rcases unquote_cases cs with h | h | h
  · exact .inl h.symm
  · right
    have hWeight := congrArg weight h
    simp only [List.cons_append, weight_cons _ (unquote cs ++ _), weight_append] at hWeight ⊢
    omega
  · right
    rw [← h]
    simp only [List.cons_append, weight_cons _ (cs ++ _), weight_append]
    omega

theorem fills_of_readMatcher (h : readMatcher cs = .ok label) : Fills (matcherText label) cs := by
  obtain ⟨name, value, rfl, -, -, rfl⟩ := eq_of_readMatcher h
  have hValue : Fills ('"' :: unquote (trim value) ++ ['"']) value :=
    (fills_unquote (trim value)).trans (fills_trim value)
  have hSign : Fills ['='] ['='] := .refl _
  simpa [matcherText] using (fills_trim name).append (hSign.append hValue)

/-! Signs. -/

theorem count_trim (cs : List Char) : (trim cs).count '=' = cs.count '=' := by
  have noSign {blanks : List Char} (h : IsBlankText blanks) : blanks.count '=' = 0 :=
    List.count_eq_zero.mpr fun hc => absurd (h _ hc) (by decide)
  obtain ⟨before, after, hBefore, hAfter, hText⟩ := exists_eq_trim cs
  have hCount := congrArg (List.count '=') hText
  rw [List.count_append, List.count_append, noSign hBefore, noSign hAfter] at hCount
  omega

theorem count_unquote (cs : List Char) : (unquote cs).count '=' = cs.count '=' := by
  rcases unquote_cases cs with h | h | h
  · simpa using (congrArg (List.count '=') h).symm
  · simpa using (congrArg (List.count '=') h).symm
  · rw [← h]

theorem count_of_readMatcher (h : readMatcher cs = .ok label) :
    (matcherText label).count '=' = cs.count '=' := by
  obtain ⟨name, value, rfl, -, -, rfl⟩ := eq_of_readMatcher h
  simp [matcherText, count_trim, count_unquote]

/-! Pieces. -/

/-- The label that a piece stands for; blank pieces stand for none. -/
def pieceLabel? (piece : List Char) : Option (String × String) :=
  (readMatcher (trim piece)).toOption

/-- A piece that is blank or can be read. -/
def IsReadable (piece : List Char) : Prop :=
  IsBlankText piece ∨ ∃ label, readMatcher (trim piece) = .ok label

theorem pieceLabel?_of_isBlankText (h : IsBlankText piece) : pieceLabel? piece = none := by
  rw [pieceLabel?, trim_eq_nil_iff.mpr h]
  rfl

theorem pieceLabel?_of_readMatcher (h : readMatcher (trim piece) = .ok label) :
    pieceLabel? piece = some label := by
  rw [pieceLabel?, h]
  rfl

/-- Pieces one after another, each with a comma before it. -/
def listed (pieces : List (List Char)) : List Char := pieces.flatMap (',' :: ·)

@[simp] theorem listed_nil : listed [] = [] := rfl

@[simp] theorem listed_cons (piece : List Char) (pieces : List (List Char)) :
    listed (piece :: pieces) = ',' :: (piece ++ listed pieces) :=
  rfl

theorem listed_append (first second : List (List Char)) :
    listed (first ++ second) = listed first ++ listed second :=
  List.flatMap_append

theorem listed_perm {first second : List (List Char)} (h : first.Perm second) :
    (listed first).Perm (listed second) :=
  h.flatMap_right _

theorem count_listed (reads : ∀ piece ∈ pieces, IsReadable piece) :
    (listed ((pieces.filterMap pieceLabel?).map matcherText)).count '=' =
      (listed pieces).count '=' := by
  induction pieces with
  | nil => rfl
  | cons piece pieces ih =>
    have hRest := ih fun p hp => reads p (List.mem_cons_of_mem _ hp)
    rcases reads piece List.mem_cons_self with isBlank | ⟨label, hRead⟩
    · have hCount : piece.count '=' = 0 := by
        rw [← count_trim, trim_eq_nil_iff.mpr isBlank]
        rfl
      rw [List.filterMap_cons_none (pieceLabel?_of_isBlankText isBlank)]
      simp [hRest, hCount]
    · have hCount : (matcherText label).count '=' = piece.count '=' := by
        rw [count_of_readMatcher hRead, count_trim]
      rw [List.filterMap_cons_some (pieceLabel?_of_readMatcher hRead)]
      simp [hRest, hCount]

/-- Readable pieces are their labels, or they weigh more. -/
theorem eq_or_weight_lt (reads : ∀ piece ∈ pieces, IsReadable piece) :
    pieces = (pieces.filterMap pieceLabel?).map matcherText ∨
      weight (listed ((pieces.filterMap pieceLabel?).map matcherText)) <
        weight (listed pieces) := by
  have hComma : weight [','] = 1 := rfl
  induction pieces with
  | nil => exact .inl rfl
  | cons piece pieces ih =>
    have hRest := ih fun p hp => reads p (List.mem_cons_of_mem _ hp)
    rcases reads piece List.mem_cons_self with isBlank | ⟨label, hRead⟩
    · right
      have hWeight : weight (listed ((pieces.filterMap pieceLabel?).map matcherText)) ≤
          weight (listed pieces) := by
        rcases hRest with same | less
        · exact Int.le_of_eq (congrArg (fun p => weight (listed p)) same.symm)
        · exact Int.le_of_lt less
      rw [List.filterMap_cons_none (pieceLabel?_of_isBlankText isBlank), listed_cons, weight_cons,
        weight_append, weight_of_isBlankText isBlank]
      omega
    · rw [List.filterMap_cons_some (pieceLabel?_of_readMatcher hRead), List.map_cons, listed_cons,
        listed_cons, weight_cons, weight_cons ',' (piece ++ _), weight_append, weight_append]
      rcases (fills_of_readMatcher hRead).trans (fills_trim piece), hRest with
        ⟨rfl | lessPiece, same | less⟩
      · left
        rw [← same]
      · right
        omega
      · right
        rw [← same]
        omega
      · right
        omega

end MetricAlerts.Query
