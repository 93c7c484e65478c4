import MetricAlerts.Proofs.Text.Pieces
import MetricAlerts.Query.Parser

/-! The text between the braces of a selector falls into pieces at the commas outside quotes, which
`splitMatchers` takes off one after another. `splitMatchers_eq_iff` says which pieces these are: put
together with commas they are the text, no comma of a piece lies outside quotes, and no quote is
open where one piece ends and another begins. -/

namespace MetricAlerts.Query

open MetricAlerts.Text

variable {quote : Option Char} {cs piece before : List Char} {pieces : List (List Char)} {q : Char}

/-- The quote that is open after a text. -/
def openAfter (quote : Option Char) (cs : List Char) : Option Char := cs.foldl quoteAfter quote

@[simp] theorem openAfter_nil (quote : Option Char) : openAfter quote [] = quote := rfl

@[simp] theorem openAfter_cons (quote : Option Char) (c : Char) (cs : List Char) :
    openAfter quote (c :: cs) = openAfter (quoteAfter quote c) cs :=
  rfl

theorem openAfter_append (quote : Option Char) (first second : List Char) :
    openAfter quote (first ++ second) = openAfter (openAfter quote first) second :=
  List.foldl_append

theorem quoteAfter_comma : quoteAfter none ',' = none := by decide

theorem quoteAfter_of_isQuote (isQuote : q = '"' ∨ q = '\'') : quoteAfter none q = some q := by
  rw [quoteAfter, if_pos isQuote]

theorem quoteAfter_self (q : Char) : quoteAfter (some q) q = none := by
  rw [quoteAfter, if_pos rfl]

/-- No comma of the text lies outside quotes. -/
def IsPiece (quote : Option Char) : List Char → Prop
  | [] => True
  | c :: cs => ¬(quote = none ∧ c = ',') ∧ IsPiece (quoteAfter quote c) cs

instance decidableIsPiece : (quote : Option Char) → (cs : List Char) → Decidable (IsPiece quote cs)
  | _, [] => inferInstanceAs (Decidable True)
  | quote, c :: cs =>
    have := decidableIsPiece (quoteAfter quote c) cs
    inferInstanceAs (Decidable (_ ∧ _))

theorem isPiece_append (quote : Option Char) (first second : List Char) :
    IsPiece quote (first ++ second) ↔
      IsPiece quote first ∧ IsPiece (openAfter quote first) second := by
  induction first generalizing quote with
  | nil => simp [IsPiece]
  | cons c first ih =>
    rw [List.cons_append, IsPiece, IsPiece, ih, and_assoc, openAfter_cons]

/-- No comma of a piece lies outside quotes, and no quote is open at the end of a piece that another
one follows. -/
inductive Separable : Option Char → List (List Char) → Prop
  | last {quote : Option Char} {piece : List Char} (whole : IsPiece quote piece) :
      Separable quote [piece]
  | next {quote : Option Char} {piece : List Char} {pieces : List (List Char)}
      (whole : IsPiece quote piece) (closed : openAfter quote piece = none)
      (rest : Separable none pieces) : Separable quote (piece :: pieces)

theorem Separable.ne_nil (h : Separable quote pieces) : pieces ≠ [] := by
  cases h <;> simp

/-- The pieces between the commas that lie outside quotes, where `quote` is open at the start, by
recursion on the characters and without counting bytes. -/
def splitMatchers (quote : Option Char) : List Char → List (List Char)
  | [] => [[]]
  | c :: rest =>
    if quote = none ∧ c = ',' then [] :: splitMatchers none rest
    else
      match splitMatchers (quoteAfter quote c) rest with
      | piece :: pieces => (c :: piece) :: pieces
      | [] => [[c]]

theorem splitMatchers_ne_nil (quote : Option Char) (cs : List Char) :
    splitMatchers quote cs ≠ [] := by
  cases cs with
  | nil => simp [splitMatchers]
  | cons c cs =>
    rw [splitMatchers]
    split
    · simp
    · split <;> simp

/-- A character that is no separator goes to the first piece. -/
theorem splitMatchers_cons {c : Char} (h : ¬(quote = none ∧ c = ',')) (cs : List Char) :
    ∃ piece pieces, splitMatchers (quoteAfter quote c) cs = piece :: pieces ∧
      splitMatchers quote (c :: cs) = (c :: piece) :: pieces := by
  obtain ⟨piece, pieces, hRest⟩ :=
    List.exists_cons_of_ne_nil (splitMatchers_ne_nil (quoteAfter quote c) cs)
  refine ⟨piece, pieces, hRest, ?_⟩
  rw [splitMatchers, if_neg h, hRest]

theorem intercalate_splitMatchers (quote : Option Char) (cs : List Char) :
    [','].intercalate (splitMatchers quote cs) = cs := by
  induction cs generalizing quote with
  | nil => rfl
  | cons c cs ih =>
    by_cases separates : quote = none ∧ c = ','
    · rw [splitMatchers, if_pos separates, intercalate_cons _ _ (splitMatchers_ne_nil none cs), ih,
        separates.2, List.nil_append]
    · obtain ⟨piece, pieces, hRest, hSplit⟩ := splitMatchers_cons separates cs
      have hText := ih (quoteAfter quote c)
      rw [hRest] at hText
      rw [hSplit, ← hText]
      cases pieces <;> simp [List.intercalate_cons_cons]

theorem separable_splitMatchers (quote : Option Char) (cs : List Char) :
    Separable quote (splitMatchers quote cs) := by
  induction cs generalizing quote with
  | nil => exact .last trivial
  | cons c cs ih =>
    by_cases separates : quote = none ∧ c = ','
    · rw [splitMatchers, if_pos separates]
      exact .next trivial separates.1 (ih none)
    · obtain ⟨piece, pieces, hRest, hSplit⟩ := splitMatchers_cons separates cs
      have hPieces := ih (quoteAfter quote c)
      rw [hRest] at hPieces
      rw [hSplit]
      cases hPieces with
      | last whole => exact .last ⟨separates, whole⟩
      | next whole closed rest => exact .next ⟨separates, whole⟩ closed rest

theorem splitMatchers_of_isPiece (h : IsPiece quote piece) :
    splitMatchers quote piece = [piece] := by
  induction piece generalizing quote with
  | nil => rfl
  | cons c piece ih => rw [splitMatchers, if_neg h.1, ih h.2]

/-- A comma outside quotes parts the pieces before it from those after it. -/
theorem splitMatchers_append_comma (closed : openAfter quote before = none) (after : List Char) :
    splitMatchers quote (before ++ ',' :: after) =
      splitMatchers quote before ++ splitMatchers none after := by
  induction before generalizing quote with
  | nil =>
    obtain rfl : quote = none := closed
    simp [splitMatchers]
  | cons c before ih =>
    by_cases separates : quote = none ∧ c = ','
    · rw [openAfter_cons, separates.1, separates.2, quoteAfter_comma] at closed
      rw [List.cons_append, splitMatchers, if_pos separates, ih closed, splitMatchers,
        if_pos separates, List.cons_append]
    · obtain ⟨piece, pieces, hRest, hSplit⟩ := splitMatchers_cons separates before
      rw [List.cons_append, splitMatchers, if_neg separates, ih closed, hRest, hSplit]
      rfl

theorem Separable.splitMatchers_intercalate (h : Separable quote pieces) :
    splitMatchers quote ([','].intercalate pieces) = pieces := by
  induction h with
  | last whole =>
    rw [List.intercalate_singleton]
    exact splitMatchers_of_isPiece whole
  | next whole closed rest ih =>
    rw [intercalate_cons _ _ rest.ne_nil, splitMatchers_append_comma closed,
      splitMatchers_of_isPiece whole, ih, List.singleton_append]

/-- Which pieces a text falls into. -/
theorem splitMatchers_eq_iff :
    splitMatchers quote cs = pieces ↔ Separable quote pieces ∧ [','].intercalate pieces = cs := by
  constructor
  · rintro rfl
    exact ⟨separable_splitMatchers quote cs, intercalate_splitMatchers quote cs⟩
  · rintro ⟨separable, rfl⟩
    exact separable.splitMatchers_intercalate

instance (quote : Option Char) (pieces : List (List Char)) : Decidable (Separable quote pieces) :=
  decidable_of_iff (splitMatchers quote ([','].intercalate pieces) = pieces) <| by
    rw [splitMatchers_eq_iff, and_iff_left rfl]

/-! Texts that stay one piece wherever they stand. -/

/-- No comma lies outside quotes, and every quote that is opened is closed again. -/
def IsClosed (cs : List Char) : Prop := IsPiece none cs ∧ openAfter none cs = none

instance (cs : List Char) : Decidable (IsClosed cs) :=
  inferInstanceAs (Decidable (_ ∧ _))

theorem IsClosed.append {first second : List Char} (h1 : IsClosed first) (h2 : IsClosed second) :
    IsClosed (first ++ second) := by
  rw [IsClosed, isPiece_append, openAfter_append, h1.2]
  exact ⟨⟨h1.1, h2.1⟩, h2.2⟩

theorem separable_of_isClosed (h : ∀ piece ∈ pieces, IsClosed piece) (someOf : pieces ≠ []) :
    Separable none pieces := by
  induction pieces with
  | nil => exact absurd rfl someOf
  | cons piece pieces ih =>
    have hPiece := h piece List.mem_cons_self
    cases pieces with
    | nil => exact .last hPiece.1
    | cons next others =>
      exact .next hPiece.1 hPiece.2
        (ih (fun p hp => h p (List.mem_cons_of_mem _ hp)) (by simp))

/-- There is neither a comma nor a quote. -/
def IsPlain (cs : List Char) : Prop := ∀ c ∈ cs, c ≠ ',' ∧ c ≠ '"' ∧ c ≠ '\''

instance (cs : List Char) : Decidable (IsPlain cs) :=
  List.decidableBAll (fun c => c ≠ ',' ∧ c ≠ '"' ∧ c ≠ '\'') cs

theorem IsPlain.isClosed (h : IsPlain cs) : IsClosed cs := by
  induction cs with
  | nil => exact ⟨trivial, rfl⟩
  | cons c cs ih =>
    obtain ⟨comma, double, single⟩ := h c List.mem_cons_self
    have hAfter : quoteAfter none c = none := by simp [quoteAfter, double, single]
    have hRest := ih fun d hd => h d (List.mem_cons_of_mem _ hd)
    rw [IsClosed, IsPiece, openAfter_cons, hAfter]
    exact ⟨⟨fun separates => comma separates.2, hRest.1⟩, hRest.2⟩

/-- Inside quotes nothing but the quote itself counts. -/
theorem isPiece_of_notMem (h : q ∉ cs) : IsPiece (some q) cs ∧ openAfter (some q) cs = some q := by
  induction cs with
  | nil => exact ⟨trivial, rfl⟩
  | cons c cs ih =>
    rw [List.mem_cons, not_or] at h
    have hAfter : quoteAfter (some q) c = some q := by simp [quoteAfter, Ne.symm h.1]
    have hRest := ih h.2
    rw [IsPiece, openAfter_cons, hAfter]
    exact ⟨⟨fun separates => by simp at separates, hRest.1⟩, hRest.2⟩

theorem isClosed_quoted (isQuote : q = '"' ∨ q = '\'') (h : q ∉ cs) :
    IsClosed (q :: cs ++ [q]) := by
  have hComma : q ≠ ',' := by
    rcases isQuote with rfl | rfl <;> decide
  obtain ⟨hWhole, hInside⟩ := isPiece_of_notMem h
  have hQuoted : IsPiece (some q) (cs ++ [q]) ∧ openAfter (some q) (cs ++ [q]) = none := by
    rw [isPiece_append, openAfter_append, hInside]
    exact ⟨⟨hWhole, by simp [IsPiece]⟩, quoteAfter_self q⟩
  rw [IsClosed, List.cons_append, IsPiece, openAfter_cons, quoteAfter_of_isQuote isQuote]
  exact ⟨⟨fun separates => hComma separates.2, hQuoted.1⟩, hQuoted.2⟩

end MetricAlerts.Query
