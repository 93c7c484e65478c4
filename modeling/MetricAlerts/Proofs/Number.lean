import Mathlib.Algebra.Group.Nat.Defs
import Mathlib.Data.List.Induction
import MetricAlerts.Number.Numeral
import MetricAlerts.Number.Text
import MetricAlerts.Text.Blank

/-! Decimal digits: the digits of a number, with or without zeros in front, have that number as
their value. -/

namespace MetricAlerts

theorem Text.isBlank_of_isDigit {c : Char} (digit : c.isDigit = true) : isBlank c = false := by
  have hRange : 48 ≤ c.toNat ∧ c.toNat ≤ 57 := by
    simpa [Char.isDigit, UInt32.le_iff_toNat_le] using digit
  simp only [isBlank, Bool.or_eq_false_iff, Bool.and_eq_false_iff, decide_eq_false_iff_not,
    beq_eq_false_iff_ne]
  omega

namespace Number

variable {cs : List Char} {c : Char} {n width : Nat}

theorem digitsValue_digits (n : Nat) : digitsValue (digits n) = n := by
  have hDigits := Nat.ofDigitChars_ten_toDigits (n := n)
  rwa [Nat.ofDigitChars_eq_foldl] at hDigits

theorem isDigit_of_mem_digits (h : c ∈ digits n) : c.isDigit = true :=
  Nat.isDigit_of_mem_toDigits (by decide) (by decide) h

theorem digitsValue_padZeros (width : Nat) (cs : List Char) :
    digitsValue (padZeros width cs) = digitsValue cs := by
  rw [padZeros]
  generalize width - cs.length = zeros
  induction zeros with
  | zero => rfl
  | succ zeros ih => rwa [List.replicate_succ, List.cons_append]

theorem isDigit_of_mem_padZeros (digits : ∀ c ∈ cs, c.isDigit = true) (h : c ∈ padZeros width cs) :
    c.isDigit = true := by
  rcases List.mem_append.mp h with zero | mem
  · rw [List.eq_of_mem_replicate zero]
    decide
  · exact digits c mem

theorem length_padZeros (h : cs.length ≤ width) : (padZeros width cs).length = width := by
  rw [padZeros, List.length_append, List.length_replicate, Nat.sub_add_cancel h]

theorem digitsValue_append_singleton (cs : List Char) (c : Char) :
    digitsValue (cs ++ [c]) = 10 * digitsValue cs + (c.toNat - 48) := by
  rw [digitsValue, List.foldl_append]
  rfl

theorem digitsValue_lt (digits : ∀ c ∈ cs, c.isDigit = true) : digitsValue cs < 10 ^ cs.length := by
  induction cs using List.reverseRecOn with
  | nil => decide
  | append_singleton cs c ih =>
    have hDigit : c.toNat ≤ 57 := by
      have := digits c (by simp)
      simp [Char.isDigit, UInt32.le_iff_toNat_le] at this
      exact this.2
    have hRest := ih fun d hd => digits d (List.mem_append_left _ hd)
    rw [digitsValue_append_singleton, List.length_append, List.length_singleton, Nat.pow_succ]
    omega

end Number

end MetricAlerts
