import Mathlib.Data.List.TakeWhile
import MetricAlerts.Proofs.Number
import MetricAlerts.Proofs.Time.Calendar

/-! Instants read from text. The text of an instant is read as that instant (`parse?_text_iff`), and
whatever text is read is read as an instant (`exists_parse?_iff`). -/

namespace MetricAlerts.Timestamp

variable {width n : Nat} {c : Char} {ds rest : List Char}

/-! The parts of a text. -/

theorem skipBlanks_cons (h : Text.isBlank c = false) : skipBlanks (c :: rest) = c :: rest := by
  simp [skipBlanks, h]

theorem skipBlanks_append (digits : ∀ c ∈ ds, c.isDigit = true) (nonempty : ds ≠ []) :
    skipBlanks (ds ++ rest) = ds ++ rest := by
  obtain ⟨c, cs, rfl⟩ := List.exists_cons_of_ne_nil nonempty
  exact skipBlanks_cons (Text.isBlank_of_isDigit (digits c List.mem_cons_self))

theorem after?_cons (h : Text.isBlank c = false) : after? c (c :: rest) = some rest := by
  rw [after?, skipBlanks_cons h]
  exact if_pos rfl

theorem digitsValue_padded (width n : Nat) : Number.digitsValue (padded width n) = n := by
  rw [padded, Number.digitsValue_padZeros, Number.digitsValue_digits]

theorem isDigit_of_mem_padded (h : c ∈ padded width n) : c.isDigit = true :=
  Number.isDigit_of_mem_padZeros (fun _ => Number.isDigit_of_mem_digits) h

theorem padded_ne_nil (width n : Nat) : padded width n ≠ [] :=
  List.append_ne_nil_of_right_ne_nil _ Nat.toDigits_ne_nil

theorem length_padded (pos : 0 < width) (h : n < 10 ^ width) : (padded width n).length = width :=
  Number.length_padZeros ((Nat.length_toDigits_le_iff (by decide) pos).mpr h)

theorem takeWhile_padded (h : c.isDigit = false) :
    (padded width n ++ c :: rest).takeWhile Char.isDigit = padded width n := by
  rw [List.takeWhile_append_of_pos fun _ => isDigit_of_mem_padded, List.takeWhile_cons_of_neg
    (by simp [h]), List.append_nil]

theorem dropWhile_padded (h : c.isDigit = false) :
    (padded width n ++ c :: rest).dropWhile Char.isDigit = c :: rest := by
  rw [List.dropWhile_append_of_pos fun _ => isDigit_of_mem_padded, List.dropWhile_cons_of_neg
    (by simp [h])]

theorem number?_padded (pos : 0 < width) (h : n < 10 ^ width) :
    number? width (padded width n ++ rest) = some (n, rest) := by
  have hLength := length_padded pos h
  have hTake : (padded width n ++ rest).take width = padded width n := List.take_left' hLength
  have hDigits : (padded width n).takeWhile Char.isDigit = padded width n :=
    List.takeWhile_eq_self_iff.mpr fun _ => isDigit_of_mem_padded
  simp only [number?, skipBlanks_append (fun _ => isDigit_of_mem_padded) (padded_ne_nil width n),
    hTake, hDigits, List.isEmpty_iff, padded_ne_nil, if_false, digitsValue_padded,
    List.drop_left]

theorem signedYear?_padded (sign : Int) :
    signedYear? sign (padded width n ++ '-' :: rest) = some (sign * n, '-' :: rest) := by
  have hMark : '-'.isDigit = false := by decide
  simp only [signedYear?, takeWhile_padded hMark, dropWhile_padded hMark, List.isEmpty_iff,
    padded_ne_nil, if_false, digitsValue_padded]

/-- A year of four digits begins with one, which is no sign; any other begins with its sign. -/
theorem year?_yearText (year : Int) : year? (yearText year ++ '-' :: rest) =
    some (year, '-' :: rest) := by
  rw [yearText]
  split
  next small =>
    have hNumber : number? 4 (padded 4 year.toNat ++ '-' :: rest) =
        some (year.toNat, '-' :: rest) := number?_padded (by decide) (by omega)
    have hSkip : skipBlanks (padded 4 year.toNat ++ '-' :: rest) =
        padded 4 year.toNat ++ '-' :: rest :=
      skipBlanks_append (fun _ => isDigit_of_mem_padded) (padded_ne_nil 4 year.toNat)
    obtain ⟨c, cs, hText⟩ := List.exists_cons_of_ne_nil (padded_ne_nil 4 year.toNat)
    have hDigit : c.isDigit = true := isDigit_of_mem_padded (hText ▸ List.mem_cons_self)
    rw [hText, List.cons_append] at hNumber hSkip ⊢
    rw [year?, hSkip]
    split
    · cases ‹_ :: _ = _›
      exact absurd hDigit (by decide)
    · cases ‹_ :: _ = _›
      exact absurd hDigit (by decide)
    · rw [hNumber]
      exact congrArg (fun y => some (y, '-' :: rest)) (Int.toNat_of_nonneg small.1)
  next large =>
    split
    next negative =>
      rw [List.cons_append, year?, skipBlanks_cons (by decide)]
      simp only [signedYear?_padded]
      rw [Int.ofNat_natAbs_of_nonpos (by omega), Int.neg_mul_neg, Int.one_mul]
    next positive =>
      rw [List.cons_append, year?, skipBlanks_cons (by decide)]
      simp only [signedYear?_padded]
      rw [Int.natAbs_of_nonneg (by omega), Int.one_mul]

theorem fraction?_padded (pos : 0 < width) (width_le : width ≤ 9) (h : n < 10 ^ width) :
    fraction? ('.' :: padded width n ++ 'Z' :: rest) =
      some (n * 10 ^ (9 - width), 'Z' :: rest) := by
  have hMark : 'Z'.isDigit = false := by decide
  have hLength := length_padded pos h
  have hTake : (padded width n).take 9 = padded width n :=
    List.take_of_length_le (hLength.trans_le width_le)
  rw [List.cons_append, fraction?]
  simp only [takeWhile_padded hMark, dropWhile_padded hMark, List.isEmpty_iff, padded_ne_nil,
    if_false, hTake, hLength, digitsValue_padded]
  rfl

theorem fraction?_fractionText (t : Timestamp) :
    fraction? (t.fractionText ++ 'Z' :: rest) = some (t.nanos % nanosPerSecond, 'Z' :: rest) := by
  have hNanos : t.nanos % nanosPerSecond < 1000000000 := Nat.mod_lt _ (by decide)
  simp only [fractionText]
  generalize t.nanos % nanosPerSecond = nanos at hNanos
  split
  · subst nanos
    rfl
  split
  · have exact : nanos / 1000000 * 10 ^ (9 - 3) = nanos := by omega
    rw [fraction?_padded (by decide) (by decide) (by omega), exact]
  split
  · have exact : nanos / 1000 * 10 ^ (9 - 6) = nanos := by omega
    rw [fraction?_padded (by decide) (by decide) (by omega), exact]
  · rw [fraction?_padded (by decide) (by decide) hNanos, Nat.sub_self, Nat.pow_zero, Nat.mul_one]

theorem afterDate?_cons : afterDate? ('T' :: rest) = some rest := rfl

theorem zone?_utc : zone? ['Z'] = some (0, []) := by
  rw [zone?, skipBlanks_cons (by decide)]
  rfl

/-! The text of an instant. -/

/-- The day, counted from the start of 1970. -/
def day (t : Timestamp) : Int := Int.fdiv t.seconds 86400

def secondOfDay (t : Timestamp) : Nat := (Int.fmod t.seconds 86400).toNat

theorem secondOfDay_lt (t : Timestamp) : t.secondOfDay < 86400 := by
  rw [secondOfDay, Int.fmod_eq_emod_of_nonneg _ (by decide)]
  omega

theorem day_add_secondOfDay (t : Timestamp) : t.day * 86400 + t.secondOfDay = t.seconds := by
  rw [day, secondOfDay, Int.fdiv_eq_ediv_of_nonneg _ (by decide),
    Int.fmod_eq_emod_of_nonneg _ (by decide)]
  omega

/-- What the second is called: after the last of a minute comes a leap second. -/
def secondName (t : Timestamp) : Nat :=
  t.secondOfDay % 60 + if nanosPerSecond ≤ t.nanos then 1 else 0

theorem secondName_le (t : Timestamp) : t.secondName ≤ 60 := by
  rw [secondName]
  split <;> omega

theorem toList_text {t : Timestamp} {year : Int} {month day : Nat}
    (hDate : dateOfDays t.day = (year, month, day)) :
    t.text.toList = yearText year ++ '-' :: (padded 2 month ++ '-' :: (padded 2 day ++ 'T' ::
      (padded 2 (t.secondOfDay / 3600) ++ ':' :: (padded 2 (t.secondOfDay / 60 % 60) ++ ':' ::
        (padded 2 t.secondName ++ (t.fractionText ++ ['Z'])))))) := by
  rw [Timestamp.day] at hDate
  simp [text, textWith, dateText, hDate, clockText, secondOfDay, secondName]

/-- Each part of the text of a time is read up to where the next one begins. -/
theorem parse?_eq_ofParts? {t : Timestamp} {year : Int} {month day : Nat}
    (hDate : dateOfDays t.day = (year, month, day)) (isDate : IsDate year month day) :
    parse? t.text = ofParts? year month day (t.secondOfDay / 3600) (t.secondOfDay / 60 % 60)
      t.secondName (t.nanos % nanosPerSecond) 0 := by
  have hWidth : 0 < 2 := by decide
  have hDash : Text.isBlank '-' = false := by decide
  have hColon : Text.isBlank ':' = false := by decide
  have hMonth : month < 10 ^ 2 := isDate.isMonth.2.trans_lt (by decide)
  have hDay : day < 10 ^ 2 :=
    (isDate.isDay.2.trans (daysInMonth_le year month)).trans_lt (by decide)
  have hHour : t.secondOfDay / 3600 < 10 ^ 2 := by
    have := t.secondOfDay_lt
    omega
  have hMinute : t.secondOfDay / 60 % 60 < 10 ^ 2 := by omega
  have hSecond : t.secondName < 10 ^ 2 := t.secondName_le.trans_lt (by decide)
  have goOn {α β : Type} {x : Option α} {a : α} {f : α → Option β} (h : x = some a) :
      x.bind f = f a := by
    rw [h, Option.bind_some]
  rw [parse?, toList_text hDate]
  refine (goOn (year?_yearText year)).trans ?_
  refine (goOn (after?_cons hDash)).trans ?_
  refine (goOn (number?_padded hWidth hMonth)).trans ?_
  refine (goOn (after?_cons hDash)).trans ?_
  refine (goOn (number?_padded hWidth hDay)).trans ?_
  refine (goOn afterDate?_cons).trans ?_
  refine (goOn (number?_padded hWidth hHour)).trans ?_
  refine (goOn (after?_cons hColon)).trans ?_
  refine (goOn (number?_padded hWidth hMinute)).trans ?_
  refine (goOn (after?_cons hColon)).trans ?_
  refine (goOn (number?_padded hWidth hSecond)).trans ?_
  refine (goOn (fraction?_fractionText t)).trans ?_
  exact (goOn zone?_utc).trans (if_pos rfl)

/-- The instant that the text is read as. Nanoseconds past the end of a second come back only where
it is the last of a minute, as no other leap second has a name. -/
def reread (t : Timestamp) : Timestamp where
  seconds := t.day * 86400 + (t.secondOfDay / 60 * 60 + min t.secondName 59 : Nat)
  nanos :=
    if t.secondName = 60 then t.nanos % nanosPerSecond + nanosPerSecond
    else t.nanos % nanosPerSecond

theorem seconds_reread (t : Timestamp) : t.reread.seconds =
    t.day * 86400 + (t.secondOfDay / 60 * 60 + min t.secondName 59 : Nat) :=
  rfl

theorem year_inRange {t : Timestamp} {year : Int}
    (first : daysOfDate firstYear 1 1 ≤ t.day → firstYear ≤ year)
    (last : t.day ≤ daysOfDate lastYear 12 31 → year ≤ lastYear)
    (h : firstSecond ≤ t.reread.seconds ∧ t.reread.seconds ≤ lastSecond) :
    firstYear ≤ year ∧ year ≤ lastYear := by
  have hOfDay := t.secondOfDay_lt
  rw [seconds_reread, firstSecond, lastSecond] at h
  exact ⟨first (by omega), last (by omega)⟩

theorem parse?_text (t : Timestamp) : parse? t.text =
    if firstSecond ≤ t.reread.seconds ∧ t.reread.seconds ≤ lastSecond then some t.reread
    else none := by
  obtain ⟨year, month, day, hDate, isDate, hDays, first, last⟩ := exists_date t.day
  have hSeconds : daysOfDate year month day * 86400 +
      (((t.secondOfDay / 3600 : Nat) : Int) * 3600 + (t.secondOfDay / 60 % 60 : Nat) * 60 +
        (min t.secondName 59 : Nat)) - 0 = t.reread.seconds := by
    rw [hDays, seconds_reread]
    omega
  rw [parse?_eq_ofParts? hDate isDate, ofParts?]
  simp only [hSeconds]
  by_cases h : firstSecond ≤ t.reread.seconds ∧ t.reread.seconds ≤ lastSecond
  · have hYear := year_inRange (first _) (last _) h
    have hOfDay := t.secondOfDay_lt
    have hName := t.secondName_le
    have hMonth := isDate.isMonth
    have hDay := isDate.isDay
    rw [if_pos h, if_neg (by omega), if_neg (by omega)]
    rfl
  · have outOfRange : t.reread.seconds < firstSecond ∨ lastSecond < t.reread.seconds := by omega
    rw [if_neg h, if_pos outOfRange, ite_self]

/-- The instant lies in the years that a date may have, and if it is in a leap second, that follows
the last second of a minute. -/
structure IsInstant (t : Timestamp) : Prop where
  first_le : firstSecond ≤ t.seconds
  le_last : t.seconds ≤ lastSecond
  nanos_lt : t.nanos < nanosPerSecond ∨ (t.seconds % 60 = 59 ∧ t.nanos < 2 * nanosPerSecond)

instance (t : Timestamp) : Decidable t.IsInstant :=
  decidable_of_iff (firstSecond ≤ t.seconds ∧ t.seconds ≤ lastSecond ∧
      (t.nanos < nanosPerSecond ∨ (t.seconds % 60 = 59 ∧ t.nanos < 2 * nanosPerSecond)))
    ⟨fun ⟨first_le, le_last, nanos_lt⟩ => ⟨first_le, le_last, nanos_lt⟩,
      fun ⟨first_le, le_last, nanos_lt⟩ => ⟨first_le, le_last, nanos_lt⟩⟩

theorem reread_eq_iff {t : Timestamp} : t.reread = t ↔
    t.nanos < nanosPerSecond ∨ (t.seconds % 60 = 59 ∧ t.nanos < 2 * nanosPerSecond) := by
  have hSeconds := t.day_add_secondOfDay
  have hName : t.secondName =
      t.secondOfDay % 60 + if nanosPerSecond ≤ t.nanos then 1 else 0 := rfl
  have hReread : t.reread = t ↔
      t.day * 86400 + (t.secondOfDay / 60 * 60 + min t.secondName 59 : Nat) = t.seconds ∧
        (if t.secondName = 60 then t.nanos % nanosPerSecond + nanosPerSecond
          else t.nanos % nanosPerSecond) = t.nanos := by
    cases t
    exact iff_of_eq (Timestamp.mk.injEq ..)
  rw [hReread]
  rw [nanosPerSecond] at *
  split at hName <;> split <;> omega

/-- The text of an instant is read as that instant. -/
theorem parse?_text_iff {t : Timestamp} : parse? t.text = some t ↔ t.IsInstant := by
  rw [parse?_text]
  constructor
  · intro h
    obtain ⟨inRange, h⟩ := Option.ite_none_right_eq_some.mp h
    have hReread : t.reread = t := Option.some.inj h
    rw [hReread] at inRange
    exact ⟨inRange.1, inRange.2, reread_eq_iff.mp hReread⟩
  · intro h
    rw [reread_eq_iff.mpr h.nanos_lt]
    exact if_pos ⟨h.first_le, h.le_last⟩

/-! What any text is read as. -/

theorem fraction?_lt {cs : List Char} {nanos : Nat} (h : fraction? cs = some (nanos, rest)) :
    nanos < nanosPerSecond := by
  rw [fraction?.eq_def] at h
  split at h
  next cs =>
    cases (Option.ite_none_left_eq_some.mp h).2
    have hDigits : ∀ c ∈ (cs.takeWhile Char.isDigit).take 9, c.isDigit = true :=
      fun c hc => List.mem_takeWhile_imp (List.mem_of_mem_take hc)
    have hLength : ((cs.takeWhile Char.isDigit).take 9).length ≤ 9 := List.length_take_le ..
    generalize (cs.takeWhile Char.isDigit).take 9 = counted at hDigits hLength
    calc Number.digitsValue counted * 10 ^ (9 - counted.length)
        _ < 10 ^ counted.length * 10 ^ (9 - counted.length) :=
          Nat.mul_lt_mul_of_pos_right (Number.digitsValue_lt hDigits) (Nat.pow_pos (by decide))
        _ = nanosPerSecond := by rw [← Nat.pow_add, Nat.add_sub_cancel' hLength]; rfl
  next =>
    cases h
    decide

theorem offset?_emod {sign : Int} {cs : List Char} {offset : Int}
    (h : offset? sign cs = some (offset, rest)) : offset % 60 = 0 := by
  have hMinutes (hours minutes : Nat) :
      sign * ((hours * 3600 + minutes * 60 : Nat) : Int) % 60 = 0 := by
    have hParts : hours * 3600 + minutes * 60 = 60 * (hours * 60 + minutes) := by omega
    rw [hParts, Int.natCast_mul, Int.mul_left_comm]
    exact Int.mul_emod_right ..
  rw [offset?.eq_def] at h
  split at h
  · split at h
    · obtain ⟨-, h⟩ := Option.ite_none_right_eq_some.mp h
      cases (Option.ite_none_right_eq_some.mp h).2
      exact hMinutes _ _
    · cases h
  · cases h

theorem zone?_emod {cs : List Char} {offset : Int} (h : zone? cs = some (offset, rest)) :
    offset % 60 = 0 := by
  rw [zone?] at h
  split at h
  · exact offset?_emod h
  · exact offset?_emod h
  · exact offset?_emod h
  · cases h
    rfl
  · cases h
    rfl
  · cases (Option.ite_none_right_eq_some.mp h).2
    rfl
  · cases h

theorem isInstant_of_ofParts? {year : Int} {month day hour minute second nanos : Nat} {offset : Int}
    {t : Timestamp} (hNanos : nanos < nanosPerSecond) (hOffset : offset % 60 = 0)
    (h : ofParts? year month day hour minute second nanos offset = some t) : t.IsInstant := by
  obtain ⟨-, h⟩ := Option.ite_none_left_eq_some.mp h
  obtain ⟨inRange, h⟩ := Option.ite_none_left_eq_some.mp h
  cases h
  obtain ⟨first_le, le_last⟩ := not_or.mp inRange
  refine ⟨Int.not_lt.mp first_le, Int.not_lt.mp le_last, ?_⟩
  by_cases leap : second = 60
  · subst leap
    refine .inr ⟨?_, by simpa [Nat.two_mul] using hNanos⟩
    show (daysOfDate year month day * 86400 + (hour * 3600 + minute * 60 + 59) - offset) % 60 = 59
    omega
  · simp only [if_neg leap]
    exact .inl hNanos

theorem isInstant_of_parse? {text : String} {t : Timestamp} (h : parse? text = some t) :
    t.IsInstant := by
  rw [parse?] at h
  obtain ⟨⟨year, cs⟩, -, h⟩ := Option.bind_eq_some_iff.mp h
  obtain ⟨cs, -, h⟩ := Option.bind_eq_some_iff.mp h
  obtain ⟨⟨month, cs⟩, -, h⟩ := Option.bind_eq_some_iff.mp h
  obtain ⟨cs, -, h⟩ := Option.bind_eq_some_iff.mp h
  obtain ⟨⟨day, cs⟩, -, h⟩ := Option.bind_eq_some_iff.mp h
  obtain ⟨cs, -, h⟩ := Option.bind_eq_some_iff.mp h
  obtain ⟨⟨hour, cs⟩, -, h⟩ := Option.bind_eq_some_iff.mp h
  obtain ⟨cs, -, h⟩ := Option.bind_eq_some_iff.mp h
  obtain ⟨⟨minute, cs⟩, -, h⟩ := Option.bind_eq_some_iff.mp h
  obtain ⟨cs, -, h⟩ := Option.bind_eq_some_iff.mp h
  obtain ⟨⟨second, cs⟩, -, h⟩ := Option.bind_eq_some_iff.mp h
  obtain ⟨⟨nanos, cs⟩, hNanos, h⟩ := Option.bind_eq_some_iff.mp h
  obtain ⟨⟨offset, cs⟩, hOffset, h⟩ := Option.bind_eq_some_iff.mp h
  exact isInstant_of_ofParts? (fraction?_lt hNanos) (zone?_emod hOffset)
    (Option.ite_none_right_eq_some.mp h).2

/-- The instants are what texts are read as. -/
theorem exists_parse?_iff {t : Timestamp} : (∃ text, parse? text = some t) ↔ t.IsInstant := by
  constructor
  · rintro ⟨text, h⟩
    exact isInstant_of_parse? h
  · intro h
    exact ⟨t.text, parse?_text_iff.mpr h⟩

end MetricAlerts.Timestamp
