import MetricAlerts.Number.Numeral
import MetricAlerts.Number.Text
import MetricAlerts.Text.Blank
import MetricAlerts.Json.Record

/-! Instants of Coordinated Universal Time, with their RFC 3339 text. -/

namespace MetricAlerts

/-- Seconds since the start of 1970 and nanoseconds within the second. In a leap second, which
follows `seconds`, there are a thousand million nanoseconds or more. -/
structure Timestamp where
  seconds : Int
  nanos : Nat
  deriving DecidableEq, Repr, Inhabited

namespace Timestamp

def nanosPerSecond : Nat := 1000000000

instance : LT Timestamp :=
  ⟨fun a b => a.seconds < b.seconds ∨ (a.seconds = b.seconds ∧ a.nanos < b.nanos)⟩

instance (a b : Timestamp) : Decidable (a < b) :=
  inferInstanceAs (Decidable (a.seconds < b.seconds ∨ (a.seconds = b.seconds ∧ a.nanos < b.nanos)))

/-- Days from the start of 1970 to a date of the Gregorian calendar. A year is counted from March,
and 400 years have 146097 days. -/
def daysOfDate (year : Int) (month day : Nat) : Int :=
  let y := if month ≤ 2 then year - 1 else year
  let era := Int.fdiv y 400
  let yearOfEra := y - era * 400
  let monthFromMarch : Int := (month + 9) % 12
  let dayOfYear := (153 * monthFromMarch + 2) / 5 + (day : Int) - 1
  era * 146097 + yearOfEra * 365 + yearOfEra / 4 - yearOfEra / 100 + dayOfYear - 719468

/-- The year, month and day of a number of days from the start of 1970. -/
def dateOfDays (days : Int) : Int × Nat × Nat :=
  let z := days + 719468
  let era := Int.fdiv z 146097
  let dayOfEra := (z - era * 146097).toNat
  let yearOfEra := (dayOfEra - dayOfEra / 1460 + dayOfEra / 36524 - dayOfEra / 146096) / 365
  let dayOfYear := dayOfEra - (365 * yearOfEra + yearOfEra / 4 - yearOfEra / 100)
  let monthFromMarch := (5 * dayOfYear + 2) / 153
  let day := dayOfYear - (153 * monthFromMarch + 2) / 5 + 1
  let month := if monthFromMarch < 10 then monthFromMarch + 3 else monthFromMarch - 9
  let year : Int := era * 400 + yearOfEra
  (if month ≤ 2 then year + 1 else year, month, day)

example : daysOfDate 1970 1 1 = 0 ∧ daysOfDate 2000 3 1 = 11017 := by decide

example : dateOfDays 11016 = (2000, 2, 29) ∧ dateOfDays (-1) = (1969, 12, 31) := by decide

def isLeapYear (year : Int) : Bool :=
  year % 4 == 0 && (year % 100 != 0 || year % 400 == 0)

def daysInMonth (year : Int) (month : Nat) : Nat :=
  if month = 2 then (if isLeapYear year then 29 else 28)
  else if month = 4 ∨ month = 6 ∨ month = 9 ∨ month = 11 then 30
  else 31

def padded (width n : Nat) : List Char := Number.padZeros width (Number.digits n)

/-- A year with at least four digits, and a sign where it has more than four or is negative. -/
def yearText (year : Int) : List Char :=
  if 0 ≤ year ∧ year ≤ 9999 then padded 4 year.toNat
  else (if year < 0 then '-' else '+') :: padded 4 year.natAbs

def dateText (t : Timestamp) : List Char :=
  let (year, month, day) := dateOfDays (Int.fdiv t.seconds 86400)
  yearText year ++ '-' :: padded 2 month ++ '-' :: padded 2 day

/-- The time of day, whose seconds run to 60 in a leap second. -/
def clockText (t : Timestamp) : List Char :=
  let second := (Int.fmod t.seconds 86400).toNat
  let leap := if nanosPerSecond ≤ t.nanos then 1 else 0
  padded 2 (second / 3600) ++ ':' :: padded 2 (second / 60 % 60) ++ ':' ::
    padded 2 (second % 60 + leap)

/-- The fraction of the second with no digits, or three, six or nine of them, as few as are
exact. -/
def fractionText (t : Timestamp) : List Char :=
  let n := t.nanos % nanosPerSecond
  if n = 0 then []
  else if n % 1000000 = 0 then '.' :: padded 3 (n / 1000000)
  else if n % 1000 = 0 then '.' :: padded 6 (n / 1000)
  else '.' :: padded 9 n

def textWith (zone : String) (t : Timestamp) : String :=
  String.ofList (t.dateText ++ 'T' :: t.clockText ++ t.fractionText ++ zone.toList)

/-- RFC 3339 text with the zone as `Z`. -/
def text (t : Timestamp) : String := t.textWith "Z"

/-- RFC 3339 text with the zone as an offset. -/
def offsetText (t : Timestamp) : String := t.textWith "+00:00"

/-- Date and time of day to the second. -/
def plainText (t : Timestamp) : String :=
  String.ofList (t.dateText ++ ' ' :: t.clockText) ++ " UTC"

def toJson (t : Timestamp) : Json := .string t.text

def skipBlanks (cs : List Char) : List Char := cs.dropWhile Text.isBlank

/-- A number of one digit to `width` digits after blanks, and the rest. -/
def number? (width : Nat) (cs : List Char) : Option (Nat × List Char) :=
  let cs := skipBlanks cs
  let ds := (cs.take width).takeWhile Char.isDigit
  if ds.isEmpty then none else some (Number.digitsValue ds, cs.drop ds.length)

/-- A year of any number of digits, after its sign. -/
def signedYear? (sign : Int) (cs : List Char) : Option (Int × List Char) :=
  let ds := cs.takeWhile Char.isDigit
  if ds.isEmpty then none
  else some (sign * Number.digitsValue ds, cs.dropWhile Char.isDigit)

/-- A year: up to four digits, or any number of them after a sign. -/
def year? (cs : List Char) : Option (Int × List Char) :=
  match skipBlanks cs with
  | '-' :: rest => signedYear? (-1) rest
  | '+' :: rest => signedYear? 1 rest
  | rest => (number? 4 rest).map fun (n, rest) => ((n : Int), rest)

/-- What follows a mark, with blanks before it. -/
def after? (mark : Char) (cs : List Char) : Option (List Char) :=
  match skipBlanks cs with
  | c :: rest => if c = mark then some rest else none
  | [] => none

/-- A fraction of a second in nanoseconds, of which at most nine digits count. -/
def fraction? : List Char → Option (Nat × List Char)
  | '.' :: rest =>
    let ds := rest.takeWhile Char.isDigit
    if ds.isEmpty then none
    else
      let counted := ds.take 9
      some (Number.digitsValue counted * Number.powerOfTen (9 - counted.length),
        rest.dropWhile Char.isDigit)
  | cs => some (0, cs)

/-- Hours and minutes in seconds, after their sign. -/
def offset? (sign : Int) : List Char → Option (Int × List Char)
  | h1 :: h2 :: rest =>
    match rest.dropWhile fun c => c = ':' || Text.isBlank c with
    | m1 :: m2 :: rest =>
      if h1.isDigit && h2.isDigit && '0' ≤ m1 && m1 ≤ '5' && m2.isDigit then
        let seconds := Number.digitsValue [h1, h2] * 3600 + Number.digitsValue [m1, m2] * 60
        if seconds < 86400 then some (sign * seconds, rest) else none
      else none
    | _ => none
  | _ => none

/-- The seconds by which a zone is ahead: `UTC`, `Z`, or a sign with hours and minutes. -/
def zone? (cs : List Char) : Option (Int × List Char) :=
  match skipBlanks cs with
  | '+' :: rest => offset? 1 rest
  | '-' :: rest => offset? (-1) rest
  | '−' :: rest => offset? (-1) rest
  | 'Z' :: rest => some (0, rest)
  | 'z' :: rest => some (0, rest)
  | a :: b :: c :: rest =>
    if [a, b, c].map Number.asciiLower = ['u', 't', 'c'] then some (0, rest) else none
  | _ => none

/-- The last year that a date may have. -/
def lastYear : Int := 262142

/-- The first year that a date may have. -/
def firstYear : Int := -262143

def firstSecond : Int := daysOfDate firstYear 1 1 * 86400

def lastSecond : Int := daysOfDate lastYear 12 31 * 86400 + 86399

/-- What follows the mark between a date and a time of day: a `T` or a blank. -/
def afterDate? : List Char → Option (List Char)
  | c :: rest => if c = 'T' ∨ c = 't' ∨ c = ' ' then some rest else none
  | [] => none

/-- The instant of a date and a time of day in a zone that is ahead by `offset` seconds. -/
def ofParts? (year : Int) (month day hour minute second nanos : Nat) (offset : Int) :
    Option Timestamp :=
  if year < firstYear ∨ lastYear < year ∨ month = 0 ∨ 12 < month ∨ day = 0 ∨
      daysInMonth year month < day ∨ 23 < hour ∨ 59 < minute ∨ 60 < second then none
  else
    let ofDay : Int := hour * 3600 + minute * 60 + min second 59
    let seconds := daysOfDate year month day * 86400 + ofDay - offset
    if seconds < firstSecond ∨ lastSecond < seconds then none
    else some ⟨seconds, if second = 60 then nanos + nanosPerSecond else nanos⟩

/-- The instant that a text names: a date, a `T` or a blank, a time of day and a zone. -/
def parse? (text : String) : Option Timestamp := do
  let (year, cs) ← year? text.toList
  let cs ← after? '-' cs
  let (month, cs) ← number? 2 cs
  let cs ← after? '-' cs
  let (day, cs) ← number? 2 cs
  let cs ← afterDate? cs
  let (hour, cs) ← number? 2 cs
  let cs ← after? ':' cs
  let (minute, cs) ← number? 2 cs
  let cs ← after? ':' cs
  let (second, cs) ← number? 2 cs
  let (nanos, cs) ← fraction? cs
  let (offset, cs) ← zone? cs
  if (skipBlanks cs).isEmpty then ofParts? year month day hour minute second nanos offset
  else none

def read? (d : Document) : Option Timestamp := d.string?.bind parse?

end Timestamp

end MetricAlerts
