import MetricAlerts.Number.Decimal

/-! Numerals in free text: decimal fractions with an optional sign and exponent, the names of
infinity and of the float that is no number, and unsigned whole numbers. -/

namespace MetricAlerts.Number

/-- The value of a list of decimal digits. -/
def digitsValue (cs : List Char) : Nat :=
  cs.foldl (fun n c => 10 * n + (c.toNat - 48)) 0

/-- The value of a hexadecimal digit. -/
def hexValue? (c : Char) : Option Nat :=
  if c.isDigit then some (c.toNat - 48)
  else if 'a' ≤ c ∧ c ≤ 'f' then some (c.toNat - 87)
  else if 'A' ≤ c ∧ c ≤ 'F' then some (c.toNat - 55)
  else none

/-- An ASCII letter in lower case, any other character as it is. -/
def asciiLower (c : Char) : Char := c.toLower

def infinity : Float := 1.0 / 0.0

def notANumber : Float := 0.0 / 0.0

/-- The float nearest to `coefficient * 10^exponent`. -/
def ofDecimal (coefficient : Nat) (exponent : Int) : Float :=
  let size : Int := (digits coefficient).length + exponent
  if coefficient = 0 ∨ size < -400 then 0.0
  else if 400 < size then infinity
  else Float.ofScientific coefficient (exponent < 0) exponent.natAbs

/-- An exponent: a sign if any, then digits. -/
def exponent? (cs : List Char) : Option Int :=
  let (negative, ds) := match cs with
    | '-' :: rest => (true, rest)
    | '+' :: rest => (false, rest)
    | cs => (false, cs)
  if ds.isEmpty || !ds.all Char.isDigit then none
  else
    let n : Int := digitsValue ds
    some (if negative then -n else n)

/-- A numeral without sign: digits with at most one point and at least one digit, and perhaps an
exponent. -/
def unsignedFloat? (cs : List Char) : Option Float :=
  let whole := cs.takeWhile Char.isDigit
  let rest := cs.dropWhile Char.isDigit
  let (fraction, rest) := match rest with
    | '.' :: r => (r.takeWhile Char.isDigit, r.dropWhile Char.isDigit)
    | r => ([], r)
  if whole.isEmpty && fraction.isEmpty then none
  else
    let value (e : Int) := ofDecimal (digitsValue (whole ++ fraction)) (e - fraction.length)
    match rest with
    | [] => some (value 0)
    | c :: r => if c = 'e' ∨ c = 'E' then (exponent? r).map value else none

/-- A numeral with an optional sign; `inf`, `infinity` and `nan` in either case are numerals. -/
def float? (cs : List Char) : Option Float :=
  let (negative, body) := match cs with
    | '-' :: rest => (true, rest)
    | '+' :: rest => (false, rest)
    | cs => (false, cs)
  let lower := body.map asciiLower
  let size :=
    if lower = "inf".toList || lower = "infinity".toList then some infinity
    else if lower = "nan".toList then some notANumber
    else unsignedFloat? body
  size.map fun x => if negative then -x else x

/-- A whole number below `bound`: digits, with a plus sign before them if at all. -/
def nat? (bound : Nat) (cs : List Char) : Option Nat :=
  let ds := match cs with
    | '+' :: rest => rest
    | cs => cs
  if ds.isEmpty || !ds.all Char.isDigit then none
  else
    let n := digitsValue ds
    if n < bound then some n else none

end MetricAlerts.Number
