import MetricAlerts.Number.Decimal

/-! The written forms of numbers: shortest floats, floats with two places, whole numbers. -/

namespace MetricAlerts.Number

/-- Digits of a whole number with its sign. -/
def intText (n : Int) : List Char :=
  if n < 0 then '-' :: digits n.natAbs else digits n.natAbs

/-- Digits on the left of zeros up to a length. -/
def padZeros (width : Nat) (cs : List Char) : List Char :=
  List.replicate (width - cs.length) '0' ++ cs

/-- A decimal in positional form with a fraction of at least one digit when its point lies within
the first sixteen digits or at most five zeros before them, else in exponent form. -/
def decimalText (d : Decimal) : List Char :=
  let ds := digits d.coefficient
  let point : Int := ds.length + d.exponent
  if 0 ≤ d.exponent ∧ point ≤ 16 then ds ++ List.replicate d.exponent.toNat '0' ++ ['.', '0']
  else if 0 < point ∧ point ≤ 16 then ds.take point.toNat ++ '.' :: ds.drop point.toNat
  else if -5 < point ∧ point ≤ 0 then '0' :: '.' :: List.replicate (-point).toNat '0' ++ ds
  else
    let fraction := if ds.length ≤ 1 then [] else '.' :: ds.drop 1
    let power := point - 1
    ds.take 1 ++ fraction ++ 'e' :: (if power < 0 then '-' else '+') :: digits power.natAbs

/-- The shortest text that reads back as the float, or nothing for a float that is no number. -/
def floatText? (x : Float) : Option (List Char) :=
  match magnitude x with
  | .finite mantissa exponent =>
    let text := decimalText (shortest mantissa exponent)
    some (if isNegative x then '-' :: text else text)
  | _ => none

/-- The exact value with two decimal places, a half going to the even neighbour; the sign of a
negative zero is kept. -/
def twoPlaces (x : Float) : List Char :=
  let signed (cs : List Char) := if isNegative x then '-' :: cs else cs
  match magnitude x with
  | .notANumber => ['N', 'a', 'N']
  | .infinite => signed ['i', 'n', 'f']
  | .finite mantissa exponent =>
    let (num, den) := binaryQuotient (100 * mantissa) exponent
    let hundredths := roundHalfEven num den
    signed (digits (hundredths / 100) ++ '.' :: padZeros 2 (digits (hundredths % 100)))

end MetricAlerts.Number
