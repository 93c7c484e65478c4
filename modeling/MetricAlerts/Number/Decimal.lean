/-! Decimals and binary floating-point numbers: the exact value of a float, the fewest decimal
digits that read back as it, and its rounding to a fixed number of places. -/

namespace MetricAlerts.Number

/-- Decimal digits of a number, without leading zeros: `0` has one digit. -/
def digits (n : Nat) : List Char := Nat.toDigits 10 n

def powerOfTwo (k : Nat) : Nat := Nat.pow 2 k

def powerOfTen (k : Nat) : Nat := Nat.pow 10 k

/-- The value of a float as `(-1)^negative * mantissa * 2^exponent`, or none. -/
inductive Magnitude where
  | infinite
  | notANumber
  | finite (mantissa : Nat) (exponent : Int)
  deriving Repr, DecidableEq

/-- Whether the sign bit is set. -/
def isNegative (x : Float) : Bool := x.toBits >>> 63 == 1

/-- The size of a float without its sign. -/
def magnitude (x : Float) : Magnitude :=
  let bits := x.toBits.toNat
  let biased : Nat := bits / powerOfTwo 52 % powerOfTwo 11
  let fraction := bits % powerOfTwo 52
  if biased = 2047 then (if fraction = 0 then .infinite else .notANumber)
  else if biased = 0 then .finite fraction (-1074)
  else .finite (powerOfTwo 52 + fraction) ((biased : Int) - 1075)

/-- `n * 2^e` as a quotient of two whole numbers. -/
def binaryQuotient (n : Nat) (e : Int) : Nat × Nat :=
  if 0 ≤ e then (n * powerOfTwo e.toNat, 1) else (n, powerOfTwo (-e).toNat)

/-- A decimal `coefficient * 10^exponent`. -/
structure Decimal where
  coefficient : Nat
  exponent : Int
  deriving Repr, DecidableEq

/-- `num/den` divided by `10^e`, again as a quotient. -/
def scaleDown (num den : Nat) (e : Int) : Nat × Nat :=
  if 0 ≤ e then (num, den * powerOfTen e.toNat) else (num * powerOfTen (-e).toNat, den)

/-- The exponent `e` with `10^e ≤ num/den < 10^(e+1)`, for a positive quotient. -/
def decimalExponent (num den : Nat) : Int :=
  let guess : Int := (digits num).length - (digits den).length
  let (n, d) := scaleDown num den guess
  if n < d then guess - 1 else guess

/-- The one of two candidates on a decimal grid that lies in the interval of the reals that round
to the same float; of two the nearer one, and of two equally near ones the even one. `value`,
`low` and `high` are in units of the grid and share the denominator `den`. -/
def pickOnGrid (value low high den : Nat) (closed : Bool) : Option Nat :=
  let inside (c : Nat) : Bool :=
    if closed then low ≤ c * den && c * den ≤ high else low < c * den && c * den < high
  let below := value / den
  let above := below + 1
  match 0 < below && inside below, inside above with
  | false, false => none
  | true, false => some below
  | false, true => some above
  | true, true =>
    let down := value - below * den
    let up := above * den - value
    if down < up then some below
    else if up < down then some above
    else if below % 2 = 0 then some below else some above

/-- The first of the grids with `n`, `n + 1`, … digits, `tries` of them, that has a point which
rounds to the float `mantissa * 2^exponent`. -/
def searchGrids (mantissa : Nat) (exponent : Int) (top : Int) : Nat → Nat → Decimal
  | _, 0 => ⟨mantissa, 0⟩
  | n, tries + 1 =>
    let step := top - (n : Int) + 1
    let narrow := mantissa = powerOfTwo 52 ∧ -1074 < exponent
    let (value, den) := binaryQuotient (4 * mantissa) (exponent - 2)
    let (low, _) := binaryQuotient (4 * mantissa - (if narrow then 1 else 2)) (exponent - 2)
    let (high, _) := binaryQuotient (4 * mantissa + 2) (exponent - 2)
    let (value, grid) := scaleDown value den step
    let (low, _) := scaleDown low den step
    let (high, _) := scaleDown high den step
    match pickOnGrid value low high grid (mantissa % 2 = 0) with
    | some c => if c = powerOfTen n then ⟨1, top + 1⟩ else ⟨c, step⟩
    | none => searchGrids mantissa exponent top (n + 1) tries

/-- A decimal with the fewest digits among those that round to `mantissa * 2^exponent`, and of
these the nearest one. -/
def shortest (mantissa : Nat) (exponent : Int) : Decimal :=
  if mantissa = 0 then ⟨0, 0⟩
  else
    let (num, den) := binaryQuotient mantissa exponent
    searchGrids mantissa exponent (decimalExponent num den) 1 17

/-- A quotient rounded to a whole number, a half to the even neighbour. -/
def roundHalfEven (num den : Nat) : Nat :=
  let q := num / den
  let r := num % den
  if 2 * r < den then q
  else if den < 2 * r then q + 1
  else if q % 2 = 0 then q else q + 1

end MetricAlerts.Number
