/-! Punycode: text beyond ASCII written with ASCII letters and digits. The ASCII characters come
first; then, in increasing order of their numbers, the others, each by its distance from the one
before. -/

namespace MetricAlerts.Text.Punycode

/-- The character with the value of a digit in base 36. -/
def digit (value : Nat) : Char := Char.ofNat (if value < 26 then 97 + value else 22 + value)

def digitValue? (c : Char) : Option Nat :=
  if c.isLower then some (c.toNat - 97)
  else if c.isUpper then some (c.toNat - 65)
  else if c.isDigit then some (c.toNat - 22)
  else none

/-- A digit below this one is the last of its number. -/
def threshold (bias place : Nat) : Nat := max 1 (min 26 (place - bias))

theorem one_le_threshold (bias place : Nat) : 1 ≤ threshold bias place := Nat.le_max_left _ _

theorem threshold_le (bias place : Nat) : threshold bias place ≤ 26 :=
  Nat.max_le.2 ⟨by decide, Nat.min_le_left _ _⟩

/-- The bias that suits distances of the size of `delta`; `place` counts from zero. -/
def biasFor (delta place : Nat) : Nat :=
  if 455 < delta then biasFor (delta / 35) (place + 36) else place + 36 * delta / (delta + 38)
termination_by delta
decreasing_by exact Nat.div_lt_self (by omega) (by decide)

/-- The bias after a distance, where `count` characters are there. -/
def adapt (delta count : Nat) (isFirst : Bool) : Nat :=
  let delta := if isFirst then delta / 700 else delta / 2
  biasFor (delta + delta / count) 0

/-- The place of the first digit of a number, and of the step from one to the next. -/
def firstPlace : Nat := 36

/-- The digits of a number, the least first. -/
def numberDigits (bias place n : Nat) : List Char :=
  let least := threshold bias place
  if n < least then [digit n]
  else
    digit (least + (n - least) % (36 - least)) ::
      numberDigits bias (place + firstPlace) ((n - least) / (36 - least))
termination_by n
decreasing_by
  have low := one_le_threshold bias place
  calc
    (n - threshold bias place) / (36 - threshold bias place)
      ≤ n - threshold bias place := Nat.div_le_self _ _
    _ < n := by omega

/-- How far a text has been written: the digits so far, the distance from the last character, and
the number of characters that are there. -/
structure Writer where
  digits : List Char
  delta : Nat
  bias : Nat
  count : Nat

/-- One more pass over a text, in which the characters with the number `n` are written. -/
def Writer.pass (cs : List Char) (basic : Nat) (w : Writer) (n : Nat) : Writer :=
  cs.foldl (fun w c =>
    if c.toNat < n then { w with delta := w.delta + 1 }
    else if c.toNat = n then
      { digits := w.digits ++ numberDigits w.bias firstPlace w.delta
        delta := 0
        bias := adapt w.delta (w.count + 1) (w.count == basic)
        count := w.count + 1 }
    else w) w

/-- The passes for increasing numbers, where `n` is the least number that has not been passed. -/
def Writer.passes (cs : List Char) (basic : Nat) : Nat → List Nat → Writer → Writer
  | _, [], w => w
  | n, next :: later, w =>
    let w := pass cs basic { w with delta := w.delta + (next - n) * (w.count + 1) } next
    passes cs basic (next + 1) later { w with delta := w.delta + 1 }

def encode (cs : List Char) : List Char :=
  let basic := cs.filter fun c => c.toNat < 128
  let others := ((cs.map Char.toNat).filter fun n => 128 ≤ n).mergeSort.eraseDups
  let start : Writer := ⟨[], 0, 72, basic.length⟩
  (if basic.isEmpty then [] else basic ++ ['-']) ++
    (start.passes cs basic.length 128 others).digits

/-- A number from its digits, the least first, and the rest. -/
def readNumber? (bias : Nat) : Nat → Nat → List Char → Option (Nat × List Char)
  | _, _, [] => none
  | place, weight, c :: cs => do
    let value ← digitValue? c
    let least := threshold bias place
    if value < least then return (value * weight, cs)
    let (more, rest) ← readNumber? bias (place + firstPlace) (weight * (36 - least)) cs
    return (value * weight + more, rest)

/-- The text after the insertions that `cs` stands for. The next one is made `start` places behind
the start of `text` or later, or else with a character that is past the number `n`. -/
def insertAll? : Nat → Nat → Nat → Nat → List Char → List Char → Option (List Char)
  | 0, _, _, _, _, _ => none
  | _ + 1, _, _, _, text, [] => some text
  | fuel + 1, bias, n, start, text, cs => do
    let (delta, rest) ← readNumber? bias firstPlace 1 cs
    let room := text.length + 1
    let n := n + (start + delta) / room
    let place := (start + delta) % room
    if 0x10FFFF < n || (0xD800 ≤ n && n < 0xE000) then none
    else
      insertAll? fuel (adapt delta room (start == 0)) n (place + 1)
        (text.insertIdx place (Char.ofNat n)) rest

def decode? (cs : List Char) : Option (List Char) :=
  let code := (cs.reverse.takeWhile (· != '-')).reverse
  let basic := cs.take (cs.length - code.length - 1)
  let code := if basic.isEmpty then cs else code
  if basic.all fun c => c.toNat < 128 then insertAll? (code.length + 1) 72 128 0 basic code
  else none

example : encode "bücher".toList = "bcher-kva".toList := by decide +kernel

example : decode? "bcher-kva".toList = some "bücher".toList := by decide +kernel

end MetricAlerts.Text.Punycode
