import MetricAlerts.Json.Document
import MetricAlerts.Number.Numeral

/-! Reading JSON texts. The significand of a number is kept exactly below `2^64`; digits past that
only move the point, and the float is then scaled by one power of ten. -/

namespace MetricAlerts.Json

def skipBlanks : List Char → List Char
  | c :: rest => if c = ' ' ∨ c = '\n' ∨ c = '\t' ∨ c = '\r' then skipBlanks rest else c :: rest
  | [] => []

/-- The greatest significand. -/
def significandMax : Nat := UInt64.size - 1

/-- The greatest size of a negative whole number. -/
def negativeMax : Nat := 9223372036854775808

/-- Exponents of this size are as good as infinite. -/
def exponentLimit : Nat := 2147483648

def powerOfTen (k : Nat) : Float := Float.ofScientific 1 false k

/-- `f` divided by powers of ten, at most 308 at a time. -/
def divideByPower (f : Float) (k : Nat) : Float :=
  if k ≤ 308 then f / powerOfTen k
  else if f == 0.0 then f
  else divideByPower (f / powerOfTen 308) (k - 308)
termination_by k

/-- The float for a significand and a power of ten; none beyond the greatest float. -/
def scaledFloat? (significand : Nat) (exponent : Int) : Option Float :=
  let f := Float.ofNat significand
  if exponent < 0 then some (divideByPower f exponent.natAbs)
  else if exponent ≤ 308 then
    let scaled := f * powerOfTen exponent.toNat
    if scaled.isFinite then some scaled else none
  else if f == 0.0 then some f
  else none

/-- The digits of `cs` that fit behind `significand`, and the number of digits taken. -/
def takeDigits (significand count : Nat) : List Char → Nat × Nat × List Char
  | c :: rest =>
    if c.isDigit then
      let next := 10 * significand + (c.toNat - 48)
      if next ≤ significandMax then takeDigits next (count + 1) rest
      else (significand, count, c :: rest)
    else (significand, count, c :: rest)
  | [] => (significand, count, [])

def floatOrUnreadable (negative : Bool) (x : Option Float) : Document :=
  match x with
  | some x => .float (if negative then -x else x)
  | none => .unreadable

/-- The exponent of a number and the rest; `exponent` is what the digits before amount to. -/
def readExponent (negative : Bool) (significand : Nat) (exponent : Int) :
    List Char → Option (Document × List Char)
  | c :: rest =>
    if c = 'e' ∨ c = 'E' then
      let (below, ds) := match rest with
        | '-' :: r => (true, r)
        | '+' :: r => (false, r)
        | r => (false, r)
      let written := ds.takeWhile Char.isDigit
      if written.isEmpty then none
      else
        let n := Number.digitsValue written
        let shift : Int := if below then -(n : Int) else n
        let result :=
          if exponentLimit ≤ n then
            if significand = 0 ∨ below then some 0.0 else none
          else scaledFloat? significand (exponent + shift)
        some (floatOrUnreadable negative result, ds.dropWhile Char.isDigit)
    else some (floatOrUnreadable negative (scaledFloat? significand exponent), c :: rest)
  | [] => some (floatOrUnreadable negative (scaledFloat? significand exponent), [])

/-- A number without its sign. -/
def readNumber (negative : Bool) (cs : List Char) : Option (Document × List Char) :=
  let start : Option (Nat × Nat × List Char) := match cs with
    | '0' :: rest => if (rest.takeWhile Char.isDigit).isEmpty then some (0, 1, rest) else none
    | cs => if (cs.takeWhile Char.isDigit).isEmpty then none else some (takeDigits 0 0 cs)
  match start with
  | none => none
  | some (significand, _, rest) =>
    let dropped := (rest.takeWhile Char.isDigit).length
    match rest.dropWhile Char.isDigit with
    | '.' :: fraction =>
      if (fraction.takeWhile Char.isDigit).isEmpty then none
      else
        let (significand, taken, rest) := takeDigits significand 0 fraction
        let rest := rest.dropWhile Char.isDigit
        readExponent negative significand ((dropped : Int) - (taken : Int)) rest
    | c :: rest =>
      if c = 'e' ∨ c = 'E' ∨ 0 < dropped then readExponent negative significand dropped (c :: rest)
      else some (wholeNumber significand, c :: rest)
    | [] =>
      if 0 < dropped then readExponent negative significand dropped []
      else some (wholeNumber significand, [])
where
  /-- A whole number: a float where it is a negative zero or beyond `negativeMax`. -/
  wholeNumber (significand : Nat) : Document :=
    if !negative then .int significand
    else if significand = 0 ∨ negativeMax < significand then .float (-(Float.ofNat significand))
    else .int (-(significand : Int))

def hex4? : List Char → Option (Nat × List Char)
  | a :: b :: c :: d :: rest => do
    let a ← Number.hexValue? a
    let b ← Number.hexValue? b
    let c ← Number.hexValue? c
    let d ← Number.hexValue? d
    return (((a * 16 + b) * 16 + c) * 16 + d, rest)
  | _ => none

/-- The character of a one-letter escape. -/
def escaped? (c : Char) : Option Char :=
  match c with
  | '"' => some '"'
  | '\\' => some '\\'
  | '/' => some '/'
  | 'b' => some (Char.ofNat 8)
  | 'f' => some (Char.ofNat 12)
  | 'n' => some '\n'
  | 'r' => some '\r'
  | 't' => some '\t'
  | _ => none

/-- The characters of a string after its opening quote, in reverse after `done`, and the rest;
`whole` turns false where half of a surrogate pair stands alone. -/
def readString : Nat → Bool → List Char → List Char → Option (Bool × List Char × List Char)
  | 0, _, _, _ => none
  | _ + 1, _, _, [] => none
  | fuel + 1, whole, done, c :: rest =>
    if c = '"' then some (whole, done, rest)
    else if c = '\\' then
      match rest with
      | 'u' :: rest =>
        match hex4? rest with
        | none => none
        | some (unit, rest) =>
          if 0xD800 ≤ unit ∧ unit < 0xDC00 then
            match rest with
            | '\\' :: 'u' :: after =>
              match hex4? after with
              | none => none
              | some (low, after) =>
                if 0xDC00 ≤ low ∧ low < 0xE000 then
                  readString fuel whole
                    (Char.ofNat (0x10000 + (unit - 0xD800) * 0x400 + (low - 0xDC00)) :: done) after
                else readString fuel false done after
            | rest => readString fuel false done rest
          else if 0xDC00 ≤ unit ∧ unit < 0xE000 then readString fuel false done rest
          else readString fuel whole (Char.ofNat unit :: done) rest
      | e :: rest =>
        match escaped? e with
        | some c => readString fuel whole (c :: done) rest
        | none => none
      | [] => none
    else if c.toNat < 32 then none
    else readString fuel whole (c :: done) rest

/-- The rest after a fixed word. -/
def afterWord? : List Char → List Char → Option (List Char)
  | [], rest => some rest
  | w :: word, c :: rest => if w = c then afterWord? word rest else none
  | _ :: _, [] => none

/-- Arrays and objects may be nested this deep. -/
def nestingLimit : Nat := 127

mutual

/-- A value and the rest; `room` is how many more containers may be opened around it. -/
def readValue : Nat → Nat → List Char → Option (Document × List Char)
  | 0, _, _ => none
  | fuel + 1, room, cs =>
    match skipBlanks cs with
    | '{' :: rest =>
      match skipBlanks rest with
      | '}' :: rest => some (if room = 0 then .unreadable else .object [], rest)
      | rest => do
        let (readable, members, rest) ← readMembers fuel (room - 1) true [] rest
        return (if room = 0 || !readable then .unreadable else .object members, rest)
    | '[' :: rest =>
      match skipBlanks rest with
      | ']' :: rest => some (if room = 0 then .unreadable else .array [], rest)
      | rest => do
        let (items, rest) ← readItems fuel (room - 1) [] rest
        return (if room = 0 then .unreadable else .array items, rest)
    | '"' :: rest => do
      let (whole, text, rest) ← readString (rest.length + 1) true [] rest
      return (if whole then .string (String.ofList text.reverse) else .unreadable, rest)
    | '-' :: rest => readNumber true rest
    | 't' :: rest => (afterWord? ['r', 'u', 'e'] rest).map fun rest => (.bool true, rest)
    | 'f' :: rest => (afterWord? ['a', 'l', 's', 'e'] rest).map fun rest => (.bool false, rest)
    | 'n' :: rest => (afterWord? ['u', 'l', 'l'] rest).map fun rest => (.null, rest)
    | rest => readNumber false rest

/-- The items of an array up to its end, after those in `done`. -/
def readItems : Nat → Nat → List Document → List Char → Option (List Document × List Char)
  | 0, _, _, _ => none
  | fuel + 1, room, done, cs =>
    match readValue fuel room cs with
    | none => none
    | some (item, rest) =>
      match skipBlanks rest with
      | ',' :: rest => readItems fuel room (item :: done) rest
      | ']' :: rest => some ((item :: done).reverse, rest)
      | _ => none

/-- The members of an object up to its end, after those in `done`; `readable` turns false where a
name is no string. -/
def readMembers : Nat → Nat → Bool → List (String × Document) → List Char →
    Option (Bool × List (String × Document) × List Char)
  | 0, _, _, _, _ => none
  | fuel + 1, room, readable, done, cs =>
    match skipBlanks cs with
    | '"' :: rest =>
      match readString (rest.length + 1) true [] rest with
      | none => none
      | some (whole, name, rest) =>
        match skipBlanks rest with
        | ':' :: rest =>
          match readValue fuel room rest with
          | none => none
          | some (value, rest) =>
            let done := (String.ofList name.reverse, value) :: done
            match skipBlanks rest with
            | ',' :: rest => readMembers fuel room (readable && whole) done rest
            | '}' :: rest => some (readable && whole, done.reverse, rest)
            | _ => none
        | _ => none
    | _ => none

end

/-- The document at the start of a text, whatever comes after it. -/
def leadingDocument? (text : String) : Option Document :=
  let cs := text.toList
  (readValue (cs.length + 1) nestingLimit cs).map Prod.fst

/-- The document of a whole text, with blanks around it at most. -/
def document? (text : String) : Option Document :=
  let cs := text.toList
  match readValue (cs.length + 1) nestingLimit cs with
  | some (d, rest) => if (skipBlanks rest).isEmpty then some d else none
  | none => none

/-- The value of a whole text. -/
def parse? (text : String) : Option Json := (document? text).bind Document.toJson?

end MetricAlerts.Json
