import MetricAlerts.Json.Basic
import MetricAlerts.Number.Text

/-! The compact text of a JSON value. -/

namespace MetricAlerts.Json

def hexDigit (n : Nat) : Char :=
  if n < 10 then Char.ofNat (48 + n) else Char.ofNat (87 + n)

/-- How a character is written inside a string: quotes, backslashes and control characters are
escaped. -/
def escapeChar (c : Char) : List Char :=
  if c = '"' then ['\\', '"']
  else if c = '\\' then ['\\', '\\']
  else if c = '\n' then ['\\', 'n']
  else if c = '\r' then ['\\', 'r']
  else if c = '\t' then ['\\', 't']
  else if c.toNat = 8 then ['\\', 'b']
  else if c.toNat = 12 then ['\\', 'f']
  else if c.toNat < 32 then ['\\', 'u', '0', '0', hexDigit (c.toNat / 16), hexDigit (c.toNat % 16)]
  else [c]

def quote (s : String) : List Char :=
  '"' :: s.toList.flatMap escapeChar ++ ['"']

/-- The text of a number. -/
def floatText (x : Float) : List Char := (Number.floatText? x).getD "null".toList

mutual

/-- The text of a value before what follows it. -/
def writeBefore (rest : List Char) : Json → List Char
  | .null => "null".toList ++ rest
  | .bool b => (if b then "true" else "false").toList ++ rest
  | .int n => Number.intText n ++ rest
  | .float x => floatText x ++ rest
  | .string s => quote s ++ rest
  | .array items => '[' :: writeItems (']' :: rest) items
  | .object members => '{' :: writeMembers ('}' :: rest) members

def writeItems (rest : List Char) : List Json → List Char
  | [] => rest
  | [item] => writeBefore rest item
  | item :: items => writeBefore (',' :: writeItems rest items) item

def writeMembers (rest : List Char) : List (String × Json) → List Char
  | [] => rest
  | [(name, value)] => quote name ++ ':' :: writeBefore rest value
  | (name, value) :: members =>
    quote name ++ ':' :: writeBefore (',' :: writeMembers rest members) value

end

/-- The text of a value without blanks. -/
def compact (v : Json) : String := String.ofList (writeBefore [] v)

/-- The length of the compact text in bytes. -/
def byteSize (v : Json) : Nat := v.compact.utf8ByteSize

end MetricAlerts.Json
