import MetricAlerts.Toml.Basic
import MetricAlerts.Toml.Lexer

/-! Reading TOML documents. -/

namespace MetricAlerts.Toml

/-- Arrays and inline tables may be nested less deep than this. -/
def nestingLimit : Nat := 80

/-- A value that is neither string, array nor table. -/
def scalar? (cs : List Char) : Option (Toml × List Char) :=
  match dateTime? cs with
  | some rest => some (.dateTime, rest)
  | none =>
    match cs with
    | 't' :: 'r' :: 'u' :: 'e' :: rest => some (.bool true, rest)
    | 'f' :: 'a' :: 'l' :: 's' :: 'e' :: rest => some (.bool false, rest)
    | '0' :: 'x' :: rest => (based? 16 isHexDigit rest).map fun (n, rest) => (.int n, rest)
    | '0' :: 'o' :: rest => (based? 8 isOctalDigit rest).map fun (n, rest) => (.int n, rest)
    | '0' :: 'b' :: rest => (based? 2 isBinaryDigit rest).map fun (n, rest) => (.int n, rest)
    | cs =>
      match sign cs with
      | (negative, 'i' :: 'n' :: 'f' :: rest) =>
        some (.float (if negative then -Number.infinity else Number.infinity), rest)
      | (_, 'n' :: 'a' :: 'n' :: rest) => some (.float Number.notANumber, rest)
      | _ => number? cs

mutual

/-- A value and the rest; `room` is how many more arrays and inline tables may be opened. -/
def value? : Nat → Nat → List Char → Option (Toml × List Char)
  | 0, _, _ => none
  | fuel + 1, room, cs =>
    match cs with
    | '"' :: _ => (string? cs).map fun (s, rest) => (.string s, rest)
    | '\'' :: _ => (string? cs).map fun (s, rest) => (.string s, rest)
    | '[' :: rest =>
      if room = 0 then none
      else
        match skipLines (rest.length + 1) rest with
        | ']' :: rest => some (.array [], rest)
        | rest => items? fuel (room - 1) [] rest
    | '{' :: rest =>
      if room = 0 then none
      else
        match skipSpaces rest with
        | '}' :: rest => some (.table [], rest)
        | rest => entries? fuel (room - 1) [] rest
    | cs => scalar? cs

/-- The items of an array up to its end, with a comma after the last one or not. -/
def items? : Nat → Nat → List Toml → List Char → Option (Toml × List Char)
  | 0, _, _, _ => none
  | fuel + 1, room, done, cs =>
    match value? fuel room cs with
    | none => none
    | some (item, rest) =>
      let done := item :: done
      match skipLines (rest.length + 1) rest with
      | ']' :: rest => some (.array done.reverse, rest)
      | ',' :: rest =>
        match skipLines (rest.length + 1) rest with
        | ']' :: rest => some (.array done.reverse, rest)
        | rest => items? fuel room done rest
      | _ => none

/-- The entries of an inline table up to its end. -/
def entries? : Nat → Nat → List (String × Node) → List Char → Option (Toml × List Char)
  | 0, _, _, _ => none
  | fuel + 1, room, done, cs =>
    match key? cs with
    | none => none
    | some (path, key, rest) =>
      match rest with
      | '=' :: rest =>
        match value? fuel room (skipSpaces rest) with
        | none => none
        | some (value, rest) =>
          match Node.assign path key value done with
          | none => none
          | some done =>
            match skipSpaces rest with
            | '}' :: rest => some (.table (Node.entriesToml done), rest)
            | ',' :: rest => entries? fuel room done rest
            | _ => none
      | _ => none

end

/-- A document as far as it has been read: its tables and the header under which the next entries
stand. -/
structure Draft where
  root : List (String × Node)
  header : List String

/-- A header line after its first bracket. -/
def header? (d : Draft) (cs : List Char) : Option (Draft × List Char) := do
  let (isElement, cs) := match cs with
    | '[' :: rest => (true, rest)
    | cs => (false, cs)
  let (path, key, rest) ← key? cs
  let rest ← mark? ']' rest
  let rest ← if isElement then mark? ']' rest else some rest
  let root ← if isElement then Node.openElement path key d.root else Node.openTable path key d.root
  let rest ← endOfLine? rest
  return (⟨root, path ++ [key]⟩, rest)

/-- An entry in a line of its own. -/
def entry? (d : Draft) (cs : List Char) : Option (Draft × List Char) := do
  let (path, key, rest) ← key? cs
  let rest ← mark? '=' rest
  let (value, rest) ← value? (rest.length + 1) (nestingLimit - 1) (skipSpaces rest)
  let root ← Node.modifyAt false (fun _ entries => Node.assign path key value entries) false d.root
    d.header
  let rest ← endOfLine? rest
  return (⟨root, d.header⟩, rest)

/-- The lines of a document. -/
def lines? : Nat → Draft → List Char → Option Draft
  | 0, _, _ => none
  | fuel + 1, d, cs =>
    match skipSpaces cs with
    | [] => some d
    | '[' :: rest =>
      match header? d rest with
      | some (d, rest) => lines? fuel d rest
      | none => none
    | c :: rest =>
      if c = '#' ∨ c = '\n' ∨ c = '\r' then
        match endOfLine? (c :: rest) with
        | some rest => lines? fuel d rest
        | none => none
      else
        match entry? d (c :: rest) with
        | some (d, rest) => lines? fuel d rest
        | none => none

/-- The entries of a document, in which a byte order mark may come first. -/
def parse? (text : String) : Option (List (String × Toml)) :=
  let cs := match text.toList with
    | c :: rest => if c.toNat = 0xFEFF then rest else c :: rest
    | [] => []
  (lines? (cs.length + 1) ⟨[], []⟩ cs).map fun d => Node.entriesToml d.root

end MetricAlerts.Toml
