import MetricAlerts.Json.Parser
import MetricAlerts.Timestamp
import MetricAlerts.Toml.Basic

/-! The words of TOML: blanks and comments, keys, strings, numbers, dates and times. Every function
takes the characters ahead and gives what it has read with the rest. -/

namespace MetricAlerts.Toml

def skipSpaces : List Char → List Char := List.dropWhile fun c => c = ' ' || c = '\t'

/-- Characters that may stand in comments and strings as they are. -/
def isPlain (c : Char) : Bool := c = '\t' || (32 ≤ c.toNat && c.toNat != 127)

/-- The rest after the end of a line. -/
def afterNewline? : List Char → Option (List Char)
  | '\n' :: rest => some rest
  | '\r' :: '\n' :: rest => some rest
  | _ => none

/-- The rest after blanks and ends of lines. -/
def skipBreaks : List Char → List Char
  | '\r' :: '\n' :: rest => skipBreaks rest
  | c :: rest => if c = ' ' ∨ c = '\t' ∨ c = '\n' then skipBreaks rest else c :: rest
  | [] => []

def skipComment : List Char → List Char
  | '#' :: rest => rest.dropWhile isPlain
  | cs => cs

/-- The rest after blanks, a comment and the end of a line or of the text. -/
def endOfLine? (cs : List Char) : Option (List Char) :=
  match skipComment (skipSpaces cs) with
  | [] => some []
  | cs => afterNewline? cs

/-- The rest after blanks, comments and ends of lines. -/
def skipLines : Nat → List Char → List Char
  | 0, cs => cs
  | fuel + 1, cs =>
    let cs := skipSpaces cs
    match cs with
    | '#' :: rest =>
      match afterNewline? (rest.dropWhile isPlain) with
      | some rest => skipLines fuel rest
      | none => cs
    | cs =>
      match afterNewline? cs with
      | some rest => skipLines fuel rest
      | none => cs

/-- The character of a code in hexadecimal digits, `count` of them. -/
def codePoint? (count : Nat) (cs : List Char) : Option (Char × List Char) := do
  let ds ← (cs.take count).mapM Number.hexValue?
  let n := ds.foldl (fun n d => 16 * n + d) 0
  if ds.length = count ∧ (n < 0xD800 ∨ (0xE000 ≤ n ∧ n < 0x110000)) then
    some (Char.ofNat n, cs.drop count)
  else none

/-- The character of an escape after its backslash. -/
def escape? : List Char → Option (Char × List Char)
  | 'b' :: rest => some (Char.ofNat 8, rest)
  | 't' :: rest => some ('\t', rest)
  | 'n' :: rest => some ('\n', rest)
  | 'f' :: rest => some (Char.ofNat 12, rest)
  | 'r' :: rest => some ('\r', rest)
  | '"' :: rest => some ('"', rest)
  | '\\' :: rest => some ('\\', rest)
  | 'u' :: rest => codePoint? 4 rest
  | 'U' :: rest => codePoint? 8 rest
  | _ => none

/-- A string in one line after its opening quote, with the characters before in reverse. -/
def lineString? (quote : Char) : Nat → List Char → List Char → Option (String × List Char)
  | 0, _, _ => none
  | _ + 1, _, [] => none
  | fuel + 1, done, c :: rest =>
    if c = quote then some (String.ofList done.reverse, rest)
    else if c = '\\' ∧ quote = '"' then
      match escape? rest with
      | some (c, rest) => lineString? quote fuel (c :: done) rest
      | none => none
    else if isPlain c then lineString? quote fuel (c :: done) rest
    else none

/-- A string of several lines after its opening quotes. Three to five quotes end it, of which the
first ones may belong to it. -/
def blockString? (quote : Char) : Nat → List Char → List Char → Option (String × List Char)
  | 0, _, _ => none
  | _ + 1, _, [] => none
  | fuel + 1, done, c :: rest =>
    if c = quote then
      let quotes := ((c :: rest).takeWhile (· == quote)).length
      if 3 ≤ quotes then
        let used := min quotes 5
        let text := (List.replicate (used - 3) quote ++ done).reverse
        some (String.ofList text, (c :: rest).drop used)
      else blockString? quote fuel (c :: done) rest
    else if c = '\\' ∧ quote = '"' then
      match afterNewline? (skipSpaces rest) with
      | some rest => blockString? quote fuel done (skipBreaks rest)
      | none =>
        match escape? rest with
        | some (c, rest) => blockString? quote fuel (c :: done) rest
        | none => none
    else
      match afterNewline? (c :: rest) with
      | some rest => blockString? quote fuel ('\n' :: done) rest
      | none => if isPlain c then blockString? quote fuel (c :: done) rest else none

/-- A string of any of the four kinds. -/
def string? (cs : List Char) : Option (String × List Char) :=
  let fuel := cs.length + 1
  let block (quote : Char) (rest : List Char) :=
    blockString? quote fuel [] ((afterNewline? rest).getD rest)
  match cs with
  | '"' :: '"' :: '"' :: rest => block '"' rest
  | '\'' :: '\'' :: '\'' :: rest => block '\'' rest
  | '"' :: rest => lineString? '"' fuel [] rest
  | '\'' :: rest => lineString? '\'' fuel [] rest
  | _ => none

def isKeyChar (c : Char) : Bool := c.isAlphanum || c = '_' || c = '-'

/-- A key without dots: bare or in quotes. -/
def simpleKey? (cs : List Char) : Option (String × List Char) :=
  match cs with
  | '"' :: rest => lineString? '"' (cs.length + 1) [] rest
  | '\'' :: rest => lineString? '\'' (cs.length + 1) [] rest
  | _ =>
    let bare := cs.takeWhile isKeyChar
    if bare.isEmpty then none else some (String.ofList bare, cs.dropWhile isKeyChar)

/-- Dotted keys have at most this many parts. -/
def partLimit : Nat := 79

/-- A dotted key as the keys that lead to its last one, and that one; `parts` is how many there may
be. -/
def keyWithin? : Nat → List Char → Option (List String × String × List Char)
  | 0, _ => none
  | parts + 1, cs =>
    match simpleKey? (skipSpaces cs) with
    | none => none
    | some (first, rest) =>
      match skipSpaces rest with
      | '.' :: rest =>
        (keyWithin? parts rest).map fun (path, last, rest) => (first :: path, last, rest)
      | rest => some ([], first, rest)

def key? (cs : List Char) : Option (List String × String × List Char) := keyWithin? partLimit cs

/-- Digits of a kind with single underscores between them, without the underscores. -/
def digitRun? (isDigit : Char → Bool) : List Char → Option (List Char × List Char)
  | c :: rest =>
    if isDigit c then
      match rest with
      | '_' :: more => (digitRun? isDigit more).map fun (ds, rest) => (c :: ds, rest)
      | d :: more =>
        if isDigit d then (digitRun? isDigit (d :: more)).map fun (ds, rest) => (c :: ds, rest)
        else some ([c], rest)
      | [] => some ([c], [])
    else none
  | [] => none

def isBinaryDigit (c : Char) : Bool := c = '0' || c = '1'

def isOctalDigit (c : Char) : Bool := '0' ≤ c && c ≤ '7'

def isHexDigit (c : Char) : Bool := (Number.hexValue? c).isSome

/-- Whole numbers lie below this, and negative ones have at most this size. -/
def wholeLimit : Nat := 9223372036854775808

/-- A whole number in another base. -/
def based? (base : Nat) (isDigit : Char → Bool) (cs : List Char) : Option (Int × List Char) := do
  let (ds, rest) ← digitRun? isDigit cs
  let values ← ds.mapM Number.hexValue?
  let n := values.foldl (fun n d => base * n + d) 0
  if n < wholeLimit then some ((n : Int), rest) else none

/-- The sign in front of a number: whether it is negative, and the rest. -/
def sign (cs : List Char) : Bool × List Char :=
  match cs with
  | '-' :: rest => (true, rest)
  | '+' :: rest => (false, rest)
  | cs => (false, cs)

/-- Decimal digits without needless zeros in front. -/
def decimal? (cs : List Char) : Option (List Char × List Char) :=
  match cs with
  | '0' :: rest => some (['0'], rest)
  | cs => digitRun? Char.isDigit cs

/-- The exponent of a float with its letter, if there is one. -/
def exponentText? (cs : List Char) : Option (List Char × List Char) :=
  match cs with
  | c :: rest =>
    if c = 'e' ∨ c = 'E' then
      let (negative, rest) := sign rest
      (digitRun? Char.isDigit rest).map fun (ds, rest) =>
        ('e' :: (if negative then '-' :: ds else ds), rest)
    else some ([], cs)
  | [] => some ([], [])

/-- A float or a whole number in decimal digits. -/
def number? (cs : List Char) : Option (Toml × List Char) := do
  let (negative, body) := sign cs
  let (whole, rest) ← decimal? body
  let (fraction, rest) ← match rest with
    | '.' :: rest => (digitRun? Char.isDigit rest).map fun (ds, rest) => ('.' :: ds, rest)
    | rest => some ([], rest)
  let (exponent, rest) ← exponentText? rest
  if fraction.isEmpty && exponent.isEmpty then
    let n := Number.digitsValue whole
    if negative then (if n ≤ wholeLimit then some (.int (-(n : Int)), rest) else none)
    else if n < wholeLimit then some (.int n, rest) else none
  else
    let x ← Number.float? (whole ++ fraction ++ exponent)
    if negative then some (.float (-x), rest)
    else if x.isFinite then some (.float x, rest)
    else none

/-- `count` digits and their value. -/
def fixedDigits? (count : Nat) (cs : List Char) : Option (Nat × List Char) :=
  let ds := cs.take count
  if ds.length = count && ds.all Char.isDigit then some (Number.digitsValue ds, cs.drop count)
  else none

def mark? (c : Char) : List Char → Option (List Char)
  | d :: rest => if c = d then some rest else none
  | [] => none

/-- A time of day. -/
def time? (cs : List Char) : Option (List Char) := do
  let (hour, rest) ← fixedDigits? 2 cs
  let rest ← mark? ':' rest
  let (minute, rest) ← fixedDigits? 2 rest
  let rest ← mark? ':' rest
  let (second, rest) ← fixedDigits? 2 rest
  if 23 < hour ∨ 59 < minute ∨ 60 < second then none
  else
    match rest with
    | '.' :: more =>
      if (more.takeWhile Char.isDigit).isEmpty then some rest
      else some (more.dropWhile Char.isDigit)
    | rest => some rest

/-- A time zone, if there is one. -/
def zone (cs : List Char) : List Char :=
  let offset (rest : List Char) : Option (List Char) := do
    let (hour, rest) ← fixedDigits? 2 rest
    let rest ← mark? ':' rest
    let (minute, rest) ← fixedDigits? 2 rest
    if 23 < hour ∨ 59 < minute then none else some rest
  match cs with
  | 'Z' :: rest => rest
  | 'z' :: rest => rest
  | '+' :: rest => (offset rest).getD cs
  | '-' :: rest => (offset rest).getD cs
  | cs => cs

/-- A date, perhaps with a time of day and a zone, or a time of day. -/
def dateTime? (cs : List Char) : Option (List Char) :=
  let date : Option (List Char) := do
    let (year, rest) ← fixedDigits? 4 cs
    let rest ← mark? '-' rest
    let (month, rest) ← fixedDigits? 2 rest
    let rest ← mark? '-' rest
    let (day, rest) ← fixedDigits? 2 rest
    if month = 0 ∨ 12 < month ∨ day = 0 ∨ Timestamp.daysInMonth year month < day then none
    else some rest
  match date with
  | some rest =>
    let time := match rest with
      | 'T' :: more => time? more
      | 't' :: more => time? more
      | ' ' :: more => time? more
      | _ => none
    some ((time.map zone).getD rest)
  | none => time? cs

end MetricAlerts.Toml
