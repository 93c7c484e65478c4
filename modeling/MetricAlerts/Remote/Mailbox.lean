import MetricAlerts.Remote.Domain
import MetricAlerts.Text.Blank

/-! Mail addresses: `user@domain`, or the same in angle brackets with a name before it. -/

namespace MetricAlerts.Mailbox

/-- The characters of words outside quotes. -/
def isAtomChar (c : Char) : Bool :=
  c.isAlphanum || "!#$%&'*+-/=?^_`|~\x7b\x7d".toList.contains c || 128 ≤ c.toNat

def isSpace (c : Char) : Bool := c = ' ' || c = '\t'

/-- The characters that may stand for themselves within quotes. -/
def isQuotable (c : Char) : Bool :=
  let n := c.toNat
  n != 0 && n != 9 && n != 10 && n != 13 && n != 32 && c != '"' && c != '\\'

/-- The characters that a backslash may stand before. -/
def isEscapable (c : Char) : Bool :=
  let n := c.toNat
  n != 0 && n != 10 && n != 13 && n < 128

/-- A text in quotes, of which the first has been read, and the rest. Of several spaces the first is
kept, and blanks at the end do not count; `space` holds a space that has been read. -/
def readQuoted? (space : List Char) : List Char → Option (List Char × List Char)
  | [] => none
  | '\\' :: c :: rest =>
    if isEscapable c then (readQuoted? [] rest).map fun r => (space ++ c :: r.1, r.2) else none
  | c :: rest =>
    if isSpace c then readQuoted? (if space.isEmpty then [c] else space) rest
    else if isQuotable c then (readQuoted? [] rest).map fun r => (space ++ c :: r.1, r.2)
    else
      match (c :: rest).dropWhile Text.isBlank with
      | '"' :: after => some ([], after)
      | _ => none

/-- Words with a dot between them, and the rest. -/
def readDotted? (cs : List Char) : Option (List Char × List Char) :=
  let text := cs.takeWhile fun c => isAtomChar c || c = '.'
  if (Text.pieces '.' text).any List.isEmpty then none else some (text, cs.drop text.length)

/-- The words, in quotes or not, that follow a word after a dot each, and the rest. -/
def readMoreWords? : Nat → List Char → Option (List Char × List Char)
  | fuel + 1, '.' :: cs => do
    let (word, rest) ←
      match cs with
      | '"' :: rest => readQuoted? [] rest
      | cs =>
        let word := cs.takeWhile isAtomChar
        if word.isEmpty then none else some (word, cs.drop word.length)
    let (words, rest) ← readMoreWords? fuel rest
    return ('.' :: word ++ words, rest)
  | _, cs => some ([], cs)

/-- A user name is as good in quotes as without them. Words in quotes may also follow a word, if the
second one is such a word. -/
def readUser? (cs : List Char) : Option (List Char × List Char) :=
  match cs with
  | '"' :: rest => readQuoted? [] rest
  | cs =>
    let word := cs.takeWhile isAtomChar
    match cs.drop word.length with
    | '.' :: '"' :: rest =>
      if word.isEmpty then none
      else (readMoreWords? cs.length ('.' :: '"' :: rest)).map fun r => (word ++ r.1, r.2)
    | _ => readDotted? cs

/-- The user and the domain of an address, and the rest. -/
def readAddress? (cs : List Char) : Option (List Char × List Char × List Char) :=
  match readUser? cs with
  | some (user, '@' :: rest) =>
    (readDotted? rest).map fun (domain, rest) => (user, domain, rest)
  | _ => none

/-- What follows a name before an address, which is made of words, quoted texts and, after the
first of these, dots. -/
def afterName : Nat → Bool → List Char → List Char
  | 0, _, cs => cs
  | fuel + 1, started, cs =>
    match cs with
    | '"' :: rest =>
      match readQuoted? [] rest with
      | some (_, rest) => afterName fuel true rest
      | none => cs
    | '.' :: rest => if started then afterName fuel true rest else cs
    | cs =>
      let word := cs.dropWhile isSpace
      if (word.takeWhile isAtomChar).isEmpty then cs
      else afterName fuel true (word.dropWhile isAtomChar)

/-- The user and the domain of a text that is an address, with a name or without. There may be
blanks around an address in brackets. -/
def parse? (text : String) : Option (List Char × List Char) :=
  let cs := text.toList
  let found :=
    match (afterName (cs.length + 1) false cs).dropWhile Text.isBlank with
    | '<' :: rest =>
      match readAddress? rest with
      | some (user, domain, '>' :: rest) => some (user, domain, rest.dropWhile Text.isBlank)
      | _ => none
    | _ => readAddress? cs
  match found with
  | some (user, domain, []) => some (user, domain)
  | _ => none

/-- The greatest number of bytes of a user name. -/
def userLimit : Nat := 64

/-- Whether a text may stand between the quotes that belong to a user name. -/
def isQuotedContent : List Char → Bool
  | [] => true
  | '\\' :: c :: rest => 33 ≤ c.toNat && c.toNat < 127 && isQuotedContent rest
  | c :: rest =>
    (isSpace c || (33 ≤ c.toNat && c.toNat < 127 && c != '"' && c != '\\')) && isQuotedContent rest

/-- A user name is made of words with a dot between them, or stands in quotes of its own. -/
def isUser (user : List Char) : Bool :=
  Domain.byteLength user ≤ userLimit &&
    if user.head? = some '"' && user.getLast? = some '"' then
      2 < user.length && isQuotedContent (user.drop 1).dropLast
    else (Text.pieces '.' user).all fun word => !word.isEmpty && word.all Domain.isWordChar

/-- Whether a text is the address of a mailbox. -/
def isValid (text : String) : Bool :=
  (parse? text).any fun (user, domain) => isUser user && Domain.isValid domain

end MetricAlerts.Mailbox
