import MetricAlerts.Http.Token

/-! Media types, by which a request says what its body is. -/

namespace MetricAlerts.Http

/-- A media type in lower case: `type/subtype+suffix`. -/
structure MediaType where
  type : List Char
  subtype : List Char
  suffix : Option (List Char)
  deriving DecidableEq, Repr

namespace MediaType

/-- What follows a quoted value, which starts after its opening quote and is not empty. -/
def afterQuoted? : List Char → Option (List Char)
  | [] => none
  | first :: value =>
    let content := first :: value.takeWhile (· != '"')
    if content.all fun c => 32 ≤ c.toNat && c.toNat != 127 then
      match value.dropWhile (· != '"') with
      | _ :: rest => some rest
      | [] => none
    else none

/-- Whether a text is a list of parameters `name=value`, with a semicolon between them. -/
def areParameters : Nat → List Char → Bool
  | 0, _ => false
  | fuel + 1, cs =>
    let cs := cs.dropWhile (· = ' ')
    let name := cs.takeWhile isTokenChar
    if cs.isEmpty then true
    else if name.isEmpty then false
    else
      match cs.drop name.length with
      | '=' :: '"' :: quoted =>
        match (afterQuoted? quoted).map (·.dropWhile (· = ' ')) with
        | some [] => true
        | some (';' :: rest) => areParameters fuel rest
        | _ => false
      | '=' :: value =>
        match value.takeWhile isTokenChar, value.dropWhile isTokenChar with
        | _, [] => true
        | _ :: _, ';' :: rest => areParameters fuel rest
        | _, _ => false
      | _ => false

/-- The part of a subtype before its last plus sign, and what comes after it. A plus sign at the
start does not count. -/
def splitSuffix (subtype : List Char) : List Char × Option (List Char) :=
  let suffix := (subtype.reverse.takeWhile (· != '+')).reverse
  let front := subtype.take (subtype.length - suffix.length - 1)
  if suffix.length + 1 < subtype.length then (front, some suffix) else (subtype, none)

/-- Reads a media type, with parameters or without. -/
def parse? (text : List Char) : Option MediaType :=
  let type := text.takeWhile isTokenChar
  match text.drop type.length with
  | '/' :: rest =>
    let subtype := rest.takeWhile isTokenChar
    let (front, suffix) := splitSuffix (subtype.map Char.toLower)
    let mediaType : MediaType := ⟨type.map Char.toLower, front, suffix⟩
    if type.isEmpty then none
    else
      match rest.drop subtype.length with
      | [] => some mediaType
      | ';' :: parameters =>
        if !subtype.isEmpty && areParameters (parameters.length + 1) parameters then some mediaType
        else none
      | _ => none
  | _ => none

/-- Whether a body of the type is a JSON text. -/
def isJson (m : MediaType) : Bool :=
  m.type == "application".toList &&
    (m.subtype == "json".toList || m.suffix == some "json".toList)

end MediaType

end MetricAlerts.Http
