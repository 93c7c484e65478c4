import MetricAlerts.Query.Basic
import MetricAlerts.Json.Record
import MetricAlerts.Text.Blank
import MetricAlerts.Text.Pieces

/-! Reading queries. -/

namespace MetricAlerts.Query

open MetricAlerts.Text

/-- The quote that is open after a character: a quote opens a region that only the same character
closes. -/
def quoteAfter (quote : Option Char) (c : Char) : Option Char :=
  match quote with
  | none => if c = '"' ∨ c = '\'' then some c else none
  | some open' => if c = open' then none else some open'

/-- Where the pieces between the commas outside quotes begin and end, in bytes. The piece that is
being read began at `start`, the next character is at `here`, and `quote` is open there. -/
def cuts (quote : Option Char) (start here : Nat) : List Char → List (Nat × Nat)
  | [] => [(start, here)]
  | c :: rest =>
    if quote = none ∧ c = ',' then
      (start, here) :: cuts none (here + 1) (here + c.utf8Size) rest
    else cuts (quoteAfter quote c) start (here + c.utf8Size) rest

/-- The text from one byte up to another. -/
def slice (text : String) (cut : Nat × Nat) : String :=
  String.Pos.Raw.extract text ⟨cut.1⟩ ⟨cut.2⟩

/-- The pieces of a text between the commas outside quotes. -/
def slices (text : String) : List String := (cuts none 0 0 text.toList).map (slice text)

/-- The characters between two quotes `q`, if the text is so enclosed. -/
def unquoteWith? (q : Char) : List Char → Option (List Char)
  | c :: rest =>
    if c = q then
      match rest.reverse with
      | d :: inner => if d = q then some inner.reverse else none
      | [] => none
    else none
  | [] => none

/-- A value without the quotes around it, if both are there. -/
def unquote (cs : List Char) : List Char :=
  match unquoteWith? '"' cs with
  | some inner => inner
  | none => (unquoteWith? '\'' cs).getD cs

/-- The characters before the first `c` and those after it, if there is one. -/
def splitAt? (c : Char) (cs : List Char) : Option (List Char × List Char) :=
  match cs.dropWhile (· != c) with
  | [] => none
  | _ :: after => some (cs.takeWhile (· != c), after)

/-- The label and value of a matcher `name=value`. -/
def readMatcher (matcher : List Char) : Except QueryError (String × String) :=
  match splitAt? '=' matcher with
  | none => .error (.invalidMatcher (String.ofList matcher))
  | some (name, value) =>
    let name := trim name
    if name.isEmpty then .error (.invalidMatcher (String.ofList matcher))
    else .ok (String.ofList name, String.ofList (unquote (trim value)))

/-- The labels that matchers name; of repeated names the last one counts. -/
def readMatchers (labels : Dict String) : List (List Char) → Except QueryError (Dict String)
  | [] => .ok labels
  | matcher :: matchers =>
    match readMatcher matcher with
    | .error e => .error e
    | .ok (name, value) => readMatchers (labels.insert name value) matchers

/-- The matchers of the text between the braces, without blank ones. -/
def matchers (body : List Char) : List (List Char) :=
  ((slices (String.ofList body)).map fun m => trim m.toList).filter fun m => !m.isEmpty

/-- A selector from the text before its first brace and the text after it. -/
def parseSelector (query before after : List Char) : Except QueryError Query :=
  let metric := trim before
  if metric.isEmpty then .error (.missingMetricName (String.ofList query))
  else
    match after.reverse with
    | '}' :: body => do
      let labels ← readMatchers .empty (matchers body.reverse)
      return .selector (String.ofList metric) labels
    | _ => .error (.unclosedSelector (String.ofList query))

/-- A query from a text without blanks at its ends. -/
def parseTrimmed (cs : List Char) : Except QueryError Query :=
  if cs.isEmpty then .error .empty
  else
    match splitAt? '{' cs with
    | some (before, after) => parseSelector cs before after
    | none =>
      if cs.contains '.' then
        let segments := (pieces '.' cs).map trim
        if segments.any List.isEmpty then .error (.emptySegment (String.ofList cs))
        else .ok (.path (segments.map String.ofList))
      else .ok (.key (String.ofList cs))

/-- A text with a brace is a selector, any other text with a point a path, the rest a key. -/
def parse (text : String) : Except QueryError Query := parseTrimmed (trim text.toList)

def toJson (q : Query) : Json := .string q.text

/-- The query that a string holds. -/
def read? (d : Document) : Option Query := d.string?.bind fun s => (parse s).toOption

end MetricAlerts.Query
