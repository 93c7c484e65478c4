import MetricAlerts.Query.Basic
import MetricAlerts.Json.Printer
import MetricAlerts.Number.Numeral
import MetricAlerts.Text.Blank

/-! Finding the number that a query addresses in a snapshot. -/

namespace MetricAlerts.Query

/-- What a key leads to in an object, or an index in an array. -/
def child? (node : Json) (segment : String) : Option Json :=
  match node with
  | .object members => lookup? segment members
  | .array items => (Number.nat? UInt64.size segment.toList).bind fun i => items[i]?
  | _ => none

/-- The node that segments lead to. -/
def walk? (node : Json) : List String → Option Json
  | [] => some node
  | segment :: segments =>
    match child? node segment with
    | some next => walk? next segments
    | none => none

/-- The text by which a label value is compared. -/
def labelText? : Json → Option String
  | .string s => some s
  | .int n => some (String.ofList (Number.intText n))
  | .float x => some (String.ofList (Json.floatText x))
  | .bool b => some (if b then "true" else "false")
  | _ => none

/-- Whether every selected label stands among `labels` with its text. Without selected labels
there is nothing to match. -/
def labelsMatch (selected : Dict String) (labels : Option Json) : Bool :=
  selected.isEmpty ||
    match labels with
    | some (.object members) =>
      selected.entries.all fun e => (lookup? e.1 members).bind labelText? == some e.2
    | _ => false

/-- The value of a record whose labels match. -/
def recordValue? (selected : Dict String) (record : Json) : Option Json :=
  match record with
  | .object members =>
    if labelsMatch selected (lookup? "labels" members) then lookup? "value" members else none
  | _ => none

/-- The value of the entry found under a metric's name: a record with a value, the first matching
one of a list of records, or, where no labels are selected, a bare scalar. -/
def entryValue? (selected : Dict String) (entry : Json) : Option Json :=
  match entry with
  | .object _ => recordValue? selected entry
  | .array records => records.findSome? (recordValue? selected)
  | scalar => if selected.isEmpty then some scalar else none

/-- The value of a record that names the metric. -/
def namedValue? (metric : String) (selected : Dict String) (record : Json) : Option Json :=
  if (record.get? "name").bind Json.string? = some metric then recordValue? selected record
  else none

mutual

/-- The first value in document order whose metric and labels are the wanted ones: an object's own
entry before its children, all records of an array before their insides. -/
def search? (metric : String) (selected : Dict String) : Json → Option Json
  | .object members =>
    match (lookup? metric members).bind (entryValue? selected) with
    | some value => some value
    | none => searchMembers? metric selected members
  | .array items =>
    match items.findSome? (namedValue? metric selected) with
    | some value => some value
    | none => searchItems? metric selected items
  | _ => none

def searchMembers? (metric : String) (selected : Dict String) :
    List (String × Json) → Option Json
  | [] => none
  | (_, child) :: members =>
    match search? metric selected child with
    | some value => some value
    | none => searchMembers? metric selected members

def searchItems? (metric : String) (selected : Dict String) : List Json → Option Json
  | [] => none
  | child :: items =>
    match search? metric selected child with
    | some value => some value
    | none => searchItems? metric selected items

end

/-- A number, or a string that holds a numeral; nothing that is infinite or no number. -/
def coerce? (v : Json) : Option Float :=
  let number := match v with
    | .string s => Number.float? (Text.trim s.toList)
    | v => v.number?
  number.filter Float.isFinite

/-- The node that a query addresses. -/
def node? (q : Query) (snapshot : Json) : Option Json :=
  match q with
  | .selector metric labels => search? metric labels snapshot
  | .path segments => walk? snapshot segments
  | .key name => snapshot.get? name

/-- The number that a query addresses. -/
def resolve? (q : Query) (snapshot : Json) : Option Float := (q.node? snapshot).bind coerce?

end MetricAlerts.Query
