import MetricAlerts.Dict

/-! JSON values. Whole numbers are kept apart from floats; the members of an object stand in
increasing order of their names. -/

namespace MetricAlerts

inductive Json where
  | null
  | bool (b : Bool)
  | int (n : Int)
  | float (x : Float)
  | string (s : String)
  | array (items : List Json)
  | object (members : List (String × Json))
  deriving BEq, Repr, Inhabited

namespace Json

/-- The object with the given members, the last one where a name repeats. -/
def ofMembers (members : List (String × Json)) : Json := .object (sortEntries members)

def ofDict (d : Dict Json) : Json := .object d.entries

def ofStrings (d : Dict String) : Json := .object (d.entries.map fun e => (e.1, .string e.2))

/-- The value under a name of an object. -/
def get? (key : String) : Json → Option Json
  | .object members => lookup? key members
  | _ => none

/-- An object with `value` under a name, in the place of what was there. Any other value stays as it
is. -/
def insert (v : Json) (key : String) (value : Json) : Json :=
  match v with
  | .object members => .object (insertEntry key value members)
  | v => v

@[simp] theorem insert_object (members : List (String × Json)) (key : String) (value : Json) :
    (Json.object members).insert key value = .object (insertEntry key value members) :=
  rfl

def string? : Json → Option String
  | .string s => some s
  | _ => none

def members? : Json → Option (List (String × Json))
  | .object members => some members
  | _ => none

/-- A float as a value; one that is infinite or no number has none and is null. -/
def ofFloat (x : Float) : Json := if x.isFinite then .float x else .null

/-- A number as a float. -/
def number? : Json → Option Float
  | .int n => some (Float.ofInt n)
  | .float x => some x
  | _ => none

/-- What an optional value is written as: nothing, or a member. -/
def optional (name : String) (value : Option Json) : List (String × Json) :=
  match value with
  | some v => [(name, v)]
  | none => []

end Json

end MetricAlerts
