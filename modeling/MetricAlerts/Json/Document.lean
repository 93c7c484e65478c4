import MetricAlerts.Json.Basic

/-! What was read in a JSON text before it is given a meaning: members keep their order and may
repeat, and a part that is well formed but stands for no value is marked as unreadable. -/

namespace MetricAlerts

/-- A parsed text. `unreadable` stands for a number beyond the floats, a string with half of a
surrogate pair, and an array or object nested too deep. -/
inductive Document where
  | null
  | bool (b : Bool)
  | int (n : Int)
  | float (x : Float)
  | string (s : String)
  | array (items : List Document)
  | object (members : List (String × Document))
  | unreadable
  deriving Inhabited

namespace Document

mutual

/-- The value of a text without unreadable parts; of repeated members the last one counts. -/
def toJson? : Document → Option Json
  | .null => some .null
  | .bool b => some (.bool b)
  | .int n => some (.int n)
  | .float x => some (.float x)
  | .string s => some (.string s)
  | .array items => (itemsJson? items).map .array
  | .object members => (membersJson? members).map Json.ofMembers
  | .unreadable => none

def itemsJson? : List Document → Option (List Json)
  | [] => some []
  | item :: items => do
    let v ← item.toJson?
    let vs ← itemsJson? items
    return v :: vs

def membersJson? : List (String × Document) → Option (List (String × Json))
  | [] => some []
  | (name, member) :: members => do
    let v ← member.toJson?
    let vs ← membersJson? members
    return (name, v) :: vs

end

mutual

/-- A value as if it had just been read. -/
def ofJson : Json → Document
  | .null => .null
  | .bool b => .bool b
  | .int n => .int n
  | .float x => .float x
  | .string s => .string s
  | .array items => .array (ofItems items)
  | .object members => .object (ofMembers members)

def ofItems : List Json → List Document
  | [] => []
  | item :: items => ofJson item :: ofItems items

def ofMembers : List (String × Json) → List (String × Document)
  | [] => []
  | (name, value) :: members => (name, ofJson value) :: ofMembers members

end

end Document

end MetricAlerts
