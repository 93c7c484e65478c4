import MetricAlerts.Http.Request

/-! What the paths of the service lead to. -/

namespace MetricAlerts.Http

/-- A resource of the service; ids and names are as they stand in the path, with escapes. -/
inductive Resource where
  | health
  | socket
  | rules
  | rule (id : List Char)
  | channels
  | channel (id : List Char)
  | activeAlerts
  | alertHistory
  | acknowledgement (alert : List Char)
  | resolution (alert : List Char)
  | metrics (source : List Char)
  deriving DecidableEq, Repr

namespace Resource

/-- The resource below `/api`. A name at the end of a path is not empty. -/
def ofParts? (collection : String) : List (List Char) → Option Resource
  | [] =>
    match collection with
    | "rules" => some .rules
    | "channels" => some .channels
    | "alerts" => some .activeAlerts
    | _ => none
  | [name] =>
    match collection with
    | "rules" => if name.isEmpty then none else some (.rule name)
    | "channels" => if name.isEmpty then none else some (.channel name)
    | "alerts" => if name = "history".toList then some .alertHistory else none
    | "metrics" => if name.isEmpty then none else some (.metrics name)
    | _ => none
  | [name, action] =>
    if collection ≠ "alerts" then none
    else if action = "acknowledge".toList then some (.acknowledgement name)
    else if action = "resolve".toList then some (.resolution name)
    else none
  | _ => none

def ofPath? (path : List Char) : Option Resource :=
  match Text.pieces '/' path with
  | [[], name] =>
    if name = "health".toList then some .health
    else if name = "ws".toList then some .socket
    else none
  | [] :: root :: collection :: parts =>
    if root = "api".toList then ofParts? (String.ofList collection) parts else none
  | _ => none

example : ofPath? "/api/alerts//resolve".toList = some (.resolution []) := by decide

example : ofPath? "/api/rules/".toList = none := by decide

end Resource

end MetricAlerts.Http
