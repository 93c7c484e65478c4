import MetricAlerts.Channel
import MetricAlerts.Rule

/-! Lists of definitions with an id each, in the order in which they were added. -/

namespace MetricAlerts

inductive DefinitionKind where
  | rule
  | channel
  deriving DecidableEq, Repr

def DefinitionKind.name : DefinitionKind → String
  | .rule => "Rule"
  | .channel => "Channel"

/-- Why a list of definitions was not changed. -/
inductive DefinitionError where
  | duplicateId (kind : DefinitionKind) (id : String)
  | notFound (kind : DefinitionKind) (id : String)
  | idMismatch (kind : DefinitionKind) (path body : String)
  deriving DecidableEq, Repr

def DefinitionError.message : DefinitionError → String
  | .duplicateId kind id => kind.name ++ " with id '" ++ id ++ "' already exists"
  | .notFound kind id => kind.name ++ " with id '" ++ id ++ "' not found"
  | .idMismatch kind path body =>
    kind.name ++ " id '" ++ body ++ "' does not match path id '" ++ path ++ "'"

/-- Definitions that carry an id. -/
class Identified (α : Type) where
  id : α → String
  kind : DefinitionKind

instance : Identified Rule := ⟨Rule.id, .rule⟩

instance : Identified Channel := ⟨Channel.id, .channel⟩

namespace Registry

variable {α : Type} [Identified α]

def ids (items : List α) : List String := items.map Identified.id

/-- The definition with an id. -/
def get? (items : List α) (id : String) : Option α :=
  items.find? fun item => Identified.id item == id

/-- A definition with a new id, after all others. -/
def add (items : List α) (item : α) : Except DefinitionError (List α) :=
  if (ids items).contains (Identified.id item) then
    .error (.duplicateId (Identified.kind α) (Identified.id item))
  else .ok (items ++ [item])

/-- The list with another definition in the place of the one with its id. -/
def put (item : α) : List α → List α
  | [] => []
  | old :: items =>
    if Identified.id old = Identified.id item then item :: items else old :: put item items

/-- The definition that takes the place of the one with the id `path`, which must be its own. -/
def update (items : List α) (path : String) (item : α) : Except DefinitionError (List α) :=
  if Identified.id item ≠ path then
    .error (.idMismatch (Identified.kind α) path (Identified.id item))
  else if (ids items).contains path then .ok (put item items)
  else .error (.notFound (Identified.kind α) path)

/-- The list without the definition with an id, and that definition. -/
def delete (items : List α) (id : String) : Except DefinitionError (List α × α) :=
  match get? items id with
  | some item => .ok (items.eraseP fun item => Identified.id item == id, item)
  | none => .error (.notFound (Identified.kind α) id)

/-- The first id that occurs again before it. -/
def repeated? : List α → List String → Option String
  | [], _ => none
  | item :: items, seen =>
    if seen.contains (Identified.id item) then some (Identified.id item)
    else repeated? items (Identified.id item :: seen)

/-- A list whose ids are distinct, or the first id that is not. -/
def ofList (items : List α) : Except DefinitionError (List α) :=
  match repeated? items [] with
  | some id => .error (.duplicateId (Identified.kind α) id)
  | none => .ok items

end Registry

end MetricAlerts
