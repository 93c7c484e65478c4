import MetricAlerts.Json.Document

/-! Reading typed values: scalars, choices between names, and records, whose fields may be given by
name or, in an array, by position. -/

namespace MetricAlerts

namespace Document

def string? : Document → Option String
  | .string s => some s
  | _ => none

def bool? : Document → Option Bool
  | .bool b => some b
  | _ => none

/-- Any number, as a float. -/
def float? : Document → Option Float
  | .int n => some (Float.ofInt n)
  | .float x => some x
  | _ => none

/-- A whole number from zero up to `bound`, which is left out. -/
def nat? (bound : Nat) : Document → Option Nat
  | .int n => if 0 ≤ n ∧ n < bound then some n.toNat else none
  | _ => none

/-- Every item read, or nothing. -/
def listWith? {α : Type} (read : Document → Option α) : Document → Option (List α)
  | .array items => items.mapM read
  | _ => none

def members? : Document → Option (List (String × Document))
  | .object members => some members
  | _ => none

/-- A dictionary whose values are all read; of repeated keys the last one counts. -/
def dictWith? {α : Type} (read : Document → Option α) : Document → Option (Dict α)
  | .object members => do
    let entries ← members.mapM fun m => (read m.2).map fun v => (m.1, v)
    return Dict.ofList entries
  | _ => none

/-- The value that a name stands for: the name itself, or an object with it as the only member
and nothing in it. -/
def choice? {α : Type} (named : String → Option α) : Document → Option α
  | .string name => named name
  | .object [(name, .null)] => named name
  | _ => none

/-- Null as nothing, anything else read. -/
def optionWith? {α : Type} (read : Document → Option α) : Document → Option (Option α)
  | .null => some none
  | d => (read d).map some

end Document

/-- The fields found for a record type, by name. `byPosition` tells that they came from an array,
which may be too short. -/
structure Record where
  fields : List (String × Document)
  byPosition : Bool

namespace Record

/-- The name that `name` stands for, where `aliases` lists other names. -/
def canonical (aliases : List (String × String)) (name : String) : String :=
  (lookup? name aliases).getD name

/-- Whether a name occurs twice. -/
def hasRepeated : List String → Bool
  | [] => false
  | name :: names => names.contains name || hasRepeated names

/-- The fields of an object whose names are known, none of them twice; or the items of an array
that is not longer than the list of names. -/
def read? (names : List String) (aliases : List (String × String)) : Document → Option Record
  | .object members =>
    let renamed := members.map fun m => (canonical aliases m.1, m.2)
    let known := renamed.filter fun m => names.contains m.1
    if hasRepeated (known.map Prod.fst) then none else some ⟨known, false⟩
  | .array items => if names.length < items.length then none else some ⟨names.zip items, true⟩
  | _ => none

def field? (r : Record) (name : String) : Option Document := lookup? name r.fields

def required {α : Type} (r : Record) (name : String) (read : Document → Option α) : Option α :=
  (r.field? name).bind read

/-- A field that may be absent. -/
def withDefault {α : Type} (r : Record) (name : String) (read : Document → Option α) (default : α) :
    Option α :=
  match r.field? name with
  | none => some default
  | some d => read d

/-- A field that may be absent or null. -/
def optional {α : Type} (r : Record) (name : String) (read : Document → Option α) :
    Option (Option α) :=
  r.withDefault name (Document.optionWith? read) none

/-- A field that may be null, or absent where fields are given by name. -/
def optionalByName {α : Type} (r : Record) (name : String) (read : Document → Option α) :
    Option (Option α) :=
  match r.field? name with
  | none => if r.byPosition then none else some none
  | some d => Document.optionWith? read d

end Record

end MetricAlerts
