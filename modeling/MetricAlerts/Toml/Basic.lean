import MetricAlerts.Dict

/-! TOML documents as values, and the tables of a document while it is being read. -/

namespace MetricAlerts

/-- A value; a table is a list of entries with distinct keys, and of dates and times it is only
kept that they are such. -/
inductive Toml where
  | string (s : String)
  | int (n : Int)
  | float (x : Float)
  | bool (b : Bool)
  | dateTime
  | array (items : List Toml)
  | table (entries : List (String × Toml))
  deriving Inhabited

namespace Toml

/-- What a key stands for while a document is being read. A table is implicit as long as only keys
below it have been named, and dotted if it came from a dotted key. -/
inductive Node where
  | value (v : Toml)
  | table (isImplicit isDotted : Bool) (entries : List (String × Node))
  | tables (elements : List (List (String × Node)))
  deriving Inhabited

namespace Node

mutual

def toToml : Node → Toml
  | .value v => v
  | .table _ _ entries => .table (entriesToml entries)
  | .tables elements => .array (elementsToml elements)

def entriesToml : List (String × Node) → List (String × Toml)
  | [] => []
  | (key, node) :: entries => (key, node.toToml) :: entriesToml entries

def elementsToml : List (List (String × Node)) → List Toml
  | [] => []
  | entries :: elements => .table (entriesToml entries) :: elementsToml elements

end

/-- The entries with a node under a key, in the place of the one that was there or at the end. -/
def put (key : String) (node : Node) : List (String × Node) → List (String × Node)
  | [] => [(key, node)]
  | entry :: entries =>
    if entry.1 = key then (key, node) :: entries else entry :: put key node entries

/-- A change of the table at the end of a path, where `change` is also told whether that table is
dotted. A dotted path does not lead into tables with a header of their own, and no path leads into
values; of an array of tables the last one is meant. -/
def modifyAt (byDots : Bool) (change : Bool → List (String × Node) → Option (List (String × Node)))
    (isDotted : Bool) (entries : List (String × Node)) :
    List String → Option (List (String × Node))
  | [] => change isDotted entries
  | key :: path =>
    match lookup? key entries with
    | none =>
      (modifyAt byDots change byDots [] path).map fun inner =>
        put key (.table true byDots inner) entries
    | some (.value _) => none
    | some (.tables elements) =>
      match elements.reverse with
      | [] => none
      | last :: before =>
        (modifyAt byDots change false last path).map fun inner =>
          put key (.tables (inner :: before).reverse) entries
    | some (.table isImplicit dotted inner) =>
      if byDots && !isImplicit then none
      else
        (modifyAt byDots change dotted inner path).map fun inner =>
          put key (.table isImplicit dotted inner) entries

/-- A new value under a dotted key of a table. The tables on the way must have come from dotted
keys too. -/
def assign (path : List String) (key : String) (value : Toml) (entries : List (String × Node)) :
    Option (List (String × Node)) :=
  modifyAt true
    (fun isDotted inner =>
      if isDotted = path.isEmpty || (lookup? key inner).isSome then none
      else some (put key (.value value) inner))
    false entries path

/-- A table that gets its header, which it may do once. -/
def openTable (path : List String) (key : String) (root : List (String × Node)) :
    Option (List (String × Node)) :=
  modifyAt false
    (fun _ inner =>
      match lookup? key inner with
      | none => some (put key (.table false false []) inner)
      | some (.table true false entries) => some (put key (.table false false entries) inner)
      | some _ => none)
    false root path

/-- One more table in an array of tables. -/
def openElement (path : List String) (key : String) (root : List (String × Node)) :
    Option (List (String × Node)) :=
  modifyAt false
    (fun _ inner =>
      match lookup? key inner with
      | none => some (put key (.tables [[]]) inner)
      | some (.tables elements) => some (put key (.tables (elements ++ [[]])) inner)
      | some _ => none)
    false root path

end Node

end Toml

end MetricAlerts
