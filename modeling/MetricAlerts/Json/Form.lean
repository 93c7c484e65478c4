import MetricAlerts.Json.Parser
import MetricAlerts.Json.Record

/-! What a text is expected to hold. A text is checked in the order in which it is read, so that of
several faults the first one counts. -/

namespace MetricAlerts.Json

/-- What is wrong with a text. -/
inductive Fault where
  /-- It is no JSON text. -/
  | malformed
  /-- A value in it is not of the form that is expected there. -/
  | unsuitable
  deriving DecidableEq, Repr

/-- The check of the value at the start of a text: what comes after the value, or the first fault.
The number tells how many more containers may be opened around the value. -/
abbrev Form := Nat → List Char → Except Fault (List Char)

/-- The rest after a character, with blanks before it at most. -/
def afterMark (mark : Char) (cs : List Char) : Except Fault (List Char) :=
  match skipBlanks cs with
  | c :: rest => if c = mark then .ok rest else .error .malformed
  | [] => .error .malformed

namespace Form

/-- Any value that can be represented. -/
def anything : Form := fun room cs =>
  match readValue (cs.length + 1) room cs with
  | some (d, rest) => if d.toJson?.isSome then .ok rest else .error .malformed
  | none => .error .malformed

/-- A value that is passed over and so need not be representable. -/
def skipped : Form := fun room cs =>
  match readValue (cs.length + 1) room cs with
  | some (_, rest) => .ok rest
  | none => .error .malformed

/-- A value that is no container and has a property. A container is refused as soon as it opens,
anything else after it has been read. -/
def scalar (suits : Document → Bool) : Form := fun _ cs =>
  match skipBlanks cs with
  | '[' :: _ => .error .unsuitable
  | '{' :: _ => .error .unsuitable
  | cs =>
    match readValue 1 0 cs with
    | some (.unreadable, _) => .error .malformed
    | some (d, rest) => if suits d then .ok rest else .error .unsuitable
    | none => .error .malformed

def text : Form := scalar fun d => d.string?.isSome

def bool : Form := scalar fun d => d.bool?.isSome

/-- A whole number below `bound`. -/
def nat (bound : Nat) : Form := scalar fun d => (d.nat? bound).isSome

/-- One of some names, which may also be the only member of an object, with nothing in it. -/
def choice (isName : String → Bool) : Form := fun room cs =>
  let name := scalar fun d => d.string?.any isName
  match skipBlanks cs with
  | '"' :: rest => name room ('"' :: rest)
  | '{' :: rest => do
    if room = 0 then throw .malformed
    let rest ← name room rest
    let rest ← afterMark ':' rest
    let rest ← scalar (fun d => d matches .null) room rest
    afterMark '}' rest
  | _ => .error .malformed

/-- A value that may be null. -/
def optional (form : Form) : Form := fun room cs =>
  match skipBlanks cs with
  | 'n' :: rest => (afterWord? ['u', 'l', 'l'] rest).elim (.error .malformed) .ok
  | _ => form room cs

/-- The items of an array up to its end. -/
def items (item : Form) (room : Nat) : Nat → List Char → Except Fault (List Char)
  | 0, _ => .error .malformed
  | fuel + 1, cs => do
    let rest ← item room cs
    match skipBlanks rest with
    | ',' :: rest => items item room fuel rest
    | ']' :: rest => return rest
    | _ => throw .malformed

def list (item : Form) : Form := fun room cs =>
  match skipBlanks cs with
  | '[' :: rest =>
    if room = 0 then .error .malformed
    else
      match skipBlanks rest with
      | ']' :: rest => .ok rest
      | rest => items item (room - 1) (rest.length + 1) rest
  | _ => scalar (fun _ => false) room cs

end Form

/-- A member that an object is expected to have. -/
structure Field where
  name : String
  form : Form
  isRequired : Bool

namespace Form

/-- The members of an object up to its end, where those with the names in `seen` have come. A member
that comes again is refused at its name, one that is missing at the end. -/
def members (fields : List Field) (others : Form) (room : Nat) :
    Nat → List String → List Char → Except Fault (List Char)
  | 0, _, _ => .error .malformed
  | fuel + 1, seen, cs => do
    let rest ← afterMark '"' cs
    match readString (rest.length + 1) true [] rest with
    | some (true, name, rest) =>
      let name := String.ofList name.reverse
      let field := fields.find? fun f => f.name == name
      if field.isSome && seen.contains name then throw .unsuitable
      let rest ← afterMark ':' rest
      let rest ← (field.elim others Field.form) room rest
      let seen := name :: seen
      match skipBlanks rest with
      | ',' :: rest => members fields others room fuel seen rest
      | '}' :: rest =>
        if fields.all fun f => !f.isRequired || seen.contains f.name then return rest
        else throw .unsuitable
      | _ => throw .malformed
    | _ => throw .malformed

/-- An object with fields and any number of other members. -/
def object (fields : List Field) (others : Form) : Form := fun room cs =>
  match skipBlanks cs with
  | '{' :: rest =>
    if room = 0 then .error .malformed
    else
      match skipBlanks rest with
      | '}' :: rest =>
        if fields.any Field.isRequired then .error .unsuitable else .ok rest
      | rest => members fields others (room - 1) (rest.length + 1) [] rest
  | _ => scalar (fun _ => false) room cs

/-- The fields of an array up to its end; `isFirst` tells that none has come yet. -/
def positions (room : Nat) : Bool → List Field → List Char → Except Fault (List Char)
  | _, [], cs => afterMark ']' cs
  | isFirst, field :: fields, cs =>
    match isFirst, skipBlanks cs with
    | _, ']' :: rest =>
      if (field :: fields).any Field.isRequired then .error .unsuitable else .ok rest
    | true, rest => do positions room false fields (← field.form room rest)
    | false, ',' :: rest => do positions room false fields (← field.form room rest)
    | false, _ => .error .malformed

/-- Fields given by name, or by position in an array. Other members are passed over. -/
def record (fields : List Field) : Form := fun room cs =>
  match skipBlanks cs with
  | '[' :: rest =>
    if room = 0 then .error .malformed else positions (room - 1) true fields rest
  | _ => object fields skipped room cs

/-- An object in which every member has the same form. -/
def dict (item : Form) : Form := object [] item

/-- The first fault of the value at the start of a text, whatever comes after it. -/
def check (form : Form) (text : String) : Except Fault Unit := do
  let _ ← form nestingLimit text.toList

end Form

/-- A field that must be there. -/
def Field.required (name : String) (form : Form) : Field := ⟨name, form, true⟩

/-- A field that may be left out. -/
def Field.withDefault (name : String) (form : Form) : Field := ⟨name, form, false⟩

/-- A field that may be left out or null. -/
def Field.optional (name : String) (form : Form) : Field := ⟨name, form.optional, false⟩

end MetricAlerts.Json
