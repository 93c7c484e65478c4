import MetricAlerts.Http.Escape
import MetricAlerts.Http.MediaType
import MetricAlerts.Http.Target
import MetricAlerts.Json.Form

/-! Requests: a method, a target with a path and a query, headers and a body. -/

namespace MetricAlerts.Http

inductive Method where
  | get
  | head
  | post
  | put
  | delete
  | options
  | other
  deriving DecidableEq, Repr

def Method.ofName : String → Method
  | "GET" => .get
  | "HEAD" => .head
  | "POST" => .post
  | "PUT" => .put
  | "DELETE" => .delete
  | "OPTIONS" => .options
  | _ => .other

structure Request where
  method : Method
  target : Target
  headers : List (String × String)
  body : String

namespace Request

/-- The greatest number of bytes of a header's name. -/
def nameLimit : Nat := 65535

def isHeaderName (name : String) : Bool := isToken name.toList && name.utf8ByteSize ≤ nameLimit

def isHeaderValue (value : String) : Bool :=
  value.toList.all fun c => (32 ≤ c.toNat && c.toNat != 127) || c = '\t'

/-- The request with a method, a target and headers, provided that all of them are well formed. -/
def ofParts? (method target : String) (headers : List (String × String)) (body : String) :
    Option Request :=
  if isToken method.toList && headers.all fun h => isHeaderName h.1 && isHeaderValue h.2 then
    (Target.parse? target).map fun target => ⟨Method.ofName method, target, headers, body⟩
  else none

/-- The value of the first header with a name, which is given in lower case. -/
def header? (r : Request) (name : String) : Option String :=
  (r.headers.find? fun h => h.1.toList.map Char.toLower == name.toList).map Prod.snd

/-- Whether the body is declared to be a JSON text. -/
def declaresJson (r : Request) : Bool :=
  match r.header? "content-type" with
  | none => false
  | some value =>
    value.toList.all (fun c => (32 ≤ c.toNat && c.toNat < 127) || c == '\t') &&
      (MediaType.parse? value.toList).any MediaType.isJson

/-- The greatest number of bytes of a body that is read. -/
def bodyLimit : Nat := 2097152

/-- Why a body is refused. -/
inductive BodyError where
  | notJson
  | tooLarge
  | faulty (fault : Json.Fault)
  deriving DecidableEq, Repr

/-- The value that the body holds. What comes after a first JSON value is not looked at. -/
def read {α : Type} (r : Request) (form : Json.Form) (read? : Document → Option α) :
    Except BodyError α :=
  if !r.declaresJson then .error .notJson
  else if bodyLimit < r.body.utf8ByteSize then .error .tooLarge
  else
    match form.check r.body with
    | .error fault => .error (.faulty fault)
    | .ok () =>
      match (Json.leadingDocument? r.body).bind read? with
      | some value => .ok value
      | none => .error (.faulty .unsuitable)

end Request

end MetricAlerts.Http
