import MetricAlerts.Http.Resource
import MetricAlerts.System.Run

/-! The service over a system: what a request does and how it is answered. -/

namespace MetricAlerts.Http

/-- An answer: a status, and whether its body is a JSON text. The body may be left out. -/
structure Response where
  status : Nat
  isJson : Bool
  body : Option Json

namespace Response

def json (status : Nat) (value : Json) : Response := ⟨status, true, some value⟩

/-- A status with words that are of no interest, or with none. -/
def plain (status : Nat) : Response := ⟨status, false, none⟩

def failure (status : Nat) (message : String) : Response :=
  json status (.object [("error", .string message)])

def withoutBody (r : Response) : Response := { r with body := none }

def ofDefinitionError (e : DefinitionError) : Response :=
  let status := match e with
    | .duplicateId _ _ => 409
    | .notFound _ _ => 404
    | .idMismatch _ _ _ => 400
  failure status e.message

def ofBodyError : Request.BodyError → Response
  | .notJson => plain 415
  | .tooLarge => plain 413
  | .faulty .malformed => plain 400
  | .faulty .unsuitable => plain 422

/-- The value that was looked for. -/
def found (kind : String) : Option Json → Response
  | some value => json 200 value
  | none => failure 404 (kind ++ " not found")

end Response

/-- How many entries of the history are asked for, unless the query names another limit. -/
def defaultHistoryLimit : Nat := 100

/-- The limit that a query names at most once. -/
def historyLimit? (query : List Char) : Option Nat :=
  match (terms query).filter fun t => t.1 == some "limit" with
  | [] => some defaultHistoryLimit
  | [(_, some value)] => Number.nat? UInt64.size value.toList
  | _ => none

/-- The reason in a request to resolve an alert. -/
def readReason? (d : Document) : Option (Option String) := do
  let r ← Record.read? ["reason"] [] d
  r.optionalByName "reason" Document.string?

def reasonForm : Json.Form := .record [.optional "reason" .text]

/-- The status for a request to talk over a socket. Only a server's own connection can be taken
over for it. -/
def socketStatus (r : Request) : Nat :=
  let lower (name : String) : List Char := (((r.header? name).getD "").toList).map Char.toLower
  let connection := lower "connection"
  let asksForUpgrade := (List.range connection.length).any fun n =>
    "upgrade".toList.isPrefixOf (connection.drop n)
  if asksForUpgrade &&
      lower "upgrade" == "websocket".toList &&
      lower "sec-websocket-version" == "13".toList &&
      (r.header? "sec-websocket-key").isSome then 426
  else 400

/-- The answer to a change of one alert. -/
def answerChange (s : System) : Option (Alert × Engine) → Response × System
  | some (alert, e) => (.json 200 alert.toJson, s.withEngine e)
  | none => (.found "Alert" none, s)

/-- The answer to a change of the definitions. -/
def answerDefinition (s : System) (success : Response) : Except DefinitionError Engine →
    Response × System
  | .ok e => (success, s.withEngine e)
  | .error e => (.ofDefinitionError e, s)

/-- The answer with a value from the body. -/
def withBody {α : Type} (s : System) (r : Request) (form : Json.Form) (read? : Document → Option α)
    (answer : α → Response × System) : Response × System :=
  match r.read form read? with
  | .ok value => answer value
  | .error e => (.ofBodyError e, s)

/-- The answer with a name from the path. -/
def withName (s : System) (name : List Char) (answer : String → Response × System) :
    Response × System :=
  match unescaped? name with
  | some name => answer name
  | none => (.plain 400, s)

/-- The state of the service. -/
def health (s : System) : Json :=
  .object
    [("active_alerts", .int s.engine.alerts.activeCount),
      ("realtime_clients", .int s.engine.hub.clientCount),
      ("status", .string "ok")]

/-- What a request with a method does to a resource, and the answer. -/
def perform (s : System) (r : Request) (resource : Resource) (method : Method) :
    Response × System :=
  let e := s.engine
  match resource, method with
  | .health, .get => (.json 200 (health s), s)
  | .socket, .get => (.plain (socketStatus r), s)
  | .rules, .get => (.json 200 (.array (e.definitions.rules.map Rule.toJson)), s)
  | .rules, .post =>
    withBody s r Rule.form Rule.read? fun rule =>
      answerDefinition s (.json 201 rule.toJson) (e.addRule rule)
  | .rule id, .get =>
    withName s id fun id =>
      (.found "Rule" ((Registry.get? e.definitions.rules id).map Rule.toJson), s)
  | .rule id, .put =>
    withName s id fun id =>
      withBody s r Rule.form Rule.read? fun rule =>
        answerDefinition s (.json 200 rule.toJson) (e.updateRule id rule)
  | .rule id, .delete =>
    withName s id fun id =>
      answerDefinition s (.plain 204) ((e.deleteRule id).map Prod.snd)
  | .channels, .get => (.json 200 (.array (e.definitions.channels.map Channel.toJson)), s)
  | .channels, .post =>
    withBody s r Channel.form Channel.read? fun channel =>
      answerDefinition s (.json 201 channel.toJson) (e.addChannel channel)
  | .channel id, .get =>
    withName s id fun id =>
      (.found "Channel" ((Registry.get? e.definitions.channels id).map Channel.toJson), s)
  | .channel id, .put =>
    withName s id fun id =>
      withBody s r Channel.form Channel.read? fun channel =>
        answerDefinition s (.json 200 channel.toJson) (e.updateChannel id channel)
  | .channel id, .delete =>
    withName s id fun id =>
      answerDefinition s (.plain 204) ((e.deleteChannel id).map Prod.snd)
  | .activeAlerts, .get => (.json 200 (.array (e.alerts.activeAlerts.map Alert.toJson)), s)
  | .alertHistory, .get =>
    match historyLimit? r.target.query with
    | some limit => (.json 200 (.array ((e.alerts.getHistory limit).map Alert.toJson)), s)
    | none => (.plain 400, s)
  | .acknowledgement name, .post =>
    withName s name fun name => answerChange s (e.acknowledge? name)
  | .resolution name, .post =>
    withName s name fun name =>
      let reason := match r.read reasonForm readReason? with
        | .ok reason => reason
        | .error _ => none
      answerChange s (e.resolve? name reason)
  | .metrics source, .post =>
    withName s source fun source =>
      withBody s r .anything Document.toJson? fun metrics =>
        let (report, s) := s.ingest source metrics
        (.json 200 report.toJson, s)
  | _, _ => (.plain 405, s)

/-- What a request does and how it is answered. Any page may ask what it is allowed to do, and a
request for the head of an answer gets the answer without its body. -/
def respond (s : System) (r : Request) : Response × System :=
  match r.method, Resource.ofPath? r.target.path with
  | .options, _ => (.plain 200, s)
  | _, none => (.plain 404, s)
  | .head, some .socket => (.plain 405, s)
  | .head, some resource =>
    let (response, s) := perform s r resource .get
    (response.withoutBody, s)
  | method, some resource => perform s r resource method

end MetricAlerts.Http
