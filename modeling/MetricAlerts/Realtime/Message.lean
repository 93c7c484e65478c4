import MetricAlerts.Analysis
import MetricAlerts.Json.Parser

/-! What realtime clients are sent, and what they may ask for. -/

namespace MetricAlerts

inductive RealtimeMessage where
  | connected
  /-- The active alerts at the time of the connection. -/
  | activeAlerts (alerts : List Json)
  | alert (alert : Json)
  | alertUpdate (alert : Json)
  | resolve (alert : Json)
  | alertPatterns (analysis : PatternAnalysis)
  | subscribed (channel : String)
  | error (text : String)
  deriving Inhabited

namespace RealtimeMessage

def greeting : String := "Connected to alert stream"

/-- The answer to a text that asks for nothing known. -/
def unrecognized : RealtimeMessage := .error "Unrecognized message: no known request"

def tagged (tag : String) (members : List (String × Json)) : Json :=
  Json.ofMembers (("type", .string tag) :: members)

def toJson : RealtimeMessage → Json
  | .connected => tagged "connected" [("message", .string greeting)]
  | .activeAlerts copies => tagged "active_alerts" [("alerts", .array copies)]
  | .alert copy => tagged "alert" [("alert", copy)]
  | .alertUpdate copy => tagged "alert_update" [("alert", copy)]
  | .resolve copy => tagged "resolve" [("alert", copy)]
  | .alertPatterns analysis => tagged "alert_patterns" [("analysis", analysis.toJson)]
  | .subscribed name => tagged "subscribed" [("channel", .string name)]
  | .error text => tagged "error" [("message", .string text)]

end RealtimeMessage

/-- What a client may ask for. -/
inductive ClientRequest where
  | subscribe (channel : String)
  | unsubscribe (channel : String)
  deriving DecidableEq, Repr

namespace ClientRequest

def ofTag? (tag channel : String) : Option ClientRequest :=
  match tag with
  | "subscribe" => some (.subscribe channel)
  | "unsubscribe" => some (.unsubscribe channel)
  | _ => none

/-- A request from an object with a type and a channel, or from an array of the two. Other members
of the object must be readable. -/
def read? : Document → Option ClientRequest
  | .object members => do
    let _ ← Document.membersJson? members
    let r ← Record.read? ["type", "channel"] [] (.object members)
    let tag ← r.required "type" Document.string?
    let channel ← r.required "channel" Document.string?
    ofTag? tag channel
  | .array [.string tag, .string channel] => ofTag? tag channel
  | _ => none

def parse? (text : String) : Option ClientRequest := (Json.document? text).bind read?

end ClientRequest

end MetricAlerts
