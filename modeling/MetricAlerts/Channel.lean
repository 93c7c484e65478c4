import MetricAlerts.Severity

/-! Notification channels and their JSON form. -/

namespace MetricAlerts

inductive ChannelType where
  | console
  | websocket
  | email
  | slack
  | pagerDuty
  | aiFeedback
  deriving DecidableEq, Repr

namespace ChannelType

def name : ChannelType → String
  | .console => "console"
  | .websocket => "websocket"
  | .email => "email"
  | .slack => "slack"
  | .pagerDuty => "pagerduty"
  | .aiFeedback => "ai_feedback"

def ofName? : String → Option ChannelType
  | "console" => some .console
  | "websocket" => some .websocket
  | "email" => some .email
  | "slack" => some .slack
  | "pagerduty" => some .pagerDuty
  | "ai_feedback" => some .aiFeedback
  | _ => none

end ChannelType

/-- What an alert is enriched with on behalf of a feedback channel. -/
inductive FeedbackType where
  | explanation
  | recommendation
  | correlation
  deriving DecidableEq, Repr

namespace FeedbackType

instance : Inhabited FeedbackType := ⟨.explanation⟩

def name : FeedbackType → String
  | .explanation => "explanation"
  | .recommendation => "recommendation"
  | .correlation => "correlation"

def ofName? : String → Option FeedbackType
  | "explanation" => some .explanation
  | "recommendation" => some .recommendation
  | "correlation" => some .correlation
  | _ => none

def toJson (f : FeedbackType) : Json := .string f.name

def read? : Document → Option FeedbackType := Document.choice? ofName?

def form : Json.Form := .choice fun name => (ofName? name).isSome

end FeedbackType

/-- The texts of messages; where one is missing a default takes its place. -/
structure MessageTemplates where
  subject : Option String
  body : Option String
  deriving DecidableEq, Repr, Inhabited

namespace MessageTemplates

def nullable (s : Option String) : Json := (s.map Json.string).getD .null

def toJson (t : MessageTemplates) : Json :=
  .object [("body", nullable t.body), ("subject", nullable t.subject)]

def read? (d : Document) : Option MessageTemplates := do
  let r ← Record.read? ["subject", "body"] [] d
  let subject ← r.optional "subject" Document.string?
  let body ← r.optional "body" Document.string?
  return { subject, body }

def form : Json.Form := .record [.optional "subject" .text, .optional "body" .text]

end MessageTemplates

/-- Settings of a channel. Which of them are needed depends on its type. -/
structure ChannelConfig where
  recipients : List String
  fromAddress : Option String
  smtpHost : Option String
  smtpPort : Option Nat
  smtpUsername : Option String
  smtpPassword : Option String
  useTls : Bool
  webhookUrl : Option String
  slackChannel : Option String
  username : Option String
  routingKey : Option String
  templates : Option MessageTemplates
  minSeverity : Option Severity
  feedbackType : Option FeedbackType
  deriving DecidableEq, Repr

namespace ChannelConfig

def empty : ChannelConfig where
  recipients := []
  fromAddress := none
  smtpHost := none
  smtpPort := none
  smtpUsername := none
  smtpPassword := none
  useTls := false
  webhookUrl := none
  slackChannel := none
  username := none
  routingKey := none
  templates := none
  minSeverity := none
  feedbackType := none

instance : Inhabited ChannelConfig := ⟨empty⟩

def toJson (c : ChannelConfig) : Json :=
  let text (name : String) (s : Option String) := Json.optional name (s.map .string)
  Json.ofMembers <|
    [("recipients", .array (c.recipients.map .string)), ("useTls", .bool c.useTls)] ++
    text "fromAddress" c.fromAddress ++ text "smtpHost" c.smtpHost ++
    Json.optional "smtpPort" (c.smtpPort.map fun n => .int n) ++
    text "smtpUsername" c.smtpUsername ++ text "smtpPassword" c.smtpPassword ++
    text "webhookUrl" c.webhookUrl ++ text "slackChannel" c.slackChannel ++
    text "username" c.username ++ text "routingKey" c.routingKey ++
    Json.optional "templates" (c.templates.map MessageTemplates.toJson) ++
    Json.optional "minSeverity" (c.minSeverity.map Severity.toJson) ++
    Json.optional "feedbackType" (c.feedbackType.map FeedbackType.toJson)

def fields : List String :=
  ["recipients", "fromAddress", "smtpHost", "smtpPort", "smtpUsername", "smtpPassword", "useTls",
    "webhookUrl", "slackChannel", "username", "routingKey", "templates", "minSeverity",
    "feedbackType"]

def read? (d : Document) : Option ChannelConfig := do
  let r ← Record.read? fields [] d
  let recipients ← r.withDefault "recipients" (Document.listWith? Document.string?) []
  let fromAddress ← r.optional "fromAddress" Document.string?
  let smtpHost ← r.optional "smtpHost" Document.string?
  let smtpPort ← r.optional "smtpPort" (Document.nat? UInt16.size)
  let smtpUsername ← r.optional "smtpUsername" Document.string?
  let smtpPassword ← r.optional "smtpPassword" Document.string?
  let useTls ← r.withDefault "useTls" Document.bool? false
  let webhookUrl ← r.optional "webhookUrl" Document.string?
  let slackChannel ← r.optional "slackChannel" Document.string?
  let username ← r.optional "username" Document.string?
  let routingKey ← r.optional "routingKey" Document.string?
  let templates ← r.optional "templates" MessageTemplates.read?
  let minSeverity ← r.optional "minSeverity" Severity.read?
  let feedbackType ← r.optional "feedbackType" FeedbackType.read?
  return { recipients, fromAddress, smtpHost, smtpPort, smtpUsername, smtpPassword, useTls,
           webhookUrl, slackChannel, username, routingKey, templates, minSeverity, feedbackType }

def form : Json.Form :=
  .record
    [.withDefault "recipients" (.list .text), .optional "fromAddress" .text,
      .optional "smtpHost" .text, .optional "smtpPort" (.nat UInt16.size),
      .optional "smtpUsername" .text, .optional "smtpPassword" .text,
      .withDefault "useTls" .bool, .optional "webhookUrl" .text, .optional "slackChannel" .text,
      .optional "username" .text, .optional "routingKey" .text,
      .optional "templates" MessageTemplates.form, .optional "minSeverity" Severity.form,
      .optional "feedbackType" FeedbackType.form]

end ChannelConfig

structure Channel where
  id : String
  name : String
  type : ChannelType
  enabled : Bool
  config : ChannelConfig
  deriving DecidableEq, Repr

namespace Channel

/-- The enrichment that a feedback channel asks for. -/
def feedback (c : Channel) : FeedbackType := c.config.feedbackType.getD default

def toJson (c : Channel) : Json :=
  Json.ofMembers
    [("id", .string c.id), ("name", .string c.name), ("type", .string c.type.name),
      ("enabled", .bool c.enabled), ("config", c.config.toJson)]

def read? (d : Document) : Option Channel := do
  let r ← Record.read? ["id", "name", "type", "enabled", "config"] [] d
  let id ← r.required "id" Document.string?
  let name ← r.required "name" Document.string?
  let type ← r.required "type" (Document.choice? ChannelType.ofName?)
  let enabled ← r.withDefault "enabled" Document.bool? true
  let config ← r.withDefault "config" ChannelConfig.read? .empty
  return { id, name, type, enabled, config }

/-- What the text of a channel holds. -/
def form : Json.Form :=
  .record
    [.required "id" .text, .required "name" .text,
      .required "type" (.choice fun name => (ChannelType.ofName? name).isSome),
      .withDefault "enabled" .bool, .withDefault "config" ChannelConfig.form]

end Channel

end MetricAlerts
