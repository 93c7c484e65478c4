import MetricAlerts.Template

/-! Notifications to external services and the failures of channels. -/

namespace MetricAlerts

/-- A setting without which a channel cannot notify. -/
inductive Setting where
  | recipients
  | smtpHost
  | fromAddress
  | webhookUrl
  | routingKey
  | externalTransport
  deriving DecidableEq, Repr

def Setting.name : Setting → String
  | .recipients => "recipients"
  | .smtpHost => "smtpHost"
  | .fromAddress => "fromAddress"
  | .webhookUrl => "webhookUrl"
  | .routingKey => "routingKey"
  | .externalTransport => "external transport"

inductive Service where
  | slack
  | pagerDuty
  deriving DecidableEq, Repr

def Service.name : Service → String
  | .slack => "Slack webhook"
  | .pagerDuty => "PagerDuty API"

inductive ChannelError where
  | missingConfig (channel : String) (setting : Setting)
  | invalidAddress (address : String)
  | http
  | status (service : Service) (code : Nat)
  | email
  deriving DecidableEq, Repr

/-- The wording of a failure, where it is this library's own. -/
def ChannelError.message? : ChannelError → Option String
  | .missingConfig channel setting =>
    some ("channel '" ++ channel ++ "' is missing required setting '" ++ setting.name ++ "'")
  | .invalidAddress address => some ("invalid email address '" ++ address ++ "'")
  | .status service code =>
    some (service.name ++ " responded with status " ++ String.ofList (Number.intText code))
  | .http => none
  | .email => none

/-- How a mail server is reached. -/
structure MailServer where
  host : String
  port : Nat
  username : Option String
  password : Option String
  useTls : Bool
  deriving DecidableEq, Repr

def MailServer.defaultPort : Nat := 587

inductive Notification where
  | email (channel : String) (server : MailServer) (sender : String) (recipients : List String)
      (message : Message)
  | slack (channel : String) (webhookUrl : String) (payload : Json)
  | pagerDuty (channel : String) (payload : Json)

namespace Notification

/-- The id of the channel that the notification is for. -/
def channel : Notification → String
  | .email channel .. => channel
  | .slack channel .. => channel
  | .pagerDuty channel .. => channel

/-- A setting that must not be blank. -/
def required (channel : Channel) (value : Option String) (setting : Setting) :
    Except ChannelError String :=
  match value with
  | some text =>
    if (Text.trim text.toList).isEmpty then .error (.missingConfig channel.id setting) else .ok text
  | none => .error (.missingConfig channel.id setting)

def color (alert : Alert) : String :=
  match alert.status, alert.severity with
  | .resolved, _ => "#28a745"
  | _, .critical => "#dc3545"
  | _, .error => "#dc3545"
  | _, .warning => "#ffc107"
  | _, .info => "#17a2b8"

def slackField (title value : String) : Json :=
  .object [("short", .bool true), ("title", .string title), ("value", .string value)]

def slackPayload (config : ChannelConfig) (alert : Alert) (message : Message) : Json :=
  let attachment := Json.ofMembers
    [("color", .string (color alert)), ("title", .string message.subject),
      ("text", .string message.body),
      ("fields", .array
        [slackField "Severity" alert.severity.name, slackField "Source" alert.source,
          slackField "Value" ((alert.value.map Alert.valueText).getD "n/a"),
          slackField "Started" alert.startsAt.plainText]),
      ("footer", .string "Kartex Alerting"), ("ts", .int alert.startsAt.seconds)]
  Json.ofMembers <|
    [("text", .string message.subject), ("attachments", .array [attachment])] ++
    Json.optional "channel" (config.slackChannel.map .string) ++
    Json.optional "username" (config.username.map .string)

/-- What one alert's notifications have in common, and no other alert's. -/
def dedupKey (alert : Alert) : String := "kartex-" ++ alert.id

def pagerDutyPayload (routingKey : String) (alert : Alert) (message : Message) : Json :=
  let details := Json.ofMembers
    [("rule_id", .string alert.ruleId), ("rule_name", .string alert.ruleName),
      ("value", (alert.value.map Json.ofFloat).getD .null), ("labels", Json.ofStrings alert.labels),
      ("body", .string message.body)]
  Json.ofMembers
    [("routing_key", .string routingKey),
      ("event_action", .string (if alert.status = .resolved then "resolve" else "trigger")),
      ("dedup_key", .string (dedupKey alert)),
      ("payload", Json.ofMembers
        [("summary", .string message.subject), ("source", .string alert.source),
          ("severity", .string alert.severity.name),
          ("timestamp", .string alert.startsAt.offsetText), ("custom_details", details)])]

/-- The notification of an external channel about an alert, provided that the settings which the
type of the channel needs are there. -/
def build (channel : Channel) (alert : Alert) : Except ChannelError Notification :=
  let config := channel.config
  let message := Message.render config.templates alert
  match channel.type with
  | .email =>
    if config.recipients.isEmpty then .error (.missingConfig channel.id .recipients)
    else do
      let host ← required channel config.smtpHost .smtpHost
      let sender ← required channel config.fromAddress .fromAddress
      let server : MailServer :=
        { host, port := config.smtpPort.getD MailServer.defaultPort,
          username := config.smtpUsername, password := config.smtpPassword,
          useTls := config.useTls }
      return .email channel.id server sender config.recipients message
  | .slack => do
    let webhookUrl ← required channel config.webhookUrl .webhookUrl
    return .slack channel.id webhookUrl (slackPayload config alert message)
  | .pagerDuty => do
    let routingKey ← required channel config.routingKey .routingKey
    return .pagerDuty channel.id (pagerDutyPayload routingKey alert message)
  | _ => .error (.missingConfig channel.id .externalTransport)

end Notification

end MetricAlerts
