import MetricAlerts.Channel
import MetricAlerts.Proofs.Json.Alert
import MetricAlerts.Proofs.Json.Rule

/-! Channels read back from their JSON form: they come back exactly if their port is one. With them
everything that is stored or exchanged has been seen to come back (`read?_toJson_iffs`). -/

namespace MetricAlerts

theorem ChannelType.ofName?_name (t : ChannelType) : ofName? t.name = some t := by cases t <;> rfl

theorem FeedbackType.ofName?_name (t : FeedbackType) : ofName? t.name = some t := by cases t <;> rfl

namespace Document

theorem listWith?_ofTexts (texts : List String) :
    listWith? string? (ofJson (.array (texts.map .string))) = some texts := by
  rw [ofJson, listWith?]
  induction texts with
  | nil => rfl
  | cons text texts ih =>
    rw [List.map_cons, ofItems, List.mapM_cons, ih]
    rfl

theorem nat?_ofJson_iff {n bound : Nat} : nat? bound (ofJson (.int n)) = some n ↔ n < bound := by
  rw [ofJson, nat?, Int.toNat_natCast]
  by_cases less : n < bound
  · rw [if_pos ⟨Int.natCast_nonneg n, Int.ofNat_lt.mpr less⟩]
    exact iff_of_true rfl less
  · have notLess : ¬(0 ≤ (n : Int) ∧ (n : Int) < bound) := by omega
    rw [if_neg notLess]
    exact iff_of_false nofun less

end Document

theorem MessageTemplates.read?_toJson (t : MessageTemplates) :
    read? (.ofJson t.toJson) = some t := by
  let members := Document.ofMembers [("body", nullable t.body), ("subject", nullable t.subject)]
  have distinct : (keys members).Nodup := by
    show ["body", "subject"].Nodup
    decide
  obtain ⟨r, hRead, hFields⟩ := Record.exists_read? distinct ["subject", "body"]
  have hSubject : r.optional "subject" Document.string? = some t.subject :=
    (Record.optional_eq_some_iff_of_nullable (hFields "subject" (by decide)) rfl).mpr fun _ _ => rfl
  have hBody : r.optional "body" Document.string? = some t.body :=
    (Record.optional_eq_some_iff_of_nullable (hFields "body" (by decide)) rfl).mpr fun _ _ => rfl
  show read? (.object members) = some t
  simp only [read?, hRead, hSubject, hBody, Option.bind_eq_bind, Option.bind_some]
  rfl

namespace ChannelConfig

def slots (c : ChannelConfig) : List (String × Option Json) :=
  [("recipients", some (.array (c.recipients.map .string))), ("useTls", some (.bool c.useTls)),
    ("fromAddress", c.fromAddress.map .string), ("smtpHost", c.smtpHost.map .string),
    ("smtpPort", c.smtpPort.map fun n : Nat => .int n),
    ("smtpUsername", c.smtpUsername.map .string),
    ("smtpPassword", c.smtpPassword.map .string), ("webhookUrl", c.webhookUrl.map .string),
    ("slackChannel", c.slackChannel.map .string), ("username", c.username.map .string),
    ("routingKey", c.routingKey.map .string),
    ("templates", c.templates.map MessageTemplates.toJson),
    ("minSeverity", c.minSeverity.map Severity.toJson),
    ("feedbackType", c.feedbackType.map FeedbackType.toJson)]

/-- The names of the members, in the order in which they are written. -/
def memberNames : List String :=
  ["recipients", "useTls", "fromAddress", "smtpHost", "smtpPort", "smtpUsername", "smtpPassword",
    "webhookUrl", "slackChannel", "username", "routingKey", "templates", "minSeverity",
    "feedbackType"]

theorem keys_slots (c : ChannelConfig) : keys c.slots = memberNames := rfl

/-- The members are the slots that are filled, where the port is cast only once it is a value. -/
theorem toJson_eq (c : ChannelConfig) : c.toJson = .ofMembers (Json.present c.slots) := by
  cases hPort : c.smtpPort <;> simp [toJson, slots, Json.present, Json.optional, hPort]

theorem exists_record (c : ChannelConfig) :
    ∃ r, Record.read? fields [] (.ofJson c.toJson) = some r ∧
      ∀ slot ∈ c.slots, r.field? slot.1 = slot.2.map .ofJson := by
  have distinct : memberNames.Nodup := by decide
  have known : memberNames ⊆ fields := by decide
  rw [toJson_eq]
  rw [← keys_slots c] at distinct known
  exact Record.exists_read?_present c.slots [] distinct known fun _ _ => List.not_mem_nil

theorem read?_eq_some_iff {d : Document} {r : Record} {c : ChannelConfig}
    (hRead : Record.read? fields [] d = some r) :
    read? d = some c ↔
      r.withDefault "recipients" (Document.listWith? Document.string?) [] = some c.recipients ∧
      r.optional "fromAddress" Document.string? = some c.fromAddress ∧
      r.optional "smtpHost" Document.string? = some c.smtpHost ∧
      r.optional "smtpPort" (Document.nat? UInt16.size) = some c.smtpPort ∧
      r.optional "smtpUsername" Document.string? = some c.smtpUsername ∧
      r.optional "smtpPassword" Document.string? = some c.smtpPassword ∧
      r.withDefault "useTls" Document.bool? false = some c.useTls ∧
      r.optional "webhookUrl" Document.string? = some c.webhookUrl ∧
      r.optional "slackChannel" Document.string? = some c.slackChannel ∧
      r.optional "username" Document.string? = some c.username ∧
      r.optional "routingKey" Document.string? = some c.routingKey ∧
      r.optional "templates" MessageTemplates.read? = some c.templates ∧
      r.optional "minSeverity" Severity.read? = some c.minSeverity ∧
      r.optional "feedbackType" FeedbackType.read? = some c.feedbackType := by
  rw [read?]
  constructor
  · intro h
    rw [hRead] at h
    obtain ⟨_, hr, h⟩ := Option.bind_eq_some_iff.mp h
    cases hr
    obtain ⟨recipients, hRecipients, h⟩ := Option.bind_eq_some_iff.mp h
    obtain ⟨fromAddress, hFromAddress, h⟩ := Option.bind_eq_some_iff.mp h
    obtain ⟨smtpHost, hSmtpHost, h⟩ := Option.bind_eq_some_iff.mp h
    obtain ⟨smtpPort, hSmtpPort, h⟩ := Option.bind_eq_some_iff.mp h
    obtain ⟨smtpUsername, hSmtpUsername, h⟩ := Option.bind_eq_some_iff.mp h
    obtain ⟨smtpPassword, hSmtpPassword, h⟩ := Option.bind_eq_some_iff.mp h
    obtain ⟨useTls, hUseTls, h⟩ := Option.bind_eq_some_iff.mp h
    obtain ⟨webhookUrl, hWebhookUrl, h⟩ := Option.bind_eq_some_iff.mp h
    obtain ⟨slackChannel, hSlackChannel, h⟩ := Option.bind_eq_some_iff.mp h
    obtain ⟨username, hUsername, h⟩ := Option.bind_eq_some_iff.mp h
    obtain ⟨routingKey, hRoutingKey, h⟩ := Option.bind_eq_some_iff.mp h
    obtain ⟨templates, hTemplates, h⟩ := Option.bind_eq_some_iff.mp h
    obtain ⟨minSeverity, hMinSeverity, h⟩ := Option.bind_eq_some_iff.mp h
    obtain ⟨feedbackType, hFeedbackType, h⟩ := Option.bind_eq_some_iff.mp h
    cases h
    exact ⟨hRecipients, hFromAddress, hSmtpHost, hSmtpPort, hSmtpUsername, hSmtpPassword, hUseTls,
      hWebhookUrl, hSlackChannel, hUsername, hRoutingKey, hTemplates, hMinSeverity, hFeedbackType⟩
  · rintro ⟨hRecipients, hFromAddress, hSmtpHost, hSmtpPort, hSmtpUsername, hSmtpPassword, hUseTls,
      hWebhookUrl, hSlackChannel, hUsername, hRoutingKey, hTemplates, hMinSeverity, hFeedbackType⟩
    rw [hRead, Option.bind_eq_bind, Option.bind_some, hRecipients, hFromAddress, hSmtpHost,
      hSmtpPort, hSmtpUsername, hSmtpPassword, hUseTls, hWebhookUrl, hSlackChannel, hUsername,
      hRoutingKey, hTemplates, hMinSeverity, hFeedbackType]
    rfl

theorem read?_toJson_iff {c : ChannelConfig} :
    read? (.ofJson c.toJson) = some c ↔ ∀ n ∈ c.smtpPort, n < UInt16.size := by
  obtain ⟨r, hRead, hFields⟩ := exists_record c
  simp only [slots, List.forall_mem_cons] at hFields
  obtain ⟨recipients, useTls, fromAddress, smtpHost, smtpPort, smtpUsername, smtpPassword,
    webhookUrl, slackChannel, username, routingKey, templates, minSeverity, feedbackType, -⟩ :=
    hFields
  have hText {name : String} {text : Option String}
      (field : r.field? name = (text.map Json.string).map .ofJson) :
      r.optional name Document.string? = some text :=
    (Record.optional_eq_some_iff field rfl).mpr fun _ _ => rfl
  have hRecipients : r.withDefault "recipients" (Document.listWith? Document.string?) [] =
      some c.recipients :=
    (Record.withDefault_eq_some_iff recipients).mpr (Document.listWith?_ofTexts c.recipients)
  have hUseTls : r.withDefault "useTls" Document.bool? false = some c.useTls :=
    (Record.withDefault_eq_some_iff useTls).mpr rfl
  have hTemplates : r.optional "templates" MessageTemplates.read? = some c.templates :=
    (Record.optional_eq_some_iff templates rfl).mpr fun t _ => t.read?_toJson
  have hMinSeverity : r.optional "minSeverity" Severity.read? = some c.minSeverity :=
    (Record.optional_eq_some_iff minSeverity rfl).mpr fun s _ => s.ofName?_name
  have hFeedbackType : r.optional "feedbackType" FeedbackType.read? = some c.feedbackType :=
    (Record.optional_eq_some_iff feedbackType rfl).mpr fun t _ => t.ofName?_name
  rw [read?_eq_some_iff hRead, Record.optional_eq_some_iff smtpPort rfl]
  simp only [Document.nat?_ofJson_iff]
  constructor
  · rintro ⟨-, -, -, port, -⟩
    exact port
  · intro port
    exact ⟨hRecipients, hText fromAddress, hText smtpHost, port, hText smtpUsername,
      hText smtpPassword, hUseTls, hText webhookUrl, hText slackChannel, hText username,
      hText routingKey, hTemplates, hMinSeverity, hFeedbackType⟩

end ChannelConfig

namespace Channel

def slots (c : Channel) : List (String × Option Json) :=
  [("id", some (.string c.id)), ("name", some (.string c.name)),
    ("type", some (.string c.type.name)), ("enabled", some (.bool c.enabled)),
    ("config", some c.config.toJson)]

theorem toJson_eq (c : Channel) : c.toJson = .ofMembers (Json.present c.slots) := rfl

theorem read?_toJson_iff {c : Channel} :
    read? (.ofJson c.toJson) = some c ↔ ∀ n ∈ c.config.smtpPort, n < UInt16.size := by
  have distinct : ["id", "name", "type", "enabled", "config"].Nodup := by decide
  obtain ⟨r, hRead, hFields⟩ := Record.exists_read?_present c.slots [] distinct
    (List.Subset.refl _) fun _ _ => List.not_mem_nil
  rw [← toJson_eq] at hRead
  simp only [slots, List.forall_mem_cons] at hFields
  obtain ⟨id, name, type, enabled, config, -⟩ := hFields
  have hRead : Record.read? ["id", "name", "type", "enabled", "config"] [] (.ofJson c.toJson) =
      some r := hRead
  have hId : r.required "id" Document.string? = some c.id :=
    (Record.required_eq_some_iff id).mpr rfl
  have hName : r.required "name" Document.string? = some c.name :=
    (Record.required_eq_some_iff name).mpr rfl
  have hType : r.required "type" (Document.choice? ChannelType.ofName?) = some c.type :=
    (Record.required_eq_some_iff type).mpr c.type.ofName?_name
  have hEnabled : r.withDefault "enabled" Document.bool? true = some c.enabled :=
    (Record.withDefault_eq_some_iff enabled).mpr rfl
  have hConfig : r.withDefault "config" ChannelConfig.read? .empty = some c.config ↔
      ∀ n ∈ c.config.smtpPort, n < UInt16.size := by
    rw [Record.withDefault_eq_some_iff config]
    exact ChannelConfig.read?_toJson_iff
  rw [read?, hRead]
  simp only [hId, hName, hType, hEnabled, Option.bind_eq_bind, Option.bind_some]
  rw [← hConfig, Option.bind_eq_some_iff]
  constructor
  · rintro ⟨config, hConfig, h⟩
    have same : config = c.config := congrArg Channel.config (Option.some.inj h)
    rw [hConfig, same]
  · intro hConfig
    exact ⟨_, hConfig, rfl⟩

end Channel

/-- Alerts, anomalies, channels and rules come back from their JSON forms exactly if these have room
for what is in them: finite floats, a port of two bytes, a query and instants that are what their
texts are read as, and values in order, which are all that can be read. -/
theorem read?_toJson_iffs :
    (∀ a : Alert, Alert.read? (.ofJson a.toJson) = some a ↔ a.IsExact) ∧
    (∀ a : Anomaly, Anomaly.read? (.ofJson a.toJson) = some a ↔ a.IsFinite) ∧
    (∀ c : Channel, Channel.read? (.ofJson c.toJson) = some c ↔
      ∀ n ∈ c.config.smtpPort, n < UInt16.size) ∧
    (∀ r : Rule, Rule.read? (.ofJson r.toJson) = some r ↔ ∀ c ∈ r.kind.condition?,
      c.threshold.isFinite ∧ Query.parse c.query.text = .ok c.query) ∧
    ∀ v : Json, (∃ d : Document, d.toJson? = some v) ↔ v.IsOrdered :=
  ⟨fun _ => Alert.read?_toJson_iff, fun _ => Anomaly.read?_toJson_iff,
    fun _ => Channel.read?_toJson_iff, fun _ => Rule.read?_toJson_iff,
    fun _ => Document.exists_toJson?_iff⟩

end MetricAlerts
