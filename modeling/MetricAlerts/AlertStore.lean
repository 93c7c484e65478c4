import MetricAlerts.Alert

/-! The active alerts and the bounded history of all alerts. -/

namespace MetricAlerts

/-- Active alerts are kept under the id of their rule, or under their own id where the rule reports
anomalies. The history holds the newest copies last. -/
structure AlertStore where
  historyLimit : Nat
  anomalyLimit : Nat
  active : List (String × Alert)
  history : List Alert

/-- What became of the wish for a new alert. -/
inductive CreateOutcome where
  | created (alert : Alert)
  /-- The rule has an active alert already. -/
  | existing (alert : Alert)

/-- The last `n` entries of a list. -/
def lastEntries {α : Type} (n : Nat) (l : List α) : List α := l.drop (l.length - n)

namespace AlertStore

/-- Why an old anomaly alert is resolved when a rule has too many of them. -/
def supersededReason : String := "superseded by newer anomaly"

/-- An empty store. It keeps at least one entry of history and one anomaly alert a rule. -/
def empty (historyLimit anomalyLimit : Nat) : AlertStore where
  historyLimit := max historyLimit 1
  anomalyLimit := max anomalyLimit 1
  active := []
  history := []

/-- The entries with an alert under a key, in the place of what was there or at the end. -/
def setEntry (key : String) (alert : Alert) : List (String × Alert) → List (String × Alert)
  | [] => [(key, alert)]
  | entry :: entries =>
    if entry.1 = key then (key, alert) :: entries else entry :: setEntry key alert entries

/-- The key of the active alert that a key or an alert id names; a key comes first. -/
def keyOf? (s : AlertStore) (name : String) : Option String :=
  if (lookup? name s.active).isSome then some name
  else (s.active.find? fun e => e.2.id == name).map Prod.fst

/-- The store with one more copy in its history. -/
def remember (s : AlertStore) (alert : Alert) : AlertStore :=
  { s with history := lastEntries s.historyLimit (s.history ++ [alert]) }

/-- A resolved copy of an alert. -/
def resolvedCopy (alert : Alert) (reason : String) (now : Timestamp) : Alert :=
  { alert with status := .resolved, resolvedAt := some now, resolutionReason := some reason }

/-- The store without the alert under a key, whose resolved copy goes to the history. -/
def resolveKey? (s : AlertStore) (key reason : String) (now : Timestamp) :
    Option (Alert × AlertStore) :=
  (lookup? key s.active).map fun alert =>
    let resolved := resolvedCopy alert reason now
    (resolved, { s with active := s.active.filter fun e => e.1 != key }.remember resolved)

/-- A new alert of a rule under the id of the rule, unless something is active under it. -/
def create (s : AlertStore) (rule : Rule) (source : String) (value : Float) (metrics : Json)
    (id : String) (now : Timestamp) : CreateOutcome × AlertStore :=
  match lookup? rule.id s.active with
  | some existing => (.existing existing, s)
  | none =>
    let alert := Alert.ofRule rule source value metrics id now
    (.created alert, { s with active := setEntry rule.id alert s.active }.remember alert)

/-- The anomaly alerts of a rule, which are kept under their own ids. -/
def anomalyAlerts (s : AlertStore) (ruleId : String) : List Alert :=
  (s.active.filter fun e => e.2.ruleId == ruleId && e.1 == e.2.id).map Prod.snd

/-- The earliest of the given alerts. -/
def earliest? : List Alert → Option Alert
  | [] => none
  | alert :: alerts =>
    match earliest? alerts with
    | some other => if other.startsAt < alert.startsAt then some other else some alert
    | none => some alert

/-- The id of the oldest anomaly alert of a rule that has more of them than allowed. -/
def surplusAnomaly? (s : AlertStore) (ruleId : String) : Option String :=
  let alerts := s.anomalyAlerts ruleId
  if alerts.length ≤ s.anomalyLimit then none else (earliest? alerts).map Alert.id

/-- A new alert for an anomaly, which is kept under its own id. The oldest one of its rule is
resolved at the time `later` if there are too many then. -/
def createAnomaly (s : AlertStore) (rule : Rule) (source : String) (anomaly : Anomaly)
    (metrics : Json) (id : String) (now later : Timestamp) : Alert × Option Alert × AlertStore :=
  let alert := Alert.ofAnomaly rule source anomaly metrics id now
  let s := { s with active := setEntry alert.id alert s.active }.remember alert
  match (s.surplusAnomaly? rule.id).bind fun key => s.resolveKey? key supersededReason later with
  | some (superseded, s) => (alert, some superseded, s)
  | none => (alert, none, s)

/-- The store without the alert that a key or an id names, which is resolved. -/
def resolve? (s : AlertStore) (name reason : String) (now : Timestamp) :
    Option (Alert × AlertStore) :=
  (s.keyOf? name).bind fun key => s.resolveKey? key reason now

/-- The same for the alert that is kept under the id of a rule. -/
def resolveRule? (s : AlertStore) (ruleId reason : String) (now : Timestamp) :
    Option (Alert × AlertStore) :=
  if (lookup? ruleId s.active).isSome then s.resolve? ruleId reason now else none

/-- The store in which a change has been made to the alert that a key or an id names. -/
def change? (s : AlertStore) (name : String) (f : Alert → Alert) : Option (Alert × AlertStore) :=
  (s.keyOf? name).bind fun key =>
    (lookup? key s.active).map fun alert =>
      (f alert, { s with active := setEntry key (f alert) s.active })

/-- An alert that somebody has taken notice of, at `now` unless that was so before. -/
def acknowledgedCopy (now : Timestamp) (alert : Alert) : Alert :=
  if alert.status = .acknowledged then alert
  else { alert with status := .acknowledged, acknowledgedAt := some now }

def acknowledge? (s : AlertStore) (name : String) (now : Timestamp) : Option (Alert × AlertStore) :=
  s.change? name (acknowledgedCopy now)

/-- An alert with further annotations, which take the place of those with the same keys. -/
def annotatedCopy (fields : Dict Json) (alert : Alert) : Alert :=
  { alert with annotations := alert.annotations.insertAll fields.entries }

def mergeAnnotations? (s : AlertStore) (name : String) (fields : Dict Json) :
    Option (Alert × AlertStore) :=
  s.change? name (annotatedCopy fields)

/-- The active alert that a key or an id names. -/
def get? (s : AlertStore) (name : String) : Option Alert :=
  (s.keyOf? name).bind fun key => lookup? key s.active

/-- The active alerts, the oldest first. -/
def activeAlerts (s : AlertStore) : List Alert :=
  (s.active.map Prod.snd).mergeSort fun a b => !decide (b.startsAt < a.startsAt)

def activeCount (s : AlertStore) : Nat := s.active.length

/-- The last `limit` entries of the history, the oldest first. -/
def getHistory (s : AlertStore) (limit : Nat) : List Alert := lastEntries limit s.history

/-- The last `n` entries of the history, the newest first. -/
def recentHistory (s : AlertStore) (n : Nat) : List Alert := s.history.reverse.take n

/-- The store without alerts and history. -/
def clear (s : AlertStore) : AlertStore := { s with active := [], history := [] }

end AlertStore

end MetricAlerts
