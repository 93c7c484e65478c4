import MetricAlerts.Proofs.Engine.Operations
import MetricAlerts.Proofs.Store.Supersession

/-! The alerts that a check raises. They join the anomaly alerts of the rule at the end of a row of
which only the last ones are kept: where there is no room left, the first of these leaves for each
alert that joins. -/

namespace MetricAlerts

/-! ### Rows -/

section Rows

variable {α : Type} {limit place : Nat} {row : List α}

/-- The one that leaves when another one comes to its place in a row of which no more than a limit
are kept. -/
def leaver? (limit : Nat) (row : List α) (place : Nat) : Option α :=
  if place < limit then none else row[place - limit]?

theorem leaver?_append (inside : place < row.length) (more : List α) :
    leaver? limit (row ++ more) place = leaver? limit row place := by
  rw [leaver?, leaver?, List.getElem?_append_left (Nat.lt_of_le_of_lt (Nat.sub_le ..) inside)]

/-- Who leaves for those that join later can be told from those that are kept. -/
theorem leaver?_lastEntries (limit : Nat) (row more : List α) (i : Nat) :
    leaver? limit (lastEntries limit row ++ more) ((lastEntries limit row).length + i) =
      leaver? limit (row ++ more) (row.length + i) := by
  obtain room | full := Nat.le_total row.length limit
  · rw [lastEntries, Nat.sub_eq_zero_of_le room, List.drop_zero]
  · have kept : (lastEntries limit row).length = limit := by
      rw [length_lastEntries, Nat.min_eq_left full]
    have place : row.length + i - limit = row.length - limit + i := by omega
    rw [leaver?, leaver?, kept, if_neg (by omega), if_neg (by omega), Nat.add_sub_cancel_left,
      place, lastEntries, ← List.drop_append_of_le_length (Nat.sub_le ..), List.getElem?_drop]

/-- The last one is kept. -/
theorem mem_lastEntries_concat {last : α} (room : 0 < limit) :
    last ∈ lastEntries limit (row ++ [last]) := by
  rw [lastEntries, List.length_append, List.length_singleton,
    List.drop_append_of_le_length (by omega)]
  exact List.mem_append_right _ List.mem_cons_self

end Rows

section Arrivals

open AlertStore (resolvedCopy supersededReason)

variable {limit : Nat} {clock : Nat → Timestamp} {olds news : List Alert} {new : Alert}

/-- What is announced when an alert comes to its place in a row: the one that leaves, and then the
alert itself. -/
def arrival (limit : Nat) (row : List Alert) (place : Nat) (now : Timestamp) (new : Alert) :
    List Event :=
  ((leaver? limit row place).map fun old =>
    .resolved (resolvedCopy old supersededReason now)).toList ++ [.created new]

/-- What is announced when one alert after another joins those that are there. -/
def arrivals (limit : Nat) (clock : Nat → Timestamp) (olds news : List Alert) : List Event :=
  news.zipIdx.flatMap fun (new, i) =>
    arrival limit (olds ++ news) (olds.length + i) (clock i) new

/-- The first alert joins those that are there, and the others those that are kept then. -/
theorem arrivals_cons (limit : Nat) (clock : Nat → Timestamp) (olds : List Alert) (new : Alert)
    (news : List Alert) :
    arrivals limit clock olds (new :: news) =
      arrival limit (olds ++ [new]) olds.length (clock 0) new ++
        arrivals limit (fun i => clock (i + 1)) (lastEntries limit (olds ++ [new])) news := by
  have row : olds ++ new :: news = olds ++ [new] ++ news := by simp
  have inside : olds.length < (olds ++ [new]).length := by simp
  rw [arrivals, List.zipIdx_cons', List.flatMap_cons, List.flatMap_map, arrivals, row]
  congr 1
  · show arrival limit (olds ++ [new] ++ news) olds.length (clock 0) new = _
    rw [arrival, leaver?_append inside, arrival]
  · refine congrArg List.flatten (List.map_congr_left fun (later, i) _ => ?_)
    have place : olds.length + (i + 1) = (olds ++ [new]).length + i := by
      rw [List.length_append, List.length_singleton]
      omega
    show arrival limit (olds ++ [new] ++ news) (olds.length + (i + 1)) (clock (i + 1)) later = _
    rw [arrival, place, ← leaver?_lastEntries]
    rfl

theorem filter_isCreated_arrivals (limit : Nat) (clock : Nat → Timestamp)
    (olds news : List Alert) :
    (arrivals limit clock olds news).filter Event.isCreated = news.map .created := by
  induction news generalizing clock olds with
  | nil => rfl
  | cons new news ih =>
    rw [arrivals_cons, List.filter_append, ih, arrival]
    cases leaver? limit (olds ++ [new]) olds.length <;> rfl

/-- As many leave as there is no room for. -/
theorem countP_isResolved_arrivals (room : olds.length ≤ limit) (clock : Nat → Timestamp)
    (news : List Alert) :
    (arrivals limit clock olds news).countP Event.isResolved =
      olds.length + news.length - limit := by
  induction news generalizing clock olds with
  | nil => exact (Nat.sub_eq_zero_of_le room).symm
  | cons new news ih =>
    have first : (arrival limit (olds ++ [new]) olds.length (clock 0) new).countP
        Event.isResolved = if olds.length < limit then 0 else 1 := by
      rw [arrival, leaver?]
      split
      · rfl
      · rw [Nat.sub_eq_zero_of_le room]
        cases olds <;> rfl
    rw [arrivals_cons, List.countP_append, first, ih (length_lastEntries_le _ _),
      length_lastEntries, List.length_append, List.length_singleton, List.length_cons]
    split <;> omega

end Arrivals

/-- An alert that has just been raised for an anomaly that a check has found. -/
structure Alert.TellsOf (check : AnomalyCheck) (source : String) (anomaly : Anomaly) (a : Alert) :
    Prop where
  isNew : a.IsNew
  ruleId : a.ruleId = check.rule.id
  source : a.source = source
  severity : a.severity = anomaly.severity
  value : a.value = anomaly.value
  explanation : a.explanation = some anomaly.description
  anomalyDetails : a.anomalyDetails = some anomaly
  metrics : a.metrics = check.subset

theorem Alert.tellsOf_ofAnomaly (check : AnomalyCheck) (source : String) (anomaly : Anomaly)
    (id : String) (now : Timestamp) :
    (Alert.ofAnomaly check.rule source anomaly check.subset id now).TellsOf check source anomaly :=
  ⟨isNew_ofAnomaly .., rfl, rfl, rfl, rfl, rfl, rfl, rfl⟩

namespace Engine

variable {e : Engine} {check : AnomalyCheck} {source : String} {anomaly : Anomaly}
  {anomalies : List Anomaly}

/-- The alert that is raised for an anomaly. -/
def newAlert (e : Engine) (check : AnomalyCheck) (source : String) (anomaly : Anomaly) : Alert :=
  .ofAnomaly check.rule source anomaly check.subset e.nextId e.now

theorem raiseAnomalies_cons (e : Engine) (check : AnomalyCheck) (source : String)
    (anomaly : Anomaly) (anomalies : List Anomaly) :
    raiseAnomalies check source (anomaly :: anomalies) e =
      (e.newAlert check source anomaly ::
          (raiseAnomalies check source anomalies (e.after (.raise check source anomaly))).1,
        (raiseAnomalies check source anomalies (e.after (.raise check source anomaly))).2) := by
  have first : (e.storeCreateAnomaly check.rule source anomaly check.subset).1 =
      e.newAlert check source anomaly := AlertStore.createAnomaly_fst ..
  rw [← first]
  rfl

theorem raiseAnomalies_append (e : Engine) (check : AnomalyCheck) (source : String)
    (first later : List Anomaly) :
    let middle := raiseAnomalies check source first e
    raiseAnomalies check source (first ++ later) e =
      (middle.1 ++ (raiseAnomalies check source later middle.2).1,
        (raiseAnomalies check source later middle.2).2) := by
  induction first generalizing e with
  | nil => rfl
  | cons anomaly anomalies ih =>
    simp only [List.cons_append, raiseAnomalies_cons, ih]

theorem events_raiseAnomalies_grow (e : Engine) (check : AnomalyCheck) (source : String)
    (anomalies : List Anomaly) :
    e.events <+: (raiseAnomalies check source anomalies e).2.events := by
  induction anomalies generalizing e with
  | nil => exact List.prefix_rfl
  | cons anomaly anomalies ih =>
    have first : e.events <+: (e.after (.raise check source anomaly)).events := by
      simp only [after, raiseAnomalies, storeCreateAnomaly]
      split <;> simp only [events_publish, List.append_assoc] <;> exact List.prefix_append ..
    rw [raiseAnomalies_cons]
    exact first.trans (ih _)

theorem readings_raise (e : Engine) (check : AnomalyCheck) (source : String) (anomaly : Anomaly) :
    (e.after (.raise check source anomaly)).environment = e.environment ∧
      (e.after (.raise check source anomaly)).readings = e.readings + 2 := by
  simp only [after, raiseAnomalies, storeCreateAnomaly]
  split <;> exact ⟨rfl, rfl⟩

/-- The new alert joins the anomaly alerts of the rule. -/
theorem events_raise (h : e.alerts.Orderly) (unused : e.alerts.IsUnused e.nextId)
    (latest : ∀ entry ∈ e.alerts.active, entry.2.startsAt < e.now) (check : AnomalyCheck)
    (source : String) (anomaly : Anomaly) :
    let olds := e.alerts.anomaliesOf check.rule.id
    let new := e.newAlert check source anomaly
    (e.after (.raise check source anomaly)).events = e.events ++
      arrival e.alerts.anomalyLimit (olds ++ [new]) olds.length e.tick.now new := by
  intro olds new
  simp only [after, raiseAnomalies, storeCreateAnomaly, arrival]
  obtain ⟨less, eq⟩ | ⟨before, old, rest, split, full, first, ofRule, eq⟩ :=
    h.createAnomaly_cases unused latest check.rule source anomaly check.subset e.tick.now
  · rw [eq, leaver?, if_pos less]
    exact events_publish ..
  · have hOlds : olds = old :: _ := AlertStore.anomaliesOf_of_split split first ofRule
    have leaves : leaver? e.alerts.anomalyLimit (olds ++ [new]) olds.length = some old := by
      rw [leaver?, if_neg (Nat.not_lt_of_ge (Nat.le_of_eq full.symm)), full, Nat.sub_self, hOlds]
      rfl
    rw [eq, leaves]
    simp only [events_publish]
    rw [List.append_assoc]
    rfl

/-- From the one engine to the other alerts have been raised for anomalies, and have joined the
anomaly alerts of the rule. -/
structure LinesUp (check : AnomalyCheck) (source : String) (anomalies : List Anomaly) (e : Engine)
    (alerts : List Alert) (e' : Engine) : Prop where
  tells : anomalies.Forall₂ (Alert.TellsOf check source) alerts
  events : e'.events = e.events ++ arrivals e.alerts.anomalyLimit
    (fun i => e.environment.clock (e.readings + 2 * i + 1)) (e.alerts.anomaliesOf check.rule.id)
    alerts
  kept : e'.alerts.anomaliesOf check.rule.id =
    lastEntries e.alerts.anomalyLimit (e.alerts.anomaliesOf check.rule.id ++ alerts)
  sorted : (e.alerts.anomaliesOf check.rule.id ++ alerts).Pairwise
    fun a b => a.startsAt < b.startsAt

/-- The alert for an anomaly joins first, and those for the others join what is kept then. It is
kept itself, so that the others start after it, and it starts after all that have been there. -/
theorem LinesUp.cons {alerts : List Alert} {e' : Engine} (h : e.alerts.Orderly)
    (unused : e.alerts.IsUnused e.nextId)
    (latest : ∀ entry ∈ e.alerts.active, entry.2.startsAt < e.now)
    (rest : LinesUp check source anomalies (e.after (.raise check source anomaly)) alerts e') :
    LinesUp check source (anomaly :: anomalies) e (e.newAlert check source anomaly :: alerts)
      e' := by
  have hAlerts := e.alerts_raise check source anomaly
  have hKept : (e.after (.raise check source anomaly)).alerts.anomaliesOf check.rule.id =
      lastEntries e.alerts.anomalyLimit
        (e.alerts.anomaliesOf check.rule.id ++ [e.newAlert check source anomaly]) := by
    rw [hAlerts]
    exact h.anomaliesOf_createAnomaly unused latest
  have hLimit : (e.after (.raise check source anomaly)).alerts.anomalyLimit =
      e.alerts.anomalyLimit := by
    have fresh : (AlertStore.Operation.createAnomaly check.rule source anomaly check.subset
        e.nextId e.now e.tick.now).IsFresh e.alerts := unused
    rw [hAlerts]
    exact (AlertStore.limits_after h.sound fresh).2
  obtain ⟨hEnvironment, hReadings⟩ := readings_raise e check source anomaly
  refine ⟨.cons (Alert.tellsOf_ofAnomaly ..) rest.tells, ?_, ?_, ?_⟩
  · have hClock : (fun i => e.environment.clock (e.readings + 2 + 2 * i + 1)) =
        fun i => e.environment.clock (e.readings + 2 * (i + 1) + 1) := by
      funext i
      rw [Nat.mul_succ, Nat.add_right_comm e.readings, ← Nat.add_assoc]
    rw [rest.events, events_raise h unused latest, hKept, hLimit, hEnvironment, hReadings, hClock,
      List.append_assoc, arrivals_cons]
    rfl
  · rw [rest.kept, hKept, hLimit, lastEntries_append, List.append_assoc]
    rfl
  · have hSorted := rest.sorted
    rw [hKept, List.pairwise_append] at hSorted
    have after : ∀ b ∈ alerts, e.now < b.startsAt :=
      hSorted.2.2 _ (mem_lastEntries_concat h.sound.limits_pos.2)
    have before : ∀ a ∈ e.alerts.anomaliesOf check.rule.id, a.startsAt < e.now := by
      intro a mem
      obtain ⟨⟨entry, hEntry, rfl⟩, -⟩ := AlertStore.mem_anomaliesOf_iff.mp mem
      exact latest entry hEntry
    refine List.pairwise_append.mpr ⟨h.chronological.pairwise_anomaliesOf _,
      List.pairwise_cons.mpr ⟨after, hSorted.2.1⟩, fun a old => List.forall_mem_cons.mpr
        ⟨before a old, fun b new => ?_⟩⟩
    exact Timestamp.lt_of_not_lt_of_lt (Timestamp.lt_asymm (before a old)) (after b new)

/-- A check raises one alert for each anomaly, in order. -/
theorem linesUp_raiseAnomalies (h : e.alerts.Orderly)
    (fresh : AlertStore.IsFreshRun e.alerts (e.operations (anomalies.map (.raise check source))))
    (timely : AlertStore.IsTimelyRun e.alerts
      (e.operations (anomalies.map (.raise check source)))) :
    LinesUp check source anomalies e (raiseAnomalies check source anomalies e).1
      (raiseAnomalies check source anomalies e).2 := by
  induction anomalies generalizing e with
  | nil =>
    have kept : lastEntries e.alerts.anomalyLimit (e.alerts.anomaliesOf check.rule.id) =
        e.alerts.anomaliesOf check.rule.id := by
      rw [lastEntries, Nat.sub_eq_zero_of_le (h.length_anomaliesOf_le _), List.drop_zero]
    refine ⟨.nil, (List.append_nil _).symm, ?_, ?_⟩
    · rw [raiseAnomalies, List.append_nil, kept]
    · rw [raiseAnomalies, List.append_nil]
      exact h.chronological.pairwise_anomaliesOf _
  | cons anomaly anomalies ih =>
    have hAlerts := e.alerts_after (.raise check source anomaly)
    obtain ⟨unused, fresh⟩ := fresh
    obtain ⟨latest, timely⟩ := timely
    have orderly := h.after unused latest
    rw [raiseAnomalies_cons]
    exact .cons h unused (AlertStore.isTimely_createAnomaly_iff.mp latest)
      (ih (hAlerts ▸ orderly) (hAlerts ▸ fresh) (hAlerts ▸ timely))

end Engine

end MetricAlerts
