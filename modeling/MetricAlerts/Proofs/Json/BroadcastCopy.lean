import Mathlib.Data.List.Nodup
import MetricAlerts.BroadcastCopy
import MetricAlerts.Proofs.Json.Alert

/-! The copy of an alert for clients: what it shows for the metrics stands in their place in the
JSON form of the alert, and the copy is read as the alert with what it shows
(`read?_broadcastCopy`). -/

namespace MetricAlerts

namespace Alert

variable {a : Alert}

/-- A member with `metrics` for its value if it is the one for the metrics. -/
def showing (metrics : Json) (name : String) (value : Json) : Json :=
  if name = "metrics" then metrics else value

theorem map_showing_of_notMem {members : List (String × Json)} (h : "metrics" ∉ keys members)
    (metrics : Json) : (members.map fun m => (m.1, showing metrics m.1 m.2)) = members := by
  conv => rhs; rw [← List.map_id members]
  refine List.map_congr_left fun m hm => ?_
  have other : m.1 ≠ "metrics" := fun same => h (List.mem_map.mpr ⟨m, hm, same⟩)
  rw [showing, if_neg other]
  rfl

theorem members_showing (a : Alert) (metrics : Json) : ({ a with metrics } : Alert).members =
    a.members.map fun m => (m.1, showing metrics m.1 m.2) := by
  have hOptional (name : String) (h : name ≠ "metrics") (value : Option Json) :
      (Json.optional name value).map (fun m => (m.1, showing metrics m.1 m.2)) =
        Json.optional name value := by
    cases value <;> simp [Json.optional, showing, h]
  simp (disch := decide) only [members, List.map_append, List.map_cons, List.map_nil, hOptional]
  simp [showing]

theorem lookup?_metrics (a : Alert) :
    lookup? "metrics" (sortEntries a.members) = some a.metrics := by
  have distinct : (keys a.slots).Nodup := by
    rw [keys_slots]
    decide
  rw [lookup?_sortEntries, members_eq, Json.lookup?_present distinct]
  rfl

/-- Whatever the metrics of an alert are, its JSON form has the same members around them. -/
theorem exists_around_metrics (a : Alert) : ∃ before after, "metrics" ∉ keys (before ++ after) ∧
    ∀ metrics, ({ a with metrics } : Alert).toJson =
      .object (before ++ ("metrics", metrics) :: after) := by
  obtain ⟨before, after, hSplit, -⟩ := exists_split_of_lookup? a.lookup?_metrics
  have distinct : (keys (before ++ ("metrics", a.metrics) :: after)).Nodup :=
    hSplit ▸ (increasing_sortEntries a.members).keys_nodup
  rw [keys_append, keys_cons, List.nodup_middle, ← keys_append] at distinct
  have notMem : "metrics" ∉ keys (before ++ after) := (List.nodup_cons.mp distinct).1
  refine ⟨before, after, notMem, fun metrics => ?_⟩
  rw [keys_append, List.mem_append, not_or] at notMem
  rw [toJson, Json.ofMembers, members_showing, sortEntries_map, hSplit, List.map_append,
    List.map_cons, map_showing_of_notMem notMem.1, map_showing_of_notMem notMem.2]
  rfl

/-- What a copy shows for the metrics. -/
def shownMetrics (maxBytes : Nat) (a : Alert) : Json :=
  if a.metrics.byteSize ≤ maxBytes then a.metrics else oversizedMetrics a.metrics.byteSize

/-- A copy is the JSON form of the alert with what is shown for its metrics. -/
theorem broadcastCopy_eq (maxBytes : Nat) (a : Alert) :
    a.broadcastCopy maxBytes = ({ a with metrics := a.shownMetrics maxBytes } : Alert).toJson := by
  have increasing := increasing_sortEntries ({ a with metrics := .null } : Alert).members
  obtain ⟨before, after, -, hAround⟩ := a.exists_around_metrics
  have hMembers : sortEntries ({ a with metrics := .null } : Alert).members =
      before ++ ("metrics", .null) :: after := Json.object.inj (hAround .null)
  rw [hMembers] at increasing
  rw [broadcastCopy, hAround, hAround, Json.insert_object, insertEntry_of_split increasing]
  rfl

theorem isOrdered_shownMetrics (ordered : a.metrics.IsOrdered) (maxBytes : Nat) :
    (a.shownMetrics maxBytes).IsOrdered := by
  rw [shownMetrics]
  split
  · exact ordered
  · simp only [oversizedMetrics, Json.IsOrdered, Json.MembersOrdered, and_true]
    have names : "bytes" < "error" := by decide
    exact List.pairwise_pair.mpr names

/-- A copy is read as the alert itself if the text of its metrics has at most `maxBytes` bytes, and
else as the alert with a mark that tells how many they are. Around the metrics it has the members
that the JSON form of the alert has. -/
theorem read?_broadcastCopy {a : Alert} (wellFormed : a.IsWellFormed) (finite : a.IsFinite)
    (maxBytes : Nat) :
    let size := a.metrics.compact.toUTF8.size
    let shown := if size ≤ maxBytes then a.metrics else
      .object [("bytes", .int size), ("error", .string "metrics too large to broadcast")]
    read? (.ofJson (a.broadcastCopy maxBytes)) = some { a with metrics := shown } ∧
      ∃ before after, "metrics" ∉ keys (before ++ after) ∧
        a.toJson = .object (before ++ ("metrics", a.metrics) :: after) ∧
        a.broadcastCopy maxBytes = .object (before ++ ("metrics", shown) :: after) := by
  intro size shown
  have hCopy : a.broadcastCopy maxBytes = ({ a with metrics := shown } : Alert).toJson :=
    a.broadcastCopy_eq maxBytes
  have ordered : shown.IsOrdered := a.isOrdered_shownMetrics wellFormed.metrics maxBytes
  have exact : ({ a with metrics := shown } : Alert).IsExact := isExact_iff.mpr
    ⟨⟨ordered, wellFormed.annotations, wellFormed.times⟩, finite.value, finite.anomaly⟩
  obtain ⟨before, after, notMem, hAround⟩ := a.exists_around_metrics
  refine ⟨?_, before, after, notMem, hAround a.metrics, ?_⟩
  · rw [hCopy]
    exact read?_toJson_iff.mpr exact
  · rw [hCopy]
    exact hAround shown

/-- An alert with a number, a character of two bytes and a line break in its metrics. -/
def roomAlert : Alert where
  id := "first"
  ruleId := "room"
  ruleName := "Room"
  severity := .warning
  status := .acknowledged
  startsAt := ⟨1700000000, 250000000⟩
  resolvedAt := none
  acknowledgedAt := some ⟨1700000060, 0⟩
  resolutionReason := none
  value := none
  metrics := .object [("Küche", .array [.int (-4), .string "\n"])]
  labels := .empty
  annotations := .ofList [("summary", .string "cold")]
  source := "house"
  anomalyDetails := none
  explanation := none

/-- The metrics take 20 bytes: a limit of 20 leaves them, and one of 19 does not. -/
theorem read?_broadcastCopy_roomAlert :
    read? (.ofJson (roomAlert.broadcastCopy 20)) = some roomAlert ∧
      read? (.ofJson (roomAlert.broadcastCopy 19)) = some { roomAlert with
        metrics := .object
          [("bytes", .int 20), ("error", .string "metrics too large to broadcast")] } := by
  have hSize : roomAlert.metrics.compact.toUTF8.size = 20 := by decide +kernel
  have wellFormed : roomAlert.IsWellFormed := {
    metrics := by
      simp [roomAlert, Json.IsOrdered, Json.MembersOrdered, Json.ItemsOrdered, Increasing]
    annotations := by
      simp [roomAlert, Dict.entries_ofList, sortEntries, insertEntry, Json.IsOrdered]
    times := by decide }
  have finite : roomAlert.IsFinite := ⟨by simp [roomAlert], by simp [roomAlert]⟩
  obtain ⟨small, -⟩ := read?_broadcastCopy wellFormed finite 20
  obtain ⟨large, -⟩ := read?_broadcastCopy wellFormed finite 19
  rw [hSize] at small large
  exact ⟨small, large⟩

end Alert

end MetricAlerts
