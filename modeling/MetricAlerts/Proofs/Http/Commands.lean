import MetricAlerts.Http.Service
import MetricAlerts.Proofs.Engine.Commands
import MetricAlerts.Proofs.System.Operations

/-! Requests to the service that carry commands of operators. A command that is refused is answered
with the status for its reason, and no request that is answered with an error changes anything. -/

namespace MetricAlerts

/-- The status that tells why a command was refused. -/
def Refusal.status : Refusal → Nat
  | .unknownAlert => 404
  | .definition (.notFound ..) => 404
  | .definition (.duplicateId ..) => 409
  | .definition (.idMismatch ..) => 400

namespace Http

variable {s s' : System} {r : Request} {resource : Resource} {method : Method} {command : Command}
  {refusal : Refusal} {e' : Engine}

/-- The reason for a resolution, where the request has a body that gives one. -/
def reasonOf (r : Request) : Option String :=
  match r.read reasonForm readReason? with
  | .ok reason => reason
  | .error _ => none

/-- The command in a request. -/
def command? (r : Request) : Resource → Method → Option Command
  | .acknowledgement name, .post => (unescaped? name).map .acknowledge
  | .resolution name, .post => (unescaped? name).map fun name => .resolve name (reasonOf r)
  | .rules, .post =>
    (r.read Rule.form Rule.read?).toOption.map fun rule => .change (.rule (.add rule))
  | .rule id, .put =>
    (unescaped? id).bind fun id =>
      (r.read Rule.form Rule.read?).toOption.map fun rule => .change (.rule (.update id rule))
  | .rule id, .delete => (unescaped? id).map fun id => .change (.rule (.delete id))
  | .channels, .post =>
    (r.read Channel.form Channel.read?).toOption.map fun channel =>
      .change (.channel (.add channel))
  | .channel id, .put =>
    (unescaped? id).bind fun id =>
      (r.read Channel.form Channel.read?).toOption.map fun channel =>
        .change (.channel (.update id channel))
  | .channel id, .delete => (unescaped? id).map fun id => .change (.channel (.delete id))
  | _, _ => none

/-- How a system answers a command. -/
structure Answers (s : System) (command : Command) (answer : Response × System) : Prop where
  refused : ∀ refusal, s.engine.execute command = .error refusal →
    answer.1.status = refusal.status ∧ answer.2 = s
  done : ∀ e', s.engine.execute command = .ok e' →
    answer.1.status < 300 ∧ answer.2 = s.withEngine e'

theorem answers_alert {changed : Option (Alert × Engine)}
    (h : s.engine.execute command = Engine.outcomeOf changed) :
    Answers s command (answerChange s changed) := by
  constructor
  · intro refusal refused
    rw [h] at refused
    obtain ⟨rfl, rfl⟩ := Engine.eq_none_of_outcomeOf refused
    exact ⟨rfl, rfl⟩
  · intro e' done
    rw [h] at done
    obtain ⟨a, rfl⟩ := Engine.exists_of_outcomeOf done
    exact ⟨(by decide : 200 < 300), rfl⟩

theorem answers_change {success : Response} {changed : Except DefinitionError Engine}
    (fine : success.status < 300) (h : s.engine.execute command = changed.mapError .definition) :
    Answers s command (answerDefinition s success changed) := by
  cases changed with
  | error error =>
    constructor
    · intro refusal refused
      rw [h] at refused
      cases refused
      cases error <;> exact ⟨rfl, rfl⟩
    · intro e' done
      rw [h] at done
      cases done
  | ok e =>
    constructor
    · intro refusal refused
      rw [h] at refused
      cases refused
    · intro e' done
      rw [h] at done
      cases done
      exact ⟨fine, rfl⟩

theorem withName_of_some {name : List Char} {n : String} (h : unescaped? name = some n)
    (answer : String → Response × System) : withName s name answer = answer n := by
  rw [withName, h]

theorem withBody_of_some {α : Type} {form : Json.Form} {read? : Document → Option α} {value : α}
    (h : (r.read form read?).toOption = some value) (answer : α → Response × System) :
    withBody s r form read? answer = answer value := by
  rw [withBody]
  cases hRead : r.read form read? with
  | ok found =>
    rw [hRead] at h
    cases h
    rfl
  | error fault =>
    rw [hRead] at h
    cases h

/-- A request that carries a command is answered as the command is. -/
theorem answers_perform (s : System) (h : command? r resource method = some command) :
    Answers s command (perform s r resource method) := by
  cases resource with
  | acknowledgement name =>
    cases method with
    | post =>
      obtain ⟨name, hName, rfl⟩ := Option.map_eq_some_iff.mp h
      rw [perform, withName_of_some hName]
      exact answers_alert rfl
    | _ => cases h
  | resolution name =>
    cases method with
    | post =>
      obtain ⟨name, hName, rfl⟩ := Option.map_eq_some_iff.mp h
      rw [perform, withName_of_some hName]
      exact answers_alert rfl
    | _ => cases h
  | rules =>
    cases method with
    | post =>
      obtain ⟨rule, hRule, rfl⟩ := Option.map_eq_some_iff.mp h
      rw [perform, withBody_of_some hRule]
      exact answers_change (by decide : 201 < 300) rfl
    | _ => cases h
  | rule id =>
    cases method with
    | put =>
      obtain ⟨id, hId, h⟩ := Option.bind_eq_some_iff.mp h
      obtain ⟨rule, hRule, rfl⟩ := Option.map_eq_some_iff.mp h
      rw [perform, withName_of_some hId, withBody_of_some hRule]
      exact answers_change (by decide : 200 < 300) rfl
    | delete =>
      obtain ⟨id, hId, rfl⟩ := Option.map_eq_some_iff.mp h
      rw [perform, withName_of_some hId]
      exact answers_change (by decide : 204 < 300) rfl
    | _ => cases h
  | channels =>
    cases method with
    | post =>
      obtain ⟨channel, hChannel, rfl⟩ := Option.map_eq_some_iff.mp h
      rw [perform, withBody_of_some hChannel]
      exact answers_change (by decide : 201 < 300) rfl
    | _ => cases h
  | channel id =>
    cases method with
    | put =>
      obtain ⟨id, hId, h⟩ := Option.bind_eq_some_iff.mp h
      obtain ⟨channel, hChannel, rfl⟩ := Option.map_eq_some_iff.mp h
      rw [perform, withName_of_some hId, withBody_of_some hChannel]
      exact answers_change (by decide : 200 < 300) rfl
    | delete =>
      obtain ⟨id, hId, rfl⟩ := Option.map_eq_some_iff.mp h
      rw [perform, withName_of_some hId]
      exact answers_change (by decide : 204 < 300) rfl
    | _ => cases h
  | _ => cases method <;> cases h

/-! Errors. -/

/-- An answer that is an error leaves the system as it was. -/
def IsHarmless (s : System) (answer : Response × System) : Prop :=
  400 ≤ answer.1.status → answer.2 = s

theorem isHarmless_self (s : System) (response : Response) : IsHarmless s (response, s) :=
  fun _ => rfl

theorem isHarmless_answerChange (s : System) (changed : Option (Alert × Engine)) :
    IsHarmless s (answerChange s changed) := by
  cases changed with
  | none => exact isHarmless_self s _
  | some result =>
    intro status
    exact absurd status (by decide : ¬400 ≤ 200)

theorem isHarmless_answerDefinition {success : Response} (fine : success.status < 400)
    (changed : Except DefinitionError Engine) :
    IsHarmless s (answerDefinition s success changed) := by
  cases changed with
  | error error => exact isHarmless_self s _
  | ok e =>
    intro status
    exact absurd status (Nat.not_le.mpr fine)

theorem isHarmless_withName {answer : String → Response × System}
    (h : ∀ name, IsHarmless s (answer name)) (name : List Char) :
    IsHarmless s (withName s name answer) := by
  rw [withName]
  split
  · exact h _
  · exact isHarmless_self s _

theorem isHarmless_withBody {α : Type} {answer : α → Response × System}
    (h : ∀ value, IsHarmless s (answer value)) (r : Request) (form : Json.Form)
    (read? : Document → Option α) : IsHarmless s (withBody s r form read? answer) := by
  rw [withBody]
  split
  · exact h _
  · exact isHarmless_self s _

theorem isHarmless_perform (s : System) (r : Request) (resource : Resource) (method : Method) :
    IsHarmless s (perform s r resource method) := by
  have hSelf (response : Response) : IsHarmless s (response, s) := isHarmless_self s response
  cases resource with
  | health | socket | activeAlerts => cases method <;> exact hSelf _
  | alertHistory =>
    cases method with
    | get =>
      rw [perform]
      split <;> exact hSelf _
    | _ => exact hSelf _
  | acknowledgement name =>
    cases method with
    | post => exact isHarmless_withName (fun _ => isHarmless_answerChange s _) name
    | _ => exact hSelf _
  | resolution name =>
    cases method with
    | post => exact isHarmless_withName (fun _ => isHarmless_answerChange s _) name
    | _ => exact hSelf _
  | rules =>
    cases method with
    | post =>
      exact isHarmless_withBody
        (fun _ => isHarmless_answerDefinition (by decide : 201 < 400) _) r _ _
    | _ => exact hSelf _
  | rule id =>
    cases method with
    | get => exact isHarmless_withName (fun _ => hSelf _) id
    | put =>
      exact isHarmless_withName (fun _ => isHarmless_withBody
        (fun _ => isHarmless_answerDefinition (by decide : 200 < 400) _) r _ _) id
    | delete =>
      exact isHarmless_withName
        (fun _ => isHarmless_answerDefinition (by decide : 204 < 400) _) id
    | _ => exact hSelf _
  | channels =>
    cases method with
    | post =>
      exact isHarmless_withBody
        (fun _ => isHarmless_answerDefinition (by decide : 201 < 400) _) r _ _
    | _ => exact hSelf _
  | channel id =>
    cases method with
    | get => exact isHarmless_withName (fun _ => hSelf _) id
    | put =>
      exact isHarmless_withName (fun _ => isHarmless_withBody
        (fun _ => isHarmless_answerDefinition (by decide : 200 < 400) _) r _ _) id
    | delete =>
      exact isHarmless_withName
        (fun _ => isHarmless_answerDefinition (by decide : 204 < 400) _) id
    | _ => exact hSelf _
  | metrics source =>
    cases method with
    | post =>
      refine isHarmless_withName
        (fun source => isHarmless_withBody (fun metrics status => ?_) r _ _) source
      exact absurd status (by decide : ¬400 ≤ 200)
    | _ => exact hSelf _

theorem isHarmless_respond (s : System) (r : Request) : IsHarmless s (respond s r) := by
  rw [respond]
  split
  · exact isHarmless_self s _
  · exact isHarmless_self s _
  · exact isHarmless_self s _
  · exact isHarmless_perform s r _ .get
  · exact isHarmless_perform s r _ _

/-- A command is refused exactly for its reasons, and what was done is told by exactly the events
that it should be told by. Over the service a refusal is answered with the status for its reason,
and every answer that is an error leaves the system as it was. -/
theorem commands_leave_no_trace (s : System) :
    (∀ command refusal,
      s.engine.execute command = .error refusal ↔ s.engine.Refuses command refusal) ∧
    (∀ command e', s.engine.execute command = .ok e' →
      ∃ published, s.engine.Reports command published ∧ e'.events = s.engine.events ++ published) ∧
    (∀ r resource method command, command? r resource method = some command →
      Answers s command (perform s r resource method)) ∧
    ∀ r, 400 ≤ (respond s r).1.status → (respond s r).2 = s :=
  ⟨fun _ _ => Engine.execute_eq_error_iff, fun _ _ => Engine.reports_of_execute,
    fun _ _ _ _ => answers_perform s, isHarmless_respond s⟩

/-- A system with one active alert, whose id is "first". -/
def diskSystem : System :=
  .initial (Engine.diskEngine.run [Engine.raiseDisk]) .neutral 1

def acknowledgeSecond : Request := ⟨.post, ⟨"/api/alerts/second/acknowledge".toList, []⟩, [], ""⟩

theorem commands_leave_no_trace_disk :
    diskSystem.engine.execute (.acknowledge "second") = .error .unknownAlert ∧
    (∃ e', diskSystem.engine.execute (.change (.rule (.delete "disk"))) = .ok e' ∧
      ∃ published, diskSystem.engine.Reports (.change (.rule (.delete "disk"))) published ∧
        e'.events = diskSystem.engine.events ++ published) ∧
    Answers diskSystem (.acknowledge "second")
      (perform diskSystem acknowledgeSecond (.acknowledgement "second".toList) .post) ∧
    400 ≤ (respond diskSystem acknowledgeSecond).1.status ∧
    (respond diskSystem acknowledgeSecond).2 = diskSystem := by
  obtain ⟨refused, done, answered, harmless⟩ := commands_leave_no_trace diskSystem
  have deleted : diskSystem.engine.execute (.change (.rule (.delete "disk"))) = .ok _ := rfl
  have carried : command? acknowledgeSecond (.acknowledgement "second".toList) .post =
      some (.acknowledge "second") := by
    have hName : unescaped? "second".toList = some "second" := by decide +kernel
    rw [command?, hName]
    rfl
  have status : 400 ≤ (respond diskSystem acknowledgeSecond).1.status := by decide +kernel
  exact ⟨(refused _ _).mpr (.acknowledge (by decide) (by decide)), ⟨_, deleted, done _ _ deleted⟩,
    answered _ _ _ _ carried, status, harmless _ status⟩

end Http

end MetricAlerts
