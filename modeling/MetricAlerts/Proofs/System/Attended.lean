import MetricAlerts.Proofs.System.Service

/-! A system whose clients come, read and go, and whose dispatch loop starts before the first alert
and goes on from then. Whatever happens in it, its engine and its loop are those of a feed, and the
transport is handed what that feed hands over (`Station.exists_outbox`, `Station.exists_feed`). -/

namespace MetricAlerts

/-- The dispatch loop that a task is, or comes to be. -/
def Task.loop? : Task → Option LoopState
  | .fresh (.dispatchLoop place) | .held (.dispatchLoop place) => some ⟨place, 0, false, none⟩
  | .dispatchLoop state => some state
  | _ => none

theorem Task.isSome_loop? (task : Task) : task.loop?.isSome = task.isLoop := by
  cases task with
  | fresh work | held work => cases work <;> rfl
  | _ => rfl

namespace System

/-- The dispatch loop of a system, if it has one. -/
def loop? (s : System) : Option LoopState := s.tasks.findSome? fun t => t.2.loop?

/-- A loop as a system and as a watch have it. -/
inductive IsLoop : Option LoopState → Option Loop → Prop
  | off : IsLoop none none
  | on {state : LoopState} {current : Option Dispatch} (same : Matches state.current current) :
      IsLoop (some state) (some ⟨state.place, state.missed, current⟩)

variable {s s' : System} {w : Watch} {state : Option LoopState} {loop : Option Loop}

theorem IsLoop.isSome (isLoop : IsLoop state loop) : loop.isSome = state.isSome := by
  cases isLoop <;> rfl

theorem loop?_eq_none_iff : s.loop? = none ↔ ∀ t ∈ s.tasks, t.2.isLoop = false := by
  simp only [loop?, List.findSome?_eq_none_iff, ← Task.isSome_loop?, Option.isSome_eq_false_iff,
    Option.isNone_iff_eq_none]

theorem IsWatched.isLoop (h : s.IsWatched w) : IsLoop s.loop? w.loop := by
  obtain ⟨e, duties, loop, stopping⟩ := w
  have among : LoopAmong s.tasks loop stopping := h.loop
  cases among with
  | off free =>
    rw [loop?_eq_none_iff.mpr free]
    exact .off
  | @on id task loop _ mem carries single =>
    have isSome : s.loop? ≠ none := fun free =>
      absurd carries.isLoop (by simp [loop?_eq_none_iff.mp free _ mem])
    obtain ⟨state, found⟩ := Option.ne_none_iff_exists'.mp isSome
    obtain ⟨t, hMem, own⟩ := List.exists_of_findSome?_eq_some found
    have isLoop : t.2.isLoop := by rw [← Task.isSome_loop?, own, Option.isSome_some]
    obtain rfl := h.numbered.eq_of_mem hMem mem (single t hMem isLoop)
    rw [found]
    cases carries with
    | fresh place =>
      cases own
      exact .on .idle
    | running same =>
      cases own
      exact .on same

theorem IsWatched.hasLoop (h : s.IsWatched w) : w.loop.isSome = s.loop?.isSome :=
  h.isLoop.isSome

/-- While a system goes on, no loop starts. If none ends, the definitions stay as they are. -/
theorem IsWatched.exists_of_goes (h : s.IsWatched w) (goes : s.Goes s') :
    ∃ w', s'.IsWatched w' ∧ (s'.loop?.isSome → s.loop?.isSome) ∧
      ((s.loop?.isSome → s'.loop?.isSome) → s'.engine.definitions = s.engine.definitions) := by
  obtain ⟨trace, w', passage⟩ := h.goes goes
  have resembles (lasting : s.loop?.isSome → s'.loop?.isSome) : w.Resembles w' := by
    refine passage.runs.resembles (passage.orderly ?_)
    rw [h.hasLoop, passage.watched.hasLoop]
    exact lasting
  refine ⟨w', passage.watched, fun running => ?_, fun lasting => ?_⟩
  · rw [← h.hasLoop, ← (resembles fun _ => running).isSome, passage.watched.hasLoop]
    exact running
  · rw [← h.engine, ← passage.watched.engine]
    exact (resembles lasting).definitions

theorem IsWatched.isSome_loop?_of_carriesOn (h : s.IsWatched w) (carriesOn : s.CarriesOn s') :
    s'.loop?.isSome → s.loop?.isSome := by
  induction carriesOn using Relation.ReflTransGen.head_induction_on generalizing w with
  | refl => exact id
  | head goes _ ih =>
    obtain ⟨w', watched, starts, -⟩ := h.exists_of_goes goes
    exact starts ∘ ih watched

end System

/-- A system, and the messages that have left the queue of each client. -/
structure Station where
  system : System
  past : Nat → List RealtimeMessage

namespace Station

def initial (e : Engine) (analyzer : Analyzer) (callLimit : Nat) : Station :=
  ⟨.initial e analyzer callLimit, fun _ => []⟩

/-- The station with other clients. -/
def withHub (t : Station) (hub : Hub) : Station :=
  { t with system := { t.system with engine := { t.system.engine with hub } } }

/-- The station in which some messages have left the queue of a client. -/
def withPast (t : Station) (client : Nat) (messages : List RealtimeMessage) : Station :=
  { t with past := fun id => if id = client then t.past id ++ messages else t.past id }

/-- What happens at a time. The loop starts before the first alert and does not end, and messages
that a client has not read are lost with its receiver. -/
inductive Step (t : Station) : Station → Prop
  | goes {s : System} (goes : t.system.Goes s)
      (lasting : t.system.loop?.isSome → s.loop?.isSome) : Step t { t with system := s }
  | act {action : Engine.Action} (due : action.IsDue []) :
      Step t { t with system := t.system.withEngine (t.system.engine.after action) }
  | start (free : t.system.loop? = none)
      (early : ∀ event ∈ t.system.engine.events, event.alert? = none) :
      Step t { t with system := (t.system.spawn (.dispatchLoop t.system.engine.bus.tail)).2 }
  | connect :
      Step t (t.withHub (t.system.engine.hub.connect t.system.engine.alerts.activeAlerts).2)
  | disconnect (client : Nat) : Step t (t.withHub (t.system.engine.hub.disconnect client).2)
  | text (client : Nat) (text : String) :
      Step t (t.withHub (t.system.engine.hub.handleText client text))
  | read (client n : Nat) :
      Step t ((t.withHub (t.system.engine.hub.read client n)).withPast client
        ((t.system.engine.hub.queueOf client).take n))
  | hangUp (client : Nat) :
      Step t ((t.withHub (t.system.engine.hub.dropReceiver client).2).withPast client
        (t.system.engine.hub.queueOf client))

/-- One step after another, while something holds of the definitions and of whether there is a
loop. -/
abbrev StepsWhile (holds : Bool → Definitions → Prop) : Station → Station → Prop :=
  Relation.ReflTransGen fun t t' =>
    holds t.system.loop?.isSome t.system.engine.definitions ∧ t.Step t'

/-- What a station has handed to the transport, with the feed that a watch makes of it. -/
def outbox (t : Station) (w : Watch) : Outbox := w.outbox t.past t.system.notifications

/-- What a step of a station does to a watch that it is on. -/
structure Course (holds : Bool → Definitions → Prop) (t : Station) (w : Watch) (t' : Station)
    (w' : Watch) : Prop where
  watched : t'.system.IsWatched w'
  balanced : t.system.IsBalanced → t'.system.IsBalanced
  events : ∃ published, w'.engine.events = w.engine.events ++ published
  grounded : w.engine.IsGrounded → AreNew w'.engine.events → w'.engine.IsGrounded
  outbox : w.engine.IsGrounded → AreNew w'.engine.events →
    holds w.loop.isSome w.engine.definitions → Outbox.StepsWhile holds (t.outbox w) (t'.outbox w')

variable {t t' : Station} {w w' : Watch} {holds : Bool → Definitions → Prop} {e : Engine}
  {analyzer : Analyzer} {callLimit : Nat}

theorem Course.of_passage {trace : List (Watch.Deed × Watch)} {s : System}
    (passage : System.Passage t.system w trace s w') (lasting : w.loop.isSome → w'.loop.isSome) :
    Course holds t w { t with system := s } w' where
  watched := passage.watched
  balanced := passage.balanced
  events := passage.runs.events
  grounded h new := passage.runs.isGrounded h new
  outbox h new meets := by
    have steps := passage.runs.outbox (passage.orderly lasting) h new meets t.past
      t.system.notifications
    rw [← passage.handed] at steps
    exact steps

/-- A step of the feed, in which the alerts stay as they are and nothing is handed over. -/
theorem Course.of_feed (watched : t'.system.IsWatched w')
    (leaves : t.system.LeavesMail t'.system) (alerts : w'.engine.alerts = w.engine.alerts)
    (events : w'.engine.events = w.engine.events)
    (step : Feed.Step ⟨w.engine, w.loop, t.past⟩ ⟨w'.engine, w'.loop, t'.past⟩)
    (less : (Feed.mk w.engine w.loop t.past).owed.length ≤
      (Feed.mk w'.engine w'.loop t'.past).owed.length) : Course holds t w t' w' where
  watched := watched
  balanced := leaves.isBalanced
  events := ⟨[], by rw [events, List.append_nil]⟩
  grounded h _ := h.of_same alerts events
  outbox _ _ meets := by
    rw [Station.outbox, Station.outbox, leaves.notifications]
    exact .single ⟨meets, .other step less⟩

/-- The engine does what it is asked to. -/
theorem Course.of_act (h : t.system.IsWatched w) {action : Engine.Action} (due : action.IsDue []) :
    Course holds t w { t with system := t.system.withEngine (t.system.engine.after action) }
      { w with
        engine := w.engine.after action
        duties := w.duties ++ w.engine.duties action } := by
  obtain ⟨step, watched⟩ := h.act due
  have begins := System.begins_replaced t.system (t.system.engine.after action)
  have leaves := begins.leavesMail.of_engine
  refine ⟨watched, leaves.isBalanced, step.events, step.isGrounded, fun grounded new meets => ?_⟩
  have acted : Feed.Step ⟨w.engine, w.loop, t.past⟩ _ := .work action (grounded.fresh new)
  rw [Station.outbox, Station.outbox, leaves.notifications]
  exact .single ⟨meets, .other acted (Nat.le_refl _)⟩

/-- Clients are served. -/
theorem Course.of_hub {hub : Hub} {past : Nat → List RealtimeMessage}
    (h : t.system.IsWatched w)
    (step : ∀ loop, Feed.Step ⟨t.system.engine, loop, t.past⟩
      ⟨{ t.system.engine with hub }, loop, past⟩) :
    Course holds t w { t.withHub hub with past } { w with engine := { w.engine with hub } } := by
  obtain ⟨e, duties, loop, stopping⟩ := w
  obtain rfl : e = t.system.engine := h.engine
  have begins : t.system.Begins [] (t.withHub hub).system :=
    ⟨⟨⟨hub, t.system.engine.console, rfl⟩, (List.append_nil _).symm, rfl, rfl, .refl _⟩, rfl, rfl⟩
  exact .of_feed (h.serve begins).2 begins.leavesMail rfl rfl (step loop) (Nat.le_refl _)

/-- Whatever happens at a station is what happens to an outbox. -/
theorem Step.exists_course (step : t.Step t') (h : t.system.IsWatched w) :
    ∃ w', Course holds t w t' w' := by
  cases step with
  | goes goes lasting =>
    obtain ⟨trace, w', passage⟩ := h.goes goes
    refine ⟨w', .of_passage passage ?_⟩
    rw [h.hasLoop, passage.watched.hasLoop]
    exact lasting
  | act due => exact ⟨_, .of_act h due⟩
  | start free early =>
    obtain ⟨e, duties, loop, stopping⟩ := w
    obtain rfl : e = t.system.engine := h.engine
    have idle : loop = none := by
      have same := h.hasLoop
      rw [free] at same
      exact Option.isNone_iff_eq_none.mp (by simpa using same)
    obtain rfl := idle
    obtain ⟨-, watched⟩ := h.start (System.loop?_eq_none_iff.mp free)
    exact ⟨_, .of_feed watched (System.begins_spawn ..).leavesMail rfl rfl (.start rfl early)
      (Nat.le_refl _)⟩
  | connect => exact ⟨_, .of_hub h fun _ => .connect⟩
  | disconnect client => exact ⟨_, .of_hub h fun _ => .disconnect client⟩
  | text client text => exact ⟨_, .of_hub h fun _ => .text client text⟩
  | read client n => exact ⟨_, .of_hub h fun _ => .read client n⟩
  | hangUp client => exact ⟨_, .of_hub h fun _ => .hangUp client⟩

theorem StepsWhile.exists_course (steps : StepsWhile holds t t') (h : t.system.IsWatched w)
    (grounded : w.engine.IsGrounded) : ∃ w', t'.system.IsWatched w' ∧
      (t.system.IsBalanced → t'.system.IsBalanced) ∧ (AreNew w'.engine.events →
        w'.engine.IsGrounded ∧ Outbox.StepsWhile holds (t.outbox w) (t'.outbox w')) := by
  induction steps with
  | refl => exact ⟨w, h, id, fun _ => ⟨grounded, .refl⟩⟩
  | tail _ last ih =>
    obtain ⟨meets, step⟩ := last
    obtain ⟨w₁, watched, balanced, before⟩ := ih
    obtain ⟨w₂, course⟩ : ∃ w₂, Course holds _ w₁ _ w₂ := step.exists_course watched
    refine ⟨w₂, course.watched, fun h => course.balanced (balanced h), fun new => ?_⟩
    obtain ⟨published, hEvents⟩ := course.events
    obtain ⟨grounded₁, steps⟩ := before (hEvents ▸ new).of_append
    refine ⟨course.grounded grounded₁ new, steps.trans (course.outbox grounded₁ new ?_)⟩
    rw [watched.hasLoop, watched.engine]
    exact meets

/-- What a system does as it goes on for a while is done at a station, provided that its loop goes
on all the time. So it is when time goes on, a snapshot comes in, a rule is evaluated or a pattern
job starts. -/
theorem stepsWhile_of_carriesOn {s s' : System} (h : s.IsWatched w) (carriesOn : s.CarriesOn s')
    (lasting : s.loop?.isSome → s'.loop?.isSome)
    (meets : holds s.loop?.isSome s.engine.definitions) (past : Nat → List RealtimeMessage) :
    StepsWhile holds ⟨s, past⟩ ⟨s', past⟩ := by
  induction carriesOn using Relation.ReflTransGen.head_induction_on generalizing w with
  | refl => exact .refl
  | @head s next goes rest ih =>
    obtain ⟨w', watched, starts, same⟩ := h.exists_of_goes goes
    have goesOn : s.loop?.isSome → next.loop?.isSome := fun running =>
      watched.isSome_loop?_of_carriesOn rest (lasting running)
    have still : next.loop?.isSome = s.loop?.isSome := Bool.eq_iff_iff.mpr ⟨starts, goesOn⟩
    refine .head ⟨meets, .goes goes goesOn⟩ (ih watched (lasting ∘ starts) ?_)
    rw [still, same goesOn]
    exact meets

/-- What has happened at a station since its first moment, in which all alerts are new, is what has
happened to an outbox: that with the engine of the system and its loop, and with what the transport
has been handed. All of that which arrives has arrived or is under way. -/
theorem exists_outbox (steps : StepsWhile holds (initial e analyzer callLimit) t)
    (grounded : e.IsGrounded) (new : AreNew t.system.engine.events) :
    ∃ loop, System.IsLoop t.system.loop? loop ∧ t.system.IsBalanced ∧
      Outbox.StepsWhile holds ⟨.initial e, []⟩
        ⟨⟨t.system.engine, loop, t.past⟩, t.system.notifications⟩ := by
  obtain ⟨w, watched, balanced, outbox⟩ :=
    steps.exists_course (System.isWatched_initial e analyzer callLimit) grounded
  refine ⟨w.loop, watched.isLoop, balanced (.refl _), ?_⟩
  rw [← watched.engine] at new ⊢
  exact (outbox new).2

/-- It is also what has happened to a feed, which goes on in the same way for the clients. -/
theorem exists_feed
    (steps : StepsWhile (fun _ definitions =>
      ∃ channel ∈ definitions.enabledChannels, channel.type = .websocket)
      (initial e analyzer callLimit) t)
    (grounded : e.IsGrounded) (new : AreNew t.system.engine.events) :
    ∃ loop, System.IsLoop t.system.loop? loop ∧
      Feed.Reaches (.initial e) ⟨t.system.engine, loop, t.past⟩ := by
  obtain ⟨loop, isLoop, -, outbox⟩ := exists_outbox steps grounded new
  exact ⟨loop, isLoop, outbox.lift Outbox.feed fun _ _ step => ⟨step.1, step.2.feed⟩⟩

end Station

end MetricAlerts
