import MetricAlerts.Proofs.Dispatch.Incidents
import MetricAlerts.Proofs.System.Deliveries
import MetricAlerts.Proofs.System.Headway
import MetricAlerts.Proofs.System.Turns

/-! The dispatch of an event to all enabled channels. It may take several turns, and each channel
has what it would have by itself, whatever becomes of the others. -/

namespace MetricAlerts

/-- What has become of an event at each channel. -/
def DispatchReport.ofOutcomes (outcomes : List ChannelOutcome) : DispatchReport where
  delivered := outcomes.count .delivered
  failed := outcomes.count .failed
  skipped := outcomes.count .skipped

theorem DispatchReport.total_ofOutcomes (outcomes : List ChannelOutcome) :
    (ofOutcomes outcomes).delivered + (ofOutcomes outcomes).failed +
      (ofOutcomes outcomes).skipped = outcomes.length := by
  induction outcomes with
  | nil => rfl
  | cons outcome outcomes ih =>
    simp only [ofOutcomes] at ih
    cases outcome <;> simp [ofOutcomes] <;> omega

namespace System

open Engine (actionFor served handedFor arrival? arrivalsAt)

/-! ### The turns of a dispatch -/

/-- A dispatch goes on, again and again, until all deliveries are settled. Listed are the systems
before and after each time, and what has become of the event at each channel. -/
inductive Dispatches (between : System → System → Prop) :
    System → DispatchState → List (System × System) → List ChannelOutcome → Prop
  | ends {s s' : System} {state : DispatchState} {event : Event} {deliveries : List Delivery}
      {outcomes : List ChannelOutcome}
      (goes : s.continueDispatch state = (.handedOut event deliveries, s'))
      (settled : deliveries.mapM Delivery.outcome? = some outcomes) :
      Dispatches between s state [(s, s')] outcomes
  | waits {s s' later : System} {state next : DispatchState} {turns : List (System × System)}
      {outcomes : List ChannelOutcome} (goes : s.continueDispatch state = (next, s'))
      (unsettled : next.report? = none) (passes : between s' later)
      (rest : Dispatches between later next turns outcomes) :
      Dispatches between s state ((s, s') :: turns) outcomes

variable {between : System → System → Prop} {s s' : System} {event : Event} {c : Channel}
  {told owed owed' channels : List Channel} {sent due due' : List Notification}
  {answers : Channel → Bool} {deliveries : List Delivery} {outcomes : List ChannelOutcome}
  {state next : DispatchState} {turns : List (System × System)} {result : TaskResult}
  {works works' : List Work}

theorem report?_eq_some_iff {report : DispatchReport} : state.report? = some report ↔
    ∃ event deliveries outcomes, state = .handedOut event deliveries ∧
      deliveries.mapM Delivery.outcome? = some outcomes ∧ report = .ofOutcomes outcomes := by
  constructor
  · intro h
    cases state with
    | taken event => cases h
    | handedOut event deliveries =>
      obtain ⟨outcomes, settled, rfl⟩ := Option.map_eq_some_iff.mp h
      exact ⟨event, deliveries, outcomes, rfl, settled, rfl⟩
  · rintro ⟨event, deliveries, outcomes, rfl, settled, rfl⟩
    exact Option.map_eq_some_iff.mpr ⟨outcomes, settled, rfl⟩

theorem goOn_of_reported {report : DispatchReport} (goes : s.continueDispatch state = (next, s'))
    (reported : next.report? = some report) :
    s.goOn (.dispatch state) = (.ends (.report report), s') := by
  simp only [goOn, continueTask, goes, reported]

theorem goOn_of_unreported (goes : s.continueDispatch state = (next, s'))
    (unreported : next.report? = none) :
    s.goOn (.dispatch state) = (.waits (.dispatch next), s') := by
  simp only [goOn, continueTask, goes, unreported]

/-- The task of a dispatch takes the turns of the dispatch and tells what has come of it. -/
theorem completes_dispatch_iff :
    Completes between s (.dispatch state) turns result ↔
      ∃ outcomes, result = .report (.ofOutcomes outcomes) ∧
        Dispatches between s state turns outcomes := by
  constructor
  · intro completes
    generalize same : Task.dispatch state = task at completes
    induction completes generalizing state with
    | @ends s s' task result goes =>
      subst same
      generalize step : s.continueDispatch state = progress
      obtain ⟨next, after⟩ := progress
      cases reported : next.report? with
      | some report =>
        cases goes.symm.trans (goOn_of_reported step reported)
        obtain ⟨event, deliveries, outcomes, rfl, settled, rfl⟩ := report?_eq_some_iff.mp reported
        exact ⟨outcomes, rfl, .ends step settled⟩
      | none => cases goes.symm.trans (goOn_of_unreported step reported)
    | @waits s s' later task next turns result goes passes rest ih =>
      subst same
      generalize step : s.continueDispatch state = progress
      obtain ⟨next', after⟩ := progress
      cases reported : next'.report? with
      | some report => cases goes.symm.trans (goOn_of_reported step reported)
      | none =>
        cases goes.symm.trans (goOn_of_unreported step reported)
        obtain ⟨outcomes, rfl, dispatches⟩ := ih rfl
        exact ⟨outcomes, rfl, .waits step reported passes dispatches⟩
  · rintro ⟨outcomes, rfl, dispatches⟩
    induction dispatches with
    | @ends s s' state event deliveries outcomes goes settled =>
      have reported : (DispatchState.handedOut event deliveries).report? =
          some (.ofOutcomes outcomes) :=
        report?_eq_some_iff.mpr ⟨event, deliveries, outcomes, rfl, settled, rfl⟩
      exact .ends (goOn_of_reported goes reported)
    | waits goes unsettled passes rest ih =>
      exact .waits (goOn_of_unreported goes unsettled) passes ih

/-- What has come of turns in which an event has been given to channels, notifications have arrived
and activities have begun. -/
structure ServesIn (event : Event) (turns : List (System × System)) (owed : List Channel)
    (due : List Notification) (works : List Work) : Prop where
  told : ∃ groups : List (List Channel), groups.flatten.Perm owed ∧
    turns.Forall₂ (fun turn group => turn.2.engine = served event group turn.1.engine) groups
  sent : (gained (·.sent.toList) turns).Perm due
  sentGrow : ∀ turn ∈ turns, turn.1.sent.toList <+: turn.2.sent.toList
  works : (gained tasks turns).map Prod.snd = works.map .fresh
  tasksGrow : ∀ turn ∈ turns, turn.1.tasks <+: turn.2.tasks

theorem servesIn_nil (event : Event) : ServesIn event [] [] [] [] where
  told := ⟨[], .refl _, .nil⟩
  sent := .refl _
  sentGrow := List.forall_mem_nil _
  works := rfl
  tasksGrow := List.forall_mem_nil _

theorem ServesIn.cons (rest : ServesIn event turns owed' due' works')
    (serves : Serves event s told sent s') (spawns : s.Spawns works s')
    (hOwed : owed.Perm (told ++ owed')) (hDue : due.Perm (sent ++ due')) :
    ServesIn event ((s, s') :: turns) owed due (works ++ works') where
  told := by
    obtain ⟨groups, hGroups, hTurns⟩ := rest.told
    exact ⟨told :: groups, (hGroups.append_left told).trans hOwed.symm, .cons serves.engine hTurns⟩
  sent := by
    rw [gained_cons serves.sent]
    exact (rest.sent.append_left sent).trans hDue.symm
  sentGrow := List.forall_mem_cons.mpr ⟨⟨sent, serves.sent.symm⟩, rest.sentGrow⟩
  works := by
    rw [gained_cons spawns.tasks, List.map_append, works_freshTasks, rest.works, List.map_append]
  tasksGrow := List.forall_mem_cons.mpr ⟨⟨_, spawns.tasks.symm⟩, rest.tasksGrow⟩

/-- What has become of an event at channels, and what has come of it all together. -/
structure Handles (answers : Channel → Bool) (event : Event) (channels owed : List Channel)
    (due : List Notification) (works : List Work) (turns : List (System × System))
    (outcomes : List ChannelOutcome) : Prop where
  outcomes : channels.Forall₂ (fun c outcome => outcome = (actionFor c event).outcome (answers c))
    outcomes
  serves : ServesIn event turns owed due works

/-- A step of all deliveries, after which they are settled or go on. -/
theorem DeliversAll.handles (all : DeliversAll answers event channels owed due s (deliveries, s'))
    (spawns : s.Spawns works s')
    (rest : ∀ owed' due', Remains answers event channels deliveries owed' due' →
      Handles answers event channels owed' due' [] turns outcomes) :
    Handles answers event channels owed due works ((s, s') :: turns) outcomes := by
  obtain ⟨told, sent, owed', due', serves, remains, hOwed, hDue⟩ := all
  have later := rest owed' due' remains
  refine ⟨later.outcomes, ?_⟩
  have all := later.serves.cons serves spawns hOwed hDue
  rwa [List.append_nil] at all

theorem Remains.handles (remains : Remains answers event channels deliveries owed due)
    (settled : deliveries.mapM Delivery.outcome? = some outcomes) :
    Handles answers event channels owed due [] [] outcomes := by
  obtain ⟨rfl, rfl, hOutcomes⟩ := remains.of_settled settled
  exact ⟨hOutcomes, servesIn_nil event⟩

/-- Once an event has been handed out, its deliveries go on until they are settled. -/
theorem Dispatches.handles (dispatches : Dispatches between s state turns outcomes)
    (handedOut : state = .handedOut event deliveries)
    (remains : Remains answers event channels deliveries owed due) :
    Handles answers event channels owed due [] turns outcomes := by
  induction dispatches generalizing deliveries owed due with
  | @ends s _ _ _ _ _ goes settled =>
    subst handedOut
    have all := delivers_continueDeliveries remains s
    cases goes
    exact all.handles (spawns_continueDeliveries ..) fun _ _ left => left.handles settled
  | @waits s _ _ _ _ _ _ goes _ _ _ ih =>
    subst handedOut
    have all := delivers_continueDeliveries remains s
    cases goes
    exact all.handles (spawns_continueDeliveries ..) fun _ _ left => ih rfl left

/-- An event is handed out to the channels that are enabled then, unless the look at them has to be
put off. -/
theorem continueDispatch_taken (s : System) (event : Event) :
    visitLimit ≤ s.visits ∧ s.continueDispatch (.taken event) = (.taken event, s.defer 0) ∨
      s.visits < visitLimit ∧ ∃ deliveries s',
        s.continueDispatch (.taken event) = (.handedOut event deliveries, s') ∧
        DeliversAll s.arrives event s.engine.definitions.enabledChannels
          s.engine.definitions.enabledChannels
          (arrivalsAt s.arrives event s.engine.definitions.enabledChannels) s (deliveries, s') ∧
        s.Spawns (feedbackWorks event s.engine.definitions.enabledChannels) s' := by
  by_cases late : visitLimit ≤ s.visits
  · refine .inl ⟨late, ?_⟩
    rw [continueDispatch, visitOpen, if_pos late]
  · have early : s.visits < visitLimit := Nat.not_le.mp late
    obtain ⟨visited, found, visits, begins⟩ : ∃ visited, s.visitOpen = (true, visited) ∧
        Serves event s [] [] visited ∧ s.Begins [] visited :=
      ⟨_, visitOpen_eq early, .of_eq rfl rfl rfl, .of_eq rfl rfl rfl rfl rfl rfl rfl⟩
    have same : visited.engine = s.engine := visits.engine
    obtain ⟨told, sent, owed, due, serves, all⟩ :=
      delivers_deliverToAll visits.arrives event s.engine.definitions.enabledChannels
    refine .inr ⟨early, _, _, ?_, ⟨told, sent, owed, due, visits.trans serves, all⟩,
      begins.toSpawns.nil_trans (spawns_deliverToAll ..)⟩
    simp only [continueDispatch, found, same]

/-- The account of a dispatch. It looks the enabled channels up once, in its first turn unless that
is too full already, and all that it does is done for these channels. -/
structure DispatchAccount (event : Event) (s looked : System) (turns : List (System × System))
    (outcomes : List ChannelOutcome) : Prop where
  lookUp : ∃ before next after, turns = before ++ (looked, next) :: after ∧
    (∀ turn ∈ before, Serves event turn.1 [] [] turn.2) ∧
    (s.visits < visitLimit → before = [] ∧ looked = s)
  takes : looked.engine.definitions.enabledChannels.Forall₂
    (fun c outcome => c.Takes (looked.arrives c) event outcome (handedFor c event)) outcomes
  serves : ServesIn event turns looked.engine.definitions.enabledChannels
    (arrivalsAt looked.arrives event looked.engine.definitions.enabledChannels)
    (feedbackWorks event looked.engine.definitions.enabledChannels)

theorem Handles.takes {works : List Work}
    (handles : Handles answers event channels owed due works turns outcomes) :
    channels.Forall₂ (fun c outcome => c.Takes (answers c) event outcome (handedFor c event))
      outcomes :=
  handles.outcomes.imp fun _ _ same => Channel.takes_iff.mpr ⟨same, rfl⟩

theorem Dispatches.account (dispatches : Dispatches between s state turns outcomes)
    (taken : state = .taken event) :
    ∃ looked, DispatchAccount event s looked turns outcomes := by
  induction dispatches with
  | @ends s s' _ _ _ _ goes settled =>
    subst taken
    obtain ⟨-, waits⟩ | ⟨-, deliveries, after, hands, all, spawns⟩ := continueDispatch_taken s event
    · cases goes.symm.trans waits
    · cases goes.symm.trans hands
      have handles := all.handles spawns fun _ _ left => left.handles settled
      exact ⟨s, ⟨[], s', [], rfl, List.forall_mem_nil _, fun _ => ⟨rfl, rfl⟩⟩, handles.takes,
        handles.serves⟩
  | @waits s s' later _ _ turns _ goes _ _ rest ih =>
    subst taken
    obtain ⟨late, waits⟩ | ⟨-, deliveries, after, hands, all, spawns⟩ :=
      continueDispatch_taken s event
    · cases goes.symm.trans waits
      obtain ⟨looked, ⟨before, next, after, rfl, still, -⟩, takes, serves⟩ := ih rfl
      refine ⟨looked, ⟨(s, s.defer 0) :: before, next, after, rfl, ?_, ?_⟩, takes, ?_⟩
      · exact List.forall_mem_cons.mpr ⟨serves_defer s 0, still⟩
      · exact fun early => absurd early (Nat.not_lt.mpr late)
      · exact serves.cons (serves_defer s 0) (begins_defer s 0).toSpawns (.refl _) (.refl _)
    · cases goes.symm.trans hands
      have handles := all.handles spawns fun _ _ left => rest.handles rfl left
      exact ⟨s, ⟨[], s', turns, rfl, List.forall_mem_nil _, fun _ => ⟨rfl, rfl⟩⟩, handles.takes,
        handles.serves⟩

section

variable {looked : System} {outcome : ChannelOutcome}

theorem DispatchAccount.looked_eq (account : DispatchAccount event s looked turns outcomes)
    (visits : s.visits < visitLimit) : looked = s := by
  obtain ⟨before, next, after, -, -, first⟩ := account.lookUp
  exact (first visits).2

theorem DispatchAccount.total (account : DispatchAccount event s looked turns outcomes) :
    (DispatchReport.ofOutcomes outcomes).delivered + (DispatchReport.ofOutcomes outcomes).failed +
      (DispatchReport.ofOutcomes outcomes).skipped =
      looked.engine.definitions.enabledChannels.length := by
  rw [DispatchReport.total_ofOutcomes, account.takes.length_eq]

theorem DispatchAccount.takes_of_mem (account : DispatchAccount event s looked turns outcomes)
    (mem : (c, outcome) ∈ looked.engine.definitions.enabledChannels.zip outcomes) :
    c.Takes (looked.arrives c) event outcome (handedFor c event) :=
  (List.forall₂_iff_zip.mp account.takes).2 mem

theorem DispatchAccount.exists_outcome (account : DispatchAccount event s looked turns outcomes)
    (enabled : c ∈ looked.engine.definitions.enabledChannels) :
    ∃ outcome, (c, outcome) ∈ looked.engine.definitions.enabledChannels.zip outcomes := by
  have hFirst : (looked.engine.definitions.enabledChannels.zip outcomes).map Prod.fst =
      looked.engine.definitions.enabledChannels :=
    List.map_fst_zip (Nat.le_of_eq account.takes.length_eq)
  rw [← hFirst] at enabled
  obtain ⟨⟨_, outcome⟩, mem, rfl⟩ := List.mem_map.mp enabled
  exact ⟨outcome, mem⟩

/-- The notifications that arrive for a channel are those that it would have by itself. -/
theorem DispatchAccount.sent_filter (account : DispatchAccount event s looked turns outcomes)
    (distinct : (Registry.ids looked.engine.definitions.enabledChannels).Nodup)
    (enabled : c ∈ looked.engine.definitions.enabledChannels) :
    (gained (·.sent.toList) turns).filter (fun n => n.channel = c.id) =
      (arrival? (looked.arrives c) event c).toList := by
  have arrived := account.serves.sent.filter fun n => n.channel = c.id
  rw [Engine.filter_arrivalsAt distinct enabled] at arrived
  cases single : arrival? (looked.arrives c) event c with
  | none =>
    rw [single] at arrived
    exact arrived.eq_nil
  | some notification =>
    rw [single] at arrived
    exact arrived.eq_singleton

end

/-! ### The end of a dispatch -/

theorem exists_dispatches_of_step {s' : System}
    (supply : ∀ s time, ∃ later, between s later ∧ later.visits < visitLimit ∧ time ≤ later.time)
    (goes : s.continueDispatch state = (.handedOut event deliveries, s'))
    (rest : deliveries.mapM Delivery.outcome? = none → ∀ later : System,
      later.visits < visitLimit →
      (∀ wait ∈ deliveries.flatMap Delivery.waits, wait.due ≤ later.time) →
      ∃ turns outcomes, Dispatches between later (.handedOut event deliveries) turns outcomes) :
    ∃ turns outcomes, Dispatches between s state turns outcomes := by
  cases settled : deliveries.mapM Delivery.outcome? with
  | some outcomes => exact ⟨_, outcomes, .ends goes settled⟩
  | none =>
    obtain ⟨later, passes, visits, time⟩ :=
      supply s' ((deliveries.flatMap Delivery.waits).map Wait.due).sum
    have elapsed : ∀ wait ∈ deliveries.flatMap Delivery.waits, wait.due ≤ later.time :=
      fun wait mem => (List.le_sum_of_mem (List.mem_map_of_mem mem)).trans time
    obtain ⟨turns, outcomes, dispatches⟩ := rest settled later visits elapsed
    have unsettled : (DispatchState.handedOut event deliveries).report? = none := by
      rw [DispatchState.report?, settled]
      rfl
    exact ⟨_, outcomes, .waits goes unsettled passes dispatches⟩

/-- Deliveries come to their end when their waits come to theirs. -/
theorem exists_dispatches_of_handedOut
    (supply : ∀ s time, ∃ later, between s later ∧ later.visits < visitLimit ∧ time ≤ later.time)
    (visits : s.visits < visitLimit)
    (elapsed : ∀ wait ∈ deliveries.flatMap Delivery.waits, wait.due ≤ s.time)
    (unsettled : deliveries.mapM Delivery.outcome? = none) :
    ∃ turns outcomes, Dispatches between s (.handedOut event deliveries) turns outcomes := by
  induction hEffort : effort deliveries using Nat.strongRecOn generalizing s deliveries with
  | ind n ih =>
    generalize step : continueDeliveries event deliveries s = progress
    obtain ⟨next, s'⟩ := progress
    have goes : s.continueDispatch (.handedOut event deliveries) = (.handedOut event next, s') := by
      rw [continueDispatch, step]
    have less : effort next < n := by
      have headway := effort_continueDeliveries event deliveries s
      rw [step, hEffort] at headway
      obtain ⟨rfl, -⟩ | less := headway
      · obtain ⟨outcomes, settled⟩ := all_settled_of_same visits elapsed (by rw [step])
        cases unsettled.symm.trans settled
      · exact less
    exact exists_dispatches_of_step supply goes
      fun unsettled' later visits' elapsed' => ih _ less visits' elapsed' unsettled' rfl

/-- A dispatch comes to its end when it is let in and its waits come to theirs. -/
theorem exists_dispatches
    (supply : ∀ s time, ∃ later, between s later ∧ later.visits < visitLimit ∧ time ≤ later.time)
    (s : System) (event : Event) :
    ∃ turns outcomes, Dispatches between s (.taken event) turns outcomes := by
  have early {s : System} (visits : s.visits < visitLimit) :
      ∃ turns outcomes, Dispatches between s (.taken event) turns outcomes := by
    obtain ⟨late, -⟩ | ⟨-, deliveries, s', hands, -⟩ := continueDispatch_taken s event
    · exact absurd visits (Nat.not_lt.mpr late)
    · exact exists_dispatches_of_step supply hands
        fun unsettled later visits' elapsed =>
          exists_dispatches_of_handedOut supply visits' elapsed unsettled
  obtain ⟨-, waits⟩ | ⟨visits, -⟩ := continueDispatch_taken s event
  · obtain ⟨later, passes, visits, -⟩ := supply (s.defer 0) 0
    obtain ⟨turns, outcomes, dispatches⟩ := early visits
    exact ⟨_, outcomes, .waits waits rfl passes dispatches⟩
  · exact early visits

/-- A dispatch treats channels apart. It ends if it is let in and time passes; what it reports is
the number of channels at which the event has been delivered, has failed or has been skipped, and
every enabled channel is in it once. What becomes of the event at a channel, and what the transport
is handed for it, depends on the channel, on the event and on the answer of the transport for the
channel alone. So two dispatches of an event to a channel that has the same answer in both come to
the same for it, whatever other channels there are in the one or in the other. -/
theorem dispatch_treats_channels_apart (event : Event) :
    (∀ (between : System → System → Prop) (s : System) (turns : List (System × System))
      (result : TaskResult), Completes between s (.fresh (.dispatch event)) turns result ↔
        ∃ outcomes, result = .report (.ofOutcomes outcomes) ∧
          Dispatches between s (.taken event) turns outcomes) ∧
    (∀ between : System → System → Prop,
      (∀ s time, ∃ later, between s later ∧ later.visits < visitLimit ∧ time ≤ later.time) →
      ∀ s, ∃ turns outcomes, Dispatches between s (.taken event) turns outcomes) ∧
    (∀ (between : System → System → Prop) (s : System) (turns : List (System × System))
      (outcomes : List ChannelOutcome), Dispatches between s (.taken event) turns outcomes →
      ∃ looked, DispatchAccount event s looked turns outcomes ∧
        let report := DispatchReport.ofOutcomes outcomes
        let enabled := looked.engine.definitions.enabledChannels
        report.delivered + report.failed + report.skipped = enabled.length ∧
        ∀ c ∈ enabled, ∃ outcome, (c, outcome) ∈ enabled.zip outcomes ∧
          c.Takes (looked.arrives c) event outcome (handedFor c event) ∧
          ((Registry.ids enabled).Nodup →
            (gained (·.sent.toList) turns).filter (fun n => n.channel = c.id) =
              (arrival? (looked.arrives c) event c).toList)) ∧
    (∀ (c : Channel) (arrives : Bool), ∃ outcome handed, c.Takes arrives event outcome handed ∧
      ∀ outcome' handed', c.Takes arrives event outcome' handed' →
        outcome' = outcome ∧ handed' = handed) ∧
    ∀ (s looked s' looked' : System) (turns turns' : List (System × System))
      (outcomes outcomes' : List ChannelOutcome), DispatchAccount event s looked turns outcomes →
      DispatchAccount event s' looked' turns' outcomes' →
      let enabled := looked.engine.definitions.enabledChannels
      let enabled' := looked'.engine.definitions.enabledChannels
      ∀ c outcome outcome', (c, outcome) ∈ enabled.zip outcomes →
        (c, outcome') ∈ enabled'.zip outcomes' → looked.arrives c = looked'.arrives c →
        outcome = outcome' ∧
          ((Registry.ids enabled).Nodup → (Registry.ids enabled').Nodup →
            (gained (·.sent.toList) turns).filter (fun n => n.channel = c.id) =
              (gained (·.sent.toList) turns').filter fun n => n.channel = c.id) := by
  refine ⟨fun between s turns result => ?_,
    fun between supply s => exists_dispatches supply s event,
    fun between s turns outcomes dispatches => ?_, fun c arrives => ?_, ?_⟩
  · rw [← completes_dispatch_iff]
    exact ⟨Completes.congr rfl, Completes.congr rfl⟩
  · obtain ⟨looked, account⟩ := dispatches.account rfl
    refine ⟨looked, account, account.total, fun c enabled => ?_⟩
    obtain ⟨outcome, mem⟩ := account.exists_outcome enabled
    exact ⟨outcome, mem, account.takes_of_mem mem,
      fun distinct => account.sent_filter distinct enabled⟩
  · obtain ⟨outcome, handed, takes⟩ := c.exists_takes arrives event
    exact ⟨outcome, handed, takes, fun _ _ takes' => takes'.unique takes⟩
  · intro s looked s' looked' turns turns' outcomes outcomes' account account' enabled enabled' c
      outcome outcome' mem mem' same
    have takes := account.takes_of_mem mem
    rw [same] at takes
    refine ⟨(takes.unique (account'.takes_of_mem mem')).1, fun distinct distinct' => ?_⟩
    rw [account.sent_filter distinct (List.of_mem_zip mem).1, same,
      account'.sent_filter distinct' (List.of_mem_zip mem').1]

/-- A channel for mail that has no server. -/
def mailer : Channel where
  id := "mail"
  name := "Mail"
  type := .email
  enabled := true
  config := { ChannelConfig.empty with recipients := ["ops@example.com"] }

/-- A system with channels. -/
def channelSystem (channels : List Channel) : System :=
  initial (.initial Engine.diskEngine.environment ⟨[AlertStore.diskRule], channels⟩ 2 1 4 4 100)
    .neutral 1

/-- Nobody is sent a mail, and whoever is on call is paged all the same. -/
theorem dispatch_treats_channels_apart_mailer :
    let event := Event.created <|
      .ofAnomaly AlertStore.diskRule "node" ⟨none, none, .error, "slow", none⟩ .null "first" ⟨1, 0⟩
    let turnsOf := fun s : System => [(s, (s.goOn (.fresh (.dispatch event))).2)]
    let both := channelSystem [mailer, Outbox.pager]
    let alone := channelSystem [Outbox.pager]
    Completes (fun _ _ => False) both (.fresh (.dispatch event)) (turnsOf both)
        (.report ⟨1, 1, 0⟩) ∧
      Completes (fun _ _ => False) alone (.fresh (.dispatch event)) (turnsOf alone)
        (.report ⟨1, 0, 0⟩) ∧
      (gained (·.sent.toList) (turnsOf both)).filter (fun n => n.channel = "pager") =
        (gained (·.sent.toList) (turnsOf alone)).filter (fun n => n.channel = "pager") ∧
      (gained (·.sent.toList) (turnsOf alone)).length = 1 := by
  intro event turnsOf both alone
  obtain ⟨completes_iff, -, accounts, -, apart⟩ := dispatch_treats_channels_apart event
  have hBoth : Dispatches (fun _ _ => False) both (.taken event) (turnsOf both)
      [.failed, .delivered] := .ends rfl rfl
  have hAlone : Dispatches (fun _ _ => False) alone (.taken event) (turnsOf alone)
      [.delivered] := .ends rfl rfl
  obtain ⟨looked, account, -⟩ := accounts _ _ _ _ hBoth
  obtain ⟨looked', account', -⟩ := accounts _ _ _ _ hAlone
  obtain rfl := account.looked_eq (by decide)
  obtain rfl := account'.looked_eq (by decide)
  refine ⟨(completes_iff _ _ _ _).mpr ⟨_, rfl, hBoth⟩,
    (completes_iff _ _ _ _).mpr ⟨_, rfl, hAlone⟩, ?_, rfl⟩
  have paged := apart _ _ _ _ _ _ _ _ account account' Outbox.pager .delivered .delivered
    (List.mem_cons_of_mem _ List.mem_cons_self) List.mem_cons_self rfl
  exact paged.2 (by decide) (by decide)

end System

end MetricAlerts
