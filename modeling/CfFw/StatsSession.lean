import CfFw.Sessions
import CfFw.TaskSteps

/-! Statistics after the end of a session. A statistics task looks its route up
by slug once a second, and goes on when it finds any route there. As long as no
other session has taken the slug when it looks, the first look after the route
is gone ends the task. -/
namespace CfFw
open Std Transition

/-- The session a statistics task reports on. -/
def StatsTask.session (task : StatsTask) : UInt64 := task.route.ownerSession

variable {d d' u v : Daemon} {c : ConnId} {label : Label} {shared : Shared} {handler : Handler}
  {session : UInt64} {route : Route} {labels : List Label}

/-- The task is about to send a report. -/
def StatsPhase.reports : StatsPhase → Bool
  | .reporting _ => true
  | _ => false

/-- The message is a report on the session. -/
def ServerMessage.reportsOn (session : UInt64) : ServerMessage → Bool
  | .stats owner _ => owner = session
  | _ => false

/-- The number of reports on a session sent to client `c`. -/
def reportsSent (d : Daemon) (c : ConnId) (session : UInt64) : Nat :=
  (d.channels c).sent.countP fun envelope => envelope.message.reportsOn session

/-- The task that looks its route up, and what it finds. -/
def Daemon.checked (d : Daemon) : Label → Option (StatsTask × Route)
  | .statsCheck index _ => d.stats[index]?.bind fun task =>
    (d.shared.registry.routeForSlug task.route.slug).map fun found => (task, found)
  | _ => none

/-- A task that looks its route up finds a route of its own session or none,
unless its client is gone; and the session counter has not wrapped. -/
structure Current (d : Daemon) (label : Label) : Prop where
  noWrap : NoWrap d label
  found : ∀ check ∈ d.checked label, check.2.ownerSession = check.1.session ∨
    (d.channels check.1.connection).closed = true

instance (d : Daemon) (label : Label) : Decidable (Current d label) :=
  have (check : StatsTask × Route) : Decidable (check.2.ownerSession = check.1.session ∨
      (d.channels check.1.connection).closed = true) := inferInstance
  have : Decidable (∀ check ∈ d.checked label, check.2.ownerSession = check.1.session ∨
      (d.channels check.1.connection).closed = true) := Option.decidableForallMem (d.checked label)
  decidable_of_iff _ ⟨fun holds => Current.mk holds.1 holds.2, fun current => And.intro current.1 current.2⟩

/-- The route whose statistics the handler is going to start. -/
def Phase.starts : Phase → Option Route
  | .publishing _ route | .activating _ route | .replying _ _ (.startStats route) => some route
  | _ => none

/-- A session has one statistics task at most, and none before its `Registered`. -/
structure StatsHold (d : Daemon) : Prop where
  settled : ∀ task ∈ d.stats, Settled d task.session
  present : ∀ task ∈ d.stats, task.connection < d.accepted
  unstarted : ∀ c route, (d.handlers c).phase.starts = some route →
    ∀ task ∈ d.stats, task.session ≠ route.ownerSession
  single : (d.stats.map StatsTask.session).Nodup

/-! ### One task for each session -/

theorem SessionsHold.owned_of_starts (holds : SessionsHold d)
    (starts : (d.handlers c).phase.starts = some route) :
    (d.handlers c).owned = some route.ownerSession := by
  have held := holds.phases c
  unfold PhaseHolds at held
  generalize (d.handlers c).phase = phase at held starts
  cases phase with
  | publishing | activating =>
    cases starts
    exact held
  | replying requestId message after =>
    cases after with
    | startStats =>
      cases starts
      exact held
    | _ => cases starts
  | _ => cases starts

/-- A handler comes to start statistics by registering a route. -/
theorem HandlerStep.starts (taken : HandlerStep d c label shared handler)
    (starts : handler.phase.starts = some route) :
    (d.handlers c).phase.starts = some route ∨
      (d.handlers c).phase.claims = some route.ownerSession := by
  cases taken with
  | acknowledgeIgnored => exact .inl starts
  | registered phase _ _ owner =>
    cases starts
    exact .inr (by rw [phase, owner]; rfl)
  | published phase | activated phase =>
    cases starts
    exact .inl (by rw [phase]; rfl)
  | @foundBusy _ after | @markedIdle _ after => cases after <;> cases starts
  | _ => cases starts

/-- A task after a step was a task before, or its handler has just queued
`Registered`. -/
theorem StatsStep.task {tasks : List StatsTask} {task : StatsTask} (step : StatsStep d label tasks)
    (member : task ∈ tasks) :
    (∃ old ∈ d.stats, old.connection = task.connection ∧ old.route = task.route) ∨
      (label = .send task.connection ∧ ∃ requestId message,
        (d.handlers task.connection).phase =
          .replying requestId message (.startStats task.route)) := by
  have moved : ∀ {index : Nat} {old : StatsTask} {phase : StatsPhase},
      d.stats[index]? = some old → task ∈ d.stats.set index ⟨old.connection, old.route, phase⟩ →
        ∃ old ∈ d.stats, old.connection = task.connection ∧ old.route = task.route := by
    intro index old phase found member
    rcases List.mem_or_eq_of_mem_set member with same | rfl
    · exact ⟨task, same, rfl, rfl⟩
    · exact ⟨old, List.mem_of_getElem? found, rfl, rfl⟩
  cases step with
  | kept => exact .inl ⟨task, member, rfl, rfl⟩
  | started phase =>
    rw [List.mem_append, List.mem_singleton] at member
    rcases member with same | rfl
    · exact .inl ⟨task, same, rfl, rfl⟩
    · exact .inr ⟨rfl, _, _, phase⟩
  | ticked found | found found | reported found => exact .inl (moved found member)
  | gone | refused => exact .inl ⟨task, List.mem_of_mem_eraseIdx member, rfl, rfl⟩

/-- A handler that has queued its reply starts nothing any more. -/
theorem starts_none_of_send {requestId : Option UInt64} {message : ServerMessage}
    {after : AfterReply} (taken : d.step (.send c) = some d')
    (phase : (d.handlers c).phase = .replying requestId message after) :
    (d'.handlers c).phase.starts = none := by
  rcases replied_of_step taken phase with ⟨_, returned⟩ | ⟨_, reading, _⟩
  · rw [returned]
    rfl
  · rw [reading]
    rfl

theorem StatsStep.single {tasks : List StatsTask} (step : StatsStep d label tasks)
    (holds : StatsHold d) : (tasks.map StatsTask.session).Nodup := by
  -- A task that goes on keeps its session.
  have moved : ∀ {index : Nat} {old : StatsTask} {phase : StatsPhase},
      d.stats[index]? = some old →
        (d.stats.set index ⟨old.connection, old.route, phase⟩).map StatsTask.session =
          d.stats.map StatsTask.session := by
    intro index old phase found
    obtain ⟨bound, rfl⟩ := List.getElem?_eq_some_iff.mp found
    rw [List.map_set]
    have same := @List.set_getElem_self _ (d.stats.map StatsTask.session) index
      (by simpa using bound)
    rwa [List.getElem_map] at same
  cases step with
  | kept => exact holds.single
  | @started starter _ _ route phase =>
    rw [List.map_append, List.nodup_append]
    refine ⟨holds.single, List.nodup_singleton _, ?_⟩
    intro session member other last same
    obtain ⟨task, known, rfl⟩ := List.mem_map.mp member
    obtain rfl := List.mem_singleton.mp last
    exact holds.unstarted starter route (by rw [phase]; rfl) task known same
  | ticked found | found found | reported found =>
    rw [moved found]
    exact holds.single
  | gone | refused => exact holds.single.sublist ((List.eraseIdx_sublist _ _).map _)

theorem StatsHold.unstarted_step (holds : StatsHold d) (sessions : SessionsHold d)
    (taken : d.step label = some d') (starts : (d'.handlers c).phase.starts = some route)
    {task : StatsTask} (member : task ∈ d'.stats) : task.session ≠ route.ownerSession := by
  have change := change_of_step taken
  have before : (d.handlers c).phase.starts = some route ∨
      (d.handlers c).phase.claims = some route.ownerSession := by
    rcases change.handlers c with same | ⟨_, fresh⟩ | moved
    · exact .inl (same ▸ starts)
    · rw [fresh] at starts
      cases starts
    · exact moved.starts starts
  intro same
  rcases (taskStep_of_step taken).stats.task member with ⟨old, known, _, sameRoute⟩ |
    ⟨rfl, requestId, message, phase⟩
  · have session : old.session = route.ownerSession := by
      rw [StatsTask.session, sameRoute]
      exact same
    rcases before with starts | claims
    · exact holds.unstarted c route starts old known session
    · exact (holds.settled old known).unclaimed c (session ▸ claims)
  · -- The task is new, and its handler is the only one with this session.
    have owned : (d.handlers task.connection).owned = some task.session :=
      sessions.owned_of_starts (by rw [phase]; rfl)
    have here : c = task.connection := by
      rcases before with starts | claims
      · have mine := sessions.owned_of_starts starts
        rw [← same] at mine
        exact sessions.owner_unique mine owned
      · have settled := sessions.settled_of_owned owned
        exact absurd (same ▸ claims) (settled.unclaimed c)
    subst here
    rw [starts_none_of_send taken phase] at starts
    cases starts

/-- **Step lemma.** -/
theorem StatsHold.step (holds : StatsHold d) (sessions : SessionsHold d)
    (taken : d.step label = some d') (noWrap : NoWrap d label) : StatsHold d' where
  settled task member := by
    have change := change_of_step taken
    rcases (taskStep_of_step taken).stats.task member with ⟨old, known, _, sameRoute⟩ |
      ⟨_, requestId, message, phase⟩
    · have settled := holds.settled old known
      rw [StatsTask.session, sameRoute] at settled
      exact change.settled noWrap settled
    · have owned : (d.handlers task.connection).owned = some task.session :=
      sessions.owned_of_starts (by rw [phase]; rfl)
      exact change.settled noWrap (sessions.settled_of_owned owned)
  present task member := by
    have change := change_of_step taken
    refine Nat.lt_of_lt_of_le ?_ change.accepted_le
    rcases (taskStep_of_step taken).stats.task member with ⟨old, known, sameClient, _⟩ |
      ⟨_, requestId, message, phase⟩
    · have present := holds.present old known
      rwa [sameClient] at present
    · apply Nat.lt_of_not_le
      intro late
      rw [sessions.absent _ late] at phase
      cases phase
  unstarted _ _ starts _ member := holds.unstarted_step sessions taken starts member
  single := (taskStep_of_step taken).stats.single holds

/-! ### Replies are no reports -/

/-- The replies of the handlers are no messages that nobody asked for. -/
def Solicited (d : Daemon) : Prop :=
  ∀ c requestId message after, (d.handlers c).phase = .replying requestId message after →
    message.unsolicited = false

theorem HandlerStep.solicited {requestId : Option UInt64} {message : ServerMessage}
    {after : AfterReply} (taken : HandlerStep d c label shared handler)
    (phase : handler.phase = .replying requestId message after) : message.unsolicited = false := by
  cases taken with
  | acknowledgeIgnored reading =>
    rw [reading] at phase
    cases phase
  | @foundBusy _ after | @markedIdle _ after =>
    cases after <;> cases phase
    · rfl
    · rfl
  | _ => cases phase <;> rfl

theorem Solicited.step (solicited : Solicited d) (change : Change d label d') : Solicited d' := by
  intro c requestId message after phase
  rcases change.handlers c with same | ⟨_, fresh⟩ | moved
  · exact solicited c requestId message after (same ▸ phase)
  · rw [fresh] at phase
    cases phase
  · exact moved.solicited phase

private theorem not_reportsOn_of_solicited {message : ServerMessage}
    (solicited : message.unsolicited = false) : message.reportsOn session = false := by
  cases message with
  | stats => cases solicited
  | _ => rfl

/-! ### After the route is gone -/

/-- The session has no route any more, and no task is going to report on it to
an open channel. -/
structure Quieted (d : Daemon) (session : UInt64) : Prop extends Dead d session where
  quiet : ∀ task ∈ d.stats, task.session = session → task.phase.reports = true →
    (d.channels task.connection).closed = true

/-- A task that is about to report was so before, or has just found a route. -/
theorem StatsStep.reports {tasks : List StatsTask} {task : StatsTask}
    (step : StatsStep d label tasks) (member : task ∈ tasks) (reports : task.phase.reports = true) :
    task ∈ d.stats ∨ ∃ old ∈ d.stats, ∃ found, d.checked label = some (old, found) ∧
      old.connection = task.connection ∧ old.session = task.session ∧
      d.shared.registry.routeForSlug old.route.slug = some found := by
  cases step with
  | kept => exact .inl member
  | started =>
    rw [List.mem_append, List.mem_singleton] at member
    rcases member with same | rfl
    · exact .inl same
    · cases reports
  | ticked | reported =>
    rcases List.mem_or_eq_of_mem_set member with same | rfl
    · exact .inl same
    · cases reports
  | gone | refused => exact .inl (List.mem_of_mem_eraseIdx member)
  | found checking taken =>
    rcases List.mem_or_eq_of_mem_set member with same | rfl
    · exact .inl same
    · refine .inr ⟨_, List.mem_of_getElem? checking, _, ?_, rfl, rfl, taken⟩
      simp [Daemon.checked, checking, taken]

/-- **Step lemma.** A dead session stays quiet, and nothing is reported on it. -/
theorem Quieted.step (quieted : Quieted d session) (sessions : SessionsHold d)
    (holds : StatsHold d) (taken : d.step label = some d') (current : Current d label) :
    Quieted d' session where
  toDead := (change_of_step taken).dead current.noWrap sessions.wellFormed quieted.toDead
  quiet task member own reports := by
    have step := taskStep_of_step taken
    rcases step.stats.reports member reports with same |
      ⟨old, known, found, checked, client, session, taken⟩
    · exact (step.closed (holds.present task same).ne (quieted.quiet task same own reports)).1
    · -- The task finds a route of its own session, which is dead, or its client is gone.
      rcases current.found _ checked with owner | closed
      · have live := sessions.wellFormed.live taken
        exact absurd (owner.trans (session.trans own)) (quieted.routeless found live)
      · rw [client] at closed
        exact (step.closed (client ▸ (holds.present old known).ne) closed).1

theorem Quieted.reportsSent_le (quieted : Quieted d session) (solicited : Solicited d)
    (taken : d.step label = some d') (c : ConnId) :
    reportsSent d' c session ≤ reportsSent d c session := by
  have delivery := (taskStep_of_step taken).channel c
  unfold reportsSent
  generalize d'.channels c = channel at delivery ⊢
  cases delivery with
  | kept sent => rw [sent]
  | opened => exact Nat.zero_le _
  | reply phase _ sent =>
    have other := @not_reportsOn_of_solicited session _ (solicited c _ _ _ phase)
    simp [sent, Envelope.new, other]
  | stopSent _ _ sent | killSent _ _ sent | fatalSent _ _ sent =>
    simp [sent, Envelope.new, ServerMessage.reportsOn]
  | @statsSent _ _ route _ task alive sent =>
    have foreign : route.ownerSession ≠ session := by
      intro own
      have closed := quieted.quiet _ (List.mem_of_getElem? task) own rfl
      rw [alive] at closed
      cases closed
    simp [sent, Envelope.new, ServerMessage.reportsOn, foreign]

private theorem ticked_of_step {index : Nat} (taken : d.step (.statsTick index) = some d') :
    ∃ c route, d.stats[index]? = some ⟨c, route, .ticking⟩ ∧
      d'.stats = d.stats.set index ⟨c, route, .checking⟩ := by
  unfold Daemon.step at taken
  split at taken
  · cases taken
  · simp only [Daemon.statsStep] at taken
    split at taken <;> cases taken
    rename_i task
    exact ⟨_, _, task, rfl⟩

private theorem noWrap_tick (d : Daemon) (index : Nat) : NoWrap d (.statsTick index) := by
  intro takes
  cases takes

/-- A tick after the route is gone leaves no report under way: the ticking task
was the only one of its session. -/
theorem quieted_of_tick {index : Nat} {task : StatsTask} (dead : Dead d session)
    (holds : StatsHold d) (sessions : SessionsHold d) (ticking : d.stats[index]? = some task)
    (own : task.session = session) (taken : d.step (.statsTick index) = some d') :
    Quieted d' session where
  toDead := (change_of_step taken).dead (noWrap_tick d index) sessions.wellFormed dead
  quiet other member otherOwn reports := by
    exfalso
    obtain ⟨c, route, _, stats⟩ := ticked_of_step taken
    rw [stats] at member
    obtain ⟨position, bound, found⟩ := List.mem_iff_getElem.mp member
    rw [List.getElem_set] at found
    split at found
    · rw [← found] at reports
      cases reports
    · rename_i elsewhere
      rw [List.length_set] at bound
      obtain ⟨indexBound, rfl⟩ := List.getElem?_eq_some_iff.mp ticking
      have distinct := List.nodup_iff_injective_get.mp holds.single
      apply elsewhere
      have same := @distinct ⟨index, by simpa using indexBound⟩ ⟨position, by simpa using bound⟩
        (by simp [found, own, otherOwn])
      exact congrArg Fin.val same

section Runs

/-- What every run keeps that the statistics depend on. -/
structure StatsRun (d : Daemon) : Prop where
  sessions : SessionsHold d
  stats : StatsHold d
  solicited : Solicited d

theorem StatsRun.step (holds : StatsRun d) (taken : d.step label = some d')
    (noWrap : NoWrap d label) : StatsRun d' where
  sessions := holds.sessions.step (change_of_step taken) noWrap
  stats := holds.stats.step holds.sessions taken noWrap
  solicited := holds.solicited.step (change_of_step taken)

private theorem statsHold_start (baseDomain : String) (now : Instant) :
    StatsHold (.start baseDomain now) where
  settled _ member := by cases member
  present _ member := by cases member
  unstarted _ _ starts := by cases starts
  single := List.nodup_nil

private theorem statsRun_start (baseDomain : String) (now : Instant) :
    StatsRun (.start baseDomain now) where
  sessions := sessionsHold_start baseDomain now
  stats := statsHold_start baseDomain now
  solicited _ _ _ _ phase := by cases phase

theorem StatsRun.run (holds : StatsRun d) (ran : Run Daemon.step Current d labels d') :
    StatsRun d' :=
  ran.invariant StatsRun holds fun _ _ _ holds current taken => holds.step taken current.noWrap

/-- **Run lemma.** Nothing is reported on a quieted session. -/
theorem Quieted.run (quieted : Quieted d session) (holds : StatsRun d)
    (ran : Run Daemon.step Current d labels v) (c : ConnId) :
    reportsSent v c session ≤ reportsSent d c session :=
  (ran.invariant
    (fun v : Daemon => StatsRun v ∧ Quieted v session ∧
      reportsSent v c session ≤ reportsSent d c session)
    ⟨holds, quieted, le_rfl⟩ fun _ _ _ ⟨holds, quieted, bound⟩ current taken =>
      ⟨holds.step taken current.noWrap,
        quieted.step holds.sessions holds.stats taken current,
        (quieted.reportsSent_le holds.solicited taken c).trans bound⟩).2.2

/-- **Statistics stop with their session**, in every run in which no check of a
task finds a route of another session under its slug: a session has one task at
most, and a tick after its route has left the registry leads to no report. -/
theorem stats_stop_with_session {baseDomain : String} {now : Instant}
    (ran : Run Daemon.step Current (.start baseDomain now) labels d) :
    (d.stats.map StatsTask.session).Nodup ∧
      ∀ route, d.shared.registry.Live route → ∀ more u, Run Daemon.step Current d more u →
        (∀ other, u.shared.registry.Live other → other.ownerSession ≠ route.ownerSession) →
          ∀ index task u', u.stats[index]? = some task → task.session = route.ownerSession →
            u.step (.statsTick index) = some u' → ∀ rest v, Run Daemon.step Current u' rest v →
              ∀ c, reportsSent v c route.ownerSession ≤ reportsSent u' c route.ownerSession := by
  have holds := (statsRun_start baseDomain now).run ran
  refine ⟨holds.stats.single, ?_⟩
  intro route live more u reached gone index task u' ticking own ticked rest v later c
  have settled : Settled u route.ownerSession := by
    have kept := reached.invariant
      (fun u : Daemon => Settled u route.ownerSession) (holds.sessions.settled_of_live live)
      fun _ _ _ settled current taken => (change_of_step taken).settled current.noWrap settled
    exact kept
  have before := holds.run reached
  have quieted := quieted_of_tick ⟨settled, gone⟩ before.stats before.sessions ticking own ticked
  exact quieted.run (before.step ticked (noWrap_tick u index)) later c

end Runs

/-! ### A slug that is taken again -/

/-- A sample of no traffic. -/
def quietSample : MetricsSample := ⟨0, 0, 0, 0⟩

/-- The statistics task reports once, and then the client unregisters. -/
def unregisteringLabels : List Label :=
  [.statsTick 0, .statsCheck 0 quietSample, .statsSend 0,
    .read 0 (.ok (Envelope.new (some 2) (.unregister 1)))] ++ removalLabels 0 ++ [.send 0]

/-- The daemon when client 0 has unregistered. -/
def unregisteredDaemon : Daemon :=
  (execute Daemon.step oneRoute unregisteringLabels).get (by decide)

/-- The task ticks and finds its route gone. -/
def stoppedStats : Daemon :=
  (execute Daemon.step unregisteredDaemon [.statsTick 0, .statsCheck 0 quietSample]).get (by decide)

theorem unregistered_session_is_quiet :
    ∃ u', unregisteredDaemon.step (.statsTick 0) = some u' ∧ reportsSent u' 0 1 = 1 ∧
      ∀ c, reportsSent stoppedStats c 1 ≤ reportsSent u' c 1 := by
  have registered : Run Daemon.step Current (.start "example.com" 0)
      (registrationLabels 0 3000 "app") oneRoute := run_to_executeChecked rfl
  have unregistered : Run Daemon.step Current oneRoute unregisteringLabels unregisteredDaemon :=
    run_to_executeChecked rfl
  have checks : Run Daemon.step Current
      ((unregisteredDaemon.step (.statsTick 0)).get (by decide)) [.statsCheck 0 quietSample]
      stoppedStats := run_of_executeChecked (fun _ _ => of_decide_eq_true) rfl
  refine ⟨_, rfl, by decide, ?_⟩
  refine (stats_stop_with_session registered).2 ⟨"app", ⟨.localhost, 3000⟩, 1, 42, 0, 0⟩ (by decide)
    _ _ unregistered (fun other live => ?_) 0 _ _ rfl rfl rfl _ _ checks
  exact absurd live (RouteRegistry.not_live_new other)

/-- Client 0 registers its slug again, as session 2. -/
def againLabels : List Label :=
  [.read 0 (.ok (Envelope.new (some 3) (.register 3000 (some "app") 42))),
    .register 0 ⟨[]⟩ ⟨0, 1⟩, .proceed 0, .proceed 0, .send 0]

/-- The daemon when client 0 has registered for the second time. -/
def reregisteredDaemon : Daemon :=
  (execute Daemon.step unregisteredDaemon againLabels).get (by decide)

/-- The task of the first session finds the route of the second one and goes on. -/
theorem report_on_dead_session :
    ∃ labels d route more u index task u' rest v,
      Run Daemon.step Unrestricted (.start "example.com" 0) labels d ∧
      d.shared.registry.Live route ∧ Run Daemon.step Unrestricted d more u ∧
      (∀ other, u.shared.registry.Live other → other.ownerSession ≠ route.ownerSession) ∧
      u.stats[index]? = some task ∧ task.session = route.ownerSession ∧
      u.step (.statsTick index) = some u' ∧ Run Daemon.step Unrestricted u' rest v ∧
      reportsSent u' 0 route.ownerSession < reportsSent v 0 route.ownerSession := by
  have registered : Run Daemon.step Unrestricted (.start "example.com" 0)
      (registrationLabels 0 3000 "app") oneRoute := run_to_execute _
  have unregistered : Run Daemon.step Unrestricted oneRoute unregisteringLabels
      unregisteredDaemon := run_to_execute _
  have again : Run Daemon.step Unrestricted unregisteredDaemon againLabels reregisteredDaemon :=
    run_to_execute _
  have rest := @run_to_execute _ _ Daemon.step
    ((reregisteredDaemon.step (.statsTick 0)).get (by decide))
    [.statsCheck 0 quietSample, .statsSend 0] (by decide)
  refine ⟨_, _, ⟨"app", ⟨.localhost, 3000⟩, 1, 42, 0, 0⟩, _, _, 0, _, _, _, _, registered,
    by decide, unregistered.append again, fun other live => ?_, rfl, rfl, rfl, rest, by decide⟩
  have wellFormed := wellFormed_of_run (registered.append (unregistered.append again))
  have member := (RouteRegistry.mem_routes wellFormed).mpr live
  have only : ∀ other ∈ reregisteredDaemon.shared.registry.routes, other.ownerSession ≠ 1 := by
    decide
  exact only other member

end CfFw
