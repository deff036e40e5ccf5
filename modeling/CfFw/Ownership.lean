import CfFw.Sessions
import CfFw.TaskSteps

/-! Session ownership over whole runs. A number is handed out once, its session
has one route and one owner at most, the owner's Unregister is answered, and what
takes a route out of the registry is on record in the run. -/
namespace CfFw
open Std Transition

variable {d d' v : Daemon} {c : ConnId} {label : Label} {shared : Shared} {handler : Handler}
  {session : UInt64} {route : Route} {requestId : Option UInt64} {labels more past : List Label}

/-! ### Numbers and routes -/

/-- The step has handler `c` take `session` from the counter. -/
def HandsOut (d d' : Daemon) (c : ConnId) (session : UInt64) : Prop :=
  (d.handlers c).phase.claims ≠ some session ∧ (d'.handlers c).phase.claims = some session

theorem HandsOut.takes (hands : HandsOut d d' c session) (change : Change d label d') :
    Takes d label c session :=
  (change.claims hands.2).resolve_left hands.1

theorem Issued.run (issued : Issued d.shared session) (ran : Run Daemon.step NoWrap d labels d') :
    Issued d'.shared session :=
  ran.invariant (fun d : Daemon => Issued d.shared session) issued fun _ _ _ issued noWrap taken =>
    (change_of_step taken).issued noWrap issued

/-- A number handed out is not handed out again. -/
theorem HandsOut.once {other : ConnId} (issued : Issued d.shared session)
    (taken : d.step label = some d') (noWrap : NoWrap d label) : ¬ HandsOut d d' other session := by
  intro hands
  have takes := hands.takes (change_of_step taken)
  rw [takes.next] at issued
  exact not_issued_next (noWrap takes.takes) issued

/-- `route` is the only route its session can have. -/
structure OnlyRoute (d : Daemon) (route : Route) : Prop where
  settled : Settled d route.ownerSession
  only : ∀ other, d.shared.registry.Live other → other.ownerSession = route.ownerSession →
    other = route

theorem SessionsHold.onlyRoute (holds : SessionsHold d) (live : d.shared.registry.Live route) :
    OnlyRoute d route where
  settled := holds.settled_of_live live
  only other otherLive same := holds.single other route otherLive live same

theorem OnlyRoute.step (only : OnlyRoute d route) (change : Change d label d')
    (noWrap : NoWrap d label) (wellFormed : d.shared.registry.WellFormed) : OnlyRoute d' route where
  settled := change.settled noWrap only.settled
  only other live same := by
    rcases change.live wellFormed live with old | ⟨c, claims, _⟩
    · exact only.only other old same
    · rw [same] at claims
      exact absurd claims (only.settled.unclaimed c)

theorem OnlyRoute.run (only : OnlyRoute d route) (holds : SessionsHold d)
    (ran : Run Daemon.step NoWrap d labels d') : OnlyRoute d' route :=
  (ran.invariant (fun d => SessionsHold d ∧ OnlyRoute d route) ⟨holds, only⟩
    fun _ _ _ ⟨holds, only⟩ noWrap taken =>
      ⟨holds.step (change_of_step taken) noWrap,
        only.step (change_of_step taken) noWrap holds.wellFormed⟩).2

/-! ### Keeping a session -/

/-- The handler reads a request of its client to end the session. -/
def Label.ends (c : ConnId) (session : UInt64) : Label → Bool
  | .read reader (.ok envelope) => reader = c &&
    (envelope.message = .unregister session || envelope.message = .terminateAcknowledged session)
  | _ => false

/-- The removal was asked for by the session's own client. -/
def AfterRemove.asked : AfterRemove → Bool
  | .unregistered _ | .acknowledged => true
  | _ => false

/-- The handler is ending its session because its client asked it to. -/
def Phase.ends : Phase → Bool
  | .removing _ _ after => after.asked
  | .replying _ _ .release => true
  | _ => false

/-- The handler owns the session and was not asked to end it. -/
structure Keeps (handler : Handler) (session : UInt64) : Prop where
  owned : handler.owned = some session
  stays : handler.phase.ends = false

theorem HandlerStep.keeps (taken : HandlerStep d c label shared handler) (holds : SessionsHold d)
    (keeps : Keeps (d.handlers c) session) (unended : label.ends c session = false) :
    Keeps handler session := by
  obtain ⟨owned, stays⟩ := keeps
  have held := holds.phases c
  unfold PhaseHolds at held
  cases taken with
  | registerStarted _ _ free | left _ _ free =>
    rw [free] at owned
    cases owned
  | unregister _ message old | acknowledge _ message old =>
    obtain rfl := Option.some.inj (old.symm.trans owned)
    simp [Label.ends, message] at unended
  | disconnected _ _ old => exact ⟨old.symm.trans owned, rfl⟩
  | acknowledgeIgnored => exact ⟨owned, stays⟩
  | registered phase =>
    rw [phase] at held
    rw [held.1] at owned
    cases owned
  | removedRoutes phase | removedOwner phase | acknowledged phase | foundEmpty phase =>
    rw [phase] at stays
    exact ⟨owned, stays⟩
  | @foundBusy _ after phase | @markedIdle _ after phase =>
    rw [phase] at stays
    cases after with
    | disconnected | stopped => exact ⟨owned, rfl⟩
    | _ => cases stays
  | released phase =>
    rw [phase] at stays
    cases stays
  | _ => exact ⟨owned, rfl⟩

theorem Change.keeps (change : Change d label d') (holds : SessionsHold d)
    (keeps : Keeps (d.handlers c) session) (unended : label.ends c session = false) :
    Keeps (d'.handlers c) session := by
  rcases change.handlers c with same | ⟨new, _⟩ | taken
  · rwa [same]
  · have owned := keeps.owned
    rw [holds.absent c new.ge] at owned
    cases owned
  · exact taken.keeps holds keeps unended

/-- The client was sent `Registered` for the session. -/
def SentRegistered (d : Daemon) (c : ConnId) (session : UInt64) : Prop :=
  ∃ envelope ∈ (d.channels c).sent, envelope.message.registeredSession = some session

/-- A client comes to be sent `Registered` by its own handler, which owns the
session then. -/
theorem sentRegistered_of_step (taken : d.step label = some d') (holds : SessionsHold d)
    (registered : RegisteredMatches d) (sent : SentRegistered d' c session) :
    SentRegistered d c session ∨ Keeps (d.handlers c) session := by
  obtain ⟨envelope, member, names⟩ := sent
  have queued := queued_of_step taken c
  generalize (d'.channels c).sent = history at queued member
  cases queued with
  | kept => exact .inl ⟨envelope, member, names⟩
  | opened => cases member
  | @reply requestId message after phase alive =>
    rw [List.mem_append, List.mem_singleton] at member
    rcases member with old | rfl
    · exact .inl ⟨envelope, old, names⟩
    · obtain ⟨route, rfl, rfl⟩ := registered c requestId message after session phase names
      have held := holds.phases c
      unfold PhaseHolds at held
      rw [phase] at held
      exact .inr ⟨held, by rw [phase]; rfl⟩
  | @pushed _ envelope unsolicited =>
    rw [List.mem_append, List.mem_singleton] at member
    rcases member with old | rfl
    · exact .inl ⟨_, old, names⟩
    · exact absurd unsolicited (not_unsolicited_of_registered names)

/-- A client that was sent `Registered` and did not ask to end the session
still owns it. -/
theorem keeps_of_sentRegistered {baseDomain : String} {now : Instant}
    (ran : Run Daemon.step NoWrap (.start baseDomain now) labels d)
    (sent : SentRegistered d c session) (unended : ∀ label ∈ labels, label.ends c session = false) :
    Keeps (d.handlers c) session := by
  have kept := ran.historyInvariant
    (fun past d => SessionsHold d ∧ RegisteredMatches d ∧
      (SentRegistered d c session → (∀ label ∈ past, label.ends c session = false) →
        Keeps (d.handlers c) session))
    ⟨sessionsHold_start baseDomain now, registeredMatches_start baseDomain now,
      fun ⟨_, member, _⟩ => by cases member⟩ ?_
  · exact kept.2.2 sent unended
  · intro past d label d' ⟨holds, registered, keeps⟩ noWrap taken
    have change := change_of_step taken
    refine ⟨holds.step change noWrap, registered.step change, fun sent unended => ?_⟩
    refine change.keeps holds ?_ (unended label (by simp))
    rcases sentRegistered_of_step taken holds registered sent with old | keeps'
    · exact keeps old fun earlier member => unended earlier (by simp [member])
    · exact keeps'

/-! ### Answering an Unregister -/

/-- The handler is on its way to answer an Unregister. -/
def Phase.Answering (requestId : Option UInt64) (session : UInt64) (phase : Phase) : Prop :=
  (∃ stage, phase = .removing stage session (.unregistered requestId)) ∨
    phase = .replying requestId (.unregistered session) .release

/-- Between the two states client `c` was sent nothing but what it did not ask
for. -/
def OnlyPushed (d v : Daemon) (c : ConnId) : Prop :=
  ∃ pushed, (v.channels c).sent = (d.channels c).sent ++ pushed ∧
    ∀ envelope ∈ pushed, envelope.message.unsolicited = true

/-- How a run goes on from `d`, where handler `c` is to answer an Unregister:
either it is still on its way, or its next reply was `Unregistered`, unless the
channel had closed and the handler returned. -/
inductive Answer (d : Daemon) (c : ConnId) (requestId : Option UInt64) (session : UInt64) :
    List Label → Daemon → Prop where
  | pending {labels : List Label} {v : Daemon} (ran : Run Daemon.step Unrestricted d labels v)
      (answering : (v.handlers c).phase.Answering requestId session) (quiet : OnlyPushed d v c) :
      Answer d c requestId session labels v
  | answered {before after : List Label} {u u' v : Daemon}
      (ran : Run Daemon.step Unrestricted d before u) (quiet : OnlyPushed d u c)
      (taken : u.step (.send c) = some u')
      (queued : (u.channels c).closed = false → (u'.handlers c).phase = .reading ∧
        (u'.channels c).sent =
          (u.channels c).sent ++ [Envelope.new requestId (.unregistered session)])
      (gone : (u.channels c).closed = true →
        (u'.handlers c).phase = .returned (.error (.protocol "IPC writer closed")))
      (rest : Run Daemon.step Unrestricted u' after v) :
      Answer d c requestId session (before ++ .send c :: after) v

theorem HandlerStep.answering (taken : HandlerStep d c label shared handler)
    (answering : (d.handlers c).phase.Answering requestId session) :
    handler.phase.Answering requestId session ∨
      (label = .send c ∧
        (d.handlers c).phase = .replying requestId (.unregistered session) .release) := by
  rcases answering with ⟨stage, phase⟩ | phase
  · left
    cases taken with
    | removedRoutes same | removedOwner same | acknowledged same | foundEmpty same =>
      rw [phase] at same
      cases same
      exact .inl ⟨_, rfl⟩
    | foundBusy same | markedIdle same =>
      rw [phase] at same
      cases same
      exact .inr rfl
    | _ => simp_all
  · right
    cases taken with
    | replied | released | replyFailed => exact ⟨rfl, phase⟩
    | _ => simp_all

/-- While a handler is answering, its client is sent no reply. -/
theorem OnlyPushed.step (quiet : OnlyPushed d v c) (taken : v.step label = some d')
    (present : c ≠ v.accepted)
    (silent : label = .send c → ∀ requestId message after,
      (v.handlers c).phase ≠ .replying requestId message after) : OnlyPushed d d' c := by
  obtain ⟨pushed, history, unsolicited⟩ := quiet
  have queued := queued_of_step taken c
  unfold OnlyPushed
  generalize (d'.channels c).sent = after at queued ⊢
  cases queued with
  | kept => exact ⟨pushed, history, unsolicited⟩
  | opened new => exact absurd new present
  | reply phase => exact absurd phase (silent rfl _ _ _)
  | @pushed _ envelope extra =>
    refine ⟨pushed ++ [envelope], by rw [history, List.append_assoc], ?_⟩
    intro other member
    rw [List.mem_append, List.mem_singleton] at member
    rcases member with old | rfl
    · exact unsolicited other old
    · exact extra

/-- **Run lemma.** An Unregister that is being answered is answered next. -/
theorem Answer.run (absent : ∀ c, d.accepted ≤ c → d.handlers c = ⟨.absent, none⟩)
    (answering : (d.handlers c).phase.Answering requestId session)
    (ran : Run Daemon.step Unrestricted d labels v) : Answer d c requestId session labels v := by
  have kept := ran.historyInvariant
    (fun past v => (∀ c, v.accepted ≤ c → v.handlers c = ⟨.absent, none⟩) ∧
      Answer d c requestId session past v)
    ⟨absent, .pending .nil answering ⟨[], by simp, by simp⟩⟩ ?_
  · exact kept.2
  intro past v label v' ⟨absent, answer⟩ _ taken
  have change := change_of_step taken
  refine ⟨fun _ later => change.absent absent later, ?_⟩
  cases answer with
  | answered ran quiet sent queued gone rest =>
    rw [List.append_assoc, List.cons_append]
    exact .answered ran quiet sent queued gone (.snoc rest trivial taken)
  | pending ran answering quiet =>
    have present : c ≠ v.accepted := by
      intro new
      rw [absent c new.ge] at answering
      rcases answering with ⟨_, phase⟩ | phase <;> cases phase
    rcases change.handlers c with same | ⟨new, _⟩ | moved
    · -- The step is not the handler's own, or it leaves the handler as it is.
      refine .pending (.snoc ran trivial taken) (same ▸ answering)
        (quiet.step taken present fun isSend requestId message after phase => ?_)
      subst isSend
      rcases replied_of_step taken phase with ⟨_, returned⟩ | ⟨_, reading, _⟩
      · rw [same, phase] at returned
        cases returned
      · rw [same, phase] at reading
        cases reading
    · exact absurd new present
    · rcases moved.answering answering with still | ⟨rfl, phase⟩
      · refine .pending (.snoc ran trivial taken) still
          (quiet.step taken present fun isSend requestId message after phase => ?_)
        subst isSend
        rcases replied_of_step taken phase with ⟨_, returned⟩ | ⟨_, reading, _⟩
        · rcases still with ⟨_, other⟩ | other <;> rw [returned] at other <;> cases other
        · rcases still with ⟨_, other⟩ | other <;> rw [reading] at other <;> cases other
      · rcases replied_of_step taken phase with ⟨closed, returned⟩ | ⟨alive, reading, sent⟩
        · exact .answered ran quiet taken (fun open' => absurd (closed.symm.trans open') (by simp))
            (fun _ => returned) .nil
        · exact .answered ran quiet taken (fun _ => ⟨reading, sent⟩)
            (fun closed => absurd (closed.symm.trans alive) (by simp)) .nil


/-! ### `remove_session` runs to its end -/

/-- The sections of `remove_session` from this one on. -/
def RemoveStage.remaining : RemoveStage → Nat
  | .registry => 5
  | .owners => 4
  | .acknowledgements => 3
  | .idleCheck => 2
  | .idleWrite => 1

/-- Handler `c` alone can leave `remove_session`, in `bound` steps at most. -/
def Leaves (bound : Nat) (d : Daemon) (c : ConnId) (session : UInt64) (after : AfterRemove) :
    Prop :=
  ∃ count u baseDomain, count ≤ bound ∧
    Run Daemon.step Unrestricted d (List.replicate count (.proceed c)) u ∧
    (u.handlers c).phase = ((d.handlers c).removed baseDomain session after).phase ∧
    u.channels = d.channels ∧ u.main = d.main

private theorem step_proceed_removing {stage : RemoveStage} {after : AfterRemove}
    (running : d.main ≠ .exited) (phase : (d.handlers c).phase = .removing stage session after) :
    d.step (.proceed c) =
      some (d.move c (removeSection d.shared d.now (d.handlers c) session after stage)) := by
  apply step_proceed running
  simp only [lockedSection, phase]

private theorem leaves_last {baseDomain : String} {after : AfterRemove}
    (taken : d.step (.proceed c) =
      some (d.move c (shared, (d.handlers c).removed baseDomain session after))) :
    Leaves 1 d c session after :=
  ⟨1, _, baseDomain, le_rfl, .one trivial taken, by simp [Daemon.move], rfl, rfl⟩

private theorem leaves_later {bound : Nat} {phase : Phase} {after : AfterRemove}
    (taken : d.step (.proceed c) = some (d.move c (shared, { d.handlers c with phase })))
    (rest : Leaves bound (d.move c (shared, { d.handlers c with phase })) c session after) :
    Leaves (bound + 1) d c session after := by
  obtain ⟨count, u, baseDomain, fewer, ran, past, channels, main⟩ := rest
  refine ⟨count + 1, u, baseDomain, by omega, .cons trivial taken ran, ?_, channels, main⟩
  rw [past]
  cases after <;> rfl

private theorem phase_move (d : Daemon) (c : ConnId) (shared : Shared) (handler : Handler) :
    ((d.move c (shared, handler)).handlers c).phase = handler.phase := by
  simp [Daemon.move]

/-- **A removal finishes.** It takes its handler five steps at most, whatever
the state is. -/
theorem removal_finishes {after : AfterRemove} : ∀ (stage : RemoveStage) (d : Daemon),
    d.main ≠ .exited → (d.handlers c).phase = .removing stage session after →
      Leaves stage.remaining d c session after
  | .registry, _, running, phase => leaves_later (step_proceed_removing running phase)
      (removal_finishes .owners _ running (phase_move _ _ _ _))
  | .owners, _, running, phase => leaves_later (step_proceed_removing running phase)
      (removal_finishes .acknowledgements _ running (phase_move _ _ _ _))
  | .acknowledgements, _, running, phase => leaves_later (step_proceed_removing running phase)
      (removal_finishes .idleCheck _ running (phase_move _ _ _ _))
  | .idleCheck, d, running, phase => by
    have taken := step_proceed_removing running phase
    rw [removeSection] at taken
    split at taken
    · exact leaves_later taken (removal_finishes .idleWrite _ running (phase_move _ _ _ _))
    · obtain ⟨count, u, baseDomain, few, rest⟩ := leaves_last taken
      exact ⟨count, u, baseDomain, Nat.le_succ_of_le few, rest⟩
  | .idleWrite, _, running, phase => leaves_last (step_proceed_removing running phase)
termination_by stage => stage.remaining
decreasing_by all_goals decide


/-! ### Why a route is taken out -/

/-- In the run `past` from `start`, handler `c` resolved a Stop to `route` and
made the notifier for it. -/
def Resolved (start : Daemon) (past : List Label) (c : ConnId) (route : Route)
    (notify : NotifyId) : Prop :=
  ∃ before after w requestId selector, past = before ++ .proceed c :: after ∧
    Run Daemon.step Unrestricted start before w ∧
    (w.handlers c).phase = .resolving requestId selector ∧
    w.shared.registry.resolve selector = some route ∧ w.shared.nextNotify = notify

/-- In the run `past`, handler `c` read a request that says so. -/
def Asked (past : List Label) (c : ConnId) (message : ClientMessage) : Prop :=
  ∃ envelope, .read c (.ok envelope) ∈ past ∧ envelope.message = message

/-- In the run `past`, handler `c` found its client gone. -/
def Disconnected (past : List Label) (c : ConnId) : Prop :=
  ∃ error, .read c (.error error) ∈ past ∧ isDisconnect error = true

/-- What brought a handler where it is, in the run `past` from `start`. -/
def Recorded (start : Daemon) (past : List Label) (c : ConnId) : Phase → Prop
  | .removing _ session after =>
    match after with
    | .unregistered _ => Asked past c (.unregister session)
    | .acknowledged => Asked past c (.terminateAcknowledged session)
    | .disconnected => Disconnected past c
    | .stopped _ route notify => Resolved start past c route notify
  | .notifying _ route notify | .locating _ route notify | .terminating _ route notify _
  | .waiting _ route notify _ _ | .replying _ _ (.finishStop route notify) =>
    Resolved start past c route notify
  | .clearing _ => Asked past c .kill
  | _ => True

variable {start : Daemon} {phase : Phase} {notify : NotifyId}

theorem Asked.mono {message : ClientMessage} (asked : Asked past c message) :
    Asked (past ++ more) c message := by
  obtain ⟨envelope, member, same⟩ := asked
  exact ⟨envelope, List.mem_append_left more member, same⟩

theorem Disconnected.mono (gone : Disconnected past c) : Disconnected (past ++ more) c := by
  obtain ⟨error, member, disconnect⟩ := gone
  exact ⟨error, List.mem_append_left more member, disconnect⟩

theorem Resolved.mono (resolved : Resolved start past c route notify) :
    Resolved start (past ++ more) c route notify := by
  obtain ⟨before, after, w, requestId, selector, rfl, rest⟩ := resolved
  exact ⟨before, after ++ more, w, requestId, selector, by simp, rest⟩

theorem Recorded.mono (recorded : Recorded start past c phase) :
    Recorded start (past ++ more) c phase := by
  cases phase with
  | removing stage session after =>
    cases after with
    | unregistered | acknowledged => exact Asked.mono recorded
    | disconnected => exact Disconnected.mono recorded
    | stopped => exact Resolved.mono recorded
  | notifying | locating | terminating | waiting => exact Resolved.mono recorded
  | replying _ _ after =>
    cases after with
    | finishStop => exact Resolved.mono recorded
    | _ => trivial
  | clearing => exact Asked.mono recorded
  | _ => trivial

theorem HandlerStep.recorded (taken : HandlerStep d c label shared handler)
    (ran : Run Daemon.step Unrestricted start past d)
    (recorded : Recorded start past c (d.handlers c).phase) :
    Recorded start (past ++ [label]) c handler.phase := by
  have kept : Recorded start (past ++ [label]) c (d.handlers c).phase := recorded.mono
  have last : label ∈ past ++ [label] := by simp
  cases taken with
  | unregister _ message | acknowledge _ message | kill _ message => exact ⟨_, last, message⟩
  | disconnected _ disconnect => exact ⟨_, last, disconnect⟩
  | acknowledgeIgnored => exact kept
  | resolved phase found => exact ⟨past, [], d, _, _, rfl, ran, phase, found, rfl⟩
  | removedRoutes phase | removedOwner phase | acknowledged phase | foundEmpty phase
  | notified phase | located phase | unlocated phase | timedOut phase | terminated phase
  | woken phase =>
    rw [phase] at kept
    exact kept
  | @foundBusy _ after phase | @markedIdle _ after phase =>
    rw [phase] at kept
    cases after with
    | stopped => exact kept
    | _ => trivial
  | _ => trivial

theorem recorded_of_run (ran : Run Daemon.step Unrestricted start labels d)
    (initial : ∀ c, start.handlers c = ⟨.absent, none⟩) (c : ConnId) :
    Recorded start labels c (d.handlers c).phase := by
  have kept := ran.historyInvariant
    (fun past d => Run Daemon.step Unrestricted start past d ∧
      ∀ c, Recorded start past c (d.handlers c).phase)
    ⟨.nil, fun c => by rw [initial c]; trivial⟩ ?_
  · exact kept.2 c
  · intro past d label d' ⟨ran, recorded⟩ _ taken
    refine ⟨.snoc ran trivial taken, fun c => ?_⟩
    rcases (change_of_step taken).handlers c with same | ⟨_, fresh⟩ | moved
    · rw [same]
      exact (recorded c).mono
    · rw [fresh]
      trivial
    · exact moved.recorded ran (recorded c)

/-- The reasons for which a step takes routes of `session` out of the registry,
after the run `past` from `start` to `d`. -/
inductive Reason (start : Daemon) (past : List Label) (d : Daemon) (label : Label)
    (session : UInt64) : Prop where
  | owner {c : ConnId} (actor : label.actor = some c)
      (owned : (d.handlers c).owned = some session)
      (reason : Asked past c (.unregister session) ∨ Asked past c (.terminateAcknowledged session) ∨
        Disconnected past c)
  | stop {c : ConnId} {route : Route} {notify : NotifyId} (actor : label.actor = some c)
      (owner : route.ownerSession = session) (resolved : Resolved start past c route notify)
  | kill {c : ConnId} (actor : label.actor = some c) (asked : Asked past c .kill)
  | cloudflaredExited (broadcast : label = .fatalClear)

theorem HandlerStep.removes (taken : HandlerStep d c label shared handler)
    (wellFormed : d.shared.registry.WellFormed) (live : d.shared.registry.Live route)
    (gone : ¬ shared.registry.Live route) :
    (∃ after, (d.handlers c).phase = .removing .registry route.ownerSession after) ∨
      ∃ requestId, (d.handlers c).phase = .clearing requestId := by
  cases taken with
  | registered _ addable =>
    exact absurd ((RouteRegistry.live_insertRoute addable.freeSlug).mpr (.inr live)) gone
  | @removedRoutes session after phase =>
    left
    rw [Shared.removeRoutes, RouteRegistry.live_removeSession wellFormed] at gone
    have same : route.ownerSession = session := by
      by_contra other
      exact gone ⟨live, other⟩
    exact ⟨after, same ▸ phase⟩
  | acknowledged =>
    simp only [Shared.acknowledge] at gone
    split at gone <;> exact absurd live gone
  | cleared phase => exact .inr ⟨_, phase⟩
  | _ => exact absurd live gone

/-- Every removal of a live route has a reason in the run. -/
theorem reason_of_step (taken : d.step label = some d') (holds : SessionsHold d)
    (recorded : ∀ c, Recorded start past c (d.handlers c).phase)
    (live : d.shared.registry.Live route) (gone : ¬ d'.shared.registry.Live route) :
    Reason start past d label route.ownerSession := by
  rcases (change_of_step taken).shared with ⟨c, handler, moved⟩ | ⟨_, _, _, same⟩ | ⟨isClear, _⟩
  · have actor := moved.actor
    have record := recorded c
    rcases moved.removes holds.wellFormed live gone with ⟨after, phase⟩ | ⟨requestId, phase⟩
    · have own := (holds.removing phase).2.2
      rw [phase] at record
      cases after with
      | unregistered => exact .owner actor own (.inl record)
      | acknowledged => exact .owner actor own (.inr (.inl record))
      | disconnected => exact .owner actor own (.inr (.inr record))
      | stopped => exact .stop actor own record
    · rw [phase] at record
      exact .kill actor record
  · rw [same] at gone
    exact absurd live gone
  · exact .cloudflaredExited isClear

/-! ### Whole runs -/

/-- A handler that is answering an Unregister gets there by itself, and can then
send the answer as soon as the channel has a slot for it. -/
theorem answering_progress (running : d.main ≠ .exited)
    (answering : (d.handlers c).phase.Answering requestId session) :
    ∃ count u, count ≤ 5 ∧ Run Daemon.step Unrestricted d (List.replicate count (.proceed c)) u ∧
      (u.handlers c).phase = .replying requestId (.unregistered session) .release ∧
      ((u.channels c).admits (.handler c) = true →
        (u.step (.send c)).isSome = true) := by
  rcases answering with ⟨stage, phase⟩ | phase
  · obtain ⟨count, u, baseDomain, few, ran, past, channels, main⟩ :=
      removal_finishes stage d running phase
    have bound : stage.remaining ≤ 5 := by cases stage <;> decide
    exact ⟨count, u, few.trans bound, ran, past, reply_enabled (main ▸ running) past⟩
  · exact ⟨0, d, Nat.zero_le 5, .nil, phase, reply_enabled running phase⟩

/-- A client that was sent `Registered` and asks to unregister for the first time
is on its way to `Unregistered`. -/
theorem answering_of_unregister {baseDomain : String} {now : Instant}
    {envelope : Envelope ClientMessage}
    (ran : Run Daemon.step NoWrap (.start baseDomain now) labels d)
    (sent : SentRegistered d c session) (unended : ∀ label ∈ labels, label.ends c session = false)
    (message : envelope.message = .unregister session)
    (taken : d.step (.read c (.ok envelope)) = some d') :
    (d'.handlers c).phase.Answering envelope.requestId session := by
  have keeps := keeps_of_sentRegistered ran sent unended
  have moved := (change_of_step taken).moved rfl
  generalize d'.handlers c = handler at moved ⊢
  generalize d'.shared = shared at moved
  cases moved with
  | unregister _ same owned =>
    obtain rfl := ClientMessage.unregister.inj (same.symm.trans message)
    exact .inl ⟨.registry, rfl⟩
  | unregisterRefused _ same foreign =>
    obtain rfl := ClientMessage.unregister.inj (same.symm.trans message)
    exact absurd keeps.owned foreign
  | _ => simp_all

/-- **Ownership is exclusive and stable.** In every run with fewer than `2^64`
Register attempts: no number is handed out twice; a session has one route at
most, over the whole run; it has one owner at most; a client that was sent
`Registered` and asks to unregister for the first time is answered with
`Unregistered` and nothing else; and a route leaves the registry only on its own
client's request or disconnect, on a Stop of its session, on Kill, or when
`cloudflared` has exited. -/
theorem session_ownership (baseDomain : String) (now : Instant) :
    (∀ labels d label d' c session more v last v' other,
      Run Daemon.step Unrestricted (.start baseDomain now) labels d →
      d.step label = some d' → HandsOut d d' c session →
      Run Daemon.step Unrestricted d' more v → v.step last = some v' →
      registerAttempts (labels ++ label :: (more ++ [last])) < 2 ^ 64 →
      ¬ HandsOut v v' other session) ∧
    (∀ labels d more v route other,
      Run Daemon.step Unrestricted (.start baseDomain now) labels d →
      Run Daemon.step Unrestricted d more v → registerAttempts (labels ++ more) < 2 ^ 64 →
      d.shared.registry.Live route → v.shared.registry.Live other →
      other.ownerSession = route.ownerSession → other = route) ∧
    (∀ labels d c other session,
      Run Daemon.step Unrestricted (.start baseDomain now) labels d →
      registerAttempts labels < 2 ^ 64 → (d.handlers c).owned = some session →
      (d.handlers other).owned = some session → c = other) ∧
    (∀ labels d c session envelope d',
      Run Daemon.step Unrestricted (.start baseDomain now) labels d →
      registerAttempts labels < 2 ^ 64 → SentRegistered d c session →
      (∀ label ∈ labels, label.ends c session = false) →
      envelope.message = .unregister session → d.step (.read c (.ok envelope)) = some d' →
      ∀ more v, Run Daemon.step Unrestricted d' more v →
        Answer d' c envelope.requestId session more v ∧
        (v.main ≠ .exited → (v.handlers c).phase.Answering envelope.requestId session →
          ∃ count u, count ≤ 5 ∧
            Run Daemon.step Unrestricted v (List.replicate count (.proceed c)) u ∧
            (u.handlers c).phase =
              .replying envelope.requestId (.unregistered session) .release ∧
            ((u.channels c).admits (.handler c) = true →
              (u.step (.send c)).isSome = true))) ∧
    (∀ labels d label d' route,
      Run Daemon.step Unrestricted (.start baseDomain now) labels d →
      registerAttempts labels < 2 ^ 64 → d.step label = some d' →
      d.shared.registry.Live route → ¬ d'.shared.registry.Live route →
      Reason (.start baseDomain now) labels d label route.ownerSession) := by
  have start := sessionsHold_start baseDomain now
  refine ⟨?_, ?_, ?_, ?_, ?_⟩
  · intro labels d label d' c session more v last v' other ran taken hands rest final few
    obtain ⟨ran, after⟩ := parts_noWrap ran (.cons trivial taken (.snoc rest trivial final)) few
    have one : Run Daemon.step Unrestricted d [label] d' := .one trivial taken
    obtain ⟨first, after⟩ :=
      Run.parts (show Run Daemon.step NoWrap d ([label] ++ (more ++ [last])) v' from after) one
    obtain ⟨rest, last⟩ := after.parts rest
    have holds := start.run (ran.append first)
    have issued := holds.issued_of_session (session_of_claims hands.2)
    exact HandsOut.once (issued.run rest) final last.of_one.1
  · intro labels d more v route other ran rest few live otherLive same
    obtain ⟨ran, rest⟩ := parts_noWrap ran rest few
    have holds := start.run ran
    exact ((holds.onlyRoute live).run holds rest).only other otherLive same
  · intro labels d c other session ran few owned otherOwned
    exact (start.run (run_noWrap ran few)).owner_unique owned otherOwned
  · intro labels d c session envelope d' ran few sent unended message taken more v rest
    have ran := run_noWrap ran few
    have answering := answering_of_unregister ran sent unended message taken
    have absent := fun c later =>
      @Change.absent d d' c _ (change_of_step taken) (start.run ran).absent later
    exact ⟨.run absent answering rest, answering_progress⟩
  · intro labels d label d' route ran few taken live gone
    have recorded := recorded_of_run ran fun _ => rfl
    exact reason_of_step taken (start.run (run_noWrap ran few)) recorded live gone


/-- Client `c` asks to stop a route, whose owner does not answer in time. -/
def stopLabels (c : ConnId) (slug : String) : List Label :=
  [.accept, .read c (.ok (Envelope.new (some 2) (.stop (.slug slug)))), .proceed c, .proceed c,
    .proceed c, .send c, .advance remoteStopTimeout, .timeout c]

/-- The daemon when client 1 is about to remove client 0's route. -/
def stoppingDaemon : Daemon :=
  (execute Daemon.step oneRoute (stopLabels 1 "app")).get (by decide)

/-- The daemon when client 1 has removed client 0's route. -/
def stoppedDaemon : Daemon :=
  (execute Daemon.step stoppingDaemon (removalLabels 1)).get (by decide)

/-- Client 0's route goes because of client 1's Stop, and client 0's Unregister
is answered all the same. -/
theorem unregister_after_stop :
    ∃ labels label d d' v, stoppingDaemon.step label = some d ∧
      Reason (.start "example.com" 0) labels stoppingDaemon label 1 ∧
      stoppedDaemon.step (.read 0 (.ok (Envelope.new (some 3) (.unregister 1)))) = some d' ∧
      Answer d' 0 (some 3) 1 (removalLabels 0 ++ [.send 0]) v ∧
      (v.channels 0).sent.map Envelope.message =
        [.registered 1 "app" "http://127.0.0.1:3000" "https://app.example.com",
          .terminate .remoteStop, .unregistered 1] := by
  have first : Run Daemon.step Unrestricted (.start "example.com" 0)
      (registrationLabels 0 3000 "app") oneRoute := run_to_execute _
  have stop : Run Daemon.step Unrestricted oneRoute (stopLabels 1 "app") stoppingDaemon :=
    run_to_execute _
  have removal : Run Daemon.step Unrestricted stoppingDaemon (removalLabels 1) stoppedDaemon :=
    run_to_execute _
  have stopping := first.append stop
  have stopped := stopping.append removal
  obtain ⟨_, _, _, answers, reasons⟩ := session_ownership "example.com" 0
  have reason := reasons _ _ (.proceed 1) _ ⟨"app", ⟨.localhost, 3000⟩, 1, 42, 0, 0⟩ stopping
    (by decide) rfl (by decide) (by decide)
  have rest := @run_to_execute _ _ Daemon.step
    ((stoppedDaemon.step (.read 0 (.ok (Envelope.new (some 3) (.unregister 1))))).get (by decide))
    (removalLabels 0 ++ [.send 0]) (by decide)
  have answer := (answers _ _ 0 1 (Envelope.new (some 3) (.unregister 1)) _ stopped (by decide)
    ⟨_, List.mem_cons_self, rfl⟩ (by decide) rfl rfl _ _ rest).1
  exact ⟨_, _, _, _, _, rfl, reason, rfl, answer, rfl⟩

end CfFw
