import CfFw.Cleanup
import CfFw.KillFinal

/-! The first frame a client reads. A handler puts the sender of its client in
the owners map before it queues `Registered`, so a Stop, a Kill or the broadcast
of `run` can get in between. If none of them does, the first envelope on a
channel is the reply to the client's first request. -/
namespace CfFw
open Std Transition

variable {d d' v : Daemon} {c other : ConnId} {label : Label} {shared : Shared}
  {handler : Handler} {request : ClientMessage} {requestId : Option UInt64}

/-- The requests that `run_start`, `run_list`, `run_stop` and `run_kill` open
their connections with. -/
def ClientMessage.opens : ClientMessage → Bool
  | .register _ _ _ | .list | .stop _ | .kill => true
  | .unregister _ | .terminateAcknowledged _ => false

/-- The message is a reply to the request. -/
def ServerMessage.answers : ServerMessage → ClientMessage → Bool
  | .registered _ _ _ _, .register _ _ _ => true
  | .routeList _, .list => true
  | .stopped _, .stop _ => true
  | .killAccepted _, .kill => true
  | .error _ _, _ => true
  | _, _ => false

/-- The handler has put its client's sender in the owners map and not queued
`Registered` yet. -/
def Phase.unannounced : Phase → Bool
  | .activating _ _ | .replying _ _ (.startStats _) => true
  | _ => false

/-- Nothing is pushed to client `c` between its entry in the owners map and the
first envelope on its channel. -/
def InOrder (c : ConnId) (d : Daemon) (label : Label) : Prop :=
  d.pushes label = some c → (d.channels c).sent = [] → (d.handlers c).phase.unannounced = false

instance (c : ConnId) (d : Daemon) (label : Label) : Decidable (InOrder c d label) :=
  inferInstanceAs (Decidable (_ → _ → _))

/-- The handler is at work on the request. -/
def Phase.Serves (requestId : Option UInt64) (request : ClientMessage) : Phase → Prop
  | .registering id _ _ _ _ | .publishing id _ | .activating id _ =>
    id = requestId ∧ request.isRegister = true
  | .listing id => id = requestId ∧ request = .list
  | .resolving id _ | .notifying id _ _ | .locating id _ _ | .terminating id _ _ _
  | .waiting id _ _ _ _ | .removing _ _ (.stopped id _ _) =>
    id = requestId ∧ ∃ selector, request = .stop selector
  | .clearing id | .snapshotting id _ | .broadcasting id _ _ _ => id = requestId ∧ request = .kill
  | .replying id message _ => id = requestId ∧ message.answers request = true
  | _ => False

/-- A Stop or a Kill is going to push to client `c`. -/
def Phase.aims (c : ConnId) : Phase → Prop
  | .terminating _ _ _ owner => owner = c
  | .broadcasting _ _ _ remaining => c ∈ remaining
  | _ => False

/-- Somebody knows the sender of client `c`, or is going to push to it. -/
inductive Aimed (d : Daemon) (c : ConnId) : Prop where
  | owner (session : UInt64) (sender : d.shared.owners[session]? = some c)
  | handler (other : ConnId) (aims : (d.handlers other).phase.aims c)
  | main (details : String) (owners remaining : List ConnId)
      (phase : d.main = .broadcasting details owners remaining) (member : c ∈ remaining)

/-! ### Who is aimed at -/

/-- A handler aims at senders it finds in the owners map. -/
theorem HandlerStep.aims (taken : HandlerStep d other label shared handler)
    (aims : handler.phase.aims c) : Aimed d c := by
  cases taken with
  | acknowledgeIgnored => exact .handler other aims
  | located phase found =>
    cases aims
    exact .owner _ found
  | snapshotted phase permuted =>
    obtain ⟨session, sender⟩ := Shared.mem_ownerSenders.mp (permuted.mem_iff.mp aims)
    exact .owner session sender
  | broadcastOne phase =>
    refine .handler other ?_
    rw [phase]
    exact List.mem_cons_of_mem _ aims
  | @foundBusy _ after | @markedIdle _ after => cases after <;> cases aims
  | _ => cases aims

/-- A handler that enters its client's sender in the owners map is unannounced
then. -/
theorem Change.enters {session : UInt64} (change : Change d label d')
    (sender : d'.shared.owners[session]? = some c) :
    d.shared.owners[session]? = some c ∨ (d'.handlers c).phase.unannounced = true := by
  cases change with
  | @handler acting shared handler taken sharedEq handlersEq =>
    rw [sharedEq] at sender
    rcases taken.owners session with same | ⟨requestId, route, phase, _, entered⟩ | ⟨_, _, none⟩
    · exact .inl (same ▸ sender)
    · obtain rfl := Option.some.inj (entered.symm.trans sender)
      rw [handlersEq, Function.update_self]
      refine .inr ?_
      cases taken with
      | published => rfl
      | _ => simp_all
    · rw [none] at sender
      cases sender
  | accepted _ sharedEq | flags _ _ sharedEq | fatalCleared _ sharedEq =>
    rw [sharedEq] at sender
    exact .inl sender

/-- A client comes to be aimed at when its handler enters its sender. -/
theorem aimed_of_step (change : Change d label d') (step : TaskStep d label d')
    (aimed : Aimed d' c) : Aimed d c ∨ (d'.handlers c).phase.unannounced = true := by
  cases aimed with
  | owner session sender => exact (change.enters sender).imp (.owner session) id
  | handler other aims =>
    rcases change.handlers other with same | ⟨_, fresh⟩ | moved
    · exact .inl (.handler other (same ▸ aims))
    · rw [fresh] at aims
      cases aims
    · exact .inl (moved.aims aims)
  | main details owners remaining phase member =>
    have main := step.main
    rw [phase] at main
    generalize shape : MainPhase.broadcasting details owners remaining = next at main
    cases main with
    | kept => exact .inl (.main details owners remaining shape.symm member)
    | snapshotted _ permuted =>
      cases shape
      obtain ⟨session, sender⟩ := Shared.mem_ownerSenders.mp (permuted.mem_iff.mp member)
      exact .inl (.owner session sender)
    | sent before =>
      cases shape
      exact .inl (.main _ _ _ before (List.mem_cons_of_mem _ member))
    | _ => cases shape

private theorem aimed_of_pushes (pushes : d.pushes label = some c) : Aimed d c := by
  unfold Daemon.pushes at pushes
  split at pushes
  · rename_i other
    split at pushes <;> cases pushes
    · rename_i phase
      exact .handler other (by rw [phase]; rfl)
    · rename_i phase
      exact .handler other (by rw [phase]; exact List.mem_cons_self)
  · split at pushes <;> cases pushes
    rename_i phase
    exact .main _ _ _ phase List.mem_cons_self
  · cases pushes

/-- The first envelope reaches a channel as a reply of its own handler, as a push,
or from a statistics task. -/
theorem silent_of_step (step : TaskStep d label d') (silent : (d.channels c).sent = []) :
    (d'.channels c).sent = [] ∨
      (label = .send c ∧ ∃ requestId message after,
        (d.handlers c).phase = .replying requestId message after) ∨
      d.pushes label = some c ∨ ∃ task ∈ d.stats, task.connection = c := by
  have delivery := step.channel c
  generalize d'.channels c = channel at delivery ⊢
  cases delivery with
  | kept sent => exact .inl (sent.trans silent)
  | opened => exact .inl rfl
  | reply phase => exact .inr (.inl ⟨rfl, _, _, _, phase⟩)
  | stopSent phase | killSent phase | fatalSent phase =>
    exact .inr (.inr (.inl (by simp only [Daemon.pushes, phase])))
  | statsSent task => exact .inr (.inr (.inr ⟨_, List.mem_of_getElem? task, rfl⟩))

/-- The statistics tasks of client `c` are started by its handler's replies. -/
theorem stats_of_step (step : TaskStep d label d') (silent : ∀ task ∈ d.stats, task.connection ≠ c) :
    (∀ task ∈ d'.stats, task.connection ≠ c) ∨
      (label = .send c ∧ ∃ requestId message after,
        (d.handlers c).phase = .replying requestId message after) := by
  have stats := step.stats
  -- A task that goes on is still a task of the same client.
  have moved : ∀ {index : Nat} {task : StatsTask} {phase : StatsPhase},
      d.stats[index]? = some task →
        ∀ other ∈ d.stats.set index ⟨task.connection, task.route, phase⟩,
          other.connection ≠ c := by
    intro index task phase found other member
    rcases List.mem_or_eq_of_mem_set member with old | rfl
    · exact silent other old
    · exact silent task (List.mem_of_getElem? found)
  generalize d'.stats = tasks at stats ⊢
  cases stats with
  | kept => exact .inl silent
  | @started starter _ _ _ phase =>
    by_cases here : starter = c
    · subst here
      exact .inr ⟨rfl, _, _, _, phase⟩
    · left
      intro task member
      rw [List.mem_append, List.mem_singleton] at member
      rcases member with old | rfl
      · exact silent task old
      · exact here
  | ticked task | found task | reported task => exact .inl (moved task)
  | gone | refused => exact .inl fun task member => silent task (List.mem_of_mem_eraseIdx member)

/-! ### Before the first request -/

/-- The handler is not at work on a request. -/
def Phase.waits : Phase → Bool
  | .absent | .reading | .draining | .returned _ => true
  | _ => false

theorem Phase.announced_of_waits {phase : Phase} (waits : phase.waits = true) :
    phase.unannounced = false := by
  cases phase with
  | absent | reading | draining | returned => rfl
  | _ => cases waits

/-- Client `c` has made no request yet. -/
structure Untouched (d : Daemon) (c : ConnId) : Prop where
  waits : (d.handlers c).phase.waits = true
  free : (d.handlers c).owned = none
  silent : (d.channels c).sent = []
  unaimed : ¬ Aimed d c
  noStats : ∀ task ∈ d.stats, task.connection ≠ c

theorem HandlerStep.waits (taken : HandlerStep d c label shared handler)
    (waits : (d.handlers c).phase.waits = true) (free : (d.handlers c).owned = none)
    (unasked : ∀ envelope, label ≠ .read c (.ok envelope)) :
    handler.phase.waits = true ∧ handler.owned = none := by
  cases taken with
  | left => exact ⟨rfl, rfl⟩
  | readFailed | drained => exact ⟨rfl, free⟩
  | disconnected _ _ owned =>
    rw [free] at owned
    cases owned
  | registerRefused | registerStarted | unregister | unregisterRefused | acknowledge
  | acknowledgeIgnored | list | stop | killRefused | kill => exact absurd rfl (unasked _)
  | registered phase | registerFailed phase | published phase | activated phase
  | removedRoutes phase | removedOwner phase | acknowledged phase | foundEmpty phase
  | foundBusy phase | markedIdle phase | listed phase | unresolved phase | resolved phase
  | notified phase | located phase | unlocated phase | woken phase | cleared phase
  | broadcasted phase | snapshotted phase | timedOut phase | replied phase | released phase
  | replyFailed phase | terminated phase | broadcastOne phase =>
    rw [phase] at waits
    cases waits

theorem Untouched.step (untouched : Untouched d c) (taken : d.step label = some d')
    (unasked : ∀ envelope, label ≠ .read c (.ok envelope)) : Untouched d' c := by
  have change := change_of_step taken
  have step := taskStep_of_step taken
  have replies : ∀ {requestId message after},
      (d.handlers c).phase ≠ .replying requestId message after := by
    intro requestId message after phase
    have waits := untouched.waits
    rw [phase] at waits
    cases waits
  have handler : (d'.handlers c).phase.waits = true ∧ (d'.handlers c).owned = none := by
    rcases change.handlers c with same | ⟨_, fresh⟩ | moved
    · rw [same]
      exact ⟨untouched.waits, untouched.free⟩
    · rw [fresh]
      exact ⟨rfl, rfl⟩
    · exact moved.waits untouched.waits untouched.free unasked
  refine ⟨handler.1, handler.2, ?_, fun aimed => ?_, ?_⟩
  · rcases silent_of_step step untouched.silent with silent | ⟨_, _, _, _, phase⟩ | pushes |
      ⟨task, member, mine⟩
    · exact silent
    · exact absurd phase replies
    · exact absurd (aimed_of_pushes pushes) untouched.unaimed
    · exact absurd mine (untouched.noStats task member)
  · rcases aimed_of_step change step aimed with old | unannounced
    · exact untouched.unaimed old
    · rw [Phase.announced_of_waits handler.1] at unannounced
      cases unannounced
  · rcases stats_of_step step untouched.noStats with silent | ⟨_, _, _, _, phase⟩
    · exact silent
    · exact absurd phase replies

theorem untouched_start (baseDomain : String) (now : Instant) (c : ConnId) :
    Untouched (.start baseDomain now) c where
  waits := rfl
  free := rfl
  silent := rfl
  unaimed aimed := by
    cases aimed with
    | owner session sender => simp [Daemon.start, Shared.markIdle, Shared.new] at sender
    | handler other aims => cases aims
    | main details owners remaining phase => cases phase
  noStats task member := by cases member

/-! ### While the request is served -/

/-- Nothing is sent to client `c` yet, and its handler is at work on the request. -/
structure Awaits (d : Daemon) (c : ConnId) (requestId : Option UInt64) (request : ClientMessage) :
    Prop where
  serves : (d.handlers c).phase.Serves requestId request
  silent : (d.channels c).sent = []
  aimed : Aimed d c → (d.handlers c).phase.unannounced = true
  noStats : ∀ task ∈ d.stats, task.connection ≠ c

/-- The first envelope on the channel of client `c` answers the request. -/
def Answered (d : Daemon) (c : ConnId) (requestId : Option UInt64) (request : ClientMessage) :
    Prop :=
  ∃ first rest, (d.channels c).sent = first :: rest ∧ first.requestId = requestId ∧
    first.message.answers request = true

/-- Nothing will ever be sent to client `c`. -/
structure Cut (d : Daemon) (c : ConnId) : Prop where
  silent : (d.channels c).sent = []
  closed : (d.channels c).closed = true

/-- A handler stays at work on its request until it has queued the reply. -/
theorem HandlerStep.serves (taken : HandlerStep d c label shared handler)
    (serves : (d.handlers c).phase.Serves requestId request) :
    handler.phase.Serves requestId request ∨
      (label = .send c ∧ ∃ message after,
        (d.handlers c).phase = .replying requestId message after) := by
  cases taken with
  | registerRefused phase | registerStarted phase | unregister phase | unregisterRefused phase
  | acknowledge phase | acknowledgeIgnored phase | list phase | stop phase | killRefused phase
  | kill phase | disconnected phase | left phase | readFailed phase | drained phase =>
    rw [phase] at serves
    cases serves
  | registered phase | published phase | resolved phase | notified phase | located phase
  | unlocated phase | terminated phase | timedOut phase | cleared phase | snapshotted phase
  | broadcastOne phase =>
    rw [phase] at serves
    exact .inl serves
  | registerFailed phase | unresolved phase =>
    rw [phase] at serves
    exact .inl ⟨serves.1, rfl⟩
  | activated phase =>
    rw [phase] at serves
    refine .inl ⟨serves.1, ?_⟩
    cases request with
    | register => rfl
    | _ => cases serves.2
  | @removedRoutes _ after phase | @removedOwner _ after phase | @acknowledged _ after phase
  | @foundEmpty _ after phase =>
    rw [phase] at serves
    cases after with
    | stopped => exact .inl serves
    | _ => cases serves
  | @foundBusy _ after phase | @markedIdle _ after phase =>
    rw [phase] at serves
    cases after with
    | stopped =>
      obtain ⟨same, selector, rfl⟩ := serves
      exact .inl ⟨same, rfl⟩
    | _ => cases serves
  | woken phase =>
    rw [phase] at serves
    obtain ⟨same, selector, rfl⟩ := serves
    exact .inl ⟨same, rfl⟩
  | listed phase | broadcasted phase =>
    rw [phase] at serves
    obtain ⟨same, rfl⟩ := serves
    exact .inl ⟨same, rfl⟩
  | @replied _ message after phase | @replyFailed _ message after phase =>
    rw [phase] at serves
    obtain ⟨rfl, _⟩ := serves
    exact .inr ⟨rfl, message, after, phase⟩
  | @released _ message phase =>
    rw [phase] at serves
    obtain ⟨rfl, _⟩ := serves
    exact .inr ⟨rfl, message, _, phase⟩

/-- The handler stays unannounced until it queues its reply. -/
theorem HandlerStep.unannounced (taken : HandlerStep d c label shared handler)
    (unannounced : (d.handlers c).phase.unannounced = true) :
    handler.phase.unannounced = true ∨
      (label = .send c ∧ ∃ requestId message after,
        (d.handlers c).phase = .replying requestId message after) := by
  cases taken with
  | activated => exact .inl rfl
  | replied phase | released phase | replyFailed phase => exact .inr ⟨rfl, _, _, _, phase⟩
  | _ => simp_all [Phase.unannounced]

/-- **Step lemma.** While a request is served, either nothing is sent to its
client or the first envelope is the reply. -/
theorem Awaits.step (awaits : Awaits d c requestId request) (taken : d.step label = some d')
    (present : c ≠ d.accepted) (inOrder : InOrder c d label) :
    Awaits d' c requestId request ∨ Answered d' c requestId request ∨ Cut d' c := by
  have change := change_of_step taken
  have step := taskStep_of_step taken
  by_cases replies : label = .send c ∧
      ∃ id message after, (d.handlers c).phase = .replying id message after
  · -- The handler queues its reply.
    obtain ⟨rfl, id, message, after, phase⟩ := replies
    have serves := awaits.serves
    rw [phase] at serves
    rcases replied_of_step taken phase with ⟨closed, _⟩ | ⟨_, _, sent⟩
    · obtain ⟨closed', same⟩ := step.closed present closed
      exact .inr (.inr ⟨same.trans awaits.silent, closed'⟩)
    · rw [awaits.silent] at sent
      exact .inr (.inl ⟨_, [], sent, serves.1, serves.2⟩)
  · -- Nothing reaches the channel, since nobody but the handler may send on it.
    have unpushed : d.pushes label ≠ some c := by
      intro pushes
      have early := awaits.aimed (aimed_of_pushes pushes)
      rw [inOrder pushes awaits.silent] at early
      cases early
    refine .inl ⟨?_, ?_, fun aimed => ?_, ?_⟩
    · rcases change.handlers c with same | ⟨new, _⟩ | moved
      · rw [same]
        exact awaits.serves
      · exact absurd new present
      · rcases moved.serves awaits.serves with serves | ⟨isSend, message, after, phase⟩
        · exact serves
        · exact absurd ⟨isSend, _, _, _, phase⟩ replies
    · rcases silent_of_step step awaits.silent with silent | sends | pushes | ⟨task, member, mine⟩
      · exact silent
      · exact absurd sends replies
      · exact absurd pushes unpushed
      · exact absurd mine (awaits.noStats task member)
    · rcases aimed_of_step change step aimed with old | unannounced
      · have unannounced := awaits.aimed old
        rcases change.handlers c with same | ⟨new, _⟩ | moved
        · rw [same]
          exact unannounced
        · exact absurd new present
        · exact (moved.unannounced unannounced).resolve_right replies
      · exact unannounced
    · rcases stats_of_step step awaits.noStats with silent | sends
      · exact silent
      · exact absurd sends replies

/-- How the first envelope of client `c` stands, once its request has been read. -/
structure FirstHolds (d : Daemon) (c : ConnId) (requestId : Option UInt64)
    (request : ClientMessage) : Prop where
  absent : ∀ c, d.accepted ≤ c → d.handlers c = ⟨.absent, none⟩
  present : c < d.accepted
  first : Awaits d c requestId request ∨ Answered d c requestId request ∨ Cut d c

theorem FirstHolds.step (holds : FirstHolds d c requestId request)
    (taken : d.step label = some d') (inOrder : InOrder c d label) :
    FirstHolds d' c requestId request where
  absent _ later := (change_of_step taken).absent holds.absent later
  present := holds.present.trans_le (change_of_step taken).accepted_le
  first := by
    have step := taskStep_of_step taken
    have present := holds.present.ne
    rcases holds.first with awaits | ⟨first, rest, sent, same, answers⟩ | ⟨silent, closed⟩
    · exact awaits.step taken present inOrder
    · obtain ⟨more, history⟩ := step.sent present
      exact .inr (.inl ⟨first, rest ++ more, by rw [history, sent]; rfl, same, answers⟩)
    · obtain ⟨closed', same⟩ := step.closed present closed
      exact .inr (.inr ⟨same.trans silent, closed'⟩)

/-- A handler starts to serve the request it reads. -/
theorem HandlerStep.serves_read {envelope : Envelope ClientMessage}
    (taken : HandlerStep d c (.read c (.ok envelope)) shared handler)
    (opens : envelope.message.opens = true) :
    handler.phase.Serves envelope.requestId envelope.message := by
  cases taken with
  | registerRefused _ message | registerStarted _ message =>
    rw [message]
    exact ⟨rfl, rfl⟩
  | unregister _ message | unregisterRefused _ message | acknowledge _ message
  | acknowledgeIgnored _ message =>
    rw [message] at opens
    cases opens
  | list _ message | killRefused _ message | kill _ message =>
    rw [message]
    exact ⟨rfl, rfl⟩
  | stop _ message => exact ⟨rfl, _, message⟩

theorem Untouched.awaits {envelope : Envelope ClientMessage} (untouched : Untouched d c)
    (opens : envelope.message.opens = true) (taken : d.step (.read c (.ok envelope)) = some d') :
    Awaits d' c envelope.requestId envelope.message := by
  have change := change_of_step taken
  have step := taskStep_of_step taken
  have moved := change.moved rfl
  have unpushed : d.pushes (.read c (.ok envelope)) ≠ some c := by
    intro pushes
    cases pushes
  refine ⟨moved.serves_read opens, ?_, fun aimed => ?_, ?_⟩
  · rcases silent_of_step step untouched.silent with silent | ⟨isSend, _⟩ | pushes |
      ⟨task, member, mine⟩
    · exact silent
    · cases isSend
    · exact absurd pushes unpushed
    · exact absurd mine (untouched.noStats task member)
  · rcases aimed_of_step change step aimed with old | unannounced
    · exact absurd old untouched.unaimed
    · exact unannounced
  · rcases stats_of_step step untouched.noStats with silent | ⟨isSend, _⟩
    · exact silent
    · cases isSend

/-- **The first frame a client reads is the reply to its request**, in every run
in which no Terminate or Fatal is pushed to it between its entry in the owners
map and its first envelope. -/
theorem first_frame_is_reply {baseDomain : String} {now : Instant} {before after : List Label}
    {envelope : Envelope ClientMessage} {first : Envelope ServerMessage}
    {rest : List (Envelope ServerMessage)}
    (ran : Run Daemon.step Unrestricted (.start baseDomain now) before d)
    (unasked : ∀ earlier, Label.read c (.ok earlier) ∉ before)
    (opens : envelope.message.opens = true) (asked : d.step (.read c (.ok envelope)) = some d')
    (more : Run Daemon.step (InOrder c) d' after v)
    (sent : (v.channels c).sent = first :: rest) :
    first.requestId = envelope.requestId ∧ first.message.answers envelope.message = true := by
  have start := ran.historyInvariant
    (fun past d => (∀ c, d.accepted ≤ c → d.handlers c = ⟨.absent, none⟩) ∧
      ((∀ earlier, Label.read c (.ok earlier) ∉ past) → Untouched d c))
    ⟨fun _ _ => rfl, fun _ => untouched_start baseDomain now c⟩ ?_
  · obtain ⟨absent, untouched⟩ := start
    have untouched := untouched unasked
    have reading := (change_of_step asked).moved rfl
    have present : c < d.accepted := by
      apply Nat.lt_of_not_le
      intro late
      exact reading.present (by rw [absent c late])
    have holds : FirstHolds d' c envelope.requestId envelope.message :=
      ⟨fun _ later => (change_of_step asked).absent absent later,
        present.trans_le (change_of_step asked).accepted_le,
        .inl (untouched.awaits opens asked)⟩
    have kept := more.invariant
      (fun d : Daemon => FirstHolds d c envelope.requestId envelope.message) holds
      fun _ _ _ holds inOrder taken => holds.step taken inOrder
    rcases kept.first with awaits | ⟨head, tail, shape, same, answers⟩ | cut
    · rw [awaits.silent] at sent
      cases sent
    · obtain ⟨rfl, _⟩ := List.cons.inj (shape.symm.trans sent)
      exact ⟨same, answers⟩
    · rw [cut.silent] at sent
      cases sent
  · intro past d label d' ⟨absent, untouched⟩ _ taken
    refine ⟨fun _ later => (change_of_step taken).absent absent later, fun unasked => ?_⟩
    refine (untouched fun earlier member => unasked earlier (by simp [member])).step taken ?_
    rintro earlier rfl
    exact unasked earlier (by simp)

/-- A push that comes in between is the first frame its client reads. -/
theorem push_overtakes_reply (taken : d.step label = some d') (early : ¬ InOrder c d label)
    (alive : (d.channels c).closed = false) :
    ∃ first, (d'.channels c).sent = [first] ∧ first.message.dismisses = true := by
  unfold InOrder at early
  obtain ⟨pushes, early⟩ := Classical.not_imp.mp early
  obtain ⟨silent, _⟩ := Classical.not_imp.mp early
  rcases pushed_of_step taken pushes with closed | ⟨first, dismisses, sent⟩
  · rw [alive] at closed
    cases closed
  · exact ⟨first, by rw [sent, silent]; rfl, dismisses⟩

/-! ### A registration and a Kill -/

/-- Client 0's registration, about to be read. -/
def openingEnvelope : Envelope ClientMessage :=
  Envelope.new (some 1) (.register 3000 (some "app") 42)

/-- The daemon when client 0 has connected. -/
def openedDaemon : Daemon := (Daemon.step (.start "example.com" 0) .accept).get (by decide)

/-- The daemon when client 0's registration has been read. -/
def askedDaemon : Daemon := (openedDaemon.step (.read 0 (.ok openingEnvelope))).get (by decide)

/-- Client 1 kills the daemon, up to the Terminate for client 0. -/
def killLabels : List Label := killRequest ++ [.proceed 1, .snapshot 1 [0], .send 1]

/-- The daemon when client 0 has been sent `Registered`, and then Terminate. -/
def repliedDaemon : Daemon :=
  (execute Daemon.step askedDaemon
    ([.register 0 ⟨[]⟩ ⟨0, 0⟩, .proceed 0, .proceed 0, .send 0] ++ killLabels)).get (by decide)

theorem registered_comes_first :
    ∃ first rest, (repliedDaemon.channels 0).sent = first :: rest ∧ rest ≠ [] ∧
      first.requestId = some 1 ∧ first.message.answers openingEnvelope.message = true := by
  have opened : Run Daemon.step Unrestricted (.start "example.com" 0) [.accept] openedDaemon :=
    run_to_execute _
  have inOrder : Run Daemon.step (InOrder 0) askedDaemon
      ([.register 0 ⟨[]⟩ ⟨0, 0⟩, .proceed 0, .proceed 0, .send 0] ++ killLabels) repliedDaemon :=
    run_to_executeChecked rfl
  exact ⟨_, _, rfl, by simp, first_frame_is_reply opened (by simp) rfl rfl inOrder rfl⟩

/-- A Kill between the entry in the owners map and the reply: client 0 reads
Terminate first. -/
theorem terminate_overtakes_registered :
    ∃ before d d' after v, Run Daemon.step Unrestricted (.start "example.com" 0) before d ∧
      (∀ earlier, Label.read 0 (.ok earlier) ∉ before) ∧
      d.step (.read 0 (.ok openingEnvelope)) = some d' ∧
      Run Daemon.step Unrestricted d' after v ∧
      (v.channels 0).sent = [Envelope.new none (.terminate .daemonKill), Envelope.new (some 1)
        (.registered 1 "app" "http://127.0.0.1:3000" "https://app.example.com")] := by
  have opened : Run Daemon.step Unrestricted (.start "example.com" 0) [.accept] openedDaemon :=
    run_to_execute _
  have rest := @run_to_execute _ _ Daemon.step askedDaemon
    ([.register 0 ⟨[]⟩ ⟨0, 0⟩, .proceed 0] ++ killLabels ++ [.proceed 0, .send 0]) (by decide)
  exact ⟨_, _, _, _, _, opened, by simp, rfl, rest, rfl⟩

end CfFw
