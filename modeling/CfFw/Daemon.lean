import CfFw.Registry
import Mathlib.Logic.Function.Basic

/-! The daemon of `daemon/mod.rs` as a state machine. Tasks are interleaved at
their await points: no lock is held across one, so each critical section is one
step, and so is each send on a channel and each read of a frame. The network,
the clock, the random source and `cloudflared` act through the labels of steps. -/
namespace CfFw
open Std

/-- `daemon/mod.rs::CHANNEL_CAPACITY`. -/
def channelCapacity : Nat := 32

/-- A connection, and with it the `mpsc` channel to its client. -/
abbrev ConnId := Nat

/-- One `Arc<Notify>`. -/
abbrev NotifyId := Nat

/-! ### Shared state -/

/-- `daemon/mod.rs::Shared`. A sender is known by its connection; `notifyCalls`
counts the calls of `notify_waiters` on each `Notify`, as tokio does; `shutdown`
says whether the token is cancelled. -/
structure Shared where
  registry : RouteRegistry
  owners : ExtTreeMap UInt64 ConnId
  acknowledgements : ExtTreeMap UInt64 NotifyId
  nextNotify : NotifyId
  notifyCalls : NotifyId → Nat
  nextSession : UInt64
  shuttingDown : Bool
  idleSince : Option Instant
  baseDomain : String
  shutdown : Bool

namespace Shared

/-- `Shared::new`. -/
def new (baseDomain : String) : Shared where
  registry := .new
  owners := ∅
  acknowledgements := ∅
  nextNotify := 0
  notifyCalls := fun _ => 0
  nextSession := 1
  shuttingDown := false
  idleSince := none
  baseDomain := baseDomain
  shutdown := false

/-- `Shared::mark_active`. -/
def markActive (shared : Shared) : Shared := { shared with idleSince := none }

/-- The write at the end of `Shared::mark_idle_if_empty`. -/
def markIdle (shared : Shared) (now : Instant) : Shared :=
  { shared with idleSince := shared.idleSince.or (some now) }

/-- The registry section of `Shared::remove_session`. -/
def removeRoutes (shared : Shared) (session : UInt64) : Shared :=
  { shared with registry := (shared.registry.removeSession session).2 }

/-- The owners section of `Shared::remove_session`. -/
def removeOwner (shared : Shared) (session : UInt64) : Shared :=
  { shared with owners := shared.owners.erase session }

/-- The acknowledgements section of `Shared::remove_session`: the notifier that
is taken out wakes its waiters. -/
def acknowledge (shared : Shared) (session : UInt64) : Shared :=
  match shared.acknowledgements[session]? with
  | none => shared
  | some notify =>
    { shared with
      acknowledgements := shared.acknowledgements.erase session
      notifyCalls := Function.update shared.notifyCalls notify (shared.notifyCalls notify + 1) }

end Shared

/-! ### Connection handlers -/

/-- The await points of `Shared::remove_session`. -/
inductive RemoveStage where
  | registry
  | owners
  | acknowledgements
  | idleCheck
  | idleWrite
  deriving DecidableEq

/-- What a handler does once `remove_session` is done. -/
inductive AfterRemove where
  | unregistered (requestId : Option UInt64)
  | acknowledged
  | disconnected
  | stopped (requestId : Option UInt64) (route : Route) (notify : NotifyId)
  deriving DecidableEq

/-- What a handler does once its reply is queued. `cancelLater` holds on to the
senders that `kill_daemon` cloned. -/
inductive AfterReply where
  | resume
  | startStats (route : Route)
  | release
  | finishStop (route : Route) (notify : NotifyId)
  | cancelLater (owners : List ConnId)
  deriving DecidableEq

/-- Where a handler waits. The constructors carry the local variables that are
still used. -/
inductive Phase where
  | absent
  | reading
  | registering (requestId : Option UInt64) (port : UInt16) (slug : Option String) (pid : UInt32)
      (session : UInt64)
  | publishing (requestId : Option UInt64) (route : Route)
  | activating (requestId : Option UInt64) (route : Route)
  | removing (stage : RemoveStage) (session : UInt64) (after : AfterRemove)
  | listing (requestId : Option UInt64)
  | resolving (requestId : Option UInt64) (selector : StopSelector)
  | notifying (requestId : Option UInt64) (route : Route) (notify : NotifyId)
  | locating (requestId : Option UInt64) (route : Route) (notify : NotifyId)
  | terminating (requestId : Option UInt64) (route : Route) (notify : NotifyId) (owner : ConnId)
  | waiting (requestId : Option UInt64) (route : Route) (notify : NotifyId) (seen : Nat)
      (deadline : Instant)
  | clearing (requestId : Option UInt64)
  | snapshotting (requestId : Option UInt64) (routeCount : Nat)
  | broadcasting (requestId : Option UInt64) (routeCount : Nat) (owners remaining : List ConnId)
  | replying (requestId : Option UInt64) (message : ServerMessage) (after : AfterReply)
  | draining
  | returned (result : Result Unit)

/-- One run of `handle_connection`: where it waits and its `owned_session`. -/
structure Handler where
  phase : Phase
  owned : Option UInt64

/-- `daemon/mod.rs::is_disconnect`. -/
def isDisconnect : FwError → Bool
  | .io kind _ => kind = .unexpectedEof || kind = .brokenPipe || kind = .connectionReset ||
      kind = .connectionAborted
  | _ => false

/-- `daemon/mod.rs::error_message`. -/
def errorMessage (error : FwError) : ServerMessage :=
  let code := match error with
    | .invalidPort _ => ErrorCode.invalidPort
    | .invalidSlug _ _ => .invalidSlug
    | .duplicateSlug _ => .duplicateSlug
    | .duplicatePort _ _ => .duplicatePort
    | .noActiveForwards => .noActiveForwards
    | _ => .internal
  .error code error.display

/-- The reply to requests that come too late. -/
def shuttingDownMessage : ServerMessage := .error .daemonShuttingDown "fw daemon is shutting down"

/-- The reply to a selector that resolves to nothing. -/
def routeNotFoundMessage (selector : StopSelector) : ServerMessage :=
  let selector := match selector with
    | .slug value => value
    | .port value => toString value
  .error .routeNotFound s!"no active forward matches \"{selector}\""

/-- The reply to a registration. -/
def registeredMessage (route : Route) (baseDomain : String) : ServerMessage :=
  let view := route.view baseDomain
  .registered route.ownerSession view.slug view.localUrl view.publicUrl

namespace Handler

/-- The handler of a new connection. -/
def fresh : Handler := ⟨.reading, none⟩

/-- Enters `send_response`. -/
def respond (handler : Handler) (requestId : Option UInt64) (message : ServerMessage)
    (after : AfterReply) : Handler :=
  { handler with phase := .replying requestId message after }

/-- Enters `remove_session`. -/
def remove (handler : Handler) (session : UInt64) (after : AfterRemove) : Handler :=
  { handler with phase := .removing .registry session after }

/-- Leaves the loop of `handle_connection` through its `break`. -/
def leave (handler : Handler) : Handler :=
  match handler.owned with
  | some session => handler.remove session .disconnected
  | none => { handler with phase := .draining }

/-- Starts waiting for the notifier, now that it is `notified`. -/
def await (handler : Handler) (shared : Shared) (now : Instant) (requestId : Option UInt64)
    (route : Route) (notify : NotifyId) : Handler :=
  { handler with
    phase := .waiting requestId route notify (shared.notifyCalls notify) (now + remoteStopTimeout) }

/-- Goes on after `remove_session`. -/
def removed (handler : Handler) (baseDomain : String) (session : UInt64) : AfterRemove → Handler
  | .unregistered requestId => handler.respond requestId (.unregistered session) .release
  | .acknowledged => ⟨.reading, none⟩
  | .disconnected => { handler with phase := .draining }
  | .stopped requestId route notify =>
    handler.respond requestId (.stopped (route.view baseDomain)) (.finishStop route notify)

end Handler

/-- The arms of the `match` in `handle_connection`, up to their first await. -/
def handleMessage (shared : Shared) (handler : Handler) (requestId : Option UInt64) :
    ClientMessage → Shared × Handler
  | .register port slug pid =>
    if handler.owned.isSome || shared.shuttingDown then
      (shared, handler.respond requestId shuttingDownMessage .resume)
    else
      ({ shared with nextSession := shared.nextSession + 1 },
        { handler with phase := .registering requestId port slug pid shared.nextSession })
  | .unregister session =>
    if handler.owned = some session then
      (shared, handler.remove session (.unregistered requestId))
    else (shared, handler.respond requestId
      (.error .invalidRequest "session is not owned by this connection") .resume)
  | .terminateAcknowledged session =>
    if handler.owned = some session then (shared, handler.remove session .acknowledged)
    else (shared, handler)
  | .list => (shared, { handler with phase := .listing requestId })
  | .stop selector => (shared, { handler with phase := .resolving requestId selector })
  | .kill =>
    if shared.shuttingDown then (shared, handler.respond requestId shuttingDownMessage .resume)
    else ({ shared with shuttingDown := true }, { handler with phase := .clearing requestId })

/-- What `handle_connection` does with the outcome of `read_frame`. -/
def handleRead (shared : Shared) (handler : Handler) :
    Result (Envelope ClientMessage) → Shared × Handler
  | .ok envelope => handleMessage shared handler envelope.requestId envelope.message
  | .error error =>
    if isDisconnect error then (shared, handler.leave)
    else (shared, { handler with phase := .returned (.error error) })

/-- The section of `handle_connection` that registers, under the registry lock. -/
def registerSection (shared : Shared) (handler : Handler) (rng : DrawStream) (stamp : Stamp) :
    Option (Shared × Handler) :=
  match handler.phase with
  | .registering requestId port slug pid session =>
    match shared.registry.registerWithRng port slug session pid rng stamp with
    | (.ok route, registry, _) =>
      some ({ shared with registry }, ⟨.publishing requestId route, some session⟩)
    | (.error error, registry, _) =>
      some ({ shared with registry }, handler.respond requestId (errorMessage error) .resume)
  | _ => none

/-- The sections of `Shared::remove_session`, each up to the next await. -/
def removeSection (shared : Shared) (now : Instant) (handler : Handler) (session : UInt64)
    (after : AfterRemove) : RemoveStage → Shared × Handler
  | .registry =>
    (shared.removeRoutes session, { handler with phase := .removing .owners session after })
  | .owners =>
    (shared.removeOwner session, { handler with phase := .removing .acknowledgements session after })
  | .acknowledgements =>
    (shared.acknowledge session, { handler with phase := .removing .idleCheck session after })
  | .idleCheck =>
    if shared.registry.isEmpty then
      (shared, { handler with phase := .removing .idleWrite session after })
    else (shared, handler.removed shared.baseDomain session after)
  | .idleWrite => (shared.markIdle now, handler.removed shared.baseDomain session after)

/-- The other sections of a handler, each up to the next await. -/
def lockedSection (c : ConnId) (shared : Shared) (now : Instant) (handler : Handler) :
    Option (Shared × Handler) :=
  match handler.phase with
  | .publishing requestId route =>
    some ({ shared with owners := shared.owners.insert route.ownerSession c },
      { handler with phase := .activating requestId route })
  | .activating requestId route =>
    some (shared.markActive, handler.respond requestId (registeredMessage route shared.baseDomain)
      (.startStats route))
  | .removing stage session after => some (removeSection shared now handler session after stage)
  | .listing requestId =>
    some (shared, handler.respond requestId
      (.routeList (shared.registry.list shared.baseDomain)) .resume)
  | .resolving requestId selector =>
    match shared.registry.resolve selector with
    | none => some (shared, handler.respond requestId (routeNotFoundMessage selector) .resume)
    | some route =>
      some ({ shared with nextNotify := shared.nextNotify + 1 },
        { handler with phase := .notifying requestId route shared.nextNotify })
  | .notifying requestId route notify =>
    some ({ shared with
        acknowledgements := shared.acknowledgements.insert route.ownerSession notify },
      { handler with phase := .locating requestId route notify })
  | .locating requestId route notify =>
    match shared.owners[route.ownerSession]? with
    | some owner => some (shared, { handler with phase := .terminating requestId route notify owner })
    | none => some (shared, handler.await shared now requestId route notify)
  | .waiting requestId route notify seen _ =>
    if shared.notifyCalls notify = seen then none
    else some (shared, handler.respond requestId (.stopped (route.view shared.baseDomain))
      (.finishStop route notify))
  | .clearing requestId =>
    let (routes, registry) := shared.registry.clear
    some ({ shared with registry }, { handler with phase := .snapshotting requestId routes.length })
  | .broadcasting requestId routeCount owners [] =>
    some (shared, handler.respond requestId (.killAccepted routeCount) (.cancelLater owners))
  | _ => none

/-- The senders in the owners map. -/
def Shared.ownerSenders (shared : Shared) : List ConnId := shared.owners.toList.map Prod.snd

/-- `kill_daemon` clones the owners; `order` is the order its loop will see. -/
def snapshotSection (shared : Shared) (handler : Handler) (order : List ConnId) : Option Handler :=
  match handler.phase with
  | .snapshotting requestId routeCount =>
    if order.isPerm shared.ownerSenders then
      some { handler with phase := .broadcasting requestId routeCount order order }
    else none
  | _ => none

/-- `REMOTE_STOP_TIMEOUT` has passed; the timeout looks at the notifier first. -/
def timeoutSection (shared : Shared) (now : Instant) (handler : Handler) : Option Handler :=
  match handler.phase with
  | .waiting requestId route notify seen deadline =>
    if shared.notifyCalls notify = seen ∧ deadline ≤ now then
      some (handler.remove route.ownerSession (.stopped requestId route notify))
    else none
  | _ => none

/-- What a handler is sending, and on whose channel. -/
def outgoing (c : ConnId) : Phase → Option (ConnId × Envelope ServerMessage)
  | .replying requestId message _ => some (c, Envelope.new requestId message)
  | .terminating _ _ _ owner => some (owner, Envelope.new none (.terminate .remoteStop))
  | .broadcasting _ _ _ (next :: _) => some (next, Envelope.new none (.terminate .daemonKill))
  | _ => none

/-- The handler after a send, which the channel accepted or, being closed, did
not. Only `send_response` looks at which. -/
def afterSend (shared : Shared) (now : Instant) (handler : Handler) (accepted : Bool) : Handler :=
  match handler.phase with
  | .replying _ _ after =>
    if accepted then
      ⟨.reading, match after with
        | .release => none
        | _ => handler.owned⟩
    else { handler with phase := .returned (.error (.protocol "IPC writer closed")) }
  | .terminating requestId route notify _ => handler.await shared now requestId route notify
  | .broadcasting requestId routeCount owners (_ :: rest) =>
    { handler with phase := .broadcasting requestId routeCount owners rest }
  | _ => handler

/-! ### Channels and writer tasks -/

/-- The writer task of a connection. -/
inductive Writer where
  | receiving
  | writing (envelope : Envelope ServerMessage)
  | ended (result : Result Unit)

/-- A task that sends on a channel: the handler of a connection, a statistics task,
known by its route with the counters in it, or `run`. -/
inductive Sender where
  | handler (c : ConnId)
  | stats (route : Route)
  | main
  deriving DecidableEq

/-- A connection's `mpsc` channel with its receiver, the writer task: everything
ever sent on it in order, and how much of that the writer has received. `waiting` are
the senders that found no slot free for them, in the order in which they came. -/
structure Channel where
  sent : List (Envelope ServerMessage)
  received : Nat
  writer : Writer
  waiting : List Sender

namespace Channel

/-- The channel of a new connection. -/
def fresh : Channel := ⟨[], 0, .receiving, []⟩

/-- Whether the receiver is gone. -/
def closed (channel : Channel) : Bool :=
  match channel.writer with
  | .ended _ => true
  | _ => false

/-- The free slots go to the senders that wait, the first of them first, and what is left
to one that has just come. -/
def admits (channel : Channel) (sender : Sender) : Bool :=
  channel.waiting.idxOf sender < channelCapacity - (channel.sent.length - channel.received)

/-- `Sender::send`: nothing while there is no slot for the sender, and otherwise the
channel afterwards and whether it accepted the envelope. -/
def offer (channel : Channel) (sender : Sender) (envelope : Envelope ServerMessage) :
    Option (Channel × Bool) :=
  if channel.closed then some (channel, false)
  else if channel.admits sender then
    some ({ channel with
      sent := channel.sent ++ [envelope], waiting := channel.waiting.erase sender }, true)
  else none

/-- A sender that finds no slot takes its place behind those that wait already. -/
def queue (channel : Channel) (sender : Sender) : Option Channel :=
  if channel.closed || channel.admits sender || channel.waiting.contains sender then none
  else some { channel with waiting := channel.waiting ++ [sender] }

/-- `Receiver::recv` yields the next envelope. -/
def take (channel : Channel) : Option Channel :=
  match channel.writer, channel.sent[channel.received]? with
  | .receiving, some envelope =>
    some { channel with received := channel.received + 1, writer := .writing envelope }
  | _, _ => none

/-- `write_frame` is done; an error ends the writer task. -/
def wrote (channel : Channel) (result : Result Unit) : Option Channel :=
  match channel.writer, result with
  | .writing _, .ok () => some { channel with writer := .receiving }
  | .writing _, .error error => some { channel with writer := .ended (.error error) }
  | _, _ => none

/-- `Receiver::recv` yields `None`: the channel is empty and no sender is left. -/
def finish (channel : Channel) (hasSender : Bool) : Option Channel :=
  match channel.writer with
  | .receiving =>
    if channel.received = channel.sent.length ∧ hasSender = false then
      some { channel with writer := .ended (.ok ()) }
    else none
  | _ => none

end Channel

/-- Whether a handler holds a sender of the connection `target`. -/
def Handler.holdsSender (handler : Handler) (c target : ConnId) : Bool :=
  match handler.phase with
  | .absent | .draining | .returned _ => false
  | .terminating _ _ _ owner => owner = target || c = target
  | .broadcasting _ _ owners _ => target ∈ owners || c = target
  | .replying _ _ (.cancelLater owners) => target ∈ owners || c = target
  | _ => c = target

/-! ### Background tasks -/

/-- The await points of a statistics task. A tick may come at any time. -/
inductive StatsPhase where
  | ticking
  | checking
  | reporting (sample : MetricsSample)

/-- A task of `spawn_stats`. -/
structure StatsTask where
  connection : ConnId
  route : Route
  phase : StatsPhase

/-- The task sends a report about the route. -/
def StatsTask.reports (task : StatsTask) (route : Route) : Bool :=
  match task.phase with
  | .reporting _ => task.route = route
  | _ => false

/-- The supervising loop of `run`, with `broadcast_fatal` inlined. -/
inductive MainPhase where
  | supervising
  | polling
  | snapshotting (details : String)
  | broadcasting (details : String) (owners remaining : List ConnId)
  | clearing (details : String) (owners : List ConnId)
  | finishing
  | exited

/-- What `try_wait_exit` reports; `details` is the text `run` makes of an exit. -/
inductive Poll where
  | running
  | exited (details : String)
  | failed (error : FwError)

/-- The whole daemon once `run` has spawned its tasks. -/
structure Daemon where
  shared : Shared
  now : Instant
  accepted : Nat
  accepting : Bool
  handlers : ConnId → Handler
  channels : ConnId → Channel
  stats : List StatsTask
  cancelTimers : List Instant
  idleMonitor : Bool
  main : MainPhase
  fatalError : Option FwError

/-- The labels of steps: which task goes on, and what it is given from outside. -/
inductive Label where
  | accept
  | acceptEnds
  | read (c : ConnId) (outcome : Result (Envelope ClientMessage))
  | register (c : ConnId) (rng : DrawStream) (stamp : Stamp)
  | proceed (c : ConnId)
  | snapshot (c : ConnId) (order : List ConnId)
  | timeout (c : ConnId)
  | queue (sender : Sender) (c : ConnId)
  | send (c : ConnId)
  | drained (c : ConnId)
  | take (c : ConnId)
  | wrote (c : ConnId) (result : Result Unit)
  | writerEnds (c : ConnId)
  | statsTick (index : Nat)
  | statsCheck (index : Nat) (sample : MetricsSample)
  | statsSend (index : Nat)
  | supervise
  | poll (outcome : Poll)
  | fatalSnapshot (order : List ConnId)
  | fatalSend
  | fatalClear
  | exit
  | idleTick
  | idleStops
  | signal
  | cancelTimer
  | advance (duration : Instant)

namespace Daemon

/-- The daemon when `run` enters its loop: `mark_idle_if_empty` has found the
registry empty and started the idle clock. -/
def start (baseDomain : String) (now : Instant) : Daemon where
  shared := (Shared.new baseDomain).markIdle now
  now := now
  accepted := 0
  accepting := true
  handlers := fun _ => ⟨.absent, none⟩
  channels := fun _ => .fresh
  stats := []
  cancelTimers := []
  idleMonitor := true
  main := .supervising
  fatalError := none

/-- Whether any sender of a connection's channel is left: in its own handler, in
the owners map, in a statistics task, or cloned by a Stop, a Kill or `run`. A send that
waits for a slot holds on to its sender. -/
def hasSender (d : Daemon) (c : ConnId) : Bool :=
  !(d.channels c).waiting.isEmpty ||
    (List.range d.accepted).any (fun other => (d.handlers other).holdsSender other c) ||
    d.shared.ownerSenders.contains c || d.stats.any (fun task => task.connection = c) ||
    match d.main with
    | .broadcasting _ owners _ => owners.contains c
    | .clearing _ owners => owners.contains c
    | _ => false

/-- The statistics task that a queued reply starts. -/
def startedStats (c : ConnId) (handler : Handler) (accepted : Bool) : List StatsTask :=
  match handler.phase with
  | .replying _ _ (.startStats route) => if accepted then [⟨c, route, .ticking⟩] else []
  | _ => []

/-- The timer that a queued `KillAccepted` starts. -/
def startedTimers (handler : Handler) (now : Instant) (accepted : Bool) : List Instant :=
  match handler.phase with
  | .replying _ _ (.cancelLater _) => if accepted then [now + 250000000] else []
  | _ => []

/-- Puts a handler and the shared state back. -/
def move (d : Daemon) (c : ConnId) (next : Shared × Handler) : Daemon :=
  { d with shared := next.1, handlers := Function.update d.handlers c next.2 }

/-- A step of a handler at one of its sends. -/
def sendStep (d : Daemon) (c : ConnId) : Option Daemon :=
  match outgoing c (d.handlers c).phase with
  | none => none
  | some (target, envelope) =>
    match (d.channels target).offer (.handler c) envelope with
    | none => none
    | some (channel, accepted) =>
      some { d with
        handlers := Function.update d.handlers c (afterSend d.shared d.now (d.handlers c) accepted)
        channels := Function.update d.channels target channel
        stats := d.stats ++ startedStats c (d.handlers c) accepted
        cancelTimers := d.cancelTimers ++ startedTimers (d.handlers c) d.now accepted }

/-- A step of a handler at `writer_task.await`. -/
def drainedStep (d : Daemon) (c : ConnId) : Option Daemon :=
  match (d.handlers c).phase, (d.channels c).writer with
  | .draining, .ended result =>
    some (d.move c (d.shared, { d.handlers c with phase := .returned result }))
  | _, _ => none

/-- A step of a handler that waits for a frame. -/
def readStep (d : Daemon) (c : ConnId) (outcome : Result (Envelope ClientMessage)) :
    Option Daemon :=
  match (d.handlers c).phase with
  | .reading => some (d.move c (handleRead d.shared (d.handlers c) outcome))
  | _ => none

/-- A step of a statistics task in the given phase. -/
def statsStep (d : Daemon) (index : Nat) : Label → Option Daemon
  | .statsTick _ =>
    match d.stats[index]? with
    | some ⟨c, route, .ticking⟩ => some { d with stats := d.stats.set index ⟨c, route, .checking⟩ }
    | _ => none
  | .statsCheck _ sample =>
    match d.stats[index]? with
    | some ⟨c, route, .checking⟩ =>
      if (d.shared.registry.routeForSlug route.slug).isNone then
        some { d with stats := d.stats.eraseIdx index }
      else some { d with stats := d.stats.set index ⟨c, route, .reporting sample⟩ }
    | _ => none
  | .statsSend _ =>
    match d.stats[index]? with
    | some ⟨c, route, .reporting sample⟩ =>
      match (d.channels c).offer (.stats route)
        (Envelope.new none (.stats route.ownerSession sample)) with
      | none => none
      | some (_, false) => some { d with stats := d.stats.eraseIdx index }
      | some (channel, true) =>
        some { d with
          channels := Function.update d.channels c channel
          stats := d.stats.set index ⟨c, route, .ticking⟩ }
    | _ => none
  | _ => none

/-- A step of `run`: the head of its loop, a poll, or a step of
`broadcast_fatal`. -/
def mainStep (d : Daemon) : Label → Option Daemon
  | .supervise =>
    match d.main with
    | .supervising =>
      if d.shared.shutdown then
        some { d with shared := { d.shared with shuttingDown := true }, main := .finishing }
      else some { d with main := .polling }
    | _ => none
  | .poll outcome =>
    match d.main, outcome with
    | .polling, .running => some { d with main := .supervising }
    | .polling, .exited details =>
      some { d with
        shared := { d.shared with shuttingDown := true }, main := .snapshotting details }
    | .polling, .failed error =>
      some { d with
        shared := { d.shared with shutdown := true }
        main := .supervising
        fatalError := some error }
    | _, _ => none
  | .fatalSnapshot order =>
    match d.main with
    | .snapshotting details =>
      if order.isPerm d.shared.ownerSenders then
        some { d with main := .broadcasting details order order }
      else none
    | _ => none
  | .fatalSend =>
    match d.main with
    | .broadcasting details owners (next :: rest) =>
      match (d.channels next).offer .main
        (Envelope.new none (.fatal .cloudflaredExited details)) with
      | none => none
      | some (channel, _) =>
        some { d with
          channels := Function.update d.channels next channel
          main := .broadcasting details owners rest }
    | .broadcasting details owners [] => some { d with main := .clearing details owners }
    | _ => none
  | .fatalClear =>
    match d.main with
    | .clearing details _ =>
      some { d with
        shared := { d.shared with registry := d.shared.registry.clear.2, shutdown := true }
        main := .supervising
        fatalError := some (.cloudflaredExited details) }
    | _ => none
  | .exit =>
    match d.main with
    | .finishing => if d.accepting || d.idleMonitor then none else some { d with main := .exited }
    | _ => none
  | _ => none

/-- Whether a task is about to send on the channel of `c`. -/
def sends (d : Daemon) (c : ConnId) : Sender → Bool
  | .handler other => (outgoing other (d.handlers other).phase).any fun next => next.1 = c
  | .stats route => d.stats.any fun task => task.connection = c && task.reports route
  | .main =>
    match d.main with
    | .broadcasting _ _ (next :: _) => next = c
    | _ => false

/-- A task whose send finds no slot begins to wait for one. -/
def queueStep (d : Daemon) (sender : Sender) (c : ConnId) : Option Daemon :=
  if d.sends c sender then
    ((d.channels c).queue sender).map fun channel =>
      { d with channels := Function.update d.channels c channel }
  else none

/-- Whether the idle clock has run out. -/
def idleExpired (d : Daemon) : Bool :=
  d.shared.idleSince.any fun since => decide (daemonIdleTimeout ≤ d.now - since)

/-- A tick of `idle_monitor`. -/
def idleTick (d : Daemon) : Daemon :=
  if d.idleExpired then
    { d with
      shared := { d.shared with shuttingDown := true, shutdown := true }, idleMonitor := false }
  else d

/-- One step of the daemon. When `run` has returned, the process is gone and
nothing steps. -/
def step (d : Daemon) (label : Label) : Option Daemon :=
  match d.main with
  | .exited => none
  | _ =>
    match label with
    | .accept =>
      if d.accepting then
        some { d with
          accepted := d.accepted + 1
          handlers := Function.update d.handlers d.accepted .fresh
          channels := Function.update d.channels d.accepted .fresh }
      else none
    | .acceptEnds => if d.accepting then some { d with accepting := false } else none
    | .read c outcome => d.readStep c outcome
    | .register c rng stamp =>
      (registerSection d.shared (d.handlers c) rng stamp).map (d.move c)
    | .proceed c => (lockedSection c d.shared d.now (d.handlers c)).map (d.move c)
    | .snapshot c order =>
      (snapshotSection d.shared (d.handlers c) order).map fun handler => d.move c (d.shared, handler)
    | .timeout c =>
      (timeoutSection d.shared d.now (d.handlers c)).map fun handler => d.move c (d.shared, handler)
    | .queue sender c => d.queueStep sender c
    | .send c => d.sendStep c
    | .drained c => d.drainedStep c
    | .take c =>
      (d.channels c).take.map fun channel =>
        { d with channels := Function.update d.channels c channel }
    | .wrote c result =>
      ((d.channels c).wrote result).map fun channel =>
        { d with channels := Function.update d.channels c channel }
    | .writerEnds c =>
      ((d.channels c).finish (d.hasSender c)).map fun channel =>
        { d with channels := Function.update d.channels c channel }
    | .statsTick index => d.statsStep index label
    | .statsCheck index _ => d.statsStep index label
    | .statsSend index => d.statsStep index label
    | .idleTick => if d.idleMonitor then some d.idleTick else none
    | .idleStops =>
      if d.idleMonitor && d.shared.shutdown then some { d with idleMonitor := false } else none
    | .signal => some { d with shared := { d.shared with shutdown := true } }
    | .cancelTimer =>
      match d.cancelTimers with
      | deadline :: rest =>
        if deadline ≤ d.now then
          some { d with shared := { d.shared with shutdown := true }, cancelTimers := rest }
        else none
      | [] => none
    | .advance duration => some { d with now := d.now + duration }
    | _ => d.mainStep label

end Daemon

end CfFw
