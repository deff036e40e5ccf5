import CfFw.Daemon
import CfFw.RegistryInvariant
import CfFw.Transition

/-! Everything a step of the daemon can do, one constructor for each transition
of a handler. Every invariant is proved from this list; the step function is
unfolded here only. -/
namespace CfFw
open Std

/-- `HandlerStep d c label shared handler`: a step of handler `c` leaves the
shared state and the handler like this. -/
inductive HandlerStep (d : Daemon) (c : ConnId) : Label → Shared → Handler → Prop where
  | registerRefused {envelope : Envelope ClientMessage} {port : UInt16} {slug : Option String}
      {pid : UInt32} (phase : (d.handlers c).phase = .reading)
      (message : envelope.message = .register port slug pid)
      (refused : (d.handlers c).owned.isSome = true ∨ d.shared.shuttingDown = true) :
      HandlerStep d c (.read c (.ok envelope)) d.shared
        ((d.handlers c).respond envelope.requestId shuttingDownMessage .resume)
  | registerStarted {envelope : Envelope ClientMessage} {port : UInt16} {slug : Option String}
      {pid : UInt32} (phase : (d.handlers c).phase = .reading)
      (message : envelope.message = .register port slug pid)
      (free : (d.handlers c).owned = none) (up : d.shared.shuttingDown = false) :
      HandlerStep d c (.read c (.ok envelope))
        { d.shared with nextSession := d.shared.nextSession + 1 }
        ⟨.registering envelope.requestId port slug pid d.shared.nextSession, none⟩
  | unregister {envelope : Envelope ClientMessage} {session : UInt64}
      (phase : (d.handlers c).phase = .reading) (message : envelope.message = .unregister session)
      (owned : (d.handlers c).owned = some session) :
      HandlerStep d c (.read c (.ok envelope)) d.shared
        ⟨.removing .registry session (.unregistered envelope.requestId), some session⟩
  | unregisterRefused {envelope : Envelope ClientMessage} {session : UInt64}
      (phase : (d.handlers c).phase = .reading) (message : envelope.message = .unregister session)
      (foreign : (d.handlers c).owned ≠ some session) :
      HandlerStep d c (.read c (.ok envelope)) d.shared
        ((d.handlers c).respond envelope.requestId
          (.error .invalidRequest "session is not owned by this connection") .resume)
  | acknowledge {envelope : Envelope ClientMessage} {session : UInt64}
      (phase : (d.handlers c).phase = .reading)
      (message : envelope.message = .terminateAcknowledged session)
      (owned : (d.handlers c).owned = some session) :
      HandlerStep d c (.read c (.ok envelope)) d.shared
        ⟨.removing .registry session .acknowledged, some session⟩
  | acknowledgeIgnored {envelope : Envelope ClientMessage} {session : UInt64}
      (phase : (d.handlers c).phase = .reading)
      (message : envelope.message = .terminateAcknowledged session)
      (foreign : (d.handlers c).owned ≠ some session) :
      HandlerStep d c (.read c (.ok envelope)) d.shared (d.handlers c)
  | list {envelope : Envelope ClientMessage} (phase : (d.handlers c).phase = .reading)
      (message : envelope.message = .list) :
      HandlerStep d c (.read c (.ok envelope)) d.shared
        ⟨.listing envelope.requestId, (d.handlers c).owned⟩
  | stop {envelope : Envelope ClientMessage} {selector : StopSelector}
      (phase : (d.handlers c).phase = .reading) (message : envelope.message = .stop selector) :
      HandlerStep d c (.read c (.ok envelope)) d.shared
        ⟨.resolving envelope.requestId selector, (d.handlers c).owned⟩
  | killRefused {envelope : Envelope ClientMessage} (phase : (d.handlers c).phase = .reading)
      (message : envelope.message = .kill) (down : d.shared.shuttingDown = true) :
      HandlerStep d c (.read c (.ok envelope)) d.shared
        ((d.handlers c).respond envelope.requestId shuttingDownMessage .resume)
  | kill {envelope : Envelope ClientMessage} (phase : (d.handlers c).phase = .reading)
      (message : envelope.message = .kill) (up : d.shared.shuttingDown = false) :
      HandlerStep d c (.read c (.ok envelope)) { d.shared with shuttingDown := true }
        ⟨.clearing envelope.requestId, (d.handlers c).owned⟩
  | disconnected {error : FwError} {session : UInt64} (phase : (d.handlers c).phase = .reading)
      (disconnect : isDisconnect error = true) (owned : (d.handlers c).owned = some session) :
      HandlerStep d c (.read c (.error error)) d.shared
        ⟨.removing .registry session .disconnected, some session⟩
  | left {error : FwError} (phase : (d.handlers c).phase = .reading)
      (disconnect : isDisconnect error = true) (free : (d.handlers c).owned = none) :
      HandlerStep d c (.read c (.error error)) d.shared ⟨.draining, none⟩
  | readFailed {error : FwError} (phase : (d.handlers c).phase = .reading)
      (failure : isDisconnect error = false) :
      HandlerStep d c (.read c (.error error)) d.shared
        ⟨.returned (.error error), (d.handlers c).owned⟩
  | registered {rng : DrawStream} {stamp : Stamp} {requestId : Option UInt64} {port : UInt16}
      {slug : Option String} {pid : UInt32} {session : UInt64} {route : Route}
      (phase : (d.handlers c).phase = .registering requestId port slug pid session)
      (addable : d.shared.registry.Addable route) (onPort : route.port = port)
      (owner : route.ownerSession = session)
      (outcome : (d.shared.registry.registerWithRng port slug session pid rng stamp).1 =
        .ok route) :
      HandlerStep d c (.register c rng stamp)
        { d.shared with registry := d.shared.registry.insertRoute route }
        ⟨.publishing requestId route, some session⟩
  | registerFailed {rng : DrawStream} {stamp : Stamp} {requestId : Option UInt64} {port : UInt16}
      {slug : Option String} {pid : UInt32} {session : UInt64} {error : FwError}
      (phase : (d.handlers c).phase = .registering requestId port slug pid session)
      (failed : (d.shared.registry.registerWithRng port slug session pid rng stamp).1 =
        .error error) :
      HandlerStep d c (.register c rng stamp) d.shared
        ((d.handlers c).respond requestId (errorMessage error) .resume)
  | published {requestId : Option UInt64} {route : Route}
      (phase : (d.handlers c).phase = .publishing requestId route) :
      HandlerStep d c (.proceed c)
        { d.shared with owners := d.shared.owners.insert route.ownerSession c }
        ⟨.activating requestId route, (d.handlers c).owned⟩
  | activated {requestId : Option UInt64} {route : Route}
      (phase : (d.handlers c).phase = .activating requestId route) :
      HandlerStep d c (.proceed c) d.shared.markActive
        ((d.handlers c).respond requestId (registeredMessage route d.shared.baseDomain)
          (.startStats route))
  | removedRoutes {session : UInt64} {after : AfterRemove}
      (phase : (d.handlers c).phase = .removing .registry session after) :
      HandlerStep d c (.proceed c) (d.shared.removeRoutes session)
        ⟨.removing .owners session after, (d.handlers c).owned⟩
  | removedOwner {session : UInt64} {after : AfterRemove}
      (phase : (d.handlers c).phase = .removing .owners session after) :
      HandlerStep d c (.proceed c) (d.shared.removeOwner session)
        ⟨.removing .acknowledgements session after, (d.handlers c).owned⟩
  | acknowledged {session : UInt64} {after : AfterRemove}
      (phase : (d.handlers c).phase = .removing .acknowledgements session after) :
      HandlerStep d c (.proceed c) (d.shared.acknowledge session)
        ⟨.removing .idleCheck session after, (d.handlers c).owned⟩
  | foundEmpty {session : UInt64} {after : AfterRemove}
      (phase : (d.handlers c).phase = .removing .idleCheck session after)
      (empty : d.shared.registry.isEmpty = true) :
      HandlerStep d c (.proceed c) d.shared
        ⟨.removing .idleWrite session after, (d.handlers c).owned⟩
  | foundBusy {session : UInt64} {after : AfterRemove}
      (phase : (d.handlers c).phase = .removing .idleCheck session after)
      (busy : d.shared.registry.isEmpty = false) :
      HandlerStep d c (.proceed c) d.shared
        ((d.handlers c).removed d.shared.baseDomain session after)
  | markedIdle {session : UInt64} {after : AfterRemove}
      (phase : (d.handlers c).phase = .removing .idleWrite session after) :
      HandlerStep d c (.proceed c) (d.shared.markIdle d.now)
        ((d.handlers c).removed d.shared.baseDomain session after)
  | listed {requestId : Option UInt64} (phase : (d.handlers c).phase = .listing requestId) :
      HandlerStep d c (.proceed c) d.shared
        ((d.handlers c).respond requestId
          (.routeList (d.shared.registry.list d.shared.baseDomain)) .resume)
  | unresolved {requestId : Option UInt64} {selector : StopSelector}
      (phase : (d.handlers c).phase = .resolving requestId selector)
      (nothing : d.shared.registry.resolve selector = none) :
      HandlerStep d c (.proceed c) d.shared
        ((d.handlers c).respond requestId (routeNotFoundMessage selector) .resume)
  | resolved {requestId : Option UInt64} {selector : StopSelector} {route : Route}
      (phase : (d.handlers c).phase = .resolving requestId selector)
      (found : d.shared.registry.resolve selector = some route) :
      HandlerStep d c (.proceed c) { d.shared with nextNotify := d.shared.nextNotify + 1 }
        ⟨.notifying requestId route d.shared.nextNotify, (d.handlers c).owned⟩
  | notified {requestId : Option UInt64} {route : Route} {notify : NotifyId}
      (phase : (d.handlers c).phase = .notifying requestId route notify) :
      HandlerStep d c (.proceed c)
        { d.shared with
          acknowledgements := d.shared.acknowledgements.insert route.ownerSession notify }
        ⟨.locating requestId route notify, (d.handlers c).owned⟩
  | located {requestId : Option UInt64} {route : Route} {notify : NotifyId} {owner : ConnId}
      (phase : (d.handlers c).phase = .locating requestId route notify)
      (found : d.shared.owners[route.ownerSession]? = some owner) :
      HandlerStep d c (.proceed c) d.shared
        ⟨.terminating requestId route notify owner, (d.handlers c).owned⟩
  | unlocated {requestId : Option UInt64} {route : Route} {notify : NotifyId}
      (phase : (d.handlers c).phase = .locating requestId route notify)
      (missing : d.shared.owners[route.ownerSession]? = none) :
      HandlerStep d c (.proceed c) d.shared
        ((d.handlers c).await d.shared d.now requestId route notify)
  | woken {requestId : Option UInt64} {route : Route} {notify : NotifyId} {seen : Nat}
      {deadline : Instant}
      (phase : (d.handlers c).phase = .waiting requestId route notify seen deadline)
      (called : d.shared.notifyCalls notify ≠ seen) :
      HandlerStep d c (.proceed c) d.shared
        ((d.handlers c).respond requestId (.stopped (route.view d.shared.baseDomain))
          (.finishStop route notify))
  | cleared {requestId : Option UInt64} (phase : (d.handlers c).phase = .clearing requestId) :
      HandlerStep d c (.proceed c) { d.shared with registry := d.shared.registry.clear.2 }
        ⟨.snapshotting requestId d.shared.registry.clear.1.length, (d.handlers c).owned⟩
  | broadcasted {requestId : Option UInt64} {routeCount : Nat} {owners : List ConnId}
      (phase : (d.handlers c).phase = .broadcasting requestId routeCount owners []) :
      HandlerStep d c (.proceed c) d.shared
        ((d.handlers c).respond requestId (.killAccepted routeCount) (.cancelLater owners))
  | snapshotted {requestId : Option UInt64} {routeCount : Nat} {order : List ConnId}
      (phase : (d.handlers c).phase = .snapshotting requestId routeCount)
      (permuted : order.Perm d.shared.ownerSenders) :
      HandlerStep d c (.snapshot c order) d.shared
        ⟨.broadcasting requestId routeCount order order, (d.handlers c).owned⟩
  | timedOut {requestId : Option UInt64} {route : Route} {notify : NotifyId} {seen : Nat}
      {deadline : Instant}
      (phase : (d.handlers c).phase = .waiting requestId route notify seen deadline)
      (silent : d.shared.notifyCalls notify = seen) (late : deadline ≤ d.now) :
      HandlerStep d c (.timeout c) d.shared
        ⟨.removing .registry route.ownerSession (.stopped requestId route notify),
          (d.handlers c).owned⟩
  | replied {requestId : Option UInt64} {message : ServerMessage} {after : AfterReply}
      (phase : (d.handlers c).phase = .replying requestId message after)
      (stays : after ≠ .release) :
      HandlerStep d c (.send c) d.shared ⟨.reading, (d.handlers c).owned⟩
  | released {requestId : Option UInt64} {message : ServerMessage}
      (phase : (d.handlers c).phase = .replying requestId message .release) :
      HandlerStep d c (.send c) d.shared ⟨.reading, none⟩
  | replyFailed {requestId : Option UInt64} {message : ServerMessage} {after : AfterReply}
      (phase : (d.handlers c).phase = .replying requestId message after)
      (gone : (d.channels c).closed = true) :
      HandlerStep d c (.send c) d.shared
        ⟨.returned (.error (.protocol "IPC writer closed")), (d.handlers c).owned⟩
  | terminated {requestId : Option UInt64} {route : Route} {notify : NotifyId} {owner : ConnId}
      (phase : (d.handlers c).phase = .terminating requestId route notify owner) :
      HandlerStep d c (.send c) d.shared
        ((d.handlers c).await d.shared d.now requestId route notify)
  | broadcastOne {requestId : Option UInt64} {routeCount : Nat} {next : ConnId}
      {owners rest : List ConnId}
      (phase : (d.handlers c).phase = .broadcasting requestId routeCount owners (next :: rest)) :
      HandlerStep d c (.send c) d.shared
        ⟨.broadcasting requestId routeCount owners rest, (d.handlers c).owned⟩
  | drained {result : Result Unit} (phase : (d.handlers c).phase = .draining) :
      HandlerStep d c (.drained c) d.shared ⟨.returned result, (d.handlers c).owned⟩

/-- The handler whose step this is. -/
def Label.actor : Label → Option ConnId
  | .read c _ | .register c _ _ | .proceed c | .snapshot c _ | .timeout c | .send c | .drained c =>
    some c
  | _ => none

theorem HandlerStep.actor {d : Daemon} {c : ConnId} {label : Label} {shared : Shared}
    {handler : Handler} (taken : HandlerStep d c label shared handler) : label.actor = some c := by
  cases taken <;> rfl

/-- How a step changes the shared state and the handlers: it is a step of one
handler, a new connection, or a step of a task that at most sets the shutdown
flags or, after `cloudflared` has exited, clears the registry. -/
inductive Change (d : Daemon) (label : Label) (d' : Daemon) : Prop where
  | handler {c : ConnId} {shared : Shared} {handler : Handler}
      (taken : HandlerStep d c label shared handler) (sharedEq : d'.shared = shared)
      (handlersEq : d'.handlers = Function.update d.handlers c handler)
      (acceptedEq : d'.accepted = d.accepted)
  | accepted (isAccept : label = .accept) (sharedEq : d'.shared = d.shared)
      (handlersEq : d'.handlers = Function.update d.handlers d.accepted .fresh)
      (acceptedEq : d'.accepted = d.accepted + 1)
  | flags {shuttingDown shutdown : Bool} (idle : label.actor = none)
      (monotone : d.shared.shuttingDown = true → shuttingDown = true)
      (sharedEq : d'.shared = { d.shared with shuttingDown, shutdown })
      (handlersEq : d'.handlers = d.handlers) (acceptedEq : d'.accepted = d.accepted)
  | fatalCleared (isClear : label = .fatalClear)
      (sharedEq : d'.shared =
        { d.shared with registry := d.shared.registry.clear.2, shutdown := true })
      (handlersEq : d'.handlers = d.handlers) (acceptedEq : d'.accepted = d.accepted)

/-- A step that changes neither the shared state nor a handler. -/
theorem Change.unchanged {d d' : Daemon} {label : Label} (idle : label.actor = none)
    (sharedEq : d'.shared = d.shared) (handlersEq : d'.handlers = d.handlers)
    (acceptedEq : d'.accepted = d.accepted) : Change d label d' :=
  .flags idle id sharedEq handlersEq acceptedEq

/-- One handler before and after a step: untouched, new, or moved by the step. -/
theorem Change.handlers {d d' : Daemon} {label : Label} (change : Change d label d') (c : ConnId) :
    d'.handlers c = d.handlers c ∨ (c = d.accepted ∧ d'.handlers c = .fresh) ∨
      HandlerStep d c label d'.shared (d'.handlers c) := by
  cases change with
  | @handler other shared handler taken sharedEq handlersEq =>
    subst sharedEq
    by_cases here : c = other
    · subst here
      rw [handlersEq, Function.update_self]
      exact .inr (.inr taken)
    · rw [handlersEq, Function.update_of_ne here]
      exact .inl rfl
  | accepted _ _ handlersEq =>
    by_cases here : c = d.accepted
    · subst here
      rw [handlersEq, Function.update_self]
      exact .inr (.inl ⟨rfl, rfl⟩)
    · rw [handlersEq, Function.update_of_ne here]
      exact .inl rfl
  | flags _ _ _ handlersEq => exact .inl (by rw [handlersEq])
  | fatalCleared _ _ handlersEq => exact .inl (by rw [handlersEq])

/-- A step of handler `c` moves handler `c`. -/
theorem Change.moved {d d' : Daemon} {c : ConnId} {label : Label} (change : Change d label d')
    (actor : label.actor = some c) : HandlerStep d c label d'.shared (d'.handlers c) := by
  cases change with
  | handler taken sharedEq handlersEq =>
    obtain rfl := Option.some.inj (taken.actor.symm.trans actor)
    subst sharedEq
    rw [handlersEq, Function.update_self]
    exact taken
  | accepted isAccept =>
    subst isAccept
    cases actor
  | flags idle =>
    rw [idle] at actor
    cases actor
  | fatalCleared isClear =>
    subst isClear
    cases actor

/-- A step of handler `c` moves no other handler. -/
theorem Change.others {d d' : Daemon} {c other : ConnId} {label : Label}
    (change : Change d label d') (actor : label.actor = some c) (different : other ≠ c) :
    d'.handlers other = d.handlers other := by
  cases change with
  | handler taken _ handlersEq =>
    obtain rfl := Option.some.inj (taken.actor.symm.trans actor)
    rw [handlersEq, Function.update_of_ne different]
  | accepted isAccept =>
    subst isAccept
    cases actor
  | flags _ _ _ handlersEq | fatalCleared _ _ handlersEq => rw [handlersEq]

/-- The shared state after a step: that of a handler's step, or the old one up
to the shutdown flags and, after `cloudflared` has exited, the registry. -/
theorem Change.shared {d d' : Daemon} {label : Label} (change : Change d label d') :
    (∃ c handler, HandlerStep d c label d'.shared handler) ∨
      (∃ shuttingDown shutdown, (d.shared.shuttingDown = true → shuttingDown = true) ∧
        d'.shared = { d.shared with shuttingDown, shutdown }) ∨
      (label = .fatalClear ∧ d'.shared =
        { d.shared with registry := d.shared.registry.clear.2, shutdown := true }) := by
  cases change with
  | @handler c shared handler taken sharedEq =>
    subst sharedEq
    exact .inl ⟨c, handler, taken⟩
  | accepted _ sharedEq => exact .inr (.inl ⟨_, _, id, sharedEq⟩)
  | flags _ monotone sharedEq => exact .inr (.inl ⟨_, _, monotone, sharedEq⟩)
  | fatalCleared isClear sharedEq => exact .inr (.inr ⟨isClear, sharedEq⟩)

theorem Change.accepted_le {d d' : Daemon} {label : Label} (change : Change d label d') :
    d.accepted ≤ d'.accepted := by
  cases change with
  | accepted _ _ _ acceptedEq => exact acceptedEq ▸ Nat.le_succ _
  | handler _ _ _ acceptedEq | flags _ _ _ _ acceptedEq | fatalCleared _ _ _ acceptedEq =>
    exact acceptedEq.ge

theorem handlerStep_of_read {d d' : Daemon} {c : ConnId} {outcome : Result (Envelope ClientMessage)}
    (taken : d.readStep c outcome = some d') :
    ∃ shared handler, HandlerStep d c (.read c outcome) shared handler ∧
      d' = d.move c (shared, handler) := by
  unfold Daemon.readStep at taken
  split at taken
  case h_2 => cases taken
  rename_i phase
  cases taken
  refine ⟨_, _, ?_, rfl⟩
  cases outcome with
  | error error =>
    cases disconnect : isDisconnect error with
    | false => simpa [handleRead, disconnect] using HandlerStep.readFailed phase disconnect
    | true =>
      cases owned : (d.handlers c).owned with
      | none =>
        simpa [handleRead, disconnect, Handler.leave, owned] using
          HandlerStep.left phase disconnect owned
      | some session =>
        simpa [handleRead, disconnect, Handler.leave, Handler.remove, owned] using
          HandlerStep.disconnected phase disconnect owned
  | ok envelope =>
    cases message : envelope.message with
    | register port slug pid =>
      by_cases refused : (d.handlers c).owned.isSome = true ∨ d.shared.shuttingDown = true
      · simpa [handleRead, handleMessage, message, refused] using
          HandlerStep.registerRefused phase message refused
      · obtain ⟨free, up⟩ := not_or.mp refused
        have free : (d.handlers c).owned = none := by simpa using free
        have up : d.shared.shuttingDown = false := by simpa using up
        simpa [handleRead, handleMessage, message, free, up] using
          HandlerStep.registerStarted phase message free up
    | unregister session =>
      by_cases owned : (d.handlers c).owned = some session
      · simpa [handleRead, handleMessage, message, owned, Handler.remove] using
          HandlerStep.unregister phase message owned
      · simpa [handleRead, handleMessage, message, owned] using
          HandlerStep.unregisterRefused phase message owned
    | terminateAcknowledged session =>
      by_cases owned : (d.handlers c).owned = some session
      · simpa [handleRead, handleMessage, message, owned, Handler.remove] using
          HandlerStep.acknowledge phase message owned
      · simpa [handleRead, handleMessage, message, owned] using
          HandlerStep.acknowledgeIgnored phase message owned
    | list => simpa [handleRead, handleMessage, message] using HandlerStep.list phase message
    | stop selector => simpa [handleRead, handleMessage, message] using HandlerStep.stop phase message
    | kill =>
      cases down : d.shared.shuttingDown with
      | true =>
        simpa [handleRead, handleMessage, message, down] using
          HandlerStep.killRefused phase message down
      | false =>
        simpa [handleRead, handleMessage, message, down] using HandlerStep.kill phase message down

private theorem handlerStep_of_register {d : Daemon} {c : ConnId} {rng : DrawStream} {stamp : Stamp}
    {next : Shared × Handler}
    (ran : registerSection d.shared (d.handlers c) rng stamp = some next) :
    HandlerStep d c (.register c rng stamp) next.1 next.2 := by
  unfold registerSection at ran
  split at ran
  case h_2 => cases ran
  rename_i requestId port slug pid session phase
  rcases RouteRegistry.registerWithRng_cases d.shared.registry port slug session pid rng stamp with
    ⟨error, rest, failed⟩ | ⟨route, rest, registered, addable, onPort, owner⟩
  · rw [failed] at ran
    cases ran
    exact .registerFailed phase (by rw [failed])
  · rw [registered] at ran
    cases ran
    exact .registered phase addable onPort owner (congrArg Prod.fst registered)

private theorem handlerStep_of_locked {d : Daemon} {c : ConnId} {next : Shared × Handler}
    (ran : lockedSection c d.shared d.now (d.handlers c) = some next) :
    HandlerStep d c (.proceed c) next.1 next.2 := by
  unfold lockedSection at ran
  split at ran
  case h_1 requestId route phase => cases ran; exact .published phase
  case h_2 requestId route phase => cases ran; exact .activated phase
  case h_3 stage session after phase =>
    cases ran
    cases stage with
    | registry => exact .removedRoutes phase
    | owners => exact .removedOwner phase
    | acknowledgements => exact .acknowledged phase
    | idleCheck =>
      cases empty : d.shared.registry.isEmpty with
      | true => simpa [removeSection, empty] using HandlerStep.foundEmpty phase empty
      | false => simpa [removeSection, empty] using HandlerStep.foundBusy phase empty
    | idleWrite => exact .markedIdle phase
  case h_4 requestId phase => cases ran; exact .listed phase
  case h_5 requestId selector phase =>
    cases found : d.shared.registry.resolve selector with
    | none =>
      rw [found] at ran
      cases ran
      exact .unresolved phase found
    | some route =>
      rw [found] at ran
      cases ran
      exact .resolved phase found
  case h_6 requestId route notify phase => cases ran; exact .notified phase
  case h_7 requestId route notify phase =>
    cases found : d.shared.owners[route.ownerSession]? with
    | none =>
      rw [found] at ran
      cases ran
      exact .unlocated phase found
    | some owner =>
      rw [found] at ran
      cases ran
      exact .located phase found
  case h_8 requestId route notify seen deadline phase =>
    split at ran
    · cases ran
    · rename_i called
      cases ran
      exact .woken phase called
  case h_9 requestId phase => cases ran; exact .cleared phase
  case h_10 requestId routeCount owners phase => cases ran; exact .broadcasted phase
  case h_11 => cases ran

private theorem handlerStep_of_snapshot {d : Daemon} {c : ConnId} {order : List ConnId}
    {handler : Handler}
    (ran : snapshotSection d.shared (d.handlers c) order = some handler) :
    HandlerStep d c (.snapshot c order) d.shared handler := by
  unfold snapshotSection at ran
  split at ran
  case h_2 => cases ran
  rename_i requestId routeCount phase
  split at ran
  · rename_i permuted
    cases ran
    exact .snapshotted phase (List.isPerm_iff.mp permuted)
  · cases ran

private theorem handlerStep_of_timeout {d : Daemon} {c : ConnId} {handler : Handler}
    (ran : timeoutSection d.shared d.now (d.handlers c) = some handler) :
    HandlerStep d c (.timeout c) d.shared handler := by
  unfold timeoutSection at ran
  split at ran
  case h_2 => cases ran
  rename_i requestId route notify seen deadline phase
  split at ran
  · rename_i late
    cases ran
    exact .timedOut phase late.1 late.2
  · cases ran

/-- What a send on a channel can do: append to an open channel for a sender whose turn it is,
or leave a closed one as it is. -/
theorem Channel.offer_eq_some {channel next : Channel} {sender : Sender}
    {envelope : Envelope ServerMessage} {accepted : Bool}
    (offered : channel.offer sender envelope = some (next, accepted)) :
    (accepted = true ∧ channel.closed = false ∧ channel.admits sender = true ∧ next = { channel with
        sent := channel.sent ++ [envelope], waiting := channel.waiting.erase sender }) ∨
      (accepted = false ∧ channel.closed = true ∧ next = channel) := by
  unfold Channel.offer at offered
  split at offered
  · rename_i closed
    cases offered
    exact .inr ⟨rfl, closed, rfl⟩
  · rename_i closed
    split at offered
    · rename_i admitted
      cases offered
      exact .inl ⟨rfl, by simpa using closed, admitted, rfl⟩
    · cases offered

theorem Channel.queue_eq_some {channel next : Channel} {sender : Sender}
    (queued : channel.queue sender = some next) :
    channel.closed = false ∧ channel.admits sender = false ∧ sender ∉ channel.waiting ∧
      next = { channel with waiting := channel.waiting ++ [sender] } := by
  unfold Channel.queue at queued
  split at queued
  · cases queued
  · rename_i refused
    cases queued
    simp only [Bool.or_eq_true, List.contains_eq_mem, decide_eq_true_eq, not_or,
      Bool.not_eq_true] at refused
    exact ⟨refused.1.1, refused.1.2, refused.2, rfl⟩

theorem Channel.closed_of_receiving {channel : Channel} (writer : channel.writer = .receiving) :
    channel.closed = false := by
  simp [Channel.closed, writer]

theorem Channel.take_eq_some {channel next : Channel} (took : channel.take = some next) :
    channel.writer = .receiving ∧ channel.received < channel.sent.length ∧ ∃ envelope,
      next = { channel with received := channel.received + 1, writer := .writing envelope } := by
  unfold Channel.take at took
  split at took <;> cases took
  rename_i envelope writer more
  exact ⟨writer, (List.getElem?_eq_some_iff.mp more).1, envelope, rfl⟩

/-- The end of a `write_frame` changes nothing but where the writer task stands. -/
theorem Channel.wrote_eq_some {channel next : Channel} {result : Result Unit}
    (wrote : channel.wrote result = some next) :
    channel.closed = false ∧ ∃ writer, next = { channel with writer := writer } := by
  unfold Channel.wrote at wrote
  split at wrote <;> cases wrote
  all_goals
    rename_i writing
    exact ⟨by simp [Channel.closed, writing], _, rfl⟩

theorem Channel.finish_eq_some {channel next : Channel} {hasSender : Bool}
    (ended : channel.finish hasSender = some next) :
    channel.writer = .receiving ∧ channel.received = channel.sent.length ∧ hasSender = false ∧
      next = { channel with writer := .ended (.ok ()) } := by
  unfold Channel.finish at ended
  split at ended
  · rename_i receiving
    split at ended <;> cases ended
    rename_i empty
    exact ⟨receiving, empty.1, empty.2, rfl⟩
  · cases ended

private theorem handlerStep_of_send {d : Daemon} {c target : ConnId}
    {envelope : Envelope ServerMessage}
    {channel : Channel} {accepted : Bool}
    (sending : outgoing c (d.handlers c).phase = some (target, envelope))
    (offered : (d.channels target).offer (.handler c) envelope = some (channel, accepted)) :
    HandlerStep d c (.send c) d.shared (afterSend d.shared d.now (d.handlers c) accepted) := by
  unfold outgoing at sending
  unfold afterSend
  split at sending
  case h_1 requestId message after phase =>
    cases sending
    rcases Channel.offer_eq_some offered with ⟨rfl, -⟩ | ⟨rfl, closed, -⟩
    · by_cases releases : after = .release
      · subst releases
        exact .released phase
      · cases after with
        | release => exact absurd rfl releases
        | _ => exact .replied phase releases
    · exact .replyFailed phase closed
  case h_2 requestId route notify owner phase =>
    exact .terminated phase
  case h_3 requestId routeCount owners next rest phase =>
    exact .broadcastOne phase
  case h_4 => cases sending

/-- A task that begins to wait changes nothing but the queue of one channel. -/
theorem queued_of_queueStep {d d' : Daemon} {sender : Sender} {c : ConnId}
    (taken : d.queueStep sender c = some d') :
    ∃ channel, d.sends c sender = true ∧ (d.channels c).queue sender = some channel ∧
      d' = { d with channels := Function.update d.channels c channel } := by
  unfold Daemon.queueStep at taken
  split at taken
  · rename_i sending
    obtain ⟨channel, queued, rfl⟩ := Option.map_eq_some_iff.mp taken
    exact ⟨channel, sending, queued, rfl⟩
  · cases taken

/-- **Inversion.** Every step changes the shared state and the handlers in one
of the listed ways. -/
theorem change_of_step {d d' : Daemon} {label : Label} (taken : d.step label = some d') :
    Change d label d' := by
  unfold Daemon.step at taken
  split at taken
  · cases taken
  cases label with
  | accept =>
    dsimp only at taken
    split at taken
    · cases taken
      exact .accepted rfl rfl rfl rfl
    · cases taken
  | acceptEnds =>
    dsimp only at taken
    split at taken
    · cases taken
      exact .unchanged rfl rfl rfl rfl
    · cases taken
  | read c outcome =>
    obtain ⟨shared, handler, step, rfl⟩ := handlerStep_of_read taken
    exact .handler step rfl rfl rfl
  | register c rng stamp =>
    obtain ⟨next, ran, rfl⟩ := Option.map_eq_some_iff.mp taken
    exact .handler (handlerStep_of_register ran) rfl rfl rfl
  | proceed c =>
    obtain ⟨next, ran, rfl⟩ := Option.map_eq_some_iff.mp taken
    exact .handler (handlerStep_of_locked ran) rfl rfl rfl
  | snapshot c order =>
    obtain ⟨handler, ran, rfl⟩ := Option.map_eq_some_iff.mp taken
    exact .handler (handlerStep_of_snapshot ran) rfl rfl rfl
  | timeout c =>
    obtain ⟨handler, ran, rfl⟩ := Option.map_eq_some_iff.mp taken
    exact .handler (handlerStep_of_timeout ran) rfl rfl rfl
  | queue sender c =>
    obtain ⟨channel, -, -, rfl⟩ := queued_of_queueStep taken
    exact .unchanged rfl rfl rfl rfl
  | send c =>
    simp only [Daemon.sendStep] at taken
    split at taken
    · cases taken
    · rename_i sending
      split at taken
      · cases taken
      · rename_i offered
        cases taken
        exact .handler (handlerStep_of_send sending offered) rfl rfl rfl
  | drained c =>
    simp only [Daemon.drainedStep] at taken
    split at taken
    · rename_i phase _
      cases taken
      exact .handler (.drained phase) rfl rfl rfl
    · cases taken
  | take c =>
    obtain ⟨channel, _, rfl⟩ := Option.map_eq_some_iff.mp taken
    exact .unchanged rfl rfl rfl rfl
  | wrote c result =>
    obtain ⟨channel, _, rfl⟩ := Option.map_eq_some_iff.mp taken
    exact .unchanged rfl rfl rfl rfl
  | writerEnds c =>
    obtain ⟨channel, _, rfl⟩ := Option.map_eq_some_iff.mp taken
    exact .unchanged rfl rfl rfl rfl
  | statsTick index =>
    simp only [Daemon.statsStep] at taken
    split at taken <;> cases taken
    exact .unchanged rfl rfl rfl rfl
  | statsCheck index sample =>
    simp only [Daemon.statsStep] at taken
    split at taken
    · split at taken <;> cases taken <;> exact .unchanged rfl rfl rfl rfl
    · cases taken
  | statsSend index =>
    simp only [Daemon.statsStep] at taken
    split at taken
    · split at taken <;> cases taken <;> exact .unchanged rfl rfl rfl rfl
    · cases taken
  | supervise =>
    simp only [Daemon.mainStep] at taken
    split at taken
    · split at taken <;> cases taken
      · exact .flags rfl (fun _ => rfl) rfl rfl rfl
      · exact .unchanged rfl rfl rfl rfl
    · cases taken
  | poll outcome =>
    simp only [Daemon.mainStep] at taken
    split at taken <;> cases taken
    · exact .unchanged rfl rfl rfl rfl
    · exact .flags rfl (fun _ => rfl) rfl rfl rfl
    · exact .flags rfl id rfl rfl rfl
  | fatalSnapshot order =>
    simp only [Daemon.mainStep] at taken
    split at taken
    · split at taken <;> cases taken
      exact .unchanged rfl rfl rfl rfl
    · cases taken
  | fatalSend =>
    simp only [Daemon.mainStep] at taken
    split at taken
    · split at taken <;> cases taken
      exact .unchanged rfl rfl rfl rfl
    · cases taken
      exact .unchanged rfl rfl rfl rfl
    · cases taken
  | fatalClear =>
    simp only [Daemon.mainStep] at taken
    split at taken <;> cases taken
    exact .fatalCleared rfl rfl rfl rfl
  | exit =>
    simp only [Daemon.mainStep] at taken
    split at taken
    · split at taken <;> cases taken
      exact .unchanged rfl rfl rfl rfl
    · cases taken
  | idleTick =>
    dsimp only at taken
    split at taken <;> cases taken
    unfold Daemon.idleTick
    split
    · exact .flags rfl (fun _ => rfl) rfl rfl rfl
    · exact .unchanged rfl rfl rfl rfl
  | idleStops =>
    dsimp only at taken
    split at taken <;> cases taken
    exact .unchanged rfl rfl rfl rfl
  | signal =>
    cases taken
    exact .flags rfl id rfl rfl rfl
  | cancelTimer =>
    dsimp only at taken
    split at taken
    · split at taken <;> cases taken
      exact .flags rfl id rfl rfl rfl
    · cases taken
  | advance duration =>
    cases taken
    exact .unchanged rfl rfl rfl rfl

/-! ### Sections of a handler -/

/-- A step of a handler under a lock is its next section. -/
theorem section_of_proceed {d d' : Daemon} {c : ConnId} (taken : d.step (.proceed c) = some d') :
    ∃ next, lockedSection c d.shared d.now (d.handlers c) = some next ∧ d' = d.move c next := by
  unfold Daemon.step at taken
  split at taken
  · cases taken
  · obtain ⟨next, ran, moved⟩ := Option.map_eq_some_iff.mp taken
    exact ⟨next, ran, moved.symm⟩

theorem section_of_register {d d' : Daemon} {c : ConnId} {rng : DrawStream} {stamp : Stamp}
    (taken : d.step (.register c rng stamp) = some d') :
    ∃ next, registerSection d.shared (d.handlers c) rng stamp = some next ∧ d' = d.move c next := by
  unfold Daemon.step at taken
  split at taken
  · cases taken
  · obtain ⟨next, ran, moved⟩ := Option.map_eq_some_iff.mp taken
    exact ⟨next, ran, moved.symm⟩

/-- In a daemon that has not exited, a handler goes through its next section. -/
theorem step_proceed {d : Daemon} {c : ConnId} {next : Shared × Handler}
    (running : d.main ≠ .exited)
    (ran : lockedSection c d.shared d.now (d.handlers c) = some next) :
    d.step (.proceed c) = some (d.move c next) := by
  unfold Daemon.step
  split
  · rename_i exited
    exact absurd exited running
  · simp only [ran, Option.map_some]

/-- A handler sends on a channel that takes or refuses the envelope. -/
theorem step_send {d : Daemon} {c target : ConnId} {envelope : Envelope ServerMessage}
    {channel : Channel} {accepted : Bool} (running : d.main ≠ .exited)
    (sending : outgoing c (d.handlers c).phase = some (target, envelope))
    (offered : (d.channels target).offer (.handler c) envelope = some (channel, accepted)) :
    ∃ d', d.step (.send c) = some d' := by
  unfold Daemon.step
  split
  · rename_i exited
    exact absurd exited running
  · simp only [Daemon.sendStep, sending, offered]
    exact ⟨_, rfl⟩

/-! ### Channels -/

/-- The messages that are no reply to a request. -/
def ServerMessage.unsolicited : ServerMessage → Bool
  | .terminate _ | .stats _ _ | .fatal _ _ => true
  | _ => false

/-- What a handler does when it sends a reply. -/
theorem replied_of_step {d d' : Daemon} {c : ConnId} {requestId : Option UInt64}
    {message : ServerMessage} {after : AfterReply}
    (taken : d.step (.send c) = some d')
    (phase : (d.handlers c).phase = .replying requestId message after) :
    ((d.channels c).closed = true ∧
        (d'.handlers c).phase = .returned (.error (.protocol "IPC writer closed"))) ∨
      ((d.channels c).closed = false ∧ (d'.handlers c).phase = .reading ∧
        (d'.channels c).sent = (d.channels c).sent ++ [Envelope.new requestId message]) := by
  have sent : d.sendStep c = some d' := by
    unfold Daemon.step at taken
    split at taken
    · cases taken
    · exact taken
  simp only [Daemon.sendStep, outgoing, phase] at sent
  split at sent
  · cases sent
  · rename_i channel accepted offered
    cases sent
    simp only [Function.update_self, afterSend, phase]
    rcases Channel.offer_eq_some offered with ⟨rfl, alive, -, rfl⟩ | ⟨rfl, gone, -⟩
    · exact .inr ⟨alive, rfl, rfl⟩
    · exact .inl ⟨gone, rfl⟩

/-- A reply can be sent as soon as the channel has a slot for it. -/
theorem reply_enabled {d : Daemon} {c : ConnId} {requestId : Option UInt64}
    {message : ServerMessage} {after : AfterReply} (running : d.main ≠ .exited)
    (phase : (d.handlers c).phase = .replying requestId message after)
    (room : (d.channels c).admits (.handler c) = true) : (d.step (.send c)).isSome = true := by
  have offered : ∃ result,
      (d.channels c).offer (.handler c) (Envelope.new requestId message) = some result := by
    unfold Channel.offer
    cases closed : (d.channels c).closed with
    | true => exact ⟨_, rfl⟩
    | false => exact ⟨_, if_pos room⟩
  obtain ⟨⟨channel, accepted⟩, offered⟩ := offered
  obtain ⟨d', sent⟩ := step_send running (by rw [phase]; rfl) offered
  rw [sent]
  rfl

/-! ### `Registered` replies -/

/-- The session that a `Registered` message names. -/
def ServerMessage.registeredSession : ServerMessage → Option UInt64
  | .registered session _ _ _ => some session
  | _ => none

theorem not_unsolicited_of_registered {message : ServerMessage} {session : UInt64}
    (names : message.registeredSession = some session) : ¬ message.unsolicited = true := by
  intro unsolicited
  cases message with
  | registered => cases unsolicited
  | _ => cases names

/-- `Registered` is the reply of a handler that has inserted the route. -/
def RegisteredMatches (d : Daemon) : Prop :=
  ∀ c requestId message after session, (d.handlers c).phase = .replying requestId message after →
    message.registeredSession = some session →
      ∃ route, after = .startStats route ∧ route.ownerSession = session

theorem HandlerStep.registeredMatches {d : Daemon} {c : ConnId} {label : Label} {shared : Shared}
    {handler : Handler} {requestId : Option UInt64} {message : ServerMessage}
    {after : AfterReply} {session : UInt64} (taken : HandlerStep d c label shared handler)
    (phase : handler.phase = .replying requestId message after)
    (names : message.registeredSession = some session) :
    ∃ route, after = .startStats route ∧ route.ownerSession = session := by
  cases taken with
  | @activated _ route =>
    cases phase
    cases names
    exact ⟨route, rfl, rfl⟩
  | acknowledgeIgnored reading =>
    rw [reading] at phase
    cases phase
  | @foundBusy _ next | @markedIdle _ next => cases next <;> cases phase <;> cases names
  | _ => cases phase <;> cases names

theorem RegisteredMatches.step {d d' : Daemon} {label : Label} (holds : RegisteredMatches d)
    (change : Change d label d') : RegisteredMatches d' := by
  intro c requestId message after session phase names
  rcases change.handlers c with same | ⟨_, fresh⟩ | moved
  · exact holds c requestId message after session (same ▸ phase) names
  · rw [fresh] at phase
    cases phase
  · exact moved.registeredMatches phase names

theorem registeredMatches_start (baseDomain : String) (now : Instant) :
    RegisteredMatches (.start baseDomain now) := by
  intro c requestId message after session phase
  cases phase

/-! ### Two scripts -/

/-- Client `c` connects, registers and is sent `Registered`. -/
def registrationLabels (c : ConnId) (port : UInt16) (slug : String) : List Label :=
  [.accept, .read c (.ok (Envelope.new (some 1) (.register port (some slug) 42))),
    .register c ⟨[]⟩ ⟨0, c⟩, .proceed c, .proceed c, .send c]

/-- The daemon when its first client has registered. -/
def oneRoute : Daemon :=
  (Transition.execute Daemon.step (.start "example.com" 0) (registrationLabels 0 3000 "app")).get
    (by decide)

/-- Handler `c` goes through `remove_session`; the registry is empty then. -/
def removalLabels (c : ConnId) : List Label := List.replicate 5 (.proceed c)

end CfFw
