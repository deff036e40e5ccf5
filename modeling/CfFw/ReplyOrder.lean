import CfFw.ControlProgress
import CfFw.Registration
import CfFw.ReplySize

/-! The conversation on one control connection. A client may send any number of requests,
and other clients may do anything in between: every request gets one reply, in the order of
the requests, and what the reply says was so at a moment between the two. -/
namespace CfFw.ReplyOrder
open CfFw Std Text Transition

variable {d d' start : Daemon} {c : ConnId} {label : Label} {labels more : List Label}
  {shared : Shared} {handler : Handler} {baseDomain : String} {now : Instant} {index : Nat}
  {request : Envelope ClientMessage} {known stronger : ServerMessage → Prop}
  {owned : Option UInt64} {asked : ClientMessage} {reply : ServerMessage}

/-- The message asks for a reply. An acknowledgement does not. -/
def asks : ClientMessage → Bool
  | .terminateAcknowledged _ => false
  | .register _ _ _ | .unregister _ | .list | .stop _ | .kill => true

/-- The request that a step reads from client `c`. -/
def requestOf (c : ConnId) : Label → Option (Envelope ClientMessage)
  | .read other (.ok envelope) => if other = c ∧ asks envelope.message then some envelope else none
  | _ => none

/-- The requests that client `c` has made, in order. -/
def requests (c : ConnId) (labels : List Label) : List (Envelope ClientMessage) :=
  labels.filterMap (requestOf c)

/-- The replies queued for client `c`, in order, without what was pushed to it. -/
def replies (d : Daemon) (c : ConnId) : List (Envelope ServerMessage) :=
  (d.channels c).sent.filter fun envelope => !envelope.message.unsolicited

/-- What a reply says is so: of the shared state, and of the session that the handler
owns. -/
inductive Truthful (shared : Shared) (owned : Option UInt64) :
    ClientMessage → ServerMessage → Prop where
  | registerRefused {port : UInt16} {slug : Option String} {pid : UInt32}
      (refused : owned.isSome = true ∨ shared.shuttingDown = true) :
      Truthful shared owned (.register port slug pid) shuttingDownMessage
  | registered {slug : Option String} {pid : UInt32} {route : Route}
      (live : shared.registry.Live route) (owner : owned = some route.ownerSession)
      (named : ∀ input, slug = some input → route.slug = toAsciiLowercase input)
      (generated : slug = none → route.slug ∈ allSlugs) :
      Truthful shared owned (.register route.port slug pid)
        (registeredMessage route shared.baseDomain)
  | registerFailed {port : UInt16} {slug : Option String} {pid : UInt32} {session : UInt64}
      {rng : DrawStream} {stamp : Stamp} {error : FwError}
      (failed : (shared.registry.registerWithRng port slug session pid rng stamp).1 =
        .error error) :
      Truthful shared owned (.register port slug pid) (errorMessage error)
  | unregistered {session : UInt64} (owner : owned = some session)
      (gone : ∀ route, shared.registry.Live route → route.ownerSession ≠ session) :
      Truthful shared owned (.unregister session) (.unregistered session)
  | unregisterRefused {session : UInt64} (foreign : owned ≠ some session) :
      Truthful shared owned (.unregister session)
        (.error .invalidRequest "session is not owned by this connection")
  | listed : Truthful shared owned .list (.routeList (shared.registry.list shared.baseDomain))
  | unresolved {selector : StopSelector} (nothing : shared.registry.resolve selector = none) :
      Truthful shared owned (.stop selector) (routeNotFoundMessage selector)
  | stopped {selector : StopSelector} {route : Route}
      (found : shared.registry.resolve selector = some route) :
      Truthful shared owned (.stop selector) (.stopped (route.view shared.baseDomain))
  | killRefused (down : shared.shuttingDown = true) :
      Truthful shared owned .kill shuttingDownMessage
  | killed : Truthful shared owned .kill (.killAccepted shared.registry.clear.1.length)

/-- The reply was true at a moment of the run, when client `c` had made the request with
this index and not been answered. -/
def TrueThen (start : Daemon) (c : ConnId) (index : Nat) (labels : List Label)
    (asked : ClientMessage) (reply : ServerMessage) : Prop :=
  ∃ before after mid, labels = before ++ after ∧ Run Daemon.step Unrestricted start before mid ∧
    (requests c before).length = index + 1 ∧ (replies mid c).length = index ∧
    Truthful mid.shared (mid.handlers c).owned asked reply

theorem TrueThen.later (was : TrueThen start c index labels asked reply) :
    TrueThen start c index (labels ++ more) asked reply := by
  obtain ⟨before, after, mid, split, rest⟩ := was
  exact ⟨before, after ++ more, mid, by rw [split, List.append_assoc], rest⟩

private theorem trueThen_now (ran : Run Daemon.step Unrestricted start labels d)
    (made : (requests c labels).length = index + 1) (unanswered : (replies d c).length = index)
    (truthful : Truthful d.shared (d.handlers c).owned asked reply) :
    TrueThen start c index labels asked reply :=
  ⟨labels, [], d, (List.append_nil labels).symm, ran, made, unanswered, truthful⟩

/-! ### Where a handler stands -/

/-- The handler has no request to answer. -/
def idle : Phase → Bool
  | .absent | .reading | .draining | .returned _ | .removing _ _ .acknowledged
  | .removing _ _ .disconnected => true
  | _ => false

/-- The handler removes a session on the way to its reply. -/
def Removing (baseDomain : String) (known : ServerMessage → Prop)
    (request : Envelope ClientMessage) (owned : Option UInt64) (stage : RemoveStage)
    (session : UInt64) : AfterRemove → Prop
  | .unregistered requestId =>
    requestId = request.requestId ∧
      (stage = .registry → request.message = .unregister session ∧ owned = some session) ∧
      (stage ≠ .registry → known (.unregistered session))
  | .stopped requestId route _ =>
    requestId = request.requestId ∧ known (.stopped (route.view baseDomain))
  | .acknowledged | .disconnected => False

/-- The handler is at work on the request: it still has the arguments, or it holds a reply
that is known to have been true. -/
def Working (baseDomain : String) (known : ServerMessage → Prop)
    (request : Envelope ClientMessage) (owned : Option UInt64) : Phase → Prop
  | .registering requestId port slug pid _ =>
    requestId = request.requestId ∧ request.message = .register port slug pid
  | .publishing requestId route | .activating requestId route =>
    requestId = request.requestId ∧ known (registeredMessage route baseDomain)
  | .removing stage session after => Removing baseDomain known request owned stage session after
  | .listing requestId => requestId = request.requestId ∧ request.message = .list
  | .resolving requestId selector =>
    requestId = request.requestId ∧ request.message = .stop selector
  | .notifying requestId route _ | .locating requestId route _ | .terminating requestId route _ _
  | .waiting requestId route _ _ _ =>
    requestId = request.requestId ∧ known (.stopped (route.view baseDomain))
  | .clearing requestId => requestId = request.requestId ∧ request.message = .kill
  | .snapshotting requestId routeCount | .broadcasting requestId routeCount _ _ =>
    requestId = request.requestId ∧ known (.killAccepted routeCount)
  | .replying requestId message _ =>
    requestId = request.requestId ∧ known message ∧ message.unsolicited = false
  | .absent | .reading | .draining | .returned _ => False

theorem Working.mono {phase : Phase} (weaker : ∀ reply, stronger reply → known reply)
    (working : Working baseDomain stronger request owned phase) :
    Working baseDomain known request owned phase := by
  cases phase with
  | removing stage session after =>
    cases after with
    | unregistered => exact ⟨working.1, working.2.1, fun late => weaker _ (working.2.2 late)⟩
    | stopped => exact ⟨working.1, weaker _ working.2⟩
    | acknowledged | disconnected => cases working
  | registering | listing | resolving | clearing | absent | reading | draining | returned =>
    exact working
  | publishing | activating | notifying | locating | terminating | waiting | snapshotting
  | broadcasting => exact ⟨working.1, weaker _ working.2⟩
  | replying => exact ⟨working.1, weaker _ working.2.1, working.2.2⟩

/-! ### A step of the handler -/

/-- What a step makes of a handler that has no request to answer: another such handler, or
one at work on the request that it has just read. -/
inductive Begins (baseDomain : String) (c : ConnId) (shared : Shared) (handler : Handler) :
    Label → Prop where
  | rests {label : Label} (phase : idle handler.phase = true)
      (nothing : requestOf c label = none) : Begins baseDomain c shared handler label
  | starts {request : Envelope ClientMessage} (asks : asks request.message = true)
      (working : ∀ known, (∀ reply, Truthful shared handler.owned request.message reply →
        known reply) → Working baseDomain known request handler.owned handler.phase) :
      Begins baseDomain c shared handler (.read c (.ok request))

private theorem begins_of_idle (taken : HandlerStep d c label shared handler)
    (rests : idle (d.handlers c).phase = true) : Begins baseDomain c shared handler label := by
  have silent : ∀ {envelope : Envelope ClientMessage},
      asks envelope.message = false → requestOf c (.read c (.ok envelope)) = none := by
    intro envelope unasked
    simp [requestOf, unasked]
  cases taken with
  | registerRefused _ message refused =>
    refine .starts (by rw [message]; rfl) fun known sure => ⟨rfl, sure _ ?_, rfl⟩
    rw [message]
    exact .registerRefused refused
  | registerStarted _ message =>
    exact .starts (by rw [message]; rfl) fun _ _ => ⟨rfl, message⟩
  | unregister _ message =>
    exact .starts (by rw [message]; rfl) fun _ _ =>
      ⟨rfl, fun _ => ⟨message, rfl⟩, fun late => absurd rfl late⟩
  | unregisterRefused _ message foreign =>
    refine .starts (by rw [message]; rfl) fun known sure => ⟨rfl, sure _ ?_, rfl⟩
    rw [message]
    exact .unregisterRefused foreign
  | list _ message => exact .starts (by rw [message]; rfl) fun _ _ => ⟨rfl, message⟩
  | stop _ message => exact .starts (by rw [message]; rfl) fun _ _ => ⟨rfl, message⟩
  | killRefused _ message down =>
    refine .starts (by rw [message]; rfl) fun known sure => ⟨rfl, sure _ ?_, rfl⟩
    rw [message]
    exact .killRefused down
  | kill _ message => exact .starts (by rw [message]; rfl) fun _ _ => ⟨rfl, message⟩
  | acknowledge _ message => exact .rests rfl (silent (by rw [message]; rfl))
  | acknowledgeIgnored _ message => exact .rests rests (silent (by rw [message]; rfl))
  | disconnected | left | readFailed | drained => exact .rests rfl rfl
  | @removedRoutes _ after phase | @removedOwner _ after phase | @acknowledged _ after phase
  | @foundEmpty _ after phase | @foundBusy _ after phase | @markedIdle _ after phase =>
    rw [phase] at rests
    cases after with
    | acknowledged | disconnected => exact .rests rfl rfl
    | unregistered | stopped => cases rests
  | registered phase | registerFailed phase | published phase | activated phase | listed phase
  | unresolved phase | resolved phase | notified phase | located phase | unlocated phase
  | woken phase | cleared phase | broadcasted phase | snapshotted phase | timedOut phase
  | replied phase | released phase | replyFailed phase | terminated phase | broadcastOne phase =>
    rw [phase] at rests
    cases rests

/-- **Step lemma.** A handler at work stays at work until it sends its reply, which has been
true in the state before a step or in the one after. -/
theorem working_step (taken : HandlerStep d c label shared handler)
    (wellFormed : d.shared.registry.WellFormed) (domain : d.shared.baseDomain = baseDomain)
    (working : Working baseDomain known request (d.handlers c).owned (d.handlers c).phase)
    (before : ∀ reply, Truthful d.shared (d.handlers c).owned request.message reply → known reply)
    (after : ∀ reply, Truthful shared handler.owned request.message reply → known reply) :
    Working baseDomain known request handler.owned handler.phase ∨
      (label = .send c ∧ ∃ requestId message after,
        (d.handlers c).phase = .replying requestId message after) := by
  subst domain
  cases taken with
  | registerRefused phase | registerStarted phase | unregister phase | unregisterRefused phase
  | acknowledge phase | acknowledgeIgnored phase | list phase | stop phase | killRefused phase
  | kill phase | disconnected phase | left phase | readFailed phase | drained phase =>
    rw [phase] at working
    cases working
  | registered phase addable onPort owner outcome =>
    rw [phase] at working
    obtain ⟨same, message⟩ := working
    obtain ⟨_, _, _, named, generated⟩ := RouteRegistry.registerWithRng_ok outcome
    refine .inl ⟨same, after _ ?_⟩
    rw [message, ← onPort]
    exact .registered ((RouteRegistry.live_insertRoute addable.freeSlug).mpr (.inl rfl))
      (by rw [owner]) named generated
  | registerFailed phase failed =>
    rw [phase] at working
    obtain ⟨same, message⟩ := working
    refine .inl ⟨same, before _ ?_, rfl⟩
    rw [message]
    exact .registerFailed failed
  | published phase | located phase | unlocated phase | notified phase | terminated phase
  | snapshotted phase | broadcastOne phase | timedOut phase =>
    rw [phase] at working
    exact .inl working
  | activated phase | broadcasted phase | woken phase =>
    rw [phase] at working
    exact .inl ⟨working.1, working.2, rfl⟩
  | @removedRoutes session following phase =>
    rw [phase] at working
    cases following with
    | unregistered =>
      obtain ⟨same, pending, _⟩ := working
      obtain ⟨message, owned⟩ := pending rfl
      refine .inl ⟨same, fun early => ?_, fun _ => after _ ?_⟩
      · cases early
      · rw [message]
        exact .unregistered owned fun route live =>
          ((RouteRegistry.live_removeSession wellFormed).mp live).2
    | stopped => exact .inl working
    | acknowledged | disconnected => cases working
  | @removedOwner session following phase | @acknowledged session following phase
  | @foundEmpty session following phase =>
    rw [phase] at working
    cases following with
    | unregistered =>
      obtain ⟨same, _, known⟩ := working
      refine .inl ⟨same, fun early => ?_, fun _ => known (by decide)⟩
      cases early
    | stopped => exact .inl working
    | acknowledged | disconnected => cases working
  | @foundBusy session following phase | @markedIdle session following phase =>
    rw [phase] at working
    cases following with
    | unregistered =>
      obtain ⟨same, _, known⟩ := working
      exact .inl ⟨same, known (by decide), rfl⟩
    | stopped => exact .inl ⟨working.1, working.2, rfl⟩
    | acknowledged | disconnected => cases working
  | listed phase =>
    rw [phase] at working
    obtain ⟨same, message⟩ := working
    refine .inl ⟨same, before _ ?_, rfl⟩
    rw [message]
    exact .listed
  | unresolved phase nothing =>
    rw [phase] at working
    obtain ⟨same, message⟩ := working
    refine .inl ⟨same, before _ ?_, rfl⟩
    rw [message]
    exact .unresolved nothing
  | resolved phase found =>
    rw [phase] at working
    obtain ⟨same, message⟩ := working
    refine .inl ⟨same, before _ ?_⟩
    rw [message]
    exact .stopped found
  | cleared phase =>
    rw [phase] at working
    obtain ⟨same, message⟩ := working
    refine .inl ⟨same, before _ ?_⟩
    rw [message]
    exact .killed
  | replied phase | released phase | replyFailed phase => exact .inr ⟨rfl, _, _, _, phase⟩

/-! ### The lists of requests and replies -/

private theorem requests_append : requests c (labels ++ [label]) =
    requests c labels ++ (requestOf c label).toList := by
  rw [requests, requests, List.filterMap_append, List.filterMap_cons]
  cases requestOf c label <;> rfl

private theorem actor_of_requestOf (reads : requestOf c label = some request) :
    label.actor = some c := by
  unfold requestOf at reads
  split at reads
  · split at reads
    · rename_i here
      exact congrArg some here.1
    · cases reads
  · cases reads

theorem requestOf_read (asking : asks request.message = true) :
    requestOf c (.read c (.ok request)) = some request := by
  rw [requestOf, if_pos ⟨rfl, asking⟩]

/-- Nothing but the reply of its own handler adds to what a client is answered. -/
theorem replies_of_step (taken : d.step label = some d')
    (fresh : c = d.accepted → replies d c = [])
    (quiet : ¬ (label = .send c ∧ ∃ requestId message after,
      (d.handlers c).phase = .replying requestId message after)) :
    replies d' c = replies d c := by
  have queued := queued_of_step taken c
  unfold replies at fresh ⊢
  generalize (d'.channels c).sent = sent at queued ⊢
  cases queued with
  | kept => rfl
  | opened new => rw [fresh new, List.filter_nil]
  | reply phase => exact absurd ⟨rfl, _, _, _, phase⟩ quiet
  | pushed unsolicited => simp [unsolicited]

/-! ### A whole conversation -/

/-- How the requests and the replies of client `c` compare. -/
inductive Standing (start : Daemon) (baseDomain : String) (c : ConnId) (labels : List Label)
    (d : Daemon) : Prop where
  | even (phase : idle (d.handlers c).phase = true)
      (answered : (requests c labels).length = (replies d c).length)
  | serving {earlier : List (Envelope ClientMessage)} {request : Envelope ClientMessage}
      (made : requests c labels = earlier ++ [request])
      (answered : earlier.length = (replies d c).length)
      (working : Working baseDomain
        (TrueThen start c (replies d c).length labels request.message) request
        (d.handlers c).owned (d.handlers c).phase)
  | abandoned {result : Result Unit} (phase : (d.handlers c).phase = .returned result)
      (unanswered : (requests c labels).length = (replies d c).length + 1)

/-- A reply has the id of its request and was true at a moment between the two. -/
def Answers (start : Daemon) (c : ConnId) (labels : List Label) (d : Daemon) : Prop :=
  ∀ (index : Nat) (request : Envelope ClientMessage) (reply : Envelope ServerMessage),
    (requests c labels)[index]? = some request → (replies d c)[index]? = some reply →
      reply.requestId = request.requestId ∧
        TrueThen start c index labels request.message reply.message

/-- What holds of the conversation with client `c` after any run. -/
structure Conversation (baseDomain : String) (now : Instant) (c : ConnId) (labels : List Label)
    (d : Daemon) : Prop where
  ran : Run Daemon.step Unrestricted (.start baseDomain now) labels d
  bounded : Bounded baseDomain d
  standing : Standing (.start baseDomain now) baseDomain c labels d
  answers : Answers (.start baseDomain now) c labels d

/-- Replies stay answers when the run goes on, whatever is asked next. -/
theorem Answers.kept (answers : Answers start c labels d)
    (within : (replies d c).length ≤ (requests c labels).length)
    (same : replies d' c = replies d c) : Answers start c (labels ++ [label]) d' := by
  intro index request reply asked answered
  rw [same] at answered
  have inside : index < (requests c labels).length :=
    Nat.lt_of_lt_of_le (List.getElem?_eq_some_iff.mp answered).1 within
  rw [requests_append, List.getElem?_append_left inside] at asked
  obtain ⟨sameId, was⟩ := answers index request reply asked answered
  exact ⟨sameId, was.later⟩

theorem Standing.within (standing : Standing start baseDomain c labels d) :
    (replies d c).length ≤ (requests c labels).length ∧
      (requests c labels).length ≤ (replies d c).length + 1 := by
  cases standing with
  | even _ answered => omega
  | serving made answered =>
    rw [made, List.length_append, List.length_singleton]
    omega
  | abandoned _ unanswered => omega

/-- **Step lemma.** The handler queues its reply, or finds its channel closed. -/
theorem Conversation.replied {requestId : Option UInt64} {message : ServerMessage}
    {after : AfterReply} (talk : Conversation baseDomain now c labels d)
    (taken : d.step (.send c) = some d')
    (phase : (d.handlers c).phase = .replying requestId message after) :
    Standing (.start baseDomain now) baseDomain c (labels ++ [.send c]) d' ∧
      Answers (.start baseDomain now) c (labels ++ [.send c]) d' := by
  have made : requests c (labels ++ [.send c]) = requests c labels := by
    rw [requests_append]
    exact List.append_nil _
  have standing := talk.standing
  cases standing with
  | even idles =>
    rw [phase] at idles
    cases idles
  | abandoned returned =>
    rw [phase] at returned
    cases returned
  | @serving earlier request asked answered working =>
    rw [phase] at working
    obtain ⟨sameId, was, solicited⟩ := working
    rcases replied_of_step taken phase with ⟨_, returned⟩ | ⟨_, reading, sent⟩
    · -- The channel is closed, so nothing is queued for client `c` and nothing will be.
      have same : replies d' c = replies d c := by
        have queued := queued_of_step taken c
        unfold replies
        generalize (d'.channels c).sent = history at queued ⊢
        cases queued with
        | kept => rfl
        | reply _ alive => simp_all
        | pushed unsolicited => simp [unsolicited]
      refine ⟨.abandoned returned ?_, talk.answers.kept talk.standing.within.1 same⟩
      rw [made, same, asked, List.length_append, List.length_singleton, answered]
    · have grown : replies d' c = replies d c ++ [Envelope.new requestId message] := by
        unfold replies
        rw [sent, List.filter_append]
        simp [Envelope.new, solicited]
      refine ⟨.even (by rw [reading]; rfl) ?_, fun index other reply found replied => ?_⟩
      · rw [made, grown, asked, List.length_append, List.length_append, answered]
        rfl
      · rw [made] at found
        by_cases older : index < (replies d c).length
        · rw [grown, List.getElem?_append_left older] at replied
          obtain ⟨otherId, otherWas⟩ := talk.answers index other reply found replied
          exact ⟨otherId, otherWas.later⟩
        · -- The new reply is to the request that the handler was at work on.
          have bound := (List.getElem?_eq_some_iff.mp replied).1
          rw [grown, List.length_append, List.length_singleton] at bound
          obtain rfl : index = (replies d c).length := by omega
          rw [grown, List.getElem?_concat_length] at replied
          rw [asked, ← answered, List.getElem?_concat_length] at found
          cases replied
          cases found
          exact ⟨sameId, was.later⟩

private theorem reading_of_requestOf (taken : HandlerStep d c label shared handler)
    (reads : requestOf c label = some request) : (d.handlers c).phase = .reading := by
  cases taken with
  | registerRefused phase | registerStarted phase | unregister phase | unregisterRefused phase
  | acknowledge phase | acknowledgeIgnored phase | list phase | stop phase | killRefused phase
  | kill phase | disconnected phase | left phase | readFailed phase => exact phase
  | _ => cases reads

private theorem not_returned (taken : HandlerStep d c label shared handler) {result : Result Unit}
    (returned : (d.handlers c).phase = .returned result) : False := by
  cases taken <;> simp_all

/-- Where the handler stands after one of its own steps that queues no reply. -/
theorem Conversation.moved (talk : Conversation baseDomain now c labels d)
    (taken : d.step label = some d')
    (moved : HandlerStep d c label d'.shared (d'.handlers c))
    (quiet : ¬ (label = .send c ∧ ∃ requestId message after,
      (d.handlers c).phase = .replying requestId message after))
    (same : replies d' c = replies d c) :
    Standing (.start baseDomain now) baseDomain c (labels ++ [label]) d' := by
  have ran := talk.ran.snoc trivial taken
  have standing := talk.standing
  cases standing with
  | even idles answered =>
    have begins : Begins baseDomain c d'.shared (d'.handlers c) label := begins_of_idle moved idles
    cases begins with
    | rests rests nothing =>
      refine .even rests ?_
      rw [requests_append, nothing, same, ← answered]
      exact congrArg List.length (List.append_nil _)
    | @starts request asking working =>
      have made : requests c (labels ++ [.read c (.ok request)]) = requests c labels ++ [request] := by
        rw [requests_append, requestOf_read asking]
        rfl
      refine .serving made (by rw [same, answered]) (working _ fun reply truthful => ?_)
      refine trueThen_now ran ?_ rfl truthful
      rw [made, List.length_append, List.length_singleton, same, answered]
  | @serving earlier request asked answered working =>
    have unread : requestOf c label = none := by
      apply Option.eq_none_iff_forall_ne_some.mpr
      intro request reads
      rw [reading_of_requestOf moved reads] at working
      cases working
    have made : requests c (labels ++ [label]) = earlier ++ [request] := by
      rw [requests_append, unread, asked]
      exact List.append_nil _
    refine .serving made (by rw [same, answered]) ?_
    rw [same]
    refine (working_step moved talk.bounded.wellFormed talk.bounded.domain
      (working.mono fun _ was => was.later) ?_ ?_).resolve_right quiet
    · intro reply truthful
      refine (trueThen_now talk.ran ?_ rfl truthful).later
      rw [asked, List.length_append, List.length_singleton, answered]
    · intro reply truthful
      refine trueThen_now ran ?_ (by rw [same]) truthful
      rw [made, List.length_append, List.length_singleton, answered]
  | abandoned returned => exact (not_returned moved returned).elim

/-- Where the handler stands after a step of somebody else. -/
theorem Conversation.unmoved (talk : Conversation baseDomain now c labels d)
    (taken : d.step label = some d') (other : label.actor ≠ some c)
    (same : replies d' c = replies d c) :
    Standing (.start baseDomain now) baseDomain c (labels ++ [label]) d' := by
  have unread : requestOf c label = none := by
    apply Option.eq_none_iff_forall_ne_some.mpr
    intro request reads
    exact other (actor_of_requestOf reads)
  have made : requests c (labels ++ [label]) = requests c labels := by
    rw [requests_append, unread]
    exact List.append_nil _
  have standing := talk.standing
  rcases (change_of_step taken).handlers c with kept | ⟨new, fresh⟩ | moved
  · cases standing with
    | even idles answered => exact .even (by rw [kept]; exact idles) (by rw [made, same, answered])
    | serving asked answered working =>
      refine .serving (by rw [made, asked]) (by rw [same, answered]) ?_
      rw [same, kept]
      exact working.mono fun _ was => was.later
    | abandoned returned unanswered =>
      exact .abandoned (by rw [kept]; exact returned) (by rw [made, same, unanswered])
  · -- The connection is new, so nothing was asked or answered on it.
    have absent := (unopened_of_run talk.ran new.ge).absent
    cases standing with
    | even idles answered => exact .even (by rw [fresh]; rfl) (by rw [made, same, answered])
    | serving _ _ working =>
      rw [absent] at working
      cases working
    | abandoned returned =>
      rw [absent] at returned
      cases returned
  · exact absurd moved.actor other

theorem Conversation.step (talk : Conversation baseDomain now c labels d)
    (taken : d.step label = some d') : Conversation baseDomain now c (labels ++ [label]) d' := by
  have ran := talk.ran.snoc trivial taken
  have bounded := talk.bounded.step (change_of_step taken)
  by_cases replying : label = .send c ∧ ∃ requestId message after,
      (d.handlers c).phase = .replying requestId message after
  · obtain ⟨rfl, _, _, _, phase⟩ := replying
    obtain ⟨standing, answers⟩ := talk.replied taken phase
    exact ⟨ran, bounded, standing, answers⟩
  · have fresh : c = d.accepted → replies d c = [] := by
      intro new
      rw [replies, (unopened_of_run talk.ran new.ge).untouched.silent, List.filter_nil]
    have same := replies_of_step taken fresh replying
    refine ⟨ran, bounded, ?_, talk.answers.kept talk.standing.within.1 same⟩
    by_cases actor : label.actor = some c
    · exact talk.moved taken ((change_of_step taken).moved actor) replying same
    · exact talk.unmoved taken actor same

theorem conversation_of_run
    (ran : Run Daemon.step Unrestricted (.start baseDomain now) labels d) (c : ConnId) :
    Conversation baseDomain now c labels d := by
  apply ran.historyInvariant (Conversation baseDomain now c)
  · refine ⟨.nil, bounded_start baseDomain now, .even rfl rfl, fun index request reply asked => ?_⟩
    rw [requests, List.filterMap_nil, List.getElem?_nil] at asked
    cases asked
  · exact fun _ _ _ _ talk _ taken => talk.step taken

/-- **Every request gets its own reply.** In every run of the daemon, whatever the other
clients do, the replies queued for a client answer its requests one by one and in order;
at most one request is open, and none while the handler waits for the next frame. A reply
carries the id of its request, and there was a moment after the request was read and before
the reply was queued at which it was true of the daemon. -/
theorem replies_answer_requests
    (ran : Run Daemon.step Unrestricted (.start baseDomain now) labels d) (c : ConnId) :
    (replies d c).length ≤ (requests c labels).length ∧
      (requests c labels).length ≤ (replies d c).length + 1 ∧
      ((d.handlers c).phase = .reading →
        (requests c labels).length = (replies d c).length) ∧
      Answers (.start baseDomain now) c labels d := by
  have talk := conversation_of_run ran c
  obtain ⟨lower, upper⟩ := talk.standing.within
  refine ⟨lower, upper, fun reading => ?_, talk.answers⟩
  have standing := talk.standing
  cases standing with
  | even _ answered => exact answered
  | serving _ _ working =>
    rw [reading] at working
    cases working
  | abandoned returned =>
    rw [reading] at returned
    cases returned

/-- Client 1 asks for the list before client 0 registers, and is told of its route before
client 0 is. It then asks to unregister the session of client 0. -/
def crossedLabels : List Label :=
  [.accept, .accept, .read 1 (.ok (Envelope.new (some 5) .list)),
    .read 0 (.ok (Envelope.new (some 1) (.register 3000 (some "app") 42))),
    .register 0 ⟨[]⟩ ⟨0, 0⟩, .proceed 1, .send 1, .proceed 0, .proceed 0, .send 0,
    .read 1 (.ok (Envelope.new (some 6) (.unregister 1))), .send 1]

theorem crossed_requests_answered :
    ∃ d, Run Daemon.step Unrestricted (.start "example.com" 0) crossedLabels d ∧
      replies d 1 =
        [Envelope.new (some 5) (.routeList [RouteView.new "app" 3000 "example.com"]),
          Envelope.new (some 6)
            (.error .invalidRequest "session is not owned by this connection")] ∧
      Answers (.start "example.com" 0) 1 crossedLabels d := by
  have ran : Run Daemon.step Unrestricted (.start "example.com" 0) crossedLabels _ :=
    run_to_execute (by decide)
  exact ⟨_, ran, rfl, (replies_answer_requests ran 1).2.2.2⟩

end CfFw.ReplyOrder
