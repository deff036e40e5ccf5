import CfFw.Cleanup
import CfFw.KillFinal

/-! Who is told that a forward is over. A Stop looks for the owner in the owners
map, and Kill and the broadcast of `run` take all of it; a route is in the
registry before its owner is in that map. As long as none of them looks in
between, an owner that is still there is told of every removal. -/
namespace CfFw
open Std Transition

variable {d d' v : Daemon} {c other : ConnId} {label : Label} {shared : Shared}
  {handler : Handler} {route : Route} {mark : Nat} {labels : List Label}

/-- The route that a handler has registered and not yet entered an owner for. -/
def Phase.publishes : Phase → Option Route
  | .publishing _ route => some route
  | _ => none

/-- The removal is the handler's own: no Stop asked for it. -/
def AfterRemove.releases : AfterRemove → Bool
  | .stopped _ _ _ => false
  | .unregistered _ | .acknowledged | .disconnected => true

/-- The handler is giving its own session up, or is past its loop. -/
def Phase.leaves : Phase → Bool
  | .removing _ _ after => after.releases
  | .replying _ _ .release | .draining | .returned _ => true
  | _ => false

/-- The owner's connection is open and has not released the session. -/
structure Attached (d : Daemon) (c : ConnId) (session : UInt64) : Prop where
  owned : (d.handlers c).owned = some session
  stays : (d.handlers c).phase.leaves = false
  alive : (d.channels c).closed = false

/-- A Terminate or a Fatal was sent to client `c` after the first `mark`
envelopes. -/
def Told (d : Daemon) (c : ConnId) (mark : Nat) : Prop :=
  ∃ envelope ∈ (d.channels c).sent.drop mark, envelope.message.dismisses = true

/-- Who removes routes of other clients. -/
inductive Remover where
  | stop (c : ConnId)
  | kill (c : ConnId)
  | fatal
  deriving DecidableEq

/-- The Stop, the Kill or the broadcast that the step removes routes for. -/
def Daemon.remover (d : Daemon) : Label → Option Remover
  | .proceed c =>
    match (d.handlers c).phase with
    | .removing .registry _ (.stopped _ _ _) => some (.stop c)
    | .clearing _ => some (.kill c)
    | _ => none
  | .fatalClear => some .fatal
  | _ => none

/-- A Kill that has cleared the registry is still going to push to client `c`:
it has not looked for the owners yet, or `c` is on its list. -/
def Phase.informs (c : ConnId) : Phase → Prop
  | .snapshotting _ _ => True
  | .broadcasting _ _ _ remaining => c ∈ remaining
  | _ => False

/-- The remover is still going to push to client `c`. -/
def Remover.Pending (d : Daemon) (c : ConnId) : Remover → Prop
  | .kill killer => (d.handlers killer).phase.informs c
  | .stop _ | .fatal => False

/-- `run` has looked for the owners and not yet cleared the registry. -/
def MainPhase.broadcasts : MainPhase → Bool
  | .broadcasting _ _ _ | .clearing _ _ => true
  | _ => false

/-- The step looks for the owners to tell, and the owner of `route` is to be
told: a Stop of its session, a Kill once the route is removed, the broadcast
while the route is live. -/
def Daemon.seeks (d : Daemon) (route : Route) : Label → Bool
  | .proceed c =>
    match (d.handlers c).phase with
    | .locating _ stopped _ => stopped.ownerSession = route.ownerSession
    | _ => false
  | .snapshot _ _ => !decide (d.shared.registry.Live route)
  | .fatalSnapshot _ => d.shared.registry.Live route
  | _ => false

/-- The step registers a route. -/
def Daemon.registers (d : Daemon) : Label → Option Route
  | .register c rng stamp =>
    (registerSection d.shared (d.handlers c) rng stamp).bind fun next => next.2.phase.publishes
  | _ => none

/-- No step looks for owners while one to be told is not entered yet, nothing is
registered between the broadcast's look and its removal, and the session counter
has not wrapped. -/
structure Announced (d : Daemon) (label : Label) : Prop where
  noWrap : NoWrap d label
  entered : ∀ c < d.accepted, ∀ route ∈ (d.handlers c).phase.publishes, d.seeks route label = false
  early : ∀ _route ∈ d.registers label, d.main.broadcasts = false

instance (d : Daemon) (label : Label) : Decidable (Announced d label) :=
  have (c : ConnId) : Decidable (∀ route ∈ (d.handlers c).phase.publishes,
      d.seeks route label = false) := Option.decidableForallMem (d.handlers c).phase.publishes
  have : Decidable (∀ _route ∈ d.registers label, d.main.broadcasts = false) :=
    Option.decidableForallMem (d.registers label)
  decidable_of_iff
    (NoWrap d label ∧ (∀ c < d.accepted, ∀ route ∈ (d.handlers c).phase.publishes,
      d.seeks route label = false) ∧ ∀ _route ∈ d.registers label, d.main.broadcasts = false)
    ⟨fun holds => ⟨holds.1, holds.2.1, holds.2.2⟩, fun announced =>
      And.intro announced.1 (And.intro announced.2 announced.3)⟩

/-- The session whose removal a Stop is waiting for, its Terminate sent. -/
def Phase.awaits : Phase → Option UInt64
  | .waiting _ route _ _ _ => some route.ownerSession
  | .removing _ session (.stopped _ _ _) => some session
  | _ => none

/-- Client `c` owns the session and was told nothing yet. -/
structure Unaware (d : Daemon) (c : ConnId) (session : UInt64) (mark : Nat) : Prop
    extends Attached d c session where
  untold : ¬ Told d c mark

/-- Everybody who may remove the route is going to find its owner first. -/
structure Known (d : Daemon) (c : ConnId) (route : Route) : Prop where
  listed : (d.handlers c).phase.publishes = some route ∨
    d.shared.owners[route.ownerSession]? = some c
  located : ∀ stopper requestId stopped notify owner,
    (d.handlers stopper).phase = .terminating requestId stopped notify owner →
      stopped.ownerSession = route.ownerSession → owner = c
  unawaited : ∀ stopper, (d.handlers stopper).phase.awaits ≠ some route.ownerSession
  remaining : ∀ details owners remaining, d.main = .broadcasting details owners remaining →
    d.shared.registry.Live route → c ∈ remaining
  cleared : ∀ details owners, d.main = .clearing details owners → ¬ d.shared.registry.Live route

/-- Client `c` is the one that registered the route, when it had been sent `mark`
envelopes. -/
structure Tracked (d : Daemon) (c : ConnId) (route : Route) (mark : Nat) : Prop where
  present : c < d.accepted
  marked : mark ≤ (d.channels c).sent.length
  settled : Settled d route.ownerSession
  only : ∀ other, (d.handlers other).owned = some route.ownerSession → other = c
  known : Unaware d c route.ownerSession mark → Known d c route

/-! ### What lasts -/

theorem Told.step (told : Told d c mark) (step : TaskStep d label d') (present : c ≠ d.accepted)
    (marked : mark ≤ (d.channels c).sent.length) : Told d' c mark := by
  obtain ⟨envelope, member, dismisses⟩ := told
  obtain ⟨more, sent⟩ := step.sent present
  refine ⟨envelope, ?_, dismisses⟩
  rw [sent, List.drop_append_of_le_length marked, List.mem_append]
  exact .inl member

/-- A client that is pushed to is told, unless its channel is closed. -/
theorem told_of_pushes (taken : d.step label = some d') (pushes : d.pushes label = some c)
    (alive : (d.channels c).closed = false) (marked : mark ≤ (d.channels c).sent.length) :
    Told d' c mark := by
  rcases pushed_of_step taken pushes with closed | ⟨envelope, dismisses, sent⟩
  · rw [alive] at closed
    cases closed
  · refine ⟨envelope, ?_, dismisses⟩
    rw [sent, List.drop_append_of_le_length marked, List.mem_append, List.mem_singleton]
    exact .inr rfl

/-- A handler that is leaving does not come back with its session. -/
theorem HandlerStep.leaves (taken : HandlerStep d c label shared handler)
    (leaves : (d.handlers c).phase.leaves = true) :
    handler.phase.leaves = true ∨ handler.owned = none := by
  cases taken with
  | removedRoutes phase | removedOwner phase | acknowledged phase | foundEmpty phase =>
    rw [phase] at leaves
    exact .inl leaves
  | @foundBusy _ after phase | @markedIdle _ after phase =>
    rw [phase] at leaves
    cases after with
    | stopped => cases leaves
    | acknowledged => exact .inr rfl
    | _ => exact .inl rfl
  | @replied _ _ after phase stays =>
    rw [phase] at leaves
    cases after with
    | release => exact absurd rfl stays
    | _ => cases leaves
  | released => exact .inr rfl
  | replyFailed | drained => exact .inl rfl
  | _ => simp_all [Phase.leaves]

/-- Nobody comes to own a settled session. -/
theorem Change.owned_before {session : UInt64} (change : Change d label d')
    (holds : SessionsHold d) (settled : Settled d session)
    (owned : (d'.handlers c).owned = some session) : (d.handlers c).owned = some session := by
  have works := change.session_of_owned holds owned
  rw [Handler.session, Option.or_eq_some_iff] at works
  rcases works with claims | ⟨_, before⟩
  · exact absurd claims (settled.unclaimed c)
  · exact before

/-- A client that is unaware was unaware before. -/
theorem Unaware.before {session : UInt64} (unaware : Unaware d' c session mark)
    (holds : SessionsHold d) (taken : d.step label = some d') (settled : Settled d session)
    (present : c < d.accepted) (marked : mark ≤ (d.channels c).sent.length) :
    Unaware d c session mark where
  owned := (change_of_step taken).owned_before holds settled unaware.owned
  stays := by
    by_contra leaving
    have leaving : (d.handlers c).phase.leaves = true := by simpa using leaving
    have stays := unaware.stays
    rcases (change_of_step taken).handlers c with same | ⟨new, _⟩ | moved
    · rw [same, leaving] at stays
      cases stays
    · exact present.ne new
    · rcases moved.leaves leaving with leaves | free
      · rw [leaves] at stays
        cases stays
      · have owned := unaware.owned
        rw [free] at owned
        cases owned
  alive := by
    by_contra closed
    have closed := ((taskStep_of_step taken).closed present.ne (by simpa using closed)).1
    rw [unaware.alive] at closed
    cases closed
  untold told := unaware.untold (told.step (taskStep_of_step taken) present.ne marked)

/-- A removed route does not come back. -/
theorem Change.live_before (change : Change d label d') (holds : SessionsHold d)
    (settled : Settled d route.ownerSession) (live : d'.shared.registry.Live route) :
    d.shared.registry.Live route := by
  rcases change.live holds.wellFormed live with old | ⟨c, claims, _⟩
  · exact old
  · exact absurd claims (settled.unclaimed c)

/-! ### The owner is found -/

private theorem publishing_of_publishes {phase : Phase} (publishes : phase.publishes = some route) :
    ∃ requestId, phase = .publishing requestId route := by
  cases phase with
  | publishing requestId published =>
    cases publishes
    exact ⟨requestId, rfl⟩
  | _ => cases publishes

/-- A handler that removes a session does it for itself or for a Stop. -/
theorem SessionsHold.remover {session : UInt64} {stage : RemoveStage} {after : AfterRemove}
    (holds : SessionsHold d) (phase : (d.handlers c).phase = .removing stage session after) :
    (d.handlers c).phase.awaits = some session ∨
      ((d.handlers c).owned = some session ∧ (d.handlers c).phase.leaves = true) := by
  have held := (holds.removing phase).2.2
  rw [phase]
  cases after with
  | stopped => exact .inl rfl
  | _ => exact .inr ⟨held, rfl⟩

theorem Known.listed_step (known : Known d c route) (unaware : Unaware d c route.ownerSession mark)
    (holds : SessionsHold d) (change : Change d label d') (present : c < d.accepted) :
    (d'.handlers c).phase.publishes = some route ∨
      d'.shared.owners[route.ownerSession]? = some c := by
  rcases known.listed with publishes | listed
  · rcases change.handlers c with same | ⟨new, _⟩ | moved
    · exact .inl (same ▸ publishes)
    · exact absurd new present.ne
    · obtain ⟨requestId, phase⟩ := publishing_of_publishes publishes
      exact .inr (moved.of_publishing phase)
  · right
    rcases change.owners route.ownerSession with same | ⟨other, _, published, phase, own, entered⟩ |
      ⟨other, after, phase, _⟩
    · exact same ▸ listed
    · have owned := holds.publisher phase
      rw [own] at owned
      obtain rfl := holds.owner_unique owned unaware.owned
      exact entered
    · -- The session is removed by a Stop, which has told the owner, or by the owner.
      rcases holds.remover phase with awaits | ⟨owned, leaves⟩
      · exact absurd awaits (known.unawaited other)
      · obtain rfl := holds.owner_unique owned unaware.owned
        rw [unaware.stays] at leaves
        cases leaves

/-- Whoever looks for owners finds this one. -/
theorem Known.found (known : Known d c route) (announced : Announced d label)
    (present : c < d.accepted) (seeks : d.seeks route label = true) :
    d.shared.owners[route.ownerSession]? = some c := by
  rcases known.listed with publishes | listed
  · rw [announced.entered c present route publishes] at seeks
    cases seeks
  · exact listed

theorem Known.located_step (known : Known d c route) (announced : Announced d label)
    (present : c < d.accepted) (change : Change d label d') {stopper owner : ConnId}
    {requestId : Option UInt64} {stopped : Route} {notify : NotifyId}
    (phase : (d'.handlers stopper).phase = .terminating requestId stopped notify owner)
    (own : stopped.ownerSession = route.ownerSession) : owner = c := by
  rcases change.handlers stopper with same | ⟨_, fresh⟩ | moved
  · exact known.located stopper requestId stopped notify owner (same ▸ phase) own
  · rw [fresh] at phase
    cases phase
  · generalize d'.handlers stopper = handler at moved phase
    generalize d'.shared = shared at moved
    cases moved with
    | acknowledgeIgnored reading =>
      rw [reading] at phase
      cases phase
    | located before found =>
      cases phase
      have seeks : d.seeks route (.proceed stopper) = true := by
        simp [Daemon.seeks, before, own]
      have listed := known.found announced present seeks
      rw [own, listed] at found
      exact (Option.some.inj found).symm
    | @foundBusy _ after | @markedIdle _ after => cases after <;> cases phase
    | _ => cases phase

/-- A Stop waits once it has sent its Terminate, or found no owner. -/
theorem HandlerStep.awaits {session : UInt64} (taken : HandlerStep d c label shared handler)
    (awaits : handler.phase.awaits = some session) :
    (d.handlers c).phase.awaits = some session ∨
      (∃ requestId stopped notify owner, label = .send c ∧ stopped.ownerSession = session ∧
        (d.handlers c).phase = .terminating requestId stopped notify owner) ∨
      ∃ requestId stopped notify, label = .proceed c ∧ stopped.ownerSession = session ∧
        (d.handlers c).phase = .locating requestId stopped notify ∧
        d.shared.owners[session]? = none := by
  cases taken with
  | acknowledgeIgnored => exact .inl awaits
  | @removedRoutes _ after phase | @removedOwner _ after phase | @acknowledged _ after phase
  | @foundEmpty _ after phase =>
    left
    rw [phase]
    cases after <;> exact awaits
  | timedOut phase =>
    cases awaits
    exact .inl (by rw [phase]; rfl)
  | terminated phase =>
    cases awaits
    exact .inr (.inl ⟨_, _, _, _, rfl, rfl, phase⟩)
  | unlocated phase missing =>
    cases awaits
    exact .inr (.inr ⟨_, _, _, rfl, rfl, phase, missing⟩)
  | @foundBusy _ after | @markedIdle _ after => cases after <;> cases awaits
  | _ => cases awaits

theorem Known.unawaited_step (known : Known d c route)
    (unaware : Unaware d' c route.ownerSession mark) (announced : Announced d label)
    (present : c < d.accepted) (alive : (d.channels c).closed = false)
    (marked : mark ≤ (d.channels c).sent.length) (taken : d.step label = some d')
    (stopper : ConnId) : (d'.handlers stopper).phase.awaits ≠ some route.ownerSession := by
  intro awaits
  rcases (change_of_step taken).handlers stopper with same | ⟨_, fresh⟩ | moved
  · exact known.unawaited stopper (same ▸ awaits)
  · rw [fresh] at awaits
    cases awaits
  · rcases moved.awaits awaits with before | ⟨requestId, stopped, notify, owner, rfl, own, phase⟩ |
      ⟨requestId, stopped, notify, rfl, own, phase, missing⟩
    · exact known.unawaited stopper before
    · -- The Terminate went to the owner.
      obtain rfl := known.located stopper requestId stopped notify owner phase own
      have pushes : d.pushes (.send stopper) = some owner := by simp [Daemon.pushes, phase]
      exact unaware.untold (told_of_pushes taken pushes alive marked)
    · have seeks : d.seeks route (.proceed stopper) = true := by simp [Daemon.seeks, phase, own]
      rw [known.found announced present seeks] at missing
      cases missing

theorem Known.remaining_step (known : Known d c route)
    (unaware : Unaware d' c route.ownerSession mark) (announced : Announced d label)
    (present : c < d.accepted) (alive : (d.channels c).closed = false)
    (marked : mark ≤ (d.channels c).sent.length) (taken : d.step label = some d')
    (liveBefore : d'.shared.registry.Live route → d.shared.registry.Live route) {details : String}
    {owners remaining : List ConnId} (phase : d'.main = .broadcasting details owners remaining)
    (live : d'.shared.registry.Live route) : c ∈ remaining := by
  have main := (taskStep_of_step taken).main
  rw [phase] at main
  generalize shape : MainPhase.broadcasting details owners remaining = next at main
  cases main with
  | kept => exact known.remaining details owners remaining shape.symm (liveBefore live)
  | @snapshotted _ order _ permuted =>
    have seeks : d.seeks route (.fatalSnapshot order) = true := by
      simpa [Daemon.seeks] using liveBefore live
    have sender := Shared.mem_ownerSenders.mpr ⟨_, known.found announced present seeks⟩
    cases shape
    exact permuted.mem_iff.mpr sender
  | @sent _ next _ _ before =>
    cases shape
    have member := known.remaining _ _ _ before (liveBefore live)
    rcases List.mem_cons.mp member with rfl | rest
    · have pushes : d.pushes .fatalSend = some c := by simp [Daemon.pushes, before]
      exact absurd (told_of_pushes taken pushes alive marked) unaware.untold
    · exact rest
  | _ => cases shape

theorem Known.cleared_step (known : Known d c route) (taken : d.step label = some d')
    (liveBefore : d'.shared.registry.Live route → d.shared.registry.Live route) {details : String}
    {owners : List ConnId} (phase : d'.main = .clearing details owners) :
    ¬ d'.shared.registry.Live route := by
  intro live
  have main := (taskStep_of_step taken).main
  rw [phase] at main
  generalize shape : MainPhase.clearing details owners = next at main
  cases main with
  | kept => exact known.cleared details owners shape.symm (liveBefore live)
  | allSent before => exact List.not_mem_nil (known.remaining _ _ _ before (liveBefore live))
  | _ => cases shape

/-- **Step lemma.** Every announced step keeps track of the owner. -/
theorem Tracked.step (tracked : Tracked d c route mark) (holds : SessionsHold d)
    (taken : d.step label = some d') (announced : Announced d label) :
    Tracked d' c route mark where
  present := tracked.present.trans_le (change_of_step taken).accepted_le
  marked := by
    obtain ⟨more, sent⟩ := (taskStep_of_step taken).sent tracked.present.ne
    rw [sent, List.length_append]
    exact tracked.marked.trans (Nat.le_add_right _ _)
  settled := (change_of_step taken).settled announced.noWrap tracked.settled
  only other owned :=
    tracked.only other ((change_of_step taken).owned_before holds tracked.settled owned)
  known unaware := by
    have change := change_of_step taken
    have before := unaware.before holds taken tracked.settled tracked.present tracked.marked
    have known := tracked.known before
    have liveBefore := fun live => @Change.live_before d d' label route change holds tracked.settled live
    exact {
      listed := known.listed_step before holds change tracked.present
      located := fun _ _ _ _ _ phase own =>
        known.located_step announced tracked.present change phase own
      unawaited := known.unawaited_step unaware announced tracked.present before.alive
        tracked.marked taken
      remaining := fun _ _ _ phase live => known.remaining_step unaware announced tracked.present
        before.alive tracked.marked taken liveBefore phase live
      cleared := fun _ _ phase => known.cleared_step taken liveBefore phase }

/-! ### From the registration on -/

/-- A session that is being registered is no Stop's business yet. -/
theorem SessionsHold.unstopped {session : UInt64} (holds : SessionsHold d)
    (claims : (d.handlers c).phase.claims = some session) (stopper : ConnId) :
    (d.handlers stopper).phase.awaits ≠ some session ∧
      ∀ requestId stopped notify owner,
        (d.handlers stopper).phase = .terminating requestId stopped notify owner →
          stopped.ownerSession ≠ session := by
  have held := holds.phases stopper
  unfold PhaseHolds at held
  have unsettled : ¬ Settled d session := fun settled => settled.unclaimed c claims
  constructor
  · intro awaits
    generalize (d.handlers stopper).phase = phase at held awaits
    cases phase with
    | waiting =>
      cases awaits
      exact unsettled held
    | removing stage removed after =>
      cases after with
      | stopped =>
        cases awaits
        exact unsettled held.1
      | _ => cases awaits
    | _ => cases awaits
  · rintro requestId stopped notify owner phase rfl
    rw [phase] at held
    exact unsettled held

private theorem registers_of_step {rng : DrawStream} {stamp : Stamp}
    (taken : d.step (.register c rng stamp) = some d')
    (publishes : (d'.handlers c).phase.publishes = some route) :
    d.registers (.register c rng stamp) = some route := by
  obtain ⟨next, ran, rfl⟩ := section_of_register taken
  simp only [Daemon.move, Function.update_self] at publishes
  simp only [Daemon.registers, ran, Option.bind_some, publishes]

/-- A handler that has inserted the route it was registering publishes it. -/
theorem HandlerStep.inserts {session : UInt64} (taken : HandlerStep d c label shared handler)
    (claims : (d.handlers c).phase.claims = some session)
    (activates : handler.phase.activates = some route) :
    (∃ rng stamp, label = .register c rng stamp) ∧ handler.phase.publishes = some route := by
  obtain ⟨requestId, port, slug, pid, registering⟩ := registering_of_claims claims
  cases taken with
  | registered =>
    cases activates
    exact ⟨⟨_, _, rfl⟩, rfl⟩
  | registerFailed => cases activates
  | _ => simp_all

/-- The owner of a route is tracked from the registration on. -/
theorem tracked_of_registered (holds : SessionsHold d) (taken : d.step label = some d')
    (announced : Announced d label) (live : d'.shared.registry.Live route)
    (claims : (d.handlers c).phase.claims = some route.ownerSession)
    (owned : (d'.handlers c).owned = some route.ownerSession)
    (activates : (d'.handlers c).phase.activates = some route) :
    (d'.handlers c).phase.publishes = some route ∧
      Tracked d' c route (d'.channels c).sent.length := by
  have change := change_of_step taken
  have holds' := holds.step change announced.noWrap
  obtain ⟨requestId, port, slug, pid, registering⟩ := registering_of_claims claims
  have present : c < d.accepted := by
    apply Nat.lt_of_not_le
    intro late
    rw [holds.absent c late] at registering
    cases registering
  have moved : HandlerStep d c label d'.shared (d'.handlers c) := by
    rcases change.handlers c with same | ⟨new, _⟩ | moved
    · rw [same, registering] at activates
      cases activates
    · exact absurd new present.ne
    · exact moved
  obtain ⟨⟨rng, stamp, rfl⟩, publishes⟩ := moved.inserts claims activates
  refine ⟨publishes, ?_⟩
  obtain ⟨_, published⟩ := publishing_of_publishes publishes
  have others := fun other => @Change.others d d' c other _ change rfl
  have early : d'.main.broadcasts = false := by
    have main := (taskStep_of_step taken).main
    have before := announced.early route (registers_of_step taken publishes)
    generalize d'.main = next at main
    cases main with
    | kept => exact before
  exact {
    present := present.trans_le change.accepted_le
    marked := le_rfl
    settled := holds'.settled_of_live live
    only := fun other otherOwned => holds'.owner_unique otherOwned owned
    known := fun _ => {
      listed := .inl publishes
      located := by
        intro stopper requestId stopped notify owner phase own
        by_cases here : stopper = c
        · rw [here, published] at phase
          cases phase
        · rw [others stopper here] at phase
          exact absurd own ((holds.unstopped claims stopper).2 _ _ _ _ phase)
      unawaited := by
        intro stopper awaits
        by_cases here : stopper = c
        · rw [here, published] at awaits
          cases awaits
        · rw [others stopper here] at awaits
          exact (holds.unstopped claims stopper).1 awaits
      remaining := by
        intro details owners remaining phase
        rw [phase] at early
        cases early
      cleared := by
        intro details owners phase
        rw [phase] at early
        cases early } }

/-- Every live route was registered by a step of the run, and its owner has been
tracked since. -/
theorem registration_of_live {baseDomain : String} {now : Instant}
    (ran : Run Daemon.step Announced (.start baseDomain now) labels d)
    (live : d.shared.registry.Live route) :
    ∃ before r past c, labels = before ++ past ∧
      Run Daemon.step Announced (.start baseDomain now) before r ∧
      (r.handlers c).phase.publishes = some route ∧ Run Daemon.step Announced r past d ∧
      Tracked d c route (r.channels c).sent.length := by
  induction ran with
  | nil => exact absurd live (RouteRegistry.not_live_new route)
  | @snoc labels d d' label prior announced taken ih =>
    have holds := (sessionsHold_start baseDomain now).run
      (prior.mono fun _ _ announced => announced.noWrap)
    rcases (change_of_step taken).live holds.wellFormed live with old | ⟨c, claims, owned, activates, _⟩
    · obtain ⟨before, r, past, c, rfl, first, publishes, rest, tracked⟩ := ih old
      exact ⟨before, r, past ++ [label], c, List.append_assoc .., first, publishes,
        .snoc rest announced taken, tracked.step holds taken announced⟩
    · obtain ⟨publishes, tracked⟩ :=
        tracked_of_registered holds taken announced live claims owned activates
      exact ⟨labels ++ [label], d', [], c, (List.append_nil _).symm,
        .snoc prior announced taken, publishes, .nil, tracked⟩

/-! ### The removal -/

private theorem main_of_fatalClear (taken : d.step .fatalClear = some d') :
    ∃ details owners, d.main = .clearing details owners := by
  unfold Daemon.step at taken
  split at taken
  · cases taken
  · simp only [Daemon.mainStep] at taken
    split at taken <;> cases taken
    rename_i phase
    exact ⟨_, _, phase⟩

theorem HandlerStep.informs_of_clearing {requestId : Option UInt64}
    (taken : HandlerStep d other (.proceed other) shared handler)
    (phase : (d.handlers other).phase = .clearing requestId) : handler.phase.informs c := by
  cases taken with
  | cleared => trivial
  | _ => simp_all

/-- Whoever removes the route has told its owner, or is a Kill that is going to. -/
theorem Tracked.removed {remover : Remover} (tracked : Tracked d c route mark)
    (holds : SessionsHold d) (taken : d.step label = some d')
    (live : d.shared.registry.Live route) (gone : ¬ d'.shared.registry.Live route)
    (removes : d.remover label = some remover)
    (unaware : Unaware d' c route.ownerSession mark) : remover.Pending d' c := by
  have change := change_of_step taken
  have before := unaware.before holds taken tracked.settled tracked.present tracked.marked
  have known := tracked.known before
  unfold Daemon.remover at removes
  split at removes
  · rename_i other
    have moved : HandlerStep d other (.proceed other) d'.shared (d'.handlers other) :=
      change.moved rfl
    split at removes
    · rename_i session requestId stopped notify phase
      exfalso
      apply gone
      generalize d'.shared = shared at moved ⊢
      generalize d'.handlers other = handler at moved
      cases moved with
      | @removedRoutes removed _ removing =>
        rw [phase] at removing
        cases removing
        refine (RouteRegistry.live_removeSession holds.wellFormed).mpr ⟨live, fun own => ?_⟩
        exact known.unawaited other (by rw [phase, own]; rfl)
      | _ => simp_all
    · rename_i phase
      cases removes
      exact moved.informs_of_clearing phase
    · cases removes
  · obtain ⟨details, owners, phase⟩ := main_of_fatalClear taken
    exact absurd live (known.cleared details owners phase)
  · cases removes

/-- A Kill goes on to push to the owner of a route that it has removed. -/
theorem Tracked.informs_step {killer : ConnId} (tracked : Tracked d c route mark)
    (holds : SessionsHold d) (taken : d.step label = some d') (announced : Announced d label)
    (gone : ¬ d.shared.registry.Live route) (unaware : Unaware d' c route.ownerSession mark)
    (informs : (d.handlers killer).phase.informs c) : (d'.handlers killer).phase.informs c := by
  have change := change_of_step taken
  have before := unaware.before holds taken tracked.settled tracked.present tracked.marked
  have known := tracked.known before
  rcases change.handlers killer with same | ⟨new, _⟩ | moved
  · rw [same]
    exact informs
  · rw [holds.absent killer new.ge] at informs
    cases informs
  · generalize d'.handlers killer = handler at moved ⊢
    generalize d'.shared = shared at moved
    cases moved with
    | acknowledgeIgnored => exact informs
    | @snapshotted _ _ order phase permuted =>
      have seeks : d.seeks route (.snapshot killer order) = true := by simp [Daemon.seeks, gone]
      have sender := Shared.mem_ownerSenders.mpr ⟨_, known.found announced tracked.present seeks⟩
      exact permuted.mem_iff.mpr sender
    | @broadcastOne _ _ next _ _ phase =>
      rw [phase] at informs
      rcases List.mem_cons.mp informs with rfl | rest
      · have pushes : d.pushes (.send killer) = some c := by simp [Daemon.pushes, phase]
        exact absurd (told_of_pushes taken pushes before.alive tracked.marked) unaware.untold
      · exact rest
    | broadcasted phase =>
      rw [phase] at informs
      cases informs
    | _ => simp_all [Phase.informs]

/-- What holds of the owner once its route has been removed. -/
structure Removed (d : Daemon) (c : ConnId) (route : Route) (mark : Nat) (remover : Remover) :
    Prop where
  sessions : SessionsHold d
  tracked : Tracked d c route mark
  gone : ¬ d.shared.registry.Live route
  pending : Unaware d c route.ownerSession mark → remover.Pending d c

theorem Removed.step {remover : Remover} (removed : Removed d c route mark remover)
    (taken : d.step label = some d') (announced : Announced d label) :
    Removed d' c route mark remover where
  sessions := removed.sessions.step (change_of_step taken) announced.noWrap
  tracked := removed.tracked.step removed.sessions taken announced
  gone live := removed.gone
    ((change_of_step taken).live_before removed.sessions removed.tracked.settled live)
  pending unaware := by
    obtain ⟨holds, tracked, gone, pending⟩ := removed
    have before := pending
      (unaware.before holds taken tracked.settled tracked.present tracked.marked)
    cases remover with
    | kill killer => exact tracked.informs_step holds taken announced gone unaware before
    | stop | fatal => cases before

/-- **No forward is removed behind its owner's back**, in every announced run: an
owner whose connection is open and has not released the session was sent a
Terminate or a Fatal after it registered the route, or the Kill that removed the
route is still going to send one. -/
theorem removal_is_announced {baseDomain : String} {now : Instant} {more : List Label}
    {remover : Remover} (ran : Run Daemon.step Announced (.start baseDomain now) labels d)
    (live : d.shared.registry.Live route) (removes : d.remover label = some remover)
    (announced : Announced d label) (taken : d.step label = some d')
    (gone : ¬ d'.shared.registry.Live route) (rest : Run Daemon.step Announced d' more v)
    (attached : Attached v c route.ownerSession) :
    ∃ before r past, labels = before ++ past ∧
      Run Daemon.step Announced (.start baseDomain now) before r ∧
      (r.handlers c).phase.publishes = some route ∧ Run Daemon.step Announced r past d ∧
      (Told v c (r.channels c).sent.length ∨ remover.Pending v c) := by
  obtain ⟨before, r, past, owner, split, first, publishes, until', tracked⟩ :=
    registration_of_live ran live
  have holds := (sessionsHold_start baseDomain now).run
    (ran.mono fun _ _ announced => announced.noWrap)
  have removed : Removed d' owner route (r.channels owner).sent.length remover :=
    ⟨holds.step (change_of_step taken) announced.noWrap, tracked.step holds taken announced, gone,
      tracked.removed holds taken live gone removes⟩
  have last := rest.invariant
    (fun d : Daemon => Removed d owner route (r.channels owner).sent.length remover) removed
    fun _ _ _ removed announced taken => removed.step taken announced
  obtain rfl := last.tracked.only c attached.owned
  refine ⟨before, r, past, split, first, publishes, until', ?_⟩
  by_cases told : Told v c (r.channels c).sent.length
  · exact .inl told
  · exact .inr (last.pending ⟨attached, told⟩)

/-! ### Two Kills -/

/-- The route of client 0. -/
def appRoute : Route := ⟨"app", ⟨.localhost, 3000⟩, 1, 42, 0, 0⟩

/-- The daemon with client 0's route when client 1's Kill has cleared the
registry. -/
def clearedDaemon : Daemon := (killedDaemon.step (.proceed 1)).get (by decide)

/-- The daemon when the Kill has pushed to everybody it found. -/
def pushedDaemon : Daemon :=
  (execute Daemon.step clearedDaemon [.snapshot 1 [0], .send 1]).get (by decide)

theorem kill_tells_the_owner :
    ∃ r : Daemon, (r.handlers 0).phase.publishes = some appRoute ∧
      Told pushedDaemon 0 (r.channels 0).sent.length := by
  have registered : Run Daemon.step Announced (.start "example.com" 0)
      (registrationLabels 0 3000 "app") oneRoute := run_to_executeChecked rfl
  have asked : Run Daemon.step Announced oneRoute killRequest killedDaemon :=
    run_to_executeChecked rfl
  have pushed : Run Daemon.step Announced clearedDaemon [.snapshot 1 [0], .send 1] pushedDaemon :=
    run_to_executeChecked rfl
  obtain ⟨before, r, past, _, _, publishes, _, told | pending⟩ :=
    @removal_is_announced killedDaemon clearedDaemon pushedDaemon 0 (.proceed 1) appRoute _ _ _ _
      (.kill 1) (registered.append asked) (by decide) rfl (by decide) rfl
      (RouteRegistry.not_live_new appRoute) pushed ⟨rfl, rfl, rfl⟩
  · exact ⟨r, publishes, told⟩
  · exact absurd pending List.not_mem_nil

/-- The Kill clears the registry and looks for the owners while client 0's
handler, its route registered, waits for the owners map. -/
def unlistedDaemon : Daemon :=
  (execute Daemon.step (.start "example.com" 0)
    ([.accept, .read 0 (.ok (Envelope.new (some 1) (.register 3000 (some "app") 42))),
      .register 0 ⟨[]⟩ ⟨0, 0⟩] ++ killRequest)).get (by decide)

/-- Client 0 is told that it is registered, and never that its forward is gone:
the Kill is through. -/
theorem kill_misses_an_owner :
    ∃ labels d d' more v, Run Daemon.step Unrestricted (.start "example.com" 0) labels d ∧
      d.shared.registry.Live appRoute ∧ d.remover (.proceed 1) = some (.kill 1) ∧
      d.step (.proceed 1) = some d' ∧ ¬ d'.shared.registry.Live appRoute ∧
      Run Daemon.step Unrestricted d' more v ∧ Attached v 0 1 ∧
      (v.channels 0).sent = [Envelope.new (some 1)
        (.registered 1 "app" "http://127.0.0.1:3000" "https://app.example.com")] ∧
      ¬ (Remover.kill 1).Pending v 0 := by
  have first : Run Daemon.step Unrestricted (.start "example.com" 0) _ unlistedDaemon :=
    run_to_execute _
  have rest := @run_to_execute _ _ Daemon.step ((unlistedDaemon.step (.proceed 1)).get (by decide))
    [.snapshot 1 [], .proceed 1, .send 1, .proceed 0, .proceed 0, .send 0] (by decide)
  exact ⟨_, _, _, _, _, first, by decide, rfl, rfl, RouteRegistry.not_live_new appRoute, rest,
    ⟨rfl, rfl, rfl⟩, rfl, fun pending => pending⟩

end CfFw
