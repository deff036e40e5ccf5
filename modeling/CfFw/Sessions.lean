import CfFw.DaemonSteps

/-! Who owns which session. As long as the session counter has not come round,
a session is handed out once, belongs to one connection, and never comes back
after it is gone; the invariant says so for every handler at every await. -/
namespace CfFw
open Std

/-- The client sends a registration. -/
def ClientMessage.isRegister : ClientMessage → Bool
  | .register _ _ _ => true
  | _ => false

/-- Taking the step would take a number from the session counter. -/
def Daemon.takesSession (d : Daemon) : Label → Bool
  | .read c (.ok envelope) =>
    envelope.message.isRegister && (d.handlers c).owned.isNone && !d.shared.shuttingDown
  | _ => false

/-- The session counter has not come round to 0 when a number is taken. -/
def NoWrap (d : Daemon) (label : Label) : Prop :=
  d.takesSession label = true → d.shared.nextSession ≠ 0

instance (d : Daemon) (label : Label) : Decidable (NoWrap d label) :=
  inferInstanceAs (Decidable (_ → _))

/-- The session number was handed out. The last one is `next_session - 1`. -/
def Issued (shared : Shared) (session : UInt64) : Prop :=
  session ≠ 0 ∧ session ≤ shared.nextSession - 1

/-- The route a handler has inserted and not yet marked the daemon active for. -/
def Phase.activates : Phase → Option Route
  | .publishing _ route | .activating _ route => some route
  | _ => none

/-- The session a handler is registering. -/
def Phase.claims : Phase → Option UInt64
  | .registering _ _ _ _ session => some session
  | _ => none

/-- The session a handler works for: the one it is registering or owns. -/
def Handler.session (handler : Handler) : Option UInt64 := handler.phase.claims.or handler.owned

/-- The session was handed out, and its registration is over: no handler can
register a route for it any more. -/
structure Settled (d : Daemon) (session : UInt64) : Prop where
  issued : Issued d.shared session
  unclaimed : ∀ c, (d.handlers c).phase.claims ≠ some session

/-- A settled session without a route. -/
structure Dead (d : Daemon) (session : UInt64) : Prop extends Settled d session where
  routeless : ∀ route, d.shared.registry.Live route → route.ownerSession ≠ session

/-- What a handler's local variables say about sessions. -/
def PhaseHolds (d : Daemon) (handler : Handler) : Prop :=
  match handler.phase with
  | .registering _ _ _ _ session => handler.owned = none ∧ Issued d.shared session
  | .publishing _ route | .activating _ route => handler.owned = some route.ownerSession
  | .removing stage session after =>
    Settled d session ∧ (stage ≠ .registry → Dead d session) ∧
      match after with
      | .stopped _ route _ => route.ownerSession = session
      | _ => handler.owned = some session
  | .notifying _ route _ | .locating _ route _ | .terminating _ route _ _ | .waiting _ route _ _ _ =>
    Settled d route.ownerSession
  | .replying _ _ .release => ∀ session, handler.owned = some session → Dead d session
  | .replying _ _ (.startStats route) => handler.owned = some route.ownerSession
  | _ => True

/-- The session invariant. -/
structure SessionsHold (d : Daemon) : Prop where
  wellFormed : d.shared.registry.WellFormed
  absent : ∀ c, d.accepted ≤ c → d.handlers c = ⟨.absent, none⟩
  issuedOwned : ∀ c session, (d.handlers c).owned = some session → Issued d.shared session
  phases : ∀ c, PhaseHolds d (d.handlers c)
  exclusive : ∀ c other session, (d.handlers c).session = some session →
    (d.handlers other).session = some session → c = other
  owner : ∀ route, d.shared.registry.Live route →
    ∃ c, (d.handlers c).owned = some route.ownerSession
  single : ∀ route other, d.shared.registry.Live route → d.shared.registry.Live other →
    route.ownerSession = other.ownerSession → route = other

variable {d d' : Daemon} {c : ConnId} {label : Label} {shared : Shared} {handler : Handler}
  {session : UInt64} {route : Route}

@[simp] theorem claims_removed (handler : Handler) (baseDomain : String) (session : UInt64)
    (after : AfterRemove) : (handler.removed baseDomain session after).phase.claims = none := by
  cases after <;> rfl

theorem owned_removed (handler : Handler) (baseDomain : String) (session : UInt64)
    (after : AfterRemove) : (handler.removed baseDomain session after).owned =
      if after = .acknowledged then none else handler.owned := by
  cases after <;> rfl

/-! ### What one step does to sessions -/

theorem takesSession_register {envelope : Envelope ClientMessage} {port : UInt16}
    {slug : Option String} {pid : UInt32} (message : envelope.message = .register port slug pid)
    (free : (d.handlers c).owned = none) (up : d.shared.shuttingDown = false) :
    d.takesSession (.read c (.ok envelope)) = true := by
  simp [Daemon.takesSession, message, ClientMessage.isRegister, free, up]

theorem HandlerStep.nextSession (taken : HandlerStep d c label shared handler) :
    shared.nextSession = d.shared.nextSession ∨
      (shared.nextSession = d.shared.nextSession + 1 ∧ d.takesSession label = true) := by
  cases taken with
  | registerStarted phase message free up =>
    exact .inr ⟨rfl, takesSession_register message free up⟩
  | acknowledged phase =>
    simp only [Shared.acknowledge]
    split <;> exact .inl rfl
  | _ => exact .inl rfl

/-- The counter moves only when a Register takes a number. -/
theorem Change.nextSession (change : Change d label d') :
    d'.shared.nextSession = d.shared.nextSession ∨
      (d'.shared.nextSession = d.shared.nextSession + 1 ∧ d.takesSession label = true) := by
  rcases change.shared with ⟨c, handler, taken⟩ | ⟨_, _, _, same⟩ | ⟨_, same⟩
  · exact taken.nextSession
  · exact .inl (by rw [same])
  · exact .inl (by rw [same])

theorem Change.issued (change : Change d label d') (noWrap : NoWrap d label)
    (issued : Issued d.shared session) : Issued d'.shared session := by
  rcases change.nextSession with same | ⟨next, takes⟩
  · simpa [Issued, same] using issued
  · have nonzero := noWrap takes
    simp only [Issued, next] at issued ⊢
    grind

/-- A number about to be taken was never handed out. -/
theorem not_issued_next (nonzero : d.shared.nextSession ≠ 0) :
    ¬ Issued d.shared d.shared.nextSession := by
  simp only [Issued]
  grind

/-- A live route was live before, or is the one its handler has just registered
under the session it claimed. -/
theorem HandlerStep.live (taken : HandlerStep d c label shared handler)
    (wellFormed : d.shared.registry.WellFormed) (live : shared.registry.Live route) :
    d.shared.registry.Live route ∨
      ((d.handlers c).phase.claims = some route.ownerSession ∧
        handler.owned = some route.ownerSession ∧ handler.phase.activates = some route ∧
        ∀ other, shared.registry.Live other → other = route ∨ d.shared.registry.Live other) := by
  cases taken with
  | registered phase addable onPort owner =>
    have added := fun other => @RouteRegistry.live_insertRoute _ _ other addable.freeSlug
    rcases (added route).mp live with rfl | old
    · exact .inr ⟨by rw [phase, owner]; rfl, by rw [owner], rfl, fun other => (added other).mp⟩
    · exact .inl old
  | removedRoutes phase => exact .inl ((RouteRegistry.live_removeSession wellFormed).mp live).1
  | acknowledged phase =>
    simp only [Shared.acknowledge] at live
    split at live <;> exact .inl live
  | cleared phase => exact absurd live (RouteRegistry.not_live_new route)
  | _ => exact .inl live

theorem Change.live (change : Change d label d') (wellFormed : d.shared.registry.WellFormed)
    (live : d'.shared.registry.Live route) :
    d.shared.registry.Live route ∨ ∃ c, (d.handlers c).phase.claims = some route.ownerSession ∧
      (d'.handlers c).owned = some route.ownerSession ∧
      (d'.handlers c).phase.activates = some route ∧
      ∀ other, d'.shared.registry.Live other → other = route ∨ d.shared.registry.Live other := by
  cases change with
  | @handler c shared handler taken sharedEq handlersEq =>
    rw [sharedEq] at live ⊢
    refine (taken.live wellFormed live).imp id fun added => ⟨c, ?_⟩
    rwa [handlersEq, Function.update_self]
  | accepted _ sharedEq => exact .inl (by rwa [sharedEq] at live)
  | flags _ _ sharedEq => exact .inl (by rwa [sharedEq] at live)
  | fatalCleared _ sharedEq =>
    rw [sharedEq] at live
    exact absurd live (RouteRegistry.not_live_new route)

theorem Change.wellFormed (change : Change d label d')
    (wellFormed : d.shared.registry.WellFormed) : d'.shared.registry.WellFormed := by
  rcases change.shared with ⟨c, handler, taken⟩ | ⟨_, _, _, same⟩ | ⟨_, same⟩
  · generalize d'.shared = shared at taken
    cases taken with
    | registered _ addable => exact wellFormed.insertRoute addable
    | removedRoutes => exact wellFormed.removeSession _
    | acknowledged =>
      simp only [Shared.acknowledge]
      split <;> exact wellFormed
    | cleared => exact RouteRegistry.wellFormed_new
    | _ => exact wellFormed
  · rw [same]
    exact wellFormed
  · rw [same]
    exact RouteRegistry.wellFormed_new

/-- The step has handler `c` read a Register and take `session` for it. -/
structure Takes (d : Daemon) (label : Label) (c : ConnId) (session : UInt64) : Prop where
  next : session = d.shared.nextSession
  takes : d.takesSession label = true
  reader : ∃ envelope, label = .read c (.ok envelope)

/-- A handler claims the session it claimed before, or a number just taken. -/
theorem HandlerStep.claims (taken : HandlerStep d c label shared handler)
    (claims : handler.phase.claims = some session) :
    (d.handlers c).phase.claims = some session ∨ Takes d label c session := by
  cases taken with
  | registerStarted phase message free up =>
    cases claims
    exact .inr ⟨rfl, takesSession_register message free up, _, rfl⟩
  | acknowledgeIgnored => exact .inl claims
  | foundBusy | markedIdle =>
    rw [claims_removed] at claims
    cases claims
  | _ => cases claims

theorem Change.claims (change : Change d label d')
    (claims : (d'.handlers c).phase.claims = some session) :
    (d.handlers c).phase.claims = some session ∨ Takes d label c session := by
  rcases change.handlers c with same | ⟨_, fresh⟩ | taken
  · exact .inl (same ▸ claims)
  · rw [fresh] at claims
    cases claims
  · exact taken.claims claims

/-- **Settled sessions stay settled**, and dead ones stay dead. -/
theorem Change.settled (change : Change d label d') (noWrap : NoWrap d label)
    (settled : Settled d session) : Settled d' session where
  issued := change.issued noWrap settled.issued
  unclaimed c claims := by
    rcases change.claims claims with old | ⟨rfl, takes, _⟩
    · exact settled.unclaimed c old
    · exact not_issued_next (noWrap takes) settled.issued

theorem Change.dead (change : Change d label d') (noWrap : NoWrap d label)
    (wellFormed : d.shared.registry.WellFormed) (dead : Dead d session) : Dead d' session where
  toSettled := change.settled noWrap dead.toSettled
  routeless route live same := by
    rcases change.live wellFormed live with old | ⟨c, claims, _⟩
    · exact dead.routeless route old same
    · exact dead.unclaimed c (same ▸ claims)

theorem PhaseHolds.mono (issued : ∀ session, Issued d.shared session → Issued d'.shared session)
    (settled : ∀ session, Settled d session → Settled d' session)
    (dead : ∀ session, Dead d session → Dead d' session) (holds : PhaseHolds d handler) :
    PhaseHolds d' handler := by
  unfold PhaseHolds at holds ⊢
  split at holds
  case h_1 => exact ⟨holds.1, issued _ holds.2⟩
  case h_2 | h_3 => exact holds
  case h_4 => exact ⟨settled _ holds.1, fun later => dead _ (holds.2.1 later), holds.2.2⟩
  case h_5 | h_6 | h_7 | h_8 => exact settled _ holds
  case h_9 => exact fun session owned => dead _ (holds session owned)
  case h_10 => exact holds
  case h_11 => trivial

/-! ### What the invariant says about one state -/

theorem session_of_claims (claims : (d.handlers c).phase.claims = some session) :
    (d.handlers c).session = some session := by
  rw [Handler.session, claims]
  rfl

theorem registering_of_claims {phase : Phase} (claims : phase.claims = some session) :
    ∃ requestId port slug pid, phase = .registering requestId port slug pid session := by
  cases phase with
  | registering requestId port slug pid claimed =>
    cases claims
    exact ⟨requestId, port, slug, pid, rfl⟩
  | _ => cases claims

/-- A handler that registers owns nothing yet. -/
theorem SessionsHold.owned_of_claims (holds : SessionsHold d)
    (claims : (d.handlers c).phase.claims = some session) :
    (d.handlers c).owned = none ∧ Issued d.shared session := by
  obtain ⟨requestId, port, slug, pid, same⟩ := registering_of_claims claims
  have phase := holds.phases c
  unfold PhaseHolds at phase
  rwa [same] at phase

theorem SessionsHold.session_of_owned (holds : SessionsHold d)
    (owned : (d.handlers c).owned = some session) : (d.handlers c).session = some session := by
  cases claims : (d.handlers c).phase.claims with
  | none =>
    rw [Handler.session, claims, owned]
    rfl
  | some claimed =>
    rw [(holds.owned_of_claims claims).1] at owned
    cases owned

theorem SessionsHold.issued_of_session (holds : SessionsHold d)
    (works : (d.handlers c).session = some session) : Issued d.shared session := by
  rw [Handler.session, Option.or_eq_some_iff] at works
  rcases works with claims | ⟨_, owned⟩
  · exact (holds.owned_of_claims claims).2
  · exact holds.issuedOwned c session owned

/-- A session has one owner at most. -/
theorem SessionsHold.owner_unique {other : ConnId} (holds : SessionsHold d)
    (owned : (d.handlers c).owned = some session)
    (otherOwned : (d.handlers other).owned = some session) : c = other :=
  holds.exclusive c other session (holds.session_of_owned owned) (holds.session_of_owned otherOwned)

/-- An owned session is settled. -/
theorem SessionsHold.settled_of_owned (holds : SessionsHold d)
    (owned : (d.handlers c).owned = some session) : Settled d session where
  issued := holds.issuedOwned c session owned
  unclaimed other claims := by
    have same := holds.exclusive c other session (holds.session_of_owned owned)
      (session_of_claims claims)
    subst same
    rw [(holds.owned_of_claims claims).1] at owned
    cases owned

/-- The session of a live route is settled. -/
theorem SessionsHold.settled_of_live (holds : SessionsHold d)
    (live : d.shared.registry.Live route) : Settled d route.ownerSession := by
  obtain ⟨c, owned⟩ := holds.owner route live
  exact holds.settled_of_owned owned

/-- A handler in `remove_session` works on a settled session, which is dead from
the owners section on: its own, or that of the route it stops. -/
theorem SessionsHold.removing {stage : RemoveStage} {after : AfterRemove} (holds : SessionsHold d)
    (phase : (d.handlers c).phase = .removing stage session after) :
    Settled d session ∧ (stage ≠ .registry → Dead d session) ∧
      match after with
      | .stopped _ route _ => route.ownerSession = session
      | _ => (d.handlers c).owned = some session := by
  have held := holds.phases c
  unfold PhaseHolds at held
  rw [phase] at held
  refine ⟨held.1, held.2.1, ?_⟩
  cases after <;> exact held.2.2

/-! ### Every step keeps the invariant -/

theorem HandlerStep.present (taken : HandlerStep d c label shared handler) :
    (d.handlers c).phase ≠ .absent := by
  intro absent
  cases taken <;> simp_all

theorem HandlerStep.session_of_owned (taken : HandlerStep d c label shared handler)
    (holds : SessionsHold d) (owned : handler.owned = some session) :
    (d.handlers c).session = some session := by
  cases taken with
  | registerStarted | left | released => cases owned
  | unregister _ _ old | acknowledge _ _ old | disconnected _ _ old =>
    cases owned
    exact holds.session_of_owned old
  | registered phase _ _ owner =>
    cases owned
    exact session_of_claims (by rw [phase]; rfl)
  | foundBusy | markedIdle =>
    rw [owned_removed] at owned
    split at owned
    · cases owned
    · exact holds.session_of_owned owned
  | _ => exact holds.session_of_owned owned

/-- A handler works for the session it worked for before, or for a number just
taken. -/
theorem HandlerStep.works (taken : HandlerStep d c label shared handler) (holds : SessionsHold d)
    (works : handler.session = some session) :
    (d.handlers c).session = some session ∨ Takes d label c session := by
  rw [Handler.session, Option.or_eq_some_iff] at works
  rcases works with claims | ⟨_, owned⟩
  · exact (taken.claims claims).imp session_of_claims id
  · exact .inl (taken.session_of_owned holds owned)

theorem Change.works (change : Change d label d') (holds : SessionsHold d)
    (works : (d'.handlers c).session = some session) :
    (d.handlers c).session = some session ∨ Takes d label c session := by
  rcases change.handlers c with same | ⟨_, fresh⟩ | taken
  · exact .inl (same ▸ works)
  · rw [fresh] at works
    cases works
  · exact taken.works holds works

/-- A handler gives its session up only once the session is dead. -/
theorem HandlerStep.keeps_owned (taken : HandlerStep d c label shared handler)
    (holds : SessionsHold d) (owned : (d.handlers c).owned = some session) :
    handler.owned = some session ∨ Dead d session := by
  have phase := holds.phases c
  unfold PhaseHolds at phase
  cases taken with
  | registerStarted _ _ free | left _ _ free =>
    rw [free] at owned
    cases owned
  | unregister _ _ old | acknowledge _ _ old | disconnected _ _ old =>
    exact .inl (old.symm.trans owned)
  | registered same =>
    rw [same] at phase
    rw [phase.1] at owned
    cases owned
  | released same =>
    rw [same] at phase
    exact .inr (phase session owned)
  | @foundBusy removing after same | @markedIdle removing after same =>
    rw [same] at phase
    rw [owned_removed]
    split
    · rename_i acknowledged
      subst acknowledged
      obtain rfl := Option.some.inj (phase.2.2.symm.trans owned)
      exact .inr (phase.2.1 (by simp))
    · exact .inl owned
  | _ => exact .inl owned

theorem Change.keeps_owned (change : Change d label d') (holds : SessionsHold d)
    (owned : (d.handlers c).owned = some session) :
    (d'.handlers c).owned = some session ∨ Dead d session := by
  rcases change.handlers c with same | ⟨new, _⟩ | taken
  · exact .inl (same ▸ owned)
  · rw [holds.absent c new.ge] at owned
    cases owned
  · exact taken.keeps_owned holds owned

private theorem phaseHolds_removed {baseDomain : String} {after : AfterRemove}
    (dead : Dead d session)
    (owns : match after with
      | .stopped _ route _ => route.ownerSession = session
      | _ => handler.owned = some session) :
    PhaseHolds d (handler.removed baseDomain session after) := by
  cases after with
  | unregistered requestId =>
    intro other owned
    obtain rfl := Option.some.inj (owns.symm.trans owned)
    exact dead
  | _ => trivial

theorem HandlerStep.phaseHolds (taken : HandlerStep d c label shared handler)
    (sharedEq : d'.shared = shared) (change : Change d label d') (noWrap : NoWrap d label)
    (holds : SessionsHold d) : PhaseHolds d' handler := by
  have phase := holds.phases c
  have settled := fun session => @Change.settled d d' label session change noWrap
  have dead := fun session => @Change.dead d d' label session change noWrap holds.wellFormed
  unfold PhaseHolds at phase
  cases taken with
  | registerStarted _ message free up =>
    refine ⟨rfl, noWrap (takesSession_register message free up), ?_⟩
    rw [sharedEq]
    simp
  | unregister _ _ owned | acknowledge _ _ owned | disconnected _ _ owned =>
    exact ⟨settled _ (holds.settled_of_owned owned), fun later => absurd rfl later, rfl⟩
  | acknowledgeIgnored same =>
    unfold PhaseHolds
    rw [same]
    trivial
  | registered _ _ _ owner =>
    subst owner
    rfl
  | published same | activated same =>
    rw [same] at phase
    exact phase
  | @removedRoutes session after same =>
    rw [same] at phase
    refine ⟨settled _ phase.1, fun _ => ⟨settled _ phase.1, fun route live => ?_⟩, phase.2.2⟩
    rw [sharedEq] at live
    exact ((RouteRegistry.live_removeSession holds.wellFormed).mp live).2
  | removedOwner same | acknowledged same | foundEmpty same =>
    rw [same] at phase
    exact ⟨settled _ phase.1, fun _ => dead _ (phase.2.1 (by simp)), phase.2.2⟩
  | @foundBusy session after same | @markedIdle session after same =>
    rw [same] at phase
    exact phaseHolds_removed (dead _ (phase.2.1 (by simp))) phase.2.2
  | @resolved requestId selector route same found =>
    exact settled _ (holds.settled_of_live (RouteRegistry.live_of_resolve holds.wellFormed found))
  | notified same | located same | unlocated same | terminated same =>
    rw [same] at phase
    exact settled _ phase
  | timedOut same =>
    rw [same] at phase
    exact ⟨settled _ phase, fun later => absurd rfl later, rfl⟩
  | _ => trivial

theorem Change.phaseHolds (change : Change d label d') (noWrap : NoWrap d label)
    (holds : SessionsHold d) (c : ConnId) : PhaseHolds d' (d'.handlers c) := by
  rcases change.handlers c with same | ⟨_, fresh⟩ | taken
  · rw [same]
    exact (holds.phases c).mono (fun _ => change.issued noWrap) (fun _ => change.settled noWrap)
      (fun _ => change.dead noWrap holds.wellFormed)
  · rw [fresh]
    trivial
  · exact taken.phaseHolds rfl change noWrap holds

theorem Change.absent (change : Change d label d')
    (absent : ∀ c, d.accepted ≤ c → d.handlers c = ⟨.absent, none⟩) (later : d'.accepted ≤ c) :
    d'.handlers c = ⟨.absent, none⟩ := by
  cases change with
  | @handler other _ _ taken _ handlersEq acceptedEq =>
    rw [acceptedEq] at later
    have different : c ≠ other := by
      rintro rfl
      exact taken.present (by rw [absent c later])
    rw [handlersEq, Function.update_of_ne different]
    exact absent c later
  | accepted _ _ handlersEq acceptedEq =>
    rw [acceptedEq] at later
    have beyond : d.accepted < c := later
    rw [handlersEq, Function.update_of_ne beyond.ne']
    exact absent c beyond.le
  | flags _ _ _ handlersEq acceptedEq =>
    rw [acceptedEq] at later
    rw [handlersEq]
    exact absent c later
  | fatalCleared _ _ handlersEq acceptedEq =>
    rw [acceptedEq] at later
    rw [handlersEq]
    exact absent c later

/-- What a handler owns after a step was its session before. -/
theorem Change.session_of_owned (change : Change d label d') (holds : SessionsHold d)
    (owned : (d'.handlers c).owned = some session) : (d.handlers c).session = some session := by
  rcases change.handlers c with same | ⟨_, fresh⟩ | taken
  · rw [same] at owned
    exact holds.session_of_owned owned
  · rw [fresh] at owned
    cases owned
  · exact taken.session_of_owned holds owned

/-- **Step lemma.** Every step that does not wrap the counter keeps the session
invariant. -/
theorem SessionsHold.step (holds : SessionsHold d) (change : Change d label d')
    (noWrap : NoWrap d label) : SessionsHold d' where
  wellFormed := change.wellFormed holds.wellFormed
  absent _ later := change.absent holds.absent later
  issuedOwned _ _ owned :=
    change.issued noWrap (holds.issued_of_session (change.session_of_owned holds owned))
  phases c := change.phaseHolds noWrap holds c
  exclusive first second session works other := by
    rcases change.works holds works with works | ⟨same, takes, envelope, reader⟩ <;>
      rcases change.works holds other with other | ⟨same', takes', envelope', reader'⟩
    · exact holds.exclusive first second session works other
    · subst same'
      exact absurd (holds.issued_of_session works) (not_issued_next (noWrap takes'))
    · subst same
      exact absurd (holds.issued_of_session other) (not_issued_next (noWrap takes))
    · rw [reader] at reader'
      exact (Label.read.inj reader').1
  owner route live := by
    rcases change.live holds.wellFormed live with old | ⟨c, _, owned, _⟩
    · obtain ⟨c, owned⟩ := holds.owner route old
      rcases change.keeps_owned holds owned with kept | dead
      · exact ⟨c, kept⟩
      · exact absurd rfl (dead.routeless route old)
    · exact ⟨c, owned⟩
  single route other live otherLive same := by
    -- A session that is being registered has no route yet.
    have fresh : ∀ {c : ConnId} {route other : Route},
        (d.handlers c).phase.claims = some route.ownerSession → d.shared.registry.Live other →
          other.ownerSession ≠ route.ownerSession := by
      intro c route other claims otherLive same
      exact (holds.settled_of_live otherLive).unclaimed c (same ▸ claims)
    rcases change.live holds.wellFormed live with old | ⟨c, claims, _, _, only⟩
    · rcases change.live holds.wellFormed otherLive with otherOld | ⟨c, claims, _⟩
      · exact holds.single route other old otherOld same
      · exact absurd same (fresh claims old)
    · rcases only other otherLive with rfl | otherOld
      · rfl
      · exact absurd same.symm (fresh claims otherOld)

/-- The invariant holds when the daemon starts. -/
theorem sessionsHold_start (baseDomain : String) (now : Instant) :
    SessionsHold (.start baseDomain now) where
  wellFormed := RouteRegistry.wellFormed_new
  absent _ _ := rfl
  issuedOwned _ _ owned := by cases owned
  phases _ := trivial
  exclusive _ _ _ works := by cases works
  owner route live := absurd live (RouteRegistry.not_live_new route)
  single route _ live := absurd live (RouteRegistry.not_live_new route)

/-! ### Runs -/

section Runs
open Transition

variable {labels : List Label}

/-- **Run lemma.** The session invariant holds in every reachable state, as long
as the counter has not wrapped. -/
theorem SessionsHold.run (holds : SessionsHold d) (ran : Run Daemon.step NoWrap d labels d') :
    SessionsHold d' :=
  ran.invariant SessionsHold holds fun _ _ _ holds noWrap taken =>
    holds.step (change_of_step taken) noWrap

theorem wellFormed_of_run {baseDomain : String} {now : Instant}
    (ran : Run Daemon.step Unrestricted (.start baseDomain now) labels d) :
    d.shared.registry.WellFormed :=
  ran.invariant (fun d : Daemon => d.shared.registry.WellFormed) RouteRegistry.wellFormed_new
    fun _ _ _ wellFormed _ taken => (change_of_step taken).wellFormed wellFormed

theorem Dead.run (dead : Dead d session) (holds : SessionsHold d)
    (ran : Run Daemon.step NoWrap d labels d') : Dead d' session :=
  (ran.invariant (fun d => SessionsHold d ∧ Dead d session) ⟨holds, dead⟩
    fun _ _ _ ⟨holds, dead⟩ noWrap taken =>
      ⟨holds.step (change_of_step taken) noWrap,
        (change_of_step taken).dead noWrap holds.wellFormed dead⟩).2

/-- The step reads a Register request. -/
def Label.isRegister : Label → Bool
  | .read _ (.ok envelope) => envelope.message.isRegister
  | _ => false

/-- The number of Register requests in a run. -/
def registerAttempts (labels : List Label) : Nat := labels.countP Label.isRegister

private theorem isRegister_of_takes (takes : d.takesSession label = true) :
    label.isRegister = true := by
  unfold Daemon.takesSession at takes
  split at takes
  · simp only [Bool.and_eq_true] at takes
    exact takes.1.1
  · cases takes

/-- With fewer than `2^64` Register requests the counter does not wrap. -/
theorem run_noWrap {baseDomain : String} {now : Instant}
    (ran : Run Daemon.step Unrestricted (.start baseDomain now) labels d)
    (few : registerAttempts labels < 2 ^ 64) :
    Run Daemon.step NoWrap (.start baseDomain now) labels d := by
  -- The counter is one more than the numbers taken, of which there are at most
  -- as many as Register requests so far.
  refine ran.strengthen
    (fun past d => ∃ taken, taken ≤ registerAttempts past ∧
      d.shared.nextSession = UInt64.ofNat (1 + taken)) ⟨0, le_rfl, rfl⟩ ?_ ?_
  · intro past d label d' ⟨taken, bound, counter⟩ _ ran
    rcases (change_of_step ran).nextSession with same | ⟨next, takes⟩
    · refine ⟨taken, ?_, by rw [same, counter]⟩
      rw [registerAttempts, List.countP_append]
      exact bound.trans (Nat.le_add_right _ _)
    · refine ⟨taken + 1, ?_, ?_⟩
      · rw [registerAttempts, List.countP_append, List.countP_singleton,
          if_pos (isRegister_of_takes takes)]
        exact Nat.succ_le_succ bound
      · rw [next, counter, ← Nat.add_assoc, UInt64.ofNat_add (1 + taken) 1]
        rfl
  · rintro past rest d label rfl ⟨taken, bound, counter⟩ _ takes zero
    rw [registerAttempts, List.countP_append, List.countP_cons,
      if_pos (isRegister_of_takes takes)] at few
    have small : 1 + taken < 2 ^ 64 := by
      unfold registerAttempts at bound
      omega
    rw [counter, ← UInt64.toNat_inj, UInt64.toNat_ofNat_of_lt' small] at zero
    simp at zero

/-- A run and its continuation, when both together do not wrap the counter. -/
theorem parts_noWrap {baseDomain : String} {now : Instant} {more : List Label} {v : Daemon}
    (ran : Run Daemon.step Unrestricted (.start baseDomain now) labels d)
    (rest : Run Daemon.step Unrestricted d more v)
    (few : registerAttempts (labels ++ more) < 2 ^ 64) :
    Run Daemon.step NoWrap (.start baseDomain now) labels d ∧ Run Daemon.step NoWrap d more v :=
  (run_noWrap (ran.append rest) few).parts ran

end Runs

end CfFw
