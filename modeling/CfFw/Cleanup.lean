import CfFw.Framing
import CfFw.Sessions

/-! What is left of a connection when its handler has returned. The cleanup
stands behind the loop of `handle_connection`, and some exits of the loop go past
it; on every other way out the session is gone for good. -/
namespace CfFw
open Std Transition

variable {d d' : Daemon} {c : ConnId} {label : Label} {shared : Shared} {handler : Handler}
  {session : UInt64}

/-- The handler that this step makes return from inside its loop, past the
cleanup: on a read error that is no disconnect, or on a reply that the closed
channel refuses. -/
def Daemon.skipsCleanup (d : Daemon) : Label → Option ConnId
  | .read c (.error error) => if isDisconnect error then none else some c
  | .send c =>
    match (d.handlers c).phase with
    | .replying _ _ _ => if (d.channels c).closed then some c else none
    | _ => none
  | _ => none

/-- A handler leaves past the cleanup only when the owners map no longer has a
sender for its session. -/
def CleanExit (d : Daemon) (label : Label) : Prop :=
  ∀ c ∈ d.skipsCleanup label, ∀ session ∈ (d.handlers c).owned, d.shared.owners[session]? = none

instance (d : Daemon) (label : Label) : Decidable (CleanExit d label) :=
  have (c : ConnId) : Decidable (∀ session ∈ (d.handlers c).owned,
      d.shared.owners[session]? = none) := Option.decidableForallMem (d.handlers c).owned
  Option.decidableForallMem (d.skipsCleanup label)

/-- A dead session that has no sender and will not get one. -/
structure Gone (d : Daemon) (session : UInt64) : Prop extends Dead d session where
  ownerless : d.shared.owners[session]? = none
  unpublished : ∀ c requestId route, (d.handlers c).phase = .publishing requestId route →
    route.ownerSession ≠ session

/-- How far the removal of a session has come, in every handler. -/
structure CleanupHolds (d : Daemon) : Prop where
  sessions : SessionsHold d
  owned : ∀ c session, (d.handlers c).owned = some session →
    (∃ requestId route, (d.handlers c).phase = .publishing requestId route) ∨
      d.shared.owners[session]? ≠ none ∨ Dead d session
  removed : ∀ c stage session after, (d.handlers c).phase = .removing stage session after →
    stage ≠ .registry → stage ≠ .owners → (d.handlers c).owned = some session →
      Gone d session
  released : ∀ c requestId message session,
    (d.handlers c).phase = .replying requestId message .release →
      (d.handlers c).owned = some session → Gone d session

/-! ### The owners map -/

theorem HandlerStep.owners (taken : HandlerStep d c label shared handler) (session : UInt64) :
    shared.owners[session]? = d.shared.owners[session]? ∨
      (∃ requestId route, (d.handlers c).phase = .publishing requestId route ∧
        route.ownerSession = session ∧ shared.owners[session]? = some c) ∨
      ∃ after, (d.handlers c).phase = .removing .owners session after ∧
        shared.owners[session]? = none := by
  cases taken with
  | @published requestId route phase =>
    by_cases same : route.ownerSession = session
    · subst same
      exact .inr (.inl ⟨requestId, route, phase, rfl, ExtTreeMap.getElem?_insert_self⟩)
    · refine .inl ?_
      simp [ExtTreeMap.getElem?_insert, LawfulEqCmp.compare_eq_iff_eq, same]
  | @removedOwner removed after phase =>
    by_cases same : removed = session
    · subst same
      exact .inr (.inr ⟨after, phase, ExtTreeMap.getElem?_erase_self⟩)
    · refine .inl ?_
      simp [Shared.removeOwner, ExtTreeMap.getElem?_erase, LawfulEqCmp.compare_eq_iff_eq, same]
  | acknowledged =>
    simp only [Shared.acknowledge]
    split <;> exact .inl rfl
  | _ => exact .inl rfl

/-- A sender enters the map when its handler publishes the session, and leaves
it when the session is removed. -/
theorem Change.owners (change : Change d label d') (session : UInt64) :
    d'.shared.owners[session]? = d.shared.owners[session]? ∨
      (∃ c requestId route, (d.handlers c).phase = .publishing requestId route ∧
        route.ownerSession = session ∧ d'.shared.owners[session]? = some c) ∨
      ∃ c after, (d.handlers c).phase = .removing .owners session after ∧
        d'.shared.owners[session]? = none := by
  rcases change.shared with ⟨c, handler, taken⟩ | ⟨_, _, _, same⟩ | ⟨_, same⟩
  · rcases taken.owners session with same | ⟨requestId, route, published⟩ | ⟨after, removed⟩
    · exact .inl same
    · exact .inr (.inl ⟨c, requestId, route, published⟩)
    · exact .inr (.inr ⟨c, after, removed⟩)
  · exact .inl (by rw [same])
  · exact .inl (by rw [same])

/-- A handler publishes a route it has just registered. -/
theorem Change.publishing {requestId : Option UInt64} {route : Route} (change : Change d label d')
    (phase : (d'.handlers c).phase = .publishing requestId route) :
    (d.handlers c).phase = .publishing requestId route ∨
      (d.handlers c).phase.claims = some route.ownerSession := by
  rcases change.handlers c with same | ⟨_, fresh⟩ | taken
  · exact .inl (same ▸ phase)
  · rw [fresh] at phase
    cases phase
  · generalize d'.handlers c = handler at taken phase
    generalize d'.shared = shared at taken
    cases taken with
    | acknowledgeIgnored reading =>
      rw [reading] at phase
      cases phase
    | registered registering _ _ owner =>
      cases phase
      exact .inr (by rw [registering, owner]; rfl)
    | @foundBusy _ after | @markedIdle _ after => cases after <;> cases phase
    | _ => cases phase

/-! ### Gone sessions -/

theorem SessionsHold.publisher (holds : SessionsHold d) {requestId : Option UInt64} {route : Route}
    (phase : (d.handlers c).phase = .publishing requestId route) :
    (d.handlers c).owned = some route.ownerSession := by
  have held := holds.phases c
  unfold PhaseHolds at held
  rwa [phase] at held

/-- A dead session without a sender is gone once its owner is past publishing. -/
theorem SessionsHold.gone (holds : SessionsHold d) (dead : Dead d session)
    (ownerless : d.shared.owners[session]? = none) (owned : (d.handlers c).owned = some session)
    (past : ∀ requestId route, (d.handlers c).phase ≠ .publishing requestId route) :
    Gone d session where
  toDead := dead
  ownerless := ownerless
  unpublished other requestId route phase same := by
    subst same
    obtain rfl := holds.owner_unique owned (holds.publisher phase)
    exact past requestId route phase

/-- **Gone sessions stay gone.** -/
theorem Change.gone (change : Change d label d') (noWrap : NoWrap d label)
    (wellFormed : d.shared.registry.WellFormed) (gone : Gone d session) : Gone d' session where
  toDead := change.dead noWrap wellFormed gone.toDead
  ownerless := by
    rcases change.owners session with same | ⟨c, requestId, route, phase, owner, _⟩ | ⟨_, _, _, none⟩
    · rw [same, gone.ownerless]
    · exact absurd owner (gone.unpublished c requestId route phase)
    · exact none
  unpublished c requestId route phase same := by
    rcases change.publishing phase with old | claims
    · exact gone.unpublished c requestId route old same
    · exact gone.unclaimed c (same ▸ claims)

/-! ### Every step keeps the cleanup invariant -/

theorem HandlerStep.of_publishing {requestId : Option UInt64} {route : Route}
    (taken : HandlerStep d c label shared handler)
    (phase : (d.handlers c).phase = .publishing requestId route) :
    shared.owners[route.ownerSession]? = some c := by
  cases taken with
  | published same =>
    rw [phase] at same
    cases same
    exact ExtTreeMap.getElem?_insert_self
  | _ => simp_all

/-- A handler comes to own a session by registering a route for it. -/
theorem HandlerStep.comes_to_own (taken : HandlerStep d c label shared handler)
    (owned : handler.owned = some session) :
    (d.handlers c).owned = some session ∨
      ∃ requestId route, handler.phase = .publishing requestId route := by
  cases taken with
  | registerStarted | left | released => cases owned
  | unregister _ _ old | acknowledge _ _ old | disconnected _ _ old => exact .inl (old.trans owned)
  | registered => exact .inr ⟨_, _, rfl⟩
  | foundBusy | markedIdle =>
    rw [owned_removed] at owned
    split at owned
    · cases owned
    · exact .inl owned
  | _ => exact .inl owned

/-- A sender goes only once the session is dead. -/
theorem Change.ownerless (change : Change d label d') (noWrap : NoWrap d label)
    (holds : SessionsHold d)
    (before : d.shared.owners[session]? ≠ none ∨ Dead d session) :
    d'.shared.owners[session]? ≠ none ∨ Dead d' session := by
  rcases before with owner | dead
  · rcases change.owners session with same | ⟨_, _, _, _, _, present⟩ | ⟨c, after, phase, _⟩
    · exact .inl (same ▸ owner)
    · exact .inl (by simp [present])
    · have dead := (holds.removing phase).2.1 (by simp)
      exact .inr (change.dead noWrap holds.wellFormed dead)
  · exact .inr (change.dead noWrap holds.wellFormed dead)

theorem Change.cleanup_owned (change : Change d label d') (noWrap : NoWrap d label)
    (holds : CleanupHolds d) (owned : (d'.handlers c).owned = some session) :
    (∃ requestId route, (d'.handlers c).phase = .publishing requestId route) ∨
      d'.shared.owners[session]? ≠ none ∨ Dead d' session := by
  have persists := fun before =>
    @Change.ownerless d d' label session change noWrap holds.sessions before
  rcases change.handlers c with same | ⟨_, fresh⟩ | taken
  · rw [same] at owned ⊢
    exact (holds.owned c session owned).imp id persists
  · rw [fresh] at owned
    cases owned
  · rcases taken.comes_to_own owned with old | publishing
    · rcases holds.owned c session old with ⟨requestId, route, phase⟩ | before
      · have same := (holds.sessions.publisher phase).symm.trans old
        obtain rfl := Option.some.inj same
        exact .inr (.inl (by rw [taken.of_publishing phase]; simp))
      · exact .inr (persists before)
    · exact .inl publishing

theorem Change.cleanup_removed {stage : RemoveStage} {after : AfterRemove}
    (change : Change d label d') (noWrap : NoWrap d label) (holds : CleanupHolds d)
    (phase : (d'.handlers c).phase = .removing stage session after) (later : stage ≠ .registry)
    (past : stage ≠ .owners) (owned : (d'.handlers c).owned = some session) : Gone d' session := by
  have stays : Gone d session → Gone d' session := change.gone noWrap holds.sessions.wellFormed
  rcases change.handlers c with same | ⟨_, fresh⟩ | taken
  · rw [same] at phase owned
    exact stays (holds.removed c stage session after phase later past owned)
  · rw [fresh] at owned
    cases owned
  · have holds' := holds.sessions.step change noWrap
    have unpublished : ∀ requestId route,
        (d'.handlers c).phase ≠ .publishing requestId route := by
      intro requestId route
      rw [phase]
      simp
    have finish := fun dead none => @SessionsHold.gone d' c session holds' dead none owned unpublished
    generalize d'.handlers c = handler at taken phase owned
    generalize sharedEq : d'.shared = shared at taken
    cases taken with
    | @removedOwner _ _ same =>
      cases phase
      have dead := (holds.sessions.removing same).2.1 (by simp)
      refine finish (change.dead noWrap holds.sessions.wellFormed dead) ?_
      rw [sharedEq]
      exact ExtTreeMap.getElem?_erase_self
    | acknowledged same | foundEmpty same =>
      cases phase
      exact stays (holds.removed c _ session after same (by simp) (by simp) owned)
    | @foundBusy _ next | @markedIdle _ next => cases next <;> cases phase
    | acknowledgeIgnored reading =>
      rw [reading] at phase
      cases phase
    | removedRoutes =>
      cases phase
      exact absurd rfl past
    | unregister | acknowledge | disconnected | timedOut =>
      cases phase
      exact absurd rfl later
    | _ => cases phase

theorem Change.cleanup_released {requestId : Option UInt64} {message : ServerMessage}
    (change : Change d label d') (noWrap : NoWrap d label) (holds : CleanupHolds d)
    (phase : (d'.handlers c).phase = .replying requestId message .release)
    (owned : (d'.handlers c).owned = some session) : Gone d' session := by
  have stays : Gone d session → Gone d' session := change.gone noWrap holds.sessions.wellFormed
  rcases change.handlers c with same | ⟨_, fresh⟩ | taken
  · rw [same] at phase owned
    exact stays (holds.released c requestId message session phase owned)
  · rw [fresh] at owned
    cases owned
  · generalize d'.handlers c = handler at taken phase owned
    generalize d'.shared = shared at taken
    cases taken with
    | @foundBusy removed next same | @markedIdle removed next same =>
      have own := (holds.sessions.removing same).2.2
      cases next with
      | unregistered =>
        obtain rfl := Option.some.inj (own.symm.trans owned)
        exact stays (holds.removed c _ _ _ same (by simp) (by simp) owned)
      | _ => cases phase
    | acknowledgeIgnored reading =>
      rw [reading] at phase
      cases phase
    | _ => cases phase

/-- **Step lemma** of the cleanup invariant. -/
theorem CleanupHolds.step (holds : CleanupHolds d) (change : Change d label d')
    (noWrap : NoWrap d label) : CleanupHolds d' where
  sessions := holds.sessions.step change noWrap
  owned _ _ owned := change.cleanup_owned noWrap holds owned
  removed _ _ _ _ phase later past owned := change.cleanup_removed noWrap holds phase later past owned
  released _ _ _ _ phase owned := change.cleanup_released noWrap holds phase owned

private theorem cleanupHolds_start (baseDomain : String) (now : Instant) :
    CleanupHolds (.start baseDomain now) where
  sessions := sessionsHold_start baseDomain now
  owned _ _ owned := by cases owned
  removed _ _ _ _ phase := by cases phase
  released _ _ _ _ phase := by cases phase

/-! ### Returning -/

/-- The handler has not come to the end of `handle_connection` yet. -/
def Phase.unfinished : Phase → Bool
  | .draining | .returned _ => false
  | _ => true

/-- The session is gone, or its handler still owns it and can remove it. -/
def Accounted (d : Daemon) (c : ConnId) (session : UInt64) : Prop :=
  Gone d session ∨
    ((d.handlers c).owned = some session ∧ (d.handlers c).phase.unfinished = true)

/-- Steps that neither wrap the session counter nor skip a cleanup that is
still due. -/
def CleanStep (d : Daemon) (label : Label) : Prop := NoWrap d label ∧ CleanExit d label

instance (d : Daemon) (label : Label) : Decidable (CleanStep d label) := by
  unfold CleanStep
  infer_instance

/-- A clean early exit finds the session gone. -/
theorem CleanupHolds.gone_of_exit (holds : CleanupHolds d) (clean : CleanExit d label)
    (skips : d.skipsCleanup label = some c) (owned : (d.handlers c).owned = some session)
    (past : ∀ requestId route, (d.handlers c).phase ≠ .publishing requestId route) :
    Gone d session := by
  have ownerless := clean c skips session owned
  rcases holds.owned c session owned with ⟨requestId, route, phase⟩ | owner | dead
  · exact absurd phase (past requestId route)
  · exact absurd ownerless owner
  · exact holds.sessions.gone dead ownerless owned past

theorem HandlerStep.accounted (taken : HandlerStep d c label shared handler)
    (holds : CleanupHolds d) (clean : CleanExit d label)
    (owned : (d.handlers c).owned = some session)
    (unfinished : (d.handlers c).phase.unfinished = true) :
    Gone d session ∨ (handler.owned = some session ∧ handler.phase.unfinished = true) := by
  have held := holds.sessions.phases c
  unfold PhaseHolds at held
  cases taken with
  | registerStarted _ _ free | left _ _ free =>
    rw [free] at owned
    cases owned
  | unregister _ _ old | acknowledge _ _ old | disconnected _ _ old =>
    exact .inr ⟨old.symm.trans owned, rfl⟩
  | acknowledgeIgnored => exact .inr ⟨owned, unfinished⟩
  | readFailed phase failure =>
    refine .inl (holds.gone_of_exit clean ?_ owned (by simp [phase]))
    simp [Daemon.skipsCleanup, failure]
  | replyFailed phase closed =>
    refine .inl (holds.gone_of_exit clean ?_ owned (by simp [phase]))
    simp [Daemon.skipsCleanup, phase, closed]
  | registered phase =>
    rw [phase] at held
    rw [held.1] at owned
    cases owned
  | released phase => exact .inl (holds.released c _ _ session phase owned)
  | @foundBusy removed after phase | @markedIdle removed after phase =>
    rw [phase] at held
    have gone : (d.handlers c).owned = some removed → Gone d session := fun own => by
      obtain rfl := Option.some.inj (own.symm.trans owned)
      exact holds.removed c _ _ _ phase (by simp) (by simp) owned
    cases after with
    | unregistered => exact .inr ⟨owned, rfl⟩
    | acknowledged => exact .inl (gone held.2.2)
    | disconnected => exact .inl (gone held.2.2)
    | stopped => exact .inr ⟨owned, rfl⟩
  | drained phase =>
    rw [phase] at unfinished
    cases unfinished
  | _ => exact .inr ⟨owned, rfl⟩

theorem Accounted.step (accounted : Accounted d c session) (holds : CleanupHolds d)
    (change : Change d label d') (clean : CleanStep d label) : Accounted d' c session := by
  have stays : Gone d session → Gone d' session :=
    change.gone clean.1 holds.sessions.wellFormed
  rcases accounted with gone | ⟨owned, unfinished⟩
  · exact .inl (stays gone)
  rcases change.handlers c with same | ⟨new, _⟩ | taken
  · exact .inr (by rw [same]; exact ⟨owned, unfinished⟩)
  · rw [holds.sessions.absent c new.ge] at owned
    cases owned
  · exact (taken.accounted holds clean.2 owned unfinished).imp stays id

/-- Every session that a handler has come to own is accounted for. -/
structure AllAccounted (d : Daemon) : Prop where
  cleanup : CleanupHolds d
  accounted : ∀ c session, (d.handlers c).owned = some session → Accounted d c session

theorem AllAccounted.step (holds : AllAccounted d) (change : Change d label d')
    (clean : CleanStep d label) : AllAccounted d' where
  cleanup := holds.cleanup.step change clean.1
  accounted c session owned := by
    have accounted : (d.handlers c).owned = some session → Accounted d' c session :=
      fun old => (holds.accounted c session old).step holds.cleanup change clean
    rcases change.handlers c with same | ⟨_, fresh⟩ | taken
    · exact accounted (same ▸ owned)
    · rw [fresh] at owned
      cases owned
    · rcases taken.comes_to_own owned with old | ⟨requestId, route, phase⟩
      · exact accounted old
      · exact .inr ⟨owned, by rw [phase]; rfl⟩

theorem AllAccounted.run {baseDomain : String} {now : Instant} {labels : List Label}
    (ran : Run Daemon.step CleanStep (.start baseDomain now) labels d) : AllAccounted d :=
  ran.invariant AllAccounted ⟨cleanupHolds_start baseDomain now, fun _ _ owned => by cases owned⟩
    fun _ _ _ holds clean taken => holds.step (change_of_step taken) clean

theorem Accounted.run {labels : List Label} (accounted : Accounted d c session)
    (holds : CleanupHolds d) (ran : Run Daemon.step CleanStep d labels d') :
    Accounted d' c session :=
  (ran.invariant (fun d => CleanupHolds d ∧ Accounted d c session) ⟨holds, accounted⟩
    fun _ _ _ ⟨holds, accounted⟩ clean taken =>
      ⟨holds.step (change_of_step taken) clean.1,
        accounted.step holds (change_of_step taken) clean⟩).2

/-- A step that is no clean exit leaves a returned handler whose sender is still
in the owners map. -/
theorem leak_of_unclean (taken : d.step label = some d') (unclean : ¬ CleanExit d label) :
    ∃ c session result, (d'.handlers c).phase = .returned result ∧
      (d.handlers c).owned = some session ∧ d'.shared.owners[session]? ≠ none := by
  simp only [CleanExit, not_forall] at unclean
  obtain ⟨c, skips, session, owned, owner⟩ := unclean
  refine ⟨c, session, ?_⟩
  have step := taken
  unfold Daemon.step at step
  split at step
  · cases step
  unfold Daemon.skipsCleanup at skips
  split at skips
  · rename_i reader error
    split at skips
    · cases skips
    rename_i failure
    obtain rfl : reader = c := by simpa using skips
    simp only [Daemon.readStep] at step
    split at step
    · cases step
      refine ⟨.error error, ?_, owned, ?_⟩ <;> simp [handleRead, failure, Daemon.move, owner]
    · cases step
  · rename_i sender
    split at skips
    · rename_i phase
      split at skips
      · rename_i closed
        obtain rfl : sender = c := by simpa using skips
        simp only [Daemon.sendStep, outgoing, phase, Channel.offer, closed, ↓reduceIte,
          Option.some.injEq] at step
        subst step
        exact ⟨_, by simp [afterSend, phase]; rfl, owned, owner⟩
      · cases skips
    · cases skips
  · cases skips

/-- **No route outlives its owner's handler, on clean exits.** In a run of clean
steps, once the handler that owned a session has returned, the registry holds no
route of the session and the owners map no sender for it; and a step that is not
a clean exit breaks this at once. -/
theorem no_route_outlives_its_handler (baseDomain : String) (now : Instant) :
    (∀ labels d c session, Run Daemon.step CleanStep (.start baseDomain now) labels d →
      (d.handlers c).owned = some session → ∀ more d' result, Run Daemon.step CleanStep d more d' →
        (d'.handlers c).phase = .returned result →
          (∀ route, d'.shared.registry.Live route → route.ownerSession ≠ session) ∧
            d'.shared.owners[session]? = none) ∧
    ∀ d label d', d.step label = some d' → ¬ CleanExit d label →
      ∃ c session result, (d.handlers c).owned = some session ∧
        (d'.handlers c).phase = .returned result ∧ d'.shared.owners[session]? ≠ none := by
  constructor
  · intro labels d c session ran owned more d' result rest returned
    have holds := AllAccounted.run ran
    have accounted := (holds.accounted c session owned).run holds.cleanup rest
    rcases accounted with gone | ⟨_, unfinished⟩
    · exact ⟨gone.routeless, gone.ownerless⟩
    · rw [returned] at unfinished
      cases unfinished
  · intro d label d' taken unclean
    obtain ⟨c, session, result, returned, owned, owner⟩ := leak_of_unclean taken unclean
    exact ⟨c, session, result, owned, returned, owner⟩

/-- The client closes its connection and the handler returns. -/
def closingLabels : List Label :=
  [.read 0 (.error (.io .unexpectedEof "early eof"))] ++ removalLabels 0 ++
    [.statsTick 0, .statsCheck 0 ⟨0, 0, 0, 0⟩, .take 0, .wrote 0 (.ok ()), .writerEnds 0, .drained 0]

/-- The daemon when its first client has come and gone. -/
def closedDaemon : Daemon := (execute Daemon.step oneRoute closingLabels).get (by decide)

theorem closed_connection_leaves_nothing :
    (∀ route, closedDaemon.shared.registry.Live route → route.ownerSession ≠ 1) ∧
      closedDaemon.shared.owners[(1 : UInt64)]? = none := by
  have first : Run Daemon.step CleanStep (.start "example.com" 0)
      (registrationLabels 0 3000 "app") oneRoute := run_to_executeChecked rfl
  have rest : Run Daemon.step CleanStep oneRoute closingLabels closedDaemon :=
    run_to_executeChecked rfl
  exact (no_route_outlives_its_handler "example.com" 0).1 _ _ 0 1 first rfl _ _ _ rest rfl

/-- Four zero bytes after `Registered`: `read_frame` refuses them with an error
that is no disconnect, the handler returns, and the route and its sender stay. -/
theorem zero_length_frame_leaks_route :
    ∃ labels d error d', Run Daemon.step Unrestricted (.start "example.com" 0) labels d ∧
      (d.handlers 0).owned = some 1 ∧
      (∀ fromSlice : List UInt8 → Except String (Envelope ClientMessage),
        (readFrame fromSlice (.closed [0, 0, 0, 0])).map Prod.fst = .error error) ∧
      d.step (.read 0 (.error error)) = some d' ∧
      (d'.handlers 0).phase = .returned (.error error) ∧
      ¬ ((∀ route, d'.shared.registry.Live route → route.ownerSession ≠ 1) ∧
        d'.shared.owners[(1 : UInt64)]? = none) := by
  have first : Run Daemon.step Unrestricted (.start "example.com" 0)
      (registrationLabels 0 3000 "app") oneRoute := run_to_execute _
  refine ⟨_, _, .protocol "zero-length IPC frame", _, first, rfl, fun _ => rfl, rfl, rfl, ?_⟩
  rintro ⟨routeless, _⟩
  exact routeless ⟨"app", ⟨.localhost, 3000⟩, 1, 42, 0, 0⟩ (by decide) rfl

end CfFw
