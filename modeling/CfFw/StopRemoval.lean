import CfFw.Ownership

/-! What a Stop removes, and what it leaves in the acknowledgements map. A Stop
acts on a clone of its route long after it has let go of the registry; its
notifier is its own, the entry under it stands for a Stop in progress, and a
session that somebody acknowledged or removed is dead. -/
namespace CfFw
open Std Transition

variable {d d' v : Daemon} {c other : ConnId} {label : Label} {shared : Shared}
  {handler : Handler} {session : UInt64} {route : Route} {notify : NotifyId}
  {requestId : Option UInt64} {labels more : List Label}

/-- The Stop that a removal belongs to: its route and its notifier. -/
def AfterRemove.stops : AfterRemove → Option (Route × NotifyId)
  | .stopped _ route notify => some (route, notify)
  | _ => none

/-- The Stop that a handler is in, from its notifier on up to its reply. -/
def Phase.stops : Phase → Option (Route × NotifyId)
  | .notifying _ route notify | .locating _ route notify | .terminating _ route notify _
  | .waiting _ route notify _ _ => some (route, notify)
  | .removing _ _ after => after.stops
  | _ => none

/-- The removal has not passed the acknowledgements section. -/
def RemoveStage.early : RemoveStage → Bool
  | .registry | .owners | .acknowledgements => true
  | _ => false

/-- The Stop whose notifier may stand in the map: it was inserted, and not yet
taken out by the handler itself. -/
def Phase.listed : Phase → Option (Route × NotifyId)
  | .locating _ route notify | .terminating _ route notify _ | .waiting _ route notify _ _ =>
    some (route, notify)
  | .removing stage _ after => if stage.early then after.stops else none
  | _ => none

theorem Phase.stops_of_listed {phase : Phase} {stop : Route × NotifyId}
    (listed : phase.listed = some stop) : phase.stops = some stop := by
  cases phase with
  | removing stage session after =>
    simp only [Phase.listed] at listed
    split at listed
    · exact listed
    · cases listed
  | locating | terminating | waiting => exact listed
  | _ => cases listed

/-- The notifier is not in the map and will not get there. -/
structure Spent (d : Daemon) (notify : NotifyId) : Prop where
  created : notify < d.shared.nextNotify
  unpending : ∀ c requestId route, (d.handlers c).phase ≠ .notifying requestId route notify
  absent : ∀ session : UInt64, d.shared.acknowledgements[session]? ≠ some notify

/-- What the acknowledgements map holds, and what became of the notifiers. -/
structure StopHolds (d : Daemon) : Prop where
  absent : ∀ c, d.accepted ≤ c → d.handlers c = ⟨.absent, none⟩
  created : ∀ c route notify, (d.handlers c).phase.stops = some (route, notify) →
    notify < d.shared.nextNotify
  unique : ∀ c other route otherRoute notify, (d.handlers c).phase.stops = some (route, notify) →
    (d.handlers other).phase.stops = some (otherRoute, notify) → c = other
  aimed : ∀ c stage session requestId route notify,
    (d.handlers c).phase = .removing stage session (.stopped requestId route notify) →
      route.ownerSession = session
  entries : ∀ (session : UInt64) notify, d.shared.acknowledgements[session]? = some notify →
    ∃ c route, (d.handlers c).phase.listed = some (route, notify) ∧ route.ownerSession = session
  called : ∀ c requestId route notify seen deadline,
    (d.handlers c).phase = .waiting requestId route notify seen deadline →
      d.shared.notifyCalls notify ≠ seen → Spent d notify
  replied : ∀ c requestId message route notify,
    (d.handlers c).phase = .replying requestId message (.finishStop route notify) → Spent d notify

/-! ### The acknowledgements map -/

/-- The handler leaves a notifier in the map by inserting its own, and takes out
the one of the session it removes. -/
theorem HandlerStep.acknowledgements (taken : HandlerStep d c label shared handler)
    (session : UInt64) :
    shared.acknowledgements[session]? = d.shared.acknowledgements[session]? ∨
      (∃ requestId route notify, (d.handlers c).phase = .notifying requestId route notify ∧
        handler.phase = .locating requestId route notify ∧ route.ownerSession = session ∧
        shared.acknowledgements[session]? = some notify) ∨
      shared.acknowledgements[session]? = none := by
  cases taken with
  | @notified requestId route notify phase =>
    by_cases same : route.ownerSession = session
    · subst same
      exact .inr (.inl ⟨requestId, route, notify, phase, rfl, rfl, ExtTreeMap.getElem?_insert_self⟩)
    · refine .inl ?_
      simp [ExtTreeMap.getElem?_insert, LawfulEqCmp.compare_eq_iff_eq, same]
  | @acknowledged removed after phase =>
    simp only [Shared.acknowledge]
    split
    · exact .inl rfl
    · by_cases same : removed = session
      · subst same
        exact .inr (.inr ExtTreeMap.getElem?_erase_self)
      · refine .inl ?_
        simp [ExtTreeMap.getElem?_erase, LawfulEqCmp.compare_eq_iff_eq, same]
  | _ => exact .inl rfl

theorem Change.acknowledgements (change : Change d label d') (session : UInt64) :
    d'.shared.acknowledgements[session]? = d.shared.acknowledgements[session]? ∨
      (∃ c requestId route notify, (d.handlers c).phase = .notifying requestId route notify ∧
        (d'.handlers c).phase = .locating requestId route notify ∧ route.ownerSession = session ∧
        d'.shared.acknowledgements[session]? = some notify) ∨
      d'.shared.acknowledgements[session]? = none := by
  cases change with
  | @handler c shared handler taken sharedEq handlersEq =>
    rw [sharedEq]
    refine (taken.acknowledgements session).imp id (.imp_left fun inserted => ⟨c, ?_⟩)
    rwa [handlersEq, Function.update_self]
  | accepted _ sharedEq => exact .inl (by rw [sharedEq])
  | flags _ _ sharedEq => exact .inl (by rw [sharedEq])
  | fatalCleared _ sharedEq => exact .inl (by rw [sharedEq])

/-- A notifier is called by the removal of the session it stands under. -/
theorem HandlerStep.notifyCalls (taken : HandlerStep d c label shared handler)
    (notify : NotifyId) :
    shared.notifyCalls notify = d.shared.notifyCalls notify ∨
      ∃ session after, (d.handlers c).phase = .removing .acknowledgements session after ∧
        d.shared.acknowledgements[session]? = some notify ∧
        shared.acknowledgements[session]? = none := by
  cases taken with
  | @acknowledged session after phase =>
    simp only [Shared.acknowledge]
    split
    · exact .inl rfl
    · rename_i called found
      by_cases same : notify = called
      · subst same
        exact .inr ⟨session, after, phase, found, ExtTreeMap.getElem?_erase_self⟩
      · exact .inl (Function.update_of_ne same _ _)
  | _ => exact .inl rfl

theorem Change.notifyCalls (change : Change d label d') (notify : NotifyId) :
    d'.shared.notifyCalls notify = d.shared.notifyCalls notify ∨
      ∃ c session after, (d.handlers c).phase = .removing .acknowledgements session after ∧
        d.shared.acknowledgements[session]? = some notify ∧
        d'.shared.acknowledgements[session]? = none := by
  rcases change.shared with ⟨c, handler, taken⟩ | ⟨_, _, _, same⟩ | ⟨_, same⟩
  · exact (taken.notifyCalls notify).imp id fun called => ⟨c, called⟩
  · exact .inl (by rw [same])
  · exact .inl (by rw [same])

theorem Change.nextNotify (change : Change d label d') :
    d.shared.nextNotify ≤ d'.shared.nextNotify := by
  rcases change.shared with ⟨c, handler, taken⟩ | ⟨_, _, _, same⟩ | ⟨_, same⟩
  · generalize d'.shared = shared at taken ⊢
    cases taken with
    | resolved => exact Nat.le_succ _
    | acknowledged =>
      simp only [Shared.acknowledge]
      split <;> exact le_rfl
    | _ => exact le_rfl
  · rw [same]
  · rw [same]

/-! ### Handlers in a Stop -/

/-- A handler is in a Stop it was in before, or it has just made the notifier. -/
theorem HandlerStep.stops (taken : HandlerStep d c label shared handler)
    (stops : handler.phase.stops = some (route, notify)) :
    (d.handlers c).phase.stops = some (route, notify) ∨
      (notify = d.shared.nextNotify ∧ shared.nextNotify = d.shared.nextNotify + 1) := by
  cases taken with
  | acknowledgeIgnored => exact .inl stops
  | resolved =>
    cases stops
    exact .inr ⟨rfl, rfl⟩
  | notified phase | located phase | unlocated phase | terminated phase | timedOut phase
  | removedRoutes phase | removedOwner phase | acknowledged phase | foundEmpty phase =>
    rw [phase]
    exact .inl stops
  | @foundBusy _ after | @markedIdle _ after => cases after <;> cases stops
  | _ => cases stops

theorem Change.stops (change : Change d label d')
    (stops : (d'.handlers c).phase.stops = some (route, notify)) :
    (d.handlers c).phase.stops = some (route, notify) ∨
      (notify = d.shared.nextNotify ∧ d'.shared.nextNotify = d.shared.nextNotify + 1 ∧
        label.actor = some c) := by
  rcases change.handlers c with same | ⟨_, fresh⟩ | taken
  · exact .inl (same ▸ stops)
  · rw [fresh] at stops
    cases stops
  · exact (taken.stops stops).imp id fun ⟨isNext, next⟩ => ⟨isNext, next, taken.actor⟩

/-- A handler whose notifier may stand in the map goes on to another such place,
unless it was called or takes the entry out itself. -/
theorem HandlerStep.stays_listed (taken : HandlerStep d c label shared handler)
    (listed : (d.handlers c).phase.listed = some (route, notify)) :
    handler.phase.listed = some (route, notify) ∨
      (∃ requestId seen deadline,
        (d.handlers c).phase = .waiting requestId route notify seen deadline ∧
          d.shared.notifyCalls notify ≠ seen) ∨
      ∃ session requestId,
        (d.handlers c).phase = .removing .acknowledgements session (.stopped requestId route notify) ∧
          shared = d.shared.acknowledge session := by
  cases taken with
  | located phase | unlocated phase | terminated phase | timedOut phase | removedRoutes phase
  | removedOwner phase =>
    rw [phase] at listed
    exact .inl listed
  | acknowledgeIgnored => exact .inl listed
  | woken phase called =>
    rw [phase] at listed
    cases listed
    exact .inr (.inl ⟨_, _, _, phase, called⟩)
  | @acknowledged session after phase =>
    rw [phase] at listed
    cases after with
    | stopped =>
      cases listed
      exact .inr (.inr ⟨_, _, phase, rfl⟩)
    | _ => cases listed
  | _ => simp_all [Phase.listed, RemoveStage.early]

/-! ### Spent notifiers -/

theorem Shared.acknowledge_getElem? (shared : Shared) (session : UInt64) :
    (shared.acknowledge session).acknowledgements[session]? = none := by
  unfold Shared.acknowledge
  split
  · assumption
  · exact ExtTreeMap.getElem?_erase_self

theorem HandlerStep.notifying (taken : HandlerStep d c label shared handler)
    (phase : handler.phase = .notifying requestId route notify) : notify = d.shared.nextNotify := by
  cases taken with
  | resolved =>
    cases phase
    rfl
  | acknowledgeIgnored reading =>
    rw [reading] at phase
    cases phase
  | @foundBusy _ after | @markedIdle _ after => cases after <;> cases phase
  | _ => cases phase

/-- **Spent notifiers stay spent.** -/
theorem Spent.step (spent : Spent d notify) (change : Change d label d') : Spent d' notify where
  created := Nat.lt_of_lt_of_le spent.created change.nextNotify
  unpending c requestId route phase := by
    rcases change.handlers c with same | ⟨_, fresh⟩ | taken
    · exact spent.unpending c requestId route (same ▸ phase)
    · rw [fresh] at phase
      cases phase
    · have next := taken.notifying phase
      exact absurd next (Nat.ne_of_lt spent.created)
  absent session found := by
    rcases change.acknowledgements session with same | ⟨c, requestId, route, own, phase, _, _, inserted⟩
      | none
    · exact spent.absent session (same ▸ found)
    · obtain rfl := Option.some.inj (inserted.symm.trans found)
      exact spent.unpending c requestId route phase
    · rw [none] at found
      cases found

theorem Spent.run (spent : Spent d notify) (ran : Run Daemon.step Unrestricted d labels v) :
    Spent v notify :=
  ran.invariant (fun d : Daemon => Spent d notify) spent fun _ _ _ spent _ taken =>
    spent.step (change_of_step taken)


/-! ### Every step keeps the Stop invariant -/

theorem StopHolds.unique_step (holds : StopHolds d) (change : Change d label d')
    {otherRoute : Route} (stops : (d'.handlers c).phase.stops = some (route, notify))
    (otherStops : (d'.handlers other).phase.stops = some (otherRoute, notify)) : c = other := by
  rcases change.stops stops with old | ⟨rfl, _, actor⟩ <;>
    rcases change.stops otherStops with otherOld | ⟨isNext, _, otherActor⟩
  · exact holds.unique c other _ _ _ old otherOld
  · exact absurd isNext (Nat.ne_of_lt (holds.created c _ _ old))
  · exact absurd rfl (Nat.ne_of_lt (holds.created other _ _ otherOld))
  · exact Option.some.inj (actor.symm.trans otherActor)

theorem StopHolds.created_step (holds : StopHolds d) (change : Change d label d')
    (stops : (d'.handlers c).phase.stops = some (route, notify)) :
    notify < d'.shared.nextNotify := by
  rcases change.stops stops with old | ⟨rfl, next, _⟩
  · exact Nat.lt_of_lt_of_le (holds.created c route notify old) change.nextNotify
  · rw [next]
    exact Nat.lt_succ_self _

theorem StopHolds.aimed_step (holds : StopHolds d) (change : Change d label d')
    {stage : RemoveStage}
    (phase : (d'.handlers c).phase = .removing stage session (.stopped requestId route notify)) :
    route.ownerSession = session := by
  rcases change.handlers c with same | ⟨_, fresh⟩ | taken
  · exact holds.aimed c stage session requestId route notify (same ▸ phase)
  · rw [fresh] at phase
    cases phase
  · generalize d'.handlers c = handler at taken phase
    generalize d'.shared = shared at taken
    cases taken with
    | timedOut =>
      cases phase
      rfl
    | removedRoutes old | removedOwner old | acknowledged old | foundEmpty old =>
      cases phase
      exact holds.aimed c _ _ _ _ _ old
    | acknowledgeIgnored reading =>
      rw [reading] at phase
      cases phase
    | @foundBusy _ after | @markedIdle _ after => cases after <;> cases phase
    | _ => cases phase

theorem StopHolds.entries_step (holds : StopHolds d) (change : Change d label d')
    (found : d'.shared.acknowledgements[session]? = some notify) :
    ∃ c route, (d'.handlers c).phase.listed = some (route, notify) ∧
      route.ownerSession = session := by
  rcases change.acknowledgements session with same | ⟨c, requestId, route, own, _, after, owner, inserted⟩
    | none
  · rw [same] at found
    obtain ⟨c, route, listed, owner⟩ := holds.entries session notify found
    refine ⟨c, route, ?_, owner⟩
    rcases change.handlers c with untouched | ⟨new, _⟩ | taken
    · rwa [untouched]
    · rw [holds.absent c new.ge] at listed
      cases listed
    · rcases taken.stays_listed listed with stays | ⟨_, _, _, phase, called⟩ | ⟨removed, _, phase, took⟩
      · exact stays
      · exact absurd found ((holds.called c _ _ _ _ _ phase called).absent session)
      · have aimed := holds.aimed c _ _ _ _ _ phase
        rw [took, ← aimed, owner, Shared.acknowledge_getElem?] at same
        rw [found] at same
        cases same
  · obtain rfl := Option.some.inj (inserted.symm.trans found)
    exact ⟨c, route, by rw [after]; rfl, owner⟩
  · rw [none] at found
    cases found

/-- Past the acknowledgements section of its removal, a Stop has spent its
notifier. -/
theorem StopHolds.spent_of_late {stage : RemoveStage} (holds : StopHolds d)
    (phase : (d.handlers c).phase = .removing stage session (.stopped requestId route notify))
    (late : stage.early = false) : Spent d notify := by
  have stops : (d.handlers c).phase.stops = some (route, notify) := by rw [phase]; rfl
  refine ⟨holds.created c route notify stops, fun other requestId otherRoute pending => ?_,
    fun session found => ?_⟩
  · obtain rfl := holds.unique c other _ otherRoute notify stops (by rw [pending]; rfl)
    rw [phase] at pending
    cases pending
  · obtain ⟨other, otherRoute, listed, _⟩ := holds.entries session notify found
    obtain rfl := holds.unique c other _ _ notify stops (Phase.stops_of_listed listed)
    rw [phase] at listed
    simp [Phase.listed, late] at listed

/-- A handler starts to wait with what the notifier has counted by then. -/
theorem HandlerStep.waiting {seen : Nat} {deadline : Instant}
    (taken : HandlerStep d c label shared handler)
    (phase : handler.phase = .waiting requestId route notify seen deadline) :
    shared.notifyCalls notify = seen := by
  cases taken with
  | unlocated | terminated =>
    cases phase
    rfl
  | acknowledgeIgnored reading =>
    rw [reading] at phase
    cases phase
  | @foundBusy _ after | @markedIdle _ after => cases after <;> cases phase
  | _ => cases phase

/-- The notifier of a waiting handler is called for its own route's session. -/
theorem StopHolds.owner_of_entry (holds : StopHolds d)
    (stops : (d.handlers c).phase.stops = some (route, notify))
    (found : d.shared.acknowledgements[session]? = some notify) :
    route.ownerSession = session := by
  obtain ⟨other, entry, listed, owner⟩ := holds.entries session notify found
  have otherStops := Phase.stops_of_listed listed
  obtain rfl := holds.unique c other _ _ _ stops otherStops
  rw [stops] at otherStops
  cases otherStops
  exact owner

theorem StopHolds.called_step {seen : Nat} {deadline : Instant} (holds : StopHolds d)
    (change : Change d label d')
    (phase : (d'.handlers c).phase = .waiting requestId route notify seen deadline)
    (called : d'.shared.notifyCalls notify ≠ seen) : Spent d' notify := by
  have stops : (d'.handlers c).phase.stops = some (route, notify) := by rw [phase]; rfl
  rcases change.handlers c with same | ⟨_, fresh⟩ | taken
  · rw [same] at phase
    by_cases earlier : d.shared.notifyCalls notify = seen
    · rcases change.notifyCalls notify with kept | ⟨_, session, _, _, found, erased⟩
      · rw [kept] at called
        exact absurd earlier called
      · have owner := holds.owner_of_entry (by rw [phase]; rfl) found
        refine ⟨holds.created_step change stops, fun other requestId otherRoute pending => ?_,
          fun other entry => ?_⟩
        · obtain rfl := holds.unique_step change stops
            (show (d'.handlers other).phase.stops = some (otherRoute, notify) by rw [pending]; rfl)
          rw [same, phase] at pending
          cases pending
        · obtain ⟨there, otherRoute, listed, otherOwner⟩ := holds.entries_step change entry
          have otherStops := Phase.stops_of_listed listed
          obtain rfl := holds.unique_step change stops otherStops
          rw [stops] at otherStops
          cases otherStops
          rw [← otherOwner, owner, erased] at entry
          cases entry
    · exact (holds.called c _ _ _ _ _ phase earlier).step change
  · rw [fresh] at phase
    cases phase
  · exact absurd (taken.waiting phase) called

theorem StopHolds.replied_step {message : ServerMessage} (holds : StopHolds d)
    (change : Change d label d')
    (phase : (d'.handlers c).phase = .replying requestId message (.finishStop route notify)) :
    Spent d' notify := by
  refine Spent.step ?_ change
  rcases change.handlers c with same | ⟨_, fresh⟩ | taken
  · exact holds.replied c requestId message route notify (same ▸ phase)
  · rw [fresh] at phase
    cases phase
  · generalize d'.handlers c = handler at taken phase
    generalize d'.shared = shared at taken
    cases taken with
    | woken waiting called =>
      cases phase
      exact holds.called c _ _ _ _ _ waiting called
    | @foundBusy _ after old | @markedIdle _ after old =>
      cases after with
      | stopped =>
        cases phase
        exact holds.spent_of_late old rfl
      | _ => cases phase
    | acknowledgeIgnored reading =>
      rw [reading] at phase
      cases phase
    | _ => cases phase

/-- **Step lemma** of the Stop invariant. -/
theorem StopHolds.step (holds : StopHolds d) (change : Change d label d') : StopHolds d' where
  absent _ later := change.absent holds.absent later
  created _ _ _ stops := holds.created_step change stops
  unique _ _ _ _ _ stops otherStops := holds.unique_step change stops otherStops
  aimed _ _ _ _ _ _ phase := holds.aimed_step change phase
  entries _ _ found := holds.entries_step change found
  called _ _ _ _ _ _ phase called := holds.called_step change phase called
  replied _ _ _ _ _ phase := holds.replied_step change phase

private theorem stopHolds_start (baseDomain : String) (now : Instant) :
    StopHolds (.start baseDomain now) where
  absent _ _ := rfl
  created _ _ _ stops := by cases stops
  unique _ _ _ _ _ stops := by cases stops
  aimed _ _ _ _ _ _ phase := by cases phase
  entries session notify found := by
    have none : (Daemon.start baseDomain now).shared.acknowledgements[session]? = none :=
      ExtTreeMap.getElem?_empty
    rw [none] at found
    cases found
  called _ _ _ _ _ _ phase := by cases phase
  replied _ _ _ _ _ phase := by cases phase

theorem StopHolds.run {baseDomain : String} {now : Instant}
    (ran : Run Daemon.step Unrestricted (.start baseDomain now) labels d) : StopHolds d :=
  ran.invariant StopHolds (stopHolds_start baseDomain now) fun _ _ _ holds _ taken =>
    holds.step (change_of_step taken)

/-! ### The session of an answered Stop -/

/-- A Stop that was acknowledged or has removed its route finds the session
dead. -/
structure StopDead (d : Daemon) : Prop where
  called : ∀ c requestId route notify seen deadline,
    (d.handlers c).phase = .waiting requestId route notify seen deadline →
      d.shared.notifyCalls notify ≠ seen → Dead d route.ownerSession
  replied : ∀ c requestId message route notify,
    (d.handlers c).phase = .replying requestId message (.finishStop route notify) →
      Dead d route.ownerSession

theorem StopDead.called_step {seen : Nat} {deadline : Instant} (dead : StopDead d)
    (holds : StopHolds d) (sessions : SessionsHold d) (change : Change d label d')
    (noWrap : NoWrap d label)
    (phase : (d'.handlers c).phase = .waiting requestId route notify seen deadline)
    (called : d'.shared.notifyCalls notify ≠ seen) : Dead d' route.ownerSession := by
  rcases change.handlers c with same | ⟨_, fresh⟩ | taken
  · rw [same] at phase
    refine change.dead noWrap sessions.wellFormed ?_
    by_cases earlier : d.shared.notifyCalls notify = seen
    · rcases change.notifyCalls notify with kept | ⟨remover, session, _, removing, found, _⟩
      · rw [kept] at called
        exact absurd earlier called
      · -- Whoever calls the notifier is past the registry section for its session.
        rw [holds.owner_of_entry (by rw [phase]; rfl) found]
        exact (sessions.removing removing).2.1 (by simp)
    · exact dead.called c _ _ _ _ _ phase earlier
  · rw [fresh] at phase
    cases phase
  · exact absurd (taken.waiting phase) called

theorem StopDead.replied_step {message : ServerMessage} (dead : StopDead d)
    (sessions : SessionsHold d) (change : Change d label d') (noWrap : NoWrap d label)
    (phase : (d'.handlers c).phase = .replying requestId message (.finishStop route notify)) :
    Dead d' route.ownerSession := by
  refine change.dead noWrap sessions.wellFormed ?_
  rcases change.handlers c with same | ⟨_, fresh⟩ | taken
  · exact dead.replied c requestId message route notify (same ▸ phase)
  · rw [fresh] at phase
    cases phase
  · generalize d'.handlers c = handler at taken phase
    generalize d'.shared = shared at taken
    cases taken with
    | woken waiting called =>
      cases phase
      exact dead.called c _ _ _ _ _ waiting called
    | @foundBusy _ after old | @markedIdle _ after old =>
      cases after with
      | stopped =>
        cases phase
        obtain ⟨_, dead, aimed⟩ := sessions.removing old
        exact aimed ▸ dead (by simp)
      | _ => cases phase
    | acknowledgeIgnored reading =>
      rw [reading] at phase
      cases phase
    | _ => cases phase

theorem StopDead.step (dead : StopDead d) (holds : StopHolds d) (sessions : SessionsHold d)
    (change : Change d label d') (noWrap : NoWrap d label) : StopDead d' where
  called _ _ _ _ _ _ phase called := dead.called_step holds sessions change noWrap phase called
  replied _ _ _ _ _ phase := dead.replied_step sessions change noWrap phase

private theorem stopDead_start (baseDomain : String) (now : Instant) :
    StopDead (.start baseDomain now) where
  called _ _ _ _ _ _ phase := by cases phase
  replied _ _ _ _ _ phase := by cases phase

theorem StopDead.run {baseDomain : String} {now : Instant}
    (ran : Run Daemon.step NoWrap (.start baseDomain now) labels d) : StopDead d := by
  have kept := ran.invariant (fun d => StopHolds d ∧ SessionsHold d ∧ StopDead d)
    ⟨stopHolds_start baseDomain now, sessionsHold_start baseDomain now,
      stopDead_start baseDomain now⟩ ?_
  · exact kept.2.2
  · intro d label d' ⟨holds, sessions, dead⟩ noWrap taken
    have change := change_of_step taken
    exact ⟨holds.step change, sessions.step change noWrap, dead.step holds sessions change noWrap⟩

/-! ### `Stopped` replies -/

theorem HandlerStep.baseDomain (taken : HandlerStep d c label shared handler) :
    shared.baseDomain = d.shared.baseDomain := by
  cases taken with
  | acknowledged =>
    simp only [Shared.acknowledge]
    split <;> rfl
  | _ => rfl

theorem Change.baseDomain (change : Change d label d') :
    d'.shared.baseDomain = d.shared.baseDomain := by
  rcases change.shared with ⟨c, handler, taken⟩ | ⟨_, _, _, same⟩ | ⟨_, same⟩
  · exact taken.baseDomain
  · rw [same]
  · rw [same]

/-- `Stopped` is the reply of a Stop, with the view of the route it resolved. -/
structure StoppedMatches (baseDomain : String) (d : Daemon) : Prop where
  domain : d.shared.baseDomain = baseDomain
  replies : ∀ c requestId view after, (d.handlers c).phase = .replying requestId (.stopped view) after →
    ∃ route notify, after = .finishStop route notify ∧ view = route.view baseDomain

theorem HandlerStep.stoppedMatches {view : RouteView} {after : AfterReply}
    (taken : HandlerStep d c label shared handler)
    (phase : handler.phase = .replying requestId (.stopped view) after) :
    (d.handlers c).phase = .replying requestId (.stopped view) after ∨ ∃ route notify,
      after = .finishStop route notify ∧ view = route.view d.shared.baseDomain := by
  cases taken with
  | woken =>
    cases phase
    exact .inr ⟨_, _, rfl, rfl⟩
  | @foundBusy _ next | @markedIdle _ next =>
    cases next with
    | stopped =>
      cases phase
      exact .inr ⟨_, _, rfl, rfl⟩
    | _ => cases phase
  | acknowledgeIgnored => exact .inl phase
  | _ => cases phase

theorem StoppedMatches.run {baseDomain : String} {now : Instant}
    (ran : Run Daemon.step Unrestricted (.start baseDomain now) labels d) :
    StoppedMatches baseDomain d := by
  refine ran.invariant (StoppedMatches baseDomain) ⟨rfl, fun _ _ _ _ phase => by cases phase⟩ ?_
  intro d label d' holds _ taken
  have change := change_of_step taken
  refine ⟨change.baseDomain.trans holds.domain, fun c requestId view after phase => ?_⟩
  rcases change.handlers c with same | ⟨_, fresh⟩ | moved
  · exact holds.replies c requestId view after (same ▸ phase)
  · rw [fresh] at phase
    cases phase
  · rcases moved.stoppedMatches phase with old | matched
    · exact holds.replies c requestId view after old
    · rwa [holds.domain] at matched

/-! ### Whole runs -/

/-- The route a Stop resolved stays the only one its session can have. -/
theorem Resolved.onlyRoute {start : Daemon} (resolved : Resolved start labels c route notify)
    (holds : SessionsHold start) (ran : Run Daemon.step NoWrap start labels d) :
    OnlyRoute d route := by
  obtain ⟨before, after, w, requestId, selector, rfl, first, _, found, _⟩ := resolved
  obtain ⟨first, rest⟩ := ran.parts first
  have holds := holds.run first
  exact (holds.onlyRoute (RouteRegistry.live_of_resolve holds.wellFormed found)).run holds rest

theorem Recorded.of_stops {start : Daemon} {phase : Phase} (recorded : Recorded start labels c phase)
    (stops : phase.stops = some (route, notify)) : Resolved start labels c route notify := by
  cases phase with
  | removing stage session after =>
    cases after with
    | stopped =>
      cases stops
      exact recorded
    | _ => cases stops
  | notifying | locating | terminating | waiting =>
    cases stops
    exact recorded
  | _ => cases stops

/-- A step of a handler in a Stop takes only routes of the Stop's session out. -/
theorem StopHolds.removes (holds : StopHolds d) (taken : d.step label = some d')
    (actor : label.actor = some c) (stops : (d.handlers c).phase.stops = some (route, notify))
    {lost : Route} (wellFormed : d.shared.registry.WellFormed)
    (live : d.shared.registry.Live lost) (gone : ¬ d'.shared.registry.Live lost) :
    lost.ownerSession = route.ownerSession := by
  have moved := (change_of_step taken).moved actor
  rcases moved.removes wellFormed live gone with ⟨after, phase⟩ | ⟨requestId, phase⟩
  · rw [phase] at stops
    cases after with
    | stopped =>
      cases stops
      exact (holds.aimed c _ _ _ _ _ phase).symm
    | _ => cases stops
  · rw [phase] at stops
    cases stops

/-- **Stop removes what it resolved.** In every run: a `Stopped` reply is for a
route that its handler resolved, the notifier made for that Stop is not in the
acknowledgements map, and stays out of it; with fewer than `2^64` Register
attempts, no route of the session is live when the reply is sent or later. A
Stop takes no route of another session out of the registry, and with fewer
than `2^64` Register attempts only the very route it resolved. With no Stop in
progress the map is empty. -/
theorem stop_removes_what_it_resolved (baseDomain : String) (now : Instant) (labels : List Label)
    (d : Daemon) (ran : Run Daemon.step Unrestricted (.start baseDomain now) labels d) :
    (∀ c requestId view after, (d.handlers c).phase = .replying requestId (.stopped view) after →
      ∃ route notify, after = .finishStop route notify ∧ view = route.view baseDomain ∧
        Resolved (.start baseDomain now) labels c route notify ∧
        ∀ more v, Run Daemon.step Unrestricted d more v →
          (∀ session : UInt64, v.shared.acknowledgements[session]? ≠ some notify) ∧
          (registerAttempts (labels ++ more) < 2 ^ 64 →
            ∀ live, v.shared.registry.Live live → live.ownerSession ≠ route.ownerSession)) ∧
    (∀ c label d' route notify lost, d.step label = some d' → label.actor = some c →
      (d.handlers c).phase.stops = some (route, notify) → d.shared.registry.Live lost →
      ¬ d'.shared.registry.Live lost → lost.ownerSession = route.ownerSession ∧
        (registerAttempts labels < 2 ^ 64 → lost = route)) ∧
    ((∀ c, (d.handlers c).phase.stops = none) → d.shared.acknowledgements = ∅) := by
  have holds := StopHolds.run ran
  have recorded := recorded_of_run ran fun _ => rfl
  refine ⟨?_, ?_, ?_⟩
  · intro c requestId view after phase
    obtain ⟨route, notify, rfl, same⟩ := (StoppedMatches.run ran).replies c requestId view after phase
    have resolved := recorded c
    rw [phase] at resolved
    refine ⟨route, notify, rfl, same, resolved, fun more v rest => ⟨?_, fun few => ?_⟩⟩
    · exact ((holds.replied c requestId _ route notify phase).run rest).absent
    · obtain ⟨ran, rest⟩ := parts_noWrap ran rest few
      have sessions := (sessionsHold_start baseDomain now).run ran
      have dead := (StopDead.run ran).replied c requestId _ route notify phase
      exact (dead.run sessions rest).routeless
  · intro c label d' route notify lost taken actor stops live gone
    have wellFormed := wellFormed_of_run ran
    have owner := holds.removes taken actor stops wellFormed live gone
    refine ⟨owner, fun few => ?_⟩
    have resolved := (recorded c).of_stops stops
    have only := resolved.onlyRoute (sessionsHold_start baseDomain now) (run_noWrap ran few)
    exact only.only lost live owner
  · intro none
    refine ExtTreeMap.ext_getElem? fun session => ?_
    rw [ExtTreeMap.getElem?_empty, Option.eq_none_iff_forall_ne_some]
    intro notify found
    obtain ⟨c, route, listed, _⟩ := holds.entries session notify found
    have stopless := none c
    rw [Phase.stops_of_listed listed] at stopless
    cases stopless


/-- Client 0 is gone before client 1's Stop inserts its notifier, and client 2
registers the same slug and port meanwhile. -/
def takenOverLabels : List Label :=
  registrationLabels 0 3000 "app" ++
    [.accept, .read 1 (.ok (Envelope.new (some 2) (.stop (.slug "app")))), .proceed 1,
      .read 0 (.ok (Envelope.new (some 3) (.unregister 1)))] ++ removalLabels 0 ++ [.send 0] ++
    registrationLabels 2 3000 "app" ++
    [.proceed 1, .proceed 1, .advance remoteStopTimeout, .timeout 1, .proceed 1, .proceed 1,
      .proceed 1, .proceed 1]

/-- The daemon when client 1 is to be told that its route was stopped. -/
def takenOverDaemon : Daemon :=
  (execute Daemon.step (.start "example.com" 0) takenOverLabels).get (by decide)

/-- The Stop has waited out its time for a route that was gone, and the route
that took its place is still there. -/
theorem successor_survives_stop :
    takenOverDaemon.shared.registry.Live ⟨"app", ⟨.localhost, 3000⟩, 2, 42, 0, 2⟩ ∧
      (∀ live, takenOverDaemon.shared.registry.Live live → live.ownerSession ≠ 1) ∧
      takenOverDaemon.shared.acknowledgements = ∅ := by
  have ran : Run Daemon.step Unrestricted (.start "example.com" 0) takenOverLabels
      takenOverDaemon := run_to_execute _
  obtain ⟨replies, _, idle⟩ := stop_removes_what_it_resolved "example.com" 0 _ _ ran
  refine ⟨by decide, ?_, idle ?_⟩
  · obtain ⟨route, notify, stopped, _, _, later⟩ := replies 1 (some 2) _ _ rfl
    cases stopped
    exact (later [] _ .nil).2 (by decide)
  · intro c
    rcases Nat.lt_or_ge c 3 with early | late
    · match c, early with
      | 0, _ | 1, _ | 2, _ => rfl
    · rw [(StopHolds.run ran).absent c late]
      rfl

/-! ### When the counter comes round -/

/-- Client `c` is refused a registration, for port 0, and reads the reply. -/
def refusedLabels (c : ConnId) : List Label :=
  [.read c (.ok (Envelope.new (some 4) (.register 0 none 42))), .register c ⟨[]⟩ ⟨0, 0⟩, .send c,
    .take c, .wrote c (.ok ())]

/-- Client `c` can register, and has read everything it was sent. -/
structure Ready (d : Daemon) (c : ConnId) : Prop where
  supervising : d.main = .supervising
  up : d.shared.shuttingDown = false
  handler : d.handlers c = ⟨.reading, none⟩
  receiving : (d.channels c).writer = .receiving
  drained : (d.channels c).received = (d.channels c).sent.length
  unqueued : (d.channels c).waiting = []

/-- A client that is sent a reply and reads it is ready again. -/
theorem ready_of_reply {message : ServerMessage} (supervising : d.main = .supervising)
    (up : d.shared.shuttingDown = false)
    (handler : d.handlers c = ⟨.replying requestId message .resume, none⟩)
    (receiving : (d.channels c).writer = .receiving)
    (drained : (d.channels c).received = (d.channels c).sent.length)
    (unqueued : (d.channels c).waiting = []) :
    ∃ d', Run Daemon.step Unrestricted d [.send c, .take c, .wrote c (.ok ())] d' ∧ Ready d' c ∧
      d'.shared = d.shared := by
  let envelope := Envelope.new requestId message
  let history := (d.channels c).sent ++ [envelope]
  let sent : Daemon :=
    { d with
      handlers := Function.update d.handlers c ⟨.reading, none⟩
      channels := Function.update d.channels c ⟨history, (d.channels c).received, .receiving, []⟩
      stats := d.stats ++ []
      cancelTimers := d.cancelTimers ++ [] }
  have first : d.step (.send c) = some sent := by
    have open' : (d.channels c).closed = false := by simp [Channel.closed, receiving]
    have room : (d.channels c).admits (.handler c) = true := by
      simp [Channel.admits, unqueued, drained, channelCapacity]
    simp [Daemon.step, supervising, Daemon.sendStep, outgoing, handler, Channel.offer, open', room,
      afterSend, Daemon.startedStats, Daemon.startedTimers, sent, history, envelope, receiving,
      unqueued]
  let taken : Daemon :=
    { sent with
      channels := Function.update sent.channels c
        ⟨history, (d.channels c).received + 1, .writing envelope, []⟩ }
  have second : sent.step (.take c) = some taken := by
    simp [Daemon.step, supervising, sent, taken, Channel.take, history, drained]
  let read : Daemon :=
    { taken with
      channels := Function.update taken.channels c
        ⟨history, (d.channels c).received + 1, .receiving, []⟩ }
  have third : taken.step (.wrote c (.ok ())) = some read := by
    simp [Daemon.step, supervising, sent, taken, read, Channel.wrote]
  refine ⟨read, .cons trivial first (.cons trivial second (.one trivial third)), ?_, rfl⟩
  exact ⟨supervising, up, by simp [read, taken, sent], by simp [read],
    by simp [read, history, drained], by simp [read]⟩

/-- A refused registration takes a number and changes nothing else. -/
theorem Ready.refused (ready : Ready d c) :
    ∃ d', Run Daemon.step Unrestricted d (refusedLabels c) d' ∧ Ready d' c ∧
      d'.shared = { d.shared with nextSession := d.shared.nextSession + 1 } := by
  obtain ⟨supervising, up, handler, receiving, drained, unqueued⟩ := ready
  let counted : Shared := { d.shared with nextSession := d.shared.nextSession + 1 }
  let registering := d.move c (counted,
    ⟨.registering (some 4) 0 none 42 d.shared.nextSession, none⟩)
  have first : d.step (.read c (.ok (Envelope.new (some 4) (.register 0 none 42)))) =
      some registering := by
    simp [Daemon.step, supervising, Daemon.readStep, handler, handleRead, handleMessage, up,
      Envelope.new, registering, counted]
  let refused := registering.move c (counted,
    ⟨.replying (some 4) (errorMessage (.invalidPort (toString (0 : UInt16)))) .resume, none⟩)
  have second : registering.step (.register c ⟨[]⟩ ⟨0, 0⟩) = some refused := by
    simp [Daemon.step, supervising, registerSection, registering, refused, Daemon.move,
      RouteRegistry.registerWithRng, Handler.respond, counted]
  obtain ⟨d', rest, ready, same⟩ := @ready_of_reply refused c (some 4)
    (errorMessage (.invalidPort (toString (0 : UInt16)))) supervising up
    (by simp [refused, Daemon.move]) receiving drained unqueued
  exact ⟨d', .cons trivial first (.cons trivial second rest), ready, same⟩

/-- Refused registrations alone take the counter anywhere. -/
theorem Ready.count (ready : Ready d c) (count : Nat) :
    ∃ labels d', Run Daemon.step Unrestricted d labels d' ∧ Ready d' c ∧
      d'.shared = { d.shared with nextSession := d.shared.nextSession + UInt64.ofNat count } := by
  induction count with
  | zero => exact ⟨[], d, .nil, ready, by simp⟩
  | succ count ih =>
    obtain ⟨labels, middle, ran, ready, shared⟩ := ih
    obtain ⟨d', refused, ready, next⟩ := ready.refused
    refine ⟨_, d', ran.append refused, ready, ?_⟩
    rw [next, shared, UInt64.ofNat_add, ← UInt64.add_assoc]
    rfl

/-- A ready client whose registration the registry accepts gets the next number
for its route. -/
theorem Ready.registered {port : UInt16} {slug : Option String} {registry : RouteRegistry}
    {rng : DrawStream} (ready : Ready d c)
    (accepted : d.shared.registry.registerWithRng port slug d.shared.nextSession 42 ⟨[]⟩ ⟨0, 0⟩ =
      (.ok route, registry, rng)) :
    ∃ labels d', Run Daemon.step Unrestricted d labels d' ∧ d'.shared.registry = registry := by
  obtain ⟨supervising, up, handler, _, _⟩ := ready
  let counted : Shared := { d.shared with nextSession := d.shared.nextSession + 1 }
  let registering := d.move c (counted,
    ⟨.registering (some 5) port slug 42 d.shared.nextSession, none⟩)
  have first : d.step (.read c (.ok (Envelope.new (some 5) (.register port slug 42)))) =
      some registering := by
    simp [Daemon.step, supervising, Daemon.readStep, handler, handleRead, handleMessage, up,
      Envelope.new, registering, counted]
  let registered := registering.move c ({ counted with registry },
    ⟨.publishing (some 5) route, some d.shared.nextSession⟩)
  have second : registering.step (.register c ⟨[]⟩ ⟨0, 0⟩) = some registered := by
    simp [Daemon.step, supervising, registerSection, registering, registered, Daemon.move, accepted,
      counted]
  exact ⟨_, registered, .cons trivial first (.one trivial second), rfl⟩

/-- The daemon when a Stop of client 0's route has timed out and client 1 has
read that it was stopped. -/
def answeredDaemon : Daemon :=
  (execute Daemon.step stoppedDaemon [.send 1, .take 1, .wrote 1 (.ok ())]).get (by decide)

/-- After `2^64 - 1` refused registrations the next one is given the session that
was stopped, and its route is live. -/
theorem stopped_session_comes_back :
    ∃ labels d view route notify more v,
      Run Daemon.step Unrestricted (.start "example.com" 0) labels d ∧
      (d.handlers 1).phase = .replying (some 2) (.stopped view) (.finishStop route notify) ∧
      Run Daemon.step Unrestricted d more v ∧
      ∃ live, v.shared.registry.Live live ∧ live.ownerSession = route.ownerSession := by
  have first : Run Daemon.step Unrestricted (.start "example.com" 0)
      (registrationLabels 0 3000 "app") oneRoute := run_to_execute _
  have stop : Run Daemon.step Unrestricted oneRoute (stopLabels 1 "app") stoppingDaemon :=
    run_to_execute _
  have removal : Run Daemon.step Unrestricted stoppingDaemon (removalLabels 1) stoppedDaemon :=
    run_to_execute _
  have answer : Run Daemon.step Unrestricted stoppedDaemon _ answeredDaemon := run_to_execute _
  have ready : Ready answeredDaemon 1 := ⟨rfl, rfl, rfl, rfl, rfl, rfl⟩
  obtain ⟨labels, u, wrap, ready, shared⟩ := ready.count (2 ^ 64 - 1)
  have one : answeredDaemon.shared.nextSession + UInt64.ofNat (2 ^ 64 - 1) = 1 := by decide
  rw [one] at shared
  let route : Route := ⟨"app", ⟨.localhost, 3000⟩, 1, 42, 0, 0⟩
  have accepted : u.shared.registry.registerWithRng 3000 (some "app") u.shared.nextSession 42
      (⟨[]⟩ : DrawStream) ⟨0, 0⟩ =
        (.ok route, answeredDaemon.shared.registry.insertRoute route, ⟨[]⟩) := by
    rw [shared]
    rfl
  obtain ⟨more, v, last, registry⟩ := ready.registered accepted
  refine ⟨_, _, _, _, _, _, v, (first.append stop).append removal, rfl,
    (answer.append wrap).append last, route, ?_, rfl⟩
  rw [registry]
  decide

end CfFw
