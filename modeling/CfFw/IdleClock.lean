import CfFw.HeldSince
import CfFw.IdleStop
import CfFw.SessionCleanup

/-! How exact the idle clock is. A registration from the insertion to `mark_active`
and a run of `remove_session` are each taken to go on without another task in
between; the clock is then judged whenever no handler is inside either, against
the history of the registry. -/
namespace CfFw
open Std Transition

/-- The handler is inside a registration or a `remove_session`: past the first
registry section, before the end. -/
def Phase.underway : Phase → Bool
  | .publishing _ _ | .activating _ _ => true
  | .removing stage _ _ => stage ≠ .registry
  | _ => false

/-- No handler is inside a registration or a `remove_session`. -/
def BetweenOperations (d : Daemon) : Prop :=
  ∀ c < d.accepted, (d.handlers c).phase.underway = false

instance (d : Daemon) : Decidable (BetweenOperations d) :=
  inferInstanceAs (Decidable (∀ c < d.accepted, _))

/-- The step only lets time pass. -/
def Label.isAdvance : Label → Bool
  | .advance _ => true
  | _ => false

/-- The step clears the registry, for a Kill or because `cloudflared` has exited. -/
def Daemon.clears (d : Daemon) : Label → Bool
  | .proceed c =>
    match (d.handlers c).phase with
    | .clearing _ => true
    | _ => false
  | .fatalClear => true
  | _ => false

/-- The step is one of handler `c`, or only lets time pass. -/
def Label.continues (c : ConnId) : Label → Bool
  | .proceed other => other = c
  | .advance _ => true
  | _ => false

/-- A handler inside a registration or a `remove_session` goes on before any
other task does, and neither a Kill nor an exit of `cloudflared` clears the
registry. -/
def Undisturbed (d : Daemon) (label : Label) : Prop :=
  (∀ c < d.accepted, (d.handlers c).phase.underway = true → label.continues c = true) ∧
    d.clears label = false

instance (d : Daemon) (label : Label) : Decidable (Undisturbed d label) :=
  inferInstanceAs (Decidable (_ ∧ _))

/-- The times from which on the registry has been empty, between operations. -/
def emptyFrom (start : Daemon) (labels : List Label) : Set Instant :=
  heldFrom Daemon.step BetweenOperations (fun d => d.shared.registry.isEmpty = true) Daemon.now
    start labels

variable {d d' : Daemon} {c : ConnId} {label : Label} {shared : Shared} {handler : Handler}
  {route : Route} {session : UInt64}

private theorem underway_of_activates (activates : (d.handlers c).phase.activates = some route) :
    (d.handlers c).phase.underway = true := by
  unfold Phase.activates at activates
  split at activates
  case h_1 same | h_2 same => rw [same, Phase.underway]
  case h_3 => cases activates

@[simp] theorem underway_removed (handler : Handler) (baseDomain : String) (session : UInt64)
    (after : AfterRemove) : (handler.removed baseDomain session after).phase.underway = false := by
  cases after <;> rfl

/-! ### Time -/

private theorem now_statsStep {index : Nat} (taken : d.statsStep index label = some d') :
    d'.now = d.now := by
  unfold Daemon.statsStep at taken
  split at taken
  · split at taken <;> cases taken
    rfl
  · split at taken
    · split at taken <;> cases taken <;> rfl
    · cases taken
  · split at taken
    · split at taken <;> cases taken <;> rfl
    · cases taken
  · cases taken

private theorem now_mainStep (taken : d.mainStep label = some d') : d'.now = d.now := by
  unfold Daemon.mainStep at taken
  split at taken
  · split at taken
    · split at taken <;> cases taken <;> rfl
    · cases taken
  · split at taken <;> cases taken <;> rfl
  · split at taken
    · split at taken <;> cases taken
      rfl
    · cases taken
  · split at taken
    · split at taken <;> cases taken
      rfl
    · cases taken
      rfl
    · cases taken
  · split at taken <;> cases taken
    rfl
  · split at taken
    · split at taken <;> cases taken
      rfl
    · cases taken
  · cases taken

private theorem advance_step {duration : Instant} (taken : d.step (.advance duration) = some d') :
    d' = { d with now := d.now + duration } := by
  unfold Daemon.step at taken
  split at taken <;> cases taken
  rfl

/-- Time passes by itself only. -/
theorem now_step (taken : d.step label = some d') (still : label.isAdvance = false) :
    d'.now = d.now := by
  unfold Daemon.step at taken
  split at taken
  · cases taken
  cases label with
  | advance duration => cases still
  | accept | acceptEnds | idleStops =>
    dsimp only at taken
    split at taken <;> cases taken
    rfl
  | read c outcome =>
    simp only [Daemon.readStep] at taken
    split at taken <;> cases taken
    rfl
  | register c rng stamp | proceed c | snapshot c order | timeout c | take c | wrote c result
    | writerEnds c =>
    obtain ⟨_, _, rfl⟩ := Option.map_eq_some_iff.mp taken
    rfl
  | queue sender c =>
    obtain ⟨_, _, _, rfl⟩ := queued_of_queueStep taken
    rfl
  | send c =>
    simp only [Daemon.sendStep] at taken
    split at taken
    · cases taken
    · split at taken <;> cases taken
      rfl
  | drained c =>
    simp only [Daemon.drainedStep] at taken
    split at taken <;> cases taken
    rfl
  | statsTick index | statsCheck index sample | statsSend index => exact now_statsStep taken
  | idleTick =>
    dsimp only at taken
    split at taken <;> cases taken
    unfold Daemon.idleTick
    split <;> rfl
  | signal =>
    cases taken
    rfl
  | cancelTimer =>
    dsimp only at taken
    split at taken
    · split at taken <;> cases taken
      rfl
    · cases taken
  | supervise | poll outcome | fatalSnapshot order | fatalSend | fatalClear | exit =>
    exact now_mainStep taken

private theorem now_le_step (taken : d.step label = some d') : d.now ≤ d'.now := by
  cases advances : label.isAdvance with
  | false => exact (now_step taken advances).ge
  | true =>
    cases label with
    | advance duration =>
      rw [advance_step taken]
      exact Nat.le_add_right _ _
    | _ => cases advances

/-! ### What one step of a handler does to the clock -/

/-- Where the clock stands against the registry: exact between operations, and
inside one as the operation has found or left it. -/
inductive ClockHolds (d : Daemon) : Prop where
  | between (rests : ∀ c, (d.handlers c).phase.underway = false)
      (exact : d.shared.idleSince.isSome = d.shared.registry.isEmpty)
  | registering {c : ConnId} {route : Route}
      (alone : ∀ other, other ≠ c → (d.handlers other).phase.underway = false)
      (activates : (d.handlers c).phase.activates = some route)
      (busy : d.shared.registry.isEmpty = false)
  | removing {c : ConnId} {stage : RemoveStage} {session : UInt64} {after : AfterRemove}
      (alone : ∀ other, other ≠ c → (d.handlers other).phase.underway = false)
      (phase : (d.handlers c).phase = .removing stage session after) (begun : stage ≠ .registry)
      (stopped : d.shared.registry.isEmpty = false → d.shared.idleSince = none)
      (checked : stage = .idleWrite → d.shared.registry.isEmpty = true)

/-- A handler outside the two operations leaves registry and clock alone, inserts
a route, or removes routes. -/
theorem HandlerStep.outside (taken : HandlerStep d c label shared handler)
    (rests : (d.handlers c).phase.underway = false) (kept : d.clears label = false)
    (wellFormed : d.shared.registry.WellFormed) :
    shared.idleSince = d.shared.idleSince ∧
      ((handler.phase.underway = false ∧ shared.registry = d.shared.registry) ∨
        ((∃ route, handler.phase.activates = some route) ∧ shared.registry.isEmpty = false) ∨
        ∃ session after, handler.phase = .removing .owners session after ∧
          (shared.registry.isEmpty = false → d.shared.registry.isEmpty = false)) := by
  cases taken with
  | @registered rng stamp requestId port slug pid session route phase addable =>
    refine ⟨rfl, .inr (.inl ⟨⟨route, rfl⟩, ?_⟩)⟩
    rw [Bool.eq_false_iff, Ne, RouteRegistry.isEmpty_iff (wellFormed.insertRoute addable)]
    intro empty
    exact empty route ((RouteRegistry.live_insertRoute addable.freeSlug).mpr (.inl rfl))
  | @removedRoutes session after phase =>
    refine ⟨rfl, .inr (.inr ⟨session, after, rfl, fun busy => ?_⟩)⟩
    rw [Bool.eq_false_iff, Ne, RouteRegistry.isEmpty_iff wellFormed]
    rw [Bool.eq_false_iff, Ne, Shared.removeRoutes,
      RouteRegistry.isEmpty_iff (wellFormed.removeSession session)] at busy
    intro empty
    exact busy fun route live =>
      empty route ((RouteRegistry.live_removeSession wellFormed).mp live).1
  | cleared phase =>
    rw [Daemon.clears, phase] at kept
    cases kept
  | acknowledgeIgnored => exact ⟨rfl, .inl ⟨rests, rfl⟩⟩
  | published phase | activated phase | removedOwner phase | acknowledged phase | foundEmpty phase
    | foundBusy phase | markedIdle phase =>
    rw [phase] at rests
    cases rests
  | _ => exact ⟨rfl, .inl ⟨rfl, rfl⟩⟩

/-- A registration goes on to `mark_active`, which stops the clock. -/
theorem HandlerStep.inside_registration (taken : HandlerStep d c (.proceed c) shared handler)
    (activates : (d.handlers c).phase.activates = some route) :
    shared.registry = d.shared.registry ∧
      ((handler.phase.activates = some route ∧ shared.idleSince = d.shared.idleSince) ∨
        (handler.phase.underway = false ∧ shared.idleSince = none)) := by
  cases taken with
  | published phase =>
    rw [phase] at activates
    exact ⟨rfl, .inl ⟨activates, rfl⟩⟩
  | activated => exact ⟨rfl, .inr ⟨rfl, rfl⟩⟩
  | _ => simp_all [Phase.activates]

/-- A `remove_session` goes on to its check of the registry, and starts the clock
when the registry was empty. -/
theorem HandlerStep.inside_removal {stage : RemoveStage} {after : AfterRemove}
    (taken : HandlerStep d c (.proceed c) shared handler)
    (phase : (d.handlers c).phase = .removing stage session after) (begun : stage ≠ .registry) :
    shared.registry = d.shared.registry ∧
      ((shared.idleSince = d.shared.idleSince ∧ ∃ later,
          handler.phase = .removing later session after ∧ later ≠ .registry ∧
          (later = .idleWrite → d.shared.registry.isEmpty = true)) ∨
        (handler = (d.handlers c).removed d.shared.baseDomain session after ∧
          ((d.shared.registry.isEmpty = false ∧ shared.idleSince = d.shared.idleSince) ∨
            (stage = .idleWrite ∧ shared.idleSince = d.shared.idleSince.or (some d.now))))) := by
  cases taken with
  | removedRoutes same =>
    cases phase.symm.trans same
    exact absurd rfl begun
  | removedOwner same =>
    cases phase.symm.trans same
    exact ⟨rfl, .inl ⟨rfl, .acknowledgements, rfl, nofun, nofun⟩⟩
  | acknowledged same =>
    cases phase.symm.trans same
    have kept : (d.shared.acknowledge session).registry = d.shared.registry ∧
        (d.shared.acknowledge session).idleSince = d.shared.idleSince := by
      unfold Shared.acknowledge
      split <;> exact ⟨rfl, rfl⟩
    exact ⟨kept.1, .inl ⟨kept.2, .idleCheck, rfl, nofun, nofun⟩⟩
  | foundEmpty same empty =>
    cases phase.symm.trans same
    exact ⟨rfl, .inl ⟨rfl, .idleWrite, rfl, nofun, fun _ => empty⟩⟩
  | foundBusy same busy =>
    cases phase.symm.trans same
    exact ⟨rfl, .inr ⟨rfl, .inl ⟨busy, rfl⟩⟩⟩
  | markedIdle same =>
    cases phase.symm.trans same
    exact ⟨rfl, .inr ⟨rfl, .inr ⟨rfl, rfl⟩⟩⟩
  | _ => simp_all

/-! ### One step of the daemon -/

/-- What the idle clock shows after a step: what it showed, while an operation goes
on, and otherwise what a stopwatch of the empty registry shows. -/
def ClockRuns (d d' : Daemon) : Prop :=
  (¬ BetweenOperations d' ∧ d'.shared.idleSince = d.shared.idleSince) ∨
    (BetweenOperations d' ∧ d'.shared.idleSince =
      if d'.shared.registry.isEmpty then d.shared.idleSince.or (some d'.now) else none)

private theorem present_of_underway (absent : ∀ c, d.accepted ≤ c → d.handlers c = ⟨.absent, none⟩)
    (underway : (d.handlers c).phase.underway = true) : c < d.accepted := by
  apply Nat.lt_of_not_le
  intro later
  rw [absent c later] at underway
  cases underway

theorem ClockRuns.inside (absent : ∀ c, d'.accepted ≤ c → d'.handlers c = ⟨.absent, none⟩)
    (underway : (d'.handlers c).phase.underway = true)
    (same : d'.shared.idleSince = d.shared.idleSince) : ClockRuns d d' := by
  refine .inl ⟨fun between => ?_, same⟩
  rw [between c (present_of_underway absent underway)] at underway
  cases underway

/-- A step after which no operation goes on leaves the clock exact. -/
theorem ClockHolds.outside (rests : ∀ c, (d'.handlers c).phase.underway = false)
    (shows : d'.shared.idleSince =
      if d'.shared.registry.isEmpty then d.shared.idleSince.or (some d'.now) else none) :
    ClockHolds d' ∧ ClockRuns d d' := by
  refine ⟨.between rests ?_, .inr ⟨fun c _ => rests c, shows⟩⟩
  rw [shows]
  cases d'.shared.registry.isEmpty with
  | true => simp
  | false => rfl

private theorem all_rest (alone : ∀ other, other ≠ c → (d.handlers other).phase.underway = false)
    (rests : (d.handlers c).phase.underway = false) :
    ∀ other, (d.handlers other).phase.underway = false := by
  intro other
  by_cases same : other = c
  · rw [same, rests]
  · exact alone other same

/-- A clock that is exact stays so under a step that changes neither. -/
theorem exact_of_unchanged {empty : Bool} {since : Option Instant} {now : Instant}
    (exact : since.isSome = empty) : since = if empty then since.or (some now) else none := by
  cases since with
  | none =>
    subst exact
    rfl
  | some time =>
    subst exact
    rfl

theorem ClockHolds.between_step (taken : d.step label = some d')
    (absent : ∀ c, d.accepted ≤ c → d.handlers c = ⟨.absent, none⟩)
    (wellFormed : d.shared.registry.WellFormed) (kept : d.clears label = false)
    (rests : ∀ c, (d.handlers c).phase.underway = false)
    (exact : d.shared.idleSince.isSome = d.shared.registry.isEmpty) :
    ClockHolds d' ∧ ClockRuns d d' := by
  have change := change_of_step taken
  have absent' := fun c => @Change.absent d d' c label change absent
  cases change with
  | @handler c shared handler moved sharedEq handlersEq =>
    subst sharedEq
    have here : d'.handlers c = handler := by rw [handlersEq, Function.update_self]
    have alone : ∀ other, other ≠ c → (d'.handlers other).phase.underway = false := by
      intro other different
      rw [handlersEq, Function.update_of_ne different]
      exact rests other
    obtain ⟨clock, quiet | ⟨⟨route, activates⟩, busy⟩ | ⟨session, after, phase, shrinks⟩⟩ :=
      moved.outside (rests c) kept wellFormed
    · apply ClockHolds.outside (all_rest alone (by rw [here, quiet.1]))
      rw [clock, quiet.2]
      exact exact_of_unchanged exact
    · rw [← here] at activates
      exact ⟨.registering alone activates busy,
        .inside absent' (underway_of_activates activates) clock⟩
    · rw [← here] at phase
      refine ⟨.removing alone phase nofun (fun busy => ?_) nofun,
        .inside absent' (by rw [phase]; rfl) clock⟩
      rw [clock, ← Option.not_isSome_iff_eq_none, exact, shrinks busy]
      exact Bool.false_ne_true
  | accepted _ sharedEq handlersEq =>
    apply ClockHolds.outside
    · intro other
      by_cases same : other = d.accepted
      · rw [same, handlersEq, Function.update_self]
        rfl
      · rw [handlersEq, Function.update_of_ne same]
        exact rests other
    · rw [sharedEq]
      exact exact_of_unchanged exact
  | flags _ _ sharedEq handlersEq =>
    apply ClockHolds.outside
    · rw [handlersEq]
      exact rests
    · rw [sharedEq]
      exact exact_of_unchanged exact
  | fatalCleared isClear =>
    subst isClear
    cases kept

/-- A handler inside an operation goes on, or time passes. -/
theorem Undisturbed.inside (undisturbed : Undisturbed d label) (taken : d.step label = some d')
    (absent : ∀ c, d.accepted ≤ c → d.handlers c = ⟨.absent, none⟩)
    (underway : (d.handlers c).phase.underway = true) :
    (∃ duration, d' = { d with now := d.now + duration }) ∨
      (d'.now = d.now ∧ HandlerStep d c (.proceed c) d'.shared (d'.handlers c) ∧
        ∀ other, other ≠ c → d'.handlers other = d.handlers other) := by
  have continues := undisturbed.1 c (present_of_underway absent underway) underway
  cases label with
  | proceed other =>
    obtain rfl : other = c := of_decide_eq_true continues
    have change := change_of_step taken
    exact .inr ⟨now_step taken rfl, change.moved rfl, fun other => change.others rfl⟩
  | advance duration => exact .inl ⟨duration, advance_step taken⟩
  | _ => cases continues

/-- While a registration goes on, its route is in the registry. -/
theorem ClockHolds.registering_step (taken : d.step label = some d')
    (absent : ∀ c, d.accepted ≤ c → d.handlers c = ⟨.absent, none⟩)
    (undisturbed : Undisturbed d label)
    (alone : ∀ other, other ≠ c → (d.handlers other).phase.underway = false)
    (activates : (d.handlers c).phase.activates = some route)
    (busy : d.shared.registry.isEmpty = false) : ClockHolds d' ∧ ClockRuns d d' := by
  have absent' := fun c => @Change.absent d d' c label (change_of_step taken) absent
  rcases undisturbed.inside taken absent (underway_of_activates activates) with
    ⟨duration, rfl⟩ | ⟨_, moved, others⟩
  · exact ⟨.registering alone activates busy,
      .inside absent' (underway_of_activates activates) rfl⟩
  have alone' : ∀ other, other ≠ c → (d'.handlers other).phase.underway = false :=
    fun other different => by rw [others other different, alone other different]
  obtain ⟨registryEq, ⟨activates, clock⟩ | ⟨rests, stopped⟩⟩ := moved.inside_registration activates
  · exact ⟨.registering alone' activates (by rw [registryEq, busy]),
      .inside absent' (underway_of_activates activates) clock⟩
  · apply ClockHolds.outside (all_rest alone' rests)
    rw [stopped, registryEq, busy]
    rfl

/-- While a removal goes on, the clock is stopped or the registry was empty before. -/
theorem ClockHolds.removing_step {stage : RemoveStage} {after : AfterRemove}
    (taken : d.step label = some d')
    (absent : ∀ c, d.accepted ≤ c → d.handlers c = ⟨.absent, none⟩)
    (undisturbed : Undisturbed d label)
    (alone : ∀ other, other ≠ c → (d.handlers other).phase.underway = false)
    (phase : (d.handlers c).phase = .removing stage session after) (begun : stage ≠ .registry)
    (stopped : d.shared.registry.isEmpty = false → d.shared.idleSince = none)
    (checked : stage = .idleWrite → d.shared.registry.isEmpty = true) :
    ClockHolds d' ∧ ClockRuns d d' := by
  have underway : ∀ {d : Daemon} {stage : RemoveStage},
      (d.handlers c).phase = .removing stage session after → stage ≠ .registry →
        (d.handlers c).phase.underway = true := by
    intro d stage phase begun
    rw [phase, Phase.underway, decide_eq_true begun]
  have absent' := fun c => @Change.absent d d' c label (change_of_step taken) absent
  rcases undisturbed.inside taken absent (underway phase begun) with
    ⟨duration, rfl⟩ | ⟨sameNow, moved, others⟩
  · exact ⟨.removing alone phase begun stopped checked, .inside absent' (underway phase begun) rfl⟩
  have alone' : ∀ other, other ≠ c → (d'.handlers other).phase.underway = false :=
    fun other different => by rw [others other different, alone other different]
  obtain ⟨registryEq, ⟨clock, later, phase', begun', checked'⟩ | ⟨left, marked⟩⟩ :=
    moved.inside_removal phase begun
  · refine ⟨.removing alone' phase' begun' (fun busy => ?_) (fun writes => ?_),
      .inside absent' (underway phase' begun') clock⟩
    · rw [clock]
      exact stopped (by rw [← registryEq, busy])
    · rw [registryEq]
      exact checked' writes
  · apply ClockHolds.outside (all_rest alone' (by rw [left, underway_removed]))
    rcases marked with ⟨busy, clock⟩ | ⟨writes, clock⟩
    · rw [clock, registryEq, busy, stopped busy]
      rfl
    · rw [clock, registryEq, checked writes, sameNow]
      rfl

/-- **Step lemma** of the idle clock. -/
theorem ClockHolds.step (holds : ClockHolds d) (taken : d.step label = some d')
    (absent : ∀ c, d.accepted ≤ c → d.handlers c = ⟨.absent, none⟩)
    (wellFormed : d.shared.registry.WellFormed) (undisturbed : Undisturbed d label) :
    ClockHolds d' ∧ ClockRuns d d' := by
  cases holds with
  | between rests exact => exact between_step taken absent wellFormed undisturbed.2 rests exact
  | registering alone activates busy =>
    exact registering_step taken absent undisturbed alone activates busy
  | removing alone phase begun stopped checked =>
    exact removing_step taken absent undisturbed alone phase begun stopped checked

/-! ### Removing a session again -/

/-- A handler that has left `remove_session` waits for its client or for a channel. -/
theorem removed_waits {removed : Handler} {baseDomain : String} {after : AfterRemove}
    (left : d.handlers c = removed.removed baseDomain session after) {count : Nat}
    (ran : execute Daemon.step d (List.replicate count (.proceed c)) = some d') : d' = d := by
  cases count with
  | zero => exact (Option.some.inj ran).symm
  | succ count =>
    obtain ⟨next, taken, _⟩ := Option.bind_eq_some_iff.mp ran
    obtain ⟨_, locked, _⟩ := section_of_proceed taken
    rw [left] at locked
    cases after <;> cases locked

/-- Removing a session without routes does not move an exact clock. -/
theorem removal_keeps_clock {stage : RemoveStage} {after : AfterRemove} {count : Nat}
    (phase : (d.handlers c).phase = .removing stage session after)
    (unused : stage = .registry → d.shared.registry.removeSession session = ([], d.shared.registry))
    (started : d.shared.registry.isEmpty = true → d.shared.idleSince.isSome = true)
    (checked : stage = .idleWrite → d.shared.registry.isEmpty = true)
    (ran : execute Daemon.step d (List.replicate count (.proceed c)) = some d') :
    d'.shared.idleSince = d.shared.idleSince := by
  induction count generalizing d stage with
  | zero => rw [Option.some.inj ran]
  | succ count ih =>
    obtain ⟨middle, taken, rest⟩ := Option.bind_eq_some_iff.mp ran
    by_cases begun : stage = .registry
    · subst begun
      obtain ⟨next, removes, rfl⟩ := section_of_proceed taken
      unfold lockedSection at removes
      rw [phase] at removes
      cases removes
      have same : d.shared.removeRoutes session = d.shared := by
        rw [Shared.removeRoutes, unused rfl]
      simp only [removeSection, same] at rest
      have phase' : ((d.move c (d.shared, ⟨.removing .owners session after,
          (d.handlers c).owned⟩)).handlers c).phase = .removing .owners session after := by
        simp [Daemon.move]
      have kept := ih phase' (fun same => by cases same) started (fun same => by cases same) rest
      exact kept
    · have moved := (change_of_step taken).moved rfl
      obtain ⟨registryEq, ⟨clock, later, phase', begun', checked'⟩ | ⟨left, marked⟩⟩ :=
        moved.inside_removal phase begun
      · rw [← clock]
        apply ih phase' (fun same => absurd same begun')
        · rw [registryEq, clock]
          exact started
        · rw [registryEq]
          exact checked'
        · exact rest
      · rw [removed_waits left rest]
        rcases marked with ⟨_, clock⟩ | ⟨writes, clock⟩
        · exact clock
        · obtain ⟨time, running⟩ := Option.isSome_iff_exists.mp (started (checked writes))
          rw [clock, running]
          rfl

/-! ### Runs -/

section Runs
variable {start : Daemon} {labels : List Label}

/-- What holds along a run whose operations are not disturbed. -/
structure IdleExact (start : Daemon) (labels : List Label) (d : Daemon) : Prop where
  absent : ∀ c, d.accepted ≤ c → d.handlers c = ⟨.absent, none⟩
  wellFormed : d.shared.registry.WellFormed
  clock : ClockHolds d
  past : ∀ time ∈ emptyFrom start labels, time ≤ d.now
  reads : Reads (emptyFrom start labels) d.shared.idleSince

private theorem idleExact_start (baseDomain : String) (now : Instant) :
    IdleExact (.start baseDomain now) [] (.start baseDomain now) := by
  have times : emptyFrom (.start baseDomain now) [] = {now} :=
    heldFrom_nil (fun _ _ => rfl) rfl
  refine ⟨fun _ _ => rfl, RouteRegistry.wellFormed_new, .between (fun _ => rfl) rfl, ?_, ?_⟩
  · rw [times]
    rintro time rfl
    exact le_rfl
  · rw [times]
    exact isLeast_singleton

/-- **Step lemma** along a run. -/
theorem IdleExact.step (holds : IdleExact start labels d)
    (ran : execute Daemon.step start labels = some d) (taken : d.step label = some d')
    (undisturbed : Undisturbed d label) : IdleExact start (labels ++ [label]) d' := by
  obtain ⟨clock, runs⟩ := holds.clock.step taken holds.absent holds.wellFormed undisturbed
  have past : ∀ time ∈ emptyFrom start labels, time ≤ d'.now :=
    fun time member => (holds.past time member).trans (now_le_step taken)
  refine ⟨fun c => (change_of_step taken).absent holds.absent,
    (change_of_step taken).wellFormed holds.wellFormed, clock, ?_, ?_⟩
  · rintro time member
    rcases (mem_heldFrom_snoc ran taken).mp member with ⟨old, _⟩ | ⟨_, _, rfl⟩
    · exact past time old
    · exact le_rfl
  · rcases runs with ⟨inside, same⟩ | ⟨between, shows⟩
    · rw [emptyFrom, heldFrom_uncounted ran taken inside, same]
      exact holds.reads
    · by_cases empty : d'.shared.registry.isEmpty = true
      · rw [emptyFrom, heldFrom_kept ran taken between empty, shows, if_pos empty]
        exact holds.reads.insert past
      · rw [emptyFrom, heldFrom_broken ran taken between empty, shows, if_neg empty]
        rfl

/-- **Run lemma** of the idle clock. -/
theorem idleExact_of_run {baseDomain : String} {now : Instant}
    (ran : Run Daemon.step Undisturbed (.start baseDomain now) labels d) :
    IdleExact (.start baseDomain now) labels d := by
  induction ran with
  | nil => exact idleExact_start baseDomain now
  | snoc prior undisturbed taken ih => exact ih.step prior.execute_eq taken undisturbed

theorem ClockHolds.exact (holds : ClockHolds d)
    (absent : ∀ c, d.accepted ≤ c → d.handlers c = ⟨.absent, none⟩)
    (between : BetweenOperations d) : d.shared.idleSince.isSome = d.shared.registry.isEmpty := by
  have idle : ∀ c, (d.handlers c).phase.underway = true → False := by
    intro c underway
    rw [between c (present_of_underway absent underway)] at underway
    cases underway
  cases holds with
  | between _ exact => exact exact
  | registering _ activates => exact (idle _ (underway_of_activates activates)).elim
  | removing _ phase begun =>
    exact (idle _ (by rw [phase, Phase.underway, decide_eq_true begun])).elim

/-- A failed registration leaves its handler outside both operations and the
clock where it was. -/
theorem failed_registration {requestId : Option UInt64} {port : UInt16} {slug : Option String}
    {pid : UInt32} {error : FwError} {rng : DrawStream} {stamp : Stamp}
    (between : BetweenOperations d)
    (phase : (d.handlers c).phase = .registering requestId port slug pid session)
    (failed : (d.shared.registry.registerWithRng port slug session pid rng stamp).1 = .error error)
    (taken : d.step (.register c rng stamp) = some d') :
    BetweenOperations d' ∧ d'.shared.idleSince = d.shared.idleSince := by
  obtain ⟨next, ran, rfl⟩ := section_of_register taken
  unfold registerSection at ran
  rw [phase] at ran
  rcases RouteRegistry.registerWithRng_cases d.shared.registry port slug session pid rng stamp with
    ⟨refusal, rest, refused⟩ | ⟨route, rest, registered, _⟩
  · simp only [refused, Option.some.injEq] at ran
    subst ran
    refine ⟨fun other present => ?_, rfl⟩
    by_cases same : other = c
    · subst same
      simp [Daemon.move, Handler.respond, Phase.underway]
    · simp only [Daemon.move, Function.update_of_ne same]
      exact between other present
  · rw [registered] at failed
    cases failed

/-- What the clock shows has run out when and only when the registry has been
empty for long enough. -/
theorem IdleExact.expired_iff (holds : IdleExact start labels d) :
    d.idleExpired = true ↔ ∃ time ∈ emptyFrom start labels, time + daemonIdleTimeout ≤ d.now := by
  have earlier : ∀ first second : Instant, first ≤ second → daemonIdleTimeout ≤ d.now - second →
      daemonIdleTimeout ≤ d.now - first :=
    fun first second order late => late.trans (Nat.sub_le_sub_left order _)
  rw [Daemon.idleExpired, holds.reads.any_iff earlier]
  apply exists_congr
  intro time
  apply and_congr_right
  intro member
  rw [Nat.le_sub_iff_add_le (holds.past time member), Nat.add_comm]

private theorem idleTick_stops_iff (taken : d.step .idleTick = some d') :
    d'.idleMonitor = false ∧ d'.shared.shutdown = true ↔ d.idleExpired = true := by
  unfold Daemon.step at taken
  split at taken
  · cases taken
  dsimp only at taken
  split at taken
  · rename_i monitors
    cases taken
    unfold Daemon.idleTick
    split
    · rename_i expired
      simp [expired]
    · rename_i running
      simp [monitors, running]
  · cases taken

/-- **The idle clock is exact.** In a run whose operations are not disturbed,
between operations: the clock runs when and only when the registry is empty, it
shows the time at which the registry last became empty, failed registrations and
repeated removals do not move it, and a tick of `idle_monitor` stops the daemon
when and only when the registry has been empty for the idle timeout. -/
theorem idle_clock_exact {baseDomain : String} {now : Instant}
    (ran : Run Daemon.step Undisturbed (.start baseDomain now) labels d)
    (between : BetweenOperations d) :
    (d.shared.idleSince.isSome = true ↔ d.shared.registry.isEmpty = true) ∧
      (∀ time, d.shared.idleSince = some time ↔
        IsLeast (emptyFrom (.start baseDomain now) labels) time) ∧
      (∀ c rng stamp requestId port slug pid session error d',
        (d.handlers c).phase = .registering requestId port slug pid session →
        (d.shared.registry.registerWithRng port slug session pid rng stamp).1 = .error error →
        d.step (.register c rng stamp) = some d' →
        BetweenOperations d' ∧ d'.shared.idleSince = d.shared.idleSince) ∧
      (∀ c session after count d', (d.handlers c).phase = .removing .registry session after →
        (∀ route, d.shared.registry.Live route → route.ownerSession ≠ session) →
        execute Daemon.step d (List.replicate count (.proceed c)) = some d' →
        d'.shared.idleSince = d.shared.idleSince) ∧
      (∀ d', d.step .idleTick = some d' →
        (d'.idleMonitor = false ∧ d'.shared.shutdown = true ↔
          ∃ time ∈ emptyFrom (.start baseDomain now) labels, time + daemonIdleTimeout ≤ d.now)) := by
  have holds := idleExact_of_run ran
  have exact := holds.clock.exact holds.absent between
  refine ⟨by rw [exact], fun time => holds.reads.eq_some_iff, ?_, ?_, ?_⟩
  · intro c rng stamp requestId port slug pid session error d' phase failed taken
    exact failed_registration between phase failed taken
  · intro c session after count d' phase gone ran
    have unused := RouteRegistry.removeSession_unused holds.wellFormed gone
    exact removal_keeps_clock phase (fun _ => unused) (by rw [exact]; exact id) nofun ran
  · intro d' taken
    rw [idleTick_stops_iff taken]
    exact holds.expired_iff

/-- The only client leaves after five nanoseconds, and the idle timeout passes. -/
def idledLabels : List Label :=
  registrationLabels 0 3000 "app" ++ .advance 5 ::
    .read 0 (.error (.io .unexpectedEof "early eof")) :: removalLabels 0 ++
    [.advance daemonIdleTimeout]

/-- The daemon when its idle timer is about to stop it. -/
def idledDaemon : Daemon :=
  (execute Daemon.step (.start "example.com" 0) idledLabels).get (by decide)

theorem idle_clock_reads_the_removal :
    IsLeast (emptyFrom (.start "example.com" 0) idledLabels) 5 ∧
      ∃ time ∈ emptyFrom (.start "example.com" 0) idledLabels,
        time + daemonIdleTimeout ≤ idledDaemon.now := by
  have ran : Run Daemon.step Undisturbed (.start "example.com" 0) idledLabels idledDaemon :=
    run_to_executeChecked rfl
  obtain ⟨_, shows, _, _, stops⟩ := idle_clock_exact ran (by decide)
  exact ⟨(shows 5).mp rfl, (stops _ rfl).mp ⟨rfl, rfl⟩⟩

end Runs

end CfFw
