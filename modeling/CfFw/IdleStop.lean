import CfFw.Sessions

/-! What the idle timer may find in the registry. The clock is started by a
check and a later write, and a route is inserted before the clock is stopped;
the invariant says which routes can be live while the clock runs. -/
namespace CfFw
open Std Transition

variable {d d' : Daemon} {c : ConnId} {label : Label} {shared : Shared} {handler : Handler}
  {route : Route}

/-- A handler is between inserting this route and `mark_active`. -/
def Pending (d : Daemon) (route : Route) : Prop := ∃ c, (d.handlers c).phase.activates = some route

/-- No route whose registration is between insertion and `mark_active` is live. -/
def NothingPending (d : Daemon) : Prop :=
  ∀ route, Pending d route → ¬ d.shared.registry.Live route

/-- When `mark_idle_if_empty` starts the clock, the registry is still as empty
as its check found it. -/
def Daemon.startsClockEmpty (d : Daemon) : Label → Bool
  | .proceed c =>
    match (d.handlers c).phase with
    | .removing .idleWrite _ _ => d.shared.idleSince.isSome || d.shared.registry.isEmpty
    | _ => true
  | _ => true

/-- Steps that start the idle clock over an empty registry only. -/
def HonestClock (d : Daemon) (label : Label) : Prop := d.startsClockEmpty label = true

instance (d : Daemon) (label : Label) : Decidable (HonestClock d label) := by
  unfold HonestClock
  infer_instance

/-- While the idle clock runs, every live route is still being activated. -/
structure IdleHolds (d : Daemon) : Prop where
  absent : ∀ c, d.accepted ≤ c → d.handlers c = ⟨.absent, none⟩
  wellFormed : d.shared.registry.WellFormed
  pending : d.shared.idleSince ≠ none → ∀ route, d.shared.registry.Live route → Pending d route

theorem RouteRegistry.isEmpty_iff {registry : RouteRegistry} (wellFormed : registry.WellFormed) :
    registry.isEmpty = true ↔ ∀ route, ¬ registry.Live route := by
  constructor
  · intro empty route live
    rw [RouteRegistry.isEmpty, ExtTreeMap.isEmpty_iff] at empty
    simp [RouteRegistry.Live, empty] at live
  · intro none
    rw [RouteRegistry.isEmpty, ExtTreeMap.isEmpty_iff]
    refine ExtTreeMap.ext_getElem? fun slug => ?_
    cases found : registry.bySlug[slug]? with
    | none => simp
    | some route => exact absurd (wellFormed.live found) (none route)

/-! ### One step -/

/-- A registration in the window stays there or stops the clock. -/
theorem HandlerStep.activates (taken : HandlerStep d c label shared handler)
    (pending : (d.handlers c).phase.activates = some route) :
    handler.phase.activates = some route ∨ shared.idleSince = none := by
  cases taken with
  | published phase =>
    rw [phase] at pending
    exact .inl pending
  | activated => exact .inr rfl
  | _ => simp_all [Phase.activates]

theorem Change.pending (change : Change d label d')
    (absent : ∀ c, d.accepted ≤ c → d.handlers c = ⟨.absent, none⟩) (pending : Pending d route) :
    Pending d' route ∨ d'.shared.idleSince = none := by
  obtain ⟨c, pending⟩ := pending
  rcases change.handlers c with same | ⟨new, _⟩ | taken
  · exact .inl ⟨c, same ▸ pending⟩
  · rw [absent c new.ge] at pending
    cases pending
  · exact (taken.activates pending).imp (fun pending => ⟨c, pending⟩) id

/-- The clock is left alone, stopped, or started by a check's late write. -/
theorem HandlerStep.idleSince (taken : HandlerStep d c label shared handler) :
    shared.idleSince = d.shared.idleSince ∨ shared.idleSince = none ∨
      ∃ session after, label = .proceed c ∧
        (d.handlers c).phase = .removing .idleWrite session after ∧
        shared.registry = d.shared.registry := by
  cases taken with
  | activated => exact .inr (.inl rfl)
  | acknowledged =>
    simp only [Shared.acknowledge]
    split <;> exact .inl rfl
  | markedIdle phase => exact .inr (.inr ⟨_, _, rfl, phase, rfl⟩)
  | _ => exact .inl rfl

/-- When the clock runs after an honest step, it ran before or the registry is
empty. -/
theorem Change.idleSince (change : Change d label d') (honest : HonestClock d label)
    (wellFormed : d.shared.registry.WellFormed) (runs : d'.shared.idleSince ≠ none) :
    d.shared.idleSince ≠ none ∨ ∀ route, ¬ d'.shared.registry.Live route := by
  rcases change.shared with ⟨c, handler, taken⟩ | ⟨_, _, _, same⟩ | ⟨_, same⟩
  · rcases taken.idleSince with same | stopped | ⟨session, after, rfl, phase, registryEq⟩
    · exact .inl (same ▸ runs)
    · exact absurd stopped runs
    · simp only [HonestClock, Daemon.startsClockEmpty, phase, Bool.or_eq_true] at honest
      rcases honest with ran | empty
      · exact .inl (Option.isSome_iff_ne_none.mp ran)
      · rw [registryEq]
        exact .inr ((RouteRegistry.isEmpty_iff wellFormed).mp empty)
  · rw [same] at runs
    exact .inl runs
  · rw [same] at runs
    exact .inl runs

/-- **Step lemma** of the idle invariant. -/
theorem IdleHolds.step (holds : IdleHolds d) (change : Change d label d')
    (honest : HonestClock d label) : IdleHolds d' where
  absent _ later := change.absent holds.absent later
  wellFormed := change.wellFormed holds.wellFormed
  pending runs route live := by
    rcases change.idleSince honest holds.wellFormed runs with ran | empty
    · rcases change.live holds.wellFormed live with old | ⟨c, _, _, pending, _⟩
      · rcases change.pending holds.absent (holds.pending ran route old) with kept | stopped
        · exact kept
        · exact absurd stopped runs
      · exact ⟨c, pending⟩
    · exact absurd live (empty route)

private theorem idleHolds_start (baseDomain : String) (now : Instant) :
    IdleHolds (.start baseDomain now) where
  absent _ _ := rfl
  wellFormed := RouteRegistry.wellFormed_new
  pending _ route live := absurd live (RouteRegistry.not_live_new route)

/-- **The idle timer and active forwards.** In a run whose idle clock is started
over an empty registry only, `idle_monitor` stops the daemon over an empty
registry exactly when no live route is then between its insertion and
`mark_active`. -/
theorem idle_stop_finds_registry_empty {baseDomain : String} {now : Instant} {labels : List Label}
    (ran : Run Daemon.step HonestClock (.start baseDomain now) labels d)
    (fires : d.idleExpired = true) :
    d.shared.registry.isEmpty = true ↔ NothingPending d := by
  have holds : IdleHolds d := ran.invariant IdleHolds (idleHolds_start baseDomain now)
    fun _ _ _ holds honest taken => holds.step (change_of_step taken) honest
  rw [RouteRegistry.isEmpty_iff holds.wellFormed]
  constructor
  · intro empty route _
    exact empty route
  · intro nothing route live
    have runs : d.shared.idleSince ≠ none := by
      intro stopped
      simp [Daemon.idleExpired, stopped] at fires
    exact nothing route (holds.pending runs route live) live

/-- The only client leaves, and two seconds pass. -/
def quietLabels : List Label :=
  registrationLabels 0 3000 "app" ++ .read 0 (.error (.io .unexpectedEof "early eof")) ::
    removalLabels 0 ++ [.advance daemonIdleTimeout]

/-- The daemon when its idle timer is about to stop it. -/
def quietDaemon : Daemon :=
  (execute Daemon.step (.start "example.com" 0) quietLabels).get (by decide)

theorem quiet_daemon_stops_empty :
    quietDaemon.shared.registry.isEmpty = true ↔ NothingPending quietDaemon := by
  have ran : Run Daemon.step HonestClock (.start "example.com" 0) quietLabels quietDaemon :=
    @run_of_executeChecked _ _ _ _ _ _ _ Daemon.startsClockEmpty (fun _ _ honest => honest) rfl
  exact idle_stop_finds_registry_empty ran (by decide)

/-- Client 0 leaves; between the emptiness check and the write of `idle_since`,
client 1 registers. The write restarts the clock that client 1 stopped, and two
seconds later the timer stops the daemon with client 1's route live. -/
theorem idle_timer_stops_active_forward :
    ∃ labels d d', Run Daemon.step Unrestricted (.start "example.com" 0) labels d ∧
      d.step .idleTick = some d' ∧ d.shared.shutdown = false ∧ d'.shared.shuttingDown = true ∧
      d'.shared.shutdown = true ∧ d'.shared.registry.isEmpty = false := by
  have ran := @run_to_execute _ _ Daemon.step (.start "example.com" 0)
    (registrationLabels 0 3000 "app" ++ .read 0 (.error (.io .unexpectedEof "early eof")) ::
      .proceed 0 :: .proceed 0 :: .proceed 0 :: .proceed 0 ::
      registrationLabels 1 4000 "web" ++ [.proceed 0, .advance daemonIdleTimeout]) (by decide)
  exact ⟨_, _, _, ran, rfl, by decide, by decide, by decide, by decide⟩

end CfFw
