import CfFw.Registration
import CfFw.Sessions
import CfFw.TaskSteps

/-! What Kill leaves behind. The shutdown flag admits one Kill only; once it has
cleared the registry nothing is registered again, unless a registration had
already passed the flag and was still waiting for the registry lock. -/
namespace CfFw
open Std Text Transition

variable {d d' v : Daemon} {c other : ConnId} {label : Label} {shared : Shared}
  {handler : Handler} {route : Route} {labels : List Label}

/-- The handler is in `kill_daemon`, past the swap of the flag. -/
def Phase.kills : Phase → Bool
  | .clearing _ | .snapshotting _ _ | .broadcasting _ _ _ _ | .replying _ (.killAccepted _) _ => true
  | _ => false

/-- The route count that a Kill is going to report. -/
def Phase.routeCount : Phase → Option Nat
  | .snapshotting _ count | .broadcasting _ count _ _ | .replying _ (.killAccepted count) _ =>
    some count
  | _ => none

/-- The route counts of the `KillAccepted` replies sent to client `c`. -/
def killCounts (d : Daemon) (c : ConnId) : List Nat :=
  (d.channels c).sent.filterMap fun envelope =>
    match envelope.message with
    | .killAccepted count => some count
    | _ => none

/-- Client `c` has a Kill in progress or was sent `KillAccepted`. -/
def Killed (d : Daemon) (c : ConnId) : Prop :=
  (d.handlers c).phase.kills = true ∨ killCounts d c ≠ []

/-- There is one Kill at most, and it is answered once at most. -/
structure KillHolds (d : Daemon) : Prop where
  flagged : d.shared.shuttingDown = false → ∀ c, ¬ Killed d c
  unique : ∀ c other, Killed d c → Killed d other → c = other
  unanswered : ∀ c, (d.handlers c).phase.kills = true → killCounts d c = []
  once : ∀ c, (killCounts d c).length ≤ 1

private theorem kills_of_routeCount {phase : Phase} {count : Nat}
    (counted : phase.routeCount = some count) :
    phase.kills = true := by
  cases phase with
  | snapshotting | broadcasting => rfl
  | replying requestId message after =>
    cases message with
    | killAccepted => rfl
    | _ => cases counted
  | _ => cases counted

/-! ### One step -/

theorem HandlerStep.shuttingDown (taken : HandlerStep d c label shared handler)
    (down : d.shared.shuttingDown = true) : shared.shuttingDown = true := by
  cases taken with
  | kill => rfl
  | acknowledged =>
    simp only [Shared.acknowledge]
    split <;> exact down
  | _ => exact down

/-- The shutdown flag is never taken back. -/
theorem Change.shuttingDown (change : Change d label d') (down : d.shared.shuttingDown = true) :
    d'.shared.shuttingDown = true := by
  rcases change.shared with ⟨c, handler, taken⟩ | ⟨_, _, monotone, same⟩ | ⟨_, same⟩
  · exact taken.shuttingDown down
  · rw [same]
    exact monotone down
  · rw [same]
    exact down

/-- A handler enters `kill_daemon` by swapping the flag. -/
theorem HandlerStep.kills (taken : HandlerStep d c label shared handler)
    (kills : handler.phase.kills = true) :
    (d.handlers c).phase.kills = true ∨
      (d.shared.shuttingDown = false ∧ shared.shuttingDown = true) := by
  cases taken with
  | kill _ _ up => exact .inr ⟨up, rfl⟩
  | acknowledgeIgnored => exact .inl kills
  | cleared phase | broadcasted phase | snapshotted phase | broadcastOne phase =>
    rw [phase]
    exact .inl rfl
  | @foundBusy _ after | @markedIdle _ after => cases after <;> cases kills
  | _ => cases kills

/-- The reply of a Kill leaves its handler reading again. -/
theorem kills_of_sent {requestId : Option UInt64} {message : ServerMessage} {after : AfterReply}
    (taken : HandlerStep d c (.send c) shared handler)
    (phase : (d.handlers c).phase = .replying requestId message after)
    (alive : (d.channels c).closed = false) : handler.phase.kills = false := by
  generalize same : Label.send c = label at taken
  cases taken with
  | replied | released => rfl
  | replyFailed _ gone =>
    rw [alive] at gone
    cases gone
  | terminated other | broadcastOne other =>
    rw [phase] at other
    cases other
  | _ => cases same

/-- A client's count list grows only by its own handler's reply to a Kill. -/
theorem killCounts_of_step (taken : d.step label = some d') (c : ConnId) :
    killCounts d' c = killCounts d c ∨ killCounts d' c = [] ∨
      ∃ count, (d.handlers c).phase.kills = true ∧ (d.handlers c).phase.routeCount = some count ∧
        killCounts d' c = killCounts d c ++ [count] ∧ (d'.handlers c).phase.kills = false := by
  have queued := queued_of_step taken c
  have moved := fun actor => @Change.moved d d' c label (change_of_step taken) actor
  unfold killCounts
  generalize (d'.channels c).sent = history at queued
  cases queued with
  | kept => exact .inl rfl
  | opened => exact .inr (.inl rfl)
  | @reply requestId message after phase alive =>
    cases message with
    | killAccepted count =>
      refine .inr (.inr ⟨count, by rw [phase]; rfl, by rw [phase]; rfl, ?_, ?_⟩)
      · simp [Envelope.new]
      · exact kills_of_sent (moved rfl) phase alive
    | _ => exact .inl (by simp [Envelope.new])
  | @pushed _ envelope unsolicited =>
    left
    rw [List.filterMap_append]
    cases message : envelope.message with
    | killAccepted count =>
      rw [message] at unsolicited
      cases unsolicited
    | _ => simp [message]

/-- A client is killed by a Kill that finds the flag down. -/
theorem killed_of_step (taken : d.step label = some d') (killed : Killed d' c) :
    Killed d c ∨ (d.shared.shuttingDown = false ∧ d'.shared.shuttingDown = true ∧
      label.actor = some c) := by
  rcases killed with kills | answered
  · rcases (change_of_step taken).handlers c with same | ⟨_, fresh⟩ | moved
    · exact .inl (.inl (same ▸ kills))
    · rw [fresh] at kills
      cases kills
    · rcases moved.kills kills with old | ⟨up, down⟩
      · exact .inl (.inl old)
      · exact .inr ⟨up, down, moved.actor⟩
  · rcases killCounts_of_step taken c with same | none | ⟨_, kills, _⟩
    · exact .inl (.inr (same ▸ answered))
    · exact absurd none answered
    · exact .inl (.inl kills)

/-- **Step lemma** of the Kill invariant. -/
theorem KillHolds.step (holds : KillHolds d) (taken : d.step label = some d') : KillHolds d' where
  flagged up c killed := by
    have wasUp : d.shared.shuttingDown = false := by
      rw [Bool.eq_false_iff] at up ⊢
      exact fun down => up ((change_of_step taken).shuttingDown down)
    rcases killed_of_step taken killed with old | ⟨_, down, _⟩
    · exact holds.flagged wasUp c old
    · rw [up] at down
      cases down
  unique first second killed otherKilled := by
    rcases killed_of_step taken killed with old | ⟨up, _, actor⟩ <;>
      rcases killed_of_step taken otherKilled with otherOld | ⟨otherUp, _, otherActor⟩
    · exact holds.unique first second old otherOld
    · exact absurd old (holds.flagged otherUp first)
    · exact absurd otherOld (holds.flagged up second)
    · exact Option.some.inj (actor.symm.trans otherActor)
  unanswered c kills := by
    have before : killCounts d c = [] := by
      rcases killed_of_step taken (.inl kills) with old | ⟨up, _, _⟩
      · rcases (change_of_step taken).handlers c with same | ⟨_, fresh⟩ | moved
        · exact holds.unanswered c (same ▸ kills)
        · rw [fresh] at kills
          cases kills
        · rcases moved.kills kills with wasKilling | ⟨up, _⟩
          · exact holds.unanswered c wasKilling
          · exact absurd old (holds.flagged up c)
      · exact not_not.mp fun answered => holds.flagged up c (.inr answered)
    rcases killCounts_of_step taken c with same | none | ⟨_, _, _, _, stopped⟩
    · rw [same, before]
    · exact none
    · rw [kills] at stopped
      cases stopped
  once c := by
    rcases killCounts_of_step taken c with same | none | ⟨count, kills, _, grown, _⟩
    · rw [same]
      exact holds.once c
    · simp [none]
    · rw [grown, holds.unanswered c kills]
      exact le_rfl

private theorem killHolds_start (baseDomain : String) (now : Instant) :
    KillHolds (.start baseDomain now) where
  flagged _ c killed := by
    rcases killed with kills | answered
    · cases kills
    · exact answered rfl
  unique c _ killed := by
    rcases killed with kills | answered
    · cases kills
    · exact absurd rfl answered
  unanswered _ _ := rfl
  once _ := Nat.zero_le 1

/-! ### After the registry was cleared -/

/-- The handler has inserted this route and has not been sent its reply. -/
def Phase.registers : Phase → Option Route
  | .publishing _ route | .activating _ route | .replying _ _ (.startStats route) => some route
  | _ => none

/-- The handler waits for the registry lock to register, and an empty registry would take
what it has. -/
def Phase.acceptable : Phase → Bool
  | .registering _ port slug _ _ =>
    port ≠ 0 && slug.all fun input => ValidSlug (toAsciiLowercase input)
  | _ => false

/-- No handler is waiting to register what an empty registry takes. -/
def NoneRegistering (d : Daemon) : Prop :=
  ∀ c < d.accepted, (d.handlers c).phase.acceptable = false

instance (d : Daemon) : Decidable (NoneRegistering d) := by
  unfold NoneRegistering
  infer_instance

/-- Every Kill reports `count` routes, and none is left to clear. -/
structure Reports (count : Nat) (d : Daemon) : Prop where
  down : d.shared.shuttingDown = true
  finished : ∀ c requestId, (d.handlers c).phase ≠ .clearing requestId
  pending : ∀ c reported, (d.handlers c).phase.routeCount = some reported → reported = count
  sent : ∀ c, ∀ reported ∈ killCounts d c, reported = count

theorem HandlerStep.routeCount {count : Nat} (taken : HandlerStep d c label shared handler)
    (counted : handler.phase.routeCount = some count) :
    (d.handlers c).phase.routeCount = some count ∨
      ∃ requestId, (d.handlers c).phase = .clearing requestId := by
  cases taken with
  | cleared phase => exact .inr ⟨_, phase⟩
  | acknowledgeIgnored => exact .inl counted
  | broadcasted phase | snapshotted phase | broadcastOne phase =>
    rw [phase]
    exact .inl counted
  | @foundBusy _ after | @markedIdle _ after => cases after <;> cases counted
  | _ => cases counted

theorem HandlerStep.clearing {requestId : Option UInt64}
    (taken : HandlerStep d c label shared handler) (down : d.shared.shuttingDown = true) :
    handler.phase ≠ .clearing requestId := by
  intro clearing
  cases taken with
  | kill _ _ up =>
    rw [up] at down
    cases down
  | acknowledgeIgnored reading =>
    rw [reading] at clearing
    cases clearing
  | @foundBusy _ after | @markedIdle _ after => cases after <;> cases clearing
  | _ => cases clearing

theorem Reports.step {count : Nat} (reports : Reports count d) (taken : d.step label = some d') :
    Reports count d' where
  down := (change_of_step taken).shuttingDown reports.down
  finished c requestId clearing := by
    rcases (change_of_step taken).handlers c with same | ⟨_, fresh⟩ | moved
    · exact reports.finished c requestId (same ▸ clearing)
    · rw [fresh] at clearing
      cases clearing
    · exact moved.clearing reports.down clearing
  pending c reported counted := by
    rcases (change_of_step taken).handlers c with same | ⟨_, fresh⟩ | moved
    · exact reports.pending c reported (same ▸ counted)
    · rw [fresh] at counted
      cases counted
    · rcases moved.routeCount counted with old | ⟨requestId, clearing⟩
      · exact reports.pending c reported old
      · exact absurd clearing (reports.finished c requestId)
  sent c reported member := by
    rcases killCounts_of_step taken c with same | none | ⟨next, _, counted, grown, _⟩
    · exact reports.sent c reported (same ▸ member)
    · rw [none] at member
      cases member
    · rw [grown, List.mem_append, List.mem_singleton] at member
      rcases member with old | rfl
      · exact reports.sent c reported old
      · exact reports.pending c reported counted

/-- What the clearing step of `kill_daemon` does. -/
theorem cleared_of_step {requestId : Option UInt64} (taken : d.step (.proceed c) = some d')
    (phase : (d.handlers c).phase = .clearing requestId) :
    (d'.handlers c).phase = .snapshotting requestId d.shared.registry.routes.length ∧
      d'.shared.registry = .new ∧ d'.shared.nextSession = d.shared.nextSession := by
  have moved := (change_of_step taken).moved rfl
  generalize d'.shared = shared at moved ⊢
  generalize d'.handlers c = handler at moved ⊢
  cases moved with
  | cleared same =>
    rw [phase] at same
    cases same
    refine ⟨?_, rfl, rfl⟩
    simp only [RouteRegistry.clear, RouteRegistry.sortBySlug, List.length_insertionSort]
  | _ => simp_all

theorem KillHolds.reports {requestId : Option UInt64} (holds : KillHolds d)
    (taken : d.step (.proceed c) = some d')
    (phase : (d.handlers c).phase = .clearing requestId) :
    Reports d.shared.registry.routes.length d' := by
  have holds' := holds.step taken
  obtain ⟨phase', _, _⟩ := cleared_of_step taken phase
  have killed : Killed d' c := .inl (by rw [phase']; rfl)
  have down : d.shared.shuttingDown = true := by
    rw [← Bool.not_eq_false]
    exact fun up => holds.flagged up c (.inl (by rw [phase]; rfl))
  refine ⟨(change_of_step taken).shuttingDown down, fun other id clearing => ?_,
    fun other reported counted => ?_, fun other reported member => ?_⟩
  · obtain rfl := holds'.unique c other killed (.inl (by rw [clearing]; rfl))
    rw [phase'] at clearing
    cases clearing
  · obtain rfl := holds'.unique c other killed (.inl (kills_of_routeCount counted))
    rw [phase'] at counted
    exact (Option.some.inj counted).symm
  · have answered : killCounts d' other ≠ [] := List.ne_nil_of_mem member
    obtain rfl := holds'.unique c other killed (.inr answered)
    exact absurd (holds'.unanswered c (by rw [phase']; rfl)) answered

/-- Nothing can be registered any more, and the counter stands. -/
structure Closed (counter : UInt64) (d : Daemon) : Prop where
  down : d.shared.shuttingDown = true
  wellFormed : d.shared.registry.WellFormed
  empty : ∀ route, ¬ d.shared.registry.Live route
  refused : ∀ c, (d.handlers c).phase.acceptable = false
  counter : d.shared.nextSession = counter

private theorem not_takesSession (down : d.shared.shuttingDown = true) :
    d.takesSession label ≠ true := by
  intro takes
  unfold Daemon.takesSession at takes
  split at takes
  · simp [down] at takes
  · cases takes

/-- A handler waits with the same registration as before, or has just passed the flag. -/
theorem HandlerStep.acceptable (taken : HandlerStep d c label shared handler)
    (acceptable : handler.phase.acceptable = true) :
    (d.handlers c).phase.acceptable = true ∨ d.takesSession label = true := by
  cases taken with
  | registerStarted phase message free up => exact .inr (takesSession_register message free up)
  | acknowledgeIgnored => exact .inl acceptable
  | @foundBusy _ after | @markedIdle _ after => cases after <;> cases acceptable
  | _ => cases acceptable

/-- A handler that has inserted a route had inserted it before, or has waited with it. -/
theorem HandlerStep.registers (taken : HandlerStep d c label shared handler)
    (registers : handler.phase.registers = some route) :
    (d.handlers c).phase.registers = some route ∨ (d.handlers c).phase.acceptable = true := by
  cases taken with
  | @registered _ _ _ _ slug _ _ added phase addable onPort owner outcome =>
    obtain ⟨_, _, _, named, _⟩ := RouteRegistry.registerWithRng_ok outcome
    have nonzero := addable.nonzero
    rw [onPort] at nonzero
    rw [phase]
    refine .inr ?_
    cases slug with
    | none => simp [Phase.acceptable, nonzero]
    | some input =>
      have valid := addable.valid
      rw [named input rfl] at valid
      simp [Phase.acceptable, nonzero, valid]
  | published phase =>
    rw [phase]
    exact .inl registers
  | activated phase =>
    rw [phase]
    exact .inl registers
  | acknowledgeIgnored => exact .inl registers
  | @foundBusy _ after | @markedIdle _ after => cases after <;> cases registers
  | _ => cases registers

private theorem registers_of_activates {phase : Phase} (activates : phase.activates = some route) :
    phase.registers = some route ∧ phase.claims = none := by
  cases phase with
  | publishing | activating => exact ⟨activates, rfl⟩
  | _ => cases activates

theorem Closed.step {counter : UInt64} (closed : Closed counter d)
    (change : Change d label d') : Closed counter d' where
  down := change.shuttingDown closed.down
  wellFormed := change.wellFormed closed.wellFormed
  empty route live := by
    rcases change.live closed.wellFormed live with old | ⟨c, claims, _, activates, _⟩
    · exact closed.empty route old
    · obtain ⟨registers, idle⟩ := registers_of_activates activates
      rcases change.handlers c with same | ⟨_, fresh⟩ | moved
      · rw [same, claims] at idle
        cases idle
      · rw [fresh] at activates
        cases activates
      · rcases moved.registers registers with old | acceptable
        · cases phase : (d.handlers c).phase with
          | registering =>
            rw [phase] at old
            cases old
          | _ =>
            rw [phase] at claims
            cases claims
        · rw [closed.refused c] at acceptable
          cases acceptable
  refused c := by
    rw [← Bool.not_eq_true]
    intro acceptable
    rcases change.handlers c with same | ⟨_, fresh⟩ | moved
    · rw [same, closed.refused c] at acceptable
      cases acceptable
    · rw [fresh] at acceptable
      cases acceptable
    · rcases moved.acceptable acceptable with old | takes
      · rw [closed.refused c] at old
        cases old
      · exact not_takesSession closed.down takes
  counter := by
    rcases change.nextSession with same | ⟨_, takes⟩
    · rw [same, closed.counter]
    · exact absurd takes (not_takesSession closed.down)

/-- Relative to an earlier state: routes inserted since then are none, and
`Registered` went to registrations that had inserted theirs. -/
structure NoneSince (before d : Daemon) : Prop where
  registers : ∀ c route, (d.handlers c).phase.registers = some route →
    (before.handlers c).phase.registers = some route
  sent : ∀ c, ∀ envelope ∈ (d.channels c).sent, ∀ session ∈ envelope.message.registeredSession,
    envelope ∈ (before.channels c).sent ∨
      ∃ route, (before.handlers c).phase.registers = some route ∧ route.ownerSession = session

theorem NoneSince.step {before : Daemon} {counter : UInt64} (since : NoneSince before d)
    (closed : Closed counter d) (holds : RegisteredMatches d) (taken : d.step label = some d') :
    NoneSince before d' where
  registers c route registers := by
    rcases (change_of_step taken).handlers c with same | ⟨_, fresh⟩ | moved
    · exact since.registers c route (same ▸ registers)
    · rw [fresh] at registers
      cases registers
    · rcases moved.registers registers with old | acceptable
      · exact since.registers c route old
      · rw [closed.refused c] at acceptable
        cases acceptable
  sent c envelope member session names := by
    have queued := queued_of_step taken c
    generalize (d'.channels c).sent = history at queued member
    cases queued with
    | kept => exact since.sent c envelope member session names
    | opened => cases member
    | @reply requestId message after phase alive =>
      rw [List.mem_append, List.mem_singleton] at member
      rcases member with old | rfl
      · exact since.sent c envelope old session names
      · obtain ⟨route, rfl, owner⟩ := holds c requestId message after session phase names
        exact .inr ⟨route, since.registers c route (by rw [phase]; rfl), owner⟩
    | @pushed _ pushed unsolicited =>
      rw [List.mem_append, List.mem_singleton] at member
      rcases member with old | rfl
      · exact since.sent c envelope old session names
      · exact absurd unsolicited (not_unsolicited_of_registered names)

/-- What every run keeps, whatever its steps. -/
structure DaemonHolds (d : Daemon) : Prop where
  absent : ∀ c, d.accepted ≤ c → d.handlers c = ⟨.absent, none⟩
  kill : KillHolds d
  registered : RegisteredMatches d

theorem DaemonHolds.run {baseDomain : String} {now : Instant}
    (ran : Run Daemon.step Unrestricted (.start baseDomain now) labels d) : DaemonHolds d := by
  refine ran.invariant DaemonHolds ⟨fun _ _ => rfl, killHolds_start baseDomain now,
    registeredMatches_start baseDomain now⟩ ?_
  intro d label d' holds _ taken
  have change := change_of_step taken
  exact ⟨fun _ later => change.absent holds.absent later, holds.kill.step taken,
    holds.registered.step change⟩

theorem Reports.run {count : Nat} (reports : Reports count d)
    (ran : Run Daemon.step Unrestricted d labels d') : Reports count d' :=
  ran.invariant (Reports count) reports fun _ _ _ reports _ taken => reports.step taken

theorem NoneSince.run {counter : UInt64} (closed : Closed counter d)
    (holds : RegisteredMatches d) (ran : Run Daemon.step Unrestricted d labels d') :
    Closed counter d' ∧ NoneSince d d' := by
  have kept := ran.invariant (fun d' => Closed counter d' ∧ RegisteredMatches d' ∧ NoneSince d d')
    ⟨closed, holds, fun _ _ registers => registers, fun _ _ member _ _ => .inl member⟩
    fun _ _ _ ⟨closed, holds, since⟩ _ taken =>
      ⟨closed.step (change_of_step taken), holds.step (change_of_step taken),
        since.step closed holds taken⟩
  exact ⟨kept.1, kept.2.2⟩

/-- After a Kill that finds no handler waiting to register what an empty registry takes, the
daemon is closed to registrations. -/
theorem DaemonHolds.closed {requestId : Option UInt64} (holds : DaemonHolds d)
    (taken : d.step (.proceed c) = some d')
    (phase : (d.handlers c).phase = .clearing requestId) (none : NoneRegistering d) :
    Closed d.shared.nextSession d' := by
  obtain ⟨_, registry, counter⟩ := cleared_of_step taken phase
  have down : d.shared.shuttingDown = true := by
    rw [← Bool.not_eq_false]
    exact fun up => holds.kill.flagged up c (.inl (by rw [phase]; rfl))
  have refused : ∀ other, (d.handlers other).phase.acceptable = false := by
    intro other
    by_cases known : other < d.accepted
    · exact none other known
    · rw [holds.absent other (Nat.le_of_not_lt known)]
      rfl
  refine ⟨(change_of_step taken).shuttingDown down, ?_, ?_, fun other => ?_, counter⟩
  · rw [registry]
    exact RouteRegistry.wellFormed_new
  · rw [registry]
    exact RouteRegistry.not_live_new
  · rw [← Bool.not_eq_true]
    intro acceptable
    rcases (change_of_step taken).handlers other with same | ⟨_, fresh⟩ | moved
    · rw [same, refused other] at acceptable
      cases acceptable
    · rw [fresh] at acceptable
      cases acceptable
    · rcases moved.acceptable acceptable with old | takes
      · rw [refused other] at old
        cases old
      · exact not_takesSession down takes

/-- An empty registry takes a registration with a port and a slug that are valid. -/
theorem registers_when_empty {requestId : Option UInt64} {port : UInt16} {slug : Option String}
    {pid : UInt32} {session : UInt64}
    (acceptable : (Phase.registering requestId port slug pid session).acceptable = true) :
    ∃ route, (RouteRegistry.new.registerWithRng port slug session pid (⟨[]⟩ : DrawStream)
      ⟨0, 0⟩).1 = .ok route := by
  simp only [Phase.acceptable, Bool.and_eq_true, decide_eq_true_eq] at acceptable
  obtain ⟨nonzero, valid⟩ := acceptable
  cases outcome : (RouteRegistry.new.registerWithRng port slug session pid (⟨[]⟩ : DrawStream)
      ⟨0, 0⟩).1 with
  | ok route => exact ⟨route, rfl⟩
  | error error =>
    have refusal :=
      (RouteRegistry.wellFormed_new.registerWithRng_error session pid ⟨0, 0⟩ error).mp outcome
    cases refusal with
    | zeroPort zero => exact absurd zero nonzero
    | heldPort _ live => exact absurd live (RouteRegistry.not_live_new _)
    | activeSlug _ _ _ _ live => exact absurd live (RouteRegistry.not_live_new _)
    | invalidSlug _ _ asked invalid =>
      rw [asked] at valid
      simp only [Option.all_some, decide_eq_true_eq] at valid
      cases valid.symm.trans invalid
    | exhausted _ _ _ full =>
      obtain ⟨active, live, _⟩ := full "amber" (by decide) "badger" (by decide)
      exact absurd live (RouteRegistry.not_live_new _)

/-- A registration that waits while the registry is cleared can go through afterwards. -/
theorem registers_after_clear {requestId : Option UInt64} (taken : d.step (.proceed c) = some d')
    (phase : (d.handlers c).phase = .clearing requestId) (known : other < d.accepted)
    (acceptable : (d.handlers other).phase.acceptable = true) :
    ∃ more v, Run Daemon.step Unrestricted d' more v ∧ ∃ route, v.shared.registry.Live route := by
  obtain ⟨_, registry, _⟩ := cleared_of_step taken phase
  have waits : d'.handlers other = d.handlers other := by
    rcases (change_of_step taken).handlers other with same | ⟨new, _⟩ | moved
    · exact same
    · exact absurd new known.ne
    · obtain rfl : c = other := Option.some.inj moved.actor
      rw [phase] at acceptable
      cases acceptable
  have running : d'.main ≠ .exited := by
    rw [main_of_actor taken rfl]
    intro exited
    simp [Daemon.step, exited] at taken
  cases registering : (d.handlers other).phase with
  | registering requestId port slug pid session =>
    rw [registering] at acceptable
    obtain ⟨route, outcome⟩ := registers_when_empty acceptable
    obtain ⟨addable, after, _⟩ := RouteRegistry.registerWithRng_ok outcome
    rw [← waits] at registering
    have stepped : ∃ v, d'.step (.register other ⟨[]⟩ ⟨0, 0⟩) = some v ∧
        v.shared.registry = RouteRegistry.new.insertRoute route := by
      unfold Daemon.step
      split
      · rename_i exited
        exact absurd exited running
      · cases whole : RouteRegistry.new.registerWithRng port slug session pid (⟨[]⟩ : DrawStream)
            ⟨0, 0⟩ with
        | mk result rest =>
          rw [whole] at outcome after
          dsimp only at outcome after
          subst outcome
          simp only [registerSection, registering, registry, whole, Option.map_some]
          exact ⟨_, rfl, after⟩
    obtain ⟨v, stepped, inserted⟩ := stepped
    refine ⟨_, v, .one trivial stepped, route, ?_⟩
    rw [inserted]
    exact (RouteRegistry.live_insertRoute addable.freeSlug).mpr (.inl rfl)
  | _ =>
    rw [registering] at acceptable
    cases acceptable

/-- **Kill is final, when nobody waits to register.** In every run `KillAccepted`
is sent at most once, with the number of routes that were live when the registry
was cleared. No route is ever live afterwards, no session is created, and
`Registered` is only sent for routes inserted before, exactly if no handler was
waiting for the registry lock at that moment with a registration that an empty
registry takes. -/
theorem kill_is_final (baseDomain : String) (now : Instant) :
    (∀ labels d, Run Daemon.step Unrestricted (.start baseDomain now) labels d →
      ∀ c other, killCounts d c ≠ [] → killCounts d other ≠ [] →
        c = other ∧ (killCounts d c).length = 1) ∧
    ∀ labels d c requestId d', Run Daemon.step Unrestricted (.start baseDomain now) labels d →
      (d.handlers c).phase = .clearing requestId → d.step (.proceed c) = some d' →
      (∀ more v, Run Daemon.step Unrestricted d' more v →
        ∀ other, ∀ count ∈ killCounts v other, count = d.shared.registry.routes.length) ∧
      (NoneRegistering d ↔ ∀ more v, Run Daemon.step Unrestricted d' more v →
        (∀ route, ¬ v.shared.registry.Live route) ∧
        v.shared.nextSession = d.shared.nextSession ∧
        ∀ other, ∀ envelope ∈ (v.channels other).sent,
          ∀ session ∈ envelope.message.registeredSession,
            envelope ∈ (d'.channels other).sent ∨ ∃ route,
              (d'.handlers other).phase.registers = some route ∧
                route.ownerSession = session) := by
  constructor
  · intro labels d ran c other answered otherAnswered
    have holds := (DaemonHolds.run ran).kill
    have nonempty := List.length_pos_of_ne_nil answered
    exact ⟨holds.unique c other (.inr answered) (.inr otherAnswered),
      Nat.le_antisymm (holds.once c) nonempty⟩
  · intro labels d c requestId d' ran phase taken
    have holds := DaemonHolds.run ran
    refine ⟨fun more v rest => ((holds.kill.reports taken phase).run rest).sent,
      fun none more v rest => ?_, fun final other known => ?_⟩
    · have closed := holds.closed taken phase none
      have matched := holds.registered.step (change_of_step taken)
      obtain ⟨closed', since⟩ := NoneSince.run closed matched rest
      exact ⟨closed'.empty, closed'.counter, since.sent⟩
    · rw [← Bool.not_eq_true]
      intro acceptable
      obtain ⟨more, v, rest, route, live⟩ := registers_after_clear taken phase known acceptable
      exact (final more v rest).1 route live

/-- Client 1 asks to kill the daemon. -/
def killRequest : List Label := [.accept, .read 1 (.ok (Envelope.new (some 2) .kill))]

/-- The daemon with one route, about to be cleared. -/
def killedDaemon : Daemon := (execute Daemon.step oneRoute killRequest).get (by decide)

theorem kill_leaves_nothing :
    ∃ v, killCounts v 1 = [1] ∧ (∀ count ∈ killCounts v 1, count = 1) ∧
      ∀ route, ¬ v.shared.registry.Live route := by
  have first : Run Daemon.step Unrestricted (.start "example.com" 0)
      (registrationLabels 0 3000 "app") oneRoute := run_to_execute _
  have asked : Run Daemon.step Unrestricted oneRoute killRequest killedDaemon := run_to_execute _
  have rest := @run_to_execute _ _ Daemon.step ((killedDaemon.step (.proceed 1)).get (by decide))
    [.snapshot 1 [0], .send 1, .proceed 1, .send 1] (by decide)
  obtain ⟨counted, final⟩ :=
    (kill_is_final "example.com" 0).2 _ _ 1 (some 2) _ (first.append asked) rfl rfl
  exact ⟨_, by decide, counted _ _ rest 1, (final.mp (by decide) _ _ rest).1⟩

/-- Client 0's Register has passed the shutdown flag and waits for the registry
lock, which client 1's Kill gets first. -/
def racedDaemon : Daemon :=
  (execute Daemon.step (.start "example.com" 0)
    ([.accept, .read 0 (.ok (Envelope.new (some 1) (.register 3000 (some "app") 42)))] ++
      killRequest)).get (by decide)

/-- After the Kill has cleared the registry, client 0 is registered in it, and
told so. -/
theorem route_registered_after_kill :
    ∃ labels d d' more v, Run Daemon.step Unrestricted (.start "example.com" 0) labels d ∧
      (d.handlers 1).phase = .clearing (some 2) ∧ d.step (.proceed 1) = some d' ∧
      Run Daemon.step Unrestricted d' more v ∧ (d'.channels 0).sent = [] ∧
      v.shared.registry.Live ⟨"app", ⟨.localhost, 3000⟩, 1, 42, 0, 0⟩ ∧
      (v.channels 0).sent = [Envelope.new (some 1)
        (.registered 1 "app" "http://127.0.0.1:3000" "https://app.example.com")] := by
  have first : Run Daemon.step Unrestricted (.start "example.com" 0) _ racedDaemon :=
    run_to_execute _
  have rest := @run_to_execute _ _ Daemon.step ((racedDaemon.step (.proceed 1)).get (by decide))
    [.register 0 ⟨[]⟩ ⟨0, 0⟩, .proceed 0, .proceed 0, .send 0] (by decide)
  exact ⟨_, _, _, _, _, first, rfl, rfl, rest, rfl, by decide, rfl⟩

end CfFw
