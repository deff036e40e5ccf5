import CfFw.StartClientSteps
import CfFw.SingleDaemon

/-! What a new client meets while an old daemon shuts down. The old daemon removes
its endpoint when its accept loop ends and gives back its lock only at the end of
`run`; a daemon that tries the lock in between is refused, with no endpoint that its
client could connect to instead. -/
namespace CfFw
open Transition

/-- `run` stands between the end of its bind and the drop of the listener, which the
accept task begins when its loop ends. -/
def Process.serves (process : Process) : Bool :=
  match process.phase with
  | .startup stage => !(RunPhase.startup stage).unbound
  | .discarding _ | .aborting _ _ => true
  | .supervising | .polling | .broadcasting _ | .finishing .shutdown | .finishing .accept =>
    match process.accept with
    | .running => true
    | _ => false
  | _ => false

/-- What ends that stretch: the process dies, its accept loop ends, or `run` gives up
what it has bound. -/
def Process.retires (process : Process) : Event → Bool
  | .crash | .acceptStops | .acceptFails _ => true
  | .fail _ =>
    match process.phase with
    | .startup .record | .startup .signals | .discarding _ => true
    | _ => false
  | .proceed =>
    match process.phase with
    | .discarding _ | .aborting .signals _ => true
    | _ => false
  | _ => false

/-- `acquire_daemon` of the process has found the lock held. -/
def Process.refused (process : Process) : Bool :=
  match process.phase with
  | .returned (.error .daemonAlreadyRunning)
  | .exited (.returned (.error .daemonAlreadyRunning)) => true
  | _ => false

/-- `start_and_connect` has spawned a daemon and has not returned. -/
def ClientPhase.inside : ClientPhase → Bool
  | .polling _ | .looking _ | .timing _ | .sleeping _ _ | .collecting _ => true
  | _ => false

/-- A daemon whose client waits for it is refused only while the holder of the lock
serves, and as long as that client waits no daemon stops to serve. -/
def HolderServes (world : World) : WorldLabel → Prop
  | .host (.act q event) => ∀ c p, (world.clients c).child = some p →
      (world.clients c).phase.inside = true →
      (p = q → event = .proceed → (world.host.processes p).phase = .startup .acquire →
        ∀ holder, world.host.files.daemonLock = some holder →
          (world.host.processes holder).serves = true) ∧
      ((world.host.processes p).refused = true → (world.host.processes q).serves = true →
        (world.host.processes q).retires event = false)
  | _ => True

variable {world after before : World} {c : ClientId} {p holder : Pid} {label : WorldLabel}
  {path : String} {endpoint : Option File} {labels past rest : List WorldLabel}
  {allowed : World → WorldLabel → Prop} {host : Host} {client : Client} {live : Nat → Bool}
  {files files' : Files} {process process' : Process}

/-! ### A daemon that serves -/

theorem Process.Keeps.not_dropping (keeps : process.Keeps p files)
    (serves : process.serves = true) : process.dropsListener = false := by
  by_contra drops
  have late := keeps.dropping (Bool.not_eq_false _ ▸ drops)
  unfold Process.serves at serves
  unfold dropsListener at drops
  split at serves <;> simp_all [RunPhase.starting]
  all_goals split at serves <;> simp_all

/-- A serving process goes on serving with every step that does not retire it. -/
theorem ProcessStep.serves {event : Event} (keeps : process.Keeps p files)
    (serves : process.serves = true) (stays : process.retires event = false)
    (step : ProcessStep p live files process event files' process') : process'.serves = true := by
  cases step with
  | restricted | replaced | recorded | watched | spawned | stabilized => rfl
  | lost phase empty =>
    -- The socket of a process in its bind stands at the endpoint path.
    obtain ⟨listener, held, whole⟩ := keeps.binding (by rw [phase]; rfl)
    have placed := keeps.onPath listener held (by rw [whole]; nofun)
    rw [empty] at placed
    cases placed
  | @failed stage error phase =>
    cases stage with
    | restrict | spawn | stabilize => rfl
    | record | signals => simp [Process.retires, phase] at stays
    | _ => simp [Process.serves, phase, RunPhase.unbound] at serves
  | aborted phase follows =>
    rcases follows with ⟨-, rfl⟩ | ⟨-, rfl⟩ | ⟨rfl, -⟩
    · rfl
    · rfl
    · simp [Process.retires, phase] at stays
  | discarded phase | undiscarded phase => simp [Process.retires, phase] at stays
  | crashed => cases stays
  | halted phase | looked phase | quiet phase | exitSeen phase | pollFailed phase
  | broadcasted phase | childStopped phase => simpa [Process.serves, phase] using serves
  | acceptJoined phase ended => simp [Process.serves, phase, ended] at serves
  | joined phase later =>
    rcases later with rfl | rfl <;> simp [Process.serves, phase] at serves
  | socketInspected drops | socketRemoved drops | removalFailed drops | socketClosed drops =>
    simp [keeps.not_dropping serves] at drops
  | task happened =>
    cases happened with
    | acceptFailed | acceptStopped => cases stays
    | @acceptEnded result leaving =>
      have drops : process.dropsListener = true := by simp [Process.dropsListener, leaving]
      simp [keeps.not_dropping serves] at drops
    | _ => simpa [Process.serves] using serves
  | acquired phase | refused phase | resolved phase | reserved phase | normalized phase
  | vacant phase | occupied phase | foreign phase | active phase | stale phase | unlinked phase
  | vanished phase | occupiedAgain phase | bound phase | finished phase | released phase
  | exited phase => simp [Process.serves, phase, RunPhase.unbound] at serves

/-- A process that serves has its listener, untouched. -/
def Process.Open (process : Process) : Prop :=
  process.serves = true → ∃ listener, process.listener = some listener ∧ listener.stage = .whole

theorem Process.Open.step {event : Event} (opened : process.Open) (keeps : process.Keeps p files)
    (step : ProcessStep p live files process event files' process') : process'.Open := by
  intro serves
  cases step with
  | bound => exact ⟨_, rfl, rfl⟩
  | @recorded inode phase =>
    obtain ⟨listener, held, whole⟩ := keeps.binding (by rw [phase]; rfl)
    exact ⟨{ listener with recorded := some inode }, by simp [held], whole⟩
  | restricted phase | replaced phase | watched phase | spawned phase | stabilized phase
  | aborted phase => exact opened (by simp [Process.serves, phase, RunPhase.unbound])
  | @failed stage error phase =>
    cases stage with
    | restrict | spawn | stabilize =>
      exact opened (by simp [Process.serves, phase, RunPhase.unbound])
    | _ => cases serves
  | halted phase | looked phase | quiet phase | exitSeen phase | pollFailed phase
  | broadcasted phase | childStopped phase =>
    exact opened (by simpa [Process.serves, phase] using serves)
  | joined phase later follows => rcases follows with rfl | rfl <;> cases serves
  | socketInspected drops | socketRemoved drops | removalFailed drops | socketClosed drops =>
    simp [keeps.not_dropping serves] at drops
  | task happened =>
    rw [happened.listener]
    apply opened
    cases happened with
    | acceptFailed | acceptStopped | acceptEnded =>
      simp only [Process.serves] at serves
      split at serves <;> simp_all [Process.serves]
    | _ => simpa [Process.serves] using serves
  | _ => cases serves

/-- Every process of a run that serves has its listener. -/
theorem Host.opened {allowed : Host → HostLabel → Prop} {labels : List HostLabel}
    (run : Run Host.step allowed (Host.start path endpoint) labels host) :
    ∀ p, (host.processes p).Open := by
  refine run.invariantAlong (fun host : Host => ∀ p, (host.processes p).Open) (fun _ => nofun) ?_
  intro past before label after prior opened _ taken p
  cases hostStep_of_step taken with
  | launched =>
    rcases Decidable.em (p = before.launched) with rfl | other
    · have started : Process.started.Open := nofun
      simpa using started
    · simpa [other] using opened p
  | @acted q event files process done =>
    rcases Decidable.em (p = q) with rfl | other
    · simpa using (opened p).step (Host.keeps prior p) (processStep_of_step done)
    · simpa [other] using opened p

theorem Host.serves_stays {label : HostLabel} {later : Host} (fresh : host.Fresh)
    (keeps : (host.processes p).Keeps p host.files) (taken : host.step label = some later)
    (serves : (host.processes p).serves = true)
    (stays : ∀ event, label = .act p event → (host.processes p).retires event = false) :
    (later.processes p).serves = true := by
  apply Host.process_stays (fun process => process.serves = true) fresh taken nofun serves
  intro event files process same done
  exact (processStep_of_step done).serves keeps serves (stays event same)

/-- As long as a daemon serves, connects to the endpoint are answered. -/
theorem Host.answers_of_serves (fresh : host.Fresh)
    (keeps : (host.processes p).Keeps p host.files) (opened : (host.processes p).Open)
    (serves : (host.processes p).serves = true) : host.answers = true := by
  obtain ⟨listener, held, whole⟩ := opened serves
  have placed := keeps.onPath listener held (by rw [whole]; nofun)
  have launched : p < host.launched := fresh.running fun unborn => by
    rw [unborn] at held
    cases held
  have live : host.live listener.inode = true := by
    apply List.any_eq_true.mpr
    exact ⟨p, List.mem_range.mpr launched, by simp [held]⟩
  simp [Host.answers, Host.reached, placed, live]

/-- The other direction: nobody answers while the holder of the lock has no socket
open, before its bind and after the drop of its listener. -/
theorem Host.silent_of_closed (keeps : ∀ p, (host.processes p).Keeps p host.files)
    (lock : host.files.daemonLock = some holder) (closed : (host.processes holder).listener = none) :
    host.answers = false := by
  have quiet : ∀ inode, host.live inode = false := by
    intro inode
    by_contra answered
    obtain ⟨q, -, guarded, listens⟩ := Host.guarded_of_live keeps (Bool.not_eq_false _ ▸ answered)
    have holds : some holder = some q := lock.symm.trans ((keeps q).guard.mp guarded)
    cases holds
    simp [Process.listens, closed] at listens
  cases file : host.files.endpoint with
  | none => simp [Host.answers, Host.reached, file]
  | some file' => cases file' <;> simp [Host.answers, Host.reached, file, quiet]

/-! ### A daemon that was refused -/

/-- It ends with that error, unless it is killed before. -/
theorem ProcessStep.refused_stays {event : Event}
    (step : ProcessStep p live files process event files' process')
    (refused : process.refused = true ∨ process.phase = .exited .crashed)
    (alive : process.alive = true) :
    process'.refused = true ∨ process'.phase = .exited .crashed := by
  have phase : process.phase = .returned (.error .daemonAlreadyRunning) := by
    rcases refused with refused | crashed
    · unfold Process.refused at refused
      split at refused <;> simp_all [Process.alive]
    · simp [Process.alive, crashed] at alive
  cases step with
  | exited here =>
    rw [phase] at here
    cases here
    exact .inl rfl
  | crashed => exact .inr rfl
  | socketInspected | socketRemoved | removalFailed | socketClosed =>
    exact .inl (by simp [Process.refused, phase])
  | task happened => exact .inl (by simp [Process.refused, happened.phase, phase])
  | acquired here | refused here | resolved here | reserved here | normalized here | vacant here
  | occupied here | foreign here | active here | stale here | unlinked here | vanished here
  | occupiedAgain here | bound here | restricted here | lost here | replaced here | recorded here
  | watched here | spawned here | stabilized here | failed here | discarded here | undiscarded here
  | aborted here | halted here | looked here | quiet here | exitSeen here | pollFailed here
  | broadcasted here | childStopped here | acceptJoined here | joined here | finished here
  | released here =>
    rw [phase] at here
    cases here

theorem Host.refused_stays {label : HostLabel} {later : Host} (fresh : host.Fresh)
    (taken : host.step label = some later)
    (refused : (host.processes p).refused = true ∨ (host.processes p).phase = .exited .crashed) :
    (later.processes p).refused = true ∨ (later.processes p).phase = .exited .crashed := by
  apply Host.process_stays (fun process => process.refused = true ∨ process.phase = .exited .crashed)
    fresh taken ?_ refused
  · intro event files process _ done
    exact (processStep_of_step done).refused_stays refused (alive_of_step done)
  · rintro (unborn | unborn) <;> cases unborn

/-! ### The clients -/

/-- The client is past `start_and_connect`, or was killed. -/
def ClientPhase.left : ClientPhase → Bool
  | .registering _ | .awaiting _ | .failing _ | .finished _ | .killed => true
  | _ => false

/-- What a client knows of the daemon that it has spawned. -/
structure Client.Linked (host : Host) (client : Client) : Prop where
  child : ∀ p, client.child = some p → p < host.launched
  ahead : client.phase.ahead = true → client.child = none ∧ client.exit = none
  waiting : client.phase.waiting = true → client.exit = none
  collecting : ∀ latest, client.phase = .collecting latest → client.exit ≠ none
  exit : ∀ exit, client.exit = some exit → ∃ p, client.child = some p ∧
    (host.processes p).phase = .exited exit

/-- A process that has ended stays as it is, and so does every count of launches. -/
theorem Host.step_later {label : HostLabel} {later : Host} (fresh : host.Fresh)
    (taken : host.step label = some later) : host.launched ≤ later.launched ∧
      ∀ p exit, (host.processes p).phase = .exited exit → (later.processes p).phase = .exited exit := by
  constructor
  · cases hostStep_of_step taken with
    | launched => exact Nat.le_succ _
    | acted => exact le_rfl
  · intro p exit ended
    apply Host.process_stays (fun process => process.phase = .exited exit) fresh taken nofun ended
    intro event files process _ done
    have alive := alive_of_step done
    simp [Process.alive, ended] at alive

theorem Client.Linked.later (linked : client.Linked host) {later : Host}
    (launched : host.launched ≤ later.launched)
    (ended : ∀ p exit, (host.processes p).phase = .exited exit →
      (later.processes p).phase = .exited exit) : client.Linked later where
  child p spawned := Nat.lt_of_lt_of_le (linked.child p spawned) launched
  ahead := linked.ahead
  waiting := linked.waiting
  collecting := linked.collecting
  exit exit seen := by
    obtain ⟨p, spawned, gone⟩ := linked.exit exit seen
    exact ⟨p, spawned, ended p exit gone⟩

/-- The stretches of `run_start` do not overlap. -/
theorem ClientPhase.waiting_of_ahead {phase : ClientPhase} (ahead : phase.ahead = true) :
    phase.waiting = false ∧ ∀ latest, phase ≠ .collecting latest := by
  cases phase with
  | absent | connecting | checking | locking | reconnecting | spawning => exact ⟨rfl, nofun⟩
  | _ => cases ahead

theorem ClientPhase.ahead_of_waiting {phase : ClientPhase} (waiting : phase.waiting = true) :
    phase.ahead = false ∧ ∀ latest, phase ≠ .collecting latest := by
  cases phase with
  | polling | looking | timing | sleeping => exact ⟨rfl, nofun⟩
  | _ => cases waiting

theorem Client.Linked.move (linked : client.Linked host) {next : ClientPhase}
    (ahead : next.ahead = true → client.phase.ahead = true)
    (waiting : next.waiting = true → client.phase.waiting = true)
    (collecting : ∀ latest, next ≠ .collecting latest) :
    { client with phase := next }.Linked host where
  child := linked.child
  ahead early := linked.ahead (ahead early)
  waiting late := linked.waiting (waiting late)
  collecting latest phase := absurd phase (collecting latest)
  exit := linked.exit

/-- A move to a phase after the loop. -/
theorem Client.Linked.moveOut (linked : client.Linked host) {next : ClientPhase}
    (left : next.left = true) : { client with phase := next }.Linked host := by
  cases next with
  | registering | awaiting | failing | finished | killed => exact linked.move nofun nofun nofun
  | _ => cases left

private theorem left_firstReply (message : ServerMessage) (debug : String) :
    (World.firstReply message debug).left = true := by
  cases message <;> rfl

/-- A step of the client itself. -/
theorem Client.Linked.step {event : ClientEvent} (linked : (world.clients c).Linked world.host)
    {later : Host} (step : ClientStep world c event client later) : client.Linked later := by
  cases step with
  | @advanced event next ahead early =>
    obtain ⟨still, free⟩ := ClientPhase.waiting_of_ahead early
    exact linked.move (fun _ => ahead) (fun waits => by simp [still] at waits) free
  | spawned phase launched =>
    cases launched
    have nothing := linked.ahead (by rw [phase]; rfl)
    refine ⟨?_, nofun, fun _ => nothing.2, nofun, ?_⟩
    · rintro p ⟨⟩
      exact Nat.lt_succ_self _
    · intro exit seen
      simp [nothing.2] at seen
  | unanswered phase => exact linked.move nofun (fun _ => by rw [phase]; rfl) nofun
  | notSeen phase => exact linked.move nofun (fun _ => by rw [phase]; rfl) nofun
  | @paused next waiting still =>
    obtain ⟨late, free⟩ := ClientPhase.ahead_of_waiting still
    exact linked.move (fun early => by simp [late] at early) (fun _ => waiting) free
  | exitSeen phase seen =>
    refine ⟨linked.child, nofun, nofun, nofun, ?_⟩
    rintro other ⟨⟩
    exact phase_of_childExit seen
  | replied => exact linked.moveOut (left_firstReply _ _)
  | reached | refused | waitFailed | timedOut | captured | capturedLate | written | lost | reported
  | interrupted => exact linked.moveOut rfl

/-- Every client of a run is linked to the daemon it has spawned. -/
theorem World.linked (run : Run World.step allowed (World.start path endpoint) labels world) :
    world.host.Fresh ∧ ∀ c, (world.clients c).Linked world.host := by
  refine run.invariant (fun world : World => world.host.Fresh ∧ ∀ c, (world.clients c).Linked world.host)
    ⟨fun _ _ => rfl, fun _ => ⟨nofun, fun _ => ⟨rfl, rfl⟩, nofun, nofun, nofun⟩⟩ ?_
  rintro before label after ⟨fresh, linked⟩ _ taken
  have step := worldStep_of_step taken
  have later : after.host.Fresh ∧ ∀ client : Client, client.Linked before.host →
      client.Linked after.host := by
    rcases step.daemons with same | ⟨_, taken⟩
    · rw [same]
      exact ⟨fresh, fun _ => id⟩
    · obtain ⟨launched, ended⟩ := Host.step_later fresh taken
      exact ⟨fresh.step taken, fun _ linked => linked.later launched ended⟩
  refine ⟨later.1, fun c => ?_⟩
  cases step with
  | host => exact later.2 _ (linked c)
  | @client d event client host startupLock step =>
    rcases Decidable.em (c = d) with rfl | other
    · simpa using (linked c).step step
    · simpa [other] using later.2 _ (linked c)
  | @accepted p d =>
    have kept := later.2 _ (linked c)
    rcases Decidable.em (c = d) with rfl | other
    · simpa using ⟨kept.child, kept.ahead, kept.waiting, kept.collecting, kept.exit⟩
    · simpa [other] using kept
  | ticked => exact later.2 _ (linked c)

/-! ### A start during the shutdown -/

theorem ClientPhase.outside_of_ahead {phase : ClientPhase} (ahead : phase.ahead = true) :
    phase.inside = false := by
  cases phase with
  | absent | connecting | checking | locking | reconnecting | spawning => rfl
  | _ => cases ahead

/-- Inside `start_and_connect` a client keeps the daemon that it has spawned. -/
theorem ClientStep.inside {event : ClientEvent} {later : Host}
    (step : ClientStep world c event client later) (running : p < world.host.launched)
    (child : client.child = some p) (inside : client.phase.inside = true) :
    (world.clients c).child = some p ∧ (world.clients c).phase.inside = true ∧
      later = world.host := by
  cases step with
  | advanced _ early => simp [ClientPhase.outside_of_ahead early] at inside
  | spawned =>
    cases child
    exact absurd running (Nat.lt_irrefl _)
  | unanswered phase | exitSeen phase | notSeen phase =>
    exact ⟨child, by rw [phase]; rfl, rfl⟩
  | @paused next waiting =>
    refine ⟨child, ?_, rfl⟩
    cases phase : (world.clients c).phase with
    | polling | looking | timing | sleeping => rfl
    | _ => simp [phase, ClientPhase.waiting] at waiting
  | @replied inode message debug => cases message <;> cases inside
  | reached | refused | waitFailed | timedOut | captured | capturedLate | written | lost | reported
  | interrupted => cases inside

/-- A client that is inside after a step was inside before it. -/
theorem World.inside_before (taken : world.step label = some after)
    (running : p < world.host.launched) (child : (after.clients c).child = some p)
    (inside : (after.clients c).phase.inside = true) :
    (world.clients c).child = some p ∧ (world.clients c).phase.inside = true := by
  cases worldStep_of_step taken with
  | host | ticked => exact ⟨child, inside⟩
  | @client d event client host startupLock step =>
    rcases Decidable.em (c = d) with rfl | other
    · simp only [Function.update_self] at child inside
      obtain ⟨before, within, -⟩ := step.inside running child inside
      exact ⟨before, within⟩
    · simpa [other] using And.intro child inside
  | @accepted q d =>
    rcases Decidable.em (c = d) with rfl | other
    · simpa using And.intro child inside
    · simpa [other] using And.intro child inside

/-- The daemon `p` was refused while `holder` held the lock, and if client `c` still waits
for it, then `holder` serves. -/
structure World.Covers (world : World) (c : ClientId) (p holder : Pid) : Prop where
  refused : (world.host.processes p).refused = true ∨
    (world.host.processes p).phase = .exited .crashed
  serves : (world.clients c).child = some p → (world.clients c).phase.inside = true →
    (world.host.processes p).refused = true → (world.host.processes holder).serves = true

theorem World.Covers.step (covers : world.Covers c p holder) (fresh : world.host.Fresh)
    (keeps : (world.host.processes holder).Keeps holder world.host.files)
    (permitted : HolderServes world label) (taken : world.step label = some after) :
    after.Covers c p holder := by
  have running : p < world.host.launched := fresh.running fun unborn => by
    rcases covers.refused with refused | crashed
    · rw [unborn] at refused
      cases refused
    · rw [unborn] at crashed
      cases crashed
  have step := worldStep_of_step taken
  have later : (after.host.processes p).refused = true ∨
      (after.host.processes p).phase = .exited .crashed := by
    rcases step.daemons with same | ⟨_, moved⟩
    · rw [same]
      exact covers.refused
    · exact Host.refused_stays fresh moved covers.refused
  refine ⟨later, fun child inside refused => ?_⟩
  obtain ⟨before, within⟩ := World.inside_before taken running child inside
  have earlier : (world.host.processes p).refused = true := by
    refine covers.refused.resolve_right fun crashed => ?_
    have gone : (after.host.processes p).phase = .exited .crashed := by
      rcases step.daemons with same | ⟨_, moved⟩
      · rwa [same]
      · exact (Host.step_later fresh moved).2 p _ crashed
    simp [Process.refused, gone] at refused
  have serves := covers.serves before within earlier
  cases step with
  | @host label host moved =>
    refine Host.serves_stays fresh keeps moved serves ?_
    rintro event rfl
    exact (permitted c p before within).2 earlier serves
  | client step =>
    cases step with
    | spawned _ launched => exact Host.serves_stays fresh keeps launched serves nofun
    | _ => exact serves
  | @accepted q d host moved =>
    refine Host.serves_stays fresh keeps moved serves ?_
    rintro event ⟨⟩
    rfl
  | ticked => exact serves

/-- `acquire_daemon` of process `p` is about to find the lock held. -/
def World.Refuses (world : World) (p : Pid) : Prop :=
  (world.host.processes p).phase = .startup .acquire ∧ world.host.files.daemonLock ≠ none

/-- The step on which `p` is refused. -/
theorem World.Refuses.covers (refuses : world.Refuses p)
    (permitted : HolderServes world (.host (.act p .proceed)))
    (taken : world.step (.host (.act p .proceed)) = some after) :
    ∃ holder, after.Covers c p holder := by
  obtain ⟨phase, held⟩ := refuses
  obtain ⟨holder, lock⟩ := Option.ne_none_iff_exists'.mp held
  have done : (world.host.processes p).step p world.host.live world.host.files .proceed =
      some (world.host.files,
        { world.host.processes p with phase := .returned (.error .daemonAlreadyRunning) }) := by
    simp [Process.step, phase, proceed, proceedStage, lock, Process.failAt]
  simp only [World.step, Host.step, done, Option.map_some, Option.some.injEq] at taken
  subst taken
  refine ⟨holder, .inl (by simp [Process.refused]), fun child inside _ => ?_⟩
  have serves := (permitted c p child inside).1 rfl rfl phase holder lock
  have other : holder ≠ p := by
    rintro rfl
    simp [Process.serves, phase, RunPhase.unbound] at serves
  simpa [other] using serves

/-- **No start fails on a lock without an endpoint.** Take any run in which a daemon that
a client waits for is refused only by a holder that serves, and in which no daemon stops
to serve as long as the client of a refused daemon waits. Then from the refusal on, and up
to the step by which `start_and_connect` of that client returns, the endpoint answers; a
client that fails because of the refusal had made its last connect before the endpoint
was bound, since every later one reaches the endpoint. -/
theorem start_survives_shutdown
    (first : Run World.step HolderServes (World.start path endpoint) past before)
    (refuses : before.Refuses p)
    (second : Run World.step HolderServes before (.host (.act p .proceed) :: rest) world)
    (child : (world.clients c).child = some p)
    (refused : (world.host.processes p).refused = true)
    (inside : (world.clients c).phase.inside = true) :
    world.host.answers = true ∧
      ∀ event after, world.step (.client c event) = some after → after.host.answers = true ∧
        (event = .connect → ∃ inode, (after.clients c).phase = .registering inode) := by
  obtain ⟨middle, one, others⟩ := @Run.split _ _ _ _ _ _ [_] rest second
  obtain ⟨permitted, taken⟩ := one.of_one
  obtain ⟨holder, covered⟩ := refuses.covers permitted taken
  have covers : world.Covers c p holder := by
    refine others.invariantAlong (fun world : World => world.Covers c p holder) covered ?_
    intro more state label later prior covers permitted taken
    obtain ⟨hostLabels, daemons⟩ := World.daemonRun ((first.append one).append prior)
    exact covers.step (Host.fresh daemons) (Host.keeps daemons holder) permitted taken
  obtain ⟨hostLabels, daemons⟩ := World.daemonRun (first.append second)
  have answers : world.host.answers = true :=
    Host.answers_of_serves (Host.fresh daemons) (Host.keeps daemons holder)
      (Host.opened daemons holder) (covers.serves child inside refused)
  refine ⟨answers, fun event after taken => ?_⟩
  cases worldStep_of_step taken with
  | client step =>
    cases step with
    | advanced ahead => simp [ClientPhase.outside_of_ahead ahead] at inside
    | @reached inode => exact ⟨answers, fun _ => ⟨inode, by simp⟩⟩
    | spawned phase =>
      rw [phase] at inside
      cases inside
    | unanswered _ silent => simp [Host.answers, silent] at answers
    | _ => exact ⟨answers, nofun⟩

/-- A test that implies the condition. -/
def testHolder (world : World) : WorldLabel → Bool
  | .host (.act p event) =>
    world.host.files.daemonLock.all (fun holder => (world.host.processes holder).serves ||
      match (world.host.processes p).phase with
      | .startup .acquire => false
      | _ => true) &&
    (!(world.host.processes p).serves || !(world.host.processes p).retires event)
  | _ => true

private theorem holderServes_of_test (world : World) (label : WorldLabel)
    (tested : testHolder world label = true) : HolderServes world label := by
  unfold HolderServes
  split
  · rename_i p event
    simp only [testHolder, Bool.and_eq_true, Bool.or_eq_true, Bool.not_eq_true'] at tested
    intro c q child inside
    constructor
    · rintro rfl rfl phase holder lock
      simpa [lock, phase] using tested.1
    · intro _ serves
      simpa [serves] using tested.2
  · trivial

/-- What client `c` does until it has spawned a daemon. -/
def spawnLabels (c : ClientId) : List WorldLabel :=
  [.client c .start, .client c .connect, .client c .proceed, .client c .proceed,
    .client c .connect, .client c .proceed]

/-- Client 0 polls while the daemon 0, started by hand, is about to bind its endpoint,
which it does before the daemon of the client tries the lock. -/
def lateBindLabels : List WorldLabel :=
  ((startupLabels 0 7).take 6).map .host ++ spawnLabels 0 ++
    [.client 0 .connect, .host (.act 0 (.bind 7)), .host (.act 0 .proceed),
      .host (.act 0 .proceed)]

/-- The daemon is refused and exits, and its client sees that. -/
def lockedOutLabels (c : ClientId) : List WorldLabel :=
  [.host (.act 1 .proceed), .host (.act 1 .exit), .client c .proceed]

/-- The machine when the daemon tries the lock. -/
def lateBindWorld : World :=
  (execute World.step (World.start socketPath none) lateBindLabels).get (by decide)

/-- The machine when the client has given up. -/
def lateBindFailure : World := (execute World.step lateBindWorld (lockedOutLabels 0)).get (by decide)

theorem start_survives_shutdown_of_bound :
    (lateBindFailure.clients 0).exit = some (.returned (.error .daemonAlreadyRunning)) ∧
      lateBindFailure.host.answers = true := by
  have first : Run World.step HolderServes (World.start socketPath none) lateBindLabels
      lateBindWorld := run_of_executeChecked holderServes_of_test rfl
  have second : Run World.step HolderServes lateBindWorld (lockedOutLabels 0) lateBindFailure :=
    run_of_executeChecked holderServes_of_test rfl
  have refuses : lateBindWorld.Refuses 1 := ⟨rfl, nofun⟩
  have child : (lateBindFailure.clients 0).child = some 1 := rfl
  exact ⟨rfl, (start_survives_shutdown first refuses second child rfl rfl).1⟩

/-- Client 0 starts the daemon 0 and registers with it. -/
def firstClientLabels : List WorldLabel :=
  spawnLabels 0 ++ (startupLabels 0 7).tail.map .host ++
    [.client 0 .connect, .accept 0 0, .client 0 .written,
      .client 0 (.reply (.registered 1 "app" "http://127.0.0.1:3000" "https://app.example.com") "")]

/-- The daemon is told to stop by `fw kill`, ends its accept loop, removes its endpoint
and waits for `cloudflared`. -/
def oldShutdownLabels : List WorldLabel :=
  [.host (.act 0 .proceed), .host (.act 0 .killed), .host (.act 0 (.polled .running)),
    .host (.act 0 .proceed), .host (.act 0 .acceptStops), .host (.act 0 (.inspectSocket true)),
    .host (.act 0 (.removeSocket true)), .host (.act 0 .closeSocket)]

/-- The machine when the daemon of client 1 tries the lock. -/
def shutdownWorld : World :=
  (execute World.step (World.start socketPath none)
    (firstClientLabels ++ oldShutdownLabels ++ spawnLabels 1)).get (by decide)

/-- Client 1 looks for the endpoint, sees the exit, reads why and gives up. -/
def secondClientLabels : List WorldLabel :=
  [.host (.act 1 .proceed), .host (.act 1 .exit), .client 1 .connect, .client 1 .proceed,
    .client 1 (.captured true [(Exit.returned (.error .daemonAlreadyRunning)).stderr]),
    .client 1 (.report true)]

/-- The machine when client 1 has given up. -/
def refusedWorld : World := (execute World.step shutdownWorld secondClientLabels).get (by decide)

/-- A client fails on the lock of a daemon that is going down: its own daemon was
refused while no endpoint answered, and none answers when it gives up. -/
theorem start_fails_on_old_lock :
    ∃ past before rest after p c error,
      Run World.step Unrestricted (World.start socketPath none) past before ∧ before.Refuses p ∧
      before.host.answers = false ∧
      Run World.step Unrestricted before (.host (.act p .proceed) :: rest) after ∧
      (after.clients c).child = some p ∧
      (after.clients c).exit = some (.returned (.error .daemonAlreadyRunning)) ∧
      (after.clients c).phase = .finished (.error (.reported error)) ∧
      after.host.answers = false := by
  have first : Run World.step Unrestricted (World.start socketPath none)
      (firstClientLabels ++ oldShutdownLabels ++ spawnLabels 1) shutdownWorld := run_to_execute _
  have second : Run World.step Unrestricted shutdownWorld secondClientLabels refusedWorld :=
    run_to_execute _
  exact ⟨_, _, _, _, 1, 1, _, first, ⟨rfl, nofun⟩, rfl, second, rfl, rfl, rfl, rfl⟩

end CfFw
