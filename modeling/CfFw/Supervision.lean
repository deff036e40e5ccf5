import CfFw.LifecycleSteps

/-! Whether a daemon outlives the tasks that serve its endpoint and its proxy
listener. The supervising loop looks at the root token and at `cloudflared` only,
and neither task cancels the token when it ends, so the end of a task is noticed
exactly as far as the token was cancelled before. -/
namespace CfFw
open Transition

/-- Nothing accepts connections any more at the endpoint or at the proxy port. -/
def Process.servingEnded (process : Process) : Bool :=
  process.accept.stopped || process.proxy.stopped

/-- `run` is in its supervising loop. -/
def RunPhase.looping : RunPhase → Bool
  | .supervising | .polling | .broadcasting _ => true
  | _ => false

/-- A whole iteration of the loop of process `p` lies between two states: the loop
is at its head in both, and `cloudflared` was polled in between. -/
def Iterates (p : Pid) (before : Host) (labels : List HostLabel) (after : Host) : Prop :=
  (before.processes p).phase = .supervising ∧ (after.processes p).phase = .supervising ∧
    ∃ outcome, .act p (.polled outcome) ∈ labels

/-- The accept of one of the two tasks fails, which ends the task. -/
def Event.failsToAccept : Event → Bool
  | .acceptFails _ | .proxyFails _ => true
  | _ => false

/-- Accepting connections fails only after the root token was cancelled. -/
def FailsAfterShutdown (host : Host) : HostLabel → Prop
  | .launch => True
  | .act p event => event.failsToAccept = true → (host.processes p).cancelled = true

instance (host : Host) : (label : HostLabel) → Decidable (FailsAfterShutdown host label)
  | .launch => .isTrue trivial
  | .act _ _ => inferInstanceAs (Decidable (_ = true → _ = true))

variable {live : Nat → Bool} {files files' : Files} {process process' : Process} {event : Event}
  {path : String} {endpoint : Option File} {labels iteration : List HostLabel}
  {host before after : Host} {p : Pid}
  {allowed : Host → HostLabel → Prop}

/-! ### The tasks of a process -/

/-- Both tasks are started before the loop, and neither ends before the token is
cancelled. -/
structure Process.Supervised (process : Process) : Prop where
  noticed : process.servingEnded = true → process.cancelled = true
  proxy : process.phase.looping = true ∨ process.phase = .startup .spawn ∨
    process.phase = .startup .stabilize → process.proxy ≠ .unspawned
  accept : process.phase.looping = true → process.accept ≠ .unspawned

theorem Process.Supervised.serving (supervised : process.Supervised)
    (looping : process.phase.looping = true) (running : process.cancelled = false) :
    process.accept = .running ∧ process.proxy = .running := by
  have served : process.servingEnded = false := by
    by_contra ended
    simp [supervised.noticed (Bool.not_eq_false _ ▸ ended)] at running
  obtain ⟨accept, proxy⟩ := Bool.or_eq_false_iff.mp served
  have accepting := supervised.accept looping
  have proxying := supervised.proxy (.inl looping)
  constructor
  · cases task : process.accept with
    | running => rfl
    | unspawned => exact absurd task accepting
    | leaving | ended => simp [task, Task.stopped] at accept
  · cases task : process.proxy with
    | running => rfl
    | unspawned => exact absurd task proxying
    | leaving | ended => simp [task, Task.stopped] at proxy

/-- What a step leaves when it touches neither task and does not enter the loop. -/
theorem Process.Supervised.move (supervised : process.Supervised)
    (accept : process'.accept = process.accept) (proxy : process'.proxy = process.proxy)
    (cancelled : process.cancelled = true → process'.cancelled = true)
    (phase : process'.phase.looping = true ∨ process'.phase = .startup .spawn ∨
      process'.phase = .startup .stabilize →
        process.proxy ≠ .unspawned ∧ (process'.phase.looping = true → process.accept ≠ .unspawned)) :
    process'.Supervised where
  noticed ended := cancelled (supervised.noticed (by rwa [servingEnded, ← accept, ← proxy]))
  proxy entered := proxy ▸ (phase entered).1
  accept looping := accept ▸ (phase (.inl looping)).2 looping

theorem Process.Supervised.task (supervised : process.Supervised)
    (happened : TaskEvent process event process')
    (failures : event.failsToAccept = true → process.cancelled = true) : process'.Supervised := by
  have looping : process'.phase = process.phase := happened.phase
  cases happened with
  | accepted => exact supervised
  | acceptFailed =>
    exact ⟨fun _ => failures rfl, supervised.proxy, fun _ => nofun⟩
  | acceptStopped _ cancelled => exact ⟨fun _ => cancelled, supervised.proxy, fun _ => nofun⟩
  | acceptEnded leaving =>
    have cancelled := supervised.noticed (by simp [servingEnded, leaving, Task.stopped])
    exact ⟨fun _ => cancelled, supervised.proxy, fun _ => nofun⟩
  | proxyFailed => exact ⟨fun _ => failures rfl, fun _ => nofun, supervised.accept⟩
  | proxyStopped _ cancelled => exact ⟨fun _ => cancelled, fun _ => nofun, supervised.accept⟩
  | signalled | idleExpired | killed => exact ⟨fun _ => rfl, supervised.proxy, supervised.accept⟩
  | signalsStopped | idleStopped =>
    exact ⟨supervised.noticed, supervised.proxy, supervised.accept⟩

/-- One step of a process: the loop is entered after both tasks are started, and
the rest of `run` touches neither. -/
theorem Process.Supervised.step (supervised : process.Supervised)
    (step : ProcessStep p live files process event files' process')
    (failures : event.failsToAccept = true → process.cancelled = true) : process'.Supervised := by
  have cancelled := step.cancelled
  cases step with
  | task happened => exact supervised.task happened failures
  | watched =>
    refine ⟨fun ended => supervised.noticed ?_, fun _ => nofun, nofun⟩
    rcases (Bool.or_eq_true _ _).mp ended with accept | proxy
    · exact (Bool.or_eq_true _ _).mpr (.inl accept)
    · cases proxy
  | spawned phase =>
    exact supervised.move rfl rfl id fun _ => ⟨supervised.proxy (.inr (.inl phase)), nofun⟩
  | stabilized phase =>
    have proxied := supervised.proxy (.inr (.inr phase))
    refine ⟨fun ended => supervised.noticed ?_, fun _ => proxied, fun _ => nofun⟩
    rcases (Bool.or_eq_true _ _).mp ended with accept | proxy
    · cases accept
    · exact (Bool.or_eq_true _ _).mpr (.inr proxy)
  | looked phase | quiet phase | exitSeen phase | pollFailed phase | broadcasted phase =>
    have looping : process.phase.looping = true := by rw [phase]; rfl
    exact supervised.move rfl rfl cancelled fun _ =>
      ⟨supervised.proxy (.inl looping), fun _ => supervised.accept looping⟩
  | @failed stage error phase =>
    cases stage with
    | _ => exact supervised.move rfl rfl cancelled (by simp [failAt, leave, RunPhase.looping])
  | socketInspected | socketRemoved | removalFailed | socketClosed =>
    exact ⟨supervised.noticed, supervised.proxy, supervised.accept⟩
  | aborted _ follows =>
    rcases follows with ⟨-, rfl⟩ | ⟨-, rfl⟩ | ⟨-, rfl⟩ <;>
      exact supervised.move rfl rfl id (by simp [RunPhase.looping])
  | _ => exact supervised.move rfl rfl id (by simp [enter, leave, gone, RunPhase.looping])

theorem supervised (run : Run Host.step FailsAfterShutdown (Host.start path endpoint) labels host)
    (p : Pid) : (host.processes p).Supervised := by
  refine Host.process_invariant Process.Supervised run ?_ ?_ ?_ p
  · exact ⟨nofun, by simp [Process.unborn, RunPhase.looping], nofun⟩
  · exact ⟨nofun, by simp [Process.started, Process.unborn, RunPhase.looping], nofun⟩
  · intro host p event files process before permitted step
    exact before.step step permitted

/-! ### Whole iterations -/

/-- **No half-alive daemon.** As long as accepting connections fails only after
the root token was cancelled, a daemon in its supervising loop with an uncancelled
token has both tasks running, and the token is cancelled at the end of every
iteration that begins after one of them ended. -/
theorem no_half_alive_daemon
    (first : Run Host.step FailsAfterShutdown (Host.start path endpoint) labels before)
    (second : Run Host.step FailsAfterShutdown before iteration after) :
    (Iterates p before iteration after → (before.processes p).servingEnded = true →
      (after.processes p).cancelled = true) ∧
    ((after.processes p).phase.looping = true → (after.processes p).cancelled = false →
      (after.processes p).accept = .running ∧ (after.processes p).proxy = .running) := by
  constructor
  · intro _ ended
    have cancelled := (supervised first p).noticed ended
    exact Host.cancelled_stays first second cancelled
  · intro looping running
    exact (supervised (first.append second) p).serving looping running

/-- A daemon in its loop. -/
def servingHost : Host :=
  (execute Host.step (Host.start socketPath none) (startupLabels 0 7)).get (by decide)

/-- The daemon sleeps, is told to stop, stops accepting and looks at `cloudflared`. -/
def stoppingLabels : List HostLabel :=
  [.act 0 .proceed, .act 0 .signal, .act 0 (.acceptFails (.io .other "Too many open files")),
    .act 0 (.polled .running)]

/-- The daemon at the end of that iteration. -/
def stoppingHost : Host := (execute Host.step servingHost stoppingLabels).get (by decide)

theorem no_half_alive_daemon_before_shutdown :
    ((servingHost.processes 0).servingEnded = true →
      (stoppingHost.processes 0).cancelled = true) ∧
      (servingHost.processes 0).accept = .running ∧ (servingHost.processes 0).proxy = .running := by
  have first : Run Host.step FailsAfterShutdown (Host.start socketPath none) (startupLabels 0 7)
      servingHost :=
    run_to_executeChecked rfl
  have second : Run Host.step FailsAfterShutdown servingHost stoppingLabels stoppingHost :=
    run_to_executeChecked rfl
  have turn : Iterates 0 servingHost stoppingLabels stoppingHost :=
    ⟨rfl, rfl, .running, by simp [stoppingLabels]⟩
  exact ⟨(no_half_alive_daemon first second).1 turn, (no_half_alive_daemon first .nil).2 rfl rfl⟩

/-- An iteration in which nothing but `cloudflared` is looked at. -/
theorem quiet_iteration (phase : (host.processes p).phase = .supervising)
    (running : (host.processes p).cancelled = false) :
    ∃ after, Run Host.step Unrestricted host [.act p .proceed, .act p (.polled .running)] after ∧
      Iterates p host [.act p .proceed, .act p (.polled .running)] after ∧
      (after.processes p).cancelled = false ∧ after.files = host.files := by
  let polling : Host := { host with
    processes := Function.update host.processes p { host.processes p with phase := .polling } }
  let after : Host := { host with
    processes := Function.update polling.processes p { host.processes p with phase := .supervising } }
  have looked : host.step (.act p .proceed) = some polling := by
    simp [polling, Host.step, Process.step, proceed, phase, running]
  have polled : polling.step (.act p (.polled .running)) = some after := by
    simp [polling, after, Host.step, Process.step]
  have turn : (after.processes p).phase = .supervising := by simp [after]
  have uncancelled : (after.processes p).cancelled = false := by simpa [after] using running
  exact ⟨after, .cons trivial looked (.one trivial polled),
    ⟨phase, turn, .running, by simp⟩, uncancelled, rfl⟩

/-- The other direction: when one of the tasks fails and the token is not cancelled,
the loop may go through a whole iteration, and through any number of them, without
noticing. -/
theorem failure_goes_unnoticed (failing : event.failsToAccept = true)
    (phase : (before.processes p).phase = .supervising)
    (running : (before.processes p).cancelled = false)
    (taken : before.step (.act p event) = some host) :
    (host.processes p).servingEnded = true ∧ ∃ after,
      Run Host.step Unrestricted host [.act p .proceed, .act p (.polled .running)] after ∧
      Iterates p host [.act p .proceed, .act p (.polled .running)] after ∧
      (after.processes p).cancelled = false ∧ after.files = before.files := by
  have ended : (host.processes p).servingEnded = true ∧
      (host.processes p).phase = .supervising ∧ (host.processes p).cancelled = false ∧
      host.files = before.files := by
    cases hostStep_of_step taken with
    | acted done =>
      cases processStep_of_step done with
      | task happened =>
        cases happened with
        | acceptFailed => simp [Process.servingEnded, Task.stopped, phase, running]
        | proxyFailed => simp [Process.servingEnded, Task.stopped, phase, running]
        | _ => cases failing
      | _ => cases failing
  obtain ⟨stopped, looping, uncancelled, files⟩ := ended
  obtain ⟨after, run, turn, quiet, same⟩ := quiet_iteration looping uncancelled
  exact ⟨stopped, after, run, turn, quiet, same.trans files⟩

/-- The accept loop of a daemon ends on an error, and with it the endpoint. -/
def acceptFailureLabels : List HostLabel :=
  [.act 0 (.acceptFails (.io .other "Too many open files (os error 24)")),
    .act 0 (.inspectSocket true), .act 0 (.removeSocket true), .act 0 .closeSocket,
    .act 0 .acceptEnds]

/-- The daemon that nobody can reach any more. -/
def unreachableHost : Host := (execute Host.step servingHost acceptFailureLabels).get (by decide)

/-- A daemon goes on without its endpoint: it holds the lock, and its token is not
cancelled by the end of an iteration that begins after the accept loop ended. -/
theorem daemon_runs_on_without_endpoint :
    ∃ labels before iteration after p,
      Run Host.step Unrestricted (Host.start socketPath none) labels before ∧
      Run Host.step Unrestricted before iteration after ∧ Iterates p before iteration after ∧
      (before.processes p).servingEnded = true ∧ (after.processes p).cancelled = false ∧
      after.files = ⟨none, some p, socketPath⟩ := by
  have started : Run Host.step Unrestricted (Host.start socketPath none) (startupLabels 0 7)
      servingHost := run_to_execute _
  have failed : Run Host.step Unrestricted servingHost acceptFailureLabels unreachableHost :=
    run_to_execute _
  obtain ⟨after, run, turn, running, files⟩ := @quiet_iteration unreachableHost 0 rfl rfl
  exact ⟨_, _, _, after, 0, started.append failed, run, turn, rfl, running, files⟩

end CfFw
