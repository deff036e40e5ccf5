import CfFw.Lifecycle
import CfFw.Transition

/-! What one step of a daemon process can do, read off the step function once.
Arguments about the files, the listener and the tasks of a process are case
analyses of this relation. -/
namespace CfFw

/-- What happens in a task of a process, or through a request to it, with the
process it leaves. -/
inductive TaskEvent (process : Process) : Event → Process → Prop where
  | accepted (running : process.accept = .running) : TaskEvent process .accepted process
  | acceptFailed {error : FwError} (running : process.accept = .running) :
      TaskEvent process (.acceptFails error) { process with accept := .leaving (.error error) }
  | acceptStopped (running : process.accept = .running) (cancelled : process.cancelled = true) :
      TaskEvent process .acceptStops { process with accept := .leaving (.ok ()) }
  | acceptEnded {result : Result Unit} (leaving : process.accept = .leaving result)
      (closed : process.listener = none) :
      TaskEvent process .acceptEnds { process with accept := .ended result }
  | proxyFailed {error : FwError} (running : process.proxy = .running) :
      TaskEvent process (.proxyFails error) { process with proxy := .ended (.error error) }
  | proxyStopped (running : process.proxy = .running) (cancelled : process.cancelled = true) :
      TaskEvent process .proxyStops { process with proxy := .ended (.ok ()) }
  | signalled (running : process.signals = .running) :
      TaskEvent process .signal { process with signals := .ended (.ok ()), cancelled := true }
  | signalsStopped (running : process.signals = .running) (cancelled : process.cancelled = true) :
      TaskEvent process .signalsStop { process with signals := .ended (.ok ()) }
  | idleExpired (running : process.idle = .running) :
      TaskEvent process .idleExpires { process with idle := .ended (.ok ()), cancelled := true }
  | idleStopped (running : process.idle = .running) (cancelled : process.cancelled = true) :
      TaskEvent process .idleStops { process with idle := .ended (.ok ()) }
  | killed (spawned : process.accept ≠ .unspawned) :
      TaskEvent process .killed { process with cancelled := true }

/-- A step of process `p`, with the files and the process it leaves. -/
inductive ProcessStep (p : Pid) (live : Nat → Bool) (files : Files) (process : Process) :
    Event → Files → Process → Prop where
  | acquired (phase : process.phase = .startup .acquire) (free : files.daemonLock = none) :
      ProcessStep p live files process .proceed { files with daemonLock := some p }
        (process.enter .resolve)
  | refused {holder : Pid} (phase : process.phase = .startup .acquire)
      (held : files.daemonLock = some holder) :
      ProcessStep p live files process .proceed files
        { process with phase := .returned (.error .daemonAlreadyRunning) }
  | resolved (phase : process.phase = .startup .resolve) :
      ProcessStep p live files process .proceed files (process.enter .reserve)
  | reserved (phase : process.phase = .startup .reserve) :
      ProcessStep p live files process .proceed files (process.enter .normalize)
  | normalized (phase : process.phase = .startup .normalize) :
      ProcessStep p live files process .proceed files (process.enter .inspect)
  | vacant (phase : process.phase = .startup .inspect) (empty : files.endpoint = none) :
      ProcessStep p live files process .proceed files (process.enter .bind)
  | occupied {inode : Nat} (phase : process.phase = .startup .inspect)
      (found : files.endpoint = some (.socket inode)) :
      ProcessStep p live files process .proceed files (process.enter .probe)
  | foreign (phase : process.phase = .startup .inspect) (found : files.endpoint = some .other) :
      ProcessStep p live files process .proceed files
        (process.leave (.error (endpointNotSocket files.path)))
  | active {inode : Nat} (phase : process.phase = .startup .probe)
      (found : files.endpoint = some (.socket inode)) (answered : live inode = true) :
      ProcessStep p live files process .proceed files
        (process.leave (.error (endpointInUse files.path)))
  | stale (phase : process.phase = .startup .probe) :
      ProcessStep p live files process .proceed files (process.enter .unlink)
  | unlinked (phase : process.phase = .startup .unlink) :
      ProcessStep p live files process .proceed { files with endpoint := none }
        (process.enter .bind)
  | vanished (phase : process.phase = .startup .unlink) (empty : files.endpoint = none) :
      ProcessStep p live files process .proceed files (process.leave (.error noSuchFile))
  | occupiedAgain {file : File} (phase : process.phase = .startup .bind)
      (found : files.endpoint = some file) :
      ProcessStep p live files process .proceed files (process.leave (.error addressInUse))
  | bound {inode : Nat} (phase : process.phase = .startup .bind) (empty : files.endpoint = none)
      (fresh : live inode = false) :
      ProcessStep p live files process (.bind inode)
        { files with endpoint := some (.socket inode) }
        { process.enter .restrict with listener := some ⟨inode, none, .whole⟩ }
  | restricted (phase : process.phase = .startup .restrict) :
      ProcessStep p live files process .proceed files (process.enter .record)
  | lost (phase : process.phase = .startup .record) (empty : files.endpoint = none) :
      ProcessStep p live files process .proceed files (process.leave (.error noSuchFile))
  | replaced (phase : process.phase = .startup .record) (found : files.endpoint = some .other) :
      ProcessStep p live files process .proceed files
        { process with phase := .discarding boundNotSocket }
  | recorded {inode : Nat} (phase : process.phase = .startup .record)
      (found : files.endpoint = some (.socket inode)) :
      ProcessStep p live files process .proceed files
        { process.enter .signals with
          listener := process.listener.map fun listener => { listener with recorded := some inode } }
  | watched (phase : process.phase = .startup .signals) :
      ProcessStep p live files process .proceed files
        { process.enter .spawn with signals := .running, proxy := .running }
  | spawned (phase : process.phase = .startup .spawn) :
      ProcessStep p live files process .proceed files (process.enter .stabilize)
  | stabilized (phase : process.phase = .startup .stabilize) :
      ProcessStep p live files process .proceed files
        { process with phase := .supervising, accept := .running, idle := .running }
  | failed {stage : Stage} {error : FwError} (phase : process.phase = .startup stage)
      (fresh : error.isReported = false) :
      ProcessStep p live files process (.fail error) files (process.failAt error stage)
  | discarded {error : FwError} (phase : process.phase = .discarding error) :
      ProcessStep p live files process .proceed { files with endpoint := none }
        { process.leave (.error error) with
          listener := process.listener.map fun listener => { listener with stage := .spent } }
  | undiscarded {error other : FwError} (phase : process.phase = .discarding error) :
      ProcessStep p live files process (.fail other) files (process.leave (.error error))
  | aborted {left : Abort} {error : FwError} {next : RunPhase}
      (phase : process.phase = .aborting left error)
      (follows : left = .shutdown ∧ next = .aborting .proxy error ∨
        left = .proxy ∧ next = .aborting .signals error ∨
        left = .signals ∧ next = .leaving (.error error)) :
      ProcessStep p live files process .proceed files { process with phase := next }
  | halted (phase : process.phase = .supervising) (cancelled : process.cancelled = true) :
      ProcessStep p live files process .proceed files
        { process with phase := .finishing .shutdown }
  | looked (phase : process.phase = .supervising) (alive : process.cancelled = false) :
      ProcessStep p live files process .proceed files { process with phase := .polling }
  | quiet (phase : process.phase = .polling) :
      ProcessStep p live files process (.polled .running) files
        { process with phase := .supervising }
  | exitSeen {details : String} (phase : process.phase = .polling) :
      ProcessStep p live files process (.polled (.exited details)) files
        { process with phase := .broadcasting details }
  | pollFailed {error : FwError} (phase : process.phase = .polling) :
      ProcessStep p live files process (.polled (.failed error)) files
        { process with phase := .supervising, cancelled := true, fatalError := some error }
  | broadcasted {details : String} (phase : process.phase = .broadcasting details) :
      ProcessStep p live files process .proceed files
        { process with
          phase := .supervising, cancelled := true, fatalError := some (.cloudflaredExited details) }
  | childStopped (phase : process.phase = .finishing .shutdown) :
      ProcessStep p live files process .proceed files
        { process with phase := .finishing .accept }
  | acceptJoined {result : Result Unit} (phase : process.phase = .finishing .accept)
      (ended : process.accept = .ended result) :
      ProcessStep p live files process .proceed files { process with phase := .finishing .idle }
  | joined {left next : Finish} {fatalError : Option FwError}
      (phase : process.phase = .finishing left) (later : left = .idle ∨ left = .signals)
      (follows : next = .signals ∨ next = .proxy) :
      ProcessStep p live files process .proceed files { process with phase := .finishing next, fatalError }
  | finished {result : Result Unit} {fatalError : Option FwError}
      (phase : process.phase = .finishing .proxy) :
      ProcessStep p live files process .proceed files
        { process with phase := .leaving result, fatalError }
  | released {result : Result Unit} (phase : process.phase = .leaving result)
      (closed : process.listener = none) :
      ProcessStep p live files process .proceed (files.release p)
        { process with phase := .returned result }
  | exited {result : Result Unit} (phase : process.phase = .returned result) :
      ProcessStep p live files process .exit files (process.gone (.returned result))
  | crashed : ProcessStep p live files process .crash (files.release p) (process.gone .crashed)
  | socketInspected {listener : Listener} {inode : Nat} {succeeds : Bool} {stage : DropStage}
      (drops : process.dropsListener = true) (held : process.listener = some listener)
      (whole : listener.stage = .whole) (recorded : listener.recorded = some inode)
      (follows : stage = if succeeds ∧ files.endpoint = some (.socket inode) then .doomed else .spent) :
      ProcessStep p live files process (.inspectSocket succeeds) files
        { process with listener := some { listener with stage } }
  | socketRemoved {listener : Listener} (drops : process.dropsListener = true)
      (held : process.listener = some listener) (doomed : listener.stage = .doomed) :
      ProcessStep p live files process (.removeSocket true) { files with endpoint := none }
        { process with listener := some { listener with stage := .spent } }
  | removalFailed {listener : Listener} (drops : process.dropsListener = true)
      (held : process.listener = some listener) (doomed : listener.stage = .doomed) :
      ProcessStep p live files process (.removeSocket false) files
        { process with listener := some { listener with stage := .spent } }
  | socketClosed {listener : Listener} (drops : process.dropsListener = true)
      (held : process.listener = some listener) :
      ProcessStep p live files process .closeSocket files { process with listener := none }
  | task {event : Event} {process' : Process} (happened : TaskEvent process event process') :
      ProcessStep p live files process event files process'

variable {p : Pid} {live : Nat → Bool} {files files' : Files} {process process' : Process}
  {event : Event}

/-! ### The step function -/

private theorem step_of_proceedStage {stage : Stage} (phase : process.phase = .startup stage)
    (taken : proceedStage p live files process stage = some (files', process')) :
    ProcessStep p live files process .proceed files' process' := by
  cases stage with
  | acquire =>
    simp only [proceedStage] at taken
    split at taken
    · cases taken
      exact .refused phase ‹_›
    · cases taken
      exact .acquired phase ‹_›
  | resolve =>
    cases taken
    exact .resolved phase
  | reserve =>
    cases taken
    exact .reserved phase
  | normalize =>
    cases taken
    exact .normalized phase
  | inspect =>
    simp only [proceedStage] at taken
    split at taken
    · cases taken
      exact .vacant phase ‹_›
    · cases taken
      exact .occupied phase ‹_›
    · cases taken
      exact .foreign phase ‹_›
  | probe =>
    simp only [proceedStage] at taken
    split at taken
    · split at taken
      · cases taken
        exact .active phase ‹_› ‹_›
      · cases taken
        exact .stale phase
    · cases taken
      exact .stale phase
  | unlink =>
    simp only [proceedStage] at taken
    split at taken
    · cases taken
      exact .vanished phase ‹_›
    · cases taken
      exact .unlinked phase
  | bind =>
    simp only [proceedStage] at taken
    split at taken
    · cases taken
    · cases taken
      exact .occupiedAgain phase ‹_›
  | restrict =>
    cases taken
    exact .restricted phase
  | record =>
    simp only [proceedStage] at taken
    split at taken
    · cases taken
      exact .lost phase ‹_›
    · cases taken
      exact .replaced phase ‹_›
    · cases taken
      exact .recorded phase ‹_›
  | signals =>
    cases taken
    exact .watched phase
  | spawn =>
    cases taken
    exact .spawned phase
  | stabilize =>
    cases taken
    exact .stabilized phase

private theorem join_eq_some {task : Task} {next : Result Unit → Process}
    (taken : join files task next = some (files', process')) :
    ∃ result, task = .ended result ∧ files' = files ∧ process' = next result := by
  cases task with
  | ended result =>
    cases taken
    exact ⟨result, rfl, rfl, rfl⟩
  | unspawned | running | leaving => cases taken

private theorem step_of_proceed (taken : proceed p live files process = some (files', process')) :
    ProcessStep p live files process .proceed files' process' := by
  unfold proceed at taken
  split at taken
  · exact step_of_proceedStage ‹_› taken
  · cases taken
    exact .discarded ‹_›
  · cases taken
    exact .aborted ‹_› (.inl ⟨rfl, rfl⟩)
  · obtain ⟨result, -, rfl, rfl⟩ := join_eq_some taken
    exact .aborted ‹_› (.inr (.inl ⟨rfl, rfl⟩))
  · obtain ⟨result, -, rfl, rfl⟩ := join_eq_some taken
    exact .aborted ‹_› (.inr (.inr ⟨rfl, rfl⟩))
  · rename_i phase
    split at taken
    · cases taken
      exact .halted phase ‹_›
    · rename_i running
      cases taken
      exact .looked phase (Bool.not_eq_true _ ▸ running)
  · cases taken
    exact .broadcasted ‹_›
  · cases taken
    exact .childStopped ‹_›
  · obtain ⟨result, ended, rfl, rfl⟩ := join_eq_some taken
    exact .acceptJoined ‹_› ended
  · obtain ⟨result, -, rfl, rfl⟩ := join_eq_some taken
    exact .joined ‹_› (.inl rfl) (.inl rfl)
  · obtain ⟨result, -, rfl, rfl⟩ := join_eq_some taken
    cases result with
    | ok => exact .joined ‹_› (.inr rfl) (.inr rfl)
    | error error => exact .joined ‹_› (.inr rfl) (.inr rfl)
  · obtain ⟨result, -, rfl, rfl⟩ := join_eq_some taken
    cases result with
    | ok => exact .finished ‹_›
    | error error => exact .finished ‹_›
  · rename_i phase
    split at taken
    · cases taken
    · cases taken
      exact .released phase ‹_›
  · cases taken

private theorem step_of_drop {listener : Listener} (drops : process.dropsListener = true)
    (held : process.listener = some listener)
    (taken : dropStep files process listener event = some (files', process')) :
    ProcessStep p live files process event files' process' := by
  unfold dropStep at taken
  split at taken
  · split at taken
    · cases taken
      exact .socketInspected drops held ‹_› ‹_› rfl
    · cases taken
  · split at taken
    · rename_i succeeds _ doomed
      cases taken
      cases succeeds with
      | true => exact .socketRemoved drops held doomed
      | false => exact .removalFailed drops held doomed
    · cases taken
  · split at taken
    · cases taken
      exact .socketClosed drops held
    · cases taken
  · cases taken

private theorem taskEvent_of_taskStep (taken : taskStep process event = some process') :
    TaskEvent process event process' := by
  unfold taskStep at taken
  split at taken
  · split at taken
    · cases taken
      exact .accepted ‹_›
    · cases taken
  · split at taken
    · cases taken
      exact .acceptFailed ‹_›
    · cases taken
  · split at taken
    · cases taken
      exact .acceptStopped ‹_› ‹_›
    · cases taken
  · split at taken
    · cases taken
      exact .acceptEnded ‹_› ‹_›
    · cases taken
  · split at taken
    · cases taken
      exact .proxyFailed ‹_›
    · cases taken
  · split at taken
    · cases taken
      exact .proxyStopped ‹_› ‹_›
    · cases taken
  · split at taken
    · cases taken
      exact .signalled ‹_›
    · cases taken
  · split at taken
    · cases taken
      exact .signalsStopped ‹_› ‹_›
    · cases taken
  · split at taken
    · cases taken
      exact .idleExpired ‹_›
    · cases taken
  · split at taken
    · cases taken
      exact .idleStopped ‹_› ‹_›
    · cases taken
  · split at taken
    · cases taken
    · cases taken
      exact .killed ‹_›
  · cases taken

/-- A process that takes a step has been launched and has not ended. -/
def Process.alive (process : Process) : Bool :=
  match process.phase with
  | .unborn | .exited _ => false
  | _ => true

theorem alive_of_step (taken : process.step p live files event = some (files', process')) :
    process.alive = true := by
  cases phase : process.phase with
  | unborn | exited => simp [Process.step, phase] at taken
  | _ => simp [Process.alive, phase]

/-- **Inversion.** Every step of a process is one of the relation. -/
theorem processStep_of_step (taken : process.step p live files event = some (files', process')) :
    ProcessStep p live files process event files' process' := by
  unfold Process.step at taken
  split at taken
  · cases taken
  · cases taken
  · split at taken
    · exact step_of_proceed taken
    · split at taken
      · cases taken
      · rename_i fresh
        split at taken
        · cases taken
          exact .failed ‹_› (Bool.not_eq_true _ ▸ fresh)
        · cases taken
          exact .undiscarded ‹_›
        · cases taken
    · split at taken
      · split at taken
        · cases taken
        · rename_i phase empty busy
          cases taken
          exact .bound phase empty (by simpa using busy)
      · cases taken
    · split at taken
      · cases taken
        exact .quiet ‹_›
      · cases taken
        exact .exitSeen ‹_›
      · cases taken
        exact .pollFailed ‹_›
      · cases taken
    · split at taken
      · exact step_of_drop ‹_› ‹_› taken
      · cases taken
    · split at taken
      · exact step_of_drop ‹_› ‹_› taken
      · cases taken
    · split at taken
      · exact step_of_drop ‹_› ‹_› taken
      · cases taken
    · split at taken
      · cases taken
        exact .exited ‹_›
      · cases taken
    · cases taken
      exact .crashed
    · obtain ⟨after, done, same⟩ := Option.map_eq_some_iff.mp taken
      cases same
      exact .task (taskEvent_of_taskStep done)

/-! ### The machine -/

/-- A step of the machine. -/
inductive HostStep (host : Host) : HostLabel → Host → Prop where
  | launched :
      HostStep host .launch
        { host with
          launched := host.launched + 1
          processes := Function.update host.processes host.launched .started }
  | acted {p : Pid} {event : Event} {files : Files} {process : Process}
      (taken : (host.processes p).step p host.live host.files event = some (files, process)) :
      HostStep host (.act p event)
        { host with files, processes := Function.update host.processes p process }

theorem hostStep_of_step {host after : Host} {label : HostLabel}
    (taken : host.step label = some after) : HostStep host label after := by
  cases label with
  | launch =>
    cases taken
    exact .launched
  | act p event =>
    obtain ⟨⟨files, process⟩, done, same⟩ := Option.map_eq_some_iff.mp taken
    cases same
    exact .acted done

/-- **Invariant rule for processes.** What holds of a process before and right
after its launch, and is kept by each of its allowed steps, holds of every
process in every run. -/
theorem Host.process_invariant {allowed : Host → HostLabel → Prop} {path : String}
    {endpoint : Option File} {labels : List HostLabel} {host : Host} (holds : Process → Prop)
    (run : Transition.Run Host.step allowed (Host.start path endpoint) labels host)
    (unborn : holds .unborn) (started : holds .started)
    (kept : ∀ (host : Host) (p : Pid) (event : Event) (files : Files) (process : Process),
      holds (host.processes p) → allowed host (.act p event) →
      ProcessStep p host.live host.files (host.processes p) event files process → holds process) :
    ∀ p, holds (host.processes p) := by
  refine run.invariant (fun host : Host => ∀ p, holds (host.processes p)) (fun _ => unborn) ?_
  intro before label after all permitted taken p
  cases hostStep_of_step taken with
  | launched =>
    rcases Decidable.em (p = before.launched) with rfl | other
    · simpa using started
    · simpa [other] using all p
  | @acted q event files process done =>
    rcases Decidable.em (p = q) with rfl | other
    · simpa using kept before p event files process (all p) permitted (processStep_of_step done)
    · simpa [other] using all p

/-- Only launched processes exist. -/
def Host.Fresh (host : Host) : Prop := ∀ p, host.launched ≤ p → host.processes p = .unborn

theorem Host.Fresh.step {host after : Host} {label : HostLabel} (fresh : host.Fresh)
    (taken : host.step label = some after) : after.Fresh := by
  cases hostStep_of_step taken with
  | launched =>
    intro p later
    have other : p ≠ host.launched := Nat.ne_of_gt later
    simpa [other] using fresh p (Nat.le_of_succ_le later)
  | @acted q event files process done =>
    intro p later
    have other : p ≠ q := by
      rintro rfl
      have alive := alive_of_step done
      rw [fresh p later] at alive
      cases alive
    simpa [other] using fresh p later

theorem Host.fresh {allowed : Host → HostLabel → Prop} {path : String} {endpoint : Option File}
    {labels : List HostLabel} {host : Host}
    (run : Transition.Run Host.step allowed (Host.start path endpoint) labels host) : host.Fresh :=
  run.invariant Host.Fresh (fun _ _ => rfl) fun _ _ _ fresh _ => fresh.step

theorem Host.Fresh.running {host : Host} (fresh : host.Fresh)
    (born : host.processes p ≠ .unborn) : p < host.launched := by
  by_contra late
  exact born (fresh p (Nat.not_lt.mp late))

/-- **Frame rule.** What holds of a launched process, and is kept by its own step, holds
after every step of the machine. -/
theorem Host.process_stays {host later : Host} {label : HostLabel} (holds : Process → Prop)
    (fresh : host.Fresh) (taken : host.step label = some later) (unborn : ¬ holds .unborn)
    (held : holds (host.processes p))
    (kept : ∀ event files process, label = .act p event →
      (host.processes p).step p host.live host.files event = some (files, process) →
      holds process) : holds (later.processes p) := by
  have born : host.processes p ≠ .unborn := by
    intro same
    rw [same] at held
    exact unborn held
  cases hostStep_of_step taken with
  | launched =>
    have other : p ≠ host.launched := Nat.ne_of_lt (fresh.running born)
    simpa [other] using held
  | @acted q event files process done =>
    rcases Decidable.em (p = q) with rfl | other
    · simpa using kept event files process rfl done
    · simpa [other] using held

/-! ### What a step keeps -/

theorem TaskEvent.phase (happened : TaskEvent process event process') :
    process'.phase = process.phase := by
  cases happened <;> rfl

theorem TaskEvent.listener (happened : TaskEvent process event process') :
    process'.listener = process.listener := by
  cases happened <;> rfl

theorem TaskEvent.cancelled (happened : TaskEvent process event process')
    (cancelled : process.cancelled = true) : process'.cancelled = true := by
  cases happened with
  | signalled | idleExpired | killed => rfl
  | _ => exact cancelled

/-- A cancelled token stays cancelled. -/
theorem ProcessStep.cancelled (step : ProcessStep p live files process event files' process')
    (cancelled : process.cancelled = true) : process'.cancelled = true := by
  cases step with
  | pollFailed | broadcasted => rfl
  | @failed stage error phase =>
    cases stage with
    | spawn | stabilize => rfl
    | _ => exact cancelled
  | task happened => exact happened.cancelled cancelled
  | _ => exact cancelled

/-- A token that is cancelled once is cancelled in every later state. -/
theorem Host.cancelled_stays {allowed : Host → HostLabel → Prop} {path : String}
    {endpoint : Option File} {labels more : List HostLabel} {host after : Host}
    (first : Transition.Run Host.step allowed (Host.start path endpoint) labels host)
    (second : Transition.Run Host.step allowed host more after)
    (cancelled : (host.processes p).cancelled = true) :
    (after.processes p).cancelled = true := by
  have kept : after.Fresh ∧ (after.processes p).cancelled = true := by
    refine second.invariant (fun state : Host => state.Fresh ∧ (state.processes p).cancelled = true)
      ⟨Host.fresh first, cancelled⟩ ?_
    rintro before label later ⟨fresh, cancelled⟩ _ taken
    refine ⟨fresh.step taken, ?_⟩
    apply Host.process_stays (fun process => process.cancelled = true) fresh taken nofun cancelled
    intro event files process _ done
    exact (processStep_of_step done).cancelled cancelled
  exact kept.2

end CfFw
