import CfFw.LifecycleSteps

/-! Who may touch the endpoint of a `RuntimeScope`. A process has a listener only
while it holds the daemon lock, on each path out of `run`, so the holder of the
lock is the only process whose socket can be open and the only one that creates or
removes the file at the endpoint path. -/
namespace CfFw
open Transition

/-- `run` is between `acquire_daemon` and the drop of its guard. -/
def RunPhase.guarded : RunPhase → Bool
  | .startup .acquire => false
  | .startup _ | .discarding _ | .aborting _ _ => true
  | .supervising | .polling | .broadcasting _ | .finishing _ | .leaving _ => true
  | .unborn | .returned _ | .exited _ => false

/-- `run` has not reached the end of `UnixListener::bind`. -/
def RunPhase.unbound : RunPhase → Bool
  | .startup stage =>
    match stage with
    | .acquire | .resolve | .reserve | .normalize | .inspect | .probe | .unlink | .bind => true
    | .restrict | .record | .signals | .spawn | .stabilize => false
  | _ => false

/-- `run` is in the rest of `Listener::bind`. -/
def RunPhase.binding : RunPhase → Bool
  | .startup .restrict | .startup .record | .discarding _ => true
  | _ => false

/-- `run` has not reached its supervising loop. -/
def RunPhase.starting : RunPhase → Bool
  | .startup _ | .discarding _ | .aborting _ _ => true
  | _ => false

/-- `run` has looked at the endpoint path and not bound it yet. -/
def RunPhase.preparing : RunPhase → Bool
  | .startup .probe | .startup .unlink | .startup .bind => true
  | _ => false

/-- What holds between a process and the files of its scope. -/
structure Process.Keeps (p : Pid) (files : Files) (process : Process) : Prop where
  guard : process.phase.guarded = true ↔ files.daemonLock = some p
  closed : process.phase.guarded = false ∨ process.phase.unbound = true → process.listener = none
  onPath : ∀ listener, process.listener = some listener → listener.stage ≠ .spent →
    files.endpoint = some (.socket listener.inode)
  binding : process.phase.binding = true → ∃ listener, process.listener = some listener ∧
    listener.stage = .whole
  free : process.phase = .startup .bind → files.endpoint = none
  socket : process.phase = .startup .probe ∨ process.phase = .startup .unlink →
    ∃ inode, files.endpoint = some (.socket inode)
  accept : process.phase.starting = true → process.accept = .unspawned

variable {live : Nat → Bool} {files files' : Files} {process process' : Process} {event : Event}
  {path : String} {endpoint : Option File} {labels : List HostLabel} {host after : Host} {p q : Pid}
  {allowed : Host → HostLabel → Prop}

/-! ### The files -/

/-- What a step of process `p` can do to the files. -/
inductive FilesStep (p : Pid) (files : Files) (process : Process) : Files → Prop where
  | same : FilesStep p files process files
  | acquired (free : files.daemonLock = none) :
      FilesStep p files process { files with daemonLock := some p }
  | released : FilesStep p files process (files.release p)
  | replaced (guarded : process.phase.guarded = true) (endpoint : Option File) :
      FilesStep p files process { files with endpoint }

theorem Files.release_of_ne (other : files.daemonLock ≠ some p) : files.release p = files := by
  simp [Files.release, other]

theorem Files.release_free (files : Files) (p : Pid) : (files.release p).daemonLock ≠ some p := by
  unfold Files.release
  split
  · nofun
  · assumption

/-! ### The process that takes the step -/

theorem RunPhase.guarded_of_binding {phase : RunPhase} (bound : phase.binding = true) :
    phase.guarded = true := by
  unfold RunPhase.binding at bound
  split at bound
  · rfl
  · rfl
  · rfl
  · cases bound

theorem Process.Keeps.guard_kept {next : RunPhase} (keeps : process.Keeps p files)
    (held : process.phase.guarded = true) (still : next.guarded = true) :
    next.guarded = true ↔ files.daemonLock = some p :=
  ⟨fun _ => keeps.guard.mp held, fun _ => still⟩

theorem Process.Keeps.lock_free (keeps : process.Keeps p files)
    (out : process.phase.guarded = false) : files.daemonLock ≠ some p := by
  intro held
  simp [keeps.guard.mpr held] at out

/-- A process that does not hold the guard owes nothing to the files. -/
theorem Process.Keeps.outside (guarded : process.phase.guarded = false)
    (lock : files.daemonLock ≠ some p) (closed : process.listener = none)
    (accept : process.phase.starting = true → process.accept = .unspawned) :
    process.Keeps p files where
  guard := by simp [guarded, lock]
  closed _ := closed
  onPath listener held := by simp [closed] at held
  binding binding := by simp [RunPhase.guarded_of_binding binding] at guarded
  free phase := by simp [phase, RunPhase.guarded] at guarded
  socket phase := by rcases phase with phase | phase <;> simp [phase, RunPhase.guarded] at guarded
  accept := accept

/-- The moves of `run` that leave the guard, the listener and the files alone. -/
def RunPhase.movesTo (phase next : RunPhase) : Bool :=
  (next.guarded == phase.guarded) && (!next.unbound || phase.unbound) &&
    (!next.binding || phase.binding) && (!next.starting || phase.starting) && !next.preparing

theorem Process.Keeps.move (keeps : process.Keeps p files)
    (moves : process.phase.movesTo process'.phase = true)
    (listener : process'.listener = process.listener)
    (accept : process'.phase.starting = true → process'.accept = process.accept) :
    process'.Keeps p files := by
  simp only [RunPhase.movesTo, Bool.and_eq_true, beq_iff_eq, Bool.or_eq_true,
    Bool.not_eq_true'] at moves
  obtain ⟨⟨⟨⟨guarded, unbound⟩, binding⟩, starting⟩, preparing⟩ := moves
  refine ⟨by rw [guarded, keeps.guard], ?_, by rw [listener]; exact keeps.onPath, ?_, ?_, ?_, ?_⟩
  · rintro (out | early)
    · rw [listener, keeps.closed (.inl (guarded ▸ out))]
    · have before := unbound.resolve_left (by simp [early])
      rw [listener, keeps.closed (.inr before)]
  · intro bound
    rw [listener]
    exact keeps.binding (binding.resolve_left (by simp [bound]))
  · intro phase
    simp [phase, RunPhase.preparing] at preparing
  · rintro (phase | phase) <;> simp [phase, RunPhase.preparing] at preparing
  · intro early
    rw [accept early, keeps.accept (starting.resolve_left (by simp [early]))]

/-- A listener that is being dropped belongs to a process that is past its startup,
or that leaves `run`. -/
theorem Process.Keeps.dropping (keeps : process.Keeps p files)
    (drops : process.dropsListener = true) : process.phase.starting = false := by
  by_contra early
  have unspawned := keeps.accept (Bool.not_eq_false _ ▸ early)
  unfold dropsListener at drops
  split at drops
  · simp_all [RunPhase.starting]
  · simp_all
  · cases drops

/-- A step of the drop of a listener. -/
theorem Process.Keeps.drop (keeps : process.Keeps p files) (drops : process.dropsListener = true)
    {listener : Listener} (held : process.listener = some listener)
    {next : Option Listener} (lock : files'.daemonLock = files.daemonLock)
    (onPath : ∀ listener, next = some listener → listener.stage ≠ .spent →
      files'.endpoint = some (.socket listener.inode)) :
    { process with listener := next }.Keeps p files' := by
  have late := keeps.dropping drops
  have guarded : process.phase.guarded = true := by
    by_contra out
    simp [keeps.closed (.inl (Bool.not_eq_true _ ▸ out))] at held
  refine ⟨by rw [lock]; exact keeps.guard, ?_, onPath, ?_, ?_, ?_, keeps.accept⟩
  · rintro (out | early)
    · simp [show process.phase.guarded = false from out] at guarded
    · simp [keeps.closed (.inr early)] at held
  · intro bound
    simp only [RunPhase.starting] at late
    unfold RunPhase.binding at bound
    split at bound <;> simp_all
  · intro phase
    simp_all [RunPhase.starting]
  · rintro (phase | phase) <;> simp_all [RunPhase.starting]

theorem Process.Keeps.task (keeps : process.Keeps p files)
    (happened : TaskEvent process event process') : process'.Keeps p files := by
  have phase := happened.phase
  have listener := happened.listener
  refine ⟨by rw [phase]; exact keeps.guard, by rw [phase, listener]; exact keeps.closed,
    by rw [listener]; exact keeps.onPath, by rw [phase, listener]; exact keeps.binding,
    by rw [phase]; exact keeps.free, by rw [phase]; exact keeps.socket, ?_⟩
  rw [phase]
  intro early
  have unspawned := keeps.accept early
  cases happened with
  | acceptFailed running | acceptStopped running => simp [running] at unspawned
  | acceptEnded leaving => simp [leaving] at unspawned
  | _ => exact unspawned

/-- A step of `prepare_endpoint`: there is no listener yet. -/
theorem Process.Keeps.prepare (keeps : process.Keeps p files) {stage next : Stage}
    {endpoint : Option File} (phase : process.phase = .startup stage)
    (before : (RunPhase.startup stage).guarded = true ∧ (RunPhase.startup stage).unbound = true)
    (after : (RunPhase.startup next).guarded = true ∧ (RunPhase.startup next).binding = false)
    (free : next = .bind → endpoint = none)
    (socket : next = .probe ∨ next = .unlink → ∃ inode, endpoint = some (.socket inode)) :
    (process.enter next).Keeps p { files with endpoint } := by
  have closed : process.listener = none := keeps.closed (.inr (by rw [phase]; exact before.2))
  refine ⟨keeps.guard_kept (by rw [phase]; exact before.1) after.1, fun _ => closed, ?_, ?_, ?_, ?_,
    fun _ => keeps.accept (by rw [phase]; rfl)⟩
  · intro listener held
    simp [enter, closed] at held
  · intro bound
    simp [show (process.enter next).phase.binding = false from after.2] at bound
  · rintro ⟨⟩
    exact free rfl
  · rintro (⟨⟨⟩⟩ | ⟨⟨⟩⟩)
    · exact socket (.inl rfl)
    · exact socket (.inr rfl)

/-- One step of the process itself. -/
theorem Process.Keeps.step (keeps : process.Keeps p files)
    (step : ProcessStep p live files process event files' process') : process'.Keeps p files' := by
  cases step with
  | acquired phase free =>
    have closed : process.listener = none := keeps.closed (.inl (by rw [phase]; rfl))
    exact ⟨by simp [enter, RunPhase.guarded], fun _ => closed,
      fun listener held => by simp [enter, closed] at held, nofun, nofun, nofun,
      fun _ => keeps.accept (by rw [phase]; rfl)⟩
  | refused phase held =>
    have out : process.phase.guarded = false := by rw [phase]; rfl
    exact .outside rfl (keeps.lock_free out) (keeps.closed (.inl out)) nofun
  | vacant phase empty => exact keeps.prepare phase ⟨rfl, rfl⟩ ⟨rfl, rfl⟩ (fun _ => empty) nofun
  | occupied phase found =>
    exact keeps.prepare phase ⟨rfl, rfl⟩ ⟨rfl, rfl⟩ nofun fun _ => ⟨_, found⟩
  | stale phase =>
    exact keeps.prepare phase ⟨rfl, rfl⟩ ⟨rfl, rfl⟩ nofun fun _ => keeps.socket (.inl phase)
  | unlinked phase => exact keeps.prepare phase ⟨rfl, rfl⟩ ⟨rfl, rfl⟩ (fun _ => rfl) nofun
  | bound phase empty =>
    refine ⟨keeps.guard_kept (by rw [phase]; rfl) rfl, nofun, ?_, fun _ => ⟨_, rfl, rfl⟩, nofun,
      nofun, fun _ => keeps.accept (by rw [phase]; rfl)⟩
    rintro listener held -
    cases held
    rfl
  | @recorded inode phase found =>
    refine ⟨keeps.guard_kept (by rw [phase]; rfl) rfl, nofun, ?_, nofun, nofun, nofun,
      fun _ => keeps.accept (by rw [phase]; rfl)⟩
    intro listener held kept
    obtain ⟨before, old, rfl⟩ := Option.map_eq_some_iff.mp held
    exact keeps.onPath before old kept
  | @failed stage error phase =>
    cases stage with
    | acquire =>
      have out : process.phase.guarded = false := by rw [phase]; rfl
      exact .outside rfl (keeps.lock_free out) (keeps.closed (.inl out)) nofun
    | _ => exact keeps.move (by rw [phase]; rfl) rfl fun _ => rfl
  | @discarded error phase =>
    refine ⟨keeps.guard_kept (by rw [phase]; rfl) rfl, nofun, ?_, nofun, nofun, nofun, nofun⟩
    intro listener held kept
    obtain ⟨before, -, rfl⟩ := Option.map_eq_some_iff.mp held
    exact absurd rfl kept
  | aborted phase follows =>
    rcases follows with ⟨-, rfl⟩ | ⟨-, rfl⟩ | ⟨-, rfl⟩ <;>
      exact keeps.move (by rw [phase]; rfl) rfl fun _ => rfl
  | released phase closed => exact .outside rfl (files.release_free p) closed nofun
  | exited phase =>
    have out : process.phase.guarded = false := by rw [phase]; rfl
    exact .outside rfl (keeps.lock_free out) rfl nofun
  | crashed => exact .outside rfl (files.release_free p) rfl nofun
  | @socketInspected listener inode succeeds stage drops held whole =>
    refine keeps.drop drops held rfl ?_
    rintro _ ⟨⟩ -
    exact keeps.onPath listener held (by rw [whole]; nofun)
  | socketRemoved drops held =>
    refine keeps.drop drops held rfl ?_
    rintro _ ⟨⟩ kept
    exact absurd rfl kept
  | removalFailed drops held =>
    refine keeps.drop drops held rfl ?_
    rintro _ ⟨⟩ kept
    exact absurd rfl kept
  | socketClosed drops held => exact keeps.drop drops held rfl nofun
  | task happened => exact keeps.task happened
  | stabilized phase => exact keeps.move (by rw [phase]; rfl) rfl nofun
  | joined phase later follows =>
    rcases later with rfl | rfl <;> rcases follows with rfl | rfl <;>
      exact keeps.move (by rw [phase]; rfl) rfl fun _ => rfl
  | resolved phase | reserved phase | normalized phase | foreign phase | active phase
  | vanished phase | occupiedAgain phase | restricted phase | lost phase | replaced phase
  | watched phase | spawned phase | undiscarded phase | halted phase | looked phase | quiet phase
  | exitSeen phase | pollFailed phase | broadcasted phase | childStopped phase
  | acceptJoined phase | finished phase =>
    exact keeps.move (by rw [phase]; rfl) rfl fun _ => rfl

/-! ### The other processes -/

/-- Only the holder of the guard changes the file at the endpoint path. -/
theorem Process.Keeps.changes (keeps : process.Keeps p files)
    (step : ProcessStep p live files process event files' process') :
    FilesStep p files process files' := by
  cases step with
  | acquired _ free => exact .acquired free
  | unlinked phase => exact .replaced (by rw [phase]; rfl) none
  | @bound inode phase => exact .replaced (by rw [phase]; rfl) (some (.socket inode))
  | discarded phase => exact .replaced (by rw [phase]; rfl) none
  | released => exact .released
  | crashed => exact .released
  | socketRemoved drops held =>
    refine .replaced ?_ none
    by_contra out
    simp [keeps.closed (.inl (Bool.not_eq_true _ ▸ out))] at held
  | _ => exact .same

theorem Process.Keeps.frame (keeps : process.Keeps p files)
    (lock : files'.daemonLock = some p ↔ files.daemonLock = some p)
    (endpoint : files'.endpoint = files.endpoint) : process.Keeps p files' := by
  obtain ⟨guard, closed, onPath, binding, free, socket, accept⟩ := keeps
  refine ⟨guard.trans lock.symm, closed, ?_, binding, ?_, ?_, accept⟩ <;> rwa [endpoint]

theorem Process.Keeps.other (keeps : process.Keeps q files) {mover : Process}
    (change : FilesStep p files mover files') (mine : mover.Keeps p files) (other : p ≠ q) :
    process.Keeps q files' := by
  cases change with
  | same => exact keeps
  | acquired free => exact keeps.frame (by simp [free, other]) rfl
  | released =>
    refine keeps.frame ?_ rfl
    by_cases held : files.daemonLock = some p
    · simp [Files.release, held, other]
    · rw [Files.release_of_ne held]
  | replaced guarded =>
    have lock : files.daemonLock = some p := mine.guard.mp guarded
    have free : files.daemonLock ≠ some q := by simp [lock, other]
    have out : process.phase.guarded = false := by
      by_contra held
      exact free (keeps.guard.mp (Bool.not_eq_false _ ▸ held))
    exact .outside out free (keeps.closed (.inl out)) keeps.accept

/-- Every process of a run keeps its relation to the files. -/
theorem Host.keeps (run : Run Host.step allowed (Host.start path endpoint) labels host) :
    ∀ p, (host.processes p).Keeps p host.files := by
  have kept : host.Fresh ∧ ∀ p, (host.processes p).Keeps p host.files := by
    refine run.invariant (fun host : Host => host.Fresh ∧ ∀ p, (host.processes p).Keeps p host.files)
      ⟨fun _ _ => rfl, fun p => .outside rfl nofun rfl nofun⟩ ?_
    rintro before label after ⟨fresh, all⟩ _ taken
    refine ⟨fresh.step taken, fun p => ?_⟩
    cases hostStep_of_step taken with
    | launched =>
      rcases Decidable.em (p = before.launched) with rfl | other
      · have lock := (all before.launched).guard
        rw [fresh _ le_rfl] at lock
        have started : Process.started.Keeps before.launched before.files :=
          .outside rfl (fun held => nomatch lock.mpr held) rfl fun _ => rfl
        simpa using started
      · simpa [other] using all p
    | @acted q event files process done =>
      have step := processStep_of_step done
      rcases Decidable.em (p = q) with rfl | other
      · simpa using (all p).step step
      · simpa [other] using (all p).other ((all q).changes step) (all q) (Ne.symm other)
  exact kept.2

/-! ### One daemon -/

/-- The process has the socket open, so connects to it are answered. -/
def Process.listens (process : Process) (inode : Nat) : Bool :=
  process.listener.any fun listener => listener.inode = inode

theorem Process.Keeps.guarded_of_listens (keeps : process.Keeps p files) {inode : Nat}
    (listens : process.listens inode = true) : process.phase.guarded = true := by
  by_contra out
  simp [Process.listens, keeps.closed (.inl (Bool.not_eq_true _ ▸ out))] at listens

/-- **One holder.** At most one process is past `acquire_daemon` and before the
drop of its guard. -/
theorem Host.one_guarded (keeps : ∀ p, (host.processes p).Keeps p host.files)
    (first : (host.processes p).phase.guarded = true)
    (second : (host.processes q).phase.guarded = true) : p = q :=
  Option.some.inj (((keeps p).guard.mp first).symm.trans ((keeps q).guard.mp second))

/-- A socket that answers belongs to the holder of the guard. -/
theorem Host.guarded_of_live (keeps : ∀ p, (host.processes p).Keeps p host.files) {inode : Nat}
    (live : host.live inode = true) :
    ∃ p < host.launched, (host.processes p).phase.guarded = true ∧
      (host.processes p).listens inode = true := by
  obtain ⟨p, launched, listens⟩ := List.any_eq_true.mp live
  exact ⟨p, List.mem_range.mp launched, (keeps p).guarded_of_listens listens, listens⟩

/-- Before its own bind, the holder of the guard finds no socket that answers. -/
theorem Host.silent (keeps : ∀ p, (host.processes p).Keeps p host.files)
    (guarded : (host.processes p).phase.guarded = true)
    (unbound : (host.processes p).phase.unbound = true) (inode : Nat) :
    host.live inode = false := by
  by_contra answered
  obtain ⟨q, -, holds, listens⟩ := Host.guarded_of_live keeps (Bool.not_eq_false _ ▸ answered)
  cases Host.one_guarded keeps guarded holds
  simp [Process.listens, (keeps p).closed (.inr unbound)] at listens

/-- A step of process `p` is possible and leads to this phase. -/
def Host.Advances (host : Host) (p : Pid) (event : Event) (next : RunPhase) : Prop :=
  ∃ after, host.step (.act p event) = some after ∧ (after.processes p).phase = next

/-- Nothing at the endpoint path but a foreign file keeps process `p` from binding
it: a socket there is probed, found silent and removed, and then the path is free. -/
structure Host.Recovers (host : Host) (p : Pid) : Prop where
  inspect : ∀ inode, (host.processes p).phase = .startup .inspect →
    host.files.endpoint = some (.socket inode) → host.Advances p .proceed (.startup .probe)
  probe : (host.processes p).phase = .startup .probe →
    host.Advances p .proceed (.startup .unlink)
  unlink : (host.processes p).phase = .startup .unlink → host.Advances p .proceed (.startup .bind)
  bind : (host.processes p).phase = .startup .bind → host.step (.act p .proceed) = none ∧
    ∀ inode, host.live inode = false → host.Advances p (.bind inode) (.startup .restrict)

theorem Host.recovers (keeps : ∀ p, (host.processes p).Keeps p host.files) (p : Pid) :
    host.Recovers p where
  inspect inode phase found :=
    ⟨_, by simp [Host.step, Process.step, phase, proceed, proceedStage, found]; rfl, by simp; rfl⟩
  probe phase := by
    obtain ⟨inode, found⟩ := (keeps p).socket (.inl phase)
    have silent := Host.silent keeps (by rw [phase]; rfl) (by rw [phase]; rfl) inode
    exact ⟨_, by simp [Host.step, Process.step, phase, proceed, proceedStage, found, silent]; rfl,
      by simp; rfl⟩
  unlink phase := by
    obtain ⟨inode, found⟩ := (keeps p).socket (.inr phase)
    exact ⟨_, by simp [Host.step, Process.step, phase, proceed, proceedStage, found]; rfl,
      by simp; rfl⟩
  bind phase := by
    have free := (keeps p).free phase
    constructor
    · simp [Host.step, Process.step, phase, proceed, proceedStage, free]
    · intro inode silent
      exact ⟨_, by simp [Host.step, Process.step, phase, free, silent]; rfl, by simp; rfl⟩

/-- A step that changes what is at the endpoint path is taken by the holder of the
guard, and no other process listens anywhere. -/
theorem Host.others_silent (keeps : ∀ p, (host.processes p).Keeps p host.files) {event : Event}
    (taken : host.step (.act p event) = some after)
    (changed : after.files.endpoint ≠ host.files.endpoint) (inode : Nat) (other : q ≠ p) :
    (host.processes q).listens inode = false := by
  cases hostStep_of_step taken with
  | acted done =>
    by_contra listening
    have holds := (keeps q).guarded_of_listens (Bool.not_eq_false _ ▸ listening)
    cases (keeps p).changes (processStep_of_step done) with
    | same => exact changed rfl
    | acquired => exact changed rfl
    | released => exact changed rfl
    | replaced guarded => exact other (Host.one_guarded keeps holds guarded)

/-- **One daemon per scope.** In every run of any number of daemon processes, with
failures and crashes anywhere: at most one is between `acquire_daemon` and the drop
of its guard; a step that removes a socket file is never taken while another process
listens on that socket; and no socket left behind keeps the next daemon from binding. -/
theorem one_daemon_per_scope
    (run : Run Host.step Unrestricted (Host.start path endpoint) labels host) :
    (∀ p q, (host.processes p).phase.guarded = true → (host.processes q).phase.guarded = true →
      p = q) ∧
    (∀ p event after inode, host.step (.act p event) = some after →
      host.files.endpoint = some (.socket inode) → after.files.endpoint ≠ some (.socket inode) →
      ∀ q, q ≠ p → (host.processes q).listens inode = false) ∧
    ∀ p, host.Recovers p := by
  have keeps := Host.keeps run
  refine ⟨fun p q => Host.one_guarded keeps, ?_, Host.recovers keeps⟩
  intro p event after inode taken found removed q other
  exact Host.others_silent keeps taken (by rwa [found]) inode other

/-- A daemon crashes in its loop and leaves its socket behind; the next one has come
as far as the endpoint path. -/
def crashLabels : List HostLabel :=
  startupLabels 0 7 ++ [.act 0 .crash, .launch] ++ List.replicate 4 (.act 1 .proceed)

/-- The machine at that point. -/
def crashedHost : Host :=
  (execute Host.step (Host.start socketPath none) crashLabels).get (by decide)

theorem one_daemon_per_scope_after_crash :
    crashedHost.files = ⟨some (.socket 7), some 1, socketPath⟩ ∧
      crashedHost.Advances 1 .proceed (.startup .probe) := by
  have run : Run Host.step Unrestricted (Host.start socketPath none) crashLabels crashedHost :=
    run_to_execute _
  exact ⟨rfl, ((one_daemon_per_scope run).2.2 1).inspect 7 rfl rfl⟩

/-- A daemon holds its guard. -/
def holdingHost : Host :=
  (execute Host.step (Host.start socketPath none) [.launch, .act 0 .proceed]).get (by decide)

/-- It cannot resolve its paths and returns from `run`, and another one takes the
guard before the first process has ended. -/
def handoverLabels : List HostLabel :=
  [.act 0 (.fail .invalidExecutableDirectory), .act 0 .proceed, .launch, .act 1 .proceed]

/-- Two processes have acquired the guard, and neither has exited. -/
theorem guard_is_free_before_exit :
    ∃ labels first more second result,
      Run Host.step Unrestricted (Host.start socketPath none) labels first ∧
      first.files.daemonLock = some 0 ∧
      Run Host.step Unrestricted first more second ∧ second.files.daemonLock = some 1 ∧
      (second.processes 0).phase = .returned result := by
  have acquired : Run Host.step Unrestricted (Host.start socketPath none) [.launch, .act 0 .proceed]
      holdingHost := run_to_execute _
  have handover := @run_to_execute _ _ Host.step holdingHost handoverLabels (by decide)
  exact ⟨_, _, _, _, _, acquired, rfl, handover, rfl, rfl⟩

end CfFw
